import MacProvider.Coordinator.Payout.Addresses
import MacProvider.Coordinator.Payout.Attempts

/-! # The transactions of the payout system

The transactions of one wallet: the allocation of a transfer (`internal/payout/runner.go`), the
abandon of an attempt with its cancel (`ServeAbandon`), the nonce cursor and the lease. One that
fails writes nothing; see `Allocates` and `Abandons`. -/

namespace MacProvider.Coordinator.Payout.Database

open MacProvider.Gateway Gateway.Time Lib.Tables Lib.Rlp Billing.Schema Evm.Codec Evm.Transaction
open Evm.Signing Evm.Transfers Payout.Addresses Payout.Attempts

/-- With what its validation asks of the caps. -/
structure Config where
  service : Service
  perPayoutCap : ℤ
  perDayCap : ℤ
  runInterval : ℕ
  maxRowsPerRun : ℕ
  confirmationBlocks : ℤ
  /-- How many rounds fit into the time a receipt is polled for. -/
  maxPolls : ℕ
  cancelMaxGas : ℤ
  cancelMaxGasPer24h : ℤ
  perPayoutCap_pos : 0 < perPayoutCap
  perPayoutCap_le : perPayoutCap ≤ perDayCap

/-- `payout_runner_lease`; a token is a process. -/
structure Lease where
  holder : ℕ
  heartbeat : Instant

/-- The tables. -/
structure Db where
  attempts : AttemptTable
  /-- `next_nonce` of the wallet. -/
  nextNonce : Option ℤ
  lease : Option Lease
  ledger : Ledger
  registry : Registry

/-- The process that holds the lease. -/
def Db.holder (db : Db) : Option ℕ := db.lease.map Lease.holder

/-- Envelope and hash for unsigned bytes. -/
abbrev Signer := Bytes → Option (Bytes × String)

/-! ### The lease -/

/-- Confirmed within three intervals. -/
def Lease.fresh (cfg : Config) (now : Instant) (l : Lease) : Bool :=
  decide (now < l.heartbeat + 3 * cfg.runInterval)

/-- `Acquire`; `none` is `ErrLeaseConflict`. -/
def acquire (cfg : Config) (i : ℕ) (now : Instant) (db : Db) : Option Db :=
  if db.lease.any (Lease.fresh cfg now) then none
  else some { db with lease := some ⟨i, now⟩ }

variable {db db' : Db} {cfg : Config} {now t₀ t₁ t₂ : Instant} {i : ℕ} {amount : ℤ}
  {signer : Signer}

theorem acquire_some (h : acquire cfg i now db = some db') :
    db' = { db with lease := some ⟨i, now⟩ } := by
  unfold acquire at h
  split at h
  · cases h
  · exact (Option.some.inj h).symm

/-- The holder confirms its lease. -/
def heartbeat (i : ℕ) (now : Instant) (db : Db) : Db :=
  { db with lease := db.lease.map fun l => if l.holder = i then ⟨i, now⟩ else l }

/-- The holder gives its lease back. -/
def release (i : ℕ) (db : Db) : Db :=
  { db with lease := db.lease.filter fun l => l.holder != i }

/-- The larger count; they may differ by one. -/
def coldStartNonceSync (a b : UInt64) : Option UInt64 :=
  let diff := wrap64 (toInt a - toInt b)
  let diff := if diff < 0 then wrap64 (-diff) else diff
  if 1 < diff then none else some (if a < b then b else a)

/-- Overwritten; negative values fail. -/
def upsertNonceCursor (nextNonce : UInt64) (db : Db) : Option Db :=
  if toInt nextNonce < 0 then none else some { db with nextNonce := some (toInt nextNonce) }

theorem upsertNonceCursor_some {n : UInt64} (h : upsertNonceCursor n db = some db') :
    0 ≤ toInt n ∧ db' = { db with nextNonce := some (toInt n) } := by
  unfold upsertNonceCursor at h
  split at h
  · cases h
  · next hneg => exact ⟨not_lt.mp hneg, (Option.some.inj h).symm⟩

/-! ### Allocation -/

/-- How a row ends. -/
inductive RowOutcome
  | paid | capped | dailyCapTripped | insufficientFunds | failed | skipped

/-- `ErrLeaseLost`, or the end of the row. -/
inductive RowErr
  | leaseLost | other

/-- An outcome or an error. -/
abbrev RowEnd := Except RowErr RowOutcome

/-- The checks, on three readings of the clock. -/
def checkAllocation (cfg : Config) (i payoutID : ℕ) (amount : ℤ) (balance : Option ℤ)
    (t₀ t₁ : Instant) (db : Db) : Except RowEnd Unit :=
  if db.holder ≠ some i then .error (.error .leaseLost)
  else if 0 < db.attempts.countStaleUnbroadcast (t₀ - hours 24) then .error (.error .other)
  else match db.attempts.sumAmountWindow (t₁ - hours 24) with
  | none => .error (.error .other)
  | some committedSum =>
    if cfg.perDayCap < wrap64 (committedSum + amount) then .error (.ok .dailyCapTripped)
    else if balance.any (· < amount) then .error (.ok .insufficientFunds)
    else match db.ledger.payouts.find? payoutID with
    | none => .error (.error .other)
    | some p => if amount = p.providerCredits then .ok () else .error (.error .other)

/-- The signed transfer that passes the checks. -/
def signTransfer (cfg : Config) (signer : Signer) (nonce : ℤ) (address : String) (amount : ℤ) :
    Option (Bytes × String) :=
  match buildEIP1559 cfg.service.crypto nonce address amount with
  | .error _ => none
  | .ok tx =>
    match (unsignedRLP tx).toOption.bind signer with
    | none => none
    | some (raw, txHash) =>
      match
        verifySignedTx cfg.service.crypto cfg.service.hotWallet tx raw txHash amount address with
      | .error _ => none
      | .ok () => some (raw, txHash)

/-- What is kept of the attempt. -/
structure Allocated where
  attemptSeq : ℕ
  nonce : ℤ
  raw : Bytes
  txHash : String
  now : Instant

/-- Its row. -/
def Allocated.row (r : Allocated) (payoutID : ℕ) (address : String) (amount : ℤ) : Attempt :=
  (AttemptTable.freshTransfer payoutID r.attemptSeq address amount r.nonce r.now).set
    (AttemptTable.signed r.raw r.txHash r.now)

/-- The transaction of `allocateBuildSignBroadcast`. A cursor beyond `int64` is not read. -/
def allocateTx (cfg : Config) (i payoutID : ℕ) (address : String) (amount : ℤ)
    (balance : Option ℤ) (signer : Signer) (t₀ t₁ t₂ : Instant) (db : Db) :
    Except RowEnd (Allocated × Db) :=
  match checkAllocation cfg i payoutID amount balance t₀ t₁ db, db.nextNonce with
  | .error e, _ => .error e
  | .ok (), none => .error (.error .other)
  | .ok (), some nonce =>
    let attemptSeq := db.attempts.nextAttemptSeq payoutID
    if maxInt64 < nonce then .error (.error .other)
    else match db.attempts.insert
        (AttemptTable.freshTransfer payoutID attemptSeq address amount nonce t₂) with
    | none => .error (.error .other)
    | some s =>
      match signTransfer cfg signer nonce address amount with
      | none => .error (.error .other)
      | some (raw, txHash) =>
        let (s', n) := s.casPersistSignedTx payoutID attemptSeq raw txHash t₂
        if n = 1 then
          .ok (⟨attemptSeq, nonce, raw, txHash, t₂⟩,
            { db with attempts := s', nextNonce := some (nonce + 1) })
        else .error (.error .other)

/-- What a committed allocation found and wrote. -/
structure Allocates (cfg : Config) (i payoutID : ℕ) (address : String) (amount : ℤ)
    (t₁ : Instant) (db : Db) (r : Allocated) (db' : Db) : Prop where
  holder : db.holder = some i
  window : ∃ sum, db.attempts.sumAmountWindow (t₁ - hours 24) = some sum ∧
    wrap64 (sum + amount) ≤ cfg.perDayCap
  owed : ∃ p, db.ledger.payouts.find? payoutID = some p ∧ amount = p.providerCredits
  nonce : db.nextNonce = some r.nonce
  attemptSeq : r.attemptSeq = db.attempts.nextAttemptSeq payoutID
  txNonce : txNonce r.raw = some (UInt64.ofInt r.nonce)
  calldata : hasCalldata r.raw = true
  rows : db'.attempts.rows = db.attempts.rows ++ [r.row payoutID address amount]
  cursor : db'.nextNonce = some (r.nonce + 1)
  lease : db'.lease = db.lease
  ledger : db'.ledger = db.ledger
  registry : db'.registry = db.registry

variable {a : Attempt} {pid : ℕ} {balance : Option ℤ} {nonce : ℤ} {address txHash : String}
  {raw : Bytes}

theorem Allocates.mem_rows {r : Allocated} {db' : Db}
    (h : Allocates cfg i pid address amount t₁ db r db') (ha : a ∈ db'.attempts.rows) :
    a ∈ db.attempts.rows ∨ a = r.row pid address amount := by
  rw [h.rows, List.mem_append, List.mem_singleton] at ha
  exact ha

theorem checkAllocation_ok
    (h : checkAllocation cfg i pid amount balance t₀ t₁ db = .ok ()) : db.holder = some i ∧
      (∃ sum, db.attempts.sumAmountWindow (t₁ - hours 24) = some sum ∧
        wrap64 (sum + amount) ≤ cfg.perDayCap) ∧
      ∃ p, db.ledger.payouts.find? pid = some p ∧ amount = p.providerCredits := by
  unfold checkAllocation at h
  split at h
  · cases h
  rename_i hholder
  split at h
  · cases h
  split at h
  · cases h
  rename_i sum hsum
  split at h
  · cases h
  rename_i hcap
  split at h
  · cases h
  split at h
  · cases h
  rename_i p hp
  split_ifs at h with hamount
  exact ⟨not_not.mp hholder, ⟨sum, hsum, not_lt.mp hcap⟩, p, hp, hamount⟩

theorem signTransfer_some
    (h : signTransfer cfg signer nonce address amount = some (raw, txHash)) :
    txNonce raw = some (UInt64.ofInt nonce) ∧ hasCalldata raw = true := by
  unfold signTransfer at h
  split at h
  · cases h
  rename_i tx htx
  split at h
  · cases h
  split at h
  · cases h
  rename_i hverify
  cases h
  exact verifySignedTx_ok htx hverify

/-- **A committed allocation** adds one signed transfer. -/
theorem allocateTx_ok {r : Allocated}
    (h : allocateTx cfg i pid address amount balance signer t₀ t₁ t₂ db = .ok (r, db')) :
    Allocates cfg i pid address amount t₁ db r db' := by
  unfold allocateTx at h
  split at h
  · cases h
  · cases h
  rename_i nonce hcheck hnonce
  obtain ⟨hholder, hwindow, howed⟩ := checkAllocation_ok hcheck
  dsimp only at h
  split_ifs at h with hrange
  split at h
  · cases h
  rename_i s hs
  split at h
  · cases h
  rename_i raw txHash hsign
  split_ifs at h with hn
  cases h
  obtain ⟨htx, hdata⟩ := signTransfer_some hsign
  refine ⟨hholder, hwindow, howed, hnonce, rfl, htx, hdata, ?_, rfl, rfl, rfl, rfl⟩
  refine AttemptTable.rows_casPersist_insert hs raw txHash t₂ ?_
  unfold AttemptTable.signable
  rw [AttemptTable.atKey_iff.mpr rfl]
  rfl

/-! ### Abandon -/

/-- With the tip and gas estimate of the handler. -/
structure AbandonRequest where
  payoutID : ℕ
  attemptSeq : ℕ
  confirm : Bool
  reason : String
  broadcastCancelSelfTransfer : Bool
  tip : ℤ
  gasEstimate : ℤ
  idempotencyKey : String

/-- No field is missing. -/
def AbandonRequest.complete (req : AbandonRequest) : Bool :=
  req.payoutID != 0 && req.attemptSeq != 0 && req.confirm && trimSpace req.reason != "" &&
    req.idempotencyKey != ""

/-- The signed cancel that passes the checks. -/
def signCancel (cfg : Config) (signer : Signer) (nonce tip : ℤ) : Option (Bytes × String) :=
  match buildCancelTx cfg.service.crypto cfg.service.hotWallet nonce tip with
  | .error _ => none
  | .ok tx =>
    match (unsignedRLP tx).toOption.bind signer with
    | none => none
    | some (raw, txHash) =>
      match verifyCancelEnvelope cfg.service.crypto cfg.service.hotWallet tx raw txHash with
      | .error _ => none
      | .ok () => some (raw, txHash)

/-- What is kept of a stored cancel. -/
structure Cancel where
  attemptSeq : ℕ
  raw : Bytes
  txHash : String
  now : Instant

variable {req : AbandonRequest} {c : Cancel}

/-- Its row. -/
def Cancel.row (cfg : Config) (req : AbandonRequest) (nonce : ℤ) (c : Cancel) : Attempt :=
  { payoutID := req.payoutID, attemptSeq := c.attemptSeq,
    toAddress := cfg.service.hotWallet.toLower, amount := 1, nonce, isCancel := true,
    gasReserved := some req.gasEstimate,
    progress := { rawSignedTx := some c.raw, txHash := some c.txHash, updatedAt := c.now } }

/-- Why no row was marked. -/
def notAbandoned (req : AbandonRequest) (db : Db) : Reply :=
  match db.attempts.table.find? (req.payoutID, req.attemptSeq) with
  | none => ⟨404, "not_found"⟩
  | some a =>
    if a.progress.confirmedAt.isSome then ⟨409, "already_confirmed"⟩
    else if a.progress.abandonedAt.isSome then ⟨409, "already_abandoned"⟩
    else ⟨500, "internal_error"⟩

/-- The cancel of a row that has been marked. -/
def insertCancel (cfg : Config) (req : AbandonRequest) (signer : Signer) (now : Instant)
    (s : AttemptTable) : Option (Cancel × AttemptTable) :=
  match s.table.find? (req.payoutID, req.attemptSeq) with
  | none => none
  | some a =>
    match signCancel cfg signer a.nonce req.tip with
    | none => none
    | some (raw, txHash) =>
      let c : Cancel := ⟨s.nextAttemptSeq req.payoutID, raw, txHash, now⟩
      (s.insert (c.row cfg req a.nonce)).map fun s' => (c, s')

/-- The transaction of `ServeAbandon`. -/
def abandonTx (cfg : Config) (req : AbandonRequest) (signer : Signer) (t₀ t₁ t₂ : Instant)
    (db : Db) : Except Reply (Option Cancel × Db) :=
  if db.lease.any (Lease.fresh cfg t₀) then .error ⟨409, "runner_active"⟩
  else if cfg.cancelMaxGasPer24h <
      wrap64 (db.attempts.sumCancelGas (t₁ - hours 24) + req.gasEstimate) then
    .error ⟨422, "cancel_gas_exceeds_24h_aggregate"⟩
  else
    let (s, n) := db.attempts.abandonAttempt req.payoutID req.attemptSeq req.reason t₂
    if n = 0 then .error (notAbandoned req db)
    else if req.broadcastCancelSelfTransfer then
      match insertCancel cfg req signer t₂ s with
      | none => .error ⟨500, "internal_error"⟩
      | some (c, s') => .ok (some c, { db with attempts := s' })
    else .ok (none, { db with attempts := s })

/-- The row behind the marker. -/
def abandonRow (req : AbandonRequest) (now : Instant) (a : Attempt) : Attempt :=
  if AttemptTable.unsettled req.payoutID req.attemptSeq a then
    a.set (AttemptTable.abandoned req.reason now)
  else a

theorem abandonRow_sameTx (req : AbandonRequest) (now : Instant) (a : Attempt) :
    AttemptTable.SameTx (abandonRow req now a) a := by
  unfold abandonRow
  split_ifs
  · exact ⟨rfl, rfl, rfl, rfl, rfl, rfl, rfl⟩
  · exact AttemptTable.SameTx.refl a

theorem abandonRow_of_live (h : (abandonRow req now a).live = true) : abandonRow req now a = a := by
  unfold abandonRow at h ⊢
  split_ifs at h ⊢ with hun
  · cases h
  · rfl

/-- A cancel that was stored for the row `a`. -/
structure Cancels (a c : Attempt) : Prop where
  payoutID : c.payoutID = a.payoutID
  nonce : c.nonce = a.nonce
  isCancel : c.isCancel = true
  live : c.live = true
  unconfirmed : c.progress.confirmedAt = none
  raw : ∃ raw, c.progress.rawSignedTx = some raw ∧
    txNonce raw = some (UInt64.ofInt a.nonce) ∧ hasCalldata raw = false

/-- What a committed abandon found and wrote. -/
structure Abandons (req : AbandonRequest) (now : Instant) (db db' : Db) : Prop where
  row : ∃ a ∈ db.attempts.rows, AttemptTable.unsettled req.payoutID req.attemptSeq a = true ∧
    ∃ cs, db'.attempts.rows = db.attempts.rows.map (abandonRow req now) ++ cs ∧
      (∀ c ∈ cs, Cancels a c) ∧ (req.broadcastCancelSelfTransfer = true → cs ≠ [])
  cursor : db'.nextNonce = db.nextNonce
  lease : db'.lease = db.lease
  ledger : db'.ledger = db.ledger
  registry : db'.registry = db.registry

theorem mem_abandoned {rows rows' cs : List Attempt} {a₀ : Attempt}
    (hrows : rows' = rows.map (abandonRow req now) ++ cs) (hcs : ∀ c ∈ cs, Cancels a₀ c)
    {x : Attempt} (hx : x ∈ rows') : (∃ a ∈ rows, x = abandonRow req now a) ∨ Cancels a₀ x := by
  rw [hrows, List.mem_append] at hx
  rcases hx with hx | hx
  · obtain ⟨a, ha, rfl⟩ := List.mem_map.mp hx
    exact Or.inl ⟨a, ha, rfl⟩
  · exact Or.inr (hcs x hx)

theorem signCancel_some {tip : ℤ} (h : signCancel cfg signer nonce tip = some (raw, txHash)) :
    txNonce raw = some (UInt64.ofInt nonce) ∧ hasCalldata raw = false := by
  unfold signCancel at h
  split at h
  · cases h
  rename_i tx htx
  split at h
  · cases h
  split at h
  · cases h
  rename_i hverify
  cases h
  exact verifyCancelEnvelope_ok htx hverify

theorem insertCancel_some {s s' : AttemptTable}
    (h : insertCancel cfg req signer now s = some (c, s')) :
    ∃ a, s.table.find? (req.payoutID, req.attemptSeq) = some a ∧
      Cancels a (c.row cfg req a.nonce) ∧ s'.rows = s.rows ++ [c.row cfg req a.nonce] := by
  unfold insertCancel at h
  split at h
  · cases h
  rename_i a ha
  split at h
  · cases h
  rename_i raw txHash hsign
  obtain ⟨t, ht, heq⟩ := Option.map_eq_some_iff.mp h
  cases heq
  have hpayout : a.payoutID = req.payoutID := congrArg Prod.fst (Table.key_of_find? ha)
  obtain ⟨htx, hdata⟩ := signCancel_some hsign
  exact ⟨a, ha, ⟨hpayout.symm, rfl, rfl, rfl, rfl, raw, rfl, htx, hdata⟩,
    (AttemptTable.mem_insert ht).1⟩

/-- **A committed abandon** marks one live row, and may add its cancel. -/
theorem abandonTx_ok {r : Option Cancel} (h : abandonTx cfg req signer t₀ t₁ t₂ db = .ok (r, db')) :
    Abandons req t₂ db db' := by
  unfold abandonTx at h
  split at h
  · cases h
  split at h
  · cases h
  dsimp only at h
  split at h
  · cases h
  rename_i hn
  have hpos : 0 < db.attempts.table.countWhere
      (AttemptTable.unsettled req.payoutID req.attemptSeq) := Nat.pos_of_ne_zero hn
  obtain ⟨a, hmem⟩ := List.exists_mem_of_length_pos hpos
  obtain ⟨ha, hun⟩ := List.mem_filter.mp hmem
  split at h
  · split at h
    · cases h
    rename_i c s' hc
    cases h
    obtain ⟨x, hx, hcs, hrows⟩ := insertCancel_some hc
    -- the row that is read again is the one that was marked
    have hmarked : x ∈ db.attempts.rows.map (abandonRow req t₂) := (Table.find?_eq_some.mp hx).1
    obtain ⟨y, hy, rfl⟩ := List.mem_map.mp hmarked
    have hsame := abandonRow_sameTx req t₂ y
    have hya : y.key = a.key := by
      rw [(AttemptTable.unsettled_iff.mp hun).1, ← hsame.key, Table.key_of_find? hx]
    obtain rfl : y = a := AttemptTable.eq_of_key hy ha hya
    refine ⟨⟨y, ha, hun, _, hrows, fun d hd => ?_, fun _ => by simp⟩, rfl, rfl, rfl, rfl⟩
    rw [List.mem_singleton.mp hd]
    obtain ⟨raw, hraw, htx, hdata⟩ := hcs.raw
    exact ⟨hcs.payoutID.trans hsame.payoutID, hcs.nonce.trans hsame.nonce, hcs.isCancel, hcs.live,
      hcs.unconfirmed, raw, hraw, hsame.nonce ▸ htx, hdata⟩
  · rename_i hcancel
    cases h
    refine ⟨⟨a, ha, hun, [], (List.append_nil _).symm, fun d hd => ?_, fun h => ?_⟩, rfl, rfl, rfl,
      rfl⟩
    · cases hd
    · exact absurd h hcancel

theorem abandonTx_stored
    (h : abandonTx cfg req signer t₀ t₁ t₂ db = .ok (some c, db')) :
    ∃ a ∈ db'.attempts.rows, a.progress.rawSignedTx = some c.raw := by
  unfold abandonTx at h
  split at h
  · cases h
  split at h
  · cases h
  dsimp only at h
  split at h
  · cases h
  split at h
  · split at h
    · cases h
    rename_i c s' hc
    cases h
    obtain ⟨x, -, -, hrows⟩ := insertCancel_some hc
    refine ⟨c.row cfg req x.nonce, ?_, rfl⟩
    rw [hrows]
    exact List.mem_append_right _ (List.mem_singleton.mpr rfl)
  · cases h

end MacProvider.Coordinator.Payout.Database
