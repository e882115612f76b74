import MacProvider.Coordinator.Billing.Verifier
import MacProvider.Coordinator.Billing.Recovery

/-! # The verdicts on settlement receipts

`applySettlementReceiptVerdict` (`internal/billing/settlement_receipts.go`) stores what the verifier
says, once. Then the credit is billed again, and if its cached tokens are in doubt the verdict is
taken back (`apply_moves`). -/

namespace MacProvider.Coordinator.Billing.Verdicts

open Lib.Tables Billing.Schema Billing.Outputs Billing.HotPath Billing.Recovery Billing.Verifier

/-! ### Evidence -/

/-- The attempt that a receipt is for. -/
structure ReceiptIdentity where
  accountScope : String
  requestID : String
  attemptN : ℕ
  providerID : String

/-- The key of its verdict. -/
def ReceiptIdentity.key (env : Env) (id : ReceiptIdentity) : VerdictKey :=
  (env.scopeHash id.accountScope, id.requestID, id.attemptN, id.providerID)

/-- Why there is no verdict. -/
inductive ReceiptError
  /-- `account_scope is required`, and so on. -/
  | required (field : String)
  /-- `settlement route snapshot missing`. -/
  | routeSnapshotMissing
  | routeSnapshotInvalid
  /-- `settlement route snapshot digest mismatch`. -/
  | routeSnapshotDigestMismatch
  /-- `settlement attempt output missing`. -/
  | attemptOutputMissing
  /-- `decode settlement usage`. -/
  | decodeUsage
  /-- A `CHECK` constraint of the table. -/
  | constraint
  | ledger (e : LedgerError)
deriving DecidableEq

/-- The checks of an identity. -/
def ReceiptIdentity.validate (id : ReceiptIdentity) : Except ReceiptError Unit :=
  if id.accountScope = "" then .error (.required "account_scope")
  else if id.requestID = "" then .error (.required "request_id")
  else if id.providerID = "" then .error (.required "provider_id")
  else .ok ()

/-- What the receipt has to match. -/
structure SettlementEvidence where
  route : RouteRow
  routeHash : String
  output : StoredOutput
  usage : SettlementUsage

/-- When the receipt has to be there. -/
def SettlementEvidence.deadlineMS (e : SettlementEvidence) : ℤ :=
  e.output.terminalStateTSUnixMS + e.route.pendingDeadlineSeconds * 1000

/-- The route of the attempt. -/
def Books.routeOf (b : Books) (id : ReceiptIdentity) : Option RouteRow :=
  b.snapshots.find? fun r => r.accountScope = id.accountScope ∧ r.requestID = id.requestID ∧
    r.attemptN = id.attemptN ∧ r.providerID = id.providerID

/-- The route with its digest. -/
def loadSettlementRouteSnapshot (v : ReceiptCodec) (id : ReceiptIdentity) (b : Books) :
    Except ReceiptError (RouteRow × String) :=
  match Books.routeOf b id with
  | none => .error .routeSnapshotMissing
  | some route =>
    match v.routeDigest route with
    | none => .error .routeSnapshotInvalid
    | some computed =>
      if route.digest ≠ computed then .error .routeSnapshotDigestMismatch else .ok (route, computed)

/-- The output with its usage. -/
def loadSettlementAttemptOutput (env : Env) (id : ReceiptIdentity) (b : Books) :
    Except ReceiptError (StoredOutput × SettlementUsage) :=
  match b.outputs.find? (id.accountScope, id.requestID, id.attemptN, id.providerID) with
  | none => .error .attemptOutputMissing
  | some output =>
    match env.decodeUsage output.usageCanonicalJSON with
    | none => .error .decodeUsage
    | some usage => .ok (output, usage)

/-- All of it. -/
def loadSettlementEvidence (v : ReceiptCodec) (env : Env) (id : ReceiptIdentity) (b : Books) :
    Except ReceiptError SettlementEvidence := do
  let (route, routeHash) ← loadSettlementRouteSnapshot v id b
  let (output, usage) ← loadSettlementAttemptOutput env id b
  .ok ⟨route, routeHash, output, usage⟩

/-! ### The row of a verdict -/

/-- Without a receipt, no header and no key. -/
def verifyInput (id : ReceiptIdentity) (e : SettlementEvidence) (receivedAtUnixMS : ℤ)
    (receiptMissing : Bool) (header pubkey : String) : SettlementVerifyInput where
  header := header
  providerReceiptPubkey := pubkey
  routeSnapshot := e.route
  accountScope := id.accountScope
  requestID := id.requestID
  attemptN := id.attemptN
  providerID := id.providerID
  providerReceiptKeyID := e.route.providerReceiptKeyID
  terminalState := e.output.terminalState
  terminalStateTSUnixMS := e.output.terminalStateTSUnixMS
  outputHash := e.output.outputHash.getD ""
  outputPrefixStartByte := e.output.outputPrefixStartByte
  outputPrefixEndByte := e.output.outputPrefixEndByte
  expectedUsage := e.usage
  usageSource := e.output.usageSource
  usageCrossChecked := e.output.usageSource = .coordinatorObserved
  overlappingOrDuplicate := e.output.overlappingOrDuplicate
  receiptReceivedUnixMS := receivedAtUnixMS
  nowUnixMS := receivedAtUnixMS
  receiptMissing := receiptMissing
  trustRootInconclusive := false
  canonicalHashesAvailable := e.output.outputAvailable && e.output.outputHash.getD "" ≠ ""
  alreadyDeadlineQuarantined := false
  terminalOutcomeFinal := false

/-- The outcome closes the verdict. -/
def settlementOutcomeTerminal (o : SettlementOutcome) : Bool :=
  o = .verified || o = .quarantined || o = .zeroSettled

/-- The row of a result. -/
def verdictRow (env : Env) (id : ReceiptIdentity) (e : SettlementEvidence)
    (result : SettlementVerifyResult) (receiptPresent : Bool) (receivedAtUnixMS : ℤ) :
    VerdictRow where
  accountScopeHash := env.scopeHash id.accountScope
  requestID := id.requestID
  attemptN := id.attemptN
  providerID := id.providerID
  mode := e.route.mode
  policyVersion := e.route.policyVersion
  digest := e.routeHash
  closed := settlementOutcomeTerminal result.outcome
  outcome := result.outcome
  receiptPresent := receiptPresent
  receiptResult := result.receiptResult
  reason := result.reason
  terminalStateTSUnixMS := e.output.terminalStateTSUnixMS
  pendingDeadlineUnixMS := e.deadlineMS
  receivedAtUnixMS := receivedAtUnixMS

/-- The `CHECK` constraints of the table. -/
def VerdictRow.Checks (v : VerdictRow) : Prop :=
  0 < v.terminalStateTSUnixMS ∧ 0 < v.pendingDeadlineUnixMS ∧ 0 < v.receivedAtUnixMS ∧
    v.mode ≠ .legacy

instance (v : VerdictRow) : Decidable (VerdictRow.Checks v) := by
  unfold VerdictRow.Checks; infer_instance

/-- The row in place of another one with its key. -/
def VerdictRow.over (row v : VerdictRow) : VerdictRow := if v.key = row.key then row else v

theorem over_key (row v : VerdictRow) : (VerdictRow.over row v).key = v.key := by
  unfold VerdictRow.over
  split_ifs with h
  · exact h.symm
  · rfl

/-- `INSERT`, or `UPDATE ... WHERE closed = 0`. -/
def storeVerdict (row : VerdictRow) (b : Books) : Except ReceiptError Books :=
  if VerdictRow.Checks row then
    match b.verdicts.insert row with
    | some t => .ok { b with verdicts := t }
    | none => .ok { b with
        verdicts := b.verdicts.update (fun v => v.key = row.key && !v.closed) (VerdictRow.over row)
          (over_key row) }
  else .error .constraint

/-! ### Applying a verdict -/

/-- The cached tokens of the credit are in doubt. -/
def syncReason (env : Env) (requestID : String) (attemptN : ℕ) (providerID : String) (b : Books) :
    Option String :=
  match b.creditOf requestID attemptN providerID with
  | none => none
  | some c =>
    if c.syncable = false then none
    else
      match b.verifiedOutput c with
      | none => none
      | some sao =>
        match env.decodeUsage sao.usageCanonicalJSON with
        | none => none
        | some u =>
          match cacheProvenance env (b.configSnapshotOf c) (chargedPrompt c u) c with
          | .error reason => some reason
          | .ok _ => none

/-- `markSettlementReceiptCacheQuarantinedConn`. -/
def markCacheQuarantined (k : VerdictKey) (reason : String) (b : Books) : Books :=
  { b with
    verdicts := b.verdicts.update (fun v => v.key = k) (VerdictRow.cacheQuarantined reason)
      (cacheQuarantined_key reason) }

/-- The sync behind a stored verdict, and its reason. -/
def syncVerdict (env : Env) (id : ReceiptIdentity) (row : VerdictRow) (b : Books) :
    Except ReceiptError (VerdictRow × Books) :=
  match syncVerifiedReceiptLedgerCreditForAttempt env id.requestID id.attemptN id.providerID b with
  | .error e => .error (.ledger e)
  | .ok b' =>
    match syncReason env id.requestID id.attemptN id.providerID b with
    | none => .ok (row, b')
    | some reason => .ok (row.cacheQuarantined reason, markCacheQuarantined (id.key env) reason b')

/-- **`applySettlementReceiptVerdict`**. -/
def applySettlementReceiptVerdict (v : ReceiptCodec) (env : Env) (id : ReceiptIdentity)
    (receiptMissing : Bool) (receivedAtUnixMS : ℤ) (header pubkey : String) (b : Books) :
    Except ReceiptError (VerdictRow × Books) :=
  match (b.verdicts.find? (id.key env)).filter fun existing => existing.closed with
  | some existing =>
    -- the audit of the row reads the route
    if (Books.routeOf b id).isNone then .error .routeSnapshotMissing else .ok (existing, b)
  | none => do
    let evidence ← loadSettlementEvidence v env id b
    let result := verifySettlementReceipt v
      (verifyInput id evidence receivedAtUnixMS receiptMissing header pubkey)
    let row := verdictRow env id evidence result (!receiptMissing) receivedAtUnixMS
    let b ← storeVerdict row b
    syncVerdict env id row b

/-- **`IngestSettlementReceipt`**. -/
def ingestSettlementReceipt (v : ReceiptCodec) (env : Env) (id : ReceiptIdentity)
    (header pubkey : String) (receivedAtUnixMS : ℤ) (b : Books) :
    Except ReceiptError (VerdictRow × Books) := do
  id.validate
  if header = "" then .error (.required "receipt header")
  else if pubkey = "" then .error (.required "provider receipt pubkey")
  else applySettlementReceiptVerdict v env id false receivedAtUnixMS header pubkey b

/-- **`RecordMissingSettlementReceipt`**. -/
def recordMissingSettlementReceipt (v : ReceiptCodec) (env : Env) (id : ReceiptIdentity)
    (nowUnixMS : ℤ) (b : Books) : Except ReceiptError (VerdictRow × Books) := do
  id.validate
  applySettlementReceiptVerdict v env id true nowUnixMS "" "" b

/-- Closed once decided; verified with a valid receipt. -/
structure Judged (row : VerdictRow) : Prop where
  closed : row.closed = true ↔ row.outcome ≠ .pending
  valid : row.outcome = .verified → row.receiptResult = .valid

/-- Left alone, judged as `accepted` says, or, if `taken`, taken back. -/
inductive Moves (accepted : VerdictRow → Prop) (taken : Prop) :
    Option VerdictRow → Option VerdictRow → Prop
  | same (o : Option VerdictRow) : Moves accepted taken o o
  | judged (o : Option VerdictRow) (row : VerdictRow) (hopen : ∀ v ∈ o, v.closed = false)
      (hrow : Judged row) (haccepted : accepted row) : Moves accepted taken o (some row)
  | takenBack (v : VerdictRow) (reason : String) (htaken : taken)
    (hverified : v.outcome = .verified) :
      Moves accepted taken (some v) (some (v.cacheQuarantined reason))

theorem Moves.mono {accepted accepted' : VerdictRow → Prop} {taken taken' : Prop}
    {o o' : Option VerdictRow} (h : Moves accepted taken o o')
    (haccepted : ∀ row, accepted row → accepted' row) (htaken : taken → taken') :
    Moves accepted' taken' o o' := by
  cases h with
  | same => exact .same o
  | judged _ row hopen hrow hok => exact .judged o row hopen hrow (haccepted row hok)
  | takenBack v reason h hverified => exact .takenBack v reason (htaken h) hverified

theorem judged_of_result (env : Env) (id : ReceiptIdentity) (e : SettlementEvidence)
    {i : SettlementVerifyInput} {result : SettlementVerifyResult} (h : Says i result)
    (present : Bool) (received : ℤ) : Judged (verdictRow env id e result present received) := by
  refine ⟨?_, ?_⟩
  · change settlementOutcomeTerminal result.outcome = true ↔ result.outcome ≠ .pending
    cases result.outcome <;> decide
  · intro hverified
    cases h with
    | pending reason => cases hverified
    | quarantined result reason => cases hverified
    | zeroSettled hpresent hdeadline => cases hverified
    | verified hpresent hoverlap hdeadline husage => rfl

theorem judged_cacheQuarantined (v : VerdictRow) (reason : String) :
    Judged (v.cacheQuarantined reason) :=
  ⟨by simp [VerdictRow.cacheQuarantined], fun h => by cases h⟩

/-! ### The sync -/

section Sync
variable {env : Env} {q p : String} {n : ℕ} {b b' : Books} {c : CreditRow}
  {accepted : VerdictRow → Prop}

theorem verdictOf_iff {v : VerdictRow} : verdictOf c v = true ↔
    c.accountScopeHash = some v.accountScopeHash ∧ v.requestID = c.requestID ∧
      v.attemptN = c.attemptN ∧ v.providerID = c.providerID := by
  simp [verdictOf]

theorem verdictOf_key {v : VerdictRow} (h : verdictOf c v = true) :
    c.accountScopeHash = some v.key.1 ∧ v.key.2 = (c.requestID, c.attemptN, c.providerID) := by
  obtain ⟨h1, h2, h3, h4⟩ := verdictOf_iff.mp h
  exact ⟨h1, by rw [← h2, ← h3, ← h4]; rfl⟩

theorem verdictOf_unique {t : VerdictTable} {v v' : VerdictRow} (hv : v ∈ t.rows)
    (hv' : v' ∈ t.rows) (h : verdictOf c v = true) (h' : verdictOf c v' = true) : v = v' := by
  refine List.inj_on_of_nodup_map t.nodup hv hv' (Prod.ext ?_ ?_)
  · exact Option.some.inj ((verdictOf_key h).1.symm.trans (verdictOf_key h').1)
  · exact (verdictOf_key h).2.trans (verdictOf_key h').2.symm

theorem verifiedOutput_some {sao : StoredOutput} (h : b.verifiedOutput c = some sao) :
    ∃ srv ∈ b.verdicts.rows, verdictOf c srv = true ∧ srv.outcome = .verified := by
  unfold Books.verifiedOutput at h
  split at h
  · next scopeHash version hscope hversion =>
    obtain ⟨srv, hmem, hsome⟩ := List.exists_of_findSome?_eq_some h
    split_ifs at hsome with hcond
    obtain ⟨h1, h2, h3, h4, -, -, -, h5⟩ := hcond
    exact ⟨srv, hmem, verdictOf_iff.mpr ⟨by rw [hscope, h1], h2, h3, h4⟩, h5⟩
  · cases h

/-- **A sync takes back one row at most**, with a reason. -/
theorem sync_verdicts
    (h : syncVerifiedReceiptLedgerCreditForAttempt env q n p b = .ok b') :
    (syncReason env q n p b = none ∧ b'.verdicts = b.verdicts) ∨
      ∃ c reason srv, b.creditOf q n p = some c ∧ syncReason env q n p b = some reason ∧
        b'.verdicts = closeVerdict c reason b.verdicts ∧ srv ∈ b.verdicts.rows ∧
        verdictOf c srv = true ∧ srv.outcome = .verified := by
  unfold syncVerifiedReceiptLedgerCreditForAttempt at h
  unfold syncReason
  rcases hc : b.creditOf q n p with _ | c
  · rw [hc] at h
    cases h
    exact Or.inl ⟨rfl, rfl⟩
  rw [hc] at h
  dsimp only at h ⊢
  by_cases hsync : c.syncable = false
  · rw [if_pos hsync] at h ⊢
    cases h
    exact Or.inl ⟨rfl, rfl⟩
  rw [if_neg hsync] at h ⊢
  rcases hsao : b.verifiedOutput c with _ | sao
  · rw [hsao] at h
    cases h
    exact Or.inl ⟨rfl, rfl⟩
  rw [hsao] at h
  dsimp only at h ⊢
  rcases hu : env.decodeUsage sao.usageCanonicalJSON with _ | u
  · rw [hu] at h
    cases h
  rw [hu] at h
  dsimp only at h ⊢
  split at h
  · cases h
    obtain ⟨srv, hmem, hof, hverified⟩ := verifiedOutput_some hsao
    dsimp only [Books.applyReceipt]
    rcases cacheProvenance env (b.configSnapshotOf c) (chargedPrompt c u) c with reason | ok
    · exact Or.inr ⟨c, reason, srv, rfl, rfl, rfl, hmem, hof, hverified⟩
    · exact Or.inl ⟨rfl, rfl⟩
  · cases h

theorem find?_closeVerdict (t : VerdictTable) (reason : String) (k : VerdictKey) :
    (closeVerdict c reason t).find? k =
      (t.find? k).map fun v => if verdictOf c v then v.cacheQuarantined reason else v :=
  Table.find?_update ..

theorem sync_moves {taken : Prop}
    (h : syncVerifiedReceiptLedgerCreditForAttempt env q n p b = .ok b')
    (htaken : syncReason env q n p b ≠ none → taken) (k : VerdictKey) :
    Moves accepted taken (b.verdicts.find? k) (b'.verdicts.find? k) := by
  rcases sync_verdicts h with ⟨-, hsame⟩ |
    ⟨c, reason, srv, -, hreason, hclose, hmem, hof, hverified⟩
  · rw [hsame]
    exact .same _
  · rw [hclose, find?_closeVerdict]
    rcases hv : b.verdicts.find? k with _ | v
    · exact .same _
    · rw [Option.map_some]
      split_ifs with hcond
      · obtain rfl := verdictOf_unique (Table.find?_eq_some.mp hv).1 hmem hcond hof
        exact .takenBack v reason (htaken (by rw [hreason]; exact Option.some_ne_none reason))
          hverified
      · exact .same _

end Sync

/-! ### Applications -/

/-- The credit there is the account's. -/
def OwnCredit (env : Env) (id : ReceiptIdentity) (b : Books) : Prop :=
  ∀ c, b.creditOf id.requestID id.attemptN id.providerID = some c →
    ∀ h ∈ c.accountScopeHash, h = env.scopeHash id.accountScope

/-- It is accepted, before the deadline. -/
def Accepts (v : ReceiptCodec) (env : Env) (id : ReceiptIdentity) (header pubkey : String)
    (receivedAtUnixMS : ℤ) (b : Books) : Prop :=
  ∃ e, loadSettlementEvidence v env id b = .ok e ∧
    (verifySettlementReceipt v (verifyInput id e receivedAtUnixMS false header pubkey)).outcome =
      .verified ∧
    receivedAtUnixMS ≤ e.output.terminalStateTSUnixMS + e.route.pendingDeadlineSeconds * 1000

section Apply
variable {v : ReceiptCodec} {env : Env} {id : ReceiptIdentity} {b b' b₁ : Books}
  {missing : Bool} {received : ℤ} {header pubkey : String} {row row' : VerdictRow}

theorem storeVerdict_ok (h : storeVerdict row b = .ok b₁)
    (hopen : ∀ x ∈ b.verdicts.find? row.key, x.closed = false) :
    b₁ = { b with verdicts := b₁.verdicts } ∧
      ∀ k, b₁.verdicts.find? k = if row.key = k then some row else b.verdicts.find? k := by
  unfold storeVerdict at h
  split at h
  swap
  · cases h
  rcases hinsert : b.verdicts.insert row with _ | t
  · rw [hinsert] at h
    cases h
    refine ⟨rfl, fun k => ?_⟩
    rw [Table.find?_update]
    obtain ⟨x, hx⟩ := Option.ne_none_iff_exists'.mp (Table.insert_eq_none.mp hinsert)
    by_cases hk : row.key = k
    · subst hk
      have hkey := Table.key_of_find? hx
      have hclosed := hopen x hx
      rw [if_pos rfl, hx]
      simp [hkey, hclosed, VerdictRow.over]
    · rw [if_neg hk]
      rcases hy : b.verdicts.find? k with _ | y
      · rfl
      · have hne : ¬ y.key = row.key := fun h => hk (h.symm.trans (Table.key_of_find? hy))
        simp [hne]
  · rw [hinsert] at h
    cases h
    exact ⟨rfl, fun k => Table.find?_insert hinsert k⟩

/-- **An application**: nothing, or an open row is judged. -/
theorem apply_cases
    (h : applySettlementReceiptVerdict v env id missing received header pubkey b = .ok (row', b')) :
    b' = b ∨ ∃ e row b₁, (∀ x ∈ b.verdicts.find? (id.key env), x.closed = false) ∧
      loadSettlementEvidence v env id b = .ok e ∧
      row = verdictRow env id e (verifySettlementReceipt v
        (verifyInput id e received missing header pubkey)) (!missing) received ∧
      storeVerdict row b = .ok b₁ ∧ syncVerdict env id row b₁ = .ok (row', b') := by
  unfold applySettlementReceiptVerdict at h
  split at h
  · split at h
    · cases h
    · cases h
      exact Or.inl rfl
  · next hopen =>
    obtain ⟨e, he, h⟩ := bind_ok h
    obtain ⟨b₁, hb₁, h⟩ := bind_ok h
    refine Or.inr ⟨e, _, b₁, fun x hx => ?_, he, rfl, hb₁, h⟩
    rw [hx] at hopen
    simpa using hopen

theorem syncVerdict_ok (h : syncVerdict env id row b₁ = .ok (row', b')) :
    ∃ b₂, syncVerifiedReceiptLedgerCreditForAttempt env id.requestID id.attemptN id.providerID b₁ =
        .ok b₂ ∧
      ((syncReason env id.requestID id.attemptN id.providerID b₁ = none ∧ row' = row ∧ b' = b₂) ∨
        ∃ reason, syncReason env id.requestID id.attemptN id.providerID b₁ = some reason ∧
          row' = row.cacheQuarantined reason ∧
          b' = markCacheQuarantined (id.key env) reason b₂) := by
  unfold syncVerdict at h
  split at h
  · cases h
  next b₂ hsync =>
  refine ⟨b₂, hsync, ?_⟩
  split at h
  · next hreason =>
    cases h
    exact Or.inl ⟨hreason, rfl, rfl⟩
  · next reason hreason =>
    cases h
    exact Or.inr ⟨reason, hreason, rfl, rfl⟩

theorem find?_markCacheQuarantined (reason : String) (k k' : VerdictKey) :
    (markCacheQuarantined k reason b).verdicts.find? k' =
      if k = k' then (b.verdicts.find? k').map (VerdictRow.cacheQuarantined reason)
      else b.verdicts.find? k' := by
  unfold markCacheQuarantined
  rw [Table.find?_update]
  rcases hx : b.verdicts.find? k' with _ | x
  · simp
  · have hkey := Table.key_of_find? hx
    by_cases hk : k = k'
    · simp [hk, hkey]
    · have hne : ¬ k' = k := fun h => hk h.symm
      simp [hk, hkey, hne]

theorem syncVerdict_own (h : syncVerdict env id row b₁ = .ok (row', b'))
    (hrow : b₁.verdicts.find? (id.key env) = some row) :
    b'.verdicts.find? (id.key env) = some row' ∧
      (row' = row ∨ ∃ reason, row' = row.cacheQuarantined reason) := by
  obtain ⟨b₂, hsync, ⟨hnone, rfl, rfl⟩ | ⟨reason, hsome, rfl, rfl⟩⟩ := syncVerdict_ok h
  · rcases sync_verdicts hsync with ⟨-, hsame⟩ | ⟨c, reason, srv, -, hreason, -⟩
    · rw [hsame]
      exact ⟨hrow, Or.inl rfl⟩
    · rw [hnone] at hreason
      cases hreason
  · refine ⟨?_, Or.inr ⟨reason, rfl⟩⟩
    rw [find?_markCacheQuarantined, if_pos rfl]
    rcases sync_verdicts hsync with ⟨hnone, -⟩ | ⟨c, reason', srv, -, -, hclose, -⟩
    · rw [hsome] at hnone
      cases hnone
    · rw [hclose, find?_closeVerdict, hrow]
      simp only [Option.map_some]
      -- both marks set the same columns
      split_ifs <;> rfl

theorem syncVerdict_other {accepted : VerdictRow → Prop} {k : VerdictKey}
    (h : syncVerdict env id row b₁ = .ok (row', b')) (hk : id.key env ≠ k) :
    Moves accepted (¬ OwnCredit env id b₁) (b₁.verdicts.find? k) (b'.verdicts.find? k) := by
  obtain ⟨b₂, hsync, hcases⟩ := syncVerdict_ok h
  have hb' : b'.verdicts.find? k = b₂.verdicts.find? k := by
    rcases hcases with ⟨-, -, rfl⟩ | ⟨reason, -, -, rfl⟩
    · rfl
    · rw [find?_markCacheQuarantined, if_neg hk]
  rw [hb']
  rcases sync_verdicts hsync with ⟨-, hsame⟩ | ⟨c, reason, srv, hc, -, hclose, hmem, hof, hverified⟩
  · rw [hsame]
    exact .same _
  rw [hclose, find?_closeVerdict]
  rcases hx : b₁.verdicts.find? k with _ | x
  · exact .same _
  rw [Option.map_some]
  split_ifs with hcond
  · obtain rfl := verdictOf_unique (Table.find?_eq_some.mp hx).1 hmem hcond hof
    refine .takenBack x reason (fun hown => hk ?_) hverified
    -- the credit is one of the account, so the row is the one that was judged
    obtain ⟨hscope, hrest⟩ := verdictOf_key hcond
    obtain ⟨-, hq, hn, hp⟩ := creditOf_some hc
    have hkey : x.key = k := Table.key_of_find? hx
    rw [hkey] at hscope hrest
    have hfirst := hown c hc k.1 hscope
    refine Prod.ext hfirst.symm ?_
    rw [hrest, hq, hn, hp]
    rfl
  · exact .same _

/-- **What it writes**: verdicts, and a synced credit. -/
theorem apply_frame
    (h : applySettlementReceiptVerdict v env id missing received header pubkey b = .ok (row', b')) :
    ∃ b₁ b₂, b₁ = { b with verdicts := b₁.verdicts } ∧
      (b₂ = b₁ ∨ syncVerifiedReceiptLedgerCreditForAttempt env id.requestID id.attemptN
        id.providerID b₁ = .ok b₂) ∧
      b' = { b₂ with verdicts := b'.verdicts } := by
  rcases apply_cases h with rfl | ⟨e, row, b₁, hopen, -, hrow, hstore, hsync⟩
  · exact ⟨b', b', rfl, Or.inl rfl, rfl⟩
  have hkey : row.key = id.key env := by rw [hrow]; rfl
  obtain ⟨b₂, hsync, hb'⟩ := syncVerdict_ok hsync
  refine ⟨b₁, b₂, (storeVerdict_ok hstore (by rw [hkey]; exact hopen)).1, Or.inr hsync, ?_⟩
  rcases hb' with ⟨-, -, rfl⟩ | ⟨reason, -, -, rfl⟩ <;> rfl

theorem apply_log_outputs
    (h : applySettlementReceiptVerdict v env id missing received header pubkey b = .ok (row', b')) :
    b'.log = b.log ∧ b'.outputs = b.outputs := by
  obtain ⟨b₁, b₂, hb₁, hsync, hb'⟩ := apply_frame h
  have hsame : b₂.log = b₁.log ∧ b₂.outputs = b₁.outputs := by
    rcases hsync with rfl | hsync
    · exact ⟨rfl, rfl⟩
    · exact ⟨(sync_touches hsync).log, (sync_touches hsync).outputs⟩
  rw [hb']
  refine ⟨hsame.1.trans ?_, hsame.2.trans ?_⟩ <;> rw [hb₁]

/-- **An application judges one open row.** -/
theorem apply_moves (k : VerdictKey)
    (h : applySettlementReceiptVerdict v env id missing received header pubkey b = .ok (row', b')) :
    Moves (fun row => id.key env = k ∧ (row.outcome = .verified →
        missing = false ∧ Accepts v env id header pubkey received b))
      (¬ OwnCredit env id b) (b.verdicts.find? k) (b'.verdicts.find? k) := by
  rcases apply_cases h with rfl | ⟨e, row, b₁, hopen, he, hrow, hstore, hsync⟩
  · exact .same _
  have hkey : row.key = id.key env := by rw [hrow]; rfl
  obtain ⟨hb₁, hfind⟩ := storeVerdict_ok hstore (by rw [hkey]; exact hopen)
  rw [hkey] at hfind
  by_cases hk : id.key env = k
  · subst hk
    obtain ⟨hfinal, hcases⟩ := syncVerdict_own hsync ((hfind _).trans (if_pos rfl))
    rw [hfinal]
    have hsays := @verifySettlementReceipt_result v
      (verifyInput id e received missing header pubkey)
    have hjudged : Judged row := hrow ▸ judged_of_result env id e hsays (!missing) received
    rcases hcases with rfl | ⟨reason, rfl⟩
    · refine .judged _ row' hopen hjudged ⟨rfl, fun hverified => ?_⟩
      have hout : (verifySettlementReceipt v
          (verifyInput id e received missing header pubkey)).outcome = .verified := by
        rw [hrow] at hverified
        exact hverified
      generalize hres : verifySettlementReceipt v
        (verifyInput id e received missing header pubkey) = res at hsays hout
      cases hsays with
      | pending reason => cases hout
      | quarantined result reason => cases hout
      | zeroSettled hpresent hdeadline => cases hout
      | verified hpresent hoverlap hdeadline husage =>
        have hmissing : missing = false := hpresent
        subst hmissing
        exact ⟨rfl, e, he, by rw [hres], hdeadline⟩
    · exact .judged _ _ hopen (judged_cacheQuarantined row reason) ⟨rfl, fun h => by cases h⟩
  · have hsame : b₁.verdicts.find? k = b.verdicts.find? k := (hfind k).trans (if_neg hk)
    have hown : OwnCredit env id b₁ ↔ OwnCredit env id b := by
      rw [hb₁]
      rfl
    rw [← hsame, ← hown]
    exact syncVerdict_other hsync hk

end Apply

end MacProvider.Coordinator.Billing.Verdicts
