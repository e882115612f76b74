import MacProvider.Gateway.Basic
import MacProvider.Gateway.Time
import MacProvider.Lib.Rlp
import MacProvider.Lib.Tables

/-! # Payout attempts

`payout_attempts` of one wallet with the statements of `internal/payout/attempts.go`. The
constraints are fields of `AttemptTable`, so two live attempts cannot share a nonce. An attempt,
live until it is abandoned, is a transfer to the provider or the cancel of one. -/

namespace MacProvider.Coordinator.Payout.Attempts

open MacProvider.Gateway Gateway.Time Lib.Tables Lib.Rlp

/-! ### Rows -/

/-- The columns that change. -/
structure Progress where
  rawSignedTx : Option Bytes := none
  txHash : Option String := none
  broadcastAt : Option Instant := none
  confirmedAt : Option Instant := none
  blockNumber : Option ℤ := none
  gasUsed : Option ℤ := none
  abandonedAt : Option Instant := none
  abandonedReason : Option String := none
  stalePagedAt : Option Instant := none
  lastError : Option String := none
  updatedAt : Instant

/-- A row of `payout_attempts`. -/
structure Attempt where
  payoutID : ℕ
  attemptSeq : ℕ
  toAddress : String
  amount : ℤ
  nonce : ℤ
  isCancel : Bool
  gasReserved : Option ℤ
  progress : Progress

namespace Attempt

/-- `(payout_id, attempt_seq)`. -/
def key (a : Attempt) : ℕ × ℕ := (a.payoutID, a.attemptSeq)

/-- `abandoned_at_utc IS NULL`. -/
def live (a : Attempt) : Bool := a.progress.abandonedAt.isNone

/-- A live transfer. -/
def liveTransfer (a : Attempt) : Bool := a.live && !a.isCancel

/-- A live cancel. -/
def liveCancel (a : Attempt) : Bool := a.live && a.isCancel

/-- A confirmed live transfer. -/
def paid (a : Attempt) : Bool := a.liveTransfer && a.progress.confirmedAt.isSome

/-- The row with other progress. -/
def set (f : Progress → Progress) (a : Attempt) : Attempt := { a with progress := f a.progress }

end Attempt

/-- `CHECK`s and the two unique indices. -/
@[mk_iff]
structure Constraints (rows : List Attempt) : Prop where
  checks : ∀ a ∈ rows, 1 ≤ a.attemptSeq ∧ 0 < a.amount ∧ 0 ≤ a.nonce
  nonce : ∀ a ∈ rows, ∀ b ∈ rows, a.live = true → b.live = true → a.nonce = b.nonce → a.key = b.key
  oneLive : ∀ a ∈ rows, ∀ b ∈ rows, a.liveTransfer = true → b.liveTransfer = true →
    a.payoutID = b.payoutID → a.key = b.key

instance (rows : List Attempt) : Decidable (Constraints rows) :=
  decidable_of_iff _ (constraints_iff rows).symm

/-- The table with its constraints. -/
structure AttemptTable where
  table : Table Attempt.key
  constraints : Constraints table.rows

namespace AttemptTable

/-- Its rows. -/
abbrev rows (s : AttemptTable) : List Attempt := s.table.rows

/-- No rows. -/
def empty : AttemptTable :=
  ⟨.empty, ⟨fun _ h => absurd h List.not_mem_nil, fun _ h => absurd h List.not_mem_nil,
    fun _ h => absurd h List.not_mem_nil⟩⟩

/-- `INSERT`, refused by the constraints. -/
def insert (s : AttemptTable) (a : Attempt) : Option AttemptTable :=
  match s.table.insert a with
  | none => none
  | some t => if h : Constraints t.rows then some ⟨t, h⟩ else none

theorem constraints_map {rows : List Attempt} (h : Constraints rows) {g : Attempt → Attempt}
    (hg : ∀ a, ∃ x, g a = { a with progress := x } ∧
      (x.abandonedAt = none → a.progress.abandonedAt = none)) : Constraints (rows.map g) := by
  have hlive : ∀ a, (g a).live = true → a.live = true := fun a ha => by
    obtain ⟨x, hx, hx'⟩ := hg a
    rw [hx] at ha
    exact Option.isNone_iff_eq_none.mpr (hx' (Option.isNone_iff_eq_none.mp ha))
  have hfix : ∀ a, (g a).key = a.key ∧ (g a).nonce = a.nonce ∧ (g a).payoutID = a.payoutID ∧
      (g a).isCancel = a.isCancel ∧ (g a).attemptSeq = a.attemptSeq ∧ (g a).amount = a.amount :=
    fun a => by
      obtain ⟨x, hx, -⟩ := hg a
      rw [hx]
      exact ⟨rfl, rfl, rfl, rfl, rfl, rfl⟩
  have htransfer : ∀ a, (g a).liveTransfer = true → a.liveTransfer = true := fun a ha => by
    obtain ⟨h1, h2⟩ := (Bool.and_eq_true _ _).mp ha
    exact (Bool.and_eq_true _ _).mpr ⟨hlive a h1, (hfix a).2.2.2.1 ▸ h2⟩
  refine ⟨?_, ?_, ?_⟩
  · intro x hx
    obtain ⟨a, ha, rfl⟩ := List.mem_map.mp hx
    obtain ⟨-, hnonce, -, -, hseq, hamount⟩ := hfix a
    rw [hnonce, hseq, hamount]
    exact h.checks a ha
  · intro x hx y hy h1 h2 hn
    obtain ⟨a, ha, rfl⟩ := List.mem_map.mp hx
    obtain ⟨b, hb, rfl⟩ := List.mem_map.mp hy
    rw [(hfix a).1, (hfix b).1]
    rw [(hfix a).2.1, (hfix b).2.1] at hn
    exact h.nonce a ha b hb (hlive a h1) (hlive b h2) hn
  · intro x hx y hy h1 h2 hp
    obtain ⟨a, ha, rfl⟩ := List.mem_map.mp hx
    obtain ⟨b, hb, rfl⟩ := List.mem_map.mp hy
    rw [(hfix a).1, (hfix b).1]
    rw [(hfix a).2.2.1, (hfix b).2.2.1] at hp
    exact h.oneLive a ha b hb (htransfer a h1) (htransfer b h2) hp

/-- `UPDATE payout_attempts`; `abandoned_at_utc` stays. -/
def update (s : AttemptTable) (p : Attempt → Bool) (f : Progress → Progress)
    (hf : ∀ x, (f x).abandonedAt = none → x.abandonedAt = none) : AttemptTable :=
  ⟨s.table.update p (Attempt.set f) fun _ => rfl, by
    refine constraints_map s.constraints fun a => ?_
    split_ifs
    · exact ⟨f a.progress, rfl, hf _⟩
    · exact ⟨a.progress, rfl, id⟩⟩

variable {s : AttemptTable} {a : Attempt} {pid seq : ℕ}

theorem mem_insert {s' : AttemptTable} (h : s.insert a = some s') :
    s'.rows = s.rows ++ [a] ∧ s.table.find? a.key = none := by
  unfold insert at h
  split at h
  · cases h
  · rename_i t ht
    split_ifs at h
    cases h
    exact ⟨(Table.insert_eq_some ht).2, (Table.insert_eq_some ht).1⟩

variable {p : Attempt → Bool} {f : Progress → Progress} {x : Attempt}

theorem mem_update
    {hf : ∀ x, (f x).abandonedAt = none → x.abandonedAt = none} (h : x ∈ (s.update p f hf).rows) :
    ∃ a ∈ s.rows, (p a = true ∧ x = a.set f) ∨ (p a = false ∧ x = a) := by
  obtain ⟨a, ha, rfl⟩ := List.mem_map.mp h
  refine ⟨a, ha, ?_⟩
  rcases hp : p a with _ | _
  · exact Or.inr ⟨rfl, by simp⟩
  · exact Or.inl ⟨rfl, by simp⟩

theorem mem_update_of_mem
    {hf : ∀ x, (f x).abandonedAt = none → x.abandonedAt = none} (h : a ∈ s.rows) :
    (if p a then a.set f else a) ∈ (s.update p f hf).rows :=
  List.mem_map.mpr ⟨a, h, rfl⟩

theorem eq_of_key {b : Attempt} (ha : a ∈ s.rows) (hb : b ∈ s.rows) (h : a.key = b.key) : a = b :=
  List.inj_on_of_nodup_map s.table.nodup ha hb h

/-! ### Lookups -/

/-- The latest live transfer of a payout. -/
def lookupExistingLatest (s : AttemptTable) (payoutID : ℕ) : Option Attempt :=
  ((s.rows.filter fun a => a.payoutID = payoutID && a.liveTransfer).insertionSort
    fun a b => b.attemptSeq ≤ a.attemptSeq).head?

/-- The live cancels of a payout. -/
def lookupLiveCancels (s : AttemptTable) (payoutID : ℕ) : List Attempt :=
  (s.rows.filter fun a => a.payoutID = payoutID && a.liveCancel).insertionSort
    fun a b => a.attemptSeq ≤ b.attemptSeq

/-- The next number of a payout. -/
def nextAttemptSeq (s : AttemptTable) (payoutID : ℕ) : ℕ :=
  ((s.rows.filter fun a => a.payoutID = payoutID).map Attempt.attemptSeq).foldl max 0 + 1

theorem lookupExistingLatest_none (h : s.lookupExistingLatest pid = none) :
    ∀ a ∈ s.rows, a.payoutID = pid → a.liveTransfer = false := by
  intro a ha hp
  have hnil := List.head?_eq_none_iff.mp h
  have hfilter := List.eq_nil_of_length_eq_zero
    ((List.length_insertionSort _ _).symm.trans (List.length_eq_zero_iff.mpr hnil))
  have := List.filter_eq_nil_iff.mp hfilter a ha
  simpa [hp] using this

theorem lookupExistingLatest_some (h : s.lookupExistingLatest pid = some a) :
    a ∈ s.rows ∧ a.payoutID = pid ∧ a.liveTransfer = true := by
  have hmem := (List.mem_insertionSort _).mp (List.mem_of_head? h)
  obtain ⟨ha, hcond⟩ := List.mem_filter.mp hmem
  obtain ⟨hp, hlive⟩ := (Bool.and_eq_true _ _).mp hcond
  exact ⟨ha, of_decide_eq_true hp, hlive⟩

theorem mem_lookupLiveCancels :
    a ∈ s.lookupLiveCancels pid ↔
      a ∈ s.rows ∧ a.payoutID = pid ∧ a.liveCancel = true := by
  unfold lookupLiveCancels
  rw [List.mem_insertionSort, List.mem_filter, Bool.and_eq_true, decide_eq_true_iff]

theorem lt_nextAttemptSeq (ha : a ∈ s.rows) : a.attemptSeq < s.nextAttemptSeq a.payoutID := by
  have hmem : a.attemptSeq ∈
      ((s.rows.filter fun b => b.payoutID = a.payoutID).map Attempt.attemptSeq) :=
    List.mem_map_of_mem (List.mem_filter.mpr ⟨ha, by simp⟩)
  exact lt_max_succ hmem

/-! ### Writes -/

/-- A transfer that is not signed yet. -/
def freshTransfer (payoutID attemptSeq : ℕ) (toAddress : String) (amount nonce : ℤ)
    (now : Instant) : Attempt :=
  { payoutID, attemptSeq, toAddress := toAddress.toLower, amount, nonce, isCancel := false,
    gasReserved := none, progress := { updatedAt := now } }

/-- The row has this key. -/
def atKey (payoutID attemptSeq : ℕ) (a : Attempt) : Bool :=
  a.payoutID = payoutID && a.attemptSeq = attemptSeq

/-- Neither confirmed nor abandoned. -/
def unsettled (payoutID attemptSeq : ℕ) (a : Attempt) : Bool :=
  atKey payoutID attemptSeq a && a.progress.confirmedAt.isNone && a.live

/-- `StampBroadcastAt`, `MarkConfirmedAtTx`, `handleCancelReorg` and the marker of
`ProduceStaleOutboxRows`. -/
inductive Note
  | broadcast (now : Instant)
  | confirmed (blockNumber gasUsed : ℤ) (now : Instant)
  | cancelReorged (txHash : String) (now : Instant)
  | stale (now : Instant)

/-- The `WHERE` clause. A stamp is also set on abandoned rows. -/
def Note.applies (payoutID attemptSeq : ℕ) (a : Attempt) : Note → Bool
  | broadcast _ => atKey payoutID attemptSeq a && a.progress.broadcastAt.isNone
  | confirmed _ _ _ => unsettled payoutID attemptSeq a
  | cancelReorged _ _ =>
    atKey payoutID attemptSeq a && a.liveCancel && a.progress.confirmedAt.isSome
  | stale _ => atKey payoutID attemptSeq a && a.progress.stalePagedAt.isNone &&
      a.progress.confirmedAt.isNone

/-- The `SET` clause. -/
def Note.write (x : Progress) : Note → Progress
  | broadcast now => { x with broadcastAt := some now, updatedAt := now }
  | confirmed blockNumber gasUsed now =>
    { x with confirmedAt := some now, blockNumber := some blockNumber, gasUsed := some gasUsed,
             updatedAt := now, stalePagedAt := none }
  | cancelReorged txHash now =>
    { x with confirmedAt := none, blockNumber := none, gasUsed := none, stalePagedAt := none,
             lastError := some ("cancel_self_transfer_reorged:" ++ txHash), updatedAt := now }
  | stale now => { x with stalePagedAt := some now, updatedAt := now }

theorem Note.write_keeps (n : Note) (x : Progress) :
    (n.write x).rawSignedTx = x.rawSignedTx ∧ (n.write x).txHash = x.txHash ∧
      (n.write x).abandonedAt = x.abandonedAt := by
  cases n <;> exact ⟨rfl, rfl, rfl⟩

/-- The table behind a statement. -/
def note (s : AttemptTable) (payoutID attemptSeq : ℕ) (n : Note) : AttemptTable :=
  s.update (fun a => n.applies payoutID attemptSeq a) (fun x => n.write x)
    fun x h => (n.write_keeps x).2.2 ▸ h

/-- How many rows it changes. -/
def noted (s : AttemptTable) (payoutID attemptSeq : ℕ) (n : Note) : ℕ :=
  s.table.countWhere fun a => n.applies payoutID attemptSeq a

/-- The row `CASPersistSignedTx` is for. -/
def signable (payoutID attemptSeq : ℕ) (a : Attempt) : Bool :=
  atKey payoutID attemptSeq a && a.progress.rawSignedTx.isNone && a.progress.confirmedAt.isNone &&
    a.live

/-- It is signed. -/
def signed (raw : Bytes) (txHash : String) (now : Instant) (x : Progress) : Progress :=
  { x with rawSignedTx := some raw, txHash := some txHash, updatedAt := now }

/-- `CASPersistSignedTx`, with its rows. -/
def casPersistSignedTx (s : AttemptTable) (payoutID attemptSeq : ℕ) (raw : Bytes)
    (txHash : String) (now : Instant) : AttemptTable × ℕ :=
  (s.update (signable payoutID attemptSeq) (signed raw txHash now) fun _ h => h,
   s.table.countWhere (signable payoutID attemptSeq))

/-- It is abandoned. -/
def abandoned (reason : String) (now : Instant) (x : Progress) : Progress :=
  { x with abandonedAt := some now, abandonedReason := some reason, updatedAt := now }

/-- The marker of `ServeAbandon`. -/
def abandonAttempt (s : AttemptTable) (payoutID attemptSeq : ℕ) (reason : String)
    (now : Instant) : AttemptTable × ℕ :=
  (s.update (unsettled payoutID attemptSeq) (abandoned reason now)
    fun _ h => absurd h (Option.some_ne_none now),
   s.table.countWhere (unsettled payoutID attemptSeq))

/-! ### What the writes do to the rows -/

/-- The same but for what was recorded. -/
structure SameTx (x a : Attempt) : Prop where
  payoutID : x.payoutID = a.payoutID
  attemptSeq : x.attemptSeq = a.attemptSeq
  amount : x.amount = a.amount
  nonce : x.nonce = a.nonce
  isCancel : x.isCancel = a.isCancel
  rawSignedTx : x.progress.rawSignedTx = a.progress.rawSignedTx
  txHash : x.progress.txHash = a.progress.txHash

namespace SameTx

variable {x y a : Attempt}

theorem refl (a : Attempt) : SameTx a a := ⟨rfl, rfl, rfl, rfl, rfl, rfl, rfl⟩

theorem trans (h : SameTx x y) (h' : SameTx y a) : SameTx x a :=
  ⟨h.1.trans h'.1, h.2.trans h'.2, h.3.trans h'.3, h.4.trans h'.4, h.5.trans h'.5, h.6.trans h'.6,
    h.7.trans h'.7⟩

theorem key (h : SameTx x a) : x.key = a.key := Prod.ext h.payoutID h.attemptSeq

theorem liveTransfer (h : SameTx x a) (hlive : x.live = a.live) :
    x.liveTransfer = a.liveTransfer := by
  simp only [Attempt.liveTransfer, hlive, h.isCancel]

theorem liveCancel (h : SameTx x a) (hlive : x.live = a.live) : x.liveCancel = a.liveCancel := by
  simp only [Attempt.liveCancel, hlive, h.isCancel]

end SameTx

theorem sameTx_note (n : Note) (a : Attempt) :
    SameTx (a.set fun x => n.write x) a ∧ (a.set fun x => n.write x).live = a.live := by
  obtain ⟨hraw, hhash, habandoned⟩ := n.write_keeps a.progress
  refine ⟨⟨rfl, rfl, rfl, rfl, rfl, hraw, hhash⟩, ?_⟩
  unfold Attempt.live Attempt.set
  rw [habandoned]

theorem mem_note {n : Note} (h : x ∈ (s.note pid seq n).rows) :
    ∃ a ∈ s.rows, SameTx x a ∧ x.live = a.live ∧
      (x = a ∨ n.applies pid seq a = true ∧ x = a.set fun y => n.write y) := by
  obtain ⟨a, ha, ⟨hp, rfl⟩ | ⟨-, rfl⟩⟩ := mem_update h
  · exact ⟨a, ha, (sameTx_note n a).1, (sameTx_note n a).2, Or.inr ⟨hp, rfl⟩⟩
  · exact ⟨x, ha, SameTx.refl x, rfl, Or.inl rfl⟩

theorem mem_note_of_mem (h : a ∈ s.rows) (pid seq : ℕ) (n : Note) :
    ∃ x ∈ (s.note pid seq n).rows, SameTx x a ∧ x.live = a.live ∧
      (x = a ∨ n.applies pid seq a = true ∧ x = a.set fun y => n.write y) := by
  refine ⟨_, mem_update_of_mem h, ?_⟩
  rcases hp : n.applies pid seq a with _ | _
  · exact ⟨SameTx.refl a, rfl, Or.inl rfl⟩
  · exact ⟨(sameTx_note n a).1, (sameTx_note n a).2, Or.inr ⟨rfl, rfl⟩⟩

theorem atKey_iff : atKey pid seq a = true ↔ a.key = (pid, seq) := by
  unfold atKey Attempt.key
  rw [Bool.and_eq_true, decide_eq_true_iff, decide_eq_true_iff, Prod.mk.injEq]

theorem unsettled_iff :
    unsettled pid seq a = true ↔ a.key = (pid, seq) ∧
      a.progress.confirmedAt = none ∧ a.live = true := by
  unfold unsettled
  rw [Bool.and_eq_true, Bool.and_eq_true, atKey_iff, Option.isNone_iff_eq_none, and_assoc]

theorem rows_casPersist_insert {t : AttemptTable} (h : s.insert a = some t) (raw : Bytes)
    (txHash : String) (now : Instant) (hsign : signable a.payoutID a.attemptSeq a = true) :
    (t.casPersistSignedTx a.payoutID a.attemptSeq raw txHash now).1.rows =
      s.rows ++ [a.set (signed raw txHash now)] := by
  obtain ⟨hrows, hnone⟩ := mem_insert h
  have hold : ∀ b ∈ s.rows, signable a.payoutID a.attemptSeq b = false := fun b hb => by
    have hne : ¬ atKey a.payoutID a.attemptSeq b = true := fun hk =>
      Table.find?_eq_none.mp hnone b hb (atKey_iff.mp hk)
    unfold signable
    rw [Bool.eq_false_iff.mpr hne]
    rfl
  have hrows' : t.table.rows = s.table.rows ++ [a] := hrows
  unfold casPersistSignedTx update Table.update rows
  dsimp only
  rw [hrows', List.map_append, List.map_singleton, if_pos hsign]
  congr 1
  refine (List.map_congr_left fun b hb => ?_).trans (List.map_id _)
  rw [hold b hb]
  rfl

/-- **An inserted row** has a fresh number, a free nonce, and no live sibling. -/
theorem isSome_insert_freshTransfer {toAddress : String} {amount nonce : ℤ} {now : Instant}
    (hamount : 0 < amount) (hnonce : 0 ≤ nonce)
    (hfree : ∀ a ∈ s.rows, a.live = true → a.nonce ≠ nonce)
    (hnone : ∀ a ∈ s.rows, a.payoutID = pid → a.liveTransfer = false) :
    (s.insert (freshTransfer pid (s.nextAttemptSeq pid) toAddress amount nonce
      now)).isSome = true := by
  set b := freshTransfer pid (s.nextAttemptSeq pid) toAddress amount nonce now with hb
  have hkey : s.table.find? b.key = none := by
    refine Table.find?_eq_none.mpr fun a ha hk => ?_
    have hp : a.payoutID = pid := congrArg Prod.fst hk
    have hseq : a.attemptSeq = s.nextAttemptSeq pid := congrArg Prod.snd hk
    have hlt := lt_nextAttemptSeq ha
    rw [hp] at hlt
    omega
  rcases ht : s.table.insert b with _ | t
  · exact absurd hkey (Table.insert_eq_none.mp ht)
  have hcons : Constraints t.rows := by
    rw [(Table.insert_eq_some ht).2]
    refine ⟨fun x hx => ?_, fun x hx y hy h1 h2 hn => ?_, fun x hx y hy h1 h2 hp => ?_⟩
    · rcases List.mem_append.mp hx with hx | hx
      · exact s.constraints.checks x hx
      · rw [List.mem_singleton.mp hx]
        exact ⟨Nat.succ_le_succ (Nat.zero_le _), hamount, hnonce⟩
    · rcases List.mem_append.mp hx with hx | hx <;> rcases List.mem_append.mp hy with hy | hy
      · exact s.constraints.nonce x hx y hy h1 h2 hn
      · rw [List.mem_singleton.mp hy] at hn
        exact absurd hn (hfree x hx h1)
      · rw [List.mem_singleton.mp hx] at hn
        exact absurd hn.symm (hfree y hy h2)
      · rw [List.mem_singleton.mp hx, List.mem_singleton.mp hy]
    · rcases List.mem_append.mp hx with hx | hx <;> rcases List.mem_append.mp hy with hy | hy
      · exact s.constraints.oneLive x hx y hy h1 h2 hp
      · rw [List.mem_singleton.mp hy] at hp
        exact absurd h1 (by rw [hnone x hx hp]; decide)
      · rw [List.mem_singleton.mp hx] at hp
        exact absurd h2 (by rw [hnone y hy hp.symm]; decide)
      · rw [List.mem_singleton.mp hx, List.mem_singleton.mp hy]
  unfold insert
  rw [ht]
  dsimp only
  rw [dif_pos hcons]
  rfl

/-- Stamped in the window, or neither stamped nor confirmed. -/
def inWindow (since : Instant) (a : Attempt) : Bool :=
  a.liveTransfer &&
    match a.progress.broadcastAt with
    | some t => decide (encodeTime since ≤ encodeTime t)
    | none => a.progress.confirmedAt.isNone

/-- `SUM` fails on an overflow. -/
def sumAmountWindow (s : AttemptTable) (since : Instant) : Option ℤ :=
  let sum := s.table.sumWhere (inWindow since) Attempt.amount
  if sum ≤ maxInt64 then some sum else none

/-- `CountStaleUnbroadcastTx`; cancels count too. -/
def countStaleUnbroadcast (s : AttemptTable) (cutoff : Instant) : ℕ :=
  s.table.countWhere fun a => a.live && a.progress.broadcastAt.isNone &&
    a.progress.confirmedAt.isNone && decide (encodeTime a.progress.updatedAt < encodeTime cutoff)

/-- `sumCancelGasLast24h`. -/
def sumCancelGas (s : AttemptTable) (since : Instant) : ℤ :=
  s.table.sumWhere
    (fun a => a.liveCancel &&
      match a.progress.broadcastAt with
      | some t => decide (encodeTime since ≤ encodeTime t)
      | none => a.gasReserved.isSome)
    fun a => (a.progress.gasUsed.orElse fun _ => a.gasReserved).getD 0

end AttemptTable

end MacProvider.Coordinator.Payout.Attempts
