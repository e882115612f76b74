import MacProvider.Coordinator.Billing.Schema

/-! # The outputs of settlement attempts

`InsertSettlementAttemptOutput` marks an output that overlaps or repeats another one of the request,
or stands out of order, and those it meets. The count takes undelivered outputs, the update does
not. -/

namespace MacProvider.Coordinator.Billing.Outputs

open Billing.Schema Lib.Tables

/-! ### Records -/

/-- How the delivery of an output ended. -/
inductive TerminalState
  | normalDone | providerError | buyerCancel | gatewayTimeout | upstreamTransportDisconnect
deriving DecidableEq

/-- Who observed the usage. -/
inductive ObservedSource
  | coordinatorObserved | byteEstimated
deriving DecidableEq

/-- A tool call in an output. -/
structure SettlementToolCall where
  id : String
  type : String
  name : String
  arguments : String
deriving DecidableEq

/-- What was delivered. -/
structure SettlementOutput where
  content : String
  finishReason : Option String
  outputPrefixStartByte : ℤ
  outputPrefixEndByte : ℤ
  terminalState : TerminalState
  toolCalls : List SettlementToolCall
deriving DecidableEq

/-- The counts of an output. -/
structure SettlementUsage where
  billableInputTokens : ℤ
  billableOutputTokens : ℤ
  deliveredOutputBytes : ℤ
  observedInputTokens : ℤ
  observedOutputTokens : ℤ
deriving DecidableEq

/-- The record of an attempt. -/
structure SettlementAttemptOutput where
  accountScope : String
  requestID : String
  attemptN : ℤ
  providerID : String
  output : SettlementOutput
  outputAvailable : Bool
  usage : SettlementUsage
  usageSource : ObservedSource
  terminalStateTSUnixMS : ℤ
  overlappingOrDuplicate : Bool
deriving DecidableEq

/-- A row of `settlement_attempt_outputs`. -/
structure StoredOutput extends AttemptOutput where
  terminalState : TerminalState
  terminalStateTSUnixMS : ℤ
  outputAvailable : Bool
  outputPrefixStartByte : ℤ
  outputPrefixEndByte : ℤ
  outputHash : Option String
  usageHash : String
  usageCanonicalJSON : String
  usageSource : ObservedSource
deriving DecidableEq

/-- The `UNIQUE` key. -/
abbrev OutputKey := String × String × ℕ × String

/-- The key of a row. -/
def StoredOutput.key (r : StoredOutput) : OutputKey :=
  (r.accountScope, r.requestID, r.attemptN, r.providerID)

/-- `settlement_attempt_outputs`. -/
abbrev OutputTable := Table StoredOutput.key

/-- Normal form, JSON and hash. A digest is not empty. -/
structure Codec where
  deliveredOutputBytes : String → ℤ
  jsonValid : String → Bool
  outputDigest : SettlementOutput → String
  usageCanonical : SettlementUsage → String
  usageDigest : SettlementUsage → String
  outputDigest_ne_empty : ∀ o, outputDigest o ≠ ""

/-- A refusal, or a conflict with a stored row. -/
inductive OutputError
  | accountScopeRequired | requestIDRequired | attemptNNegative | providerIDRequired
  | terminalStateTSRequired
  | unavailableByteRange | unavailableDelivered
  | byteRange (first last : ℤ)
  | deliveredBytes (delivered length : ℤ)
  | toolCall | toolCallArguments
  | usageNegative
  | usageDelivered
  | immutableConflict
deriving DecidableEq

/-- The checks of a usage. -/
def SettlementUsage.validate (u : SettlementUsage) : Except OutputError Unit :=
  if u.billableInputTokens < 0 ∨ u.billableOutputTokens < 0 ∨ u.deliveredOutputBytes < 0 ∨
      u.observedInputTokens < 0 ∨ u.observedOutputTokens < 0 then .error .usageNegative
  else .ok ()

/-- The checks of a tool call. -/
def SettlementToolCall.validate (c : Codec) (call : SettlementToolCall) : Except OutputError Unit :=
  if call.id = "" ∨ call.type ≠ "function" ∨ call.name = "" then .error .toolCall
  else if !c.jsonValid call.arguments then .error .toolCallArguments
  else .ok ()

/-- The checks of an output. -/
def SettlementOutput.validate (c : Codec) (o : SettlementOutput) : Except OutputError Unit :=
  if o.outputPrefixStartByte < 0 ∨ o.outputPrefixEndByte < o.outputPrefixStartByte then
    .error (.byteRange o.outputPrefixStartByte o.outputPrefixEndByte)
  else if c.deliveredOutputBytes o.content ≠ o.outputPrefixEndByte - o.outputPrefixStartByte then
    .error (.deliveredBytes (c.deliveredOutputBytes o.content)
      (o.outputPrefixEndByte - o.outputPrefixStartByte))
  else o.toolCalls.forM (SettlementToolCall.validate c)

/-- The checks of a record. -/
def SettlementAttemptOutput.validate (c : Codec) (a : SettlementAttemptOutput) :
    Except OutputError Unit :=
  if a.accountScope = "" then .error .accountScopeRequired
  else if a.requestID = "" then .error .requestIDRequired
  else if a.attemptN < 0 then .error .attemptNNegative
  else if a.providerID = "" then .error .providerIDRequired
  else if a.terminalStateTSUnixMS ≤ 0 then .error .terminalStateTSRequired
  else if !a.outputAvailable then
    if a.output.outputPrefixStartByte ≠ 0 ∨ a.output.outputPrefixEndByte ≠ 0 then
      .error .unavailableByteRange
    else do
      a.usage.validate
      if a.usage.deliveredOutputBytes ≠ 0 then .error .unavailableDelivered else .ok ()
  else do
    a.output.validate c
    a.usage.validate
    if a.usage.deliveredOutputBytes ≠
        a.output.outputPrefixEndByte - a.output.outputPrefixStartByte then .error .usageDelivered
    else .ok ()

/-! ### Inserting -/

/-- The hash of what was delivered. -/
def SettlementAttemptOutput.outputHash (c : Codec) (a : SettlementAttemptOutput) : String :=
  if a.outputAvailable then c.outputDigest a.output else ""

/-- The row of a record. -/
def SettlementAttemptOutput.stored (c : Codec) (a : SettlementAttemptOutput) (overlap : Bool) :
    StoredOutput where
  accountScope := a.accountScope
  requestID := a.requestID
  attemptN := a.attemptN.toNat
  providerID := a.providerID
  overlappingOrDuplicate := overlap
  terminalState := a.output.terminalState
  terminalStateTSUnixMS := a.terminalStateTSUnixMS
  outputAvailable := a.outputAvailable
  outputPrefixStartByte := a.output.outputPrefixStartByte
  outputPrefixEndByte := a.output.outputPrefixEndByte
  outputHash := if a.outputAvailable then some (a.outputHash c) else none
  usageHash := c.usageDigest a.usage
  usageCanonicalJSON := c.usageCanonical a.usage
  usageSource := a.usageSource

/-- The bytes overlap, the hash is the same, or the order is not that of the attempts. -/
def meets (c : Codec) (a : SettlementAttemptOutput) (r : StoredOutput) : Bool :=
  r.accountScope = a.accountScope ∧ r.requestID = a.requestID ∧
  ¬ ((r.attemptN : ℤ) = a.attemptN ∧ r.providerID = a.providerID) ∧
  (¬ (r.outputPrefixEndByte ≤ a.output.outputPrefixStartByte ∨
        a.output.outputPrefixEndByte ≤ r.outputPrefixStartByte) ∨
    r.outputHash = some (a.outputHash c) ∨
    ((r.attemptN : ℤ) < a.attemptN ∧ a.output.outputPrefixStartByte < r.outputPrefixStartByte) ∨
    (a.attemptN < r.attemptN ∧ r.outputPrefixStartByte < a.output.outputPrefixStartByte))

/-- The row is marked. -/
def StoredOutput.mark (r : StoredOutput) : StoredOutput := { r with overlappingOrDuplicate := true }

theorem mark_key (r : StoredOutput) : r.mark.key = r.key := rfl

/-- The record is marked. -/
def overlap (c : Codec) (a : SettlementAttemptOutput) (t : OutputTable) : Bool :=
  let overlapCount := if a.outputAvailable then t.countWhere (meets c a) else 0
  a.overlappingOrDuplicate || decide (0 < overlapCount)

/-- The rows that a marked record meets are marked. -/
def markMet (c : Codec) (a : SettlementAttemptOutput) (marked : Bool) (t : OutputTable) :
    OutputTable :=
  if marked then
    t.update (fun r => r.outputAvailable && meets c a r) StoredOutput.mark mark_key
  else t

/-- Insert the row, or find the same one. -/
def storeOutput (c : Codec) (a : SettlementAttemptOutput) (t : OutputTable) :
    Except OutputError (String × OutputTable) :=
  let marked := overlap c a t
  let row := a.stored c marked
  match t.insert row with
  | some t' => .ok (a.outputHash c, markMet c a marked t')
  | none =>
    -- `ON CONFLICT DO NOTHING`: the stored row has to be the same
    match (markMet c a marked t).find? row.key with
    | none => .error .immutableConflict
    | some existing =>
      if existing = row then .ok (a.outputHash c, markMet c a marked t)
      else .error .immutableConflict

/-- **`InsertSettlementAttemptOutput`**. -/
def insertSettlementAttemptOutput (c : Codec) (a : SettlementAttemptOutput) (t : OutputTable) :
    Except OutputError (String × OutputTable) := do
  a.validate c
  storeOutput c a t

/-- Records one after the other. -/
def insertAll (c : Codec) : List SettlementAttemptOutput → OutputTable →
    Except OutputError OutputTable
  | [], t => .ok t
  | a :: l, t => do
    let (_, t') ← insertSettlementAttemptOutput c a t
    insertAll c l t'

/-! ### What a valid record is -/

section Records
variable {c : Codec} {a b x : SettlementAttemptOutput} {f f' : Bool}

/-- The key of its row. -/
def SettlementAttemptOutput.key (a : SettlementAttemptOutput) : OutputKey :=
  (a.accountScope, a.requestID, a.attemptN.toNat, a.providerID)

theorem stored_key : (a.stored c f).key = a.key := rfl

/-- What comparisons need of a record. -/
structure Placed (a : SettlementAttemptOutput) : Prop where
  attemptN : 0 ≤ a.attemptN
  first : 0 ≤ a.output.outputPrefixStartByte
  last : a.output.outputPrefixStartByte ≤ a.output.outputPrefixEndByte
  unavailable : a.outputAvailable = false →
    a.output.outputPrefixStartByte = 0 ∧ a.output.outputPrefixEndByte = 0

theorem SettlementOutput.range_of_valid {o : SettlementOutput} (h : o.validate c = .ok ()) :
    0 ≤ o.outputPrefixStartByte ∧ o.outputPrefixStartByte ≤ o.outputPrefixEndByte := by
  unfold SettlementOutput.validate at h
  split at h
  · cases h
  · omega

theorem placed_of_valid (h : a.validate c = .ok ()) : Placed a := by
  unfold SettlementAttemptOutput.validate at h
  split at h
  · cases h
  split at h
  · cases h
  split at h
  · cases h
  next hn =>
  split at h
  · cases h
  split at h
  · cases h
  split at h
  · next hu =>
    split at h
    · cases h
    · next hr => exact ⟨by omega, by omega, by omega, fun _ => by omega⟩
  · next hu =>
    cases ho : a.output.validate c with
    | error e =>
      rw [ho] at h
      cases h
    | ok _ =>
      obtain ⟨h1, h2⟩ := SettlementOutput.range_of_valid ho
      exact ⟨by omega, h1, h2, fun hf => by simp [hf] at hu⟩

/-- Undelivered, of a later attempt, not at the first byte. -/
def Behind (x a : SettlementAttemptOutput) : Prop :=
  a.attemptN < x.attemptN ∧ 0 < a.output.outputPrefixStartByte

/-- Valid records of one request. -/
structure Peers (a b : SettlementAttemptOutput) : Prop where
  scope : a.accountScope = b.accountScope
  request : a.requestID = b.requestID
  left : Placed a
  right : Placed b

theorem Peers.symm (h : Peers a b) : Peers b a := ⟨h.scope.symm, h.request.symm, h.right, h.left⟩

section Request
variable (h : Peers a b)
include h

theorem meets_symm (hav : a.outputAvailable = true) (hbv : b.outputAvailable = true) :
    meets c a (b.stored c f) = true ↔ meets c b (a.stored c f') = true := by
  have hn := Int.toNat_of_nonneg h.left.attemptN
  have hn' := Int.toNat_of_nonneg h.right.attemptN
  simp only [meets, SettlementAttemptOutput.stored, decide_eq_true_eq, hav, hbv, if_true, hn, hn',
    h.scope, h.request, Option.some.injEq, true_and]
  rw [eq_comm (a := b.attemptN), eq_comm (a := b.providerID), eq_comm (a := b.outputHash c)]
  have h1 : ¬ (b.output.outputPrefixEndByte ≤ a.output.outputPrefixStartByte ∨
      a.output.outputPrefixEndByte ≤ b.output.outputPrefixStartByte) ↔
      ¬ (a.output.outputPrefixEndByte ≤ b.output.outputPrefixStartByte ∨
      b.output.outputPrefixEndByte ≤ a.output.outputPrefixStartByte) := by tauto
  tauto

theorem meets_unavailable_row (hbv : b.outputAvailable = false) :
    meets c a (b.stored c f) = true ↔ Behind b a := by
  have hn' := Int.toNat_of_nonneg h.right.attemptN
  obtain ⟨h1, h2⟩ := h.right.unavailable hbv
  have h3 := h.left.first
  simp only [meets, SettlementAttemptOutput.stored, decide_eq_true_eq, hbv, hn', h.scope, h.request,
    h1, h2, Behind, true_and]
  constructor
  · rintro ⟨-, hm | hm | hm | hm⟩
    · omega
    · simp at hm
    · omega
    · exact hm
  · intro hm
    exact ⟨by omega, by omega⟩

theorem unavailable_meets_row (hav : a.outputAvailable = false) (hbv : b.outputAvailable = true) :
    meets c a (b.stored c f) = true ↔ Behind a b := by
  have hn' := Int.toNat_of_nonneg h.right.attemptN
  obtain ⟨h1, h2⟩ := h.left.unavailable hav
  have h3 := h.right.first
  have hhash : c.outputDigest b.output ≠ "" := c.outputDigest_ne_empty b.output
  simp only [meets, SettlementAttemptOutput.stored, SettlementAttemptOutput.outputHash,
    decide_eq_true_eq, hav, hbv, hn', h.scope, h.request, h1, h2, Behind, true_and, if_true]
  constructor
  · rintro ⟨-, hm | hm | hm | hm⟩
    · omega
    · simp at hm
      exact absurd hm hhash
    · exact hm
    · omega
  · intro hm
    exact ⟨by omega, by omega⟩

theorem meets_comm (hbv : b.outputAvailable = true) :
    meets c a (b.stored c f) = true ↔ meets c b (a.stored c f') = true := by
  cases hav : a.outputAvailable with
  | true => exact meets_symm h hav hbv
  | false => rw [unavailable_meets_row h hav hbv, meets_unavailable_row h.symm hav]

end Request

end Records

/-! ### One insert -/

section Insert
variable {c : Codec} {a x : SettlementAttemptOutput} {t t' : OutputTable} {r : StoredOutput}

theorem insert_of_valid (hv : a.validate c = .ok ()) :
    insertSettlementAttemptOutput c a t = storeOutput c a t := by
  unfold insertSettlementAttemptOutput
  rw [hv]
  rfl

theorem not_meets_self (h : Placed a) (f : Bool) : meets c a (a.stored c f) = false := by
  have hn := Int.toNat_of_nonneg h.attemptN
  simp [meets, SettlementAttemptOutput.stored, hn]

theorem overlap_iff : overlap c a t = true ↔
    a.overlappingOrDuplicate = true ∨
      (a.outputAvailable = true ∧ ∃ r ∈ t.rows, meets c a r = true) := by
  unfold overlap
  simp only [Bool.or_eq_true, decide_eq_true_eq]
  refine or_congr_right ?_
  split_ifs with h
  · simp [h, Table.countWhere, List.length_pos_iff_exists_mem]
  · simp [h]

/-- What an insert makes of a row. -/
def afterInsert (c : Codec) (a : SettlementAttemptOutput) (marked : Bool) (r : StoredOutput) :
    StoredOutput :=
  if marked && (r.outputAvailable && meets c a r) then r.mark else r

theorem afterInsert_self {marked f : Bool} (h : Placed a) :
    afterInsert c a marked (a.stored c f) = a.stored c f := by
  unfold afterInsert
  rw [not_meets_self h]
  simp

theorem mem_markMet {marked : Bool} :
    r ∈ (markMet c a marked t).rows ↔ ∃ r₀ ∈ t.rows, afterInsert c a marked r₀ = r := by
  unfold markMet afterInsert
  cases marked with
  | false => simp
  | true =>
    rw [if_pos rfl, Table.mem_update]
    simp only [Bool.true_and]

/-- **A new record** marks the rows it meets. -/
theorem insert_new (hv : a.validate c = .ok ()) (hn : ∀ r ∈ t.rows, r.key ≠ a.key) :
    ∃ t', insertSettlementAttemptOutput c a t = .ok (a.outputHash c, t') ∧
      ∀ r, r ∈ t'.rows ↔ r = a.stored c (overlap c a t) ∨
        ∃ r₀ ∈ t.rows, afterInsert c a (overlap c a t) r₀ = r := by
  have hnone : t.find? (a.stored c (overlap c a t)).key = none := Table.find?_eq_none.mpr hn
  obtain ⟨t', ht'⟩ := Table.exists_insert hnone
  refine ⟨markMet c a (overlap c a t) t', ?_, fun r => ?_⟩
  · rw [insert_of_valid hv]
    unfold storeOutput
    dsimp only
    rw [ht']
  · have hself := @afterInsert_self c a (overlap c a t) (overlap c a t) (placed_of_valid hv)
    rw [mem_markMet, (Table.insert_eq_some ht').2]
    simp only [List.mem_append, List.mem_singleton]
    constructor
    · rintro ⟨r₀, h | rfl, rfl⟩
      · exact Or.inr ⟨r₀, h, rfl⟩
      · exact Or.inl hself
    · rintro (rfl | ⟨r₀, h, rfl⟩)
      · exact ⟨_, Or.inr rfl, hself⟩
      · exact ⟨r₀, Or.inl h, rfl⟩

/-- **A stored record** needs the same row and the same marks. -/
theorem insert_stored (hv : a.validate c = .ok ()) {f : Bool} (hr : a.stored c f ∈ t.rows) :
    insertSettlementAttemptOutput c a t =
      if overlap c a t = f then .ok (a.outputHash c, markMet c a (overlap c a t) t)
      else .error .immutableConflict := by
  have hfind : t.find? a.key = some (a.stored c f) := Table.find?_eq_some.mpr ⟨hr, rfl⟩
  have hnone : t.insert (a.stored c (overlap c a t)) = none := by
    rw [Table.insert_eq_none]
    exact fun h => by simp [stored_key, hfind] at h
  have hfind' : (markMet c a (overlap c a t) t).find? a.key = some (a.stored c f) :=
    Table.find?_eq_some.mpr ⟨mem_markMet.mpr ⟨_, hr, afterInsert_self (placed_of_valid hv)⟩, rfl⟩
  have heq : a.stored c f = a.stored c (overlap c a t) ↔ overlap c a t = f := by
    constructor
    · intro h
      exact (congrArg (fun r => r.overlappingOrDuplicate) h).symm
    · rintro rfl
      rfl
  rw [insert_of_valid hv]
  unfold storeOutput
  dsimp only
  rw [hnone]
  rw [stored_key, hfind']
  simp only [heq]

theorem insert_ok {r : String × OutputTable} (h : insertSettlementAttemptOutput c a t = .ok r) :
    ∃ t' marked, r.2 = markMet c a marked t' ∧
      ∀ k o, t.find? k = some o → t'.find? k = some o := by
  obtain ⟨-, -, h⟩ := bind_ok h
  unfold storeOutput at h
  dsimp only at h
  split at h
  · next t' hinsert =>
    cases h
    refine ⟨t', _, rfl, fun k o ho => ?_⟩
    rw [Table.find?_insert hinsert, if_neg]
    · exact ho
    · rintro rfl
      exact Option.some_ne_none o (ho.symm.trans (Table.insert_eq_some hinsert).1)
  · split at h
    · cases h
    · split_ifs at h
      cases h
      exact ⟨t, _, rfl, fun k o ho => ho⟩

end Insert

/-! ### A batch of records -/

/-- Valid records of one request, with their own keys. -/
structure Batch (c : Codec) (accountScope requestID : String)
    (l : List SettlementAttemptOutput) : Prop where
  valid : ∀ a ∈ l, a.validate c = .ok ()
  scope : ∀ a ∈ l, a.accountScope = accountScope
  request : ∀ a ∈ l, a.requestID = requestID
  nodup : (l.map SettlementAttemptOutput.key).Nodup

/-- The table has no row of the request. -/
def Fresh (accountScope requestID : String) (t : OutputTable) : Prop :=
  ∀ r ∈ t.rows, ¬ (r.accountScope = accountScope ∧ r.requestID = requestID)

/-- One of an undelivered and an earlier delivered output comes marked. -/
def Announced (l : List SettlementAttemptOutput) : Prop :=
  ∀ a ∈ l, ∀ x ∈ l, a.outputAvailable = true → x.outputAvailable = false → Behind x a →
    a.overlappingOrDuplicate = true ∨ x.overlappingOrDuplicate = true

/-- The record is marked among these. -/
def Marked (c : Codec) (l : List SettlementAttemptOutput) (a : SettlementAttemptOutput) : Prop :=
  a.overlappingOrDuplicate = true ∨
    (a.outputAvailable = true ∧ ∃ b ∈ l, meets c a (b.stored c false) = true)

instance (c : Codec) (l : List SettlementAttemptOutput) (a : SettlementAttemptOutput) :
    Decidable (Marked c l a) := by
  unfold Marked; infer_instance

/-- It holds `l` too, marked among themselves. -/
def Holds (c : Codec) (l : List SettlementAttemptOutput) (t t' : OutputTable) : Prop :=
  ∀ r, r ∈ t'.rows ↔ r ∈ t.rows ∨ ∃ a ∈ l, r = a.stored c (decide (Marked c l a))

section Batch
variable {c : Codec} {scope req : String} {l l' : List SettlementAttemptOutput}
  {a b x : SettlementAttemptOutput} {t t' : OutputTable} {r : StoredOutput}

theorem Batch.perm (h : Batch c scope req l) (hp : l'.Perm l) :
    Batch c scope req l' where
  valid a ha := h.valid a (hp.mem_iff.mp ha)
  scope a ha := h.scope a (hp.mem_iff.mp ha)
  request a ha := h.request a (hp.mem_iff.mp ha)
  nodup := (hp.map _).nodup_iff.mpr h.nodup

theorem Batch.left (h : Batch c scope req (l ++ l')) :
    Batch c scope req l where
  valid a ha := h.valid a (List.mem_append_left _ ha)
  scope a ha := h.scope a (List.mem_append_left _ ha)
  request a ha := h.request a (List.mem_append_left _ ha)
  nodup := by
    have hn := h.nodup
    rw [List.map_append] at hn
    exact hn.of_append_left

theorem Batch.peers (h : Batch c scope req l) (ha : a ∈ l) (hb : b ∈ l) : Peers a b where
  scope := (h.scope a ha).trans (h.scope b hb).symm
  request := (h.request a ha).trans (h.request b hb).symm
  left := placed_of_valid (h.valid a ha)
  right := placed_of_valid (h.valid b hb)

theorem Announced.mono (h : Announced l) (hsub : ∀ a ∈ l', a ∈ l) : Announced l' :=
  fun a ha x hx => h a (hsub a ha) x (hsub x hx)

theorem marked_congr (h : ∀ b, b ∈ l ↔ b ∈ l') : Marked c l a ↔ Marked c l' a := by
  unfold Marked
  simp only [h]

theorem meets_fresh (hfresh : Fresh scope req t) (hs : a.accountScope = scope)
    (hq : a.requestID = req) (hr : r ∈ t.rows) : meets c a r = false := by
  have hne := hfresh r hr
  rw [← hs, ← hq] at hne
  unfold meets
  rw [decide_eq_false_iff_not]
  exact fun h => hne ⟨h.1, h.2.1⟩

theorem overlap_of_holds (hfresh : Fresh scope req t) (hh : Holds c l t t')
    (hs : a.accountScope = scope) (hq : a.requestID = req) :
    overlap c a t' = decide (Marked c l a) := by
  rw [Bool.eq_iff_iff, overlap_iff, decide_eq_true_iff]
  refine or_congr_right (and_congr_right fun _ => ?_)
  constructor
  · rintro ⟨r, hr, hm⟩
    rcases (hh r).mp hr with ht | ⟨b, hb, rfl⟩
    · rw [meets_fresh hfresh hs hq ht] at hm
      cases hm
    · exact ⟨b, hb, hm⟩
  · rintro ⟨b, hb, hm⟩
    exact ⟨_, (hh _).mpr (Or.inr ⟨b, hb, rfl⟩), hm⟩

/-- **A stored record can be sent again.** -/
theorem insert_again (hb : Batch c scope req l)
    (hfresh : Fresh scope req t) (hh : Holds c l t t') (ha : a ∈ l) :
    insertSettlementAttemptOutput c a t' = .ok (a.outputHash c, t') := by
  have hs := hb.scope a ha
  have hq := hb.request a ha
  have hov := overlap_of_holds hfresh hh hs hq
  rw [insert_stored (hb.valid a ha) ((hh _).mpr (Or.inr ⟨a, ha, rfl⟩)), if_pos hov]
  suffices hsame : markMet c a (overlap c a t') t' = t' by rw [hsame]
  unfold markMet
  split_ifs with hmark
  swap
  · rfl
  refine Table.update_eq_self mark_key fun r hr hp => ?_
  rw [Bool.and_eq_true] at hp
  rcases (hh r).mp hr with ht | ⟨b, hbl, rfl⟩
  · rw [meets_fresh hfresh hs hq ht] at hp
    cases hp.2
  -- the row it meets was marked when the later one of the two came
  have hmarked : Marked c l b :=
    Or.inr ⟨hp.1, a, ha, (meets_comm (hb.peers ha hbl) hp.1).mp hp.2⟩
  unfold StoredOutput.mark SettlementAttemptOutput.stored
  rw [decide_eq_true hmarked]

theorem key_new (hb : Batch c scope req (l ++ [x]))
    (hfresh : Fresh scope req t) (hh : Holds c l t t') : ∀ r ∈ t'.rows, r.key ≠ x.key := by
  have hx : x ∈ l ++ [x] := by simp
  intro r hr heq
  rcases (hh r).mp hr with ht | ⟨a, ha, rfl⟩
  · simp only [StoredOutput.key, SettlementAttemptOutput.key, Prod.mk.injEq] at heq
    exact hfresh r ht ⟨heq.1.trans (hb.scope x hx), heq.2.1.trans (hb.request x hx)⟩
  · have hn := hb.nodup
    rw [List.map_append, List.nodup_append] at hn
    exact hn.2.2 _ (List.mem_map_of_mem ha) _ (by simp) heq

/-- **One more record.** -/
theorem insert_holds (hb : Batch c scope req (l ++ [x]))
    (hfresh : Fresh scope req t) (hann : Announced (l ++ [x])) (hh : Holds c l t t') :
    ∃ t'', insertSettlementAttemptOutput c x t' = .ok (x.outputHash c, t'') ∧
      Holds c (l ++ [x]) t t'' := by
  have hx : x ∈ l ++ [x] := by simp
  have hmem : ∀ {a}, a ∈ l → a ∈ l ++ [x] := fun ha => List.mem_append_left _ ha
  have hs := hb.scope x hx
  have hq := hb.request x hx
  have hpx := placed_of_valid (hb.valid x hx)
  obtain ⟨t'', hins, hrows⟩ := insert_new (hb.valid x hx) (key_new hb hfresh hh)
  have hov : overlap c x t' = decide (Marked c l x) := overlap_of_holds hfresh hh hs hq
  have hmx : Marked c l x ↔ Marked c (l ++ [x]) x := by
    unfold Marked
    simp [not_meets_self hpx]
  -- a row of the batch is marked by the insert exactly if it meets the new record
  have hold : ∀ a ∈ l, afterInsert c x (overlap c x t') (a.stored c (decide (Marked c l a))) =
      a.stored c (decide (Marked c (l ++ [x]) a)) := by
    intro a ha
    have hpeers := hb.peers hx (hmem ha)
    have hmore : Marked c (l ++ [x]) a ↔ Marked c l a ∨
        (a.outputAvailable = true ∧ meets c x (a.stored c false) = true) := by
      unfold Marked
      simp only [List.mem_append, List.mem_singleton, or_and_right, exists_or, exists_eq_left,
        and_or_left, or_assoc]
      refine or_congr_right (or_congr_right (and_congr_right fun hav => ?_))
      exact (meets_comm hpeers hav).symm
    -- a record that meets a row of the batch is marked, unless the row is
    have hmark : a.outputAvailable = true → meets c x (a.stored c false) = true →
        Marked c l a ∨ Marked c l x := by
      intro hav hm
      cases hxv : x.outputAvailable with
      | true => exact Or.inr (Or.inr ⟨hxv, a, ha, hm⟩)
      | false =>
        have hbehind := (unavailable_meets_row hpeers hxv hav).mp hm
        exact (hann a (hmem ha) x hx hav hxv hbehind).imp Or.inl Or.inl
    have hmeets : meets c x (a.stored c (decide (Marked c l a))) = meets c x (a.stored c false) :=
      rfl
    have hav : (a.stored c (decide (Marked c l a))).outputAvailable = a.outputAvailable := rfl
    unfold afterInsert
    rw [hov, hmeets, hav]
    split_ifs with hcond
    · simp only [Bool.and_eq_true, decide_eq_true_eq] at hcond
      rw [decide_eq_true (hmore.mpr (Or.inr hcond.2))]
      rfl
    · simp only [Bool.and_eq_true, decide_eq_true_eq] at hcond
      have hsame : Marked c (l ++ [x]) a ↔ Marked c l a := by
        rw [hmore]
        refine ⟨?_, Or.inl⟩
        rintro (h | ⟨h1, h2⟩)
        · exact h
        · exact (hmark h1 h2).resolve_right fun h => hcond ⟨h, h1, h2⟩
      rw [decide_eq_decide.mpr hsame]
  have hrow : x.stored c (overlap c x t') = x.stored c (decide (Marked c (l ++ [x]) x)) := by
    rw [hov, decide_eq_decide.mpr hmx]
  have hother : ∀ r ∈ t.rows, afterInsert c x (overlap c x t') r = r := by
    intro r hr
    unfold afterInsert
    rw [meets_fresh hfresh hs hq hr]
    simp
  refine ⟨t'', hins, fun r => ?_⟩
  rw [hrows, hrow]
  constructor
  · rintro (rfl | ⟨r₀, hr₀, rfl⟩)
    · exact Or.inr ⟨x, hx, rfl⟩
    · rcases (hh r₀).mp hr₀ with ht | ⟨a, ha, rfl⟩
      · rw [hother r₀ ht]
        exact Or.inl ht
      · exact Or.inr ⟨a, hmem ha, hold a ha⟩
  · rintro (ht | ⟨a, ha, rfl⟩)
    · exact Or.inr ⟨r, (hh r).mpr (Or.inl ht), hother r ht⟩
    · rcases List.mem_append.mp ha with hal | hax
      · exact Or.inr ⟨_, (hh _).mpr (Or.inr ⟨a, hal, rfl⟩), hold a hal⟩
      · rw [List.mem_singleton.mp hax]
        exact Or.inl rfl

theorem insertAll_snoc {hash : String} {t'' : OutputTable} (hall : insertAll c l t = .ok t')
    (hins : insertSettlementAttemptOutput c x t' = .ok (hash, t'')) :
    insertAll c (l ++ [x]) t = .ok t'' := by
  induction l generalizing t with
  | nil =>
    cases hall
    change (insertSettlementAttemptOutput c x t' >>= _) = _
    rw [hins]
    rfl
  | cons a l ih =>
    obtain ⟨r, hr, hall⟩ := bind_ok hall
    change (insertSettlementAttemptOutput c a t >>= _) = _
    rw [hr]
    exact ih hall

/-- **A whole batch**, in the order of the list. -/
theorem insertAll_holds (hb : Batch c scope req l)
    (hfresh : Fresh scope req t) (hann : Announced l) :
    ∃ t', insertAll c l t = .ok t' ∧ Holds c l t t' := by
  induction l using List.reverseRecOn with
  | nil => exact ⟨t, rfl, fun r => by simp⟩
  | append_singleton l x ih =>
    obtain ⟨t', hall, hh⟩ := ih hb.left (hann.mono fun a ha => List.mem_append_left _ ha)
    obtain ⟨t'', hins, hh'⟩ := insert_holds hb hfresh hann hh
    exact ⟨t'', insertAll_snoc hall hins, hh'⟩

theorem insertAll_pair (hb : Batch c scope req [a, x])
    (hfresh : Fresh scope req t) (hav : a.outputAvailable = true)
    (hxv : x.outputAvailable = false) (hbehind : Behind x a)
    (haf : a.overlappingOrDuplicate = false) (hxf : x.overlappingOrDuplicate = false) :
    ∃ t', insertAll c [a, x] t = .ok t' ∧
      insertSettlementAttemptOutput c a t' = .error .immutableConflict := by
  have ha : a ∈ [a, x] := by simp
  have hx : x ∈ [a, x] := by simp
  have hpa := placed_of_valid (hb.valid a ha)
  have hann : Announced [a] := by
    intro b hb' y hy hbv hyv
    rw [List.mem_singleton.mp hy, hav] at hyv
    cases hyv
  have hbatch : Batch c scope req [a] := @Batch.left c _ _ [a] [x] hb
  obtain ⟨t', hall, hh⟩ := insertAll_holds hbatch hfresh hann
  have hunmarked : ¬ Marked c [a] a := by
    rintro (h | ⟨-, b, hb', h⟩)
    · rw [haf] at h
      cases h
    · rw [List.mem_singleton.mp hb', not_meets_self hpa] at h
      cases h
  obtain ⟨t'', hins, hrows⟩ := insert_new (hb.valid x hx) (key_new (l := [a]) hb hfresh hh)
  have hov : overlap c x t' = false := by
    rw [Bool.eq_false_iff, Ne, overlap_iff, hxf, hxv]
    simp
  rw [hov] at hrows
  have hkept : a.stored c false ∈ t''.rows := by
    refine (hrows _).mpr (Or.inr ⟨_, (hh _).mpr (Or.inr ⟨a, by simp, rfl⟩), ?_⟩)
    unfold afterInsert
    rw [Bool.false_and, if_neg Bool.false_ne_true, decide_eq_false hunmarked]
  -- the count takes the undelivered output, although the update did not mark the row for it
  have hov' : overlap c a t'' = true := by
    refine overlap_iff.mpr (Or.inr ⟨hav, _, (hrows _).mpr (Or.inl rfl), ?_⟩)
    exact (meets_unavailable_row (hb.peers ha hx) hxv).mpr hbehind
  refine ⟨t'', insertAll_snoc hall hins, ?_⟩
  rw [insert_stored (hb.valid a ha) hkept, hov', if_neg (by simp)]

end Batch

/-- All orders succeed, with the same rows. -/
def OrderFree (c : Codec) (t : OutputTable) (l : List SettlementAttemptOutput) : Prop :=
  ∀ l₁ l₂, l₁.Perm l → l₂.Perm l → ∃ t₁ t₂, insertAll c l₁ t = .ok t₁ ∧
    insertAll c l₂ t = .ok t₂ ∧ ∀ r, r ∈ t₁.rows ↔ r ∈ t₂.rows

/-- A stored record can be sent again at any point. -/
def Repeatable (c : Codec) (t : OutputTable) (l : List SettlementAttemptOutput) : Prop :=
  ∀ l₁ l₂, (l₁ ++ l₂).Perm l → ∃ t₁, insertAll c l₁ t = .ok t₁ ∧
    ∀ a ∈ l₁, insertSettlementAttemptOutput c a t₁ = .ok (a.outputHash c, t₁)

/-- **The order of arrival does not matter exactly if** every undelivered output of a later attempt
is announced. -/
theorem overlap_flags_ignore_order_iff (c : Codec) (accountScope requestID : String)
    (t : OutputTable) (hfresh : Fresh accountScope requestID t)
    (l : List SettlementAttemptOutput) (hb : Batch c accountScope requestID l) :
    (OrderFree c t l ∧ Repeatable c t l) ↔
      ∀ a ∈ l, ∀ x ∈ l, a.outputAvailable = true → x.outputAvailable = false →
        a.attemptN < x.attemptN → 0 < a.output.outputPrefixStartByte →
        a.overlappingOrDuplicate = true ∨ x.overlappingOrDuplicate = true := by
  constructor
  · rintro ⟨-, hrep⟩ a ha x hx hav hxv hn hstart
    by_contra hnot
    obtain ⟨haf, hxf⟩ := not_or.mp hnot
    have hne : x ≠ a := by
      rintro rfl
      rw [hav] at hxv
      cases hxv
    have hperm : ([a, x] ++ (l.erase a).erase x).Perm l := by
      have h1 := List.perm_cons_erase ha
      have h2 := List.perm_cons_erase ((List.mem_erase_of_ne hne).mpr hx)
      exact ((h2.symm.cons a).trans h1.symm)
    obtain ⟨t₁, hall, hagain⟩ := hrep _ _ hperm
    obtain ⟨t', hall', herr⟩ := insertAll_pair (hb.perm hperm).left hfresh hav hxv ⟨hn, hstart⟩
      (by simpa using haf) (by simpa using hxf)
    rw [hall] at hall'
    cases hall'
    rw [hagain a (by simp)] at herr
    cases herr
  · intro hcond
    have hann : Announced l := fun a ha x hx hav hxv hbehind =>
      hcond a ha x hx hav hxv hbehind.1 hbehind.2
    constructor
    · intro l₁ l₂ h₁ h₂
      obtain ⟨t₁, hall₁, hh₁⟩ := insertAll_holds (hb.perm h₁) hfresh
        (hann.mono fun a ha => h₁.mem_iff.mp ha)
      obtain ⟨t₂, hall₂, hh₂⟩ := insertAll_holds (hb.perm h₂) hfresh
        (hann.mono fun a ha => h₂.mem_iff.mp ha)
      have hmem : ∀ b, b ∈ l₁ ↔ b ∈ l₂ := fun b => h₁.mem_iff.trans h₂.mem_iff.symm
      refine ⟨t₁, t₂, hall₁, hall₂, fun r => ?_⟩
      rw [hh₁ r, hh₂ r]
      refine or_congr_right (exists_congr fun a => ?_)
      rw [hmem a, decide_eq_decide.mpr (marked_congr hmem)]
    · intro l₁ l₂ hp
      have hb₁ := (hb.perm hp).left
      obtain ⟨t₁, hall, hh⟩ := insertAll_holds hb₁ hfresh
        (hann.mono fun a ha => hp.mem_iff.mp (List.mem_append_left _ ha))
      exact ⟨t₁, hall, fun a ha => insert_again hb₁ hfresh hh ha⟩

/-! ### An undelivered retry -/

/-- A text is its own hash. -/
def demoCodec : Codec where
  deliveredOutputBytes s := s.length
  jsonValid _ := true
  outputDigest o := if o.content = "" then "empty" else o.content
  usageCanonical _ := "usage"
  usageDigest _ := "digest"
  outputDigest_ne_empty o := by
    split_ifs with h
    · decide
    · exact h

/-- Two bytes behind the tenth one. -/
def demoDelivered : SettlementAttemptOutput where
  accountScope := "acct"
  requestID := "req"
  attemptN := 0
  providerID := "p"
  output := ⟨"hi", none, 10, 12, .normalDone, []⟩
  outputAvailable := true
  usage := ⟨5, 2, 2, 5, 2⟩
  usageSource := .coordinatorObserved
  terminalStateTSUnixMS := 1
  overlappingOrDuplicate := false

/-- A retry that delivered nothing. -/
def demoUndelivered : SettlementAttemptOutput where
  accountScope := "acct"
  requestID := "req"
  attemptN := 1
  providerID := "p"
  output := ⟨"", none, 0, 0, .providerError, []⟩
  outputAvailable := false
  usage := ⟨5, 0, 0, 5, 0⟩
  usageSource := .byteEstimated
  terminalStateTSUnixMS := 2
  overlappingOrDuplicate := false

/-- The flags behind a sequence of inserts. -/
def flags (l : List SettlementAttemptOutput) : Except OutputError (List (ℕ × Bool)) :=
  (insertAll demoCodec l Table.empty).map fun t =>
    t.rows.map fun r => (r.attemptN, r.overlappingOrDuplicate)

/-- The delivered one is marked only if the retry came before it. -/
theorem undelivered_retry_marks_by_order :
    flags [demoDelivered, demoUndelivered] = .ok [(0, false), (1, false)] ∧
      flags [demoUndelivered, demoDelivered] = .ok [(1, false), (0, true)] ∧
      flags [demoDelivered, demoUndelivered, demoDelivered] = .error .immutableConflict := by
  decide +kernel

theorem overlap_flags_ignore_order_marked_retry :
    OrderFree demoCodec Table.empty
        [demoDelivered, { demoUndelivered with overlappingOrDuplicate := true }] ∧
      Repeatable demoCodec Table.empty
        [demoDelivered, { demoUndelivered with overlappingOrDuplicate := true }] := by
  have hb : Batch demoCodec "acct" "req"
      [demoDelivered, { demoUndelivered with overlappingOrDuplicate := true }] :=
    ⟨by decide +kernel, by decide, by decide, by decide⟩
  have hfresh : Fresh "acct" "req" Table.empty := fun r hr => by cases hr
  exact (overlap_flags_ignore_order_iff demoCodec "acct" "req" Table.empty hfresh _ hb).mpr
    (by decide)

end MacProvider.Coordinator.Billing.Outputs
