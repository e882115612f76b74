import MacProvider.Coordinator.Billing.HotPath
import MacProvider.Coordinator.Billing.RouteSnapshots
import MacProvider.Lib.Base64
import MacProvider.Lib.Json.Records

/-! # The texts of settlement receipts

`parseSettlementReceiptV04` (`internal/billing/settlement_verifier.go`): a receipt is a tuple in
JSON and a signature, both in base64. A `null` leaves a field as it is, so an integer can be
missing. -/

namespace MacProvider.Coordinator.Billing.ReceiptTuples

open MacProvider.Lib Lib.Json Billing.CanonicalJson Billing.RouteSnapshots
open Billing.HotPath (ReceiptResult)

/-! ### Tuples -/

/-- The keys of a usage. -/
inductive UsageKey
  | billableInputTokens | billableOutputTokens | deliveredOutputBytes | observedInputTokens
  | observedOutputTokens
deriving DecidableEq

/-- How a key is written. -/
def UsageKey.name : UsageKey → String
  | billableInputTokens => "billable_input_tokens"
  | billableOutputTokens => "billable_output_tokens"
  | deliveredOutputBytes => "delivered_output_bytes"
  | observedInputTokens => "observed_input_tokens"
  | observedOutputTokens => "observed_output_tokens"

/-- The keys of texts. -/
inductive TextKey
  | accountScope | catalogBodyDigest | catalogID | expectedCatalogModelHash | modelHash | modelID
  | outputHash | promptHash | providerID | providerReceiptKeyID | receiptVersion | requestID
  | routeSnapshotDigest | routeSnapshotMode | routeSnapshotPolicyVersion | signatureKeyAlg
  | terminalState
deriving DecidableEq

/-- How a key is written. -/
def TextKey.name : TextKey → String
  | accountScope => "account_scope"
  | catalogBodyDigest => "catalog_body_digest"
  | catalogID => "catalog_id"
  | expectedCatalogModelHash => "expected_catalog_model_hash"
  | modelHash => "model_hash"
  | modelID => "model_id"
  | outputHash => "output_hash"
  | promptHash => "prompt_hash"
  | providerID => "provider_id"
  | providerReceiptKeyID => "provider_receipt_key_id"
  | receiptVersion => "receipt_version"
  | requestID => "request_id"
  | routeSnapshotDigest => "route_snapshot_digest"
  | routeSnapshotMode => "route_snapshot_mode"
  | routeSnapshotPolicyVersion => "route_snapshot_policy_version"
  | signatureKeyAlg => "signature_key_alg"
  | terminalState => "terminal_state"

/-- The keys of integers. -/
inductive IntKey
  | attemptN | issuedAtUnixMS | outputPrefixEndByte | outputPrefixStartByte | terminalStateTSUnixMS
deriving DecidableEq

/-- How a key is written. -/
def IntKey.name : IntKey → String
  | attemptN => "attempt_n"
  | issuedAtUnixMS => "issued_at_unix_ms"
  | outputPrefixEndByte => "output_prefix_end_byte"
  | outputPrefixStartByte => "output_prefix_start_byte"
  | terminalStateTSUnixMS => "terminal_state_ts_unix_ms"

/-- All of them. -/
def IntKey.all : List IntKey :=
  [.attemptN, .issuedAtUnixMS, .outputPrefixEndByte, .outputPrefixStartByte, .terminalStateTSUnixMS]

/-- The keys of a tuple. -/
inductive TupleKey
  | text (k : TextKey) | int (k : IntKey) | usage
deriving DecidableEq

/-- How a key is written. -/
def TupleKey.name : TupleKey → String
  | text k => k.name
  | int k => k.name
  | usage => "usage"

/-- The keys of a usage, in order. -/
def v04SettlementUsageKeys : Keys UsageKey where
  all := [.billableInputTokens, .billableOutputTokens, .deliveredOutputBytes, .observedInputTokens,
    .observedOutputTokens]
  name := UsageKey.name
  mem_all := fun k => by cases k <;> decide
  ordered := by decide

/-- The keys of a tuple, in order. -/
def v04SettlementTupleKeys : Keys TupleKey where
  all := [.text .accountScope, .int .attemptN, .text .catalogBodyDigest, .text .catalogID,
    .text .expectedCatalogModelHash, .int .issuedAtUnixMS, .text .modelHash, .text .modelID,
    .text .outputHash, .int .outputPrefixEndByte, .int .outputPrefixStartByte, .text .promptHash,
    .text .providerID, .text .providerReceiptKeyID, .text .receiptVersion, .text .requestID,
    .text .routeSnapshotDigest, .text .routeSnapshotMode, .text .routeSnapshotPolicyVersion,
    .text .signatureKeyAlg, .text .terminalState, .int .terminalStateTSUnixMS, .usage]
  name := TupleKey.name
  mem_all := by
    rintro (k | k | _)
    · cases k <;> decide
    · cases k <;> decide
    · decide
  ordered := by decide

/-- The record of a usage. -/
abbrev SettlementUsageV04 := UsageKey → ℤ

instance : DecidableEq SettlementUsageV04 := fun u u' =>
  decidable_of_iff (∀ k ∈ v04SettlementUsageKeys.all, u k = u' k)
    ⟨fun h => funext fun k => h k (v04SettlementUsageKeys.mem_all k), fun h _ _ => h ▸ rfl⟩

/-- What a field of a tuple holds. -/
abbrev Cell : TupleKey → Type
  | .text _ => String
  | .int _ => ℤ
  | .usage => SettlementUsageV04

/-- The record of a tuple. -/
def SettlementTupleV04 := ∀ k, Cell k

namespace SettlementTupleV04

/-- A text of the tuple. -/
def text (t : SettlementTupleV04) (k : TextKey) : String := t (.text k)

/-- An integer of the tuple. -/
def int (t : SettlementTupleV04) (k : IntKey) : ℤ := t (.int k)

/-- Its usage. -/
def usage (t : SettlementTupleV04) : SettlementUsageV04 := t .usage

/-- A tuple of its parts. -/
def of (text : TextKey → String) (int : IntKey → ℤ) (usage : SettlementUsageV04) :
    SettlementTupleV04
  | .text k => text k
  | .int k => int k
  | .usage => usage

theorem eq_of {t : SettlementTupleV04} {text : TextKey → String} {int : IntKey → ℤ}
    {usage : SettlementUsageV04} (htext : ∀ k, t.text k = text k) (hint : ∀ k, t.int k = int k)
    (husage : t.usage = usage) : t = .of text int usage := by
  funext k
  cases k with
  | text k => exact htext k
  | int k => exact hint k
  | usage => exact husage

end SettlementTupleV04

/-- A usage is read. -/
def decodeUsage : Value → SettlementUsageV04 → Option SettlementUsageV04 :=
  decodeRecord true (v04SettlementUsageKeys.slots fun _ => decodeInt64)

/-- A field is read. -/
def decodeCell : ∀ k, Value → Cell k → Option (Cell k)
  | .text _ => decodeString
  | .int _ => decodeInt64
  | .usage => decodeUsage

/-- Nothing is read yet. -/
def zeroUsage : SettlementUsageV04 := fun _ => 0

/-- Nothing is read yet. -/
def zeroTuple : SettlementTupleV04 := .of (fun _ => "") (fun _ => 0) zeroUsage

/-- A tuple is read. -/
def decodeTuple (v : Value) : Option SettlementTupleV04 :=
  decodeRecord true (v04SettlementTupleKeys.slots decodeCell) v zeroTuple

/-! ### Parsing -/

/-- The bytes of tuple and signature. -/
def splitSettlementReceiptEnvelope (header : String) : Option (List UInt8 × List UInt8) :=
  let before := header.toList.takeWhile (· ≠ '.')
  match header.toList.dropWhile (· ≠ '.') with
  | [] => none
  | _ :: after =>
    if before = [] ∨ after = [] ∨ '.' ∈ after then none
    else
      (Base64.decode before).bind fun tupleRaw => (Base64.decode after).bind fun signature =>
        if signature.length = 64 then some (tupleRaw, signature) else none

/-- `decodeSettlementRawObject`; `null` is empty. -/
def rawObject : Value → Option (List (String × Value))
  | .object ms => some (lastMembers ms)
  | .null => some []
  | _ => none

/-- A text among the fields. -/
def settlementRawString (fields : List (String × Value)) (key : String) : String :=
  match get? fields key with
  | some (.string s) => s
  | _ => ""

/-- An object among the fields. -/
def settlementRawObject (fields : List (String × Value)) (key : String) :
    Option (List (String × Value)) :=
  (get? fields key).bind rawObject

/-- Equal after sorting. -/
def sameSettlementStringSet (got want : List String) : Bool := got.isPerm want

/-- A wrong version or wrong keys. -/
def shapeProblem (fields : List (String × Value)) : Option (ReceiptResult × String) :=
  let rv := settlementRawString fields "receipt_version"
  if rv = "" then some (.invalid, "not_settlement_capable")
  else if rv ≠ "4" then
    if rv = "1" ∨ rv = "2" ∨ rv = "3" then some (.invalid, "not_settlement_capable")
    else some (.inconclusive, "unknown_receipt_version")
  else if sameSettlementStringSet (keys fields) v04SettlementTupleKeys.names = false then
    some (.invalid, "tuple_shape_invalid")
  else
    match settlementRawObject fields "usage" with
    | none => some (.invalid, "usage_shape_invalid")
    | some usageFields =>
      if sameSettlementStringSet (keys usageFields) v04SettlementUsageKeys.names = false then
        some (.invalid, "usage_shape_invalid")
      else none

/-- The texts that must not be empty. -/
def requiredTexts : List TextKey :=
  [.accountScope, .catalogID, .modelID, .providerID, .requestID, .routeSnapshotMode,
    .routeSnapshotPolicyVersion]

/-- The texts that must be hashes. -/
def requiredHashes : List TextKey :=
  [.catalogBodyDigest, .expectedCatalogModelHash, .modelHash, .outputHash, .promptHash,
    .routeSnapshotDigest]

/-- The first field among these that fails a check. -/
def SettlementTupleV04.failing (t : SettlementTupleV04) (o : MapOrder) (ok : String → Bool)
    (ks : List TextKey) : Option String :=
  firstFailing o ok (ks.map fun k => (k.name, t.text k))

/-- The first problem. -/
def validateSettlementTupleScalars (o : MapOrder) (t : SettlementTupleV04) : Option String :=
  ((t.failing o present requiredTexts).map (· ++ "_missing")).or <|
  ((t.failing o hex64Pattern requiredHashes).map (· ++ "_invalid")).or <|
  (problem (t.text .receiptVersion ≠ "4") "receipt_version_invalid").or <|
  (problem (t.int .issuedAtUnixMS ≤ 0 ∨ t.int .terminalStateTSUnixMS ≤ 0) "timestamp_invalid").or <|
  problem (t.int .attemptN < 0 ∨ t.int .outputPrefixStartByte < 0 ∨
    t.int .outputPrefixEndByte < t.int .outputPrefixStartByte) "range_invalid"

/-- What a receipt says, and its bytes. -/
structure ParsedReceipt where
  tuple : SettlementTupleV04
  signature : List UInt8
  raw : List UInt8
  canonicalBytes : List UInt8

/-- The tuple of a value, with its JSON. -/
def readTuple (canonicalText : Value → Option (List Char)) (o : MapOrder) (v : Value) :
    Except (ReceiptResult × String) (SettlementTupleV04 × List Char) :=
  match rawObject v with
  | none => .error (.invalid, "tuple_json_invalid")
  | some fields =>
    match shapeProblem fields with
    | some p => .error p
    | none =>
      match canonicalText v with
      | none => .error (.invalid, "tuple_json_invalid")
      | some canonical =>
        match decodeTuple v with
        | none => .error (.invalid, "tuple_type_invalid")
        | some tuple =>
          match validateSettlementTupleScalars o tuple with
          | some reason => .error (.invalid, reason)
          | none => .ok (tuple, canonical)

/-- **`parseSettlementReceiptV04`**. -/
def parseSettlementReceiptV04 (canonicalText : Value → Option (List Char)) (o : MapOrder)
    (header : String) : Except (ReceiptResult × String) ParsedReceipt :=
  match splitSettlementReceiptEnvelope header with
  | none => .error (.invalid, "receipt_envelope_invalid")
  | some (raw, signature) =>
    match decodeText (Utf8.decode raw) with
    | none => .error (.invalid, "tuple_json_invalid")
    | some v =>
      (readTuple canonicalText o v).map fun (tuple, canonical) =>
        ⟨tuple, signature, raw, Utf8.encode canonical⟩

theorem decodeUsage_iff {w : UsageKey → Value} {u : SettlementUsageV04} :
    decodeUsage (.object (v04SettlementUsageKeys.members w)) zeroUsage = some u ↔
      ∀ k, decodeInt64 (w k) 0 = some (u k) :=
  v04SettlementUsageKeys.decode_iff

variable {v : Value} {fields : List (String × Value)} {t : SettlementTupleV04} {o : MapOrder}
  {canonicalText : Value → Option (List Char)} {e : ReceiptResult × String}

theorem decodeTuple_iff {w : TupleKey → Value} :
    decodeTuple (.object (v04SettlementTupleKeys.members w)) = some t ↔
      (∀ k, decodeString (w (.text k)) "" = some (t.text k)) ∧
      (∀ k, decodeInt64 (w (.int k)) 0 = some (t.int k)) ∧
      decodeUsage (w .usage) zeroUsage = some t.usage := by
  refine v04SettlementTupleKeys.decode_iff.trans
    ⟨fun h => ⟨fun k => h (.text k), fun k => h (.int k), h .usage⟩, fun ⟨h1, h2, h3⟩ k => ?_⟩
  cases k with
  | text k => exact h1 k
  | int k => exact h2 k
  | usage => exact h3

/-! ### What is parsed -/

theorem failing_eq_none {ok : String → Bool} {ks : List TextKey} :
    t.failing o ok ks = none ↔ ∀ k ∈ ks, ok (t.text k) = true := by
  simp [SettlementTupleV04.failing, firstFailing_eq_none]

theorem validateSettlementTupleScalars_eq_none :
    validateSettlementTupleScalars o t = none ↔
      (∀ k ∈ requiredTexts, present (t.text k) = true) ∧
        (∀ k ∈ requiredHashes, hex64Pattern (t.text k) = true) ∧ t.text .receiptVersion = "4" ∧
        (0 < t.int .issuedAtUnixMS ∧ 0 < t.int .terminalStateTSUnixMS) ∧ 0 ≤ t.int .attemptN ∧
        0 ≤ t.int .outputPrefixStartByte ∧
        t.int .outputPrefixStartByte ≤ t.int .outputPrefixEndByte := by
  simp only [validateSettlementTupleScalars, Option.or_eq_none_iff, Option.map_eq_none_iff,
    failing_eq_none, problem_eq_none, not_or, not_not, not_lt, not_le]

theorem settlementRawString_eq {key s : String} (h : settlementRawString fields key = s)
    (hne : s ≠ "") : get? fields key = some (.string s) := by
  unfold settlementRawString at h
  split at h
  · next s' hget => rw [hget, h]
  · exact absurd h.symm hne

theorem shapeProblem_eq_none (h : shapeProblem fields = none) :
    get? fields "receipt_version" = some (.string "4") ∧
      (keys fields).Perm v04SettlementTupleKeys.names ∧
      ∃ us, get? fields "usage" = some (.object us) ∧
        (keys (lastMembers us)).Perm v04SettlementUsageKeys.names := by
  unfold shapeProblem at h
  dsimp only at h
  split at h
  · cases h
  split at h
  · split at h
    · cases h
    · cases h
  next hversion =>
  split at h
  · cases h
  next hkeys =>
  split at h
  · cases h
  next usageFields husage =>
  split at h
  · cases h
  next husageKeys =>
  refine ⟨settlementRawString_eq (not_not.mp hversion) (by decide),
    List.isPerm_iff.mp ((Bool.not_eq_false _).mp hkeys), ?_⟩
  have hperm := List.isPerm_iff.mp ((Bool.not_eq_false _).mp husageKeys)
  obtain ⟨u, hget, hraw⟩ := Option.bind_eq_some_iff.mp husage
  cases u with
  | object us =>
    cases hraw
    exact ⟨us, hget, hperm⟩
  | null =>
    cases hraw
    exact absurd hperm.length_eq (by decide)
  | _ => cases hraw

theorem shapeProblem_members {w : TupleKey → Value} {u : UsageKey → Value}
    (hversion : w (.text .receiptVersion) = .string "4")
    (husage : w .usage = .object (v04SettlementUsageKeys.members u)) :
    shapeProblem (v04SettlementTupleKeys.members w) = none := by
  have hget : ∀ k, get? (v04SettlementTupleKeys.members w) k.name = some (w k) :=
    v04SettlementTupleKeys.get?_members w
  have hrv : settlementRawString (v04SettlementTupleKeys.members w) "receipt_version" = "4" := by
    have hget := hget (.text .receiptVersion)
    simp only [TupleKey.name, TextKey.name] at hget
    rw [settlementRawString, hget, hversion]
  have hobject : settlementRawObject (v04SettlementTupleKeys.members w) "usage" =
      some (v04SettlementUsageKeys.members u) := by
    have hget := hget .usage
    simp only [TupleKey.name] at hget
    rw [settlementRawObject, hget, husage]
    exact congrArg some (lastMembers_of_nodup (v04SettlementUsageKeys.ordered_members u).nodup)
  have hkeys : ∀ {κ : Type} (K : Keys κ) (f : κ → Value),
      sameSettlementStringSet (keys (K.members f)) K.names = true := fun K f =>
    List.isPerm_iff.mpr (K.keys_members f ▸ .refl _)
  simp [shapeProblem, hrv, hobject, hkeys]

theorem readTuple_eq_ok {canonical : List Char}
    (h : readTuple canonicalText o v = .ok (t, canonical)) :
    (∃ fields, rawObject v = some fields ∧ shapeProblem fields = none) ∧
      canonicalText v = some canonical ∧ decodeTuple v = some t ∧
      validateSettlementTupleScalars o t = none := by
  unfold readTuple at h
  split at h
  · cases h
  next fields hraw =>
  split at h
  · cases h
  next hshape =>
  split at h
  · cases h
  next canonical' hcanonical =>
  split at h
  · cases h
  next t' ht =>
  split at h
  · cases h
  next hvalidate =>
  cases h
  exact ⟨⟨fields, hraw, hshape⟩, hcanonical, ht, hvalidate⟩

theorem parseSettlementReceiptV04_eq_ok {header : String} {p : ParsedReceipt}
    (h : parseSettlementReceiptV04 canonicalText o header = .ok p) :
    splitSettlementReceiptEnvelope header = some (p.raw, p.signature) ∧
      ∃ v canonical, decodeText (Utf8.decode p.raw) = some v ∧
        readTuple canonicalText o v = .ok (p.tuple, canonical) ∧
        p.canonicalBytes = Utf8.encode canonical := by
  unfold parseSettlementReceiptV04 at h
  split at h
  · cases h
  next raw signature hsplit =>
  split at h
  · cases h
  next v hv =>
  cases hread : readTuple canonicalText o v with
  | error e =>
    rw [hread] at h
    cases h
  | ok result =>
    obtain ⟨t, canonical⟩ := result
    rw [hread] at h
    cases h
    exact ⟨hsplit, v, canonical, hv, hread, rfl⟩

theorem shapeProblem_not_valid (h : shapeProblem fields = some e) : e.1 ≠ .valid := by
  unfold shapeProblem at h
  dsimp only at h
  split_ifs at h <;> try (cases h; simp)
  split at h
  · cases h
    simp
  · split_ifs at h
    cases h
    simp

theorem readTuple_not_valid (h : readTuple canonicalText o v = .error e) : e.1 ≠ .valid := by
  unfold readTuple at h
  split at h
  · cases h
    simp
  split at h
  · next hshape =>
    cases h
    exact shapeProblem_not_valid hshape
  split at h
  · cases h
    simp
  split at h
  · cases h
    simp
  split at h
  · cases h
    simp
  · cases h

theorem parseSettlementReceiptV04_not_valid {header : String}
    (h : parseSettlementReceiptV04 canonicalText o header = .error e) : e.1 ≠ .valid := by
  unfold parseSettlementReceiptV04 at h
  split at h
  · cases h
    simp
  split at h
  · cases h
    simp
  next v hv =>
  cases hread : readTuple canonicalText o v with
  | error e' =>
    rw [hread] at h
    cases h
    exact readTuple_not_valid hread
  | ok result =>
    rw [hread] at h
    cases h

/-- **A canonical tuple** has its members in order. -/
theorem canonical_tuple {p : Platform}
    (hself : canonical (canonicalJSONNumber p) p.nfc (ofValue v) = some v)
    (hraw : rawObject v = some fields) (hshape : shapeProblem fields = none) :
    ∃ (w : TupleKey → Value) (u : UsageKey → Value),
      v = .object (v04SettlementTupleKeys.members w) ∧
        w .usage = .object (v04SettlementUsageKeys.members u) ∧
        (∀ k, canonical (canonicalJSONNumber p) p.nfc (ofValue (w k)) = some (w k)) ∧
        ∀ k, canonical (canonicalJSONNumber p) p.nfc (ofValue (u k)) = some (u k) := by
  obtain ⟨hversion, hkeys, us, husage, husageKeys⟩ := shapeProblem_eq_none hshape
  cases v with
  | object ms =>
    cases hraw
    obtain ⟨w, rfl, hw⟩ := Keys.exists_of_canonical hself hkeys
    rw [lastMembers_of_nodup (v04SettlementTupleKeys.ordered_members w).nodup] at husage
    have hobject : w .usage = .object us :=
      Option.some.inj ((v04SettlementTupleKeys.get?_members w .usage).symm.trans husage)
    obtain ⟨u, rfl, hu⟩ := Keys.exists_of_canonical (hobject ▸ hw .usage) husageKeys
    exact ⟨w, u, rfl, hobject, hw, hu⟩
  | null =>
    cases hraw
    cases hversion
  | _ => cases hraw

/-- A field in JSON. -/
def cellDatum : ∀ k, Cell k → Datum ℤ
  | .text _, s => .string s
  | .int _, z => .number z
  | .usage, u => .object (v04SettlementUsageKeys.members fun k => .number (u k))

/-- The canonical JSON of a tuple, in bytes. -/
def tupleBytes (p : Platform) (t : SettlementTupleV04) : Option (List UInt8) :=
  (canonicalInts p
    (.object (v04SettlementTupleKeys.members fun k => cellDatum k (t k)))).map Utf8.encode

/-- A usage in JSON. -/
def usageValue (u : SettlementUsageV04) : Value :=
  .object (v04SettlementUsageKeys.members fun k => .number (.ofInt (u k)))

/-- The values of a tuple in canonical JSON. -/
def tupleValues (p : Platform) (t : SettlementTupleV04) : TupleKey → Value
  | .text k => .string (p.nfc (t.text k))
  | .int k => .number (.ofInt (t.int k))
  | .usage => usageValue t.usage

theorem tupleBytes_eq (p : Platform) (t : SettlementTupleV04) :
    tupleBytes p t = some (Utf8.encode
      (print escapeJcs (.object (v04SettlementTupleKeys.members (tupleValues p t))))) := by
  have hcell : ∀ k, canonical (fun z : ℤ => some (Number.ofInt z)) p.nfc (cellDatum k (t k)) =
      some (tupleValues p t k) := by
    intro k
    cases k with
    | text k => rfl
    | int k => rfl
    | usage => exact Keys.canonical_datum fun _ => rfl
  rw [tupleBytes, canonicalInts, canonicalJSON, Keys.canonical_datum hcell]
  rfl

end MacProvider.Coordinator.Billing.ReceiptTuples
