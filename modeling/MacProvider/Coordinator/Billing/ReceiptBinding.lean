import MacProvider.Coordinator.Billing.ReceiptTuples
import MacProvider.Coordinator.Billing.Verifier

/-! # What an accepted receipt has signed

`VerifySettlementReceipt` (`internal/billing/settlement_verifier.go`) from the header on, and what
an accepted receipt has signed (`accepted_bytes_iff`). -/

namespace MacProvider.Coordinator.Billing.ReceiptBinding

open MacProvider.Gateway MacProvider.Lib Lib.Json Billing.CanonicalJson Billing.RouteSnapshots
open Billing.ReceiptTuples
open Billing.Verifier (SettlementVerifyResult settlementInvalid settlementQuarantined
  maxSettlementClockSkewMS)

/-! ### The verifier -/

/-- The platform with its signatures. -/
structure Crypto extends Platform where
  /-- `ed25519.Verify` on the key, the bytes and the signature. -/
  ed25519Verify : List UInt8 → List UInt8 → List UInt8 → Bool

/-- A header and the context of its attempt. -/
structure SettlementVerifyInput (ρ : Type) where
  header : String
  providerReceiptPubkey : List UInt8
  routeSnapshot : ρ
  accountScope : String
  requestID : String
  attemptN : ℤ
  providerID : String
  providerReceiptKeyID : String
  terminalState : String
  terminalStateTSUnixMS : ℤ
  outputHash : String
  outputPrefixStartByte : ℤ
  outputPrefixEndByte : ℤ
  expectedUsage : SettlementUsageV04
  usageSource : String
  usageCrossChecked : Bool
  overlappingOrDuplicate : Bool
  receiptReceivedUnixMS : ℤ
  nowUnixMS : ℤ
  receiptMissing : Bool
  trustRootInconclusive : Bool
  canonicalHashesAvailable : Bool
  alreadyDeadlineQuarantined : Bool
  terminalOutcomeFinal : Bool

/-- Snapshots, their digest, and canonical JSON. -/
structure Backend (ρ : Type) where
  columns : ρ → RouteColumns
  digest : MapOrder → ρ → Option String
  canonicalText : Value → Option (List Char)

/-- `ReceiptKeyID`. -/
def receiptKeyID (p : Platform) (pubkey : List UInt8) : Option String :=
  if pubkey.length = 32 then some ("ed25519-sha256:" ++ p.sha256Hex pubkey) else none

section Checks
variable {ρ : Type} (route : RouteColumns) (i : SettlementVerifyInput ρ) (t : SettlementTupleV04)

/-- How long a receipt is waited for. -/
def deadlineUnixMS : ℤ :=
  wrap64 (i.terminalStateTSUnixMS + wrap64 (route.pendingDeadlineSeconds * 1000))

/-- Quarantined behind the deadline. -/
def pendingUntilSettlementDeadline (reason : String) : SettlementVerifyResult :=
  let now := if i.nowUnixMS = 0 then i.receiptReceivedUnixMS else i.nowUnixMS
  if deadlineUnixMS route i < now then settlementQuarantined (reason ++ "_deadline_elapsed")
  else ⟨.pending, .inconclusive, reason⟩

/-- The results that do not look at the header. -/
def earlyResult : Option SettlementVerifyResult :=
  if i.alreadyDeadlineQuarantined then some (settlementQuarantined "deadline_quarantined")
  else if i.terminalOutcomeFinal then
    some (settlementQuarantined "duplicate_receipt_after_terminal")
  else if i.receiptMissing then some (pendingUntilSettlementDeadline route i "missing_receipt")
  else if i.trustRootInconclusive then
    some (pendingUntilSettlementDeadline route i "trust_root_inconclusive")
  else if i.canonicalHashesAvailable = false then
    some (settlementQuarantined "canonical_hash_unavailable")
  else if i.overlappingOrDuplicate then some (settlementQuarantined "overlapping_output_prefix")
  else none

/-- Bytes, key and signature. -/
def sealProblem (c : Crypto) (p : ParsedReceipt) : Option String :=
  (problem (p.raw ≠ p.canonicalBytes) "non_canonical_tuple").or <|
  (problem (p.tuple.text .signatureKeyAlg ≠ "Ed25519") "signature_key_alg_invalid").or <|
  (problem (¬ receiptKeyIDPattern (p.tuple.text .providerReceiptKeyID))
    "provider_receipt_key_id_invalid").or <|
  (problem (receiptKeyID c.toPlatform i.providerReceiptPubkey ≠
        some (p.tuple.text .providerReceiptKeyID) ∨
      p.tuple.text .providerReceiptKeyID ≠ route.providerReceiptKeyID)
    "provider_receipt_key_id_mismatch").or <|
  problem (¬ c.ed25519Verify i.providerReceiptPubkey p.raw p.signature) "signature_verify_failed"

/-- The first part of the match. -/
def identityMismatch : Option String :=
  (problem (t.text .accountScope ≠ i.accountScope ∨ t.text .accountScope ≠ route.accountScope)
    "account_scope_mismatch").or <|
  (problem (t.text .requestID ≠ i.requestID ∨ t.text .requestID ≠ route.requestID)
    "request_id_mismatch").or <|
  (problem (t.int .attemptN ≠ i.attemptN ∨ t.int .attemptN ≠ route.attemptN)
    "attempt_mismatch").or <|
  (problem (t.text .providerID ≠ i.providerID ∨ t.text .providerID ≠ route.providerID)
    "provider_id_mismatch").or <|
  problem (t.text .providerReceiptKeyID ≠ i.providerReceiptKeyID) "provider_receipt_key_id_mismatch"

/-- The ends of an attempt. -/
def settlementTerminalStates : List String :=
  ["normal_done", "provider_error", "buyer_cancel", "gateway_timeout",
    "upstream_transport_disconnect"]

/-- From the digest to the prompt. -/
def routeMismatch : Option String :=
  (problem (t.text .routeSnapshotMode ≠ route.routeSnapshotMode)
    "route_snapshot_mode_mismatch").or <|
  (problem (t.text .routeSnapshotPolicyVersion ≠ route.routeSnapshotPolicyVersion)
    "route_snapshot_policy_version_mismatch").or <|
  (problem (t.text .modelID ≠ route.modelID) "model_id_mismatch").or <|
  (problem (t.text .modelHash ≠ route.providerReportedModelHash ∨
    t.text .modelHash ≠ route.expectedCatalogModelHash) "model_hash_mismatch").or <|
  (problem (t.text .expectedCatalogModelHash ≠ route.expectedCatalogModelHash)
    "expected_catalog_model_hash_mismatch").or <|
  (problem (t.text .catalogID ≠ route.catalogID ∨
    t.text .catalogBodyDigest ≠ route.catalogBodyDigest) "catalog_snapshot_mismatch").or <|
  problem (t.text .promptHash ≠ route.promptHash) "prompt_hash_mismatch"

/-- The last part. -/
def outcomeMismatch : Option String :=
  (problem (t.text .outputHash ≠ i.outputHash) "output_hash_mismatch").or <|
  (problem (t.int .outputPrefixStartByte ≠ i.outputPrefixStartByte ∨
    t.int .outputPrefixEndByte ≠ i.outputPrefixEndByte) "output_prefix_mismatch").or <|
  (problem (t.text .terminalState ∉ settlementTerminalStates) "terminal_state_out_of_enum").or <|
  (problem (t.text .terminalState ≠ i.terminalState) "terminal_state_mismatch").or <|
  (problem (t.int .terminalStateTSUnixMS ≠ i.terminalStateTSUnixMS)
    "terminal_state_timestamp_mismatch").or <|
  problem (t.int .issuedAtUnixMS < wrap64 (route.requestStartTSUnixMS - maxSettlementClockSkewMS) ∨
    wrap64 (i.receiptReceivedUnixMS + maxSettlementClockSkewMS) < t.int .issuedAtUnixMS)
    "issued_at_window_mismatch"

/-- The first part that does not match. -/
def tupleMatchesSettlementContext (digest : String) : Option String :=
  (identityMismatch route i t).or <|
  (problem (t.text .routeSnapshotDigest ≠ digest) "route_snapshot_digest_mismatch").or <|
  (routeMismatch route t).or <|
  outcomeMismatch route i t

/-- What is wrong with a usage by itself. -/
def tupleSettlementUsage : Option String :=
  let u := t.usage
  (problem (t.int .outputPrefixStartByte < 0 ∨ t.int .outputPrefixEndByte < 0 ∨
    t.int .outputPrefixEndByte < t.int .outputPrefixStartByte) "output_prefix_invalid").or <|
  (problem (u .billableInputTokens < 0 ∨ u .billableOutputTokens < 0 ∨
    u .deliveredOutputBytes < 0 ∨ u .observedInputTokens < 0 ∨ u .observedOutputTokens < 0)
    "usage_negative_value").or <|
  (problem (u .deliveredOutputBytes ≠ t.int .outputPrefixEndByte - t.int .outputPrefixStartByte)
    "usage_delivered_bytes_mismatch").or <|
  if t.text .terminalState = "normal_done" then
    problem (u .billableInputTokens ≠ u .observedInputTokens ∨
      u .billableOutputTokens ≠ u .observedOutputTokens) "usage_observed_mismatch"
  else if u .deliveredOutputBytes = 0 then
    problem (u .billableInputTokens ≠ 0 ∨ u .billableOutputTokens ≠ 0)
      "usage_zero_prefix_billable_tokens"
  else
    problem (u .observedInputTokens < u .billableInputTokens ∨
      u .observedOutputTokens < u .billableOutputTokens) "usage_partial_billable_tokens"

/-- What is wrong with it beside the ledger. -/
def tupleUsageMatchesLedger : Option String :=
  (problem (i.usageCrossChecked = false) "usage_not_cross_checked").or <|
  (problem (i.usageSource ≠ "coordinator_observed") "usage_source_not_settlement_capable").or <|
  problem (t.usage ≠ i.expectedUsage) "usage_mismatch"

/-- The result of a receipt without a problem. -/
def acceptedResult : SettlementVerifyResult :=
  if t.text .terminalState ≠ "normal_done" ∧ t.usage .deliveredOutputBytes = 0 then
    ⟨.zeroSettled, .valid, "verified_zero_settlement"⟩
  else ⟨.verified, .valid, "verified_settlement"⟩

/-- The first problem of a receipt. -/
def receiptProblem (c : Crypto) (digest : String) (p : ParsedReceipt) : Option String :=
  (sealProblem route i c p).or <|
  (tupleMatchesSettlementContext route i p.tuple digest).or <|
  (tupleSettlementUsage p.tuple).or <|
  tupleUsageMatchesLedger i p.tuple

end Checks

section Verify
variable {ρ : Type}

/-- The result of a receipt that can be read. -/
def verifyParsed (c : Crypto) (b : Backend ρ) (i : SettlementVerifyInput ρ) (digest : String)
    (p : ParsedReceipt) : SettlementVerifyResult :=
  match receiptProblem (b.columns i.routeSnapshot) i c digest p with
  | some reason => settlementInvalid reason
  | none => acceptedResult p.tuple

/-- The checks that both verifiers make. -/
def verify (c : Crypto) (b : Backend ρ) (o : MapOrder) (i : SettlementVerifyInput ρ) :
    SettlementVerifyResult :=
  match earlyResult (b.columns i.routeSnapshot) i with
  | some result => result
  | none =>
    match b.digest o i.routeSnapshot with
    | none => settlementQuarantined "route_snapshot_invalid"
    | some digest =>
      if deadlineUnixMS (b.columns i.routeSnapshot) i < i.receiptReceivedUnixMS then
        settlementQuarantined "receipt_after_deadline"
      else
        match parseSettlementReceiptV04 b.canonicalText o i.header with
        | .error (result, reason) => ⟨.quarantined, result, reason⟩
        | .ok p => verifyParsed c b i digest p

end Verify

/-- The coordinator's. -/
def coordinator (p : Platform) : Backend RouteSnapshot where
  columns r := r.toRouteColumns
  digest o r := (r.digest p o).toOption.map Prod.fst
  canonicalText := canonicalText p

/-- **`VerifySettlementReceipt`**. -/
def verifySettlementReceipt (c : Crypto) (o : MapOrder) (i : SettlementVerifyInput RouteSnapshot) :
    SettlementVerifyResult :=
  verify c (coordinator c.toPlatform) o i

/-! ### What acceptance says -/

section Accepted
variable {ρ : Type} {c : Crypto} {b : Backend ρ} {o : MapOrder} {i : SettlementVerifyInput ρ}

variable {route : RouteColumns} {digest : String} {p : ParsedReceipt}

theorem earlyResult_not_valid {result : SettlementVerifyResult}
    (h : earlyResult route i = some result) : result.receiptResult ≠ .valid := by
  have hpending : ∀ reason,
      (pendingUntilSettlementDeadline route i reason).receiptResult ≠ .valid := by
    intro reason
    unfold pendingUntilSettlementDeadline
    dsimp only
    split_ifs <;> simp [settlementQuarantined]
  unfold earlyResult at h
  split_ifs at h <;> cases h <;> first | exact hpending _ | simp [settlementQuarantined]

/-- **An accepted receipt** has no problem. -/
theorem verify_valid (h : (verify c b o i).receiptResult = .valid) :
    ∃ digest p, b.digest o i.routeSnapshot = some digest ∧
      parseSettlementReceiptV04 b.canonicalText o i.header = .ok p ∧
      receiptProblem (b.columns i.routeSnapshot) i c digest p = none := by
  unfold verify at h
  split at h
  · next result hearly => exact absurd h (earlyResult_not_valid hearly)
  split at h
  · cases h
  next digest hdigest =>
  split at h
  · cases h
  split at h
  · next result reason hparse => exact absurd h (parseSettlementReceiptV04_not_valid hparse)
  next p hparse =>
  unfold verifyParsed at h
  split at h
  · cases h
  next hproblem => exact ⟨digest, p, hdigest, hparse, hproblem⟩

theorem receiptProblem_header (i : SettlementVerifyInput ρ) (header : String) :
    receiptProblem route { i with header := header } c digest p =
      receiptProblem route i c digest p := rfl

theorem verify_accepted (hearly : earlyResult (b.columns i.routeSnapshot) i = none)
    (hdigest : b.digest o i.routeSnapshot = some digest)
    (hdeadline : ¬ deadlineUnixMS (b.columns i.routeSnapshot) i < i.receiptReceivedUnixMS)
    (hparse : parseSettlementReceiptV04 b.canonicalText o i.header = .ok p)
    (hproblem : receiptProblem (b.columns i.routeSnapshot) i c digest p = none) :
    verify c b o i = acceptedResult p.tuple := by
  simp only [verify, hearly, hdigest, if_neg hdeadline, hparse, verifyParsed, hproblem]

/-- The tuple of a context, but for its time. -/
def expectedTuple (route : RouteColumns) (i : SettlementVerifyInput ρ) (digest : String)
    (issuedAt : ℤ) : SettlementTupleV04 :=
  .of
    (fun
      | .accountScope => i.accountScope
      | .catalogBodyDigest => route.catalogBodyDigest
      | .catalogID => route.catalogID
      | .expectedCatalogModelHash | .modelHash => route.expectedCatalogModelHash
      | .modelID => route.modelID
      | .outputHash => i.outputHash
      | .promptHash => route.promptHash
      | .providerID => i.providerID
      | .providerReceiptKeyID => i.providerReceiptKeyID
      | .receiptVersion => "4"
      | .requestID => i.requestID
      | .routeSnapshotDigest => digest
      | .routeSnapshotMode => route.routeSnapshotMode
      | .routeSnapshotPolicyVersion => route.routeSnapshotPolicyVersion
      | .signatureKeyAlg => "Ed25519"
      | .terminalState => i.terminalState)
    (fun
      | .attemptN => i.attemptN
      | .issuedAtUnixMS => issuedAt
      | .outputPrefixEndByte => i.outputPrefixEndByte
      | .outputPrefixStartByte => i.outputPrefixStartByte
      | .terminalStateTSUnixMS => i.terminalStateTSUnixMS)
    i.expectedUsage

/-- **Without a problem it is the expected tuple.** -/
theorem eq_expectedTuple (hproblem : receiptProblem route i c digest p = none)
    (hversion : p.tuple.text .receiptVersion = "4") :
    p.raw = p.canonicalBytes ∧
      receiptKeyIDPattern (p.tuple.text .providerReceiptKeyID) = true ∧
      p.tuple.text .terminalState ∈ settlementTerminalStates ∧
      p.tuple = expectedTuple route i digest (p.tuple.int .issuedAtUnixMS) := by
  simp only [receiptProblem, sealProblem, tupleMatchesSettlementContext, identityMismatch,
    routeMismatch, outcomeMismatch, tupleUsageMatchesLedger, Option.or_eq_none_iff,
    problem_eq_none, not_or, not_not] at hproblem
  obtain ⟨⟨hraw, halg, hpattern, -, -⟩, ⟨⟨hscope, hrequest, hattempt, hprovider, hkey⟩, hdigest,
    ⟨hmode, hpolicy, hmodel, hhash, hexpected, hcatalog, hprompt⟩, houtput, hrange, henum, hstate,
    hts, -⟩, -, -, -, husage⟩ := hproblem
  refine ⟨hraw, hpattern, henum, SettlementTupleV04.eq_of (fun k => ?_) (fun k => ?_) husage⟩
  · cases k with
    | accountScope => exact hscope.1
    | catalogBodyDigest => exact hcatalog.2
    | catalogID => exact hcatalog.1
    | expectedCatalogModelHash => exact hexpected
    | modelHash => exact hhash.2
    | modelID => exact hmodel
    | outputHash => exact houtput
    | promptHash => exact hprompt
    | providerID => exact hprovider.1
    | providerReceiptKeyID => exact hkey
    | receiptVersion => exact hversion
    | requestID => exact hrequest.1
    | routeSnapshotDigest => exact hdigest
    | routeSnapshotMode => exact hmode
    | routeSnapshotPolicyVersion => exact hpolicy
    | signatureKeyAlg => exact halg
    | terminalState => exact hstate
  · cases k with
    | attemptN => exact hattempt.1
    | issuedAtUnixMS => rfl
    | outputPrefixEndByte => exact hrange.2
    | outputPrefixStartByte => exact hrange.1
    | terminalStateTSUnixMS => exact hts

end Accepted

/-- The member is `null`. -/
def isNull : Option Value → Bool
  | some .null => true
  | _ => false

/-- An integer is `null`. -/
def hasNullInteger (raw : List UInt8) : Bool :=
  match decodeText (Utf8.decode raw) with
  | some (.object ms) =>
    IntKey.all.any (fun k => isNull (get? ms k.name)) ||
      match get? ms "usage" with
      | some (.object us) => v04SettlementUsageKeys.all.any fun k => isNull (get? us k.name)
      | _ => false
  | _ => false

variable {p : Platform} {raw : List UInt8} {t : SettlementTupleV04}

variable {o : MapOrder} {w : TupleKey → Value} {u : UsageKey → Value} {signature : List UInt8}
  {attempt : Value}

theorem hasNullInteger_members
    (hread : decodeText (Utf8.decode raw) = some (.object (v04SettlementTupleKeys.members w)))
    (husage : w .usage = .object (v04SettlementUsageKeys.members u)) :
    hasNullInteger raw = false ↔
      (∀ k, isNull (some (w (.int k))) = false) ∧ ∀ k, isNull (some (u k)) = false := by
  have hget : get? (v04SettlementTupleKeys.members w) "usage" =
      some (.object (v04SettlementUsageKeys.members u)) :=
    husage ▸ v04SettlementTupleKeys.get?_members w .usage
  have hint : ∀ k : IntKey, get? (v04SettlementTupleKeys.members w) k.name = some (w (.int k)) :=
    fun k => v04SettlementTupleKeys.get?_members w (.int k)
  have hcount : ∀ k : UsageKey, get? (v04SettlementUsageKeys.members u) k.name = some (u k) :=
    v04SettlementUsageKeys.get?_members u
  have hall : ∀ k, k ∈ IntKey.all := fun k => by cases k <;> decide
  simp [hasNullInteger, hread, hget, hint, hcount, hall, v04SettlementUsageKeys.mem_all]

theorem decodeText_tupleValues (p : Platform) (t : SettlementTupleV04) :
    decodeText (print escapeJcs (.object (v04SettlementTupleKeys.members (tupleValues p t)))) =
      some (.object (v04SettlementTupleKeys.members (tupleValues p t))) :=
  have hdepth : depth (.object (v04SettlementTupleKeys.members (tupleValues p t))) = 2 := rfl
  decodeText_print escapes_escapeJcs (hdepth ▸ by decide)

theorem hasNullInteger_tupleBytes (h : tupleBytes p t = some raw) : hasNullInteger raw = false := by
  rw [tupleBytes_eq] at h
  cases h
  rw [hasNullInteger_members (by rw [Utf8.decode_encode, decodeText_tupleValues]) rfl]
  exact ⟨fun _ => rfl, fun _ => rfl⟩

section Fields
variable {p : Platform} {v : Value}

theorem eq_string_of_canonical {s : String}
    (hself : canonical (canonicalJSONNumber p) p.nfc (ofValue v) = some v)
    (hread : decodeString v "" = some s) (hne : s ≠ "") : v = .string (p.nfc s) := by
  obtain ⟨-, rfl⟩ | rfl := decodeString_eq_some hread
  · exact absurd rfl hne
  · exact (Option.some.inj hself).symm

theorem eq_number_of_canonical {z : ℤ}
    (hself : canonical (canonicalJSONNumber p) p.nfc (ofValue v) = some v)
    (hread : decodeInt64 v 0 = some z) (hnull : isNull (some v) = false) :
    v = .number (.ofInt z) := by
  obtain ⟨rfl, -⟩ | ⟨n, rfl, hint, hrange⟩ := decodeInt64_eq_some hread
  · cases hnull
  obtain ⟨n', hn, heq⟩ := Option.map_eq_some_iff.mp hself
  cases heq
  rw [eq_ofInt_of_canonical hn hint (by simpa [inInt64] using hrange)]

end Fields

theorem text_ne_empty (hvalid : validateSettlementTupleScalars o t = none)
    (halg : t.text .signatureKeyAlg = "Ed25519")
    (hkey : receiptKeyIDPattern (t.text .providerReceiptKeyID) = true)
    (hstate : t.text .terminalState ∈ settlementTerminalStates) (k : TextKey) : t.text k ≠ "" := by
  obtain ⟨htexts, hhashes, hversion, -⟩ := validateSettlementTupleScalars_eq_none.mp hvalid
  intro hempty
  have hcases : k ∈ requiredTexts ∨ k ∈ requiredHashes ∨ k = .receiptVersion ∨
      k = .signatureKeyAlg ∨ k = .providerReceiptKeyID ∨ k = .terminalState := by
    cases k <;> decide
  rcases hcases with hk | hk | rfl | rfl | rfl | rfl
  · exact absurd (hempty ▸ htexts k hk) (by decide)
  · exact absurd (hempty ▸ hhashes k hk) (by decide)
  · exact absurd (hempty.symm.trans hversion) (by decide)
  · exact absurd (hempty.symm.trans halg) (by decide)
  · exact absurd (hempty ▸ hkey) (by decide)
  · exact absurd (hempty ▸ hstate) (by decide)

/-- **The value of an accepted tuple.** -/
theorem eq_tupleValues
    (hself : ∀ k, canonical (canonicalJSONNumber p) p.nfc (ofValue (w k)) = some (w k))
    (hself' : ∀ k, canonical (canonicalJSONNumber p) p.nfc (ofValue (u k)) = some (u k))
    (husage : w .usage = .object (v04SettlementUsageKeys.members u))
    (hread : decodeTuple (.object (v04SettlementTupleKeys.members w)) = some t)
    (htexts : ∀ k, t.text k ≠ "") (hints : ∀ k, isNull (some (w (.int k))) = false)
    (husages : ∀ k, isNull (some (u k)) = false) : w = tupleValues p t := by
  obtain ⟨htext, hint, hcount⟩ := decodeTuple_iff.mp hread
  rw [husage] at hcount
  funext k
  cases k with
  | text k => exact eq_string_of_canonical (hself _) (htext k) (htexts k)
  | int k => exact eq_number_of_canonical (hself _) (hint k) (hints k)
  | usage =>
    rw [husage, tupleValues, usageValue]
    congr 2
    funext k
    exact eq_number_of_canonical (hself' k) (decodeUsage_iff.mp hcount k) (husages k)

/-- **The bytes of an accepted receipt** are the canonical JSON of the expected tuple, unless an
integer is `null`. -/
theorem accepted_bytes_iff (c : Crypto) (o : MapOrder) (i : SettlementVerifyInput RouteSnapshot)
    (h : (verifySettlementReceipt c o i).receiptResult = .valid) :
    ∃ raw signature digest, splitSettlementReceiptEnvelope i.header = some (raw, signature) ∧
      (i.routeSnapshot.digest c.toPlatform o).toOption.map Prod.fst = some digest ∧
      ((∃ issuedAt, tupleBytes c.toPlatform
          (expectedTuple i.routeSnapshot.toRouteColumns i digest issuedAt) = some raw) ↔
        hasNullInteger raw = false) := by
  obtain ⟨digest, p, hdigest, hparse, hproblem⟩ := verify_valid h
  obtain ⟨hsplit, v, text, hv, hread, hbytes⟩ := parseSettlementReceiptV04_eq_ok hparse
  obtain ⟨⟨fields, hraw, hshape⟩, htext, htuple, hvalid⟩ := readTuple_eq_ok hread
  have hversion := (validateSettlementTupleScalars_eq_none.mp hvalid).2.2.1
  obtain ⟨hcanonical, hkey, hstate, hexpected⟩ := eq_expectedTuple hproblem hversion
  change p.tuple = expectedTuple i.routeSnapshot.toRouteColumns i digest _ at hexpected
  refine ⟨p.raw, p.signature, digest, hsplit, hdigest,
    fun ⟨issuedAt, hbytes⟩ => hasNullInteger_tupleBytes hbytes, fun hnull => ?_⟩
  refine ⟨p.tuple.int .issuedAtUnixMS, ?_⟩
  rw [← hexpected, tupleBytes_eq, hcanonical, hbytes]
  rw [hcanonical, hbytes, Utf8.decode_encode] at hv
  have hself := canonical_of_canonicalText hv htext
  obtain ⟨w, u, rfl, husage, hw, hu⟩ := canonical_tuple hself hraw hshape
  rw [hasNullInteger_members (by rw [hcanonical, hbytes, Utf8.decode_encode, hv]) husage] at hnull
  have halg : p.tuple.text .signatureKeyAlg = "Ed25519" := by
    rw [hexpected]
    rfl
  have heq := eq_tupleValues hw hu husage htuple (text_ne_empty hvalid halg hkey hstate) hnull.1
    hnull.2
  obtain ⟨w', hw', rfl⟩ := canonicalJSON_eq_some htext
  rw [hself] at hw'
  cases hw'
  rw [heq]

/-! ### Two receipts for one context -/

theorem decodeTuple_tupleValues (htexts : ∀ k, p.nfc (t.text k) = t.text k)
    (hints : ∀ k, -2 ^ 63 ≤ t.int k ∧ t.int k < 2 ^ 63)
    (husage : ∀ k, -2 ^ 63 ≤ t.usage k ∧ t.usage k < 2 ^ 63) :
    (∀ k, decodeString (tupleValues p t (.text k)) "" = some (t.text k)) ∧
      (∀ k, decodeInt64 (tupleValues p t (.int k)) 0 = some (t.int k)) ∧
      decodeUsage (tupleValues p t .usage) zeroUsage = some t.usage :=
  ⟨fun k => congrArg some (htexts k), fun k => decodeInt64_ofInt (hints k),
    decodeUsage_iff.mpr fun k => decodeInt64_ofInt (husage k)⟩

/-- The header with these bytes and this signature. -/
def headerOf (raw signature : List UInt8) : String :=
  String.ofList (Base64.encode raw ++ '.' :: Base64.encode signature)

theorem split_headerOf (hraw : raw ≠ []) (hlen : signature.length = 64) :
    splitSettlementReceiptEnvelope (headerOf raw signature) = some (raw, signature) := by
  have hfree : ∀ bs, ∀ c ∈ Base64.encode bs, c ≠ '.' := fun bs c hc => (Base64.mem_encode hc).2.2
  have hsignature : signature ≠ [] := by
    rintro rfl
    cases hlen
  have htake : (Base64.encode raw ++ '.' :: Base64.encode signature).takeWhile (· ≠ '.') =
      Base64.encode raw := by
    rw [List.takeWhile_append_of_pos (by simpa using hfree raw)]
    simp
  have hdrop : (Base64.encode raw ++ '.' :: Base64.encode signature).dropWhile (· ≠ '.') =
      '.' :: Base64.encode signature := by
    rw [List.dropWhile_append_of_pos (by simpa using hfree raw)]
    simp
  simp only [splitSettlementReceiptEnvelope, headerOf, String.toList_ofList, htake, hdrop]
  rw [if_neg]
  · simp [Base64.decode_encode, hlen]
  · rintro (h | h | h)
    · exact Base64.encode_ne_nil hraw h
    · exact Base64.encode_ne_nil hsignature h
    · exact hfree signature _ h rfl

theorem parse_headerOf {canonicalText : Value → Option (List Char)} {v : Value}
    (hdepth : depth v ≤ maxNestingDepth)
    (hread : readTuple canonicalText o v = .ok (t, print escapeJcs v))
    (hlen : signature.length = 64) :
    parseSettlementReceiptV04 canonicalText o
        (headerOf (Utf8.encode (print escapeJcs v)) signature) =
      .ok ⟨t, signature, Utf8.encode (print escapeJcs v), Utf8.encode (print escapeJcs v)⟩ := by
  have htext := decodeText_print escapes_escapeJcs hdepth
  have hencode : Utf8.encode (print escapeJcs v) ≠ [] := by
    intro h
    rw [show print escapeJcs v = [] from Utf8.encode_injective h] at htext
    cases htext
  simp only [parseSettlementReceiptV04, split_headerOf hencode hlen, Utf8.decode_encode,
    htext, hread]
  rfl

def demoCrypto : Crypto := { demoPlatform with ed25519Verify := fun _ _ _ => true }

def demoContext : SettlementVerifyInput RouteSnapshot where
  header := ""
  providerReceiptPubkey := List.replicate 32 0
  routeSnapshot := demoSnapshot "m"
  accountScope := "scope"
  requestID := "request"
  attemptN := 0
  providerID := "provider"
  providerReceiptKeyID := "ed25519-sha256:" ++ demoHash
  terminalState := "normal_done"
  terminalStateTSUnixMS := 1
  outputHash := demoHash
  outputPrefixStartByte := 0
  outputPrefixEndByte := 1
  expectedUsage := fun _ => 1
  usageSource := "coordinator_observed"
  usageCrossChecked := true
  overlappingOrDuplicate := false
  receiptReceivedUnixMS := 1
  nowUnixMS := 1
  receiptMissing := false
  trustRootInconclusive := false
  canonicalHashesAvailable := true
  alreadyDeadlineQuarantined := false
  terminalOutcomeFinal := false

def demoInput (header : String) : SettlementVerifyInput RouteSnapshot :=
  { demoContext with header := header }

def demoTuple : SettlementTupleV04 :=
  expectedTuple (demoSnapshot "m").toRouteColumns demoContext demoHash 1

/-- With something else at `attempt_n`. -/
def demoValues (attempt : Value) : TupleKey → Value :=
  Function.update (tupleValues demoPlatform demoTuple) (.int .attemptN) attempt

def demoValue (attempt : Value) : Value :=
  .object (v04SettlementTupleKeys.members (demoValues attempt))

def demoHeader (attempt : Value) : String :=
  headerOf (Utf8.encode (print escapeJcs (demoValue attempt))) (List.replicate 64 0)

theorem demo_read (hattempt : decodeInt64 attempt 0 = some 0)
    (hself : canonical (canonicalJSONNumber demoPlatform) demoPlatform.nfc (ofValue attempt) =
      some attempt) :
    readTuple (canonicalText demoPlatform) .written (demoValue attempt) =
      .ok (demoTuple, print escapeJcs (demoValue attempt)) := by
  have htexts : ∀ k, demoPlatform.nfc (demoTuple.text k) = demoTuple.text k := fun k => by
    cases k <;> decide +kernel
  have hints : ∀ k, -2 ^ 63 ≤ demoTuple.int k ∧ demoTuple.int k < 2 ^ 63 := fun k => by
    cases k <;> decide +kernel
  have husage : ∀ k, -2 ^ 63 ≤ demoTuple.usage k ∧ demoTuple.usage k < 2 ^ 63 := fun k => by
    cases k <;> decide +kernel
  obtain ⟨htext, hint, hcount⟩ := decodeTuple_tupleValues htexts hints husage
  have hofInt : ∀ {z : ℤ}, -2 ^ 63 ≤ z ∧ z < 2 ^ 63 →
      canonicalJSONNumber demoPlatform (.ofInt z) = some (.ofInt z) := fun h =>
    canonicalJSONNumber_of_int (Number.int?_ofInt _) (by simpa [inInt64] using h)
  have hcanonical : canonicalText demoPlatform (demoValue attempt) =
      some (print escapeJcs (demoValue attempt)) := by
    have hvalues : ∀ k, canonical (canonicalJSONNumber demoPlatform) demoPlatform.nfc
        (ofValue (demoValues attempt k)) = some (demoValues attempt k) := by
      intro k
      by_cases hk : k = .int .attemptN
      · rw [hk, demoValues, Function.update_self, hself]
      rw [demoValues, Function.update_of_ne hk]
      cases k with
      | text k => rw [tupleValues, htexts k, ofValue, canonical, htexts k]
      | int k => rw [tupleValues, ofValue, canonical, hofInt (hints k)]; rfl
      | usage =>
        refine Keys.canonical_members fun k => ?_
        rw [ofValue, canonical, hofInt (husage k)]
        rfl
    rw [canonicalText, canonicalJSON, demoValue, Keys.canonical_members hvalues]
    rfl
  have htuple : decodeTuple (demoValue attempt) = some demoTuple := by
    refine decodeTuple_iff.mpr ⟨htext, fun k => ?_, hcount⟩
    by_cases hk : k = .attemptN
    · rw [hk, demoValues, Function.update_self, hattempt]
      rfl
    · rw [demoValues, Function.update_of_ne fun h => hk (TupleKey.int.inj h), hint]
  have hvalid : validateSettlementTupleScalars .written demoTuple = none := by decide +kernel
  have hshape : shapeProblem (v04SettlementTupleKeys.members (demoValues attempt)) = none :=
    shapeProblem_members (u := fun _ => .number (.ofInt 1)) (congrArg Value.string (by decide)) rfl
  have hraw : rawObject (demoValue attempt) =
      some (v04SettlementTupleKeys.members (demoValues attempt)) :=
    congrArg some (lastMembers_of_nodup (v04SettlementTupleKeys.ordered_members _).nodup)
  simp only [readTuple, hraw, hshape, hcanonical, htuple, hvalid]

theorem demo_accepted {header : String}
    (hparse : parseSettlementReceiptV04 (canonicalText demoPlatform) .written header =
      .ok ⟨demoTuple, List.replicate 64 0, raw, raw⟩) :
    (verifySettlementReceipt demoCrypto .written (demoInput header)).receiptResult = .valid := by
  have hearly : earlyResult
      ((coordinator demoCrypto.toPlatform).columns (demoInput header).routeSnapshot)
      (demoInput header) = none := rfl
  have hvalidate : (demoSnapshot "m").validate .written = none := by decide +kernel
  have hvalid : (demoInput header).routeSnapshot.Valid :=
    RouteSnapshot.validate_eq_none.mp hvalidate
  have hdigest : (coordinator demoCrypto.toPlatform).digest .written
      (demoInput header).routeSnapshot = some demoHash := by
    have hok := RouteSnapshot.digest_eq_ok (p := demoCrypto.toPlatform) (o := .written) |>.mpr
      ⟨hvalid, rfl⟩
    simp only [coordinator, hok]
    rfl
  have hdeadline : ¬ deadlineUnixMS
      ((coordinator demoCrypto.toPlatform).columns (demoInput header).routeSnapshot)
      (demoInput header) < (demoInput header).receiptReceivedUnixMS := by
    simp [deadlineUnixMS, coordinator, demoSnapshot, demoInput, demoContext, wrap64]
  have hproblem : receiptProblem (demoSnapshot "m").toRouteColumns demoContext demoCrypto
      demoHash ⟨demoTuple, List.replicate 64 0, raw, raw⟩ = none := by
    have hseal : sealProblem (demoSnapshot "m").toRouteColumns demoContext demoCrypto
        ⟨demoTuple, List.replicate 64 0, [], []⟩ = none := by decide +kernel
    have hcontext : tupleMatchesSettlementContext (demoSnapshot "m").toRouteColumns demoContext
        demoTuple demoHash = none := by decide +kernel
    have husage : (tupleSettlementUsage demoTuple).or
        (tupleUsageMatchesLedger demoContext demoTuple) = none := by decide +kernel
    have hseal' : sealProblem (demoSnapshot "m").toRouteColumns demoContext demoCrypto
        ⟨demoTuple, List.replicate 64 0, raw, raw⟩ = none := by
      rw [sealProblem, Option.or_eq_none_iff] at hseal ⊢
      exact ⟨problem_eq_none.mpr (not_not.mpr rfl), hseal.2⟩
    rw [receiptProblem, hseal', hcontext]
    exact husage
  have haccepted : (acceptedResult demoTuple).receiptResult = .valid := by decide +kernel
  rw [verifySettlementReceipt, verify_accepted hearly hdigest hdeadline hparse
    ((receiptProblem_header demoContext header).trans hproblem), haccepted]

theorem demoHeader_accepted (hdepth : depth (demoValue attempt) ≤ maxNestingDepth)
    (hattempt : decodeInt64 attempt 0 = some 0)
    (hself : canonical (canonicalJSONNumber demoPlatform) demoPlatform.nfc (ofValue attempt) =
      some attempt) :
    (verifySettlementReceipt demoCrypto .written
      (demoInput (demoHeader attempt))).receiptResult = .valid :=
  demo_accepted (parse_headerOf hdepth (demo_read hattempt hself) List.length_replicate)

/-- **An attempt that is missing** in one of two accepted receipts. -/
theorem null_attempt_accepted :
    (verifySettlementReceipt demoCrypto .written
      (demoInput (demoHeader (.number (.ofInt 0))))).receiptResult = .valid ∧
    (verifySettlementReceipt demoCrypto .written
      (demoInput (demoHeader .null))).receiptResult = .valid ∧
    ∃ raw signature, splitSettlementReceiptEnvelope (demoHeader .null) = some (raw, signature) ∧
      ∀ digest issuedAt, tupleBytes demoPlatform (expectedTuple (demoSnapshot "m").toRouteColumns
        (demoInput (demoHeader .null)) digest issuedAt) ≠ some raw := by
  have hdepth : depth (demoValue .null) ≤ maxNestingDepth := by decide +kernel
  have hdecode := decodeText_print escapes_escapeJcs hdepth
  refine ⟨demoHeader_accepted (by decide +kernel) (decodeInt64_ofInt (by decide)) rfl,
    demoHeader_accepted hdepth rfl rfl, _, _, split_headerOf ?_ (by decide), ?_⟩
  · decide +kernel
  · intro digest issuedAt h
    have hnull := hasNullInteger_tupleBytes h
    rw [hasNullInteger_members (w := demoValues .null) (u := fun _ => .number (.ofInt 1))
      (by rw [Utf8.decode_encode, hdecode, demoValue]) rfl] at hnull
    exact absurd (hnull.1 .attemptN) (by simp [demoValues, isNull])

theorem demo_accepted_bytes :
    ∃ raw signature digest,
      splitSettlementReceiptEnvelope (demoHeader (.number (.ofInt 0))) = some (raw, signature) ∧
      ((demoSnapshot "m").digest demoPlatform .written).toOption.map Prod.fst = some digest ∧
      ((∃ issuedAt, tupleBytes demoPlatform (expectedTuple (demoSnapshot "m").toRouteColumns
        (demoInput (demoHeader (.number (.ofInt 0)))) digest issuedAt) = some raw) ↔
        hasNullInteger raw = false) :=
  accepted_bytes_iff demoCrypto .written (demoInput (demoHeader (.number (.ofInt 0))))
    (demoHeader_accepted (by decide +kernel) (decodeInt64_ofInt (by decide)) rfl)

end MacProvider.Coordinator.Billing.ReceiptBinding
