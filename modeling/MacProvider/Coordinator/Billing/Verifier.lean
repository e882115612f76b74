import MacProvider.Coordinator.Billing.HotPath

/-! # The verifier of settlement receipts

`VerifySettlementReceipt` (`internal/billing/settlement_verifier.go`): a receipt repeats route,
output and usage of the attempt. Parsing, hashing and signatures are parameters (`ReceiptCodec`). -/

namespace MacProvider.Coordinator.Billing.Verifier

open Billing.Schema Billing.Outputs Billing.HotPath

/-- What a provider signs; `none` is an unknown name. -/
structure SettlementTuple where
  accountScope : String
  catalogBodyDigest : String
  catalogID : String
  expectedCatalogModelHash : String
  issuedAtUnixMS : ℤ
  modelHash : String
  modelID : String
  outputHash : String
  outputPrefixEndByte : ℤ
  outputPrefixStartByte : ℤ
  promptHash : String
  providerID : String
  providerReceiptKeyID : String
  requestID : String
  routeSnapshotDigest : String
  routeSnapshotMode : Option PolicyMode
  routeSnapshotPolicyVersion : String
  signatureKeyAlg : String
  terminalState : Option TerminalState
  terminalStateTSUnixMS : ℤ
  attemptN : ℤ
  usage : SettlementUsage

/-- What a receipt says, and its texts. -/
structure ParsedReceipt where
  tuple : SettlementTuple
  signature : String
  raw : String
  canonicalBytes : String

/-- Parsing, hashing and signatures. -/
structure ReceiptCodec where
  /-- `parseSettlementReceiptV04`; a refusal has a result and a reason. -/
  parseSettlementReceipt : String → Except (ReceiptResult × String) ParsedReceipt
  receiptKeyIDPattern : String → Bool
  receiptKeyID : String → Option String
  /-- `ed25519.Verify` on the key, the bytes and the signature. -/
  verifySignature : String → String → String → Bool
  routeDigest : RouteRow → Option String

/-- The receipt and what it has to match. -/
structure SettlementVerifyInput where
  header : String
  providerReceiptPubkey : String
  routeSnapshot : RouteRow
  accountScope : String
  requestID : String
  attemptN : ℕ
  providerID : String
  providerReceiptKeyID : String
  terminalState : TerminalState
  terminalStateTSUnixMS : ℤ
  outputHash : String
  outputPrefixStartByte : ℤ
  outputPrefixEndByte : ℤ
  expectedUsage : SettlementUsage
  usageSource : ObservedSource
  usageCrossChecked : Bool
  overlappingOrDuplicate : Bool
  receiptReceivedUnixMS : ℤ
  nowUnixMS : ℤ
  receiptMissing : Bool
  trustRootInconclusive : Bool
  canonicalHashesAvailable : Bool
  alreadyDeadlineQuarantined : Bool
  terminalOutcomeFinal : Bool

/-- What the verifier says. -/
structure SettlementVerifyResult where
  outcome : SettlementOutcome
  receiptResult : ReceiptResult
  reason : String

/-! ### The checks -/

/-- The receipt is wrong. -/
def settlementInvalid (reason : String) : SettlementVerifyResult := ⟨.quarantined, .invalid, reason⟩

/-- The attempt is not settled. -/
def settlementQuarantined (reason : String) : SettlementVerifyResult :=
  ⟨.quarantined, .invalid, reason⟩

/-- When the receipt has to be there. -/
def SettlementVerifyInput.deadlineUnixMS (i : SettlementVerifyInput) : ℤ :=
  i.terminalStateTSUnixMS + i.routeSnapshot.pendingDeadlineSeconds * 1000

/-- A delay, until the deadline. -/
def pendingUntilSettlementDeadline (i : SettlementVerifyInput) (reason : String) :
    SettlementVerifyResult :=
  let now := if i.nowUnixMS = 0 then i.receiptReceivedUnixMS else i.nowUnixMS
  if i.deadlineUnixMS < now then settlementQuarantined (reason ++ "_deadline_elapsed")
  else ⟨.pending, .inconclusive, reason⟩

/-- How far the clocks may differ. -/
def maxSettlementClockSkewMS : ℤ := 60000

/-- Why it is not of the attempt. -/
def tupleMatchesSettlementContext (t : SettlementTuple) (i : SettlementVerifyInput)
    (routeDigest : String) : Option String :=
  let route := i.routeSnapshot
  if t.accountScope ≠ i.accountScope ∨ t.accountScope ≠ route.accountScope then
    some "account_scope_mismatch"
  else if t.requestID ≠ i.requestID ∨ t.requestID ≠ route.requestID then some "request_id_mismatch"
  else if t.attemptN ≠ i.attemptN ∨ t.attemptN ≠ route.attemptN then some "attempt_mismatch"
  else if t.providerID ≠ i.providerID ∨ t.providerID ≠ route.providerID then
    some "provider_id_mismatch"
  else if t.providerReceiptKeyID ≠ i.providerReceiptKeyID then
    some "provider_receipt_key_id_mismatch"
  else if t.routeSnapshotDigest ≠ routeDigest then some "route_snapshot_digest_mismatch"
  else if t.routeSnapshotMode ≠ some route.mode then some "route_snapshot_mode_mismatch"
  else if t.routeSnapshotPolicyVersion ≠ route.policyVersion then
    some "route_snapshot_policy_version_mismatch"
  else if t.modelID ≠ route.modelID then some "model_id_mismatch"
  else if t.modelHash ≠ route.providerReportedModelHash ∨
      t.modelHash ≠ route.expectedCatalogModelHash then some "model_hash_mismatch"
  else if t.expectedCatalogModelHash ≠ route.expectedCatalogModelHash then
    some "expected_catalog_model_hash_mismatch"
  else if t.catalogID ≠ route.catalogID ∨ t.catalogBodyDigest ≠ route.catalogBodyDigest then
    some "catalog_snapshot_mismatch"
  else if t.promptHash ≠ route.promptHash then some "prompt_hash_mismatch"
  else if t.outputHash ≠ i.outputHash then some "output_hash_mismatch"
  else if t.outputPrefixStartByte ≠ i.outputPrefixStartByte ∨
      t.outputPrefixEndByte ≠ i.outputPrefixEndByte then some "output_prefix_mismatch"
  else if t.terminalState = none then some "terminal_state_out_of_enum"
  else if t.terminalState ≠ some i.terminalState then some "terminal_state_mismatch"
  else if t.terminalStateTSUnixMS ≠ i.terminalStateTSUnixMS then
    some "terminal_state_timestamp_mismatch"
  else if t.issuedAtUnixMS < route.requestStartTSUnixMS - maxSettlementClockSkewMS ∨
      i.receiptReceivedUnixMS + maxSettlementClockSkewMS < t.issuedAtUnixMS then
    some "issued_at_window_mismatch"
  else none

/-- Why its usage does not fit its output. -/
def tupleSettlementUsage (t : SettlementTuple) : Option String :=
  let u := t.usage
  if t.outputPrefixStartByte < 0 ∨ t.outputPrefixEndByte < 0 ∨
      t.outputPrefixEndByte < t.outputPrefixStartByte then some "output_prefix_invalid"
  else if u.billableInputTokens < 0 ∨ u.billableOutputTokens < 0 ∨ u.deliveredOutputBytes < 0 ∨
      u.observedInputTokens < 0 ∨ u.observedOutputTokens < 0 then some "usage_negative_value"
  else if u.deliveredOutputBytes ≠ t.outputPrefixEndByte - t.outputPrefixStartByte then
    some "usage_delivered_bytes_mismatch"
  else if t.terminalState = some .normalDone then
    if u.billableInputTokens ≠ u.observedInputTokens ∨
        u.billableOutputTokens ≠ u.observedOutputTokens then some "usage_observed_mismatch"
    else none
  else if u.deliveredOutputBytes = 0 then
    if u.billableInputTokens ≠ 0 ∨ u.billableOutputTokens ≠ 0 then
      some "usage_zero_prefix_billable_tokens"
    else none
  else if u.observedInputTokens < u.billableInputTokens ∨
      u.observedOutputTokens < u.billableOutputTokens then some "usage_partial_billable_tokens"
  else none

/-- Why its usage is not the coordinator's. -/
def tupleUsageMatchesLedger (u : SettlementUsage) (i : SettlementVerifyInput) : Option String :=
  if i.usageCrossChecked = false then some "usage_not_cross_checked"
  else if i.usageSource ≠ .coordinatorObserved then some "usage_source_not_settlement_capable"
  else if u ≠ i.expectedUsage then some "usage_mismatch"
  else none

/-- The checks of a receipt that was parsed. -/
def verifyParsed (v : ReceiptCodec) (i : SettlementVerifyInput) (routeDigest : String)
    (p : ParsedReceipt) : SettlementVerifyResult :=
  let t := p.tuple
  if p.raw ≠ p.canonicalBytes then settlementInvalid "non_canonical_tuple"
  else if t.signatureKeyAlg ≠ "Ed25519" then settlementInvalid "signature_key_alg_invalid"
  else if v.receiptKeyIDPattern t.providerReceiptKeyID = false then
    settlementInvalid "provider_receipt_key_id_invalid"
  else if v.receiptKeyID i.providerReceiptPubkey ≠ some t.providerReceiptKeyID ∨
      t.providerReceiptKeyID ≠ i.routeSnapshot.providerReceiptKeyID then
    settlementInvalid "provider_receipt_key_id_mismatch"
  else if v.verifySignature i.providerReceiptPubkey p.raw p.signature = false then
    settlementInvalid "signature_verify_failed"
  else
    match (tupleMatchesSettlementContext t i routeDigest).or
      ((tupleSettlementUsage t).or (tupleUsageMatchesLedger t.usage i)) with
    | some reason => settlementInvalid reason
    | none =>
      if t.terminalState ≠ some .normalDone ∧ t.usage.deliveredOutputBytes = 0 then
        ⟨.zeroSettled, .valid, "verified_zero_settlement"⟩
      else ⟨.verified, .valid, "verified_settlement"⟩

/-- **`VerifySettlementReceipt`**. -/
def verifySettlementReceipt (v : ReceiptCodec) (i : SettlementVerifyInput) :
    SettlementVerifyResult :=
  if i.alreadyDeadlineQuarantined then settlementQuarantined "deadline_quarantined"
  else if i.terminalOutcomeFinal then settlementQuarantined "duplicate_receipt_after_terminal"
  else if i.receiptMissing then pendingUntilSettlementDeadline i "missing_receipt"
  else if i.trustRootInconclusive then pendingUntilSettlementDeadline i "trust_root_inconclusive"
  else if i.canonicalHashesAvailable = false then settlementQuarantined "canonical_hash_unavailable"
  else if i.overlappingOrDuplicate then settlementQuarantined "overlapping_output_prefix"
  else
    match v.routeDigest i.routeSnapshot with
    | none => settlementQuarantined "route_snapshot_invalid"
    | some routeDigest =>
      if i.deadlineUnixMS < i.receiptReceivedUnixMS then
        settlementQuarantined "receipt_after_deadline"
      else
        match v.parseSettlementReceipt i.header with
        | .error (result, reason) => ⟨.quarantined, result, reason⟩
        | .ok p => verifyParsed v i routeDigest p

section Results
variable {v : ReceiptCodec} {i : SettlementVerifyInput}

/-- Settled only with a receipt. -/
inductive Says (i : SettlementVerifyInput) : SettlementVerifyResult → Prop
  | pending (reason : String) : Says i ⟨.pending, .inconclusive, reason⟩
  | quarantined (result : ReceiptResult) (reason : String) : Says i ⟨.quarantined, result, reason⟩
  | zeroSettled (hpresent : i.receiptMissing = false)
      (hdeadline : i.receiptReceivedUnixMS ≤ i.deadlineUnixMS) :
      Says i ⟨.zeroSettled, .valid, "verified_zero_settlement"⟩
  | verified (hpresent : i.receiptMissing = false) (hoverlap : i.overlappingOrDuplicate = false)
      (hdeadline : i.receiptReceivedUnixMS ≤ i.deadlineUnixMS)
      (husage : SettlementUsage.validate i.expectedUsage = .ok ()) :
      Says i ⟨.verified, .valid, "verified_settlement"⟩

theorem pendingUntilSettlementDeadline_result (reason : String) :
    Says i (pendingUntilSettlementDeadline i reason) := by
  unfold pendingUntilSettlementDeadline
  generalize (if i.nowUnixMS = 0 then i.receiptReceivedUnixMS else i.nowUnixMS) = now
  dsimp only
  split
  · exact .quarantined ..
  · exact .pending reason

theorem validate_of_matches {t : SettlementTuple} (h : tupleSettlementUsage t = none)
    (h' : tupleUsageMatchesLedger t.usage i = none) :
    SettlementUsage.validate i.expectedUsage = .ok () := by
  have heq : t.usage = i.expectedUsage := by
    unfold tupleUsageMatchesLedger at h'
    split_ifs at h' with _ _ hne
    exact not_not.mp hne
  unfold tupleSettlementUsage at h
  dsimp only at h
  split at h
  · cases h
  split at h
  · cases h
  next hnonneg =>
  rw [← heq]
  exact if_neg hnonneg

theorem verifyParsed_result {routeDigest : String} {p : ParsedReceipt}
    (hpresent : i.receiptMissing = false) (hoverlap : i.overlappingOrDuplicate = false)
    (hdeadline : i.receiptReceivedUnixMS ≤ i.deadlineUnixMS) :
    Says i (verifyParsed v i routeDigest p) := by
  unfold verifyParsed
  dsimp only
  split
  · exact .quarantined ..
  split
  · exact .quarantined ..
  split
  · exact .quarantined ..
  split
  · exact .quarantined ..
  split
  · exact .quarantined ..
  split
  · exact .quarantined ..
  next hnone =>
  rw [Option.or_eq_none_iff, Option.or_eq_none_iff] at hnone
  split
  · exact .zeroSettled hpresent hdeadline
  · exact .verified hpresent hoverlap hdeadline (validate_of_matches hnone.2.1 hnone.2.2)

theorem verifySettlementReceipt_result : Says i (verifySettlementReceipt v i) := by
  unfold verifySettlementReceipt
  split
  · exact .quarantined ..
  split
  · exact .quarantined ..
  split
  · exact pendingUntilSettlementDeadline_result _
  next hpresent =>
  split
  · exact pendingUntilSettlementDeadline_result _
  split
  · exact .quarantined ..
  split
  · exact .quarantined ..
  next hoverlap =>
  split
  · exact .quarantined ..
  split
  · exact .quarantined ..
  next hdeadline =>
  split
  · exact .quarantined ..
  · exact verifyParsed_result (Bool.not_eq_true _ ▸ hpresent) (Bool.not_eq_true _ ▸ hoverlap)
      (not_lt.mp hdeadline)

end Results

end MacProvider.Coordinator.Billing.Verifier
