import MacProvider.Gateway.Store.Ops

/-! # The coordinator's word on a settlement

The coordinator answers with a settlement outcome, as headers or as JSON, and
`coordinatorSettlementFinalityFromHeaders` decides what becomes of the reservation. An absent header
is empty. -/

namespace MacProvider.Gateway.Router.Finality

open Gateway.Time

/-- `strconv.ParseBool`. -/
def parseBool (s : String) : Option Bool :=
  if s ∈ ["1", "t", "T", "true", "TRUE", "True"] then some true
  else if s ∈ ["0", "f", "F", "false", "FALSE", "False"] then some false
  else none

/-! ### Headers -/

/-- The seven headers. -/
structure Headers where
  mode : String
  policyVersion : String
  outcome : String
  receiptResult : String
  reason : String
  closed : String
  pendingUntil : String

/-- What becomes of the reservation. -/
inductive Action
  | legacy | debit | refund | hold

/-- The action and its reasons. -/
structure SettlementFinality where
  action : Action
  outcome : String := ""
  reason : String := ""
  pendingDeadlineUnixMS : ℤ := 0

/-- The present version. -/
def settlementPolicyVersion : String := "spec022-prereq-v1"
/-- The version before it. -/
def legacySettlementPolicyVersion : String := "spec022-prereq-v0"

/-- One of them is there. -/
def hasAnySettlementFinalityHeader (h : Headers) : Bool :=
  [h.outcome, h.receiptResult, h.reason, h.closed, h.mode, h.policyVersion, h.pendingUntil].any
    fun v => trimSpace v != ""

/-- The result fits a refund of this outcome. -/
def settlementRefundReceiptResultValid (outcome receiptResult : String) : Bool :=
  if outcome = "zero_settled" then receiptResult == "valid"
  else if outcome = "overlap_blocked_terminal" then receiptResult == "valid"
  else if outcome = "quarantined" then receiptResult == "invalid" || receiptResult == "inconclusive"
  else false

/-- Its value, if it could be parsed. -/
def parseSettlementClosedHeader (raw : String) : Bool × Bool :=
  let raw := trimSpace raw
  if raw = "" then (false, false)
  else
    match parseBool raw with
    | some b => (b, true)
    | none => (false, false)

/-- The deadline, 0 if there is none. -/
def parseSettlementPendingDeadlineUnixMS (raw : String) : ℤ :=
  let raw := trimSpace raw
  if raw = "" then 0
  else
    match parseInt raw with
    | some n => if n ≤ 0 then 0 else n
    | none => 0

/-- What the headers ask for. -/
def coordinatorSettlementFinalityFromHeaders (h : Headers) : SettlementFinality :=
  if !hasAnySettlementFinalityHeader h then { action := .legacy }
  else
    let mode := trimSpace h.mode
    if mode = "observe" then { action := .legacy }
    else if mode ≠ "enforce" then { action := .hold, reason := "invalid_settlement_mode" }
    else
      let policyVersion := trimSpace h.policyVersion
      if policyVersion ≠ settlementPolicyVersion ∧
          policyVersion ≠ legacySettlementPolicyVersion then
        { action := .hold, reason := "invalid_settlement_policy_version" }
      else
        let outcome := trimSpace h.outcome
        if outcome = "" then { action := .hold, reason := "missing_settlement_outcome" }
        else
          let receiptResult := trimSpace h.receiptResult
          let reason := trimSpace h.reason
          let closed := parseSettlementClosedHeader h.closed
          let pending := parseSettlementPendingDeadlineUnixMS h.pendingUntil
          if outcome = "verified" then
            if receiptResult = "valid" ∧ closed.2 ∧ closed.1 then ⟨.debit, outcome, reason, pending⟩
            else ⟨.hold, outcome, "verified_receipt_not_final", pending⟩
          else if outcome ∈ ["quarantined", "zero_settled", "overlap_blocked_terminal"] then
            if closed.2 ∧ closed.1 ∧ settlementRefundReceiptResultValid outcome receiptResult then
              ⟨.refund, outcome, reason, pending⟩
            else ⟨.hold, outcome, "settlement_refund_tuple_incomplete", pending⟩
          else if outcome = "pending" then ⟨.hold, outcome, reason, pending⟩
          else ⟨.hold, outcome, "unrecognized_settlement_outcome", pending⟩

/-- `coordinatorRequestSettlementFinality`. -/
structure RequestFinality where
  requestID : String := ""
  policyVersion : String := ""
  mode : String := ""
  outcome : String := ""
  receiptResult : String := ""
  reason : String := ""
  closed : Bool := false
  pendingDeadlineUnixMS : ℤ := 0
  promptTokens : ℤ := 0
  completionTokens : ℤ := 0
  totalTokens : ℤ := 0
  tokenSource : String := ""

/-- The answer as headers. -/
def finalityHeaders (f : RequestFinality) : Headers where
  mode := f.mode
  policyVersion := f.policyVersion
  outcome := f.outcome
  receiptResult := f.receiptResult
  reason := f.reason
  closed := if f.closed then "true" else "false"
  pendingUntil := if 0 < f.pendingDeadlineUnixMS then toString f.pendingDeadlineUnixMS else ""

/-- Prompt, completion and total tokens to settle. -/
def finalityTokenTotals (f : RequestFinality) : Except String (ℤ × ℤ × ℤ) :=
  if f.promptTokens < 0 ∨ f.completionTokens < 0 ∨ f.totalTokens < 0 then
    .error "coordinator finality tokens must be non-negative"
  else
    let sum := wrap64 (f.promptTokens + f.completionTokens)
    let total := if f.totalTokens = 0 then sum else f.totalTokens
    if total ≠ sum then .error "coordinator finality total_tokens mismatch"
    else if trimSpace f.tokenSource ≠ "coordinator_observed" then
      .error ("coordinator finality token_source " ++ (trimSpace f.tokenSource).quote ++
        " is not settlement-capable")
    else .ok (f.promptTokens, f.completionTokens, total)

/-- How long a hold without a deadline lasts. -/
def settlementHoldFallbackTTL : ℕ := minutes 5

/-- The coordinator's, or the fallback if there is none or it has passed. -/
def holdDeadline (now : Instant) (f : SettlementFinality) : Instant :=
  if 0 < f.pendingDeadlineUnixMS then
    let deadline := unixMilli f.pendingDeadlineUnixMS.toNat
    if now < deadline then deadline else now + settlementHoldFallbackTTL
  else now + settlementHoldFallbackTTL

end MacProvider.Gateway.Router.Finality
