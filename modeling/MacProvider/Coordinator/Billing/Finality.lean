import MacProvider.Coordinator.Billing.Verdicts

/-! # The finality of a request

`internal/billing/settlement_finality.go`: overdue verdicts are recorded as missing, the rows of a
request are counted, the usage of the verified ones is read, and a ladder decides.
`RequestSettlementFinalityForAccount` also takes the id of the buyer, with several requests under
it. -/

namespace MacProvider.Coordinator.Billing.Finality

open Gateway.Time Billing.Schema Billing.Outputs Billing.HotPath Billing.Verifier Billing.Verdicts

/-! ### Data -/

/-- How a request ended. -/
inductive FinalityOutcome
  | of (o : SettlementOutcome)
  | overlapBlockedTerminal
deriving DecidableEq

/-- How a request ended that nothing is charged for. -/
structure Refund where
  outcome : FinalityOutcome
  receiptResult : ReceiptResult
  reason : String
deriving DecidableEq

/-- What the rows add up to. -/
structure Tally where
  pendingDeadlineUnixMS : ℤ
  promptTokens : ℤ
  completionTokens : ℤ
  verifiedAttempts : ℕ
  pendingAttempts : ℕ
  quarantinedAttempts : ℕ
  zeroSettledAttempts : ℕ
  overlappingBlockedTokens : ℤ
  firstTerminalRefund : Option Refund
deriving DecidableEq

/-- No row. -/
def Tally.zero : Tally := ⟨0, 0, 0, 0, 0, 0, 0, 0, none⟩

/-- `RequestSettlementFinality`. -/
structure RequestFinality where
  requestID : String
  policyVersion : String
  mode : PolicyMode
  tally : Tally
  outcome : FinalityOutcome
  receiptResult : ReceiptResult
  reason : String
  closed : Bool
  totalTokens : ℤ
  tokenSource : Option ObservedSource
deriving DecidableEq

/-- Why there is no answer. -/
inductive FinalityError
  /-- `account scope is required`, `request id is required`. -/
  | required (field : String)
  | receipt (e : ReceiptError)
  /-- `verified charged ledger usage missing for request ... attempt ... provider ...`. -/
  | usageMissing (requestID : String) (attemptN : ℕ) (providerID : String)
  | decodeUsage
  | usage (e : OutputError)
deriving DecidableEq

/-- By `attempt_n`, then `id`. -/
def requestSettlementVerdicts (env : Env) (accountScope requestID : String) (b : Books) :
    List VerdictRow :=
  (b.verdicts.rows.filter fun v =>
    v.accountScopeHash = env.scopeHash accountScope ∧ v.requestID = requestID).insertionSort
    fun v v' => v.attemptN ≤ v'.attemptN

/-- The credit of the attempt, if it is not quarantined. -/
def chargedCredit (env : Env) (id : ReceiptIdentity) (b : Books) : Option CreditRow :=
  (b.creditOf id.requestID id.attemptN id.providerID).filter fun c =>
    c.accountScopeHash = some (env.scopeHash id.accountScope) && !c.quarantined

/-- The usage, and whether an overlap blocks it. `charged_prompt_tokens` is always
`prompt_tokens`. -/
def requestSettlementUsage (env : Env) (id : ReceiptIdentity) (b : Books) :
    Except FinalityError (SettlementUsage × Bool) :=
  match b.outputs.find? (id.accountScope, id.requestID, id.attemptN, id.providerID),
    chargedCredit env id b with
  | some sao, some c =>
    match env.decodeUsage sao.usageCanonicalJSON with
    | none => .error .decodeUsage
    | some usage =>
      let out := { usage with
        billableInputTokens := c.tokens.promptTokens.getD 0
        billableOutputTokens := c.tokens.completionTokens.getD 0 }
      match out.validate with
      | .error e => .error (.usage e)
      | .ok _ => .ok (out, sao.overlappingOrDuplicate)
  | _, _ => .error (.usageMissing id.requestID id.attemptN id.providerID)

/-- The earlier one of two deadlines. -/
def minPositiveDeadline (current candidate : ℤ) : ℤ :=
  if candidate ≤ 0 then current
  else if current ≤ 0 ∨ candidate < current then candidate
  else current

/-! ### Counting -/

/-- A row that is not decided. -/
def Tally.addPending (t : Tally) (row : VerdictRow) : Tally :=
  { t with
    pendingAttempts := t.pendingAttempts + 1
    pendingDeadlineUnixMS := minPositiveDeadline t.pendingDeadlineUnixMS row.pendingDeadlineUnixMS }

/-- A verified row. -/
def Tally.addUsage (t : Tally) (usage : SettlementUsage) (blocked : Bool) : Tally :=
  if blocked then
    { t with
      overlappingBlockedTokens :=
        t.overlappingBlockedTokens + (usage.billableInputTokens + usage.billableOutputTokens) }
  else
    { t with
      promptTokens := t.promptTokens + usage.billableInputTokens
      completionTokens := t.completionTokens + usage.billableOutputTokens
      verifiedAttempts := t.verifiedAttempts + 1 }

/-- A row that is not charged. -/
def Tally.addRefund (t : Tally) (row : VerdictRow) : Tally :=
  { t with
    firstTerminalRefund :=
      t.firstTerminalRefund.or (some ⟨.of row.outcome, row.receiptResult, row.reason⟩) }

/-- One row. -/
def tallyRow (env : Env) (accountScope requestID : String) (b : Books) (t : Tally)
    (row : VerdictRow) : Except FinalityError Tally :=
  match row.outcome with
  | .pending => .ok (t.addPending row)
  | .verified =>
    if row.closed && row.receiptResult = .valid then do
      let (usage, blocked) ← requestSettlementUsage env
        ⟨accountScope, requestID, row.attemptN, row.providerID⟩ b
      .ok (t.addUsage usage blocked)
    else .ok (t.addPending row)
  | .quarantined => .ok { t.addRefund row with quarantinedAttempts := t.quarantinedAttempts + 1 }
  | .zeroSettled => .ok { t.addRefund row with zeroSettledAttempts := t.zeroSettledAttempts + 1 }

/-- The loop: whether it met another policy, and the sums. -/
def tallyRows (env : Env) (accountScope requestID : String) (b : Books) (policyVersion : String)
    (mode : PolicyMode) : List VerdictRow → Tally → Except FinalityError (Bool × Tally)
  | [], t => .ok (false, t)
  | row :: rows, t =>
    if row.policyVersion ≠ policyVersion ∨ row.mode ≠ mode then .ok (true, t.addPending row)
    else do
      let t ← tallyRow env accountScope requestID b t row
      tallyRows env accountScope requestID b policyVersion mode rows t

section Ladder
variable (requestID policyVersion : String) (mode : PolicyMode) (t : Tally)

/-- The answer while nothing is decided. -/
def undecided (reason : String) (totalTokens : ℤ) : RequestFinality :=
  ⟨requestID, policyVersion, mode, t, .of .pending, .inconclusive, reason, false, totalTokens, none⟩

/-- The end of both functions, which differ in the total. -/
def conclude (totalTokens verifiedTokens : ℤ) : RequestFinality :=
  if 0 < t.pendingAttempts then
    undecided requestID policyVersion mode t "receipt_verdict_pending" totalTokens
  else if 0 < t.verifiedAttempts then
    ⟨requestID, policyVersion, mode, t, .of .verified, .valid, "verified_settlement", true,
      verifiedTokens, some .coordinatorObserved⟩
  else
    match t.firstTerminalRefund with
    | some refund =>
      ⟨requestID, policyVersion, mode, t, refund.outcome, refund.receiptResult, refund.reason, true,
        totalTokens, none⟩
    | none =>
      if 0 < t.overlappingBlockedTokens then
        ⟨requestID, policyVersion, mode, t, .overlapBlockedTerminal, .valid,
          "overlap_blocked_terminal", true, 0, some .coordinatorObserved⟩
      else undecided requestID policyVersion mode t "no_settlement_candidate" totalTokens

end Ladder

/-- The answer from the books as they are. -/
def finalityOf (env : Env) (accountScope requestID : String) (b : Books) :
    Except FinalityError (Option RequestFinality) :=
  match requestSettlementVerdicts env accountScope requestID b with
  | [] => .ok none
  | first :: rows => do
    let (mixed, t) ← tallyRows env accountScope requestID b first.policyVersion first.mode
      (first :: rows) .zero
    if mixed then
      .ok (some (undecided requestID first.policyVersion first.mode t
        "mixed_settlement_policy_snapshot" 0))
    else
      .ok (some (conclude requestID first.policyVersion first.mode t 0
        (t.promptTokens + t.completionTokens)))

/-- The deadline of the row has passed. -/
def due (nowUnixMS : ℤ) (row : VerdictRow) : Bool :=
  row.outcome = .pending && !row.closed && 0 < row.pendingDeadlineUnixMS &&
    row.pendingDeadlineUnixMS ≤ nowUnixMS

/-- Rows past their deadline are recorded as missing, one by one. -/
def recordDue (v : ReceiptCodec) (env : Env) (accountScope requestID : String) (nowUnixMS : ℤ) :
    List VerdictRow → Books → Except ReceiptError Unit × Books
  | [], b => (.ok (), b)
  | row :: rows, b =>
    if due nowUnixMS row then
      match recordMissingSettlementReceipt v env
        ⟨accountScope, requestID, row.attemptN, row.providerID⟩ nowUnixMS b with
      | .error e => (.error e, b)
      | .ok (_, b') => recordDue v env accountScope requestID nowUnixMS rows b'
    else recordDue v env accountScope requestID nowUnixMS rows b

/-- **`RequestSettlementFinality`**; `none` without a verdict. -/
def requestSettlementFinality (v : ReceiptCodec) (env : Env) (accountScope requestID : String)
    (nowUnixMS : ℤ) (b : Books) : Except FinalityError (Option RequestFinality) × Books :=
  if accountScope = "" then (.error (.required "account scope"), b)
  else if requestID = "" then (.error (.required "request id"), b)
  else
    match recordDue v env accountScope requestID nowUnixMS
      (requestSettlementVerdicts env accountScope requestID b) b with
    | (.error e, b') => (.error (.receipt e), b')
    | (.ok _, b') => (finalityOf env accountScope requestID b', b')

/-! ### The id of the buyer -/

/-- In milliseconds. -/
def externalRequestFinalityLookupSkew : ℕ := 5 * 60 * 1000

/-- Not older than the reservation. No account is `NULL`. -/
def LogRow.within (accountID : String) (notBeforeUnixMS : ℕ) (r : LogRow) : Bool :=
  accountID ≠ "" && r.accountID = accountID &&
    (notBeforeUnixMS = 0 || unixMilli (notBeforeUnixMS - externalRequestFinalityLookupSkew) ≤ r.ts)

/-- `directRequestIDWithinReservationWindow`. -/
def directRequestIDWithinReservationWindow (accountID requestID : String) (notBeforeUnixMS : ℕ)
    (b : Books) : Bool :=
  notBeforeUnixMS = 0 || b.log.any fun r =>
    LogRow.within accountID notBeforeUnixMS r && r.requestID = requestID

/-- The requests under an id of the buyer, by their first rows. -/
def requestIDsForExternalRequest (accountID externalRequestID : String) (notBeforeUnixMS : ℕ)
    (b : Books) : List String :=
  ((b.log.filter fun r => LogRow.within accountID notBeforeUnixMS r && externalRequestID ≠ "" &&
    r.externalRequestID = externalRequestID && r.requestID ≠ "").map fun r => r.requestID).eraseDups

/-- The body of `aggregateExternalRequestFinality`. -/
def Tally.addFinality (t : Tally) (f : RequestFinality) : Tally where
  pendingDeadlineUnixMS := minPositiveDeadline t.pendingDeadlineUnixMS f.tally.pendingDeadlineUnixMS
  promptTokens := t.promptTokens + f.tally.promptTokens
  completionTokens := t.completionTokens + f.tally.completionTokens
  verifiedAttempts := t.verifiedAttempts + f.tally.verifiedAttempts
  pendingAttempts := t.pendingAttempts + f.tally.pendingAttempts
  quarantinedAttempts := t.quarantinedAttempts + f.tally.quarantinedAttempts
  zeroSettledAttempts := t.zeroSettledAttempts + f.tally.zeroSettledAttempts
  overlappingBlockedTokens := t.overlappingBlockedTokens + f.tally.overlappingBlockedTokens
  firstTerminalRefund := t.firstTerminalRefund.or
    (if f.closed && f.outcome ≠ .of .verified &&
        (0 < f.tally.quarantinedAttempts || 0 < f.tally.zeroSettledAttempts) then
      some ⟨f.outcome, f.receiptResult, f.reason⟩
    else none)

/-- The loop, with the sum of the totals. -/
def tallyFinalities (policyVersion : String) (mode : PolicyMode) :
    List RequestFinality → Tally → ℤ → Bool × Tally × ℤ
  | [], t, total => (false, t, total)
  | f :: fs, t, total =>
    if f.policyVersion ≠ policyVersion ∨ f.mode ≠ mode then
      (true, { t with
        pendingAttempts := t.pendingAttempts + 1
        pendingDeadlineUnixMS :=
          minPositiveDeadline t.pendingDeadlineUnixMS f.tally.pendingDeadlineUnixMS }, total)
    else tallyFinalities policyVersion mode fs (t.addFinality f) (total + f.totalTokens)

/-- `aggregateExternalRequestFinality`. -/
def aggregateExternalRequestFinality (externalRequestID : String) (first : RequestFinality)
    (rest : List RequestFinality) : RequestFinality :=
  let (mixed, t, total) := tallyFinalities first.policyVersion first.mode (first :: rest) .zero 0
  if mixed then
    undecided externalRequestID first.policyVersion first.mode t "mixed_settlement_policy_snapshot"
      total
  else conclude externalRequestID first.policyVersion first.mode t total total

/-- The answers, and whether one has no verdict. -/
def finalitiesOf (v : ReceiptCodec) (env : Env) (accountScope : String) (nowUnixMS : ℤ) :
    List String → Books → Except FinalityError (List RequestFinality × Bool) × Books
  | [], b => (.ok ([], false), b)
  | q :: qs, b =>
    match requestSettlementFinality v env accountScope q nowUnixMS b with
    | (.error e, b') => (.error e, b')
    | (.ok resolved, b') =>
      match finalitiesOf v env accountScope nowUnixMS qs b' with
      | (.error e, b'') => (.error e, b'')
      | (.ok (fs, missing), b'') =>
        match resolved with
        | some f => (.ok (f :: fs, missing), b'')
        | none => (.ok (fs, true), b'')

/-- A verified result waits for requests without a verdict. -/
def heldBack (missing : Bool) (f : RequestFinality) : RequestFinality :=
  if missing && f.outcome = .of .verified && f.closed then
    { f with
      outcome := .of .pending, receiptResult := .inconclusive
      reason := "missing_current_settlement_finality", closed := false, tokenSource := none
      totalTokens := 0
      tally := { f.tally with
        promptTokens := 0, completionTokens := 0
        pendingAttempts := f.tally.pendingAttempts + 1 } }
  else f

/-- The requests under an id of the buyer. -/
def externalFinality (v : ReceiptCodec) (env : Env) (accountID requestID : String) (nowUnixMS : ℤ)
    (notBeforeUnixMS : ℕ) (b : Books) : Except FinalityError (Option RequestFinality) × Books :=
  match finalitiesOf v env (env.accountScope accountID) nowUnixMS
    (requestIDsForExternalRequest accountID requestID notBeforeUnixMS b) b with
  | (.error e, b') => (.error e, b')
  | (.ok ([], _), b') => (.ok none, b')
  | (.ok (f :: fs, missing), b') =>
    (.ok (some (heldBack missing (aggregateExternalRequestFinality requestID f fs))), b')

/-- **`RequestSettlementFinalityForAccount`**. -/
def requestSettlementFinalityForAccount (v : ReceiptCodec) (env : Env)
    (accountID requestID : String) (nowUnixMS : ℤ) (notBeforeUnixMS : ℕ) (b : Books) :
    Except FinalityError (Option RequestFinality) × Books :=
  if directRequestIDWithinReservationWindow accountID requestID notBeforeUnixMS b then
    match requestSettlementFinality v env (env.accountScope accountID) requestID nowUnixMS b with
    | (.ok none, b') => externalFinality v env accountID requestID nowUnixMS notBeforeUnixMS b'
    | direct => direct
  else externalFinality v env accountID requestID nowUnixMS notBeforeUnixMS b

end MacProvider.Coordinator.Billing.Finality
