import MacProvider.Coordinator.Billing.HotPath

/-! # The recorder of a request

`recordRow` (`internal/buyer/billing_recorder.go`): an attempt is credited by the hot path, or
logged for a later recovery. Then its output is stored. -/

namespace MacProvider.Coordinator.Billing.Recording

open Gateway.Time Billing.Schema Billing.Formula Billing.Outputs Billing.HotPath

/-- `billingState`, the pool and the clock. -/
structure Server where
  config : Config
  configSnapshotID : ℤ
  /-- The provider behind an assigned id, empty if the pool has none. -/
  poolProvider : String → String
  outputBytesPerTokenCeiling : ℤ
  nowUnixMS : ℤ

/-- What `recordRow` uses of it. -/
structure BillingRecorder where
  requestID : String
  externalRequestID : String
  accountID : String
  authenticatedAccount : Option String
  model : String
  startedAt : Instant
  promptTokenUpperBound : Option ℤ
  stickyResult : String
  attemptN : ℕ
  settlementAttemptN : Option ℕ
  settlementPolicyMode : Option PolicyMode
  settlementPolicyVersion : String
  outputCursorByte : ℤ

/-- The output, if it is known. -/
structure AttemptResult where
  output : SettlementOutput
  available : Bool
  terminalStateTSUnixMS : ℤ

/-- What is recorded of an attempt. -/
structure Attempt where
  providerAssignedID : String
  providerID : String
  status : ℤ
  tokens : TokenCounts
  errorCode : String
  retried : ℤ
  faultFlag : FaultFlag
  settlementOutput : Option AttemptResult

/-! ### The row and the input -/

/-- Cached tokens for the log, and a reason. -/
def requestLogCacheRecoveryFields (cachedPromptTokens promptTokens : Option ℤ)
    (stickyResult : String) (attemptN : ℕ) : Option ℤ × String :=
  match cachedPromptTokens with
  | none => (none, "")
  | some cached =>
    if cached < 0 ∨ (∀ p ∈ promptTokens, p < cached) then (none, "invalid_cached_prompt_tokens")
    else if 0 < attemptN then (none, "")
    else if stickyResult ≠ "hit" then
      if cached = 0 then (none, "") else (none, "ambiguous_cache")
    else (some cached, "")

/-- Its row for the log. -/
def logRowOf (r : BillingRecorder) (a : Attempt) : RequestRow :=
  let fields := requestLogCacheRecoveryFields a.tokens.cachedPromptTokens a.tokens.promptTokens
    r.stickyResult r.attemptN
  { ts := r.startedAt
    requestID := r.requestID
    accountID := r.accountID
    externalRequestID := r.externalRequestID
    model := r.model
    providerAssignedID := a.providerAssignedID
    tokens := { a.tokens with cachedPromptTokens := fields.1 }
    status := a.status
    errorCode := a.errorCode
    cacheQuarantineReason := fields.2
    retried := a.retried }

/-- The policy of a recorder without one. -/
def routeSnapshotPolicyVersion : String := "spec022-prereq-v1"

/-- The policy that the credit is under. -/
def settlementPolicyForLedger (r : BillingRecorder) : PolicyMode × String :=
  if r.settlementAttemptN = none then (.legacy, "")
  else
    (r.settlementPolicyMode.getD .observe,
      if r.settlementPolicyVersion = "" then routeSnapshotPolicyVersion
      else r.settlementPolicyVersion)

/-- The provider behind the assigned id. -/
def stableProviderID (s : Server) (a : Attempt) : String :=
  if a.providerID = "" then s.poolProvider a.providerAssignedID else a.providerID

/-- Its input for the hot path. -/
def hotPathInputOf (env : Env) (s : Server) (r : BillingRecorder) (a : Attempt) : HotPathInput where
  requestID := r.requestID
  attemptN := r.attemptN
  providerAssignedID := a.providerAssignedID
  providerID := stableProviderID s a
  model := r.model
  ts := r.startedAt
  tokens := a.tokens
  promptTokenUpperBound := r.promptTokenUpperBound
  providerReportedPromptTokens := none
  errorCode := a.errorCode
  faultFlag := a.faultFlag
  stickyResult := r.stickyResult
  configSnapshotID := s.configSnapshotID
  rateEntry := s.config.rateFor r.model
  multiplierPPM := s.config.multiplierPPM
  providerShareBps := s.config.providerShareBps
  settlementAccountScopeHash := env.scopeHash (env.accountScope r.accountID)
  settlementPolicyMode := (settlementPolicyForLedger r).1
  settlementPolicyVersion := (settlementPolicyForLedger r).2

/-! ### The output of the attempt -/

/-- The largest estimate. -/
def maxRequestLogUsageTokens : ℤ := 10000000

/-- The tokens that so many bytes stand for. -/
def estimatedCompletionTokensFromBytes (n bytesPerToken : ℤ) : Option ℤ :=
  if n ≤ 0 then none
  else
    let bytesPerToken := if bytesPerToken ≤ 0 then 4 else bytesPerToken
    some (min (max ((n + bytesPerToken - 1) / bytesPerToken) 1) maxRequestLogUsageTokens)

/-- Without an error message. -/
def terminalStateFromAttempt (status : ℤ) (errorCode : String) : TerminalState :=
  if status = 504 ∨ errorCode = "provider_timeout" then .gatewayTimeout
  else if 400 ≤ status ∨ errorCode ≠ "" then .providerError
  else .normalDone

/-- The output of an attempt that reports none. -/
def emptyOutput (s : Server) (a : Attempt) : AttemptResult :=
  ⟨⟨"", none, 0, 0, terminalStateFromAttempt a.status a.errorCode, []⟩, true, s.nowUnixMS⟩

/-- The output of an attempt. -/
def resultOf (s : Server) (a : Attempt) : AttemptResult := a.settlementOutput.getD (emptyOutput s a)

/-- The bytes that were delivered. -/
def AttemptResult.delivered (o : AttemptResult) : ℤ :=
  if o.available then o.output.outputPrefixEndByte - o.output.outputPrefixStartByte else 0

/-- What was counted, and how. -/
def observedUsage (s : Server) (t : TokenCounts) (o : AttemptResult) : ℤ × ℤ × ObservedSource :=
  match t.promptTokens, t.completionTokens with
  | some prompt, some completion => (prompt, completion, .coordinatorObserved)
  | _, _ =>
    (0,
      if o.available then
        ((estimatedCompletionTokensFromBytes o.delivered s.outputBytesPerTokenCeiling).or
          t.estimatedCompTokens).getD 0
      else 0,
      .byteEstimated)

/-- What a receipt is paid for, prompt not bounded. -/
def attemptUsage (s : Server) (t : TokenCounts) (o : AttemptResult) : SettlementUsage :=
  let (observedInput, observedOutput, source) := observedUsage s t o
  let free := source = .byteEstimated ∨
    (o.output.terminalState ≠ .normalDone ∧ o.delivered = 0)
  { billableInputTokens := if free then 0 else observedInput
    billableOutputTokens := if free then 0 else observedOutput
    deliveredOutputBytes := o.delivered
    observedInputTokens := observedInput
    observedOutputTokens := observedOutput }

/-- Its bytes start where the last ended. -/
def settlementAttemptOutput (env : Env) (s : Server) (r : BillingRecorder) (a : Attempt) :
    SettlementAttemptOutput :=
  let o := resultOf s a
  { accountScope := env.accountScope r.accountID
    requestID := r.requestID
    attemptN := r.settlementAttemptN.getD r.attemptN
    providerID := stableProviderID s a
    output := { o.output with
      outputPrefixStartByte := if o.available then r.outputCursorByte else 0
      outputPrefixEndByte := if o.available then r.outputCursorByte + o.delivered else 0 }
    outputAvailable := o.available
    usage := attemptUsage s a.tokens o
    usageSource := (observedUsage s a.tokens o).2.2
    terminalStateTSUnixMS :=
      if o.terminalStateTSUnixMS ≤ 0 then s.nowUnixMS else o.terminalStateTSUnixMS
    overlappingOrDuplicate := false }

/-- What went wrong. -/
inductive RecordError
  /-- `billing hot-path missing stable provider identity`. -/
  | missingProviderIdentity
  /-- `billing hot-path insert failed` and the fallback too. -/
  | hotPathFailed (hotPath fallback : LedgerError)
  | output (e : OutputError)

/-- Recorder and books behind it. -/
def recordSettlementAttemptOutput (env : Env) (s : Server) (r : BillingRecorder) (a : Attempt)
    (b : Books) : Except RecordError Unit × BillingRecorder × Books :=
  match insertSettlementAttemptOutput env.codec (settlementAttemptOutput env s r a) b.outputs with
  | .error e => (.error (.output e), r, b)
  | .ok (_, t) =>
    (.ok (), { r with outputCursorByte := r.outputCursorByte + (resultOf s a).delivered },
      { b with outputs := t })

/-- Log and credit, or the log alone. -/
def writeAttempt (env : Env) (s : Server) (r : BillingRecorder) (a : Attempt) (b : Books) :
    Except RecordError Books :=
  let i := hotPathInputOf env s r a
  match writeHotPath env r.authenticatedAccount (logRowOf r a) i b with
  | .ok b' => .ok b'
  | .error e =>
    match writeRequestLogWithIdentity r.authenticatedAccount (logRowOf r a) i b with
    | .ok b' => .ok b'
    | .error e' => .error (.hotPathFailed e e')

/-- The next number. -/
def BillingRecorder.next (r : BillingRecorder) (a : Attempt) : BillingRecorder :=
  if a.providerAssignedID = "" then r else { r with attemptN := r.attemptN + 1 }

/-- **`recordRow`** with a log and a billing store. -/
def recordRow (env : Env) (s : Server) (r : BillingRecorder) (a : Attempt) (b : Books) :
    Except RecordError Unit × BillingRecorder × Books :=
  if a.providerAssignedID = "" ∨ a.status = 503 then
    let row := logRowOf r a
    (.ok (), r.next a,
      insertLog { row with accountID := r.authenticatedAccount.getD row.accountID } b)
  else if stableProviderID s a = "" then (.error .missingProviderIdentity, r.next a, b)
  else
    match writeAttempt env s r a b with
    | .error e => (.error e, r.next a, b)
    | .ok b' =>
      let out := recordSettlementAttemptOutput env s r a b'
      (out.1, out.2.1.next a, out.2.2)

/-! ### The attempt in the books -/

section Attempt
variable (env : Env) (s : Server) (r : BillingRecorder) (a : Attempt) (b : Books)

/-- What is billed. -/
def billedInput : HotPathInput := boundProviderReportedPromptTokens (hotPathInputOf env s r a)

/-- The row that is logged. -/
def storedRow : RequestRow :=
  loggedRow r.authenticatedAccount (logRowOf r a) (hotPathInputOf env s r a)

/-- The account that pays. -/
def accountOf : String := r.authenticatedAccount.getD r.accountID

/-- The bill of the attempt. -/
def attemptBill : Bill :=
  bill (billedInput env s r a) a.retried (b.requestCount (accountOf r) r.requestID + 1)

/-- The credit of the attempt. -/
def hotPathRow : CreditRow :=
  creditRow ((billedInput env s r a).scoped env (accountOf r)) (attemptBill env s r a b)
    b.nextCreditID

theorem storedRow_eq : (storedRow env s r a).accountID = accountOf r ∧
    (storedRow env s r a).requestID = r.requestID ∧ (storedRow env s r a).retried = a.retried ∧
    (storedRow env s r a).providerAssignedID = a.providerAssignedID ∧
    (storedRow env s r a).status = a.status ∧ (storedRow env s r a).errorCode = a.errorCode ∧
    (storedRow env s r a).ts = r.startedAt ∧ (storedRow env s r a).model = r.model := by
  unfold storedRow loggedRow requestLogRowWithBoundedPrompt
  split
  · split_ifs <;> exact ⟨rfl, rfl, rfl, rfl, rfl, rfl, rfl, rfl⟩
  · exact ⟨rfl, rfl, rfl, rfl, rfl, rfl, rfl, rfl⟩

theorem requestCount_insertLog (row : RequestRow) (acct requestID : String) :
    (insertLog row b).requestCount acct requestID = b.requestCount acct requestID +
      if row.accountID = acct ∧ row.requestID = requestID then 1 else 0 := by
  unfold Books.requestCount insertLog
  simp [List.countP_append]

/-- **The hot path**: log and bill. -/
theorem writeHotPath_eq (h : a.providerAssignedID ≠ "") :
    writeHotPath env r.authenticatedAccount (logRowOf r a) (hotPathInputOf env s r a) b =
      writeBill env ((billedInput env s r a).scoped env (accountOf r)) (attemptBill env s r a b)
        (insertLog (storedRow env s r a) b) := by
  obtain ⟨hacc, hreq, hret, -⟩ := storedRow_eq env s r a
  have hcount := requestCount_insertLog b (storedRow env s r a) (accountOf r) r.requestID
  rw [if_pos ⟨hacc, hreq⟩] at hcount
  unfold attemptBill
  rw [← hcount, ← hret, ← hacc]
  exact if_neg h

/-- **The fallback**: log and identity. -/
theorem writeRequestLogWithIdentity_eq (h : a.providerAssignedID ≠ "")
    (hprovider : stableProviderID s a ≠ "") :
    writeRequestLogWithIdentity r.authenticatedAccount (logRowOf r a) (hotPathInputOf env s r a) b =
      insertProviderIdentitySnapshot (identityOf (billedInput env s r a) r.attemptN)
        (insertLog (storedRow env s r a) b) := by
  have hreported : ((none : Option ℤ).or a.tokens.promptTokens).or a.tokens.promptTokens =
      a.tokens.promptTokens := by
    cases a.tokens.promptTokens <;> rfl
  refine (if_pos ⟨h, hprovider⟩).trans ?_
  have hidentity : identityOf { hotPathInputOf env s r a with
      providerReportedPromptTokens :=
        ((none : Option ℤ).or a.tokens.promptTokens).or a.tokens.promptTokens } r.attemptN =
      identityOf (billedInput env s r a) r.attemptN := by
    rw [hreported]
    rfl
  exact congrArg (fun d => insertProviderIdentitySnapshot d (insertLog (storedRow env s r a) b))
    hidentity

end Attempt

end MacProvider.Coordinator.Billing.Recording
