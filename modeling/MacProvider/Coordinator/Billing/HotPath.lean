import MacProvider.Coordinator.Billing.Claim
import MacProvider.Coordinator.Billing.Formula
import MacProvider.Coordinator.Billing.Outputs
import MacProvider.Coordinator.Billing.Settlement

/-! # The books of the coordinator

The tables of the billing of an attempt. `writeHotPath` logs and credits it in one transaction,
`writeRequestLogWithIdentity` only logs it, and `syncVerifiedReceiptLedgerCreditForAttempt` bills it
again from its receipt. `ledger_operator_credits` is a column here. -/

namespace MacProvider.Coordinator.Billing.HotPath

open Gateway.Time Lib.Tables Billing.Schema Billing.Claim Billing.Formula Billing.Outputs
open Billing.Settlement

/-! ### Rows -/

/-- A row for `request_log`; `NULL` is the empty text. -/
structure RequestRow where
  ts : Instant
  requestID : String
  accountID : String
  /-- The id that the buyer gave the request, empty if it gave none. -/
  externalRequestID : String
  model : String
  providerAssignedID : String
  tokens : TokenCounts
  status : ℤ
  errorCode : String
  cacheQuarantineReason : String
  retried : ℤ
deriving DecidableEq

/-- A row of `request_log`, with its place in the request. -/
structure LogRow extends RequestRow where
  attemptN : ℕ
deriving DecidableEq

/-- A `ledger_request_credits` row with its operator's. -/
structure CreditRow extends Credit where
  providerAssignedID : String
  model : String
  tokens : TokenCounts
  reportedPromptTokens : Option ℤ
  usageSource : UsageSource
  promptRatePerMtok : ℤ
  completionRatePerMtok : ℤ
  globalMultiplierPPM : ℤ
  providerShareBps : ℤ
  faultFlag : FaultFlag
  operatorCredits : Option ℤ
deriving DecidableEq

/-- A row of `ledger_provider_identity_snapshots`. -/
structure Identity where
  requestID : String
  attemptN : ℕ
  providerAssignedID : String
  providerID : String
  configSnapshotID : Option ℤ
  reportedPromptTokens : Option ℤ
deriving DecidableEq

/-- Its `UNIQUE` key. -/
def Identity.key (d : Identity) : String × ℕ × String :=
  (d.requestID, d.attemptN, d.providerAssignedID)

/-- A row of `settlement_route_snapshots`. -/
structure RouteRow extends RouteSnapshot where
  providerReceiptKeyID : String
  modelID : String
  providerReportedModelHash : String
  expectedCatalogModelHash : String
  catalogID : String
  catalogBodyDigest : String
  promptHash : String
  requestStartTSUnixMS : ℤ
  pendingDeadlineSeconds : ℤ

/-- What was found about a receipt. -/
inductive ReceiptResult
  | valid | invalid | inconclusive
deriving DecidableEq

/-- A row of `settlement_receipt_verdicts`. -/
structure VerdictRow extends ReceiptVerdict where
  receiptPresent : Bool
  receiptResult : ReceiptResult
  reason : String
  terminalStateTSUnixMS : ℤ
  pendingDeadlineUnixMS : ℤ
  receivedAtUnixMS : ℤ

/-- Its `UNIQUE` key. -/
abbrev VerdictKey := String × String × ℕ × String

/-- The key of a verdict. -/
def VerdictRow.key (v : VerdictRow) : VerdictKey :=
  (v.accountScopeHash, v.requestID, v.attemptN, v.providerID)

/-- `settlement_receipt_verdicts`. -/
abbrev VerdictTable := Table VerdictRow.key

/-- The tables. -/
structure Books where
  log : List LogRow
  credits : Table fun c : CreditRow => c.id
  identities : Table Identity.key
  payouts : Table Payout.id
  resolutions : List Resolution
  snapshots : List RouteRow
  verdicts : VerdictTable
  outputs : OutputTable

/-- No row. -/
def Books.empty : Books := ⟨[], .empty, .empty, .empty, [], [], .empty, .empty⟩

/-- A `ledger_config_snapshots` row, parsed. -/
structure Config where
  rateFor : String → RateCardEntry
  multiplierPPM : ℤ
  providerShareBps : ℤ

/-- Configurations, scope hashes and the JSON of the usage. -/
structure Env where
  configByID : ℤ → Option Config
  configAt : Instant → Option Config
  accountScope : String → String
  scopeHash : String → String
  codec : Codec
  decodeUsage : String → Option SettlementUsage

/-- Why a transaction fails. -/
inductive LedgerError
  /-- A `CHECK` or `UNIQUE` constraint of the tables. -/
  | constraint
  | decodeUsage
  /-- `ledger mismatch on settled credit`. -/
  | settledMismatch (requestID : String) (attemptN : ℕ) (providerID : String)
deriving DecidableEq

/-- The tables that settlement and payout see. -/
def Books.ledger (b : Books) : Ledger where
  payouts := b.payouts
  credits :=
    ⟨b.credits.rows.map CreditRow.toCredit, by
      rw [List.map_map]
      exact b.credits.nodup⟩
  operatorCredits := b.credits.rows.filterMap fun c => c.operatorCredits.map fun o => ⟨c.id, o⟩
  evidence :=
    { resolutions := b.resolutions
      snapshots := b.snapshots.map RouteRow.toRouteSnapshot
      verdicts := b.verdicts.rows.map VerdictRow.toReceiptVerdict
      outputs := b.outputs.rows.map StoredOutput.toAttemptOutput }

/-- The row as the ledger has it. -/
def CreditRow.inLedger (l : Ledger) (c : CreditRow) : CreditRow :=
  { c with toCredit := (l.credits.find? c.id).getD c.toCredit }

theorem inLedger_id (l : Ledger) (c : CreditRow) : (c.inLedger l).id = c.id := by
  unfold CreditRow.inLedger
  rcases h : l.credits.find? c.id with _ | c'
  · rfl
  · exact Table.key_of_find? h

/-- The books behind a change of the ledger. -/
def Books.withLedger (b : Books) (l : Ledger) : Books :=
  { b with
    payouts := l.payouts
    credits := b.credits.update (fun _ => true) (CreditRow.inLedger l) (inLedger_id l) }

/-! ### Writing rows -/

/-- The credit of the attempt. -/
def Books.creditOf (b : Books) (requestID : String) (attemptN : ℕ) (providerID : String) :
    Option CreditRow :=
  b.credits.rows.find? fun c =>
    c.requestID = requestID ∧ c.attemptN = attemptN ∧ c.providerID = providerID

/-- The rows of a request in the log. -/
def Books.requestCount (b : Books) (accountID requestID : String) : ℕ :=
  b.log.countP fun r => r.accountID = accountID ∧ r.requestID = requestID

/-- `requestlog.insert`: rows are counted from 0. -/
def insertLog (row : RequestRow) (b : Books) : Books :=
  { b with log := b.log ++ [⟨row, b.requestCount row.accountID row.requestID⟩] }

/-- `CHECK(v IS NULL OR v >= 0)`. -/
def NonnegOrNull (v : Option ℤ) : Prop := ∀ x ∈ v, 0 ≤ x

instance (v : Option ℤ) : Decidable (NonnegOrNull v) := by unfold NonnegOrNull; infer_instance

/-- The `CHECK` constraints of the two tables. -/
@[mk_iff]
structure CreditRow.Checks (c : CreditRow) : Prop where
  prompt : NonnegOrNull c.tokens.promptTokens
  reported : NonnegOrNull c.reportedPromptTokens
  cached : NonnegOrNull c.tokens.cachedPromptTokens
  cached_le : ∀ k ∈ c.tokens.cachedPromptTokens, ∀ p ∈ c.tokens.promptTokens, k ≤ p
  completion : NonnegOrNull c.tokens.completionTokens
  estimated : NonnegOrNull c.tokens.estimatedCompTokens
  promptRate : 0 ≤ c.promptRatePerMtok
  completionRate : 0 ≤ c.completionRatePerMtok
  multiplier : 0 ≤ c.globalMultiplierPPM
  share : 0 ≤ c.providerShareBps ∧ c.providerShareBps ≤ providerShareDenom
  gross : 0 ≤ c.grossCredits
  provider : 0 ≤ c.providerCredits
  nullError : c.usageSource = .nullError → c.grossCredits = 0
  operator : NonnegOrNull c.operatorCredits

instance (c : CreditRow) : Decidable c.Checks := decidable_of_iff _ (CreditRow.checks_iff c).symm

/-- The next id. -/
def Books.nextCreditID (b : Books) : ℕ := (b.credits.rows.map fun c => c.id).foldl max 0 + 1

theorem lt_nextCreditID (b : Books) : ∀ c ∈ b.credits.rows, c.id < b.nextCreditID := by
  intro c hc
  exact lt_max_succ (List.mem_map_of_mem hc)

/-- The credits with one more row. -/
def Books.appended (b : Books) (row : ℕ → CreditRow) (hrow : ∀ id, (row id).id = id) :
    Table fun c : CreditRow => c.id :=
  ⟨b.credits.rows ++ [row b.nextCreditID], by
    rw [List.map_append, List.nodup_append]
    refine ⟨b.credits.nodup, by simp, ?_⟩
    intro x hx y hy
    obtain ⟨c, hc, rfl⟩ := List.mem_map.mp hx
    rw [List.map_singleton, List.mem_singleton] at hy
    subst hy
    rw [hrow]
    exact (lt_nextCreditID b c hc).ne⟩

/-- `INSERT INTO ledger_request_credits`. -/
def insertCredit (row : ℕ → CreditRow) (hrow : ∀ id, (row id).id = id) (b : Books) :
    Except LedgerError Books :=
  let c := row b.nextCreditID
  if b.creditOf c.requestID c.attemptN c.providerID = none ∧ c.Checks then
    .ok { b with credits := b.appended row hrow }
  else .error .constraint

/-! ### Receipts -/

/-- A receipt can be applied. -/
def CreditRow.syncable (c : CreditRow) : Bool :=
  c.policyMode = .enforce && !c.quarantined && !c.settled && c.settlementID.isNone

/-- The output with the verified receipt. -/
def Books.verifiedOutput (b : Books) (c : CreditRow) : Option StoredOutput :=
  match c.accountScopeHash, c.policyVersion with
  | some scopeHash, some version =>
    b.verdicts.rows.findSome? fun srv =>
      if srv.accountScopeHash = scopeHash ∧ srv.requestID = c.requestID ∧
          srv.attemptN = c.attemptN ∧ srv.providerID = c.providerID ∧ srv.mode = .enforce ∧
          srv.policyVersion = version ∧ srv.closed = true ∧ srv.outcome = .verified then
        b.snapshots.findSome? fun srs =>
          if srs.requestID = c.requestID ∧ srs.attemptN = c.attemptN ∧
              srs.providerID = c.providerID ∧ srs.digest = srv.digest ∧ srs.mode = .enforce ∧
              srs.policyVersion = version then
            b.outputs.rows.find? fun sao =>
              sao.accountScope = srs.accountScope ∧ sao.requestID = srs.requestID ∧
                sao.attemptN = srs.attemptN ∧ sao.providerID = srs.providerID ∧
                sao.overlappingOrDuplicate = false
          else none
      else none
  | _, _ => none

/-- What it was billed with. -/
def Books.configSnapshotOf (b : Books) (c : CreditRow) : Option ℤ :=
  (b.identities.find? (c.requestID, c.attemptN, c.providerAssignedID)).bind fun d =>
    if d.providerID = c.providerID then d.configSnapshotID else none

/-- No more than the ledger has. -/
def chargedPrompt (c : CreditRow) (u : SettlementUsage) : ℤ :=
  match c.tokens.promptTokens with
  | some ledgerPrompt =>
    if ledgerPrompt < u.billableInputTokens then ledgerPrompt else u.billableInputTokens
  | none => u.billableInputTokens

/-- Its rates, none for the cache. -/
def CreditRow.rates (c : CreditRow) : RateCardEntry :=
  ⟨c.promptRatePerMtok, 0, c.completionRatePerMtok, false⟩

/-- Its amounts are those at the rates `e`. -/
def CreditRow.pricedAt (c : CreditRow) (e : RateCardEntry) : Bool :=
  let current := computeCreditsWithCache c.tokens (some c.usageSource) (some c.faultFlag) e
    c.globalMultiplierPPM c.providerShareBps
  current.grossCredits = c.grossCredits && current.providerCredits = c.providerCredits &&
    current.usageSource = c.usageSource && current.faultFlag = c.faultFlag

/-- Cached tokens and rates, or the reason for a quarantine. -/
def cacheProvenance (env : Env) (configID : Option ℤ) (charged : ℤ) (c : CreditRow) :
    Except String (Option ℤ × RateCardEntry) :=
  match c.tokens.cachedPromptTokens with
  | none => .ok (none, c.rates)
  | some cached =>
    if cached ≤ 0 then .ok (none, c.rates)
    else if charged < cached then .error "invalid_cached_prompt_tokens"
    else
      match configID.bind env.configByID with
      | none => .error "missing_cache_config_snapshot"
      | some cfg =>
        let e := cfg.rateFor c.model
        if e.promptCreditsPerMtok ≠ c.promptRatePerMtok ∨
            e.completionCreditsPerMtok ≠ c.completionRatePerMtok ∨
            cfg.multiplierPPM ≠ c.globalMultiplierPPM ∨
            cfg.providerShareBps ≠ c.providerShareBps ∨ c.pricedAt e = false then
          .error "cache_config_snapshot_rate_mismatch"
        else .ok (some cached, e)

/-- `markVerifiedReceiptCacheQuarantinedTx`. -/
def CreditRow.cacheQuarantined (reason : String) (c : CreditRow) : CreditRow :=
  { c with
    quarantined := true, quarantineReason := some reason, grossCredits := 0, providerCredits := 0
    operatorCredits := c.operatorCredits.map fun _ => 0 }

/-- With the amounts of its receipt. -/
def CreditRow.rebilled (result : BilledRow) (c : CreditRow) : CreditRow :=
  { c with
    tokens := ⟨result.tokens.promptTokens, c.tokens.cachedPromptTokens,
      result.tokens.completionTokens, none⟩
    usageSource := result.usageSource
    grossCredits := result.grossCredits
    providerCredits := result.providerCredits
    faultFlag := result.faultFlag
    operatorCredits := c.operatorCredits.map fun _ => result.operatorCredits }

/-- What a verified receipt makes of a credit. -/
def syncRow (env : Env) (configID : Option ℤ) (u : SettlementUsage) (c : CreditRow) : CreditRow :=
  match cacheProvenance env configID (chargedPrompt c u) c with
  | .error reason => c.cacheQuarantined reason
  | .ok (cached, e) =>
    c.rebilled (computeCreditsWithCache
      ⟨some (chargedPrompt c u), cached, some u.billableOutputTokens, none⟩
      (some .providerReported) (some c.faultFlag) e c.globalMultiplierPPM c.providerShareBps)

theorem syncRow_cases (env : Env) (configID : Option ℤ) (u : SettlementUsage) (c : CreditRow) :
    (∃ reason, cacheProvenance env configID (chargedPrompt c u) c = .error reason ∧
      syncRow env configID u c = c.cacheQuarantined reason) ∨
    ∃ cached e row, cacheProvenance env configID (chargedPrompt c u) c = .ok (cached, e) ∧
      BilledAs ⟨some (chargedPrompt c u), cached, some u.billableOutputTokens, none⟩
        .providerReported c.faultFlag e c.globalMultiplierPPM c.providerShareBps row ∧
      syncRow env configID u c = c.rebilled row := by
  unfold syncRow
  rcases h : cacheProvenance env configID (chargedPrompt c u) c with reason | ⟨cached, e⟩
  · exact Or.inl ⟨reason, rfl, rfl⟩
  · exact Or.inr ⟨cached, e, _, rfl, billedAs .., rfl⟩

theorem syncRow_id (env : Env) (configID : Option ℤ) (u : SettlementUsage) (c : CreditRow) :
    (syncRow env configID u c).id = c.id := by
  rcases syncRow_cases env configID u c with ⟨_, _, h⟩ | ⟨_, _, _, _, _, h⟩ <;> rw [h] <;> rfl

def VerdictRow.cacheQuarantined (reason : String) (v : VerdictRow) : VerdictRow :=
  { v with receiptResult := .invalid, outcome := .quarantined, reason, closed := true }

theorem cacheQuarantined_key (reason : String) (v : VerdictRow) :
    (v.cacheQuarantined reason).key = v.key := rfl

/-- The verdict is about the attempt of the credit. -/
def verdictOf (c : CreditRow) (v : VerdictRow) : Bool :=
  c.accountScopeHash = some v.accountScopeHash ∧ v.requestID = c.requestID ∧
    v.attemptN = c.attemptN ∧ v.providerID = c.providerID

/-- `markSettlementReceiptCacheQuarantinedTx`. -/
def closeVerdict (c : CreditRow) (reason : String) (t : VerdictTable) : VerdictTable :=
  t.update (verdictOf c) (VerdictRow.cacheQuarantined reason) (cacheQuarantined_key reason)

/-- The receipt for `c` is applied. -/
def Books.applyReceipt (env : Env) (u : SettlementUsage) (c : CreditRow) (b : Books) : Books :=
  { b with
    credits := b.credits.update (fun x => x.id = c.id) (syncRow env (b.configSnapshotOf c) u)
      (syncRow_id env (b.configSnapshotOf c) u)
    verdicts :=
      match cacheProvenance env (b.configSnapshotOf c) (chargedPrompt c u) c with
      | .error reason => closeVerdict c reason b.verdicts
      | .ok _ => b.verdicts }

/-- **The sync of a verified receipt.** -/
def syncVerifiedReceiptLedgerCreditForAttempt (env : Env) (requestID : String) (attemptN : ℕ)
    (providerID : String) (b : Books) : Except LedgerError Books :=
  match b.creditOf requestID attemptN providerID with
  | none => .ok b
  | some c =>
    if c.syncable = false then .ok b
    else
      match b.verifiedOutput c with
      | none => .ok b
      | some sao =>
        match env.decodeUsage sao.usageCanonicalJSON with
        | none => .error .decodeUsage
        | some u =>
          if (syncRow env (b.configSnapshotOf c) u c).Checks then .ok (b.applyReceipt env u c)
          else .error .constraint

/-! ### The hot path -/

/-- What is billed for an attempt. -/
structure HotPathInput where
  requestID : String
  attemptN : ℕ
  providerAssignedID : String
  providerID : String
  model : String
  ts : Instant
  tokens : TokenCounts
  promptTokenUpperBound : Option ℤ
  providerReportedPromptTokens : Option ℤ
  errorCode : String
  faultFlag : FaultFlag
  stickyResult : String
  configSnapshotID : ℤ
  rateEntry : RateCardEntry
  multiplierPPM : ℤ
  providerShareBps : ℤ
  settlementAccountScopeHash : String
  settlementPolicyMode : PolicyMode
  settlementPolicyVersion : String

/-- No more than a bound that is not negative. -/
def boundedPrompt (upperBound prompt : Option ℤ) : Option ℤ :=
  match prompt, upperBound with
  | some p, some bound => if max bound 0 < p then some (max bound 0) else some p
  | _, _ => prompt

/-- The prompt is cut to its bound. -/
def boundProviderReportedPromptTokens (i : HotPathInput) : HotPathInput :=
  { i with
    providerReportedPromptTokens := i.tokens.promptTokens
    tokens := { i.tokens with
      promptTokens := boundedPrompt i.promptTokenUpperBound i.tokens.promptTokens } }

/-- The bound for the log, which drops cached tokens. -/
def requestLogRowWithBoundedPrompt (row : RequestRow) (i : HotPathInput) : RequestRow :=
  match row.tokens.promptTokens, i.promptTokenUpperBound with
  | some p, some bound =>
    if p ≤ max bound 0 then row
    else
      { row with
        tokens := { row.tokens with
          promptTokens := some (max bound 0)
          cachedPromptTokens := row.tokens.cachedPromptTokens.filter fun c => c ≤ max bound 0 } }
  | _, _ => row

/-- What is billed of the cache, or the reason for a quarantine. -/
def normalizeCachedPromptTokens (i : HotPathInput) : Option ℤ × String :=
  match i.tokens.cachedPromptTokens with
  | none => (none, "")
  | some cached =>
    if cached < 0 ∨ (∀ p ∈ i.tokens.promptTokens, p < cached) then
      (none, "invalid_cached_prompt_tokens")
    else if 0 < i.attemptN then (none, "")
    else if i.stickyResult ≠ "hit" then
      if 0 < cached then (none, "ambiguous_cache") else (none, "")
    else (some cached, "")

/-- `ComputeCreditsWithCache` for the input. -/
def HotPathInput.credits (i : HotPathInput) (cached : Option ℤ) : BilledRow :=
  computeCreditsWithCache { i.tokens with cachedPromptTokens := cached }
    (some (usageFor i.errorCode i.tokens.estimatedCompTokens)) (some i.faultFlag) i.rateEntry
    i.multiplierPPM i.providerShareBps

/-- Number and bill of an attempt, and the reason of a quarantine. -/
structure Bill where
  attemptN : ℕ
  result : BilledRow
  reason : Option String

/-- The bill; the log has `count` rows with this one. -/
def bill (i : HotPathInput) (retried : ℤ) (count : ℕ) : Bill :=
  if i.attemptN < count - 1 then
    ⟨count - 1, zeroCredits (i.credits none), some "ambiguous_attempt_n"⟩
  else
    let cache := normalizeCachedPromptTokens i
    if i.attemptN = 1 ∧ retried = 0 then
      ⟨i.attemptN, zeroCredits (i.credits none), some "ambiguous_attempt_n"⟩
    else if cache.2 ≠ "" then ⟨i.attemptN, zeroCredits (i.credits cache.1), some cache.2⟩
    else ⟨i.attemptN, i.credits cache.1, none⟩

/-- Its row, without an operator credit if quarantined. -/
def creditRow (i : HotPathInput) (d : Bill) (id : ℕ) : CreditRow where
  id := id
  requestID := i.requestID
  attemptN := d.attemptN
  providerID := i.providerID
  ts := i.ts
  grossCredits := d.result.grossCredits
  providerCredits := d.result.providerCredits
  settled := false
  settlementID := none
  quarantined := d.reason.isSome
  quarantineReason := d.reason
  accountScopeHash := nullString i.settlementAccountScopeHash
  policyMode := i.settlementPolicyMode
  policyVersion := nullString i.settlementPolicyVersion
  providerAssignedID := i.providerAssignedID
  model := i.model
  tokens := d.result.tokens
  reportedPromptTokens := i.providerReportedPromptTokens
  usageSource := d.result.usageSource
  promptRatePerMtok := d.result.promptRatePerMtok
  completionRatePerMtok := d.result.completionRatePerMtok
  globalMultiplierPPM := d.result.globalMultiplierPPM
  providerShareBps := d.result.providerShareBps
  faultFlag := d.result.faultFlag
  operatorCredits := if d.reason.isSome then none else some d.result.operatorCredits

theorem creditRow_id (i : HotPathInput) (d : Bill) (id : ℕ) : (creditRow i d id).id = id := rfl

/-- `NULL` unless positive. -/
def nullPositive (v : ℤ) : Option ℤ := if v ≤ 0 then none else some v

/-- The identity of the attempt. -/
def identityOf (i : HotPathInput) (attemptN : ℕ) : Identity :=
  ⟨i.requestID, attemptN, i.providerAssignedID, i.providerID, nullPositive i.configSnapshotID,
    i.providerReportedPromptTokens⟩

/-- `ON CONFLICT DO NOTHING`. -/
def insertProviderIdentitySnapshot (d : Identity) (b : Books) : Except LedgerError Books :=
  if NonnegOrNull d.reportedPromptTokens then
    .ok { b with identities := (b.identities.insert d).getD b.identities }
  else .error .constraint

/-- The writes for an attempt that is in the log. -/
def writeBill (env : Env) (i : HotPathInput) (d : Bill) (b : Books) : Except LedgerError Books := do
  let b ← insertCredit (creditRow i d) (creditRow_id i d) b
  let b ← insertProviderIdentitySnapshot (identityOf i d.attemptN) b
  if d.reason.isSome then .ok b
  else syncVerifiedReceiptLedgerCreditForAttempt env i.requestID d.attemptN i.providerID b

/-- The input with the scope of its account. -/
def HotPathInput.scoped (env : Env) (accountID : String) (i : HotPathInput) : HotPathInput :=
  { i with
    settlementAccountScopeHash :=
      if i.settlementAccountScopeHash = "" then env.scopeHash (env.accountScope accountID)
      else i.settlementAccountScopeHash }

/-- The row of the log, under the account if there is one. -/
def loggedRow (account : Option String) (row : RequestRow) (i : HotPathInput) : RequestRow :=
  let row := requestLogRowWithBoundedPrompt row i
  { row with accountID := account.getD row.accountID }

/-- **`writeHotPath`**: the log, and a provider's credit. -/
def writeHotPath (env : Env) (account : Option String) (row : RequestRow) (i : HotPathInput)
    (b : Books) : Except LedgerError Books :=
  let i := boundProviderReportedPromptTokens i
  let row := loggedRow account row i
  let b := insertLog row b
  if i.providerAssignedID = "" then .ok b
  else
    writeBill env (i.scoped env row.accountID)
      (bill i row.retried (b.requestCount row.accountID i.requestID)) b

/-- **The log of an attempt without a credit.** -/
def writeRequestLogWithIdentity (account : Option String) (row : RequestRow) (i : HotPathInput)
    (b : Books) : Except LedgerError Books :=
  let i := { i with
    providerReportedPromptTokens :=
      (i.providerReportedPromptTokens.or i.tokens.promptTokens).or row.tokens.promptTokens }
  let b := insertLog (loggedRow account row i) b
  if i.providerAssignedID ≠ "" ∧ i.providerID ≠ "" then
    insertProviderIdentitySnapshot (identityOf i i.attemptN) b
  else .ok b

/-! ### Bills -/

section Bills
variable {i : HotPathInput} {retried : ℤ} {count : ℕ}

theorem zeroCredits_eq (row : BilledRow) :
    (zeroCredits row).grossCredits = 0 ∧ (zeroCredits row).providerCredits = 0 ∧
      (zeroCredits row).usageSource = row.usageSource ∧
      (zeroCredits row).faultFlag = row.faultFlag ∧
      (zeroCredits row).promptRatePerMtok = row.promptRatePerMtok ∧
      (zeroCredits row).completionRatePerMtok = row.completionRatePerMtok ∧
      (zeroCredits row).globalMultiplierPPM = row.globalMultiplierPPM ∧
      (zeroCredits row).providerShareBps = row.providerShareBps := by
  unfold zeroCredits
  dsimp only
  split_ifs <;> exact ⟨rfl, rfl, rfl, rfl, rfl, rfl, rfl, rfl⟩

/-- Its number is not the next, it may be a copy, or its cache is in doubt. -/
def Held (i : HotPathInput) (retried : ℤ) (count : ℕ) : Prop :=
  i.attemptN < count - 1 ∨ (i.attemptN = 1 ∧ retried = 0) ∨ (normalizeCachedPromptTokens i).2 ≠ ""

instance : Decidable (Held i retried count) := by unfold Held; infer_instance

theorem normalizeCachedPromptTokens_held {i : HotPathInput}
    (h : (normalizeCachedPromptTokens i).2 ≠ "") : (normalizeCachedPromptTokens i).1 = none := by
  unfold normalizeCachedPromptTokens at *
  split at h
  · rfl
  · split_ifs at h ⊢
    all_goals first | rfl | exact absurd rfl h

/-- **Two kinds of bills**: with a reason, or the formula's. -/
theorem bill_cases (i : HotPathInput) (retried : ℤ) (count : ℕ) :
    (Held i retried count ∧ ∃ reason, bill i retried count =
      ⟨max i.attemptN (count - 1), zeroCredits (i.credits none), some reason⟩) ∨
    (¬ Held i retried count ∧ bill i retried count =
      ⟨i.attemptN, i.credits (normalizeCachedPromptTokens i).1, none⟩) := by
  unfold bill Held
  by_cases h1 : i.attemptN < count - 1
  · rw [if_pos h1, max_eq_right h1.le]
    exact Or.inl ⟨Or.inl h1, _, rfl⟩
  rw [if_neg h1, max_eq_left (not_lt.mp h1)]
  by_cases h2 : i.attemptN = 1 ∧ retried = 0
  · rw [if_pos h2]
    exact Or.inl ⟨Or.inr (Or.inl h2), _, rfl⟩
  rw [if_neg h2]
  by_cases h3 : (normalizeCachedPromptTokens i).2 ≠ ""
  · rw [if_pos h3, normalizeCachedPromptTokens_held h3]
    exact Or.inl ⟨Or.inr (Or.inr h3), _, rfl⟩
  · rw [if_neg h3]
    exact Or.inr ⟨not_or.mpr ⟨h1, not_or.mpr ⟨h2, h3⟩⟩, rfl⟩

theorem billedAs_credits (i : HotPathInput) (cached : Option ℤ) :
    BilledAs { i.tokens with cachedPromptTokens := cached }
      (usageFor i.errorCode i.tokens.estimatedCompTokens) i.faultFlag i.rateEntry i.multiplierPPM
      i.providerShareBps (i.credits cached) :=
  billedAs ..

theorem bill_parts (i : HotPathInput) (retried : ℤ) (count : ℕ) :
    (bill i retried count).result.providerCredits =
        providerPart (bill i retried count).result.grossCredits i.providerShareBps ∧
      (bill i retried count).result.providerShareBps = i.providerShareBps := by
  rcases bill_cases i retried count with ⟨-, reason, h⟩ | ⟨-, h⟩
  · have hbilled := billedAs_credits i none
    obtain ⟨hg, hp, -, -, -, -, -, hs⟩ := zeroCredits_eq (i.credits none)
    rw [h]
    exact ⟨by rw [hg, hp, providerPart_zero], hs.trans hbilled.rates.2.2.2⟩
  · have hbilled := billedAs_credits i (normalizeCachedPromptTokens i).1
    rw [h]
    exact ⟨hbilled.parts.1, hbilled.rates.2.2.2⟩

end Bills

/-! ### What the writes do -/

theorem exists_of_isOk {ε α : Type} {x : Except ε α} (h : x.isOk = true) : ∃ a, x = .ok a := by
  cases x with
  | error e => cases h
  | ok a => exact ⟨a, rfl⟩

/-- A failed transaction changes nothing. -/
def commit {ε : Type} (b : Books) (result : Except ε Books) : Books := result.toOption.getD b

theorem commit_of_ok {ε : Type} {P : Books → Prop} {b : Books} {result : Except ε Books} (hb : P b)
    (hok : ∀ b', result = .ok b' → P b') : P (commit b result) := by
  cases result with
  | error e => exact hb
  | ok b' => exact hok b' rfl

section Writes
variable {env : Env} {b b' : Books} {i : HotPathInput} {d : Bill} {account : Option String}
  {row : RequestRow}

theorem creditOf_update {p : CreditRow → Bool} {f : CreditRow → CreditRow}
    (hf : ∀ c, (f c).id = c.id)
    (hkey : ∀ c, (f c).requestID = c.requestID ∧ (f c).attemptN = c.attemptN ∧
      (f c).providerID = c.providerID)
    (h : b'.credits = b.credits.update p f hf) (req : String) (n : ℕ) (pid : String) :
    b'.creditOf req n pid = (b.creditOf req n pid).map fun c => if p c then f c else c := by
  unfold Books.creditOf
  rw [h]
  unfold Table.update
  rw [List.find?_map]
  congr 2
  funext c
  have hc := hkey c
  simp only [Function.comp]
  split_ifs
  · rw [hc.1, hc.2.1, hc.2.2]
  · rfl

theorem syncRow_key (env : Env) (configID : Option ℤ) (u : SettlementUsage) (c : CreditRow) :
    (syncRow env configID u c).requestID = c.requestID ∧
      (syncRow env configID u c).attemptN = c.attemptN ∧
      (syncRow env configID u c).providerID = c.providerID := by
  rcases syncRow_cases env configID u c with ⟨_, _, h⟩ | ⟨_, _, _, _, _, h⟩ <;> rw [h] <;>
    exact ⟨rfl, rfl, rfl⟩

/-- **A receipt is applied** to its credit. -/
theorem sync_of_output {req : String} {n : ℕ} {pid : String} {c : CreditRow}
    {sao : StoredOutput} {u : SettlementUsage}
    (hc : b.creditOf req n pid = some c) (hsync : c.syncable = true)
    (hsao : b.verifiedOutput c = some sao) (hu : env.decodeUsage sao.usageCanonicalJSON = some u)
    (hchecks : (syncRow env (b.configSnapshotOf c) u c).Checks) :
    syncVerifiedReceiptLedgerCreditForAttempt env req n pid b =
        .ok (b.applyReceipt env u c) ∧
      (b.applyReceipt env u c).creditOf req n pid =
        some (syncRow env (b.configSnapshotOf c) u c) := by
  constructor
  · unfold syncVerifiedReceiptLedgerCreditForAttempt
    rw [hc]
    dsimp only
    rw [if_neg (by simp [hsync]), hsao]
    dsimp only
    rw [hu]
    exact if_pos hchecks
  · rw [creditOf_update (b := b) (syncRow_id env (b.configSnapshotOf c) u)
      (syncRow_key env (b.configSnapshotOf c) u) rfl, hc]
    simp

/-- **What a sync does**: nothing, or a receipt is applied. -/
theorem sync_cases {req pid : String} {n : ℕ}
    (h : syncVerifiedReceiptLedgerCreditForAttempt env req n pid b = .ok b') :
    b' = b ∨ ∃ c sao u, b.creditOf req n pid = some c ∧ c.syncable = true ∧
      b.verifiedOutput c = some sao ∧ env.decodeUsage sao.usageCanonicalJSON = some u ∧
      (syncRow env (b.configSnapshotOf c) u c).Checks ∧ b' = b.applyReceipt env u c := by
  unfold syncVerifiedReceiptLedgerCreditForAttempt at h
  split at h
  · exact Or.inl (Except.ok.inj h).symm
  next c hc =>
  split at h
  · exact Or.inl (Except.ok.inj h).symm
  next hsync =>
  split at h
  · exact Or.inl (Except.ok.inj h).symm
  next sao hsao =>
  split at h
  · cases h
  next u hu =>
  split at h
  · next hchecks =>
    exact Or.inr ⟨c, sao, u, hc, by simpa using hsync, hsao, hu, hchecks, (Except.ok.inj h).symm⟩
  · cases h

theorem insertCredit_ok {f : ℕ → CreditRow} {hf : ∀ id, (f id).id = id}
    (h : insertCredit f hf b = .ok b') :
    b.creditOf (f b.nextCreditID).requestID (f b.nextCreditID).attemptN
        (f b.nextCreditID).providerID = none ∧
      (f b.nextCreditID).Checks ∧ b' = { b with credits := b.appended f hf } := by
  unfold insertCredit at h
  dsimp only at h
  split at h
  · next hok =>
    cases h
    exact ⟨hok.1, hok.2, rfl⟩
  · cases h

theorem insertProviderIdentitySnapshot_ok {d : Identity}
    (h : insertProviderIdentitySnapshot d b = .ok b') :
    NonnegOrNull d.reportedPromptTokens ∧
      b' = { b with identities := (b.identities.insert d).getD b.identities } := by
  unfold insertProviderIdentitySnapshot at h
  split at h
  · next hok =>
    cases h
    exact ⟨hok, rfl⟩
  · cases h

/-- The books with the bill of the attempt. -/
def Books.credited (i : HotPathInput) (d : Bill) (b : Books) : Books :=
  { b with
    credits := b.appended (creditRow i d) (creditRow_id i d)
    identities := (b.identities.insert (identityOf i d.attemptN)).getD b.identities }

/-- **What a bill writes**: row and identity, and a receipt if it is not quarantined. -/
theorem writeBill_ok (h : writeBill env i d b = .ok b') :
    b.creditOf i.requestID d.attemptN i.providerID = none ∧
      (creditRow i d b.nextCreditID).Checks ∧
      (if d.reason.isSome then b' = b.credited i d
        else syncVerifiedReceiptLedgerCreditForAttempt env i.requestID d.attemptN i.providerID
          (b.credited i d) = .ok b') := by
  obtain ⟨b₁, h1, h⟩ := bind_ok h
  obtain ⟨b₂, h2, h⟩ := bind_ok h
  obtain ⟨hnone, hchecks, rfl⟩ := insertCredit_ok h1
  obtain ⟨-, rfl⟩ := insertProviderIdentitySnapshot_ok h2
  refine ⟨hnone, hchecks, ?_⟩
  split_ifs at h ⊢
  · cases h
    rfl
  · exact h

end Writes

/-! ### The log and the other tables -/

section Log
variable {env : Env} {b b' : Books} (l : List LogRow)

/-- The books with another log. -/
def Books.withLog (l : List LogRow) (b : Books) : Books := { b with log := l }

theorem insertCredit_withLog (f : ℕ → CreditRow) (hf : ∀ id, (f id).id = id) :
    insertCredit f hf (b.withLog l) = (insertCredit f hf b).map (Books.withLog l) := by
  unfold insertCredit
  change (if b.creditOf (f b.nextCreditID).requestID (f b.nextCreditID).attemptN
    (f b.nextCreditID).providerID = none ∧ (f b.nextCreditID).Checks then _ else _) = _
  dsimp only
  split_ifs <;> rfl

theorem insertProviderIdentitySnapshot_withLog (d : Identity) :
    insertProviderIdentitySnapshot d (b.withLog l) =
      (insertProviderIdentitySnapshot d b).map (Books.withLog l) := by
  unfold insertProviderIdentitySnapshot
  split_ifs <;> rfl

theorem sync_withLog (req : String) (n : ℕ) (pid : String) :
    syncVerifiedReceiptLedgerCreditForAttempt env req n pid (b.withLog l) =
      (syncVerifiedReceiptLedgerCreditForAttempt env req n pid b).map
        (Books.withLog l) := by
  unfold syncVerifiedReceiptLedgerCreditForAttempt
  change (match b.creditOf req n pid with | none => _ | some c => _) = _
  cases b.creditOf req n pid with
  | none => rfl
  | some c =>
    dsimp only
    split_ifs
    · rfl
    change (match b.verifiedOutput c with | none => _ | some sao => _) = _
    cases b.verifiedOutput c with
    | none => rfl
    | some sao =>
      dsimp only
      cases env.decodeUsage sao.usageCanonicalJSON with
      | none => rfl
      | some u =>
        change (if (syncRow env (b.configSnapshotOf c) u c).Checks then _ else _) = _
        dsimp only
        split_ifs <;> rfl

/-- **A bill is written without a look at the log.** -/
theorem writeBill_withLog (i : HotPathInput) (d : Bill) :
    writeBill env i d (b.withLog l) = (writeBill env i d b).map (Books.withLog l) := by
  unfold writeBill
  rw [insertCredit_withLog]
  cases insertCredit (creditRow i d) (creditRow_id i d) b with
  | error e => rfl
  | ok b₁ =>
    change (insertProviderIdentitySnapshot (identityOf i d.attemptN) (b₁.withLog l) >>= _) =
      (insertProviderIdentitySnapshot (identityOf i d.attemptN) b₁ >>= _).map _
    rw [insertProviderIdentitySnapshot_withLog]
    cases insertProviderIdentitySnapshot (identityOf i d.attemptN) b₁ with
    | error e => rfl
    | ok b₂ =>
      change (if d.reason.isSome then .ok (b₂.withLog l) else
        syncVerifiedReceiptLedgerCreditForAttempt env i.requestID d.attemptN i.providerID
          (b₂.withLog l)) = (if d.reason.isSome then .ok b₂ else
        syncVerifiedReceiptLedgerCreditForAttempt env i.requestID d.attemptN i.providerID
          b₂).map _
      rw [sync_withLog]
      split_ifs <;> rfl

theorem writeBill_log {i : HotPathInput} {d : Bill} (h : writeBill env i d b = .ok b') :
    b'.log = b.log := by
  have hframe := @writeBill_withLog env b b.log i d
  change writeBill env i d b = _ at hframe
  rw [h] at hframe
  have := Except.ok.inj hframe
  rw [this]
  rfl

end Log

end MacProvider.Coordinator.Billing.HotPath
