import MacProvider.Coordinator.Billing.Recording
import Mathlib.Data.List.Sort

/-! # The recovery of the ledger

`RecoverLedger` (`internal/billing/recovery.go`) goes through the log of a window: a credit without
a row is quarantined, one that differs from what is computed again as well, a missing one is
written. A row changes its own attempt only (`recoverRow_touches`). -/

namespace MacProvider.Coordinator.Billing.Recovery

open Gateway.Time Lib.Tables Billing.Schema Billing.Formula Billing.HotPath

/-- The count cannot be billed. -/
def invalidRecoveryToken (v : Option ℤ) : Bool := v.any invalidBillableTokenCount

/-- The estimate cannot be billed. -/
def invalidRecoveryEstimate (v : Option ℤ) : Bool := v.any invalidBillableTokenCount

/-- Too large, without a valid estimate. -/
def invalidRecoveryCompletion (completion estimated : Option ℤ) : Bool :=
  match completion with
  | none => false
  | some k =>
    if k < 0 then true
    else if k ≤ maxBillableTokens then false
    else estimated.isNone || invalidRecoveryEstimate estimated

/-- The cached tokens do not fit the prompt. -/
def invalidRecoveryCached (prompt cached : Option ℤ) : Bool :=
  match cached with
  | none => false
  | some k =>
    if invalidBillableTokenCount k then true
    else 0 < k && (match prompt with
      | none => true
      | some p => p < k)

/-- The reason to quarantine such counts. -/
def invalidReason (t : TokenCounts) : Option String :=
  if invalidRecoveryToken t.promptTokens || invalidRecoveryEstimate t.estimatedCompTokens ||
      invalidRecoveryCompletion t.completionTokens t.estimatedCompTokens then
    some "invalid_usage_tokens"
  else if invalidRecoveryCached t.promptTokens t.cachedPromptTokens then
    some "invalid_cached_prompt_tokens"
  else none

/-! ### Quarantines -/

/-- The provider of a row without an identity. -/
def unresolvedProviderID (assignedID : String) : String :=
  if assignedID = "" then "__unresolved__" else "__unresolved__:" ++ assignedID

/-- The first reason stays. -/
def CreditRow.quarantine (reason : String) (c : CreditRow) : CreditRow :=
  { c with quarantined := true, quarantineReason := some (c.quarantineReason.getD reason) }

theorem quarantine_id (reason : String) (c : CreditRow) :
    (CreditRow.quarantine reason c).id = c.id := rfl

/-- Of those that are not quarantined. -/
def quarantineWhere (p : CreditRow → Bool) (reason : String) (b : Books) : Books :=
  { b with
    credits := b.credits.update (fun c => !c.quarantined && p c) (CreditRow.quarantine reason)
      (quarantine_id reason) }

/-- By assigned id, or a provider that had it. -/
def ofAttempt (b : Books) (r : LogRow) (c : CreditRow) : Bool :=
  c.requestID = r.requestID && c.attemptN = r.attemptN &&
    (c.providerAssignedID = r.providerAssignedID || b.identities.rows.any fun d =>
      d.requestID = r.requestID && d.attemptN = r.attemptN &&
        d.providerAssignedID = r.providerAssignedID && d.providerID = c.providerID)

/-- `insertQuarantineTx`: no credits, no policy. -/
def quarantineRow (r : LogRow) (providerID : String) (t : TokenCounts) (reason : String) (id : ℕ) :
    CreditRow :=
  let usage := usageFor r.errorCode t.estimatedCompTokens
  { id, requestID := r.requestID, attemptN := r.attemptN, providerID, ts := r.ts, grossCredits := 0,
    providerCredits := 0, settled := false, settlementID := none, quarantined := true,
    quarantineReason := some reason, accountScopeHash := none, policyMode := .legacy,
    policyVersion := none, providerAssignedID := r.providerAssignedID, model := r.model,
    tokens := { t with cachedPromptTokens := none }, reportedPromptTokens := none,
    usageSource := usage, promptRatePerMtok := 0, completionRatePerMtok := 0,
    globalMultiplierPPM := 0, providerShareBps := 0,
    faultFlag := if usage = .nullError then .nullUsageError else .none, operatorCredits := none }

theorem quarantineRow_id (r : LogRow) (providerID : String) (t : TokenCounts) (reason : String)
    (id : ℕ) : (quarantineRow r providerID t reason id).id = id := rfl

/-- `insertQuarantineTx`: `INSERT OR IGNORE`. -/
def insertQuarantine (r : LogRow) (providerID : String) (t : TokenCounts) (reason : String)
    (b : Books) : Books :=
  match insertCredit (quarantineRow r providerID t reason) (quarantineRow_id r providerID t reason)
    b with
  | .ok b' => b'
  | .error _ => b

/-- Its credits, or a new row without credits. -/
def quarantineAttempt (r : LogRow) (providerID : String) (t : TokenCounts) (reason : String)
    (b : Books) : Books :=
  if b.credits.rows.any (ofAttempt b r) then quarantineWhere (ofAttempt b r) reason b
  else insertQuarantine r providerID t reason b

/-! ### A row of the log -/

/-- `attempt_n = 1` without a mark of a retry. -/
def ambiguousAttempt (r : LogRow) : Bool := r.attemptN = 1 && r.retried = 0

/-- A first attempt with cached tokens. -/
def cacheProvenanceRequired (r : LogRow) : Bool :=
  r.tokens.cachedPromptTokens.any (fun k => 0 < k) && r.attemptN = 0

/-- The configuration to compute the row with. -/
def recoveryConfig (env : Env) (r : LogRow) (d : Identity) : Option Config :=
  match d.configSnapshotID with
  | some id => env.configByID id
  | none => if cacheProvenanceRequired r then none else env.configAt r.ts

/-- Of the last route snapshot. -/
def recoveredSettlementPolicy (env : Env) (r : LogRow) (providerID : String) (b : Books) :
    String × PolicyMode × String :=
  let scope := env.accountScope r.accountID
  match (b.snapshots.filter fun s => s.accountScope = scope ∧ s.requestID = r.requestID ∧
      s.attemptN = r.attemptN ∧ s.providerID = providerID).getLast? with
  | some s => (env.scopeHash s.accountScope, s.mode, s.policyVersion)
  | none => (env.scopeHash scope, .legacy, "")

/-- What the row stands for; the flag is not in the log. -/
def recoveryInput (env : Env) (r : LogRow) (d : Identity) (cfg : Config) (b : Books) :
    HotPathInput :=
  let policy := recoveredSettlementPolicy env r d.providerID b
  { requestID := r.requestID
    attemptN := r.attemptN
    providerAssignedID := r.providerAssignedID
    providerID := d.providerID
    model := r.model
    ts := r.ts
    tokens := { r.tokens with
      cachedPromptTokens := if r.attemptN = 0 then r.tokens.cachedPromptTokens else none }
    promptTokenUpperBound := none
    providerReportedPromptTokens := d.reportedPromptTokens.or r.tokens.promptTokens
    errorCode := r.errorCode
    faultFlag := .none
    stickyResult := ""
    configSnapshotID := d.configSnapshotID.getD 0
    rateEntry := cfg.rateFor r.model
    multiplierPPM := cfg.multiplierPPM
    providerShareBps := cfg.providerShareBps
    settlementAccountScopeHash := policy.1
    settlementPolicyMode := policy.2.1
    settlementPolicyVersion := policy.2.2 }

/-- The estimate stands for the completion. -/
def allowByteEstimated (i : HotPathInput) (c : CreditRow) : Bool :=
  c.usageSource = .byteEstimated && i.tokens.completionTokens.isNone &&
    c.tokens.estimatedCompTokens.isSome

/-- The bill of the row, computed again. -/
def recomputed (i : HotPathInput) (c : CreditRow) : BilledRow :=
  computeCreditsWithCache
    { i.tokens with
      estimatedCompTokens :=
        if allowByteEstimated i c then c.tokens.estimatedCompTokens
        else i.tokens.estimatedCompTokens }
    (some c.usageSource) (some c.faultFlag) i.rateEntry i.multiplierPPM i.providerShareBps

/-- The rates, the source or the flag differ. -/
def contractMismatch (i : HotPathInput) (expected : BilledRow) (c : CreditRow) : Bool :=
  c.promptRatePerMtok != i.rateEntry.promptCreditsPerMtok ||
    c.completionRatePerMtok != i.rateEntry.completionCreditsPerMtok ||
    c.globalMultiplierPPM != i.multiplierPPM || c.providerShareBps != i.providerShareBps ||
    if allowByteEstimated i c then c.tokens.estimatedCompTokens.any invalidBillableTokenCount
    else c.usageSource != expected.usageSource || c.faultFlag != expected.faultFlag

/-- The credit differs from the bill. -/
def creditMismatch (i : HotPathInput) (expected : BilledRow) (c : CreditRow) : Bool :=
  (recomputed i c).grossCredits != c.grossCredits ||
    (recomputed i c).providerCredits != c.providerCredits ||
    (recomputed i c).faultFlag != c.faultFlag ||
    c.tokens.cachedPromptTokens != i.tokens.cachedPromptTokens ||
    contractMismatch i expected c || c.operatorCredits.isNone ||
    c.providerCredits + c.operatorCredits.getD 0 != c.grossCredits

/-- `reconcileExistingCreditTx`. -/
def reconcileExistingCredit (i : HotPathInput) (expected : BilledRow) (c : CreditRow) (b : Books) :
    Except LedgerError Books :=
  if c.quarantined then .ok b
  else if creditMismatch i expected c then
    if c.settled || c.settlementID.isSome then
      .error (.settledMismatch i.requestID i.attemptN i.providerID)
    else .ok (quarantineWhere (fun x => x.id = c.id) "reconciliation_mismatch" b)
  else .ok b

/-- The bill of an attempt without a credit. -/
def recoveredBill (r : LogRow) (i : HotPathInput) : Bill :=
  ⟨r.attemptN, i.credits i.tokens.cachedPromptTokens, none⟩

/-- One row of the log. -/
def recoverRow (env : Env) (b : Books) (r : LogRow) : Except LedgerError Books :=
  match invalidReason r.tokens with
  | some reason =>
    .ok (quarantineAttempt r (unresolvedProviderID r.providerAssignedID) .null reason b)
  | none =>
    match b.identities.find? (r.requestID, r.attemptN, r.providerAssignedID) with
    | none =>
      .ok (insertQuarantine r (unresolvedProviderID r.providerAssignedID) r.tokens
        (if ambiguousAttempt r then "ambiguous_attempt_n" else "missing_provider_identity") b)
    | some d =>
      if r.cacheQuarantineReason ≠ "" then
        .ok (quarantineAttempt r d.providerID r.tokens r.cacheQuarantineReason b)
      else
        match recoveryConfig env r d with
        | none =>
          .ok (quarantineAttempt r d.providerID r.tokens
            (if cacheProvenanceRequired r then "missing_cache_config_snapshot"
              else "missing_config_snapshot") b)
        | some cfg =>
          let i := recoveryInput env r d cfg b
          match b.creditOf r.requestID r.attemptN d.providerID with
          | some c => reconcileExistingCredit i (i.credits i.tokens.cachedPromptTokens) c b
          | none =>
            if ambiguousAttempt r then
              .ok (insertQuarantine r d.providerID r.tokens "ambiguous_attempt_n" b)
            else do
              let b ← insertCredit (creditRow i (recoveredBill r i))
                (creditRow_id i (recoveredBill r i)) b
              syncVerifiedReceiptLedgerCreditForAttempt env r.requestID r.attemptN d.providerID b

/-! ### The whole window -/

/-- The times to go through. -/
structure Window where
  scanFrom : Instant
  scanTo : Instant

/-- The time is in the window. -/
def Window.contains (w : Window) (t : Instant) : Bool := w.scanFrom ≤ t && t < w.scanTo

/-- The credit has a row in the log. -/
def hasRequestLog (b : Books) (c : CreditRow) : Bool :=
  b.log.any fun r =>
    r.requestID = c.requestID && r.attemptN = c.attemptN && r.providerAssignedID ≠ "" &&
      b.identities.rows.any fun d =>
        d.requestID = r.requestID && d.providerAssignedID = r.providerAssignedID &&
          d.attemptN = c.attemptN && d.providerID = c.providerID

/-- Credits without a row of the log. -/
def quarantineOrphans (w : Window) (b : Books) : Books :=
  quarantineWhere (fun c => w.contains c.ts && !hasRequestLog b c) "missing_request_log" b

/-- The rows of the window, by time. -/
def scannedRows (w : Window) (b : Books) : List LogRow :=
  (b.log.filter fun r =>
    w.contains r.ts && r.providerAssignedID ≠ "" && r.status ≠ 503).insertionSort
    fun r r' => r.ts ≤ r'.ts

/-- **`RecoverLedger`**. -/
def recoverLedger (env : Env) (w : Window) (b : Books) : Except LedgerError Books :=
  (scannedRows w b).foldlM (recoverRow env) (quarantineOrphans w b)

/-! ### The credits of one attempt -/

/-- The credits of the attempt. -/
def attemptCredits (b : Books) (requestID : String) (attemptN : ℕ) : List CreditRow :=
  b.credits.rows.filter fun c => c.requestID = requestID ∧ c.attemptN = attemptN

/-- Credits of one attempt change, verdicts close. -/
structure Touches (requestID : String) (attemptN : ℕ) (b b' : Books) : Prop where
  log : b'.log = b.log
  identities : b'.identities = b.identities
  snapshots : b'.snapshots = b.snapshots
  outputs : b'.outputs = b.outputs
  others : ∀ q n, (q, n) ≠ (requestID, attemptN) → attemptCredits b' q n = attemptCredits b q n
  verdicts : b'.verdicts = b.verdicts ∨ ∃ (c : CreditRow) (reason : String),
    c.requestID = requestID ∧ c.attemptN = attemptN ∧
      b'.verdicts = closeVerdict c reason b.verdicts

section Touches
variable {env : Env} {req providerID : String} {n attemptN : ℕ} {b b' b'' : Books}
  {r : LogRow} {p : CreditRow → Bool} {reason : String}

theorem Touches.refl (req : String) (n : ℕ) (b : Books) : Touches req n b b :=
  ⟨rfl, rfl, rfl, rfl, fun _ _ _ => rfl, Or.inl rfl⟩

theorem attemptCredits_update {f : CreditRow → CreditRow} (hf : ∀ c, (f c).id = c.id)
    (h : b'.credits = b.credits.update p f hf)
    (hkey : ∀ c ∈ b.credits.rows, p c = true → (c.requestID = req ∧ c.attemptN = attemptN) ∧
      (f c).requestID = req ∧ (f c).attemptN = attemptN) {q : String} {n : ℕ}
    (hne : (q, n) ≠ (req, attemptN)) : attemptCredits b' q n = attemptCredits b q n := by
  unfold attemptCredits
  rw [h]
  refine Table.filter_update hf fun c hc hp => ?_
  obtain ⟨⟨h1, h2⟩, h3, h4⟩ := hkey c hc hp
  rw [h1, h2, h3, h4]
  have hnot : ¬ (req = q ∧ attemptN = n) := fun ⟨hq, hn⟩ => hne (by rw [hq, hn])
  simp [hnot]

theorem quarantineWhere_touches (hp : ∀ c ∈ b.credits.rows, p c = true →
      c.requestID = req ∧ c.attemptN = attemptN) :
    Touches req attemptN b (quarantineWhere p reason b) := by
  refine ⟨rfl, rfl, rfl, rfl, fun q n hne => ?_, Or.inl rfl⟩
  refine attemptCredits_update (quarantine_id reason) rfl (fun c hmem hc => ?_) hne
  have hkey := hp c hmem ((Bool.and_eq_true _ _).mp hc).2
  exact ⟨hkey, hkey⟩

theorem insertCredit_touches {row : ℕ → CreditRow} {hrow : ∀ id, (row id).id = id}
    (h : insertCredit row hrow b = .ok b')
    (hkey : ∀ id, (row id).requestID = req ∧ (row id).attemptN = attemptN) :
    Touches req attemptN b b' := by
  obtain ⟨-, -, rfl⟩ := insertCredit_ok h
  refine ⟨rfl, rfl, rfl, rfl, fun q n hne => ?_, Or.inl rfl⟩
  have hnot : ¬ ((row b.nextCreditID).requestID = q ∧ (row b.nextCreditID).attemptN = n) := by
    rw [(hkey _).1, (hkey _).2]
    rintro ⟨rfl, rfl⟩
    exact hne rfl
  dsimp only [attemptCredits, Books.appended]
  simp [hnot]

theorem creditOf_some {c : CreditRow} (h : b.creditOf req n providerID = some c) :
    c ∈ b.credits.rows ∧ c.requestID = req ∧ c.attemptN = n ∧
      c.providerID = providerID :=
  ⟨List.mem_of_find?_eq_some h, by simpa using List.find?_some h⟩

theorem eq_of_id {c x : CreditRow} (hc : c ∈ b.credits.rows) (hx : x ∈ b.credits.rows)
    (h : x.id = c.id) : x = c :=
  List.inj_on_of_nodup_map b.credits.nodup hx hc h

theorem sync_touches
    (h : syncVerifiedReceiptLedgerCreditForAttempt env req attemptN providerID b = .ok b') :
    Touches req attemptN b b' := by
  obtain rfl | ⟨c, sao, u, hc, -, -, -, -, rfl⟩ := sync_cases h
  · exact Touches.refl _ _ _
  obtain ⟨hmem, hq, hn, -⟩ := creditOf_some hc
  refine ⟨rfl, rfl, rfl, rfl, fun q n hne => ?_, ?_⟩
  · refine attemptCredits_update (syncRow_id env (b.configSnapshotOf c) u) rfl
      (fun x hx hid => ?_) hne
    obtain rfl := eq_of_id hmem hx (of_decide_eq_true hid)
    obtain ⟨h1, h2, -⟩ := syncRow_key env (b.configSnapshotOf x) u x
    exact ⟨⟨hq, hn⟩, h1.trans hq, h2.trans hn⟩
  · dsimp only [Books.applyReceipt]
    split
    · next reason _ => exact Or.inr ⟨c, reason, hq, hn, rfl⟩
    · exact Or.inl rfl

theorem Touches.trans_same (h : Touches req attemptN b b')
    (hv : b'.verdicts = b.verdicts) (h' : Touches req attemptN b' b'') :
    Touches req attemptN b b'' := by
  refine ⟨h'.log.trans h.log, h'.identities.trans h.identities, h'.snapshots.trans h.snapshots,
    h'.outputs.trans h.outputs, fun q n hne => (h'.others q n hne).trans (h.others q n hne), ?_⟩
  rw [← hv]
  exact h'.verdicts

/-- What a row does: nothing, a quarantine of its credits, or a new row, synced if it has
credits. -/
inductive Recovers (env : Env) (b : Books) (r : LogRow) : Books → Prop
  | same : Recovers env b r b
  | quarantines {p : CreditRow → Bool} {reason : String}
      (hp : ∀ c ∈ b.credits.rows, p c = true →
        c.requestID = r.requestID ∧ c.attemptN = r.attemptN) :
      Recovers env b r (quarantineWhere p reason b)
  | holds {providerID : String} {t : TokenCounts} {reason : String} {b' : Books}
      (h : insertCredit (quarantineRow r providerID t reason)
        (quarantineRow_id r providerID t reason) b = .ok b') : Recovers env b r b'
  | credits {d : Identity} {cfg : Config} {b₁ b' : Books}
      (hd : b.identities.find? (r.requestID, r.attemptN, r.providerAssignedID) = some d)
      (hcfg : recoveryConfig env r d = some cfg)
      (hnone : b.creditOf r.requestID r.attemptN d.providerID = none)
      (h₁ : insertCredit (creditRow (recoveryInput env r d cfg b)
        (recoveredBill r (recoveryInput env r d cfg b))) (creditRow_id _ _) b = .ok b₁)
      (hsync : syncVerifiedReceiptLedgerCreditForAttempt env r.requestID r.attemptN d.providerID
        b₁ = .ok b') : Recovers env b r b'

theorem insertQuarantine_recovers {t : TokenCounts} :
    Recovers env b r (insertQuarantine r providerID t reason b) := by
  unfold insertQuarantine
  split
  · next h => exact .holds h
  · exact .same

theorem quarantineAttempt_recovers {t : TokenCounts} :
    Recovers env b r (quarantineAttempt r providerID t reason b) := by
  unfold quarantineAttempt
  split_ifs
  · refine .quarantines fun c _ hc => ?_
    unfold ofAttempt at hc
    simp only [Bool.and_eq_true, decide_eq_true_eq] at hc
    exact hc.1
  · exact insertQuarantine_recovers

theorem recoverRow_recovers (h : recoverRow env b r = .ok b') : Recovers env b r b' := by
  unfold recoverRow at h
  split at h
  · cases h
    exact quarantineAttempt_recovers
  split at h
  · cases h
    exact insertQuarantine_recovers
  next d hd =>
  split at h
  · cases h
    exact quarantineAttempt_recovers
  split at h
  · cases h
    exact quarantineAttempt_recovers
  next cfg hcfg =>
  dsimp only at h
  split at h
  · next c hc =>
    obtain ⟨hmem, hq, hn, -⟩ := creditOf_some hc
    unfold reconcileExistingCredit at h
    split at h
    · cases h
      exact .same
    split at h
    · split at h <;> cases h
      exact .quarantines fun x hx hid => eq_of_id hmem hx (of_decide_eq_true hid) ▸ ⟨hq, hn⟩
    · cases h
      exact .same
  next hnone =>
  split at h
  · cases h
    exact insertQuarantine_recovers
  · obtain ⟨b₁, h₁, hsync⟩ := bind_ok h
    exact .credits hd hcfg hnone h₁ hsync

theorem insertCredit_verdicts {row : ℕ → CreditRow} {hrow : ∀ id, (row id).id = id}
    (h : insertCredit row hrow b = .ok b') : b'.verdicts = b.verdicts := by
  obtain ⟨-, -, rfl⟩ := insertCredit_ok h
  rfl

/-- **One row of the log touches its attempt only.** -/
theorem recoverRow_touches (h : recoverRow env b r = .ok b') :
    Touches r.requestID r.attemptN b b' := by
  cases recoverRow_recovers h with
  | same => exact Touches.refl _ _ b
  | quarantines hp => exact quarantineWhere_touches hp
  | holds h => exact insertCredit_touches h fun _ => ⟨rfl, rfl⟩
  | credits hd hcfg hnone h₁ hsync =>
    exact (insertCredit_touches h₁ fun _ => ⟨rfl, rfl⟩).trans_same (insertCredit_verdicts h₁)
      (sync_touches hsync)

end Touches

end MacProvider.Coordinator.Billing.Recovery
