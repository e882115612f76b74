import MacProvider.Coordinator.Billing.Recording

/-! # Receipts and credits

A verified receipt bills a credit again, from the reported counts: neither the estimate nor the
error code nor a refusal of the formula is looked at again. `WithinBill` names the counts that raise
no credit. -/

namespace MacProvider.Coordinator.Billing.Receipts

open Billing.Schema Billing.Formula Billing.Outputs Billing.HotPath Billing.Recording

/-! ### A credit behind a receipt -/

/-- What a receipt for the usage `u` pays. -/
def receiptPayment (env : Env) (configID : Option ℤ) (u : SettlementUsage) (c : CreditRow) : ℤ :=
  match cacheProvenance env configID (chargedPrompt c u) c with
  | .error _ => 0
  | .ok (cached, e) =>
    payment e c.globalMultiplierPPM c.providerShareBps (chargedPrompt c u) (cached.getD 0)
      u.billableOutputTokens

section Row
variable {env : Env} {configID : Option ℤ} {u : SettlementUsage} {c : CreditRow}

theorem syncRow_gross : (syncRow env configID u c).grossCredits =
    if c.faultFlag = .breakerQualifying then 0 else receiptPayment env configID u c := by
  unfold receiptPayment
  rcases syncRow_cases env configID u c with
    ⟨reason, h, hrow⟩ | ⟨cached, e, row, h, hbilled, hrow⟩
  · rw [hrow, h]
    split_ifs <;> rfl
  · rw [hrow, h]
    simpa [CreditRow.rebilled, billedCompletion] using hbilled.gross_eq

theorem syncRow_provider : (syncRow env configID u c).providerCredits =
    providerPart (syncRow env configID u c).grossCredits c.providerShareBps := by
  rcases syncRow_cases env configID u c with
    ⟨reason, h, hrow⟩ | ⟨cached, e, row, h, hbilled, hrow⟩
  · rw [hrow]
    exact (providerPart_zero _).symm
  · rw [hrow]
    exact hbilled.parts.1

theorem chargedPrompt_nonneg (hc : NonnegOrNull c.tokens.promptTokens)
    (hu : 0 ≤ u.billableInputTokens) : 0 ≤ chargedPrompt c u := by
  unfold chargedPrompt
  split
  · next p hp =>
    have hp0 := hc p hp
    split_ifs <;> omega
  · exact hu

theorem cached_le_charged {cached : Option ℤ} {e : RateCardEntry} {charged : ℤ}
    (h : cacheProvenance env configID charged c = .ok (cached, e)) (hcharged : 0 ≤ charged) :
    ∀ k ∈ c.tokens.cachedPromptTokens, k ≤ charged := by
  intro k hk
  unfold cacheProvenance at h
  rw [Option.mem_def.mp hk] at h
  dsimp only at h
  split at h
  · omega
  split at h
  · cases h
  · omega

theorem syncRow_checks (hc : c.Checks) (hin : 0 ≤ u.billableInputTokens)
    (hout : 0 ≤ u.billableOutputTokens) : (syncRow env configID u c).Checks := by
  have hcharged := chargedPrompt_nonneg hc.prompt hin
  rcases syncRow_cases env configID u c with
    ⟨reason, h, hrow⟩ | ⟨cached, e, row, h, hbilled, hrow⟩
  · rw [hrow]
    refine { hc with
      gross := le_rfl, provider := le_rfl, nullError := fun _ => rfl, operator := ?_ }
    intro x hx
    obtain ⟨y, -, rfl⟩ := Option.mem_map.mp hx
    exact le_rfl
  · have hbounds := hbilled.provider_bounds hc.share.1 hc.share.2
    have hcached := cached_le_charged h hcharged
    rw [hrow]
    have hprompt : ∀ p ∈ row.tokens.promptTokens, p = chargedPrompt c u := by
      intro p hp
      rcases hbilled.tokens_eq with ht | ht <;> rw [ht] at hp <;> cases hp
      rfl
    have hcompletion : ∀ k ∈ row.tokens.completionTokens, k = u.billableOutputTokens := by
      intro k hk
      rcases hbilled.tokens_eq with ht | ht <;> rw [ht] at hk <;> cases hk
      rfl
    refine { hc with
      prompt := fun p hp => (hprompt p hp).symm ▸ hcharged
      cached_le := fun k hk p hp => (hprompt p hp).symm ▸ hcached k hk
      completion := fun k hk => (hcompletion k hk).symm ▸ hout
      estimated := fun x hx => by cases hx
      gross := hbilled.gross_nonneg
      provider := hbounds.1
      nullError := hbilled.gross_of_nullError
      operator := ?_ }
    intro x hx
    obtain ⟨y, -, rfl⟩ := Option.mem_map.mp hx
    exact hbounds.2

theorem sync_le (hc : c.Checks)
    (hparts : c.providerCredits = providerPart c.grossCredits c.providerShareBps)
    (hpaid : c.faultFlag ≠ .breakerQualifying → receiptPayment env configID u c ≤ c.grossCredits) :
    (syncRow env configID u c).grossCredits ≤ c.grossCredits ∧
      (syncRow env configID u c).providerCredits ≤ c.providerCredits := by
  have hgross : (syncRow env configID u c).grossCredits ≤ c.grossCredits := by
    rw [syncRow_gross]
    split_ifs with hflag
    · exact hc.gross
    · exact hpaid hflag
  refine ⟨hgross, ?_⟩
  rw [syncRow_provider, hparts]
  exact providerPart_mono hgross hc.share.1

/-! ### Fewer tokens -/

theorem payment_le {e : RateCardEntry} {ppm bps prompt cached completion p k : ℤ}
    (hvalid : ValidCounts prompt cached completion)
    (hfits : Fits prompt cached completion e ppm bps)
    (hp : p ≤ prompt) (hk : k ≤ completion) :
    payment e ppm bps p cached k ≤ price prompt cached completion e ppm := by
  have hzero := payment_nonneg e ppm bps prompt cached completion
  rw [payment, if_pos ⟨hvalid, hfits⟩] at hzero
  unfold payment
  split_ifs
  · have hprompt := mul_le_mul_of_nonneg_right (sub_le_sub_right hp cached) hfits.promptRate
    have hcompletion := mul_le_mul_of_nonneg_right hk hfits.completionRate
    refine price_mono hfits.multiplier ?_
    unfold base
    omega
  · exact hzero

theorem receiptPayment_zero (hc : c.Checks) (hin : u.billableInputTokens = 0)
    (hout : u.billableOutputTokens = 0) : receiptPayment env configID u c = 0 := by
  have hcharged : chargedPrompt c u = 0 := by
    unfold chargedPrompt
    split
    · next p hp =>
      have := hc.prompt p hp
      split_ifs <;> omega
    · exact hin
  have hzero : ∀ e ppm bps, payment e ppm bps 0 0 0 = 0 := fun e ppm bps => by
    simp [payment, price, base]
  unfold receiptPayment cacheProvenance
  rw [hcharged, hout]
  split <;> try rfl
  next cached e h =>
  split at h
  · cases h
    exact hzero ..
  · split at h
    · cases h
      exact hzero ..
    · rw [if_pos (by omega)] at h
      cases h

/-- A row with a source has the price of its counts. -/
theorem priced_of_source {t : TokenCounts} {source : UsageSource} {flag : FaultFlag}
    {e : RateCardEntry} {ppm bps : ℤ} {row : BilledRow} (h : BilledAs t source flag e ppm bps row)
    (hflag : flag ≠ .breakerQualifying) (hsource : row.usageSource ≠ .nullError) :
    Payable t source e ppm bps ∧ row.grossCredits = price (t.promptTokens.getD 0)
      (t.cachedPromptTokens.getD 0) (billedCompletion source t) e ppm := by
  cases h with
  | breaker hbreaker => exact absurd hbreaker hflag
  | refused _ hrefused hrow => exact absurd (hrow ▸ hrefused) hsource
  | unpayable _ _ _ hrow => exact absurd (hrow ▸ rfl) hsource
  | priced _ _ hpay _ _ _ _ hgross hrow => exact ⟨hpay, hrow ▸ hgross⟩

theorem fits_rates {prompt completion : ℤ} {e : RateCardEntry}
    (hprompt : c.promptRatePerMtok = e.promptCreditsPerMtok)
    (hcompletion : c.completionRatePerMtok = e.completionCreditsPerMtok) {ppm bps : ℤ}
    (hfits : Fits prompt 0 completion e ppm bps) :
    Fits prompt 0 completion c.rates ppm bps ∧
      price prompt 0 completion c.rates ppm = price prompt 0 completion e ppm := by
  have hbase : base prompt 0 completion c.rates = base prompt 0 completion e := by
    simp [base, CreditRow.rates, hprompt, hcompletion]
  have hprice : price prompt 0 completion c.rates ppm = price prompt 0 completion e ppm := by
    rw [price, hbase, price]
  have hrate : 0 ≤ c.rates.effectivePromptCacheHitCreditsPerMtok := by
    have := hfits.promptRate
    unfold RateCardEntry.effectivePromptCacheHitCreditsPerMtok CreditRow.rates
    split
    · exact le_rfl
    · exact hprompt ▸ this
  refine ⟨{ hfits with
    promptRate := hfits.promptRate.trans_eq hprompt.symm, cacheRate := hrate
    completionRate := hfits.completionRate.trans_eq hcompletion.symm
    base_le := hbase ▸ hfits.base_le, scaled_le := hbase ▸ hfits.scaled_le
    shared_le := hprice ▸ hfits.shared_le }, hprice⟩

theorem cacheProvenance_ok {charged : ℤ} {cached : Option ℤ} {e : RateCardEntry}
    (h : cacheProvenance env configID charged c = .ok (cached, e)) :
    (cached = none ∧ e = c.rates ∧ ∀ k ∈ c.tokens.cachedPromptTokens, k ≤ 0) ∨
      cached = c.tokens.cachedPromptTokens ∧ c.pricedAt e = true := by
  unfold cacheProvenance at h
  split at h
  · next hnone =>
    cases h
    exact Or.inl ⟨rfl, rfl, by simp [hnone]⟩
  · next k hk =>
    split_ifs at h with hzero
    · cases h
      exact Or.inl ⟨rfl, rfl, by simpa [hk] using hzero⟩
    · split at h
      · cases h
      · dsimp only at h
        split_ifs at h with hrates
        cases h
        simp only [not_or, Bool.not_eq_false] at hrates
        exact Or.inr ⟨hk.symm, hrates.2.2.2.2⟩

/-- **A receipt for no more tokens pays no more.** -/
theorem receiptPayment_le {i j : HotPathInput} {cached : Option ℤ} {n id : ℕ}
    (hrow : c = creditRow j ⟨n, i.credits cached, none⟩ id)
    (hflag : i.faultFlag ≠ .breakerQualifying)
    (hsource : usageFor i.errorCode i.tokens.estimatedCompTokens ≠ .nullError)
    (hpay : Payable { i.tokens with cachedPromptTokens := cached }
      (usageFor i.errorCode i.tokens.estimatedCompTokens) i.rateEntry i.multiplierPPM
      i.providerShareBps)
    (hin : i.tokens.promptTokens = none → u.billableInputTokens = 0)
    (hout : u.billableOutputTokens ≤ billedCompletion
      (usageFor i.errorCode i.tokens.estimatedCompTokens) i.tokens) :
    receiptPayment env configID u c ≤ c.grossCredits := by
  have hbilled := billedAs_credits i cached
  have hgross : 0 ≤ c.grossCredits := hrow ▸ hbilled.gross_nonneg
  obtain ⟨hprompt, hcompletion, hppm, hbps⟩ := hbilled.rates
  cases hbilled with
  | breaker hbreaker => exact absurd hbreaker hflag
  | refused _ hrefused => exact absurd hrefused hsource
  | unpayable _ _ hnot => exact absurd hpay hnot
  | priced _ _ _ source' hsource' hnull gross hprice hresult =>
  have htokens : c.tokens = { i.tokens with cachedPromptTokens := cached } := by
    rw [hrow, creditRow, hresult]; rfl
  have hc : c.usageSource = source' ∧ c.faultFlag = i.faultFlag ∧ c.grossCredits = gross := by
    rw [hrow, creditRow, hresult]; exact ⟨rfl, rfl, rfl⟩
  have hcharged : chargedPrompt c u ≤ i.tokens.promptTokens.getD 0 := by
    unfold chargedPrompt
    rw [htokens]
    dsimp only
    split
    · next p hp =>
      rw [hp]
      dsimp only [Option.getD_some]
      split_ifs <;> omega
    · next hp =>
      rw [hp, hin hp]
      rfl
  have hsame := hsource' (usageFor_source hsource)
  obtain ⟨hvalid, hfits⟩ := hpay
  unfold receiptPayment
  rcases hprov : cacheProvenance env configID (chargedPrompt c u) c with reason | ⟨cached', e⟩
  · exact hgross
  dsimp only
  rcases cacheProvenance_ok hprov with ⟨rfl, rfl, hle⟩ | ⟨rfl, hpriced⟩
  · have hzero : cached.getD 0 = 0 := by
      have := hvalid.cached_nonneg
      rw [htokens] at hle
      cases cached with
      | none => rfl
      | some k => exact le_antisymm (hle k rfl) this
    dsimp only at hprice hvalid hfits
    rw [hzero] at hprice hvalid hfits
    rw [hc.2.2, hprice]
    have hrates : c.globalMultiplierPPM = i.multiplierPPM ∧
        c.providerShareBps = i.providerShareBps := by
      rw [hrow]
      exact ⟨hppm, hbps⟩
    obtain ⟨hfits', hsame'⟩ :=
      fits_rates (c := c) (hrow ▸ hprompt) (hrow ▸ hcompletion) hfits
    rw [hrates.1, hrates.2, ← hsame']
    exact payment_le hvalid hfits' hcharged hout
  · unfold CreditRow.pricedAt at hpriced
    simp only [Bool.and_eq_true, decide_eq_true_eq] at hpriced
    obtain ⟨hpay, hgross'⟩ := priced_of_source (billedAs c.tokens c.usageSource c.faultFlag e
      c.globalMultiplierPPM c.providerShareBps) (hc.2.1 ▸ hflag)
      (by rw [hpriced.1.2, hc.1]; exact hnull)
    rw [← hpriced.1.1.1, hgross']
    refine payment_le hpay.valid hpay.fits ?_ ?_
    · rwa [htokens]
    · rw [hc.1, hsame, htokens]
      exact hout

end Row

theorem SettlementUsage.nonneg_of_valid {u : SettlementUsage} (h : u.validate = .ok ()) :
    0 ≤ u.billableInputTokens ∧ 0 ≤ u.billableOutputTokens := by
  unfold SettlementUsage.validate at h
  split at h
  · cases h
  · omega

theorem usage_of_valid {codec : Codec} {o : SettlementAttemptOutput}
    (h : o.validate codec = .ok ()) : o.usage.validate = .ok () := by
  unfold SettlementAttemptOutput.validate at h
  split_ifs at h
  · obtain ⟨_, h1, -⟩ := bind_ok h
    exact h1
  · obtain ⟨_, h1, -⟩ := bind_ok h
    exact h1
  · obtain ⟨_, -, h⟩ := bind_ok h
    obtain ⟨_, h1, -⟩ := bind_ok h
    exact h1
  · obtain ⟨_, -, h⟩ := bind_ok h
    obtain ⟨_, h1, -⟩ := bind_ok h
    exact h1

section HotPath
variable {env : Env} {s : Server} {r : BillingRecorder} {a : Attempt} {b₀ : Books}

theorem hotPathRow_checks {b₁ : Books} (hassigned : a.providerAssignedID ≠ "")
    (hw : writeHotPath env r.authenticatedAccount (logRowOf r a) (hotPathInputOf env s r a) b₀ =
      .ok b₁) : (hotPathRow env s r a b₀).Checks := by
  rw [writeHotPath_eq env s r a b₀ hassigned] at hw
  exact (writeBill_ok hw).2.1

theorem hotPathRow_parts : (hotPathRow env s r a b₀).providerCredits =
    providerPart (hotPathRow env s r a b₀).grossCredits
      (hotPathRow env s r a b₀).providerShareBps := by
  have h := bill_parts (billedInput env s r a) a.retried
    (b₀.requestCount (accountOf r) r.requestID + 1)
  change (attemptBill env s r a b₀).result.providerCredits = providerPart
    (attemptBill env s r a b₀).result.grossCredits
    (attemptBill env s r a b₀).result.providerShareBps
  unfold attemptBill
  rw [h.2, h.1]

/-! ### The counts of the receipt -/

/-- It was served and can be priced. -/
def Priceable (i : HotPathInput) : Prop :=
  usageFor i.errorCode i.tokens.estimatedCompTokens ≠ .nullError ∧
    Payable { i.tokens with cachedPromptTokens := (normalizeCachedPromptTokens i).1 }
      (usageFor i.errorCode i.tokens.estimatedCompTokens) i.rateEntry i.multiplierPPM
      i.providerShareBps

/-- **No more than was billed**: it is held or a fault, nothing is billable, or it can be priced and
no estimate is below the completion. -/
def WithinBill (i : HotPathInput) (retried : ℤ) (count : ℕ) (u : SettlementUsage) : Prop :=
  Held i retried count ∨ i.faultFlag = .breakerQualifying ∨
    (u.billableInputTokens = 0 ∧ u.billableOutputTokens = 0) ∨
    Priceable i ∧ ∀ estimate ∈ i.tokens.estimatedCompTokens, u.billableOutputTokens ≤ estimate

instance (i : HotPathInput) (retried : ℤ) (count : ℕ) (u : SettlementUsage) :
    Decidable (WithinBill i retried count u) := by
  unfold WithinBill Priceable
  infer_instance

theorem boundedPrompt_eq_none {upperBound prompt : Option ℤ}
    (h : boundedPrompt upperBound prompt = none) : prompt = none := by
  unfold boundedPrompt at h
  split at h
  · split_ifs at h
  · exact h

theorem attemptUsage_reported (s : Server) (t : TokenCounts) (o : AttemptResult) :
    (t.promptTokens = none → (attemptUsage s t o).billableInputTokens = 0) ∧
      ((attemptUsage s t o).billableOutputTokens = 0 ∨
        t.completionTokens = some (attemptUsage s t o).billableOutputTokens) := by
  unfold attemptUsage observedUsage
  rcases t.promptTokens with _ | prompt <;> rcases t.completionTokens with _ | completion
  case some.some =>
    dsimp only
    split_ifs <;> simp
  all_goals simp

theorem stored_le_billed {t : TokenCounts} {errorCode : String} {stored : ℤ}
    (hsource : usageFor errorCode t.estimatedCompTokens ≠ .nullError)
    (hzero : 0 ≤ billedCompletion (usageFor errorCode t.estimatedCompTokens) t)
    (hstored : stored = 0 ∨ t.completionTokens = some stored)
    (hestimate : ∀ k ∈ t.estimatedCompTokens, stored ≤ k) :
    stored ≤ billedCompletion (usageFor errorCode t.estimatedCompTokens) t := by
  rcases hstored with rfl | hstored
  · exact hzero
  unfold billedCompletion usageFor at *
  rw [hstored]
  cases hk : t.estimatedCompTokens with
  | none => simp [hk] at hsource ⊢; split_ifs at hsource ⊢ <;> simp_all
  | some k => exact le_min le_rfl (hestimate k hk)

theorem receiptPayment_le_of_within {configID : Option ℤ} {u : SettlementUsage} {c : CreditRow}
    (hrow : c = hotPathRow env s r a b₀) (husage : u = (settlementAttemptOutput env s r a).usage)
    (hchecks : c.Checks) (hq : c.quarantined = false) (hflag : c.faultFlag ≠ .breakerQualifying)
    (hwithin : WithinBill (billedInput env s r a) a.retried
      (b₀.requestCount (accountOf r) r.requestID + 1) u) :
    receiptPayment env configID u c ≤ c.grossCredits := by
  have hcases := bill_cases (billedInput env s r a) a.retried
    (b₀.requestCount (accountOf r) r.requestID + 1)
  unfold hotPathRow attemptBill at hrow
  rcases hcases with ⟨-, reason, hbill⟩ | ⟨hheld, hbill⟩
  · rw [hbill] at hrow
    rw [hrow] at hq
    cases hq
  rw [hbill] at hrow
  have hfault : (billedInput env s r a).faultFlag ≠ .breakerQualifying := by
    intro hbreaker
    refine hflag ?_
    rw [hrow]
    change ((billedInput env s r a).credits _).faultFlag = _
    cases billedAs_credits (billedInput env s r a) (normalizeCachedPromptTokens _).1 with
    | breaker _ h => rw [h]; exact hbreaker
    | refused h | unpayable h | priced h => exact absurd hbreaker h
  obtain ⟨hprompt, hcompletion⟩ := attemptUsage_reported s a.tokens (resultOf s a)
  rcases hwithin with hheld' | hbreaker | ⟨hin, hout⟩ | ⟨⟨hsource, hpay⟩, hestimate⟩
  · exact absurd hheld' hheld
  · exact absurd hbreaker hfault
  · rw [receiptPayment_zero hchecks hin hout]
    exact hchecks.gross
  · refine receiptPayment_le hrow hfault hsource hpay (fun hnone => ?_)
      (stored_le_billed hsource hpay.valid.completion_nonneg (husage ▸ hcompletion) hestimate)
    rw [husage]
    exact hprompt (boundedPrompt_eq_none hnone)

end HotPath

/-! ### An estimate that a receipt forgets -/

def demoConfig : Config := ⟨fun _ => ⟨1000, 0, 4000, false⟩, 1000000, 8500⟩

def demoEnv : Env where
  configByID id := if id = 1 then some demoConfig else none
  configAt _ := some demoConfig
  accountScope account := account
  scopeHash scope := scope
  codec := demoCodec
  decodeUsage _ := some ⟨1000, 1000000, 2, 1000, 1000000⟩

def demoServer : Server := ⟨demoConfig, 1, fun _ => "", 4, 1⟩

/-- A request under the policy `enforce`. -/
def demoRecorder : BillingRecorder :=
  ⟨"req", "ext", "acct", none, "m", 0, none, "", 0, some 0, some .enforce, "v", 0⟩

/-- A million tokens are reported for a completion. -/
def demoAttempt (estimate : Option ℤ) : Attempt where
  providerAssignedID := "a"
  providerID := "p"
  status := 200
  tokens := ⟨some 1000, none, some 1000000, estimate⟩
  errorCode := ""
  retried := 0
  faultFlag := .none
  settlementOutput := some ⟨⟨"hi", none, 0, 2, .normalDone, []⟩, true, 1⟩

def demoRoute : RouteRow where
  accountScope := "acct"
  requestID := "req"
  attemptN := 0
  providerID := "p"
  mode := .enforce
  policyVersion := "v"
  digest := "d"
  providerReceiptKeyID := "key"
  modelID := "m"
  providerReportedModelHash := "h"
  expectedCatalogModelHash := "h"
  catalogID := "cat"
  catalogBodyDigest := "body"
  promptHash := "prompt"
  requestStartTSUnixMS := 1
  pendingDeadlineSeconds := 60

def demoVerdict : VerdictRow where
  accountScopeHash := "acct"
  requestID := "req"
  attemptN := 0
  providerID := "p"
  mode := .enforce
  policyVersion := "v"
  digest := "d"
  closed := true
  outcome := .verified
  receiptPresent := true
  receiptResult := .valid
  reason := "verified_settlement"
  terminalStateTSUnixMS := 1
  pendingDeadlineUnixMS := 60001
  receivedAtUnixMS := 2

def demoVerified (estimate : Option ℤ) : Books :=
  { (recordRow demoEnv demoServer demoRecorder (demoAttempt estimate) .empty).2.2 with
    snapshots := [demoRoute]
    verdicts := ⟨[demoVerdict], List.nodup_singleton _⟩ }

def demoAmounts (b : Books) : Option (ℤ × ℤ) :=
  (b.creditOf "req" 0 "p").map fun c => (c.grossCredits, c.providerCredits)

end MacProvider.Coordinator.Billing.Receipts
