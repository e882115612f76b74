import MacProvider.Coordinator.Billing.Recovery

/-! # What recovery computes again

Recovery knows an attempt from its row of the request log, which has the counts that the hot path
bills (`storedRow_of_clear`), but not the fault flag. `confirms_of_bill`: which credits come out
again. -/

namespace MacProvider.Coordinator.Billing.Confirmation

open Billing.Formula Billing.HotPath Billing.Recording Billing.Recovery

/-! ### The log of an attempt that is not held -/

section Log
variable {env : Env} {s : Server} {r : BillingRecorder} {a : Attempt} {count : ℕ}

/-- They count on a first attempt that hits the cache. -/
def countedCache (attemptN : ℕ) (stickyResult : String) (cached : ℤ) : Option ℤ :=
  if attemptN = 0 ∧ stickyResult = "hit" then some cached else none

/-- They are among the prompt's, and the cache hit is known. -/
structure ClearCache (attemptN : ℕ) (stickyResult : String) (cached prompt : ℤ) : Prop where
  nonneg : 0 ≤ cached
  le : cached ≤ prompt
  known : 0 < attemptN ∨ stickyResult = "hit" ∨ cached = 0

theorem normalizeCachedPromptTokens_cases {i : HotPathInput}
    (h : (normalizeCachedPromptTokens i).2 = "") :
    (i.tokens.cachedPromptTokens = none ∧ (normalizeCachedPromptTokens i).1 = none) ∨
      ∃ cached prompt, i.tokens.cachedPromptTokens = some cached ∧
        i.tokens.promptTokens = some prompt ∧
        ClearCache i.attemptN i.stickyResult cached prompt ∧
        (normalizeCachedPromptTokens i).1 = countedCache i.attemptN i.stickyResult cached := by
  unfold normalizeCachedPromptTokens at *
  rcases hc : i.tokens.cachedPromptTokens with _ | cached
  · exact Or.inl ⟨rfl, rfl⟩
  rw [hc] at h
  dsimp only at h ⊢
  rcases hp : i.tokens.promptTokens with _ | prompt
  · rw [hp, if_pos (Or.inr fun p hp => by cases hp)] at h
    exact absurd h (by decide)
  refine Or.inr ⟨cached, prompt, rfl, rfl, ?_⟩
  rw [hp] at h
  simp only [Option.mem_some_iff, forall_eq'] at h ⊢
  unfold countedCache
  by_cases hbad : cached < 0 ∨ prompt < cached
  · rw [if_pos hbad] at h
    exact absurd h (by decide)
  obtain ⟨hneg, hle⟩ := not_or.mp hbad
  rw [if_neg hbad] at h ⊢
  by_cases hn : 0 < i.attemptN
  · rw [if_pos hn, if_neg fun hz => hn.ne' hz.1]
    exact ⟨⟨not_lt.mp hneg, not_lt.mp hle, Or.inl hn⟩, rfl⟩
  rw [if_neg hn] at h ⊢
  by_cases hhit : i.stickyResult = "hit"
  · rw [if_neg (not_not.mpr hhit), if_pos ⟨Nat.eq_zero_of_not_pos hn, hhit⟩]
    exact ⟨⟨not_lt.mp hneg, not_lt.mp hle, Or.inr (Or.inl hhit)⟩, rfl⟩
  rw [if_pos hhit] at h ⊢
  by_cases hpos : 0 < cached
  · rw [if_pos hpos] at h
    exact absurd h (by decide)
  · rw [if_neg hpos, if_neg fun hz => hhit hz.2]
    exact ⟨⟨not_lt.mp hneg, not_lt.mp hle, Or.inr (Or.inr (by omega))⟩, rfl⟩

variable {n : ℕ} {stickyResult : String} {cached prompt : ℤ}

theorem requestLogCacheRecoveryFields_clear (h : ClearCache n stickyResult cached prompt) :
    requestLogCacheRecoveryFields (some cached) (some prompt) stickyResult n =
      (countedCache n stickyResult cached, "") := by
  unfold requestLogCacheRecoveryFields countedCache
  have hok : ¬ (cached < 0 ∨ ∀ p ∈ some prompt, p < cached) := by
    have h1 := h.nonneg
    have h2 := h.le
    simp only [Option.mem_some_iff, forall_eq']
    omega
  dsimp only
  rw [if_neg hok]
  by_cases hn : 0 < n
  · rw [if_pos hn, if_neg fun hz => hn.ne' hz.1]
  rw [if_neg hn]
  by_cases hhit : stickyResult = "hit"
  · rw [if_neg (not_not.mpr hhit), if_pos ⟨Nat.eq_zero_of_not_pos hn, hhit⟩]
  · obtain hn' | hhit' | hzero := h.known
    · exact absurd hn' hn
    · exact absurd hhit' hhit
    · rw [if_pos hhit, if_pos hzero, if_neg fun hz => hhit hz.2]

theorem ClearCache.mono {prompt' : ℤ}
    (h : ClearCache n stickyResult cached prompt) (hle : prompt ≤ prompt') :
    ClearCache n stickyResult cached prompt' :=
  ⟨h.nonneg, h.le.trans hle, h.known⟩

/-- **The log has the counts of the bill** if the cache is clear. -/
theorem storedRow_of_clear (h : (normalizeCachedPromptTokens (billedInput env s r a)).2 = "") :
    (storedRow env s r a).cacheQuarantineReason = "" ∧
      (storedRow env s r a).tokens =
        { (billedInput env s r a).tokens with
          cachedPromptTokens := (normalizeCachedPromptTokens (billedInput env s r a)).1 } := by
  have hcases := normalizeCachedPromptTokens_cases h
  generalize hnorm : (normalizeCachedPromptTokens (billedInput env s r a)).1 = norm at hcases
  obtain ⟨assigned, provider, status, ⟨prompt, cached, completion, estimate⟩, code, retried, flag,
    output⟩ := a
  unfold billedInput boundProviderReportedPromptTokens hotPathInputOf at *
  unfold storedRow loggedRow logRowOf requestLogRowWithBoundedPrompt hotPathInputOf
  rcases hcases with ⟨rfl, rfl⟩ | ⟨k, p', rfl, hp', hclear, rfl⟩
  · unfold boundedPrompt
    rcases prompt with _ | prompt
    · exact ⟨rfl, rfl⟩
    · rcases r.promptTokenUpperBound with _ | bound
      · exact ⟨rfl, rfl⟩
      · dsimp only
        split_ifs <;> first | exact ⟨rfl, rfl⟩ | omega
  · unfold boundedPrompt at hp' ⊢
    rcases prompt with _ | prompt
    · cases hp'
    rcases hb : r.promptTokenUpperBound with _ | bound
    · rw [hb] at hp'
      cases hp'
      rw [requestLogCacheRecoveryFields_clear hclear]
      exact ⟨rfl, rfl⟩
    · rw [hb] at hp'
      dsimp only at hp' ⊢
      by_cases hle : prompt ≤ max bound 0
      · rw [if_neg (not_lt.mpr hle)] at hp'
        cases hp'
        rw [if_pos hle, if_neg (not_lt.mpr hle), requestLogCacheRecoveryFields_clear hclear]
        exact ⟨rfl, rfl⟩
      · rw [if_pos (not_le.mp hle)] at hp'
        cases hp'
        rw [if_neg hle, if_pos (not_le.mp hle),
          requestLogCacheRecoveryFields_clear (hclear.mono (not_le.mp hle).le)]
        refine ⟨rfl, ?_⟩
        -- the cached tokens are below the bound, so the log keeps them
        have hkeep : (countedCache r.attemptN r.stickyResult k).filter
            (fun c => decide (c ≤ max bound 0)) = countedCache r.attemptN r.stickyResult k := by
          unfold countedCache
          split_ifs
          · simp only [Option.filter_some, hclear.le, decide_true, if_true]
          · rfl
        rw [hkeep]

/-- The input with the cached tokens that count. -/
def countedInput (env : Env) (s : Server) (r : BillingRecorder) (a : Attempt) : HotPathInput :=
  let i := billedInput env s r a
  { i with tokens := { i.tokens with cachedPromptTokens := (normalizeCachedPromptTokens i).1 } }

/-- The counts recovery reads for the attempt. -/
def recoveredTokens (env : Env) (s : Server) (r : BillingRecorder) (a : Attempt) (n : ℕ) :
    TokenCounts :=
  { (storedRow env s r a).tokens with
    cachedPromptTokens := if n = 0 then (storedRow env s r a).tokens.cachedPromptTokens else none }

theorem recoveredTokens_eq {n : ℕ}
    (h : (normalizeCachedPromptTokens (billedInput env s r a)).2 = "") (hn : r.attemptN = n) :
    recoveredTokens env s r a n = (countedInput env s r a).tokens := by
  obtain ⟨-, htokens⟩ := storedRow_of_clear h
  have hlate : n ≠ 0 → (normalizeCachedPromptTokens (billedInput env s r a)).1 = none := by
    intro hpos
    rcases normalizeCachedPromptTokens_cases h with ⟨-, hnone⟩ | ⟨cached, prompt, -, -, -, hcount⟩
    · exact hnone
    · rw [hcount]
      exact if_neg fun hz => hpos (hn.symm.trans hz.1)
  unfold recoveredTokens countedInput
  rw [htokens]
  dsimp only
  by_cases hz : n = 0
  · rw [if_pos hz]
  · rw [if_neg hz, hlate hz]

end Log

/-! ### The row that is computed again -/

section Recomputed
variable {i : HotPathInput} {c : CreditRow} {flag : FaultFlag} {row : BilledRow}

/-- A row that reconciliation leaves alone. -/
structure Confirms (i : HotPathInput) (expected : BilledRow) (c : CreditRow) : Prop where
  gross : (recomputed i c).grossCredits = c.grossCredits
  provider : (recomputed i c).providerCredits = c.providerCredits
  flag : (recomputed i c).faultFlag = c.faultFlag
  cached : c.tokens.cachedPromptTokens = i.tokens.cachedPromptTokens
  promptRate : c.promptRatePerMtok = i.rateEntry.promptCreditsPerMtok
  completionRate : c.completionRatePerMtok = i.rateEntry.completionCreditsPerMtok
  multiplier : c.globalMultiplierPPM = i.multiplierPPM
  share : c.providerShareBps = i.providerShareBps
  estimate : allowByteEstimated i c = true →
    c.tokens.estimatedCompTokens.any invalidBillableTokenCount = false
  usage : allowByteEstimated i c = false →
    c.usageSource = expected.usageSource ∧ c.faultFlag = expected.faultFlag
  operator : c.operatorCredits = some (c.grossCredits - c.providerCredits)

theorem operator_iff {o : Option ℤ} {gross provider : ℤ} :
    o.isNone = false ∧ provider + o.getD 0 = gross ↔ o = some (gross - provider) := by
  rcases o with _ | o
  · simp
  · simp only [Option.isNone_some, Option.getD_some, true_and, Option.some.injEq]
    omega

variable {expected : BilledRow}

theorem creditMismatch_eq_false_iff :
    creditMismatch i expected c = false ↔ Confirms i expected c := by
  unfold creditMismatch contractMismatch
  simp only [Bool.or_eq_false_iff, bne_eq_false_iff_eq]
  constructor
  · rintro ⟨⟨⟨⟨⟨⟨h1, h2⟩, h3⟩, h4⟩, ⟨⟨⟨⟨h5, h6⟩, h7⟩, h8⟩, h9⟩⟩, h10⟩, h11⟩
    refine ⟨h1, h2, h3, h4, h5, h6, h7, h8, fun h => ?_, fun h => ?_, operator_iff.mp ⟨h10, h11⟩⟩
    · rw [if_pos h] at h9
      exact h9
    · rw [h] at h9
      simpa using h9
  · intro h
    obtain ⟨h10, h11⟩ := operator_iff.mpr h.operator
    refine ⟨⟨⟨⟨⟨⟨h.gross, h.provider⟩, h.flag⟩, h.cached⟩,
      ⟨⟨⟨⟨h.promptRate, h.completionRate⟩, h.multiplier⟩, h.share⟩, ?_⟩⟩, h10⟩, h11⟩
    split_ifs with hallow
    · exact h.estimate hallow
    · simpa using h.usage (by simpa using hallow)

/-- What reconciliation reads is a bill's. -/
structure HasBill (row : BilledRow) (c : CreditRow) : Prop where
  gross : c.grossCredits = row.grossCredits
  provider : c.providerCredits = row.providerCredits
  operator : c.operatorCredits = some row.operatorCredits
  usage : c.usageSource = row.usageSource
  flag : c.faultFlag = row.faultFlag
  tokens : c.tokens = row.tokens
  promptRate : c.promptRatePerMtok = row.promptRatePerMtok
  completionRate : c.completionRatePerMtok = row.completionRatePerMtok
  multiplier : c.globalMultiplierPPM = row.globalMultiplierPPM
  share : c.providerShareBps = row.providerShareBps

/-- Where its counts come from. -/
def HotPathInput.source (i : HotPathInput) : UsageSource :=
  usageFor i.errorCode i.tokens.estimatedCompTokens

/-- Its counts can be priced. -/
def HotPathInput.Payable (i : HotPathInput) : Prop :=
  Formula.Payable i.tokens (HotPathInput.source i) i.rateEntry i.multiplierPPM i.providerShareBps

/-- It is `none`, or the formula raises it by itself. -/
def FlagKept (i : HotPathInput) (flag : FaultFlag) : Prop :=
  flag = .none ∨ flag = .nullUsageError ∧ ¬ (HotPathInput.source i ≠ .nullError ∧
    HotPathInput.Payable i)

/-- Cached tokens are not lost with the counts. -/
def CacheKept (i : HotPathInput) : Prop :=
  i.tokens.cachedPromptTokens ≠ none →
    HotPathInput.source i = .nullError ∨ HotPathInput.Payable i

theorem computed_refused {t : TokenCounts} {e : RateCardEntry} {ppm bps : ℤ}
    (hflag : flag ≠ .breakerQualifying) :
    computeCreditsWithCache t (some UsageSource.nullError) (some flag) e ppm bps =
      { startRow t (some UsageSource.nullError) (some flag) e ppm bps with
        faultFlag := .nullUsageError } := by
  cases billedAs t .nullError flag e ppm bps with
  | breaker hbreaker _ => exact absurd hbreaker hflag
  | refused _ _ hrow => exact hrow
  | unpayable _ hsource _ _ => exact absurd rfl hsource
  | priced _ hsource _ _ _ _ _ _ _ => exact absurd rfl hsource

theorem HasBill.confirms {source : UsageSource} (hbill : HasBill row c)
    (hbilled : BilledAs i.tokens source flag i.rateEntry i.multiplierPPM i.providerShareBps row)
    (hgross : (recomputed i c).grossCredits = row.grossCredits)
    (hprovider : (recomputed i c).providerCredits = row.providerCredits)
    (hflag : (recomputed i c).faultFlag = row.faultFlag)
    (hcached : row.tokens.cachedPromptTokens = i.tokens.cachedPromptTokens)
    (hestimate : allowByteEstimated i c = true →
      row.tokens.estimatedCompTokens.any invalidBillableTokenCount = false)
    (husage : row.usageSource = expected.usageSource ∧ row.faultFlag = expected.faultFlag) :
    Confirms i expected c where
  gross := hgross.trans hbill.gross.symm
  provider := hprovider.trans hbill.provider.symm
  flag := hflag.trans hbill.flag.symm
  cached := (congrArg TokenCounts.cachedPromptTokens hbill.tokens).trans hcached
  promptRate := hbill.promptRate.trans hbilled.rates.1
  completionRate := hbill.completionRate.trans hbilled.rates.2.1
  multiplier := hbill.multiplier.trans hbilled.rates.2.2.1
  share := hbill.share.trans hbilled.rates.2.2.2
  estimate h := by
    rw [hbill.tokens]
    exact hestimate h
  usage _ := ⟨hbill.usage.trans husage.1, hbill.flag.trans husage.2⟩
  operator := by rw [hbill.operator, hbill.gross, hbill.provider, hbilled.parts.2]

theorem HasBill.recomputed_null (hbill : HasBill row c) (husage : row.usageSource = .nullError)
    (hflag : row.faultFlag = .nullUsageError) :
    allowByteEstimated i c = false ∧ recomputed i c =
      { startRow i.tokens (some UsageSource.nullError) (some FaultFlag.nullUsageError) i.rateEntry
          i.multiplierPPM i.providerShareBps with faultFlag := .nullUsageError } := by
  have hallow : allowByteEstimated i c = false := by
    unfold allowByteEstimated
    rw [hbill.usage, husage]
    rfl
  refine ⟨hallow, ?_⟩
  unfold recomputed
  rw [hallow, hbill.usage, hbill.flag, husage, hflag]
  exact computed_refused FaultFlag.noConfusion

/-- **A row of the formula is confirmed** when it is computed again. -/
theorem confirms_of_bill (hbill : HasBill row c) (hnone : i.faultFlag = .none)
    (hrow : row = computeCreditsWithCache i.tokens (some (HotPathInput.source i)) (some flag)
      i.rateEntry i.multiplierPPM i.providerShareBps)
    (hvalid : invalidRecoveryEstimate i.tokens.estimatedCompTokens = false)
    (hflag : FlagKept i flag) (hcache : CacheKept i) :
    Confirms i (i.credits i.tokens.cachedPromptTokens) c := by
  have hexpected : i.credits i.tokens.cachedPromptTokens =
      computeCreditsWithCache i.tokens (some (HotPathInput.source i)) (some FaultFlag.none)
        i.rateEntry i.multiplierPPM i.providerShareBps := by
    unfold HotPathInput.credits
    rw [hnone]
    rfl
  have hbreaker : flag ≠ .breakerQualifying := by
    rcases hflag with rfl | ⟨rfl, _⟩ <;> exact FaultFlag.noConfusion
  have hbilled := billedAs i.tokens (HotPathInput.source i) flag i.rateEntry i.multiplierPPM
    i.providerShareBps
  rw [← hrow] at hbilled
  rw [hexpected]
  rcases hbilled with ⟨h, _⟩ | ⟨_, hsource, hr⟩ | ⟨_, hsource, hpay, hr⟩ |
    ⟨_, hsource, hpay, source', hsource', hnull, gross, hgross, hr⟩
  · exact absurd h hbreaker
  · -- an error code: the row is refused with either flag
    obtain ⟨hallow, hagain⟩ := hbill.recomputed_null (i := i) (by rw [hr]; exact hsource)
      (by rw [hr])
    rw [hsource, computed_refused FaultFlag.noConfusion]
    refine hbill.confirms (.refused hbreaker hsource hr) ?_ ?_ ?_ ?_ (fun h => ?_) ⟨?_, ?_⟩
    · rw [hagain, hr]; rfl
    · rw [hagain, hr]; rfl
    · rw [hagain, hr]
    · rw [hr]; rfl
    · rw [hallow] at h; cases h
    · rw [hr]; exact hsource
    · rw [hr]
  · -- counts that cannot be priced: the row has lost them
    have hcached : i.tokens.cachedPromptTokens = none := by
      by_contra hne
      rcases hcache hne with h | h
      · exact hsource h
      · exact hpay h
    have hexpected' : computeCreditsWithCache i.tokens (some (HotPathInput.source i))
        (some FaultFlag.none) i.rateEntry i.multiplierPPM i.providerShareBps =
        nullUsage (startRow i.tokens (HotPathInput.source i) FaultFlag.none i.rateEntry
          i.multiplierPPM i.providerShareBps) := by
      cases billedAs i.tokens (HotPathInput.source i) .none i.rateEntry i.multiplierPPM
        i.providerShareBps with
      | breaker h _ => cases h
      | refused _ h _ => exact absurd h hsource
      | unpayable _ _ _ hrow => exact hrow
      | priced _ _ h _ _ _ _ _ _ => exact absurd h hpay
    obtain ⟨hallow, hagain⟩ := hbill.recomputed_null (i := i) (by rw [hr]; rfl) (by rw [hr]; rfl)
    rw [hexpected']
    refine hbill.confirms (.unpayable hbreaker hsource hpay hr) ?_ ?_ ?_ ?_ (fun h => ?_) ⟨?_, ?_⟩
    · rw [hagain, hr]; rfl
    · rw [hagain, hr]; rfl
    · rw [hagain, hr]; rfl
    · rw [hr]; exact hcached.symm
    · rw [hallow] at h; cases h
    · rw [hr]; rfl
    · rw [hr]; rfl
  · -- a price: the flag is `none`, and the row comes out again
    have hnoflag : flag = .none := by
      rcases hflag with h | ⟨_, h⟩
      · exact h
      · exact absurd ⟨hsource, hpay⟩ h
    have hsame : row.usageSource = HotPathInput.source i := by
      rw [hr]
      exact hsource' (usageFor_source hsource)
    have htokens : row.tokens = i.tokens := by
      rw [hr]
      rfl
    have hflag' : row.faultFlag = .none := by
      rw [hr, hnoflag]
      rfl
    have hagain : recomputed i c = row := by
      unfold recomputed
      rw [hbill.usage, hbill.flag, hbill.tokens, htokens, ite_self, hsame, hflag', hrow, hnoflag]
    rw [← hnoflag, ← hrow]
    refine hbill.confirms (.priced hbreaker hsource hpay source' hsource' hnull gross hgross hr)
      ?_ ?_ ?_ ?_ (fun _ => ?_) ⟨rfl, rfl⟩
    · rw [hagain]
    · rw [hagain]
    · rw [hagain]
    · rw [htokens]
    · rw [htokens]
      exact hvalid

end Recomputed

end MacProvider.Coordinator.Billing.Confirmation
