import MacProvider.Gateway.Basic
import MacProvider.Lib.Rounding
import Mathlib.Tactic.Positivity

/-! # The credit formula

`ComputeCreditsWithCache` over a machine `word` that says what becomes of an exact result: `wrap64`
is the machine the code runs on, `trap` stops outside `int64`. All machines that are exact inside
`int64` agree (`computeM_exact`). -/

namespace MacProvider.Coordinator.Billing.Formula

open MacProvider.Gateway Lib.Rounding

/-! ### Rows -/

/-- Where the counts of a row come from. -/
inductive UsageSource
  | providerReported | byteEstimated | nullError
deriving DecidableEq

/-- What is wrong with an attempt. -/
inductive FaultFlag
  | none | breakerQualifying | nullUsageError
deriving DecidableEq

/-- The multiplier is in millionths. -/
def globalMultiplierDenom : ℤ := 1000000
/-- Rates are for a million tokens. -/
def tokensPerMillion : ℤ := 1000000
/-- The share is in basis points. -/
def providerShareDenom : ℤ := 10000
/-- The largest count that is billed. -/
def maxBillableTokens : ℤ := 10000000

/-- The rates of a model. -/
structure RateCardEntry where
  promptCreditsPerMtok : ℤ
  promptCacheHitCreditsPerMtok : ℤ
  completionCreditsPerMtok : ℤ
  promptCacheHitRateSet : Bool

/-- By default the prompt rate. -/
def RateCardEntry.effectivePromptCacheHitCreditsPerMtok (e : RateCardEntry) : ℤ :=
  if e.promptCacheHitRateSet ∨ e.promptCacheHitCreditsPerMtok ≠ 0 ∨ e.promptCreditsPerMtok = 0 then
    e.promptCacheHitCreditsPerMtok
  else e.promptCreditsPerMtok

/-- The counts, as far as they are known. -/
structure TokenCounts where
  promptTokens : Option ℤ
  cachedPromptTokens : Option ℤ
  completionTokens : Option ℤ
  estimatedCompTokens : Option ℤ
deriving DecidableEq

/-- No count is known. -/
def TokenCounts.null : TokenCounts := ⟨none, none, none, none⟩

/-- What is billed for an attempt. -/
structure BilledRow where
  grossCredits : ℤ
  providerCredits : ℤ
  operatorCredits : ℤ
  usageSource : UsageSource
  faultFlag : FaultFlag
  tokens : TokenCounts
  promptRatePerMtok : ℤ
  promptCacheHitRatePerMtok : ℤ
  completionRatePerMtok : ℤ
  globalMultiplierPPM : ℤ
  providerShareBps : ℤ
deriving DecidableEq

/-- The row without credits. -/
def zeroCredits (row : BilledRow) : BilledRow :=
  let row := { row with grossCredits := 0, providerCredits := 0, operatorCredits := 0 }
  if row.faultFlag = .nullUsageError then { row with tokens := .null } else row

/-- The row of counts that cannot be billed. -/
def nullUsage (row : BilledRow) : BilledRow :=
  zeroCredits { row with faultFlag := .nullUsageError, usageSource := .nullError }

/-! ### Token counts -/

/-- The completion to bill, and whether it is the estimate; `none` if one is negative. -/
def billableCompletion (usageSource : UsageSource) (completionTokens estimated : Option ℤ) :
    Option (ℤ × Bool) :=
  if usageSource = .byteEstimated then
    match estimated with
    | none => some (0, false)
    | some estimate =>
      if estimate < 0 then none
      else
        match completionTokens with
        | none => some (estimate, false)
        | some providerReported =>
          if providerReported < 0 then none
          else if providerReported < estimate then some (providerReported, false)
          else some (estimate, false)
  else
    match completionTokens, estimated with
    | none, none => some (0, false)
    | none, some estimate => some (estimate, true)
    | some providerReported, none =>
      if providerReported < 0 then none else some (providerReported, false)
    | some providerReported, some estimate =>
      if providerReported < 0 then none
      else if estimate < 0 then none
      else if estimate < providerReported then some (estimate, true)
      else some (providerReported, false)

/-- The count is negative or too large. -/
def invalidBillableTokenCount (v : ℤ) : Bool := v < 0 || maxBillableTokens < v

/-- The error codes of requests that were not served. -/
def usageFor (errorCode : String) (estimated : Option ℤ) : UsageSource :=
  if errorCode = "error_model_not_loaded" ∨ errorCode = "error_context_exceeded" ∨
      errorCode = "error_queue_full" ∨ errorCode = "error_internal" then .nullError
  else if estimated.isSome then .byteEstimated
  else .providerReported

theorem usageFor_source {errorCode : String} {estimated : Option ℤ}
    (h : usageFor errorCode estimated ≠ .nullError) :
    estimated = none ∨ usageFor errorCode estimated = .byteEstimated := by
  unfold usageFor at *
  split_ifs at h ⊢ with h1 h2
  · exact absurd rfl h
  · exact Or.inr rfl
  · exact Or.inl (by simpa using h2)

/-- The row before it is priced. -/
def startRow (t : TokenCounts) (usageSource : Option UsageSource) (faultFlag : Option FaultFlag)
    (rateEntry : RateCardEntry) (multiplierPPM providerShareBps : ℤ) : BilledRow where
  grossCredits := 0
  providerCredits := 0
  operatorCredits := 0
  usageSource := usageSource.getD .providerReported
  faultFlag := faultFlag.getD .none
  tokens := t
  promptRatePerMtok := rateEntry.promptCreditsPerMtok
  promptCacheHitRatePerMtok := rateEntry.effectivePromptCacheHitCreditsPerMtok
  completionRatePerMtok := rateEntry.completionCreditsPerMtok
  globalMultiplierPPM := multiplierPPM
  providerShareBps := providerShareBps

/-- A replaced count is an estimate. -/
def BilledRow.withSource (row : BilledRow) (clampedToEstimate : Bool) : BilledRow :=
  if row.usageSource = .byteEstimated then row
  else if clampedToEstimate then { row with usageSource := .byteEstimated }
  else { row with usageSource := .providerReported }

/-! ### The formula on a machine -/

section Machine
variable {m : Type → Type} [Monad m] (word : ℤ → m ℤ)

/-- `RoundHalfEven`. -/
def roundHalfEvenM (numerator denominator : ℤ) : m ℤ :=
  if denominator ≤ 0 then pure 0
  else do
    let q ← word (numerator.tdiv denominator)
    let r ← word (numerator.tmod denominator)
    let r ← if r < 0 then word (-r) else pure r
    let twice ← word (r * 2)
    if twice < denominator then pure q
    else if denominator < twice then
      if 0 ≤ numerator then word (q + 1) else word (q - 1)
    else if q.tmod 2 = 0 then pure q
    else if 0 ≤ numerator then word (q + 1) else word (q - 1)

/-- A product in `int64` of numbers that are not negative. -/
def checkedMul (a b : ℤ) : OptionT m ℤ :=
  if a < 0 ∨ b < 0 then failure
  else if a = 0 ∨ b = 0 then pure 0
  else do
    let bound ← word (maxInt64.tdiv b)
    if bound < a then failure else word (a * b)

/-- The same for sums. -/
def checkedAdd (a b : ℤ) : OptionT m ℤ :=
  if a < 0 ∨ b < 0 then failure
  else do
    let bound ← word (maxInt64 - b)
    if bound < a then failure else word (a + b)

/-- Behind the checks: the three amounts, or nothing if a factor is negative or a result too
large. -/
def pricedM (prompt cached completion : ℤ) (rateEntry : RateCardEntry)
    (multiplierPPM providerShareBps : ℤ) : OptionT m (ℤ × ℤ × ℤ) := do
  let uncached ← word (prompt - cached)
  let uncachedPromptNumerator ← checkedMul word uncached rateEntry.promptCreditsPerMtok
  let cachedPromptNumerator ←
    checkedMul word cached rateEntry.effectivePromptCacheHitCreditsPerMtok
  let promptNumerator ← checkedAdd word uncachedPromptNumerator cachedPromptNumerator
  let completionNumerator ← checkedMul word completion rateEntry.completionCreditsPerMtok
  let baseNumerator ← checkedAdd word promptNumerator completionNumerator
  let rateScaled ← checkedMul word baseNumerator multiplierPPM
  let denominator ← word (globalMultiplierDenom * tokensPerMillion)
  let grossCredits ← (roundHalfEvenM word rateScaled denominator : m ℤ)
  let providerNumerator ← checkedMul word grossCredits providerShareBps
  let providerCredits ← (roundHalfEvenM word providerNumerator providerShareDenom : m ℤ)
  let operatorCredits ← word (grossCredits - providerCredits)
  return (grossCredits, providerCredits, operatorCredits)

/-- `ComputeCreditsWithCache`. -/
def computeM (t : TokenCounts) (usageSource : Option UsageSource) (faultFlag : Option FaultFlag)
    (rateEntry : RateCardEntry) (multiplierPPM providerShareBps : ℤ) : m BilledRow :=
  let row := startRow t usageSource faultFlag rateEntry multiplierPPM providerShareBps
  if row.faultFlag = .breakerQualifying then pure row
  else if row.usageSource = .nullError then pure { row with faultFlag := .nullUsageError }
  else
    let prompt := t.promptTokens.getD 0
    let cached := t.cachedPromptTokens.getD 0
    match billableCompletion row.usageSource t.completionTokens t.estimatedCompTokens with
    | none => pure (nullUsage row)
    | some (completion, clampedToEstimate) =>
      let row := row.withSource clampedToEstimate
      if invalidBillableTokenCount prompt || invalidBillableTokenCount cached ||
          decide (prompt < cached) || invalidBillableTokenCount completion then
        pure (nullUsage row)
      else do
        match ← (pricedM word prompt cached completion rateEntry multiplierPPM
          providerShareBps).run with
        | none => pure (nullUsage row)
        | some (gross, provider, operator) =>
          pure { row with grossCredits := gross, providerCredits := provider,
                          operatorCredits := operator }

end Machine

/-- **`ComputeCreditsWithCache`**: results wrap around. -/
def computeCreditsWithCache (t : TokenCounts) (usageSource : Option UsageSource)
    (faultFlag : Option FaultFlag) (rateEntry : RateCardEntry)
    (multiplierPPM providerShareBps : ℤ) : BilledRow :=
  computeM (m := Id) (fun x => wrap64 x) t usageSource faultFlag rateEntry multiplierPPM
    providerShareBps

/-- It stops at a result outside `int64`. -/
def trap (x : ℤ) : Option ℤ := if -2 ^ 63 ≤ x ∧ x ≤ maxInt64 then some x else none

/-! ### The exact amounts -/

/-- Credits per `10^12`. -/
def base (prompt cached completion : ℤ) (e : RateCardEntry) : ℤ :=
  (prompt - cached) * e.promptCreditsPerMtok +
    cached * e.effectivePromptCacheHitCreditsPerMtok + completion * e.completionCreditsPerMtok

/-- **The gross amount**, rounded half to even. -/
def price (prompt cached completion : ℤ) (e : RateCardEntry) (ppm : ℤ) : ℤ :=
  halfEven (((base prompt cached completion e * ppm : ℤ) : ℚ) / 10 ^ 12)

/-- **The provider's share**, rounded half to even. -/
def providerPart (gross bps : ℤ) : ℤ :=
  halfEven (((gross * bps : ℤ) : ℚ) / 10 ^ 4)

/-- No factor is negative and no result too large. -/
@[mk_iff]
structure Fits (prompt cached completion : ℤ) (e : RateCardEntry) (ppm bps : ℤ) : Prop where
  promptRate : 0 ≤ e.promptCreditsPerMtok
  cacheRate : 0 ≤ e.effectivePromptCacheHitCreditsPerMtok
  completionRate : 0 ≤ e.completionCreditsPerMtok
  base_le : base prompt cached completion e ≤ maxInt64
  multiplier : 0 ≤ ppm
  scaled_le : base prompt cached completion e * ppm ≤ maxInt64
  share : 0 ≤ bps
  shared_le : price prompt cached completion e ppm * bps ≤ maxInt64

instance (prompt cached completion : ℤ) (e : RateCardEntry) (ppm bps : ℤ) :
    Decidable (Fits prompt cached completion e ppm bps) :=
  decidable_of_iff _ (fits_iff ..).symm

/-- Valid, and the cached tokens are the prompt's. -/
structure ValidCounts (prompt cached completion : ℤ) : Prop where
  cached_nonneg : 0 ≤ cached
  cached_le : cached ≤ prompt
  prompt_le : prompt ≤ maxBillableTokens
  completion_nonneg : 0 ≤ completion
  completion_le : completion ≤ maxBillableTokens

theorem validCounts_iff {prompt cached comp : ℤ} :
    ValidCounts prompt cached comp ↔
      (invalidBillableTokenCount prompt || invalidBillableTokenCount cached ||
        decide (prompt < cached) || invalidBillableTokenCount comp) = false := by
  simp only [invalidBillableTokenCount, Bool.or_eq_false_iff, decide_eq_false_iff_not, not_lt]
  constructor
  · rintro ⟨h1, h2, h3, h4, h5⟩
    omega
  · rintro ⟨⟨⟨⟨h1, h2⟩, h3, h4⟩, h5⟩, h6, h7⟩
    exact ⟨h3, h5, h2, h6, h7⟩

instance (prompt cached completion : ℤ) : Decidable (ValidCounts prompt cached completion) :=
  decidable_of_iff _ validCounts_iff.symm

theorem providerPart_nonneg {gross bps : ℤ} (hg : 0 ≤ gross) (hb : 0 ≤ bps) :
    0 ≤ providerPart gross bps :=
  halfEven_nonneg (by positivity)

theorem providerPart_le {gross bps : ℤ} (hg : 0 ≤ gross) (hb : bps ≤ providerShareDenom) :
    providerPart gross bps ≤ gross := by
  have hmul : gross * bps ≤ gross * 10000 := mul_le_mul_of_nonneg_left hb hg
  have hle : ((gross * bps : ℤ) : ℚ) / 10 ^ 4 ≤ (gross : ℚ) := by
    rw [div_le_iff₀ (by norm_num)]
    exact_mod_cast hmul
  simpa [providerPart] using halfEven_mono hle

/-! ### Machines that are exact inside `int64` -/

section Exact
variable {m : Type → Type} [Monad m] [LawfulMonad m] {word : ℤ → m ℤ}

/-- The machine keeps every result that fits. -/
def Exact (word : ℤ → m ℤ) : Prop := ∀ x, -2 ^ 63 ≤ x → x ≤ maxInt64 → word x = pure x

theorem roundHalfEvenM_eq (hw : Exact word) {n d : ℤ} (hn : 0 ≤ n) (hn' : n ≤ maxInt64)
    (hd : 0 < d) (hd' : d ≤ 2 ^ 62) : roundHalfEvenM word n d = pure (halfEven ((n : ℚ) / d)) := by
  have hq0 : 0 ≤ n / d := Int.ediv_nonneg hn hd.le
  have hq1 : n / d ≤ n := Int.ediv_le_self d hn
  have hr0 := Int.emod_nonneg n hd.ne'
  have hr1 := Int.emod_lt_of_pos n hd
  unfold maxInt64 at hn'
  have hone : ∀ x, 0 ≤ x → x ≤ 2 ^ 63 - 1 → word x = pure x := fun x h0 h1 =>
    hw x (by omega) (by unfold maxInt64; exact h1)
  -- a quotient that is rounded up leaves a remainder, so it stays below the numerator
  have hup : d ≤ n % d * 2 → n / d + 1 ≤ 2 ^ 63 - 1 := by
    intro h
    have hdm := Int.mul_ediv_add_emod n d
    have hle : n / d ≤ d * (n / d) := le_mul_of_one_le_left hq0 (by omega)
    omega
  rw [halfEven_div n hd]
  unfold roundHalfEvenM
  rw [if_neg (by omega), Int.tdiv_eq_ediv_of_nonneg hn, Int.tmod_eq_emod_of_nonneg hn,
    hone _ hq0 (by omega), hone _ hr0 (by omega)]
  simp only [pure_bind, if_neg (not_lt.mpr hr0), if_pos hn, Int.tmod_eq_emod_of_nonneg hq0]
  rw [hone _ (by omega) (by omega)]
  simp only [pure_bind]
  split_ifs with h1 h2 h3
  · rfl
  · exact hone _ (by omega) (hup h2.le)
  · rfl
  · exact hone _ (by omega) (hup (not_lt.mp h1))

theorem failure_bind {α β : Type} (f : α → OptionT m β) : (failure : OptionT m α) >>= f = failure :=
  OptionT.ext (by simp)

theorem checkedMul_eq (hw : Exact word) (a b : ℤ) :
    checkedMul word a b = if 0 ≤ a ∧ 0 ≤ b ∧ a * b ≤ maxInt64 then pure (a * b) else failure := by
  unfold checkedMul
  by_cases hneg : a < 0 ∨ b < 0
  · rw [if_pos hneg, if_neg (by omega)]
  have ha : 0 ≤ a := by omega
  have hb : 0 ≤ b := by omega
  rw [if_neg hneg]
  by_cases hzero : a = 0 ∨ b = 0
  · have hab : a * b = 0 := mul_eq_zero.mpr hzero
    have hmax : (0 : ℤ) ≤ maxInt64 := by decide
    rw [if_pos hzero, if_pos ⟨ha, hb, hab ▸ hmax⟩, hab]
  have hb' : 0 < b := by omega
  have hbound : maxInt64 / b < a ↔ ¬ a * b ≤ maxInt64 := by
    rw [Int.ediv_lt_iff_lt_mul hb', not_le]
  have hmax : (0 : ℤ) ≤ maxInt64 := by decide
  have hq := Int.ediv_le_self b hmax
  have hq0 := Int.ediv_nonneg hmax hb
  rw [if_neg hzero, Int.tdiv_eq_ediv_of_nonneg hmax, hw _ (by omega) hq]
  simp only [liftM_pure, pure_bind, hbound, ha, hb, true_and]
  by_cases hfit : a * b ≤ maxInt64
  · have hab := mul_nonneg ha hb
    rw [if_neg (not_not.mpr hfit), if_pos hfit, hw _ (by omega) hfit, liftM_pure]
  · rw [if_pos hfit, if_neg hfit]

theorem checkedAdd_eq (hw : Exact word) {a b : ℤ} (ha : 0 ≤ a) (hb : 0 ≤ b) (hb' : b ≤ maxInt64) :
    checkedAdd word a b = if a + b ≤ maxInt64 then pure (a + b) else failure := by
  unfold checkedAdd
  have hbound : maxInt64 - b < a ↔ ¬ a + b ≤ maxInt64 := by omega
  rw [if_neg (by omega), hw (maxInt64 - b) (by omega) (by omega)]
  simp only [liftM_pure, pure_bind, hbound]
  by_cases hfit : a + b ≤ maxInt64
  · rw [if_neg (not_not.mpr hfit), if_pos hfit, hw _ (by omega) hfit, liftM_pure]
  · rw [if_pos hfit, if_neg hfit]

section Counts
variable {prompt cached comp : ℤ} {e : RateCardEntry} {ppm bps : ℤ}

theorem base_nonneg (hv : ValidCounts prompt cached comp) (h1 : 0 ≤ e.promptCreditsPerMtok)
    (h2 : 0 ≤ e.effectivePromptCacheHitCreditsPerMtok) (h3 : 0 ≤ e.completionCreditsPerMtok) :
    0 ≤ base prompt cached comp e := by
  have hu : 0 ≤ prompt - cached := sub_nonneg.mpr hv.cached_le
  have hc := hv.cached_nonneg
  have hk := hv.completion_nonneg
  unfold base
  positivity

theorem Fits.products (h : Fits prompt cached comp e ppm bps)
    (hv : ValidCounts prompt cached comp) :
    (prompt - cached) * e.promptCreditsPerMtok ≤ maxInt64 ∧
      cached * e.effectivePromptCacheHitCreditsPerMtok ≤ maxInt64 ∧
      (prompt - cached) * e.promptCreditsPerMtok +
        cached * e.effectivePromptCacheHitCreditsPerMtok ≤ maxInt64 ∧
      comp * e.completionCreditsPerMtok ≤ maxInt64 := by
  obtain ⟨h1, h2, h3, hbase⟩ := h
  have hx1 : 0 ≤ (prompt - cached) * e.promptCreditsPerMtok :=
    mul_nonneg (sub_nonneg.mpr hv.cached_le) h1
  have hx2 := mul_nonneg hv.cached_nonneg h2
  have hx3 := mul_nonneg hv.completion_nonneg h3
  unfold base at hbase
  refine ⟨?_, ?_, ?_, ?_⟩ <;> linarith

theorem bind_checked {α β : Type} {P Q : Prop} [Decidable P] [Decidable Q] {x : α} {y : β}
    {f : α → OptionT m β} (hQ : Q → P) (h : P → f x = if Q then pure y else failure) :
    ((if P then pure x else failure) >>= f) = if Q then pure y else failure := by
  by_cases hP : P
  · rw [if_pos hP, pure_bind, h hP]
  · rw [if_neg hP, failure_bind, if_neg (mt hQ hP)]

/-- **The formula on an exact machine.** -/
theorem pricedM_eq (hw : Exact word) (hv : ValidCounts prompt cached comp) :
    pricedM word prompt cached comp e ppm bps =
      if Fits prompt cached comp e ppm bps then
        pure (price prompt cached comp e ppm,
          providerPart (price prompt cached comp e ppm) bps,
          price prompt cached comp e ppm -
            providerPart (price prompt cached comp e ppm) bps)
      else failure := by
  have hu : 0 ≤ prompt - cached := sub_nonneg.mpr hv.cached_le
  have hc := hv.cached_nonneg
  have hk := hv.completion_nonneg
  have hp := hv.prompt_le
  have hbig : maxBillableTokens ≤ maxInt64 := by decide
  unfold pricedM
  rw [hw _ (by omega) (by omega), liftM_pure, pure_bind, checkedMul_eq hw]
  refine bind_checked (fun h => ⟨hu, h.promptRate, (h.products hv).1⟩) fun h1 => ?_
  rw [checkedMul_eq hw]
  refine bind_checked (fun h => ⟨hc, h.cacheRate, (h.products hv).2.1⟩) fun h2 => ?_
  have hx1 := mul_nonneg h1.1 h1.2.1
  have hx2 := mul_nonneg h2.1 h2.2.1
  rw [checkedAdd_eq hw hx1 hx2 h2.2.2]
  refine bind_checked (fun h => (h.products hv).2.2.1) fun _ => ?_
  rw [checkedMul_eq hw]
  refine bind_checked (fun h => ⟨hk, h.completionRate, (h.products hv).2.2.2⟩) fun h4 => ?_
  rw [checkedAdd_eq hw (add_nonneg hx1 hx2) (mul_nonneg hk h4.2.1) h4.2.2]
  refine bind_checked (fun h => h.base_le) fun h5 => ?_
  have hbase := base_nonneg hv h1.2.1 h2.2.1 h4.2.1
  rw [checkedMul_eq hw]
  refine bind_checked (fun h => ⟨hbase, h.multiplier, h.scaled_le⟩) fun h6 => ?_
  have hscaled : 0 ≤ base prompt cached comp e * ppm := mul_nonneg h6.1 h6.2.1
  have hround : roundHalfEvenM word (base prompt cached comp e * ppm)
      (globalMultiplierDenom * tokensPerMillion) =
      pure (price prompt cached comp e ppm) := by
    rw [roundHalfEvenM_eq hw hscaled h6.2.2 (by decide) (by decide)]
    norm_num [price, globalMultiplierDenom, tokensPerMillion]
  have hgross : 0 ≤ price prompt cached comp e ppm := halfEven_nonneg (by positivity)
  have hprice : price prompt cached comp e ppm ≤ maxInt64 :=
    (halfEven_div_le hscaled (by norm_num)).trans h6.2.2
  change (liftM (word _) >>= fun _ => liftM (roundHalfEvenM word
    (base prompt cached comp e * ppm) _) >>= _) = _
  rw [hw _ (by decide) (by decide), liftM_pure, pure_bind, hround, liftM_pure, pure_bind]
  generalize hg : price prompt cached comp e ppm = gross at *
  rw [checkedMul_eq hw]
  refine bind_checked (fun h => ⟨hgross, h.share, hg ▸ h.shared_le⟩) fun h7 => ?_
  have hshared := mul_nonneg h7.1 h7.2.1
  have hround' : roundHalfEvenM word (gross * bps) providerShareDenom =
      pure (providerPart gross bps) := by
    rw [roundHalfEvenM_eq hw hshared h7.2.2 (by decide) (by decide)]
    norm_num [providerPart, providerShareDenom]
  have hpart : providerPart gross bps ≤ maxInt64 :=
    (halfEven_div_le hshared (by norm_num)).trans h7.2.2
  have hpart' := providerPart_nonneg hgross h7.2.1
  have hmax : maxInt64 ≤ 2 ^ 63 := by decide
  rw [hround', liftM_pure, pure_bind, hw _ (by omega) (by omega), liftM_pure,
    pure_bind, if_pos ⟨h1.2.1, h2.2.1, h4.2.1, h5, h6.2.1, h6.2.2, h7.2.1, hg ▸ h7.2.2⟩]

end Counts

end Exact

theorem exact_wrap64 : Exact (m := Id) fun x => wrap64 x := fun _ h1 h2 => wrap64_of_range h1 h2

theorem exact_trap : Exact trap := fun _ h1 h2 => if_pos ⟨h1, h2⟩

/-- The smaller one of two counts. -/
def billedCompletion (usageSource : UsageSource) (t : TokenCounts) : ℤ :=
  match t.completionTokens, t.estimatedCompTokens with
  | some reported, some estimate => min reported estimate
  | some reported, none => if usageSource = .byteEstimated then 0 else reported
  | none, some estimate => estimate
  | none, none => 0

theorem billableCompletion_eq {usageSource : UsageSource} {t : TokenCounts} {k : ℤ} {b : Bool}
    (h : billableCompletion usageSource t.completionTokens t.estimatedCompTokens = some (k, b)) :
    k = billedCompletion usageSource t ∧ (t.estimatedCompTokens = none → b = false) := by
  obtain ⟨_, _, comp, estimated⟩ := t
  unfold billableCompletion at h
  unfold billedCompletion
  cases comp <;> cases estimated <;> dsimp only at h ⊢ <;> split_ifs at h ⊢ <;> cases h <;>
    exact ⟨by omega, by simp⟩

section Row
variable {t : TokenCounts} {usageSource : Option UsageSource} {faultFlag : Option FaultFlag}
  {e : RateCardEntry} {ppm bps : ℤ}

/-- **Every exact machine returns the row.** -/
theorem computeM_exact {m : Type → Type} [Monad m] [LawfulMonad m] {word : ℤ → m ℤ}
    (hw : Exact word) :
    computeM word t usageSource faultFlag e ppm bps =
      pure (computeCreditsWithCache t usageSource faultFlag e ppm bps) := by
  unfold computeCreditsWithCache computeM
  dsimp only
  split
  · rfl
  split
  · rfl
  cases billableCompletion (startRow t usageSource faultFlag e ppm bps).usageSource
    t.completionTokens t.estimatedCompTokens with
  | none => rfl
  | some k =>
    dsimp only
    by_cases hv : ValidCounts (t.promptTokens.getD 0) (t.cachedPromptTokens.getD 0) k.1
    · rw [validCounts_iff.mp hv, if_neg Bool.false_ne_true, if_neg Bool.false_ne_true,
        pricedM_eq hw hv, pricedM_eq exact_wrap64 hv]
      split_ifs <;> simp <;> rfl
    · have hinvalid := (Bool.not_eq_false _).mp (mt validCounts_iff.mpr hv)
      rw [if_pos hinvalid, if_pos hinvalid]
      rfl

end Row

/-! ### What becomes of the counts -/

section BilledAs
variable {t : TokenCounts} {source : UsageSource} {flag : FaultFlag} {e : RateCardEntry}
  {ppm bps : ℤ} {row : BilledRow}

/-- The counts can be priced. -/
@[mk_iff]
structure Payable (t : TokenCounts) (source : UsageSource) (e : RateCardEntry) (ppm bps : ℤ) :
    Prop where
  valid : ValidCounts (t.promptTokens.getD 0) (t.cachedPromptTokens.getD 0)
    (billedCompletion source t)
  fits : Fits (t.promptTokens.getD 0) (t.cachedPromptTokens.getD 0) (billedCompletion source t) e
    ppm bps

instance : Decidable (Payable t source e ppm bps) :=
  decidable_of_iff _ (payable_iff ..).symm

/-- **The four rows**: a fault of the provider, an error code, counts without a price, a price. -/
inductive BilledAs (t : TokenCounts) (source : UsageSource) (flag : FaultFlag) (e : RateCardEntry)
    (ppm bps : ℤ) (row : BilledRow) : Prop
  | breaker (hflag : flag = .breakerQualifying)
      (hrow : row = startRow t source flag e ppm bps)
  | refused (hflag : flag ≠ .breakerQualifying) (hsource : source = .nullError)
      (hrow : row = { startRow t source flag e ppm bps with faultFlag := .nullUsageError })
  | unpayable (hflag : flag ≠ .breakerQualifying) (hsource : source ≠ .nullError)
      (hpay : ¬ Payable t source e ppm bps)
      (hrow : row = nullUsage (startRow t source flag e ppm bps))
  | priced (hflag : flag ≠ .breakerQualifying) (hsource : source ≠ .nullError)
      (hpay : Payable t source e ppm bps) (source' : UsageSource)
      (hsource' : t.estimatedCompTokens = none ∨ source = .byteEstimated → source' = source)
      (hnull : source' ≠ .nullError)
      (gross : ℤ) (hgross : gross = price (t.promptTokens.getD 0) (t.cachedPromptTokens.getD 0)
        (billedCompletion source t) e ppm)
      (hrow : row =
        { startRow t source flag e ppm bps with
          grossCredits := gross
          providerCredits := providerPart gross bps
          operatorCredits := gross - providerPart gross bps
          usageSource := source' })

theorem billedCompletion_neg
    (h : billableCompletion source t.completionTokens t.estimatedCompTokens = none) :
    billedCompletion source t < 0 := by
  obtain ⟨_, _, comp, estimated⟩ := t
  unfold billableCompletion at h
  unfold billedCompletion
  cases comp <;> cases estimated <;> dsimp only at h ⊢ <;> split_ifs at h ⊢ <;> omega

theorem nullUsage_withSource (row : BilledRow) (clamped : Bool) :
    nullUsage (row.withSource clamped) = nullUsage row := by
  unfold BilledRow.withSource
  split_ifs <;> rfl

theorem billedAs (t : TokenCounts) (source : UsageSource) (flag : FaultFlag) (e : RateCardEntry)
    (ppm bps : ℤ) :
    BilledAs t source flag e ppm bps (computeCreditsWithCache t source flag e ppm bps) := by
  unfold computeCreditsWithCache computeM
  dsimp only
  split
  · next h => exact .breaker h rfl
  next hflag =>
  split
  · next h => exact .refused hflag h rfl
  next hsource =>
  cases hk : billableCompletion (startRow t source flag e ppm
    bps).usageSource t.completionTokens t.estimatedCompTokens with
  | none =>
    have hneg := billedCompletion_neg hk
    exact .unpayable hflag hsource
      (fun h => absurd h.valid.completion_nonneg (not_le.mpr hneg)) rfl
  | some k =>
    obtain ⟨comp, clamped⟩ := k
    obtain ⟨rfl, hclamped⟩ : comp = billedCompletion source t ∧ _ := billableCompletion_eq hk
    dsimp only
    by_cases hpay : Payable t source e ppm bps
    · rw [validCounts_iff.mp hpay.valid, if_neg Bool.false_ne_true,
        pricedM_eq exact_wrap64 hpay.valid, if_pos hpay.fits]
      refine .priced hflag hsource hpay
        ((startRow t source flag e ppm bps).withSource clamped).usageSource
        ?_ ?_ _ rfl ?_
      · intro hor
        rcases hor with he | he
        · rw [hclamped he]
          cases source with
          | nullError => exact absurd rfl hsource
          | providerReported => rfl
          | byteEstimated => rfl
        · subst he
          rfl
      · unfold BilledRow.withSource
        split_ifs with h1
        · rw [h1]
          exact UsageSource.noConfusion
        · exact UsageSource.noConfusion
        · exact UsageSource.noConfusion
      · unfold BilledRow.withSource
        split_ifs <;> rfl
    · refine .unpayable hflag hsource hpay ?_
      split
      · exact nullUsage_withSource _ _
      · next hv =>
        have hv := validCounts_iff.mpr ((Bool.not_eq_true _).mp hv)
        rw [pricedM_eq exact_wrap64 hv, if_neg fun hfits => hpay ⟨hv, hfits⟩]
        exact nullUsage_withSource _ _

/-- **What is paid for counts**: nothing if they cannot be priced. -/
def payment (e : RateCardEntry) (ppm bps prompt cached completion : ℤ) : ℤ :=
  if ValidCounts prompt cached completion ∧ Fits prompt cached completion e ppm bps then
    price prompt cached completion e ppm
  else 0

theorem payment_nonneg (e : RateCardEntry) (ppm bps prompt cached comp : ℤ) :
    0 ≤ payment e ppm bps prompt cached comp := by
  unfold payment
  split_ifs with h
  · have hbase := base_nonneg h.1 h.2.promptRate h.2.cacheRate h.2.completionRate
    have hm := h.2.multiplier
    exact halfEven_nonneg (by positivity)
  · exact le_rfl

theorem providerPart_zero (bps : ℤ) : providerPart 0 bps = 0 := by simp [providerPart]

theorem providerPart_mono {gross gross' bps : ℤ} (h : gross ≤ gross') (hb : 0 ≤ bps) :
    providerPart gross bps ≤ providerPart gross' bps := by
  have hmul : gross * bps ≤ gross' * bps := mul_le_mul_of_nonneg_right h hb
  refine halfEven_mono (div_le_div_of_nonneg_right ?_ (by norm_num))
  exact_mod_cast hmul

section
variable (h : BilledAs t source flag e ppm bps row)
include h

theorem BilledAs.rates :
    row.promptRatePerMtok = e.promptCreditsPerMtok ∧
      row.completionRatePerMtok = e.completionCreditsPerMtok ∧
      row.globalMultiplierPPM = ppm ∧ row.providerShareBps = bps := by
  cases h <;> subst_vars <;> exact ⟨rfl, rfl, rfl, rfl⟩

theorem BilledAs.parts :
    row.providerCredits = providerPart row.grossCredits bps ∧
      row.operatorCredits = row.grossCredits - row.providerCredits := by
  cases h <;> subst_vars <;> exact ⟨by first | rfl | exact (providerPart_zero _).symm, rfl⟩

/-- **The gross amount of a row** is the payment for its counts. -/
theorem BilledAs.gross_eq :
    row.grossCredits = if flag = .breakerQualifying ∨ source = .nullError then 0
      else payment e ppm bps (t.promptTokens.getD 0)
        (t.cachedPromptTokens.getD 0) (billedCompletion source t) := by
  cases h with
  | breaker hflag hrow => rw [if_pos (Or.inl hflag), hrow]; rfl
  | refused hflag hsource hrow => rw [if_pos (Or.inr hsource), hrow]; rfl
  | unpayable hflag hsource hpay hrow =>
    rw [if_neg (not_or.mpr ⟨hflag, hsource⟩), payment,
      if_neg (fun h => hpay ⟨h.1, h.2⟩), hrow]
    rfl
  | priced hflag hsource hpay source' hsource' hnull gross hgross hrow =>
    rw [if_neg (not_or.mpr ⟨hflag, hsource⟩), payment, if_pos ⟨hpay.valid, hpay.fits⟩, hrow]
    exact hgross

theorem BilledAs.gross_of_ne_zero
    (hne : row.grossCredits ≠ 0) : row.grossCredits = price (t.promptTokens.getD 0)
      (t.cachedPromptTokens.getD 0) (billedCompletion source t) e ppm := by
  have hgross := h.gross_eq
  unfold payment at hgross
  split_ifs at hgross
  · exact absurd hgross hne
  · exact hgross
  · exact absurd hgross hne

theorem BilledAs.gross_nonneg : 0 ≤ row.grossCredits := by
  rw [h.gross_eq]
  split_ifs
  · exact le_rfl
  · exact payment_nonneg ..

theorem BilledAs.tokens_eq : row.tokens = t ∨ row.tokens = .null := by
  cases h <;> subst_vars <;> first | exact Or.inl rfl | exact Or.inr rfl

theorem BilledAs.gross_of_nullError
    (hnull : row.usageSource = .nullError) : row.grossCredits = 0 := by
  cases h with
  | breaker hflag hrow => subst hrow; rfl
  | refused hflag hsource hrow => subst hrow; rfl
  | unpayable hflag hsource hpay hrow => subst hrow; rfl
  | priced hflag hsource hpay source' hsource' hn gross hgross hrow =>
    subst hrow
    exact absurd hnull hn

theorem BilledAs.provider_bounds
    (hshare : 0 ≤ bps) (hshare' : bps ≤ providerShareDenom) :
    0 ≤ row.providerCredits ∧ 0 ≤ row.operatorCredits := by
  have hgross := h.gross_nonneg
  obtain ⟨hprovider, hoperator⟩ := h.parts
  have h1 := providerPart_nonneg hgross hshare
  have h2 := providerPart_le hgross hshare'
  omega

end

end BilledAs

/-! ### More tokens -/

/-- Both are missing, or there and in order. -/
def CountLE : Option ℤ → Option ℤ → Prop
  | none, none => True
  | some a, some b => a ≤ b
  | _, _ => False

/-- More tokens, as many cached. -/
structure MoreTokens (t t' : TokenCounts) : Prop where
  prompt : t.promptTokens.getD 0 ≤ t'.promptTokens.getD 0
  cached : t.cachedPromptTokens.getD 0 = t'.cachedPromptTokens.getD 0
  completion : CountLE t.completionTokens t'.completionTokens
  estimated : CountLE t.estimatedCompTokens t'.estimatedCompTokens

/-- The same counts, more of them cached. -/
structure MoreCached (t t' : TokenCounts) : Prop where
  prompt : t.promptTokens.getD 0 = t'.promptTokens.getD 0
  cached : t.cachedPromptTokens.getD 0 ≤ t'.cachedPromptTokens.getD 0
  completion : t.completionTokens = t'.completionTokens
  estimated : t.estimatedCompTokens = t'.estimatedCompTokens

theorem billedCompletion_mono {usageSource : UsageSource} {t t' : TokenCounts}
    (hk : CountLE t.completionTokens t'.completionTokens)
    (he : CountLE t.estimatedCompTokens t'.estimatedCompTokens) :
    billedCompletion usageSource t ≤ billedCompletion usageSource t' := by
  obtain ⟨_, _, comp, estimated⟩ := t
  obtain ⟨_, _, completion', estimated'⟩ := t'
  unfold billedCompletion
  cases comp <;> cases completion' <;> cases estimated <;> cases estimated' <;>
    simp only [CountLE] at hk he ⊢
  all_goals first | contradiction | (split_ifs <;> omega) | omega

theorem price_mono {p c k p' c' k' ppm : ℤ} {e : RateCardEntry}
    (hm : 0 ≤ ppm) (h : base p c k e ≤ base p' c' k' e) :
    price p c k e ppm ≤ price p' c' k' e ppm := by
  have hscaled : base p c k e * ppm ≤ base p' c' k' e * ppm :=
    mul_le_mul_of_nonneg_right h hm
  refine halfEven_mono (div_le_div_of_nonneg_right ?_ (by norm_num))
  exact_mod_cast hscaled

section Monotone
variable {t t' : TokenCounts} {source : UsageSource} {flag : FaultFlag} {e : RateCardEntry}
  {ppm bps : ℤ} {row row' : BilledRow}

section
variable (h : BilledAs t source flag e ppm bps row)
include h

theorem BilledAs.of_flag
    (hflag : row.faultFlag = .none) : Payable t source e ppm bps ∧
      row.grossCredits = price (t.promptTokens.getD 0) (t.cachedPromptTokens.getD 0)
        (billedCompletion source t) e ppm := by
  cases h with
  | breaker hbreaker hrow =>
    subst hrow
    exact absurd (hbreaker.symm.trans hflag) FaultFlag.noConfusion
  | refused _ _ hrow | unpayable _ _ _ hrow =>
    subst hrow
    cases hflag
  | priced _ _ hpay source' _ _ gross hgross hrow =>
    subst hrow
    exact ⟨hpay, hgross⟩

theorem BilledAs.gross_mono
    (h' : BilledAs t' source flag e ppm bps row')
    (hflag : row.faultFlag = .none) (hflag' : row'.faultFlag = .none) (hmore : MoreTokens t t') :
    row.grossCredits ≤ row'.grossCredits := by
  obtain ⟨⟨-, hfits⟩, hgross⟩ := h.of_flag hflag
  rw [hgross, (h'.of_flag hflag').2]
  refine price_mono hfits.multiplier ?_
  have hprompt := mul_le_mul_of_nonneg_right
    (sub_le_sub_right hmore.prompt (t'.cachedPromptTokens.getD 0)) hfits.promptRate
  have hcompletion := mul_le_mul_of_nonneg_right
    (@billedCompletion_mono source _ _ hmore.completion hmore.estimated) hfits.completionRate
  unfold base
  rw [hmore.cached]
  omega

theorem BilledAs.gross_cached
    (h' : BilledAs t' source flag e ppm bps row')
    (hflag : row.faultFlag = .none) (hflag' : row'.faultFlag = .none) (hmore : MoreCached t t') :
    (e.effectivePromptCacheHitCreditsPerMtok ≤ e.promptCreditsPerMtok →
        row'.grossCredits ≤ row.grossCredits) ∧
      (e.promptCreditsPerMtok ≤ e.effectivePromptCacheHitCreditsPerMtok →
        row.grossCredits ≤ row'.grossCredits) := by
  have hsame : billedCompletion source t = billedCompletion source t' := by
    unfold billedCompletion
    rw [hmore.completion, hmore.estimated]
  have hc := hmore.cached
  obtain ⟨⟨-, hfits⟩, hgross⟩ := h.of_flag hflag
  rw [hgross, (h'.of_flag hflag').2, hsame, hmore.prompt]
  constructor <;> intro hrate <;> refine price_mono hfits.multiplier ?_ <;> unfold base <;>
    nlinarith [mul_le_mul_of_nonneg_left hrate (sub_nonneg.mpr hc)]

end

end Monotone

/-- **The credit formula is exact**: a row without credits, or the exact amounts rounded half to
even; gross is the sum of the parts, and nothing leaves `int64`. Without a fault gross grows with
all counts but the cached ones, where the rates decide. -/
theorem credit_formula_is_exact (t : TokenCounts) (usageSource : Option UsageSource)
    (faultFlag : Option FaultFlag) (e : RateCardEntry) (ppm bps : ℤ) (hshare : 0 ≤ bps)
    (hshare' : bps ≤ providerShareDenom) (row : BilledRow)
    (hrow : row = computeCreditsWithCache t usageSource faultFlag e ppm bps) :
    ((row.grossCredits = 0 ∧ row.providerCredits = 0 ∧ row.operatorCredits = 0) ∨
      (row.grossCredits = price (t.promptTokens.getD 0) (t.cachedPromptTokens.getD 0)
          (billedCompletion (usageSource.getD .providerReported) t) e ppm ∧
        row.providerCredits = providerPart row.grossCredits bps)) ∧
    row.grossCredits = row.providerCredits + row.operatorCredits ∧
    0 ≤ row.providerCredits ∧ row.providerCredits ≤ row.grossCredits ∧
    computeM trap t usageSource faultFlag e ppm bps = some row ∧
    (∀ t' row', row' = computeCreditsWithCache t' usageSource faultFlag e ppm bps →
      row.faultFlag = .none → row'.faultFlag = .none →
      (MoreTokens t t' → row.grossCredits ≤ row'.grossCredits) ∧
      (MoreCached t t' →
        (e.effectivePromptCacheHitCreditsPerMtok ≤ e.promptCreditsPerMtok →
          row'.grossCredits ≤ row.grossCredits) ∧
        (e.promptCreditsPerMtok ≤ e.effectivePromptCacheHitCreditsPerMtok →
          row.grossCredits ≤ row'.grossCredits))) := by
  have htrap : computeM trap t usageSource faultFlag e ppm bps = some row :=
    hrow ▸ computeM_exact exact_trap
  -- a missing source or flag is the default one
  have hbilled : ∀ t' row', row' = computeCreditsWithCache t' usageSource faultFlag e ppm bps →
      BilledAs t' (usageSource.getD .providerReported) (faultFlag.getD .none) e ppm bps row' :=
    fun _ _ hrow' => hrow' ▸ billedAs ..
  have h := hbilled t row hrow
  have hbounds := h.provider_bounds hshare hshare'
  obtain ⟨hprovider, hoperator⟩ := h.parts
  refine ⟨?_, by omega, hbounds.1, by omega, htrap, fun t' row' hrow' hf hf' =>
    ⟨h.gross_mono (hbilled t' row' hrow') hf hf', h.gross_cached (hbilled t' row' hrow') hf hf'⟩⟩
  by_cases hpriced : row.grossCredits = price (t.promptTokens.getD 0)
      (t.cachedPromptTokens.getD 0) (billedCompletion (usageSource.getD .providerReported) t) e ppm
  · exact Or.inr ⟨hpriced, hprovider⟩
  · have hzero : row.grossCredits = 0 := by
      by_contra hne
      exact hpriced (h.gross_of_ne_zero hne)
    rw [hzero, providerPart_zero] at hprovider
    exact Or.inl ⟨hzero, hprovider, by omega⟩

def demoRates : RateCardEntry := ⟨1000, 100, 4000, true⟩

def demoCounts : TokenCounts := ⟨some 1500000, some 500000, some 700000, some 600500⟩

theorem credit_formula_is_exact_demo :
    computeCreditsWithCache demoCounts none none demoRates 1000000 8500 =
      { grossCredits := 3452, providerCredits := 2934, operatorCredits := 518
        usageSource := .byteEstimated, faultFlag := .none, tokens := demoCounts
        promptRatePerMtok := 1000, promptCacheHitRatePerMtok := 100
        completionRatePerMtok := 4000, globalMultiplierPPM := 1000000, providerShareBps := 8500 } ∧
      computeM trap demoCounts none none demoRates 1000000 8500 =
        some (computeCreditsWithCache demoCounts none none demoRates 1000000 8500) :=
  ⟨by decide +kernel, (credit_formula_is_exact demoCounts none none demoRates 1000000 8500
    (by decide) (by decide) _ rfl).2.2.2.2.1⟩

theorem more_cached_tokens_lower_the_gross :
    (computeCreditsWithCache ⟨some 1000000, some 0, some 0, none⟩ none none demoRates
        1000000 8500).faultFlag = .none ∧
      (computeCreditsWithCache ⟨some 1000000, some 1000000, some 0, none⟩ none none demoRates
        1000000 8500).faultFlag = .none ∧
      (computeCreditsWithCache ⟨some 1000000, some 0, some 0, none⟩ none none demoRates
        1000000 8500).grossCredits = 1000 ∧
      (computeCreditsWithCache ⟨some 1000000, some 1000000, some 0, none⟩ none none demoRates
        1000000 8500).grossCredits = 100 := by
  decide +kernel

end MacProvider.Coordinator.Billing.Formula
