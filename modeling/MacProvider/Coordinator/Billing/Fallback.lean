import MacProvider.Coordinator.Billing.Confirmation
import MacProvider.Coordinator.Billing.Receipts

/-! # The fallback of the hot path

If the hot path fails, the attempt is logged with its identity, and recovery credits it later
(`recoverRow_fresh`). The log has lost the fault flag, and it numbers the attempt by itself. -/

namespace MacProvider.Coordinator.Billing.Fallback

open Lib.Tables Billing.Schema Billing.Formula Billing.HotPath Billing.Recording Billing.Recovery
open Billing.Confirmation

/-! ### Other attempts -/

section Aside
variable {env : Env} {q q' : String} {n n' : ℕ} {b b' b'' : Books}

/-- No receipt for the attempt is verified. -/
def NoReceipt (q : String) (n : ℕ) (b : Books) : Prop :=
  ∀ v ∈ b.verdicts.rows, v.requestID = q → v.attemptN = n → v.outcome ≠ .verified

/-- Only other attempts were written. -/
structure Aside (q : String) (n : ℕ) (b b' : Books) : Prop where
  identities : b'.identities = b.identities
  credits : attemptCredits b' q n = attemptCredits b q n
  verdicts : NoReceipt q n b → NoReceipt q n b'

theorem Aside.refl (q : String) (n : ℕ) (b : Books) : Aside q n b b := ⟨rfl, rfl, id⟩

theorem Aside.trans (h : Aside q n b b') (h' : Aside q n b' b'') : Aside q n b b'' :=
  ⟨h'.identities.trans h.identities, h'.credits.trans h.credits, fun hv =>
    h'.verdicts (h.verdicts hv)⟩

theorem NoReceipt.close (h : NoReceipt q n b) {c : CreditRow} {reason : String}
    (hv : b'.verdicts = closeVerdict c reason b.verdicts) : NoReceipt q n b' := by
  intro v hmem hq hn
  rw [hv] at hmem
  obtain ⟨v₀, hv₀, rfl⟩ := Table.mem_update.mp hmem
  split_ifs at hq hn ⊢
  · exact SettlementOutcome.noConfusion
  · exact h v₀ hv₀ hq hn

theorem aside_of_touches (h : Touches q' n' b b') (hne : (q, n) ≠ (q', n')) : Aside q n b b' := by
  refine ⟨h.identities, h.others q n hne, fun hv => ?_⟩
  rcases h.verdicts with hsame | ⟨c, reason, -, -, hclose⟩
  · intro v hmem
    rw [hsame] at hmem
    exact hv v hmem
  · exact hv.close hclose

/-- **The rows of other attempts leave it alone.** -/
theorem foldlM_aside {rows : List LogRow} (hrows : ∀ x ∈ rows, (q, n) ≠ (x.requestID, x.attemptN))
    (h : rows.foldlM (recoverRow env) b = .ok b') : Aside q n b b' := by
  induction rows generalizing b with
  | nil =>
    obtain rfl : b = b' := Except.ok.inj h
    exact Aside.refl q n b
  | cons x rows ih =>
    obtain ⟨b₁, h1, h2⟩ := bind_ok h
    have hx : Aside q n b b₁ :=
      aside_of_touches (recoverRow_touches h1) (hrows x List.mem_cons_self)
    exact hx.trans (ih (fun y hy => hrows y (List.mem_cons_of_mem x hy)) h2)

theorem quarantineOrphans_aside (w : Window) (hnone : attemptCredits b q n = []) :
    Aside q n b (quarantineOrphans w b) := by
  refine ⟨rfl, ?_, id⟩
  rw [hnone]
  have hall := List.filter_eq_nil_iff.mp hnone
  refine List.filter_eq_nil_iff.mpr fun c hc => ?_
  obtain ⟨c₀, hc₀, rfl⟩ := List.mem_map.mp hc
  have hother := hall c₀ hc₀
  split_ifs
  · exact hother
  · exact hother

end Aside

/-! ### A row of the log without a credit -/

/-- The constraints of the table on the counts. -/
def CountsChecked (t : TokenCounts) : Prop :=
  NonnegOrNull t.promptTokens ∧ NonnegOrNull t.cachedPromptTokens ∧
    (∀ k ∈ t.cachedPromptTokens, ∀ p ∈ t.promptTokens, k ≤ p) ∧
    NonnegOrNull t.completionTokens ∧ NonnegOrNull t.estimatedCompTokens

theorem countsChecked_null : CountsChecked .null :=
  ⟨fun _ h => (by cases h), fun _ h => (by cases h), fun _ h => (by cases h),
    fun _ h => (by cases h), fun _ h => (by cases h)⟩

section Fresh
variable {env : Env} {b : Books} {x : LogRow} {t : TokenCounts} {reason pid : String}

theorem countsChecked_of_valid (h : invalidReason t = none) : CountsChecked t := by
  obtain ⟨prompt, cached, completion, estimate⟩ := t
  unfold invalidReason at h
  split_ifs at h with h1 h2
  simp only [Bool.or_eq_true, not_or, Bool.not_eq_true] at h1 h2
  obtain ⟨⟨hp, he⟩, hk⟩ := h1
  have hcount : ∀ v : Option ℤ, v.any invalidBillableTokenCount = false → NonnegOrNull v := by
    intro v hv y hy
    cases hy
    simp only [Option.any_some, invalidBillableTokenCount, Bool.or_eq_false_iff,
      decide_eq_false_iff_not] at hv
    omega
  have hcached : NonnegOrNull cached ∧ ∀ k ∈ cached, ∀ p ∈ prompt, k ≤ p := by
    rcases cached with _ | k
    · exact ⟨fun _ h => (by cases h), fun _ h => (by cases h)⟩
    simp only [invalidRecoveryCached] at h2
    by_cases hbad : invalidBillableTokenCount k = true
    · rw [if_pos hbad] at h2
      cases h2
    rw [if_neg hbad] at h2
    simp only [invalidBillableTokenCount, Bool.or_eq_true, decide_eq_true_eq] at hbad
    refine ⟨fun y hy => by cases hy; omega, fun y hy p hp' => ?_⟩
    cases hy
    cases hp'
    have hp0 : 0 ≤ p := hcount (some p) hp p rfl
    simp only [Bool.and_eq_false_iff, decide_eq_false_iff_not] at h2
    omega
  have hcompletion : NonnegOrNull completion := by
    rintro y rfl
    simp only [invalidRecoveryCompletion] at hk
    split_ifs at hk with hneg
    · omega
    · omega
  exact ⟨hcount prompt hp, hcached.1, hcached.2, hcompletion, hcount estimate he⟩

section
variable (h : attemptCredits b x.requestID x.attemptN = [])
include h

theorem ofAttempt_fresh : b.credits.rows.any (ofAttempt b x) = false := by
  have hall := List.filter_eq_nil_iff.mp h
  refine List.any_eq_false.mpr fun c hc hof => ?_
  unfold ofAttempt at hof
  simp only [Bool.and_eq_true, decide_eq_true_eq] at hof
  exact hall c hc (by simpa using hof.1)

theorem creditOf_fresh (pid : String) : b.creditOf x.requestID x.attemptN pid = none := by
  rcases hc : b.creditOf x.requestID x.attemptN pid with _ | c
  · rfl
  · obtain ⟨hmem, hq, hn, -⟩ := creditOf_some hc
    exact absurd (List.filter_eq_nil_iff.mp h c hmem) (by simp [hq, hn])

theorem attemptCredits_insert {row : ℕ → CreditRow} {hrow : ∀ id, (row id).id = id} {b' : Books}
    (hkey : ∀ id, (row id).requestID = x.requestID ∧ (row id).attemptN = x.attemptN)
    (hinsert : insertCredit row hrow b = .ok b') :
    attemptCredits b' x.requestID x.attemptN = [row b.nextCreditID] := by
  obtain ⟨-, -, rfl⟩ := insertCredit_ok hinsert
  unfold attemptCredits at h ⊢
  dsimp only [Books.appended]
  rw [List.filter_append, h]
  simp [hkey]

end

theorem quarantineRow_checks (ht : t = .null ∨ invalidReason t = none) (id : ℕ) :
    (quarantineRow x pid t reason id).Checks := by
  obtain ⟨hp, -, -, hk, he⟩ : CountsChecked t := by
    rcases ht with rfl | ht
    · exact countsChecked_null
    · exact countsChecked_of_valid ht
  have hshare : (0 : ℤ) ≤ providerShareDenom := by decide
  exact ⟨hp, fun _ h => (by cases h), fun _ h => (by cases h), fun _ h => (by cases h), hk, he,
    le_rfl, le_rfl, le_rfl, ⟨le_rfl, hshare⟩, le_rfl, le_rfl,
    fun _ => rfl, fun _ h => (by cases h)⟩

theorem insertQuarantine_fresh (h : attemptCredits b x.requestID x.attemptN = [])
    (ht : t = .null ∨ invalidReason t = none) :
    attemptCredits (insertQuarantine x pid t reason b) x.requestID x.attemptN =
      [quarantineRow x pid t reason b.nextCreditID] := by
  obtain ⟨b', hok⟩ : ∃ b', insertCredit (quarantineRow x pid t reason)
      (quarantineRow_id x pid t reason) b = .ok b' :=
    ⟨_, if_pos ⟨creditOf_fresh h pid, quarantineRow_checks ht _⟩⟩
  unfold insertQuarantine
  rw [hok]
  exact attemptCredits_insert h (fun _ => ⟨rfl, rfl⟩) hok

theorem quarantineAttempt_fresh (h : attemptCredits b x.requestID x.attemptN = [])
    (ht : t = .null ∨ invalidReason t = none) :
    attemptCredits (quarantineAttempt x pid t reason b) x.requestID x.attemptN =
      [quarantineRow x pid t reason b.nextCreditID] := by
  unfold quarantineAttempt
  rw [if_neg (by rw [ofAttempt_fresh h]; exact Bool.false_ne_true)]
  exact insertQuarantine_fresh h ht

/-- Recovery quarantines the row. -/
def Quarantines (env : Env) (b : Books) (x : LogRow) : Prop :=
  invalidReason x.tokens ≠ none ∨
    match b.identities.find? (x.requestID, x.attemptN, x.providerAssignedID) with
    | none => True
    | some d => x.cacheQuarantineReason ≠ "" ∨ recoveryConfig env x d = none ∨
      ambiguousAttempt x = true

theorem recoverRow_quarantines (h : attemptCredits b x.requestID x.attemptN = [])
    (hheld : Quarantines env b x) :
    ∃ b' pid t reason, recoverRow env b x = .ok b' ∧
      attemptCredits b' x.requestID x.attemptN =
        [quarantineRow x pid t reason b.nextCreditID] ∧
      t.estimatedCompTokens =
        if invalidReason x.tokens ≠ none then none else x.tokens.estimatedCompTokens := by
  unfold recoverRow
  unfold Quarantines at hheld
  rcases hinvalid : invalidReason x.tokens with _ | reason
  swap
  · exact ⟨_, _, _, _, rfl, quarantineAttempt_fresh h (Or.inl rfl), (if_pos (by simp)).symm⟩
  have htokens : x.tokens.estimatedCompTokens =
      if (none : Option String) ≠ none then none else x.tokens.estimatedCompTokens :=
    (if_neg (by simp)).symm
  rw [hinvalid] at hheld
  rcases hd : b.identities.find? (x.requestID, x.attemptN, x.providerAssignedID) with _ | d
  · exact ⟨_, _, _, _, rfl, insertQuarantine_fresh h (Or.inr hinvalid), htokens⟩
  rw [hd] at hheld
  dsimp only at hheld ⊢
  by_cases hreason : x.cacheQuarantineReason = ""
  swap
  · rw [if_pos hreason]
    exact ⟨_, _, _, _, rfl, quarantineAttempt_fresh h (Or.inr hinvalid), htokens⟩
  rw [if_neg (not_not.mpr hreason)]
  rcases hcfg : recoveryConfig env x d with _ | cfg
  · exact ⟨_, _, _, _, rfl, quarantineAttempt_fresh h (Or.inr hinvalid), htokens⟩
  have hamb : ambiguousAttempt x = true := by
    rcases hheld with hheld | hheld | hheld | hheld
    · exact absurd rfl hheld
    · exact absurd hreason hheld
    · rw [hcfg] at hheld
      cases hheld
    · exact hheld
  rw [creditOf_fresh h, hamb]
  exact ⟨_, _, _, _, rfl, insertQuarantine_fresh h (Or.inr hinvalid), htokens⟩

theorem verifiedOutput_none {c : CreditRow} (h : NoReceipt c.requestID c.attemptN b) :
    b.verifiedOutput c = none := by
  unfold Books.verifiedOutput
  split
  · refine List.findSome?_eq_none_iff.mpr fun v hv => if_neg ?_
    rintro ⟨-, hq, hn, -, -, -, -, hverified⟩
    exact h v hv hq hn hverified
  · rfl

theorem sync_none {q : String} {n : ℕ} (h : NoReceipt q n b) :
    syncVerifiedReceiptLedgerCreditForAttempt env q n pid b = .ok b := by
  unfold syncVerifiedReceiptLedgerCreditForAttempt
  split
  · rfl
  · next c hc =>
    obtain ⟨-, hq, hn, -⟩ := creditOf_some hc
    split
    · rfl
    · rw [verifiedOutput_none (hq.symm ▸ hn.symm ▸ h)]

theorem recoverRow_credits {d : Identity} {cfg : Config}
    (h : attemptCredits b x.requestID x.attemptN = [])
    (hreceipt : NoReceipt x.requestID x.attemptN b) (hvalid : invalidReason x.tokens = none)
    (hd : b.identities.find? (x.requestID, x.attemptN, x.providerAssignedID) = some d)
    (hreason : x.cacheQuarantineReason = "") (hcfg : recoveryConfig env x d = some cfg)
    (hamb : ambiguousAttempt x = false)
    (hchecks : ∀ id, (creditRow (recoveryInput env x d cfg b)
      (recoveredBill x (recoveryInput env x d cfg b)) id).Checks) :
    ∃ b', recoverRow env b x = .ok b' ∧ attemptCredits b' x.requestID x.attemptN =
      [creditRow (recoveryInput env x d cfg b) (recoveredBill x (recoveryInput env x d cfg b))
        b.nextCreditID] := by
  set i := recoveryInput env x d cfg b with hi
  obtain ⟨b₁, hinsert⟩ : ∃ b₁, insertCredit (creditRow i (recoveredBill x i))
      (creditRow_id i (recoveredBill x i)) b = .ok b₁ :=
    ⟨_, if_pos ⟨creditOf_fresh h d.providerID, hchecks _⟩⟩
  have hverdicts : b₁.verdicts = b.verdicts := by
    obtain ⟨-, -, rfl⟩ := insertCredit_ok hinsert
    rfl
  have hreceipt' : NoReceipt x.requestID x.attemptN b₁ := by
    intro v hv
    rw [hverdicts] at hv
    exact hreceipt v hv
  refine ⟨b₁, ?_, attemptCredits_insert h (fun _ => ⟨rfl, rfl⟩) hinsert⟩
  unfold recoverRow
  rw [hvalid]
  rw [hd]
  dsimp only
  rw [if_neg (not_not.mpr hreason), hcfg]
  dsimp only
  rw [creditOf_fresh h, hamb, if_neg Bool.false_ne_true]
  rw [hinsert]
  exact sync_none hreceipt'

end Fresh

/-! ### The columns of a credit -/

/-- What a credit pays, and why. -/
structure Columns where
  quarantined : Bool
  grossCredits : ℤ
  providerCredits : ℤ
  operatorCredits : Option ℤ
  usageSource : UsageSource
  faultFlag : FaultFlag
deriving DecidableEq

/-- The columns of a row. -/
def columnsOf (c : CreditRow) : Columns :=
  ⟨c.quarantined, c.grossCredits, c.providerCredits, c.operatorCredits, c.usageSource, c.faultFlag⟩

/-- The columns of an attempt that is held. -/
def heldColumns (usage : UsageSource) (flag : FaultFlag) : Columns :=
  ⟨true, 0, 0, none, usage, flag⟩

/-- The columns of a bill. -/
def billedColumns (row : BilledRow) : Columns :=
  ⟨false, row.grossCredits, row.providerCredits, some row.operatorCredits, row.usageSource,
    row.faultFlag⟩

section Attempt
variable (env : Env) (s : Server) (r : BillingRecorder) (a : Attempt) (n : ℕ)

/-- The attempt in the log. -/
def loggedAs : LogRow := ⟨storedRow env s r a, n⟩

/-- Recovery holds the attempt. -/
def HeldByRecovery : Prop :=
  invalidReason (storedRow env s r a).tokens ≠ none ∨ r.attemptN ≠ n ∨
    (storedRow env s r a).cacheQuarantineReason ≠ "" ∨ (n = 1 ∧ a.retried = 0)

instance : Decidable (HeldByRecovery env s r a n) := by unfold HeldByRecovery; infer_instance

/-- The formula under its configuration. -/
def billOf (t : TokenCounts) (flag : FaultFlag) : BilledRow :=
  computeCreditsWithCache t (some (usageFor a.errorCode a.tokens.estimatedCompTokens)) (some flag)
    (s.config.rateFor r.model) s.config.multiplierPPM s.config.providerShareBps

/-- Its source; invalid counts are not looked at. -/
def quarantinedUsage : UsageSource :=
  if invalidReason (storedRow env s r a).tokens ≠ none then usageFor a.errorCode none
  else usageFor a.errorCode a.tokens.estimatedCompTokens

/-- What recovery writes for the attempt. -/
def recoveredColumns : Columns :=
  if HeldByRecovery env s r a n then
    heldColumns (quarantinedUsage env s r a)
      (if quarantinedUsage env s r a = .nullError then .nullUsageError else .none)
  else billedColumns (billOf s r a (recoveredTokens env s r a n) .none)

/-- The configuration of the server is stored. -/
structure Snapshot : Prop where
  positive : 0 < s.configSnapshotID
  stored : env.configByID s.configSnapshotID = some s.config

end Attempt

section Recovered
variable {env : Env} {s : Server} {r : BillingRecorder} {a : Attempt} {n : ℕ} {b b₀ b₁ : Books}

theorem storedRow_counts :
    (storedRow env s r a).tokens.completionTokens = a.tokens.completionTokens ∧
      (storedRow env s r a).tokens.estimatedCompTokens = a.tokens.estimatedCompTokens ∧
      (storedRow env s r a).tokens.promptTokens = (billedInput env s r a).tokens.promptTokens := by
  change _ ∧ _ ∧ _ = boundedPrompt r.promptTokenUpperBound a.tokens.promptTokens
  unfold storedRow loggedRow requestLogRowWithBoundedPrompt boundedPrompt logRowOf hotPathInputOf
  dsimp only
  rcases a.tokens.promptTokens with _ | p <;> rcases r.promptTokenUpperBound with _ | bound
  · exact ⟨rfl, rfl, rfl⟩
  · exact ⟨rfl, rfl, rfl⟩
  · exact ⟨rfl, rfl, rfl⟩
  · dsimp only
    split_ifs <;> first | exact ⟨rfl, rfl, rfl⟩ | omega

theorem rates_of_checks (h : (hotPathRow env s r a b₀).Checks) :
    0 ≤ (s.config.rateFor r.model).promptCreditsPerMtok ∧
      0 ≤ (s.config.rateFor r.model).completionCreditsPerMtok ∧ 0 ≤ s.config.multiplierPPM ∧
      0 ≤ s.config.providerShareBps ∧ s.config.providerShareBps ≤ providerShareDenom := by
  have hrates : (hotPathRow env s r a b₀).promptRatePerMtok =
        (s.config.rateFor r.model).promptCreditsPerMtok ∧
      (hotPathRow env s r a b₀).completionRatePerMtok =
        (s.config.rateFor r.model).completionCreditsPerMtok ∧
      (hotPathRow env s r a b₀).globalMultiplierPPM = s.config.multiplierPPM ∧
      (hotPathRow env s r a b₀).providerShareBps = s.config.providerShareBps := by
    unfold hotPathRow creditRow attemptBill
    rcases bill_cases (billedInput env s r a) a.retried
      (b₀.requestCount (accountOf r) r.requestID + 1) with ⟨-, reason, hbill⟩ | ⟨-, hbill⟩
    · obtain ⟨-, -, -, -, h1, h2, h3, h4⟩ := zeroCredits_eq ((billedInput env s r a).credits none)
      rw [hbill]
      rw [h1, h2, h3, h4]
      exact (billedAs_credits _ none).rates
    · rw [hbill]
      exact (billedAs_credits _ _).rates
  have h1 := h.promptRate
  have h2 := h.completionRate
  have h3 := h.multiplier
  have h4 := h.share
  rw [hrates.1] at h1
  rw [hrates.2.1] at h2
  rw [hrates.2.2.1] at h3
  rw [hrates.2.2.2] at h4
  exact ⟨h1, h2, h3, h4.1, h4.2⟩

theorem countsChecked_recovered (h : invalidReason (storedRow env s r a).tokens = none) :
    CountsChecked (recoveredTokens env s r a n) := by
  obtain ⟨hp, hc, hle, hk, he⟩ := countsChecked_of_valid h
  have hcached : ∀ k ∈ (recoveredTokens env s r a n).cachedPromptTokens,
      k ∈ (storedRow env s r a).tokens.cachedPromptTokens := by
    intro k hk
    unfold recoveredTokens at hk
    split_ifs at hk
    · exact hk
    · cases hk
  exact ⟨hp, fun k hk => hc k (hcached k hk), fun k hk => hle k (hcached k hk), hk, he⟩

theorem recoveredRow_checks {i : HotPathInput}
    (hvalid : invalidReason (storedRow env s r a).tokens = none)
    (htokens : i.tokens = recoveredTokens env s r a n)
    (hreported : NonnegOrNull i.providerReportedPromptTokens)
    (hrates : 0 ≤ i.rateEntry.promptCreditsPerMtok ∧ 0 ≤ i.rateEntry.completionCreditsPerMtok ∧
      0 ≤ i.multiplierPPM ∧ 0 ≤ i.providerShareBps ∧ i.providerShareBps ≤ providerShareDenom)
    (id : ℕ) : (creditRow i ⟨n, i.credits i.tokens.cachedPromptTokens, none⟩ id).Checks := by
  have hbilled := billedAs_credits i i.tokens.cachedPromptTokens
  obtain ⟨hr1, hr2, hr3, hr4⟩ := hbilled.rates
  obtain ⟨h1, h2, h3, h4, h5⟩ := hrates
  have hbounds := hbilled.provider_bounds h4 h5
  have hcounts : CountsChecked (i.credits i.tokens.cachedPromptTokens).tokens := by
    rcases hbilled.tokens_eq with h | h
    · rw [h]
      exact htokens ▸ countsChecked_recovered hvalid
    · rw [h]
      exact countsChecked_null
  obtain ⟨hp, hc, hle, hk, he⟩ := hcounts
  refine ⟨hp, hreported, hc, hle, hk, he, h1.trans_eq hr1.symm, h2.trans_eq hr2.symm,
    h3.trans_eq hr3.symm, ⟨h4.trans_eq hr4.symm, hr4.trans_le h5⟩, hbilled.gross_nonneg, hbounds.1,
    hbilled.gross_of_nullError, ?_⟩
  rintro x ⟨⟩
  exact hbounds.2

/-- **What is written for an attempt without a credit.** -/
theorem recoverRow_fresh (hconfig : Snapshot env s)
    (hchecks : (hotPathRow env s r a b₀).Checks) (hreported : NonnegOrNull a.tokens.promptTokens)
    (hnone : attemptCredits b r.requestID n = []) (hreceipt : NoReceipt r.requestID n b)
    (hidentity : b.identities.find? (r.requestID, n, a.providerAssignedID) =
      if r.attemptN = n then some (identityOf (billedInput env s r a) n) else none) :
    ∃ b' c, recoverRow env b (loggedAs env s r a n) = .ok b' ∧
      attemptCredits b' r.requestID n = [c] ∧ columnsOf c = recoveredColumns env s r a n := by
  obtain ⟨-, hreq, hret, hassigned, -, hcode, -, hmodel⟩ := storedRow_eq env s r a
  obtain ⟨-, hestimate, -⟩ := @storedRow_counts env s r a
  set x := loggedAs env s r a n with hx
  have hxq : x.requestID = r.requestID := hreq
  have hxn : x.attemptN = n := rfl
  have hid : b.identities.find? (x.requestID, x.attemptN, x.providerAssignedID) =
      if r.attemptN = n then some (identityOf (billedInput env s r a) n) else none := by
    rw [← hidentity, hxq, hxn]
    exact congrArg (fun p => b.identities.find? (r.requestID, n, p)) hassigned
  have hcfg : recoveryConfig env x (identityOf (billedInput env s r a) n) = some s.config := by
    have hpos : nullPositive (billedInput env s r a).configSnapshotID = some s.configSnapshotID :=
      if_neg (not_le.mpr hconfig.positive)
    unfold recoveryConfig identityOf
    rw [hpos]
    exact hconfig.stored
  have hamb : ambiguousAttempt x = true ↔ n = 1 ∧ a.retried = 0 := by
    rw [← hret]
    unfold ambiguousAttempt
    simp [hx, loggedAs]
  have hquarantines : Quarantines env b x ↔ HeldByRecovery env s r a n := by
    unfold Quarantines HeldByRecovery
    rw [hid, ← hamb]
    by_cases hn : r.attemptN = n
    · rw [if_pos hn]
      dsimp only
      rw [hcfg]
      simp [hn, hx, loggedAs]
    · simp [hn]
  rw [← hxq] at hnone hreceipt
  unfold recoveredColumns
  by_cases hheld : HeldByRecovery env s r a n
  · obtain ⟨b', pid, t, reason, hok, hcredits, ht⟩ :=
      recoverRow_quarantines hnone (hquarantines.mpr hheld)
    refine ⟨b', _, hok, hxq ▸ hcredits, ?_⟩
    have husage : usageFor x.errorCode t.estimatedCompTokens = quarantinedUsage env s r a := by
      unfold quarantinedUsage
      rw [ht, ← hcode, ← hestimate]
      exact apply_ite (usageFor x.errorCode) _ _ _
    rw [if_pos hheld, ← husage]
    rfl
  · have hheld' := hheld
    unfold HeldByRecovery at hheld'
    simp only [not_or, not_not] at hheld'
    obtain ⟨hvalid, hn, hreason, hfirst⟩ := hheld'
    rw [if_pos hn] at hid
    set i := recoveryInput env x (identityOf (billedInput env s r a) n) s.config b with hi
    have hrate : i.rateEntry = s.config.rateFor r.model := congrArg s.config.rateFor hmodel
    have hcounts : NonnegOrNull i.providerReportedPromptTokens := by
      intro p hp
      rcases Option.or_eq_some_iff.mp hp with h | ⟨-, h⟩
      · exact hreported p h
      · exact (countsChecked_of_valid hvalid).1 p h
    obtain ⟨b', hok, hcredits⟩ := recoverRow_credits hnone hreceipt hvalid hid hreason hcfg
      (Bool.eq_false_iff.mpr (mt hamb.mp hfirst)) fun id =>
        recoveredRow_checks hvalid rfl hcounts (hrate ▸ rates_of_checks hchecks) id
    refine ⟨b', _, hok, hxq ▸ hcredits, ?_⟩
    have hbill : i.credits i.tokens.cachedPromptTokens =
        billOf s r a (recoveredTokens env s r a n) .none := by
      unfold billOf HotPathInput.credits
      rw [← hrate, ← hcode, ← hestimate]
      rfl
    rw [if_neg hheld, ← hbill]
    rfl

end Recovered

end MacProvider.Coordinator.Billing.Fallback
