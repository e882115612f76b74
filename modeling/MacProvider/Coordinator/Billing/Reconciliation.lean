import MacProvider.Coordinator.Billing.Confirmation
import MacProvider.Coordinator.Billing.Conservation
import MacProvider.Coordinator.Billing.Receipts

/-! # Reconciliation of the coordinator's own ledger

In `Accepted` books recovery confirms every credit or finds it quarantined, and is the identity
(`Accepted.recoverLedger_eq`). `recovery_accepts_the_ledger`: the runs that lead there. -/

namespace MacProvider.Coordinator.Billing.Reconciliation

open Gateway.Time Lib.Tables Lib.Runs Billing.Schema Billing.Settlement Billing.Formula
open Billing.Outputs Billing.HotPath Billing.Recording Billing.Recovery Billing.Conservation
open Billing.Receipts Billing.Confirmation

/-! ### Books that recovery leaves alone -/

/-- Recovery finds nothing wrong with it. -/
structure Agrees (env : Env) (r : LogRow) (d : Identity) (c : CreditRow) : Prop where
  counts : invalidReason r.tokens = none
  reason : r.cacheQuarantineReason = ""
  confirms : ∃ cfg, recoveryConfig env r d = some cfg ∧ ∀ b : Books,
    Confirms (recoveryInput env r d cfg b) ((recoveryInput env r d cfg b).credits
      (recoveryInput env r d cfg b).tokens.cachedPromptTokens) c

/-- It has a row of the log and an identity. -/
structure Backed (env : Env) (b : Books) (c : CreditRow) (r : LogRow) (d : Identity) : Prop where
  log : r ∈ b.log
  identity : b.identities.find? (r.requestID, r.attemptN, r.providerAssignedID) = some d
  assigned : r.providerAssignedID ≠ ""
  request : c.requestID = r.requestID
  attempt : c.attemptN = r.attemptN
  sameAssigned : c.providerAssignedID = r.providerAssignedID
  provider : c.providerID = d.providerID
  agrees : c.quarantined = false → Agrees env r d c

/-- Each attempt with a provider has one credit, confirmed or quarantined. Numbers differ. -/
structure Accepted (env : Env) (b : Books) : Prop where
  numbers : (b.log.map fun r => (r.requestID, r.attemptN)).Nodup
  bound : ∀ r ∈ b.log, r.attemptN < b.requestCount r.accountID r.requestID
  known : ∀ d ∈ b.identities.rows, ∃ r ∈ b.log, r.requestID = d.requestID ∧ r.attemptN = d.attemptN
  backed : ∀ c ∈ b.credits.rows, ∃ r d, Backed env b c r d
  unique : (b.credits.rows.map fun c => (c.requestID, c.attemptN)).Nodup
  credited : ∀ r ∈ b.log, r.providerAssignedID ≠ "" → r.status ≠ 503 →
    ∃ c ∈ b.credits.rows, c.requestID = r.requestID ∧ c.attemptN = r.attemptN

section Accepted
variable {env : Env} {b b' : Books} {r r' : LogRow} {c : CreditRow} {d : Identity} {w : Window}

theorem quarantineWhere_eq_self {p : CreditRow → Bool} {reason : String}
    (h : ∀ c ∈ b.credits.rows, p c = true → c.quarantined = true) :
    quarantineWhere p reason b = b := by
  have hrows : b.credits.update (fun c => !c.quarantined && p c) (CreditRow.quarantine reason)
      (quarantine_id reason) = b.credits := by
    refine Table.update_eq_self _ fun c hc => ?_
    by_cases hp : p c = true
    · simp [h c hc hp]
    · simp [hp]
  unfold quarantineWhere
  rw [hrows]

theorem Accepted.eq_credit {x : CreditRow} (h : Accepted env b) (hx : x ∈ b.credits.rows)
    (hc : c ∈ b.credits.rows) (hq : x.requestID = c.requestID) (hn : x.attemptN = c.attemptN) :
    x = c :=
  List.inj_on_of_nodup_map h.unique hx hc (Prod.ext hq hn)

theorem Backed.hasRequestLog (h : Backed env b c r d) : hasRequestLog b c = true := by
  have hkey : d.key = (r.requestID, r.attemptN, r.providerAssignedID) :=
    Table.key_of_find? h.identity
  simp only [Identity.key, Prod.mk.injEq] at hkey
  refine List.any_eq_true.mpr ⟨r, h.log, ?_⟩
  simp only [h.request, h.attempt, decide_true, Bool.true_and, Bool.and_eq_true, List.any_eq_true]
  refine ⟨by simpa using h.assigned, d, (Table.find?_eq_some.mp h.identity).1, ?_⟩
  simp [hkey.1, hkey.2.1, hkey.2.2, h.provider]

theorem Backed.ofAttempt (h : Backed env b c r d) : ofAttempt b r c = true := by
  unfold Recovery.ofAttempt
  simp [h.request, h.attempt, h.sameAssigned]

theorem Accepted.quarantineAttempt_eq (h : Accepted env b) (hb : Backed env b c r d)
    (hc : c ∈ b.credits.rows) (hq : c.quarantined = true) (pid : String) (t : TokenCounts)
    (reason : String) : quarantineAttempt r pid t reason b = b := by
  unfold quarantineAttempt
  rw [if_pos (List.any_eq_true.mpr ⟨c, hc, hb.ofAttempt⟩)]
  refine quarantineWhere_eq_self fun x hx hp => ?_
  unfold Recovery.ofAttempt at hp
  simp only [Bool.and_eq_true, decide_eq_true_eq] at hp
  rw [h.eq_credit hx hc (hp.1.1.trans hb.request.symm) (hp.1.2.trans hb.attempt.symm)]
  exact hq

/-- **A row of the log changes nothing.** -/
theorem Accepted.recoverRow_eq (h : Accepted env b) (hr : r ∈ b.log)
    (hassigned : r.providerAssignedID ≠ "") (hstatus : r.status ≠ 503) :
    recoverRow env b r = .ok b := by
  obtain ⟨c, hc, hq, hn⟩ := h.credited r hr hassigned hstatus
  obtain ⟨r', d, hb⟩ := h.backed c hc
  obtain rfl : r' = r := List.inj_on_of_nodup_map h.numbers hb.log hr
    (Prod.ext (hb.request.symm.trans hq) (hb.attempt.symm.trans hn))
  have hcreditOf : b.creditOf r'.requestID r'.attemptN d.providerID = some c := by
    have hsome : (b.creditOf r'.requestID r'.attemptN d.providerID).isSome = true :=
      List.find?_isSome.mpr ⟨c, hc, by simp [hb.request, hb.attempt, hb.provider]⟩
    obtain ⟨x, hx⟩ := Option.isSome_iff_exists.mp hsome
    obtain ⟨hmem, hxq, hxn, -⟩ := creditOf_some hx
    rw [hx, h.eq_credit hmem hc (hxq.trans hq.symm) (hxn.trans hn.symm)]
  unfold recoverRow
  by_cases hquar : c.quarantined = true
  · split
    · rw [h.quarantineAttempt_eq hb hc hquar]
    rw [hb.identity]
    dsimp only
    split
    · rw [h.quarantineAttempt_eq hb hc hquar]
    split
    · rw [h.quarantineAttempt_eq hb hc hquar]
    · rw [hcreditOf]
      exact if_pos hquar
  · have hfree : c.quarantined = false := by simpa using hquar
    obtain ⟨hcounts, hreason, cfg, hcfg, hconfirms⟩ := hb.agrees hfree
    rw [hcounts]
    rw [hb.identity]
    dsimp only
    rw [if_neg (not_not.mpr hreason), hcfg]
    rw [hcreditOf]
    have hmatch := creditMismatch_eq_false_iff.mpr (hconfirms b)
    dsimp only [reconcileExistingCredit]
    rw [if_neg hquar, if_neg (by rw [hmatch]; exact Bool.false_ne_true)]

theorem foldlM_eq_self {α : Type} {f : Books → α → Except LedgerError Books} {l : List α}
    (h : ∀ x ∈ l, f b x = .ok b) : l.foldlM f b = .ok b := by
  induction l with
  | nil => rfl
  | cons x l ih =>
    rw [List.foldlM_cons, h x List.mem_cons_self]
    exact ih fun y hy => h y (List.mem_cons_of_mem x hy)

/-- **Recovery changes nothing**, whatever the window. -/
theorem Accepted.recoverLedger_eq (h : Accepted env b) (w : Window) :
    recoverLedger env w b = .ok b := by
  have horphans : quarantineOrphans w b = b := by
    refine quarantineWhere_eq_self fun c hc hp => ?_
    obtain ⟨r, d, hb⟩ := h.backed c hc
    rw [hb.hasRequestLog] at hp
    simp at hp
  unfold recoverLedger
  rw [horphans]
  refine foldlM_eq_self fun r hr => ?_
  obtain ⟨hmem, hcond⟩ := List.mem_filter.mp ((List.mem_insertionSort _).mp hr)
  simp only [Bool.and_eq_true, decide_eq_true_eq] at hcond
  exact h.recoverRow_eq hmem hcond.1.2 hcond.2

end Accepted

/-- The same attempt, and confirmed if it was. -/
structure SameRow (env : Env) (c c' : CreditRow) : Prop where
  request : c'.requestID = c.requestID
  attempt : c'.attemptN = c.attemptN
  assigned : c'.providerAssignedID = c.providerAssignedID
  provider : c'.providerID = c.providerID
  free : c'.quarantined = false → c.quarantined = false
  confirmed : c'.quarantined = false → ∀ i expected, Confirms i expected c → Confirms i expected c'

theorem SameRow.refl (env : Env) (c : CreditRow) : SameRow env c c :=
  ⟨rfl, rfl, rfl, rfl, id, fun _ _ _ => id⟩

section Updates
variable {env : Env} {b b' : Books} {c c' : CreditRow}

theorem SameRow.backed (h : SameRow env c c') {r : LogRow} {d : Identity}
    (hlog : b'.log = b.log) (hidentities : b'.identities = b.identities)
    (hb : Backed env b c r d) : Backed env b' c' r d where
  log := hlog ▸ hb.log
  identity := hidentities ▸ hb.identity
  assigned := hb.assigned
  request := h.request.trans hb.request
  attempt := h.attempt.trans hb.attempt
  sameAssigned := h.assigned.trans hb.sameAssigned
  provider := h.provider.trans hb.provider
  agrees hfree := by
    obtain ⟨hcounts, hreason, cfg, hcfg, hconfirms⟩ := hb.agrees (h.free hfree)
    exact ⟨hcounts, hreason, cfg, hcfg, fun b => h.confirmed hfree _ _ (hconfirms b)⟩

/-- **Updates keep the books accepted.** -/
theorem Accepted.update {g : CreditRow → CreditRow} (h : Accepted env b) (hlog : b'.log = b.log)
    (hidentities : b'.identities = b.identities) (hrows : b'.credits.rows = b.credits.rows.map g)
    (hg : ∀ c ∈ b.credits.rows, SameRow env c (g c)) : Accepted env b' where
  numbers := hlog ▸ h.numbers
  bound := by
    have hcount : ∀ a q, b'.requestCount a q = b.requestCount a q := fun a q => by
      unfold Books.requestCount
      rw [hlog]
    simp only [hcount, hlog]
    exact h.bound
  known := by
    rw [hidentities, hlog]
    exact h.known
  backed := by
    rw [hrows]
    intro c' hc'
    obtain ⟨c, hc, rfl⟩ := List.mem_map.mp hc'
    obtain ⟨r, d, hb⟩ := h.backed c hc
    exact ⟨r, d, (hg c hc).backed hlog hidentities hb⟩
  unique := by
    rw [hrows, List.map_map]
    refine (List.map_congr_left fun c hc => ?_) ▸ h.unique
    exact Prod.ext (hg c hc).request.symm (hg c hc).attempt.symm
  credited := by
    rw [hlog, hrows]
    intro r hr hassigned hstatus
    obtain ⟨c, hc, hq, hn⟩ := h.credited r hr hassigned hstatus
    exact ⟨g c, List.mem_map_of_mem hc, (hg c hc).request.trans hq, (hg c hc).attempt.trans hn⟩

/-! ### Receipts -/

/-- Amounts, source and flag stay, or it is quarantined. -/
def KeepsAmounts (c c' : CreditRow) : Prop :=
  c'.quarantined = true ∨ c'.grossCredits = c.grossCredits ∧
    c'.providerCredits = c.providerCredits ∧ c'.usageSource = c.usageSource ∧
    c'.faultFlag = c.faultFlag

/-- A receipt applied now keeps the amounts. -/
def Harmless (env : Env) (requestID : String) (attemptN : ℕ) (providerID : String) (b : Books) :
    Prop :=
  ∀ c sao u, b.creditOf requestID attemptN providerID = some c → c.syncable = true →
    b.verifiedOutput c = some sao → env.decodeUsage sao.usageCanonicalJSON = some u →
    KeepsAmounts c (syncRow env (b.configSnapshotOf c) u c)

/-- The usage repeats the counts of the bill: priced, not cached, without error code or estimate. -/
structure Repeats (i : HotPathInput) (u : SettlementUsage) (c : CreditRow) : Prop where
  bill : HasBill (i.credits none) c
  served : usageFor i.errorCode none = .providerReported
  prompt : i.tokens.promptTokens = some u.billableInputTokens
  completion : i.tokens.completionTokens = some u.billableOutputTokens
  estimate : i.tokens.estimatedCompTokens = none
  valid : ValidCounts u.billableInputTokens 0 u.billableOutputTokens
  fits : Fits u.billableInputTokens 0 u.billableOutputTokens i.rateEntry i.multiplierPPM
    i.providerShareBps

theorem billed_unchanged {t : TokenCounts} {source : UsageSource} {flag : FaultFlag}
    {e : RateCardEntry} {ppm bps : ℤ} {row : BilledRow} (h : BilledAs t source flag e ppm bps row)
    (hsource : source ≠ .nullError) (hpay : Payable t source e ppm bps)
    (hestimate : t.estimatedCompTokens = none) :
    row.usageSource = source ∧ row.faultFlag = flag := by
  cases h with
  | breaker _ hrow => subst hrow; exact ⟨rfl, rfl⟩
  | refused _ hrefused _ => exact absurd hrefused hsource
  | unpayable _ _ hnot _ => exact absurd hpay hnot
  | priced _ _ _ source' hsource' _ _ _ hrow =>
    subst hrow
    exact ⟨hsource' (Or.inl hestimate), rfl⟩

/-- **A receipt for the billed counts keeps them.** -/
theorem Repeats.keepsAmounts {i : HotPathInput} {u : SettlementUsage} (h : Repeats i u c)
    (configID : Option ℤ) : KeepsAmounts c (syncRow env configID u c) := by
  set t : TokenCounts := ⟨some u.billableInputTokens, none, some u.billableOutputTokens, none⟩
    with ht
  have htokens : { i.tokens with cachedPromptTokens := none } = t := by
    dsimp only
    rw [h.prompt, h.completion, h.estimate]
  have hbilled := billedAs_credits i none
  rw [htokens, h.estimate, h.served] at hbilled
  obtain ⟨hprompt, hcompletion, hppm, hbps⟩ := hbilled.rates
  obtain ⟨hfits, hprice⟩ :=
    fits_rates (c := c) (h.bill.promptRate.trans hprompt) (h.bill.completionRate.trans hcompletion)
      h.fits
  -- the row has lost its counts, or has those of the usage
  have hcounts : c.tokens.cachedPromptTokens = none ∧
      chargedPrompt c u = u.billableInputTokens := by
    unfold chargedPrompt
    rw [h.bill.tokens]
    rcases hbilled.tokens_eq with hrow | hrow <;> rw [hrow] <;> simp [ht, TokenCounts.null]
  have hagain := billedAs t .providerReported c.faultFlag c.rates c.globalMultiplierPPM
    c.providerShareBps
  rw [h.bill.multiplier, h.bill.share, hppm, hbps] at hagain
  have hsync : syncRow env configID u c = c.rebilled (computeCreditsWithCache t
      (some .providerReported) (some c.faultFlag) c.rates i.multiplierPPM i.providerShareBps) := by
    unfold syncRow cacheProvenance
    rw [hcounts.1, hcounts.2, h.bill.multiplier, h.bill.share, hppm, hbps]
  have hkept := billed_unchanged hbilled UsageSource.noConfusion ⟨h.valid, h.fits⟩ rfl
  have hkept' := billed_unchanged hagain UsageSource.noConfusion ⟨h.valid, hfits⟩ rfl
  have hgross : (computeCreditsWithCache t (some .providerReported) (some c.faultFlag) c.rates
      i.multiplierPPM i.providerShareBps).grossCredits = c.grossCredits := by
    rw [hagain.gross_eq, h.bill.gross, hbilled.gross_eq, h.bill.flag, hkept.2]
    refine if_congr Iff.rfl rfl ?_
    exact (if_pos ⟨h.valid, hfits⟩).trans (hprice.trans (if_pos ⟨h.valid, h.fits⟩).symm)
  rw [hsync]
  refine Or.inr ⟨hgross, ?_, hkept'.1.trans (h.bill.usage.trans hkept.1).symm, hkept'.2⟩
  exact hagain.parts.1.trans (hgross ▸ (h.bill.provider.trans
    (h.bill.gross.symm ▸ hbilled.parts.1)).symm)

/-- **A receipt that repeats the counts is harmless.** -/
theorem harmless_of_repeats {requestID providerID : String} {attemptN : ℕ}
    (h : ∀ c sao u, b.creditOf requestID attemptN providerID = some c →
      b.verifiedOutput c = some sao → env.decodeUsage sao.usageCanonicalJSON = some u →
      ∃ i, Repeats i u c) : Harmless env requestID attemptN providerID b := by
  intro c sao u hc _ hsao hu
  obtain ⟨i, hi⟩ := h c sao u hc hsao hu
  exact hi.keepsAmounts _

theorem billedAs_source {t : TokenCounts} {flag : FaultFlag} {e : RateCardEntry} {ppm bps : ℤ}
    {row : BilledRow} (hbilled : BilledAs t .providerReported flag e ppm bps row)
    (h : t.estimatedCompTokens = none) : row.usageSource ≠ .byteEstimated := by
  cases hbilled with
  | breaker _ hrow => rw [hrow]; exact UsageSource.noConfusion
  | refused _ hsource _ => cases hsource
  | unpayable _ _ _ hrow => rw [hrow]; exact UsageSource.noConfusion
  | priced _ _ _ source' hsource' _ _ _ hrow =>
    rw [hrow]
    rw [hsource' (Or.inl h)]
    exact UsageSource.noConfusion

theorem syncRow_sameRow {configID : Option ℤ} {u : SettlementUsage}
    (hfree : c.quarantined = false) (h : KeepsAmounts c (syncRow env configID u c)) :
    SameRow env c (syncRow env configID u c) := by
  rcases syncRow_cases env configID u c with ⟨reason, -, hrow⟩ | ⟨_, _, row, -, hbilled, hrow⟩
  · rw [hrow]
    exact ⟨rfl, rfl, rfl, rfl, fun _ => hfree, fun hq => by cases hq⟩
  · rw [hrow] at h ⊢
    obtain hq | ⟨hgross, hprovider, husage, hflag⟩ := h
    · exact absurd (hq.symm.trans hfree) (by simp)
    refine ⟨rfl, rfl, rfl, rfl, fun _ => hfree, fun _ i expected hc => ?_⟩
    have hsource : c.usageSource ≠ .byteEstimated := by
      rw [← husage]
      exact billedAs_source hbilled rfl
    have hallow : ∀ x : CreditRow, x.usageSource = c.usageSource →
        allowByteEstimated i x = false := by
      intro x hx
      unfold allowByteEstimated
      rw [hx]
      simp [hsource]
    have hagain : recomputed i (c.rebilled row) = recomputed i c := by
      unfold recomputed
      rw [hallow _ husage, hallow c rfl, husage, hflag]
      rfl
    refine ⟨?_, ?_, ?_, hc.cached, hc.promptRate, hc.completionRate, hc.multiplier, hc.share,
      fun h => ?_, fun _ => ?_, ?_⟩
    · rw [hagain, hgross]
      exact hc.gross
    · rw [hagain, hprovider]
      exact hc.provider
    · rw [hagain, hflag]
      exact hc.flag
    · rw [hallow _ husage] at h
      cases h
    · rw [husage, hflag]
      exact hc.usage (hallow c rfl)
    · dsimp only [CreditRow.rebilled]
      rw [hc.operator]
      have hg : row.grossCredits = c.grossCredits := hgross
      have hp : row.providerCredits = c.providerCredits := hprovider
      rw [Option.map_some, hbilled.parts.2, hg, hp]

theorem sync_accepted {req pid : String} {attemptN : ℕ} (h : Accepted env b)
    (hharmless : Harmless env req attemptN pid b)
    (hsync : syncVerifiedReceiptLedgerCreditForAttempt env req attemptN pid b =
      .ok b') : Accepted env b' := by
  obtain rfl | ⟨c, sao, u, hc, hon, hsao, hu, -, rfl⟩ := sync_cases hsync
  · exact h
  have hfree : c.quarantined = false := by
    unfold CreditRow.syncable at hon
    simp only [Bool.and_eq_true, Bool.not_eq_true'] at hon
    exact hon.1.1.2
  have hkeeps := hharmless c sao u hc hon hsao hu
  refine h.update (g := fun x => if x.id = c.id then syncRow env (b.configSnapshotOf c) u x else x)
    rfl rfl ?_ fun x hx => ?_
  · dsimp only [Books.applyReceipt, Table.update]
    simp only [decide_eq_true_eq]
  · split_ifs with hid
    · obtain rfl := eq_of_id (creditOf_some hc).1 hx hid
      exact syncRow_sameRow hfree hkeeps
    · exact SameRow.refl env x

theorem runSettlement_accepted (h : Accepted env b) (cfg : SettlementConfig)
    (windowStart windowEnd now : Instant) :
    Accepted env (b.withLedger (runSettlement cfg windowStart windowEnd now b.ledger)) := by
  refine h.update (g := CreditRow.inLedger (runSettlement cfg windowStart windowEnd now b.ledger))
    rfl rfl ?_ fun c hc => ?_
  · dsimp only [Books.withLedger, Table.update]
    simp only [if_true]
  · have hfind : b.ledger.credits.find? c.id = some c.toCredit :=
      Table.find?_eq_some.mpr ⟨List.mem_map_of_mem hc, rfl⟩
    obtain ⟨y, hy, hcy⟩ := @runSettlement_sameBill cfg windowStart windowEnd now b.ledger c.id
      c.toCredit hfind
    unfold CreditRow.inLedger
    rw [hy]
    refine ⟨hcy.request, hcy.attempt, rfl, hcy.provider, hcy.free, fun _ i expected hconf => ?_⟩
    refine ⟨hconf.gross.trans hcy.gross.symm, hconf.provider.trans hcy.share.symm, hconf.flag,
      hconf.cached, hconf.promptRate, hconf.completionRate, hconf.multiplier, hconf.share,
      hconf.estimate, hconf.usage, ?_⟩
    dsimp only [Option.getD_some]
    rw [hcy.gross, hcy.share]
    exact hconf.operator

end Updates

/-! ### The hot path -/

section Recorded
variable {env : Env} {s : Server} {r : BillingRecorder} {a : Attempt} {b b' : Books} {n : ℕ}

/-- Log and configuration give the credit again. -/
structure Reproducible (env : Env) (s : Server) (r : BillingRecorder) (a : Attempt) (n : ℕ) :
    Prop where
  counts : invalidReason (storedRow env s r a).tokens = none
  flag : FlagKept (countedInput env s r a) a.faultFlag
  cache : CacheKept (countedInput env s r a)
  config : ∃ cfg, recoveryConfig env ⟨storedRow env s r a, n⟩
      (identityOf (billedInput env s r a) n) = some cfg ∧
    cfg.rateFor r.model = s.config.rateFor r.model ∧
    cfg.multiplierPPM = s.config.multiplierPPM ∧ cfg.providerShareBps = s.config.providerShareBps

/-- **Recovery confirms what the hot path writes.** -/
theorem agrees_of_reproducible
    (hclear : (normalizeCachedPromptTokens (billedInput env s r a)).2 = "")
    (hn : r.attemptN = n) (h : Reproducible env s r a n) (id : ℕ) (acct : String) :
    Agrees env ⟨storedRow env s r a, n⟩ (identityOf (billedInput env s r a) n)
      (creditRow ((billedInput env s r a).scoped env acct)
        ⟨n, (billedInput env s r a).credits (normalizeCachedPromptTokens (billedInput env s r a)).1,
          none⟩ id) := by
  obtain ⟨cfg, hcfg, hrates, hmultiplier, hshare⟩ := h.config
  obtain ⟨-, -, -, -, -, hcode, -, hmodel⟩ := storedRow_eq env s r a
  refine ⟨h.counts, (storedRow_of_clear hclear).1, cfg, hcfg, fun b => ?_⟩
  set i := recoveryInput env ⟨storedRow env s r a, n⟩ (identityOf (billedInput env s r a) n) cfg b
    with hi
  have htokens : i.tokens = (countedInput env s r a).tokens := recoveredTokens_eq hclear hn
  have hrate : i.rateEntry = (countedInput env s r a).rateEntry := by
    change cfg.rateFor (storedRow env s r a).model = s.config.rateFor r.model
    rw [hmodel, hrates]
  have hmul : i.multiplierPPM = (countedInput env s r a).multiplierPPM := hmultiplier
  have hsh : i.providerShareBps = (countedInput env s r a).providerShareBps := hshare
  have hsource : HotPathInput.source i = HotPathInput.source (countedInput env s r a) := by
    unfold HotPathInput.source
    rw [htokens]
    change usageFor (storedRow env s r a).errorCode _ = usageFor a.errorCode _
    rw [hcode]
  have hpayable : HotPathInput.Payable i ↔ HotPathInput.Payable (countedInput env s r a) := by
    unfold HotPathInput.Payable
    rw [htokens, hsource, hrate, hmul, hsh]
  have hrow : (billedInput env s r a).credits
      (normalizeCachedPromptTokens (billedInput env s r a)).1 =
      computeCreditsWithCache i.tokens (some (HotPathInput.source i)) (some a.faultFlag) i.rateEntry
        i.multiplierPPM i.providerShareBps := by
    rw [htokens, hsource, hrate, hmul, hsh]
    rfl
  refine confirms_of_bill ⟨rfl, rfl, rfl, rfl, rfl, rfl, rfl, rfl, rfl, rfl⟩ rfl hrow ?_ ?_ ?_
  · have hcounts := h.counts
    unfold invalidReason at hcounts
    split_ifs at hcounts with h1 h2
    simp only [Bool.or_eq_true, not_or, Bool.not_eq_true] at h1
    rw [htokens]
    have hest : (storedRow env s r a).tokens.estimatedCompTokens =
        (countedInput env s r a).tokens.estimatedCompTokens :=
      congrArg TokenCounts.estimatedCompTokens (storedRow_of_clear hclear).2
    rw [← hest]
    exact h1.1.2
  · unfold FlagKept
    rw [hsource, hpayable]
    exact h.flag
  · unfold CacheKept
    rw [htokens, hsource, hpayable]
    exact h.cache

/-- The next one of its request, under one account. -/
structure NextRow (b : Books) (x : LogRow) : Prop where
  account : ∀ y ∈ b.log, y.requestID = x.requestID → y.accountID = x.accountID
  number : x.attemptN = b.requestCount x.accountID x.requestID

theorem requestCount_append (x : LogRow) (hlog : b'.log = b.log ++ [x]) (acct req : String) :
    b'.requestCount acct req = b.requestCount acct req +
      if x.accountID = acct ∧ x.requestID = req then 1 else 0 := by
  unfold Books.requestCount
  rw [hlog]
  simp [List.countP_append]

theorem NextRow.lt {x y : LogRow} (h : Accepted env b) (hx : NextRow b x) (hy : y ∈ b.log)
    (hq : y.requestID = x.requestID) : y.attemptN < x.attemptN := by
  have hbound := h.bound y hy
  rw [hx.account y hy hq, hq, ← hx.number] at hbound
  exact hbound

theorem nodup_snoc {α β : Type} {f : α → β} {l : List α} {x : α} (h : (l.map f).Nodup)
    (hx : ∀ y ∈ l, f y ≠ f x) : ((l ++ [x]).map f).Nodup := by
  rw [List.map_append, List.nodup_append]
  refine ⟨h, List.nodup_singleton _, fun a ha b hb => ?_⟩
  obtain ⟨y, hy, rfl⟩ := List.mem_map.mp ha
  rw [List.map_singleton, List.mem_singleton] at hb
  exact hb ▸ hx y hy

theorem Accepted.append_log {x : LogRow} (h : Accepted env b) (hx : NextRow b x)
    (hlog : b'.log = b.log ++ [x]) :
    (b'.log.map fun r => (r.requestID, r.attemptN)).Nodup ∧
      ∀ y ∈ b'.log, y.attemptN < b'.requestCount y.accountID y.requestID := by
  constructor
  · rw [hlog]
    refine nodup_snoc h.numbers fun y hy heq => ?_
    obtain ⟨hq, hn⟩ := Prod.mk.inj heq
    exact (hx.lt h hy hq).ne hn
  · intro y hy
    rw [requestCount_append x hlog]
    rw [hlog] at hy
    rcases List.mem_append.mp hy with hy | hy
    · exact Nat.lt_add_right _ (h.bound y hy)
    · obtain rfl := List.mem_singleton.mp hy
      rw [if_pos ⟨rfl, rfl⟩, ← hx.number]
      exact Nat.lt_succ_self _

theorem Accepted.append_plain {x : LogRow} (h : Accepted env b) (hx : NextRow b x)
    (hplain : x.providerAssignedID = "") : Accepted env { b with log := b.log ++ [x] } := by
  obtain ⟨hnumbers, hbound⟩ :=
    @Accepted.append_log env b { b with log := b.log ++ [x] } x h hx rfl
  refine ⟨hnumbers, hbound, fun d hd => ?_, fun c hc => ?_, h.unique, fun y hy ha hs => ?_⟩
  · obtain ⟨y, hy, hkey⟩ := h.known d hd
    exact ⟨y, List.mem_append_left _ hy, hkey⟩
  · obtain ⟨y, d, hb⟩ := h.backed c hc
    exact ⟨y, d, { hb with log := List.mem_append_left _ hb.log }⟩
  · rcases List.mem_append.mp hy with hy | hy
    · exact h.credited y hy ha hs
    · obtain rfl := List.mem_singleton.mp hy
      exact absurd hplain ha

/-- **A row with its credit and its identity.** -/
theorem Accepted.append_credit {x : LogRow} {d : Identity} {c : CreditRow} (h : Accepted env b)
    (hx : NextRow b x) (hassigned : x.providerAssignedID ≠ "") (hlog : b'.log = b.log ++ [x])
    (hcredits : b'.credits.rows = b.credits.rows ++ [c])
    (hidentities : b'.identities = (b.identities.insert d).getD b.identities)
    (hkey : d.key = (x.requestID, x.attemptN, x.providerAssignedID))
    (hrequest : c.requestID = x.requestID) (hattempt : c.attemptN = x.attemptN)
    (hsame : c.providerAssignedID = x.providerAssignedID) (hprovider : c.providerID = d.providerID)
    (hagrees : c.quarantined = false → Agrees env x d c) : Accepted env b' := by
  obtain ⟨hnumbers, hbound⟩ := h.append_log hx hlog
  -- the number of the attempt is new, so the identity is
  have hfresh : b.identities.find? d.key = none := by
    refine Table.find?_eq_none.mpr fun y hy he => ?_
    obtain ⟨z, hz, hq, hn⟩ := h.known y hy
    rw [hkey] at he
    simp only [Identity.key, Prod.mk.injEq] at he
    exact absurd (hn.trans he.2.1) (hx.lt h hz (hq.trans he.1)).ne
  obtain ⟨t, ht⟩ := Table.exists_insert hfresh
  rw [ht, Option.getD_some] at hidentities
  obtain ⟨-, hrows⟩ := Table.insert_eq_some ht
  have hbacked : ∀ y ∈ b.credits.rows, ∃ z e, Backed env b' y z e ∧ z ∈ b.log := by
    intro y hy
    obtain ⟨z, e, hb⟩ := h.backed y hy
    refine ⟨z, e, { hb with log := hlog ▸ List.mem_append_left _ hb.log, identity := ?_ }, hb.log⟩
    rw [hidentities, Table.find?_insert ht, if_neg, hb.identity]
    rw [hkey]
    rintro hz
    simp only [Prod.mk.injEq] at hz
    exact absurd hz.2.1 (hx.lt h hb.log hz.1.symm).ne'
  refine ⟨hnumbers, hbound, fun e he => ?_, fun y hy => ?_, ?_, fun y hy ha hs => ?_⟩
  · rw [hidentities, hrows] at he
    rcases List.mem_append.mp he with he | he
    · obtain ⟨y, hy, hyk⟩ := h.known e he
      exact ⟨y, hlog ▸ List.mem_append_left _ hy, hyk⟩
    · obtain rfl := List.mem_singleton.mp he
      simp only [Identity.key, Prod.mk.injEq] at hkey
      exact ⟨x, hlog ▸ List.mem_append_right _ (List.mem_singleton_self x), hkey.1.symm,
        hkey.2.1.symm⟩
  · rw [hcredits] at hy
    rcases List.mem_append.mp hy with hy | hy
    · obtain ⟨z, e, hb, -⟩ := hbacked y hy
      exact ⟨z, e, hb⟩
    · obtain rfl := List.mem_singleton.mp hy
      refine ⟨x, d, hlog ▸ List.mem_append_right _ (List.mem_singleton_self x), ?_, hassigned,
        hrequest, hattempt, hsame, hprovider, hagrees⟩
      rw [hidentities, Table.find?_insert ht, if_pos hkey]
  · rw [hcredits]
    refine nodup_snoc h.unique fun y hy heq => ?_
    obtain ⟨hq, hn⟩ := Prod.mk.inj heq
    obtain ⟨z, e, hb, hz⟩ := hbacked y hy
    exact absurd (hb.attempt.symm.trans (hn.trans hattempt))
      (hx.lt h hz (hb.request.symm.trans (hq.trans hrequest))).ne
  · rw [hlog] at hy
    rw [hcredits]
    rcases List.mem_append.mp hy with hy | hy
    · obtain ⟨c', hc', hkey'⟩ := h.credited y hy ha hs
      exact ⟨c', List.mem_append_left _ hc', hkey'⟩
    · obtain rfl := List.mem_singleton.mp hy
      exact ⟨c, List.mem_append_right _ (List.mem_singleton_self c), hrequest, hattempt⟩

/-- One account, the next number, a credit that can be computed again or is held, and a receipt that
keeps its amounts. -/
structure Recordable (env : Env) (s : Server) (r : BillingRecorder) (a : Attempt) (b : Books) :
    Prop where
  account : ∀ y ∈ b.log, y.requestID = r.requestID → y.accountID = accountOf r
  attempt : r.attemptN ≤ b.requestCount (accountOf r) r.requestID
  credit : ¬ Held (billedInput env s r a) a.retried (b.requestCount (accountOf r) r.requestID + 1) →
    Reproducible env s r a (b.requestCount (accountOf r) r.requestID)
  receipt : Harmless env r.requestID (b.requestCount (accountOf r) r.requestID)
    (stableProviderID s a)
    ((insertLog (storedRow env s r a) b).credited ((billedInput env s r a).scoped env (accountOf r))
      (attemptBill env s r a b))

theorem Recordable.nextRow (h : Recordable env s r a b) : NextRow b ⟨storedRow env s r a,
    b.requestCount (storedRow env s r a).accountID (storedRow env s r a).requestID⟩ := by
  obtain ⟨hacc, hreq, -⟩ := storedRow_eq env s r a
  refine ⟨fun y hy hq => ?_, rfl⟩
  exact (h.account y hy (hq.trans hreq)).trans hacc.symm

theorem attemptBill_attemptN (h : r.attemptN ≤ b.requestCount (accountOf r) r.requestID) :
    (attemptBill env s r a b).attemptN = b.requestCount (accountOf r) r.requestID := by
  have ha : (billedInput env s r a).attemptN = r.attemptN := rfl
  unfold attemptBill
  rcases bill_cases (billedInput env s r a) a.retried
    (b.requestCount (accountOf r) r.requestID + 1) with ⟨-, reason, hbill⟩ | ⟨hheld, hbill⟩
  · rw [hbill, ha]
    exact max_eq_right h
  · rw [hbill]
    have hlate := (not_or.mp hheld).1
    dsimp only
    omega

theorem credited_accepted (h : Accepted env b) (hrec : Recordable env s r a b)
    (hassigned : a.providerAssignedID ≠ "") :
    Accepted env ((insertLog (storedRow env s r a) b).credited
      ((billedInput env s r a).scoped env (accountOf r)) (attemptBill env s r a b)) := by
  obtain ⟨hacc, hreq, -, hstored, -⟩ := storedRow_eq env s r a
  have hnumber := @attemptBill_attemptN env s r a b hrec.attempt
  have hnext := hrec.nextRow
  have hcount : b.requestCount (storedRow env s r a).accountID (storedRow env s r a).requestID =
      b.requestCount (accountOf r) r.requestID := by rw [hacc, hreq]
  refine h.append_credit hnext (by rw [hstored]; exact hassigned) rfl rfl rfl ?_ hreq.symm ?_
    hstored.symm rfl fun hfree => ?_
  · simp only [Identity.key, identityOf, hnumber, hacc, hreq, hstored]
    rfl
  · exact hnumber.trans hcount.symm
  · -- a row that is not quarantined was not held
    unfold attemptBill at hfree ⊢
    rcases bill_cases (billedInput env s r a) a.retried
      (b.requestCount (accountOf r) r.requestID + 1) with ⟨-, reason, hbill⟩ | ⟨hheld, hbill⟩
    · rw [hbill] at hfree
      cases hfree
    · obtain ⟨hlate, hrest⟩ := not_or.mp hheld
      have hclear : (normalizeCachedPromptTokens (billedInput env s r a)).2 = "" :=
        not_not.mp (not_or.mp hrest).2
      have hn : r.attemptN = b.requestCount (accountOf r) r.requestID := by
        have ha : (billedInput env s r a).attemptN = r.attemptN := rfl
        have := hrec.attempt
        omega
      have hagrees := agrees_of_reproducible hclear hn (hrec.credit hheld)
        (insertLog (storedRow env s r a) b).nextCreditID (accountOf r)
      rw [hbill, hcount]
      have ha : (billedInput env s r a).attemptN = b.requestCount (accountOf r) r.requestID := hn
      rw [ha]
      exact hagrees

theorem writeHotPath_accepted (h : Accepted env b) (hrec : Recordable env s r a b)
    (hwrite : writeHotPath env r.authenticatedAccount (logRowOf r a) (hotPathInputOf env s r a) b =
      .ok b') : Accepted env b' := by
  by_cases hassigned : a.providerAssignedID = ""
  · have hplain : writeHotPath env r.authenticatedAccount (logRowOf r a) (hotPathInputOf env s r a)
        b = .ok (insertLog (storedRow env s r a) b) := if_pos hassigned
    obtain rfl := Except.ok.inj (hplain.symm.trans hwrite)
    refine h.append_plain hrec.nextRow ?_
    exact (storedRow_eq env s r a).2.2.2.1.trans hassigned
  · rw [writeHotPath_eq env s r a b hassigned] at hwrite
    obtain ⟨-, -, hrest⟩ := writeBill_ok hwrite
    have hcredited := credited_accepted h hrec hassigned
    split_ifs at hrest
    · rw [hrest]
      exact hcredited
    · have hnumber := @attemptBill_attemptN env s r a b hrec.attempt
      refine sync_accepted hcredited ?_ hrest
      rw [hnumber]
      exact hrec.receipt

end Recorded

/-! ### Runs -/

/-- The operations on the books. -/
inductive Op
  /-- `writeHotPath` for an attempt. -/
  | writeHotPath (s : Server) (r : BillingRecorder) (a : Attempt)
  /-- A receipt is looked for, as at the end of `IngestSettlementReceipt`. -/
  | syncReceipt (requestID : String) (attemptN : ℕ) (providerID : String)
  /-- Resolutions, route snapshots, verdicts and outputs are written, with
  `InsertSettlementAttemptOutput`, `IngestSettlementReceipt`, `RecordMissingSettlementReceipt`. -/
  | observe (resolutions : List Resolution) (snapshots : List RouteRow) (verdicts : VerdictTable)
      (outputs : OutputTable)
  | runSettlement (cfg : SettlementConfig) (windowStart windowEnd now : Instant)
  | recoverLedger (w : Window)

/-- What an operation does. -/
def step (env : Env) (b : Books) : Op → Books
  | .writeHotPath s r a => commit b
    (HotPath.writeHotPath env r.authenticatedAccount (logRowOf r a) (hotPathInputOf env s r a) b)
  | .syncReceipt requestID attemptN providerID => commit b
    (syncVerifiedReceiptLedgerCreditForAttempt env requestID attemptN providerID b)
  | .observe resolutions snapshots verdicts outputs =>
    { b with resolutions, snapshots, verdicts, outputs }
  | .runSettlement cfg windowStart windowEnd now =>
    b.withLedger (Settlement.runSettlement cfg windowStart windowEnd now b.ledger)
  | .recoverLedger w => commit b (Recovery.recoverLedger env w b)

/-- Credits can be computed again, and receipts keep them. -/
def Reproduced (env : Env) (b : Books) : Op → Prop
  | .writeHotPath s r a => Recordable env s r a b
  | .syncReceipt requestID attemptN providerID => Harmless env requestID attemptN providerID b
  | .observe .. | .runSettlement .. | .recoverLedger _ => True

section Runs
variable {env : Env} {b : Books}

theorem empty_accepted : Accepted env .empty where
  numbers := .nil
  bound _ h := by cases h
  known _ h := by cases h
  backed _ h := by cases h
  unique := .nil
  credited _ h := by cases h

theorem step_accepted (h : Accepted env b) {op : Op} (hop : Reproduced env b op) :
    Accepted env (step env b op) := by
  cases op with
  | writeHotPath s r a => exact commit_of_ok h fun b' => writeHotPath_accepted h hop
  | syncReceipt req attemptN pid => exact commit_of_ok h fun b' => sync_accepted h hop
  | observe resolutions snapshots verdicts outputs =>
    exact h.update (g := id) rfl rfl (List.map_id _).symm fun c _ => SameRow.refl env c
  | runSettlement cfg windowStart windowEnd now =>
    exact runSettlement_accepted h cfg windowStart windowEnd now
  | recoverLedger w =>
    refine commit_of_ok h fun b' hok => ?_
    rw [h.recoverLedger_eq w] at hok
    exact Except.ok.inj hok ▸ h

/-- **Recovery accepts the coordinator's own ledger**: where credits can be computed again it
returns no error and changes nothing. -/
theorem recovery_accepts_the_ledger (h : Reaches (step env) (Reproduced env) .empty b)
    (w : Window) : recoverLedger env w b = .ok b := by
  have haccepted : Accepted env b :=
    reaches_induction h empty_accepted fun _ _ hb hop => step_accepted hb hop
  exact haccepted.recoverLedger_eq w

end Runs

/-! ### A credit with the flag of the breaker -/

/-- A recorder whose credits need no receipt. -/
def demoLegacy : BillingRecorder := { demoRecorder with settlementAttemptN := none }

/-- The provider is at fault: zero credits, with the flag. -/
def demoFaulty : Attempt := { demoAttempt none with faultFlag := .breakerQualifying }

def demoWindow : Window := ⟨0, 10⟩

def demoQuarantines (b : Books) : List Bool := b.credits.rows.map fun c => c.quarantined

/-- It quarantines the credit; once that is settled, it fails. -/
theorem recovery_rejects_a_faulty_attempt :
    let b := run (step demoEnv) .empty [.writeHotPath demoServer demoLegacy demoFaulty]
    let settled := run (step demoEnv) .empty
      [.writeHotPath demoServer demoLegacy demoFaulty, .runSettlement ⟨0⟩ 0 10 10]
    demoQuarantines b = [false] ∧
      (recoverLedger demoEnv demoWindow b).toOption.map demoQuarantines = some [true] ∧
      demoQuarantines settled = [false] ∧
      (recoverLedger demoEnv demoWindow settled).isOk = false := by
  decide +kernel

theorem demoAttempt_recordable :
    Recordable demoEnv demoServer demoLegacy (demoAttempt none) .empty where
  account _ h := by cases h
  attempt := le_rfl
  credit _ := by
    refine ⟨by decide +kernel, Or.inl rfl, fun h => absurd rfl h, demoConfig, ?_, rfl, rfl, rfl⟩
    rfl
  receipt c sao u _ _ hsao _ := by
    unfold Books.verifiedOutput at hsao
    split at hsao <;> cases hsao

/-- Without a fault. -/
theorem recovery_accepts_a_settled_attempt :
    recoverLedger demoEnv demoWindow (run (step demoEnv) .empty
        [.writeHotPath demoServer demoLegacy (demoAttempt none), .runSettlement ⟨0⟩ 0 10 10]) =
      .ok (run (step demoEnv) .empty
        [.writeHotPath demoServer demoLegacy (demoAttempt none), .runSettlement ⟨0⟩ 0 10 10]) := by
  refine recovery_accepts_the_ledger (reaches_of_allowed ?_) demoWindow
  exact ⟨demoAttempt_recordable, trivial, trivial⟩

end MacProvider.Coordinator.Billing.Reconciliation
