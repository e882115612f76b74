import MacProvider.Coordinator.Billing.Operations

/-! # What was settled can be claimed

A settlement compares a maturity in nanoseconds, the view that a claim reads in milliseconds. What
was eligible is payable from then on, while its row and its evidence stay
(`payable_of_eligible`). -/

namespace MacProvider.Coordinator.Billing.Claimable

open Gateway.Time Lib.Tables Lib.Runs Billing.Schema Billing.Claim Billing.Settlement
open Billing.Conservation Billing.Operations

/-! ### The evidence about one credit -/

/-- The route is about the credit. -/
def snapshotAbout (c : Credit) (r : RouteSnapshot) : Bool :=
  r.requestID == c.requestID && r.attemptN == c.attemptN && r.providerID == c.providerID

/-- The verdict is about the credit. -/
def verdictAbout (c : Credit) (r : ReceiptVerdict) : Bool :=
  r.requestID == c.requestID && r.attemptN == c.attemptN && r.providerID == c.providerID

/-- The output is about the credit. -/
def outputAbout (c : Credit) (r : AttemptOutput) : Bool :=
  r.requestID == c.requestID && r.attemptN == c.attemptN && r.providerID == c.providerID

/-- The evidence about the credit is the same. -/
@[mk_iff]
structure SameEvidence (c : Credit) (e e' : Evidence) : Prop where
  resolutions : e'.resolutions.filter (fun r => r.requestCreditID = c.id) =
    e.resolutions.filter fun r => r.requestCreditID = c.id
  snapshots : e'.snapshots.filter (snapshotAbout c) = e.snapshots.filter (snapshotAbout c)
  verdicts : e'.verdicts.filter (verdictAbout c) = e.verdicts.filter (verdictAbout c)
  outputs : e'.outputs.filter (outputAbout c) = e.outputs.filter (outputAbout c)

instance (c : Credit) (e e' : Evidence) : Decidable (SameEvidence c e e') :=
  decidable_of_iff _ (sameEvidence_iff c e e').symm

section Evidence
variable {c : Credit} {e e' : Evidence}

theorem verified_iff {scopeHash version : String} :
    e.verified c scopeHash version = true ↔
      ∃ srs ∈ e.snapshots.filter (snapshotAbout c), srs.mode = .enforce ∧
        srs.policyVersion = version ∧
        (∃ srv ∈ e.verdicts.filter (verdictAbout c), srv.accountScopeHash = scopeHash ∧
          srv.digest = srs.digest ∧ srv.mode = .enforce ∧ srv.policyVersion = version ∧
          srv.closed = true ∧ srv.outcome = .verified) ∧
        ∃ sao ∈ e.outputs.filter (outputAbout c), sao.accountScope = srs.accountScope ∧
          sao.overlappingOrDuplicate = false := by
  simp only [Evidence.verified, snapshotAbout, verdictAbout, outputAbout, List.any_eq_true,
    List.mem_filter, Bool.and_eq_true, beq_iff_eq, Bool.not_eq_true']
  constructor
  · rintro ⟨srs, hsrs, ⟨⟨⟨⟨⟨hr, ha⟩, hp⟩, hm⟩, hv⟩, srv, hsrv, h1⟩, sao, hsao, h2⟩
    obtain ⟨⟨⟨⟨⟨⟨⟨⟨s1, s2⟩, s3⟩, s4⟩, s5⟩, s6⟩, s7⟩, s8⟩, s9⟩ := h1
    obtain ⟨⟨⟨⟨o1, o2⟩, o3⟩, o4⟩, o5⟩ := h2
    exact ⟨srs, ⟨hsrs, ⟨hr, ha⟩, hp⟩, hm, hv,
      ⟨srv, ⟨hsrv, ⟨s2.trans hr, s3.trans ha⟩, s4.trans hp⟩, s1, s5, s6, s7, s8, s9⟩,
      sao, ⟨hsao, ⟨o2.trans hr, o3.trans ha⟩, o4.trans hp⟩, o1, o5⟩
  · rintro ⟨srs, ⟨hsrs, ⟨hr, ha⟩, hp⟩, hm, hv, ⟨srv, ⟨hsrv, ⟨t1, t2⟩, t3⟩, s1, s5, s6, s7, s8, s9⟩,
      sao, ⟨hsao, ⟨u1, u2⟩, u3⟩, o1, o5⟩
    exact ⟨srs, hsrs, ⟨⟨⟨⟨⟨hr, ha⟩, hp⟩, hm⟩, hv⟩, srv, hsrv,
      ⟨⟨⟨⟨⟨⟨⟨⟨s1, t1.trans hr.symm⟩, t2.trans ha.symm⟩, t3.trans hp.symm⟩, s5⟩, s6⟩, s7⟩, s8⟩, s9⟩⟩,
      sao, hsao, ⟨⟨⟨⟨o1, u1.trans hr.symm⟩, u2.trans ha.symm⟩, u3.trans hp.symm⟩, o5⟩⟩

theorem SameEvidence.policyAllows (h : SameEvidence c e e') :
    e'.policyAllows c = e.policyAllows c := by
  have hverified : ∀ scopeHash version,
      e'.verified c scopeHash version = e.verified c scopeHash version := by
    intro scopeHash version
    rw [Bool.eq_iff_iff, verified_iff, verified_iff, h.snapshots, h.verdicts, h.outputs]
  unfold Evidence.policyAllows
  simp only [hverified]

theorem SameEvidence.payable (h : SameEvidence c e e') (now : Instant) :
    e'.payable now c = e.payable now c := by
  have hmature : e'.forceCreditMaturity c.id = e.forceCreditMaturity c.id := by
    unfold Evidence.forceCreditMaturity Evidence.latestResolution
    rw [h.resolutions]
  unfold Evidence.payable Evidence.released
  rw [hmature, h.policyAllows]

theorem payable_mono {now now' : Instant} (hle : now ≤ now') (h : e.payable now c = true) :
    e.payable now' c = true := by
  simp only [Evidence.payable, Evidence.released, Bool.and_eq_true, Bool.or_eq_true,
    Option.any_eq_true, decide_eq_true_eq] at h ⊢
  refine ⟨h.1.imp_right ?_, h.2⟩
  rintro ⟨m, hm, hmle⟩
  exact ⟨m, hm, hmle.trans (Nat.div_le_div_right hle)⟩

end Evidence

/-- **What is eligible is payable**: clock and maturity are both cut to milliseconds. -/
theorem payable_of_eligible {l : Ledger} {start stop now : Instant} {c : Credit}
    (hc : c ∈ eligible l start stop now) : l.evidence.payable now c = true := by
  have hc := (List.mem_filter.mp hc).2
  simp only [Bool.and_eq_true, Evidence.released, Bool.or_eq_true, Option.any_eq_true,
    decide_eq_true_eq] at hc
  obtain ⟨⟨⟨-, hreleased⟩, hpolicy⟩, -⟩ := hc
  simp only [Evidence.payable, Evidence.released, Bool.and_eq_true, Bool.or_eq_true,
    Option.any_eq_true, decide_eq_true_eq]
  refine ⟨hreleased.imp_right ?_, hpolicy⟩
  rintro ⟨m, hm, hmle⟩
  exact ⟨m, hm, Nat.div_le_div_right hmle⟩

/-! ### Sources that nobody touches -/

/-- The sources and their evidence stay. -/
def Untouched (q : ℕ) (l l' : Ledger) : Prop :=
  ∀ c ∈ sources l q, c ∈ l'.credits.rows ∧ SameEvidence c l.evidence l'.evidence

/-- The clock goes on, and the sources of `q` stay. -/
def Calm (q : ℕ) (s : State) (op : Op) : Prop :=
  (∀ now ∈ op.time, s.clock ≤ now) ∧ Untouched q s.ledger (step s op).ledger

instance (q : ℕ) (l l' : Ledger) : Decidable (Untouched q l l') := by
  unfold Untouched; infer_instance

instance (q : ℕ) (s : State) (op : Op) : Decidable (Calm q s op) := by
  unfold Calm; infer_instance

/-- No credit is linked. -/
def NoNewSource (l l' : Ledger) : Prop :=
  ∀ q, ∀ c' ∈ sources l' q, ∃ c ∈ sources l q, c.id = c'.id

theorem noNewSource_of_credits_eq {l l' : Ledger} (h : l'.credits = l.credits) :
    NoNewSource l l' := by
  intro q c' hc'
  unfold sources at hc'
  rw [h] at hc'
  exact ⟨c', hc', rfl⟩

theorem noNewSource_update {l l' : Ledger} {p : Credit → Bool} {f : Credit → Credit}
    (hf : ∀ c, (f c).id = c.id) (hrows : l'.credits = l.credits.update p f hf)
    (hkeep : ∀ c, (f c).settlementID = c.settlementID) : NoNewSource l l' := by
  intro q c' hc'
  obtain ⟨hrow, hlink⟩ := mem_sources.mp hc'
  rw [hrows] at hrow
  obtain ⟨c, hc, rfl⟩ := Table.mem_update.mp hrow
  refine ⟨c, mem_sources.mpr ⟨hc, ?_⟩, ?_⟩
  · rw [← hlink]
    split_ifs
    · exact (hkeep c).symm
    · rfl
  · split_ifs
    · exact (hf c).symm
    · rfl

theorem noNewSource_quarantine (l : Ledger) (p : Credit → Bool) (reason : String) :
    NoNewSource l (quarantine l p reason) :=
  noNewSource_update (fun _ => by rfl) rfl fun _ => by rfl

theorem step_sources {s : State} (hb : Balanced s.ledger) (op : Op) {q : ℕ} {c' : Credit}
    (hc' : c' ∈ sources (step s op).ledger q) :
    (∃ c ∈ sources s.ledger q, c.id = c'.id) ∨
      ∃ cfg start stop now, op = .runSettlement cfg start stop now ∧
        ∃ c ∈ eligible (cleared stop s.ledger) start stop now,
          c' = linkCredit q c := by
  cases op with
  | insertCredit c o =>
    dsimp only [step] at hc'
    unfold insertCredit at hc'
    split at hc'
    · next t ht =>
      obtain ⟨hrow, hlink⟩ := mem_sources.mp hc'
      rw [(Table.insert_eq_some ht).2] at hrow
      rcases List.mem_append.mp hrow with hold | hnew
      · exact Or.inl ⟨c', mem_sources.mpr ⟨hold, hlink⟩, rfl⟩
      · obtain rfl := List.mem_singleton.mp hnew
        cases hlink
    · exact Or.inl ⟨c', hc', rfl⟩
  | syncReceipt id gross provider operator reason =>
    dsimp only [step] at hc'
    unfold syncReceipt at hc'
    split_ifs at hc'
    · exact Or.inl (noNewSource_update (f := Credit.synced gross provider reason) (fun _ => rfl)
        rfl (fun _ => rfl) q c' hc')
    · exact Or.inl ⟨c', hc', rfl⟩
  | quarantine p reason => exact Or.inl (noNewSource_quarantine s.ledger p reason q c' hc')
  | resolve r => exact Or.inl ⟨c', hc', rfl⟩
  | observe snapshots verdicts outputs => exact Or.inl ⟨c', hc', rfl⟩
  | runSettlement cfg start stop now =>
    obtain ⟨hrow, hlink⟩ := mem_sources.mp hc'
    have hfind : (runSettlement cfg start stop now s.ledger).credits.find? c'.id =
        some c' := Table.find?_eq_some.mpr ⟨hrow, rfl⟩
    rcases @runSettlement_credit cfg start stop now s.ledger c'.id with
      hsame | ⟨c, hc, id, -, hnew⟩
    · -- it was a source before, for the quarantines link nothing
      have hold := (Table.find?_eq_some.mp (hsame.symm.trans hfind)).1
      obtain ⟨c₁, hc₁, hid₁⟩ := noNewSource_quarantine _ _ _ q c' (mem_sources.mpr ⟨hold, hlink⟩)
      obtain ⟨c₂, hc₂, hid₂⟩ := noNewSource_quarantine _ _ _ q c₁ hc₁
      exact Or.inl ⟨c₂, hc₂, hid₂.trans hid₁⟩
    · obtain rfl := Option.some.inj (hnew.symm.trans hfind)
      obtain rfl : id = q := Option.some.inj hlink
      exact Or.inr ⟨cfg, start, stop, now, rfl, c, hc, rfl⟩
  | claimPayoutReady id gross externalID currency now =>
    exact Or.inl (noNewSource_of_credits_eq (claimPayoutReady_balanced hb).2 q c' hc')

/-! ### The claim -/

/-- Its sources are payable now, and it is not voided. -/
structure ClaimableAt (q : ℕ) (s : State) : Prop where
  balanced : Balanced s.ledger
  payable : ∀ c ∈ sources s.ledger q, s.ledger.evidence.payable s.clock c = true
  notVoided : ∀ p, s.ledger.payouts.find? q = some p → p.status ≠ .voided

section Claiming
variable {q : ℕ} {s : State} {now : Instant} {p : Payout}

theorem ClaimableAt.sourceSetValid (h : ClaimableAt q s) (hle : s.clock ≤ now)
    (hp : s.ledger.payouts.find? q = some p) : SourceSetValid s.ledger p now := by
  obtain rfl : p.id = q := Table.key_of_find? hp
  have hcons := balanced_conserved h.balanced hp
  have hall : (sources s.ledger p.id).filter (payableSource s.ledger p now) =
      sources s.ledger p.id := by
    rw [List.filter_eq_self]
    intro c hc
    obtain ⟨hsettled, hprov, hts⟩ := hcons.source c hc
    simp only [payableSource, Bool.and_eq_true, beq_iff_eq, decide_eq_true_eq]
    exact ⟨⟨⟨hsettled, hprov⟩, hts⟩, payable_mono hle (h.payable c hc)⟩
  have hpos := h.balanced.nonempty p.id p hp
  rw [hcons.count] at hpos
  refine ⟨by omega, ?_⟩
  unfold payableTotals
  simp only [hall]

theorem ClaimableAt.claim_eq (h : ClaimableAt q s) (hle : s.clock ≤ now)
    (hp : s.ledger.payouts.find? q = some p) (expectedGross : ℤ) (externalID currency : String) :
    claimPayoutReady q expectedGross externalID currency now s.ledger =
      consumePayout s.ledger p expectedGross externalID currency := by
  rw [h.balanced.claimPayoutReady_eq hp, if_neg]
  exact fun hn => hn.2 (h.sourceSetValid hle hp)

theorem status_updateReady {l : Ledger} {id : ℕ} {f : Payout → Payout} {hf : ∀ p, (f p).id = p.id}
    (hp : (updateReady l id f hf).payouts.find? q = some p) :
    ∃ p₀, l.payouts.find? q = some p₀ ∧
      (p = p₀ ∨ (q = id ∧ p₀.status = .ready ∧ p = f p₀)) := by
  have hfind := Table.find?_update l.payouts (fun p => p.id = id && p.status = .ready) f hf q
  obtain ⟨p₀, hp₀, rfl⟩ := Option.map_eq_some_iff.mp (hfind.symm.trans hp)
  refine ⟨p₀, hp₀, ?_⟩
  split_ifs with hif
  · simp only [Bool.and_eq_true, decide_eq_true_eq] at hif
    exact Or.inr ⟨(Table.key_of_find? hp₀).symm.trans hif.1, hif.2, rfl⟩
  · exact Or.inl rfl

theorem ClaimableAt.step_notVoided (h : ClaimableAt q s) {op : Op} (hcalm : Calm q s op)
    (hp : (step s op).ledger.payouts.find? q = some p) : p.status ≠ .voided := by
  cases op with
  | insertCredit | syncReceipt | quarantine | resolve | observe =>
    rw [step_payouts_eq rfl] at hp
    exact h.notVoided p hp
  | runSettlement cfg start stop now =>
    have hext := runSettlement_extends cfg start stop now s.ledger
    rcases hp₀ : s.ledger.payouts.find? q with _ | p₀
    · rw [hext.fresh hp hp₀]
      decide
    · obtain ⟨p', hp', hs⟩ := hext.kept hp₀
      obtain rfl := Option.some.inj (hp'.symm.trans hp)
      rw [hs]
      exact h.notVoided p₀ hp₀
  | claimPayoutReady id gross externalID currency now =>
    dsimp only [step] at hp
    rcases hid : s.ledger.payouts.find? id with _ | r
    · unfold claimPayoutReady at hp
      rw [hid] at hp
      exact h.notVoided p hp
    rw [h.balanced.claimPayoutReady_eq hid] at hp
    obtain rfl : r.id = id := Table.key_of_find? hid
    unfold consumePayout voidPayout at hp
    split_ifs at hp with hvoid hready
    · obtain ⟨p₀, hp₀, rfl | ⟨rfl, -, rfl⟩⟩ := status_updateReady hp
      · exact h.notVoided p hp₀
      · -- the sources are payable, so it is not this payout that the claim voids
        exact absurd (h.sourceSetValid (hcalm.1 now rfl) hid) hvoid.2
    · obtain ⟨p₀, hp₀, rfl | ⟨-, -, rfl⟩⟩ := status_updateReady hp
      · exact h.notVoided p hp₀
      · simp [Payout.consumedAs]
    · exact h.notVoided p hp

/-- **A calm step keeps the payout claimable.** -/
theorem step_claimable (h : ClaimableAt q s) {op : Op} (hcalm : Calm q s op) :
    ClaimableAt q (step s op) := by
  have hclock : s.clock ≤ (step s op).clock := by
    have htime := hcalm.1
    cases op with
    | runSettlement cfg start stop now => exact htime now rfl
    | claimPayoutReady id gross externalID currency now => exact htime now rfl
    | insertCredit | syncReceipt | quarantine | resolve | observe => exact le_refl s.clock
  refine ⟨step_balanced h.balanced op, fun c' hc' => ?_, fun p hp => h.step_notVoided hcalm hp⟩
  rcases step_sources h.balanced op hc' with
    ⟨c, hc, hid⟩ | ⟨cfg, start, stop, now, rfl, c, hc, rfl⟩
  · -- the source is the one it was
    obtain ⟨hrow, hsame⟩ := hcalm.2 c hc
    obtain rfl := List.inj_on_of_nodup_map (step s op).ledger.credits.nodup hrow
      (mem_sources.mp hc').1 hid
    rw [hsame.payable]
    exact payable_mono hclock (h.payable c hc)
  · have hpay := payable_of_eligible hc
    have hev : (step s (.runSettlement cfg start stop now)).ledger.evidence =
        s.ledger.evidence := runSettlement_evidence
    rw [hev]
    exact hpay

end Claiming

theorem start_claimable (q : ℕ) : ClaimableAt q start where
  balanced := start_balanced
  payable _ hc := by cases hc
  notVoided _ hp := by cases hp

/-- **What was settled can be claimed.** In a run in which the clock does not go back and nothing
touches the linked credits or their evidence, the payout is never voided; while it is ready, a claim
with its amount succeeds. -/
theorem settled_payout_can_be_claimed {q : ℕ} {s : State} (h : Reaches step (Calm q) start s)
    {p : Payout} (hp : s.ledger.payouts.find? q = some p) :
    p.status ≠ .voided ∧ (p.status = .ready → ∀ now, s.clock ≤ now → ∀ externalID currency,
      (claimPayoutReady q p.grossCredits externalID currency now s.ledger).1 = true ∧
        HasStatus (claimPayoutReady q p.grossCredits externalID currency now s.ledger).2 q
          .consumed) := by
  have hclaim : ClaimableAt q s := reaches_induction h (start_claimable q)
    fun s op hs hcalm => step_claimable hs hcalm
  refine ⟨hclaim.notVoided p hp, fun hready now hle externalID currency => ?_⟩
  obtain rfl : p.id = q := Table.key_of_find? hp
  rw [hclaim.claim_eq hle hp]
  unfold consumePayout
  rw [if_pos ⟨hready, rfl⟩]
  refine ⟨rfl, Payout.consumedAs p externalID currency, ?_, rfl⟩
  exact (find?_updateReady _ hp hready p.id).trans (if_pos rfl)

/-- A credit settled in the nanosecond its `force_credit` matures, and a second one. -/
def demoMatured : List Op :=
  [.insertCredit (demoCredit 1 3 100 70) 30, .quarantine (fun c => c.id == 1) "ambiguous_attempt_n",
    .resolve ⟨1, 1, .forceCredit, 5, some 20000005⟩, .runSettlement ⟨1⟩ 0 10 20000005,
    .insertCredit (demoCredit 2 4 200 140) 60, .runSettlement ⟨1⟩ 0 10 20000006]

theorem settled_payout_can_be_claimed_at_once :
    HasStatus (claimPayoutReady 1 300 "x" "USD" 20000006 (run step start demoMatured).ledger).2 1
      .consumed := by
  have hcalm : Reaches step (Calm 1) start (run step start demoMatured) :=
    reaches_of_allowed (by decide +kernel)
  have h : ((run step start demoMatured).ledger.payouts.find? 1).any
      (fun p => p.status = .ready && p.grossCredits = 300) = true := by
    decide +kernel
  obtain ⟨p, hp, hs⟩ := (Option.any_eq_true _ _).mp h
  simp only [Bool.and_eq_true, decide_eq_true_eq] at hs
  have hclaim := (settled_payout_can_be_claimed hcalm hp).2 hs.1 20000006
    (by decide +kernel) "x" "USD"
  rw [hs.2] at hclaim
  exact hclaim.2

end MacProvider.Coordinator.Billing.Claimable
