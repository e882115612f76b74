import MacProvider.Coordinator.Billing.Claim
import MacProvider.Coordinator.Billing.Settlement
import MacProvider.Lib.Runs

/-! # Conservation in the ledger

A settlement adds to the payout of a window and links the credits in a second statement. In a
`Balanced` ledger every payout is the sum of its linked credits; settlements and claims keep
this. -/

namespace MacProvider.Coordinator.Billing.Conservation

open Gateway.Time Lib.Tables Billing.Schema Billing.Claim Billing.Settlement

/-! ### Sums over the sources -/

/-- A sum over the credits of a payout. -/
def sourceSum (l : Ledger) (q : ℕ) (w : Credit → ℤ) : ℤ :=
  l.credits.sumWhere (fun c => c.settlementID = some q) w

/-- What the operator gets. -/
def operatorPart (c : Credit) : ℤ := c.grossCredits - c.providerCredits

theorem sum_operatorPart (g : List Credit) : (g.map operatorPart).sum =
    (g.map Credit.grossCredits).sum - (g.map Credit.providerCredits).sum := by
  induction g with
  | nil => rfl
  | cons c g ih =>
    simp only [List.map_cons, List.sum_cons, ih, operatorPart]
    omega

/-- What the credits of a payout add up to. -/
def linkedTotals (l : Ledger) (q : ℕ) : Totals where
  count := sourceSum l q fun _ => 1
  gross := sourceSum l q Credit.grossCredits
  provider := sourceSum l q Credit.providerCredits
  operator := sourceSum l q operatorPart

/-- **Balanced**: a credit is settled exactly if it is linked, to a payout of its provider whose
window ends behind it, and linked credits add up to their payout. -/
structure Balanced (l : Ledger) : Prop where
  settled : ∀ c ∈ l.credits.rows, c.settled = c.settlementID.isSome
  source : ∀ c ∈ l.credits.rows, ∀ q, c.settlementID = some q →
    ∃ p, l.payouts.find? q = some p ∧ c.providerID = p.providerID ∧ c.ts < p.windowEnd
  totals : ∀ q p, l.payouts.find? q = some p → PayoutMatchesSources p (linkedTotals l q)
  nonempty : ∀ q p, l.payouts.find? q = some p → 0 < p.sourceCreditCount

theorem sourceSum_eq (l : Ledger) (q : ℕ) (w : Credit → ℤ) :
    sourceSum l q w = ((sources l q).map w).sum := rfl

theorem sourceSum_one (l : Ledger) (q : ℕ) : sourceSum l q (fun _ => 1) = (sources l q).length := by
  rw [sourceSum_eq]
  simp

theorem Balanced.sourceSum_none {l : Ledger} (h : Balanced l) {q : ℕ}
    (hq : l.payouts.find? q = none) (w : Credit → ℤ) : sourceSum l q w = 0 := by
  have hnil : sources l q = [] := by
    unfold sources
    rw [List.filter_eq_nil_iff]
    intro c hc hlink
    obtain ⟨p, hp, -⟩ := h.source c hc q (by simpa using hlink)
    rw [hq] at hp
    cases hp
  rw [sourceSum_eq, hnil]
  rfl

/-- Link, provider and date stay, and the money if it is linked. -/
structure KeepsLink (c c' : Credit) : Prop where
  settled : c'.settled = c.settled
  settlementID : c'.settlementID = c.settlementID
  providerID : c'.providerID = c.providerID
  ts : c'.ts = c.ts
  gross : c.settlementID ≠ none → c'.grossCredits = c.grossCredits
  provider : c.settlementID ≠ none → c'.providerCredits = c.providerCredits

section Update
variable {l l' : Ledger} {p : Credit → Bool} {f : Credit → Credit}

theorem sourceSum_update {hf : ∀ c, (f c).id = c.id}
    (hrows : l'.credits = l.credits.update p f hf) {q : ℕ} {w : Credit → ℤ}
    (hlink : ∀ c ∈ l.credits.rows, p c = true → (f c).settlementID = c.settlementID)
    (hw : ∀ c ∈ l.credits.rows, p c = true → c.settlementID ≠ none → w (f c) = w c) :
    sourceSum l' q w = sourceSum l q w := by
  unfold sourceSum
  rw [hrows, Table.sumWhere_update_add (d := fun _ => 0)]
  · simp [Table.sumWhere]
  · intro c hc hp
    simp only [Table.weight, hlink c hc hp, decide_eq_true_eq, add_zero]
    split_ifs with hq
    · exact hw c hc hp (by simp [hq])
    · rfl

theorem Balanced.update (h : Balanced l) (hf : ∀ c, (f c).id = c.id)
    (hrows : l'.credits = l.credits.update p f hf) (hpay : l'.payouts = l.payouts)
    (hkeep : ∀ c ∈ l.credits.rows, p c = true → KeepsLink c (f c)) : Balanced l' := by
  have hsum : ∀ {q : ℕ} {w : Credit → ℤ},
      (∀ c ∈ l.credits.rows, p c = true → c.settlementID ≠ none → w (f c) = w c) →
      sourceSum l' q w = sourceSum l q w := fun hw =>
    sourceSum_update hrows (fun c hc hp => (hkeep c hc hp).settlementID) hw
  refine ⟨?_, ?_, fun q r hr => ?_, hpay ▸ h.nonempty⟩
  · rw [hrows]
    refine Table.forall_update hf h.settled fun c hc hp hs => ?_
    rw [(hkeep c hc hp).settled, (hkeep c hc hp).settlementID, hs]
  · rw [hrows, hpay]
    refine Table.forall_update hf h.source fun c hc hp hs q hq => ?_
    rw [(hkeep c hc hp).settlementID] at hq
    rw [(hkeep c hc hp).providerID, (hkeep c hc hp).ts]
    exact hs q hq
  · rw [hpay] at hr
    have htotals : linkedTotals l' q = linkedTotals l q := by
      unfold linkedTotals operatorPart
      rw [hsum fun c _ _ _ => rfl, hsum fun c hc hp hn => (hkeep c hc hp).gross hn,
        hsum fun c hc hp hn => (hkeep c hc hp).provider hn,
        hsum fun c hc hp hn => by rw [(hkeep c hc hp).gross hn, (hkeep c hc hp).provider hn]]
    rw [htotals]
    exact h.totals q r hr

end Update

/-! ### One provider of a settlement -/

/-- The credit is settled with the payout. -/
def linkCredit (id : ℕ) (c : Credit) : Credit :=
  { c with settled := true, settlementID := some id }

theorem linkCredit_id (id : ℕ) (c : Credit) : (linkCredit id c).id = c.id := rfl

theorem linkCredit_settlementID (id : ℕ) (c : Credit) :
    (linkCredit id c).settlementID = some id := rfl

/-- The second statement: the group is linked. -/
def linkGroup (id : ℕ) (group : List Credit) (l : Ledger) : Ledger :=
  { l with
    credits := l.credits.update (fun c => (group.map Credit.id).contains c.id) (linkCredit id)
      (linkCredit_id id) }

/-- The first statement: the amounts of the group go to a ready payout, or a new one. -/
structure Upserts (providerID : String) (windowEnd : Instant) (group : List Credit)
    (id : ℕ) (p₀ : Payout) (l l' : Ledger) : Prop where
  credits : l'.credits = l.credits
  evidence : l'.evidence = l.evidence
  providerID : p₀.providerID = providerID
  windowEnd : p₀.windowEnd = windowEnd
  ready : p₀.status = .ready
  payouts : ∀ q, l'.payouts.find? q = if q = id then some (Payout.add p₀ group)
    else l.payouts.find? q
  start : l.payouts.find? id = some p₀ ∨ (l.payouts.find? id = none ∧
    p₀.sourceCreditCount = 0 ∧ p₀.grossCredits = 0 ∧ p₀.providerCredits = 0 ∧
    p₀.operatorCredits = 0)

section Provider
variable {cfg : SettlementConfig} {start stop now : Instant} {pid : String}
  {group due : List Credit} {l l' : Ledger} {id : ℕ} {p₀ : Payout}

theorem upsertPayout_cases :
    upsertPayout cfg pid start stop now group l = (l, none) ∨
      ∃ l' id p₀, upsertPayout cfg pid start stop now group l = (l', some id) ∧
        Upserts pid stop group id p₀ l l' := by
  unfold upsertPayout
  dsimp only
  split
  · next p hp =>
    have hmem := List.mem_of_find?_eq_some hp
    have hwin := List.find?_some hp
    simp only [Bool.and_eq_true, decide_eq_true_eq] at hwin
    have hfind : l.payouts.find? p.id = some p := Table.find?_eq_some.mpr ⟨hmem, rfl⟩
    split_ifs with hready
    · refine Or.inr ⟨_, p.id, p, rfl, rfl, rfl, hwin.1.1, hwin.2, hready, fun q => ?_, Or.inl hfind⟩
      refine (Table.find?_update l.payouts (fun q => q.id = p.id) (fun q => Payout.add q group)
        (fun _ => rfl) q).trans ?_
      split_ifs with hq
      · rw [hq, hfind]
        simp
      · rcases hr : l.payouts.find? q with _ | r
        · rfl
        · have hne : r.id ≠ p.id := fun h => hq (h ▸ (Table.key_of_find? hr).symm)
          simp [hne]
    · exact Or.inl rfl
  · split
    · next t ht =>
      refine Or.inr ⟨_, nextPayoutID l,
        { id := nextPayoutID l, providerID := pid, windowStart := start, windowEnd := stop,
          sourceCreditCount := 0, grossCredits := 0, providerCredits := 0, operatorCredits := 0,
          minPayoutCredits := cfg.minPayoutCredits, payoutCurrency := none,
          payoutExternalID := none, status := .ready, createdAt := now },
        rfl, rfl, rfl, rfl, rfl, rfl, fun q => ?_,
        Or.inr ⟨(Table.insert_eq_some ht).1, rfl, rfl, rfl, rfl⟩⟩
      rw [Table.find?_insert ht]
      simp only [eq_comm (a := q), Payout.add, zero_add]
    · exact Or.inl rfl

/-- **What one turn of the loop does.** -/
theorem settleProvider_cases :
    settleProvider cfg start stop now due l pid = l ∨
      ∃ l' id p₀, Upserts pid stop (due.filter fun c => c.providerID = pid)
          id p₀ l l' ∧
        settleProvider cfg start stop now due l pid =
          linkGroup id (due.filter fun c => c.providerID = pid) l' := by
  unfold settleProvider
  dsimp only
  split_ifs
  · rcases @upsertPayout_cases cfg start stop now pid
      (due.filter fun c => c.providerID = pid) l with h | ⟨l', id, p₀, h, hup⟩
    · rw [h]
      exact Or.inl rfl
    · rw [h]
      exact Or.inr ⟨l', id, p₀, hup, rfl⟩
  · exact Or.inl rfl

/-- The credits of a group before they are linked. -/
structure Unlinked (providerID : String) (windowEnd : Instant) (group : List Credit) (l : Ledger) :
    Prop where
  mem : ∀ c ∈ group, c ∈ l.credits.rows
  nodup : (group.map Credit.id).Nodup
  link : ∀ c ∈ group, c.settlementID = none
  provider : ∀ c ∈ group, c.providerID = providerID
  before : ∀ c ∈ group, c.ts < windowEnd

theorem Unlinked.mem_of_id (hg : Unlinked pid stop group l) {c : Credit}
    (hc : c ∈ l.credits.rows) (hid : (group.map Credit.id).contains c.id = true) : c ∈ group := by
  obtain ⟨x, hx, hxid⟩ := List.mem_map.mp (List.contains_iff_mem.mp hid)
  rwa [← List.inj_on_of_nodup_map l.credits.nodup (hg.mem x hx) hc hxid]

theorem sourceSum_linkGroup (hg : Unlinked pid stop group l) {q : ℕ} {w : Credit → ℤ}
    (hw : ∀ c, w (linkCredit id c) = w c) :
    sourceSum (linkGroup id group l) q w =
      sourceSum l q w + if q = id then (group.map w).sum else 0 := by
  unfold sourceSum linkGroup
  rw [Table.sumWhere_update_add (d := fun c => if q = id then w c else 0),
    Table.sumWhere_keys hg.mem hg.nodup]
  · split_ifs <;> simp
  · intro c hc hid
    have hnone := hg.link c (hg.mem_of_id hc hid)
    simp only [Table.weight, hnone, hw, linkCredit_settlementID, Option.some.injEq,
      decide_eq_true_eq, eq_comm (a := id), reduceCtorEq, if_false, zero_add]

theorem Balanced.linkGroup (h : Balanced l) (hup : Upserts pid stop group id p₀ l l')
    (hg : Unlinked pid stop group l) (hne : group ≠ []) : Balanced (linkGroup id group l') := by
  have hg' : Unlinked pid stop group l' := by
    refine ⟨?_, hg.nodup, hg.link, hg.provider, hg.before⟩
    rw [hup.credits]
    exact hg.mem
  have hsum : ∀ q w, sourceSum l' q w = sourceSum l q w := fun q w => by
    unfold sourceSum
    rw [hup.credits]
  refine ⟨?_, ?_, fun q p hp => ?_, fun q p hp => ?_⟩
  · refine Table.forall_update (linkCredit_id id) ?_ fun c hc hid hs => rfl
    rw [hup.credits]
    exact h.settled
  · refine Table.forall_update (linkCredit_id id) ?_ fun c hc hid hs q hq => ?_
    · intro c hc q hq
      rw [hup.credits] at hc
      obtain ⟨p, hp, hprov, hts⟩ := h.source c hc q hq
      change ∃ p, l'.payouts.find? q = some p ∧ _
      rw [hup.payouts q]
      split_ifs with hqid
      · -- a source of the payout that grows
        subst hqid
        rcases hup.start with hp₀ | ⟨hnone, -⟩
        · obtain rfl := Option.some.inj (hp.symm.trans hp₀)
          exact ⟨_, rfl, hprov, hts⟩
        · rw [hnone] at hp
          cases hp
      · exact ⟨p, hp, hprov, hts⟩
    · have hmem := hg'.mem_of_id hc hid
      obtain rfl : id = q := Option.some.inj hq
      refine ⟨Payout.add p₀ group, ?_, ?_, ?_⟩
      · change l'.payouts.find? id = _
        rw [hup.payouts, if_pos rfl]
      · exact (hg.provider c hmem).trans hup.providerID.symm
      · exact (hg.before c hmem).trans_eq hup.windowEnd.symm
  · have hp' : l'.payouts.find? q = some p := hp
    rw [hup.payouts q] at hp'
    have hlinked : ∀ w : Credit → ℤ,
        (∀ c, w (linkCredit id c) = w c) →
        sourceSum (Conservation.linkGroup id group l') q w =
          sourceSum l q w + if q = id then (group.map w).sum else 0 := fun w hw => by
      rw [sourceSum_linkGroup hg' hw, hsum]
    have h1 := hlinked (fun _ => 1) fun _ => rfl
    have h2 := hlinked Credit.grossCredits fun _ => rfl
    have h3 := hlinked Credit.providerCredits fun _ => rfl
    have h4 := hlinked operatorPart fun _ => rfl
    unfold linkedTotals
    rw [h1, h2, h3, h4]
    split_ifs at hp' ⊢ with hqid
    · subst hqid
      obtain rfl := Option.some.inj hp'
      -- before, the amounts were the sums, or there was no payout and no source
      obtain ⟨e1, e2, e3, e4⟩ : PayoutMatchesSources p₀ (linkedTotals l q) := by
        rcases hup.start with hp₀ | ⟨hnone, z1, z2, z3, z4⟩
        · exact h.totals q p₀ hp₀
        · unfold PayoutMatchesSources linkedTotals
          simp only [h.sourceSum_none hnone]
          exact ⟨z1, z2, z3, z4⟩
      simp only [linkedTotals] at e1 e2 e3 e4
      have hop := sum_operatorPart group
      refine ⟨?_, ?_, ?_, ?_⟩
      · simp [Payout.add, e1]
      · simp [Payout.add, e2]
      · simp [Payout.add, e3]
      · simp [Payout.add, e4, hop]
    · simp only [add_zero]
      exact h.totals q p hp'
  · have hp' : l'.payouts.find? q = some p := hp
    rw [hup.payouts q] at hp'
    split_ifs at hp' with hqid
    · obtain rfl := Option.some.inj hp'
      have hpos := List.length_pos_of_ne_nil hne
      have hstart : 0 ≤ p₀.sourceCreditCount := by
        rcases hup.start with hp₀ | ⟨-, hzero, -⟩
        · exact (h.nonempty id p₀ hp₀).le
        · exact hzero.ge
      simp only [Payout.add]
      omega
    · exact h.nonempty q p hp'

/-! ### The loop over the providers -/

/-- A credit stays, or it is due and is linked. -/
structure Pays (due : List Credit) (l l' : Ledger) : Prop where
  evidence : l'.evidence = l.evidence
  credit : ∀ k, l'.credits.find? k = l.credits.find? k ∨ k ∈ due.map Credit.id ∧
    ∃ c id, l.credits.find? k = some c ∧ l'.credits.find? k = some (linkCredit id c)

theorem Pays.refl (due : List Credit) (l : Ledger) : Pays due l l := ⟨rfl, fun _ => Or.inl rfl⟩

theorem Pays.trans {l'' : Ledger} (h : Pays due l l') (h' : Pays due l' l'') : Pays due l l'' := by
  refine ⟨h'.evidence.trans h.evidence, fun k => ?_⟩
  rcases h.credit k with hk | ⟨hdue, c, id, hc, hk⟩
  · rw [← hk]
    exact h'.credit k
  · refine Or.inr ⟨hdue, c, ?_⟩
    rcases h'.credit k with hk' | ⟨-, c', id', hc', hk'⟩
    · exact ⟨id, hc, hk'.trans hk⟩
    · obtain rfl := Option.some.inj (hk.symm.trans hc')
      exact ⟨id', hc, hk'⟩

theorem settleProvider_pays :
    Pays (due.filter fun c => c.providerID = pid) l
      (settleProvider cfg start stop now due l pid) := by
  rcases @settleProvider_cases cfg start stop now pid due l with
    heq | ⟨l', id, p₀, hup, heq⟩
  · rw [heq]
    exact Pays.refl _ l
  rw [heq]
  refine ⟨hup.evidence, fun k => ?_⟩
  have hfind := Table.find?_update l'.credits
    (fun c => ((due.filter fun c => c.providerID = pid).map Credit.id).contains c.id)
    (linkCredit id) (linkCredit_id id) k
  dsimp only [linkGroup]
  rw [hfind, hup.credits]
  rcases hc : l.credits.find? k with _ | c
  · exact Or.inl rfl
  · dsimp only [Option.map_some]
    split_ifs with hin
    · rw [Table.key_of_find? hc] at hin
      exact Or.inr ⟨List.contains_iff_mem.mp hin, c, id, rfl, rfl⟩
    · exact Or.inl rfl

theorem foldl_pays : ∀ (ps : List String) (l : Ledger),
    Pays due l (ps.foldl (settleProvider cfg start stop now due) l)
  | [], l => Pays.refl due l
  | p :: ps, l => by
    have hfirst := @settleProvider_pays cfg start stop now p due l
    refine Pays.trans ⟨hfirst.evidence, fun k => ?_⟩ (foldl_pays ps _)
    exact (hfirst.credit k).imp_right fun h => ⟨(List.filter_sublist.map _).subset h.1, h.2⟩

/-- Unlinked, before the end of the window. -/
structure Due (windowEnd : Instant) (due : List Credit) : Prop where
  nodup : (due.map Credit.id).Nodup
  link : ∀ c ∈ due, c.settlementID = none
  before : ∀ c ∈ due, c.ts < windowEnd

theorem Due.unlinked (h : Due stop due)
    (hmem : ∀ c ∈ due, c.providerID = pid → c ∈ l.credits.rows) :
    Unlinked pid stop (due.filter fun c => c.providerID = pid) l where
  mem c hc := by
    obtain ⟨hc, hp⟩ := List.mem_filter.mp hc
    exact hmem c hc (by simpa using hp)
  nodup := h.nodup.sublist (List.filter_sublist.map _)
  link c hc := h.link c (List.mem_of_mem_filter hc)
  provider c hc := by simpa using (List.mem_filter.mp hc).2
  before c hc := h.before c (List.mem_of_mem_filter hc)

theorem settleProvider_balanced (h : Balanced l) (hdue : Due stop due)
    (hsome : ∃ c ∈ due, c.providerID = pid)
    (hmem : ∀ c ∈ due, c.providerID = pid → c ∈ l.credits.rows) :
    Balanced (settleProvider cfg start stop now due l pid) := by
  have hne : due.filter (fun c => c.providerID = pid) ≠ [] := by
    obtain ⟨c, hc, hp⟩ := hsome
    exact List.ne_nil_of_mem (List.mem_filter.mpr ⟨hc, by simpa using hp⟩)
  rcases @settleProvider_cases cfg start stop now pid due l with
    heq | ⟨l', id, p₀, hup, heq⟩
  · rw [heq]
    exact h
  · rw [heq]
    exact h.linkGroup hup (hdue.unlinked hmem) hne

theorem foldl_balanced (hdue : Due stop due) :
    ∀ (ps : List String) (l : Ledger), ps.Nodup → (∀ p ∈ ps, ∃ c ∈ due, c.providerID = p) →
      Balanced l → (∀ c ∈ due, c.providerID ∈ ps → c ∈ l.credits.rows) →
      Balanced (ps.foldl (settleProvider cfg start stop now due) l)
  | [], _, _, _, h, _ => h
  | p :: ps, l, hnd, hps, h, hmem => by
    obtain ⟨hp, hnd⟩ := List.nodup_cons.mp hnd
    have hfirst := @settleProvider_balanced cfg start stop now p due l h hdue
      (hps p List.mem_cons_self) fun c hc he => hmem c hc (he ▸ List.mem_cons_self)
    refine foldl_balanced hdue ps _ hnd (fun q hq => hps q (List.mem_cons_of_mem p hq)) hfirst
      fun c hc hin => ?_
    -- a credit of another provider stays
    have hfind : l.credits.find? c.id = some c :=
      Table.find?_eq_some.mpr ⟨hmem c hc (List.mem_cons_of_mem p hin), rfl⟩
    rcases (@settleProvider_pays cfg start stop now p due l).credit c.id with
      hk | ⟨hid, -⟩
    · exact (Table.find?_eq_some.mp (hk.trans hfind)).1
    · obtain ⟨x, hx, hxid⟩ := List.mem_map.mp hid
      obtain ⟨hxdue, hxp⟩ := List.mem_filter.mp hx
      obtain rfl := List.inj_on_of_nodup_map hdue.nodup hxdue hc hxid
      exact absurd hin (of_decide_eq_true hxp ▸ hp)

theorem quarantine_balanced (h : Balanced l) (p : Credit → Bool) (reason : String) :
    Balanced (quarantine l p reason) :=
  h.update (fun _ => by rfl) rfl rfl fun _ _ _ =>
    ⟨rfl, rfl, rfl, rfl, fun _ => rfl, fun _ => rfl⟩

theorem eligible_due (l : Ledger) (start stop now : Instant) :
    Due stop (eligible l start stop now) := by
  refine ⟨l.credits.nodup.sublist (List.filter_sublist.map _), fun c hc => ?_, fun c hc => ?_⟩
  · have hc := (List.mem_filter.mp hc).2
    simp only [Bool.and_eq_true, Option.isNone_iff_eq_none] at hc
    exact hc.1.1.1.2
  · have hc := (List.mem_filter.mp hc).2
    simp only [Bool.and_eq_true, decide_eq_true_eq] at hc
    exact hc.1.1.1.1.1

/-- The suspicious credits are quarantined. -/
def cleared (windowEnd : Instant) (l : Ledger) : Ledger :=
  let before := fun c : Credit => decide (c.ts < windowEnd) && !c.settled && !c.quarantined
  let l := quarantine l (fun c => before c && c.settlementID.isSome) "conflicting_settlement_id"
  quarantine l (fun c => before c && c.settlementID.isNone && operatorSplitMismatch l c)
    "operator_split_mismatch"

theorem cleared_balanced (h : Balanced l) (stop : Instant) : Balanced (cleared stop l) :=
  quarantine_balanced (quarantine_balanced h _ _) _ _

theorem runSettlement_balanced (h : Balanced l) :
    Balanced (runSettlement cfg start stop now l) := by
  refine foldl_balanced (eligible_due _ start stop now) _ _ (nodup_eraseDups _)
    (fun p hp => ?_) (cleared_balanced h stop) fun _ hc _ => List.mem_of_mem_filter hc
  exact List.mem_map.mp (List.mem_eraseDups.mp hp)

/-! ### One credit of a settlement -/

variable {k : ℕ} {c : Credit}

theorem runSettlement_evidence : (runSettlement cfg start stop now l).evidence = l.evidence :=
  (@foldl_pays cfg start stop now _ _ _).evidence

/-- **A settlement links what is eligible**, and nothing else. -/
theorem runSettlement_credit (k : ℕ) :
    (runSettlement cfg start stop now l).credits.find? k =
        (cleared stop l).credits.find? k ∨
      ∃ c ∈ eligible (cleared stop l) start stop now, ∃ id,
        (cleared stop l).credits.find? k = some c ∧
        (runSettlement cfg start stop now l).credits.find? k = some (linkCredit id c) := by
  refine ((foldl_pays _ _).credit k).imp_right fun ⟨hid, c, id, hc, hlink⟩ => ?_
  obtain ⟨x, hx, rfl⟩ := List.mem_map.mp hid
  have hfind : (cleared stop l).credits.find? x.id = some x :=
    Table.find?_eq_some.mpr ⟨List.mem_of_mem_filter hx, rfl⟩
  obtain rfl := Option.some.inj (hfind.symm.trans hc)
  exact ⟨x, hx, id, hfind, hlink⟩

theorem cleared_credit (hc : l.credits.find? k = some c) :
    (cleared stop l).credits.find? k = some c ∨ c.quarantined = false ∧ ∃ reason,
      (cleared stop l).credits.find? k =
        some { c with quarantined := true, quarantineReason := reason } := by
  unfold cleared quarantine
  rw [Table.find?_update, Table.find?_update, hc]
  rcases hq : c.quarantined with _ | _
  · dsimp only [Option.map_some]
    split_ifs
    · exact Or.inr ⟨rfl, _, rfl⟩
    · exact Or.inr ⟨rfl, _, rfl⟩
    · exact Or.inr ⟨rfl, _, rfl⟩
    · exact Or.inl rfl
  · simp [hq]

/-- A credit a settlement adds to a payout: of its provider and window, unlinked, not held back. -/
def joins (l : Ledger) (now : Instant) (p : Payout) (c : Credit) : Bool :=
  c.providerID == p.providerID && decide (c.ts < p.windowEnd) && !c.settled &&
    c.settlementID.isNone && l.evidence.released (fun m => m ≤ now) c

theorem exists_joins {p : Payout} (hc : c ∈ eligible (cleared p.windowEnd l) start p.windowEnd now)
    (hprovider : c.providerID = p.providerID) : ∃ x ∈ l.credits.rows, joins l now p x = true := by
  obtain ⟨hmem, hdue⟩ := List.mem_filter.mp hc
  simp only [Bool.and_eq_true, decide_eq_true_eq, Bool.not_eq_true'] at hdue
  obtain ⟨⟨⟨⟨⟨hts, hsettled⟩, hlink⟩, hreleased⟩, -⟩, -⟩ := hdue
  have hfind : (cleared p.windowEnd l).credits.find? c.id = some c :=
    Table.find?_eq_some.mpr ⟨hmem, rfl⟩
  rcases hx : l.credits.find? c.id with _ | x
  · unfold cleared quarantine at hfind
    rw [Table.find?_update, Table.find?_update, hx] at hfind
    cases hfind
  have hrow := (Table.find?_eq_some.mp hx).1
  rcases @cleared_credit p.windowEnd l c.id x hx with hkept | ⟨hfree, reason, hkept⟩
  · obtain rfl := Option.some.inj (hkept.symm.trans hfind)
    exact ⟨x, hrow, by simp_all [joins, cleared, quarantine]⟩
  · obtain rfl := Option.some.inj (hkept.symm.trans hfind)
    exact ⟨x, hrow, by simp_all [joins, Evidence.released]⟩

theorem settleProvider_payout {q : ℕ} {p : Payout} (hp : l.payouts.find? q = some p)
    (hne : p.providerID = pid → p.windowEnd ≠ stop) :
    (settleProvider cfg start stop now due l pid).payouts.find? q = some p := by
  rcases @settleProvider_cases cfg start stop now pid due l with heq | ⟨l', id, p₀, hup, heq⟩
  · rw [heq, hp]
  rw [heq]
  refine (hup.payouts q).trans ?_
  split_ifs with hq
  · -- the payout that grows is one of the provider and the window
    subst hq
    rcases hup.start with hp₀ | ⟨hnone, -⟩
    · obtain rfl := Option.some.inj (hp.symm.trans hp₀)
      exact absurd hup.windowEnd (hne hup.providerID)
    · rw [hp] at hnone
      cases hnone
  · exact hp

theorem foldl_payout {q : ℕ} {p : Payout} : ∀ (ps : List String) (l : Ledger),
    l.payouts.find? q = some p → (∀ pid ∈ ps, p.providerID = pid → p.windowEnd ≠ stop) →
      (ps.foldl (settleProvider cfg start stop now due) l).payouts.find? q = some p
  | [], _, hp, _ => hp
  | pid :: ps, _, hp, hne =>
    foldl_payout ps _ (settleProvider_payout hp (hne pid List.mem_cons_self))
      fun x hx => hne x (List.mem_cons_of_mem pid hx)

/-- **A payout that no credit joins stays.** -/
theorem runSettlement_payout {q : ℕ} {p : Payout} (hp : l.payouts.find? q = some p)
    (hnone : p.windowEnd = stop → ∀ c ∈ l.credits.rows, joins l now p c = false) :
    (runSettlement cfg start stop now l).payouts.find? q = some p := by
  refine foldl_payout _ (cleared stop l) hp fun pid hpid hprovider hend => ?_
  obtain ⟨c, hc, hcp⟩ := List.mem_map.mp (List.mem_eraseDups.mp hpid)
  subst hend
  obtain ⟨x, hx, hjoins⟩ := exists_joins hc (hcp.trans hprovider.symm)
  exact absurd hjoins (by simp [hnone rfl x hx])

/-- A settlement links a credit or quarantines it. -/
structure SameBill (c c' : Credit) : Prop where
  request : c'.requestID = c.requestID
  attempt : c'.attemptN = c.attemptN
  provider : c'.providerID = c.providerID
  gross : c'.grossCredits = c.grossCredits
  share : c'.providerCredits = c.providerCredits
  free : c'.quarantined = false → c.quarantined = false
  link : c.settlementID ≠ none → c'.settlementID = c.settlementID

theorem cleared_sameBill (hc : l.credits.find? k = some c) :
    ∃ c', (cleared stop l).credits.find? k = some c' ∧ SameBill c c' := by
  rcases @cleared_credit stop l k c hc with h | ⟨-, reason, h⟩
  · exact ⟨c, h, rfl, rfl, rfl, rfl, rfl, id, fun _ => rfl⟩
  · exact ⟨_, h, rfl, rfl, rfl, rfl, rfl, (fun h => by cases h), fun _ => rfl⟩

theorem runSettlement_sameBill (hc : l.credits.find? k = some c) :
    ∃ c', (runSettlement cfg start stop now l).credits.find? k = some c' ∧
      SameBill c c' := by
  obtain ⟨x, hx, hsame⟩ := @cleared_sameBill stop l k c hc
  rcases @runSettlement_credit cfg start stop now l k with h | ⟨y, hy, id, hfind, h⟩
  · exact ⟨x, h.trans hx, hsame⟩
  · obtain rfl := Option.some.inj (hx.symm.trans hfind)
    refine ⟨_, h, hsame.request, hsame.attempt, hsame.provider, hsame.gross, hsame.share,
      hsame.free, fun hne => ?_⟩
    have hnone := (eligible_due _ start stop now).link x hy
    rw [hsame.link hne] at hnone
    exact absurd hnone hne

end Provider

/-! ### A claim -/

section Claimed
variable {id : ℕ} {expectedGross : ℤ} {externalID currency : String} {now : Instant}
  {l : Ledger} {p : Payout}

theorem payableTotals_of_valid (h : SourceSetValid l p now) :
    payableTotals l p now = linkedTotals l p.id := by
  have hall : (sources l p.id).filter (payableSource l p now) = sources l p.id := by
    have hlen : ((sources l p.id).length : ℤ) =
      ((sources l p.id).filter (payableSource l p now)).length := h.2
    exact List.filter_sublist.eq_of_length (by exact_mod_cast hlen.symm)
  unfold payableTotals linkedTotals
  simp only [hall, sourceSum_one]
  rfl

theorem Balanced.unlinkSources_eq (h : Balanced l) : unlinkSources l p now = l := by
  have hcredits : (unlinkSources l p now).credits = l.credits := by
    refine Table.update_eq_self
      (f := fun c : Credit => { c with settled := false, settlementID := none })
      (fun _ => rfl) fun c hc hp => ?_
    simp only [Bool.and_eq_true, decide_eq_true_eq, Bool.not_eq_true'] at hp
    have hs := h.settled c hc
    rw [hp.1.1, hp.2] at hs
    cases hs
  exact congrArg (fun t => { l with credits := t }) hcredits

/-- **A claim of a balanced payout** voids it or consumes it. -/
theorem Balanced.claimPayoutReady_eq (h : Balanced l) (hp : l.payouts.find? id = some p) :
    claimPayoutReady id expectedGross externalID currency now l =
      if p.status = .ready ∧ ¬ SourceSetValid l p now then (false, voidPayout l p.id)
      else consumePayout l p expectedGross externalID currency := by
  have hid : p.id = id := Table.key_of_find? hp
  unfold claimPayoutReady
  rw [hp]
  dsimp only
  rw [h.unlinkSources_eq]
  split_ifs with h1 h2
  · rfl
  iterate 2
    have hvalid : SourceSetValid l p now := not_not.mp fun hn => h1 ⟨h2.1, hn⟩
    rw [payableTotals_of_valid hvalid, hid] at h2
    exact absurd (h.totals id p hp) h2.2
  · rfl

/-- The window and the amounts are kept. -/
structure KeepsAmounts (p p' : Payout) : Prop where
  providerID : p'.providerID = p.providerID
  windowEnd : p'.windowEnd = p.windowEnd
  count : p'.sourceCreditCount = p.sourceCreditCount
  gross : p'.grossCredits = p.grossCredits
  provider : p'.providerCredits = p.providerCredits
  operator : p'.operatorCredits = p.operatorCredits

theorem Balanced.updateReady (h : Balanced l) {id : ℕ} {f : Payout → Payout}
    {hf : ∀ p, (f p).id = p.id} (hkeep : ∀ p, KeepsAmounts p (f p)) :
    Balanced (updateReady l id f hf) := by
  have hfind : ∀ q, (Claim.updateReady l id f hf).payouts.find? q =
      (l.payouts.find? q).map fun p => if p.id = id && p.status = .ready then f p else p :=
    Table.find?_update l.payouts _ f hf
  refine ⟨h.settled, fun c hc q hq => ?_, fun q p hp => ?_, fun q p hp => ?_⟩
  · obtain ⟨p, hp, hprov, hts⟩ := h.source c hc q hq
    rw [hfind, hp]
    refine ⟨_, rfl, ?_⟩
    dsimp only
    split_ifs
    · rw [(hkeep p).providerID, (hkeep p).windowEnd]
      exact ⟨hprov, hts⟩
    · exact ⟨hprov, hts⟩
  · rw [hfind] at hp
    obtain ⟨r, hr, rfl⟩ := Option.map_eq_some_iff.mp hp
    obtain ⟨e1, e2, e3, e4⟩ := h.totals q r hr
    split_ifs
    · exact ⟨(hkeep r).count.trans e1, (hkeep r).gross.trans e2, (hkeep r).provider.trans e3,
        (hkeep r).operator.trans e4⟩
    · exact ⟨e1, e2, e3, e4⟩
  · rw [hfind] at hp
    obtain ⟨r, hr, rfl⟩ := Option.map_eq_some_iff.mp hp
    have hpos := h.nonempty q r hr
    split_ifs
    · exact hpos.trans_eq (hkeep r).count.symm
    · exact hpos

/-- **A claim keeps the balance** and all credits. -/
theorem claimPayoutReady_balanced (h : Balanced l) :
    Balanced (claimPayoutReady id expectedGross externalID currency now l).2 ∧
      (claimPayoutReady id expectedGross externalID currency now l).2.credits = l.credits := by
  rcases hp : l.payouts.find? id with _ | p
  · have heq : claimPayoutReady id expectedGross externalID currency now l = (false, l) := by
      unfold claimPayoutReady
      rw [hp]
    rw [heq]
    exact ⟨h, rfl⟩
  · rw [h.claimPayoutReady_eq hp]
    unfold consumePayout voidPayout
    split_ifs
    · exact ⟨h.updateReady fun _ => ⟨rfl, rfl, rfl, rfl, rfl, rfl⟩, rfl⟩
    · exact ⟨h.updateReady fun _ => ⟨rfl, rfl, rfl, rfl, rfl, rfl⟩, rfl⟩
    · exact ⟨h, rfl⟩

end Claimed

end MacProvider.Coordinator.Billing.Conservation
