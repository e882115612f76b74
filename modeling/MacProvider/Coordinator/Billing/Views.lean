import MacProvider.Coordinator.Billing.Closing

/-! # What the answer about a request is read from

`finalityOf` reads the verdicts of a request, and for the verified ones output and credit. If these
stay (`Same`), so does the answer (`finalityOf_same`). The lemmas say which writes leave them
alone. -/

namespace MacProvider.Coordinator.Billing.Views

open Lib.Tables Billing.Schema Billing.Outputs Billing.HotPath Billing.Recovery
open Billing.Verifier Billing.Verdicts Billing.Finality Billing.Lifecycle Billing.Grounds
open Billing.Closing Billing.Tallies

/-! ### What is read -/

section View
variable (env : Env) (scope q : String)

/-- The same rows. -/
abbrev SameRows (b b' : Books) : Prop :=
  requestSettlementVerdicts env scope q b' = requestSettlementVerdicts env scope q b

/-- The same rows and usage. -/
structure Same (b b' : Books) : Prop where
  rows : SameRows env scope q b b'
  usage : ∀ row ∈ requestSettlementVerdicts env scope q b, row.outcome = .verified →
    requestSettlementUsage env (attemptOf scope q row) b' =
      requestSettlementUsage env (attemptOf scope q row) b

/-- All rows are closed and counted. -/
structure Settled (b : Books) : Prop where
  closed : ∀ row ∈ requestSettlementVerdicts env scope q b, row.closed = true
  usage : ∀ row ∈ requestSettlementVerdicts env scope q b, row.outcome = .verified →
    ∃ r, requestSettlementUsage env (attemptOf scope q row) b = .ok r

variable {env scope q} {b b' b'' : Books}

theorem Same.refl (b : Books) : Same env scope q b b := ⟨rfl, fun _ _ _ => rfl⟩

theorem Same.trans (h : Same env scope q b b') (h' : Same env scope q b' b'') :
    Same env scope q b b'' := by
  refine ⟨h'.rows.trans h.rows, fun row hrow hverified => ?_⟩
  rw [h'.usage row (h.rows.symm ▸ hrow) hverified, h.usage row hrow hverified]

theorem Settled.same (hb : Settled env scope q b) (h : Same env scope q b b') :
    Settled env scope q b' := by
  refine ⟨fun row hrow => ?_, fun row hrow hverified => ?_⟩
  · rw [h.rows] at hrow
    exact hb.closed row hrow
  · rw [h.rows] at hrow
    obtain ⟨r, hr⟩ := hb.usage row hrow hverified
    exact ⟨r, (h.usage row hrow hverified).trans hr⟩

theorem tallyRows_congr {policyVersion : String} {mode : PolicyMode} {rows : List VerdictRow}
    {t : Tally}
    (h : ∀ row ∈ rows, row.outcome = .verified →
      requestSettlementUsage env (attemptOf scope q row) b' =
        requestSettlementUsage env (attemptOf scope q row) b) :
    tallyRows env scope q b' policyVersion mode rows t =
      tallyRows env scope q b policyVersion mode rows t := by
  induction rows generalizing t with
  | nil => rfl
  | cons row rows ih =>
    have hrow : tallyRow env scope q b' t row = tallyRow env scope q b t row := by
      unfold tallyRow
      rcases houtcome : row.outcome with _ | _ | _ | _
      case verified =>
        rw [h row List.mem_cons_self houtcome]
      all_goals rfl
    unfold tallyRows
    rw [hrow]
    simp only [ih fun x hx => h x (List.mem_cons_of_mem row hx)]

theorem finalityOf_same (h : Same env scope q b b') :
    finalityOf env scope q b' = finalityOf env scope q b := by
  have husage := h.usage
  unfold finalityOf
  rw [h.rows]
  generalize requestSettlementVerdicts env scope q b = rows at husage
  cases rows with
  | nil => rfl
  | cons first rest =>
    dsimp only
    rw [tallyRows_congr husage]

theorem usage_congr {id : ReceiptIdentity}
    (houtput : (b'.outputs.find? (id.accountScope, id.requestID, id.attemptN, id.providerID)).map
        (fun o => (o.usageCanonicalJSON, o.overlappingOrDuplicate)) =
      (b.outputs.find? (id.accountScope, id.requestID, id.attemptN, id.providerID)).map
        (fun o => (o.usageCanonicalJSON, o.overlappingOrDuplicate)))
    (hcredit : chargedCredit env id b' = chargedCredit env id b) :
    requestSettlementUsage env id b' = requestSettlementUsage env id b := by
  unfold requestSettlementUsage
  rw [hcredit]
  revert houtput
  cases b'.outputs.find? (id.accountScope, id.requestID, id.attemptN, id.providerID) <;>
    cases b.outputs.find? (id.accountScope, id.requestID, id.attemptN, id.providerID) <;>
    cases chargedCredit env id b <;>
    simp only [Option.map_none, Option.map_some, reduceCtorEq, Option.some.injEq, Prod.mk.injEq,
      false_implies, implies_true]
  rintro ⟨hjson, hover⟩
  rw [hjson, hover]

theorem creditOf_of_usage {id : ReceiptIdentity} {r : SettlementUsage × Bool}
    (h : requestSettlementUsage env id b = .ok r) :
    ∃ c, b.creditOf id.requestID id.attemptN id.providerID = some c ∧
      chargedCredit env id b = some c := by
  unfold requestSettlementUsage at h
  split at h
  · next sao c hsao hc => exact ⟨c, Option.eq_some_of_filter_eq_some hc, hc⟩
  · cases h

end View

/-! ### Verdicts on other requests -/

section Others
variable {v : ReceiptCodec} {env : Env} {scope q : String} {b b' b₁ : Books}

/-- The verdict is about the request. -/
def ofRequest (env : Env) (scope q : String) (v : VerdictRow) : Bool :=
  v.accountScopeHash = env.scopeHash scope ∧ v.requestID = q

theorem rows_congr (h : b'.verdicts.rows.filter (ofRequest env scope q) =
    b.verdicts.rows.filter (ofRequest env scope q)) : SameRows env scope q b b' :=
  congrArg (List.insertionSort fun v v' : VerdictRow => v.attemptN ≤ v'.attemptN) h

theorem ofRequest_of_ne {row : VerdictRow} (h : row.requestID ≠ q) :
    ofRequest env scope q row = false := by
  simp [ofRequest, h]

theorem storeVerdict_rows {row : VerdictRow} (h : storeVerdict row b = .ok b₁)
    (hq : row.requestID ≠ q) :
    b₁.verdicts.rows.filter (ofRequest env scope q) =
      b.verdicts.rows.filter (ofRequest env scope q) := by
  unfold storeVerdict at h
  split at h
  swap
  · cases h
  split at h
  · next t hinsert =>
    cases h
    rw [(Table.insert_eq_some hinsert).2, List.filter_append]
    simp [ofRequest_of_ne hq]
  · cases h
    refine Table.filter_update (over_key row) fun x _ hx => ?_
    have hkey : x.key = row.key := by
      simp only [Bool.and_eq_true, decide_eq_true_eq] at hx
      exact hx.1
    have hrequest : x.requestID = row.requestID := congrArg (fun k => k.2.1) hkey
    refine ⟨ofRequest_of_ne (hrequest ▸ hq), ofRequest_of_ne ?_⟩
    unfold VerdictRow.over
    rw [if_pos hkey]
    exact hq

theorem closeVerdict_rows {c : CreditRow} {reason : String}
    (h : ∀ row ∈ b.verdicts.rows, verdictOf c row = true → ofRequest env scope q row = false) :
    (closeVerdict c reason b.verdicts).rows.filter (ofRequest env scope q) =
      b.verdicts.rows.filter (ofRequest env scope q) :=
  Table.filter_update (cacheQuarantined_key reason) fun row hrow hof =>
    ⟨h row hrow hof, h row hrow hof⟩

theorem sync_rows {q' p : String} {n : ℕ}
    (h : syncVerifiedReceiptLedgerCreditForAttempt env q' n p b = .ok b') (hq : q' ≠ q) :
    b'.verdicts.rows.filter (ofRequest env scope q) =
      b.verdicts.rows.filter (ofRequest env scope q) := by
  rcases sync_verdicts h with ⟨-, hsame⟩ | ⟨c, reason, srv, hc, -, hclose, -⟩
  · rw [hsame]
  · rw [hclose]
    refine closeVerdict_rows fun row _ hof => ofRequest_of_ne ?_
    rw [(verdictOf_iff.mp hof).2.1, (creditOf_some hc).2.1]
    exact hq

/-- **A verdict on another request** changes nothing. -/
theorem apply_same {id : ReceiptIdentity} {missing : Bool} {received : ℤ} {header pubkey : String}
    {row' : VerdictRow}
    (h : applySettlementReceiptVerdict v env id missing received header pubkey b = .ok (row', b'))
    (hq : id.requestID ≠ q) : Same env scope q b b' := by
  have houtputs := (apply_log_outputs h).2
  refine ⟨rows_congr ?_, fun row _ _ => usage_congr (by rw [houtputs]) ?_⟩
  · rcases apply_cases h with rfl | ⟨e, row, b₁, -, -, hrow, hstore, hsync⟩
    · rfl
    obtain ⟨b₂, hsync, hb'⟩ := syncVerdict_ok hsync
    have hstored : b₁.verdicts.rows.filter (ofRequest env scope q) =
        b.verdicts.rows.filter (ofRequest env scope q) :=
      storeVerdict_rows hstore (by rw [hrow]; exact hq)
    have hsynced : b₂.verdicts.rows.filter (ofRequest env scope q) =
        b₁.verdicts.rows.filter (ofRequest env scope q) := sync_rows hsync hq
    rw [← hstored, ← hsynced]
    rcases hb' with ⟨-, -, rfl⟩ | ⟨reason, -, -, rfl⟩
    · rfl
    · refine Table.filter_update (cacheQuarantined_key reason) fun x _ hx => ?_
      have hkey : x.key = id.key env := of_decide_eq_true hx
      have hne : x.requestID ≠ q := by
        rw [show x.requestID = id.requestID from congrArg (fun k => k.2.1) hkey]
        exact hq
      exact ⟨ofRequest_of_ne hne, ofRequest_of_ne hne⟩
  · obtain ⟨b₁, b₂, hb₁, hsync, hb'⟩ := apply_frame h
    have hcredit : b₂.creditOf q row.attemptN row.providerID =
        b₁.creditOf q row.attemptN row.providerID := by
      rcases hsync with rfl | hsync
      · rfl
      obtain ⟨f, -, hf, hcreditOf⟩ := sync_creditOf hsync
      rw [hcreditOf]
      rcases hc : b₁.creditOf q row.attemptN row.providerID with _ | c
      · rfl
      · obtain ⟨hmem, hcq, -, -⟩ := creditOf_some hc
        rw [Option.map_some, hf c hmem]
        intro hkey
        exact hq ((congrArg Prod.fst hkey).symm.trans hcq)
    have hsame : b'.creditOf q row.attemptN row.providerID =
        b.creditOf q row.attemptN row.providerID := by
      rw [hb']
      refine hcredit.trans ?_
      rw [hb₁]
      rfl
    unfold chargedCredit
    rw [hsame]

theorem misses_same {qs : List String} {scope' : String} (h : MissesAll v env scope' qs b b')
    (hq : q ∉ qs) : Same env scope q b b' := by
  induction h with
  | refl => exact .refl b
  | tail _ hm ih =>
    obtain ⟨q', hq', n, p, now, row, hm⟩ := hm
    refine ih.trans (apply_same (recordMissing_ok hm).2 ?_)
    rintro rfl
    exact hq hq'

end Others

/-! ### Credits -/

/-- No credit changes. -/
def Extends (b b' : Books) : Prop :=
  ∀ q n p c, b.creditOf q n p = some c → b'.creditOf q n p = some c

/-- No credit is deleted. -/
def Carries (b b' : Books) : Prop :=
  ∀ q n p c, b.creditOf q n p = some c → ∃ c', b'.creditOf q n p = some c'

/-- The verified attempts have credits. -/
def Credited (env : Env) (scope q : String) (b : Books) : Prop :=
  ∀ row ∈ requestSettlementVerdicts env scope q b, row.outcome = .verified →
    ∃ c, b.creditOf q row.attemptN row.providerID = some c

section Credits
variable {env : Env} {scope q : String} {b b' b'' b₁ : Books}

theorem Carries.refl (b : Books) : Carries b b := fun _ _ _ c h => ⟨c, h⟩

theorem Carries.trans (h : Carries b b') (h' : Carries b' b'') : Carries b b'' := by
  intro q n p c hc
  obtain ⟨c', hc'⟩ := h q n p c hc
  exact h' q n p c' hc'

theorem Extends.carries (h : Extends b b') : Carries b b' :=
  fun q n p c hc => ⟨c, h q n p c hc⟩

theorem Settled.credited (h : Settled env scope q b) : Credited env scope q b := by
  intro row hrow hverified
  obtain ⟨r, hr⟩ := h.usage row hrow hverified
  obtain ⟨c, hc, -⟩ := creditOf_of_usage hr
  exact ⟨c, hc⟩

theorem Credited.carries (h : Credited env scope q b) (hcarries : Carries b b')
    (hrows : SameRows env scope q b b') : Credited env scope q b' := by
  intro row hrow hverified
  rw [hrows] at hrow
  obtain ⟨c, hc⟩ := h row hrow hverified
  exact hcarries q row.attemptN row.providerID c hc

theorem appended_extends {row : ℕ → CreditRow} (hrow : ∀ id, (row id).id = id)
    (h : b'.credits = b.appended row hrow) : Extends b b' := by
  intro q n p c hc
  unfold Books.creditOf at hc ⊢
  rw [h]
  dsimp only [Books.appended]
  rw [List.find?_append, hc]
  rfl

theorem insertCredit_extends {row : ℕ → CreditRow} {hrow : ∀ id, (row id).id = id}
    (h : insertCredit row hrow b = .ok b') : Extends b b' := by
  obtain ⟨-, -, rfl⟩ := insertCredit_ok h
  exact appended_extends hrow rfl

theorem quarantineWhere_carries (p : CreditRow → Bool) (reason : String) (b : Books) :
    Carries b (quarantineWhere p reason b) := by
  intro q n pr c hc
  rw [creditOf_update (b := b) (quarantine_id reason) (fun _ => ⟨rfl, rfl, rfl⟩) rfl, hc]
  exact ⟨_, rfl⟩

/-- **The credit of an attempt that had none** touches no other. -/
theorem sync_fresh {q' p : String} {n : ℕ} (hnone : b.creditOf q' n p = none)
    (hextends : Extends b b₁) (hverdicts : b₁.verdicts = b.verdicts)
    (h : syncVerifiedReceiptLedgerCreditForAttempt env q' n p b₁ = .ok b') :
    Extends b b' ∧ (Credited env scope q b → SameRows env scope q b b') := by
  constructor
  · intro q₀ n₀ p₀ c hc
    obtain ⟨f, -, hf, hcreditOf⟩ := sync_creditOf h
    have hc₁ := hextends q₀ n₀ p₀ c hc
    obtain ⟨hmem, hq, hn, hp⟩ := creditOf_some hc₁
    rw [hcreditOf, hc₁, Option.map_some, hf c hmem]
    intro hkey
    rw [hq, hn, hp] at hkey
    cases hkey
    rw [hnone] at hc
    cases hc
  · intro hcredited
    refine rows_congr ?_
    rcases sync_verdicts h with ⟨-, hsame⟩ | ⟨c, reason, srv, hc, -, hclose, hmem, hof, hverified⟩
    · rw [hsame, hverdicts]
    · rw [hclose, hverdicts]
      refine closeVerdict_rows fun row hrow hrowof => ?_
      -- the row that is taken back would have a credit
      obtain rfl := verdictOf_unique (hverdicts ▸ hrow) hmem hrowof hof
      by_contra hne
      have hrequest : ofRequest env scope q row = true := by simpa using hne
      obtain ⟨hscope, hq⟩ := of_decide_eq_true hrequest
      obtain ⟨c₀, hc₀⟩ := hcredited row
        (mem_requestSettlementVerdicts.mpr ⟨hrow, hscope, hq⟩) hverified
      obtain ⟨-, h1, h2, h3⟩ := verdictOf_iff.mp hof
      obtain ⟨-, h4, h5, h6⟩ := creditOf_some hc
      rw [← hq, h1, h2, h3, h4, h5, h6, hnone] at hc₀
      cases hc₀

/-- **A recovered row** keeps credits and counted verdicts. -/
theorem recoverRow_carries {x : LogRow} (h : recoverRow env b x = .ok b') :
    Carries b b' ∧ (Credited env scope q b → SameRows env scope q b b') := by
  cases recoverRow_recovers h with
  | same => exact ⟨.refl b, fun _ => rfl⟩
  | quarantines => exact ⟨quarantineWhere_carries _ _ b, fun _ => rfl⟩
  | holds h =>
    exact ⟨(insertCredit_extends h).carries,
      fun _ => rows_congr (by rw [insertCredit_verdicts h])⟩
  | credits hd hcfg hnone h₁ hsync =>
    obtain ⟨hextends, hrows⟩ := @sync_fresh env scope q b b' _ _ _ _ hnone
      (insertCredit_extends h₁) (insertCredit_verdicts h₁) hsync
    exact ⟨hextends.carries, hrows⟩

theorem recoverRows_carries {rows : List LogRow} (h : rows.foldlM (recoverRow env) b = .ok b')
    (hcredited : Credited env scope q b) : Carries b b' ∧ SameRows env scope q b b' := by
  induction rows generalizing b with
  | nil =>
    cases h
    exact ⟨.refl _, rfl⟩
  | cons x rows ih =>
    obtain ⟨b₁, hx, h⟩ := bind_ok h
    obtain ⟨hcarries, hrows⟩ := @recoverRow_carries env scope q b b₁ x hx
    obtain ⟨hcarries', hrows'⟩ := ih h (hcredited.carries hcarries (hrows hcredited))
    exact ⟨hcarries.trans hcarries', hrows'.trans (hrows hcredited)⟩

/-! ### Credits that recovery leaves alone -/

/-- It computes the same credit, or is about another one. -/
def clears (env : Env) (b : Books) (x : LogRow) (c : CreditRow) : Bool :=
  match invalidReason x.tokens, b.identities.find? (x.requestID, x.attemptN, x.providerAssignedID)
    with
  | some _, _ => !ofAttempt b x c
  | none, none => true
  | none, some d =>
    if x.cacheQuarantineReason ≠ "" then !ofAttempt b x c
    else
      match recoveryConfig env x d with
      | none => !ofAttempt b x c
      | some cfg =>
        let i := recoveryInput env x d cfg b
        (c.requestID, c.attemptN, c.providerID) ≠ (x.requestID, x.attemptN, d.providerID) ||
          !creditMismatch i (i.credits i.tokens.cachedPromptTokens) c

theorem clears_congr {x : LogRow} {c : CreditRow} (hidentities : b'.identities = b.identities)
    (hsnapshots : b'.snapshots = b.snapshots) : clears env b' x c = clears env b x c := by
  simp only [clears, ofAttempt, recoveryInput, recoveredSettlementPolicy, hidentities, hsnapshots]

theorem quarantineWhere_spares {p : CreditRow → Bool} {reason q pr : String} {n : ℕ} {c : CreditRow}
    (hc : b.creditOf q n pr = some c) (hp : p c = false) :
    (quarantineWhere p reason b).creditOf q n pr = some c := by
  rw [creditOf_update (b := b) (quarantine_id reason) (fun _ => ⟨rfl, rfl, rfl⟩) rfl, hc]
  simp [hp]

theorem insertQuarantine_extends {x : LogRow} {pr reason : String} {t : Formula.TokenCounts} :
    Extends b (insertQuarantine x pr t reason b) := by
  unfold insertQuarantine
  split
  · next h => exact insertCredit_extends h
  · exact fun _ _ _ _ h => h

theorem quarantineAttempt_spares {x : LogRow} {q p pr reason : String} {n : ℕ}
    {t : Formula.TokenCounts} {c : CreditRow} (hc : b.creditOf q n p = some c)
    (h : (!ofAttempt b x c) = true) :
    (quarantineAttempt x pr t reason b).creditOf q n p = some c := by
  unfold quarantineAttempt
  split_ifs
  · exact quarantineWhere_spares hc (by simpa using h)
  · exact insertQuarantine_extends q n p c hc

/-- **Recovery leaves a cleared credit alone.** -/
theorem recoverRow_clears {x : LogRow} {q p : String} {n : ℕ} {c : CreditRow}
    (h : recoverRow env b x = .ok b') (hc : b.creditOf q n p = some c)
    (hclears : clears env b x c = true) : b'.creditOf q n p = some c := by
  unfold recoverRow at h
  unfold clears at hclears
  split at h
  · next reason hreason =>
    rw [hreason] at hclears
    cases h
    exact quarantineAttempt_spares hc hclears
  next hreason =>
  rw [hreason] at hclears
  split at h
  · cases h
    exact insertQuarantine_extends q n p c hc
  next d hd =>
  rw [hd] at hclears
  dsimp only at hclears
  by_cases hcache : x.cacheQuarantineReason ≠ ""
  · rw [if_pos hcache] at h hclears
    cases h
    exact quarantineAttempt_spares hc hclears
  rw [if_neg hcache] at h hclears
  split at h
  · next hcfg =>
    rw [hcfg] at hclears
    cases h
    exact quarantineAttempt_spares hc hclears
  next cfg hcfg =>
  rw [hcfg] at hclears
  dsimp only at h hclears
  split at h
  · next c' hc' =>
    unfold reconcileExistingCredit at h
    split_ifs at h with hquarantined hmismatch
    · cases h
      exact hc
    · cases h
      refine quarantineWhere_spares hc (decide_eq_false fun hid => ?_)
      -- the credit that differs would be the one that is cleared
      obtain ⟨hmem, hq, hn, hp⟩ := creditOf_some hc'
      obtain rfl := eq_of_id hmem (creditOf_some hc).1 hid
      simp [hq, hn, hp, hmismatch] at hclears
    · cases h
      exact hc
  next hnone =>
  split_ifs at h
  · cases h
    exact insertQuarantine_extends q n p c hc
  · obtain ⟨b₁, h₁, hsync⟩ := bind_ok h
    exact (@sync_fresh env "" "" b b' _ _ _ _ hnone (insertCredit_extends h₁)
      (insertCredit_verdicts h₁) hsync).1 q n p c hc

theorem recoverRows_clears {rows : List LogRow} {q p : String} {n : ℕ} {c : CreditRow}
    (h : rows.foldlM (recoverRow env) b = .ok b') (hc : b.creditOf q n p = some c)
    (hclears : ∀ x ∈ rows, clears env b x c = true) : b'.creditOf q n p = some c := by
  induction rows generalizing b with
  | nil =>
    cases h
    exact hc
  | cons x rows ih =>
    obtain ⟨b₁, hx, h⟩ := bind_ok h
    obtain ⟨hfirst, hrest⟩ := List.forall_mem_cons.mp hclears
    have htouches := recoverRow_touches hx
    refine ih h (recoverRow_clears hx hc hfirst) fun y hy => ?_
    rw [clears_congr htouches.identities htouches.snapshots]
    exact hrest y hy

/-- **A bill for another attempt** changes nothing. -/
theorem writeBill_same {i : HotPathInput} {d : Bill} (h : writeBill env i d b = .ok b')
    (hsettled : Settled env scope q b) : Same env scope q b b' := by
  have houtputs := writeBill_outputs h
  obtain ⟨hnone, -, h⟩ := writeBill_ok h
  have hfirst : Extends b (b.credited i d) := appended_extends (creditRow_id i d) rfl
  have hboth : Extends b b' ∧ SameRows env scope q b b' := by
    split_ifs at h
    · rw [h]
      exact ⟨hfirst, rfl⟩
    · obtain ⟨hextends, hrows⟩ := @sync_fresh env scope q b b' _ _ _ _ hnone hfirst rfl h
      exact ⟨hextends, hrows hsettled.credited⟩
  refine ⟨hboth.2, fun row hrow hverified => usage_congr (by rw [houtputs]) ?_⟩
  obtain ⟨r, hr⟩ := hsettled.usage row hrow hverified
  obtain ⟨c, hc, hcharged⟩ := creditOf_of_usage hr
  unfold chargedCredit
  rw [hc, hboth.1 _ _ _ c hc]

end Credits

end MacProvider.Coordinator.Billing.Views
