import MacProvider.Lib.Runs
import Mathlib.Data.String.Basic

/-! # Serving qualification

`QualifyProviderReferral` keeps one verdict as evidence, and replaces it by one that was served
earlier than the stored text says. The text has whole seconds (`qualification_ignores_order_iff`).
Ids are valid here. -/

namespace MacProvider.Coordinator.Auth.Qualification

open Lib.Runs

/-! ### The call -/

/-- Instants are nanoseconds since 1970. -/
structure Verdict where
  evidenceID : String
  servedAt : ℤ
  qualifiedAt : ℤ
deriving DecidableEq

/-- How many referrals a provider may issue. -/
structure Issuer where
  baseCapacity : ℕ
  bonusCapacity : ℕ
deriving DecidableEq

/-- Evidence with its second, issuer, evidence of others. -/
structure Store where
  qualification : Option (String × ℤ)
  issuer : Option Issuer
  others : List String
deriving DecidableEq

/-- Why a verdict is refused. -/
inductive ReferralError
  | invalid
  | qualificationConflict
  | parse

/-- The second of an instant. -/
def timeText (t : ℤ) : ℤ := t / 1000000000

/-- Years have four digits. -/
def parseTime (second : ℤ) : Option ℤ :=
  if -62167219200 ≤ second ∧ second < 253402300800 then some (second * 1000000000) else none

/-- The zero of `time.Time`. -/
def zeroTime : ℤ := -62135596800000000000

/-- The ids that may be evidence. -/
def socialEvidenceIDPattern (s : String) : Bool :=
  match s.toList with
  | [] => false
  | c :: cs => c.isAlphanum && cs.length ≤ 191 &&
      cs.all fun c => c.isAlphanum || c ∈ ['.', '_', ':', '/', '-']

/-- The checks of a verdict. -/
def Verdict.valid (v : Verdict) : Bool :=
  socialEvidenceIDPattern v.evidenceID && v.servedAt ≠ zeroTime && v.qualifiedAt ≠ zeroTime &&
    v.servedAt ≤ v.qualifiedAt

/-- **`QualifyProviderReferral`**. -/
def qualifyProviderReferral (providerBaseUses : ℕ) (v : Verdict) (s : Store) :
    Except ReferralError Store :=
  if !v.valid then .error .invalid
  else
    match s.qualification with
    | some (existingEvidence, existingAt) =>
      if existingEvidence = v.evidenceID then .ok s
      else
        match parseTime existingAt with
        | none => .error .parse
        | some durableAt =>
          if durableAt < v.servedAt ∨
              (v.servedAt = durableAt ∧ existingEvidence ≤ v.evidenceID) then
            .ok s
          else if v.evidenceID ∈ s.others then .error .qualificationConflict
          else .ok { s with qualification := some (v.evidenceID, timeText v.servedAt) }
    | none =>
      if s.issuer.isSome ∨ v.evidenceID ∈ s.others then .error .qualificationConflict
      else .ok { s with
        qualification := some (v.evidenceID, timeText v.servedAt)
        issuer := some ⟨providerBaseUses, 0⟩ }

/-- An error changes nothing. -/
def step (providerBaseUses : ℕ) (s : Store) (v : Verdict) : Store :=
  match qualifyProviderReferral providerBaseUses v s with
  | .ok s' => s'
  | .error _ => s

/-! ### The evidence behind a call -/

/-- Earlier than `t`, or at `t` with the smaller id. -/
def Verdict.Before (v : Verdict) (t : ℤ) (evidenceID : String) : Prop :=
  v.servedAt < t ∨ (v.servedAt = t ∧ v.evidenceID < evidenceID)

/-- It comes before the second of `e`, which can be read. -/
def Takes (v e : Verdict) : Prop :=
  ∃ durableAt ∈ parseTime (timeText e.servedAt), v.Before durableAt e.evidenceID

/-- When `v` is the evidence. -/
def Store.qualified (s : Store) (providerBaseUses : ℕ) (v : Verdict) : Store where
  qualification := some (v.evidenceID, timeText v.servedAt)
  issuer := some ⟨providerBaseUses, 0⟩
  others := s.others

/-- Valid, with their own ids, and no issuer yet. -/
structure Fresh (s : Store) (vs : List Verdict) : Prop where
  valid : ∀ v ∈ vs, v.valid = true
  distinct : ∀ v ∈ vs, ∀ e ∈ vs, v.evidenceID = e.evidenceID → v = e
  unqualified : s.qualification = none
  noIssuer : s.issuer = none
  unused : ∀ v ∈ vs, v.evidenceID ∉ s.others

section Calls
variable {uses : ℕ} {s : Store} {v e m : Verdict} {vs l : List Verdict}

theorem step_first (h : Fresh s vs) (hv : v ∈ vs) : step uses s v = s.qualified uses v := by
  simp [step, qualifyProviderReferral, h.valid v hv, h.unqualified, h.noIssuer, h.unused v hv,
    Store.qualified]

/-- **A further call** replaces the evidence or nothing. -/
theorem step_next (h : Fresh s vs) (hv : v ∈ vs) (he : e ∈ vs) :
    (Takes v e → step uses (s.qualified uses e) v = s.qualified uses v) ∧
      (¬ Takes v e → step uses (s.qualified uses e) v = s.qualified uses e) := by
  have hvalid := h.valid v hv
  have hunused := h.unused v hv
  by_cases hid : e.evidenceID = v.evidenceID
  · obtain rfl := h.distinct e he v hv hid
    simp [step, qualifyProviderReferral, hvalid, Store.qualified]
  cases hparse : parseTime (timeText e.servedAt) with
  | none => simp [step, qualifyProviderReferral, hvalid, Store.qualified, Takes, hid, hparse]
  | some durableAt =>
    have hlate : (durableAt < v.servedAt ∨
        (v.servedAt = durableAt ∧ e.evidenceID ≤ v.evidenceID)) ↔
          ¬ v.Before durableAt e.evidenceID := by
      unfold Verdict.Before
      rw [not_or, not_and, not_lt, not_lt]
      constructor
      · rintro (hlt | ⟨heq, hle⟩)
        · exact ⟨hlt.le, fun heq => absurd heq hlt.ne'⟩
        · exact ⟨heq.ge, fun _ => hle⟩
      · rintro ⟨hle, hids⟩
        exact hle.lt_or_eq.imp_right fun heq => ⟨heq.symm, hids heq.symm⟩
    simp +contextual [step, qualifyProviderReferral, hvalid, Store.qualified, Takes, hid, hparse,
      hlate, hunused]

theorem step_same (h : Fresh s vs) (hm : m ∈ vs) :
    step uses (s.qualified uses m) m = s.qualified uses m := by
  by_cases htakes : Takes m m
  · exact (step_next h hm hm).1 htakes
  · exact (step_next h hm hm).2 htakes

theorem run_evidence (h : Fresh s vs) (hl : ∀ v ∈ l, v ∈ vs) (he : e ∈ vs) :
    ∃ e', (e' = e ∨ e' ∈ l) ∧ run (step uses) (s.qualified uses e) l = s.qualified uses e' := by
  induction l generalizing e with
  | nil => exact ⟨e, Or.inl rfl, rfl⟩
  | cons v l ih =>
    obtain ⟨hv, hl⟩ := List.forall_mem_cons.mp hl
    rw [run_cons]
    by_cases htakes : Takes v e
    · obtain ⟨e', he', hrun⟩ := ih hl hv
      refine ⟨e', Or.inr (List.mem_cons.mpr he'), ?_⟩
      rw [(step_next h hv he).1 htakes, hrun]
    · obtain ⟨e', he', hrun⟩ := ih hl he
      refine ⟨e', he'.imp_right (List.mem_cons_of_mem v), ?_⟩
      rw [(step_next h hv he).2 htakes, hrun]

theorem not_takes_of_before (h : m.Before e.servedAt e.evidenceID) : ¬ Takes e m := by
  rintro ⟨durableAt, hparse, htakes⟩
  have hle : durableAt ≤ m.servedAt := by
    unfold parseTime timeText at hparse
    split_ifs at hparse <;> cases hparse
    omega
  rcases h with h | ⟨h, hid⟩ <;> rcases htakes with h' | ⟨h', hid'⟩
  · omega
  · omega
  · omega
  · exact lt_asymm hid hid'

theorem run_earliest (h : Fresh s vs) (hm : m ∈ vs)
    (hfirst : ∀ e ∈ vs, e ≠ m → m.Before e.servedAt e.evidenceID) (hl : ∀ v ∈ l, v ∈ vs) :
    run (step uses) (s.qualified uses m) l = s.qualified uses m := by
  induction l with
  | nil => rfl
  | cons v l ih =>
    obtain ⟨hv, hl⟩ := List.forall_mem_cons.mp hl
    have hstep : step uses (s.qualified uses m) v = s.qualified uses m := by
      by_cases hvm : v = m
      · rw [hvm]
        exact step_same h hm
      · exact (step_next h hv hm).2 (not_takes_of_before (hfirst v hv hvm))
    rw [run_cons, hstep, ih hl]

end Calls

/-- **The order of arrival does not matter exactly if** the earliest verdict was served before the
second of each other one, or at its start with the smaller id. -/
theorem qualification_ignores_order_iff (providerBaseUses : ℕ) (s : Store) (vs : List Verdict)
    (h : Fresh s vs) (m : Verdict) (hm : m ∈ vs)
    (hfirst : ∀ e ∈ vs, e ≠ m → m.Before e.servedAt e.evidenceID) :
    (∀ calls : List Verdict, (∀ v, v ∈ calls ↔ v ∈ vs) →
        run (step providerBaseUses) s calls = s.qualified providerBaseUses m) ↔
      ∀ e ∈ vs, e ≠ m → Takes m e := by
  constructor
  · intro hall e he hne
    by_contra htakes
    -- the other verdict comes first, and the earliest one directly behind it
    have hcalls : ∀ v, v ∈ e :: m :: vs.filter (· ≠ m) ↔ v ∈ vs := by
      intro v
      by_cases hvm : v = m <;> simp +contextual [hvm, hm, he]
    have hend := hall _ hcalls
    rw [run_cons, step_first h he, run_cons, (step_next h hm he).2 htakes] at hend
    obtain ⟨e', he', hrun⟩ := @run_evidence providerBaseUses s e vs (vs.filter (· ≠ m)) h
      (fun v hv => (List.mem_filter.mp hv).1) he
    have hsame : e'.evidenceID = m.evidenceID := by
      have hstores := hrun.symm.trans hend
      simp only [Store.qualified, Store.mk.injEq, Option.some.injEq, Prod.mk.injEq] at hstores
      exact hstores.1.1
    rcases he' with rfl | he'
    · exact hne (h.distinct _ he _ hm hsame)
    · obtain ⟨he', hne'⟩ := List.mem_filter.mp he'
      exact of_decide_eq_true hne' (h.distinct _ he' _ hm hsame)
  · intro htakes calls hcalls
    obtain ⟨l, l', rfl⟩ := List.append_of_mem ((hcalls m).mpr hm)
    have hl : ∀ v ∈ l, v ∈ vs := fun v hv => (hcalls v).mp (List.mem_append_left _ hv)
    have hl' : ∀ v ∈ l', v ∈ vs := fun v hv =>
      (hcalls v).mp (List.mem_append_right _ (List.mem_cons_of_mem m hv))
    have hstep : step providerBaseUses (run (step providerBaseUses) s l) m =
        s.qualified providerBaseUses m := by
      cases l with
      | nil => exact step_first h hm
      | cons v l =>
        obtain ⟨hv, hl⟩ := List.forall_mem_cons.mp hl
        obtain ⟨e, he, hrun⟩ := @run_evidence providerBaseUses s v vs l h hl hv
        have he : e ∈ vs := he.elim (fun h => h ▸ hv) (hl e)
        rw [run_cons, step_first h hv, hrun]
        by_cases hem : e = m
        · exact hem ▸ step_same h he
        · exact (step_next h hm he).1 (htakes e he hem)
    rw [run_append, run_cons, hstep, run_earliest h hm hfirst hl']

/-- Half a second apart. -/
theorem earlier_verdict_ignored :
    let a : Verdict := ⟨"a", 1500000000, 2000000000⟩
    let b : Verdict := ⟨"b", 1200000000, 2000000000⟩
    run (step 3) ⟨none, none, []⟩ [a, b] = Store.qualified ⟨none, none, []⟩ 3 a ∧
      run (step 3) ⟨none, none, []⟩ [b, a] = Store.qualified ⟨none, none, []⟩ 3 b := by
  decide +kernel

theorem verdict_of_the_first_second :
    let a : Verdict := ⟨"a", 2500000000, 3000000000⟩
    let b : Verdict := ⟨"b", 1200000000, 3000000000⟩
    run (step 3) ⟨none, none, []⟩ [a, b, a] = Store.qualified ⟨none, none, []⟩ 3 b := by
  intro a b
  have hfresh : Fresh ⟨none, none, []⟩ [a, b] :=
    ⟨by decide, by decide, rfl, rfl, fun _ _ => List.not_mem_nil⟩
  have hfirst : ∀ e ∈ [a, b], e ≠ b → b.Before e.servedAt e.evidenceID ∧ Takes b e := by
    intro e he hne
    obtain rfl : e = a := by simpa [hne] using he
    exact ⟨Or.inl (by decide), 2000000000, rfl, Or.inl (by decide)⟩
  refine (qualification_ignores_order_iff 3 _ [a, b] hfresh b (by simp)
    fun e he hne => (hfirst e he hne).1).mpr (fun e he hne => (hfirst e he hne).2) _ fun v => ?_
  simp only [List.mem_cons, List.not_mem_nil, or_false]
  tauto

end MacProvider.Coordinator.Auth.Qualification
