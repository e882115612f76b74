import Mathlib.Logic.Basic

/-! # Runs of a transition system

The states that allowed actions lead to, and the rule for invariants. -/

namespace MacProvider.Lib.Runs

variable {σ A : Type} (step : σ → A → σ)

/-- The state behind a sequence of actions. -/
def run (s : σ) (as : List A) : σ := as.foldl step s

theorem run_cons (s : σ) (a : A) (as : List A) : run step s (a :: as) = run step (step s a) as :=
  rfl

theorem run_append (s : σ) (as bs : List A) : run step s (as ++ bs) = run step (run step s as) bs :=
  List.foldl_append

/-- The states that actions allowed by `ok` lead to. -/
inductive Reaches (ok : σ → A → Prop) (s₀ : σ) : σ → Prop
  | refl : Reaches ok s₀ s₀
  | step {s : σ} (a : A) : Reaches ok s₀ s → ok s a → Reaches ok s₀ (step s a)

variable {step} {ok ok' : σ → A → Prop} {s₀ s s' : σ}

/-- **Invariants**: start and every allowed action. -/
theorem reaches_induction {I : σ → Prop} (h : Reaches step ok s₀ s) (h₀ : I s₀)
    (hstep : ∀ s a, I s → ok s a → I (step s a)) : I s := by
  induction h with
  | refl => exact h₀
  | step a _ hok ih => exact hstep _ a ih hok

theorem Reaches.trans (h : Reaches step ok s₀ s) (h' : Reaches step ok s s') :
    Reaches step ok s₀ s' := by
  induction h' with
  | refl => exact h
  | step a _ hok ih => exact .step a ih hok

theorem Reaches.mono (h : Reaches step ok s₀ s) (hok : ∀ s a, ok s a → ok' s a) :
    Reaches step ok' s₀ s := by
  induction h with
  | refl => exact .refl
  | step a _ ha ih => exact .step a ih (hok _ a ha)

/-- Every action, where it is taken. -/
def Allowed (step : σ → A → σ) (ok : σ → A → Prop) : σ → List A → Prop
  | _, [] => True
  | s, a :: as => ok s a ∧ Allowed step ok (step s a) as

instance decidableAllowed [∀ s a, Decidable (ok s a)] :
    ∀ (s : σ) (as : List A), Decidable (Allowed step ok s as)
  | _, [] => .isTrue trivial
  | s, a :: as =>
    have := decidableAllowed (step s a) as
    inferInstanceAs (Decidable (ok s a ∧ _))

theorem allowed_congr (h : ∀ s a, ok s a ↔ ok' s a) (s : σ) (as : List A) :
    Allowed step ok s as ↔ Allowed step ok' s as := by
  induction as generalizing s with
  | nil => exact Iff.rfl
  | cons a as ih => exact and_congr (h s a) (ih (step s a))

theorem reaches_of_allowed {as : List A} (h : Allowed step ok s₀ as) :
    Reaches step ok s₀ (run step s₀ as) := by
  induction as generalizing s₀ with
  | nil => exact .refl
  | cons a as ih => exact (Reaches.step a .refl h.1).trans (ih h.2)

theorem allowed_of_forall {P : A → Prop} {as : List A} (h : ∀ a ∈ as, P a) :
    Allowed step (fun _ a => P a) s as := by
  induction as generalizing s with
  | nil => trivial
  | cons a as ih =>
    exact ⟨h a List.mem_cons_self, ih fun b hb => h b (List.mem_cons_of_mem a hb)⟩

/-- **Exact conditions**: if what is not allowed breaks `P` at once, `P` throughout is `Allowed`. -/
theorem forall_prefix_iff_allowed {I P : σ → Prop} (hP : ∀ s, I s → P s)
    (hstep : ∀ s a, I s → ok s a → I (step s a))
    (hbad : ∀ s a, I s → P (step s a) → ok s a) (h₀ : I s₀) (as : List A) :
    (∀ bs, bs <+: as → P (run step s₀ bs)) ↔ Allowed step ok s₀ as := by
  induction as generalizing s₀ with
  | nil =>
    refine ⟨fun _ => trivial, fun _ bs hbs => ?_⟩
    rw [List.prefix_nil.mp hbs]
    exact hP _ h₀
  | cons a as ih =>
    constructor
    · intro h
      have hok : ok s₀ a := hbad s₀ a h₀ (h [a] ⟨as, rfl⟩)
      refine ⟨hok, (ih (hstep s₀ a h₀ hok)).mp fun bs hbs => ?_⟩
      exact h (a :: bs) (List.cons_prefix_cons.mpr ⟨rfl, hbs⟩)
    · rintro ⟨hok, hrest⟩ bs hbs
      cases bs with
      | nil => exact hP _ h₀
      | cons b bs =>
        obtain ⟨rfl, htail⟩ := List.cons_prefix_cons.mp hbs
        exact (ih (hstep s₀ b h₀ hok)).mpr hrest bs htail

theorem reaches_run (hok : ∀ s a, ok s a) (s₀ : σ) (as : List A) :
    Reaches step ok s₀ (run step s₀ as) :=
  (reaches_of_allowed (allowed_of_forall (P := fun _ => True) fun _ _ => trivial)).mono
    fun s a _ => hok s a

/-- **A fallible run gets through** if no step fails. -/
theorem foldlM_ok_iff {ε : Type} {f : σ → A → Except ε σ} {as : List A} {s : σ} :
    (∃ s', as.foldlM f s = .ok s') ↔
      ∀ xs x ys s', as = xs ++ x :: ys → xs.foldlM f s = .ok s' → ∃ s'', f s' x = .ok s'' := by
  constructor
  · rintro ⟨t, ht⟩ xs x ys s' rfl hxs
    rw [List.foldlM_append, hxs] at ht
    change List.foldlM f s' (x :: ys) = .ok t at ht
    rw [List.foldlM_cons] at ht
    rcases hx : f s' x with e | s''
    · rw [hx] at ht
      cases ht
    · exact ⟨s'', rfl⟩
  · intro h
    induction as generalizing s with
    | nil => exact ⟨s, rfl⟩
    | cons a as ih =>
      obtain ⟨s₁, h₁⟩ := h [] a as s rfl rfl
      obtain ⟨t, ht⟩ := ih fun xs x ys s' heq hxs => by
        refine h (a :: xs) x ys s' (by rw [heq]; rfl) ?_
        rw [List.foldlM_cons, h₁]
        exact hxs
      refine ⟨t, ?_⟩
      rw [List.foldlM_cons, h₁]
      exact ht

end MacProvider.Lib.Runs
