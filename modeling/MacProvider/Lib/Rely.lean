import MacProvider.Lib.Calls
import Mathlib.Data.Nat.Notation

/-! # Pre- and postconditions under interference

A contract says what calls need and do. What others may do is a relation for each program
(`rely i`), so that a program can use what only it may change. If every call keeps the contract,
safe programs stay safe (`pool_safe`), and one that runs to its end reaches its postcondition
(`alone_safe`). -/

namespace MacProvider.Lib.Rely

open Lib.Runs Lib.Calls

variable {ι C E F α β σ : Type} {R : C → Type}

/-- What calls need and do, and what others may do. -/
structure Contract (ι : Type) {C : Type} (R : C → Type) (σ : Type) where
  inv : σ → Prop
  rely : ι → σ → σ → Prop
  pre : ι → C → σ → Prop
  post : ι → (c : C) → R c → σ → σ → Prop
  refl : ∀ i s, rely i s s
  trans : ∀ i s s' s'', rely i s s' → rely i s' s'' → rely i s s''
  stable : ∀ i c s s', pre i c s → rely i s s' → pre i c s'

namespace Contract

/-- Calls under preconditions, ending in `Q`, each in a later state `t`. -/
def Safe (K : Contract ι R σ) (i : ι) (Q : α → σ → Prop) : Prog R α → σ → Prop
  | .ret a, s => ∀ t, K.rely i s t → Q a t
  | .call c k, s => K.pre i c s ∧ ∀ t r t', K.rely i s t → K.inv t → K.inv t' → K.post i c r t t' →
      Safe K i Q (k r) t'

variable {K : Contract ι R σ} {i : ι} {Q : α → σ → Prop} {s s' : σ}

theorem Safe.later {p : Prog R α} (h : K.Safe i Q p s) (hrely : K.rely i s s') :
    K.Safe i Q p s' := by
  cases p with
  | ret a => exact fun t ht => h t (K.trans i _ _ _ hrely ht)
  | call c k =>
    exact ⟨K.stable i c s s' h.1 hrely, fun t r t' ht => h.2 t r t' (K.trans i _ _ _ hrely ht)⟩

theorem safe_ret {a : α} (h : ∀ t, K.rely i s t → Q a t) : K.Safe i Q (pure a) s := h

/-- **Sequencing.** -/
theorem safe_bind {P : β → σ → Prop} {p : Prog R β} {g : β → Prog R α} (hp : K.Safe i P p s)
    (hg : ∀ b t, P b t → K.Safe i Q (g b) t) : K.Safe i Q (p >>= g) s := by
  induction p generalizing s with
  | ret b => exact hg b s (hp s (K.refl i s))
  | call c k ih => exact ⟨hp.1, fun t r t' h h1 h2 h3 => ih r (hp.2 t r t' h h1 h2 h3)⟩

theorem safe_perform {c : C} {g : R c → Prog R α} (hpre : K.pre i c s)
    (hg : ∀ t r t', K.rely i s t → K.inv t → K.inv t' → K.post i c r t t' →
      K.Safe i Q (g r) t') : K.Safe i Q (Prog.perform c >>= g) s :=
  ⟨hpre, hg⟩

theorem Safe.weaken {P : α → σ → Prop} {p : Prog R α} (h : K.Safe i P p s)
    (hP : ∀ a t, P a t → Q a t) : K.Safe i Q p s := by
  induction p generalizing s with
  | ret a => exact fun t ht => hP a t (h t ht)
  | call c k ih => exact ⟨h.1, fun t r t' h0 h1 h2 h3 => ih r (h.2 t r t' h0 h1 h2 h3)⟩

section Pool
variable [DecidableEq ι] {exec : ι → (c : C) → F → σ → R c × σ} {env : E → σ → σ}
  {Qs : ι → α → σ → Prop}

/-- **Safe programs stay safe** when calls keep the contract and what others rely on. -/
theorem pool_safe {ok : Pool ι R α σ → Act ι E F → Prop} {p₀ p : Pool ι R α σ}
    (h : Reaches (Pool.step exec env) ok p₀ p) (hinv : K.inv p₀.state)
    (hsafe : ∀ i, K.Safe i (Qs i) (p₀.progs i) p₀.state)
    (hcall : ∀ p i f c k, ok p (.call i f) → p.progs i = .call c k → K.inv p.state →
      K.pre i c p.state → K.inv (exec i c f p.state).2 ∧
        K.post i c (exec i c f p.state).1 p.state (exec i c f p.state).2 ∧
        ∀ j, j ≠ i → K.rely j p.state (exec i c f p.state).2)
    (henv : ∀ p e, ok p (.env e) → K.inv p.state →
      K.inv (env e p.state) ∧ ∀ j, K.rely j p.state (env e p.state)) :
    K.inv p.state ∧ ∀ i, K.Safe i (Qs i) (p.progs i) p.state := by
  refine pool_induction (I := fun p => K.inv p.state ∧ ∀ i, K.Safe i (Qs i) (p.progs i) p.state) h
    ⟨hinv, hsafe⟩ (fun p i f c k hp hok hprog => ?_) fun p e hp hok => ?_
  · have hi := hp.2 i
    rw [hprog] at hi
    obtain ⟨hinv', hpost, hrely⟩ := hcall p i f c k hok hprog hp.1 hi.1
    refine ⟨hinv', (Function.forall_update_iff _ fun j q => K.Safe j (Qs j) q _).mpr ⟨?_, ?_⟩⟩
    · exact hi.2 _ _ _ (K.refl i _) hp.1 hinv' hpost
    · exact fun j hj => (hp.2 j).later (hrely j hj)
  · obtain ⟨hinv', hrely⟩ := henv p e hok hp.1
    exact ⟨hinv', fun j => (hp.2 j).later (hrely j)⟩

end Pool

/-- What the contract promises. -/
structure Kept (K : Contract ι R σ) (i : ι) {c : C} (s : σ) (out : R c × σ) : Prop where
  inv : K.inv out.2
  post : K.post i c out.1 s out.2

/-- A run to the end, with steps `env` in between. -/
def alone (exec : (c : C) → σ → R c × σ) (env : ℕ → σ → σ) : Prog R α → ℕ → σ → α × σ
  | .ret a, n, s => (a, env n s)
  | .call c k, n, s =>
    alone exec env (k (exec c (env n s)).1) (n + 1) (exec c (env n s)).2

/-- **A safe program ends in its postcondition.** -/
theorem alone_safe {exec : (c : C) → σ → R c × σ} {env : ℕ → σ → σ} {p : Prog R α}
    (h : K.Safe i Q p s) (hinv : K.inv s)
    (hcall : ∀ c s, K.inv s → K.pre i c s → K.Kept i s (exec c s))
    (henv : ∀ n s, K.inv s → K.inv (env n s) ∧ K.rely i s (env n s)) (n : ℕ) :
    Q (alone exec env p n s).1 (alone exec env p n s).2 := by
  induction p generalizing n s with
  | ret a => exact h _ (henv n s hinv).2
  | call c k ih =>
    obtain ⟨hinv', hrely⟩ := henv n s hinv
    have hkept := hcall c (env n s) hinv' (K.stable i c s _ h.1 hrely)
    exact ih _ (h.2 _ _ _ hrely hinv' hkept.inv hkept.post) hkept.inv (n + 1)

end Contract

end MacProvider.Lib.Rely
