import MacProvider.Lib.Runs
import Mathlib.Logic.Function.Basic

/-! # Programs that call a service, and pools of them

A program (`Prog`) makes calls and goes on with their results. `MayCall`, `MayRet` and `Owes` say
what the rest of it can or has to do. A pool is a family of programs over one state. -/

namespace MacProvider.Lib.Calls

open Lib.Runs

/-- Calls `c : C` are answered by `R c`. -/
inductive Prog {C : Type} (R : C → Type) (α : Type) : Type
  | ret (a : α)
  | call (c : C) (k : R c → Prog R α)

variable {ι C E F α σ : Type} {R : C → Type}

namespace Prog

/-- The result, if the program has ended. -/
def result : Prog R α → Option α
  | ret a => some a
  | call _ _ => none

/-- One call. -/
def perform (c : C) : Prog R (R c) := call c ret

/-- One program behind another. -/
def bind {β : Type} : Prog R α → (α → Prog R β) → Prog R β
  | ret a, g => g a
  | call c k, g => call c fun r => (k r).bind g

instance : Monad (Prog R) where
  pure := ret
  bind := bind

/-- Some course of the program makes a call of `P`. -/
def MayCall (P : C → Prop) : Prog R α → Prop
  | ret _ => False
  | call c k => P c ∨ ∃ r, MayCall P (k r)

/-- Some course returns a result of `Q`. -/
def MayRet (Q : α → Prop) : Prog R α → Prop
  | ret a => Q a
  | call _ k => ∃ r, MayRet Q (k r)

/-- Every course calls `P` or returns in `Q`. -/
def Owes (P : C → Prop) (Q : α → Prop) : Prog R α → Prop
  | ret a => Q a
  | call c k => P c ∨ ∀ r, Owes P Q (k r)

variable {c : C} {P : C → Prop}

theorem not_mayCall_next {k : R c → Prog R α}
    (h : ¬ MayCall P (call c k)) (r : R c) : ¬ MayCall P (k r) :=
  fun hr => h (Or.inr ⟨r, hr⟩)

theorem not_call_of_not_mayCall {k : R c → Prog R α}
    (h : ¬ MayCall P (call c k)) : ¬ P c :=
  fun hc => h (Or.inl hc)

end Prog

/-! ### Pools -/

/-- A family of programs over a state. -/
structure Pool (ι : Type) {C : Type} (R : C → Type) (α σ : Type) where
  progs : ι → Prog R α
  state : σ

/-- A call of a program, or the environment. -/
inductive Act (ι E F : Type)
  | call (i : ι) (f : F)
  | env (e : E)

section Pool
variable [DecidableEq ι] (exec : ι → (c : C) → F → σ → R c × σ) (env : E → σ → σ)

/-- One action; an ended program does nothing. -/
def Pool.step (p : Pool ι R α σ) : Act ι E F → Pool ι R α σ
  | .call i f =>
    match p.progs i with
    | .ret _ => p
    | .call c k =>
      ⟨Function.update p.progs i (k (exec i c f p.state).1), (exec i c f p.state).2⟩
  | .env e => { p with state := env e p.state }

variable {exec env}

variable {p p₀ : Pool ι R α σ} {i : ι} {f : F} {c : C}

theorem step_call {k : R c → Prog R α} (h : p.progs i = .call c k) :
    p.step exec env (.call i f) =
      ⟨Function.update p.progs i (k (exec i c f p.state).1), (exec i c f p.state).2⟩ := by
  simp only [Pool.step, h]

theorem step_ret {a : α} (h : p.progs i = .ret a) : p.step exec env (.call i f) = p := by
  simp only [Pool.step, h]

/-- **Invariants** over allowed calls and the environment. -/
theorem pool_induction {ok : Pool ι R α σ → Act ι E F → Prop} {I : Pool ι R α σ → Prop}
    (h : Reaches (Pool.step exec env) ok p₀ p) (h₀ : I p₀)
    (hcall : ∀ p i f c k, I p → ok p (.call i f) → p.progs i = .call c k →
      I ⟨Function.update p.progs i (k (exec i c f p.state).1), (exec i c f p.state).2⟩)
    (henv : ∀ p e, I p → ok p (.env e) → I { p with state := env e p.state }) : I p := by
  refine reaches_induction h h₀ fun p a hp hok => ?_
  rcases a with ⟨i, f⟩ | e
  · rcases hprog : p.progs i with a | ⟨c, k⟩
    · rw [step_ret hprog]
      exact hp
    · rw [step_call hprog]
      exact hcall p i f c k hp hok hprog
  · exact henv p e hp hok

/-- A condition on calls, or on the environment. -/
def Guard (okCall : C → F → σ → Prop) (okEnv : E → σ → Prop) (p : Pool ι R α σ) :
    Act ι E F → Prop
  | .call i f =>
    match p.progs i with
    | .ret _ => True
    | .call c _ => okCall c f p.state
  | .env e => okEnv e p.state

variable {okCall : C → F → σ → Prop} {okEnv : E → σ → Prop}

instance [∀ c f s, Decidable (okCall c f s)] [∀ e s, Decidable (okEnv e s)] (p : Pool ι R α σ) :
    ∀ a, Decidable (Guard okCall okEnv p a)
  | .call i f =>
    match h : p.progs i with
    | .ret _ => .isTrue (by simp only [Guard, h])
    | .call c _ => decidable_of_iff (okCall c f p.state) (by simp only [Guard, h])
  | .env e => inferInstanceAs (Decidable (okEnv e p.state))

omit [DecidableEq ι] in
theorem Guard.of_call {k : R c → Prog R α}
    (h : Guard okCall okEnv p (.call i f)) (hp : p.progs i = .call c k) : okCall c f p.state := by
  simpa only [Guard, hp] using h

/-- **Invariants of the state.** -/
theorem state_induction {I : σ → Prop}
    (h : Reaches (Pool.step exec env) (Guard okCall okEnv) p₀ p) (h₀ : I p₀.state)
    (hcall : ∀ s i f c, I s → okCall c f s → I (exec i c f s).2)
    (henv : ∀ s e, I s → okEnv e s → I (env e s)) : I p.state :=
  pool_induction (I := fun p => I p.state) h h₀
    (fun p i f c _ hp hok hprog => hcall p.state i f c hp (hok.of_call hprog))
    fun p e hp hok => henv p.state e hp hok

end Pool

end MacProvider.Lib.Calls
