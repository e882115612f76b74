import Mathlib.Order.Basic

/-! # Operations that run one transaction on one connection

An operation is a tree of statements (`Prog`) on the transaction's copy of the database. `run` is
the operation as a whole, with a fault at one of its calls (`run_yields`). `exec` are the same calls
on a connection that outlives it, under a context that is cancelled after `live` calls
(`exec_settled_iff`). `Mishap` is for transactions as one step. -/

namespace MacProvider.Lib.Transactions

variable {σ ε ρ : Type}

/-- Statements, and what is done with results. -/
inductive Prog (σ ε ρ : Type) : Type 1
  | stmt {β : Type} (s : σ → Except ε (σ × β)) (k : Except ε β → Prog σ ε ρ)
  /-- `tx.Commit()`; the result is built from its error. -/
  | commit (k : Option ε → ρ)
  /-- Return a result; the deferred `tx.Rollback()` ends the transaction. -/
  | rollback (r : ρ)

/-! ### The operation as a whole -/

/-- What goes wrong during an operation. -/
inductive Fault (ε : Type)
  | none
  /-- The `n`-th call returns `e` and is not executed. -/
  | call (n : ℕ) (e : ε)
  /-- The commit took effect, but returning the connection failed. -/
  | close (e : ε)

/-- The error of the next call. -/
def Fault.now : Fault ε → Option ε
  | call 0 e => some e
  | _ => Option.none

/-- What is left of the fault behind a call. -/
def Fault.next : Fault ε → Fault ε
  | none => none
  | call 0 _ => none
  | call (n + 1) e => call n e
  | close e => close e

/-- The error a commit that took effect reports. -/
def Fault.late : Fault ε → Option ε
  | close e => some e
  | _ => Option.none

namespace Prog

/-- On `o` before the transaction and its copy `w`. -/
def body : Prog σ ε ρ → Fault ε → σ → σ → ρ × σ
  | stmt s k, f, o, w =>
    match f.now.elim (s w) .error with
    | .error e => body (k (.error e)) f.next o w
    | .ok (w', b) => body (k (.ok b)) f.next o w'
  | commit k, f, o, w =>
    match f.now with
    | some e => (k (some e), o)
    | none => (k f.late, w)
  | rollback r, _, o, _ => (r, o)

/-- The operation; `fail` is for one that cannot begin. A rollback is taken to work, also when a
call is cancelled inside the transaction, where `exec` leaves the connection inside it. What holds
in all runs is proved of `run`, what becomes of the connection of `exec`; without a cancellation
they agree (`exec_eq_run`). -/
def run (p : Prog σ ε ρ) (fail : ε → ρ) : Fault ε → σ → ρ × σ
  | .call 0 e, db => (fail e, db)
  | .call 1 e, db => (fail e, db)
  | .call (n + 2) e, db => p.body (.call n e) db db
  | f, db => p.body f db db

/-- Under every fault, no commit and a result in `Q`, or a commit in `P` with the result. -/
def Yields (Q : ρ → Prop) (P : ρ → σ → Prop) : Prog σ ε ρ → σ → Prop
  | stmt s k, w =>
    (∀ e, Yields Q P (k (.error e)) w) ∧ ∀ w' b, s w = .ok (w', b) → Yields Q P (k (.ok b)) w'
  | commit k, w => (∀ o, P (k o) w) ∧ ∀ e, Q (k (some e))
  | rollback r, _ => Q r

theorem body_yields {Q : ρ → Prop} {P : ρ → σ → Prop} (p : Prog σ ε ρ) :
    ∀ (f : Fault ε) (o w : σ), p.Yields Q P w →
      (∃ r, p.body f o w = (r, o) ∧ Q r) ∨ ∃ r w', p.body f o w = (r, w') ∧ P r w' := by
  induction p with
  | stmt s k ih =>
    intro f o w h
    unfold body
    rcases hs : f.now.elim (s w) .error with e | ⟨w', b⟩
    · exact ih (.error e) f.next o w (h.1 e)
    · refine ih (.ok b) f.next o w' (h.2 w' b ?_)
      rcases hn : f.now with _ | e <;> rw [hn] at hs
      · exact hs
      · cases hs
  | commit k =>
    intro f o w h
    unfold body
    rcases f.now with _ | e
    · exact Or.inr ⟨_, w, rfl, h.1 _⟩
    · exact Or.inl ⟨_, rfl, h.2 e⟩
  | rollback r => exact fun f o w h => Or.inl ⟨r, rfl, h⟩

/-- **What an operation comes to.** -/
theorem run_yields {Q : ρ → Prop} {P : ρ → σ → Prop} {p : Prog σ ε ρ} {fail : ε → ρ} {db : σ}
    (hfail : ∀ e, Q (fail e)) (h : p.Yields Q P db) (f : Fault ε) :
    (∃ r, p.run fail f db = (r, db) ∧ Q r) ∨ ∃ r w, p.run fail f db = (r, w) ∧ P r w := by
  rcases f with _ | ⟨_ | _ | n, e⟩ | e
  · exact body_yields p _ db db h
  · exact Or.inl ⟨_, rfl, hfail e⟩
  · exact Or.inl ⟨_, rfl, hfail e⟩
  · exact body_yields p _ db db h
  · exact body_yields p _ db db h

/-- The calls behind `BEGIN`. -/
def calls : Prog σ ε ρ → σ → ℕ
  | stmt s k, w =>
    match s w with
    | .error e => calls (k (.error e)) w + 1
    | .ok (w', b) => calls (k (.ok b)) w' + 1
  | commit _, _ => 1
  | rollback _, _ => 1

end Prog

/-! ### The operation on a pooled connection -/

/-- Committed database, and the open copy. -/
structure Conn (σ : Type) where
  committed : σ
  tx : Option σ

/-- Of a cancelled context, and of `BEGIN` inside a transaction. -/
structure ConnErrors (ε : Type) where
  canceled : ε
  nested : ε

/-- Connection and `BEGIN`, in a context for `live` calls. On failure the connection is given
back. -/
def beginImmediate (errs : ConnErrors ε) (live : ℕ) (c : Conn σ) : Except ε (Conn σ) :=
  if live ≤ 1 then .error errs.canceled
  else
    match c.tx with
    | some _ => .error errs.nested
    | none => .ok { c with tx := some c.committed }

namespace Prog

/-- Under a context for `live` more calls. -/
def execBody (errs : ConnErrors ε) : Prog σ ε ρ → ℕ → Conn σ → ρ × Conn σ
  | stmt _ k, 0, c => execBody errs (k (.error errs.canceled)) 0 c
  | stmt s k, live + 1, c =>
    match s (c.tx.getD c.committed) with
    | .error e => execBody errs (k (.error e)) live c
    | .ok (w, b) => execBody errs (k (.ok b)) live { c with tx := some w }
  | commit k, 0, c => (k (some errs.canceled), c)
  | commit k, _ + 1, c => (k none, ⟨c.tx.getD c.committed, none⟩)
  | rollback r, 0, c => (r, c)
  | rollback r, _ + 1, c => (r, { c with tx := none })

/-- The whole operation on the connection. -/
def exec (errs : ConnErrors ε) (p : Prog σ ε ρ) (fail : ε → ρ) (live : ℕ) (c : Conn σ) :
    ρ × Conn σ :=
  match beginImmediate errs live c with
  | .error e => (fail e, c)
  | .ok c' => p.execBody errs (live - 2) c'

theorem execBody_zero (errs : ConnErrors ε) (p : Prog σ ε ρ) (c : Conn σ) :
    (p.execBody errs 0 c).2 = c := by
  induction p with
  | stmt s k ih => exact ih _
  | commit k => rfl
  | rollback r => rfl

theorem execBody_live (errs : ConnErrors ε) (p : Prog σ ε ρ) : ∀ (live : ℕ) (o w : σ),
    p.calls w ≤ live →
      p.execBody errs live ⟨o, some w⟩ = ((p.body .none o w).1, ⟨(p.body .none o w).2, none⟩) := by
  induction p with
  | stmt s k ih =>
    intro live o w h
    rcases live with _ | live
    · unfold calls at h
      rcases hs : s w with e | ⟨w', b⟩ <;> simp [hs] at h
    · unfold calls at h
      rcases hs : s w with e | ⟨w', b⟩ <;> simp only [hs] at h
      · simp only [execBody, body, Option.getD_some, hs, Fault.now, Fault.next, Option.elim]
        exact ih _ live o w (by omega)
      · simp only [execBody, body, Option.getD_some, hs, Fault.now, Fault.next, Option.elim]
        exact ih _ live o w' (by omega)
  | commit k =>
    intro live o w h
    rcases live with _ | live
    · simp [calls] at h
    · rfl
  | rollback r =>
    intro live o w h
    rcases live with _ | live
    · simp [calls] at h
    · rfl

/-- **A cancelled context leaves it open.** -/
theorem execBody_cancelled (errs : ConnErrors ε) (p : Prog σ ε ρ) : ∀ (live : ℕ) (o w : σ),
    live < p.calls w → (p.execBody errs live ⟨o, some w⟩).2.tx ≠ none := by
  induction p with
  | stmt s k ih =>
    intro live o w h
    rcases live with _ | live
    · rw [execBody_zero]; simp
    · unfold calls at h
      rcases hs : s w with e | ⟨w', b⟩ <;> simp only [hs] at h
      · simp only [execBody, Option.getD_some, hs]
        exact ih _ live o w (by omega)
      · simp only [execBody, Option.getD_some, hs]
        exact ih _ live o w' (by omega)
  | commit k =>
    intro live o w h
    obtain rfl : live = 0 := by simp [calls] at h; omega
    rw [execBody_zero]; simp
  | rollback r =>
    intro live o w h
    obtain rfl : live = 0 := by simp [calls] at h; omega
    rw [execBody_zero]; simp

/-- Outside a transaction, writes all in or all out, and ready for `BEGIN`. -/
structure Settled (errs : ConnErrors ε) (p : Prog σ ε ρ) (o : σ) (c : Conn σ) : Prop where
  outside : c.tx = none
  atomic : c.committed = (p.body .none o o).2 ∨ c.committed = o
  next : ∀ live, 2 ≤ live → ∃ c', beginImmediate errs live c = .ok c'

theorem settled_of_outside {errs : ConnErrors ε} {p : Prog σ ε ρ} {o : σ} {c : Conn σ}
    (h : c.tx = none) (ha : c.committed = (p.body .none o o).2 ∨ c.committed = o) :
    Settled errs p o c := by
  refine ⟨h, ha, fun live hl => ?_⟩
  unfold beginImmediate
  rw [if_neg (by omega), h]
  exact ⟨_, rfl⟩

theorem exec_eq_run (errs : ConnErrors ε) (p : Prog σ ε ρ) (fail : ε → ρ) {live : ℕ} {o : σ}
    (h : p.calls o + 2 ≤ live) :
    p.exec errs fail live ⟨o, none⟩ = ((p.run fail .none o).1, ⟨(p.run fail .none o).2, none⟩) := by
  unfold exec beginImmediate
  rw [if_neg (by omega)]
  exact execBody_live errs p (live - 2) o o (by omega)

/-- **Settled exactly when the cancellation misses the transaction.** -/
theorem exec_settled_iff (errs : ConnErrors ε) (p : Prog σ ε ρ) (fail : ε → ρ) (live : ℕ) (o : σ) :
    Settled errs p o (p.exec errs fail live ⟨o, none⟩).2 ↔ live ≤ 1 ∨ p.calls o + 2 ≤ live := by
  by_cases h1 : live ≤ 1
  · unfold exec beginImmediate
    rw [if_pos h1]
    exact ⟨fun _ => Or.inl h1, fun _ => settled_of_outside rfl (Or.inr rfl)⟩
  · constructor
    · intro hs
      by_contra hn
      unfold exec beginImmediate at hs
      rw [if_neg h1] at hs
      exact execBody_cancelled errs p (live - 2) o o (by omega) hs.outside
    · rintro (h | h)
      · exact absurd h h1
      · rw [exec_eq_run errs p fail h]
        exact settled_of_outside rfl (Or.inl rfl)

end Prog

/-- Nothing, a rollback, or a commit with an error. -/
inductive Mishap
  | none
  | rolledBack
  | unreported
deriving DecidableEq

/-- Answer and database; `lost` is the answer on an error. -/
def Mishap.settle (lost : ρ) (done : ρ × σ) (db : σ) : Mishap → ρ × σ
  | none => done
  | rolledBack => (lost, db)
  | unreported => (lost, done.2)

end MacProvider.Lib.Transactions
