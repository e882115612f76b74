import Mathlib.Data.Finset.Card

/-! # Receive windows

The least number that has not come (`next`) and the set of later ones that have (`ahead`). Marking
the missing one drains the run behind it (`consumed_mark`, `within_mark`). -/

namespace MacProvider.Lib.ReceiveWindow

/-- The numbers that have come. -/
@[ext] structure Window where
  next : ℕ
  ahead : Finset ℕ

namespace Window

variable {w : Window} {n size k : ℕ}

/-- The numbers that have come. -/
def consumed (w : Window) : Set ℕ := {n | n < w.next ∨ n ∈ w.ahead}

theorem mem_consumed : n ∈ w.consumed ↔ n < w.next ∨ n ∈ w.ahead := Iff.rfl

/-- Beyond the missing number, by at most `size`. -/
def Within (size : ℕ) (w : Window) : Prop := ∀ n ∈ w.ahead, w.next < n ∧ n ≤ w.next + size

/-- Step over the numbers that have come already. -/
def drain : ℕ → Window → Window
  | 0, w => w
  | k + 1, w =>
    if w.next ∈ w.ahead then drain k ⟨w.next + 1, w.ahead.erase w.next⟩ else w

/-- A number comes. -/
def mark (w : Window) (n : ℕ) : Window :=
  if n = w.next then drain w.ahead.card ⟨w.next + 1, w.ahead⟩
  else if n < w.next then w
  else ⟨w.next, insert n w.ahead⟩

/-- The same consumed, and not the missing one. -/
structure Drained (w w' : Window) : Prop where
  consumed_eq : w'.consumed = w.consumed
  next_le : w.next ≤ w'.next
  lt_ahead : ∀ n ∈ w'.ahead, w'.next < n
  subset : w'.ahead ⊆ w.ahead

theorem drain_drained (hcard : w.ahead.card ≤ k) (hle : ∀ n ∈ w.ahead, w.next ≤ n) :
    Drained w (drain k w) := by
  -- each round takes one number away, so the size of the set bounds the rounds
  induction k generalizing w with
  | zero =>
    have hempty : w.ahead = ∅ := Finset.card_eq_zero.mp (Nat.le_zero.mp hcard)
    refine ⟨rfl, le_rfl, fun n hn => ?_, fun _ h => h⟩
    rw [drain, hempty] at hn
    exact absurd hn (Finset.notMem_empty n)
  | succ k ih =>
    rw [drain]
    split_ifs with hmem
    · have hcard' : (w.ahead.erase w.next).card ≤ k := by
        rw [Finset.card_erase_of_mem hmem]
        omega
      have hle' : ∀ n ∈ w.ahead.erase w.next, w.next + 1 ≤ n := by
        intro n hn
        have hne := Finset.ne_of_mem_erase hn
        have := hle n (Finset.mem_of_mem_erase hn)
        omega
      have h := ih (w := ⟨w.next + 1, w.ahead.erase w.next⟩) hcard' hle'
      refine ⟨h.consumed_eq.trans ?_, by have := h.next_le; simp only at this; omega, h.lt_ahead,
        h.subset.trans (Finset.erase_subset _ _)⟩
      ext n
      simp only [mem_consumed, Finset.mem_erase]
      constructor
      · rintro (h | ⟨-, h⟩)
        · rcases Nat.lt_succ_iff_lt_or_eq.mp h with h | rfl
          · exact .inl h
          · exact .inr hmem
        · exact .inr h
      · rintro (h | h)
        · exact .inl (by omega)
        · by_cases hn : n = w.next
          · exact .inl (by omega)
          · exact .inr ⟨hn, h⟩
    · refine ⟨rfl, le_rfl, fun n hn => ?_, fun _ h => h⟩
      have := hle n hn
      have hne : n ≠ w.next := fun h => hmem (h ▸ hn)
      omega

theorem Within.next_notMem (h : Within size w) : w.next ∉ w.consumed := by
  rintro (hlt | hmem)
  · exact lt_irrefl _ hlt
  · exact lt_irrefl _ (h _ hmem).1

theorem Within.drained_step (h : Within size w) :
    Drained ⟨w.next + 1, w.ahead⟩ (drain w.ahead.card ⟨w.next + 1, w.ahead⟩) :=
  drain_drained le_rfl fun n hn => (h n hn).1

/-- **A mark adds one number to what has come.** -/
theorem consumed_mark (h : Within size w) (n : ℕ) : (w.mark n).consumed = insert n w.consumed := by
  rw [mark]
  split_ifs with hn hlt
  · rw [h.drained_step.consumed_eq, hn]
    ext m
    simp only [mem_consumed, Set.mem_insert_iff, Nat.lt_succ_iff_lt_or_eq]
    tauto
  · exact (Set.insert_eq_of_mem (mem_consumed.mpr (Or.inl hlt))).symm
  · ext m
    simp only [mem_consumed, Set.mem_insert_iff, Finset.mem_insert]
    tauto

/-- **A mark within the window keeps the window.** -/
theorem within_mark (h : Within size w) (hn : n ≤ w.next + size) : Within size (w.mark n) := by
  rw [mark]
  split_ifs with heq hlt
  · intro m hm
    have hd := h.drained_step
    have hmem : m ∈ w.ahead := hd.subset hm
    have hbound := (h m hmem).2
    have hnext : w.next + 1 ≤ _ := hd.next_le
    exact ⟨hd.lt_ahead m hm, by omega⟩
  · exact h
  · intro m hm
    rcases Finset.mem_insert.mp hm with rfl | hm
    · exact ⟨by simp only; omega, hn⟩
    · exact h m hm

theorem mark_next_of_notMem (h : w.next + 1 ∉ w.ahead) : w.mark w.next = ⟨w.next + 1, w.ahead⟩ := by
  rw [mark, if_pos rfl]
  cases w.ahead.card with
  | zero => rfl
  | succ k => rw [drain, if_neg h]

/-- **The window behind the first `n` numbers.** -/
theorem Within.eq_of_consumed (h : Within size w) (hc : ∀ m, m ∈ w.consumed ↔ m < n) :
    w.next = n ∧ w.ahead = ∅ := by
  have hle : w.next ≤ n := by
    by_contra hlt
    have := (hc n).mp (Or.inl (not_le.mp hlt))
    exact lt_irrefl _ this
  have hnext : w.next = n := by
    refine le_antisymm hle (not_lt.mp fun hlt => h.next_notMem ((hc _).mpr hlt))
  refine ⟨hnext, Finset.eq_empty_of_forall_notMem fun m hm => ?_⟩
  have h1 := (hc m).mp (Or.inr hm)
  have h2 := (h m hm).1
  omega

end Window

end MacProvider.Lib.ReceiveWindow
