import Mathlib.Data.List.Infix

/-! # Lines of an append-only text

The lines of a text are those that a separator ends; what follows the last one is its torn tail.
Behind a torn tail the first line of an append is lost in it. -/

namespace MacProvider.Lib.Lines

variable {α : Type} [BEq α] [LawfulBEq α] {nl : α}

/-- The lines of a text that are terminated. -/
def lines (nl : α) (t : List α) : List (List α) := (t.splitOn nl).dropLast

/-- What follows the last separator. -/
def tail (nl : α) (t : List α) : List α := (t.splitOn nl).getLastD []

/-- No torn tail. -/
def AtLineStart (nl : α) (t : List α) : Prop := t = [] ∨ t.getLast? = some nl

instance (t : List α) [DecidableEq α] : Decidable (AtLineStart nl t) :=
  inferInstanceAs (Decidable (_ ∨ _))

theorem lines_of_notMem {t : List α} (h : nl ∉ t) : lines nl t = [] := by
  rw [lines, List.splitOn_eq_singleton h]
  rfl

theorem lines_append {t : List α} (h : AtLineStart nl t) (u : List α) :
    lines nl (t ++ u) = lines nl t ++ lines nl u := by
  rcases h with rfl | h
  · rfl
  obtain ⟨s, rfl⟩ := List.getLast?_eq_some_iff.mp h
  unfold lines
  rw [List.append_assoc, List.singleton_append, List.splitOn_append_cons_self,
    List.splitOn_append_cons_self, List.dropLast_append_of_ne_nil (List.splitOn_ne_nil nl u),
    List.dropLast_append_of_ne_nil (List.splitOn_ne_nil nl [])]
  simp

theorem lines_line {l : List α} (h : nl ∉ l) : lines nl (l ++ [nl]) = [l] := by
  rw [lines, List.splitOn_append_cons_self, List.splitOn_eq_singleton h]
  rfl

theorem lines_append_line {t l : List α} (h : AtLineStart nl t) (hl : nl ∉ l) :
    lines nl (t ++ (l ++ [nl])) = lines nl t ++ [l] := by
  rw [lines_append h, lines_line hl]

theorem lines_append_torn {t u : List α} (h : AtLineStart nl t) (hu : nl ∉ u) :
    lines nl (t ++ u) = lines nl t := by
  rw [lines_append h, lines_of_notMem hu, List.append_nil]

omit [BEq α] [LawfulBEq α] in
theorem exists_torn (nl : α) (t : List α) : ∃ s u, t = s ++ u ∧ AtLineStart nl s ∧ nl ∉ u := by
  induction t using List.reverseRecOn with
  | nil => exact ⟨[], [], rfl, Or.inl rfl, List.not_mem_nil⟩
  | append_singleton t x ih =>
    obtain ⟨s, u, rfl, hs, hu⟩ := ih
    by_cases hx : nl = x
    · subst hx
      exact ⟨s ++ u ++ [nl], [], by simp, Or.inr (by simp), List.not_mem_nil⟩
    · exact ⟨s, u ++ [x], by simp, hs, by simpa using ⟨hu, hx⟩⟩

theorem lines_isPrefix {t t' : List α} (h : t <+: t') : lines nl t <+: lines nl t' := by
  obtain ⟨v, rfl⟩ := h
  obtain ⟨s, u, rfl, hs, hu⟩ := exists_torn nl t
  rw [lines_append_torn hs hu, List.append_assoc, lines_append hs]
  exact List.prefix_append _ _

end MacProvider.Lib.Lines
