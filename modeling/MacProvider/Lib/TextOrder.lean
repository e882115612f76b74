import Mathlib.Data.List.Lex
import Mathlib.Data.List.DropRight
import Mathlib.Data.Char
import Mathlib.Tactic.IntervalCases

/-! # Decimal text and its byte order

Fixed-width decimal texts compare like their numbers. A fraction without trailing zeros stands
before a terminator above every digit, so one that is a prefix of another sorts *after* it
(`fracZ_lt_of_append`), and all other pairs sort like the numbers (`fracZ_lt_fracZ`). -/

namespace MacProvider.Lib.TextOrder

theorem append_lt_append : ∀ {a b : List Char} (x y : List Char), a.length = b.length → a < b →
    a ++ x < b ++ y
  | [], [], _, _, _, h => absurd h (lt_irrefl _)
  | c :: a, d :: b, x, y, hl, h => by
    rcases List.cons_lt_cons_iff.mp h with hcd | ⟨rfl, hab⟩
    · exact List.cons_lt_cons_iff.mpr (Or.inl hcd)
    · exact List.cons_lt_cons_iff.mpr
        (Or.inr ⟨rfl, append_lt_append x y (by simpa using hl) hab⟩)

theorem exists_split : ∀ {a b : List Char}, ¬ a <+: b → ¬ b <+: a →
    ∃ p c d x y, a = p ++ c :: x ∧ b = p ++ d :: y ∧ c ≠ d
  | [], _, ha, _ => absurd (List.nil_prefix) ha
  | _ :: _, [], _, hb => absurd (List.nil_prefix) hb
  | c :: a, d :: b, ha, hb => by
    by_cases hcd : c = d
    · subst hcd
      obtain ⟨p, c', d', x, y, rfl, rfl, hne⟩ := exists_split (a := a) (b := b)
        (fun h => ha (List.cons_prefix_cons.mpr ⟨rfl, h⟩))
        (fun h => hb (List.cons_prefix_cons.mpr ⟨rfl, h⟩))
      exact ⟨c :: p, c', d', x, y, rfl, rfl, hne⟩
    · exact ⟨[], c, d, a, b, rfl, rfl, hcd⟩

variable {c : Char} {w n a m : ℕ}

theorem split_lt_iff {p x y : List Char} {d : Char} (hne : c ≠ d) :
    p ++ c :: x < p ++ d :: y ↔ c < d := by
  constructor
  · intro h
    by_contra hn
    have hdc : d < c := lt_of_le_of_ne (not_lt.mp hn) hne.symm
    have : p ++ d :: y < p ++ c :: x := List.append_left_lt (List.cons_lt_cons_iff.mpr (Or.inl hdc))
    exact absurd (lt_trans h this) (lt_irrefl _)
  · intro h
    exact List.append_left_lt (List.cons_lt_cons_iff.mpr (Or.inl h))

/-! ### Fixed-width decimal -/

/-- The digit `d < 10` as a character. -/
def digit (d : ℕ) : Char := Nat.digitChar d

/-- The `w` lowest digits, highest first. -/
def fixed : ℕ → ℕ → List Char
  | 0, _ => []
  | w + 1, n => fixed w (n / 10) ++ [digit (n % 10)]

@[simp] theorem length_fixed (w n : ℕ) : (fixed w n).length = w := by
  induction w generalizing n with
  | zero => rfl
  | succ w ih => simp [fixed, ih]

theorem digit_lt_digit {b : ℕ} (hb : b < 10) (h : a < b) : digit a < digit b := by
  have ha : a < 10 := by omega
  interval_cases b <;> interval_cases a <;> decide

theorem digit_lt_Z (ha : a < 10) : digit a < 'Z' := by
  interval_cases a <;> decide

theorem zero_le_digit (ha : a < 10) : '0' ≤ digit a := by
  interval_cases a <;> decide

theorem mem_fixed : ∀ {n : ℕ}, c ∈ fixed w n → ∃ d < 10, c = digit d := by
  induction w with
  | zero => intro n h; simp [fixed] at h
  | succ w ih =>
    intro n h
    rcases List.mem_append.mp h with h | h
    · exact ih h
    · exact ⟨n % 10, Nat.mod_lt _ (by norm_num), by simpa using h⟩

/-- **Fixed-width texts compare like numbers.** -/
theorem fixed_lt_fixed : ∀ {m n : ℕ}, n < 10 ^ w → m < n → fixed w m < fixed w n := by
  induction w with
  | zero => intro m n hn h; simp at hn; omega
  | succ w ih =>
    intro m n hn h
    have hn' : n / 10 < 10 ^ w := by rw [pow_succ] at hn; omega
    unfold fixed
    rcases Nat.lt_or_ge (m / 10) (n / 10) with hlt | hge
    · exact append_lt_append _ _ (by simp) (ih hn' hlt)
    · -- the leading digits agree, so the last one decides
      have he : m / 10 = n / 10 := by omega
      rw [he]
      refine List.append_left_lt (List.cons_lt_cons_iff.mpr (Or.inl ?_))
      exact digit_lt_digit (Nat.mod_lt _ (by norm_num)) (by omega)

theorem fixed_inj (hm : m < 10 ^ w) (hn : n < 10 ^ w) (h : fixed w m = fixed w n) : m = n := by
  rcases Nat.lt_trichotomy m n with hlt | he | hlt
  · exact absurd h (ne_of_lt (fixed_lt_fixed hn hlt))
  · exact he
  · exact absurd h.symm (ne_of_lt (fixed_lt_fixed hm hlt))

/-! ### Fractions without their trailing zeros -/

/-- A text without its trailing zeros. -/
def strip (l : List Char) : List Char := l.rdropWhile (· == '0')

theorem strip_append_zeros (l : List Char) : ∃ k, l = strip l ++ List.replicate k '0' := by
  refine ⟨(l.rtakeWhile (· == '0')).length, ?_⟩
  have hz : l.rtakeWhile (· == '0') =
      List.replicate (l.rtakeWhile (· == '0')).length '0' := by
    refine List.eq_replicate_iff.mpr ⟨rfl, fun c hc => ?_⟩
    simpa using List.mem_rtakeWhile_imp hc
  rw [← hz]
  exact (List.rdropWhile_append_rtakeWhile).symm

/-- The digits of `n / 10 ^ w` in `RFC3339Nano`. -/
def fracDigits (w n : ℕ) : List Char := strip (fixed w n)

theorem mem_fracDigits (h : c ∈ fracDigits w n) : ∃ d < 10, c = digit d :=
  mem_fixed ((List.rdropWhile_prefix _ _).subset h)

theorem fixed_eq (w n : ℕ) :
    fixed w n = fracDigits w n ++ List.replicate (w - (fracDigits w n).length) '0' := by
  obtain ⟨k, hk⟩ := strip_append_zeros (fixed w n)
  have hlen := congrArg List.length hk
  rw [length_fixed, List.length_append, List.length_replicate] at hlen
  have hzeros : w - (fracDigits w n).length = k := Nat.sub_eq_of_eq_add' hlen
  rw [hzeros]
  exact hk

theorem fracDigits_inj (hm : m < 10 ^ w) (hn : n < 10 ^ w)
    (h : fracDigits w m = fracDigits w n) : m = n :=
  fixed_inj hm hn (by rw [fixed_eq w m, fixed_eq w n, h])

theorem replicate_zero_le : ∀ {l : List Char}, (∀ c ∈ l, '0' ≤ c) → ∀ k, k ≤ l.length →
    List.replicate k '0' ≤ l
  | l, _, 0, _ => not_lt.mp (List.not_lt_nil l)
  | c :: l, h, k + 1, hk => by
    rw [List.replicate_succ]
    rcases lt_or_eq_of_le (h c (by simp)) with hlt | rfl
    · exact le_of_lt (List.cons_lt_cons_iff.mpr (Or.inl hlt))
    · have := replicate_zero_le (l := l) (fun c hc => h c (by simp [hc])) k (by simpa using hk)
      rcases lt_or_eq_of_le this with hlt | he
      · exact le_of_lt (List.cons_lt_cons_iff.mpr (Or.inr ⟨rfl, hlt⟩))
      · rw [he]

theorem fracDigits_le_of_append (hm : m < 10 ^ w)
    (h : fracDigits w m <+: fracDigits w n) : m ≤ n := by
  by_contra hlt
  have hfix := fixed_lt_fixed hm (not_le.mp hlt)
  obtain ⟨t, ht⟩ := h
  have hb := fixed_eq w n
  rw [← ht, List.append_assoc] at hb
  have hz : List.replicate (w - (fracDigits w m).length) '0' ≤
      t ++ List.replicate (w - (fracDigits w m ++ t).length) '0' := by
    refine replicate_zero_le (fun c hc => ?_) _ ?_
    · obtain ⟨d, hd, rfl⟩ := mem_fixed (hb ▸ List.mem_append_right _ hc)
      exact zero_le_digit hd
    · simp only [List.length_append, List.length_replicate]
      omega
  rw [hb, fixed_eq w m] at hfix
  rcases lt_or_eq_of_le hz with hz | hz
  · exact absurd (lt_trans hfix (List.append_left_lt hz)) (lt_irrefl _)
  · rw [← hz] at hfix; exact absurd hfix (lt_irrefl _)

/-- Fraction and terminator; nothing for zero. -/
def fracZ (w n : ℕ) : List Char :=
  (if fracDigits w n = [] then [] else '.' :: fracDigits w n) ++ ['Z']

/-- **A shorter fraction sorts after.** -/
theorem fracZ_lt_of_append (hm : m < 10 ^ w) (hn : n < 10 ^ w) (h : m < n)
    (hp : fracDigits w m <+: fracDigits w n) : fracZ w n < fracZ w m := by
  obtain ⟨t, ht⟩ := hp
  have hne : t ≠ [] := by
    rintro rfl
    rw [List.append_nil] at ht
    exact absurd (fracDigits_inj hm hn ht) (ne_of_lt h)
  obtain ⟨c, t, rfl⟩ := List.exists_cons_of_ne_nil hne
  have hn0 : fracDigits w n ≠ [] := by rw [← ht]; simp
  unfold fracZ
  rw [if_neg hn0]
  by_cases hm0 : fracDigits w m = []
  · rw [if_pos hm0]
    exact List.cons_lt_cons_iff.mpr (Or.inl (by decide))
  · rw [if_neg hm0, ← ht]
    obtain ⟨d, hd, rfl⟩ := mem_fracDigits (w := w) (n := n) (c := c) (by rw [← ht]; simp)
    have : '.' :: (fracDigits w m ++ digit d :: t) ++ ['Z'] =
        ('.' :: fracDigits w m) ++ digit d :: (t ++ ['Z']) := by simp
    rw [this]
    exact List.append_left_lt (List.cons_lt_cons_iff.mpr (Or.inl (digit_lt_Z hd)))

/-- **All other fractions sort like their numbers.** -/
theorem fracZ_lt_fracZ (hn : n < 10 ^ w) (h : m < n)
    (hp : ¬ fracDigits w m <+: fracDigits w n) : fracZ w m < fracZ w n := by
  have hp' : ¬ fracDigits w n <+: fracDigits w m := fun hq =>
    absurd (fracDigits_le_of_append hn hq) (not_le.mpr h)
  have hm0 : fracDigits w m ≠ [] := fun h0 => hp (by rw [h0]; exact List.nil_prefix)
  have hn0 : fracDigits w n ≠ [] := fun h0 => hp' (by rw [h0]; exact List.nil_prefix)
  obtain ⟨p, c, d, x, y, hx, hy, hne⟩ := exists_split hp hp'
  -- the same first difference decides the fixed-width texts and the stripped ones
  have hcd : c < d := by
    have hfix := fixed_lt_fixed hn h
    rw [fixed_eq w m, fixed_eq w n, hx, hy, List.append_assoc, List.append_assoc] at hfix
    exact (split_lt_iff hne).mp hfix
  unfold fracZ
  rw [if_neg hm0, if_neg hn0, hx, hy]
  have e1 : ∀ (e : Char) (z : List Char), '.' :: (p ++ e :: z) ++ ['Z'] =
      ('.' :: p) ++ e :: (z ++ ['Z']) := by intro e z; simp
  rw [e1, e1]
  exact (split_lt_iff hne).mpr hcd

end MacProvider.Lib.TextOrder
