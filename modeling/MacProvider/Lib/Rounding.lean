import Mathlib.Data.Rat.Floor

/-! # Rounding half to even

`halfEven x` is an integer nearest to `x`, and the even one of two. -/

namespace MacProvider.Lib.Rounding

section Field
variable {α : Type} [Field α] [LinearOrder α] [FloorRing α] {x : α}

/-- **The nearest integer**, the even one of two. -/
def halfEven (x : α) : ℤ :=
  if Int.fract x < 1 / 2 then ⌊x⌋
  else if 1 / 2 < Int.fract x then ⌊x⌋ + 1
  else if ⌊x⌋ % 2 = 0 then ⌊x⌋
  else ⌊x⌋ + 1

theorem floor_le_halfEven (x : α) : ⌊x⌋ ≤ halfEven x := by
  unfold halfEven
  split_ifs <;> omega

theorem halfEven_le_floor_add_one (x : α) : halfEven x ≤ ⌊x⌋ + 1 := by
  unfold halfEven
  split_ifs <;> omega

variable [IsStrictOrderedRing α]

@[simp] theorem halfEven_intCast (k : ℤ) : halfEven (k : α) = k := by simp [halfEven]

@[simp] theorem halfEven_zero : halfEven (0 : α) = 0 := by simp [halfEven]

/-- **Rounding is monotone.** -/
theorem halfEven_mono {x y : α} (h : x ≤ y) : halfEven x ≤ halfEven y := by
  rcases (Int.floor_le_floor h).lt_or_eq with hlt | heq
  · have h1 := halfEven_le_floor_add_one x
    have h2 := floor_le_halfEven y
    omega
  · have hfract : Int.fract x ≤ Int.fract y := by
      have hx := Int.floor_add_fract x
      have hy := Int.floor_add_fract y
      rw [heq] at hx
      linarith
    unfold halfEven
    split_ifs <;> first | omega | linarith

theorem halfEven_nonneg (h : 0 ≤ x) : 0 ≤ halfEven x := by
  simpa using halfEven_mono h

theorem halfEven_div_le {n : ℤ} {d : α} (hn : 0 ≤ n) (hd : 1 ≤ d) : halfEven ((n : α) / d) ≤ n := by
  have hle : (n : α) / d ≤ n := div_le_self (by exact_mod_cast hn) hd
  simpa using halfEven_mono hle

end Field

theorem halfEven_div (n : ℤ) {d : ℤ} (hd : 0 < d) :
    halfEven ((n : ℚ) / d) = if n % d * 2 < d then n / d
      else if d < n % d * 2 then n / d + 1
      else if n / d % 2 = 0 then n / d
      else n / d + 1 := by
  obtain ⟨k, rfl⟩ := Int.eq_ofNat_of_zero_le hd.le
  have hk : (0 : ℚ) < k := by exact_mod_cast hd
  have hfloor : ⌊(n : ℚ) / ((k : ℤ) : ℚ)⌋ = n / (k : ℤ) := by
    exact Rat.floor_intCast_div_natCast n k
  have hfract : Int.fract ((n : ℚ) / ((k : ℤ) : ℚ)) = ((n % (k : ℤ) : ℤ) : ℚ) / k := by
    rw [Int.fract, hfloor, Int.emod_def]
    push_cast
    field_simp
  have hlt : Int.fract ((n : ℚ) / ((k : ℤ) : ℚ)) < 1 / 2 ↔ n % (k : ℤ) * 2 < k := by
    rw [hfract, div_lt_div_iff₀ hk two_pos, one_mul]
    exact_mod_cast Iff.rfl
  have hgt : 1 / 2 < Int.fract ((n : ℚ) / ((k : ℤ) : ℚ)) ↔ (k : ℤ) < n % (k : ℤ) * 2 := by
    rw [hfract, div_lt_div_iff₀ two_pos hk, one_mul]
    exact_mod_cast Iff.rfl
  unfold halfEven
  simp only [hlt, hgt, hfloor]

end MacProvider.Lib.Rounding
