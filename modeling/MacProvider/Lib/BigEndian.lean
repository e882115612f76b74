import Mathlib.Data.List.TakeWhile
import Mathlib.Data.Nat.Digits.Lemmas
import Mathlib.Data.UInt
import Mathlib.Tactic.Ring

/-! # Big-endian numbers

A byte string as a number, highest byte first (`value`). `fixed w n` is the text of `n` in `w` bytes
and `bytes n` the shortest one (`bytes_value`). -/

namespace MacProvider.Lib.BigEndian

/-- The number of a byte string. -/
def value (b : List UInt8) : ℕ := b.foldl (fun v x => v * 256 + x.toNat) 0

/-- The `w` lowest bytes of `n`. -/
def fixed : ℕ → ℕ → List UInt8
  | 0, _ => []
  | w + 1, n => fixed w (n / 256) ++ [UInt8.ofNat n]

/-- Without leading zeros. -/
def trim (b : List UInt8) : List UInt8 := b.dropWhile (· == 0)

/-- The shortest text. -/
def bytes (n : ℕ) : List UInt8 := trim (fixed (n.log2 / 8 + 1) n)

/-- The first byte, if any, is not zero. -/
def NoLeadingZero (b : List UInt8) : Prop := b.head? ≠ some 0

/-! ### Values -/

@[simp] theorem value_nil : value [] = 0 := rfl

theorem value_eq_ofDigits (b : List UInt8) :
    value b = Nat.ofDigits 256 (b.reverse.map UInt8.toNat) := by
  rw [Nat.ofDigits_eq_foldr, List.foldr_map, List.foldr_reverse]
  simp only [value, Nat.cast_id, Nat.add_comm, Nat.mul_comm]

theorem value_append (a b : List UInt8) : value (a ++ b) = value a * 256 ^ b.length + value b := by
  simp only [value_eq_ofDigits, List.reverse_append, List.map_append, Nat.ofDigits_append,
    List.length_map, List.length_reverse]
  ring

theorem value_cons (x : UInt8) (b : List UInt8) :
    value (x :: b) = x.toNat * 256 ^ b.length + value b := by
  rw [← List.singleton_append, value_append]
  simp [value]

theorem value_lt (b : List UInt8) : value b < 256 ^ b.length := by
  have h := Nat.ofDigits_lt_base_pow_length (b := 256) (l := b.reverse.map UInt8.toNat)
    (by decide) (by simpa using fun x _ => x.toNat_lt)
  rwa [← value_eq_ofDigits, List.length_map, List.length_reverse] at h

variable {b a : List UInt8}

theorem pow_le_value {x : UInt8} (h : x ≠ 0) : 256 ^ b.length ≤ value (x :: b) := by
  have hx : 0 < x.toNat := Nat.pos_of_ne_zero fun h0 => h (UInt8.toNat_inj.mp h0)
  rw [value_cons]
  calc 256 ^ b.length = 1 * 256 ^ b.length := (Nat.one_mul _).symm
    _ ≤ x.toNat * 256 ^ b.length := Nat.mul_le_mul_right _ hx
    _ ≤ x.toNat * 256 ^ b.length + value b := Nat.le_add_right _ _

@[simp] theorem length_fixed (w n : ℕ) : (fixed w n).length = w := by
  induction w generalizing n with
  | zero => rfl
  | succ w ih => rw [fixed, List.length_append, ih, List.length_singleton]

theorem value_fixed (w n : ℕ) : value (fixed w n) = n % 256 ^ w := by
  induction w generalizing n with
  | zero => simp [fixed, Nat.mod_one]
  | succ w ih =>
    have hbyte : value [UInt8.ofNat n] = n % 256 := by
      rw [value_cons, value_nil, UInt8.toNat_ofNat']
      simp
    rw [fixed, value_append, ih, hbyte, List.length_singleton, pow_one, pow_succ, Nat.mul_comm,
      Nat.mul_comm (256 ^ w), Nat.mod_mul, Nat.add_comm]

theorem fixed_value (b : List UInt8) : fixed b.length (value b) = b := by
  induction b using List.reverseRecOn with
  | nil => rfl
  | append_singleton b x ih =>
    have hx : x.toNat < 256 := x.toNat_lt
    have hval : value (b ++ [x]) = value b * 256 + x.toNat := by
      rw [value_append, List.length_singleton, pow_one, value_cons]
      simp
    have hdiv : value (b ++ [x]) / 256 = value b := by omega
    have hbyte : UInt8.ofNat (value (b ++ [x])) = x := by
      apply UInt8.toNat_inj.mp
      rw [UInt8.toNat_ofNat', hval]
      omega
    rw [List.length_append, List.length_singleton, fixed, hdiv, ih, hbyte]

theorem eq_of_length_value (hl : a.length = b.length) (hv : value a = value b) : a = b := by
  rw [← fixed_value a, ← fixed_value b, hl, hv]

/-! ### Leading zeros -/

theorem value_replicate_append (n : ℕ) (b : List UInt8) :
    value (List.replicate n 0 ++ b) = value b := by
  induction n with
  | zero => rfl
  | succ n ih =>
    rw [List.replicate_succ, List.cons_append, value_cons, ih]
    simp

theorem value_trim (b : List UInt8) : value (trim b) = value b := by
  unfold trim
  induction b with
  | nil => rfl
  | cons x b ih =>
    rw [List.dropWhile_cons]
    split_ifs with h
    · have hx : x = 0 := by simpa using h
      rw [ih, hx, value_cons]
      simp
    · rfl

theorem noLeadingZero_trim (b : List UInt8) : NoLeadingZero (trim b) := by
  unfold NoLeadingZero trim
  intro h
  have hnot := List.head?_dropWhile_not (· == (0 : UInt8)) b
  rw [h] at hnot
  simp at hnot

theorem trim_of_noLeadingZero (h : NoLeadingZero b) : trim b = b := by
  unfold trim
  cases b with
  | nil => rfl
  | cons x b =>
    have hx : x ≠ 0 := fun h0 => h (by rw [h0]; rfl)
    rw [List.dropWhile_cons, if_neg (by simpa using hx)]

theorem length_trim_le (b : List UInt8) : (trim b).length ≤ b.length :=
  (List.dropWhile_suffix _).length_le

theorem replicate_append_trim (b : List UInt8) :
    List.replicate (b.length - (trim b).length) 0 ++ trim b = b := by
  apply eq_of_length_value
  · rw [List.length_append, List.length_replicate]
    have := length_trim_le b
    omega
  · rw [value_replicate_append, value_trim]

theorem trim_eq_nil_iff : trim b = [] ↔ ∀ x ∈ b, x = 0 := by
  unfold trim
  simp

/-- **The text without a leading zero is unique.** -/
theorem eq_of_value_eq (ha : NoLeadingZero a) (hb : NoLeadingZero b)
    (hv : value a = value b) : a = b := by
  -- the value fixes the length: it lies between two powers of 256
  have hle : ∀ {a b : List UInt8}, NoLeadingZero a → value a = value b → a.length ≤ b.length := by
    intro a b ha hv
    cases a with
    | nil => exact Nat.zero_le _
    | cons x a =>
      have hx : x ≠ 0 := fun h0 => ha (by rw [h0]; rfl)
      have hpow : 256 ^ a.length < 256 ^ b.length := by
        calc 256 ^ a.length ≤ value (x :: a) := pow_le_value hx
          _ = value b := hv
          _ < 256 ^ b.length := value_lt b
      exact (Nat.pow_lt_pow_iff_right (by decide)).mp hpow
  exact eq_of_length_value (le_antisymm (hle ha hv) (hle hb hv.symm)) hv

theorem noLeadingZero_bytes (n : ℕ) : NoLeadingZero (bytes n) := noLeadingZero_trim _

theorem value_bytes (n : ℕ) : value (bytes n) = n := by
  unfold bytes
  rw [value_trim, value_fixed]
  apply Nat.mod_eq_of_lt
  have hpow : 256 ^ (n.log2 / 8 + 1) = 2 ^ (8 * (n.log2 / 8 + 1)) := by
    rw [pow_mul]
    norm_num
  calc n < 2 ^ (n.log2 + 1) := Nat.lt_log2_self
    _ ≤ 2 ^ (8 * (n.log2 / 8 + 1)) := Nat.pow_le_pow_right (by decide) (by omega)
    _ = 256 ^ (n.log2 / 8 + 1) := hpow.symm

/-- **The shortest text is the byte string, trimmed.** -/
theorem bytes_value (b : List UInt8) : bytes (value b) = trim b :=
  eq_of_value_eq (noLeadingZero_bytes _) (noLeadingZero_trim b)
    ((value_bytes _).trans (value_trim b).symm)

theorem length_bytes_le {n w : ℕ} (h : n < 256 ^ w) : (bytes n).length ≤ w := by
  have hv : value (fixed w n) = n := by rw [value_fixed, Nat.mod_eq_of_lt h]
  calc (bytes n).length = (trim (fixed w n)).length := by rw [← bytes_value, hv]
    _ ≤ (fixed w n).length := length_trim_le _
    _ = w := length_fixed w n

end MacProvider.Lib.BigEndian
