import Mathlib.Tactic.NormNum

/-! # Base64

The standard alphabet with padding. A reader takes line breaks anywhere and ignores the bits that
the padding makes superfluous. -/

namespace MacProvider.Lib.Base64

/-- The character of a digit. -/
def digit (n : ℕ) : Char :=
  if n < 26 then Char.ofNat (65 + n)
  else if n < 52 then Char.ofNat (71 + n)
  else if n < 62 then Char.ofNat (n - 4)
  else if n = 62 then '+' else '/'

/-- The digit of a character. -/
def value (c : Char) : Option ℕ :=
  if c.isUpper then some (c.toNat - 65)
  else if c.isLower then some (c.toNat - 71)
  else if c.isDigit then some (c.toNat + 4)
  else if c = '+' then some 62
  else if c = '/' then some 63
  else none

theorem value_digit {n : ℕ} (h : n < 64) : value (digit n) = some n := by
  revert n
  decide

/-- The lowest byte. -/
def byte (n : ℕ) : UInt8 := UInt8.ofNat (n % 256)

/-- The bytes of a text without line breaks. -/
def decodeGroups : List Char → Option (List UInt8)
  | [] => some []
  | [a, b, '=', '='] =>
    (value a).bind fun a => (value b).map fun b => [byte (a * 4 + b / 16)]
  | [a, b, c, '='] =>
    (value a).bind fun a => (value b).bind fun b => (value c).map fun c =>
      [byte (a * 4 + b / 16), byte (b * 16 + c / 4)]
  | a :: b :: c :: d :: rest =>
    (value a).bind fun a => (value b).bind fun b => (value c).bind fun c => (value d).bind fun d =>
      (decodeGroups rest).map fun bs =>
        byte (a * 4 + b / 16) :: byte (b * 16 + c / 4) :: byte (c * 64 + d) :: bs
  | _ => none

/-- **Reading.** -/
def decode (cs : List Char) : Option (List UInt8) :=
  decodeGroups (cs.filter fun c => c ≠ '\r' ∧ c ≠ '\n')

/-- **Writing.** -/
def encode : List UInt8 → List Char
  | [] => []
  | [x] => [digit (x.toNat / 4), digit (x.toNat % 4 * 16), '=', '=']
  | [x, y] =>
    [digit (x.toNat / 4), digit (x.toNat % 4 * 16 + y.toNat / 16), digit (y.toNat % 16 * 4), '=']
  | x :: y :: z :: rest =>
    digit (x.toNat / 4) :: digit (x.toNat % 4 * 16 + y.toNat / 16) ::
      digit (y.toNat % 16 * 4 + z.toNat / 64) :: digit (z.toNat % 64) :: encode rest

/-! ### Reading back -/

theorem byte_eq {x : UInt8} {n : ℕ} (h : n % 256 = x.toNat) : byte n = x := by
  rw [byte, h, UInt8.ofNat_toNat]

theorem digit_ne {n : ℕ} (h : n < 64) :
    digit n ≠ '=' ∧ digit n ≠ '\r' ∧ digit n ≠ '\n' ∧ digit n ≠ '.' := by
  revert n
  decide

theorem decodeGroups_encode (bs : List UInt8) : decodeGroups (encode bs) = some bs := by
  induction bs using encode.induct with
  | case1 => rfl
  | case2 x =>
    have hx := x.toNat_lt
    rw [encode, decodeGroups, value_digit (by omega), value_digit (by omega)]
    simp only [Option.bind_some, Option.map_some]
    rw [byte_eq (x := x) (by omega)]
  | case3 x y =>
    have hx := x.toNat_lt
    have hy := y.toNat_lt
    rw [encode, decodeGroups, value_digit (by omega), value_digit (by omega),
      value_digit (by omega)]
    · simp only [Option.bind_some, Option.map_some]
      rw [byte_eq (x := x) (by omega), byte_eq (x := y) (by omega)]
    · intro heq
      exact absurd heq (digit_ne (by omega)).1
  | case4 x y z rest ih =>
    have hx := x.toNat_lt
    have hy := y.toNat_lt
    have hz := z.toNat_lt
    have hpad := (digit_ne (n := z.toNat % 64) (by omega)).1
    rw [encode, decodeGroups, value_digit (by omega), value_digit (by omega),
      value_digit (by omega), value_digit (by omega), ih]
    · simp only [Option.bind_some, Option.map_some]
      rw [byte_eq (x := x) (by omega), byte_eq (x := y) (by omega), byte_eq (x := z) (by omega)]
    · exact fun _ heq _ => hpad heq
    · exact fun heq _ => hpad heq

theorem mem_encode {bs : List UInt8} {c : Char} (h : c ∈ encode bs) :
    c ≠ '\r' ∧ c ≠ '\n' ∧ c ≠ '.' := by
  have hpad : '=' ≠ '\r' ∧ '=' ≠ '\n' ∧ '=' ≠ '.' := by decide
  induction bs using encode.induct with
  | case1 => cases h
  | case2 x =>
    have hx := x.toNat_lt
    simp only [encode, List.mem_cons, List.not_mem_nil, or_false] at h
    rcases h with rfl | rfl | rfl | rfl
    iterate 2 exact (digit_ne (by omega)).2
    iterate 2 exact hpad
  | case3 x y =>
    have hx := x.toNat_lt
    have hy := y.toNat_lt
    simp only [encode, List.mem_cons, List.not_mem_nil, or_false] at h
    rcases h with rfl | rfl | rfl | rfl
    iterate 3 exact (digit_ne (by omega)).2
    exact hpad
  | case4 x y z rest ih =>
    have hx := x.toNat_lt
    have hy := y.toNat_lt
    have hz := z.toNat_lt
    simp only [encode, List.mem_cons] at h
    rcases h with rfl | rfl | rfl | rfl | h
    iterate 4 exact (digit_ne (by omega)).2
    · exact ih h

/-- **What is written is read back.** -/
theorem decode_encode (bs : List UInt8) : decode (encode bs) = some bs := by
  rw [decode, List.filter_eq_self.mpr, decodeGroups_encode]
  intro c hc
  obtain ⟨hcr, hlf, -⟩ := mem_encode hc
  simp [hcr, hlf]

theorem encode_ne_nil {bs : List UInt8} (h : bs ≠ []) : encode bs ≠ [] := by
  intro hnil
  have hdecode := decodeGroups_encode bs
  rw [hnil] at hdecode
  exact h (Option.some.inj hdecode).symm

end MacProvider.Lib.Base64
