import Mathlib.Data.Nat.Notation

/-! # UTF-8

A byte that does not belong to a character is read as U+FFFD, by itself. Decoding undoes encoding
(`decode_encode`). -/

namespace MacProvider.Lib.Utf8

/-- For a byte that is no character. -/
def replacement : Char := Char.ofNat 0xfffd

/-- The bytes of a text. -/
def encode (cs : List Char) : List UInt8 := cs.flatMap String.utf8EncodeChar

/-- At most `fuel` characters. -/
def decodeN : ℕ → List UInt8 → List Char
  | 0, _ | _, [] => []
  | fuel + 1, b :: bs =>
    match (b :: bs).toByteArray.utf8DecodeChar? 0 with
    | some c => c :: decodeN fuel ((b :: bs).drop c.utf8Size)
    | none => replacement :: decodeN fuel bs

/-- The characters of some bytes. -/
def decode (bs : List UInt8) : List Char := decodeN bs.length bs

/-! ### Decoding undoes encoding -/

theorem toNat_lt (c : Char) : c.toNat < 0x110000 := by
  rcases c.valid with h | h
  · exact Nat.lt_trans h (by decide)
  · exact h.2

theorem not_surrogate (c : Char) : c.toNat < 0xd800 ∨ 0xdfff < c.toNat :=
  c.valid.imp id And.left

theorem decodeN_encodeChar (fuel : ℕ) (c : Char) (rest : List UInt8) :
    decodeN (fuel + 1) (String.utf8EncodeChar c ++ rest) = c :: decodeN fuel rest := by
  obtain ⟨b, bs, hbytes⟩ := List.exists_cons_of_ne_nil (String.utf8EncodeChar_ne_nil (c := c))
  have hdecode : (b :: (bs ++ rest)).toByteArray.utf8DecodeChar? 0 = some c := by
    rw [← List.cons_append, ← hbytes, List.toByteArray_append]
    exact ByteArray.utf8DecodeChar?_utf8EncodeChar_append
  have hdrop : (b :: (bs ++ rest)).drop c.utf8Size = rest := by
    rw [← List.cons_append, ← hbytes, ← String.length_utf8EncodeChar, List.drop_left]
  rw [hbytes, List.cons_append, decodeN, hdecode]
  dsimp only
  rw [hdrop]

theorem decodeN_encode (cs : List Char) {fuel : ℕ} (h : cs.length ≤ fuel) :
    decodeN fuel (encode cs) = cs := by
  induction cs generalizing fuel with
  | nil => cases fuel <;> rfl
  | cons c cs ih =>
    obtain ⟨fuel, rfl⟩ := Nat.exists_eq_add_of_le' (Nat.le_of_add_left_le h)
    rw [encode, List.flatMap_cons, decodeN_encodeChar]
    exact congrArg _ (ih (Nat.le_of_succ_le_succ h))

theorem length_le_length_encode (cs : List Char) : cs.length ≤ (encode cs).length := by
  induction cs with
  | nil => exact Nat.le_refl 0
  | cons c cs ih =>
    have hpos := List.length_pos_iff.mpr (String.utf8EncodeChar_ne_nil (c := c))
    rw [encode, List.flatMap_cons, List.length_append, List.length_cons, Nat.add_comm]
    exact Nat.add_le_add hpos ih

/-- **Decoding undoes encoding.** -/
@[simp] theorem decode_encode (cs : List Char) : decode (encode cs) = cs :=
  decodeN_encode cs (length_le_length_encode cs)

theorem encode_injective {cs ds : List Char} (h : encode cs = encode ds) : cs = ds := by
  rw [← decode_encode cs, h, decode_encode]

end MacProvider.Lib.Utf8
