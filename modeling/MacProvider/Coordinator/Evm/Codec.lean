import MacProvider.Gateway.Basic
import MacProvider.Lib.Rlp

/-! # The coordinator's RLP encoder and decoder

`internal/payout/evm.go`. A Go call returns, returns an error, or panics (`Stop`); `hang` is a loop
without fuel. `int` has 64 bits, so a length of eight bytes added to the size of its header wraps
around (`wrap64`). -/

namespace MacProvider.Coordinator.Evm.Codec

open MacProvider.Gateway MacProvider.Lib Lib.Rlp Lib.BigEndian

/-! ### Go -/

/-- How a call can end without a value. -/
inductive Stop
  | error (msg : String)
  | panic
  | hang
  deriving DecidableEq

/-- What a call returns. -/
abbrev Go := Except Stop

variable {α γ : Type} {b s : Bytes}

@[simp] theorem ok_bind (a : α) (g : α → Go γ) : (Except.ok a >>= g) = g a := rfl

@[simp] theorem error_bind (e : Stop) (g : α → Go γ) :
    ((Except.error e : Go α) >>= g) = .error e := rfl

@[simp] theorem pure_eq_ok (a : α) : (pure a : Go α) = .ok a := rfl

theorem bind_eq_ok {x : Go α} {g : α → Go γ} {r : γ} :
    (x >>= g) = .ok r ↔ ∃ a, x = .ok a ∧ g a = .ok r := by
  cases x with
  | error e => simp
  | ok a => simp

/-- An error. -/
abbrev fail {α : Type} (msg : String) : Go α := .error (.error msg)

/-- `fmt.Errorf(pre + ": %w", err)`. -/
def wrapErr {α : Type} (pre : String) : Go α → Go α
  | .error (.error msg) => fail (pre ++ ": " ++ msg)
  | r => r

/-- The slice `b[lo:hi]`. -/
def slice (b : Bytes) (lo hi : ℤ) : Go Bytes :=
  if 0 ≤ lo ∧ lo ≤ hi ∧ hi ≤ b.length then .ok ((b.take hi.toNat).drop lo.toNat)
  else .error .panic

theorem slice_append (a m c : Bytes) :
    slice (a ++ (m ++ c)) a.length (a.length + m.length : ℕ) = .ok m := by
  have h : (a ++ (m ++ c)).take (a.length + m.length) = a ++ m := by
    rw [← List.append_assoc, List.take_left' (by simp)]
  unfold slice
  rw [if_pos (by simp), Int.toNat_natCast, Int.toNat_natCast, h, List.drop_left]

theorem slice_eq_panic_iff {lo hi : ℤ} :
    slice b lo hi = .error .panic ↔ ¬ (0 ≤ lo ∧ lo ≤ hi ∧ hi ≤ b.length) := by
  unfold slice
  split_ifs with h
  · simp [h]
  · simp [h]

/-- `int(v)` of a `uint64`. -/
def toInt (v : UInt64) : ℤ := wrap64 v.toNat

/-- A digit. -/
def hexDigit (n : ℕ) : Char := "0123456789abcdef".toList.getD n '0'

/-- The verb `%02x`. -/
def hexByte (x : UInt8) : String := String.ofList [hexDigit (x.toNat / 16), hexDigit (x.toNat % 16)]

/-! ### Helpers -/

/-- No leading zeros. -/
def trimLeadingZeros (b : Bytes) : Bytes := BigEndian.trim b

/-- The eight bytes of a number. -/
def binaryBigEndianPutUint64 (v : UInt64) : Bytes :=
  [(v >>> 56).toUInt8, (v >>> 48).toUInt8, (v >>> 40).toUInt8, (v >>> 32).toUInt8,
    (v >>> 24).toUInt8, (v >>> 16).toUInt8, (v >>> 8).toUInt8, v.toUInt8]

/-- A length without leading zeros. -/
def bigEndianLen (v : UInt64) : Bytes := trimLeadingZeros (binaryBigEndianPutUint64 v)

/-- The number of these bytes. -/
def bigEndianRead (b : Bytes) : UInt64 := b.foldl (fun v x => (v <<< 8) ||| x.toUInt64) 0

theorem toNat_shiftLeft_or (v : UInt64) (x : UInt8) (h : v.toNat < 2 ^ 56) :
    ((v <<< 8) ||| x.toUInt64).toNat = v.toNat * 256 + x.toNat := by
  have hx : x.toNat < 2 ^ 8 := x.toNat_lt
  have h8 : (8 : UInt64).toNat % 64 = 8 := rfl
  rw [UInt64.toNat_or, UInt64.toNat_shiftLeft, UInt8.toNat_toUInt64, h8, Nat.shiftLeft_eq,
    Nat.mod_eq_of_lt (by omega), Nat.mul_comm, ← Nat.two_pow_add_eq_or_of_lt hx]

theorem toNat_bigEndianRead (h : b.length ≤ 8) : (bigEndianRead b).toNat = value b := by
  -- From the last byte on: the bytes before it have a value below `2 ^ 56`.
  induction b using List.reverseRecOn with
  | nil => rfl
  | append_singleton b x ih =>
    have hl : b.length ≤ 7 := by
      rw [List.length_append, List.length_singleton] at h
      omega
    have hv : value b < 2 ^ 56 := by
      calc value b < 256 ^ b.length := value_lt b
        _ ≤ 256 ^ 7 := Nat.pow_le_pow_right (by norm_num) hl
        _ = 2 ^ 56 := by norm_num
    have ih := ih (by omega)
    have hr : bigEndianRead (b ++ [x]) = (bigEndianRead b <<< 8) ||| x.toUInt64 := by
      simp [bigEndianRead]
    rw [hr, toNat_shiftLeft_or _ _ (by omega), ih, value_append]
    simp [value_cons]

theorem toUInt8_shiftRight (v : UInt64) (n : UInt64) (hn : n.toNat < 64) :
    (v >>> n).toUInt8 = UInt8.ofNat (v.toNat / 2 ^ n.toNat) := by
  apply UInt8.toNat_inj.mp
  rw [UInt64.toNat_toUInt8, UInt64.toNat_shiftRight, Nat.mod_eq_of_lt hn, Nat.shiftRight_eq_div_pow,
    UInt8.toNat_ofNat']

theorem binaryBigEndianPutUint64_eq (v : UInt64) :
    binaryBigEndianPutUint64 v = fixed 8 v.toNat := by
  have h0 : v.toUInt8 = UInt8.ofNat v.toNat := rfl
  unfold binaryBigEndianPutUint64
  iterate 7 rw [toUInt8_shiftRight _ _ (by decide)]
  simp [fixed, Nat.div_div_eq_div_mul]

theorem trimLeadingZeros_binaryBigEndianPutUint64 (v : UInt64) :
    trimLeadingZeros (binaryBigEndianPutUint64 v) = bytes v.toNat := by
  have hv : v.toNat < 256 ^ 8 := v.toNat_lt
  have h : value (trimLeadingZeros (binaryBigEndianPutUint64 v)) = value (bytes v.toNat) := by
    rw [trimLeadingZeros, value_trim, binaryBigEndianPutUint64_eq, value_fixed,
      Nat.mod_eq_of_lt hv, value_bytes]
  exact eq_of_value_eq (noLeadingZero_trim _) (noLeadingZero_bytes _) h

theorem bigEndianLen_eq {n : ℕ} (h : n < 2 ^ 64) : bigEndianLen (UInt64.ofNat n) = bytes n := by
  rw [bigEndianLen, trimLeadingZeros_binaryBigEndianPutUint64, UInt64.toNat_ofNat_of_lt' h]

/-- The type byte of an envelope. -/
def prependEIP2718 (typeByte : UInt8) (rlpEncoded : Bytes) : Bytes := typeByte :: rlpEncoded

/-! ### Encoder -/

/-- The text of a string. -/
def rlpBytes (b : Bytes) : Bytes :=
  if b.length = 0 then [0x80]
  else if b.length = 1 ∧ b.headD 0 < 0x80 then [b.headD 0]
  else if b.length ≤ 55 then (0x80 + UInt8.ofNat b.length) :: b
  else
    let lenBytes := bigEndianLen (UInt64.ofNat b.length)
    (0xb7 + UInt8.ofNat lenBytes.length) :: (lenBytes ++ b)

/-- The text of a number. -/
def rlpUint (v : UInt64) : Bytes :=
  if v = 0 then [0x80] else rlpBytes (trimLeadingZeros (binaryBigEndianPutUint64 v))

/-- Nil encodes as zero, a negative number as positive. -/
def rlpBigInt (v : Option ℤ) : Bytes :=
  match v with
  | none => [0x80]
  | some v => if v = 0 then [0x80] else rlpBytes (trimLeadingZeros (BigEndian.bytes v.natAbs))

/-- The text of a list of texts. -/
def rlpList (items : List Bytes) : Bytes :=
  let total := (items.map List.length).sum
  if total = 0 then [0xc0]
  else if total ≤ 55 then (0xc0 + UInt8.ofNat total) :: items.flatten
  else
    let lenBytes := bigEndianLen (UInt64.ofNat total)
    (0xf7 + UInt8.ofNat lenBytes.length) :: (lenBytes ++ items.flatten)

theorem rlpUint_eq (v : UInt64) : rlpUint v = rlpBytes (bytes v.toNat) := by
  unfold rlpUint
  split_ifs with h
  · subst h
    rfl
  · rw [trimLeadingZeros_binaryBigEndianPutUint64]

theorem rlpBigInt_eq (v : ℤ) : rlpBigInt (some v) = rlpBytes (bytes v.natAbs) := by
  unfold rlpBigInt
  dsimp only
  split_ifs with h
  · subst h
    rfl
  · rw [trimLeadingZeros, trim_of_noLeadingZero (noLeadingZero_bytes _)]

theorem length_bytes_length (h : s.length < 2 ^ 64) : (bytes s.length).length ≤ 8 :=
  length_bytes_le h

theorem minimal_rlpBytes (h : s.length < 2 ^ 64) : Minimal .string s (rlpBytes s) := by
  unfold rlpBytes
  split_ifs with h0 h1 h55
  · rw [List.length_eq_zero_iff.mp h0]
    exact .empty
  · obtain ⟨x, rfl⟩ := List.length_eq_one_iff.mp h1.1
    exact .byte h1.2
  · have hne : s ≠ [] := by rintro rfl; exact h0 rfl
    have hx : ∀ x, s = [x] → 0x80 ≤ x := by
      rintro x rfl
      exact UInt8.not_lt.mp fun hx => h1 ⟨rfl, hx⟩
    rw [show (0x80 : UInt8) + UInt8.ofNat s.length = UInt8.ofNat (0x80 + s.length) by simp]
    exact .short hne h55 hx
  · rw [bigEndianLen_eq h]
    dsimp only
    rw [show (0xb7 : UInt8) + UInt8.ofNat (bytes s.length).length =
      UInt8.ofNat (0xb7 + (bytes s.length).length) by simp]
    exact .long (by omega) (length_bytes_length h) (noLeadingZero_bytes _) (value_bytes _)

theorem minimalList_rlpList {items : List Bytes} (h : items.flatten.length < 2 ^ 64) :
    MinimalList items.flatten (rlpList items) := by
  unfold rlpList
  rw [← List.length_flatten]
  dsimp only
  split_ifs with h0 h55
  · rw [List.length_eq_zero_iff.mp h0]
    exact .short (by simp)
  · rw [show (0xc0 : UInt8) + UInt8.ofNat items.flatten.length =
      UInt8.ofNat (0xc0 + items.flatten.length) by simp]
    exact .short h55
  · rw [bigEndianLen_eq h, show (0xf7 : UInt8) + UInt8.ofNat (bytes items.flatten.length).length =
      UInt8.ofNat (0xf7 + (bytes items.flatten.length).length) by simp]
    exact .long (by omega) (length_bytes_length h) (noLeadingZero_bytes _) (value_bytes _)

/-! ### Decoder

The two readers of items differ in the names in their errors and in what they make of an item
(`f`): one keeps its kind, the other drops it. -/

section Decoder
variable {β : Type} (f : Bytes → Kind → β)

/-- `rlpDecodeItem`, `rlpDecodeItemWithKind`: item and size. -/
def decodeItem (name nested : String) (b : Bytes) : Go (β × ℤ) :=
  match b with
  | [] => fail (name ++ ": empty input")
  | tag :: _ =>
    if tag < 0x80 then .ok (f [tag] .string, 1)
    else if tag = 0x80 then .ok (f [] .string, 1)
    else if 0x81 ≤ tag ∧ tag ≤ 0xb7 then
      let l : ℤ := (tag - 0x80).toNat
      if b.length < 1 + l then fail (name ++ ": truncated short-string")
      else do
        let item ← slice b 1 (1 + l)
        return (f item .string, 1 + l)
    else if 0xb8 ≤ tag ∧ tag ≤ 0xbf then
      let ll : ℤ := (tag - 0xb7).toNat
      if b.length < 1 + ll then fail (name ++ ": truncated long-string header")
      else do
        let lenBytes ← slice b 1 (1 + ll)
        let used := wrap64 (1 + ll + toInt (bigEndianRead lenBytes))
        if b.length < used then fail (name ++ ": truncated long-string payload")
        else do
          let item ← slice b (1 + ll) used
          return (f item .string, used)
    else if tag = 0xc0 then .ok (f [] .list, 1)
    else if 0xc1 ≤ tag ∧ tag ≤ 0xf7 then fail (name ++ ": " ++ nested)
    else if 0xf8 ≤ tag ∧ tag ≤ 0xff then
      fail (name ++ ": nested long-list payload not supported in this scope")
    else fail (name ++ ": unexpected prefix 0x" ++ hexByte tag)

/-- The sizes of header and payload. -/
def decodeHeader (name : String) (b : Bytes) : Go (ℤ × ℤ) :=
  match b with
  | [] => fail (name ++ ": empty input")
  | tag :: _ =>
    if 0xc0 ≤ tag ∧ tag ≤ 0xf7 then .ok (1, (tag - 0xc0).toNat)
    else if 0xf8 ≤ tag ∧ tag ≤ 0xff then
      let ll : ℤ := (tag - 0xf7).toNat
      if b.length < 1 + ll then fail (name ++ ": truncated long-list header")
      else do
        let lenBytes ← slice b 1 (1 + ll)
        return (1 + ll, toInt (bigEndianRead lenBytes))
    else fail (name ++ ": prefix 0x" ++ hexByte tag ++ " is not a list")

/-- The loop over a payload. -/
def decodeItems (name nested : String) : ℕ → Bytes → Go (List β)
  | _, [] => .ok []
  | 0, _ :: _ => .error .hang
  | n + 1, x :: payload => do
    let (item, used) ← decodeItem f name nested (x :: payload)
    let rest ← slice (x :: payload) used (x :: payload).length
    let items ← decodeItems name nested n rest
    return item :: items

/-- `rlpDecodeList`, `rlpDecodeListWithKinds`. -/
def decodeList (list item nested : String) (b : Bytes) : Go (List β × ℤ) := do
  let (headerLen, payloadLen) ← decodeHeader list b
  let used := wrap64 (headerLen + payloadLen)
  if b.length < used then fail (list ++ ": truncated list payload")
  else do
    let payload ← slice b headerLen used
    let items ← decodeItems f item nested payload.length payload
    return (items, used)

end Decoder

/-- An item with its kind. -/
def rlpDecodeItemWithKind : Bytes → Go ((Bytes × Kind) × ℤ) :=
  decodeItem Prod.mk "rlpDecodeItemWithKind"
    "nested non-empty list payload not supported in this scope"

/-- A list with the kinds of its items. -/
def rlpDecodeListWithKinds : Bytes → Go (List (Bytes × Kind) × ℤ) :=
  decodeList Prod.mk "rlpDecodeListWithKinds" "rlpDecodeItemWithKind"
    "nested non-empty list payload not supported in this scope"

/-- An item. -/
def rlpDecodeItem : Bytes → Go (Bytes × ℤ) :=
  decodeItem (fun item _ => item) "rlpDecodeItem" "nested list payload not supported in this scope"

/-- A list. -/
def rlpDecodeList : Bytes → Go (List Bytes × ℤ) :=
  decodeList (fun item _ => item) "rlpDecodeList" "rlpDecodeItem"
    "nested list payload not supported in this scope"

/-- An item as a number. -/
def rlpItemUint (b : Bytes) : Go UInt64 :=
  if 8 < b.length then fail ("rlpItemUint: value too large (" ++ toString b.length ++ " bytes)")
  else .ok (bigEndianRead b)

end MacProvider.Coordinator.Evm.Codec
