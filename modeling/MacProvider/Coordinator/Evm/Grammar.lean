import MacProvider.Coordinator.Evm.Codec

/-! # What the decoder of lists accepts

The decoder against the texts of `Lib.Rlp`: it reads back every text (`decodeItem_spells`,
`decodeList_spells`), and other inputs are errors, except that a length of eight bytes that takes
the end of an item out of the range of `int` panics (`Oversized`). -/

namespace MacProvider.Coordinator.Evm.Grammar

open MacProvider.Gateway Lib.Rlp Lib.BigEndian Evm.Codec

/-! ### Long lengths -/

/-- Behind the first byte `tag`, a length of eight bytes puts the end of the item outside `int`. -/
def Overflows (tag : UInt8) (b : Bytes) : Prop :=
  ∃ l c, b = tag :: (l ++ c) ∧ l.length = 8 ∧ 2 ^ 63 ≤ 9 + value l

variable {l : Bytes} {n : ℕ}

theorem wrap64_length (h8 : l.length ≤ 8) (h : 1 + l.length + value l < 2 ^ 63) :
    wrap64 (1 + l.length + toInt (bigEndianRead l)) = (1 + l.length + value l : ℕ) := by
  unfold toInt wrap64
  rw [toNat_bigEndianRead h8]
  omega

theorem wrap64_length_lt (h8 : l.length ≤ 8) (h : 2 ^ 63 ≤ 1 + l.length + value l) :
    wrap64 (1 + l.length + toInt (bigEndianRead l)) < 1 + l.length := by
  have hv : value l < 2 ^ 64 := by
    rw [← toNat_bigEndianRead h8]
    exact (bigEndianRead l).toNat_lt
  unfold toInt wrap64
  rw [toNat_bigEndianRead h8]
  omega

theorem length_eq_eight (h8 : l.length ≤ 8) (h : 2 ^ 63 ≤ 1 + l.length + value l) :
    l.length = 8 := by
  by_contra hne
  have h7 : 256 ^ l.length ≤ 256 ^ 7 := Nat.pow_le_pow_right (by norm_num) (by omega)
  have hv := value_lt l
  omega

theorem slice_length (tag : UInt8) (l c : Bytes) :
    slice (tag :: (l ++ c)) 1 (1 + l.length) = .ok l := by
  have h := slice_append [tag] l c
  simpa using h

theorem slice_item (tag : UInt8) (l s c : Bytes) :
    slice (tag :: (l ++ (s ++ c))) (1 + l.length) (1 + l.length + s.length : ℕ) = .ok s := by
  have h := slice_append (tag :: l) s c
  have hl : (tag :: l).length = 1 + l.length := by simp; omega
  rw [hl] at h
  simpa using h

/-! ### First bytes -/

theorem toNat_tag (h : n < 256) : (UInt8.ofNat n).toNat = n :=
  UInt8.toNat_ofNat_of_lt' h

theorem toNat_tag_sub {m : ℕ} (h : m + n < 256) :
    (UInt8.ofNat (m + n) - UInt8.ofNat m).toNat = n := by
  have hm : (UInt8.ofNat m).toNat = m := toNat_tag (by omega)
  rw [UInt8.toNat_sub_of_le, toNat_tag h, hm, Nat.add_sub_cancel_left]
  rw [UInt8.le_iff_toNat_le, toNat_tag h, hm]
  exact Nat.le_add_right _ _

theorem eq_ofNat_add_sub {tag : UInt8} (m : ℕ) (hm : m ≤ tag.toNat) :
    tag = UInt8.ofNat (m + (tag.toNat - m)) := by
  rw [Nat.add_sub_cancel' hm, UInt8.ofNat_toNat]

theorem tag_cases (tag : UInt8) :
    tag < 0x80 ∨ tag = 0x80 ∨ (∃ n, 1 ≤ n ∧ n ≤ 55 ∧ tag = UInt8.ofNat (0x80 + n)) ∨
      (∃ n, 1 ≤ n ∧ n ≤ 8 ∧ tag = UInt8.ofNat (0xb7 + n)) ∨ tag = 0xc0 ∨ 0xc1 ≤ tag := by
  have ht : tag.toNat < 256 := tag.toNat_lt
  have hn := @eq_ofNat_add_sub tag
  simp only [UInt8.lt_iff_toNat_lt, UInt8.le_iff_toNat_le, ← UInt8.toNat_inj, UInt8.reduceToNat]
  by_cases h1 : tag.toNat < 0x81
  · omega
  by_cases h2 : tag.toNat < 0xb8
  · right; right; left
    exact ⟨tag.toNat - 0x80, by omega, by omega, congrArg UInt8.toNat (hn 0x80 (by omega))⟩
  by_cases h3 : tag.toNat < 0xc0
  · right; right; right; left
    exact ⟨tag.toNat - 0xb7, by omega, by omega, congrArg UInt8.toNat (hn 0xb7 (by omega))⟩
  omega

/-- Short enough for a length in `int`. -/
def Readable (k : Kind) (s e : Bytes) : Prop := Spells k s e ∧ e.length < 2 ^ 63

theorem exists_append {b : Bytes} (h : n ≤ b.length) : ∃ l c, b = l ++ c ∧ n = l.length :=
  ⟨b.take n, b.drop n, (List.take_append_drop n b).symm, by simp [h]⟩

section Items
variable {β : Type} {f : Bytes → Kind → β} {name nested : String} {n : ℕ} {p q : Bytes}

theorem decodeItem_short (h1 : 1 ≤ n) (h55 : n ≤ 55) (b : Bytes) :
    decodeItem f name nested (UInt8.ofNat (0x80 + n) :: b) =
      if ((UInt8.ofNat (0x80 + n) :: b).length : ℤ) < 1 + n then
        fail (name ++ ": truncated short-string")
      else do
        let item ← slice (UInt8.ofNat (0x80 + n) :: b) 1 (1 + n)
        return (f item .string, 1 + (n : ℤ)) := by
  have ht := toNat_tag (n := 0x80 + n) (by omega)
  have hn : (UInt8.ofNat (0x80 + n) - 0x80).toNat = n := toNat_tag_sub (by omega)
  unfold decodeItem
  simp only [UInt8.lt_iff_toNat_lt, UInt8.le_iff_toNat_le, ← UInt8.toNat_inj, UInt8.reduceToNat, ht]
  rw [if_neg (by omega), if_neg (by omega), if_pos (by omega), hn]

theorem decodeItem_long (h1 : 1 ≤ n) (h8 : n ≤ 8) (b : Bytes) :
    decodeItem f name nested (UInt8.ofNat (0xb7 + n) :: b) =
      if ((UInt8.ofNat (0xb7 + n) :: b).length : ℤ) < 1 + n then
        fail (name ++ ": truncated long-string header")
      else do
        let lenBytes ← slice (UInt8.ofNat (0xb7 + n) :: b) 1 (1 + n)
        let used := wrap64 (1 + n + toInt (bigEndianRead lenBytes))
        if ((UInt8.ofNat (0xb7 + n) :: b).length : ℤ) < used then
          fail (name ++ ": truncated long-string payload")
        else do
          let item ← slice (UInt8.ofNat (0xb7 + n) :: b) (1 + n) used
          return (f item .string, used) := by
  have ht := toNat_tag (n := 0xb7 + n) (by omega)
  have hn : (UInt8.ofNat (0xb7 + n) - 0xb7).toNat = n := toNat_tag_sub (by omega)
  unfold decodeItem
  simp only [UInt8.lt_iff_toNat_lt, UInt8.le_iff_toNat_le, ← UInt8.toNat_inj, UInt8.reduceToNat, ht]
  rw [if_neg (by omega), if_neg (by omega), if_neg (by omega), if_pos (by omega), hn]

theorem decodeItem_nested {tag : UInt8} (h : 0xc1 ≤ tag) (b : Bytes) :
    ∃ msg, decodeItem f name nested (tag :: b) = fail msg := by
  unfold decodeItem
  simp only [UInt8.lt_iff_toNat_lt, UInt8.le_iff_toNat_le, ← UInt8.toNat_inj,
    UInt8.reduceToNat] at h ⊢
  rw [if_neg (by omega), if_neg (by omega), if_neg (by omega), if_neg (by omega),
    if_neg (by omega)]
  split_ifs
  · exact ⟨_, rfl⟩
  · exact ⟨_, rfl⟩
  · exact ⟨_, rfl⟩

theorem decodeItem_spells {k : Kind} {s e : Bytes} (h : Spells k s e) (he : e.length < 2 ^ 63)
    (c : Bytes) : decodeItem f name nested (e ++ c) = .ok (f s k, e.length) := by
  cases h with
  | byte h =>
    unfold decodeItem
    simp [h]
  | empty => rfl
  | @short _ h0 h =>
    have hl : 0 < s.length := List.length_pos_iff.mpr h0
    rw [List.cons_append, decodeItem_short hl h, if_neg (by simp; omega),
      slice_length]
    simp [add_comm]
  | @long _ l h1 h8 hv =>
    have hl : 0 < l.length := List.length_pos_iff.mpr h1
    have hlen : 1 + l.length + s.length < 2 ^ 63 := by
      simp only [List.length_cons, List.length_append] at he
      omega
    rw [List.cons_append, List.append_assoc, decodeItem_long hl h8,
      if_neg (by simp; omega), slice_length]
    rw [ok_bind]
    rw [wrap64_length h8 (by omega), hv, if_neg (by simp; omega), slice_item]
    simp
    omega
  | emptyList => rfl

theorem decodeItem_overflows {b : Bytes} (h : Overflows 0xbf b) :
    decodeItem f name nested b = .error .panic := by
  obtain ⟨l, c, rfl, h8, hv⟩ := h
  have htag : (0xbf : UInt8) = UInt8.ofNat (0xb7 + l.length) := by rw [h8]; rfl
  have hw := wrap64_length_lt (l := l) (by omega) (by omega)
  rw [htag, decodeItem_long (by omega) (by omega), if_neg (by simp; omega),
    slice_length, ok_bind]
  rw [if_neg (by simp; omega), slice_eq_panic_iff.mpr (by omega), error_bind]

variable (f name nested) in
/-- **Three ends**: an item, a length out of range, or an error. -/
theorem decodeItem_cases (b : Bytes) :
    (∃ k s e c, b = e ++ c ∧ Readable k s e) ∨ Overflows 0xbf b ∨
      ∃ msg, decodeItem f name nested b = fail msg := by
  cases b with
  | nil => exact .inr (.inr ⟨_, rfl⟩)
  | cons tag b =>
    obtain h | rfl | ⟨n, h1, h55, rfl⟩ | ⟨n, h1, h8, rfl⟩ | rfl | h := tag_cases tag
    · exact .inl ⟨.string, [tag], [tag], b, rfl, .byte h, by simp⟩
    · exact .inl ⟨.string, [], [0x80], b, rfl, .empty, by simp⟩
    · by_cases hn : b.length < n
      · right; right
        refine ⟨name ++ ": truncated short-string", ?_⟩
        rw [decodeItem_short h1 h55, if_pos (by simp; omega)]
      · obtain ⟨s, c, rfl, rfl⟩ := exists_append (not_lt.mp hn)
        have hs : s ≠ [] := List.length_pos_iff.mp h1
        exact .inl ⟨.string, s, _, c, rfl, .short hs h55, by simp; omega⟩
    · by_cases hn : b.length < n
      · right; right
        refine ⟨name ++ ": truncated long-string header", ?_⟩
        rw [decodeItem_long h1 h8, if_pos (by simp; omega)]
      obtain ⟨l, b, rfl, rfl⟩ := exists_append (not_lt.mp hn)
      have hl : l ≠ [] := List.length_pos_iff.mp h1
      by_cases hv : 2 ^ 63 ≤ 1 + l.length + value l
      · have h8 := length_eq_eight h8 hv
        right; left
        exact ⟨l, b, by rw [h8]; rfl, h8, by omega⟩
      by_cases hs : b.length < value l
      · right; right
        refine ⟨name ++ ": truncated long-string payload", ?_⟩
        rw [decodeItem_long h1 h8, if_neg (by simp; omega), slice_length, ok_bind]
        rw [wrap64_length h8 (by omega), if_pos (by simp; omega)]
      · obtain ⟨s, c, rfl, hlen⟩ := exists_append (not_lt.mp hs)
        refine .inl ⟨.string, s, _ :: (l ++ s), c, by simp, .long hl h8 hlen, ?_⟩
        simp only [List.length_cons, List.length_append]
        omega
    · exact .inl ⟨.list, [], [0xc0], b, rfl, .emptyList, by simp⟩
    · right; right
      exact decodeItem_nested h b

variable {l : List (Bytes × Kind)}

theorem decodeItems_cons {k : Kind} {s e : Bytes} (h : Readable k s e) (p : Bytes) :
    decodeItems f name nested (n + 1) (e ++ p) =
      (decodeItems f name nested n p >>= fun items => .ok (f s k :: items)) := by
  obtain ⟨x, e', rfl⟩ := List.exists_cons_of_ne_nil h.1.ne_nil
  have hi : decodeItem f name nested _ = _ := decodeItem_spells h.1 h.2 p
  have hs : slice (x :: e' ++ p) (x :: e').length (x :: e' ++ p).length = .ok p := by
    have := slice_append (x :: e') p []
    rw [List.append_nil] at this
    rw [List.length_append]
    exact this
  rw [List.cons_append] at hi hs ⊢
  rw [decodeItems, hi, ok_bind]
  dsimp only
  rw [hs, ok_bind]
  rfl

variable (f name nested) in
theorem decodeItems_append (h : Seq Readable l q) (hn : (q ++ p).length ≤ n) :
    ∃ m, p.length ≤ m ∧ decodeItems f name nested n (q ++ p) =
      (decodeItems f name nested m p >>= fun items =>
        .ok (l.map (fun x => f x.1 x.2) ++ items)) := by
  induction h generalizing n with
  | nil =>
    refine ⟨n, hn, ?_⟩
    rw [List.nil_append]
    cases decodeItems f name nested n p <;> rfl
  | @cons s e q k l h _ ih =>
    have he := List.length_pos_iff.mpr h.1.ne_nil
    simp only [List.length_append] at hn
    obtain ⟨n, rfl⟩ : ∃ n', n = n' + 1 := ⟨n - 1, by omega⟩
    obtain ⟨m, hm, hr⟩ := ih (n := n) (by simp; omega)
    refine ⟨m, hm, ?_⟩
    rw [List.append_assoc, decodeItems_cons h, hr]
    cases decodeItems f name nested m p <;> rfl

theorem decodeItems_seq (h : Seq Readable l q) (hn : q.length ≤ n) :
    decodeItems f name nested n q = .ok (l.map fun x => f x.1 x.2) := by
  obtain ⟨m, -, hr⟩ := decodeItems_append f name nested h (p := []) (n := n) (by simpa using hn)
  rw [List.append_nil] at hr
  rw [hr]
  simp [decodeItems]

theorem decodeItems_overflows (h : Seq Readable l q) (hp : Overflows 0xbf p)
    (hn : (q ++ p).length ≤ n) : decodeItems f name nested n (q ++ p) = .error .panic := by
  obtain ⟨m, hm, hr⟩ := decodeItems_append f name nested h hn
  obtain ⟨w, c, rfl, -⟩ := id hp
  obtain ⟨m, rfl⟩ : ∃ m', m = m' + 1 := ⟨m - 1, by simp at hm; omega⟩
  rw [hr, decodeItems, decodeItem_overflows hp, error_bind, error_bind]

variable (f name nested) in
theorem decodeItems_cases (hn : p.length ≤ n) :
    (∃ l, Seq Readable l p) ∨
      (∃ l q r, p = q ++ r ∧ Seq Readable l q ∧ Overflows 0xbf r) ∨
      ∃ msg, decodeItems f name nested n p = fail msg := by
  -- On the fuel: an item takes at least one byte of the payload.
  induction n generalizing p with
  | zero =>
    have hp : p = [] := List.length_eq_zero_iff.mp (by omega)
    subst hp
    exact .inl ⟨[], .nil⟩
  | succ n ih =>
    cases p with
    | nil => exact .inl ⟨[], .nil⟩
    | cons x p =>
      obtain ⟨k, s, e, c, hp, h⟩ | h | ⟨msg, h⟩ := decodeItem_cases f name nested (x :: p)
      · have he := List.length_pos_iff.mpr h.1.ne_nil
        rw [hp] at hn ⊢
        simp only [List.length_append] at hn
        obtain ⟨l, hl⟩ | ⟨l, q, r, rfl, hl, hr⟩ | ⟨msg, hm⟩ := ih (p := c) (by omega)
        · exact .inl ⟨(s, k) :: l, .cons h hl⟩
        · exact .inr (.inl ⟨(s, k) :: l, e ++ q, r, by simp, .cons h hl, hr⟩)
        · right; right
          exact ⟨msg, by rw [decodeItems_cons h, hm]; rfl⟩
      · exact .inr (.inl ⟨[], [], _, rfl, .nil, h⟩)
      · right; right
        exact ⟨msg, by rw [decodeItems, h]; rfl⟩

end Items

/-! ### Lists -/

theorem list_tag_cases (tag : UInt8) :
    (∃ n ≤ 55, tag = UInt8.ofNat (0xc0 + n)) ∨
      (∃ n, 1 ≤ n ∧ n ≤ 8 ∧ tag = UInt8.ofNat (0xf7 + n)) ∨ tag < 0xc0 := by
  have ht : tag.toNat < 256 := tag.toNat_lt
  have hn := @eq_ofNat_add_sub tag
  by_cases h1 : tag.toNat < 0xc0
  · exact .inr (.inr (UInt8.lt_iff_toNat_lt.mpr h1))
  by_cases h2 : tag.toNat < 0xf8
  · exact .inl ⟨tag.toNat - 0xc0, by omega, hn 0xc0 (by omega)⟩
  · exact .inr (.inl ⟨tag.toNat - 0xf7, by omega, by omega, hn 0xf7 (by omega)⟩)

theorem decodeHeader_short {name : String} (h55 : n ≤ 55) (b : Bytes) :
    decodeHeader name (UInt8.ofNat (0xc0 + n) :: b) = .ok (1, n) := by
  have ht := toNat_tag (n := 0xc0 + n) (by omega)
  have hn : (UInt8.ofNat (0xc0 + n) - 0xc0).toNat = n := toNat_tag_sub (by omega)
  unfold decodeHeader
  simp only [UInt8.le_iff_toNat_le, UInt8.reduceToNat, ht, hn]
  rw [if_pos (by omega)]

theorem decodeHeader_long {name : String} (h1 : 1 ≤ n) (h8 : n ≤ 8) (b : Bytes) :
    decodeHeader name (UInt8.ofNat (0xf7 + n) :: b) =
      if ((UInt8.ofNat (0xf7 + n) :: b).length : ℤ) < 1 + n then
        fail (name ++ ": truncated long-list header")
      else do
        let lenBytes ← slice (UInt8.ofNat (0xf7 + n) :: b) 1 (1 + n)
        return (1 + (n : ℤ), toInt (bigEndianRead lenBytes)) := by
  have ht := toNat_tag (n := 0xf7 + n) (by omega)
  have hn : (UInt8.ofNat (0xf7 + n) - 0xf7).toNat = n := toNat_tag_sub (by omega)
  unfold decodeHeader
  simp only [UInt8.le_iff_toNat_le, UInt8.reduceToNat, ht, hn]
  rw [if_neg (by omega), if_pos (by omega)]

theorem decodeHeader_length {name : String} (h1 : l ≠ []) (h8 : l.length ≤ 8) (c : Bytes) :
    decodeHeader name (UInt8.ofNat (0xf7 + l.length) :: (l ++ c)) =
      .ok (1 + (l.length : ℤ), toInt (bigEndianRead l)) := by
  have hl : 0 < l.length := List.length_pos_iff.mpr h1
  rw [decodeHeader_long hl h8, if_neg (by simp; omega), slice_length]
  rfl

section Lists
variable {β : Type} {f : Bytes → Kind → β} {list item nested : String}

theorem decodeList_spells {p e : Bytes} (h : SpellsList p e) (he : e.length < 2 ^ 63) (c : Bytes) :
    decodeList f list item nested (e ++ c) =
      (decodeItems f item nested p.length p >>= fun items => .ok (items, (e.length : ℤ))) := by
  unfold decodeList
  cases h with
  | short h =>
    have hw : wrap64 (1 + (p.length : ℤ)) = (1 + p.length : ℕ) := by
      rw [wrap64_of_range (by omega) (by unfold maxInt64; omega)]
      simp
    rw [List.cons_append, decodeHeader_short h, ok_bind]
    dsimp only
    rw [hw, if_neg (by simp; omega)]
    push_cast
    rw [slice_length]
    simp [add_comm]
  | @long l h1 h8 hv =>
    have hlen : 1 + l.length + p.length < 2 ^ 63 := by
      simp only [List.length_cons, List.length_append] at he
      omega
    rw [List.cons_append, List.append_assoc, decodeHeader_length h1 h8, ok_bind]
    dsimp only
    rw [wrap64_length h8 (by omega), hv, if_neg (by simp; omega), slice_item, ok_bind]
    have hu : ((1 + l.length + p.length : ℕ) : ℤ) =
        ((UInt8.ofNat (0xf7 + l.length) :: (l ++ p)).length : ℕ) := by
      simp only [List.length_cons, List.length_append]
      omega
    rw [hu]
    rfl

theorem decodeList_overflows {b : Bytes} (h : Overflows 0xff b) :
    decodeList f list item nested b = .error .panic := by
  obtain ⟨l, c, rfl, h8, hv⟩ := h
  have htag : (0xff : UInt8) = UInt8.ofNat (0xf7 + l.length) := by rw [h8]; rfl
  have hw := wrap64_length_lt (l := l) (by omega) (by omega)
  have hl : l ≠ [] := List.length_pos_iff.mp (by omega)
  unfold decodeList
  rw [htag, decodeHeader_length hl (by omega), ok_bind]
  dsimp only
  rw [if_neg (by simp; omega), slice_eq_panic_iff.mpr (by omega), error_bind]

variable (f list item nested) in
theorem decodeList_cases (b : Bytes) :
    (∃ p e c, b = e ++ c ∧ SpellsList p e ∧ e.length < 2 ^ 63) ∨ Overflows 0xff b ∨
      ∃ msg, decodeList f list item nested b = fail msg := by
  cases b with
  | nil => exact .inr (.inr ⟨_, rfl⟩)
  | cons tag b =>
    obtain ⟨n, h55, rfl⟩ | ⟨n, h1, h8, rfl⟩ | h := list_tag_cases tag
    · by_cases hn : b.length < n
      · right; right
        have hw : wrap64 (1 + (n : ℤ)) = 1 + n :=
          wrap64_of_range (by omega) (by unfold maxInt64; omega)
        refine ⟨list ++ ": truncated list payload", ?_⟩
        rw [decodeList, decodeHeader_short h55, ok_bind]
        dsimp only
        rw [hw, if_pos (by simp; omega)]
      · obtain ⟨p, c, rfl, rfl⟩ := exists_append (not_lt.mp hn)
        exact .inl ⟨p, _, c, rfl, .short h55, by simp; omega⟩
    · by_cases hn : b.length < n
      · right; right
        refine ⟨list ++ ": truncated long-list header", ?_⟩
        rw [decodeList, decodeHeader_long h1 h8, if_pos (by simp; omega)]
        rfl
      obtain ⟨l, b, rfl, rfl⟩ := exists_append (not_lt.mp hn)
      have hl : l ≠ [] := List.length_pos_iff.mp h1
      by_cases hv : 2 ^ 63 ≤ 1 + l.length + value l
      · have h8 := length_eq_eight h8 hv
        right; left
        exact ⟨l, b, by rw [h8]; rfl, h8, by omega⟩
      by_cases hs : b.length < value l
      · right; right
        refine ⟨list ++ ": truncated list payload", ?_⟩
        rw [decodeList, decodeHeader_length hl h8, ok_bind]
        dsimp only
        rw [wrap64_length h8 (by omega), if_pos (by simp; omega)]
      · obtain ⟨p, c, rfl, hlen⟩ := exists_append (not_lt.mp hs)
        refine .inl ⟨p, _ :: (l ++ p), c, by simp, .long hl h8 hlen, ?_⟩
        simp only [List.length_cons, List.length_append]
        omega
    · right; right
      have h1 : ¬ (0xc0 ≤ tag ∧ tag ≤ 0xf7) := fun h' => UInt8.not_le.mpr h h'.1
      have h2 : ¬ (0xf8 ≤ tag ∧ tag ≤ 0xff) := fun h' =>
        UInt8.not_le.mpr h (UInt8.le_trans (by decide) h'.1)
      refine ⟨list ++ ": prefix 0x" ++ hexByte tag ++ " is not a list", ?_⟩
      rw [decodeList, decodeHeader, if_neg h1, if_neg h2]
      rfl

end Lists

/-! ### Inputs that panic -/

/-- **A length out of range**: that of the list, or of a string behind readable items. -/
def Oversized (b : Bytes) : Prop :=
  Overflows 0xff b ∨ ∃ p e c l q r, b = e ++ c ∧ SpellsList p e ∧ e.length < 2 ^ 63 ∧
    p = q ++ r ∧ Seq Readable l q ∧ Overflows 0xbf r

/-- A value or an error is returned. -/
def Returns {α : Type} (r : Go α) : Prop := (∃ a, r = .ok a) ∨ ∃ msg, r = fail msg

theorem not_returns_panic {α : Type} : ¬ Returns (.error .panic : Go α) := by
  rintro (⟨a, h⟩ | ⟨msg, h⟩)
  · cases h
  · cases h

section Oversized
variable {β : Type} {f : Bytes → Kind → β} {list item nested : String} {b : Bytes}

theorem decodeList_oversized (h : Oversized b) :
    decodeList f list item nested b = .error .panic := by
  obtain h | ⟨p, e, c, l, q, r, rfl, he, hlen, rfl, hl, hr⟩ := h
  · exact decodeList_overflows h
  · rw [decodeList_spells he hlen,
      decodeItems_overflows hl hr le_rfl, error_bind]

variable (f list item nested) in
theorem decodeList_ends (b : Bytes) :
    (∃ p e c l, b = e ++ c ∧ SpellsList p e ∧ e.length < 2 ^ 63 ∧ Seq Readable l p) ∨
      Oversized b ∨ ∃ msg, decodeList f list item nested b = fail msg := by
  obtain ⟨p, e, c, rfl, he, hlen⟩ | ho | hm := decodeList_cases f list item nested b
  · obtain ⟨l, hl⟩ | ⟨l, q, r, rfl, hl, hr⟩ | ⟨msg, hm⟩ :=
      decodeItems_cases f item nested (p := p) le_rfl
    · exact .inl ⟨p, e, c, l, rfl, he, hlen, hl⟩
    · exact .inr (.inl (.inr ⟨_, e, c, l, q, r, rfl, he, hlen, rfl, hl, hr⟩))
    · exact .inr (.inr ⟨msg, by rw [decodeList_spells he hlen, hm]; rfl⟩)
  · exact .inr (.inl (.inl ho))
  · exact .inr (.inr hm)

theorem decodeList_seq {p e : Bytes} {l : List (Bytes × Kind)} (he : SpellsList p e)
    (hlen : e.length < 2 ^ 63) (hl : Seq Readable l p) (c : Bytes) :
    decodeList f list item nested (e ++ c) = .ok (l.map fun x => f x.1 x.2, (e.length : ℤ)) := by
  rw [decodeList_spells he hlen, decodeItems_seq hl le_rfl, ok_bind]

theorem decodeList_returns (h : ¬ Oversized b) : Returns (decodeList f list item nested b) := by
  obtain ⟨p, e, c, l, rfl, he, hlen, hl⟩ | ho | hm := decodeList_ends f list item nested b
  · exact .inl ⟨_, decodeList_seq he hlen hl c⟩
  · exact absurd ho h
  · exact .inr hm

/-- **Lists that are not oversized return**, and no others. -/
theorem decodeList_returns_iff (b : Bytes) :
    Returns (decodeList f list item nested b) ↔ ¬ Oversized b := by
  constructor
  · intro hr ho
    rw [decodeList_oversized ho] at hr
    exact not_returns_panic hr
  · exact decodeList_returns

theorem decodeList_ok_iff {items : List β} {used : ℤ} :
    decodeList f list item nested b = .ok (items, used) ↔
      ∃ p e c l, b = e ++ c ∧ SpellsList p e ∧ e.length < 2 ^ 63 ∧ Seq Readable l p ∧
        items = l.map (fun x => f x.1 x.2) ∧ used = e.length := by
  constructor
  · intro h
    obtain ⟨p, e, c, l, rfl, he, hlen, hl⟩ | ho | ⟨msg, hm⟩ := decodeList_ends f list item nested b
    · cases (decodeList_seq he hlen hl c).symm.trans h
      exact ⟨p, e, c, l, rfl, he, hlen, hl, rfl, rfl⟩
    · cases (decodeList_oversized ho).symm.trans h
    · cases hm.symm.trans h
  · rintro ⟨p, e, c, l, rfl, he, hlen, hl, rfl, rfl⟩
    exact decodeList_seq he hlen hl c

theorem decodeItem_used {name : String} {x : β} {used : ℤ}
    (h : decodeItem f name nested b = .ok (x, used)) : 1 ≤ used ∧ used ≤ b.length := by
  obtain ⟨k, s, e, c, rfl, he⟩ | ho | ⟨msg, hm⟩ := decodeItem_cases f name nested b
  · have hpos := List.length_pos_iff.mpr he.1.ne_nil
    rw [decodeItem_spells he.1 he.2] at h
    cases h
    rw [List.length_append]
    omega
  · rw [decodeItem_overflows ho] at h
    cases h
  · rw [hm] at h
    cases h

end Oversized

end MacProvider.Coordinator.Evm.Grammar
