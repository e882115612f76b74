import MacProvider.Lib.BigEndian

/-! # Recursive-length-prefix texts of flat lists

A flat list holds byte strings and empty lists. `Spells k s e`: `e` is a text of the item `s`; a
length can be longer than needed. `Minimal` are the shortest texts (`Minimal.unique`). -/

namespace MacProvider.Lib.Rlp

open Lib.BigEndian

/-- A byte string. -/
abbrev Bytes := List UInt8

instance : LawfulBEq Bytes := inferInstance

/-- The kinds of items. -/
inductive Kind
  | string
  | list
  deriving DecidableEq

/-- The texts of an item. -/
inductive Spells : Kind → Bytes → Bytes → Prop
  | byte {x : UInt8} (h : x < 0x80) : Spells .string [x] [x]
  | empty : Spells .string [] [0x80]
  | short {s : Bytes} (h0 : s ≠ []) (h : s.length ≤ 55) :
      Spells .string s (UInt8.ofNat (0x80 + s.length) :: s)
  | long {s l : Bytes} (h1 : l ≠ []) (h8 : l.length ≤ 8) (hv : value l = s.length) :
      Spells .string s (UInt8.ofNat (0xb7 + l.length) :: (l ++ s))
  | emptyList : Spells .list [] [0xc0]

/-- A byte below `0x80` is itself, a length up to 55 is in the first byte, a longer one follows
without zeros. -/
inductive Minimal : Kind → Bytes → Bytes → Prop
  | byte {x : UInt8} (h : x < 0x80) : Minimal .string [x] [x]
  | empty : Minimal .string [] [0x80]
  | short {s : Bytes} (h0 : s ≠ []) (h : s.length ≤ 55) (h1 : ∀ x, s = [x] → 0x80 ≤ x) :
      Minimal .string s (UInt8.ofNat (0x80 + s.length) :: s)
  | long {s l : Bytes} (h : 55 < s.length) (h8 : l.length ≤ 8) (hz : NoLeadingZero l)
      (hv : value l = s.length) : Minimal .string s (UInt8.ofNat (0xb7 + l.length) :: (l ++ s))
  | emptyList : Minimal .list [] [0xc0]

/-- The texts of a list. -/
inductive SpellsList : Bytes → Bytes → Prop
  | short {p : Bytes} (h : p.length ≤ 55) : SpellsList p (UInt8.ofNat (0xc0 + p.length) :: p)
  | long {p l : Bytes} (h1 : l ≠ []) (h8 : l.length ≤ 8) (hv : value l = p.length) :
      SpellsList p (UInt8.ofNat (0xf7 + l.length) :: (l ++ p))

/-- The shortest text of a list. -/
inductive MinimalList : Bytes → Bytes → Prop
  | short {p : Bytes} (h : p.length ≤ 55) : MinimalList p (UInt8.ofNat (0xc0 + p.length) :: p)
  | long {p l : Bytes} (h : 55 < p.length) (h8 : l.length ≤ 8) (hz : NoLeadingZero l)
      (hv : value l = p.length) : MinimalList p (UInt8.ofNat (0xf7 + l.length) :: (l ++ p))

/-- The texts of items, one after the other. -/
inductive Seq (R : Kind → Bytes → Bytes → Prop) : List (Bytes × Kind) → Bytes → Prop
  | nil : Seq R [] []
  | cons {s e p : Bytes} {k : Kind} {l : List (Bytes × Kind)} (h : R k s e) (hl : Seq R l p) :
      Seq R ((s, k) :: l) (e ++ p)

variable {k : Kind} {s e e' p : Bytes}

/-! ### Shortest texts -/

theorem ne_nil_of_value_pos {l : Bytes} (h : 0 < value l) : l ≠ [] := by
  rintro rfl
  exact absurd h (lt_irrefl 0)

theorem Minimal.spells (h : Minimal k s e) : Spells k s e := by
  cases h with
  | byte h => exact .byte h
  | empty => exact .empty
  | short h0 h _ => exact .short h0 h
  | long h h8 _ hv => exact .long (ne_nil_of_value_pos (by omega)) h8 hv
  | emptyList => exact .emptyList

theorem MinimalList.spells (h : MinimalList p e) : SpellsList p e := by
  cases h with
  | short h => exact .short h
  | long h h8 _ hv => exact .long (ne_nil_of_value_pos (by omega)) h8 hv

/-- **An item has one shortest text.** -/
theorem Minimal.unique (h : Minimal k s e) (h' : Minimal k s e') : e = e' := by
  cases h with
  | byte h =>
    cases h' with
    | byte => rfl
    | short _ _ h1 => exact absurd (h1 _ rfl) (UInt8.not_le.mpr h)
    | long h _ _ _ => exact absurd h (by simp)
  | empty =>
    cases h' with
    | empty => rfl
    | short h0 _ _ => exact absurd rfl h0
    | long h _ _ _ => exact absurd h (by simp)
  | short h0 h h1 =>
    cases h' with
    | byte hx => exact absurd (h1 _ rfl) (UInt8.not_le.mpr hx)
    | empty => exact absurd rfl h0
    | short => rfl
    | long h' _ _ _ => exact absurd h' (by omega)
  | long h h8 hz hv =>
    cases h' with
    | byte => exact absurd h (by simp)
    | empty => exact absurd h (by simp)
    | short _ h' _ => exact absurd h' (by omega)
    | long h h8 hz' hv' => rw [eq_of_value_eq hz hz' (hv.trans hv'.symm)]
  | emptyList => cases h' with | emptyList => rfl

theorem MinimalList.unique (h : MinimalList p e) (h' : MinimalList p e') : e = e' := by
  cases h with
  | short h =>
    cases h' with
    | short => rfl
    | long h' _ _ _ => exact absurd h' (by omega)
  | long h h8 hz hv =>
    cases h' with
    | short h' => exact absurd h' (by omega)
    | long _ _ hz' hv' => rw [eq_of_value_eq hz hz' (hv.trans hv'.symm)]

theorem Spells.ne_nil (h : Spells k s e) : e ≠ [] := by
  cases h <;> exact List.cons_ne_nil _ _

theorem SpellsList.ne_nil (h : SpellsList p e) : e ≠ [] := by
  cases h <;> exact List.cons_ne_nil _ _

theorem SpellsList.length_le (h : SpellsList p e) : p.length ≤ e.length := by
  cases h with
  | short => simp
  | long =>
    simp only [List.length_cons, List.length_append]
    omega

section Sequences
variable {R R' : Kind → Bytes → Bytes → Prop} {l : List (Bytes × Kind)}

theorem Seq.mono (hR : ∀ k s e, R k s e → R' k s e) (h : Seq R l p) : Seq R' l p := by
  induction h with
  | nil => exact .nil
  | cons h _ ih => exact .cons (hR _ _ _ h) ih

end Sequences

end MacProvider.Lib.Rlp
