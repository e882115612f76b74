import MacProvider.Lib.Json.Canonical

/-! # Reading a JSON value into a record

Each member of an object is stored in the field with its name; one without a field is skipped or
refused. A `null` leaves a field as it is. Names match exactly or else up to case. -/

namespace MacProvider.Lib.Json

/-- A text, unless the value is `null`. -/
def decodeString : Value → String → Option String
  | .null, s => some s
  | .string s, _ => some s
  | _, _ => none

/-- Only integer literals of 64 bits. -/
def decodeInt64 : Value → ℤ → Option ℤ
  | .null, z => some z
  | .number n, _ => n.int?.filter fun z => -2 ^ 63 ≤ z ∧ z < 2 ^ 63
  | _, _ => none

theorem decodeString_eq_some {v : Value} {s t : String} (h : decodeString v s = some t) :
    v = .null ∧ t = s ∨ v = .string t := by
  cases v with
  | null => exact .inl ⟨rfl, (Option.some.inj h).symm⟩
  | string u => exact .inr (congrArg Value.string (Option.some.inj h))
  | _ => cases h

theorem decodeInt64_eq_some {v : Value} {z w : ℤ} (h : decodeInt64 v z = some w) :
    v = .null ∧ w = z ∨
      ∃ n, v = .number n ∧ n.int? = some w ∧ -2 ^ 63 ≤ w ∧ w < 2 ^ 63 := by
  cases v with
  | null => exact .inl ⟨rfl, (Option.some.inj h).symm⟩
  | number n =>
    obtain ⟨hint, hrange⟩ := Option.filter_eq_some_iff.mp h
    exact .inr ⟨n, rfl, hint, by simpa using hrange⟩
  | _ => cases h

theorem decodeInt64_ofInt {z w : ℤ} (h : -2 ^ 63 ≤ w ∧ w < 2 ^ 63) :
    decodeInt64 (.number (.ofInt w)) z = some w := by
  rw [decodeInt64, Number.int?_ofInt, Option.filter_some, if_pos (by simpa using h)]

/-! ### Records -/

/-- In one case, where the long s and the Kelvin sign are letters. -/
def foldChar (c : Char) : Char :=
  if c.toNat = 0x17f then 'S' else if c.toNat = 0x212a then 'K' else c.toUpper

/-- A name in one case. -/
def foldName (s : String) : List Char := s.toList.map foldChar

section Records
variable {σ α : Type}

/-- A field of a record. -/
structure Slot (σ : Type) where
  name : String
  set : Value → σ → Option σ

/-- A field that is stored in a part of the record. -/
def Slot.of (name : String) (decode : Value → α → Option α) (get : σ → α) (put : α → σ → σ) :
    Slot σ where
  name := name
  set v s := (decode v (get s)).map fun a => put a s

/-- The field with this name. -/
def findField (fields : List (Slot σ)) (key : String) : Option (Slot σ) :=
  (fields.find? fun f => f.name = key).or (fields.find? fun f => foldName f.name = foldName key)

/-- A member is stored. -/
def setMember (strict : Bool) (fields : List (Slot σ)) (s : σ) (m : String × Value) : Option σ :=
  match findField fields m.1 with
  | some f => f.set m.2 s
  | none => if strict then none else some s

/-- **A value stored in a record.** -/
def decodeRecord (strict : Bool) (fields : List (Slot σ)) : Value → σ → Option σ
  | .null, s => some s
  | .object ms, s => ms.foldlM (setMember strict fields) s
  | _, _ => none

/-- The names of the fields. -/
def names (fields : List (Slot σ)) : List String := fields.map Slot.name

theorem findField_of_mem {fields : List (Slot σ)} (hnodup : (names fields).Nodup) {f : Slot σ}
    (hmem : f ∈ fields) : findField fields f.name = some f := by
  have hfind : (fields.find? fun g => g.name = f.name) = some f := by
    induction fields with
    | nil => cases hmem
    | cons g fields ih =>
      obtain ⟨hnot, hnodup⟩ := List.nodup_cons.mp hnodup
      rcases List.mem_cons.mp hmem with rfl | hmem
      · simp
      · have hne : g.name ≠ f.name := fun heq => hnot (heq ▸ List.mem_map_of_mem hmem)
        rw [List.find?_cons_of_neg (by simpa using hne), ih hnodup hmem]
  rw [findField, hfind]
  rfl

theorem decodeRecord_filter (fields : List (Slot σ)) (ms : List (String × Value)) (s : σ) :
    decodeRecord false fields (.object ms) s =
      decodeRecord false fields (.object (ms.filter fun m => (findField fields m.1).isSome)) s := by
  simp only [decodeRecord]
  induction ms generalizing s with
  | nil => rfl
  | cons m ms ih =>
    cases hfield : findField fields m.1 with
    | none =>
      have hskip : setMember false fields s m = some s := by
        rw [setMember, hfield]
        rfl
      rw [List.foldlM_cons, hskip, List.filter_cons_of_neg (by simp [hfield])]
      exact ih s
    | some f =>
      rw [List.filter_cons_of_pos (by simp [hfield]), List.foldlM_cons, List.foldlM_cons]
      exact congrArg _ (funext ih)

end Records

end MacProvider.Lib.Json
