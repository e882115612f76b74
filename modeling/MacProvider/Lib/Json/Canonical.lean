import MacProvider.Lib.Json.Text
import Mathlib.Data.List.Lex
import Mathlib.Data.List.Sort

/-! # The canonical form of a JSON value

A value as a program holds it (`Datum`): objects are maps. Its canonical form has sorted keys, by
UTF-16 code units, numbers written in one way and strings normalised, except raw ones. -/

namespace MacProvider.Lib.Json

section Maps
variable {α : Type}

/-- Of several members with one key the last one. -/
@[irreducible]
def lastMembers (ms : List (String × α)) : List (String × α) := ms.pwFilter fun a b => a.1 ≠ b.1

/-- The keys. -/
def keys (ms : List (String × α)) : List String := ms.map Prod.fst

variable {k : String}

/-- **Each key stands once.** -/
theorem nodup_keys_lastMembers (ms : List (String × α)) : (keys (lastMembers ms)).Nodup := by
  rw [lastMembers]
  exact List.pairwise_map.mpr (List.pairwise_pwFilter ms)

theorem lastMembers_of_nodup {ms : List (String × α)} (h : (keys ms).Nodup) :
    lastMembers ms = ms := by
  rw [lastMembers]
  exact List.pwFilter_eq_self.mpr (List.pairwise_map.mp h)

theorem get?_of_mem {ms : List (String × Value)} (h : (keys ms).Nodup) {v : Value}
    (hmem : (k, v) ∈ ms) : get? ms k = some v := by
  have hfind : ∃ m, ms.reverse.find? (fun m => m.1 = k) = some m :=
    Option.isSome_iff_exists.mp (List.find?_isSome.mpr ⟨(k, v), List.mem_reverse.mpr hmem, by simp⟩)
  obtain ⟨m, hm⟩ := hfind
  have hkey : m.1 = k := by simpa using List.find?_some hm
  have hsame : m = (k, v) :=
    List.inj_on_of_nodup_map h (List.mem_reverse.mp (List.mem_of_find?_eq_some hm)) hmem hkey
  rw [get?, hm, hsame, Option.map_some]

end Maps

/-! ### The order of keys -/

/-- The UTF-16 code units of a character. -/
def charUnits (c : Char) : List ℕ :=
  let n := c.toNat
  if n < 0x10000 then [n]
  else [0xd800 + (n - 0x10000) / 0x400, 0xdc00 + (n - 0x10000) % 0x400]

/-- The UTF-16 code units of a text. -/
def units (s : String) : List ℕ := s.toList.flatMap charUnits

theorem charUnits_append_inj {c d : Char} {us vs : List ℕ}
    (h : charUnits c ++ us = charUnits d ++ vs) : c = d ∧ us = vs := by
  have hc := Utf8.not_surrogate c
  have hd := Utf8.not_surrogate d
  have hcl := Utf8.toNat_lt c
  have hdl := Utf8.toNat_lt d
  have heq : c.toNat = d.toNat → c = d := fun hn => by
    rw [← Char.ofNat_toNat c, hn, Char.ofNat_toNat]
  unfold charUnits at h
  dsimp only at h
  split_ifs at h with h1 h2 h2
  · obtain ⟨hn, hrest⟩ := List.cons.inj h
    exact ⟨heq hn, hrest⟩
  · obtain ⟨hn, -⟩ := List.cons.inj h
    omega
  · obtain ⟨hn, -⟩ := List.cons.inj h
    omega
  · obtain ⟨hn, h⟩ := List.cons.inj h
    obtain ⟨hn', hrest⟩ := List.cons.inj h
    exact ⟨heq (by omega), hrest⟩

theorem flatMap_charUnits_injective {cs ds : List Char}
    (h : cs.flatMap charUnits = ds.flatMap charUnits) : cs = ds := by
  have hne : ∀ c, charUnits c ≠ [] := by
    intro c
    unfold charUnits
    dsimp only
    split_ifs <;> exact List.cons_ne_nil _ _
  induction cs generalizing ds with
  | nil =>
    cases ds with
    | nil => rfl
    | cons d ds => exact absurd (List.append_eq_nil_iff.mp h.symm).1 (hne d)
  | cons c cs ih =>
    cases ds with
    | nil => exact absurd (List.append_eq_nil_iff.mp h).1 (hne c)
    | cons d ds =>
      obtain ⟨rfl, hrest⟩ := charUnits_append_inj h
      rw [ih hrest]

theorem units_injective {s t : String} (h : units s = units t) : s = t :=
  String.toList_inj.mp (flatMap_charUnits_injective h)

section Order
variable {α β : Type}

/-- The members in order. -/
def sortMembers (ms : List (String × α)) : List (String × α) :=
  ms.insertionSort fun a b => units a.1 ≤ units b.1

theorem perm_sortMembers (ms : List (String × α)) : (sortMembers ms).Perm ms :=
  List.perm_insertionSort _ _

/-- The keys are in order. -/
def Ordered (ms : List (String × α)) : Prop := (keys ms).Pairwise fun a b => units a < units b

variable {ms ns : List (String × α)}

theorem ordered_sortMembers (h : (keys ms).Nodup) : Ordered (sortMembers ms) := by
  have hle : (sortMembers ms).Pairwise fun a b => units a.1 ≤ units b.1 :=
    List.pairwise_insertionSort _ _
  have hnodup : (keys (sortMembers ms)).Nodup :=
    ((perm_sortMembers ms).map Prod.fst).nodup_iff.mpr h
  have hle' : (keys (sortMembers ms)).Pairwise fun a b => units a ≤ units b :=
    List.pairwise_map.mpr hle
  exact (List.Pairwise.and hle' hnodup).imp fun hab =>
    lt_of_le_of_ne hab.1 fun heq => hab.2 (units_injective heq)

theorem Ordered.nodup (h : Ordered ms) : (keys ms).Nodup :=
  List.Pairwise.imp (fun hab heq => absurd (heq ▸ hab) (lt_irrefl _)) h

/-- **Keys in order are determined by their set.** -/
theorem Ordered.keys_eq {ks : List String} (h : Ordered ms)
    (hks : ks.Pairwise fun a b => units a < units b) (hperm : (keys ms).Perm ks) :
    keys ms = ks := by
  refine List.Perm.eq_of_pairwise (fun a b _ _ hab hba => ?_) h hks hperm
  exact absurd (lt_trans hab hba) (lt_irrefl _)

theorem eq_of_perm_of_keys (hperm : ms.Perm ns)
    (hkeys : keys ms = keys ns) (hnodup : (keys ms).Nodup) : ms = ns := by
  induction ms generalizing ns with
  | nil => exact (List.perm_nil.mp hperm.symm).symm
  | cons m ms ih =>
    cases ns with
    | nil => cases hkeys
    | cons n ns =>
      obtain ⟨hkey, htail⟩ := List.cons.inj hkeys
      obtain ⟨hnot, hnodup⟩ := List.nodup_cons.mp hnodup
      have hmn : m = n := by
        rcases List.mem_cons.mp (hperm.symm.mem_iff.mp List.mem_cons_self) with hmem | hmem
        · exact hmem.symm
        · exact absurd (List.mem_map.mpr ⟨n, hmem, hkey.symm⟩) hnot
      subst hmn
      rw [ih hperm.cons_inv htail hnodup]

theorem sortMembers_of_ordered (h : Ordered ms) : sortMembers ms = ms :=
  eq_of_perm_of_keys (perm_sortMembers ms)
    ((ordered_sortMembers h.nodup).keys_eq h ((perm_sortMembers ms).map Prod.fst))
    (ordered_sortMembers h.nodup).nodup

theorem sortMembers_injective (hkeys : keys ms = keys ns)
    (hnodup : (keys ms).Nodup) (h : sortMembers ms = sortMembers ns) : ms = ns :=
  eq_of_perm_of_keys (((perm_sortMembers ms).symm.trans (h ▸ .refl _)).trans (perm_sortMembers ns))
    hkeys hnodup

end Order

/-! ### Data -/

/-- A value as a program holds it. -/
inductive Datum (ν : Type)
  | null
  | bool (b : Bool)
  | number (n : ν)
  | string (s : String)
  | raw (s : String)
  | array (items : List (Datum ν))
  | object (members : List (String × Datum ν))

mutual

/-- A value that was read, with its objects as maps. -/
def ofValue : Value → Datum Number
  | .null => .null
  | .bool b => .bool b
  | .number n => .number n
  | .string s => .string s
  | .array xs => .array (ofItems xs)
  | .object ms => .object (lastMembers (ofMembers ms))

/-- The items of an array. -/
def ofItems : List Value → List (Datum Number)
  | [] => []
  | x :: xs => ofValue x :: ofItems xs

/-- The members of an object. -/
def ofMembers : List (String × Value) → List (String × Datum Number)
  | [] => []
  | (k, v) :: ms => (k, ofValue v) :: ofMembers ms

end

section Canonical
variable {ν : Type} (number : ν → Option Number) (normal : String → String)

mutual

/-- **The canonical form of a datum.** -/
def canonical : Datum ν → Option Value
  | .null => some .null
  | .bool b => some (.bool b)
  | .number n => (number n).map .number
  | .string s => some (.string (normal s))
  | .raw s => some (.string s)
  | .array xs => (canonicalItems xs).map .array
  | .object ms => (canonicalMembers ms).map fun ms => .object (sortMembers ms)

/-- The same of items. -/
def canonicalItems : List (Datum ν) → Option (List Value)
  | [] => some []
  | x :: xs => (canonical x).bind fun v => (canonicalItems xs).map fun vs => v :: vs

/-- The same of members. -/
def canonicalMembers : List (String × Datum ν) → Option (List (String × Value))
  | [] => some []
  | (k, x) :: ms =>
    (canonical x).bind fun v => (canonicalMembers ms).map fun ms => (k, v) :: ms

end

variable {number normal}

variable {ms' : List (String × Value)}

theorem keys_canonicalMembers {ms : List (String × Datum ν)}
    (h : canonicalMembers number normal ms = some ms') : keys ms' = keys ms := by
  induction ms generalizing ms' with
  | nil =>
    cases h
    rfl
  | cons m ms ih =>
    obtain ⟨k, x⟩ := m
    obtain ⟨v, -, h⟩ := Option.bind_eq_some_iff.mp h
    obtain ⟨ms'', hms, rfl⟩ := Option.map_eq_some_iff.mp h
    simp only [keys, List.map_cons] at ih ⊢
    rw [ih hms]

theorem mem_canonicalMembers {ms : List (String × Datum ν)}
    (h : canonicalMembers number normal ms = some ms') {k : String} {v : Value}
    (hmem : (k, v) ∈ ms') : ∃ x, (k, x) ∈ ms ∧ canonical number normal x = some v := by
  induction ms generalizing ms' with
  | nil =>
    cases h
    cases hmem
  | cons m ms ih =>
    obtain ⟨k', x⟩ := m
    obtain ⟨v', hv', h⟩ := Option.bind_eq_some_iff.mp h
    obtain ⟨ms'', hms, rfl⟩ := Option.map_eq_some_iff.mp h
    rcases List.mem_cons.mp hmem with heq | hmem
    · cases heq
      exact ⟨x, List.mem_cons_self, hv'⟩
    · obtain ⟨x', hx', hv⟩ := ih hms hmem
      exact ⟨x', List.mem_cons_of_mem _ hx', hv⟩

/-- No array and no object. -/
def Datum.isScalar : Datum ν → Bool
  | .array _ | .object _ => false
  | _ => true

@[simp] theorem isScalar_number (n : ν) : (Datum.number n).isScalar = true := rfl

@[simp] theorem isScalar_string (s : String) : (Datum.string s : Datum ν).isScalar = true := rfl

/-- What a datum without parts is written as. -/
def scalarValue (write : ν → Number) (normal : String → String) : Datum ν → Value
  | .bool b => .bool b
  | .number n => .number (write n)
  | .string s => .string (normal s)
  | .raw s => .string s
  | _ => .null

/-- Members without parts. -/
def scalarMembers (write : ν → Number) (normal : String → String) (ms : List (String × Datum ν)) :
    List (String × Value) :=
  ms.map fun m => (m.1, scalarValue write normal m.2)

theorem keys_scalarMembers (write : ν → Number) (ms : List (String × Datum ν)) :
    keys (scalarMembers write normal ms) = keys ms := by
  simp [keys, scalarMembers, Function.comp_def]

theorem canonicalMembers_scalars {write : ν → Number} {ms : List (String × Datum ν)}
    (h : ∀ m ∈ ms, m.2.isScalar = true) :
    canonicalMembers (fun n => some (write n)) normal ms =
      some (scalarMembers write normal ms) := by
  induction ms with
  | nil => rfl
  | cons m ms ih =>
    obtain ⟨k, x⟩ := m
    have hx : canonical (fun n => some (write n)) normal x = some (scalarValue write normal x) := by
      cases x with
      | array xs => cases h _ List.mem_cons_self
      | object xs => cases h _ List.mem_cons_self
      | _ => rfl
    rw [canonicalMembers, hx, Option.bind_some, ih fun m hm => h m (List.mem_cons_of_mem _ hm)]
    rfl

end Canonical

/-! ### What was read -/

section Read
variable {number : Number → Option Number} {normal : String → String}

variable {k : String} {v : Value}

theorem mem_ofMembers {ms : List (String × Value)} {x : Datum Number}
    (h : (k, x) ∈ ofMembers ms) : ∃ v, (k, v) ∈ ms ∧ ofValue v = x := by
  induction ms with
  | nil => cases h
  | cons m ms ih =>
    obtain ⟨k', v⟩ := m
    rcases List.mem_cons.mp h with heq | h
    · cases heq
      exact ⟨v, List.mem_cons_self, rfl⟩
    · obtain ⟨v', hv', hx⟩ := ih h
      exact ⟨v', List.mem_cons_of_mem _ hv', hx⟩

theorem canonical_object {ms' : List (String × Value)}
    (h : canonical number normal (ofValue v) = some (.object ms')) :
    Ordered ms' ∧ ∃ ms, v = .object ms ∧ ∀ k w, (k, w) ∈ ms' →
      ∃ u, (k, u) ∈ ms ∧ canonical number normal (ofValue u) = some w := by
  cases v with
  | object ms =>
    obtain ⟨ns, hns, heq⟩ := Option.map_eq_some_iff.mp h
    cases heq
    refine ⟨ordered_sortMembers ?_, ms, rfl, fun k w hmem => ?_⟩
    · rw [keys_canonicalMembers hns]
      exact nodup_keys_lastMembers _
    · obtain ⟨x, hx, hw⟩ := mem_canonicalMembers hns ((perm_sortMembers ns).mem_iff.mp hmem)
      rw [lastMembers] at hx
      obtain ⟨u, hu, rfl⟩ := mem_ofMembers (List.pwFilter_subset _ hx)
      exact ⟨u, hu, hw⟩
  | number n =>
    obtain ⟨_, -, heq⟩ := Option.map_eq_some_iff.mp h
    cases heq
  | array xs =>
    obtain ⟨_, -, heq⟩ := Option.map_eq_some_iff.mp h
    cases heq
  | _ =>
    cases h

/-- **Members of a canonical object** are in order, and canonical. -/
theorem canonical_self {ms : List (String × Value)}
    (h : canonical number normal (ofValue (.object ms)) = some (.object ms)) :
    Ordered ms ∧ ∀ k w, (k, w) ∈ ms → canonical number normal (ofValue w) = some w := by
  obtain ⟨hordered, ms', heq, hmembers⟩ := canonical_object h
  cases heq
  refine ⟨hordered, fun k w hmem => ?_⟩
  obtain ⟨u, hu, hcanonical⟩ := hmembers k w hmem
  -- the key stands once, so that it is the same member
  have hsame : (k, u) = (k, w) :=
    List.inj_on_of_nodup_map hordered.nodup hu hmem rfl
  cases hsame
  exact hcanonical

theorem canonical_of_members {ms : List (String × Value)} (hordered : Ordered ms)
    (h : ∀ k w, (k, w) ∈ ms → canonical number normal (ofValue w) = some w) :
    canonical number normal (ofValue (.object ms)) = some (.object ms) := by
  have hmembers : keys (ofMembers ms) = keys ms ∧
      canonicalMembers number normal (ofMembers ms) = some ms := by
    clear hordered
    induction ms with
    | nil => exact ⟨rfl, rfl⟩
    | cons m ms ih =>
      obtain ⟨hkeys, hrest⟩ := ih fun k w hmem => h k w (List.mem_cons_of_mem _ hmem)
      refine ⟨congrArg (m.1 :: ·) hkeys, ?_⟩
      rw [ofMembers, canonicalMembers, h m.1 m.2 List.mem_cons_self, hrest]
      rfl
  rw [ofValue, lastMembers_of_nodup (hmembers.1 ▸ hordered.nodup), canonical, hmembers.2,
    Option.map_some, sortMembers_of_ordered hordered]

theorem depthMembers_le {ms : List (String × Value)} {n : ℕ} :
    depthMembers ms ≤ n ↔ ∀ k v, (k, v) ∈ ms → depth v ≤ n := by
  induction ms with
  | nil => simp [depthMembers]
  | cons m ms ih =>
    obtain ⟨k, v⟩ := m
    rw [depthMembers, Nat.max_le, ih]
    constructor
    · rintro ⟨hv, hms⟩ k' v' hmem
      rcases List.mem_cons.mp hmem with heq | hmem
      · cases heq
        exact hv
      · exact hms k' v' hmem
    · exact fun h => ⟨h k v List.mem_cons_self, fun k' v' hmem =>
        h k' v' (List.mem_cons_of_mem _ hmem)⟩

theorem depth_scalarMembers {ν : Type} {write : ν → Number} {ms : List (String × Datum ν)}
    (h : (k, v) ∈ scalarMembers write normal ms) : depth v = 0 := by
  obtain ⟨⟨k', x⟩, -, heq⟩ := List.mem_map.mp h
  cases heq
  cases x with
  | _ => rfl

end Read

end MacProvider.Lib.Json
