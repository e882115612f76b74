import MacProvider.Gateway.Basic
import MacProvider.Lib.Json.Doubles
import MacProvider.Lib.Json.Escapes
import MacProvider.Lib.Json.NormalForm

/-! # Canonical JSON

`internal/billing/jcs.go`: what is hashed and signed is JSON with sorted keys, strings in normal
form C and numbers written in one way. The normal form, the hash and the doubles are those of the
platform (`Platform`). -/

namespace MacProvider.Coordinator.Billing.CanonicalJson

open MacProvider.Lib Lib.Json

/-- What the platform computes. -/
structure Platform where
  /-- `norm.NFC.String`. -/
  nfc : String → String
  /-- `sha256.Sum256`, in lower-case hexadecimal digits. -/
  sha256Hex : List UInt8 → String
  /-- `canonicalDouble` on a finite double. -/
  canonicalDouble : ℚ → Number
  /-- `int64(f)`. What it is beyond 64 bits depends on the processor. -/
  toInt64 : ℚ → ℤ

/-- The integer has 64 bits. -/
def inInt64 (z : ℤ) : Bool := -2 ^ 63 ≤ z ∧ z < 2 ^ 63

/-- Integer literals stay, the rest goes through a double. The bound `math.MaxInt64` is rounded up
in the comparison. -/
def canonicalJSONNumber (p : Platform) (n : Number) : Option Number :=
  match n.int?.filter inInt64 with
  | some z => some (.ofInt z)
  | none =>
    (float64 n.value).map fun f : ℚ =>
      if f = ⌊f⌋ ∧ -2 ^ 63 ≤ f ∧ f ≤ 2 ^ 63 then .ofInt (p.toInt64 f) else p.canonicalDouble f

/-- **`CanonicalJSON`**. -/
def canonicalJSON {ν : Type} (p : Platform) (number : ν → Option Number) (v : Datum ν) :
    Option (List Char) :=
  (canonical number p.nfc v).map (print escapeJcs)

/-- `CanonicalJSON` on what was read. -/
def canonicalText (p : Platform) (v : Value) : Option (List Char) :=
  canonicalJSON p (canonicalJSONNumber p) (ofValue v)

/-- `CanonicalJSON` on a value with integers only. -/
def canonicalInts (p : Platform) (v : Datum ℤ) : Option (List Char) :=
  canonicalJSON p (fun z => some (.ofInt z)) v

/-- `CanonicalSHA256Hex`: the hash and the text. -/
def canonicalSHA256Hex (p : Platform) (v : Datum ℤ) : Option (String × List Char) :=
  (canonicalInts p v).map fun text => (p.sha256Hex (Utf8.encode text), text)

section Text
variable {ν : Type} {p : Platform} {number : ν → Option Number} {v : Datum ν} {text : List Char}

theorem canonicalJSON_eq_some (h : canonicalJSON p number v = some text) :
    ∃ w, canonical number p.nfc v = some w ∧ text = print escapeJcs w := by
  obtain ⟨w, hw, rfl⟩ := Option.map_eq_some_iff.mp h
  exact ⟨w, hw, rfl⟩

/-- **A canonical text has one canonical form.** -/
theorem canonicalJSON_injective {v' : Datum ν} (h : canonicalJSON p number v = some text)
    (h' : canonicalJSON p number v' = some text) :
    canonical number p.nfc v = canonical number p.nfc v' := by
  obtain ⟨w, hw, rfl⟩ := canonicalJSON_eq_some h
  obtain ⟨w', hw', heq⟩ := canonicalJSON_eq_some h'
  rw [hw, hw', print_injective escapes_escapeJcs heq]

/-- **A text that is its own canonical form** is a canonical form. -/
theorem canonical_of_canonicalText {v : Value} (hread : decodeText text = some v)
    (h : canonicalText p v = some text) :
    canonical (canonicalJSONNumber p) p.nfc (ofValue v) = some v := by
  obtain ⟨w, hw, rfl⟩ := canonicalJSON_eq_some h
  obtain ⟨-, rfl⟩ := (decodeText_print_iff escapes_escapeJcs).mp hread
  exact hw

end Text

theorem canonicalJSONNumber_of_int {p : Platform} {n : Number} {z : ℤ} (hint : n.int? = some z)
    (hrange : inInt64 z = true) : canonicalJSONNumber p n = some (.ofInt z) := by
  rw [canonicalJSONNumber, hint, Option.filter_some, if_pos hrange]

theorem eq_ofInt_of_canonical {p : Platform} {n : Number} {z : ℤ}
    (h : canonicalJSONNumber p n = some n) (hint : n.int? = some z) (hrange : inInt64 z = true) :
    n = .ofInt z := by
  rw [canonicalJSONNumber_of_int hint hrange] at h
  exact (Option.some.inj h).symm

/-! ### The normal form -/

def demoHash : String := String.ofList (List.replicate 64 '0')

/-- It composes the letter e with an acute accent. -/
def demoPlatform : Platform where
  nfc s := if s = "e\u0301" then "\u00e9" else s
  sha256Hex _ := demoHash
  canonicalDouble _ := .ofInt 0
  toInt64 f := ⌊f⌋

/-- The literal of an integer in 64 bits. -/
def IsInt64 (n : Number) : Prop := ∃ z, n.int? = some z ∧ inInt64 z = true

/-- **Canonical JSON is a normal form**: it reads back as itself, and two values share it exactly if
they differ in the order of members and the form of strings that are not keys. -/
theorem canonicalJSON_normal_form (p : Platform) (hnfc : ∀ s, p.nfc (p.nfc s) = p.nfc s) :
    (∀ v, Plain IsInt64 v → ∃ text w, canonicalJSON p (canonicalJSONNumber p) v = some text ∧
      (decodeText text = some w ↔ depth w ≤ maxNestingDepth) ∧ canonicalText p w = some text) ∧
    (∀ v v', Plain IsInt64 v → Plain IsInt64 v' →
      (canonicalJSON p (canonicalJSONNumber p) v = canonicalJSON p (canonicalJSONNumber p) v' ↔
        Alike (fun n n' => n.int? = n'.int?) p.nfc v v')) ∧
    ∀ n z, n.int? = some z → inInt64 z = true → canonicalJSONNumber p n = some (.ofInt z) := by
  have hself : ∀ v, Plain IsInt64 v → ∃ w, canonical (canonicalJSONNumber p) p.nfc v = some w ∧
      canonical (canonicalJSONNumber p) p.nfc (ofValue w) = some w := by
    refine fun v hv => hv.canonical_self hnfc fun n hn => ?_
    obtain ⟨z, hz, hrange⟩ := hn
    exact ⟨.ofInt z, canonicalJSONNumber_of_int hz hrange,
      canonicalJSONNumber_of_int (Number.int?_ofInt z) hrange⟩
  refine ⟨fun v hv => ?_, fun v v' hv hv' => ?_, fun n z => canonicalJSONNumber_of_int⟩
  · obtain ⟨w, hw, hw'⟩ := hself v hv
    refine ⟨print escapeJcs w, w, by rw [canonicalJSON, hw, Option.map_some], ?_, ?_⟩
    · rw [decodeText_print_iff escapes_escapeJcs, and_iff_left rfl]
    · rw [canonicalText, canonicalJSON, hw', Option.map_some]
  · obtain ⟨w, hw, -⟩ := hself v hv
    have hnumber : ∀ n n' k, IsInt64 n → IsInt64 n' → canonicalJSONNumber p n = some k →
        (canonicalJSONNumber p n' = some k ↔ n.int? = n'.int?) := by
      rintro n n' k ⟨z, hz, hrange⟩ ⟨z', hz', hrange'⟩ hk
      rw [canonicalJSONNumber_of_int hz hrange] at hk
      rw [canonicalJSONNumber_of_int hz' hrange', ← hk, hz, hz', Option.some_inj, Option.some_inj,
        Number.ofInt_inj, eq_comm]
    have htext : canonicalJSON p (canonicalJSONNumber p) v = some (print escapeJcs w) := by
      rw [canonicalJSON, hw, Option.map_some]
    rw [← canonical_iff_alike hnumber hv hv' hw, ← hw]
    constructor
    · intro h
      exact (canonicalJSON_injective htext (h ▸ htext)).symm
    · intro h
      rw [canonicalJSON, canonicalJSON, h]

theorem demoPlatform_nfc (s : String) :
    demoPlatform.nfc (demoPlatform.nfc s) = demoPlatform.nfc s := by
  by_cases h : s = "e\u0301" <;> simp [demoPlatform, h]

theorem isInt64_ofInt {z : ℤ} (h : inInt64 z = true) : IsInt64 (.ofInt z) :=
  ⟨z, Number.int?_ofInt z, h⟩

def demoItem (s : String) : String × Datum Number :=
  ("b", .array [.number (.ofInt (2 ^ 63 - 1)), .string s])

theorem plain_demoItem (s : String) : ∀ ms, ms.Perm [demoItem s, ("a", .null)] →
    Plain IsInt64 (.object ms) := by
  intro ms hms
  refine .object ((hms.map Prod.fst).nodup_iff.mpr (by simp [demoItem])) fun m hm => ?_
  rcases List.mem_pair.mp (hms.mem_iff.mp hm) with rfl | rfl
  · refine .array (List.forall_mem_cons.mpr ⟨.number (isInt64_ofInt (by decide)), ?_⟩)
    exact List.forall_mem_singleton.mpr (.string s)
  · exact .null

/-- Another order of members, and a string in another form. -/
theorem alike_objects_have_one_text :
    (∃ text w, canonicalJSON demoPlatform (canonicalJSONNumber demoPlatform)
        (.object [demoItem "e\u0301", ("a", .null)]) = some text ∧
      (decodeText text = some w ↔ depth w ≤ maxNestingDepth) ∧
      canonicalText demoPlatform w = some text) ∧
    canonicalJSON demoPlatform (canonicalJSONNumber demoPlatform)
        (.object [demoItem "e\u0301", ("a", .null)]) =
      canonicalJSON demoPlatform (canonicalJSONNumber demoPlatform)
        (.object [("a", .null), demoItem "\u00e9"]) ∧
    canonicalJSONNumber demoPlatform (.ofInt (2 ^ 63 - 1)) = some (.ofInt (2 ^ 63 - 1)) := by
  obtain ⟨hself, hsame, hint⟩ := canonicalJSON_normal_form demoPlatform demoPlatform_nfc
  have hleft := plain_demoItem "e\u0301" _ (.refl _)
  refine ⟨hself _ hleft, (hsame _ _ hleft (plain_demoItem "\u00e9" _ (.swap ..))).mpr ?_,
    hint _ _ (Number.int?_ofInt _) (by decide)⟩
  refine .object (.swap ..) rfl (.cons (.array ?_) (.cons .null .nil))
  exact .cons (.number rfl) (.cons (.string (by decide)) .nil)

theorem line_breaks_are_kept :
    canonicalText demoPlatform (.string "\r\n") ≠ canonicalText demoPlatform (.string "\n") := by
  decide

end MacProvider.Coordinator.Billing.CanonicalJson
