import MacProvider.Coordinator.Relay.Frames
import MacProvider.Lib.JsonDecoder

/-! # The scan for duplicate keys

A provider's output is scanned for objects with a repeated key. `none` stands for a scan that has
not returned yet. The loop over an array ignores that an element could not be read; where the
decoder consumes nothing, the scan does not return (`scan_stuck`). -/

namespace MacProvider.Coordinator.Buyer.DuplicateKeys

open Lib.JsonDecoder Relay.Frames
open Relation (ReflTransGen)

/-- `strings.TrimRight` of line ends. -/
def trimLineEnd (line : Bytes) : Bytes :=
  (line.reverse.dropWhile fun c => c = 0x0d || c = 0x0a).reverse

/-- The data of a line. -/
def settlementSSEDataValue (line : Bytes) : Option Bytes :=
  if (text "data:").isPrefixOf line then
    let value := line.drop (text "data:").length
    some (if (text " ").isPrefixOf value then value.drop 1 else value)
  else none

/-- What `strings.TrimSpace` cuts off, encoded. -/
def spaces : List Bytes :=
  [[0x09], [0x0a], [0x0b], [0x0c], [0x0d], [0x20], [0xc2, 0x85], [0xc2, 0xa0],
    [0xe1, 0x9a, 0x80]] ++
    (List.range 11).map (fun n => [0xe2, 0x80, 0x80 + UInt8.ofNat n]) ++
    [[0xe2, 0x80, 0xa8], [0xe2, 0x80, 0xa9], [0xe2, 0x80, 0xaf], [0xe2, 0x81, 0x9f],
      [0xe3, 0x80, 0x80]]

/-- Without spaces, at most `n`. -/
def trimLeft : ℕ → Bytes → Bytes
  | 0, data => data
  | n + 1, data =>
    match spaces.find? fun s => s.isPrefixOf data with
    | none => data
    | some s => trimLeft n (data.drop s.length)

/-- What `observeLine` scans of a line. -/
def scannedData (line : Bytes) : Option Bytes :=
  match settlementSSEDataValue (trimLineEnd line) with
  | none => none
  | some data =>
    if data = [] ∨ data = text "[DONE]" then none
    else if (trimLeft data.length data).head? = some openBrace then some data
    else none

/-! ### The scan -/

/-- At the call, or in a loop; an object has the keys it has seen. -/
inductive Point
  | value
  | array
  | object (seen : List Bytes)

variable (l : Literals)

/-- `objectHasDuplicateJSONKeys` from a point on. -/
def scan : ℕ → Point → Decoder → Option (Bool × Decoder)
  | 0, _, _ => none
  | n + 1, .value, d =>
    match d.token l with
    | (.ok .objectStart, d') => scan n (.object []) d'
    | (.ok .arrayStart, d') => scan n .array d'
    | (_, d') => some (false, d')
  | n + 1, .object seen, d =>
    if d.more then
      match d.token l with
      | (.ok (.string key), d') =>
        if key ∈ seen then some (true, d')
        else
          match scan n .value d' with
          | none => none
          | some (true, d'') => some (true, d'')
          | some (false, d'') => scan n (.object (key :: seen)) d''
      | (_, d') => some (false, d')
    else some (false, (d.token l).2)
  | n + 1, .array, d =>
    if d.more then
      match scan n .value d with
      | none => none
      | some (true, d') => some (true, d')
      | some (false, d') => scan n .array d'
    else some (false, (d.token l).2)

/-- **`objectHasDuplicateJSONKeys`**. -/
def objectHasDuplicateJSONKeys (n : ℕ) (d : Decoder) : Option (Bool × Decoder) := scan l n .value d

/-- **`hasDuplicateJSONKeys`**. -/
def hasDuplicateJSONKeys (n : ℕ) (data : Bytes) : Option Bool :=
  (objectHasDuplicateJSONKeys l n (newDecoder data)).map Prod.fst

variable {l} {n m : ℕ} {p q : Point} {d d' e : Decoder} {r : Bool × Decoder}

theorem scan_succ (h : scan l n p d = some r) : scan l (n + 1) p d = some r := by
  induction n generalizing p d r with
  | zero => cases h
  | succ n ih =>
    cases p with
    | value =>
      rw [scan] at h ⊢
      split at h
      · exact ih h
      · exact ih h
      · exact h
    | array =>
      rw [scan] at h ⊢
      split_ifs at h ⊢
      · split at h
        · cases h
        · rw [ih ‹_›]
          exact h
        · rw [ih ‹_›]
          exact ih h
      · exact h
    | object seen =>
      rw [scan] at h ⊢
      split_ifs at h ⊢
      · split at h
        · split_ifs at h ⊢
          · exact h
          · split at h
            · cases h
            · rw [ih ‹_›]
              exact h
            · rw [ih ‹_›]
              exact ih h
        · exact h
      · exact h

theorem scan_mono (h : scan l n p d = some r) (hnm : n ≤ m) : scan l m p d = some r := by
  induction hnm with
  | refl => exact h
  | step _ ih => exact scan_succ ih

theorem scan_unique {r' : Bool × Decoder} (h : scan l n p d = some r)
    (h' : scan l m p d = some r') :
    r = r' := by
  have h1 := scan_mono h (Nat.le_max_left n m)
  have h2 := scan_mono h' (Nat.le_max_right n m)
  exact Option.some.inj (h1.symm.trans h2)

/-! ### The way of the scan -/

variable (l) in
/-- The scan goes on: into a value, or behind one without repeated keys. -/
inductive Goes : Point × Decoder → Point × Decoder → Prop
  | array {d d' : Decoder} (h : d.token l = (.ok .arrayStart, d')) : Goes (.value, d) (.array, d')
  | object {d d' : Decoder} (h : d.token l = (.ok .objectStart, d')) :
    Goes (.value, d) (.object [], d')
  | element {d : Decoder} (h : d.more) : Goes (.array, d) (.value, d)
  | elements {d d' : Decoder} {n : ℕ} (h : d.more) (hvalue : scan l n .value d = some (false, d')) :
    Goes (.array, d) (.array, d')
  | member {d d' : Decoder} {seen : List Bytes} {key : Bytes} (h : d.more)
    (hkey : d.token l = (.ok (.string key), d')) (hnew : key ∉ seen) :
    Goes (.object seen, d) (.value, d')
  | members {d d' d'' : Decoder} {seen : List Bytes} {key : Bytes} {n : ℕ} (h : d.more)
    (hkey : d.token l = (.ok (.string key), d')) (hnew : key ∉ seen)
    (hvalue : scan l n .value d' = some (false, d'')) :
    Goes (.object seen, d) (.object (key :: seen), d'')

variable (l) in
/-- Where the scan gets to. -/
abbrev Visits : Point × Decoder → Point × Decoder → Prop := ReflTransGen (Goes l)

variable (l) in
/-- Malformed, and not a closing bracket. -/
def Stuck (d : Decoder) : Prop :=
  d.more ∧ ∃ d', d.token l = (.error .malformed, d') ∧ d'.more

theorem Stuck.next (h : d.token l = (.error .malformed, d')) (hmore : d'.more) : Stuck l d' :=
  ⟨hmore, d', Decoder.token_malformed h, hmore⟩

theorem scan_stuck (h : Stuck l d) (n : ℕ) : scan l n .array d = none := by
  induction n generalizing d with
  | zero => rfl
  | succ n ih =>
    obtain ⟨hmore, d', htoken, hmore'⟩ := h
    have hnext : scan l n .array d' = none := ih (Stuck.next htoken hmore')
    rw [scan, if_pos hmore]
    cases n with
    | zero => rfl
    | succ n => rw [scan, htoken]; exact hnext

theorem Goes.not_returns {x y : Point × Decoder} (h : Goes l x y)
    (hy : ∀ n, scan l n y.1 y.2 = none)
    (n : ℕ) : scan l n x.1 x.2 = none := by
  cases n with
  | zero => rfl
  | succ n =>
    cases h with
    | array h =>
      rw [scan, h]
      exact hy n
    | object h =>
      rw [scan, h]
      exact hy n
    | element h =>
      rw [scan, if_pos h]
      rw [show scan l n .value _ = none from hy n]
    | elements h hvalue =>
      rw [scan, if_pos h]
      cases hscan : scan l n .value _ with
      | none => rfl
      | some r =>
        rw [scan_unique hscan hvalue]
        exact hy n
    | member h hkey hnew =>
      rw [scan, if_pos h, hkey]
      simp only [if_neg hnew]
      rw [show scan l n .value _ = none from hy n]
    | @members _ d' _ _ _ _ h hkey hnew hvalue =>
      rw [scan, if_pos h, hkey]
      simp only [if_neg hnew]
      cases hscan : scan l n .value d' with
      | none => rfl
      | some r =>
        rw [scan_unique hscan hvalue]
        exact hy n

theorem none_of_visits {x : Point × Decoder} (h : Visits l x (.array, e)) (he : Stuck l e) (n : ℕ) :
    scan l n x.1 x.2 = none := by
  induction h using ReflTransGen.head_induction_on generalizing n with
  | refl => exact scan_stuck he n
  | head h _ ih => exact h.not_returns ih n

/-! ### The bytes that are left -/

theorem length_scan_le (h : scan l n p d = some r) : r.2.rest.length ≤ d.rest.length := by
  induction n generalizing p d r with
  | zero => cases h
  | succ n ih =>
    have htoken := Decoder.length_token_le l d
    cases p with
    | value =>
      rw [scan] at h
      split at h
      · rename_i hd
        rw [hd] at htoken
        exact (ih h).trans htoken
      · rename_i hd
        rw [hd] at htoken
        exact (ih h).trans htoken
      · rename_i hd
        rw [hd] at htoken
        rw [← Option.some.inj h]
        exact htoken
    | array =>
      rw [scan] at h
      split_ifs at h
      · split at h
        · cases h
        · rw [← Option.some.inj h]
          exact ih ‹_›
        · rename_i hvalue
          exact (ih h).trans (ih hvalue)
      · rw [← Option.some.inj h]
        exact htoken
    | object seen =>
      rw [scan] at h
      split_ifs at h
      · split at h
        · rename_i hd
          rw [hd] at htoken
          split_ifs at h
          · rw [← Option.some.inj h]
            exact htoken
          · split at h
            · cases h
            · rename_i hvalue
              rw [← Option.some.inj h]
              exact (ih hvalue).trans htoken
            · rename_i hvalue
              exact ((ih h).trans (ih hvalue)).trans htoken
        · rename_i hd
          rw [hd] at htoken
          rw [← Option.some.inj h]
          exact htoken
      · rw [← Option.some.inj h]
        exact htoken

theorem scan_value_progress (h : scan l n .value d = some r) :
    r.2.rest.length < d.rest.length ∨
      d.token l = (.error .eof, r.2) ∨ d.token l = (.error .malformed, r.2) := by
  cases n with
  | zero => cases h
  | succ n =>
    rw [scan] at h
    split at h
    · rename_i hd
      exact Or.inl ((length_scan_le h).trans_lt (Decoder.length_lt_of_ok hd))
    · rename_i hd
      exact Or.inl ((length_scan_le h).trans_lt (Decoder.length_lt_of_ok hd))
    · rename_i t d' _ _ hd
      obtain rfl := Option.some.inj h
      rcases t with f | t
      · cases f with
        | eof => exact Or.inr (Or.inl hd)
        | malformed => exact Or.inr (Or.inr hd)
        | outOfRange => exact Or.inl (Decoder.length_lt_of_outOfRange hd)
      · exact Or.inl (Decoder.length_lt_of_ok hd)

variable (l) in
/-- The scan returns. -/
def Returns (p : Point) (d : Decoder) : Prop := ∃ n r, scan l n p d = some r

theorem returns_value (harray : ∀ d', d.token l = (.ok .arrayStart, d') → Returns l .array d')
    (hobject : ∀ d', d.token l = (.ok .objectStart, d') → Returns l (.object []) d') :
    Returns l .value d := by
  have hscan : ∀ n, scan l (n + 1) .value d = _ := fun n => by rw [scan]
  obtain ⟨t, d', hd⟩ : ∃ t d', d.token l = (t, d') := ⟨_, _, rfl⟩
  rcases t with f | t
  · exact ⟨1, (false, d'), by rw [hscan, hd]⟩
  · cases t with
    | arrayStart =>
      obtain ⟨n, r, h⟩ := harray d' hd
      exact ⟨n + 1, r, by rw [hscan, hd]; exact h⟩
    | objectStart =>
      obtain ⟨n, r, h⟩ := hobject d' hd
      exact ⟨n + 1, r, by rw [hscan, hd]; exact h⟩
    | _ => exact ⟨1, (false, d'), by rw [hscan, hd]⟩

theorem returns_of_not_more (h : d.more = false) : Returns l .array d :=
  ⟨1, (false, (d.token l).2), by rw [scan, h]; rfl⟩

theorem returns_array (hvalue : Returns l .value d)
    (hrest : ∀ n d', d.more → scan l n .value d = some (false, d') → Returns l .array d') :
    Returns l .array d := by
  cases hmore : d.more with
  | false => exact returns_of_not_more hmore
  | true =>
    obtain ⟨n, ⟨dup, d'⟩, h⟩ := hvalue
    cases dup with
    | true => exact ⟨n + 1, (true, d'), by rw [scan, if_pos hmore, h]⟩
    | false =>
      obtain ⟨m, r, h'⟩ := hrest n d' hmore h
      refine ⟨max n m + 1, r, ?_⟩
      rw [scan, if_pos hmore, scan_mono h (Nat.le_max_left n m)]
      exact scan_mono h' (Nat.le_max_right n m)

theorem returns_object {seen : List Bytes}
    (hvalue : ∀ key d', d.more → d.token l = (.ok (.string key), d') → key ∉ seen →
      Returns l .value d')
    (hrest : ∀ n key d' d'', d.more → d.token l = (.ok (.string key), d') → key ∉ seen →
      scan l n .value d' = some (false, d'') → Returns l (.object (key :: seen)) d'') :
    Returns l (.object seen) d := by
  cases hmore : d.more with
  | false => exact ⟨1, (false, (d.token l).2), by rw [scan, hmore]; rfl⟩
  | true =>
    obtain ⟨t, d', hd⟩ : ∃ t d', d.token l = (t, d') := ⟨_, _, rfl⟩
    have hscan : ∀ n, scan l (n + 1) (.object seen) d = _ := fun n => by
      rw [scan, if_pos hmore, hd]
    rcases t with f | t
    · exact ⟨1, (false, d'), hscan 0⟩
    · cases t with
      | string key =>
        by_cases hnew : key ∈ seen
        · exact ⟨1, (true, d'), by rw [hscan]; exact if_pos hnew⟩
        · obtain ⟨n, ⟨dup, d''⟩, h⟩ := hvalue key d' hmore hd hnew
          cases dup with
          | true =>
            refine ⟨n + 1, (true, d''), ?_⟩
            rw [hscan]
            simp only [if_neg hnew, h]
          | false =>
            obtain ⟨m, r, h'⟩ := hrest n key d' d'' hmore hd hnew h
            refine ⟨max n m + 1, r, ?_⟩
            rw [hscan]
            simp only [if_neg hnew, scan_mono h (Nat.le_max_left n m)]
            exact scan_mono h' (Nat.le_max_right n m)
      | _ => exact ⟨1, (false, d'), hscan 0⟩

/-- By induction on the bytes left; an array and its first element start at one place, so the
element comes first. -/
theorem returns_of_visits (p : Point) (d : Decoder)
    (h : ∀ e, Visits l (p, d) (.array, e) → ¬ Stuck l e) : Returns l p d := by
  induction hlen : d.rest.length using Nat.strong_induction_on generalizing p d with
  | _ k ih =>
    subst hlen
    have hgo : ∀ {p q d'}, (∀ e, Visits l (p, d) (.array, e) → ¬ Stuck l e) →
        Goes l (p, d) (q, d') → d'.rest.length < d.rest.length → Returns l q d' :=
      fun h hstep hlt => ih _ hlt _ _ (fun e he => h e (.head hstep he)) rfl
    have hvalue : (∀ e, Visits l (.value, d) (.array, e) → ¬ Stuck l e) → Returns l .value d :=
      fun h => returns_value (fun d' hd => hgo h (.array hd) (Decoder.length_lt_of_ok hd))
        fun d' hd => hgo h (.object hd) (Decoder.length_lt_of_ok hd)
    cases p with
    | value => exact hvalue h
    | array =>
      cases hmore : d.more with
      | false => exact returns_of_not_more hmore
      | true =>
        refine returns_array (hvalue fun e he => h e (.head (.element hmore) he)) ?_
        intro n d' _ hread
        rcases scan_value_progress hread with hlt | heof | hmal
        · exact hgo h (.elements hmore hread) hlt
        · exact returns_of_not_more (Decoder.more_of_eof heof)
        · refine returns_of_not_more (Bool.eq_false_of_not_eq_true fun hmore' => ?_)
          exact h d .refl ⟨hmore, d', hmal, hmore'⟩
    | object seen =>
      refine returns_object (fun key d' hmore hd hnew => ?_) ?_
      · exact hgo h (.member hmore hd hnew) (Decoder.length_lt_of_ok hd)
      · intro n key d' d'' hmore hd hnew hread
        refine hgo h (.members hmore hd hnew hread) ?_
        exact (length_scan_le hread).trans_lt (Decoder.length_lt_of_ok hd)

/-- **The scan returns exactly if it comes to no malformed token in an array.** -/
theorem duplicate_scan_returns_iff (l : Literals) (data : Bytes) :
    (∃ n, (hasDuplicateJSONKeys l n data).isSome) ↔
      ∀ e, Visits l (.value, newDecoder data) (.array, e) → ¬ Stuck l e := by
  constructor
  · rintro ⟨n, hn⟩ e hvisits hstuck
    have hnone := none_of_visits hvisits hstuck n
    simp [hasDuplicateJSONKeys, objectHasDuplicateJSONKeys, hnone] at hn
  · intro h
    obtain ⟨n, r, hr⟩ := returns_of_visits .value (newDecoder data) h
    exact ⟨n, by simp [hasDuplicateJSONKeys, objectHasDuplicateJSONKeys, hr]⟩

def demoLiterals : Literals := ⟨id, fun _ => true⟩

/-- An object with an array that is not valid in it. -/
def hostileLine : Bytes := text "data: \x7b\"a\":[x]\x7d\n"

/-- Its data. -/
def hostileData : Bytes := text "\x7b\"a\":[x]\x7d"

theorem hostile_line_never_scanned :
    scannedData hostileLine = some hostileData ∧
      ∀ n, hasDuplicateJSONKeys demoLiterals n hostileData = none := by
  refine ⟨by decide +kernel, fun n => ?_⟩
  have hobject : (newDecoder hostileData).token demoLiterals =
      (.ok .objectStart, ⟨text "\"a\":[x]\x7d", .objectStart, [.topValue]⟩) := by decide +kernel
  have hkey : Decoder.token demoLiterals ⟨text "\"a\":[x]\x7d", .objectStart, [.topValue]⟩ =
      (.ok (.string (text "\"a\"")), ⟨text ":[x]\x7d", .objectColon, [.topValue]⟩) := by
    decide +kernel
  have harray : Decoder.token demoLiterals ⟨text ":[x]\x7d", .objectColon, [.topValue]⟩ =
      (.ok .arrayStart, ⟨text "x]\x7d", .arrayStart, [.objectValue, .topValue]⟩) := by
    decide +kernel
  have hbad : Decoder.token demoLiterals ⟨text "x]\x7d", .arrayStart, [.objectValue, .topValue]⟩ =
      (.error .malformed, ⟨text "x]\x7d", .arrayStart, [.objectValue, .topValue]⟩) := by
    decide +kernel
  have hvisits : Visits demoLiterals (.value, newDecoder hostileData)
      (.array, ⟨text "x]\x7d", .arrayStart, [.objectValue, .topValue]⟩) :=
    .head (.object hobject) (.head (.member (by decide +kernel) hkey List.not_mem_nil)
      (.single (.array harray)))
  have hmore : Decoder.more ⟨text "x]\x7d", .arrayStart, [.objectValue, .topValue]⟩ = true := by
    decide +kernel
  have hstuck : Stuck demoLiterals ⟨text "x]\x7d", .arrayStart, [.objectValue, .topValue]⟩ :=
    ⟨hmore, _, hbad, hmore⟩
  have hnone := none_of_visits hvisits hstuck n
  simp only [hasDuplicateJSONKeys, objectHasDuplicateJSONKeys, hnone, Option.map_none]

end MacProvider.Coordinator.Buyer.DuplicateKeys
