import MacProvider.Lib.Json.Scalars

/-! # JSON texts

The values of JSON (`Value`), how they are read (`parseValue`) and printed (`print`). The last
member with a key counts (`get?`). `parseValue_print`: a value is read back. -/

namespace MacProvider.Lib.Json

/-- The values of JSON. -/
inductive Value
  | null
  | bool (b : Bool)
  | number (n : Number)
  | string (s : String)
  | array (items : List Value)
  | object (members : List (String × Value))

/-- The last member with the key counts. -/
def get? (members : List (String × Value)) (key : String) : Option Value :=
  (members.reverse.find? fun m => m.1 = key).map Prod.snd

/-- White space. -/
def isSpace (c : Char) : Bool := c = ' ' || c = '\t' || c = '\r' || c = '\n'

/-- Past the white space. -/
def skipSpace (cs : List Char) : List Char := cs.dropWhile isSpace

mutual

/-- **The value at the start**, and the rest. -/
def parseValue : ℕ → List Char → Option (Value × List Char)
  | 0, _ => none
  | fuel + 1, cs =>
    match skipSpace cs with
    | '{' :: cs =>
      match skipSpace cs with
      | '}' :: rest => some (.object [], rest)
      | _ => (parseMembers fuel cs).map fun r => (.object r.1, r.2)
    | '[' :: cs =>
      match skipSpace cs with
      | ']' :: rest => some (.array [], rest)
      | _ => (parseItems fuel cs).map fun r => (.array r.1, r.2)
    | '"' :: cs =>
      (parseString (cs.length + 1) cs).map fun r => (.string (String.ofList r.1), r.2)
    | 'n' :: 'u' :: 'l' :: 'l' :: rest => some (.null, rest)
    | 't' :: 'r' :: 'u' :: 'e' :: rest => some (.bool true, rest)
    | 'f' :: 'a' :: 'l' :: 's' :: 'e' :: rest => some (.bool false, rest)
    | cs => (parseNumber cs).map fun r => (.number r.1, r.2)

/-- Items behind a bracket or a comma. -/
def parseItems : ℕ → List Char → Option (List Value × List Char)
  | 0, _ => none
  | fuel + 1, cs =>
    (parseValue fuel cs).bind fun r =>
      match skipSpace r.2 with
      | ',' :: rest => (parseItems fuel rest).map fun s => (r.1 :: s.1, s.2)
      | ']' :: rest => some ([r.1], rest)
      | _ => none

/-- Members behind a brace or a comma. -/
def parseMembers : ℕ → List Char → Option (List (String × Value) × List Char)
  | 0, _ => none
  | fuel + 1, cs =>
    match skipSpace cs with
    | '"' :: cs =>
      (parseString (cs.length + 1) cs).bind fun k =>
        match skipSpace k.2 with
        | ':' :: cs =>
          (parseValue fuel cs).bind fun r =>
            match skipSpace r.2 with
            | ',' :: rest =>
              (parseMembers fuel rest).map fun s => ((String.ofList k.1, r.1) :: s.1, s.2)
            | '}' :: rest => some ([(String.ofList k.1, r.1)], rest)
            | _ => none
        | _ => none
    | _ => none

end

section Print
variable (escape : Char → List Char)

/-- A string as a text. -/
def printString (s : String) : List Char := '"' :: (s.toList.flatMap escape ++ ['"'])

mutual

/-- **A value as a text**, without spaces. -/
def print : Value → List Char
  | .null => ['n', 'u', 'l', 'l']
  | .bool true => ['t', 'r', 'u', 'e']
  | .bool false => ['f', 'a', 'l', 's', 'e']
  | .number n => n.literal
  | .string s => printString escape s
  | .array [] => ['[', ']']
  | .array (x :: xs) => '[' :: (print x ++ printItems xs)
  | .object [] => ['{', '}']
  | .object ((k, v) :: ms) => '{' :: (printString escape k ++ ':' :: (print v ++ printMembers ms))

/-- The items behind the first one. -/
def printItems : List Value → List Char
  | [] => [']']
  | x :: xs => ',' :: (print x ++ printItems xs)

/-- The members behind the first one. -/
def printMembers : List (String × Value) → List Char
  | [] => ['}']
  | (k, v) :: ms => ',' :: (printString escape k ++ ':' :: (print v ++ printMembers ms))

end

end Print

/-! ### Reading back -/

mutual

/-- The calls it takes to read a value. -/
def cost : Value → ℕ
  | .array xs => 1 + costItems xs
  | .object ms => 1 + costMembers ms
  | _ => 1

/-- The same of items. -/
def costItems : List Value → ℕ
  | [] => 0
  | x :: xs => 1 + cost x + costItems xs

/-- The same of members. -/
def costMembers : List (String × Value) → ℕ
  | [] => 0
  | (_, v) :: ms => 1 + cost v + costMembers ms

end

section Read
variable {escape : Char → List Char}

theorem skipSpace_cons {c : Char} {cs : List Char} (h : isSpace c = false) :
    skipSpace (c :: cs) = c :: cs := by
  simp [skipSpace, h]

theorem print_cons (v : Value) :
    ∃ c cs, print escape v = c :: cs ∧ isSpace c = false ∧ c ≠ ']' ∧ c ≠ '}' := by
  cases v with
  | null => exact ⟨_, _, rfl, by decide⟩
  | bool b => cases b <;> exact ⟨_, _, rfl, by decide⟩
  | number n =>
    obtain ⟨c, cs, heq, hc⟩ := n.head
    refine ⟨c, cs, heq, ?_⟩
    rcases hc with rfl | hc
    · decide
    · refine ⟨?_, ?_, ?_⟩
      · by_contra hspace
        simp only [isSpace, Bool.or_eq_true, decide_eq_true_eq, Bool.not_eq_false] at hspace
        rcases hspace with ((rfl | rfl) | rfl) | rfl <;> exact absurd hc (by decide)
      · rintro rfl
        exact absurd hc (by decide)
      · rintro rfl
        exact absurd hc (by decide)
  | string s => exact ⟨_, _, rfl, by decide⟩
  | array xs => cases xs <;> exact ⟨_, _, rfl, by decide⟩
  | object ms => rcases ms with _ | ⟨⟨k, v⟩, ms⟩ <;> exact ⟨_, _, rfl, by decide⟩

theorem length_le_length_escape (h : Escapes escape) (s : List Char) :
    s.length ≤ (s.flatMap escape).length := by
  induction s with
  | nil => exact Nat.le_refl 0
  | cons c s ih =>
    have hne : escape c ≠ [] := by
      intro hnil
      have hchar := h c []
      rw [hnil] at hchar
      cases hchar
    have hpos := List.length_pos_iff.mpr hne
    rw [List.flatMap_cons, List.length_append, List.length_cons]
    omega

theorem parseString_print (h : Escapes escape) (s : String) (rest : List Char) :
    parseString ((s.toList.flatMap escape ++ '"' :: rest).length + 1)
      (s.toList.flatMap escape ++ '"' :: rest) = some (s.toList, rest) := by
  refine parseString_escape h s.toList rest ?_
  have hle := length_le_length_escape h s.toList
  rw [List.length_append]
  omega

theorem printString_append (s : String) (rest : List Char) :
    printString escape s ++ rest = '"' :: (s.toList.flatMap escape ++ '"' :: rest) := by
  simp [printString]

theorem parseValue_string (h : Escapes escape) (s : String) (fuel : ℕ) (rest : List Char) :
    parseValue (fuel + 1) (printString escape s ++ rest) = some (.string s, rest) := by
  rw [printString_append, parseValue, skipSpace_cons (by decide)]
  simp only [parseString_print h, Option.map_some, String.ofList_toList]

theorem parseValue_number (n : Number) (fuel : ℕ) {rest : List Char} (hrest : Stops rest) :
    parseValue (fuel + 1) (n.literal ++ rest) = some (.number n, rest) := by
  obtain ⟨c, cs, heq, hc⟩ := n.head
  have hne : ∀ d : Char, d ≠ '-' → d.isDigit = false → c ≠ d := by
    rintro d hminus hdigit rfl
    rcases hc with hc | hc
    · exact hminus hc
    · rw [hdigit] at hc
      cases hc
  have hspace : isSpace c = false := by
    simp only [isSpace, hne ' ' (by decide) (by decide), hne '\t' (by decide) (by decide),
      hne '\r' (by decide) (by decide), hne '\n' (by decide) (by decide), decide_false,
      Bool.or_false]
  have hparse := parseNumber_literal n hrest
  rw [heq, List.cons_append] at hparse ⊢
  rw [parseValue, skipSpace_cons hspace]
  split
  · next h => exact absurd (List.cons.inj h).1 (hne '{' (by decide) (by decide))
  · next h => exact absurd (List.cons.inj h).1 (hne '[' (by decide) (by decide))
  · next h => exact absurd (List.cons.inj h).1 (hne '"' (by decide) (by decide))
  · next h => exact absurd (List.cons.inj h).1 (hne 'n' (by decide) (by decide))
  · next h => exact absurd (List.cons.inj h).1 (hne 't' (by decide) (by decide))
  · next h => exact absurd (List.cons.inj h).1 (hne 'f' (by decide) (by decide))
  · rw [hparse, Option.map_some]

theorem parseValue_bracket {c : Char} {cs : List Char} (fuel : ℕ) (hspace : isSpace c = false)
    (hc : c ≠ ']') : parseValue (fuel + 1) ('[' :: c :: cs) =
      (parseItems fuel (c :: cs)).map fun r => (.array r.1, r.2) := by
  have hmatch : parseValue (fuel + 1) ('[' :: c :: cs) =
      match skipSpace (c :: cs) with
      | ']' :: rest => some (.array [], rest)
      | _ => (parseItems fuel (c :: cs)).map fun r => (.array r.1, r.2) := by
    rfl
  rw [hmatch, skipSpace_cons hspace]
  split
  · next heq => exact absurd (List.cons.inj heq).1 hc
  · rfl

theorem parseValue_brace (fuel : ℕ) (cs : List Char) : parseValue (fuel + 1) ('{' :: '"' :: cs) =
    (parseMembers fuel ('"' :: cs)).map fun r => (.object r.1, r.2) := by
  rfl

theorem parseMembers_quote {fuel : ℕ} {k : String} {v : Value} {cs rest rest' : List Char}
    (hk : parseString (cs.length + 1) cs = some (k.toList, ':' :: rest))
    (hv : parseValue fuel rest = some (v, rest')) :
    parseMembers (fuel + 1) ('"' :: cs) =
      match skipSpace rest' with
      | ',' :: rest => (parseMembers fuel rest).map fun s => ((k, v) :: s.1, s.2)
      | '}' :: rest => some ([(k, v)], rest)
      | _ => none := by
  rw [parseMembers, skipSpace_cons (by decide)]
  simp only [hk, hv, Option.bind_some, skipSpace_cons (by decide : isSpace ':' = false),
    String.ofList_toList]

theorem stops_printItems (xs : List Value) (rest : List Char) :
    Stops (printItems escape xs ++ rest) := by
  cases xs <;> exact free_cons (by decide)

theorem stops_printMembers (ms : List (String × Value)) (rest : List Char) :
    Stops (printMembers escape ms ++ rest) := by
  rcases ms with _ | ⟨⟨k, v⟩, ms⟩ <;> exact free_cons (by decide)

mutual

/-- **A value is read back from its text.** -/
theorem parseValue_print (h : Escapes escape) : ∀ (v : Value) (fuel : ℕ) (rest : List Char),
    cost v ≤ fuel → Stops rest → parseValue fuel (print escape v ++ rest) = some (v, rest)
  | .null, fuel + 1, rest, _, _ => by
    rfl
  | .bool true, fuel + 1, rest, _, _ => by
    rfl
  | .bool false, fuel + 1, rest, _, _ => by
    rfl
  | .number n, fuel + 1, rest, _, hrest => parseValue_number n fuel hrest
  | .string s, fuel + 1, rest, _, _ => parseValue_string h s fuel rest
  | .array [], fuel + 1, rest, _, _ => by
    rfl
  | .array (x :: xs), fuel + 1, rest, hfuel, _ => by
    rw [cost] at hfuel
    have hitems := parseItems_print h (x :: xs) fuel rest (by omega)
    obtain ⟨c, cs, hc, hspace, hbracket, -⟩ := @print_cons escape x
    dsimp only at hitems
    rw [print, List.cons_append, List.append_assoc]
    rw [hc, List.cons_append] at hitems ⊢
    rw [parseValue_bracket fuel hspace hbracket, hitems, Option.map_some]
  | .object [], fuel + 1, rest, _, _ => by
    rfl
  | .object ((k, v) :: ms), fuel + 1, rest, hfuel, _ => by
    rw [cost] at hfuel
    have hmembers := parseMembers_print h ((k, v) :: ms) fuel rest (by omega)
    dsimp only at hmembers
    rw [printString_append] at hmembers
    rw [print, List.cons_append, List.append_assoc, List.cons_append, List.append_assoc,
      printString_append, parseValue_brace, hmembers, Option.map_some]
  | .null, 0, _, hfuel, _ => absurd hfuel (by simp [cost])
  | .bool _, 0, _, hfuel, _ => absurd hfuel (by simp [cost])
  | .number _, 0, _, hfuel, _ => absurd hfuel (by simp [cost])
  | .string _, 0, _, hfuel, _ => absurd hfuel (by simp [cost])
  | .array _, 0, _, hfuel, _ => absurd hfuel (by simp [cost])
  | .object _, 0, _, hfuel, _ => absurd hfuel (by simp [cost])

theorem parseItems_print (h : Escapes escape) : ∀ (xs : List Value) (fuel : ℕ) (rest : List Char),
    costItems xs ≤ fuel →
      match xs with
      | [] => True
      | x :: xs => parseItems fuel (print escape x ++ (printItems escape xs ++ rest)) =
          some (x :: xs, rest)
  | [], _, _, _ => trivial
  | x :: xs, 0, rest, hfuel => by
    rw [costItems] at hfuel
    omega
  | x :: xs, fuel + 1, rest, hfuel => by
    rw [costItems] at hfuel
    have hx := parseValue_print h x fuel (printItems escape xs ++ rest) (by omega)
      (stops_printItems xs rest)
    have hxs := parseItems_print h xs fuel rest (by omega)
    dsimp only
    rw [parseItems, hx, Option.bind_some]
    cases xs with
    | nil =>
      rfl
    | cons y ys =>
      rw [printItems, List.cons_append, skipSpace_cons (by decide), List.append_assoc]
      simp only [hxs, Option.map_some]

theorem parseMembers_print (h : Escapes escape) :
    ∀ (ms : List (String × Value)) (fuel : ℕ) (rest : List Char), costMembers ms ≤ fuel →
      match ms with
      | [] => True
      | (k, v) :: ms => parseMembers fuel
          (printString escape k ++ ':' :: (print escape v ++ (printMembers escape ms ++ rest))) =
          some ((k, v) :: ms, rest)
  | [], _, _, _ => trivial
  | (k, v) :: ms, 0, rest, hfuel => by
    rw [costMembers] at hfuel
    omega
  | (k, v) :: ms, fuel + 1, rest, hfuel => by
    rw [costMembers] at hfuel
    have hv := parseValue_print h v fuel (printMembers escape ms ++ rest) (by omega)
      (stops_printMembers ms rest)
    have hms := parseMembers_print h ms fuel rest (by omega)
    have hk := parseString_print h k
      (':' :: (print escape v ++ (printMembers escape ms ++ rest)))
    dsimp only
    rw [printString_append, parseMembers_quote hk hv]
    cases ms with
    | nil =>
      rfl
    | cons m ms =>
      obtain ⟨k', v'⟩ := m
      rw [printMembers, List.cons_append, skipSpace_cons (by decide)]
      simp only [List.append_assoc, List.cons_append]
      rw [hms, Option.map_some]

end

mutual

theorem cost_le (escape : Char → List Char) : ∀ v : Value, cost v ≤ 2 * (print escape v).length
  | .null => by simp [cost, print]
  | .bool true => by simp [cost, print]
  | .bool false => by simp [cost, print]
  | .number n => by
    obtain ⟨c, cs, heq, -⟩ := n.head
    simp only [cost, print, heq, List.length_cons]
    omega
  | .string s => by
    simp only [cost, print, printString, List.length_cons]
    omega
  | .array [] => by simp [cost, costItems, print]
  | .array (x :: xs) => by
    have hx := cost_le escape x
    have hxs := costItems_le escape xs
    simp only [cost, costItems, print, List.length_cons, List.length_append]
    omega
  | .object [] => by simp [cost, costMembers, print]
  | .object ((k, v) :: ms) => by
    have hv := cost_le escape v
    have hms := costMembers_le escape ms
    simp only [cost, costMembers, print, List.length_cons, List.length_append]
    omega

theorem costItems_le (escape : Char → List Char) : ∀ xs : List Value,
    costItems xs + 2 ≤ 2 * (printItems escape xs).length
  | [] => by simp [costItems, printItems]
  | x :: xs => by
    have hx := cost_le escape x
    have hxs := costItems_le escape xs
    simp only [costItems, printItems, List.length_cons, List.length_append]
    omega

theorem costMembers_le (escape : Char → List Char) : ∀ ms : List (String × Value),
    costMembers ms + 2 ≤ 2 * (printMembers escape ms).length
  | [] => by simp [costMembers, printMembers]
  | (k, v) :: ms => by
    have hv := cost_le escape v
    have hms := costMembers_le escape ms
    simp only [costMembers, printMembers, List.length_cons, List.length_append]
    omega

end

end Read

/-! ### Texts -/

mutual

/-- How deep arrays and objects are nested. -/
def depth : Value → ℕ
  | .array xs => 1 + depthItems xs
  | .object ms => 1 + depthMembers ms
  | _ => 0

/-- The same of items. -/
def depthItems : List Value → ℕ
  | [] => 0
  | x :: xs => max (depth x) (depthItems xs)

/-- The same of members. -/
def depthMembers : List (String × Value) → ℕ
  | [] => 0
  | (_, v) :: ms => max (depth v) (depthMembers ms)

end

/-- The reader refuses what is nested deeper. -/
def maxNestingDepth : ℕ := 10000

/-- One value, and the rest. -/
def decodeValue (cs : List Char) : Option (Value × List Char) :=
  (parseValue (2 * cs.length) cs).filter fun r => depth r.1 ≤ maxNestingDepth

/-- **A text that is one value.** -/
def decodeText (cs : List Char) : Option Value :=
  ((decodeValue cs).filter fun r => skipSpace r.2 = []).map Prod.fst

section Print
variable {escape : Char → List Char} {v w : Value}

/-- **What is printed is read back**, unless too deep. -/
theorem decodeText_print_iff (h : Escapes escape) :
    decodeText (print escape v) = some w ↔ depth v ≤ maxNestingDepth ∧ v = w := by
  have hparse := parseValue_print h v (2 * (print escape v).length) [] (cost_le escape v)
    (free_nil _)
  rw [List.append_nil] at hparse
  rw [decodeText, decodeValue, hparse, Option.filter_some]
  by_cases hdepth : depth v ≤ maxNestingDepth
  · simp [skipSpace]
  · simp [hdepth]

theorem decodeText_print (h : Escapes escape) (hdepth : depth v ≤ maxNestingDepth) :
    decodeText (print escape v) = some v :=
  (decodeText_print_iff h).mpr ⟨hdepth, rfl⟩

/-- **A text is printed by at most one value.** -/
theorem print_injective (h : Escapes escape) (heq : print escape v = print escape w) : v = w := by
  have hv := parseValue_print h v (cost v + cost w) [] (Nat.le_add_right _ _) (free_nil _)
  have hw := parseValue_print h w (cost v + cost w) [] (Nat.le_add_left _ _) (free_nil _)
  rw [heq, hw] at hv
  exact (Prod.mk.inj (Option.some.inj hv)).1.symm

end Print

end MacProvider.Lib.Json
