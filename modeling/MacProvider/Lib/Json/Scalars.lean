import MacProvider.Lib.Utf8
import Mathlib.Data.List.TakeWhile
import Mathlib.Tactic.IntervalCases

/-! # Numbers and strings of JSON

A number is kept as its literal (`Number`), a string is read by characters (`stringChar`); a lone
surrogate is U+FFFD. `lexes_lexNumber`: what is read is a literal of the grammar (`IsNumber`).
`parseString_escape`: strings are read back however they are escaped. -/

namespace MacProvider.Lib.Json

/-! ### Number literals -/

/-- Digits, and the rest. -/
def lexDigits (cs : List Char) : Option (List Char × List Char) :=
  if cs.takeWhile Char.isDigit = [] then none
  else some (cs.takeWhile Char.isDigit, cs.dropWhile Char.isDigit)

/-- A zero, or digits that start with another. -/
def lexInteger (cs : List Char) : Option (List Char × List Char) :=
  match cs with
  | '0' :: cs => some (['0'], cs)
  | cs => lexDigits cs

/-- A mark, and what has to follow it. -/
def lexMarked (mark : Char) (p : List Char → Option (List Char × List Char)) (cs : List Char) :
    Option (List Char × List Char) :=
  (p cs).map fun r => (mark :: r.1, r.2)

/-- A fraction, and the rest. -/
def lexFraction (cs : List Char) : Option (List Char × List Char) :=
  match cs with
  | '.' :: cs => lexMarked '.' lexDigits cs
  | cs => some ([], cs)

/-- Digits and sign of an exponent. -/
def lexExponentDigits (cs : List Char) : Option (List Char × List Char) :=
  match cs with
  | '+' :: cs => lexMarked '+' lexDigits cs
  | '-' :: cs => lexMarked '-' lexDigits cs
  | cs => lexDigits cs

/-- An exponent, and the rest. -/
def lexExponent (cs : List Char) : Option (List Char × List Char) :=
  match cs with
  | 'e' :: cs => lexMarked 'e' lexExponentDigits cs
  | 'E' :: cs => lexMarked 'E' lexExponentDigits cs
  | cs => some ([], cs)

/-- One part of a literal, and then the next. -/
def andThen (p q : List Char → Option (List Char × List Char)) (cs : List Char) :
    Option (List Char × List Char) :=
  (p cs).bind fun r => (q r.2).map fun r' => (r.1 ++ r'.1, r'.2)

/-- A number without a sign. -/
def lexUnsigned : List Char → Option (List Char × List Char) :=
  andThen lexInteger (andThen lexFraction lexExponent)

/-- **The number at the start**, and the rest. -/
def lexNumber (cs : List Char) : Option (List Char × List Char) :=
  match cs with
  | '-' :: cs => lexMarked '-' lexUnsigned cs
  | cs => lexUnsigned cs

/-- The text does not start with one of these. -/
def Free (chars : Char → Bool) (rest : List Char) : Prop := ∀ c ∈ rest.head?, chars c = false

theorem free_nil (chars : Char → Bool) : Free chars [] := nofun

variable {cs rest ds tail : List Char} {chars : Char → Bool} {c : Char} {d : ℕ}

theorem free_cons (h : chars c = false) : Free chars (c :: cs) := by
  intro d hd
  obtain rfl : c = d := by simpa using hd
  exact h

theorem Free.mono {chars' : Char → Bool} (h : Free chars rest)
    (himp : ∀ c, chars' c = true → chars c = true) : Free chars' rest := by
  intro c hc
  have hfree := h c hc
  by_contra hne
  rw [himp c (by simpa using hne)] at hfree
  cases hfree

/-! ### The grammar of literals -/

/-- One digit or more. -/
def IsDigits (ds : List Char) : Prop := ds ≠ [] ∧ ∀ d ∈ ds, d.isDigit = true

/-- A zero, or digits that do not start with one. -/
def IsInteger (ds : List Char) : Prop := ds = ['0'] ∨ IsDigits ds ∧ ds.head? ≠ some '0'

/-- Nothing, or a point and digits. -/
def IsFraction (ds : List Char) : Prop := ds = [] ∨ ∃ ds', ds = '.' :: ds' ∧ IsDigits ds'

/-- Digits, or a sign and digits. -/
def IsSigned (ds : List Char) : Prop :=
  IsDigits ds ∨ ∃ ds', (ds = '+' :: ds' ∨ ds = '-' :: ds') ∧ IsDigits ds'

/-- Nothing, or the letter `e` and an exponent. -/
def IsExponent (ds : List Char) : Prop :=
  ds = [] ∨ ∃ ds', (ds = 'e' :: ds' ∨ ds = 'E' :: ds') ∧ IsSigned ds'

/-- One part, and another one behind it. -/
def Followed (P Q : List Char → Prop) (ds : List Char) : Prop :=
  ∃ ds₁ ds₂, ds = ds₁ ++ ds₂ ∧ P ds₁ ∧ Q ds₂

/-- An integer, a fraction and an exponent. -/
def IsUnsigned : List Char → Prop := Followed IsInteger (Followed IsFraction IsExponent)

/-- **The number literals of JSON.** -/
def IsNumber (ds : List Char) : Prop := IsUnsigned ds ∨ ∃ ds', ds = '-' :: ds' ∧ IsUnsigned ds'

/-- Such literals are read before any text without these characters. -/
structure Lexes (chars : Char → Bool) (p : List Char → Option (List Char × List Char))
    (P : List Char → Prop) : Prop where
  sound : ∀ {cs ds tail}, p cs = some (ds, tail) → P ds ∧ cs = ds ++ tail
  complete : ∀ {ds rest}, P ds → Free chars rest → p (ds ++ rest) = some (ds, rest)

theorem takeWhile_isDigit_append (h : ∀ d ∈ ds, d.isDigit = true) (hrest : Free Char.isDigit rest) :
    (ds ++ rest).takeWhile Char.isDigit = ds ∧ (ds ++ rest).dropWhile Char.isDigit = rest := by
  rw [List.takeWhile_append_of_pos h, List.dropWhile_append_of_pos h]
  cases rest with
  | nil => simp
  | cons c cs => simp [hrest c rfl]

theorem IsDigits.head (h : IsDigits ds) : ∃ d ds', ds = d :: ds' ∧ d.isDigit = true := by
  obtain ⟨d, ds', rfl⟩ := List.exists_cons_of_ne_nil h.1
  exact ⟨d, ds', rfl, h.2 d List.mem_cons_self⟩

theorem lexes_lexDigits : Lexes Char.isDigit lexDigits IsDigits where
  sound h := by
    unfold lexDigits at h
    split_ifs at h with hne
    cases h
    exact ⟨⟨hne, fun d hd => List.mem_takeWhile_imp hd⟩, List.takeWhile_append_dropWhile.symm⟩
  complete h hrest := by
    obtain ⟨htake, hdrop⟩ := takeWhile_isDigit_append h.2 hrest
    rw [lexDigits, htake, hdrop, if_neg h.1]

section Marked
variable {p : List Char → Option (List Char × List Char)} {P : List Char → Prop}

theorem lexMarked_sound (hp : Lexes chars p P) {mark : Char}
    (h : lexMarked mark p cs = some (ds, tail)) :
    ∃ ds', ds = mark :: ds' ∧ P ds' ∧ mark :: cs = ds ++ tail := by
  obtain ⟨⟨ds', tail'⟩, hp', heq⟩ := Option.map_eq_some_iff.mp h
  cases heq
  obtain ⟨hds, hcs⟩ := hp.sound hp'
  exact ⟨ds', rfl, hds, congrArg (mark :: ·) hcs⟩

theorem lexMarked_complete (hp : Lexes chars p P) (mark : Char) (h : P ds)
    (hrest : Free chars rest) : lexMarked mark p (ds ++ rest) = some (mark :: ds, rest) := by
  rw [lexMarked, hp.complete h hrest, Option.map_some]

end Marked

theorem lexes_lexInteger : Lexes Char.isDigit lexInteger IsInteger where
  sound h := by
    unfold lexInteger at h
    split at h
    · cases h
      exact ⟨Or.inl rfl, rfl⟩
    · next hzero =>
      obtain ⟨hds, hcs⟩ := lexes_lexDigits.sound h
      refine ⟨Or.inr ⟨hds, fun hhead => ?_⟩, hcs⟩
      obtain ⟨ds', rfl⟩ := List.head?_eq_some_iff.mp hhead
      exact hzero _ hcs
  complete h hrest := by
    rcases h with rfl | ⟨hds, hhead⟩
    · rfl
    · obtain ⟨d, ds', rfl, -⟩ := hds.head
      rw [← lexes_lexDigits.complete hds hrest, lexInteger]
      intro cs' heq
      exact hhead (by rw [(List.cons.inj heq).1, List.head?_cons])

/-- They go on with a literal. -/
def goesOn (c : Char) : Bool := c.isDigit || c = '.' || c = 'e' || c = 'E'

/-- The text does not go on with a number. -/
abbrev Stops : List Char → Prop := Free goesOn

theorem Free.digits (h : Stops rest) : Free Char.isDigit rest :=
  h.mono fun c hc => by simp [goesOn, hc]

theorem lexes_lexFraction : Lexes (fun c => c.isDigit || c = '.') lexFraction IsFraction where
  sound h := by
    unfold lexFraction at h
    split at h
    · obtain ⟨ds', rfl, hds, hcs⟩ := lexMarked_sound lexes_lexDigits h
      exact ⟨Or.inr ⟨ds', rfl, hds⟩, hcs⟩
    · cases h
      exact ⟨Or.inl rfl, rfl⟩
  complete {ds rest} h hrest := by
    rcases h with rfl | ⟨ds', rfl, hds⟩
    · rw [List.nil_append, lexFraction]
      rintro cs' rfl
      simpa using hrest '.' rfl
    · exact lexMarked_complete lexes_lexDigits '.' hds (hrest.mono fun c hc => by simp [hc])

theorem lexes_lexExponentDigits : Lexes Char.isDigit lexExponentDigits IsSigned where
  sound h := by
    unfold lexExponentDigits at h
    split at h
    · obtain ⟨ds', rfl, hds, hcs⟩ := lexMarked_sound lexes_lexDigits h
      exact ⟨Or.inr ⟨ds', Or.inl rfl, hds⟩, hcs⟩
    · obtain ⟨ds', rfl, hds, hcs⟩ := lexMarked_sound lexes_lexDigits h
      exact ⟨Or.inr ⟨ds', Or.inr rfl, hds⟩, hcs⟩
    · obtain ⟨hds, hcs⟩ := lexes_lexDigits.sound h
      exact ⟨Or.inl hds, hcs⟩
  complete h hrest := by
    rcases h with hds | ⟨ds', rfl | rfl, hds⟩
    · -- a digit is not a sign
      obtain ⟨d, ds', rfl, hd⟩ := hds.head
      rw [← lexes_lexDigits.complete hds hrest, lexExponentDigits]
      all_goals
        intro cs' heq
        rw [(List.cons.inj heq).1] at hd
        exact absurd hd (by decide)
    · exact lexMarked_complete lexes_lexDigits '+' hds hrest
    · exact lexMarked_complete lexes_lexDigits '-' hds hrest

theorem lexes_lexExponent : Lexes goesOn lexExponent IsExponent where
  sound h := by
    unfold lexExponent at h
    split at h
    · obtain ⟨ds', rfl, hds, hcs⟩ := lexMarked_sound lexes_lexExponentDigits h
      exact ⟨Or.inr ⟨ds', Or.inl rfl, hds⟩, hcs⟩
    · obtain ⟨ds', rfl, hds, hcs⟩ := lexMarked_sound lexes_lexExponentDigits h
      exact ⟨Or.inr ⟨ds', Or.inr rfl, hds⟩, hcs⟩
    · cases h
      exact ⟨Or.inl rfl, rfl⟩
  complete {ds rest} h hrest := by
    rcases h with rfl | ⟨ds', rfl | rfl, hds⟩
    · rw [List.nil_append, lexExponent]
      · rintro cs' rfl
        simpa [goesOn] using hrest 'e' rfl
      · rintro cs' rfl
        simpa [goesOn] using hrest 'E' rfl
    · exact lexMarked_complete lexes_lexExponentDigits 'e' hds hrest.digits
    · exact lexMarked_complete lexes_lexExponentDigits 'E' hds hrest.digits

theorem lexes_andThen {chars' : Char → Bool} {p q : List Char → Option (List Char × List Char)}
    {P Q : List Char → Prop} (hp : Lexes chars p P) (hq : Lexes chars' q Q)
    (hfree : ∀ ds rest, Q ds → Free chars' rest → Free chars (ds ++ rest)) :
    Lexes chars' (andThen p q) (Followed P Q) where
  sound h := by
    obtain ⟨⟨ds₁, cs₁⟩, h₁, h'⟩ := Option.bind_eq_some_iff.mp h
    obtain ⟨⟨ds₂, cs₂⟩, h₂, heq⟩ := Option.map_eq_some_iff.mp h'
    cases heq
    obtain ⟨hds₁, rfl⟩ := hp.sound h₁
    obtain ⟨hds₂, hcs₂⟩ := hq.sound h₂
    refine ⟨⟨ds₁, ds₂, rfl, hds₁, hds₂⟩, ?_⟩
    dsimp only at hcs₂ ⊢
    rw [hcs₂, List.append_assoc]
  complete := by
    rintro _ rest ⟨ds₁, ds₂, rfl, hds₁, hds₂⟩ hrest
    rw [andThen, List.append_assoc, hp.complete hds₁ (hfree ds₂ rest hds₂ hrest), Option.bind_some,
      hq.complete hds₂ hrest, Option.map_some]

theorem IsExponent.free {rest : List Char} (h : IsExponent ds) (hrest : Stops rest)
    (hchars : ∀ c, chars c = true → c.isDigit = true ∨ c = '.') : Free chars (ds ++ rest) := by
  rcases h with rfl | ⟨ds', rfl | rfl, -⟩
  · refine Free.mono hrest fun c hc => ?_
    rcases hchars c hc with hd | rfl
    · simp [goesOn, hd]
    · rfl
  all_goals
    refine free_cons (Bool.eq_false_iff.mpr fun hc => ?_)
    exact absurd (hchars _ hc) (by decide)

theorem lexes_lexUnsigned : Lexes goesOn lexUnsigned IsUnsigned := by
  refine lexes_andThen lexes_lexInteger (lexes_andThen lexes_lexFraction lexes_lexExponent
    fun ds rest hds hrest => hds.free hrest fun c hc => by simpa using hc) ?_
  rintro _ rest ⟨ds₁, ds₂, rfl, rfl | ⟨ds', rfl, -⟩, hds₂⟩ hrest
  · exact hds₂.free hrest fun c hc => Or.inl hc
  · exact free_cons (by decide)

theorem IsUnsigned.head (h : IsUnsigned ds) : ∃ d ds', ds = d :: ds' ∧ d.isDigit = true := by
  obtain ⟨ds₁, ds₂, rfl, rfl | ⟨hds, -⟩, -⟩ := h
  · exact ⟨'0', ds₂, rfl, rfl⟩
  · obtain ⟨d, ds', rfl, hd⟩ := hds.head
    exact ⟨d, ds' ++ ds₂, rfl, hd⟩

/-- **Numbers are read** to their end. -/
theorem lexes_lexNumber : Lexes goesOn lexNumber IsNumber where
  sound h := by
    unfold lexNumber at h
    split at h
    · obtain ⟨ds', rfl, hds, hcs⟩ := lexMarked_sound lexes_lexUnsigned h
      exact ⟨Or.inr ⟨ds', rfl, hds⟩, hcs⟩
    · obtain ⟨hds, hcs⟩ := lexes_lexUnsigned.sound h
      exact ⟨Or.inl hds, hcs⟩
  complete h hrest := by
    rcases h with hds | ⟨ds', rfl, hds⟩
    · obtain ⟨d, ds', rfl, hd⟩ := hds.head
      rw [← lexes_lexUnsigned.complete hds hrest, lexNumber]
      intro cs' heq
      rw [(List.cons.inj heq).1] at hd
      exact absurd hd (by decide)
    · exact lexMarked_complete lexes_lexUnsigned '-' hds hrest

theorem isNumber_iff : IsNumber ds ↔ lexNumber ds = some (ds, []) :=
  ⟨fun h => by simpa using lexes_lexNumber.complete h (free_nil _),
    fun h => (lexes_lexNumber.sound h).1⟩

theorem IsNumber.head (h : IsNumber ds) :
    ∃ c cs, ds = c :: cs ∧ (c = '-' ∨ c.isDigit = true) := by
  rcases h with h | ⟨ds', rfl, -⟩
  · obtain ⟨d, ds', rfl, hd⟩ := h.head
    exact ⟨d, ds', rfl, Or.inr hd⟩
  · exact ⟨'-', ds', rfl, Or.inl rfl⟩

/-- A number literal, and nothing behind it. -/
structure Number where
  literal : List Char
  valid : lexNumber literal = some (literal, [])
deriving DecidableEq

/-- The number at the start, and the rest. -/
def parseNumber (cs : List Char) : Option (Number × List Char) :=
  match h : lexNumber cs with
  | none => none
  | some (ds, rest) =>
    some (⟨ds, isNumber_iff.mp (lexes_lexNumber.sound h).1⟩, rest)

theorem parseNumber_literal (n : Number) (h : Stops rest) :
    parseNumber (n.literal ++ rest) = some (n, rest) := by
  have hlex : lexNumber (n.literal ++ rest) = some (n.literal, rest) :=
    lexes_lexNumber.complete (isNumber_iff.mpr n.valid) h
  unfold parseNumber
  split
  · next hnone => rw [hlex] at hnone; cases hnone
  · next ds rest' hsome =>
    rw [hlex] at hsome
    cases hsome
    rfl

theorem Number.head (n : Number) : ∃ c cs, n.literal = c :: cs ∧ (c = '-' ∨ c.isDigit = true) :=
  (isNumber_iff.mpr n.valid).head

/-! ### Integers -/

/-- The number of digits. -/
def digitsValue (cs : List Char) : ℕ := Nat.ofDigitChars 10 cs 0

theorem isDigit_of_mem_toDigits {n : ℕ} (h : c ∈ Nat.toDigits 10 n) : c.isDigit = true :=
  Nat.isDigit_of_mem_toDigits (by decide) (by decide) h

theorem toDigits_zero_cons {n : ℕ} (h : Nat.toDigits 10 n = '0' :: cs) : cs = [] := by
  induction n using Nat.strongRecOn generalizing cs with
  | ind n ih =>
    by_cases hn : n < 10
    · rw [Nat.toDigits_of_lt_base hn] at h
      exact (List.cons.inj h).2.symm
    · rw [Nat.toDigits_of_base_le (by decide) (not_lt.mp hn)] at h
      obtain ⟨c, cs', hcs⟩ := List.exists_cons_of_ne_nil (@Nat.toDigits_ne_nil (n / 10) 10)
      rw [hcs, List.cons_append] at h
      obtain ⟨rfl, -⟩ := List.cons.inj h
      -- the first digits are those of a number, which would be zero
      obtain rfl := ih (n / 10) (by omega) hcs
      have hvalue := @Nat.ofDigitChars_ten_toDigits (n / 10)
      rw [hcs, show Nat.ofDigitChars 10 ['0'] 0 = 0 from rfl] at hvalue
      omega

theorem lexUnsigned_toDigits (n : ℕ) :
    lexUnsigned (Nat.toDigits 10 n) = some (Nat.toDigits 10 n, []) := by
  have hinteger : IsInteger (Nat.toDigits 10 n) := by
    by_cases hzero : (Nat.toDigits 10 n).head? = some '0'
    · obtain ⟨cs, hcs⟩ := List.head?_eq_some_iff.mp hzero
      exact Or.inl (toDigits_zero_cons hcs ▸ hcs)
    · exact Or.inr ⟨⟨Nat.toDigits_ne_nil, fun d hd => isDigit_of_mem_toDigits hd⟩, hzero⟩
  have hunsigned : IsUnsigned (Nat.toDigits 10 n) :=
    ⟨_, [], (List.append_nil _).symm, hinteger, [], [], rfl, Or.inl rfl, Or.inl rfl⟩
  simpa using lexes_lexUnsigned.complete hunsigned (free_nil _)

/-- **An integer as a number literal.** -/
def Number.ofInt (z : ℤ) : Number where
  literal := if z < 0 then '-' :: Nat.toDigits 10 z.natAbs else Nat.toDigits 10 z.natAbs
  valid := by
    split_ifs
    · rw [lexNumber, lexMarked, lexUnsigned_toDigits, Option.map_some]
    · rw [lexNumber, lexUnsigned_toDigits]
      intro cs heq
      have hminus := isDigit_of_mem_toDigits (heq ▸ List.mem_cons_self)
      exact absurd hminus (by decide)

/-- Without fraction and exponent. -/
def Number.int? (n : Number) : Option ℤ :=
  match n.literal with
  | '-' :: cs => if cs.all Char.isDigit then some (-(digitsValue cs : ℤ)) else none
  | cs => if cs.all Char.isDigit then some (digitsValue cs : ℤ) else none

@[simp] theorem Number.int?_ofInt (z : ℤ) : (Number.ofInt z).int? = some z := by
  have hall : (Nat.toDigits 10 z.natAbs).all Char.isDigit = true :=
    List.all_eq_true.mpr fun c hc => isDigit_of_mem_toDigits hc
  unfold int? ofInt
  dsimp only
  split_ifs with hneg
  · simp only [hall, if_true, digitsValue, Nat.ofDigitChars_ten_toDigits]
    rw [show -(z.natAbs : ℤ) = z by omega]
  · split
    · next cs heq =>
      have hminus := isDigit_of_mem_toDigits (heq ▸ List.mem_cons_self)
      exact absurd hminus (by decide)
    · rw [if_pos hall, digitsValue, Nat.ofDigitChars_ten_toDigits,
        show (z.natAbs : ℤ) = z by omega]

theorem Number.ofInt_injective {z w : ℤ} (h : Number.ofInt z = Number.ofInt w) : z = w := by
  have hint := congrArg Number.int? h
  rw [int?_ofInt, int?_ofInt] at hint
  exact Option.some.inj hint

theorem Number.ofInt_inj {z w : ℤ} : Number.ofInt z = Number.ofInt w ↔ z = w :=
  ⟨ofInt_injective, congrArg _⟩

/-! ### Strings -/

/-- The value of a digit. -/
def hexValue (c : Char) : Option ℕ :=
  let n := c.toNat
  if 48 ≤ n ∧ n ≤ 57 then some (n - 48)
  else if 97 ≤ n ∧ n ≤ 102 then some (n - 87)
  else if 65 ≤ n ∧ n ≤ 70 then some (n - 55)
  else none

/-- The number of four hexadecimal digits. -/
def hex4 : List Char → Option (ℕ × List Char)
  | a :: b :: c :: d :: rest =>
    match hexValue a, hexValue b, hexValue c, hexValue d with
    | some a, some b, some c, some d => some (((a * 16 + b) * 16 + c) * 16 + d, rest)
    | _, _, _, _ => none
  | _ => none

/-- What follows a high surrogate. -/
def lowSurrogate : List Char → Option (ℕ × List Char)
  | '\\' :: 'u' :: cs => (hex4 cs).filter fun r => 0xdc00 ≤ r.1 && r.1 < 0xe000
  | _ => none

/-- The character of an escape behind its `u`. -/
def unicodeChar (cs : List Char) : Option (Char × List Char) :=
  match hex4 cs with
  | none => none
  | some (u, rest) =>
    if 0xd800 ≤ u ∧ u < 0xe000 then
      match (lowSurrogate rest).filter fun _ => u < 0xdc00 with
      | some (v, rest') => some (.ofNat (0x10000 + (u - 0xd800) * 0x400 + (v - 0xdc00)), rest')
      | none => some (Utf8.replacement, rest)
    else some (.ofNat u, rest)

/-- The character of a short escape. -/
def escaped (c : Char) : Option Char :=
  match c with
  | '"' => some '"'
  | '\\' => some '\\'
  | '/' => some '/'
  | 'b' => some (.ofNat 8)
  | 'f' => some (.ofNat 12)
  | 'n' => some '\n'
  | 'r' => some '\r'
  | 't' => some '\t'
  | _ => none

/-- One character of a string, as it is written. -/
def stringChar : List Char → Option (Char × List Char)
  | [] => none
  | c :: cs =>
    if c = '\\' then
      match cs with
      | [] => none
      | e :: cs => if e = 'u' then unicodeChar cs else (escaped e).map fun c => (c, cs)
    else if c = '"' ∨ c.toNat < 0x20 then none
    else some (c, cs)

/-- Behind the quotation mark, at most `fuel` characters. -/
def parseString : ℕ → List Char → Option (List Char × List Char)
  | 0, _ => none
  | fuel + 1, cs =>
    if cs.head? = some '"' then some ([], cs.tail)
    else (stringChar cs).bind fun r => (parseString fuel r.2).map fun s => (r.1 :: s.1, s.2)

/-- A way to write each character in a string. -/
def Escapes (escape : Char → List Char) : Prop :=
  ∀ c rest, stringChar (escape c ++ rest) = some (c, rest)

theorem stringChar_quote (cs : List Char) : stringChar ('"' :: cs) = none := by
  simp [stringChar]

/-- **Escaped strings are read back.** -/
theorem parseString_escape {escape : Char → List Char} (h : Escapes escape) (s rest : List Char)
    {fuel : ℕ} (hfuel : s.length < fuel) :
    parseString fuel (s.flatMap escape ++ '"' :: rest) = some (s, rest) := by
  induction s generalizing fuel with
  | nil =>
    cases fuel with
    | zero => exact absurd hfuel (Nat.not_lt_zero _)
    | succ fuel => simp [parseString]
  | cons c s ih =>
    cases fuel with
    | zero => exact absurd hfuel (Nat.not_lt_zero _)
    | succ fuel =>
      have hchar := h c (s.flatMap escape ++ '"' :: rest)
      rw [List.flatMap_cons, List.append_assoc, parseString, if_neg, hchar, Option.bind_some,
        ih (Nat.lt_of_succ_lt_succ hfuel), Option.map_some]
      intro hquote
      obtain ⟨cs, hcs⟩ := List.head?_eq_some_iff.mp hquote
      rw [hcs, stringChar_quote] at hchar
      cases hchar

/-- A hexadecimal digit. -/
def hexDigit (d : ℕ) : Char := if d < 10 then Char.ofNat (48 + d) else Char.ofNat (87 + d)

theorem hexValue_hexDigit (h : d < 16) : hexValue (hexDigit d) = some d := by
  interval_cases d <;> decide

/-- Of a character below U+D800. -/
def unicodeEscape (c : Char) : List Char :=
  let n := c.toNat
  ['\\', 'u', hexDigit (n / 4096), hexDigit (n / 256 % 16), hexDigit (n / 16 % 16),
    hexDigit (n % 16)]

theorem stringChar_unicodeEscape (h : c.toNat < 0xd800) (rest : List Char) :
    stringChar (unicodeEscape c ++ rest) = some (c, rest) := by
  have h3 := hexValue_hexDigit (show c.toNat / 4096 < 16 by omega)
  have h2 := hexValue_hexDigit (show c.toNat / 256 % 16 < 16 by omega)
  have h1 := hexValue_hexDigit (show c.toNat / 16 % 16 < 16 by omega)
  have h0 := hexValue_hexDigit (show c.toNat % 16 < 16 by omega)
  have hsum : ((c.toNat / 4096 * 16 + c.toNat / 256 % 16) * 16 + c.toNat / 16 % 16) * 16 +
      c.toNat % 16 = c.toNat := by omega
  simp only [unicodeEscape, List.cons_append, List.nil_append, stringChar, if_true, unicodeChar,
    hex4, h3, h2, h1, h0, hsum]
  rw [if_neg (by omega), Char.ofNat_toNat]

theorem stringChar_plain (hquote : c ≠ '"') (hslash : c ≠ '\\') (h : 0x20 ≤ c.toNat)
    (rest : List Char) : stringChar (c :: rest) = some (c, rest) := by
  simp only [stringChar]
  rw [if_neg hslash, if_neg]
  rintro (hc | hc)
  · exact hquote hc
  · omega

end MacProvider.Lib.Json
