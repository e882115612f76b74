import Mathlib.Data.List.TakeWhile

/-! # A decoder that reads JSON token by token

The decoder holds the bytes that are left and its place in arrays and objects. A token that is read
makes the rest shorter (`length_lt_of_ok`); a malformed one is not consumed (`token_malformed`). -/

namespace MacProvider.Lib.JsonDecoder

/-! ### Scalars -/

def quote : UInt8 := 0x22
def comma : UInt8 := 0x2c
def minus : UInt8 := 0x2d
def zero : UInt8 := 0x30
def nine : UInt8 := 0x39
def colon : UInt8 := 0x3a
def openBracket : UInt8 := 0x5b
def backslash : UInt8 := 0x5c
def closeBracket : UInt8 := 0x5d
def openBrace : UInt8 := 0x7b
def closeBrace : UInt8 := 0x7d

/-- White space. -/
def isSpace (c : UInt8) : Bool := c = 0x20 || c = 0x09 || c = 0x0d || c = 0x0a

/-- A digit. -/
def isDigit (c : UInt8) : Bool := zero ≤ c && c ≤ nine

/-- A hexadecimal digit. -/
def isHex (c : UInt8) : Bool :=
  isDigit c || (0x61 ≤ c && c ≤ 0x66) || (0x41 ≤ c && c ≤ 0x46)

/-- The letter of an exponent. -/
def isExponent (c : UInt8) : Bool := c = 0x65 || c = 0x45

/-- Where the automaton stands in a scalar. -/
inductive Lex
  | start
  | inString
  | escape
  | unicode (left : ℕ)
  | neg
  | zero
  | digits
  | dot
  | fraction
  | exponent
  | exponentSign
  | exponentDigits
  | word (left : List UInt8)
  | ended

/-- What the automaton does. -/
inductive LexStep
  | go (s : Lex)
  | stop
  | fail

/-- The first byte of a number, behind the sign. -/
def lexNumber (c : UInt8) : LexStep :=
  if c = zero then .go .zero else if isDigit c then .go .digits else .fail

/-- One byte. -/
def lexStep : Lex → UInt8 → LexStep
  | .start, c =>
    if c = quote then .go .inString
    else if c = minus then .go .neg
    else if c = 0x74 then .go (.word [0x72, 0x75, 0x65])
    else if c = 0x66 then .go (.word [0x61, 0x6c, 0x73, 0x65])
    else if c = 0x6e then .go (.word [0x75, 0x6c, 0x6c])
    else lexNumber c
  | .inString, c =>
    if c = quote then .go .ended
    else if c = backslash then .go .escape
    else if c < 0x20 then .fail
    else .go .inString
  | .escape, c =>
    if c ∈ [0x62, 0x66, 0x6e, 0x72, 0x74, backslash, 0x2f, quote] then .go .inString
    else if c = 0x75 then .go (.unicode 3)
    else .fail
  | .unicode left, c =>
    if isHex c then
      match left with
      | 0 => .go .inString
      | left + 1 => .go (.unicode left)
    else .fail
  | .neg, c => lexNumber c
  | .zero, c => if c = 0x2e then .go .dot else if isExponent c then .go .exponent else .stop
  | .digits, c =>
    if isDigit c then .go .digits
    else if c = 0x2e then .go .dot
    else if isExponent c then .go .exponent
    else .stop
  | .dot, c => if isDigit c then .go .fraction else .fail
  | .fraction, c =>
    if isDigit c then .go .fraction else if isExponent c then .go .exponent else .stop
  | .exponent, c =>
    if c = 0x2b ∨ c = minus then .go .exponentSign
    else if isDigit c then .go .exponentDigits
    else .fail
  | .exponentSign, c => if isDigit c then .go .exponentDigits else .fail
  | .exponentDigits, c => if isDigit c then .go .exponentDigits else .stop
  | .word [], _ => .stop
  | .word [x], c => if c = x then .go .ended else .fail
  | .word (x :: xs), c => if c = x then .go (.word xs) else .fail
  | .ended, _ => .stop

/-- Behind the scalar. The end counts as a space. -/
def lex : Lex → List UInt8 → Option (List UInt8)
  | s, [] =>
    match lexStep s 0x20 with
    | .stop => some []
    | _ => none
  | s, c :: cs =>
    match lexStep s c with
    | .go s' => lex s' cs
    | .stop => some (c :: cs)
    | .fail => none

variable {bs rest : List UInt8}

theorem length_lex_le {s : Lex} (h : lex s bs = some rest) : rest.length ≤ bs.length := by
  induction bs generalizing s with
  | nil =>
    simp only [lex] at h
    split at h
    · exact (congrArg List.length (Option.some.inj h)).ge
    · cases h
  | cons c cs ih =>
    simp only [lex] at h
    split at h
    · exact Nat.le_succ_of_le (ih h)
    · exact (congrArg List.length (Option.some.inj h)).ge
    · cases h

theorem lexStep_start_ne_stop (c : UInt8) : lexStep .start c ≠ .stop := by
  simp only [lexStep, lexNumber]
  split_ifs <;> simp

theorem length_lex_lt (h : lex .start bs = some rest) : rest.length < bs.length := by
  cases bs with
  | nil =>
    simp only [lex] at h
    split at h
    · exact absurd ‹_› (lexStep_start_ne_stop _)
    · cases h
  | cons c cs =>
    simp only [lex] at h
    split at h
    · exact Nat.lt_succ_of_le (length_lex_le h)
    · exact absurd ‹_› (lexStep_start_ne_stop c)
    · cases h

/-! ### Tokens -/

/-- The place in the innermost array or object. -/
inductive TokenState
  | topValue
  | arrayStart
  | arrayValue
  | arrayComma
  | objectStart
  | objectKey
  | objectColon
  | objectValue
  | objectComma
deriving DecidableEq

/-- The bytes that are left, and the place. -/
structure Decoder where
  rest : List UInt8
  state : TokenState
  stack : List TokenState
deriving DecidableEq

/-- A new decoder. -/
def newDecoder (data : List UInt8) : Decoder := ⟨data, .topValue, []⟩

/-- The tokens. -/
inductive Token
  | arrayStart
  | arrayEnd
  | objectStart
  | objectEnd
  | string (s : List UInt8)
  | scalar
deriving DecidableEq

/-- Why there is none. -/
inductive Fault
  | eof
  | malformed
  | outOfRange
deriving DecidableEq

/-- The text of a string, and whether a number fits. -/
structure Literals where
  unquote : List UInt8 → List UInt8
  inRange : List UInt8 → Bool

namespace Decoder

/-- Past the spaces. -/
def peek (d : Decoder) : Decoder := { d with rest := d.rest.dropWhile isSpace }

/-- No closing byte follows. -/
def more (d : Decoder) : Bool :=
  match d.peek.rest with
  | [] => false
  | c :: _ => c ≠ closeBracket && c ≠ closeBrace

/-- The separator that is due, if it is there. -/
def afterSeparator (c : UInt8) : TokenState → Option TokenState
  | .objectColon => if c = colon then some .objectValue else none
  | .arrayComma => if c = comma then some .arrayValue else none
  | .objectComma => if c = comma then some .objectKey else none
  | _ => none

/-- Past spaces and a due separator. -/
def skip (d : Decoder) : Decoder :=
  match d.peek.rest with
  | [] => d.peek
  | c :: cs =>
    match afterSeparator c d.state with
    | none => d.peek
    | some s => peek ⟨cs, s, d.stack⟩

/-- A value may stand here. -/
def valueAllowed : TokenState → Bool
  | .topValue | .arrayStart | .arrayValue | .objectValue => true
  | _ => false

/-- The place behind a value. -/
def valueEnd : TokenState → TokenState
  | .arrayStart | .arrayValue => .arrayComma
  | .objectValue => .objectComma
  | s => s

/-- Into an array or an object. -/
def enter (d : Decoder) (cs : List UInt8) (t : Token) (s : TokenState) :
    Except Fault Token × Decoder :=
  if valueAllowed d.state then (.ok t, ⟨cs, s, d.state :: d.stack⟩) else (.error .malformed, d)

/-- Out of an array or object, if it can end here. -/
def leave (d : Decoder) (cs : List UInt8) (t : Token) (ends : Bool) :
    Except Fault Token × Decoder :=
  match ends, d.stack with
  | true, s :: stack => (.ok t, ⟨cs, valueEnd s, stack⟩)
  | _, _ => (.error .malformed, d)

/-- The key of a member. -/
def key (l : Literals) (d : Decoder) : Except Fault Token × Decoder :=
  match lex .start d.rest with
  | none => (.error .malformed, d)
  | some rest =>
    (.ok (.string (l.unquote (d.rest.take (d.rest.length - rest.length)))),
      { d with rest := rest, state := .objectColon })

/-- A scalar. -/
def scalar (l : Literals) (d : Decoder) (c : UInt8) : Except Fault Token × Decoder :=
  if valueAllowed d.state then
    match lex .start d.rest with
    | none => (.error .malformed, d)
    | some rest =>
      let literal := d.rest.take (d.rest.length - rest.length)
      let d' := { d with rest := rest, state := valueEnd d.state }
      if c = quote then (.ok (.string (l.unquote literal)), d')
      else if (c = minus ∨ isDigit c) ∧ ¬ l.inRange literal then (.error .outOfRange, d')
      else (.ok .scalar, d')
  else (.error .malformed, d)

/-- The token at this place. -/
def tokenAt (l : Literals) (d : Decoder) : Except Fault Token × Decoder :=
  match d.rest with
  | [] => (.error .eof, d)
  | c :: cs =>
    if c = openBracket then d.enter cs .arrayStart .arrayStart
    else if c = closeBracket then
      d.leave cs .arrayEnd (d.state = .arrayStart || d.state = .arrayComma)
    else if c = openBrace then d.enter cs .objectStart .objectStart
    else if c = closeBrace then
      d.leave cs .objectEnd (d.state = .objectStart || d.state = .objectComma)
    else if c = colon ∨ c = comma then (.error .malformed, d)
    else if c = quote ∧ (d.state = .objectStart ∨ d.state = .objectKey) then d.key l
    else d.scalar l c

/-- The next token. -/
def token (l : Literals) (d : Decoder) : Except Fault Token × Decoder := d.skip.tokenAt l

/-! ### Spaces and separators -/

theorem peek_peek (d : Decoder) : d.peek.peek = d.peek := by
  have hrest : (d.rest.dropWhile isSpace).dropWhile isSpace = d.rest.dropWhile isSpace :=
    List.dropWhile_eq_self_iff.mpr (List.dropWhile_get_zero_not isSpace d.rest)
  simp only [peek, hrest]

theorem length_peek_le (d : Decoder) : d.peek.rest.length ≤ d.rest.length :=
  List.length_dropWhile_le isSpace d.rest

theorem length_skip_le (d : Decoder) : d.skip.rest.length ≤ d.rest.length := by
  have hpeek := length_peek_le d
  unfold skip
  split
  · exact hpeek
  · rename_i c cs hrest
    split
    · exact hpeek
    · rename_i s hs
      have hcs : (peek ⟨cs, s, d.stack⟩).rest.length ≤ cs.length := length_peek_le _
      rw [hrest, List.length_cons] at hpeek
      omega

theorem afterSeparator_afterSeparator {c c' : UInt8} {s s' : TokenState}
    (h : afterSeparator c s = some s') : afterSeparator c' s' = none := by
  cases s <;> simp only [afterSeparator] at h <;> (try split_ifs at h) <;> cases h <;> rfl

variable {d d' : Decoder} {l : Literals}

theorem skip_of_none (h : ∀ c, afterSeparator c d.state = none) : d.skip = d.peek := by
  unfold skip
  split
  · rfl
  · rw [h]

theorem skip_peek (d : Decoder) : d.peek.skip = d.skip := by
  simp only [skip, peek_peek]
  rfl

theorem skip_skip (d : Decoder) : d.skip.skip = d.skip := by
  cases hrest : d.peek.rest with
  | nil =>
    have hskip : d.skip = d.peek := by simp only [skip, hrest]
    rw [hskip, skip_peek, hskip]
  | cons c cs =>
    cases hsep : afterSeparator c d.state with
    | none =>
      have hskip : d.skip = d.peek := by simp only [skip, hrest, hsep]
      rw [hskip, skip_peek, hskip]
    | some s =>
      have hskip : d.skip = peek ⟨cs, s, d.stack⟩ := by simp only [skip, hrest, hsep]
      rw [hskip, skip_peek, skip_of_none fun _ => afterSeparator_afterSeparator hsep]

/-! ### Progress -/

theorem enter_cases (d : Decoder) (cs : List UInt8) (t : Token) (s : TokenState) :
    d.enter cs t s = (.error .malformed, d) ∨
      ∃ s' stack, d.enter cs t s = (.ok t, ⟨cs, s', stack⟩) := by
  unfold enter
  split_ifs
  · exact Or.inr ⟨_, _, rfl⟩
  · exact Or.inl rfl

theorem leave_cases (d : Decoder) (cs : List UInt8) (t : Token) (ends : Bool) :
    d.leave cs t ends = (.error .malformed, d) ∨
      ∃ s stack, d.leave cs t ends = (.ok t, ⟨cs, s, stack⟩) := by
  unfold leave
  split
  · exact Or.inr ⟨_, _, rfl⟩
  · exact Or.inl rfl

/-- It fails where it stands, or consumes a byte or more. -/
inductive Reads (d : Decoder) : Except Fault Token × Decoder → Prop
  | eof (h : d.rest = []) : Reads d (.error .eof, d)
  | malformed : Reads d (.error .malformed, d)
  | outOfRange {d' : Decoder} (h : d'.rest.length < d.rest.length) :
    Reads d (.error .outOfRange, d')
  | ok {t : Token} {d' : Decoder} (h : d'.rest.length < d.rest.length) : Reads d (.ok t, d')

theorem reads_key (l : Literals) (d : Decoder) : Reads d (d.key l) := by
  unfold key
  split
  · exact .malformed
  · exact .ok (length_lex_lt ‹_›)

theorem reads_scalar (l : Literals) (d : Decoder) (c : UInt8) : Reads d (d.scalar l c) := by
  unfold scalar
  split
  · split
    · exact .malformed
    · rename_i rest hlex
      dsimp only
      split_ifs
      · exact .ok (length_lex_lt hlex)
      · exact .outOfRange (length_lex_lt hlex)
      · exact .ok (length_lex_lt hlex)
  · exact .malformed

theorem reads_tokenAt (l : Literals) (d : Decoder) : Reads d (d.tokenAt l) := by
  have hstep : ∀ {c cs}, d.rest = c :: cs → cs.length < d.rest.length := by
    intro c cs h
    rw [h]
    exact Nat.lt_succ_self _
  unfold tokenAt
  split
  · exact .eof ‹_›
  · rename_i c cs hrest
    have henter : ∀ t s, Reads d (d.enter cs t s) := by
      intro t s
      rcases enter_cases d cs t s with h | ⟨_, _, h⟩ <;> rw [h]
      · exact .malformed
      · exact .ok (hstep hrest)
    have hleave : ∀ t ends, Reads d (d.leave cs t ends) := by
      intro t ends
      rcases leave_cases d cs t ends with h | ⟨_, _, h⟩ <;> rw [h]
      · exact .malformed
      · exact .ok (hstep hrest)
    split_ifs
    · exact henter _ _
    · exact hleave _ _
    · exact henter _ _
    · exact hleave _ _
    · exact .malformed
    · exact reads_key l d
    · exact reads_scalar l d c

theorem reads_token {r : Except Fault Token × Decoder} (h : d.token l = r) : Reads d.skip r :=
  h ▸ reads_tokenAt l d.skip

/-- **Progress.** -/
theorem length_lt_of_ok {t : Token}
    (h : d.token l = (.ok t, d')) : d'.rest.length < d.rest.length := by
  cases reads_token h with
  | ok hlt => exact Nat.lt_of_lt_of_le hlt (length_skip_le d)

theorem length_lt_of_outOfRange
    (h : d.token l = (.error .outOfRange, d')) : d'.rest.length < d.rest.length := by
  cases reads_token h with
  | outOfRange hlt => exact Nat.lt_of_lt_of_le hlt (length_skip_le d)

theorem length_token_le (l : Literals) (d : Decoder) :
    (d.token l).2.rest.length ≤ d.rest.length := by
  have hskip := length_skip_le d
  generalize h : d.token l = r
  cases reads_token h with
  | eof _ => exact hskip
  | malformed => exact hskip
  | outOfRange hlt => exact (Nat.le_of_lt hlt).trans hskip
  | ok hlt => exact (Nat.le_of_lt hlt).trans hskip

theorem more_of_eof (h : d.token l = (.error .eof, d')) : d'.more = false := by
  cases reads_token h with
  | eof hrest => simp [more, peek, hrest]

/-- **A malformed token is not consumed.** -/
theorem token_malformed
    (h : d.token l = (.error .malformed, d')) : d'.token l = (.error .malformed, d') := by
  have hd' : d' = d.skip := by
    cases reads_token h
    rfl
  rw [hd', token, skip_skip, ← token, h, hd']

end Decoder

end MacProvider.Lib.JsonDecoder
