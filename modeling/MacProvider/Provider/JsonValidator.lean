import MacProvider.Lib.Json.Text
import Mathlib.Data.List.Infix

/-! # The arguments of a tool call

`JSONValidator` checks the arguments of a tool call: it bounds the nesting and lets no object repeat
a key. A text is a list of code points; `JSONSerialization` (`decode`) and the normal form of
Swift's strings (`nfc`) are parameters. -/

namespace MacProvider.Provider.JsonValidator

open Lib.Json

/-! ### The parser -/

/-- A result, and the text behind it. -/
abbrev Parser (α : Type) : Type := List Char → Option (α × List Char)

/-- `SPEC018_ARGUMENTS_MAX_JSON_DEPTH`. -/
def maxDepth : ℕ := 32

/-- The text behind a word. -/
def consume (word cs : List Char) : Option (List Char) := word.isPrefixOf? cs

/-- The loop of `parseString`. -/
def scan : Bool → List Char → Option (List Char × List Char)
  | _, [] => none
  | escaped, c :: cs =>
    if !escaped && c = '"' then some ([], cs)
    else (scan (!escaped && c = '\\') cs).map fun r => (c :: r.1, r.2)

/-- The loops of `parseObject` and `parseArray`; more rounds than `fuel` would give `out`. -/
def parseLoop {α : Type} (out : Option (List Char)) (close : Char)
    (element : List α → Parser α) : ℕ → List α → List Char → Option (List Char)
  | 0, _, _ => out
  | fuel + 1, seen, cs =>
    (element seen cs).bind fun r =>
      (consume [close] (skipSpace r.2)).or
        ((consume [','] (skipSpace r.2)).bind (parseLoop out close element fuel (r.1 :: seen)))

/-- An object or an array behind its first bracket. -/
def parseBracketed {α : Type} (out : Option (List Char)) (close : Char)
    (element : List α → Parser α) (cs : List Char) : Option (List Char) :=
  (consume [close] (skipSpace cs)).or (parseLoop out close element (cs.length + 1) [] cs)

section Parser
variable (decode : List Char → Option String) (nfc : String → String)

/-- A string. -/
def parseString : Parser String := fun cs =>
  (consume ['"'] cs).bind fun cs => (scan false cs).bind fun r =>
    (decode r.1).map fun key => (key, r.2)

/-- A member, with a key that is not among these. -/
def parseMember (value : Parser Unit) (keys : List String) : Parser String := fun cs =>
  (parseString decode (skipSpace cs)).bind fun r =>
    if nfc r.1 ∈ keys then none
    else (consume [':'] (skipSpace r.2)).bind fun cs => (value cs).map fun s => (nfc r.1, s.2)

/-- The body of `parseValue`, over the level below, if any. -/
def parseLevel (out : Option (List Char)) (value : Option (Parser Unit)) : Parser Unit := fun cs =>
  Option.map (fun rest => ((), rest)) <|
    match skipSpace cs with
    | [] => none
    | c :: cs =>
      if c = '{' then
        value.bind fun value => parseBracketed out '}' (parseMember decode nfc value) cs
      else if c = '[' then
        value.bind fun value => parseBracketed out ']' (fun _ => value) cs
      else if c = '"' then (parseString decode (c :: cs)).map Prod.snd
      else if c = 't' then consume "true".toList (c :: cs)
      else if c = 'f' then consume "false".toList (c :: cs)
      else if c = 'n' then consume "null".toList (c :: cs)
      else (lexNumber (c :: cs)).map Prod.snd

/-- `parseValue`, with the levels that are left. -/
def parseValue (out : Option (List Char)) : ℕ → Parser Unit
  | 0 => parseLevel decode nfc out none
  | room + 1 => parseLevel decode nfc out (some (parseValue out room))

/-- **`validate`** throws no error. -/
def validate (out : Option (List Char)) (cs : List Char) : Bool :=
  (parseValue decode nfc out maxDepth cs).map (fun r => skipSpace r.2) = some []

end Parser

/-! ### The grammar -/

/-- What may stand before the rest of a text. -/
abbrev Grammar : Type := List Char → List Char → Prop

/-- Characters inside quotation marks. -/
def isBody : List Char → Bool
  | [] => true
  | '\\' :: 'u' :: a :: b :: c :: d :: cs =>
    [a, b, c, d].all (fun x => (hexValue x).isSome) && isBody cs
  | '\\' :: c :: cs => (escaped c).isSome && isBody cs
  | c :: cs => c ≠ '"' && c ≠ '\\' && 0x20 ≤ c.toNat && isBody cs

/-- Elements with commas, behind others with these keys. -/
inductive Series {α : Type} (E : List α → α → Grammar) (close : Char) : List α → Grammar
  | last {seen : List α} {a : α} {cs cs₁ rest : List Char} : E seen a cs cs₁ →
    skipSpace cs₁ = close :: rest → Series E close seen cs rest
  | cons {seen : List α} {a : α} {cs cs₁ cs₂ rest : List Char} : E seen a cs cs₁ →
    skipSpace cs₁ = ',' :: cs₂ → Series E close (a :: seen) cs₂ rest → Series E close seen cs rest

/-- None or more elements behind the first bracket. -/
def Bracketed {α : Type} (E : List α → α → Grammar) (close : Char) : Grammar := fun cs rest =>
  skipSpace cs = close :: rest ∨ Series E close [] cs rest

section Grammar
variable (decode : List Char → Option String) (nfc : String → String)

/-- A string in quotation marks. -/
def Quoted (key : String) : Grammar := fun cs rest =>
  ∃ raw, cs = '"' :: (raw ++ '"' :: rest) ∧ isBody raw = true ∧ decode raw = some key

/-- With a key of a new normal form. -/
def Member (V : Grammar) (keys : List String) (label : String) : Grammar := fun cs rest =>
  ∃ key cs₁ cs₂, Quoted decode key (skipSpace cs) cs₁ ∧ skipSpace cs₁ = ':' :: cs₂ ∧ V cs₂ rest ∧
    nfc key = label ∧ label ∉ keys

/-- A word, a string or a number. -/
def Scalar : Grammar := fun cs rest =>
  (∃ word ∈ ["true", "false", "null"], cs = word.toList ++ rest) ∨
    (∃ key, Quoted decode key cs rest) ∨ ∃ v, IsNumber v ∧ cs = v ++ rest

/-- A value whose arrays and objects hold these. -/
def Level (V : Option Grammar) : Grammar := fun cs rest =>
  Scalar decode (skipSpace cs) rest ∨ ∃ W ∈ V, ∃ body,
    skipSpace cs = '[' :: body ∧ Bracketed (fun _ (_ : Unit) => W) ']' body rest ∨
      skipSpace cs = '{' :: body ∧ Bracketed (Member decode nfc W) '}' body rest

/-- **The values of JSON** nested at most this deep. -/
def Json : ℕ → Grammar
  | 0 => Level decode nfc none
  | room + 1 => Level decode nfc (some (Json room))

end Grammar

variable {decode : List Char → Option String} {nfc : String → String} {out : Option (List Char)}
  {cs rest raw : List Char} {key : String} {c close : Char}

theorem consume_eq_some {word : List Char} : consume word cs = some rest ↔ cs = word ++ rest :=
  List.isPrefixOf?_eq_some_iff_append_eq.trans eq_comm

theorem stops_of_skipSpace (h : Stops (skipSpace cs)) : Stops cs := by
  cases cs with
  | nil => exact h
  | cons d cs =>
    by_cases hd : isSpace d = true
    · simp only [isSpace, Bool.or_eq_true, decide_eq_true_eq] at hd
      refine free_cons ?_
      rcases hd with ((rfl | rfl) | rfl) | rfl <;> rfl
    · rwa [skipSpace_cons (by simpa using hd)] at h

theorem eq_of_scan {escaped : Bool} (h : scan escaped cs = some (raw, rest)) :
    cs = raw ++ '"' :: rest := by
  induction cs generalizing escaped raw with
  | nil => simp [scan] at h
  | cons c cs ih =>
    rw [scan] at h
    split_ifs at h with hquote
    · cases h
      simp only [Bool.and_eq_true, decide_eq_true_eq] at hquote
      rw [hquote.2, List.nil_append]
    · obtain ⟨⟨raw', rest'⟩, h', heq⟩ := Option.map_eq_some_iff.mp h
      cases heq
      rw [ih h', List.cons_append]

theorem scan_body (h : isBody raw = true) (rest : List Char) :
    scan false (raw ++ '"' :: rest) = some (raw, rest) := by
  have hhex : ∀ {x : Char}, (hexValue x).isSome = true → x ≠ '"' ∧ x ≠ '\\' := by
    intro x hx
    constructor <;> rintro rfl <;> exact absurd hx (by decide)
  fun_induction isBody raw with
  | case1 => simp [scan]
  | case2 a b c d cs ih =>
    simp only [List.all_cons, List.all_nil, Bool.and_eq_true] at h
    obtain ⟨⟨ha, hb, hc, hd, -⟩, h⟩ := h
    simp [scan, hhex ha, hhex hb, hhex hc, hhex hd, ih h]
  | case3 c cs _ ih =>
    rw [Bool.and_eq_true] at h
    simp [scan, ih h.2]
  | case4 c cs _ _ ih =>
    simp only [Bool.and_eq_true, decide_eq_true_eq] at h
    simp [scan, h.1.1.1, h.1.1.2, ih h.2]

/-! ### Elements and loops -/

/-- It finds them, before what does not go on with a number. -/
structure Parses {α : Type} (element : List α → Parser α) (E : List α → α → Grammar) : Prop where
  eq_some (seen : List α) {cs rest : List Char} {a : α} : Stops rest →
    (element seen cs = some (a, rest) ↔ E seen a cs rest)
  suffix (seen : List α) {cs rest : List Char} (a : α) : E seen a cs rest → rest <:+ cs
  reject (seen : List α) {cs rest : List Char} {close : Char} : close = '}' ∨ close = ']' →
    skipSpace cs = close :: rest → element seen cs = none

/-- The same of a value. -/
abbrev ParsesValue (value : Parser Unit) (V : Grammar) : Prop :=
  Parses (fun _ => value) fun _ _ => V

theorem suffix_of_skipSpace (h : skipSpace cs = c :: rest) : rest <:+ cs :=
  (List.suffix_cons c rest).trans (h ▸ List.dropWhile_suffix _)

section Loop
variable {α : Type} {element : List α → Parser α} {E : List α → α → Grammar} {seen : List α}
  {fuel : ℕ}

theorem parseLoop_eq_some (out : Option (List Char)) (h : Parses element E)
    (hclose : close = '}' ∨ close = ']') (hfuel : cs.length < fuel) :
    parseLoop out close element fuel seen cs = some rest ↔ Series E close seen cs rest := by
  have hstops : ∀ {cs rest}, skipSpace cs = close :: rest → Stops cs := by
    intro cs rest hcs
    refine stops_of_skipSpace (hcs ▸ free_cons ?_)
    rcases hclose with rfl | rfl <;> rfl
  have hne : close ≠ ',' := by rcases hclose with rfl | rfl <;> decide
  induction fuel generalizing seen cs with
  | zero => omega
  | succ fuel ih =>
    -- A comma is read in each round, so the rounds do not run out.
    have hlength : ∀ {a cs₁ cs₂}, E seen a cs cs₁ → skipSpace cs₁ = ',' :: cs₂ →
        cs₂.length < fuel := by
      intro a cs₁ cs₂ ha hcomma
      have hlt : (skipSpace cs₁).length ≤ cs.length :=
        ((List.dropWhile_suffix _).trans (h.suffix seen a ha)).length_le
      rw [hcomma, List.length_cons] at hlt
      omega
    constructor
    · intro hloop
      obtain ⟨⟨a, cs₁⟩, ha, hnext⟩ := Option.bind_eq_some_iff.mp hloop
      rcases Option.or_eq_some_iff.mp hnext with hend | ⟨-, hcomma⟩
      · have hend := consume_eq_some.mp hend
        exact .last ((h.eq_some seen (hstops hend)).mp ha) hend
      · obtain ⟨cs₂, hcomma, hrest⟩ := Option.bind_eq_some_iff.mp hcomma
        have hcomma := consume_eq_some.mp hcomma
        have ha := (h.eq_some seen (stops_of_skipSpace (hcomma ▸ free_cons rfl))).mp ha
        exact .cons ha hcomma ((ih (hlength ha hcomma)).mp hrest)
    · intro hseries
      cases hseries with
      | last ha hend =>
        rw [parseLoop, (h.eq_some seen (hstops hend)).mpr ha]
        simp [hend, consume, List.isPrefixOf?]
      | cons ha hcomma hrest =>
        rw [parseLoop, (h.eq_some seen (stops_of_skipSpace (hcomma ▸ free_cons rfl))).mpr ha]
        simp [hcomma, consume, List.isPrefixOf?, hne, (ih (hlength ha hcomma)).mpr hrest]

theorem parseBracketed_eq_some (out : Option (List Char)) (h : Parses element E)
    (hclose : close = '}' ∨ close = ']') :
    parseBracketed out close element cs = some rest ↔ Bracketed E close cs rest := by
  have hloop : parseLoop out close element (cs.length + 1) [] cs = some rest ↔ _ :=
    parseLoop_eq_some out h hclose (Nat.lt_succ_self _)
  rw [parseBracketed, Option.or_eq_some_iff, consume_eq_some, Bracketed, hloop]
  refine or_congr Iff.rfl (and_iff_right_of_imp fun hseries => ?_)
  -- No element starts with the bracket that closes.
  refine Option.eq_none_iff_forall_ne_some.mpr fun rest' hend => ?_
  rw [← hloop, parseLoop, h.reject [] hclose (consume_eq_some.mp hend)] at hseries
  cases hseries

theorem Series.suffix (h : Parses element E) (hcs : Series E close seen cs rest) : rest <:+ cs := by
  induction hcs with
  | last ha hend => exact (suffix_of_skipSpace hend).trans (h.suffix _ _ ha)
  | cons ha hcomma _ ih => exact (ih.trans (suffix_of_skipSpace hcomma)).trans (h.suffix _ _ ha)

theorem Bracketed.suffix (h : Parses element E) (hcs : Bracketed E close cs rest) : rest <:+ cs :=
  hcs.elim suffix_of_skipSpace fun hseries => hseries.suffix h

end Loop

/-! ### Values -/

theorem Quoted.suffix (h : Quoted decode key cs rest) : rest <:+ cs := by
  obtain ⟨raw, rfl, -⟩ := h
  exact ⟨'"' :: (raw ++ ['"']), by simp⟩

section Decoded
variable (hdecode : ∀ raw, (decode raw).isSome = isBody raw)
include hdecode

theorem parseString_eq_some :
    parseString decode cs = some (key, rest) ↔ Quoted decode key cs rest := by
  constructor
  · intro h
    obtain ⟨cs', hquote, h⟩ := Option.bind_eq_some_iff.mp h
    obtain ⟨⟨raw, rest'⟩, hscan, h⟩ := Option.bind_eq_some_iff.mp h
    obtain ⟨key', hkey, heq⟩ := Option.map_eq_some_iff.mp h
    cases heq
    refine ⟨raw, ?_, ?_, hkey⟩
    · rw [consume_eq_some.mp hquote, eq_of_scan hscan, List.singleton_append]
    · rw [← hdecode]
      exact Option.isSome_of_eq_some hkey
  · rintro ⟨raw, rfl, hbody, hkey⟩
    simp [parseString, consume, List.isPrefixOf?, scan_body hbody rest, hkey]

theorem parses_parseMember {value : Parser Unit} {V : Grammar} (h : ParsesValue value V) :
    Parses (parseMember decode nfc value) (Member decode nfc V) where
  eq_some keys {cs rest label} hrest := by
    constructor
    · intro hmember
      obtain ⟨⟨key, cs₁⟩, hkey, hmember⟩ := Option.bind_eq_some_iff.mp hmember
      split_ifs at hmember with hfresh
      obtain ⟨cs₂, hcolon, hmember⟩ := Option.bind_eq_some_iff.mp hmember
      obtain ⟨⟨_, rest'⟩, hvalue, heq⟩ := Option.map_eq_some_iff.mp hmember
      cases heq
      exact ⟨key, cs₁, cs₂, (parseString_eq_some hdecode).mp hkey, consume_eq_some.mp hcolon,
        (h.eq_some [] hrest).mp hvalue, rfl, hfresh⟩
    · rintro ⟨key, cs₁, cs₂, hquoted, hcolon, hvalue, rfl, hfresh⟩
      have hvalue := (h.eq_some [] (a := ()) hrest).mpr hvalue
      rw [parseMember, (parseString_eq_some hdecode).mpr hquoted]
      simp [hfresh, hcolon, consume, List.isPrefixOf?, hvalue]
  suffix keys {cs rest} label := by
    rintro ⟨key, cs₁, cs₂, hquoted, hcolon, hvalue, -⟩
    have hcs₁ := (h.suffix [] () hvalue).trans (suffix_of_skipSpace hcolon)
    exact (hcs₁.trans hquoted.suffix).trans (List.dropWhile_suffix _)
  reject _ _ _ _ hclose hcs := by
    rw [parseMember, hcs]
    rcases hclose with rfl | rfl <;> rfl

theorem parses_parseLevel {value : Option (Parser Unit)} {V : Option Grammar}
    (h : Option.Rel ParsesValue value V) :
    ParsesValue (parseLevel decode nfc out value) (Level decode nfc V) where
  eq_some _ {cs rest _} hrest := by
    rw [parseLevel, Level]
    generalize skipSpace cs = v
    constructor
    · intro hvalue
      obtain ⟨rest', hvalue, heq⟩ := Option.map_eq_some_iff.mp hvalue
      cases heq
      rcases v with _ | ⟨c, cs'⟩
      · cases hvalue
      dsimp only at hvalue
      split_ifs at hvalue with hobject harray hquote htrue hfalse hnull
      · cases h with
        | none => cases hvalue
        | @some p W h =>
          have hkeys :=
            (parseBracketed_eq_some out (parses_parseMember hdecode h) (Or.inl rfl)).mp hvalue
          exact Or.inr ⟨W, rfl, cs', Or.inr ⟨by rw [hobject], hkeys⟩⟩
      · cases h with
        | none => cases hvalue
        | @some p W h =>
          have hitems := (parseBracketed_eq_some out h (Or.inr rfl)).mp hvalue
          exact Or.inr ⟨W, rfl, cs', Or.inl ⟨by rw [harray], hitems⟩⟩
      · obtain ⟨⟨key, rest'⟩, hkey, rfl⟩ := Option.map_eq_some_iff.mp hvalue
        exact Or.inl (Or.inr (Or.inl ⟨key, (parseString_eq_some hdecode).mp hkey⟩))
      · exact Or.inl (Or.inl ⟨"true", by simp, consume_eq_some.mp hvalue⟩)
      · exact Or.inl (Or.inl ⟨"false", by simp, consume_eq_some.mp hvalue⟩)
      · exact Or.inl (Or.inl ⟨"null", by simp, consume_eq_some.mp hvalue⟩)
      · obtain ⟨⟨ds, rest'⟩, hlex, rfl⟩ := Option.map_eq_some_iff.mp hvalue
        exact Or.inl (Or.inr (Or.inr ⟨ds, lexes_lexNumber.sound hlex⟩))
    · rintro ((⟨word, hword, rfl⟩ | ⟨key, hquoted⟩ | ⟨v, hv, rfl⟩) | ⟨W, hW, body, hnested⟩)
      · simp only [List.mem_cons, List.not_mem_nil, or_false] at hword
        rcases hword with rfl | rfl | rfl <;> simp [consume, List.isPrefixOf?]
      · have hkey := (parseString_eq_some hdecode).mpr hquoted
        obtain ⟨raw, rfl, -⟩ := hquoted
        simp [hkey]
      · have hnumber := lexes_lexNumber.complete hv hrest
        obtain ⟨c, v, rfl, hc⟩ := hv.head
        have hmark : ∀ d ∈ ['{', '[', '"', 't', 'f', 'n'], ¬(d = '-' ∨ d.isDigit) := by simp
        have hne : ∀ d ∈ ['{', '[', '"', 't', 'f', 'n'], c ≠ d := fun d hd heq =>
          hmark d hd (heq ▸ hc)
        rw [List.cons_append] at hnumber ⊢
        simp [hnumber, hne]
      · cases h with
        | none => cases hW
        | @some p W h =>
          cases hW
          rcases hnested with ⟨rfl, hitems⟩ | ⟨rfl, hkeys⟩
          · simp [(parseBracketed_eq_some out h (Or.inr rfl)).mpr hitems]
          · have hobject :=
              (parseBracketed_eq_some out (parses_parseMember hdecode h) (Or.inl rfl)).mpr hkeys
            simp [hobject]
  suffix := by
    rintro _ cs rest _ (hscalar | ⟨W, hW, body, hnested⟩)
    · refine List.IsSuffix.trans ?_ (List.dropWhile_suffix isSpace)
      rcases hscalar with ⟨word, -, hv⟩ | ⟨key, hquoted⟩ | ⟨v, -, hv⟩
      · exact ⟨_, hv.symm⟩
      · exact hquoted.suffix
      · exact ⟨_, hv.symm⟩
    · cases h with
      | none => cases hW
      | some h =>
        cases hW
        rcases hnested with ⟨hv, hitems⟩ | ⟨hv, hkeys⟩
        · exact (hitems.suffix h).trans (suffix_of_skipSpace hv)
        · exact (hkeys.suffix (parses_parseMember hdecode h)).trans (suffix_of_skipSpace hv)
  reject _ _ _ _ hclose hcs := by
    rw [parseLevel, hcs]
    rcases hclose with rfl | rfl <;> rfl

theorem parses_parseValue (room : ℕ) :
    ParsesValue (parseValue decode nfc out room) (Json decode nfc room) := by
  induction room with
  | zero => exact parses_parseLevel hdecode .none
  | succ room ih => exact parses_parseLevel hdecode (.some ih)

end Decoded

/-- **The validator accepts** one value between white space, nested at most 32 deep, without two
keys of one normal form in an object. No loop runs out. -/
theorem validate_iff (decode : List Char → Option String) (nfc : String → String)
    (hdecode : ∀ raw, (decode raw).isSome = isBody raw) (out : Option (List Char))
    (cs : List Char) : validate decode nfc out cs = true ↔
      ∃ rest, Json decode nfc maxDepth cs rest ∧ skipSpace rest = [] := by
  have h : ParsesValue (parseValue decode nfc out maxDepth) (Json decode nfc maxDepth) :=
    parses_parseValue hdecode maxDepth
  have hstops : ∀ {rest}, skipSpace rest = [] → Stops rest := fun hrest =>
    stops_of_skipSpace (hrest ▸ free_nil _)
  rw [validate, decide_eq_true_iff, Option.map_eq_some_iff]
  constructor
  · rintro ⟨⟨_, rest⟩, hvalue, hrest⟩
    exact ⟨rest, (h.eq_some [] (hstops hrest)).mp hvalue, hrest⟩
  · rintro ⟨rest, hjson, hrest⟩
    exact ⟨_, (h.eq_some [] (a := ()) (hstops hrest)).mpr hjson, hrest⟩

def demoDecode (raw : List Char) : Option String :=
  if isBody raw then some (String.ofList raw) else none

theorem isSome_demoDecode (raw : List Char) : (demoDecode raw).isSome = isBody raw := by
  unfold demoDecode
  cases isBody raw <;> rfl

def demoNfc (s : String) : String := if s = "e\u0301" then "\u00e9" else s

def demoArguments : List Char :=
  "\x7b\"a\": [-1.5e+3, \"x\\n\", \x7b\x7d], \"b\" : \x7b\"a\":null\x7d\x7d ".toList

theorem validate_nested : validate demoDecode demoNfc none demoArguments = true ∧
    ∃ rest, Json demoDecode demoNfc maxDepth demoArguments rest ∧ skipSpace rest = [] :=
  have h : validate demoDecode demoNfc none demoArguments = true := by decide +kernel
  ⟨h, (validate_iff demoDecode demoNfc isSome_demoDecode none _).mp h⟩

/-- As Swift compares them. -/
theorem equivalent_keys_refused :
    validate demoDecode demoNfc none "\x7b\"\u00e9\":0,\"e\u0301\":0\x7d".toList = false ∧
      Json demoDecode id maxDepth "\x7b\"\u00e9\":0,\"e\u0301\":0\x7d".toList [] := by
  have h : ParsesValue (parseValue demoDecode id none maxDepth) (Json demoDecode id maxDepth) :=
    parses_parseValue isSome_demoDecode maxDepth
  exact ⟨by decide +kernel, (h.eq_some [] (a := ()) (free_nil _)).mp (by decide +kernel)⟩

end MacProvider.Provider.JsonValidator
