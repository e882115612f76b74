import MacProvider.Lib.Json.Scalars

/-! # Two ways to write the characters of a string

`escapeJcs` escapes what has to be escaped (RFC 8785), `escapeHtml` also what must not stand in a
script. -/

namespace MacProvider.Lib.Json

/-- The escapes of two characters. -/
def shortEscape (c : Char) : Option Char :=
  match c with
  | '"' => some '"'
  | '\\' => some '\\'
  | '\t' => some 't'
  | '\n' => some 'n'
  | '\r' => some 'r'
  | _ => if c.toNat = 8 then some 'b' else if c.toNat = 12 then some 'f' else none

/-- A short escape, or the number of a marked one. -/
def escapeWith (marked : Char → Bool) (c : Char) : List Char :=
  match shortEscape c with
  | some e => ['\\', e]
  | none => if marked c then unicodeEscape c else [c]

/-- A control character. -/
def isControl (c : Char) : Bool := c.toNat < 0x20

/-- The escapes of RFC 8785. -/
def escapeJcs : Char → List Char := escapeWith isControl

/-- The escapes for a script. -/
def escapeHtml : Char → List Char :=
  escapeWith fun c => isControl c || c = '<' || c = '>' || c = '&' || c.toNat = 0x2028 ||
    c.toNat = 0x2029

theorem shortEscape_eq_some {c e : Char} (h : shortEscape c = some e) :
    e ≠ 'u' ∧ escaped e = some c := by
  unfold shortEscape at h
  split at h
  all_goals try
    cases h
    exact ⟨by decide, rfl⟩
  split_ifs at h with hb hf
  · cases h
    exact ⟨by decide, by rw [← Char.ofNat_toNat c, hb]; rfl⟩
  · cases h
    exact ⟨by decide, by rw [← Char.ofNat_toNat c, hf]; rfl⟩

theorem shortEscape_eq_none {c : Char} (h : shortEscape c = none) : c ≠ '"' ∧ c ≠ '\\' := by
  constructor
  · rintro rfl
    cases h
  · rintro rfl
    cases h

/-- **It is read back** if control characters are marked. -/
theorem escapes_escapeWith {marked : Char → Bool}
    (hcontrol : ∀ c, isControl c = true → marked c = true)
    (hmarked : ∀ c, marked c = true → c.toNat < 0xd800) : Escapes (escapeWith marked) := by
  intro c rest
  unfold escapeWith
  split
  · next e hshort =>
    obtain ⟨hu, hescaped⟩ := shortEscape_eq_some hshort
    simp [stringChar, hu, hescaped]
  · next hshort =>
    obtain ⟨hquote, hslash⟩ := shortEscape_eq_none hshort
    split_ifs with hmark
    · exact stringChar_unicodeEscape (hmarked c hmark) rest
    · have hplain : ¬ c.toNat < 0x20 := fun hlt =>
        hmark (hcontrol c (by simpa [isControl] using hlt))
      exact stringChar_plain hquote hslash (Nat.not_lt.mp hplain) rest

theorem isControl_lt {c : Char} (h : isControl c = true) : c.toNat < 0xd800 := by
  have hlt : c.toNat < 0x20 := by simpa [isControl] using h
  omega

theorem escapes_escapeJcs : Escapes escapeJcs :=
  escapes_escapeWith (fun _ h => h) fun _ => isControl_lt

theorem escapes_escapeHtml : Escapes escapeHtml := by
  refine escapes_escapeWith (fun c h => by simp [h]) fun c h => ?_
  simp only [Bool.or_eq_true, decide_eq_true_eq] at h
  rcases h with ((((h | rfl) | rfl) | rfl) | h) | h
  · exact isControl_lt h
  · decide
  · decide
  · decide
  · omega
  · omega

end MacProvider.Lib.Json
