import MacProvider.Gateway.Basic
import MacProvider.Lib.Lines
import Mathlib.Tactic.DeriveEncodable
import Mathlib.Logic.Encodable.Pi
import Mathlib.Data.UInt

/-! # Records of the settlement journal

A segment is a file of JSON lines; `encoding/json` is the parameter `Codec`. `records` is what
`Scan` reads: terminated lines that are not blank, parse, and have the version. -/

namespace MacProvider.Gateway.Settlement.Format

open Lib.Lines

/-- The kinds of records. -/
inductive Kind
  | effect | seal | quarantine
  /-- A kind that no version writes. -/
  | other (kind : String)
deriving DecidableEq

/-- `SealSettled` and `SealUsageEvent`. -/
inductive SealResult
  | settled | usageEvent
deriving DecidableEq

/-- `journal.Key`: one money effect. -/
structure Key where
  accountID : String
  requestID : String
  effect : String
deriving DecidableEq

/-- A record. -/
structure Record where
  version : ℤ := 0
  kind : Kind
  accountID : String
  requestID : String
  effect : String
  writtenAtUnixMS : ℤ := 0
  windowDate : String := ""
  promptTokens : ℤ := 0
  completionTokens : ℤ := 0
  totalTokens : ℤ := 0
  maxTotalTokens : ℤ := 0
  tokenSource : String := ""
  outcome : String := ""
  demoIdentity : String := ""
  demoTokenHash : String := ""
  result : Option SealResult := none
  reason : String := ""
  attempts : ℤ := 0
deriving DecidableEq

/-- The version that is written. -/
def recordVersion : ℤ := 1

/-- The only journaled effect. -/
def effectSettle : String := "settle"

/-- Its effect. -/
def Record.key (r : Record) : Key := ⟨r.accountID, r.requestID, r.effect⟩

/-- The total is that of the parts. -/
def Record.tokensConsistent (r : Record) : Bool :=
  if r.promptTokens < 0 ∨ r.completionTokens < 0 ∨ r.totalTokens < 0 then false
  else r.totalTokens == wrap64 (r.promptTokens + r.completionTokens)

/-- A seal or a quarantine. -/
def Record.Resolves (r : Record) : Prop := r.kind = .seal ∨ r.kind = .quarantine

instance (r : Record) : Decidable r.Resolves := inferInstanceAs (Decidable (_ ∨ _))

/-! ### Lines -/

/-- The contents of a file. -/
abbrev Bytes := List UInt8

/-- The end of a line. -/
def newline : UInt8 := 10

/-- What `unicode.IsSpace` accepts, in UTF-8. -/
def spaces : List Bytes :=
  [[9], [10], [11], [12], [13], [32], [0xC2, 0x85], [0xC2, 0xA0], [0xE1, 0x9A, 0x80],
    [0xE2, 0x80, 0x80], [0xE2, 0x80, 0x81], [0xE2, 0x80, 0x82], [0xE2, 0x80, 0x83],
    [0xE2, 0x80, 0x84], [0xE2, 0x80, 0x85], [0xE2, 0x80, 0x86], [0xE2, 0x80, 0x87],
    [0xE2, 0x80, 0x88], [0xE2, 0x80, 0x89], [0xE2, 0x80, 0x8A], [0xE2, 0x80, 0xA8],
    [0xE2, 0x80, 0xA9], [0xE2, 0x80, 0xAF], [0xE2, 0x81, 0x9F], [0xE3, 0x80, 0x80]]

/-- Up to `n` spaces and nothing else. -/
def spaced : ℕ → Bytes → Bool
  | 0, bs => bs.isEmpty
  | n + 1, bs => bs.isEmpty || spaces.any fun s => s.isPrefixOf bs && spaced n (bs.drop s.length)

/-- `strings.TrimSpace(line) == ""`. -/
def isBlank (line : Bytes) : Bool := spaced line.length line

/-- `encoding/json` on records. -/
structure Codec where
  marshal : Record → Bytes
  unmarshal : Bytes → Option Record
  unmarshal_marshal : ∀ r, unmarshal (marshal r) = some r
  newline_notMem : ∀ r, newline ∉ marshal r
  not_blank : ∀ r, isBlank (marshal r) = false

/-- A record of this version. -/
def readable (c : Codec) (line : Bytes) : Option Record :=
  (c.unmarshal line).filter fun r => r.version == recordVersion

/-- What is read of a line that is not blank. -/
def readLine (c : Codec) (line : Bytes) : Option Record :=
  if isBlank line then none else readable c line

/-- **The records of a file.** -/
def records (c : Codec) (data : Bytes) : List Record :=
  (lines newline data).filterMap (readLine c)

/-- The line of a record. -/
def line (c : Codec) (r : Record) : Bytes := c.marshal r ++ [newline]

section Records
variable {c : Codec} {data : Bytes}

@[simp] theorem records_nil : records c [] = [] := rfl

theorem readLine_marshal {r : Record} (h : r.version = recordVersion) :
    readLine c (c.marshal r) = some r := by
  simp [readLine, readable, c.not_blank, c.unmarshal_marshal, h]

theorem records_append_line {r : Record} (hd : AtLineStart newline data)
    (h : r.version = recordVersion) : records c (data ++ line c r) = records c data ++ [r] := by
  rw [records, line, lines_append_line hd (c.newline_notMem r), List.filterMap_append]
  simp [records, readLine_marshal h]

theorem records_append_torn {r : Record} {n : ℕ} (hd : AtLineStart newline data)
    (h : n < (line c r).length) : records c (data ++ (line c r).take n) = records c data := by
  have htorn : newline ∉ (line c r).take n := by
    rw [line, List.length_append, List.length_singleton] at h
    rw [line, List.take_append_of_le_length (by omega)]
    exact fun hm => c.newline_notMem r (List.mem_of_mem_take hm)
  rw [records, lines_append_torn hd htorn]
  rfl

theorem records_isPrefix {data' : Bytes} (h : data <+: data') :
    records c data <+: records c data' :=
  (lines_isPrefix h).filterMap _

theorem mem_records_of_isPrefix {data' : Bytes} (h : data <+: data') {r : Record}
    (hr : r ∈ records c data) : r ∈ records c data' :=
  (records_isPrefix h).subset hr

end Records

/-! ### A codec

The records of a list by their place in it, every other record by a number behind it. -/

instance encodableChar : Encodable Char :=
  Encodable.ofLeftInverse Char.toNat Char.ofNat Char.ofNat_toNat

instance encodableString : Encodable String :=
  Encodable.ofLeftInverse String.toList String.ofList fun _ => String.ofList_toList

deriving instance Encodable for Kind, SealResult, Record

/-- A number for each record. -/
def place (rs : List Record) (r : Record) : ℕ :=
  if r ∈ rs then rs.idxOf r else rs.length + Encodable.encode r

/-- The record of a number. -/
def atPlace (rs : List Record) (n : ℕ) : Option Record :=
  if n < rs.length then rs[n]? else Encodable.decode (n - rs.length)

theorem atPlace_place (rs : List Record) (r : Record) : atPlace rs (place rs r) = some r := by
  unfold place atPlace
  by_cases h : r ∈ rs
  · rw [if_pos h, if_pos (List.idxOf_lt_length_iff.mpr h)]
    exact List.getElem?_idxOf h
  · rw [if_neg h, if_neg (by omega), Nat.add_sub_cancel_left, Encodable.encodek]

/-- An opening brace and a number in unary. -/
def unary (n : ℕ) : Bytes := 123 :: List.replicate n 49

/-- A codec in which these records have short lines. -/
def Codec.indexed (rs : List Record) : Codec where
  marshal r := unary (place rs r)
  unmarshal b := (atPlace rs (b.length - 1)).filter fun r => decide (unary (place rs r) = b)
  unmarshal_marshal r := by
    rw [unary, List.length_cons, List.length_replicate, Nat.add_sub_cancel, atPlace_place]
    simp [unary]
  newline_notMem r := by
    intro h
    rcases List.mem_cons.mp h with h | h
    · exact absurd h (by decide)
    · exact absurd (List.eq_of_mem_replicate h) (by decide)
  not_blank r := by
    unfold isBlank unary
    rw [List.length_cons]
    simp [spaced, spaces]

end MacProvider.Gateway.Settlement.Format
