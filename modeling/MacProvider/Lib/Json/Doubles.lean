import MacProvider.Lib.Json.Scalars
import MacProvider.Lib.Rounding
import Mathlib.Data.Int.Log

/-! # The doubles of number literals

`Number.value` is the rational number of a literal, `float64` the double next to a rational
number. -/

namespace MacProvider.Lib.Json

open Lib.Rounding

/-- The number of an exponent. -/
def exponentValue : List Char → ℤ
  | _ :: '-' :: ds => -(digitsValue ds : ℤ)
  | _ :: '+' :: ds => digitsValue ds
  | _ :: ds => digitsValue ds
  | [] => 0

/-- The number of a literal without a sign. -/
def unsignedValue (cs : List Char) : ℚ :=
  let int := cs.takeWhile Char.isDigit
  match cs.dropWhile Char.isDigit with
  | '.' :: cs =>
    let frac := cs.takeWhile Char.isDigit
    digitsValue (int ++ frac) * 10 ^ (exponentValue (cs.dropWhile Char.isDigit) - frac.length)
  | cs => digitsValue int * 10 ^ exponentValue cs

/-- **The number of a literal.** -/
def Number.value (n : Number) : ℚ :=
  match n.literal with
  | '-' :: cs => -unsignedValue cs
  | cs => unsignedValue cs

/-- **The double next to a number**, if there is one. -/
def float64 (q : ℚ) : Option ℚ :=
  let e := max (Int.log 2 |q| - 52) (-1074)
  let f : ℚ := halfEven (q / 2 ^ e) * 2 ^ e
  if |f| < 2 ^ 1024 then some f else none

end MacProvider.Lib.Json
