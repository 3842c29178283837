import Colloquy.Decimal.Binary
/-!
# Reading a decimal number

`readFloat?` accepts an optional sign followed by either a name (`inf`, `infinity` or `nan`, in
any mix of case) or a decimal. A decimal is digits with an optional point, then an optional
exponent `e` or `E` with an optional sign and at least one digit. At least one digit must
stand before or after the point. Nothing else is allowed, not even blanks.

The result is the binary64 value nearest to the decimal (`ofDecimal`), so a decimal past the
largest finite value reads as infinity.
-/

namespace Colloquy.Decimal

/-- The value of a string of decimal digits. -/
def digitsValue (ds : List Char) : Nat :=
  ds.foldl (fun acc c => acc * 10 + (c.toNat - '0'.toNat)) 0

/-- Splits off the longest prefix of decimal digits. -/
def spanDigits (cs : List Char) : List Char × List Char :=
  (cs.takeWhile Char.isDigit, cs.dropWhile Char.isDigit)

/-- Reads an exponent part, after its `e`: an optional sign and at least one digit, with
nothing after them. -/
def readExponent? (cs : List Char) : Option Int :=
  let (neg, rest) := match cs with
    | '+' :: r => (false, r)
    | '-' :: r => (true, r)
    | r => (false, r)
  let (ds, tail) := spanDigits rest
  if ds.isEmpty ∨ !tail.isEmpty then none
  else
    let v : Int := digitsValue ds
    some (if neg then -v else v)

/-- Reads an unsigned decimal: digits, an optional point with more digits, and an optional
exponent. -/
def readUnsigned? (neg : Bool) (cs : List Char) : Option Float :=
  let (whole, rest) := spanDigits cs
  let (frac, rest) := match rest with
    | '.' :: r => spanDigits r
    | r => ([], r)
  if whole.isEmpty ∧ frac.isEmpty then none
  else
    let exp? : Option Int := match rest with
      | [] => some 0
      | c :: r => if c = 'e' ∨ c = 'E' then readExponent? r else none
    exp?.map fun exp => ofDecimal neg (digitsValue (whole ++ frac)) (exp - frac.length)

/-- Lowers ASCII letters. -/
def lowerAscii (cs : List Char) : List Char :=
  cs.map Char.toLower

/-- **Reads a number** from its whole text, or `none` when the text is not one. -/
def readFloat? (s : String) : Option Float :=
  let (neg, rest) := match s.toList with
    | '+' :: r => (false, r)
    | '-' :: r => (true, r)
    | r => (false, r)
  let name := lowerAscii rest
  if name = "inf".toList ∨ name = "infinity".toList then some (infinity neg)
  else if name = "nan".toList then some (0.0 / 0.0)
  else readUnsigned? neg rest

end Colloquy.Decimal
