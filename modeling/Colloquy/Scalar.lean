import Colloquy.Decimal.Binary
import Colloquy.Json.Writer
/-!
# Scalar values

A dialogue variable holds a *scalar*: a boolean, a whole number of 64 signed bits, a binary64
number, or a text.

Whole numbers and binary64 numbers are different values, but they are compared across kinds.
A binary64 number equals a whole number exactly when it is integral, lies in the 64-bit signed
range, and has that value. Two binary64 numbers compare as binary64 values do: NaN equals
nothing, and `0.0` equals `-0.0`. Values of other different kinds are never equal.

Main definitions: `Scalar.same` (that equality), the readers `asBool?`, `asInt?`, `asNumber?` and
`asString?`, and `Scalar.toJson`, the plain JSON form, in which a number without a JSON form is
`null`.
-/

namespace Colloquy

/-- A value of a dialogue variable. -/
inductive Scalar where
  | bool (b : Bool)
  /-- A whole number in the 64-bit signed range. -/
  | int (n : Int)
  | number (x : Float)
  | string (s : String)
  deriving Inhabited

/-- The least and greatest 64-bit signed numbers. -/
def minInt64 : Int := -(Nat.pow 2 63 : Int)
def maxInt64 : Int := (Nat.pow 2 63 : Int) - 1

/-- Whether a whole number is in the 64-bit signed range. -/
def inInt64 (n : Int) : Bool :=
  minInt64 ≤ n && n ≤ maxInt64

/-- The whole value of a binary64 number that is integral and in the 64-bit signed range. NaN,
the infinities and fractions have none. -/
def wholeOf? (x : Float) : Option Int :=
  match Decimal.Binary.ofFloat? x with
  | none => none
  | some b =>
    let magnitude : Option Nat :=
      if 0 ≤ b.exponent then some (b.mantissa * Nat.pow 2 b.exponent.toNat)
      else
        let unit := Nat.pow 2 (-b.exponent).toNat
        if b.mantissa % unit = 0 then some (b.mantissa / unit) else none
    magnitude.bind fun m =>
      let n : Int := if b.neg then -(m : Int) else m
      if inInt64 n then some n else none

namespace Scalar

/-- The boolean of a boolean value. -/
def asBool? : Scalar → Option Bool
  | bool b => some b
  | _ => none

/-- The whole number of a whole value, or of an integral binary64 value in range. -/
def asInt? : Scalar → Option Int
  | int n => some n
  | number x => wholeOf? x
  | _ => none

/-- The binary64 value of a number; a whole number is rounded to the nearest one. -/
def asNumber? : Scalar → Option Float
  | int n => some (Decimal.ofInt n)
  | number x => some x
  | _ => none

/-- The text of a text value. -/
def asString? : Scalar → Option String
  | string s => some s
  | _ => none

/-- The name of a value's type: `boolean`, `number` or `string`. -/
def typeName : Scalar → String
  | bool _ => "boolean"
  | int _ | number _ => "number"
  | string _ => "string"

/-- **Equality of scalars** across the two number kinds. -/
def same : Scalar → Scalar → Bool
  | bool a, bool b => a == b
  | int a, int b => a == b
  | number a, number b => a == b
  | int a, number x => wholeOf? x == some a
  | number x, int a => wholeOf? x == some a
  | string a, string b => a == b
  | _, _ => false

/-- The plain JSON form of a value. -/
def toJson : Scalar → Json.Value
  | bool b => .bool b
  | int n => if n < 0 then .number (.neg n) else .number (.nat n.toNat)
  | number x => .number (.float x)
  | string s => .string s

/-- The plain JSON text of a value: a number without a JSON form is `null`. -/
def jsonText (v : Scalar) : String :=
  v.toJson.compact

end Scalar

end Colloquy
