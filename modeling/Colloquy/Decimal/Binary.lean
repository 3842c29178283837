/-!
# Binary64 values as exact numbers

A finite binary64 value is `(-1)^neg · mantissa · 2^exponent`. This module reads those parts
off the bit pattern. It also builds the binary64 value nearest to an exact fraction
`num / den`.

The construction works in exact natural-number arithmetic. It first finds the binary exponent
of the fraction, then rounds the scaled quotient to 53 bits (or to the subnormal grid), with a
tie going to the even mantissa. So it is correctly rounded for every input, which a chain of
floating-point operations is not.
-/

namespace Colloquy.Decimal

/-- The parts of a finite binary64 value, which equals `(-1)^neg · mantissa · 2^exponent`.
**`narrowBelow`** holds when the next value below is half as far away as the next value above.
That happens at every power of two except the smallest normal one. -/
structure Binary where
  neg : Bool
  mantissa : Nat
  exponent : Int
  narrowBelow : Bool
  deriving Repr, BEq

/-- The sign bit of a value. It is set for `-0.0` as well. -/
def signBit (x : Float) : Bool :=
  x.toBits.toNat >>> 63 == 1

/-- Reads the parts of a finite value, or `none` for NaN and the infinities. -/
def Binary.ofFloat? (x : Float) : Option Binary :=
  let bits := x.toBits.toNat
  let neg := bits >>> 63 == 1
  let field := (bits >>> 52) % 2048
  let fraction := bits % Nat.pow 2 52
  if field == 2047 then none
  else if field == 0 then some ⟨neg, fraction, -1074, false⟩
  else some ⟨neg, fraction + Nat.pow 2 52, (field : Int) - 1075, fraction == 0 && field > 1⟩

/-- Rounds `num / den` to a whole number. A tie goes to the even neighbour. -/
def roundHalfEven (num den : Nat) : Nat :=
  let q := num / den
  let r := num % den
  if 2 * r < den then q
  else if 2 * r > den then q + 1
  else if q % 2 == 0 then q else q + 1

/-- Whether `num / den ≥ 2^b`. -/
def atLeastPow2 (num den : Nat) (b : Int) : Bool :=
  if 0 ≤ b then den * Nat.pow 2 b.toNat ≤ num else den ≤ num * Nat.pow 2 (-b).toNat

/-- The binary exponent of a positive fraction: the `b` with `2^b ≤ num / den < 2^(b+1)`. -/
def floorLog2 (num den : Nat) : Int :=
  let b : Int := (num.log2 : Int) - den.log2
  if atLeastPow2 num den b then b else b - 1

/-- `num / den · 2^s` rounded to a whole number, a tie going to the even neighbour. -/
def scaledRound (num den : Nat) (s : Int) : Nat :=
  if 0 ≤ s then roundHalfEven (num * Nat.pow 2 s.toNat) den
  else roundHalfEven num (den * Nat.pow 2 (-s).toNat)

/-- The bit pattern of positive infinity. -/
def infinityBits : Nat := 2047 * Nat.pow 2 52

/-- The bit pattern, without sign, of the binary64 value nearest to `num / den`. Values past
the largest finite one give the pattern of infinity. -/
def nearestBits (num den : Nat) : Nat :=
  if num = 0 ∨ den = 0 then 0
  else
    let b := floorLog2 num den
    if b < -1022 then
      -- subnormal: a multiple of 2^-1074; a carry into 2^52 is the least normal value
      scaledRound num den 1074
    else
      let m := scaledRound num den (52 - b)
      let (b, m) := if m = Nat.pow 2 53 then (b + 1, Nat.pow 2 52) else (b, m)
      if b > 1023 then infinityBits
      else (b + 1023).toNat * Nat.pow 2 52 + (m - Nat.pow 2 52)

/-- The binary64 value nearest to `±num / den`: correctly rounded, a tie going to the even
mantissa. -/
def nearest (neg : Bool) (num den : Nat) : Float :=
  let bits := nearestBits num den
  Float.ofBits (if neg then bits + Nat.pow 2 63 else bits).toUInt64

/-- Infinity with the given sign. -/
def infinity (neg : Bool) : Float :=
  Float.ofBits (if neg then infinityBits + Nat.pow 2 63 else infinityBits).toUInt64

/-- The binary64 value nearest to `±digits · 10^exp10`. A decimal exponent too large or too
small for any digit string to matter gives infinity or zero without computing the power. -/
def ofDecimal (neg : Bool) (digits : Nat) (exp10 : Int) : Float :=
  let width : Int := (toString digits).length
  if digits = 0 then nearest neg 0 1
  else if width - 1 + exp10 > 310 then infinity neg
  else if width + exp10 < -330 then nearest neg 0 1
  else if 0 ≤ exp10 then nearest neg (digits * Nat.pow 10 exp10.toNat) 1
  else nearest neg digits (Nat.pow 10 (-exp10).toNat)

/-- A whole number as a binary64 value, correctly rounded. -/
def ofInt (n : Int) : Float :=
  nearest (n < 0) n.natAbs 1

end Colloquy.Decimal
