import Colloquy.Decimal.Binary
/-!
# Shortest decimal digits of a binary64 value

A positive finite value `v = m · 2^q` is the nearest binary64 value to every real number in its
*rounding interval*. That interval runs halfway to each neighbour, and it includes its ends
exactly when `m` is even, because reading a tie goes to the even mantissa.

`shortest` returns the digits `d` and exponent `e` of the decimal `d · 10^e` with the fewest
significant digits that lies in the interval. Of two such decimals it takes the one nearer to
`v`; an exact tie goes to the even digit string. It tries one digit, then two, and so on up to
seventeen, which always suffices. For `n` digits the candidates lie on the grid `10^(k-n+1)`,
where `k = ⌊log₁₀ v⌋`. Only the two grid points around `v` can be the nearest one in the
interval, so only those two are tested.

Everything is exact arithmetic on natural numbers, scaled so that `v` and both interval ends
are whole.
-/

namespace Colloquy.Decimal

/-- Whether `num / den ≥ 10^k`. -/
def atLeastPow10 (num den : Nat) (k : Int) : Bool :=
  if 0 ≤ k then den * Nat.pow 10 k.toNat ≤ num else den ≤ num * Nat.pow 10 (-k).toNat

/-- The number of decimal digits of a number (one for zero). -/
def digitCount (n : Nat) : Nat :=
  (toString n).length

/-- The decimal exponent of a positive fraction: the `k` with `10^k ≤ num / den < 10^(k+1)`.
The digit counts of `num` and `den` leave two possibilities, and one comparison decides. -/
def floorLog10 (num den : Nat) : Int :=
  let k : Int := (digitCount num : Int) - digitCount den
  if atLeastPow10 num den k then k else k - 1

/-- A value and its rounding interval, all multiplied by one common `scale` so that they are
whole numbers. -/
structure Interval where
  low : Nat
  value : Nat
  high : Nat
  scale : Nat
  inclusive : Bool

/-- The rounding interval of `m · 2^q`. -/
def Binary.interval (b : Binary) : Interval :=
  let up := Nat.pow 2 b.exponent.toNat
  let down := Nat.pow 2 (-b.exponent).toNat
  let m := b.mantissa
  { low := (4 * m - (if b.narrowBelow then 1 else 2)) * up
    value := 4 * m * up
    high := (4 * m + 2) * up
    scale := 4 * down
    inclusive := m % 2 == 0 }

/-- The digits `d` for which `d · 10^e` lies in the interval, nearest to the value first.
Only the two neighbours of the value on the grid `10^e` are tried. -/
def Interval.pick (iv : Interval) (e : Int) : Option Nat :=
  let (lo, v, hi, den) :=
    if 0 ≤ e then (iv.low, iv.value, iv.high, iv.scale * Nat.pow 10 e.toNat)
    else
      let t := Nat.pow 10 (-e).toNat
      (iv.low * t, iv.value * t, iv.high * t, iv.scale)
  let least := if iv.inclusive then (lo + den - 1) / den else lo / den + 1
  let most := if iv.inclusive then hi / den else (hi - 1) / den
  let floor := v / den
  let near := roundHalfEven v den
  let other := if near == floor then (if v % den == 0 then floor else floor + 1) else floor
  if least ≤ near ∧ near ≤ most then some near
  else if least ≤ other ∧ other ≤ most then some other
  else none

/-- Removes trailing zeros from the digits, raising the exponent to match. -/
def trimZeros (d : Nat) (e : Int) : Nat × Int :=
  go (digitCount d) d e
where
  go : Nat → Nat → Int → Nat × Int
    | 0, d, e => (d, e)
    | fuel + 1, d, e => if d ≠ 0 ∧ d % 10 = 0 then go fuel (d / 10) (e + 1) else (d, e)

/-- **Shortest digits.** The digits and exponent of the decimal with the fewest significant
digits that reads back as the value. Of two such decimals it is the nearer one. The value
must be positive; zero gives `(0, 0)`. -/
def Binary.shortest (b : Binary) : Nat × Int :=
  if b.mantissa = 0 then (0, 0)
  else
    let iv := b.interval
    let k := floorLog10 iv.value iv.scale
    let found := (List.range 17).findSome? fun (n : Nat) =>
      let e := k - (n : Int)
      (iv.pick e).map fun d => (d, e)
    match found with
    | some (d, e) => trimZeros d e
    | none => trimZeros (roundHalfEven iv.value iv.scale) 0

end Colloquy.Decimal
