import Colloquy.Decimal.Shortest
/-!
# The text of a binary64 value

A value is written with its shortest digits (see `Binary.shortest`). The `Layout` record holds
the decisions of the format: which decimal exponents are written positionally, whether an
integral value keeps a `.0`, and how an exponent is marked. `Layout.standard` is the layout of
this library's JSON output and of its value texts.
-/

namespace Colloquy.Decimal

/-- **Layout.** How a value with digits `d₁d₂…dₙ` and decimal exponent `k` (the value is
`d₁.d₂…dₙ · 10^k`) is written. -/
structure Layout where
  /-- The least exponent written positionally. -/
  least : Int
  /-- The greatest exponent written positionally. -/
  greatest : Int
  /-- An integral value written positionally ends in `.0`. -/
  pointZero : Bool
  /-- The text between the digits and the exponent. -/
  mark : String
  /-- A non-negative exponent carries a plus sign. -/
  plus : Bool
  /-- Texts for NaN and the two infinities. -/
  nan : String
  infinity : String

/-- Positional from `10^-5` up to below `10^16`, with `.0` kept on integral values. Otherwise
`d.ddde+N` or `d.ddde-N`. -/
def Layout.standard : Layout :=
  { least := -5, greatest := 15, pointZero := true, mark := "e", plus := true,
    nan := "NaN", infinity := "inf" }

/-- `n` zeros. -/
def zeros (n : Nat) : String :=
  String.ofList (List.replicate n '0')

/-- Writes digits `ds` (no trailing zeros) with decimal exponent `k` of the leading digit,
unsigned. -/
def Layout.place (l : Layout) (ds : String) (k : Int) : String :=
  let n := ds.length
  if l.least ≤ k ∧ k ≤ l.greatest then
    if (n : Int) ≤ k + 1 then
      ds ++ zeros (k + 1 - n).toNat ++ (if l.pointZero then ".0" else "")
    else if 0 ≤ k then
      String.ofList (ds.toList.take (k.toNat + 1)) ++ "." ++ String.ofList (ds.toList.drop (k.toNat + 1))
    else
      "0." ++ zeros (-k - 1).toNat ++ ds
  else
    let head := String.ofList (ds.toList.take 1)
    let tail := String.ofList (ds.toList.drop 1)
    let sign := if k < 0 then "-" else if l.plus then "+" else ""
    head ++ (if tail.isEmpty then "" else "." ++ tail) ++ l.mark ++ sign ++ toString k.natAbs

/-- **The text of a value** under a layout: shortest digits, placed by the layout. Zero is
`0.0` or `-0.0`. -/
def Layout.render (l : Layout) (x : Float) : String :=
  match Binary.ofFloat? x with
  | none => if x.isNaN then l.nan else if signBit x then "-" ++ l.infinity else l.infinity
  | some b =>
    let sign := if b.neg then "-" else ""
    if b.mantissa = 0 then sign ++ (if l.pointZero then "0.0" else "0")
    else
      let (d, e) := b.shortest
      let ds := toString d
      sign ++ l.place ds (e + ds.length - 1)

/-- The text of a value in the standard layout. -/
def render (x : Float) : String :=
  Layout.standard.render x

end Colloquy.Decimal
