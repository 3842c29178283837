/-!
# Sets of characters as sorted boundaries

A set of code points is kept as its *boundaries*: a sorted array `b₀ < b₁ < b₂ < …` where the
ranges `[b₀, b₁)`, `[b₂, b₃)`, … are the members. A code point belongs to the set exactly when
an odd number of boundaries lie at or below it. The tables of this library are written as
texts of hexadecimal boundaries and read once.

A *table of kinds* parts all code points into ranges, each with a kind named by one letter. It
is kept as the sorted starts of its ranges; a code point has the kind of the last start at or
below it.
-/

namespace Colloquy.Text

/-- The value of one hexadecimal digit, or `none`. -/
def hexDigit? (c : Char) : Option Nat :=
  if '0' ≤ c ∧ c ≤ '9' then some (c.toNat - '0'.toNat)
  else if 'a' ≤ c ∧ c ≤ 'f' then some (c.toNat - 'a'.toNat + 10)
  else if 'A' ≤ c ∧ c ≤ 'F' then some (c.toNat - 'A'.toNat + 10)
  else none

/-- The value of a hexadecimal numeral. Characters that are not digits count as zero. -/
def hexValue (s : String) : Nat :=
  s.foldl (fun acc c => acc * 16 + (hexDigit? c).getD 0) 0

/-- The fields of a table text, split at spaces. -/
def fields (s : String) : List String :=
  (s.splitOn " ").filter (· ≠ "")

/-- A set of code points given by its boundaries. -/
structure RangeSet where
  bounds : Array Nat

/-- Reads a set from a text of hexadecimal boundaries. -/
def RangeSet.ofText (s : String) : RangeSet :=
  ⟨(fields s).toArray.map hexValue⟩

/-- How many boundaries lie at or below `c`, by bisection over `[lo, hi)`. The answer is the
least index in that window whose boundary exceeds `c`. -/
def RangeSet.countUpTo (r : RangeSet) (c : Nat) : Nat :=
  go 64 0 r.bounds.size
where
  go : Nat → Nat → Nat → Nat
    | 0, lo, _ => lo
    | fuel + 1, lo, hi =>
      if lo < hi then
        let mid := (lo + hi) / 2
        if r.bounds.getD mid 0 ≤ c then go fuel (mid + 1) hi else go fuel lo mid
      else lo

/-- Membership: an odd number of boundaries at or below the code point. -/
def RangeSet.contains (r : RangeSet) (c : Char) : Bool :=
  r.countUpTo c.toNat % 2 == 1

/-- A table of kinds: the sorted starts of its ranges, each with the letter of its kind. -/
structure KindTable where
  starts : Array (Nat × Char)

/-- Reads a table of kinds from a text of entries, each a hexadecimal range start followed by
the letter of its kind. -/
def KindTable.ofText (s : String) : KindTable :=
  ⟨(fields s).toArray.map fun f =>
    let cs := f.toList
    (hexValue (String.ofList cs.dropLast), cs.getLast?.getD 'x')⟩

/-- How many range starts lie at or below `c`, by bisection over `[lo, hi)`. -/
def KindTable.countUpTo (t : KindTable) (c : Nat) : Nat :=
  go 64 0 t.starts.size
where
  go : Nat → Nat → Nat → Nat
    | 0, lo, _ => lo
    | fuel + 1, lo, hi =>
      if lo < hi then
        let mid := (lo + hi) / 2
        if (t.starts.getD mid (0, 'x')).1 ≤ c then go fuel (mid + 1) hi else go fuel lo mid
      else lo

/-- The letter of the kind of a code point; `x` below the first range. -/
def KindTable.kindAt (t : KindTable) (c : Nat) : Char :=
  match t.countUpTo c with
  | 0 => 'x'
  | k + 1 => (t.starts.getD k (0, 'x')).2

end Colloquy.Text
