import Colloquy.Screen.CellData
import Colloquy.Text.Ranges
/-!
# Grapheme clusters

Text is shown in *grapheme clusters*: a character with the marks and joiners that belong to
it. Two characters stay in one cluster when

* they are a carriage return and a line feed;
* neither is a control, carriage return or line feed, and
  - they are Hangul jamo that form a syllable,
  - the second extends the first (a mark, a joiner, a spacing mark),
  - the first is a prepended mark,
  - the second is an Indic consonant, and the cluster so far ends in a consonant followed by
    extending marks and linkers (viramas), at least one of them a linker: a conjunct,
  - the second is pictographic and follows a joiner that follows a pictograph and its
    extensions, or
  - they are regional indicators and the first closes no pair yet.

The clustering reads the text once from the left, remembering what these rules need of the
cluster built so far (`Joining`).
-/

namespace Colloquy.Screen

open Text (RangeSet KindTable)

/-- The grapheme cluster break kinds. -/
inductive Break where
  | other
  | cr
  | lf
  | control
  | extend
  | zwj
  | regional
  | prepend
  | spacing
  | l
  | v
  | t
  | lv
  | lvt
  deriving BEq, Inhabited, Repr

/-- The kind a table letter names. -/
def Break.ofLetter : Char → Break
  | 'r' => .cr
  | 'n' => .lf
  | 'c' => .control
  | 'e' => .extend
  | 'z' => .zwj
  | 'i' => .regional
  | 'p' => .prepend
  | 's' => .spacing
  | 'L' => .l
  | 'V' => .v
  | 'T' => .t
  | _ => .other

/-- The table of break kinds. -/
def breakTable : KindTable := KindTable.ofText breakText

/-- **The break kind** of a character. Precomposed Hangul syllables are LV at the start of
each run of 28 and LVT elsewhere. -/
def breakOf (c : Char) : Break :=
  let n := c.toNat
  if 0xAC00 ≤ n ∧ n ≤ 0xD7A3 then (if (n - 0xAC00) % 28 == 0 then .lv else .lvt)
  else Break.ofLetter (breakTable.kindAt n)

/-- Whether a kind is a control, carriage return or line feed. -/
def Break.isControl : Break → Bool
  | .control | .cr | .lf => true
  | _ => false

/-- The parts a character can play in an Indic conjunct. -/
inductive Conjunct where
  | none
  | consonant
  | linker
  | extend
  deriving BEq, Inhabited, Repr

/-- The table of conjunct parts. -/
def conjunctTable : KindTable := KindTable.ofText conjunctText

/-- The part a character plays in an Indic conjunct. -/
def conjunctOf (c : Char) : Conjunct :=
  match conjunctTable.kindAt c.toNat with
  | 'c' => .consonant
  | 'l' => .linker
  | 'e' => .extend
  | _ => .none

/-- The pictographic characters. -/
def pictographicSet : RangeSet := RangeSet.ofText pictographicText

/-- What the clustering remembers of the cluster built so far. -/
structure Joining where
  last : Break
  /-- The cluster ends in a pictograph followed by extensions only. -/
  pictograph : Bool
  /-- The cluster ends in a pictograph, extensions and a joiner. -/
  joined : Bool
  /-- How many regional indicators end the text so far. -/
  regionals : Nat
  /-- The cluster ends in a consonant followed by extending marks and linkers only. -/
  consonant : Bool
  /-- The same, with at least one linker after the consonant. -/
  linked : Bool

/-- What is remembered before the first character of a cluster. -/
def Joining.start : Joining := ⟨.other, false, false, 0, false, false⟩

/-- Whether a character stays in the cluster built so far. -/
def Joining.keeps (j : Joining) (c : Char) : Bool :=
  let k := breakOf c
  if j.last == .cr && k == .lf then true
  else if j.last.isControl || k.isControl then false
  else if j.last == .l && (k == .l || k == .v || k == .lv || k == .lvt) then true
  else if (j.last == .lv || j.last == .v) && (k == .v || k == .t) then true
  else if (j.last == .lvt || j.last == .t) && k == .t then true
  else if k == .extend || k == .zwj || k == .spacing then true
  else if j.last == .prepend then true
  else if j.linked && conjunctOf c == .consonant then true
  else if j.joined && pictographicSet.contains c then true
  else if j.last == .regional && k == .regional then j.regionals % 2 == 1
  else false

/-- What is remembered after a character. -/
def Joining.after (j : Joining) (c : Char) : Joining :=
  let k := breakOf c
  let part := conjunctOf c
  let carries := part == .extend || part == .linker
  { last := k
    pictograph := pictographicSet.contains c || (j.pictograph && k == .extend)
    joined := j.pictograph && k == .zwj
    regionals := if k == .regional then j.regionals + 1 else 0
    consonant := part == .consonant || (j.consonant && carries)
    linked := (part == .linker && j.consonant) || (j.linked && carries) }

/-- Splits characters into clusters, given the cluster being built (reversed) and what it
remembers. -/
def clusters : List Char → Joining → List Char → List String → List String
  | [], _, cur, acc => if cur.isEmpty then acc.reverse else (String.ofList cur.reverse :: acc).reverse
  | c :: rest, j, cur, acc =>
    if !cur.isEmpty && j.keeps c then clusters rest (j.after c) (c :: cur) acc
    else
      let acc := if cur.isEmpty then acc else String.ofList cur.reverse :: acc
      clusters rest (Joining.start.after c) [c] acc

/-- **The grapheme clusters** of a text, in order. -/
def graphemes (s : String) : List String :=
  clusters s.toList Joining.start [] []

end Colloquy.Screen
