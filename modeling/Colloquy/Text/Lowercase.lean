import Colloquy.Text.Ranges
import Colloquy.Text.CaseData
/-!
# Full lowercase

`lower` maps every character of a text to its full lowercase form. Two rules go beyond a table
of single characters.

* Capital I with dot above (U+0130) lowers to two characters: `i` and the combining dot above
  (U+0307).
* Capital sigma lowers to final sigma `ς` at the end of a word, and to `σ` elsewhere. It is at
  the end of a word when, skipping case-ignorable characters, a cased character comes before it
  and none comes after it.

Every other character lowers through the runs of `lowerRunsText`, or stays as it is.
-/

namespace Colloquy.Text

/-- One run of simple lowercase mappings: `count` characters from `start`, `stride` apart, each
lowering to itself plus `delta`. -/
structure LowerRun where
  start : Nat
  count : Nat
  stride : Nat
  delta : Int

/-- Reads one run from its text `start,count,stride,delta`. -/
def LowerRun.ofText (s : String) : LowerRun :=
  match s.splitOn "," with
  | [a, b, c, d] =>
    let delta : Int := if d.startsWith "-" then -((d.drop 1).toString.toNat! : Int) else d.toNat!
    ⟨hexValue a, hexValue b, hexValue c, delta⟩
  | _ => ⟨0, 0, 1, 0⟩

/-- The runs of simple lowercase mappings. -/
def lowerRuns : Array LowerRun :=
  (fields lowerRunsText).toArray.map LowerRun.ofText

/-- The property Cased. -/
def casedSet : RangeSet := RangeSet.ofText casedText

/-- The property Case_Ignorable. -/
def caseIgnorableSet : RangeSet := RangeSet.ofText caseIgnorableText

/-- Whether the run holds the code point. -/
def LowerRun.holds (r : LowerRun) (n : Nat) : Bool :=
  r.start ≤ n && n < r.start + r.count * r.stride && (n - r.start) % r.stride == 0

/-- The simple lowercase form of one character. -/
def lowerSimple (c : Char) : Char :=
  let n := c.toNat
  if n < 0x80 then
    if 'A' ≤ c ∧ c ≤ 'Z' then Char.ofNat (n + 32) else c
  else
    match lowerRuns.find? (·.holds n) with
    | some r => Char.ofNat (n + r.delta).toNat
    | none => c

/-- Whether, after skipping case-ignorable characters, the next character is cased. -/
def casedAfterIgnorable (cs : List Char) : Bool :=
  match cs.dropWhile caseIgnorableSet.contains with
  | c :: _ => casedSet.contains c
  | [] => false

/-- Capital sigma between `before` (nearest first) and `after`: final sigma at the end of a
word, small sigma elsewhere. -/
def lowerSigma (before after : List Char) : Char :=
  if casedAfterIgnorable before && !casedAfterIgnorable after then 'ς' else 'σ'

/-- The full lowercase form of `c`, where `before` holds the characters before it (nearest
first) and `after` those after it. -/
def lowerAt (before : List Char) (c : Char) (after : List Char) : List Char :=
  if c.toNat = 0x130 then ['i', Char.ofNat 0x307]
  else if c = 'Σ' then [lowerSigma before after]
  else [lowerSimple c]

/-- Lowers every character of `cs`, where `before` holds the characters already passed
(nearest first). -/
def lowerFrom (before : List Char) : List Char → List Char
  | [] => []
  | c :: rest => lowerAt before c rest ++ lowerFrom (c :: before) rest

/-- **Full lowercase** of a text. -/
def lower (s : String) : String :=
  String.ofList (lowerFrom [] s.toList)

end Colloquy.Text
