import Colloquy.Screen.CellData
import Colloquy.Text.Ranges
/-!
# Characters in terminal cells

## One character

Every character up to the no-break space takes one cell, controls included. Past it, the
Khmer sign beyyal takes three; emoji shown as emoji by default take two, and so do the emoji
modifiers; regional indicators take one; characters that extend a grapheme, default-ignorable
ones and Hangul medial and final jamo take none (`zeroWidthText` says which); East Asian wide
and fullwidth characters take two; all others one.

## A text

A text takes the cells of its characters, except where a character and those after it are
shown together:

* a carriage return before a line feed takes none;
* an emoji selector after a character that starts an emoji variation sequence makes it take
  two cells; a text selector after an emoji with a text sequence makes it take one;
* an emoji modifier after a modifier base takes the base's place, the pair two cells;
* two regional indicators make one flag of two cells;
* in an emoji sequence tied by joiners, only the last emoji counts its two cells.

So the text is read from the right, each character told what follows it (`Follow`).
-/

namespace Colloquy.Screen

open Text (RangeSet)

/-- The characters that take two cells. -/
def wideSet : RangeSet := RangeSet.ofText wideText

/-- The characters that take no cell. -/
def zeroWidthSet : RangeSet := RangeSet.ofText zeroWidthText

/-- The characters shown as emoji by default. -/
def emojiSet : RangeSet := RangeSet.ofText emojiText

/-- The characters an emoji modifier can follow. -/
def modifierBaseSet : RangeSet := RangeSet.ofText modifierBaseText

/-- The characters that start an emoji variation sequence. -/
def emojiVariationSet : RangeSet := RangeSet.ofText emojiVariationText

/-- What the characters after a position tell the character before them. -/
inductive Follow where
  /-- Nothing that changes how it is shown. -/
  | plain
  | lineFeed
  /-- An emoji modifier. -/
  | modifier
  /-- One regional indicator. -/
  | regional
  /-- A run of regional indicators. -/
  | regionals
  /-- An emoji whose cells are counted. -/
  | emoji
  /-- A joiner and an emoji. -/
  | joined
  /-- A keycap, a joiner and an emoji. -/
  | keycapJoined
  /-- An emoji selector. -/
  | selector
  /-- An emoji selector, a joiner and an emoji. -/
  | selectorJoined
  /-- An emoji selector, a keycap, a joiner and an emoji. -/
  | selectorKeycap
  /-- A text selector. -/
  | textSelector
  deriving BEq, Inhabited, Repr

/-- Whether an emoji selector comes next. -/
def Follow.selects : Follow → Bool
  | .selector | .selectorJoined | .selectorKeycap => true
  | _ => false

/-- What an emoji selector tells the character before it, given what follows the selector. -/
def Follow.afterSelector : Follow → Follow
  | .joined => .selectorJoined
  | .keycapJoined => .selectorKeycap
  | _ => .selector

/-- Whether a code point is a regional indicator. -/
def isRegional (n : Nat) : Bool :=
  0x1F1E6 ≤ n && n ≤ 0x1F1FF

/-- Whether a code point is an emoji modifier. -/
def isModifier (n : Nat) : Bool :=
  0x1F3FB ≤ n && n ≤ 0x1F3FF

/-- **The cells of a character on its own**, and what it tells the character before it. -/
def ownCells (c : Char) : Nat × Follow :=
  let n := c.toNat
  if n == 0x17D8 then (3, .plain)
  else if n == 0xFE0F then (0, .selector)
  else if n == 0xFE0E then (0, .textSelector)
  else if isRegional n then (1, .regional)
  else if isModifier n then (2, .modifier)
  else if emojiSet.contains c then (2, .emoji)
  else if zeroWidthSet.contains c then (0, .plain)
  else if wideSet.contains c then (2, .plain)
  else (1, .plain)

/-- Whether a text selector after a character makes it narrow: an emoji shown as such by
default, with a text sequence, outside the enclosed ideographs. -/
def startsTextSequence (c : Char) : Bool :=
  emojiVariationSet.contains c && emojiSet.contains c && !(0x1F200 ≤ c.toNat && c.toNat ≤ 0x1F2FF)

/-- **The cells a character takes** in a text, given what follows it; and what it tells the
character before it. -/
def cellsBefore (c : Char) (next : Follow) : Nat × Follow :=
  let n := c.toNat
  if next.selects && emojiVariationSet.contains c then
    (if next == .selector then 2 else 0, .emoji)
  else
    let next := if next.selects then .plain else next
    if n ≤ 0xA0 then
      if c == '\n' then (1, .lineFeed)
      else if c == '\r' && next == .lineFeed then (0, .plain)
      else (1, .plain)
    else if next == .plain then ownCells c
    else if n == 0xFE0F then (0, next.afterSelector)
    else if n == 0xFE0E then (0, .textSelector)
    else if next == .textSelector && startsTextSequence c then (1, .plain)
    else
      let next := if next == .textSelector then .plain else next
      if next == .modifier && modifierBaseSet.contains c then (0, .emoji)
      else if (next == .regional || next == .regionals) && isRegional n then (1, .regionals)
      else if (next == .emoji || next == .regionals || next == .modifier) && n == 0x200D then
        (0, .joined)
      else if next == .joined && n == 0x20E3 then (0, .keycapJoined)
      else if next == .joined && isModifier n then (0, .modifier)
      else if next == .joined && (ownCells c).2 == .emoji then (0, .emoji)
      else ownCells c

/-- **The cells a text takes**: read from the right, each character told what follows it. -/
def textCells (s : String) : Nat :=
  (s.toList.foldr (fun c (total, next) =>
    let (w, f) := cellsBefore c next
    (total + w, f)) (0, Follow.plain)).1

end Colloquy.Screen
