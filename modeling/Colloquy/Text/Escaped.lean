import Colloquy.Text.Ranges
import Colloquy.Text.PrintData
/-!
# Escaped quoting

`Text.escaped s` writes a text between double quotes so that every character can be seen. These
characters are escaped:

* The quote, the backslash, NUL, tab, carriage return and line feed get a backslash form:
  `\"`, `\\`, `\0`, `\t`, `\r`, `\n`.
* A character that extends a grapheme, or one that does not print, is written `\u{h…}`. Its
  code is in lowercase hexadecimal without leading zeros. A character does not print when it is
  a control, format, surrogate, private-use or unassigned code point, a separator other than
  the space, or a Hangul filler.

All other characters stand as they are. Lists of texts are written `["a", "b"]`.
-/

namespace Colloquy.Text

/-- Characters that are not printed as they are. -/
def unprintableSet : RangeSet := RangeSet.ofText unprintableText

/-- Characters that extend a grapheme. -/
def graphemeExtendSet : RangeSet := RangeSet.ofText graphemeExtendText

/-- Lowercase hexadecimal digits of a number, without leading zeros. -/
def hexLower (n : Nat) : String :=
  String.ofList (Nat.toDigits 16 n)

/-- The escaped form of one character. -/
def escapeChar (c : Char) : String :=
  if c = '"' then "\\\""
  else if c = '\\' then "\\\\"
  else if c.toNat = 0 then "\\0"
  else if c = '\t' then "\\t"
  else if c = '\r' then "\\r"
  else if c = '\n' then "\\n"
  else if graphemeExtendSet.contains c || unprintableSet.contains c then
    "\\u" ++ "\x7b" ++ hexLower c.toNat ++ "\x7d"
  else c.toString

/-- **Escaped quoting** of a text. -/
def escaped (s : String) : String :=
  "\"" ++ String.join (s.toList.map escapeChar) ++ "\""

/-- A list of texts, each escaped, between brackets and separated by `, `. -/
def escapedList (xs : List String) : String :=
  "[" ++ ", ".intercalate (xs.map escaped) ++ "]"

end Colloquy.Text
