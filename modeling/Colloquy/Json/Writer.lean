import Colloquy.Json.Value
import Colloquy.Decimal.Text
/-!
# Writing JSON text

A string is written between quotes. The quote, the backslash and the controls below U+0020 are
escaped: `\"`, `\\`, `\b`, `\f`, `\n`, `\r`, `\t`, and `\u00xx` (lowercase hexadecimal) for the
other controls. Every other character is written as it is.

A number is written as read: whole numbers in decimal, binary64 values in the standard layout
of `Decimal.render`. NaN and the infinities have no JSON form and are written `null`.

`compact` writes no blanks. `pretty` puts each item and entry on its own line, indented by two
spaces per level; an empty list or object stays `[]` or `{}`.
-/

namespace Colloquy.Json

/-- Two lowercase hexadecimal digits of a byte. -/
def hexByte (n : Nat) : String :=
  let d := fun (k : Nat) => if k < 10 then Char.ofNat (48 + k) else Char.ofNat (87 + k)
  String.ofList [d (n / 16 % 16), d (n % 16)]

/-- The written form of one character inside a string. -/
def escapeChar (c : Char) : String :=
  if c = '"' then "\\\""
  else if c = '\\' then "\\\\"
  else if c.toNat < 0x20 then
    if c.toNat = 0x08 then "\\b"
    else if c.toNat = 0x0C then "\\f"
    else if c = '\n' then "\\n"
    else if c = '\r' then "\\r"
    else if c = '\t' then "\\t"
    else "\\u00" ++ hexByte c.toNat
  else c.toString

/-- **A string literal**: the text between quotes, escaped. -/
def quote (s : String) : String :=
  "\"" ++ String.join (s.toList.map escapeChar) ++ "\""

/-- The text of a binary64 value, or `null` when it has none. -/
def floatText (x : Float) : String :=
  if x.isNaN || x.isInf then "null" else Decimal.render x

/-- The text of a number. -/
def Number.text : Number → String
  | .nat n => toString n
  | .neg n => toString n
  | .float x => floatText x

namespace Value

mutual
/-- **Compact text** of a value. -/
def compact : Value → String
  | null => "null"
  | bool b => if b then "true" else "false"
  | number n => n.text
  | string s => quote s
  | array items => "[" ++ ",".intercalate (compactList items) ++ "]"
  | object fields => "\x7b" ++ ",".intercalate (compactFields fields) ++ "\x7d"

/-- `compact` of each item. -/
def compactList : List Value → List String
  | [] => []
  | v :: rest => compact v :: compactList rest

/-- `compact` of each entry. -/
def compactFields : List (String × Value) → List String
  | [] => []
  | (k, v) :: rest => (quote k ++ ":" ++ compact v) :: compactFields rest
end

/-- Spaces for an indentation level. -/
def indent (level : Nat) : String :=
  String.ofList (List.replicate (2 * level) ' ')

mutual
/-- **Pretty text** of a value at an indentation level. -/
def prettyAt (level : Nat) : Value → String
  | array [] => "[]"
  | object [] => "\x7b\x7d"
  | array items =>
    "[\n" ++ ",\n".intercalate (prettyList level items) ++ "\n" ++ indent level ++ "]"
  | object fields =>
    "\x7b\n" ++ ",\n".intercalate (prettyFields level fields) ++ "\n" ++ indent level ++ "\x7d"
  | v => compact v

/-- Each item, indented one level deeper. -/
def prettyList (level : Nat) : List Value → List String
  | [] => []
  | v :: rest => (indent (level + 1) ++ prettyAt (level + 1) v) :: prettyList level rest

/-- Each entry, indented one level deeper. -/
def prettyFields (level : Nat) : List (String × Value) → List String
  | [] => []
  | (k, v) :: rest =>
    (indent (level + 1) ++ quote k ++ ": " ++ prettyAt (level + 1) v) :: prettyFields level rest
end

/-- Pretty text of a value. -/
def pretty (v : Value) : String :=
  prettyAt 0 v

end Value

end Colloquy.Json
