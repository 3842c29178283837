/-!
# Reading errors

A reading error has a cause and, once known, a position. The position is a line (from 1) and
a column: the number of bytes after the last line feed before the point of the error. A cause
that comes from decoding a value into a typed record has no position at first. It takes the
position of the reader when the error leaves the innermost value being read (see
`Json.Read.settle`).

`Error.message` writes the cause and, when there is one, ` at line L column C`.
-/

namespace Colloquy.Json

/-- Why reading failed. -/
inductive Cause where
  | eofValue
  | eofList
  | eofObject
  | eofString
  | expectedColon
  | expectedListCommaOrEnd
  | expectedObjectCommaOrEnd
  | expectedIdent
  | expectedValue
  | expectedDoubleQuote
  | invalidEscape
  | invalidNumber
  | numberOutOfRange
  | invalidUnicode
  | controlCharacter
  | keyMustBeString
  | loneLeadingSurrogate
  | trailingComma
  | trailingCharacters
  | unexpectedEndOfHexEscape
  | recursionLimit
  /-- A cause written out in full, from decoding into a typed record. -/
  | custom (text : String)
  deriving BEq, Inhabited

/-- The words for a cause. -/
def Cause.text : Cause → String
  | eofValue => "EOF while parsing a value"
  | eofList => "EOF while parsing a list"
  | eofObject => "EOF while parsing an object"
  | eofString => "EOF while parsing a string"
  | expectedColon => "expected `:`"
  | expectedListCommaOrEnd => "expected `,` or `]`"
  | expectedObjectCommaOrEnd => "expected `,` or `\x7d`"
  | expectedIdent => "expected ident"
  | expectedValue => "expected value"
  | expectedDoubleQuote => "expected `\"`"
  | invalidEscape => "invalid escape"
  | invalidNumber => "invalid number"
  | numberOutOfRange => "number out of range"
  | invalidUnicode => "invalid unicode code point"
  | controlCharacter => "control character (\\u0000-\\u001F) found while parsing a string"
  | keyMustBeString => "key must be a string"
  | loneLeadingSurrogate => "lone leading surrogate in hex escape"
  | trailingComma => "trailing comma"
  | trailingCharacters => "trailing characters"
  | unexpectedEndOfHexEscape => "unexpected end of hex escape"
  | recursionLimit => "recursion limit exceeded"
  | custom text => text

/-- A line (from 1) and a column (bytes after the last line feed). -/
structure Position where
  line : Nat
  column : Nat
  deriving BEq, Inhabited

/-- A reading error: a cause, and its position once known. -/
structure Error where
  cause : Cause
  position : Option Position
  deriving Inhabited

/-- The text of an error. -/
def Error.message (e : Error) : String :=
  match e.position with
  | some p => e.cause.text ++ " at line " ++ toString p.line ++ " column " ++ toString p.column
  | none => e.cause.text

/-- An error without position, from decoding. -/
def Error.custom (text : String) : Error :=
  ⟨.custom text, none⟩

end Colloquy.Json
