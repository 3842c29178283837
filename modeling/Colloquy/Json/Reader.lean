import Colloquy.Json.Value
import Colloquy.Json.Error
import Colloquy.Decimal.Binary
/-!
# Reading JSON text

The reader walks the UTF-8 bytes of a text with a position, and fails with a cause at a
position. It is written as steps of `Read`: a reading step sees the input, moves the position,
and either yields a value or fails. After a failure the position stays where the step stopped.
Typed decoding uses this to place a failure that has no position yet (`settle`).

## The format's rules

* Blanks between tokens are space, tab, line feed and carriage return.
* An error is placed either *at* the current byte (`fail`, the column counts the bytes read)
  or *at the next byte* (`failAhead`, one further, but never past the end).
* Nesting is limited. `readAny` gets a budget of 127 further openings below the root. An
  opening bracket with no budget left fails with `recursion limit exceeded`.
* Numbers: a whole number accumulates in 64 bits. Past that, the extra digits only raise a
  decimal exponent. A point needs at least one digit after it. An exponent needs at least one
  digit, and beyond `2^31 - 1` it is out of range (or zero, for a zero significand or a
  negative exponent). The value is the significand as binary64 times or divided by a
  correctly rounded power of ten. A finite decimal whose product overflows is out of range.
* Strings: a control character (below U+0020) inside a string is an error. Escapes are
  `\" \\ \/ \b \f \n \r \t` and `\uXXXX`. A leading surrogate escape must be followed by a
  trailing one, and a trailing one may not stand first.
-/

namespace Colloquy.Json

/-- A reading step over fixed input bytes: it may move the position forward, and it yields a
value or fails. The position survives a failure. -/
abbrev Read := ReaderT ByteArray (ExceptT Error (StateM Nat))

/-- The line and column of a byte offset: one more than the line feeds before it, and the
number of bytes since the last of them. -/
def positionOf (input : ByteArray) (i : Nat) : Position :=
  (input.toList.take i).foldl
    (fun p b => if b == 10 then ⟨p.line + 1, 0⟩ else ⟨p.line, p.column + 1⟩) ⟨1, 0⟩

namespace Read

/-- Runs a step from a position, giving the outcome and the final position. -/
def run {α : Type} (m : Read α) (input : ByteArray) (pos : Nat) : Except Error α × Nat :=
  (ExceptT.run (ReaderT.run m input)).run pos

/-- The byte under the position, if any. -/
def peek : Read (Option UInt8) := do
  let input ← read
  let pos ← get
  return input[pos]?

/-- Moves past one byte. -/
def eat : Read Unit :=
  modify (· + 1)

/-- The byte under the position, moving past it. -/
def next : Read (Option UInt8) := do
  let b ← peek
  if b.isSome then eat
  return b

/-- Fails with a cause placed at the current position. -/
def fail {α : Type} (c : Cause) : Read α := do
  let input ← read
  let pos ← get
  throw ⟨c, some (positionOf input pos)⟩

/-- Fails with a cause placed one byte ahead, but never past the end. -/
def failAhead {α : Type} (c : Cause) : Read α := do
  let input ← read
  let pos ← get
  throw ⟨c, some (positionOf input (min (pos + 1) input.size))⟩

/-- Gives an error without a position the current position. -/
def settle (e : Error) : Read Error := do
  match e.position with
  | some _ => return e
  | none =>
    let input ← read
    let pos ← get
    return ⟨e.cause, some (positionOf input pos)⟩

/-- Runs a step; a failure without a position is placed where the reader stands when it
arrives here. -/
def settling {α : Type} (m : Read α) : Read α :=
  tryCatch m fun e => do throw (← settle e)

/-- Whether a byte is a blank between tokens. -/
def isBlankByte (b : UInt8) : Bool :=
  b == 0x20 || b == 0x0A || b == 0x0D || b == 0x09

/-- Whether a byte is a decimal digit. -/
def isDigitByte (b : UInt8) : Bool :=
  0x30 ≤ b && b ≤ 0x39

/-- The value of a digit byte. -/
def digitOf (b : UInt8) : Nat :=
  b.toNat - 0x30

/-- The first position at or after `pos` whose byte fails `p`. -/
def spanEnd (p : UInt8 → Bool) (input : ByteArray) (pos : Nat) : Nat :=
  if h : pos < input.size then
    if p input[pos] then spanEnd p input (pos + 1) else pos
  else pos
termination_by input.size - pos

/-- The first position at or after `pos` that is not a blank. -/
def blankEnd (input : ByteArray) (pos : Nat) : Nat :=
  spanEnd isBlankByte input pos

/-- Skips blanks and looks at the next byte. -/
def skipBlank : Read (Option UInt8) := do
  let input ← read
  modify (blankEnd input)
  peek

/-- How many digits stand from the position on. -/
def digitRun : Read Nat := do
  let input ← read
  let pos ← get
  return spanEnd isDigitByte input pos - pos

/-- Skips the digits under the position. -/
def skipDigits : Read Unit := do
  let input ← read
  modify (spanEnd isDigitByte input)

/-- Reads the rest of a name, byte by byte: the end of input is `eofValue`, another byte is
`expectedIdent`. -/
def ident : List UInt8 → Read Unit
  | [] => return ()
  | b :: rest => do
    match ← next with
    | none => fail .eofValue
    | some c => if c == b then ident rest else fail .expectedIdent

/-! ### Numbers -/

/-- The largest 64-bit unsigned number. -/
def maxU64 : Nat := Nat.pow 2 64 - 1

/-- The largest 32-bit signed number. -/
def maxI32 : Int := (Nat.pow 2 31 : Int) - 1

/-- Clamps to the 32-bit signed range, as a saturating sum does. -/
def clampI32 (x : Int) : Int :=
  max (-(Nat.pow 2 31 : Int)) (min maxI32 x)

/-- Correctly rounded powers of ten, `10^0` to `10^308`. -/
def powersOfTen : Array Float :=
  (List.range 309).toArray.map fun (k : Nat) => Decimal.ofDecimal false 1 (k : Int)

/-- The binary64 value of a significand and a decimal exponent: the significand as binary64,
times or divided by a power of ten. Exponents beyond 308 divide by `10^308` first. A product
that overflows is out of range. -/
def fromParts (positive : Bool) (significand : Nat) (exponent : Int) : Read Float := do
  let mut f := Decimal.nearest false significand 1
  let mut e := exponent
  -- at most three rounds: two divisions by 10^308 bring any 64-bit significand to zero
  for _ in [0:4] do
    if e.natAbs ≤ 308 then
      let p := powersOfTen.getD e.natAbs 1.0
      if 0 ≤ e then
        f := f * p
        if f.isInf then fail .numberOutOfRange
      else
        f := f / p
      break
    else
      if f == 0.0 then break
      if 0 ≤ e then fail .numberOutOfRange
      f := f / 1e308
      e := e + 308
  return if positive then f else -f

/-- Digits after an exponent overflow: out of range for a non-zero significand with a
positive exponent, otherwise zero of the sign. -/
def exponentOverflow (positive zeroSignificand positiveExp : Bool) : Read Float := do
  if !zeroSignificand && positiveExp then fail .numberOutOfRange
  skipDigits
  return if positive then 0.0 else -0.0

/-- The digits of an exponent after its first one. -/
def exponentDigits (fuel : Nat) (exp : Nat) : Read (Option Nat) := do
  match fuel with
  | 0 => return some exp
  | fuel + 1 =>
    match ← peek with
    | some c =>
      if isDigitByte c then
        eat
        let exp' := exp * 10 + digitOf c
        if (exp' : Int) > maxI32 then return none
        exponentDigits fuel exp'
      else return some exp
    | none => return some exp

/-- Reads an exponent, from its `e`, and combines it with a significand and the exponent so
far. -/
def exponentPart (positive : Bool) (significand : Nat) (startExp : Int) : Read Float := do
  eat
  let positiveExp ← do
    match ← peek with
    | some 0x2B => eat; pure true
    | some 0x2D => eat; pure false
    | _ => pure true
  match ← next with
  | none => fail .eofValue
  | some c =>
    if !isDigitByte c then fail .invalidNumber
    let input ← read
    match ← exponentDigits (input.size + 1) (digitOf c) with
    | none => exponentOverflow positive (significand == 0) positiveExp
    | some exp =>
      let final := clampI32 (if positiveExp then startExp + exp else startExp - exp)
      fromParts positive significand final

/-- After a decimal overflow: further digits are ignored. -/
def decimalOverflow (positive : Bool) (significand : Nat) (exponent : Int) : Read Float := do
  skipDigits
  match ← peek with
  | some 0x65 | some 0x45 => exponentPart positive significand exponent
  | _ => fromParts positive significand exponent

/-- Digits after a point: each one raises the significand and lowers the exponent, until the
significand would pass 64 bits. Gives the new significand and count, or notes an overflow. -/
def fractionDigits (fuel : Nat) (significand : Nat) (count : Nat) :
    Read (Nat × Nat × Bool) := do
  match fuel with
  | 0 => return (significand, count, false)
  | fuel + 1 =>
    match ← peek with
    | some c =>
      if isDigitByte c then
        let s := significand * 10 + digitOf c
        if s > maxU64 then return (significand, count, true)
        eat
        fractionDigits fuel s (count + 1)
      else return (significand, count, false)
    | none => return (significand, count, false)

/-- Reads a fraction, from its point. -/
def fractionPart (positive : Bool) (significand : Nat) (expBefore : Int) : Read Float := do
  eat
  let input ← read
  let (sig, count, overflow) ← fractionDigits (input.size + 1) significand 0
  if overflow then decimalOverflow positive sig (expBefore - count)
  else
    if count == 0 then
      match ← peek with
      | some _ => failAhead .invalidNumber
      | none => failAhead .eofValue
    match ← peek with
    | some 0x65 | some 0x45 => exponentPart positive sig (expBefore - count)
    | _ => fromParts positive sig (expBefore - count)

/-- Digits of a whole number beyond 64 bits: each one raises the exponent. -/
def longWhole (positive : Bool) (significand : Nat) : Read Float := do
  let extra ← digitRun
  skipDigits
  match ← peek with
  | some 0x2E => fractionPart positive significand extra
  | some 0x65 | some 0x45 => exponentPart positive significand extra
  | _ => fromParts positive significand extra

/-- What follows the whole digits of a number. A whole number is kept as a whole number when
it fits: below `2^64`, or down to `-2^63`. A negative zero is a binary64 value. -/
def numberTail (positive : Bool) (significand : Nat) : Read Number := do
  match ← peek with
  | some 0x2E => return .float (← fractionPart positive significand 0)
  | some 0x65 | some 0x45 => return .float (← exponentPart positive significand 0)
  | _ =>
    if positive then return .nat significand
    else if 0 < significand ∧ significand ≤ Nat.pow 2 63 then return .neg (-(significand : Int))
    else return .float (-(Decimal.nearest false significand 1))

/-- Whole digits after the first, while they fit in 64 bits. Gives the significand and whether
more digits remain that do not fit. -/
def wholeDigits (fuel : Nat) (significand : Nat) : Read (Nat × Bool) := do
  match fuel with
  | 0 => return (significand, false)
  | fuel + 1 =>
    match ← peek with
    | some c =>
      if isDigitByte c then
        let s := significand * 10 + digitOf c
        if s > maxU64 then return (significand, true)
        eat
        wholeDigits fuel s
      else return (significand, false)
    | none => return (significand, false)

/-- Reads a number after its sign. There is at most one leading zero. -/
def integer (positive : Bool) : Read Number := do
  match ← next with
  | none => fail .eofValue
  | some c =>
    if c == 0x30 then
      match ← peek with
      | some d => if isDigitByte d then failAhead .invalidNumber else numberTail positive 0
      | none => numberTail positive 0
    else if isDigitByte c then
      let input ← read
      let (sig, more) ← wholeDigits (input.size + 1) (digitOf c)
      if more then return .float (← longWhole positive sig)
      else numberTail positive sig
    else fail .invalidNumber

/-! ### Strings -/

/-- The UTF-8 bytes of a code point. -/
def utf8Bytes (n : Nat) : List UInt8 :=
  (Char.ofNat n).toString.toUTF8.toList

/-- Four hexadecimal digits, or `none` if one is not a digit. -/
def hexFour (bs : List UInt8) : Option Nat :=
  bs.foldl (fun acc b =>
    acc.bind fun v =>
      let c := Char.ofNat b.toNat
      if '0' ≤ c ∧ c ≤ '9' then some (v * 16 + (c.toNat - '0'.toNat))
      else if 'a' ≤ c ∧ c ≤ 'f' then some (v * 16 + (c.toNat - 'a'.toNat + 10))
      else if 'A' ≤ c ∧ c ≤ 'F' then some (v * 16 + (c.toNat - 'A'.toNat + 10))
      else none) (some 0)

/-- Reads four hexadecimal digits of an escape. Short input moves to the end and fails. -/
def hexEscape : Read Nat := do
  let input ← read
  let pos ← get
  if pos + 4 ≤ input.size then
    set (pos + 4)
    match hexFour (input.extract pos (pos + 4)).toList with
    | some v => return v
    | none => fail .invalidEscape
  else
    set input.size
    fail .eofString

/-- The byte under the position, failing at the end of input inside a string. -/
def peekInString : Read UInt8 := do
  match ← peek with
  | some b => return b
  | none => fail .eofString

/-- Reads a `\u` escape, with its trailing surrogate when it is a leading one. -/
def unicodeEscape : Read (List UInt8) := do
  let n ← hexEscape
  if 0xDC00 ≤ n ∧ n ≤ 0xDFFF then fail .loneLeadingSurrogate
  if n < 0xD800 ∨ n > 0xDBFF then return utf8Bytes n
  if (← peekInString) == 0x5C then eat
  else
    eat
    fail .unexpectedEndOfHexEscape
  if (← peekInString) == 0x75 then eat
  else
    eat
    fail .unexpectedEndOfHexEscape
  let n2 ← hexEscape
  if n2 < 0xDC00 ∨ n2 > 0xDFFF then fail .loneLeadingSurrogate
  return utf8Bytes (((n - 0xD800) * 0x400 + (n2 - 0xDC00)) + 0x10000)

/-- Reads an escape, after its backslash. -/
def escape : Read (List UInt8) := do
  match ← next with
  | none => fail .eofString
  | some c =>
    match c with
    | 0x22 => return [0x22]
    | 0x5C => return [0x5C]
    | 0x2F => return [0x2F]
    | 0x62 => return [0x08]
    | 0x66 => return [0x0C]
    | 0x6E => return [0x0A]
    | 0x72 => return [0x0D]
    | 0x74 => return [0x09]
    | 0x75 => unicodeEscape
    | _ => fail .invalidEscape

/-- The bytes of a string's contents up to its closing quote. -/
def stringBytes (fuel : Nat) (acc : Array UInt8) : Read (Array UInt8) := do
  match fuel with
  | 0 => fail .eofString
  | fuel + 1 =>
    match ← peek with
    | none => fail .eofString
    | some b =>
      if b == 0x22 then
        eat
        return acc
      else if b == 0x5C then
        eat
        let bs ← escape
        stringBytes fuel (acc ++ bs.toArray)
      else if b < 0x20 then
        eat
        fail .controlCharacter
      else
        eat
        stringBytes fuel (acc.push b)

/-- Reads a string, after its opening quote. -/
def string : Read String := do
  let input ← read
  let bytes ← stringBytes (input.size + 1) #[]
  match String.fromUTF8? ⟨bytes⟩ with
  | some s => return s
  | none => fail .invalidUnicode

/-- Skips an escape, after its backslash, without checking a `\u` escape's value. -/
def skipEscape : Read Unit := do
  match ← next with
  | none => fail .eofString
  | some c =>
    if c == 0x22 || c == 0x5C || c == 0x2F || c == 0x62 || c == 0x66 || c == 0x6E ||
      c == 0x72 || c == 0x74 then return ()
    else if c == 0x75 then discard hexEscape
    else fail .invalidEscape

/-- Skips a string, after its opening quote. A control character fails before it is passed. -/
def skipString (fuel : Nat) : Read Unit := do
  match fuel with
  | 0 => fail .eofString
  | fuel + 1 =>
    match ← peek with
    | none => fail .eofString
    | some b =>
      if b == 0x22 then eat
      else if b == 0x5C then
        eat
        skipEscape
        skipString fuel
      else if b < 0x20 then fail .controlCharacter
      else
        eat
        skipString fuel

/-! ### Lists and objects -/

/-- Before each element of a list: `true` when one follows, `false` at the closing bracket. A
comma must come between elements, and may not come before the bracket. -/
def moreItems (first : Bool) : Read Bool := do
  match ← skipBlank with
  | none => failAhead .eofList
  | some 0x5D => return false
  | some b =>
    if first then return true
    else if b == 0x2C then
      eat
      match ← skipBlank with
      | some 0x5D => failAhead .trailingComma
      | some _ => return true
      | none => failAhead .eofValue
    else failAhead .expectedListCommaOrEnd

/-- Before each key of an object: `true` when one follows, `false` at the closing brace. -/
def moreKeys (first : Bool) : Read Bool := do
  match ← skipBlank with
  | none => failAhead .eofObject
  | some 0x7D => return false
  | some b =>
    if first then
      if b == 0x22 then return true else failAhead .keyMustBeString
    else if b == 0x2C then
      eat
      match ← skipBlank with
      | some 0x22 => return true
      | some 0x7D => failAhead .trailingComma
      | some _ => failAhead .keyMustBeString
      | none => failAhead .eofValue
    else failAhead .expectedObjectCommaOrEnd

/-- Reads a key, at its opening quote. -/
def key : Read String := do
  eat
  string

/-- The colon after a key. -/
def colon : Read Unit := do
  match ← skipBlank with
  | some 0x3A => eat
  | some _ => failAhead .expectedColon
  | none => failAhead .eofObject

/-- The closing bracket of a list. A comma there is a trailing comma when the bracket follows
it; anything else is trailing characters. -/
def endList : Read Unit := do
  match ← skipBlank with
  | some 0x5D => eat
  | some 0x2C =>
    eat
    match ← skipBlank with
    | some 0x5D => failAhead .trailingComma
    | _ => failAhead .trailingCharacters
  | some _ => failAhead .trailingCharacters
  | none => failAhead .eofList

/-- The closing brace of an object. -/
def endObject : Read Unit := do
  match ← skipBlank with
  | some 0x7D => eat
  | some 0x2C => failAhead .trailingComma
  | some _ => failAhead .trailingCharacters
  | none => failAhead .eofObject

/-- Runs the body of a list or object, then its closing step. A failure of the body wins, but
the closing step still moves the position. -/
def closing {α : Type} (body : Read α) (close : Read Unit) : Read α := do
  let r ← tryCatch (do return Except.ok (← body)) fun e => return Except.error e
  let c ← tryCatch (do close; return Except.ok ()) fun e => return Except.error e
  match r, c with
  | .ok a, .ok () => return a
  | .error e, _ => throw e
  | .ok _, .error e => throw e

/-- Reads the items of a list with `item`, up to its closing bracket. -/
def items {α : Type} (item : Read α) (fuel : Nat) (first : Bool) (acc : Array α) :
    Read (Array α) := do
  match fuel with
  | 0 => return acc
  | fuel + 1 =>
    if ← moreItems first then items item fuel false (acc.push (← item))
    else return acc

/-- Reads the entries of an object with `value`, up to its closing brace. -/
def entries {α : Type} (value : Read α) (fuel : Nat) (first : Bool)
    (acc : Array (String × α)) : Read (Array (String × α)) := do
  match fuel with
  | 0 => return acc
  | fuel + 1 =>
    if ← moreKeys first then
      let k ← key
      colon
      let v ← value
      entries value fuel false (acc.push (k, v))
    else return acc

/-- Opens a list or object: with budget left, moves past the bracket and runs `body` with one
less; without, fails with `recursion limit exceeded`. -/
def nested {α : Type} (room : Nat) (body : Nat → Read α) : Read α :=
  match room with
  | 0 => failAhead .recursionLimit
  | r + 1 => do eat; body r

/-- **Reads any value**, with `room` further openings allowed below it. Every object entry is
kept, in order. -/
def any (room : Nat) : Read Value := do
  match ← skipBlank with
  | none => failAhead .eofValue
  | some b =>
    match b with
    | 0x6E => eat; ident [0x75, 0x6C, 0x6C]; return .null
    | 0x74 => eat; ident [0x72, 0x75, 0x65]; return .bool true
    | 0x66 => eat; ident [0x61, 0x6C, 0x73, 0x65]; return .bool false
    | 0x2D => eat; return .number (← integer false)
    | 0x22 => eat; return .string (← string)
    | 0x5B =>
      match room with
      | 0 => failAhead .recursionLimit
      | r + 1 => do
        eat
        let input ← read
        let xs ← closing (items (any r) (input.size + 1) true #[]) endList
        return .array xs.toList
    | 0x7B =>
      match room with
      | 0 => failAhead .recursionLimit
      | r + 1 => do
        eat
        let input ← read
        let fs ← closing (entries (any r) (input.size + 1) true #[]) endObject
        return .object fs.toList
    | _ => if isDigitByte b then return .number (← integer true) else failAhead .expectedValue

/-- The budget of openings below a root value. -/
def rootRoom : Nat := 127

/-- After a whole value, only blanks may follow. -/
def finish : Read Unit := do
  match ← skipBlank with
  | some _ => failAhead .trailingCharacters
  | none => return ()

/-- Skips any value, checking its syntax. Nesting is not limited here. Compared with `any`, a
few faults are named differently. A number is checked for form but not for range. -/
def skipValue (fuel : Nat) : Read Unit := do
  match fuel with
  | 0 => return ()
  | fuel + 1 =>
    match ← skipBlank with
    | none => failAhead .eofValue
    | some b =>
      match b with
      | 0x6E => eat; ident [0x75, 0x6C, 0x6C]
      | 0x74 => eat; ident [0x72, 0x75, 0x65]
      | 0x66 => eat; ident [0x61, 0x6C, 0x73, 0x65]
      | 0x2D => eat; skipNumber
      | 0x22 => eat; let input ← read; skipString (input.size + 1)
      | 0x5B =>
        eat
        match ← skipBlank with
        | some 0x5D => eat
        | some _ => skipItems fuel
        | none => failAhead .eofList
      | 0x7B =>
        eat
        if (← skipBlank) == some 0x7D then eat
        else skipEntries fuel
      | _ => if isDigitByte b then skipNumber else failAhead .expectedValue
where
  /-- The digits, fraction and exponent of a number, after its sign. -/
  skipNumber : Read Unit := do
    match (← next).getD 0 with
    | 0x30 =>
      match ← peek with
      | some d => if isDigitByte d then failAhead .invalidNumber
      | none => pure ()
    | c => if 0x31 ≤ c ∧ c ≤ 0x39 then skipDigits else fail .invalidNumber
    match ← peek with
    | some 0x2E =>
      eat
      if (← digitRun) == 0 then failAhead .invalidNumber
      skipDigits
      match ← peek with
      | some 0x65 | some 0x45 => skipExponent
      | _ => pure ()
    | some 0x65 | some 0x45 => skipExponent
    | _ => pure ()
  /-- An exponent, from its `e`. -/
  skipExponent : Read Unit := do
    eat
    match ← peek with
    | some 0x2B | some 0x2D => eat
    | _ => pure ()
    match (← next).getD 0 with
    | c => if isDigitByte c then skipDigits else fail .invalidNumber
  /-- The items of a list after its first. -/
  skipItems (fuel : Nat) : Read Unit := do
    match fuel with
    | 0 => return ()
    | fuel + 1 =>
      skipValue fuel
      match ← skipBlank with
      | some 0x2C => eat; skipItems fuel
      | some 0x5D => eat
      | some _ => failAhead .expectedListCommaOrEnd
      | none => failAhead .eofList
  /-- The entries of an object. -/
  skipEntries (fuel : Nat) : Read Unit := do
    match fuel with
    | 0 => return ()
    | fuel + 1 =>
      match ← skipBlank with
      | some 0x22 => eat; let input ← read; skipString (input.size + 1)
      | some _ => failAhead .keyMustBeString
      | none => failAhead .eofObject
      match ← skipBlank with
      | some 0x3A => eat
      | some _ => failAhead .expectedColon
      | none => failAhead .eofObject
      skipValue fuel
      match ← skipBlank with
      | some 0x2C => eat; skipEntries fuel
      | some 0x7D => eat
      | some _ => failAhead .expectedObjectCommaOrEnd
      | none => failAhead .eofObject

end Read

/-- **Reads a JSON text** into a value, keeping every object entry. -/
def readValue (s : String) : Except Error Value :=
  (Read.run (do let v ← Read.any Read.rootRoom; Read.finish; return v) s.toUTF8 0).1

/-- Reads a JSON text into its object view: a repeated key keeps its first position and takes
its last value. -/
def parse (s : String) : Except Error Value :=
  (readValue s).map Value.merged

end Colloquy.Json
