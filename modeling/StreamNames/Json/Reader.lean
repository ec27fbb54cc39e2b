import StreamNames.Text.Decimal
import StreamNames.Text.Offsets
import StreamNames.Text.Quoted

/-!
# Reading JSON

JSON text is read once from left to right. The first fault ends the reading and is reported
at the place reached, by line and column, where columns count bytes.

- `JsonFault`: what can be wrong.
- `JsonReader`: steps that read a part of the text.
- `readString`, `readNumber`, `skipValue`: the parts that do not depend on what is expected.
-/

namespace StreamNames

/-- What can be wrong with JSON text, or with what it describes. -/
inductive JsonFaultKind where
  | endInList | endInObject | endInString | endInValue
  | expectedColon | expectedListEnd | expectedObjectEnd | expectedIdent | expectedValue
  | invalidEscape | invalidNumber | numberOutOfRange | controlCharacter | keyMustBeString
  | loneSurrogate | unexpectedEscapeEnd | trailingComma | trailingCharacters
  /-- Something else than was expected. -/
  | invalidType (found expected : String)
  /-- Too few items for what was expected. -/
  | invalidLength (length : Nat) (expected : String)
  | missingField (name : String)
  | duplicateField (name : String)
  deriving DecidableEq, Repr

/-- The wording of a fault. -/
def JsonFaultKind.message : JsonFaultKind → String
  | endInList => "EOF while parsing a list"
  | endInObject => "EOF while parsing an object"
  | endInString => "EOF while parsing a string"
  | endInValue => "EOF while parsing a value"
  | expectedColon => "expected \x60:\x60"
  | expectedListEnd => "expected \x60,\x60 or \x60]\x60"
  | expectedObjectEnd => "expected \x60,\x60 or \x60\x7d\x60"
  | expectedIdent => "expected ident"
  | expectedValue => "expected value"
  | invalidEscape => "invalid escape"
  | invalidNumber => "invalid number"
  | numberOutOfRange => "number out of range"
  | controlCharacter =>
    "control character (\\u0000-\\u001F) found while parsing a string"
  | keyMustBeString => "key must be a string"
  | loneSurrogate => "lone leading surrogate in hex escape"
  | unexpectedEscapeEnd => "unexpected end of hex escape"
  | trailingComma => "trailing comma"
  | trailingCharacters => "trailing characters"
  | invalidType found expected => "invalid type: " ++ found ++ ", expected " ++ expected
  | invalidLength length expected =>
    "invalid length " ++ toString length ++ ", expected " ++ expected
  | missingField name => "missing field \x60" ++ name ++ "\x60"
  | duplicateField name => "duplicate field \x60" ++ name ++ "\x60"

/-- A fault and the number of bytes before the place where it is reported. -/
structure JsonFault where
  kind : JsonFaultKind
  index : Nat
  deriving DecidableEq, Repr

/-- The line and the column, in bytes, of the place after so many bytes of a text. `offset`
bytes come before the text, on the line and column given. -/
def lineAndColumn : (offset line column : Nat) → List Char → (index : Nat) → Nat × Nat
  | offset, line, column, [], index => (line, column + (index - offset))
  | offset, line, column, c :: rest, index =>
    if index < offset + c.utf8Size then (line, column + (index - offset))
    else if c = '\n' then lineAndColumn (offset + 1) (line + 1) 0 rest index
    else lineAndColumn (offset + c.utf8Size) line (column + c.utf8Size) rest index

/-- A fault in a text with the place where it is reported. -/
def JsonFault.report (fault : JsonFault) (text : String) : String :=
  let (line, column) := lineAndColumn 0 1 0 text.toList fault.index
  fault.kind.message ++ " at line " ++ toString line ++ " column " ++ toString column

/-! ## The state of a reading -/

/-- What is left to read and the number of bytes before it. -/
structure JsonState where
  rest : List Char
  index : Nat

/-- A step that reads some text or finds a fault. -/
abbrev JsonReader := StateT JsonState (Except JsonFault)

namespace JsonReader

/-- Ends the reading; the fault is reported at the place reached. -/
def failHere {α : Type} (kind : JsonFaultKind) : JsonReader α := do
  throw ⟨kind, (← get).index⟩

/-- Ends the reading; the fault is reported after the first byte of what comes next. -/
def failAtNext {α : Type} (kind : JsonFaultKind) : JsonReader α := do
  let s ← get
  throw ⟨kind, if s.rest.isEmpty then s.index else s.index + 1⟩

/-- The next character, if any is left. -/
def next? : JsonReader (Option Char) := return (← get).rest.head?

/-- The number of characters left. -/
def remaining : JsonReader Nat := return (← get).rest.length

/-- Passes the next character. -/
def bump : JsonReader Unit := do
  let s ← get
  match s.rest with
  | c :: rest => set (JsonState.mk rest (s.index + c.utf8Size))
  | [] => return ()

/-- Blanks between the parts of a document. -/
def isBlank (c : Char) : Bool := c = ' ' || c = '\n' || c = '\t' || c = '\r'

/-- Passes the characters that come next and satisfy `p`. -/
def skipWhile (p : Char → Bool) : JsonReader Unit := do
  let s ← get
  let passed := s.rest.takeWhile p
  set (JsonState.mk (s.rest.dropWhile p) (s.index + Text.byteLength passed))

/-- Passes blanks and looks at what follows them. -/
def nextPart? : JsonReader (Option Char) := do
  skipWhile isBlank
  next?

/-- The rest of a word, which must follow. A byte of the text that differs is passed. -/
def readIdent : List Char → JsonReader Unit
  | [] => return ()
  | c :: rest => do
    match ← next? with
    | none => failHere .endInValue
    | some d =>
      if c = d then
        bump
        readIdent rest
      else failAtNext .expectedIdent

/-! ## Strings -/

/-- The value of a hexadecimal digit of either case. -/
def hexValue? (c : Char) : Option Nat :=
  if '0' ≤ c ∧ c ≤ '9' then some (c.toNat - '0'.toNat)
  else if 'a' ≤ c ∧ c ≤ 'f' then some (c.toNat - 'a'.toNat + 10)
  else if 'A' ≤ c ∧ c ≤ 'F' then some (c.toNat - 'A'.toNat + 10)
  else none

/-- The number that four hexadecimal digits spell. If fewer than four bytes are left the
fault is reported at the end of the text, and after four bytes if they are no digits. -/
def readFourHex : JsonReader Nat := do
  let s ← get
  if Text.byteLength (s.rest.take 4) < 4 then
    throw ⟨.endInString, s.index + Text.byteLength s.rest⟩
  match (s.rest.take 4).mapM hexValue? with
  | some digits =>
    set (JsonState.mk (s.rest.drop 4) (s.index + 4))
    return digits.foldl (fun n d => 16 * n + d) 0
  | none => throw ⟨.invalidEscape, s.index + 4⟩

/-- Passes a character that must come next in a pair of escapes. -/
def readPairChar (c : Char) : JsonReader Unit := do
  match ← next? with
  | none => failHere .endInString
  | some d => if c = d then bump else failAtNext .unexpectedEscapeEnd

/-- The character of an escape `\u`, of which the digits are next. Characters beyond 16
bits are a pair of escapes. -/
def readUnicodeEscape : JsonReader Char := do
  let n ← readFourHex
  if 0xdc00 ≤ n ∧ n ≤ 0xdfff then failHere .loneSurrogate
  if n < 0xd800 ∨ 0xdbff < n then return Char.ofNat n
  readPairChar '\\'
  readPairChar 'u'
  let low ← readFourHex
  if low < 0xdc00 ∨ 0xdfff < low then failHere .loneSurrogate
  return Char.ofNat (0x10000 + (n - 0xd800) * 0x400 + (low - 0xdc00))

/-- The character that a letter stands for in an escape. -/
def shortEscape? : Char → Option Char
  | '"' => some '"'
  | '\\' => some '\\'
  | '/' => some '/'
  | 'b' => some '\x08'
  | 'f' => some '\x0c'
  | 'n' => some '\n'
  | 'r' => some '\r'
  | 't' => some '\t'
  | _ => none

/-- The character of an escape, of which the backslash has been passed. -/
def readEscape : JsonReader Char := do
  match ← next? with
  | none => failHere .endInString
  | some 'u' =>
    bump
    readUnicodeEscape
  | some c =>
    match shortEscape? c with
    | some escaped =>
      bump
      return escaped
    | none => failAtNext .invalidEscape

/-- The rest of a string and its closing quote; `text` holds what was read, last character
first. -/
def readStringRest : (bound : Nat) → (text : List Char) → JsonReader String
  | 0, _ => failHere .endInString
  | bound + 1, text => do
    match ← next? with
    | none => failHere .endInString
    | some '"' =>
      bump
      return String.ofList text.reverse
    | some '\\' =>
      bump
      readStringRest bound ((← readEscape) :: text)
    | some c =>
      bump
      if c.toNat < 0x20 then failHere .controlCharacter
      readStringRest bound (c :: text)

/-- A string, of which the opening quote is next. -/
def readString : JsonReader String := do
  bump
  readStringRest ((← remaining) + 1) []

/-- Passes an escape without forming its character. -/
def skipEscape : JsonReader Unit := do
  match ← next? with
  | none => failHere .endInString
  | some 'u' =>
    bump
    discard readFourHex
  | some c => if (shortEscape? c).isSome then bump else failAtNext .invalidEscape

/-- Passes the rest of a string and its closing quote. -/
def skipStringRest : (bound : Nat) → JsonReader Unit
  | 0 => failHere .endInString
  | bound + 1 => do
    match ← next? with
    | none => failHere .endInString
    | some '"' => bump
    | some '\\' =>
      bump
      skipEscape
      skipStringRest bound
    | some c =>
      if c.toNat < 0x20 then failHere .controlCharacter
      bump
      skipStringRest bound

/-! ## Numbers -/

/-- A number as it is understood: one that is too large, or has a fraction or an exponent,
is a floating-point number. -/
inductive Number where
  | natural (n : Nat)
  | negative (n : Nat)
  | float (f : Float)

/-- A number in words. -/
def Number.describe : Number → String
  | natural n => "integer \x60" ++ toString n ++ "\x60"
  | negative n => "integer \x60-" ++ toString n ++ "\x60"
  | float f => "floating point \x60" ++ Text.floatText f ++ "\x60"

/-- Collects the digits that come next. -/
def takeDigits : JsonReader (List Char) := do
  let digits := (← get).rest.takeWhile Char.isDigit
  skipWhile Char.isDigit
  return digits

/-- Ends the reading unless a digit comes next. What comes instead is passed. -/
def requireDigit (atEnd : JsonFaultKind) : JsonReader Unit := do
  match ← next? with
  | none => failHere atEnd
  | some c => if c.isDigit then return () else failAtNext .invalidNumber

/-- Digits added to a number while it stays within 64 bits: the number and the digits that
are left over. -/
def accumulate : (n : Nat) → List Char → Nat × List Char
  | n, [] => (n, [])
  | n, d :: digits =>
    let m := 10 * n + (d.toNat - '0'.toNat)
    if m < UInt64.size then accumulate m digits else (n, d :: digits)

/-- A power of ten as a floating-point number. -/
def powerOfTen (n : Nat) : Float := Float.ofScientific 1 false n

/-- A number scaled by a power of ten, by one multiplication or division where the power
is at most 308. Very small numbers are scaled in steps; numbers beyond the largest finite
one have no result. -/
def scaled? (bound : Nat) (f : Float) (exponent : Int) : Option Float :=
  match bound with
  | 0 => some f
  | bound + 1 =>
    if exponent.natAbs ≤ 308 then
      if 0 ≤ exponent then
        let f := f * powerOfTen exponent.natAbs
        if f.isInf then none else some f
      else some (f / powerOfTen exponent.natAbs)
    else if f == 0.0 then some f
    else if 0 ≤ exponent then none
    else scaled? bound (f / powerOfTen 308) (exponent + 308)

/-- A floating-point number from its parts. -/
def floatOf (positive : Bool) (significand : Nat) (exponent : Int) : JsonReader Number := do
  match scaled? 8 (UInt64.ofNat significand).toFloat exponent with
  | some f => return .float (if positive then f else -f)
  | none => failHere .numberOutOfRange

/-- The exponent of a number, of which the letter is next. An exponent beyond 31 bits makes
a number zero or leaves it without a result. -/
def readExponent (positive : Bool) (significand : Nat) (start : Int) :
    JsonReader Number := do
  bump
  let sign ← next?
  if sign = some '+' ∨ sign = some '-' then bump
  requireDigit .endInValue
  let before := (← get).index
  let digits ← takeDigits
  let value (digits : List Char) : Nat :=
    digits.foldl (fun n c => 10 * n + (c.toNat - '0'.toNat)) 0
  let fits := (List.range digits.length).find? fun n => Nat.pow 2 31 ≤ value (digits.take (n + 1))
  match fits with
  | some n =>
    if significand ≠ 0 ∧ sign ≠ some '-' then throw ⟨.numberOutOfRange, before + n + 1⟩
    return .float (if positive then 0.0 else -0.0)
  | none =>
    let exponent : Int := value digits
    floatOf positive significand (if sign = some '-' then start - exponent else start + exponent)

/-- The fraction of a number, of which the point is next. -/
def readFraction (positive : Bool) (significand : Nat) (start : Int) :
    JsonReader Number := do
  bump
  let digits ← takeDigits
  if digits.isEmpty then
    match ← next? with
    | some _ => failAtNext .invalidNumber
    | none => failAtNext .endInValue
  let (significand, ignored) := accumulate significand digits
  let exponent := start - ((digits.length - ignored.length : Nat) : Int)
  match ← next? with
  | some 'e' | some 'E' => readExponent positive significand exponent
  | _ => floatOf positive significand exponent

/-- A number, of which a minus sign has been passed unless it is positive. -/
def readNumber (positive : Bool) : JsonReader Number := do
  requireDigit .endInValue
  let digits ← if (← next?) = some '0' then do
      bump
      if (← next?).any Char.isDigit then failAtNext .invalidNumber
      pure ['0']
    else takeDigits
  let (significand, ignored) := accumulate 0 digits
  match ← next? with
  | some '.' => readFraction positive significand ignored.length
  | some 'e' | some 'E' => readExponent positive significand ignored.length
  | _ =>
    if !ignored.isEmpty then floatOf positive significand ignored.length
    else if positive then return .natural significand
    else if significand = 0 ∨ Nat.pow 2 63 < significand then
      return .float (-(UInt64.ofNat significand).toFloat)
    else return .negative significand

/-- Passes the exponent of a number, of which the letter is next. -/
def skipExponent : JsonReader Unit := do
  bump
  let sign ← next?
  if sign = some '+' ∨ sign = some '-' then bump
  requireDigit .invalidNumber
  skipWhile Char.isDigit

/-- Passes a number without its sign. -/
def skipNumber : JsonReader Unit := do
  requireDigit .invalidNumber
  if (← next?) = some '0' then
    bump
    if (← next?).any Char.isDigit then failAtNext .invalidNumber
  else skipWhile Char.isDigit
  if (← next?) = some '.' then
    bump
    if !(← next?).any Char.isDigit then failAtNext .invalidNumber
    skipWhile Char.isDigit
  let letter ← next?
  if letter = some 'e' ∨ letter = some 'E' then skipExponent

/-! ## Values of any kind -/

/-- An open list or object. -/
inductive Enclosing where
  | list | object
  deriving DecidableEq, Repr

/-- Passes a name and the colon after it. -/
def skipKey : JsonReader Unit := do
  match ← nextPart? with
  | some '"' => bump
  | some _ => failAtNext .keyMustBeString
  | none => failAtNext .endInObject
  skipStringRest ((← remaining) + 1)
  match ← nextPart? with
  | some ':' => bump
  | some _ => failAtNext .expectedColon
  | none => failAtNext .endInObject

/-- Goes on after a value or an opening bracket within open lists and objects: passes
closing brackets, up to a comma if `afterValue`. Yields what is still open. -/
def closeEnclosing : (bound : Nat) → (afterValue : Bool) → List Enclosing →
    JsonReader (List Enclosing)
  | 0, _, open_ => return open_
  | _ + 1, _, [] => return []
  | bound + 1, afterValue, enclosing :: outer => do
    let close := match enclosing with
      | .list => ']'
      | .object => '\x7d'
    match ← nextPart? with
    | none => failAtNext (match enclosing with
        | .list => .endInList
        | .object => .endInObject)
    | some c =>
      if afterValue && c = ',' then
        bump
        return enclosing :: outer
      else if c = close then
        bump
        closeEnclosing bound true outer
      else if afterValue then
        failAtNext (match enclosing with
          | .list => .expectedListEnd
          | .object => .expectedObjectEnd)
      else return enclosing :: outer

/-- Passes a value within open lists and objects, and everything up to their ends. -/
def skipValues : (bound : Nat) → List Enclosing → JsonReader Unit
  | 0, _ => return ()
  | bound + 1, outer => do
    let (afterValue, enclosing) ← match ← nextPart? with
      | none => failAtNext .endInValue
      | some 'n' => do bump; readIdent ['u', 'l', 'l']; pure (true, outer)
      | some 't' => do bump; readIdent ['r', 'u', 'e']; pure (true, outer)
      | some 'f' => do bump; readIdent ['a', 'l', 's', 'e']; pure (true, outer)
      | some '-' => do bump; skipNumber; pure (true, outer)
      | some '"' => do bump; skipStringRest ((← remaining) + 1); pure (true, outer)
      | some '[' => do bump; pure (false, .list :: outer)
      | some '\x7b' => do bump; pure (false, .object :: outer)
      | some c => do
        if c.isDigit then
          skipNumber
          pure (true, outer)
        else failAtNext .expectedValue
    match ← closeEnclosing ((← remaining) + 2) afterValue enclosing with
    | [] => return ()
    | enclosing :: outer =>
      if enclosing = .object then skipKey
      skipValues bound (enclosing :: outer)

/-- Passes a value. -/
def skipValue : JsonReader Unit := do
  skipValues ((← remaining) + 1) []

/-- Ends the reading where something else than `expected` comes next. Simple values are
read first, so that the fault can name them. -/
def failType {α : Type} (expected : String) : JsonReader α := do
  let found ← match ← next? with
    | some 'n' => do bump; readIdent ['u', 'l', 'l']; pure "null"
    | some 't' => do bump; readIdent ['r', 'u', 'e']; pure "boolean \x60true\x60"
    | some 'f' => do bump; readIdent ['a', 'l', 's', 'e']; pure "boolean \x60false\x60"
    | some '-' => do bump; pure (← readNumber false).describe
    | some '"' => do pure ("string " ++ Text.quoted (← readString))
    | some '[' => pure "sequence"
    | some '\x7b' => pure "map"
    | some c => if c.isDigit then pure (← readNumber true).describe else failAtNext .expectedValue
    | none => failAtNext .expectedValue
  failHere (.invalidType found expected)

end JsonReader

end StreamNames
