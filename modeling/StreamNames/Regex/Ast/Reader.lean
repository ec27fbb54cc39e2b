import StreamNames.Regex.Fault
import StreamNames.Unicode.BinaryProperty

/-!
# Reading regular expressions

The text is read once from left to right, and the first fault ends the reading.

- `Scan`: steps that read a part of the text; `ScanState` is what they carry along.
- `readEscape`, `readBracketed`, `readCounted`, …: the parts of an expression.
- `Ast.read`: a whole expression.

Groups that are open are kept in a list (`GroupFrame`), and so are open brackets
(`ClassFrame`). A loop that is bounded by its first argument is given the number of
characters left, each round takes at least one of them.
-/

namespace StreamNames.Regex

open StreamNames.Unicode (isWhitespace isAlphabetic isAlphanumeric)

/-! ## The state of a reading -/

/-- What is left to read and what has been seen. `verbose` is set while blanks and comments
are skipped; `captures` counts the capture groups that were opened, `names` lists their
names with the place of each. -/
structure ScanState where
  rest : List Char
  place : Position
  verbose : Bool
  captures : Nat
  names : List (String × Span)

/-- A step that reads some text or finds a fault. -/
abbrev Scan := StateT ScanState (Except Fault)

namespace Scan

/-- Ends the reading. -/
def fail {α : Type} (kind : FaultKind) (span : Span) : Scan α :=
  throw ⟨kind, span, none⟩

/-- The place reached. -/
def here : Scan Position := return (← get).place

/-- The next character, if any is left. -/
def next? : Scan (Option Char) := return (← get).rest.head?

/-- The character after the next one. -/
def second? : Scan (Option Char) := return (← get).rest.tail.head?

/-- Whether nothing is left. -/
def atEnd : Scan Bool := return (← get).rest.isEmpty

/-- How many characters are left. -/
def remaining : Scan Nat := return (← get).rest.length

/-- The stretch of the next character. -/
def spanOfNext : Scan Span := do
  let s ← get
  match s.rest with
  | c :: _ => return ⟨s.place, s.place.advance c⟩
  | [] => return .point s.place

/-- Passes the next character; tells whether another one follows. -/
def bump : Scan Bool := do
  let s ← get
  match s.rest with
  | c :: rest =>
    set { s with rest, place := s.place.advance c }
    return !rest.isEmpty
  | [] => return false

/-- What follows blanks and comments, and its place. -/
def skipBlanks : (inComment : Bool) → List Char → Position → List Char × Position
  | _, [], place => ([], place)
  | true, c :: rest, place => skipBlanks (c ≠ '\n') rest (place.advance c)
  | false, c :: rest, place =>
    if isWhitespace c then skipBlanks false rest (place.advance c)
    else if c = '#' then skipBlanks true rest (place.advance c)
    else (c :: rest, place)

/-- Passes blanks and comments if these are to be skipped. -/
def bumpBlanks : Scan Unit := do
  let s ← get
  if s.verbose then
    let (rest, place) := skipBlanks false s.rest s.place
    set { s with rest, place }

/-- Passes the next character and blanks after it; tells whether another one follows. -/
def bumpWithBlanks : Scan Bool := do
  if ← bump then
    bumpBlanks
    return !(← atEnd)
  else return false

/-- Passes the given characters if they come next. -/
def bumpIf (text : List Char) : Scan Bool := do
  if text.isPrefixOf (← get).rest then
    text.forM fun _ => discard bump
    return true
  else return false

/-- The first character that is neither blank nor the start of a comment. -/
def significant? : (inComment : Bool) → List Char → Option Char
  | _, [] => none
  | inComment, c :: rest =>
    if isWhitespace c then significant? inComment rest
    else if !inComment && c = '#' then significant? true rest
    else some c

/-- The character after the next one, where blanks may be skipped. -/
def secondSignificant? : Scan (Option Char) := do
  let s ← get
  let after := s.rest.tail
  if s.verbose then
    return match significant? false after with
      | some c => some c
      | none => after.head?
  else return after.head?

/-- Collects the characters that satisfy `p`, passing each with `step`. -/
def collect (p : Char → Bool) (step : Scan Bool) : (bound : Nat) → Scan (List Char)
  | 0 => return []
  | bound + 1 => do
    match ← next? with
    | some c =>
      if p c then
        discard step
        return c :: (← collect p step bound)
      else return []
    | none => return []

/-- Collects all the characters that come next and satisfy `p`. -/
def collectWhile (p : Char → Bool) (step : Scan Bool) : Scan (List Char) := do
  collect p step (← remaining)

end Scan

open Scan

/-! ## Escapes -/

/-- What an escape stands for. -/
inductive Primitive where
  | literal (literal : Literal)
  | assertion (span : Span) (kind : Assertion)
  | property (span : Span) (negated : Bool) (name : PropertyName)
  | perl (span : Span) (negated : Bool) (kind : PerlClass)
  | dot (span : Span)

/-- The text that a primitive came from. -/
def Primitive.span : Primitive → Span
  | literal l => l.span
  | assertion span _ | property span _ _ | perl span _ _ | dot span => span

/-- A primitive as an expression. -/
def Primitive.toAst : Primitive → Ast
  | literal l => .literal l
  | assertion span kind => .assertion span kind
  | property span negated name => .property span negated name
  | perl span negated kind => .perl span negated kind
  | dot span => .dot span

/-- Characters with a meaning of their own, which a backslash takes away. -/
def isMeta (c : Char) : Bool :=
  "\\.+*?()|[]\x7b\x7d^$#&-~".toList.contains c

/-- Characters that a backslash leaves as they are. -/
def isEscapable (c : Char) : Bool :=
  isMeta c || (c.toNat < 0x80 && !c.isAlphanum && c ≠ '<' && c ≠ '>')

/-- The value of a hexadecimal digit of either case. -/
def hexDigit? (c : Char) : Option Nat :=
  if '0' ≤ c ∧ c ≤ '9' then some (c.toNat - '0'.toNat)
  else if 'a' ≤ c ∧ c ≤ 'f' then some (c.toNat - 'a'.toNat + 10)
  else if 'A' ≤ c ∧ c ≤ 'F' then some (c.toNat - 'A'.toNat + 10)
  else none

/-- The number that digits to a base spell. -/
def numeral (base : Nat) (digits : List Char) : Nat :=
  digits.foldl (fun n c => base * n + (hexDigit? c).getD 0) 0

/-- The character with a code given in hexadecimal, unless there is none. -/
def charOfHex? (digits : List Char) : Option Char :=
  let code := numeral 16 digits
  if code.isValidChar then some (Char.ofNat code) else none

/-- A fixed number of hexadecimal digits, of which the first is next. -/
def readHexDigits : (count : Nat) → Scan (List Char)
  | 0 => return []
  | count + 1 => do
    match ← next? with
    | none => fail .escapeUnexpectedEnd (.point (← here))
    | some c =>
      if (hexDigit? c).isNone then fail .hexInvalidDigit (← spanOfNext)
      discard bumpWithBlanks
      return c :: (← readHexDigits count)

/-- Hexadecimal digits up to a closing brace, which is left. -/
def readBracedHex : (bound : Nat) → Scan (List Char)
  | 0 => return []
  | bound + 1 => do
    match ← next? with
    | none => return []
    | some '\x7d' => return []
    | some c =>
      if (hexDigit? c).isNone then fail .hexInvalidDigit (← spanOfNext)
      discard bumpWithBlanks
      return c :: (← readBracedHex bound)

/-- A character by its code, after `\x`, `\u` or `\U`: so many digits, or any number of
them in braces. `start` is the place of the backslash. -/
def readHex (start : Position) (digits : Nat) : Scan Literal := do
  if !(← bumpWithBlanks) then fail .escapeUnexpectedEnd (.point (← here))
  if (← next?) = some '\x7b' then
    let brace ← here
    discard bump
    let inside ← here
    bumpBlanks
    let digits ← readBracedHex (← remaining)
    if ← atEnd then fail .escapeUnexpectedEnd ⟨brace, ← here⟩
    let stop ← here
    discard bumpWithBlanks
    if digits.isEmpty then fail .hexEmpty ⟨brace, ← here⟩
    match charOfHex? digits with
    | none => fail .hexInvalid ⟨inside, stop⟩
    | some c => return ⟨⟨start, ← here⟩, c, false⟩
  else
    let first ← here
    let spelled ← readHexDigits digits
    match charOfHex? spelled with
    | none => fail .hexInvalid ⟨first, ← here⟩
    | some c => return ⟨⟨start, ← here⟩, c, digits = 2⟩

/-- The text before the first occurrence of a separator and the text after it. -/
def splitAtFirst? (separator : List Char) : List Char → Option (List Char × List Char)
  | [] => none
  | c :: rest =>
    if separator.isPrefixOf (c :: rest) then
      some ([], (c :: rest).drop separator.length)
    else (splitAtFirst? separator rest).map fun (before, after) => (c :: before, after)

/-- What the text between the braces of `\p{…}` names. -/
def PropertyName.ofBraced (text : List Char) : PropertyName :=
  match splitAtFirst? ['!', '='] text with
  | some (property, value) => .valued (String.ofList property) (String.ofList value)
  | none =>
    match splitAtFirst? [':'] text with
    | some (property, value) => .valued (String.ofList property) (String.ofList value)
    | none =>
      match splitAtFirst? ['='] text with
      | some (property, value) => .valued (String.ofList property) (String.ofList value)
      | none => .single (String.ofList text)

/-- A property, after `\p` or `\P`. -/
def readProperty (start : Position) (negated : Bool) : Scan Primitive := do
  if !(← bumpWithBlanks) then fail .escapeUnexpectedEnd (.point (← here))
  match ← next? with
  | some '\x7b' =>
    discard bumpWithBlanks
    let name ← collectWhile (· ≠ '\x7d') bumpWithBlanks
    if ← atEnd then fail .escapeUnexpectedEnd (.point (← here))
    discard bump
    return .property ⟨start, ← here⟩ negated (.ofBraced name)
  | some '\\' => fail .propertyClassInvalid (← spanOfNext)
  | some c =>
    discard bumpWithBlanks
    return .property ⟨start, ← here⟩ negated (.single (String.ofList [c]))
  | none => fail .escapeUnexpectedEnd (.point (← here))

/-- The test that a word between the braces of `\b{…}` names. -/
def Assertion.ofWord? (word : List Char) : Option Assertion :=
  match String.ofList word with
  | "start" => some .wordStart
  | "end" => some .wordEnd
  | "start-half" => some .wordStartHalf
  | "end-half" => some .wordEndHalf
  | _ => none

/-- The characters of the words between the braces of `\b{…}`. -/
def isWordTestChar (c : Char) : Bool := c.isAlpha || c = '-'

/-- The rest of an escape after `\b`. A brace opens the name of a test if a letter or a
hyphen follows it, and a repetition otherwise. -/
def readWordBoundary (start : Position) : Scan Primitive := do
  let plain := Primitive.assertion ⟨start, ← here⟩ .wordBoundary
  if (← next?) ≠ some '\x7b' then return plain
  let before ← get
  let brace ← here
  if !(← bumpWithBlanks) then fail .wordBoundaryUnexpectedEnd ⟨start, ← here⟩
  let inside ← here
  if !((← next?).any isWordTestChar) then
    set before
    return plain
  let word ← collectWhile isWordTestChar bumpWithBlanks
  if (← next?) ≠ some '\x7d' then fail .wordBoundaryUnclosed ⟨brace, ← here⟩
  let stop ← here
  discard bump
  match Assertion.ofWord? word with
  | some kind => return .assertion ⟨start, ← here⟩ kind
  | none => fail .wordBoundaryUnrecognized ⟨inside, stop⟩

/-- An escape, of which the backslash is next. -/
def readEscape : Scan Primitive := do
  let start ← here
  if !(← bump) then fail .escapeUnexpectedEnd ⟨start, ← here⟩
  match ← next? with
  | none => fail .escapeUnexpectedEnd ⟨start, ← here⟩
  | some c =>
    if c.isDigit then fail .backreference ⟨start, (← spanOfNext).stop⟩
    else if c = 'x' then return .literal (← readHex start 2)
    else if c = 'u' then return .literal (← readHex start 4)
    else if c = 'U' then return .literal (← readHex start 8)
    else if c = 'p' then readProperty start false
    else if c = 'P' then readProperty start true
    else
      discard bump
      let span : Span := ⟨start, ← here⟩
      let special (char : Char) : Scan Primitive := return .literal ⟨span, char, false⟩
      if isEscapable c then return .literal ⟨span, c, false⟩
      match c with
      | 'd' => return .perl span false .digit
      | 'D' => return .perl span true .digit
      | 's' => return .perl span false .space
      | 'S' => return .perl span true .space
      | 'w' => return .perl span false .word
      | 'W' => return .perl span true .word
      | 'a' => special '\x07'
      | 'f' => special '\x0c'
      | 't' => special '\t'
      | 'n' => special '\n'
      | 'r' => special '\r'
      | 'v' => special '\x0b'
      | 'A' => return .assertion span .startText
      | 'z' => return .assertion span .endText
      | 'b' => readWordBoundary start
      | 'B' => return .assertion span .notWordBoundary
      | '<' => return .assertion span .wordStart
      | '>' => return .assertion span .wordEnd
      | _ => fail .escapeUnrecognized span

/-! ## Brackets -/

/-- A list of items as one item: alone, if it is one. `items` holds the last one first. -/
def ClassItem.ofItems (start : Position) (items : List ClassItem) : ClassItem :=
  match items with
  | [] => .empty (.point start)
  | [item] => item
  | last :: _ =>
    let ordered := items.reverse
    let first := match ordered with
      | item :: _ => item.span.start
      | [] => start
    .union ⟨first, last.span.stop⟩ ordered

/-- An open bracket or the left side of an operation on sets. An open bracket keeps the
items before it, and the stretch of its opening. -/
inductive ClassFrame where
  | opened (opening : Span) (negated : Bool) (outerStart : Position) (outer : List ClassItem)
  | operation (kind : SetOp) (lhs : ClassItem)

/-- The stretch of the innermost bracket that is open. -/
def ClassFrame.innermost? : List ClassFrame → Option Span
  | [] => none
  | .opened opening _ _ _ :: _ => some opening
  | .operation _ _ :: frames => innermost? frames

/-- Ends the reading within brackets that were not closed. -/
def failUnclosed {α : Type} (frames : List ClassFrame) : Scan α := do
  match ClassFrame.innermost? frames with
  | some opening => fail .classUnclosed opening
  | none => fail .classUnclosed (.point (← here))

/-- One character or escape between brackets. -/
def readClassPrimitive : Scan Primitive := do
  if (← next?) = some '\\' then readEscape
  else
    let span ← spanOfNext
    let c ← next?
    discard bump
    return .literal ⟨span, c.getD ' ', false⟩

/-- A primitive as a member of a set. -/
def Primitive.toItem : Primitive → Scan ClassItem
  | literal l => return .literal l
  | property span negated name => return .property span negated name
  | perl span negated kind => return .perl span negated kind
  | assertion span _ | dot span => fail .classEscapeInvalid span

/-- A primitive as the end of a range. -/
def Primitive.toBound : Primitive → Scan Literal
  | literal l => return l
  | other => fail .classRangeLiteral other.span

/-- One character, escape or range between brackets. A hyphen before a closing bracket or
before another hyphen makes no range. -/
def readClassRange (frames : List ClassFrame) : Scan ClassItem := do
  let first ← readClassPrimitive
  bumpBlanks
  if ← atEnd then failUnclosed frames
  let after ← secondSignificant?
  if (← next?) ≠ some '-' ∨ after = some ']' ∨ after = some '-' then first.toItem
  else
    if !(← bumpWithBlanks) then failUnclosed frames
    let last ← readClassPrimitive
    let span : Span := ⟨first.span.start, last.span.stop⟩
    let lo ← first.toBound
    let hi ← last.toBound
    if hi.char < lo.char then fail .classRangeInvalid span
    return .range span lo hi

/-- A class such as `[:alpha:]`, if one comes next; nothing is read otherwise. -/
def readAsciiClass? : Scan (Option ClassItem) := do
  let before ← get
  let giveUp : Scan (Option ClassItem) := do
    set before
    return none
  let start ← here
  discard bump
  if (← next?) ≠ some ':' then return ← giveUp
  if !(← bump) then return ← giveUp
  let negated := (← next?) = some '^'
  if negated then
    if !(← bump) then return ← giveUp
  let name ← collectWhile (· ≠ ':') bump
  if !(← bumpIf [':', ']']) then return ← giveUp
  match AsciiClass.ofName? (String.ofList name) with
  | some kind => return some (.ascii ⟨start, ← here⟩ negated kind)
  | none => giveUp

/-- Hyphens at the start of brackets, which stand for themselves, last one first. -/
def readLeadingHyphens (start : Position) : (bound : Nat) → List ClassItem →
    Scan (List ClassItem)
  | 0, items => return items
  | bound + 1, items => do
    if (← next?) = some '-' then
      let hyphen := ClassItem.literal ⟨← spanOfNext, '-', false⟩
      if !(← bumpWithBlanks) then fail .classUnclosed (.point start)
      readLeadingHyphens start bound (hyphen :: items)
    else return items

/-- An opening bracket with what may only stand at the start: a caret, hyphens, and a
closing bracket that stands for itself. Yields the stretch read, whether the set is
negated, and the place and items of its contents so far. -/
def readClassOpening : Scan (Span × Bool × Position × List ClassItem) := do
  let start ← here
  if !(← bumpWithBlanks) then fail .classUnclosed ⟨start, ← here⟩
  let negated := (← next?) = some '^'
  if negated then
    if !(← bumpWithBlanks) then fail .classUnclosed ⟨start, ← here⟩
  let inside ← here
  let items ← readLeadingHyphens start (← remaining) []
  let items ← if items.isEmpty && (← next?) = some ']' then do
      let bracket := ClassItem.literal ⟨← spanOfNext, ']', false⟩
      if !(← bumpWithBlanks) then fail .classUnclosed ⟨start, ← here⟩
      pure [bracket]
    else pure items
  return (⟨start, ← here⟩, negated, inside, items)

/-- Joins a finished right side to the left side that waits for it. -/
def joinOperation (frames : List ClassFrame) (rhs : ClassItem) :
    ClassItem × List ClassFrame :=
  match frames with
  | .operation kind lhs :: frames =>
    (.op ⟨lhs.span.start, rhs.span.stop⟩ kind lhs rhs, frames)
  | _ => (rhs, frames)

/-- The operation on sets that comes next. -/
def nextOperation? : Scan (Option SetOp) := do
  let operation? (c : Char) : Option SetOp :=
    if c = '&' then some .intersection
    else if c = '-' then some .difference
    else if c = '~' then some .symmetricDifference
    else none
  let next ← next?
  if next = (← second?) then return next.bind operation? else return none

/-- The rest of a set between brackets. `start` and `items` are the place and the contents,
last one first, of the innermost set or of the right side of its last operation. -/
def readClassBody : (bound : Nat) → (frames : List ClassFrame) → (start : Position) →
    (items : List ClassItem) → Scan Ast
  | 0, frames, _, _ => failUnclosed frames
  | bound + 1, frames, start, items => do
    bumpBlanks
    match ← next? with
    | none => failUnclosed frames
    | some '[' =>
      match ← readAsciiClass? with
      | some item => readClassBody bound frames start (item :: items)
      | none =>
        let (opening, negated, inside, nested) ← readClassOpening
        readClassBody bound (.opened opening negated start items :: frames) inside nested
    | some ']' =>
      let (body, frames) := joinOperation frames (.ofItems start items)
      match frames with
      | .opened opening negated outerStart outer :: frames =>
        discard bump
        let span : Span := ⟨opening.start, ← here⟩
        if frames.isEmpty then return .bracketed span negated body
        else
          readClassBody bound frames outerStart (.bracketed span negated body :: outer)
      | _ => failUnclosed frames
    | some _ =>
      match ← nextOperation? with
      | some kind =>
        discard bump
        discard bump
        let (lhs, frames) := joinOperation frames (.ofItems start items)
        readClassBody bound (.operation kind lhs :: frames) (← here) []
      | none => readClassBody bound frames start ((← readClassRange frames) :: items)

/-- A set between brackets, of which the opening bracket is next. -/
def readBracketed : Scan Ast := do
  let bound ← remaining
  let place ← here
  let (opening, negated, inside, items) ← readClassOpening
  readClassBody bound [.opened opening negated place []] inside items

/-! ## Repetitions -/

/-- A decimal number of at most 32 bits, among blanks. Without digits the fault is
`repetitionCountEmpty`. -/
def readDecimal : Scan (Except Fault Nat) := do
  discard (collectWhile isWhitespace bump)
  let start ← here
  let digits ← collectWhile Char.isDigit bumpWithBlanks
  let span : Span := ⟨start, ← here⟩
  discard (collectWhile isWhitespace bumpWithBlanks)
  let value := numeral 10 digits
  if digits.isEmpty then return .error ⟨.repetitionCountEmpty, span, none⟩
  else if value < UInt32.size then return .ok value
  else return .error ⟨.decimalInvalid, span, none⟩

/-- The last item read, which a repetition applies to, and the items before it. -/
def takeOperand (items : List Ast) : Scan (Ast × List Ast) := do
  match items with
  | [] | .empty _ :: _ | .flags _ _ :: _ => fail .repetitionMissing (.point (← here))
  | item :: before => return (item, before)

/-- Whether the repetition just read is greedy: it is not if a question mark follows,
which is passed. -/
def readGreed (more : Bool) : Scan Bool := do
  if more && (← next?) = some '?' then
    discard bump
    return false
  else return true

/-- A repetition by `?`, `*` or `+`, which is next. -/
def readSymbol (counts : Counts) (items : List Ast) : Scan (List Ast) := do
  let (item, before) ← takeOperand items
  let greedy ← readGreed (← bump)
  return .repetition ⟨item.span.start, ← here⟩ counts false greedy item :: before

/-- A repetition with bounds in braces, of which the opening brace is next. -/
def readCounted (items : List Ast) : Scan (List Ast) := do
  let start ← here
  let (item, before) ← takeOperand items
  let unclosed {α : Type} : Scan α := do fail .repetitionCountUnclosed ⟨start, ← here⟩
  if !(← bumpWithBlanks) then unclosed
  let lower ← readDecimal
  if ← atEnd then unclosed
  let counts ← if (← next?) = some ',' then do
      if !(← bumpWithBlanks) then unclosed
      if (← next?) = some '\x7d' then pure (Counts.mk (← lower) none)
      else do
        let min ← lower
        let max ← liftM (← readDecimal)
        pure (Counts.mk min (some max))
    else do
      let exact ← lower
      pure (Counts.mk exact (some exact))
  if (← next?) ≠ some '\x7d' then unclosed
  let greedy ← readGreed (← bumpWithBlanks)
  let span : Span := ⟨start, ← here⟩
  if counts.max.any (· < counts.min) then fail .repetitionCountInvalid span
  return .repetition ⟨item.span.start, span.stop⟩ counts true greedy item :: before

/-! ## Groups -/

/-- Characters of group names. -/
def isNameChar (isFirst : Bool) (c : Char) : Bool :=
  if isFirst then c = '_' || isAlphabetic c
  else c = '_' || c = '.' || c = '[' || c = ']' || isAlphanumeric c

/-- The characters of a group name up to `>`, which is left. -/
def readNameChars : (bound : Nat) → (isFirst : Bool) → Scan (List Char)
  | 0, _ => return []
  | bound + 1, isFirst => do
    match ← next? with
    | none | some '>' => return []
    | some c =>
      if !isNameChar isFirst c then fail .groupNameInvalid (← spanOfNext)
      discard bump
      return c :: (← readNameChars bound false)

/-- The name of a group and the `>` after it. -/
def readGroupName : Scan String := do
  let start ← here
  let name ← readNameChars (← remaining) true
  let span : Span := ⟨start, ← here⟩
  if ← atEnd then fail .groupNameUnexpectedEnd (.point (← here))
  discard bump
  if name.isEmpty then fail .groupNameEmpty (.point start)
  let name := String.ofList name
  let s ← get
  match s.names.find? (·.1 == name) with
  | some (_, earlier) => throw ⟨.groupNameDuplicate, span, some earlier⟩
  | none =>
    set { s with names := (name, span) :: s.names }
    return name

/-- The number of a new capture group. -/
def nextCapture : Scan Nat := do
  let s ← get
  set { s with captures := s.captures + 1 }
  return s.captures + 1

/-- Flags up to `:` or `)`, which is left. `items` holds the last one first. -/
def readFlags : (bound : Nat) → (items : List FlagItem) → Scan (List FlagItem)
  | 0, items => return items.reverse
  | bound + 1, items => do
    match ← next? with
    | some ':' | some ')' =>
      match items with
      | .negation span :: _ => fail .flagDanglingNegation span
      | _ => return items.reverse
    | some '-' =>
      let span ← spanOfNext
      let earlier := items.find? fun
        | .negation _ => true
        | .flag _ _ => false
      match earlier with
      | some item => throw ⟨.flagRepeatedNegation, span, some item.span⟩
      | none => pure ()
      if !(← bump) then fail .flagUnexpectedEnd (.point (← here))
      readFlags bound (.negation span :: items)
    | some c =>
      let span ← spanOfNext
      match Flag.ofChar? c with
      | none => fail .flagUnrecognized span
      | some flag =>
        let earlier := items.find? fun
          | .negation _ => false
          | .flag _ f => f = flag
        match earlier with
        | some item => throw ⟨.flagDuplicate, span, some item.span⟩
        | none => pure ()
        if !(← bump) then fail .flagUnexpectedEnd (.point (← here))
        readFlags bound (.flag span flag :: items)
    | none => fail .flagUnexpectedEnd (.point (← here))

/-- What an opening parenthesis begins: a group, or flags for what follows. -/
inductive Opening where
  | group (kind : GroupKind)
  | flags (span : Span) (items : List FlagItem)

/-- An opening parenthesis, which is next, and what belongs to it. -/
def readOpening : Scan Opening := do
  let paren ← spanOfNext
  discard bump
  bumpBlanks
  let lookAround ← (bumpIf ['?', '='] <||> bumpIf ['?', '!'] <||> bumpIf ['?', '<', '=']
    <||> bumpIf ['?', '<', '!'])
  if lookAround then fail .lookAround ⟨paren.start, ← here⟩
  let inside ← here
  if ← (bumpIf ['?', 'P', '<'] <||> bumpIf ['?', '<']) then
    let index ← nextCapture
    if ← atEnd then fail .groupNameUnexpectedEnd (.point (← here))
    return .group (.capture index (some (← readGroupName)))
  else if ← bumpIf ['?'] then
    if ← atEnd then fail .groupUnclosed paren
    let items ← readFlags (← remaining) []
    let closed := (← next?) = some ')'
    discard bump
    if closed then
      if items.isEmpty then fail .repetitionMissing (.point inside)
      return .flags ⟨paren.start, ← here⟩ items
    else return .group (.plain items)
  else return .group (.capture (← nextCapture) none)

/-! ## Whole expressions -/

/-- One level of an expression: finished alternatives and the items of the current one,
each last one first, with the places where the first alternative and the current one
start. -/
structure Level where
  branches : List Ast
  branchStart : Position
  items : List Ast
  start : Position

/-- A level at its start. -/
def Level.new (place : Position) : Level := ⟨[], place, [], place⟩

/-- The current alternative as one expression that ends at the given place. -/
def Level.branch (level : Level) (stop : Position) : Ast :=
  match level.items with
  | [] => .empty ⟨level.start, stop⟩
  | [item] => item
  | items => .concat ⟨level.start, stop⟩ items.reverse

/-- The whole level as one expression that ends at the given place. -/
def Level.close (level : Level) (stop : Position) : Ast :=
  match level.branches with
  | [] => level.branch stop
  | branches => .alternation ⟨level.branchStart, stop⟩ ((level.branch stop :: branches).reverse)

/-- A group that is open: the level around it, its parenthesis, and whether blanks were
skipped before it. -/
structure GroupFrame where
  outer : Level
  paren : Span
  kind : GroupKind
  verbose : Bool

/-- Switches the skipping of blanks. -/
def setVerbose (verbose : Bool) : Scan Unit := modify fun s => { s with verbose }

/-- The rest of an expression, within the given open groups. -/
def readLevels : (bound : Nat) → Level → List GroupFrame → Scan Ast
  | 0, level, _ => return level.close (← here)
  | bound + 1, level, groups => do
    bumpBlanks
    let push (item : Ast) : Level := { level with items := item :: level.items }
    match ← next? with
    | none =>
      match groups with
      | group :: _ => fail .groupUnclosed group.paren
      | [] => return level.close (← here)
    | some '(' =>
      let paren ← spanOfNext
      let verbose := (← get).verbose
      match ← readOpening with
      | .flags span items =>
        setVerbose ((FlagItem.setting? .ignoreWhitespace false items).getD verbose)
        readLevels bound (push (.flags span items)) groups
      | .group kind =>
        let flags := match kind with
          | .plain items => items
          | .capture _ _ => []
        setVerbose ((FlagItem.setting? .ignoreWhitespace false flags).getD verbose)
        readLevels bound (.new (← here)) (⟨level, paren, kind, verbose⟩ :: groups)
    | some ')' =>
      match groups with
      | [] => fail .groupUnopened (← spanOfNext)
      | group :: groups =>
        setVerbose group.verbose
        let body := level.close (← here)
        discard bump
        let item := Ast.group ⟨group.paren.start, ← here⟩ group.kind body
        readLevels bound { group.outer with items := item :: group.outer.items } groups
    | some '|' =>
      let branch := level.branch (← here)
      discard bump
      let place ← here
      readLevels bound ⟨branch :: level.branches, level.branchStart, [], place⟩ groups
    | some '[' => readLevels bound (push (← readBracketed)) groups
    | some '?' =>
      readLevels bound { level with items := ← readSymbol ⟨0, some 1⟩ level.items } groups
    | some '*' =>
      readLevels bound { level with items := ← readSymbol ⟨0, none⟩ level.items } groups
    | some '+' =>
      readLevels bound { level with items := ← readSymbol ⟨1, none⟩ level.items } groups
    | some '\x7b' =>
      readLevels bound { level with items := ← readCounted level.items } groups
    | some '\\' => readLevels bound (push (← readEscape).toAst) groups
    | some c =>
      let span ← spanOfNext
      discard bump
      let item := match c with
        | '.' => Ast.dot span
        | '^' => Ast.assertion span .startLine
        | '$' => Ast.assertion span .endLine
        | _ => Ast.literal ⟨span, c, false⟩
      readLevels bound (push item) groups

/-- Reads a whole expression. -/
def Ast.read (pattern : List Char) : Except Fault Ast :=
  let start : ScanState := ⟨pattern, .start, false, 0, []⟩
  (readLevels (pattern.length + 1) (.new .start) []).run' start

end StreamNames.Regex
