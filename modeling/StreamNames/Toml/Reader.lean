import StreamNames.Toml.Scalar

/-!
# Reading TOML

A document is read once, from left to right, line by line.

- `TomlReader`: steps that read a part of the text.
- `TomlReader.readText`, `readKey`, `readValue`: the parts of a line.
- `Toml.parse`: the members of a document.
-/

namespace StreamNames

/-- A step that reads some of the characters left, or fails. -/
abbrev TomlReader := StateT (List Char) Option

namespace TomlReader

/-- The next character, if any is left. -/
def next? : TomlReader (Option Char) := return (← get).head?

/-- Whether the characters left start with `cs`. -/
def comesNext (cs : List Char) : TomlReader Bool := return cs.isPrefixOf (← get)

/-- The number of characters left. -/
def remaining : TomlReader Nat := return (← get).length

/-- Passes some characters. -/
def skip (n : Nat) : TomlReader Unit := modify (·.drop n)

/-- Takes the characters that come next and satisfy `p`. -/
def takeWhile (p : Char → Bool) : TomlReader (List Char) := do
  let rest ← get
  set (rest.dropWhile p)
  return rest.takeWhile p

/-- Passes a character, which must come next. -/
def expect (c : Char) : TomlReader Unit := do
  if (← next?) = some c then skip 1 else failure

/-! ## Blanks, line ends and comments -/

/-- Blanks within a line. -/
def isBlank (c : Char) : Bool := c = ' ' || c = '\t'

/-- Whether a character may stand for itself in comments and texts on one line. -/
def isPlain (c : Char) : Bool := c = '\t' || (0x20 ≤ c.toNat && c.toNat ≠ 0x7f)

/-- Passes blanks. -/
def skipBlanks : TomlReader Unit := discard (takeWhile isBlank)

/-- Passes the end of a line if it comes next; tells whether it did. -/
def skipLineEnd : TomlReader Bool := do
  if ← comesNext ['\n'] then
    skip 1
    return true
  else if ← comesNext ['\r', '\n'] then
    skip 2
    return true
  else return false

/-- Passes a comment if one comes next. -/
def skipComment : TomlReader Unit := do
  if (← next?) = some '#' then discard (takeWhile isPlain)

/-- Passes blanks, a comment and the end of a line or of the document, with nothing
between. -/
def endLine : TomlReader Unit := do
  skipBlanks
  skipComment
  if !(← skipLineEnd) && (← next?).isSome then failure

/-- Passes blanks, comments and ends of lines. -/
def skipLines : (bound : Nat) → TomlReader Unit
  | 0 => return ()
  | bound + 1 => do
    skipBlanks
    skipComment
    if ← skipLineEnd then skipLines bound

/-- Passes blanks and ends of lines. -/
def skipBlankLines : (bound : Nat) → TomlReader Unit
  | 0 => return ()
  | bound + 1 => do
    skipBlanks
    if ← skipLineEnd then skipBlankLines bound

/-- Passes everything before the next part of a value that may extend over lines. -/
def skipToPart : TomlReader Unit := do skipLines ((← remaining) + 1)

/-! ## Texts -/

/-- The character with a number that so many hexadecimal digits spell. -/
def readCode (length : Nat) : TomlReader Char := do
  let digits := (← get).take length
  skip length
  match digits.mapM (Toml.digit? 16) with
  | some values =>
    let n := Toml.ofDigits 16 values
    if values.length = length && n.isValidChar then return Char.ofNat n else failure
  | none => failure

/-- The character of an escape, of which the backslash has been passed. -/
def readEscape : TomlReader Char := do
  let letter ← next?
  skip 1
  match letter with
  | some 'b' => return '\x08'
  | some 't' => return '\t'
  | some 'n' => return '\n'
  | some 'f' => return '\x0c'
  | some 'r' => return '\r'
  | some 'e' => return '\x1b'
  | some '"' => return '"'
  | some '\\' => return '\\'
  | some 'x' => readCode 2
  | some 'u' => readCode 4
  | some 'U' => readCode 8
  | _ => failure

/-- The rest of a text on one line, in which the escapes are replaced if it is `escaped`,
and its closing quote; `text` holds what was read, last character first. -/
def readLineRest (quote : Char) (escaped : Bool) :
    (bound : Nat) → (text : List Char) → TomlReader (List Char)
  | 0, _ => failure
  | bound + 1, text => do
    match ← next? with
    | none => failure
    | some c =>
      skip 1
      if c = quote then return text.reverse
      else if escaped && c = '\\' then readLineRest quote escaped bound ((← readEscape) :: text)
      else if isPlain c then readLineRest quote escaped bound (c :: text)
      else failure

/-- Passes a line end behind blanks, and all blanks and line ends after it, if this is what
comes next; tells whether it did. -/
def skipFoldedLine : TomlReader Bool := do
  let before ← get
  skipBlanks
  if ← skipLineEnd then
    skipBlankLines ((← remaining) + 1)
    return true
  else
    set before
    return false

/-- The rest of a text over several lines and its three closing quotes. Up to two quotes
before these belong to the text. -/
def readLinesRest (quote : Char) (escaped : Bool) :
    (bound : Nat) → (text : List Char) → TomlReader (List Char)
  | 0, _ => failure
  | bound + 1, text => do
    if ← comesNext [quote, quote, quote] then
      let quotes := min 5 ((← get).takeWhile (· = quote)).length
      skip quotes
      return text.reverse ++ List.replicate (quotes - 3) quote
    else if ← comesNext ['\r', '\n'] then
      skip 2
      readLinesRest quote escaped bound ('\n' :: '\r' :: text)
    else
      match ← next? with
      | none => failure
      | some c =>
        skip 1
        if escaped && c = '\\' then
          if ← skipFoldedLine then readLinesRest quote escaped bound text
          else readLinesRest quote escaped bound ((← readEscape) :: text)
        else if c = '\n' || isPlain c then readLinesRest quote escaped bound (c :: text)
        else failure

/-- A text on one line, of which the opening quote comes next. -/
def readLineText (quote : Char) : TomlReader String := do
  skip 1
  return String.ofList (← readLineRest quote (quote = '"') ((← remaining) + 1) [])

/-- A text, of which the opening quote comes next. After three quotes it may extend over
lines, and a line end directly after them does not belong to it. -/
def readText (quote : Char) : TomlReader String := do
  if ← comesNext [quote, quote, quote] then
    skip 3
    discard skipLineEnd
    return String.ofList (← readLinesRest quote (quote = '"') ((← remaining) + 1) [])
  else readLineText quote

/-! ## Keys -/

/-- Whether a character may stand in a key without quotes. -/
def isKeyChar (c : Char) : Bool := c.isAlphanum || c = '_' || c = '-'

/-- One part of a key. -/
def readKeyPart : TomlReader String := do
  match ← next? with
  | some '"' => readLineText '"'
  | some '\'' => readLineText '\''
  | _ =>
    let part ← takeWhile isKeyChar
    if part.isEmpty then failure else return String.ofList part

/-- The parts of a key after the first, with the dots before them. -/
def readKeyRest : (bound : Nat) → TomlReader (List String)
  | 0 => failure
  | bound + 1 => do
    skipBlanks
    if (← next?) = some '.' then
      skip 1
      skipBlanks
      return (← readKeyPart) :: (← readKeyRest bound)
    else return []

/-- A key, and the blanks after it: all parts but the last, and the last. -/
def readKey : TomlReader (List String × String) := do
  let first ← readKeyPart
  let rest ← readKeyRest ((← remaining) + 1)
  let parts := first :: rest
  return (parts.dropLast, parts.getLast (List.cons_ne_nil first rest))

/-! ## Values -/

/-- Whether a character may stand in a word. -/
def isWordChar (c : Char) : Bool :=
  c.isAlphanum || c = '_' || c = '-' || c = '+' || c = '.' || c = ':'

/-- A number, truth value, date or time. A date and a time may be separated by a blank. -/
def readWord : TomlReader Toml := do
  let word ← takeWhile isWordChar
  let word ← match ← get with
    | ' ' :: c :: _ =>
      if c.isDigit && Toml.afterDate? word = some [] then do
        skip 1
        pure (word ++ ' ' :: (← takeWhile isWordChar))
      else pure word
    | _ => pure word
  match Toml.ofWord? word with
  | some value => return value
  | none => failure

/-- How many arrays and tables in brackets and braces may contain one another. -/
def maxDepth : Nat := 80

mutual

/-- A value at a depth of brackets and braces. -/
def readValue : (bound : Nat) → (depth : Nat) → TomlReader Toml
  | 0, _ => failure
  | bound + 1, depth => do
    match ← next? with
    | some '"' => return .text (← readText '"')
    | some '\'' => return .text (← readText '\'')
    | some '[' =>
      skip 1
      if depth = maxDepth then failure
      return .array .closed (← readItems bound (depth + 1))
    | some '\x7b' =>
      skip 1
      if depth = maxDepth then failure
      return .table .closed (← readMembers bound (depth + 1) [])
    | _ => readWord

/-- The items of an array that are left, and its closing bracket. -/
def readItems : (bound : Nat) → (depth : Nat) → TomlReader (List Toml)
  | 0, _ => failure
  | bound + 1, depth => do
    skipToPart
    if (← next?) = some ']' then
      skip 1
      return []
    else
      let item ← readValue bound depth
      skipToPart
      if (← next?) = some ',' then
        skip 1
        return item :: (← readItems bound depth)
      else
        expect ']'
        return [item]

/-- The members of a table in braces that are left, and its closing brace; `members` are
those before them. -/
def readMembers : (bound : Nat) → (depth : Nat) → (members : Toml.Members) →
    TomlReader Toml.Members
  | 0, _, _ => failure
  | bound + 1, depth, members => do
    skipToPart
    if (← next?) = some '\x7d' then
      skip 1
      return members
    else
      let (path, name) ← readKey
      expect '='
      skipBlanks
      let value ← readValue bound depth
      match Toml.addRelative path name value .header members with
      | none => failure
      | some members =>
        skipToPart
        if (← next?) = some ',' then
          skip 1
          readMembers bound depth members
        else
          expect '\x7d'
          return members

end

/-! ## Documents -/

/-- What has been read: the members of the document, and the path of the table to which
the next line adds. -/
structure Draft where
  root : Toml.Members
  place : List String

/-- What the change of a document yields, if it is possible. -/
def change (root : Option Toml.Members) (place : List String) : TomlReader Draft :=
  match root with
  | some root => return ⟨root, place⟩
  | none => failure

/-- A line with a header or a member. -/
def readLine (draft : Draft) : TomlReader Draft := do
  let isItem ← comesNext ['[', '[']
  if isItem || (← comesNext ['[']) then
    skip (if isItem then 2 else 1)
    skipBlanks
    let (path, name) ← readKey
    expect ']'
    if isItem then
      expect ']'
      change (Toml.openItem path name draft.root) (path ++ [name])
    else change (Toml.openTable path name draft.root) (path ++ [name])
  else
    let (path, name) ← readKey
    expect '='
    skipBlanks
    let value ← readValue (2 * (← remaining) + 2) 0
    change (Toml.addValue draft.place path name value draft.root) draft.place

/-- The lines that are left. -/
def readLines : (bound : Nat) → Draft → TomlReader Toml.Members
  | 0, _ => failure
  | bound + 1, draft => do
    skipToPart
    if (← next?).isNone then return draft.root
    else
      let draft ← readLine draft
      endLine
      readLines bound draft

end TomlReader

/-- The members of a document. A byte order mark before it is passed over. -/
def Toml.parse (document : String) : Option Toml.Members :=
  let chars := match document.toList with
    | '\ufeff' :: rest => rest
    | chars => chars
  (TomlReader.readLines (chars.length + 1) ⟨[], []⟩).run' chars

end StreamNames
