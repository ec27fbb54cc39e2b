/-!
# JSON documents

- `Json`: a document, with the members of an object in the order in which they are written.
- `Json.compact`, `Json.pretty`: the two ways to write it, on one line and indented by two
  blanks.
-/

namespace StreamNames

/-- A JSON document. -/
inductive Json where
  | null
  | bool (b : Bool)
  | number (n : Nat)
  | string (s : String)
  | array (items : List Json)
  | object (members : List (String × Json))

namespace Json

/-! ## Strings -/

/-- A lower-case hexadecimal digit. -/
def hexDigit (n : Nat) : Char :=
  if n < 10 then Char.ofNat ('0'.toNat + n) else Char.ofNat ('a'.toNat + (n - 10))

/-- A character as it is written in a string: quotes, backslashes and control characters
are escaped, all others stand for themselves. -/
def escapeChar (c : Char) : List Char :=
  if c = '"' then ['\\', '"']
  else if c = '\\' then ['\\', '\\']
  else if c = '\x08' then ['\\', 'b']
  else if c = '\x0c' then ['\\', 'f']
  else if c = '\n' then ['\\', 'n']
  else if c = '\r' then ['\\', 'r']
  else if c = '\t' then ['\\', 't']
  else if c.toNat < 0x20 then
    ['\\', 'u', '0', '0', hexDigit (c.toNat / 16), hexDigit (c.toNat % 16)]
  else [c]

/-- A string in quotes. -/
def quote (s : String) : List Char := '"' :: (s.toList.flatMap escapeChar ++ ['"'])

/-! ## Documents -/

mutual

/-- A document on one line. -/
def compactChars : Json → List Char
  | null => ['n', 'u', 'l', 'l']
  | bool true => ['t', 'r', 'u', 'e']
  | bool false => ['f', 'a', 'l', 's', 'e']
  | number n => (toString n).toList
  | string s => quote s
  | array items => '[' :: (compactItems items ++ [']'])
  | object members => '\x7b' :: (compactMembers members ++ ['\x7d'])

/-- The items of an array on one line. -/
def compactItems : List Json → List Char
  | [] => []
  | [item] => item.compactChars
  | item :: items => item.compactChars ++ ',' :: compactItems items

/-- The members of an object on one line. -/
def compactMembers : List (String × Json) → List Char
  | [] => []
  | [(name, value)] => quote name ++ ':' :: value.compactChars
  | (name, value) :: members =>
    quote name ++ ':' :: (value.compactChars ++ ',' :: compactMembers members)

end

/-- A line end and the indentation of a level. -/
def newline (level : Nat) : List Char := '\n' :: List.replicate (2 * level) ' '

mutual

/-- A document with a line for each item and member, at a level of indentation. -/
def prettyChars (level : Nat) : Json → List Char
  | null => ['n', 'u', 'l', 'l']
  | bool true => ['t', 'r', 'u', 'e']
  | bool false => ['f', 'a', 'l', 's', 'e']
  | number n => (toString n).toList
  | string s => quote s
  | array [] => ['[', ']']
  | array items => '[' :: (prettyItems (level + 1) items ++ newline level ++ [']'])
  | object [] => ['\x7b', '\x7d']
  | object members =>
    '\x7b' :: (prettyMembers (level + 1) members ++ newline level ++ ['\x7d'])

/-- The items of an array, each on its own lines. -/
def prettyItems (level : Nat) : List Json → List Char
  | [] => []
  | [item] => newline level ++ item.prettyChars level
  | item :: items =>
    newline level ++ (item.prettyChars level ++ ',' :: prettyItems level items)

/-- The members of an object, each on its own lines. -/
def prettyMembers (level : Nat) : List (String × Json) → List Char
  | [] => []
  | [(name, value)] => newline level ++ quote name ++ ':' :: ' ' :: value.prettyChars level
  | (name, value) :: members =>
    newline level ++ quote name
      ++ ':' :: ' ' :: (value.prettyChars level ++ ',' :: prettyMembers level members)

end

/-- A document on one line. -/
def compact (j : Json) : String := String.ofList j.compactChars

/-- A document with indentation. -/
def pretty (j : Json) : String := String.ofList (j.prettyChars 0)

end Json

end StreamNames
