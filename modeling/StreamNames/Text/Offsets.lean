/-!
# Offsets into a text

A place in a text is counted in characters by what is shown to people, and in bytes of
UTF-8 by searches. A place is a character boundary if it lies between two characters or at
an end of the text.

- `boundaries`: the character boundaries of a text, in bytes.
- `Offsets`: what is needed to convert between the two counts. Text within ASCII needs no
  table, since every character takes one byte.
- `sliceBytes`, `sliceChars`: parts of a text by either count.
-/

namespace StreamNames.Text

/-- The number of bytes that characters take. -/
def byteLength : List Char → Nat
  | [] => 0
  | c :: rest => c.utf8Size + byteLength rest

/-- The boundaries of a text that starts at `offset`. -/
def boundaries : (offset : Nat) → List Char → List Nat
  | offset, [] => [offset]
  | offset, c :: rest => offset :: boundaries (offset + c.utf8Size) rest

/-- The conversion between characters and bytes in one text. Without a table each
character takes one byte. -/
structure Offsets where
  table : Option (List Nat)
  byteLength : Nat
  deriving DecidableEq, Repr

namespace Offsets

/-- The conversion with a table, whatever the text. -/
def tabulated (text : List Char) : Offsets :=
  ⟨some (boundaries 0 text), Text.byteLength text⟩

/-- The conversion for a text. -/
def ofText (text : List Char) : Offsets :=
  if text.all fun c => c.toNat < 0x80 then ⟨none, Text.byteLength text⟩ else tabulated text

/-- The number of characters. -/
def charCount (o : Offsets) : Nat :=
  match o.table with
  | none => o.byteLength
  | some table => table.length - 1

/-- The characters before a byte. A byte inside a character counts as that character's
first, one beyond the end as the end. -/
def charOfByte (o : Offsets) (byte : Nat) : Nat :=
  match o.table with
  | none => min byte o.byteLength
  | some table => (table.takeWhile (· ≤ byte)).length - 1

/-- The bytes before a character, or all of them if there are fewer characters. -/
def byteOfChar (o : Offsets) (char : Nat) : Nat :=
  match o.table with
  | none => min char o.byteLength
  | some table => table.getD char o.byteLength

end Offsets

/-- The characters that start at or after byte `start` and before byte `stop`. -/
def sliceBytes (text : List Char) (start stop : Nat) : List Char :=
  let o := Offsets.tabulated text
  (text.drop (o.charOfByte start)).take (o.charOfByte stop - o.charOfByte start)

/-- The characters from number `start` up to but without number `stop`. -/
def sliceChars (text : List Char) (start stop : Nat) : List Char :=
  (text.drop start).take (stop - start)

end StreamNames.Text
