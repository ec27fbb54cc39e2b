import StreamNames.Batch.Report
import StreamNames.Json.Reader
import StreamNames.Json.Value

/-!
# Feeds of streams

A feed is a JSON list of streams. A stream is an object with a `name` and perhaps a
`builtin_filter_reason`, which may be null; other members are passed over. It may also be
a list of these two in order.

- `Feed.parse`: the streams of a feed.
- `Feed.toJson`: the feed of some streams.
-/

namespace StreamNames.Feed

open JsonReader

/-- A string, where nothing else will do. -/
def readText : JsonReader String := do
  match ← nextPart? with
  | none => failAtNext .endInValue
  | some '"' => readString
  | some _ => failType "a string"

/-- A string or null. -/
def readOptionalText : JsonReader (Option String) := do
  if (← nextPart?) = some 'n' then
    bump
    readIdent ['u', 'l', 'l']
    return none
  else return some (← readText)

/-- Passes what comes before the next item of a list; tells whether there is one. -/
def nextItem (isFirst : Bool) : JsonReader Bool := do
  match ← nextPart? with
  | none => failAtNext .endInList
  | some ']' => return false
  | some c =>
    if isFirst then return true
    else if c = ',' then
      bump
      match ← nextPart? with
      | some ']' => failAtNext .trailingComma
      | some _ => return true
      | none => failAtNext .endInValue
    else failAtNext .expectedListEnd

/-- Passes what comes before the next name of an object; tells whether there is one. -/
def nextMember (isFirst : Bool) : JsonReader Bool := do
  match ← nextPart? with
  | none => failAtNext .endInObject
  | some '\x7d' => return false
  | some c =>
    if isFirst then
      if c = '"' then return true else failAtNext .keyMustBeString
    else if c = ',' then
      bump
      match ← nextPart? with
      | some '"' => return true
      | some '\x7d' => failAtNext .trailingComma
      | some _ => failAtNext .keyMustBeString
      | none => failAtNext .endInValue
    else failAtNext .expectedObjectEnd

/-- Passes the colon after a name. -/
def readColon : JsonReader Unit := do
  match ← nextPart? with
  | some ':' => bump
  | some _ => failAtNext .expectedColon
  | none => failAtNext .endInObject

/-- Passes the end of a list all of whose expected items were read. -/
def readListEnd : JsonReader Unit := do
  match ← nextPart? with
  | some ']' => bump
  | some ',' =>
    bump
    if (← nextPart?) = some ']' then failAtNext .trailingComma
    else failAtNext .trailingCharacters
  | some _ => failAtNext .trailingCharacters
  | none => failAtNext .endInList

/-- Ends the reading of an object in which a name is repeated. -/
def failDuplicate {α : Type} (name : String) : JsonReader α := do
  if (← nextPart?) = some '\x7d' then bump
  failHere (.duplicateField name)

/-- The members of an object that describes a stream, up to its end. -/
def readMembers : (bound : Nat) → (isFirst : Bool) → (name : Option String) →
    (reason : Option (Option String)) → JsonReader Stream
  | 0, _, _, _ => failHere .endInObject
  | bound + 1, isFirst, name, reason => do
    if ← nextMember isFirst then
      let key ← readString
      if key = "name" then
        if name.isSome then failDuplicate key
        readColon
        readMembers bound false (some (← readText)) reason
      else if key = "builtin_filter_reason" then
        if reason.isSome then failDuplicate key
        readColon
        readMembers bound false name (some (← readOptionalText))
      else
        readColon
        skipValue
        readMembers bound false name reason
    else
      bump
      match name with
      | some name => return ⟨name, reason.getD none⟩
      | none => failHere (.missingField "name")

/-- The items of a list that describes a stream, and its end. -/
def readItems : JsonReader Stream := do
  if ← nextItem true then
    let name ← readText
    let reason ← if ← nextItem false then readOptionalText else pure none
    readListEnd
    return ⟨name, reason⟩
  else
    bump
    failHere (.invalidLength 0 "struct StreamRecord with 2 elements")

/-- A stream. -/
def readStream : JsonReader Stream := do
  match ← nextPart? with
  | none => failAtNext .endInValue
  | some '[' =>
    bump
    readItems
  | some '\x7b' =>
    bump
    readMembers ((← remaining) + 1) true none none
  | some _ => failType "struct StreamRecord"

/-- The streams of a list up to its end. -/
def readStreams : (bound : Nat) → (isFirst : Bool) → JsonReader (List Stream)
  | 0, _ => failHere .endInList
  | bound + 1, isFirst => do
    if ← nextItem isFirst then
      let stream ← readStream
      return stream :: (← readStreams bound false)
    else
      bump
      return []

/-- A whole feed, after which nothing but blanks may follow. -/
def readFeed : JsonReader (List Stream) := do
  match ← nextPart? with
  | none => failAtNext .endInValue
  | some '[' =>
    bump
    let streams ← readStreams ((← remaining) + 1) true
    match ← nextPart? with
    | none => return streams
    | some _ => failAtNext .trailingCharacters
  | some _ => failType "a sequence"

/-- The streams of a feed. -/
def parse (contents : String) : Except JsonFault (List Stream) :=
  readFeed.run' ⟨contents.toList, 0⟩

/-- A stream as a member of a feed. -/
def streamJson (s : Stream) : Json :=
  .object [("name", .string s.name),
    ("builtin_filter_reason", match s.builtinFilterReason with
      | some reason => .string reason
      | none => .null)]

/-- The feed of some streams. -/
def toJson (streams : List Stream) : Json := .array (streams.map streamJson)

end StreamNames.Feed
