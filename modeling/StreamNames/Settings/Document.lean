import StreamNames.Settings.Basic
import StreamNames.Toml.Reader

/-!
# Settings as documents

Settings are written as a TOML document with a table `patterns`, which has a table for each
field, and a table `engine`. What a document does not give has its default, and what it
gives beyond that is passed over.

- `Settings.ofToml?`: the settings that a document gives.
- `Settings.load`: the settings of a document as it is written.
- `Settings.document`: the document that spells out settings.
-/

namespace StreamNames

/-- The value of a field that a document may give. -/
def Toml.orDefault {α : Type} (given : Option Toml) (read : Toml → Option α) (default : α) :
    Option α :=
  match given with
  | some value => read value
  | none => some default

/-- A way to locate groups, by its name alone or as a table from its name to nothing. -/
def GroupLocation.ofToml? : Toml → Option GroupLocation
  | .text name => ofName? name
  | .table _ [(name, .table _ [])] | .table _ [(name, .array _ [])] => ofName? name
  | _ => none

/-- The settings of one field. -/
def FieldSettings.ofToml? (value : Toml) : Option FieldSettings := do
  let given ← value.fields? ["pattern", "enabled"]
  let pattern ← Toml.orDefault (given "pattern") Toml.text? ""
  let enabled ← Toml.orDefault (given "enabled") Toml.boolean? enabledByDefault
  return ⟨pattern, enabled⟩

/-- The patterns in use. -/
def PatternSettings.ofToml? (value : Toml) : Option PatternSettings := do
  let given ← value.fields?
    ["skip_builtin_filter", "teams", "date", "time", "league", "include", "exclude"]
  let skipBuiltinFilter ← Toml.orDefault (given "skip_builtin_filter") Toml.boolean?
    skipByDefault
  let teams ← Toml.orDefault (given "teams") FieldSettings.ofToml? .default
  let date ← Toml.orDefault (given "date") FieldSettings.ofToml? .default
  let time ← Toml.orDefault (given "time") FieldSettings.ofToml? .default
  let league ← Toml.orDefault (given "league") FieldSettings.ofToml? .default
  let includes ← Toml.orDefault (given "include") FieldSettings.ofToml? .default
  let excludes ← Toml.orDefault (given "exclude") FieldSettings.ofToml? .default
  return ⟨skipBuiltinFilter, teams, date, time, league, includes, excludes⟩

/-- How patterns are evaluated. The limit on the price has 32 bits, the other numbers
have 64. -/
def EngineSettings.ofToml? (value : Toml) : Option EngineSettings := do
  let given ← value.fields?
    ["parallel_threshold", "group_location", "max_complexity", "max_repetition"]
  let parallelThreshold ← Toml.orDefault (given "parallel_threshold")
    (Toml.natural? UInt64.size) thresholdByDefault
  let groupLocation ← Toml.orDefault (given "group_location") GroupLocation.ofToml? .default
  let maxComplexity ← Toml.orDefault (given "max_complexity")
    (fun value => (value.natural? UInt32.size).map some) none
  let maxRepetition ← Toml.orDefault (given "max_repetition")
    (fun value => (value.natural? UInt64.size).map some) none
  return ⟨parallelThreshold, groupLocation, maxComplexity, maxRepetition⟩

namespace Settings

/-- The settings that the members of a document give. -/
def ofToml? (document : Toml.Members) : Option Settings := do
  let given ← (Toml.table .header document).fields? ["patterns", "engine"]
  let patterns ← Toml.orDefault (given "patterns") PatternSettings.ofToml? .default
  let engine ← Toml.orDefault (given "engine") EngineSettings.ofToml? .default
  return ⟨patterns, engine⟩

/-- Why a document yields no settings. -/
inductive LoadError where
  /-- It is no TOML document, or gives a value that cannot be used. -/
  | malformed
  | zeroLimit (limit : ZeroLimit)
  deriving DecidableEq, Repr

/-- The settings of a document. -/
def load (document : String) : Except LoadError Settings :=
  match (Toml.parse document).bind ofToml? with
  | none => .error .malformed
  | some settings =>
    match settings.validate with
    | .ok () => .ok settings
    | .error limit => .error (.zeroLimit limit)

/-! ## Writing -/

/-- A character of a text in quotes. -/
def writeChar (c : Char) : List Char :=
  if c = '"' ∨ c = '\\' then ['\\', c]
  else if c = '\x08' then ['\\', 'b']
  else if c = '\t' then ['\\', 't']
  else if c = '\n' then ['\\', 'n']
  else if c = '\x0c' then ['\\', 'f']
  else if c = '\r' then ['\\', 'r']
  else if c.toNat < 0x20 ∨ c = '\x7f' then
    ['\\', 'u', '0', '0', Nat.digitChar (c.toNat / 16), Nat.digitChar (c.toNat % 16)]
  else [c]

/-- A text in quotes. -/
def writeText (text : String) : String :=
  String.ofList ('"' :: text.toList.flatMap writeChar ++ ['"'])

/-- The tables that spell out settings, by their headers, with what is in them. A limit that
is not set is left out. -/
def tables (s : Settings) : List (String × List (String × String)) :=
  [("patterns", [("skip_builtin_filter", toString s.patterns.skipBuiltinFilter)])]
    ++ s.patterns.allPatterns.map (fun p => ("patterns." ++ p.tag.name,
      [("pattern", writeText p.source), ("enabled", toString p.enabled)]))
    ++ [("engine",
      [("parallel_threshold", toString s.engine.parallelThreshold),
        ("group_location", writeText s.engine.groupLocation.name)]
      ++ (s.engine.maxComplexity.map fun n => ("max_complexity", toString n)).toList
      ++ (s.engine.maxRepetition.map fun n => ("max_repetition", toString n)).toList)]

/-- A table as it is written, a line for each of its values. -/
def writeTable (table : String × List (String × String)) : String :=
  "[" ++ table.1 ++ "]\n"
    ++ String.join (table.2.map fun (name, value) => name ++ " = " ++ value ++ "\n")

/-- The document that spells out settings, its tables divided by empty lines. -/
def document (s : Settings) : String := "\n".intercalate (s.tables.map writeTable)

/-- The document that spells out the defaults. -/
def defaultDocument : String := default.document

end Settings

end StreamNames
