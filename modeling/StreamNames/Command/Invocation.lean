import StreamNames.Command.Options
import StreamNames.Pattern.Dialect

/-!
# Commands

- `Command`: what the program can do.
- `Invocation`: a command with the file of settings to use.
- `Invocation.parse`: the command that arguments ask for.
-/

namespace StreamNames

/-- What the program can do. -/
inductive Command where
  /-- Tells whether a pattern is accepted. -/
  | validate (pattern : String)
  /-- Respells a pattern in a dialect. -/
  | translate (pattern : String) (target : Dialect)
  /-- Tells which patterns of the settings are accepted. -/
  | check
  /-- Reports on each stream of a feed. -/
  | highlight (feed : String) (skip : Bool)
  /-- Counts the streams of a feed, perhaps with the built-in filter both on and off. -/
  | stats (feed : String) (skip compare : Bool)
  deriving DecidableEq, Repr

/-- A command with the file of settings that is given. -/
structure Invocation where
  settingsPath : Option String
  command : Command
  deriving DecidableEq, Repr

namespace Command

/-- The option that leads to help. -/
def helpForm (topic : Topic) : OptionForm :=
  ⟨"help", .detour 'h' (.showHelp topic), "Print help", none⟩

/-- The feed where none is given: the input. -/
def defaultFeed : String := "-"

/-- The option for a feed. -/
def inputForm : OptionForm :=
  ⟨"input", .value (some 'i') [],
    "JSON array of \x7bname, builtin_filter_reason\x7d; \x60-\x60 reads stdin", some defaultFeed⟩

/-- The option that switches the built-in filter off. -/
def skipForm : OptionForm :=
  ⟨"skip-builtin-filter", .flag,
    "Skip builtin filtering even when the configuration does not", none⟩

/-- The dialect with a name. -/
def dialectOfName? : String → Option Dialect
  | "internal" => some .internal
  | "external" => some .external
  | _ => none

/-- The options that may be given for a topic: those before the name of a command, or those
after it. -/
def Topic.forms : Topic → List OptionForm
  | program => [
      ⟨"config", .value (some 'c') [],
        "Configuration file path [default: $EPG_MATCHER_CONFIG or epg-matcher.toml]", none⟩,
      ⟨"log-level", .value (some 'v') [], "Log level", some "info"⟩, helpForm .program,
      ⟨"version", .detour 'V' .showVersion, "Print version", none⟩]
  | validate => [helpForm .validate]
  | translate =>
    [⟨"to", .value none ["internal", "external"], "", some "internal"⟩, helpForm .translate]
  | check => [helpForm .check]
  | highlight => [inputForm, skipForm, helpForm .highlight]
  | stats => [inputForm, skipForm,
      ⟨"compare", .flag, "Report both builtin-filter settings side by side", none⟩,
      helpForm .stats]
  | help => []

/-- The name of a command that has help of its own. -/
def Topic.name? : Topic → Option String
  | program => none
  | validate => some "validate"
  | translate => some "translate"
  | check => some "check"
  | highlight => some "highlight"
  | stats => some "stats"
  | help => some "help"

/-- All commands. -/
def topics : List Topic := [.validate, .translate, .check, .highlight, .stats, .help]

/-- The feed that is given, or the input. -/
def feedOf (g : Given) : String := (g.value? "input").getD defaultFeed

/-- What the arguments after the name of a command give. -/
def givenTo (topic : Topic) (limit : Nat) (arguments : List String) : Except Detour Given :=
  Given.collect limit (Argument.ofList topic.forms arguments) .nothing

/-- The only word that is given. -/
def onlyWord (g : Given) : Except Detour String :=
  match g.words with
  | [word] => .ok word
  | _ => .error .misuse

/-- The command with a name and the arguments after it. -/
def ofName (name : String) (arguments : List String) : Except Detour Command := do
  match name with
  | "validate" => return .validate (← onlyWord (← givenTo .validate 1 arguments))
  | "translate" =>
    let g ← givenTo .translate 1 arguments
    let target := ((g.value? "to").bind dialectOfName?).getD .internal
    return .translate (← onlyWord g) target
  | "check" =>
    discard (givenTo .check 0 arguments)
    return .check
  | "highlight" =>
    let g ← givenTo .highlight 0 arguments
    return .highlight (feedOf g) (g.has "skip-builtin-filter")
  | "stats" =>
    let g ← givenTo .stats 0 arguments
    return .stats (feedOf g) (g.has "skip-builtin-filter") (g.has "compare")
  | "help" =>
    match arguments with
    | [] => throw (.showHelp .program)
    | [name] =>
      match topics.find? (·.name? = some name) with
      | some topic => throw (.showHelp topic)
      | none => throw .misuse
    | _ => throw .misuse
  | _ => throw .misuse

end Command

namespace Invocation

/-- What arguments ask for, after the options that are given already. -/
def ofArguments : List Command.Argument → Command.Given → Except Command.Detour Invocation
  | [], _ | .operand _ :: _, _ => .error .misuse
  | .detour target :: _, _ => .error target
  | .option name value :: rest, g => do ofArguments rest (← g.addOption name value)
  | .word name following :: _, g => do
    return ⟨g.value? "config", ← Command.ofName name following⟩

/-- The command that arguments ask for. -/
def parse (arguments : List String) : Except Command.Detour Invocation :=
  ofArguments (Command.Argument.ofList Command.Topic.program.forms arguments) .nothing

end Invocation

end StreamNames
