import StreamNames.Batch.Feed
import StreamNames.Command.Documents
import StreamNames.Command.Help
import StreamNames.Settings.File

/-!
# Running commands

A command prints one document, or nothing if it fails; only the check of the settings
prints its document and may fail as well. Respelling a pattern needs no settings.

- `Outcome`: what a run leaves behind.
- `Invocation.run`: runs a command.
- `runProgram`: runs what arguments ask for.
-/

namespace StreamNames

/-- Why a command fails. -/
inductive Failure where
  | settings (path : String)
  | feedNotRead (path : String)
  | feedMalformed (path : String)
  /-- The input is not text in UTF-8. -/
  | inputNotText
  | patternsRejected
  deriving DecidableEq, Repr

/-- The wording of a failure. -/
def Failure.message : Failure → String
  | settings path => "Failed to load configuration from " ++ path
  | feedNotRead path => "Failed to read stream feed " ++ path
  | feedMalformed path => "Invalid stream feed " ++ path
  | inputNotText => "stream did not contain valid UTF-8"
  | patternsRejected => "one or more configured patterns are invalid"

/-- What a run prints, and whether it fails. -/
structure Result where
  output : String
  failure : Option Failure
  deriving DecidableEq, Repr

namespace Result

/-- A run that fails without a document. -/
def failed (failure : Failure) : Result := ⟨"", some failure⟩

/-- A run that prints a document. -/
def printed (document : Json) : Result := ⟨document.pretty ++ "\n", none⟩

end Result

/-- The text of a feed. A dash stands for the input. -/
def readContents {m : Type → Type} [Monad m] (access : Access m) (path : String) :
    m (Except Failure String) := do
  if path = "-" then
    match ← access.input with
    | some contents => return .ok contents
    | none => return .error .inputNotText
  else
    match ← access.look path with
    | .text contents => return .ok contents
    | _ => return .error (.feedNotRead path)

/-- The streams of a feed. -/
def readFeed {m : Type → Type} [Monad m] (access : Access m) (path : String) :
    m (Except Failure (List Stream)) := do
  match ← readContents access path with
  | .ok contents => return (Feed.parse contents).mapError fun _ => .feedMalformed path
  | .error failure => return .error failure

/-- Respells a pattern in a dialect. -/
def translateResult (target : Dialect) (pattern : String) : Result :=
  let translated := match target with
    | .internal => toInternal pattern
    | .external => toExternal pattern
  ⟨translated ++ "\n", none⟩

namespace Settings

/-- The fields of settings, compiled. -/
def fields (s : Settings) : FieldSet := .compile s.patterns s.engine

/-- Whether the built-in filter is switched off, by the settings or by a flag. -/
def skips (s : Settings) (flag : Bool) : Bool := flag || s.patterns.skipBuiltinFilter

/-- Tells whether a pattern is accepted. -/
def validateResult (s : Settings) (pattern : String) : Result :=
  .printed (validationDocument s.engine.limits pattern)

/-- Tells which patterns of the settings are accepted; fails if some is not. -/
def checkResult (s : Settings) : Result :=
  { Result.printed (.array (s.fields.reports.map FieldReport.toJson)) with
    failure := if s.fields.hasErrors then some .patternsRejected else none }

/-- Reports on each stream of a feed. -/
def highlightResult (s : Settings) (flag : Bool) (streams : List Stream) : Result :=
  .printed (s.fields.evaluate streams (s.skips flag)).toJson

/-- Counts the streams of a feed. -/
def statsResult (s : Settings) (flag compare : Bool) (streams : List Stream) : Result :=
  .printed (if compare then
      comparisonDocument (s.fields.stats streams false) (s.fields.stats streams true)
    else (s.fields.stats streams (s.skips flag)).toJson)

end Settings

namespace Command

/-- Runs a command on a feed. -/
def onFeed {m : Type → Type} [Monad m] (access : Access m) (path : String)
    (command : List Stream → Result) : m Result := do
  match ← readFeed access path with
  | .ok streams => return command streams
  | .error failure => return .failed failure

/-- Runs a command with settings. -/
def runWith {m : Type → Type} [Monad m] (access : Access m) (s : Settings) :
    Command → m Result
  | validate pattern => return s.validateResult pattern
  | translate pattern target => return translateResult target pattern
  | check => return s.checkResult
  | highlight feed skip => onFeed access feed (s.highlightResult skip)
  | stats feed skip compare => onFeed access feed (s.statsResult skip compare)

end Command

namespace Invocation

/-- The file of settings where none is named. -/
def defaultPath : String := "epg-matcher.toml"

/-- Runs a command. The file of settings is the one given, else the one that the
environment names. -/
def run {m : Type → Type} [Monad m] (access : Access m) (environmentPath : Option String)
    (i : Invocation) : m Result := do
  match i.command with
  | .translate pattern target => return translateResult target pattern
  | command =>
    let path := (i.settingsPath.or environmentPath).getD defaultPath
    match ← Settings.fromFile access path with
    | .ok settings => command.runWith access settings
    | .error _ => return .failed (.settings path)

end Invocation

/-- What a run of the program leaves behind: its exit code, what it prints, and what it
complains about. -/
structure Outcome where
  code : Nat
  output : String
  complaint : Option String
  deriving DecidableEq, Repr

namespace Outcome

/-- The name of the program with its version. -/
def version : String := "epg-matcher 0.1.0\n"

/-- What is left behind where no command is run. -/
def ofDetour : Command.Detour → Outcome
  | .showHelp topic => ⟨0, topic.page, none⟩
  | .showVersion => ⟨0, version, none⟩
  | .misuse => ⟨2, "", none⟩

/-- What is left behind by a command. -/
def ofResult (r : Result) : Outcome :=
  match r.failure with
  | none => ⟨0, r.output, none⟩
  | some failure => ⟨1, r.output, some ("Error: " ++ failure.message)⟩

end Outcome

/-- Runs what arguments ask for. -/
def runProgram {m : Type → Type} [Monad m] (access : Access m)
    (environmentPath : Option String) (arguments : List String) : m Outcome := do
  match Invocation.parse arguments with
  | .ok invocation => return .ofResult (← invocation.run access environmentPath)
  | .error detour => return .ofDetour detour

end StreamNames
