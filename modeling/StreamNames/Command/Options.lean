/-!
# Options among arguments

Arguments are read from left to right. An option has a long name after two dashes, and may
have a letter after one dash. Its value follows it as the next argument, or in the same one.
After two dashes alone, there are no more options.

- `OptionForm`: an option that may be given, with what is said about it.
- `Argument.ofList`: what the arguments are.
- `Given.collect`: the options and words that are given.
-/

namespace StreamNames.Command

/-- What help is given on: the program as a whole, or one of its commands. -/
inductive Topic where
  | program | validate | translate | check | highlight | stats | help
  deriving DecidableEq, Repr

/-- What is done instead of running a command. -/
inductive Detour where
  | showHelp (topic : Topic)
  | showVersion
  /-- Some argument is wrong or missing. -/
  | misuse
  deriving DecidableEq, Repr

/-- What an option stands for. -/
inductive OptionRole where
  /-- It is given or not. -/
  | flag
  /-- It has a value, which is one of `choices` if there are any. -/
  | value (letter : Option Char) (choices : List String)
  /-- It leads elsewhere at once. -/
  | detour (letter : Char) (target : Detour)

/-- An option that may be given. -/
structure OptionForm where
  name : String
  role : OptionRole
  about : String
  /-- The value that is used where the option is missing. -/
  default? : Option String := none

/-- The letter of an option. -/
def OptionForm.letter? (form : OptionForm) : Option Char :=
  match form.role with
  | .flag => none
  | .value letter _ => letter
  | .detour letter _ => some letter

/-- What one or two arguments are. -/
inductive Argument where
  | option (name value : String)
  /-- A word that is no option, with the arguments after it. -/
  | word (text : String) (following : List String)
  /-- A word after two dashes alone. -/
  | operand (text : String)
  | detour (target : Detour)

/-- What a single argument is, as far as it can be told without the next one. -/
inductive Reading where
  | word
  | dashes
  | complete (argument : Argument)
  /-- An option that takes the next argument as its value. -/
  | incomplete (name : String) (choices : List String)

/-- An option with its value, if it may have it. -/
def withValue (name : String) (choices : List String) (value : String) : Argument :=
  if choices.isEmpty || choices.contains value then .option name value else .detour .misuse

/-- Reads an option by its long name, perhaps with a value after an equals sign. -/
def readLong (forms : List OptionForm) (text : List Char) : Reading :=
  let name := String.ofList (text.takeWhile (· ≠ '='))
  match forms.find? (·.name = name), text.dropWhile (· ≠ '=') with
  | some { role := .flag, .. }, [] => .complete (.option name "")
  | some { role := .detour _ target, .. }, [] => .complete (.detour target)
  | some { role := .value _ choices, .. }, [] => .incomplete name choices
  | some { role := .value _ choices, .. }, _ :: value =>
    .complete (withValue name choices (String.ofList value))
  | _, _ => .complete (.detour .misuse)

/-- Reads an option by its letter, perhaps with a value directly after it or after an equals
sign. -/
def readLetter (forms : List OptionForm) (letter : Char) (rest : List Char) : Reading :=
  match forms.find? (·.letter? = some letter) with
  | some { role := .detour _ target, .. } => .complete (.detour target)
  | some { name, role := .value _ choices, .. } =>
    match rest with
    | [] => .incomplete name choices
    | '=' :: value => .complete (withValue name choices (String.ofList value))
    | value => .complete (withValue name choices (String.ofList value))
  | _ => .complete (.detour .misuse)

/-- Reads an argument. A dash alone is a word. -/
def readArgument (forms : List OptionForm) (text : String) : Reading :=
  match text.toList with
  | ['-', '-'] => .dashes
  | '-' :: '-' :: rest => readLong forms rest
  | '-' :: letter :: rest => readLetter forms letter rest
  | _ => .word

/-- Whether an argument looks like an option, so that it is nobody's value. -/
def looksLikeOption (text : String) : Bool :=
  match text.toList with
  | '-' :: _ :: _ => true
  | _ => false

/-- What arguments are, from left to right. -/
def Argument.ofList (forms : List OptionForm) : List String → List Argument
  | [] => []
  | text :: rest =>
    match readArgument forms text with
    | .word => .word text rest :: ofList forms rest
    | .dashes => rest.map .operand
    | .complete argument => argument :: ofList forms rest
    | .incomplete name choices =>
      match rest with
      | value :: rest =>
        if looksLikeOption value then [.detour .misuse]
        else withValue name choices value :: ofList forms rest
      | [] => [.detour .misuse]

/-- The options that are given, with their values, and the words. -/
structure Given where
  options : List (String × String)
  words : List String

namespace Given

/-- Nothing is given. -/
def nothing : Given := ⟨[], []⟩

/-- The value of an option. -/
def value? (g : Given) (name : String) : Option String := g.options.lookup name

/-- Whether an option is given. -/
def has (g : Given) (name : String) : Bool := (g.value? name).isSome

/-- One more option, which must not be given already. -/
def addOption (g : Given) (name value : String) : Except Detour Given :=
  if g.has name then .error .misuse else .ok { g with options := g.options ++ [(name, value)] }

/-- One more word, if there are not too many. -/
def addWord (g : Given) (limit : Nat) (text : String) : Except Detour Given :=
  if g.words.length < limit then .ok { g with words := g.words ++ [text] }
  else .error .misuse

/-- What arguments give, with at most `limit` words. The first that leads elsewhere
decides. -/
def collect (limit : Nat) : List Argument → Given → Except Detour Given
  | [], g => .ok g
  | .detour target :: _, _ => .error target
  | .option name value :: rest, g => do collect limit rest (← g.addOption name value)
  | .word text _ :: rest, g | .operand text :: rest, g => do
    collect limit rest (← g.addWord limit text)

end Given

end StreamNames.Command
