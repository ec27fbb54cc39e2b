import StreamNames.Command.Invocation

/-!
# Help

A page of help says what a command is for and how it is used, and then lists what may be
given to it, in columns.

- `Command.OptionForm.row`: an option as it is listed.
- `Command.Topic.page`: the page on a topic.
-/

namespace StreamNames.Command

/-- The place for the value of an option, named after it. -/
def placeholder (name : String) : String :=
  String.ofList (name.toList.map fun c => if c = '-' then '_' else c.toUpper)

/-- An option as it is listed, with what is said about it, its default and its choices. -/
def OptionForm.row (form : OptionForm) : String × String :=
  let letter := match form.letter? with
    | some c => String.ofList ['-', c, ',', ' ']
    | none => "    "
  let (value, choices) := match form.role with
    | .value _ choices => (" <" ++ placeholder form.name ++ ">", choices)
    | .flag | .detour .. => ("", [])
  let remarks :=
    [some form.about, form.default?.map fun value => "[default: " ++ value ++ "]",
      if choices.isEmpty then none
      else some ("[possible values: " ++ ", ".intercalate choices ++ "]")]
  (letter ++ "--" ++ form.name ++ value,
    " ".intercalate ((remarks.filterMap id).filter (· ≠ "")))

/-- Rows under a title, in two columns. -/
def columns (title : String) (rows : List (String × String)) : String :=
  let width := (rows.map (·.1.length)).foldl max 0
  let row := fun (left, right) =>
    "  " ++ left ++ "".pushn ' ' (width - left.length) ++ "  " ++ right ++ "\n"
  "\n" ++ title ++ ":\n" ++ String.join (rows.map row)

namespace Topic

/-- What a command is for. -/
def about : Topic → String
  | program => "Stream-name pattern matching, highlighting and filter statistics"
  | validate => "Validate a single pattern (external dialect)"
  | translate => "Translate a pattern between named-group dialects"
  | check => "Validate every pattern field of the configuration"
  | highlight => "Highlight segments and verdicts for a JSON stream feed"
  | stats => "Aggregate statistics for a JSON stream feed"
  | help => "Print this message or the help of the given subcommand(s)"

/-- What may follow the options. -/
def operands : Topic → List (String × String)
  | validate | translate => [("<PATTERN>", "")]
  | help => [("[COMMAND]...", "Print help for the subcommand(s)")]
  | program | check | highlight | stats => []

/-- Whether there are options that change what a command does. -/
def hasOptions (topic : Topic) : Bool :=
  topic.forms.any fun form => match form.role with
    | .detour .. => false
    | .flag | .value .. => true

/-- How a command is used. -/
def usage (topic : Topic) : String :=
  " ".intercalate (["Usage: epg-matcher"] ++ topic.name?.toList
    ++ (if topic.hasOptions then ["[OPTIONS]"] else [])
    ++ (if topic = program then ["<COMMAND>"] else [])
    ++ topic.operands.map (·.1)) ++ "\n"

/-- The page on a topic. -/
def page (topic : Topic) : String :=
  topic.about ++ "\n\n" ++ topic.usage
    ++ (if topic = program then
        columns "Commands" (topics.map fun topic => (topic.name?.getD "", topic.about))
      else "")
    ++ (if topic.operands.isEmpty then "" else columns "Arguments" topic.operands)
    ++ (if topic.forms.isEmpty then "" else columns "Options" (topic.forms.map OptionForm.row))

end Topic

end StreamNames.Command
