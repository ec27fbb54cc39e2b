/-!
# Files

Where paths lead, and where files can be made, is up to the system that a program runs on. A
run cannot change it, but it may add a file where there is none.

- `Access`: the ways in which a program reaches what is outside it, for any kind of effect.
- `Paths`: where paths lead, and where files can be made.
- `Directory`: files by the names of their places.
- `Directory.accessBy`: access to files by paths, where a run changes nothing else.
-/

namespace StreamNames

/-- What is found under a path. -/
inductive Entry where
  | text (contents : String)
  /-- A file whose bytes are not text in UTF-8. -/
  | notText
  /-- Something that cannot be read as a file, such as a directory. -/
  | notFile
  | absent
  deriving DecidableEq, Repr

/-- The ways in which a program reaches files and its input. -/
structure Access (m : Type → Type) where
  /-- Looks at what is found under a path. -/
  look : String → m Entry
  /-- Makes a file where there is none; tells whether it could be made. A file is made with
  all of its contents or not at all. -/
  create : (path contents : String) → m Bool
  /-- The whole input, unless it is not text. -/
  input : m (Option String)

/-! ## Paths -/

/-- What a path leads to. -/
inductive Place where
  /-- Where a file is, or could be. Several paths may lead there. -/
  | file (name : String)
  /-- Something that is no file, or a file that must not be read. -/
  | unreadable
  | nowhere
  deriving DecidableEq, Repr

/-- How a system understands paths. -/
structure Paths where
  /-- What a path leads to, through directories and links. -/
  placeOf : String → Place
  /-- Whether a file can be made in a place where there is none. -/
  admits : (name : String) → Bool

namespace Paths

/-- The way to a file or a directory, from the root if the first step is empty, else from the
working directory. No step but the first ones leads up. -/
abbrev Way := List String

/-- One step up. Nothing is above the root. -/
def above (way : Way) : Way :=
  if way = [""] then way
  else if way.getLast? = none ∨ way.getLast? = some ".." then way ++ [".."]
  else way.dropLast

/-- Goes on from a directory, which is left where it is by an empty step or a dot. -/
def enter (way : Way) (step : String) : Way :=
  if step = "" ∨ step = "." then way
  else if step = ".." then above way
  else way ++ [step]

/-- Follows the steps of a path, each of which must start from a directory. -/
def follow (isDirectory : Way → Bool) : Way → (steps : List String) → Option Way
  | way, [] => some way
  | way, step :: steps =>
    if isDirectory way then follow isDirectory (enter way step) steps else none

/-- The steps of a path. -/
def stepsOf (path : String) : List String := (path.toList.splitOn '/').map String.ofList

/-- Where a path leads, if it leads anywhere. The empty path does not. -/
def wayOf? (isDirectory : Way → Bool) (path : String) : Option Way :=
  match stepsOf path with
  | [""] => none
  | "" :: steps => follow isDirectory [""] steps
  | steps => follow isDirectory [] steps

/-- Paths among directories that are known, without links. Each is given with whether files
can be made in it. -/
def among (directories : List (Way × Bool)) : Paths where
  placeOf path :=
    let isDirectory (way : Way) := (directories.lookup way).isSome
    match wayOf? isDirectory path with
    | some way => if isDirectory way then .unreadable else .file ("/".intercalate way)
    | none => .nowhere
  admits name := (directories.lookup (above (stepsOf name))).getD false

/-- Paths from a working directory that has no others in it. Files can be made there and in
the directory above, but not in the root. -/
def nearby : Paths := among [([], true), ([".."], true), ([""], false)]

end Paths

/-! ## Files in their places -/

/-- Files by the names of their places. Contents are missing where they are not text. -/
structure Directory where
  files : List (String × Option String)
  deriving DecidableEq, Repr

namespace Directory

/-- What is found under a path. -/
def entry (paths : Paths) (d : Directory) (path : String) : Entry :=
  match paths.placeOf path with
  | .file name =>
    match d.files.lookup name with
    | some (some contents) => .text contents
    | some none => .notText
    | none => .absent
  | .unreadable => .notFile
  | .nowhere => .absent

/-- The directory with one more file, if its path leads to where a file can be made. -/
def add? (paths : Paths) (d : Directory) (path contents : String) : Option Directory :=
  match paths.placeOf path with
  | .file name => if paths.admits name then some ⟨d.files ++ [(name, some contents)]⟩ else none
  | .unreadable | .nowhere => none

/-- Access to files by paths, and to a given input. -/
def accessBy (paths : Paths) (input : Option String) : Access (StateM Directory) where
  look path := return (← get).entry paths path
  create path contents := do
    match (← get).add? paths path contents with
    | some d =>
      set d
      return true
    | none => return false
  input := return input

/-- Access to the files of a working directory, and to a given input. -/
def access (input : Option String) : Access (StateM Directory) := accessBy .nearby input

end Directory

end StreamNames
