import StreamNames.Files.Directory
import StreamNames.Settings.Document

/-!
# Files of settings

Settings are kept in a file. If it is missing, it is made, and spells out the defaults.

- `Settings.fromFile`: the settings in a file.
-/

namespace StreamNames.Settings

/-- Why a file yields no settings. -/
inductive FileError where
  | load (error : LoadError)
  | notText
  | notFile
  | notCreated
  deriving DecidableEq, Repr

/-- The wording of an error, for those that have one of their own. -/
def FileError.message? : FileError → Option String
  | load (.zeroLimit limit) => some ("Configuration error: " ++ limit.message)
  | notText => some "I/O error: stream did not contain valid UTF-8"
  | load .malformed | notFile | notCreated => none

/-- The settings in a file, which is made if it is missing. -/
def fromFile {m : Type → Type} [Monad m] (access : Access m) (path : String) :
    m (Except FileError Settings) := do
  match ← access.look path with
  | .text document => return (load document).mapError .load
  | .notText => return .error .notText
  | .notFile => return .error .notFile
  | .absent =>
    if ← access.create path defaultDocument then return .ok default
    else return .error .notCreated

end StreamNames.Settings
