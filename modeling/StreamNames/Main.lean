import StreamNames.Command.Run

/-!
# The command line
-/

namespace StreamNames

/-- Access to the files of the system and to the standard input. -/
def systemAccess : Access IO where
  look path := do
    try
      match String.fromUTF8? (← IO.FS.readBinFile path) with
      | some contents => return .text contents
      | none => return .notText
    catch
      | .noFileOrDirectory .. => return .absent
      | _ => return .notFile
  create path contents := do
    try
      IO.FS.writeFile path contents
      return true
    catch _ => return false
  input := do
    return String.fromUTF8? (← (← IO.getStdin).readBinToEnd)

end StreamNames

/-- Runs the program with its arguments. -/
def main (arguments : List String) : IO UInt32 := do
  let environmentPath ← IO.getEnv "EPG_MATCHER_CONFIG"
  let outcome ← StreamNames.runProgram StreamNames.systemAccess environmentPath arguments
  IO.print outcome.output
  match outcome.complaint with
  | some complaint => IO.eprintln complaint
  | none => pure ()
  return UInt32.ofNat outcome.code
