import StreamNames.Regex.Program

/-!
# Searching

A program is run on a text by following all its ways through the text at once, one
character at a time. The ways are kept in order of preference, and no two stand at the same
instruction, so the time is bounded by the length of the text times that of the program.

- `Thread`: a way through the program, with the groups recorded on it.
- `Program.matchHere?`: the preferred match that starts at a place.
- `Program.find?`: the first match that starts at or after a place.

Places are counted in bytes of UTF-8.
-/

namespace StreamNames.Regex

/-- A stretch of a text, in bytes. -/
structure Extent where
  start : Nat
  stop : Nat
  deriving DecidableEq, Repr

/-- A way through a program: where it stands, the places where groups started, and the
groups that ended, the latest first. -/
structure Thread where
  address : Nat
  entered : List (Nat × Nat)
  recorded : List (Nat × Extent)

/-- A match: what it covers and the groups recorded on the way, the latest first. -/
structure Match where
  extent : Extent
  recorded : List (Nat × Extent)
  deriving DecidableEq, Repr

namespace Thread

/-- The thread at another instruction. -/
def goto (t : Thread) (address : Nat) : Thread := { t with address }

/-- The thread after a group starts. -/
def enter (t : Thread) (index place : Nat) : Thread :=
  { t with entered := (index, place) :: t.entered }

/-- The thread after a group ends. -/
def leave (t : Thread) (index place : Nat) : Thread :=
  { t with recorded := (index, ⟨(t.entered.lookup index).getD place, place⟩) :: t.recorded }

end Thread

/-- A place in a text: the characters on both sides and the bytes before it. -/
structure Place where
  before : Option Char
  after : Option Char
  offset : Nat

namespace Program

/-- Follows threads up to instructions that take a character, most preferred first. An
instruction that was reached before is not followed again. Threads after the first that
accepts are dropped: they are less preferred. Yields the threads that wait for a character,
and the groups of the one that accepts. -/
def follow (p : Program) (place : Place) : (bound : Nat) → (reached : Array Bool) →
    List Thread → List Thread × Option (List (Nat × Extent))
  | 0, _, _ => ([], none)
  | _ + 1, _, [] => ([], none)
  | bound + 1, reached, t :: ts =>
    if reached.getD t.address true then follow p place bound reached ts
    else
      let reached := reached.setIfInBounds t.address true
      match p.code[t.address]? with
      | none => follow p place bound reached ts
      | some .accept => ([], some t.recorded)
      | some (.take _ _) =>
        let (waiting, accepted) := follow p place bound reached ts
        (t :: waiting, accepted)
      | some (.split first second) =>
        follow p place bound reached (t.goto first :: t.goto second :: ts)
      | some (.look look next) =>
        if look.holds place.before place.after then
          follow p place bound reached (t.goto next :: ts)
        else follow p place bound reached ts
      | some (.enter index next) =>
        follow p place bound reached ((t.enter index place.offset).goto next :: ts)
      | some (.leave index next) =>
        follow p place bound reached ((t.leave index place.offset).goto next :: ts)

/-- `follow` with enough rounds: an instruction is followed once and adds at most two
threads. -/
def settle (p : Program) (place : Place) (threads : List Thread) :
    List Thread × Option (List (Nat × Extent)) :=
  follow p place (threads.length + 2 * p.code.size + 1) (.replicate p.code.size false) threads

/-- The threads that take a character. -/
def step (p : Program) (c : Char) (waiting : List Thread) : List Thread :=
  waiting.filterMap fun t =>
    match p.code[t.address]? with
    | some (Instr.take set next) => if set.contains c then some (t.goto next) else none
    | _ => none

/-- Runs threads on the rest of a text, given the character before it. `best` is the most
preferred match so far: where it ends and its groups. -/
def run (p : Program) : (before : Option Char) → (offset : Nat) → List Char →
    List Thread → (best : Option (Nat × List (Nat × Extent))) →
    Option (Nat × List (Nat × Extent))
  | before, offset, [], threads, best =>
    match (p.settle ⟨before, none, offset⟩ threads).2 with
    | some recorded => some (offset, recorded)
    | none => best
  | before, offset, c :: rest, threads, best =>
    let (waiting, accepted) := p.settle ⟨before, some c, offset⟩ threads
    let best := match accepted with
      | some recorded => some (offset, recorded)
      | none => best
    match p.step c waiting with
    | [] => best
    | threads => run p (some c) (offset + c.utf8Size) rest threads best

/-- The preferred match that starts where the rest of a text starts. -/
def matchHere? (p : Program) (before : Option Char) (offset : Nat) (rest : List Char) :
    Option Match :=
  (p.run before offset rest [⟨p.start, [], []⟩] none).map fun (stop, recorded) =>
    ⟨⟨offset, stop⟩, recorded⟩

/-- The first match in the rest of a text that starts at or after `cursor`. -/
def findFrom? (p : Program) (cursor : Nat) : (before : Option Char) → (offset : Nat) →
    List Char → Option Match
  | before, offset, [] => if cursor ≤ offset then p.matchHere? before offset [] else none
  | before, offset, c :: rest =>
    let later := fun (_ : Unit) => findFrom? p cursor (some c) (offset + c.utf8Size) rest
    if cursor ≤ offset then
      match p.matchHere? before offset (c :: rest) with
      | some found => some found
      | none => later ()
    else later ()

/-- The first match in a text that starts at or after `cursor`. What lies before it is
seen by tests of a place. -/
def find? (p : Program) (text : List Char) (cursor : Nat) : Option Match :=
  p.findFrom? cursor none 0 text

end Program

namespace Match

/-- What a group covers, if it took part in the match. -/
def group? (m : Match) (index : Nat) : Option Extent := m.recorded.lookup index

end Match

end StreamNames.Regex
