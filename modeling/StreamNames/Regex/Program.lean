import StreamNames.Regex.Expr

/-!
# Programs

An expression as a list of instructions that refer to each other by address. Where an
instruction names two that may follow, the first is preferred.

Instructions are written from the end of the expression to its start, so that what follows
an instruction has an address already; only the jump that closes a loop is filled in later.

- `Instr`: the instructions.
- `Program.ofExpr`: the program of an expression.
-/

namespace StreamNames.Regex

/-- One instruction. -/
inductive Instr where
  /-- The expression has matched. -/
  | accept
  /-- Take a character of a set. -/
  | take (set : CharSet) (next : Nat)
  /-- Go on at either address, preferably the first. -/
  | split (first second : Nat)
  /-- Go on if a test of the place holds. -/
  | look (look : Look) (next : Nat)
  /-- A group starts. -/
  | enter (index : Nat) (next : Nat)
  /-- A group ends. -/
  | leave (index : Nat) (next : Nat)

/-- Instructions written so far. -/
abbrev Code := Array Instr

/-- Something that writes instructions which go on at a given address: yields the
instructions and the address to start at. -/
abbrev Emitter := (next : Nat) → Code → Code × Nat

namespace Emitter

/-- A choice between two addresses, in the order that greed asks for. -/
def preferring (greedy : Bool) (taken skipped : Nat) : Instr :=
  if greedy then .split taken skipped else .split skipped taken

/-- Writes one instruction. -/
def one (instr : Nat → Instr) : Emitter := fun next code =>
  (code.push (instr next), code.size)

/-- Writes one part so many times in a row. -/
def times (part : Emitter) : Nat → Emitter
  | 0 => fun next code => (code, next)
  | n + 1 => fun next code =>
    let (code, entry) := part next code
    times part n entry code

/-- Writes one part up to so many times in a row, each of which may go on at `exit`
instead. -/
def upTo (part : Emitter) (greedy : Bool) (exit : Nat) : Nat → Code → Code × Nat
  | 0, code => (code, exit)
  | n + 1, code =>
    let (code, entry) := upTo part greedy exit n code
    let (code, entry) := part entry code
    (code.push (preferring greedy entry exit), code.size)

/-- Writes one part that may repeat itself. -/
def plus (part : Emitter) (greedy : Bool) : Emitter := fun next code =>
  let loop := code.size
  let (code, entry) := part loop (code.push (.split next next))
  (code.setIfInBounds loop (preferring greedy entry next), entry)

/-- Writes one part that may be skipped. -/
def optional (part : Emitter) (greedy : Bool) : Emitter := fun next code =>
  let (code, entry) := part next code
  (code.push (preferring greedy entry next), code.size)

/-- Writes a repetition. Without an upper bound the last time repeats itself, and with
neither bound that whole loop may be skipped. -/
def repetition (part : Emitter) (min : Nat) (max : Option Nat) (greedy : Bool) : Emitter :=
  match max with
  | none =>
    if min = 0 then optional (plus part greedy) greedy
    else fun next code =>
      let (code, entry) := plus part greedy next code
      times part (min - 1) entry code
  | some max => fun next code =>
    let (code, entry) := upTo part greedy next (max - min) code
    times part min entry code

end Emitter

/-- The instructions of an expression. -/
def Expr.emit : Expr → Emitter
  | .empty => fun next code => (code, next)
  | .set s => .one (.take s)
  | .look l => .one (.look l)
  | .group index _ body => fun next code =>
    let (code, entry) := Emitter.one (.leave index) next code
    let (code, entry) := body.emit entry code
    Emitter.one (.enter index) entry code
  | .repetition body min max greedy => .repetition body.emit min max greedy
  | .seq first second => fun next code =>
    let (code, entry) := second.emit next code
    first.emit entry code
  | .alt first second => fun next code =>
    let (code, second) := second.emit next code
    let (code, first) := first.emit next code
    (code.push (.split first second), code.size)

/-- Instructions and the address to start at. -/
structure Program where
  code : Code
  start : Nat

/-- The program of an expression. -/
def Program.ofExpr (e : Expr) : Program :=
  let (code, start) := e.emit 0 #[.accept]
  ⟨code, start⟩

end StreamNames.Regex
