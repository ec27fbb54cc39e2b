import StreamNames.Regex.Ast

/-!
# Nesting

How deeply the parts of an expression are nested: repetitions, groups, alternations,
sequences, brackets and what stands between them each add a level.

- `Ast.beyond?`: the first part, in reading order, that lies deeper than a limit.
-/

namespace StreamNames.Regex

/-- The first of two stretches that there is. -/
def firstSpan? (a b : Option Span) : Option Span :=
  match a with
  | some span => some span
  | none => b

mutual

/-- The first part of an item that lies deeper than `room` more levels. -/
def ClassItem.beyond? (room : Nat) : ClassItem → Option Span
  | .bracketed span _ body =>
    match room with
    | 0 => some span
    | room + 1 => body.beyond? room
  | .union span items =>
    match room with
    | 0 => some span
    | room + 1 => ClassItem.anyBeyond? room items
  | .op span _ lhs rhs =>
    match room with
    | 0 => some span
    | room + 1 => firstSpan? (lhs.beyond? room) (rhs.beyond? room)
  | .empty _ | .literal _ | .range _ _ _ | .ascii _ _ _ | .property _ _ _ | .perl _ _ _ => none

/-- The first part of several items that lies deeper than `room` more levels. -/
def ClassItem.anyBeyond? (room : Nat) : List ClassItem → Option Span
  | [] => none
  | item :: items => firstSpan? (item.beyond? room) (ClassItem.anyBeyond? room items)

end

mutual

/-- The first part of an expression that lies deeper than `room` more levels. -/
def Ast.beyond? (room : Nat) : Ast → Option Span
  | .bracketed span _ body =>
    match room with
    | 0 => some span
    | room + 1 => body.beyond? room
  | .repetition span _ _ _ body | .group span _ body =>
    match room with
    | 0 => some span
    | room + 1 => body.beyond? room
  | .alternation span items | .concat span items =>
    match room with
    | 0 => some span
    | room + 1 => Ast.anyBeyond? room items
  | .empty _ | .flags _ _ | .literal _ | .dot _ | .assertion _ _ | .property _ _ _
  | .perl _ _ _ => none

/-- The first part of several expressions that lies deeper than `room` more levels. -/
def Ast.anyBeyond? (room : Nat) : List Ast → Option Span
  | [] => none
  | item :: items => firstSpan? (item.beyond? room) (Ast.anyBeyond? room items)

end

end StreamNames.Regex
