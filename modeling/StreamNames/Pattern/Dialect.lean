/-!
# Dialects of named groups

There are two ways to write a named group and a reference back to it:

| dialect | group | reference |
|---|---|---|
| external | `(?P<name>` | `(?P=name)` |
| internal | `(?<name>` | `\k<name>` |

Patterns are written in the external dialect and compiled in the internal one. A pattern
is respelled by its text alone, whether it is well formed or not. Escaped characters and
what stands between brackets are never respelled.

- `toInternal`, `toExternal`: the two directions.
-/

namespace StreamNames

/-- A way to write named groups. -/
inductive Dialect where
  | external | internal
  deriving DecidableEq, Repr

namespace Dialect

/-! ## Names and tokens -/

/-- Whether a character may start a group name. -/
def isNameStart (c : Char) : Bool := c.isAlpha || c = '_'

/-- Whether a character may stand in a group name. -/
def isNameChar (c : Char) : Bool := c.isAlphanum || c = '_'

/-- Whether characters are a group name that is respelled: ASCII letters, digits and
underscores, with no digit first. -/
def isGroupName : List Char → Bool
  | [] => false
  | c :: rest => isNameStart c && rest.all isNameChar

/-- If `text` starts with `opening`, a group name and `close`: the name, and the text after
the three. -/
def namedToken? (opening : List Char) (close : Char) (text : List Char) :
    Option (List Char × List Char) :=
  if opening.isPrefixOf text then
    let body := text.drop opening.length
    let name := body.takeWhile (· ≠ close)
    match body.dropWhile (· ≠ close) with
    | [] => none
    | _ :: rest => if isGroupName name then some (name, rest) else none
  else none

/-- How a dialect opens a named group. -/
def groupOpening : Dialect → List Char
  | external => ['(', '?', 'P', '<']
  | internal => ['(', '?', '<']

/-- How a dialect opens a reference. -/
def referenceOpening : Dialect → List Char
  | external => ['(', '?', 'P', '=']
  | internal => ['\\', 'k', '<']

/-- How a dialect closes a reference. -/
def referenceClose : Dialect → Char
  | external => ')'
  | internal => '>'

/-- The start of a group with a name. -/
def writeGroup (d : Dialect) (name : List Char) : List Char :=
  d.groupOpening ++ name ++ ['>']

/-- A reference to a name. -/
def writeReference (d : Dialect) (name : List Char) : List Char :=
  d.referenceOpening ++ name ++ [d.referenceClose]

/-- The dialect that is not `d`. -/
def other : Dialect → Dialect
  | external => internal
  | internal => external

/-- If `text` starts with a group or reference of the other dialect: its form in the target
dialect, and the text after it. -/
def respellToken? (target : Dialect) (text : List Char) : Option (List Char × List Char) :=
  let source := target.other
  match namedToken? source.groupOpening '>' text with
  | some (name, rest) => some (target.writeGroup name, rest)
  | none =>
    match namedToken? source.referenceOpening source.referenceClose text with
    | some (name, rest) => some (target.writeReference name, rest)
    | none => none

/-- A closing bracket directly after `[` or `[^` stands for itself. Splits what follows an
opening bracket after the caret and that closing bracket. -/
def splitClassLead : List Char → List Char × List Char
  | '^' :: ']' :: rest => (['^', ']'], rest)
  | ']' :: rest => ([']'], rest)
  | '^' :: rest => (['^'], rest)
  | rest => ([], rest)

/-! ## Lengths -/

theorem length_lt_of_namedToken? {opening : List Char} {close : Char} {text name rest}
    (h : namedToken? opening close text = some (name, rest)) : rest.length < text.length := by
  unfold namedToken? at h
  split at h
  · simp only at h
    split at h
    · simp at h
    · rename_i c tail hdrop
      split at h
      · simp only [Option.some.injEq, Prod.mk.injEq] at h
        have hle : (c :: tail).length ≤ text.length := by
          rw [← hdrop]
          exact Nat.le_trans (List.dropWhile_sublist _).length_le (by simp)
        rw [← h.2]
        simp only [List.length_cons] at hle
        omega
      · simp at h
  · simp at h

theorem length_lt_of_respellToken? {target : Dialect} {text replacement rest}
    (h : respellToken? target text = some (replacement, rest)) :
    rest.length < text.length := by
  unfold respellToken? at h
  simp only at h
  split at h
  · rename_i name tail hg
    simp only [Option.some.injEq, Prod.mk.injEq] at h
    rw [← h.2]
    exact length_lt_of_namedToken? hg
  · split at h
    · rename_i name tail hr
      simp only [Option.some.injEq, Prod.mk.injEq] at h
      rw [← h.2]
      exact length_lt_of_namedToken? hr
    · simp at h

theorem length_splitClassLead_le (text : List Char) :
    (splitClassLead text).2.length ≤ text.length := by
  unfold splitClassLead
  split <;> simp
  omega

/-! ## Respelling -/

/-- Respells the groups and references of the other dialect. `inClass` says whether `text`
starts between brackets. -/
def respell (target : Dialect) (inClass : Bool) (text : List Char) : List Char :=
  match text with
  | [] => []
  | c :: rest =>
    match _h : if inClass then none else respellToken? target (c :: rest) with
    | some (replacement, after) => replacement ++ respell target false after
    | none =>
      if c = '\\' then
        match rest with
        | [] => [c]
        | escaped :: rest => c :: escaped :: respell target inClass rest
      else if c = '[' ∧ !inClass then
        c :: ((splitClassLead rest).1 ++ respell target true (splitClassLead rest).2)
      else c :: respell target (inClass && c ≠ ']') rest
termination_by text.length
decreasing_by
  · have hlt : after.length < (c :: rest).length := by
      split at _h
      · simp at _h
      · exact length_lt_of_respellToken? _h
    exact hlt
  · simp only [List.length_cons]
    omega
  · have := length_splitClassLead_le rest
    simp only [List.length_cons]
    omega
  · simp

end Dialect

/-- The pattern with its named groups and references in the internal dialect. -/
def toInternal (pattern : String) : String :=
  String.ofList (Dialect.internal.respell false pattern.toList)

/-- The pattern with its named groups and references in the external dialect. -/
def toExternal (pattern : String) : String :=
  String.ofList (Dialect.external.respell false pattern.toList)

end StreamNames
