/-!
# Written regular expressions

A regular expression as it is written, each part with the stretch of text it came from.
Faults found later are reported at these stretches.

- `Position`, `Span`: places in the text, by character, line and column.
- `ClassItem`: what stands between brackets.
- `Ast`: a whole expression.
-/

namespace StreamNames.Regex

/-! ## Places -/

/-- A place in a text: the characters before it, its line and its column, the last two
counted from one. -/
structure Position where
  index : Nat
  line : Nat
  column : Nat
  deriving DecidableEq, Repr

/-- The place before the first character. -/
def Position.start : Position := ⟨0, 1, 1⟩

/-- The place after one more character. -/
def Position.advance (p : Position) (c : Char) : Position :=
  if c = '\n' then ⟨p.index + 1, p.line + 1, 1⟩ else ⟨p.index + 1, p.line, p.column + 1⟩

/-- A stretch of text, from `start` up to but without `stop`. -/
structure Span where
  start : Position
  stop : Position
  deriving DecidableEq, Repr

/-- The empty stretch at a place. -/
def Span.point (p : Position) : Span := ⟨p, p⟩

/-! ## Parts -/

/-- A character that stands for itself. `isByte` marks `\xNN`, which names a byte where
Unicode is switched off. -/
structure Literal where
  span : Span
  char : Char
  isByte : Bool
  deriving DecidableEq, Repr

/-- The classes written `\d`, `\s` and `\w`. -/
inductive PerlClass where
  | digit | space | word
  deriving DecidableEq, Repr

/-- The classes written `[:alpha:]` and so on inside brackets. -/
inductive AsciiClass where
  | alnum | alpha | ascii | blank | cntrl | digit | graph
  | lower | print | punct | space | upper | word | xdigit
  deriving DecidableEq, Repr

/-- What follows `\p`: one word, or a property and a value. -/
inductive PropertyName where
  | single (name : String)
  | valued (property value : String)
  deriving DecidableEq, Repr

/-- The operations on sets between brackets: `&&`, `--` and `~~`. -/
inductive SetOp where
  | intersection | difference | symmetricDifference
  deriving DecidableEq, Repr

/-- What stands between brackets. -/
inductive ClassItem where
  | empty (span : Span)
  | literal (literal : Literal)
  | range (span : Span) (first last : Literal)
  | ascii (span : Span) (negated : Bool) (kind : AsciiClass)
  | property (span : Span) (negated : Bool) (name : PropertyName)
  | perl (span : Span) (negated : Bool) (kind : PerlClass)
  | bracketed (span : Span) (negated : Bool) (body : ClassItem)
  | union (span : Span) (items : List ClassItem)
  | op (span : Span) (kind : SetOp) (lhs rhs : ClassItem)

/-- The text that an item came from. -/
def ClassItem.span : ClassItem → Span
  | empty span | range span _ _ | ascii span _ _ | property span _ _ | perl span _ _
  | bracketed span _ _ | union span _ | op span _ _ _ => span
  | literal l => l.span

/-- What can be switched on and off by `(?…)`. -/
inductive Flag where
  | caseInsensitive | multiLine | dotMatchesNewLine | swapGreed | unicode | crlf
  | ignoreWhitespace
  deriving DecidableEq, Repr

/-- One character between `(?` and `)` or `:`. -/
inductive FlagItem where
  | negation (span : Span)
  | flag (span : Span) (flag : Flag)
  deriving DecidableEq, Repr

/-- The text that a flag or hyphen came from. -/
def FlagItem.span : FlagItem → Span
  | negation span | flag span _ => span

/-- What a list of flags says of one flag: the first mention counts, and those after a
hyphen switch off. -/
def FlagItem.setting? (flag : Flag) : (negated : Bool) → List FlagItem → Option Bool
  | _, [] => none
  | _, .negation _ :: items => setting? flag true items
  | negated, .flag _ f :: items =>
    if f = flag then some (!negated) else setting? flag negated items

/-- Tests of the place between two characters. -/
inductive Assertion where
  | startLine | endLine | startText | endText
  | wordBoundary | notWordBoundary
  | wordStart | wordEnd | wordStartHalf | wordEndHalf
  deriving DecidableEq, Repr

/-- How often a part is repeated; without `max` there is no upper bound. -/
structure Counts where
  min : Nat
  max : Option Nat
  deriving DecidableEq, Repr

/-- What a group does besides grouping. -/
inductive GroupKind where
  /-- Records what it matched, under a number and perhaps a name. -/
  | capture (index : Nat) (name : Option String)
  /-- Sets flags for its contents. -/
  | plain (flags : List FlagItem)
  deriving DecidableEq, Repr

/-- A regular expression as it is written. `counted` marks a repetition whose bounds are
spelled out between braces. -/
inductive Ast where
  | empty (span : Span)
  | flags (span : Span) (items : List FlagItem)
  | literal (literal : Literal)
  | dot (span : Span)
  | assertion (span : Span) (kind : Assertion)
  | property (span : Span) (negated : Bool) (name : PropertyName)
  | perl (span : Span) (negated : Bool) (kind : PerlClass)
  | bracketed (span : Span) (negated : Bool) (body : ClassItem)
  | repetition (span : Span) (counts : Counts) (counted greedy : Bool) (body : Ast)
  | group (span : Span) (kind : GroupKind) (body : Ast)
  | alternation (span : Span) (branches : List Ast)
  | concat (span : Span) (items : List Ast)

/-- The text that an expression came from. -/
def Ast.span : Ast → Span
  | empty span | flags span _ | dot span | assertion span _ | property span _ _
  | perl span _ _ | bracketed span _ _ | repetition span _ _ _ _ | group span _ _
  | alternation span _ | concat span _ => span
  | literal l => l.span

/-- The name of a class written `[:…:]`. -/
def AsciiClass.ofName? : String → Option AsciiClass
  | "alnum" => some alnum
  | "alpha" => some alpha
  | "ascii" => some ascii
  | "blank" => some blank
  | "cntrl" => some cntrl
  | "digit" => some digit
  | "graph" => some graph
  | "lower" => some lower
  | "print" => some print
  | "punct" => some punct
  | "space" => some space
  | "upper" => some upper
  | "word" => some word
  | "xdigit" => some xdigit
  | _ => none

/-- The flag that a letter stands for. -/
def Flag.ofChar? : Char → Option Flag
  | 'i' => some caseInsensitive
  | 'm' => some multiLine
  | 's' => some dotMatchesNewLine
  | 'U' => some swapGreed
  | 'u' => some unicode
  | 'R' => some crlf
  | 'x' => some ignoreWhitespace
  | _ => none

end StreamNames.Regex
