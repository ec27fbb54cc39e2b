import StreamNames.Regex.Expr
import StreamNames.Regex.Fault

/-!
# From writing to meaning

What a written expression means depends on the flags in force where it stands. `(?…)` sets
flags up to the end of the group it stands in, `(?…:…)` for its own contents. Case is
ignored and Unicode is on at the start.

Where Unicode is switched off, everything that could match a part of a character is a
fault: a dot, a negated class, and a byte beyond ASCII.

- `ClassItem.meaning`: the set that stands between brackets.
- `Ast.meaning`: the expression.
-/

namespace StreamNames.Regex

open StreamNames.Unicode (NamedSet NameError isWhitespace)

/-- The flags in force. -/
structure Flags where
  ignoreCase : Bool
  multiLine : Bool
  dotMatchesLineEnd : Bool
  swapGreed : Bool
  unicode : Bool
  crlf : Bool
  deriving DecidableEq, Repr

/-- The flags at the start of a pattern. -/
def Flags.initial : Flags := ⟨true, false, false, false, true, false⟩

/-- The flags after one of them is set. -/
def Flags.set (flags : Flags) (flag : Flag) (on : Bool) : Flags :=
  match flag with
  | .caseInsensitive => { flags with ignoreCase := on }
  | .multiLine => { flags with multiLine := on }
  | .dotMatchesNewLine => { flags with dotMatchesLineEnd := on }
  | .swapGreed => { flags with swapGreed := on }
  | .unicode => { flags with unicode := on }
  | .crlf => { flags with crlf := on }
  | .ignoreWhitespace => flags

/-- The flags after a list of settings, where those after a hyphen switch off. -/
def Flags.apply : (negated : Bool) → Flags → List FlagItem → Flags
  | _, flags, [] => flags
  | _, flags, .negation _ :: items => apply true flags items
  | negated, flags, .flag _ flag :: items => apply negated (flags.set flag !negated) items

/-! ## Sets -/

/-- The characters of a class written `[:…:]`. -/
def AsciiClass.toSet : AsciiClass → CharSet
  | alnum => .union (.range '0' '9') (.union (.range 'A' 'Z') (.range 'a' 'z'))
  | alpha => .union (.range 'A' 'Z') (.range 'a' 'z')
  | ascii => .range '\x00' '\x7f'
  | blank => .union (.single '\t') (.single ' ')
  | cntrl => .union (.range '\x00' '\x1f') (.single '\x7f')
  | digit => .range '0' '9'
  | graph => .range '!' '~'
  | lower => .range 'a' 'z'
  | print => .range ' ' '~'
  | punct => .union (.union (.range '!' '/') (.range ':' '@'))
      (.union (.range '[' '\x60') (.range '\x7b' '~'))
  | space => .union (.range '\t' '\r') (.single ' ')
  | upper => .range 'A' 'Z'
  | word => .union (.union (.range '0' '9') (.range 'A' 'Z'))
      (.union (.single '_') (.range 'a' 'z'))
  | xdigit => .union (.range '0' '9') (.union (.range 'A' 'F') (.range 'a' 'f'))

/-- The characters of `\d`, `\s` or `\w`. -/
def PerlClass.toSet (unicode : Bool) : PerlClass → CharSet
  | digit => if unicode then .named .digits else AsciiClass.digit.toSet
  | space => if unicode then .named .blanks else AsciiClass.space.toSet
  | word => if unicode then .named .wordCharacters else AsciiClass.word.toSet

/-- A set as the flags and a negation sign have it. Case is ignored before the negation.
Without Unicode a negated set could match a part of a character. -/
def finishSet (flags : Flags) (span : Span) (negated : Bool) (s : CharSet) :
    Except Fault CharSet :=
  let s := if flags.ignoreCase then
      if flags.unicode then .anyCase s else .anyAsciiCase s
    else s
  if !negated then .ok s
  else if flags.unicode then .ok (.complement s)
  else .error ⟨.invalidUtf8, span, none⟩

/-- The set of `\d`, `\s` or `\w` or its complement, for which case makes no difference. -/
def PerlClass.meaning (flags : Flags) (span : Span) (negated : Bool) (kind : PerlClass) :
    Except Fault CharSet :=
  let s := kind.toSet flags.unicode
  if !negated then .ok s
  else if flags.unicode then .ok (.complement s)
  else .error ⟨.invalidUtf8, span, none⟩

/-- The set that a property names. -/
def PropertyName.meaning (flags : Flags) (span : Span) (negated : Bool)
    (name : PropertyName) : Except Fault CharSet :=
  if !flags.unicode then .error ⟨.unicodeNotAllowed, span, none⟩
  else
    let found := match name with
      | .single name => NamedSet.named name
      | .valued property value => NamedSet.valued property value
    match found with
    | .ok set => finishSet flags span negated (.named set)
    | .error .property => .error ⟨.propertyNotFound, span, none⟩
    | .error .value => .error ⟨.propertyValueNotFound, span, none⟩

/-- The character that a literal between brackets stands for. -/
def Literal.inClass (flags : Flags) (l : Literal) : Except Fault Char :=
  if flags.unicode || l.char.toNat < 0x80 then .ok l.char
  else if l.isByte then .error ⟨.invalidUtf8, l.span, none⟩
  else .error ⟨.unicodeNotAllowed, l.span, none⟩

/-- The result of an operation on two sets. -/
def SetOp.apply (kind : SetOp) (s t : CharSet) : CharSet :=
  match kind with
  | intersection => .intersection s t
  | difference => .difference s t
  | symmetricDifference => .symmetricDifference s t

/-- A set with case ignored if the flags say so. -/
def CharSet.folded (flags : Flags) (s : CharSet) : CharSet :=
  if flags.ignoreCase then
    if flags.unicode then .anyCase s else .anyAsciiCase s
  else s

mutual

/-- The set that an item between brackets stands for. -/
def ClassItem.meaning (flags : Flags) : ClassItem → Except Fault CharSet
  | .empty _ => .ok .empty
  | .literal l => do return .single (← l.inClass flags)
  | .range _ first last => do
    let first ← first.inClass flags
    let last ← last.inClass flags
    return .range first last
  | .ascii span negated kind => finishSet flags span negated kind.toSet
  | .property span negated name => name.meaning flags span negated
  | .perl span negated kind => kind.meaning flags span negated
  | .bracketed span negated body => do finishSet flags span negated (← body.meaning flags)
  | .union _ items => ClassItem.unionMeaning flags items
  | .op _ kind lhs rhs => do
    let s ← lhs.meaning flags
    let t ← rhs.meaning flags
    return kind.apply (s.folded flags) (t.folded flags)

/-- The set that several items stand for together. -/
def ClassItem.unionMeaning (flags : Flags) : List ClassItem → Except Fault CharSet
  | [] => .ok .empty
  | [item] => item.meaning flags
  | item :: items => do
    let s ← item.meaning flags
    let t ← ClassItem.unionMeaning flags items
    return .union s t

end

/-! ## Expressions -/

/-- The characters that a literal matches. -/
def Literal.meaning (flags : Flags) (l : Literal) : Except Fault CharSet :=
  if flags.unicode then .ok ((CharSet.single l.char).folded flags)
  else if l.isByte && 0x80 ≤ l.char.toNat then .error ⟨.invalidUtf8, l.span, none⟩
  else .ok ((CharSet.single l.char).folded flags)

/-- The characters that a dot matches: all but line ends, unless the flags say otherwise. -/
def dotMeaning (flags : Flags) (span : Span) : Except Fault CharSet :=
  if !flags.unicode then .error ⟨.invalidUtf8, span, none⟩
  else if flags.dotMatchesLineEnd then .ok .all
  else if flags.crlf then .ok (.complement (.union (.single '\r') (.single '\n')))
  else .ok (.complement (.single '\n'))

/-- The test that an assertion stands for. -/
def Assertion.meaning (flags : Flags) : Assertion → Look
  | startLine =>
    if !flags.multiLine then .textStart
    else if flags.crlf then .lineStartCrlf else .lineStart
  | endLine =>
    if !flags.multiLine then .textEnd
    else if flags.crlf then .lineEndCrlf else .lineEnd
  | startText => .textStart
  | endText => .textEnd
  | wordBoundary => .word .boundary flags.unicode
  | notWordBoundary => .word .notBoundary flags.unicode
  | wordStart => .word .start flags.unicode
  | wordEnd => .word .stop flags.unicode
  | wordStartHalf => .word .startHalf flags.unicode
  | wordEndHalf => .word .stopHalf flags.unicode

mutual

/-- What a written expression means under the flags in force, and the flags in force after
it. -/
def Ast.meaning (flags : Flags) : Ast → Except Fault (Expr × Flags)
  | .empty _ => .ok (.empty, flags)
  | .flags _ items => .ok (.empty, flags.apply false items)
  | .literal l => do return (.set (← l.meaning flags), flags)
  | .dot span => do return (.set (← dotMeaning flags span), flags)
  | .assertion _ kind => .ok (.look (kind.meaning flags), flags)
  | .property span negated name => do return (.set (← name.meaning flags span negated), flags)
  | .perl span negated kind => do return (.set (← kind.meaning flags span negated), flags)
  | .bracketed span negated body => do
    return (.set (← finishSet flags span negated (← body.meaning flags)), flags)
  | .repetition _ counts _ greedy body => do
    let (e, flags) ← body.meaning flags
    return (e.repeated counts.min counts.max (greedy != flags.swapGreed), flags)
  | .group _ (.capture index name) body => do
    let (e, _) ← body.meaning flags
    return (.group index name e, flags)
  | .group _ (.plain items) body => do
    let (e, _) ← body.meaning (flags.apply false items)
    return (e, flags)
  | .alternation _ branches => do
    let (es, flags) ← Ast.meanings flags branches
    return (.choice es, flags)
  | .concat _ items => do
    let (es, flags) ← Ast.meanings flags items
    return (.sequence es, flags)

/-- What several expressions mean, each under the flags that those before it leave. -/
def Ast.meanings (flags : Flags) : List Ast → Except Fault (List Expr × Flags)
  | [] => .ok ([], flags)
  | item :: items => do
    let (e, flags) ← item.meaning flags
    let (es, flags) ← Ast.meanings flags items
    return (e :: es, flags)

end

end StreamNames.Regex
