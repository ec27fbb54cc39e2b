import Mathlib.Data.List.Basic
import StreamNames.Pattern.Dialect

/-!
# The pieces of a pattern

Respelling reads a pattern in pieces: tokens of either dialect, escaped characters, what
stands between brackets, and single characters. A pattern falls into pieces by its text
alone (`pieces`), without regard to a direction.

- `writePieces_pieces`: the pieces of a pattern are the whole pattern.
- `respell_eq_writePieces`: respelling a pattern respells its tokens and nothing else.
- `pieces_respell`: the result falls into the respelled pieces. A token that comes out of
  a respelling neither joins its neighbours to a new token nor tears one apart, because
  inside a token no other piece than a single character can start.
-/

namespace StreamNames

namespace Dialect

/-! ## Tokens -/

/-- The two kinds of tokens. -/
inductive TokenKind where
  | group | reference
  deriving DecidableEq, Repr

/-- How a dialect opens a token. -/
def opening (d : Dialect) : TokenKind → List Char
  | .group => d.groupOpening
  | .reference => d.referenceOpening

/-- How a dialect closes a token. -/
def closing (d : Dialect) : TokenKind → Char
  | .group => '>'
  | .reference => d.referenceClose

/-- A token with a name. -/
def writeToken (d : Dialect) (kind : TokenKind) (name : List Char) : List Char :=
  d.opening kind ++ name ++ [d.closing kind]

/-- A character at which no piece longer than itself starts. -/
def IsSingle (c : Char) : Prop := c ≠ '\\' ∧ c ≠ '[' ∧ c ≠ '('

theorem IsSingle.of_isNameChar {c : Char} (h : isNameChar c) : IsSingle c := by
  refine ⟨?_, ?_, ?_⟩ <;> rintro rfl <;> exact absurd h (by decide)

theorem isNameChar_of_isNameStart {c : Char} (h : isNameStart c) : isNameChar c := by
  unfold isNameStart at h
  unfold isNameChar Char.isAlphanum
  rcases Bool.or_eq_true_iff.mp h with h | h <;> simp [h]

theorem isNameChar_of_mem {name : List Char} (h : isGroupName name) {c : Char}
    (hc : c ∈ name) : isNameChar c := by
  cases name with
  | nil => cases hc
  | cons first rest =>
    rw [isGroupName, Bool.and_eq_true, List.all_eq_true] at h
    rcases List.mem_cons.mp hc with rfl | hc
    · exact isNameChar_of_isNameStart h.1
    · exact h.2 c hc

theorem not_isNameChar_closing (d : Dialect) (kind : TokenKind) :
    ¬isNameChar (d.closing kind) := by
  cases d <;> cases kind <;> decide

theorem isSingle_closing (d : Dialect) (kind : TokenKind) : IsSingle (d.closing kind) := by
  cases d <;> cases kind <;> exact ⟨by decide, by decide, by decide⟩

/-- A token starts with a backslash or a parenthesis, and all that follows are single
characters. -/
theorem exists_writeToken_eq (d : Dialect) (kind : TokenKind) {name : List Char}
    (h : isGroupName name) :
    ∃ c e more, d.writeToken kind name = c :: e :: more ∧ (c = '\\' ∨ c = '(') ∧
      ∀ x ∈ e :: more, IsSingle x := by
  have hname : ∀ x ∈ name, IsSingle x := fun x hx => .of_isNameChar (isNameChar_of_mem h hx)
  have hclose := isSingle_closing d kind
  have hmore : ∀ opened : List Char, (∀ x ∈ opened, IsSingle x) →
      ∀ x ∈ opened ++ name ++ [d.closing kind], IsSingle x := by
    intro opened hopened x hx
    rw [List.mem_append, List.mem_append, List.mem_singleton] at hx
    rcases hx with (hx | hx) | rfl
    · exact hopened x hx
    · exact hname x hx
    · exact hclose
  -- one case per spelling, as their second characters differ
  cases d <;> cases kind
  · exact ⟨'(', '?', ['P', '<'] ++ name ++ ['>'], rfl, .inr rfl,
      hmore ['?', 'P', '<'] (by simp [IsSingle])⟩
  · exact ⟨'(', '?', ['P', '='] ++ name ++ [')'], rfl, .inr rfl,
      hmore ['?', 'P', '='] (by simp [IsSingle])⟩
  · exact ⟨'(', '?', ['<'] ++ name ++ ['>'], rfl, .inr rfl,
      hmore ['?', '<'] (by simp [IsSingle])⟩
  · exact ⟨'\\', 'k', ['<'] ++ name ++ ['>'], rfl, .inl rfl,
      hmore ['k', '<'] (by simp [IsSingle])⟩

/-- A name ends where the token closes, since no character of a name closes a token. -/
theorem namedToken?_eq_some_iff {d : Dialect} {kind : TokenKind}
    {text name rest : List Char} :
    namedToken? (d.opening kind) (d.closing kind) text = some (name, rest) ↔
      isGroupName name ∧ text = d.writeToken kind name ++ rest := by
  unfold namedToken?
  constructor
  · intro h
    split at h
    · next hprefix =>
      obtain ⟨body, rfl⟩ := List.isPrefixOf_iff_prefix.mp hprefix
      rw [List.drop_left] at h
      dsimp only at h
      split at h
      · cases h
      · next c tail hdrop =>
        split at h
        · next hname =>
          obtain ⟨rfl, rfl⟩ := Prod.mk.inj (Option.some.inj h)
          -- what stops the name is the closing character and no other
          obtain rfl : c = d.closing kind := by
            have := List.head?_dropWhile_not (fun x => decide (x ≠ d.closing kind)) body
            rw [hdrop] at this
            simpa using this
          refine ⟨hname, ?_⟩
          rw [writeToken, List.append_assoc, List.append_assoc, List.singleton_append, ← hdrop,
            List.takeWhile_append_dropWhile]
        · cases h
    · cases h
  · rintro ⟨hname, rfl⟩
    -- no character of a name closes the token, so the name is taken as a whole
    have hne : ∀ x ∈ name, decide (x ≠ d.closing kind) = true := by
      intro x hx
      refine decide_eq_true fun heq => not_isNameChar_closing d kind ?_
      rw [← heq]
      exact isNameChar_of_mem hname hx
    rw [writeToken, List.append_assoc, List.append_assoc,
      if_pos (List.isPrefixOf_iff_prefix.mpr (List.prefix_append _ _)), List.drop_left]
    have htake : (name ++ ([d.closing kind] ++ rest)).takeWhile (· ≠ d.closing kind) = name := by
      rw [List.takeWhile_append_of_pos hne, List.singleton_append,
        List.takeWhile_cons_of_neg (by simp), List.append_nil]
    have hdrop : (name ++ ([d.closing kind] ++ rest)).dropWhile (· ≠ d.closing kind) =
        d.closing kind :: rest := by
      rw [List.dropWhile_append_of_pos hne, List.singleton_append,
        List.dropWhile_cons_of_neg (by simp)]
    simp only [htake, hdrop, if_pos hname]

/-- A text starts with at most one token. -/
theorem writeToken_append_inj {d e : Dialect} {j k : TokenKind}
    {name name' rest rest' : List Char} (hname : isGroupName name) (hname' : isGroupName name')
    (h : d.writeToken j name ++ rest = e.writeToken k name' ++ rest') :
    d = e ∧ j = k ∧ name = name' ∧ rest = rest' := by
  have hopening : d = e ∧ j = k := by
    cases d <;> cases e <;> cases j <;> cases k <;>
      simp_all [writeToken, opening, groupOpening, referenceOpening]
  obtain ⟨rfl, rfl⟩ := hopening
  have hleft : namedToken? (d.opening j) (d.closing j) (d.writeToken j name ++ rest) =
      some (name, rest) := namedToken?_eq_some_iff.mpr ⟨hname, rfl⟩
  have hright : namedToken? (d.opening j) (d.closing j) (d.writeToken j name ++ rest) =
      some (name', rest') := namedToken?_eq_some_iff.mpr ⟨hname', h⟩
  exact ⟨rfl, rfl, Prod.mk.inj (Option.some.inj (hleft.symm.trans hright))⟩

/-! ## Pieces -/

/-- A piece of a pattern. -/
inductive Piece where
  /-- A token of a dialect. -/
  | token (d : Dialect) (kind : TokenKind) (name : List Char)
  /-- A backslash with the character that it escapes, unless the pattern ends there. -/
  | escape (escaped : Option Char)
  /-- An opening bracket with all up to the closing one: first a caret and a closing
  bracket that stands for itself, where they are there, then the rest. -/
  | bracketed (lead body : List Char)
  /-- Any other character. -/
  | single (c : Char)
  deriving DecidableEq, Repr

namespace Piece

/-- The text of a piece. -/
def write : Piece → List Char
  | token d kind name => d.writeToken kind name
  | escape escaped => '\\' :: escaped.toList
  | bracketed lead body => '[' :: (lead ++ body)
  | single c => [c]

/-- The piece in a dialect: a token is respelled, all else stays as it is. -/
def respell (target : Dialect) : Piece → Piece
  | token _ kind name => token target kind name
  | other => other

@[simp] theorem respell_respell (d e : Dialect) (p : Piece) :
    (p.respell d).respell e = p.respell e := by
  cases p <;> rfl

end Piece

/-- The text of pieces in a row. -/
def writePieces (ps : List Piece) : List Char := ps.flatMap Piece.write

@[simp] theorem writePieces_nil : writePieces [] = [] := rfl

@[simp] theorem writePieces_cons (p : Piece) (ps : List Piece) :
    writePieces (p :: ps) = p.write ++ writePieces ps := rfl

/-- If a text starts with a token of either dialect: the token and the text after it. -/
def token? (text : List Char) : Option (Piece × List Char) :=
  [(external, TokenKind.group), (external, .reference), (internal, .group),
    (internal, .reference)].findSome? fun (d, kind) =>
      (namedToken? (d.opening kind) (d.closing kind) text).map fun (name, rest) =>
        (.token d kind name, rest)

theorem token?_eq_some_iff {text rest : List Char} {p : Piece} :
    token? text = some (p, rest) ↔ ∃ d kind name,
      isGroupName name ∧ p = .token d kind name ∧ text = d.writeToken kind name ++ rest := by
  have hsome : ∀ {p rest}, token? text = some (p, rest) → ∃ d kind name,
      isGroupName name ∧ p = .token d kind name ∧ text = d.writeToken kind name ++ rest := by
    intro p rest h
    obtain ⟨⟨d, kind⟩, -, h⟩ := List.exists_of_findSome?_eq_some h
    obtain ⟨⟨name, rest'⟩, hname, hpair⟩ := Option.map_eq_some_iff.mp h
    obtain ⟨rfl, rfl⟩ := Prod.mk.inj hpair
    obtain ⟨hname, htext⟩ := namedToken?_eq_some_iff.mp hname
    exact ⟨d, kind, name, hname, rfl, htext⟩
  refine ⟨hsome, ?_⟩
  -- the token that is found need not be this one, but no text starts with two
  rintro ⟨d, kind, name, hname, rfl, htext⟩
  cases hcase : token? text with
  | none =>
    rw [token?, List.findSome?_eq_none_iff] at hcase
    have := hcase (d, kind) (by cases d <;> cases kind <;> simp)
    rw [Option.map_eq_none_iff, namedToken?_eq_some_iff.mpr ⟨hname, htext⟩] at this
    cases this
  | some found =>
    obtain ⟨d', kind', name', hname', hp, htext'⟩ := hsome hcase
    obtain ⟨rfl, rfl, rfl, hrest⟩ := writeToken_append_inj hname hname' (htext ▸ htext')
    rw [hrest, ← hp]

theorem length_lt_of_token? {text rest : List Char} {p : Piece}
    (h : token? text = some (p, rest)) : rest.length < text.length := by
  obtain ⟨d, kind, name, -, -, rfl⟩ := token?_eq_some_iff.mp h
  simp only [writeToken, List.length_append, List.length_singleton]
  omega

/-- Splits what follows the lead of an opening bracket after the first closing bracket
that is not escaped, or at the end. -/
def splitClassBody : List Char → List Char × List Char
  | [] => ([], [])
  | ['\\'] => (['\\'], [])
  | '\\' :: c :: rest => ('\\' :: c :: (splitClassBody rest).1, (splitClassBody rest).2)
  | ']' :: rest => ([']'], rest)
  | c :: rest => (c :: (splitClassBody rest).1, (splitClassBody rest).2)

/-- A character is no backslash if neither case of one applies. -/
theorem ne_backslash_of_cases {c : Char} {rest : List Char} (hend : c = '\\' → rest = [] → False)
    (hpair : ∀ e more, c = '\\' → rest = e :: more → False) : c ≠ '\\' := by
  intro hc
  cases rest with
  | nil => exact hend hc rfl
  | cons e more => exact hpair e more hc rfl

theorem splitClassBody_append (text : List Char) :
    (splitClassBody text).1 ++ (splitClassBody text).2 = text := by
  fun_induction splitClassBody text <;> simp_all

theorem splitClassLead_append (text : List Char) :
    (splitClassLead text).1 ++ (splitClassLead text).2 = text := by
  unfold splitClassLead
  split <;> rfl

/-- The pieces of a pattern, from left to right. -/
def pieces (text : List Char) : List Piece :=
  match text with
  | [] => []
  | c :: rest =>
    match _h : token? (c :: rest) with
    | some (token, after) => token :: pieces after
    | none =>
      if c = '\\' then
        match rest with
        | [] => [.escape none]
        | escaped :: rest => .escape (some escaped) :: pieces rest
      else if c = '[' then
        let inner := (splitClassLead rest).2
        .bracketed (splitClassLead rest).1 (splitClassBody inner).1 ::
          pieces (splitClassBody inner).2
      else .single c :: pieces rest
termination_by text.length
decreasing_by
  · exact length_lt_of_token? _h
  · simp only [List.length_cons]
    omega
  · have hbody := congrArg List.length (splitClassBody_append (splitClassLead rest).2)
    have hlead := congrArg List.length (splitClassLead_append rest)
    simp only [List.length_append] at hbody hlead
    simp only [List.length_cons]
    omega
  · simp

/-! ## Pieces of a text by its start -/

theorem token?_bracket (rest : List Char) : token? ('[' :: rest) = none := by
  refine Option.eq_none_iff_forall_ne_some.mpr fun ⟨p, after⟩ h => ?_
  obtain ⟨d, kind, name, hname, -, htext⟩ := token?_eq_some_iff.mp h
  obtain ⟨c, e, more, hwrite, hc, -⟩ := exists_writeToken_eq d kind hname
  rw [hwrite] at htext
  obtain ⟨rfl, -⟩ := List.cons.inj htext
  exact absurd hc (by decide)

theorem token?_singleton (c : Char) : token? [c] = none := by
  refine Option.eq_none_iff_forall_ne_some.mpr fun ⟨p, after⟩ h => ?_
  obtain ⟨d, kind, name, hname, -, htext⟩ := token?_eq_some_iff.mp h
  obtain ⟨c', e, more, hwrite, -, -⟩ := exists_writeToken_eq d kind hname
  rw [hwrite] at htext
  exact absurd (List.cons.inj htext).2 (List.cons_ne_nil _ _).symm

theorem pieces_token {text after : List Char} {p : Piece} (h : token? text = some (p, after)) :
    pieces text = p :: pieces after := by
  cases text with
  | nil => exact absurd (length_lt_of_token? h) (Nat.not_lt_zero _)
  | cons c rest =>
    rw [pieces]
    split
    · next token after' h' =>
      obtain ⟨rfl, rfl⟩ := Prod.mk.inj (Option.some.inj (h.symm.trans h'))
      rfl
    · next h' => exact absurd (h.symm.trans h') (Option.some_ne_none _)

theorem pieces_escape {escaped : Char} {rest : List Char}
    (h : token? ('\\' :: escaped :: rest) = none) :
    pieces ('\\' :: escaped :: rest) = .escape (some escaped) :: pieces rest := by
  rw [pieces]
  split
  · next h' => exact absurd (h'.symm.trans h) (Option.some_ne_none _)
  · rw [if_pos rfl]

theorem pieces_escape_end : pieces ['\\'] = [.escape none] := by
  rw [pieces]
  split
  · next h' => exact absurd (h'.symm.trans (token?_singleton _)) (Option.some_ne_none _)
  · rw [if_pos rfl]

theorem pieces_bracketed (rest : List Char) :
    pieces ('[' :: rest) =
      .bracketed (splitClassLead rest).1 (splitClassBody (splitClassLead rest).2).1 ::
        pieces (splitClassBody (splitClassLead rest).2).2 := by
  rw [pieces]
  split
  · next h' => exact absurd (h'.symm.trans (token?_bracket rest)) (Option.some_ne_none _)
  · rw [if_neg (by decide), if_pos rfl]

theorem pieces_single {c : Char} {rest : List Char} (h : token? (c :: rest) = none)
    (hescape : c ≠ '\\') (hbracket : c ≠ '[') :
    pieces (c :: rest) = .single c :: pieces rest := by
  rw [pieces]
  split
  · next h' => exact absurd (h'.symm.trans h) (Option.some_ne_none _)
  · rw [if_neg hescape, if_neg hbracket]

/-- The pieces of a pattern are the whole pattern. -/
theorem writePieces_pieces (text : List Char) : writePieces (pieces text) = text := by
  induction text using pieces.induct with
  | case1 => rw [pieces, writePieces_nil]
  | case2 c rest p after h ih =>
    obtain ⟨d, kind, name, -, rfl, htext⟩ := token?_eq_some_iff.mp h
    rw [pieces_token h, writePieces_cons, ih, htext]
    rfl
  | case3 => rw [pieces_escape_end]; rfl
  | case4 escaped rest h ih => rw [pieces_escape h, writePieces_cons, ih]; rfl
  | case5 rest inner h hc ih =>
    rw [pieces_bracketed, writePieces_cons, ih]
    show '[' :: ((splitClassLead rest).1 ++ _ ++ _) = _
    rw [List.append_assoc, splitClassBody_append, splitClassLead_append]
  | case6 c rest h hescape hbracket ih =>
    rw [pieces_single h hescape hbracket, writePieces_cons, ih]
    rfl

/-! ## Respelling by the start of a text -/

theorem respellToken?_eq_some_iff {target : Dialect} {text written rest : List Char} :
    respellToken? target text = some (written, rest) ↔ ∃ kind name, isGroupName name ∧
      text = target.other.writeToken kind name ++ rest ∧
      written = target.writeToken kind name := by
  have hgroup := @namedToken?_eq_some_iff target.other .group text
  have hreference := @namedToken?_eq_some_iff target.other .reference text
  simp only [opening, closing] at hgroup hreference
  unfold respellToken?
  dsimp only
  constructor
  · intro h
    split at h
    · next name rest' hcase =>
      obtain ⟨rfl, rfl⟩ := Prod.mk.inj (Option.some.inj h)
      obtain ⟨hname, htext⟩ := hgroup.mp hcase
      exact ⟨.group, name, hname, htext, rfl⟩
    · split at h
      · next name rest' hcase =>
        obtain ⟨rfl, rfl⟩ := Prod.mk.inj (Option.some.inj h)
        obtain ⟨hname, htext⟩ := hreference.mp hcase
        exact ⟨.reference, name, hname, htext, rfl⟩
      · cases h
  · rintro ⟨kind, name, hname, htext, rfl⟩
    cases kind with
    | group => rw [hgroup.mpr ⟨hname, htext⟩]; rfl
    | reference =>
      -- groups are tried first, and a reference does not start as a group
      cases hcase : namedToken? target.other.groupOpening '>' text with
      | none => rw [hreference.mpr ⟨hname, htext⟩]; rfl
      | some found =>
        obtain ⟨hname', htext'⟩ := hgroup.mp hcase
        obtain ⟨-, hkind, -⟩ := writeToken_append_inj hname hname' (htext.symm.trans htext')
        cases hkind

theorem respellToken?_eq_none {target : Dialect} {text : List Char} (h : token? text = none) :
    respellToken? target text = none := by
  refine Option.eq_none_iff_forall_ne_some.mpr fun ⟨written, rest⟩ hsome => ?_
  obtain ⟨kind, name, hname, htext, -⟩ := respellToken?_eq_some_iff.mp hsome
  have := token?_eq_some_iff.mpr ⟨target.other, kind, name, hname, rfl, htext⟩
  exact absurd (h.symm.trans this) (Option.some_ne_none _).symm

/-- A token of the target dialect is not respelled. -/
theorem respellToken?_writeToken_self (target : Dialect) (kind : TokenKind)
    {name : List Char} (rest : List Char) (hname : isGroupName name) :
    respellToken? target (target.writeToken kind name ++ rest) = none := by
  refine Option.eq_none_iff_forall_ne_some.mpr fun ⟨written, rest⟩ hsome => ?_
  obtain ⟨kind', name', hname', htext, -⟩ := respellToken?_eq_some_iff.mp hsome
  have hself := (writeToken_append_inj hname hname' htext).1
  cases target <;> cases hself

theorem respell_of_respellToken? {target : Dialect} {text written after : List Char}
    (h : respellToken? target text = some (written, after)) :
    respell target false text = written ++ respell target false after := by
  cases text with
  | nil => exact absurd (length_lt_of_respellToken? h) (Nat.not_lt_zero _)
  | cons c rest =>
    rw [respell]
    split
    · next h' =>
      obtain ⟨rfl, rfl⟩ := Prod.mk.inj (Option.some.inj (h.symm.trans h'))
      rfl
    · next h' => exact absurd (h.symm.trans h') (Option.some_ne_none _)

theorem respell_escape {target : Dialect} {escaped : Char} {rest : List Char}
    (h : respellToken? target ('\\' :: escaped :: rest) = none) :
    respell target false ('\\' :: escaped :: rest) =
      '\\' :: escaped :: respell target false rest := by
  rw [respell]
  split
  · next h' => exact absurd (h'.symm.trans h) (Option.some_ne_none _)
  · rw [if_pos rfl]

theorem respell_escape_end (target : Dialect) : respell target false ['\\'] = ['\\'] := by
  rw [respell]
  split
  · next h' =>
    exact absurd (h'.symm.trans (respellToken?_eq_none (token?_singleton _)))
      (Option.some_ne_none _)
  · rw [if_pos rfl]

theorem respell_single {target : Dialect} {c : Char} {rest : List Char}
    (h : respellToken? target (c :: rest) = none) (hescape : c ≠ '\\') (hbracket : c ≠ '[') :
    respell target false (c :: rest) = c :: respell target false rest := by
  rw [respell]
  split
  · next h' => exact absurd (h'.symm.trans h) (Option.some_ne_none _)
  · rw [if_neg hescape, if_neg fun h => hbracket h.1]
    rfl

/-- Between brackets nothing is respelled. -/
theorem respell_inClass (target : Dialect) (text : List Char) :
    respell target true text =
      (splitClassBody text).1 ++ respell target false (splitClassBody text).2 := by
  fun_induction splitClassBody text with
  | case1 => simp [respell]
  | case2 => simp [respell]
  | case3 c rest ih => simp [respell, ih]
  | case4 rest => simp [respell]
  | case5 c rest hescape₁ hescape₂ hclose ih =>
    have hc : c ≠ '\\' := ne_backslash_of_cases hescape₁ hescape₂
    have hc' : c ≠ ']' := fun h => hclose h
    simp [respell, ih, hc, hc']

theorem respell_bracketed (target : Dialect) (rest : List Char) :
    respell target false ('[' :: rest) =
      '[' :: ((splitClassLead rest).1 ++ ((splitClassBody (splitClassLead rest).2).1 ++
        respell target false (splitClassBody (splitClassLead rest).2).2)) := by
  rw [respell]
  split
  · next h' =>
    exact absurd (h'.symm.trans (respellToken?_eq_none (token?_bracket rest)))
      (Option.some_ne_none _)
  · rw [if_neg (by decide), if_pos ⟨rfl, rfl⟩, respell_inClass]

theorem respellToken?_of_isSingle {target : Dialect} {c : Char} {rest : List Char}
    (h : IsSingle c) : respellToken? target (c :: rest) = none := by
  refine Option.eq_none_iff_forall_ne_some.mpr fun ⟨written, after⟩ hsome => ?_
  obtain ⟨kind, name, hname, htext, -⟩ := respellToken?_eq_some_iff.mp hsome
  obtain ⟨c', e, more, hwrite, hc, -⟩ := exists_writeToken_eq target.other kind hname
  rw [hwrite] at htext
  obtain ⟨rfl, -⟩ := List.cons.inj htext
  rcases hc with rfl | rfl
  · exact h.1 rfl
  · exact h.2.2 rfl

/-- Single characters are copied. -/
theorem respell_singles_append {target : Dialect} {singles : List Char} (rest : List Char)
    (h : ∀ x ∈ singles, IsSingle x) :
    respell target false (singles ++ rest) = singles ++ respell target false rest := by
  induction singles with
  | nil => rfl
  | cons c more ih =>
    have hc := h c List.mem_cons_self
    rw [List.cons_append, respell_single (respellToken?_of_isSingle hc) hc.1 hc.2.1,
      ih fun x hx => h x (List.mem_cons_of_mem c hx)]
    rfl

/-- A token is written in the target dialect, whichever dialect it has. -/
theorem respell_writeToken {target d : Dialect} {kind : TokenKind} {name : List Char}
    (rest : List Char) (hname : isGroupName name) :
    respell target false (d.writeToken kind name ++ rest) =
      target.writeToken kind name ++ respell target false rest := by
  -- a token in the target dialect is copied, character by character
  by_cases hd : d = target
  · subst hd
    have hnone := respellToken?_writeToken_self d kind rest hname
    obtain ⟨c, e, more, hwrite, hc, hsingle⟩ := exists_writeToken_eq d kind hname
    rw [hwrite] at hnone ⊢
    simp only [List.cons_append] at hnone ⊢
    rcases hc with rfl | rfl
    · rw [respell_escape hnone,
        respell_singles_append rest fun x hx => hsingle x (List.mem_cons_of_mem e hx)]
    · rw [respell_single hnone (by decide) (by decide), ← List.cons_append,
        respell_singles_append rest hsingle]
      rfl
  · have hother : d = target.other := by
      cases d <;> cases target <;> first | rfl | exact absurd rfl hd
    exact respell_of_respellToken? (respellToken?_eq_some_iff.mpr
      ⟨kind, name, hname, by rw [hother], rfl⟩)

/-- **Respelling a pattern respells its tokens and nothing else.** -/
theorem respell_eq_writePieces (target : Dialect) (text : List Char) :
    respell target false text = writePieces ((pieces text).map (Piece.respell target)) := by
  -- the cases of the splitting are those of respelling: both look for a token first
  induction text using pieces.induct with
  | case1 => rw [pieces, respell]; rfl
  | case2 c rest p after h ih =>
    obtain ⟨d, kind, name, hname, rfl, htext⟩ := token?_eq_some_iff.mp h
    rw [pieces_token h, List.map_cons, writePieces_cons, ← ih, htext, respell_writeToken _ hname]
    rfl
  | case3 => rw [pieces_escape_end, respell_escape_end]; rfl
  | case4 escaped rest h ih =>
    rw [pieces_escape h, List.map_cons, writePieces_cons, ← ih,
      respell_escape (respellToken?_eq_none h)]
    rfl
  | case5 rest inner h hc ih =>
    rw [pieces_bracketed, List.map_cons, writePieces_cons, ← ih, respell_bracketed,
      ← List.append_assoc]
    rfl
  | case6 c rest h hescape hbracket ih =>
    rw [pieces_single h hescape hbracket, List.map_cons, writePieces_cons, ← ih,
      respell_single (respellToken?_eq_none h) hescape hbracket]
    rfl

/-! ## The pieces of a respelled pattern -/

/-- Single characters in the result of a respelling stood there before it. -/
theorem exists_eq_append_of_respell {target : Dialect} {text singles more : List Char}
    (h : respell target false text = singles ++ more) (hsingle : ∀ x ∈ singles, IsSingle x) :
    ∃ rest, text = singles ++ rest := by
  induction singles generalizing text with
  | nil => exact ⟨text, rfl⟩
  | cons x singles ih =>
    have hx := hsingle x List.mem_cons_self
    cases text with
    | nil =>
      rw [respell] at h
      cases h
    | cons c rest =>
      -- only a single character is copied as one, every other piece starts differently
      cases hcase : respellToken? target (c :: rest) with
      | some found =>
        -- a token starts with a backslash or a parenthesis
        obtain ⟨written, after⟩ := found
        obtain ⟨kind, name, hname, -, hwritten⟩ := respellToken?_eq_some_iff.mp hcase
        obtain ⟨c', e, tail, hwrite, hc, -⟩ := exists_writeToken_eq target kind hname
        rw [respell_of_respellToken? hcase, hwritten, hwrite] at h
        obtain ⟨rfl, -⟩ := List.cons.inj h
        rcases hc with rfl | rfl
        · exact absurd rfl hx.1
        · exact absurd rfl hx.2.2
      | none =>
        have hescape : c ≠ '\\' := by
          rintro rfl
          cases rest with
          | nil =>
            rw [respell_escape_end] at h
            exact hx.1 (List.cons.inj h).1.symm
          | cons e rest =>
            rw [respell_escape hcase] at h
            exact hx.1 (List.cons.inj h).1.symm
        have hbracket : c ≠ '[' := by
          rintro rfl
          rw [respell_bracketed] at h
          exact hx.2.1 (List.cons.inj h).1.symm
        rw [respell_single hcase hescape hbracket] at h
        obtain ⟨rfl, htail⟩ := List.cons.inj h
        obtain ⟨rest', rfl⟩ := ih htail fun y hy => hsingle y (List.mem_cons_of_mem c hy)
        exact ⟨rest', rfl⟩

/-- **Respelling what follows makes no new token**: all characters of a token but the first
are single, so they were there before. -/
theorem token?_append_respell {target : Dialect} (start : List Char) {rest : List Char}
    (hstart : start ≠ []) (h : token? (start ++ rest) = none) :
    token? (start ++ respell target false rest) = none := by
  refine Option.eq_none_iff_forall_ne_some.mpr fun ⟨p, after⟩ hsome => ?_
  obtain ⟨d, kind, name, hname, -, htext⟩ := token?_eq_some_iff.mp hsome
  have hnot : ∀ after', start ++ rest ≠ d.writeToken kind name ++ after' := by
    intro after' heq
    have := token?_eq_some_iff.mpr ⟨d, kind, name, hname, rfl, heq⟩
    exact absurd (h.symm.trans this) (Option.some_ne_none _).symm
  obtain ⟨c, e, more, hwrite, -, hsingle⟩ := exists_writeToken_eq d kind hname
  -- a token would stand in the respelled text only if it had stood in the text, too
  rcases List.append_eq_append_iff.mp htext with ⟨tail, htail, hrespell⟩ | ⟨tail, hhead, -⟩
  · -- the token reaches beyond `start`
    have htailsingle : ∀ x ∈ tail, IsSingle x := by
      obtain ⟨first, others, rfl⟩ := List.exists_cons_of_ne_nil hstart
      rw [hwrite] at htail
      intro x hx
      refine hsingle x ?_
      rw [(List.cons.inj htail).2]
      exact List.mem_append_right others hx
    obtain ⟨rest', rfl⟩ := exists_eq_append_of_respell hrespell htailsingle
    exact hnot rest' (by rw [htail, List.append_assoc])
  · -- the token lies within `start`
    exact hnot (tail ++ rest) (by rw [hhead, List.append_assoc])

/-- The same characters stand between the same brackets, whatever follows them. Where the
pattern ends between brackets, nothing may follow. -/
theorem splitClassBody_append_of_split {text more : List Char}
    (h : (splitClassBody text).2 = [] → more = []) :
    splitClassBody ((splitClassBody text).1 ++ more) = ((splitClassBody text).1, more) := by
  fun_induction splitClassBody text with
  | case1 => rw [h rfl]; rfl
  | case2 => rw [h rfl]; rfl
  | case3 c rest ih =>
    simp only [List.cons_append, splitClassBody, ih h]
  | case4 rest => rfl
  | case5 c rest hescape₁ hescape₂ hclose ih =>
    have hc : c ≠ '\\' := ne_backslash_of_cases hescape₁ hescape₂
    simp only [List.cons_append]
    rw [splitClassBody, ih h]
    · exact fun hescape _ => hc hescape
    · exact fun _ _ hescape _ => hc hescape
    · exact hclose

theorem head?_splitClassBody_append {text more : List Char}
    (h : (splitClassBody text).2 = [] → more = []) :
    ((splitClassBody text).1 ++ more).head? = text.head? := by
  fun_cases splitClassBody text with
  | case1 => rw [h rfl]; rfl
  | case2 => rfl
  | case3 => rfl
  | case4 => rfl
  | case5 => rfl

/-- The lead depends on the next two characters alone. -/
theorem splitClassLead_append_of_split {text more : List Char}
    (h : more.head? = (splitClassLead text).2.head?) :
    splitClassLead ((splitClassLead text).1 ++ more) = ((splitClassLead text).1, more) := by
  fun_cases splitClassLead text with
  | case1 rest => rfl
  | case2 rest => rfl
  -- after the caret no bracket comes next, and the same character follows in `more`
  | case3 rest hclose =>
    have hsplit : splitClassLead ('^' :: rest) = (['^'], rest) := by
      rw [splitClassLead]
      exact hclose
    rw [hsplit] at h
    show splitClassLead ('^' :: more) = (['^'], more)
    rw [splitClassLead]
    rintro tail rfl
    obtain ⟨tail', hrest⟩ := List.head?_eq_some_iff.mp h.symm
    exact hclose tail' hrest
  | case4 _ hcaretClose hclose hcaret =>
    have hsplit : splitClassLead text = ([], text) := by
      rw [splitClassLead]
      · exact hcaretClose
      · exact hclose
      · exact hcaret
    rw [hsplit] at h
    -- the lead is told by the next character only, which is the same in `more`
    have hhead : ∀ c tail, more = c :: tail → ∃ tail', text = c :: tail' := by
      rintro c tail rfl
      exact List.head?_eq_some_iff.mp h.symm
    show splitClassLead more = ([], more)
    rw [splitClassLead]
    · intro tail hmore
      obtain ⟨tail', htext⟩ := hhead _ _ hmore
      exact hcaret tail' htext
    · intro tail hmore
      obtain ⟨tail', htext⟩ := hhead _ _ hmore
      exact hclose tail' htext
    · intro tail hmore
      obtain ⟨tail', htext⟩ := hhead _ _ hmore
      exact hcaret tail' htext

/-- **A respelled pattern falls into the respelled pieces.** -/
theorem pieces_respell (target : Dialect) (text : List Char) :
    pieces (respell target false text) = (pieces text).map (Piece.respell target) := by
  induction text using pieces.induct with
  | case1 =>
    have hnil : pieces [] = [] := by rw [pieces]
    rw [respell, hnil]
    rfl
  | case2 c rest p after h ih =>
    obtain ⟨d, kind, name, hname, rfl, htext⟩ := token?_eq_some_iff.mp h
    rw [pieces_token h, List.map_cons, ← ih, htext, respell_writeToken _ hname]
    exact pieces_token (token?_eq_some_iff.mpr ⟨target, kind, name, hname, rfl, rfl⟩)
  | case3 => rw [respell_escape_end, pieces_escape_end]; rfl
  | case4 escaped rest h ih =>
    rw [pieces_escape h, List.map_cons, ← ih, respell_escape (respellToken?_eq_none h)]
    -- respelling behind it makes no token of an escape
    exact pieces_escape (token?_append_respell ['\\', escaped] (by simp) h)
  | case5 rest inner h hc ih =>
    rw [pieces_bracketed, List.map_cons, ← ih, respell_bracketed, pieces_bracketed]
    -- a class is left open in both texts or in none
    have hend : (splitClassBody inner).2 = [] →
        respell target false (splitClassBody inner).2 = [] := by
      intro hnil
      rw [hnil, respell]
    rw [splitClassLead_append_of_split (head?_splitClassBody_append hend),
      splitClassBody_append_of_split hend]
    rfl
  | case6 c rest h hescape hbracket ih =>
    rw [pieces_single h hescape hbracket, List.map_cons, ← ih,
      respell_single (respellToken?_eq_none h) hescape hbracket]
    exact pieces_single (token?_append_respell [c] (by simp) h) hescape hbracket

end Dialect

end StreamNames
