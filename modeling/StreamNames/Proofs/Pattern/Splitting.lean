import StreamNames.Proofs.Pattern.Absorption

/-!
# How a pattern is split

What a pattern is respelled by is told without regard to how it is read. From left to right
a unit is a token, else an escaped character, else what stands between brackets, else a
single character, and the first of these that applies is taken. Every pattern is split in
one way only, and respelling replaces the tokens of the other dialect in it.

- `Enclosed`, `ClassLead`, `ClassBody`: what stands between brackets.
- `Splits`: some units are what a pattern is split into.
- `splits_iff_eq_pieces`: they are the pieces of the pattern.
- `splits_lookBehind`: what looks behind is no token.
- `Piece.inInternal`, `Piece.inExternal`: what is written in place of a unit.
- `respelling_replaces_tokens`: what respelling does to the units of a pattern.
-/

namespace StreamNames

namespace Dialect

/-! ## Between brackets -/

/-- Characters between brackets among which no bracket closes: a closing bracket and a
backslash only stand there as parts of an escaped character. -/
inductive Enclosed : List Char → Prop where
  | nil : Enclosed []
  | plain {c : Char} {inside : List Char} :
      c ≠ '\\' → c ≠ ']' → Enclosed inside → Enclosed (c :: inside)
  | escaped {c : Char} {inside : List Char} : Enclosed inside → Enclosed ('\\' :: c :: inside)

/-- What stands between brackets after the lead, before the rest of a pattern: all up to the
first closing bracket that is not escaped. Where there is none, it reaches to the end. -/
inductive ClassBody : (body rest : List Char) → Prop where
  | closed {inside rest : List Char} : Enclosed inside → ClassBody (inside ++ [']']) rest
  | unclosed {inside : List Char} : Enclosed inside → ClassBody inside []
  | cutOff {inside : List Char} : Enclosed inside → ClassBody (inside ++ ['\\']) []

/-- What stands first between brackets, before what follows there: a caret and a closing
bracket, else a closing bracket, else a caret, else nothing. -/
inductive ClassLead : (lead following : List Char) → Prop where
  | caretClose {following : List Char} : ClassLead ['^', ']'] following
  | close {following : List Char} : ClassLead [']'] following
  | caret {following : List Char} : following.head? ≠ some ']' → ClassLead ['^'] following
  | nothing {following : List Char} :
      following.head? ≠ some ']' → following.head? ≠ some '^' → ClassLead [] following

theorem ClassLead.split {lead following : List Char} (h : ClassLead lead following) :
    splitClassLead (lead ++ following) = (lead, following) := by
  cases h with
  | caretClose => rfl
  | close => rfl
  | caret hclose =>
    show splitClassLead ('^' :: following) = _
    rw [splitClassLead]
    rintro rest rfl
    exact hclose rfl
  | nothing hclose hcaret =>
    rw [List.nil_append, splitClassLead]
    · rintro rest rfl
      exact hcaret rfl
    · rintro rest rfl
      exact hclose rfl
    · rintro rest rfl
      exact hcaret rfl

theorem classLead_splitClassLead (text : List Char) :
    ClassLead (splitClassLead text).1 (splitClassLead text).2 := by
  fun_cases splitClassLead text with
  | case1 rest => exact .caretClose
  | case2 rest => exact .close
  | case3 rest hclose =>
    refine .caret fun hhead => ?_
    obtain ⟨more, rfl⟩ := List.head?_eq_some_iff.mp hhead
    exact hclose more rfl
  | case4 _ hcaretClose hclose hcaret =>
    refine .nothing (fun hhead => ?_) fun hhead => ?_
    · obtain ⟨more, rfl⟩ := List.head?_eq_some_iff.mp hhead
      exact hclose more rfl
    · obtain ⟨more, rfl⟩ := List.head?_eq_some_iff.mp hhead
      exact hcaret more rfl

/-- Where nothing closes, the inside is passed as a whole. -/
theorem Enclosed.splitClassBody_append {inside : List Char} (h : Enclosed inside)
    (more : List Char) : splitClassBody (inside ++ more) =
      (inside ++ (splitClassBody more).1, (splitClassBody more).2) := by
  induction h with
  | nil => rfl
  | @plain c inside hescape hclose _ ih =>
    rw [List.cons_append, splitClassBody, ih]
    · rfl
    · exact fun h => absurd h hescape
    · exact fun _ _ h => absurd h hescape
    · exact hclose
  | escaped _ ih =>
    simp only [List.cons_append, splitClassBody, ih]

theorem ClassBody.split {body rest : List Char} (h : ClassBody body rest) :
    splitClassBody (body ++ rest) = (body, rest) := by
  cases h with
  | closed hinside =>
    rw [List.append_assoc, hinside.splitClassBody_append]
    rfl
  | unclosed hinside =>
    rw [hinside.splitClassBody_append]
    simp [splitClassBody]
  | cutOff hinside =>
    rw [List.append_assoc, hinside.splitClassBody_append]
    rfl

/-- One more character in front keeps the end of what stands between brackets. -/
theorem ClassBody.cons {body rest : List Char} (h : ClassBody body rest) (start : List Char)
    (hstart : ∀ inside, Enclosed inside → Enclosed (start ++ inside)) :
    ClassBody (start ++ body) rest := by
  cases h with
  | closed hinside =>
    rw [← List.append_assoc]
    exact .closed (hstart _ hinside)
  | unclosed hinside => exact .unclosed (hstart _ hinside)
  | cutOff hinside =>
    rw [← List.append_assoc]
    exact .cutOff (hstart _ hinside)

theorem classBody_splitClassBody (text : List Char) :
    ClassBody (splitClassBody text).1 (splitClassBody text).2 := by
  fun_induction splitClassBody text with
  | case1 => exact .unclosed .nil
  | case2 => exact .cutOff .nil
  | case3 c rest ih => exact ih.cons ['\\', c] fun _ => .escaped
  | case4 rest => exact .closed .nil
  | case5 c rest hescape₁ hescape₂ hclose ih =>
    exact ih.cons [c] fun _ => .plain (ne_backslash_of_cases hescape₁ hescape₂) hclose

/-! ## Units -/

/-- A text starts with a token of some dialect. -/
def StartsToken (text : List Char) : Prop :=
  ∃ (d : Dialect) (kind : TokenKind) (name rest : List Char),
    isGroupName name ∧ text = d.writeToken kind name ++ rest

theorem token?_eq_none_iff {text : List Char} : token? text = none ↔ ¬StartsToken text := by
  constructor
  · rintro h ⟨d, kind, name, rest, hname, htext⟩
    have := token?_eq_some_iff.mpr ⟨d, kind, name, hname, rfl, htext⟩
    exact absurd (h.symm.trans this) (Option.some_ne_none _).symm
  · intro h
    refine Option.eq_none_iff_forall_ne_some.mpr fun ⟨p, rest⟩ hsome => h ?_
    obtain ⟨d, kind, name, hname, -, htext⟩ := token?_eq_some_iff.mp hsome
    exact ⟨d, kind, name, rest, hname, htext⟩

/-- A pattern is split into some units: from left to right each is a token, else a backslash
with what it escapes, else a bracket with all up to the closing one, else a character. -/
inductive Splits : List Char → List Piece → Prop where
  | nil : Splits [] []
  | token {d : Dialect} {kind : TokenKind} {name rest : List Char} {units : List Piece} :
      isGroupName name → Splits rest units →
      Splits (d.writeToken kind name ++ rest) (.token d kind name :: units)
  | escape {c : Char} {rest : List Char} {units : List Piece} :
      ¬StartsToken ('\\' :: c :: rest) → Splits rest units →
      Splits ('\\' :: c :: rest) (.escape (some c) :: units)
  | escapeEnd : Splits ['\\'] [.escape none]
  | bracketed {lead body rest : List Char} {units : List Piece} :
      ClassLead lead (body ++ rest) → ClassBody body rest → Splits rest units →
      Splits ('[' :: (lead ++ (body ++ rest))) (.bracketed lead body :: units)
  | single {c : Char} {rest : List Char} {units : List Piece} :
      ¬StartsToken (c :: rest) → c ≠ '\\' → c ≠ '[' → Splits rest units →
      Splits (c :: rest) (.single c :: units)

/-- There is no other way to split a pattern than into its pieces. -/
theorem Splits.eq_pieces {text : List Char} {units : List Piece} (h : Splits text units) :
    units = pieces text := by
  induction h with
  | nil => rw [pieces]
  | token hname _ ih =>
    rw [pieces_token (token?_eq_some_iff.mpr ⟨_, _, _, hname, rfl, rfl⟩), ih]
  | escape hstart _ ih => rw [pieces_escape (token?_eq_none_iff.mpr hstart), ih]
  | escapeEnd => rw [pieces_escape_end]
  | bracketed hlead hbody _ ih => rw [pieces_bracketed, hlead.split, hbody.split, ih]
  | single hstart hescape hbracket _ ih =>
    rw [pieces_single (token?_eq_none_iff.mpr hstart) hescape hbracket, ih]

theorem splits_pieces (text : List Char) : Splits text (pieces text) := by
  induction text using pieces.induct with
  | case1 =>
    rw [pieces]
    exact .nil
  | case2 c rest p after h ih =>
    obtain ⟨d, kind, name, hname, rfl, htext⟩ := token?_eq_some_iff.mp h
    rw [pieces_token h, htext]
    exact .token hname ih
  | case3 =>
    rw [pieces_escape_end]
    exact .escapeEnd
  | case4 escaped rest h ih =>
    rw [pieces_escape h]
    exact .escape (token?_eq_none_iff.mp h) ih
  | case5 rest inner h hc ih =>
    -- a class is taken apart into lead, body and the closing bracket
    have hlead := classLead_splitClassLead rest
    have hbody := classBody_splitClassBody (splitClassLead rest).2
    have hunit := Splits.bracketed (by rwa [splitClassBody_append]) hbody ih
    rw [splitClassBody_append, splitClassLead_append] at hunit
    rw [pieces_bracketed]
    exact hunit
  | case6 c rest h hescape hbracket ih =>
    rw [pieces_single h hescape hbracket]
    exact .single (token?_eq_none_iff.mp h) hescape hbracket ih

/-- **Every pattern is split in one way**, into its pieces. -/
theorem splits_iff_eq_pieces {text : List Char} {units : List Piece} :
    Splits text units ↔ units = pieces text :=
  ⟨Splits.eq_pieces, fun h => h ▸ splits_pieces text⟩

/-- What looks behind starts no token, since no name starts with an equals sign or an
exclamation mark. -/
theorem not_startsToken_lookBehind {c : Char} (hc : c = '=' ∨ c = '!') (rest : List Char) :
    ¬StartsToken ('(' :: '?' :: '<' :: c :: rest) := by
  rintro ⟨d, kind, name, after, hname, htext⟩
  cases name with
  | nil => exact Bool.false_ne_true hname
  | cons first name =>
    have hfirst := isNameChar_of_mem hname List.mem_cons_self
    -- only a group of the internal dialect is opened like this
    cases d <;> cases kind <;>
      simp only [writeToken, opening, groupOpening, referenceOpening, List.cons_append,
        List.nil_append, List.cons.injEq, Char.reduceEq, true_and, false_and] at htext
    obtain ⟨rfl, -⟩ := htext
    rcases hc with rfl | rfl <;> exact absurd hfirst (by decide)

theorem IsSingle.not_startsToken {c : Char} (hc : IsSingle c) (rest : List Char) :
    ¬StartsToken (c :: rest) := by
  rintro ⟨d, kind, name, after, hname, htext⟩
  obtain ⟨first, e, more, hwrite, hfirst, -⟩ := exists_writeToken_eq d kind hname
  rw [hwrite] at htext
  obtain ⟨rfl, -⟩ := List.cons.inj htext
  rcases hfirst with rfl | rfl
  · exact hc.1 rfl
  · exact hc.2.2 rfl

theorem Splits.singles {singles rest : List Char} {units : List Piece}
    (hsingles : ∀ c ∈ singles, IsSingle c) (h : Splits rest units) :
    Splits (singles ++ rest) (singles.map .single ++ units) := by
  induction singles with
  | nil => exact h
  | cons c singles ih =>
    obtain ⟨hc, hmore⟩ := List.forall_mem_cons.mp hsingles
    exact .single (hc.not_startsToken _) hc.1 hc.2.1 (ih hmore)

/-- **What looks behind is split into single characters**, so it is never respelled. -/
theorem splits_lookBehind {c : Char} (hc : c = '=' ∨ c = '!') {rest : List Char}
    {units : List Piece} (h : Splits rest units) :
    Splits (['(', '?', '<', c] ++ rest) (['(', '?', '<', c].map .single ++ units) := by
  have hmore : ∀ x ∈ ['?', '<', c], IsSingle x := by
    rcases hc with rfl | rfl <;> simp [IsSingle]
  exact .single (not_startsToken_lookBehind hc rest) (by decide) (by decide) (h.singles hmore)

/-! ## What is written in place of a unit -/

/-- A unit in the internal dialect: the two tokens of the external one are replaced. -/
def Piece.inInternal : Piece → List Char
  | .token .external .group name => ['(', '?', '<'] ++ name ++ ['>']
  | .token .external .reference name => ['\\', 'k', '<'] ++ name ++ ['>']
  | unit => unit.write

/-- A unit in the external dialect: the two tokens of the internal one are replaced. -/
def Piece.inExternal : Piece → List Char
  | .token .internal .group name => ['(', '?', 'P', '<'] ++ name ++ ['>']
  | .token .internal .reference name => ['(', '?', 'P', '='] ++ name ++ [')']
  | unit => unit.write

theorem Piece.write_respell_internal (p : Piece) : (p.respell internal).write = p.inInternal := by
  cases p with
  | token d kind name => cases d <;> cases kind <;> rfl
  | escape _ => rfl
  | bracketed _ _ => rfl
  | single _ => rfl

theorem Piece.write_respell_external (p : Piece) : (p.respell external).write = p.inExternal := by
  cases p with
  | token d kind name => cases d <;> cases kind <;> rfl
  | escape _ => rfl
  | bracketed _ _ => rfl
  | single _ => rfl

/-- A pattern is respelled unit by unit. -/
theorem respell_eq_flatMap (target : Dialect) (text : List Char) :
    respell target false text = (pieces text).flatMap fun p => (p.respell target).write := by
  rw [respell_eq_writePieces, writePieces, List.flatMap_map]

end Dialect

/-! ## Whole patterns -/

open Dialect

/-- A pattern came out of another by writing something in place of each unit, and the units
that it is split into are those of the other, made into `unit`s. -/
structure Replaced (units : List Piece) (write : Piece → List Char) (unit : Piece → Piece)
    (result : String) : Prop where
  written : result.toList = units.flatMap write
  resplit : ∀ others, Splits result.toList others ↔ others = units.map unit

/-- **Respelling replaces the tokens of the other dialect and nothing else.** Every pattern is
split into units in one way. In either direction the result is made of these units, in their
order, with only the two kinds of tokens replaced, and it is split into the respelled units. -/
theorem respelling_replaces_tokens (pattern : String) :
    ∃ units, (∀ others, Splits pattern.toList others ↔ others = units) ∧
      units.flatMap Piece.write = pattern.toList ∧
      Replaced units Piece.inInternal (Piece.respell internal) (toInternal pattern) ∧
      Replaced units Piece.inExternal (Piece.respell external) (toExternal pattern) := by
  refine ⟨pieces pattern.toList, fun others => splits_iff_eq_pieces,
    writePieces_pieces pattern.toList, ⟨?_, fun others => ?_⟩, ⟨?_, fun others => ?_⟩⟩
  · rw [toInternal, String.toList_ofList, respell_eq_flatMap]
    exact List.flatMap_congr fun p _ => p.write_respell_internal
  · rw [toInternal, String.toList_ofList, splits_iff_eq_pieces, pieces_respell]
  · rw [toExternal, String.toList_ofList, respell_eq_flatMap]
    exact List.flatMap_congr fun p _ => p.write_respell_external
  · rw [toExternal, String.toList_ofList, splits_iff_eq_pieces, pieces_respell]

end StreamNames
