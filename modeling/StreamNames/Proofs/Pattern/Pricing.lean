import Mathlib.Data.List.TakeWhile
import StreamNames.Pattern.Complexity
import StreamNames.Proofs.Pattern.Pieces

/-!
# What is priced in either dialect

Pricing goes through a pattern once and steps over escaped characters and brackets. What it
finds to have a price can be read off the pieces of the pattern, one piece after another,
although pricing knows of no pieces: where it takes the end of brackets to be earlier than
respelling does, it is outside all brackets again when respelling is.

- `pricedParts`: the parts of a text that have a price.
- `exists_pricedParts_body`: what stands between brackets is priced the same, whatever
  follows them.
- `Dialect.Repriced`: two lists of parts that come from the same pieces in two dialects.
- `Dialect.repriced_respell`: respelling a pattern prices the tokens anew and nothing else.
-/

namespace StreamNames

/-- The parts of a text that have a price. -/
def pricedParts (text : List Char) : List Construct := (constructs text).filter (· ≠ .plain)

/-! ## Parts by the start of a text -/

/-- A quantifier consists of digits and commas up to a closing brace. -/
theorem Quantifier.exists_body_of_read? {text after : List Char} {q : Quantifier}
    (h : Quantifier.read? text = some (q, after)) :
    ∃ body, (∀ c ∈ body, isBodyChar c) ∧ text = body ++ '\x7d' :: after ∧
      ofBody? body = some q := by
  unfold read? at h
  split at h
  · next tail hdrop =>
    obtain ⟨q', hbody, hq⟩ := Option.map_eq_some_iff.mp h
    obtain ⟨rfl, rfl⟩ := Prod.mk.inj hq
    refine ⟨text.takeWhile isBodyChar, fun c hc => List.mem_takeWhile_imp hc, ?_, hbody⟩
    rw [← hdrop, List.takeWhile_append_dropWhile]
  · cases h

theorem pricedParts_nil : pricedParts [] = [] := by
  rw [pricedParts, constructs]
  rfl

theorem pricedParts_bracket (rest : List Char) :
    pricedParts ('[' :: rest) = .characterClass :: pricedParts (skipClass rest) := by
  rw [pricedParts, constructs]
  rfl

theorem pricedParts_backslash (rest : List Char) :
    pricedParts ('\\' :: rest) = .escape :: pricedParts (rest.drop 1) := by
  rw [pricedParts, constructs]
  rfl

/-- A character that neither opens a quantifier nor lets anything be stepped over. -/
def IsTransparent (c : Char) : Prop := c ≠ '\x7b' ∧ c ≠ '[' ∧ c ≠ '\\'

theorem IsTransparent.of_isBodyChar {c : Char} (h : Quantifier.isBodyChar c) :
    IsTransparent c := by
  refine ⟨?_, ?_, ?_⟩ <;> rintro rfl <;> cases h

/-- Such a character has the same price before any text. -/
theorem pricedParts_transparent {c : Char} (hc : IsTransparent c) (rest : List Char) :
    pricedParts (c :: rest) = pricedParts [c] ++ pricedParts rest := by
  obtain ⟨hbrace, hbracket, hescape⟩ := hc
  have hone : ∀ rest, constructs (c :: rest) =
      (if c = '*' ∨ c = '+' then .repetition else if c = '?' then .optional
        else if c = '(' then .group else if c = '|' then .alternation
        else if c = '.' then .wildcard else .plain) :: constructs rest := by
    intro rest
    rw [constructs]
    simp only [hbrace, hbracket, hescape, if_false]
    split_ifs <;> rfl
  have hnil : constructs [] = [] := by rw [constructs]
  rw [pricedParts, pricedParts, pricedParts, hone rest, hone [], ← List.filter_append, hnil]
  rfl

/-- A character without a price. -/
def IsFree (c : Char) : Prop := IsTransparent c ∧ pricedParts [c] = []

theorem pricedParts_free {word : List Char} (h : ∀ c ∈ word, IsFree c) (rest : List Char) :
    pricedParts (word ++ rest) = pricedParts rest := by
  induction word with
  | nil => rfl
  | cons c word ih =>
    obtain ⟨hc, hfree⟩ := h c List.mem_cons_self
    rw [List.cons_append, pricedParts_transparent hc, hfree, List.nil_append,
      ih fun c hc => h c (List.mem_cons_of_mem _ hc)]

/-- A transparent character is free, unless it is one of the six that have a price. -/
theorem IsTransparent.isFree {c : Char} (hc : IsTransparent c)
    (h : c ∉ ['*', '+', '?', '(', '|', '.']) : IsFree c := by
  refine ⟨hc, ?_⟩
  obtain ⟨hbrace, hbracket, hescape⟩ := hc
  simp only [List.mem_cons, List.not_mem_nil, or_false, not_or] at h
  rw [pricedParts, constructs, constructs]
  simp [h, hbrace, hbracket, hescape]

theorem IsFree.of_isBodyChar {c : Char} (h : Quantifier.isBodyChar c) : IsFree c := by
  refine (IsTransparent.of_isBodyChar h).isFree fun hmem => ?_
  simp only [List.mem_cons, List.not_mem_nil, or_false] at hmem
  rcases hmem with rfl | rfl | rfl | rfl | rfl | rfl <;> cases h

/-- What a quantifier is made of is free, so the pricing may as well go on behind its
opening brace. -/
theorem pricedParts_brace (rest : List Char) :
    pricedParts ('\x7b' :: rest) =
      (((Quantifier.read? rest).map Prod.fst).map Construct.quantified).toList ++
        pricedParts rest := by
  rw [pricedParts, constructs]
  simp only [Char.reduceEq, or_self, if_false, if_true]
  split
  · next q after hread =>
    obtain ⟨body, hbody, rfl, -⟩ := Quantifier.exists_body_of_read? hread
    -- behind a quantifier pricing goes on after the brace; its body and the brace are free
    have hclose : IsFree '\x7d' := IsTransparent.isFree (by simp [IsTransparent]) (by decide)
    rw [hread, pricedParts_free fun c hc => .of_isBodyChar (hbody c hc),
      pricedParts_transparent hclose.1, hclose.2]
    rfl
  · next hread =>
    rw [hread]
    rfl

namespace Dialect

/-! ## Quantifiers that respelling leaves alone -/

/-- Two texts that are the same as far as a quantifier may reach. -/
def SameBrace (text text' : List Char) : Prop :=
  text'.takeWhile Quantifier.isBodyChar = text.takeWhile Quantifier.isBodyChar ∧
    ((text'.dropWhile Quantifier.isBodyChar).head? = some '\x7d' ↔
      (text.dropWhile Quantifier.isBodyChar).head? = some '\x7d')

theorem SameBrace.cons {c : Char} {text text' : List Char}
    (h : Quantifier.isBodyChar c → SameBrace text text') :
    SameBrace (c :: text) (c :: text') := by
  cases hc : Quantifier.isBodyChar c with
  | true => simpa [SameBrace, hc] using h hc
  | false => simp [SameBrace, hc]

/-- Neither text starts with a quantifier. -/
theorem SameBrace.of_not {c c' : Char} {text text' : List Char}
    (h : Quantifier.isBodyChar c = false ∧ c ≠ '\x7d')
    (h' : Quantifier.isBodyChar c' = false ∧ c' ≠ '\x7d') :
    SameBrace (c :: text) (c' :: text') := by
  simp [SameBrace, h, h']

theorem SameBrace.read?_eq {text text' : List Char} (h : SameBrace text text') :
    (Quantifier.read? text').map Prod.fst = (Quantifier.read? text).map Prod.fst := by
  -- reading depends on the body and on whether the brace is closed after it
  have hfst : ∀ text, (Quantifier.read? text).map Prod.fst =
      if (text.dropWhile Quantifier.isBodyChar).head? = some '\x7d' then
        Quantifier.ofBody? (text.takeWhile Quantifier.isBodyChar) else none := by
    intro text
    unfold Quantifier.read?
    split
    · next rest hdrop => simp [hdrop, Function.comp_def]
    · next hdrop =>
      rw [if_neg]
      · rfl
      · intro hhead
        obtain ⟨rest, hrest⟩ := List.head?_eq_some_iff.mp hhead
        exact hdrop rest hrest
  rw [hfst, hfst, h.1]
  simp only [h.2]

/-- What is respelled changes nothing for a quantifier before it. -/
theorem sameBrace_respell (target : Dialect) (text : List Char) :
    SameBrace text (respell target false text) := by
  induction text using pieces.induct with
  | case1 =>
    rw [respell]
    exact ⟨rfl, Iff.rfl⟩
  | case2 c rest p after h ih =>
    obtain ⟨d, kind, name, hname, rfl, htext⟩ := token?_eq_some_iff.mp h
    -- no token starts with a character that belongs into braces, in either dialect
    have hstart : ∀ d : Dialect, ∃ c more, d.writeToken kind name = c :: more ∧
        Quantifier.isBodyChar c = false ∧ c ≠ '\x7d' := by
      intro d
      obtain ⟨c, e, more, hwrite, hc, -⟩ := exists_writeToken_eq d kind hname
      refine ⟨c, e :: more, hwrite, ?_⟩
      rcases hc with rfl | rfl <;> exact ⟨rfl, by decide⟩
    obtain ⟨e, more, hwrite, hc⟩ := hstart d
    obtain ⟨e', more', hwrite', hc'⟩ := hstart target
    rw [htext, respell_writeToken _ hname, hwrite, hwrite']
    exact .of_not hc hc'
  | case3 =>
    rw [respell_escape_end]
    exact ⟨rfl, Iff.rfl⟩
  | case4 escaped rest h ih =>
    rw [respell_escape (respellToken?_eq_none h)]
    exact .cons (by rintro ⟨⟩)
  | case5 rest inner h hc ih =>
    rw [respell_bracketed]
    exact .cons (by rintro ⟨⟩)
  | case6 c rest h hescape hbracket ih =>
    rw [respell_single (respellToken?_eq_none h) hescape hbracket]
    exact .cons fun _ => ih

/-! ## Brackets -/

/-- Pricing steps over brackets as far as respelling does, but for the lead. -/
theorem skipClass_eq (text : List Char) : skipClass text = (splitClassBody text).2 := by
  fun_induction splitClassBody text with
  | case1 => rfl
  | case2 => rfl
  | case3 c rest ih => rw [skipClass, ih]
  | case4 rest => rfl
  | case5 c rest hescape₁ hescape₂ hclose ih =>
    rw [skipClass, ih]
    · exact hescape₂
    · exact hclose

/-- The text of brackets stands before what is stepped over to. -/
theorem skipClass_append {text more : List Char} (h : (splitClassBody text).2 = [] → more = []) :
    skipClass ((splitClassBody text).1 ++ more) = more := by
  rw [skipClass_eq, splitClassBody_append_of_split h]

/-- Within brackets a quantifier does not reach beyond their end. -/
theorem sameBrace_splitClassBody {text : List Char} (h : (splitClassBody text).2 ≠ [])
    (more more' : List Char) :
    SameBrace ((splitClassBody text).1 ++ more) ((splitClassBody text).1 ++ more') := by
  fun_induction splitClassBody text with
  | case1 => exact absurd rfl h
  | case2 => exact absurd rfl h
  | case3 c rest ih => exact .cons (by rintro ⟨⟩)
  | case4 rest => exact .cons (by rintro ⟨⟩)
  | case5 c rest _ _ _ ih => exact .cons fun _ => ih h

/-- **What stands between brackets is priced the same, whatever follows them**, also where
pricing finds their end too early and goes on within them. -/
theorem exists_pricedParts_body (text : List Char) : ∃ parts, ∀ more,
    ((splitClassBody text).2 = [] → more = []) →
      pricedParts ((splitClassBody text).1 ++ more) = parts ++ pricedParts more := by
  -- the parts may not depend on `more`; only a class left open says what `more` is
  fun_induction splitClassBody text with
  | case1 => exact ⟨[], fun more _ => rfl⟩
  | case2 =>
    refine ⟨[.escape], fun more hmore => ?_⟩
    rw [hmore rfl, List.append_nil, pricedParts_backslash, List.drop_nil]
    rfl
  | case3 c rest ih =>
    obtain ⟨parts, hparts⟩ := ih
    refine ⟨.escape :: parts, fun more hmore => ?_⟩
    rw [List.cons_append, pricedParts_backslash, List.cons_append]
    exact congrArg (.escape :: ·) (hparts more hmore)
  | case4 rest =>
    exact ⟨_, fun more _ => pricedParts_transparent (by simp [IsTransparent]) more⟩
  | case5 c rest hescape₁ hescape₂ hclose ih =>
    have hescape : c ≠ '\\' := ne_backslash_of_cases hescape₁ hescape₂
    obtain ⟨parts, hparts⟩ := ih
    by_cases hbrace : c = '\x7b'
    · subst hbrace
      by_cases hend : (splitClassBody rest).2 = []
      · -- then nothing follows
        refine ⟨pricedParts ('\x7b' :: (splitClassBody rest).1), fun more hmore => ?_⟩
        rw [hmore hend, List.append_nil, pricedParts_nil, List.append_nil]
      · refine ⟨(((Quantifier.read? ((splitClassBody rest).1 ++ [])).map Prod.fst).map
          Construct.quantified).toList ++ parts, fun more hmore => ?_⟩
        rw [List.cons_append, pricedParts_brace, hparts more hmore,
          (sameBrace_splitClassBody hend [] more).read?_eq, List.append_assoc]
    · by_cases hbracket : c = '['
      · subst hbracket
        refine ⟨[.characterClass], fun more hmore => ?_⟩
        rw [List.cons_append, pricedParts_bracket, skipClass_append hmore]
        rfl
      · refine ⟨pricedParts [c] ++ parts, fun more hmore => ?_⟩
        rw [List.cons_append, pricedParts_transparent ⟨hbrace, hbracket, hescape⟩,
          hparts more hmore, List.append_assoc]

theorem exists_pricedParts_bracketed (text : List Char) : ∃ parts, ∀ more,
    ((splitClassBody (splitClassLead text).2).2 = [] → more = []) →
      pricedParts ('[' :: ((splitClassLead text).1 ++
        ((splitClassBody (splitClassLead text).2).1 ++ more))) = parts ++ pricedParts more := by
  fun_cases splitClassLead text with
  | case1 rest =>
    obtain ⟨parts, hparts⟩ := exists_pricedParts_body rest
    refine ⟨.characterClass :: parts, fun more hmore => ?_⟩
    rw [pricedParts_bracket]
    exact congrArg (.characterClass :: ·) (hparts more hmore)
  | case2 rest =>
    obtain ⟨parts, hparts⟩ := exists_pricedParts_body rest
    refine ⟨.characterClass :: parts, fun more hmore => ?_⟩
    rw [pricedParts_bracket]
    exact congrArg (.characterClass :: ·) (hparts more hmore)
  -- without a bracket first the class is skipped as a whole
  | case3 rest hclose =>
    refine ⟨[.characterClass], fun more hmore => ?_⟩
    rw [pricedParts_bracket]
    show .characterClass :: pricedParts (skipClass ('^' :: (_ ++ more))) = _
    rw [skipClass, skipClass_append hmore]
    · rfl
    · rintro _ _ ⟨⟩
    · rintro ⟨⟩
  | case4 _ hcaretClose hclose hcaret =>
    refine ⟨[.characterClass], fun more hmore => ?_⟩
    rw [pricedParts_bracket, List.nil_append, skipClass_append hmore]
    rfl

/-! ## Tokens -/

/-- What is priced in a token. -/
def tokenParts : Dialect → TokenKind → List Construct
  | internal, .reference => [.escape]
  | _, _ => [.group, .optional]

theorem isFree_of_isNameChar {c : Char} (h : isNameChar c) : IsFree c := by
  have hne : ∀ x, isNameChar x = false → c ≠ x := by
    rintro x hx rfl
    exact Bool.false_ne_true (hx.symm.trans h)
  refine IsTransparent.isFree ⟨hne _ rfl, hne _ rfl, hne _ rfl⟩ fun hmem => ?_
  simp only [List.mem_cons, List.not_mem_nil, or_false] at hmem
  rcases hmem with rfl | rfl | rfl | rfl | rfl | rfl <;> cases h

theorem pricedParts_writeToken (d : Dialect) (kind : TokenKind) {name : List Char}
    (hname : isGroupName name) (rest : List Char) :
    pricedParts (d.writeToken kind name ++ rest) = tokenParts d kind ++ pricedParts rest := by
  -- behind what has a price, a token goes on with free characters
  have hfree : ∀ opened : List Char, (∀ c ∈ opened, IsFree c) →
      pricedParts (opened ++ name ++ [d.closing kind] ++ rest) = pricedParts rest := by
    refine fun opened hopened => pricedParts_free (fun c hc => ?_) rest
    rw [List.mem_append, List.mem_append, List.mem_singleton] at hc
    rcases hc with (hc | hc) | rfl
    · exact hopened c hc
    · exact isFree_of_isNameChar (isNameChar_of_mem hname hc)
    · cases d <;> cases kind <;>
        exact IsTransparent.isFree (by simp [IsTransparent, closing, referenceClose]) (by decide)
  have hsign : ∀ c ∈ ['P', '<', '='], IsFree c := by
    intro c hc
    simp only [List.mem_cons, List.not_mem_nil, or_false] at hc
    rcases hc with rfl | rfl | rfl <;>
      exact IsTransparent.isFree (by simp [IsTransparent]) (by decide)
  have hgroup : ∀ rest, pricedParts ('(' :: '?' :: rest) =
      [.group, .optional] ++ pricedParts rest := by
    intro rest
    rw [pricedParts, constructs, constructs]
    rfl
  cases d <;> cases kind
  · exact (hgroup _).trans (congrArg _ (hfree ['P', '<'] fun c hc => hsign c (by grind)))
  · exact (hgroup _).trans (congrArg _ (hfree ['P', '='] fun c hc => hsign c (by grind)))
  · exact (hgroup _).trans (congrArg _ (hfree ['<'] fun c hc => hsign c (by grind)))
  · -- the backslash is stepped over together with the letter
    exact (pricedParts_backslash _).trans
      (congrArg _ (hfree ['<'] fun c hc => hsign c (by grind)))

/-! ## All pieces -/

/-- Two lists of parts come from the same pieces, the first as written and the second in a
dialect: tokens are priced as tokens of either, all other pieces the same. -/
inductive Repriced (target : Dialect) :
    List Piece → List Construct → List Construct → Prop
  | nil : Repriced target [] [] []
  | token (d : Dialect) (kind : TokenKind) (name : List Char) {ps : List Piece}
    {parts parts' : List Construct} (rest : Repriced target ps parts parts') :
    Repriced target (.token d kind name :: ps) (tokenParts d kind ++ parts)
      (tokenParts target kind ++ parts')
  | other {p : Piece} (notToken : ∀ d kind name, p ≠ .token d kind name)
    (same : List Construct) {ps : List Piece} {parts parts' : List Construct}
    (rest : Repriced target ps parts parts') :
    Repriced target (p :: ps) (same ++ parts) (same ++ parts')

/-- **Respelling a pattern prices the tokens anew and nothing else.** -/
theorem repriced_respell (target : Dialect) (text : List Char) :
    Repriced target (pieces text) (pricedParts text)
      (pricedParts (respell target false text)) := by
  induction text using pieces.induct with
  | case1 =>
    rw [pieces, respell, pricedParts_nil]
    exact .nil
  | case2 c rest p after h ih =>
    obtain ⟨d, kind, name, hname, rfl, htext⟩ := token?_eq_some_iff.mp h
    rw [pieces_token h, htext, respell_writeToken _ hname, pricedParts_writeToken d kind hname,
      pricedParts_writeToken target kind hname]
    exact .token d kind name ih
  | case3 =>
    rw [pieces_escape_end, respell_escape_end, ← List.append_nil (pricedParts ['\\'])]
    exact .other (p := .escape none) (by rintro _ _ _ ⟨⟩) _ .nil
  | case4 escaped rest h ih =>
    rw [pieces_escape h, respell_escape (respellToken?_eq_none h), pricedParts_backslash,
      pricedParts_backslash]
    exact .other (by rintro _ _ _ ⟨⟩) [.escape] ih
  | case5 rest inner h hc ih =>
    -- the brackets are copied, and priced the same before either rest
    obtain ⟨parts, hparts⟩ := exists_pricedParts_bracketed rest
    have hself := hparts (splitClassBody inner).2 id
    rw [splitClassBody_append, splitClassLead_append] at hself
    rw [pieces_bracketed, respell_bracketed, hself,
      hparts _ fun hend => by rw [hend, respell]]
    exact .other (by rintro _ _ _ ⟨⟩) parts ih
  | case6 c rest h hescape hbracket ih =>
    rw [pieces_single h hescape hbracket,
      respell_single (respellToken?_eq_none h) hescape hbracket]
    by_cases hbrace : c = '\x7b'
    · subst hbrace
      rw [pricedParts_brace, pricedParts_brace, (sameBrace_respell target rest).read?_eq]
      exact .other (by rintro _ _ _ ⟨⟩) _ ih
    · have hc : IsTransparent c := ⟨hbrace, hbracket, hescape⟩
      rw [pricedParts_transparent hc rest, pricedParts_transparent hc (respell target false rest)]
      exact .other (by rintro _ _ _ ⟨⟩) _ ih

end Dialect

end StreamNames
