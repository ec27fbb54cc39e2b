import StreamNames.Proofs.Pattern.References
import StreamNames.Proofs.Pattern.Splitting

/-!
# The price of brackets

Pricing goes through a pattern once. Between brackets it looks for nothing but their end, so
what stands there costs nothing and spells out no bound, and what stands around the brackets
is priced as if it stood alone. But pricing ends brackets at the first closing one that is
not escaped, also where that one stands first and is a member to the engine and to
respelling. Then it goes on among the members and prices them as parts of the pattern.

- `EndsOutside`: pricing is outside of brackets where a text ends.
- `pricedParts_bracketed`: what is priced in brackets and in what follows them.
- `classUnit_of_splits`: pricing comes upon all brackets that a pattern is split into.
- `ClassPriced`, `analyze_class`: what brackets add to the price of what stands around them.
- `closing_member_is_priced`: where the two ways to read brackets differ.
-/

namespace StreamNames

open Dialect

/-! ## Where pricing is outside of brackets -/

/-- Pricing is neither between brackets nor within an escaped character where a text ends. -/
inductive EndsOutside : List Char → Prop where
  | nil : EndsOutside []
  | escaped {c : Char} {rest : List Char} : EndsOutside rest → EndsOutside ('\\' :: c :: rest)
  | bracketed {inside rest : List Char} :
      Enclosed inside → EndsOutside rest → EndsOutside ('[' :: (inside ++ ']' :: rest))
  | plain {c : Char} {rest : List Char} :
      c ≠ '\\' → c ≠ '[' → EndsOutside rest → EndsOutside (c :: rest)

theorem EndsOutside.append {word rest : List Char} (hword : ∀ c ∈ word, c ≠ '\\' ∧ c ≠ '[')
    (hrest : EndsOutside rest) : EndsOutside (word ++ rest) := by
  induction word with
  | nil => exact hrest
  | cons c word ih =>
    obtain ⟨⟨hescape, hbracket⟩, hmore⟩ := List.forall_mem_cons.mp hword
    exact .plain hescape hbracket (ih hmore)

/-- Brackets are stepped over up to the first closing one. -/
theorem skipClass_enclosed {inside : List Char} (h : Enclosed inside) (rest : List Char) :
    skipClass (inside ++ ']' :: rest) = rest := by
  rw [skipClass_eq, h.splitClassBody_append]
  rfl

/-- No quantifier reaches into brackets. -/
theorem sameBrace_append_bracket (text rest : List Char) :
    SameBrace text (text ++ '[' :: rest) := by
  induction text with
  | nil => simp [SameBrace, Quantifier.isBodyChar]
  | cons c text ih => exact .cons fun _ => ih

/-- **What stands before brackets is priced as if it stood alone.** -/
theorem EndsOutside.pricedParts_append {before : List Char} (h : EndsOutside before)
    (rest : List Char) :
    pricedParts (before ++ '[' :: rest) = pricedParts before ++ pricedParts ('[' :: rest) := by
  induction h with
  | nil => rw [pricedParts_nil, List.nil_append, List.nil_append]
  | @escaped c before h ih =>
    rw [List.cons_append, pricedParts_backslash, pricedParts_backslash, List.cons_append]
    exact congrArg (.escape :: ·) ih
  | @bracketed inside before hinside h ih =>
    -- they are stepped over up to the same place, whatever follows
    rw [List.cons_append, List.append_assoc, List.cons_append, pricedParts_bracket,
      pricedParts_bracket, skipClass_enclosed hinside, skipClass_enclosed hinside, ih,
      List.cons_append]
  | @plain c before hescape hbracket h ih =>
    rw [List.cons_append]
    by_cases hbrace : c = '\x7b'
    · -- a quantifier ends before the brackets or is none
      subst hbrace
      have hread := (sameBrace_append_bracket before rest).read?_eq
      rw [pricedParts_brace, pricedParts_brace, hread, ih, List.append_assoc]
    · have hc : IsTransparent c := ⟨hbrace, hbracket, hescape⟩
      rw [pricedParts_transparent hc, pricedParts_transparent hc before, ih, List.append_assoc]

/-! ## What is priced between brackets -/

/-- What of brackets is priced as if it stood outside: all that follows a closing bracket
which stands first. -/
def takenOutside (lead body : List Char) : List Char := if ']' ∈ lead then body else []

/-- What stands between brackets and what follows them are priced one after the other. -/
theorem pricedParts_body {body rest : List Char} (h : ClassBody body rest) :
    pricedParts (body ++ rest) = pricedParts body ++ pricedParts rest := by
  obtain ⟨parts, hparts⟩ := exists_pricedParts_body (body ++ rest)
  rw [h.split] at hparts
  have halone : pricedParts body = parts := by
    have := hparts [] fun _ => rfl
    rwa [pricedParts_nil, List.append_nil, List.append_nil] at this
  rw [halone]
  exact hparts rest id

/-- **Brackets are priced once**, but for what is taken to stand outside. -/
theorem pricedParts_bracketed {lead body rest : List Char} (hlead : ClassLead lead (body ++ rest))
    (hbody : ClassBody body rest) :
    pricedParts ('[' :: (lead ++ (body ++ rest))) =
      .characterClass :: (pricedParts (takenOutside lead body) ++ pricedParts rest) := by
  have hskip : skipClass (body ++ rest) = rest := by rw [skipClass_eq, hbody.split]
  rw [pricedParts_bracket]
  cases hlead with
  -- the first closing bracket is the one that stands first, and the body lies behind it
  | caretClose => exact congrArg (.characterClass :: ·) (pricedParts_body hbody)
  | close => exact congrArg (.characterClass :: ·) (pricedParts_body hbody)
  -- otherwise the body is stepped over, the caret with it
  | caret hclose =>
    have hcaret : skipClass ('^' :: (body ++ rest)) = skipClass (body ++ rest) := by
      rw [skipClass] <;> simp
    have hlead : takenOutside ['^'] body = [] := if_neg (by simp)
    rw [List.singleton_append, hcaret, hskip, hlead, pricedParts_nil]
    rfl
  | nothing hclose hcaret =>
    have hlead : takenOutside [] body = [] := if_neg List.not_mem_nil
    rw [List.nil_append, hskip, hlead, pricedParts_nil]
    rfl

/-! ## Prices around brackets -/

theorem analyze_empty : Complexity.analyze (.ofList []) = ⟨0, none⟩ := by decide +kernel

theorem exactScore_empty : Complexity.exactScore (.ofList []) = 0 := by decide +kernel

/-- Brackets as respelling delimits them, where pricing comes upon them. -/
structure ClassUnit (before : String) (lead body : List Char) (after : String) : Prop where
  outside : EndsOutside before.toList
  lead : ClassLead lead (body ++ after.toList)
  body : ClassBody body after.toList

/-- A pattern with brackets in it. -/
def aroundClass (before : String) (lead body : List Char) (after : String) : String :=
  before ++ String.ofList ('[' :: (lead ++ body)) ++ after

open Complexity (analyze exactScore)

/-- What brackets add to the price of what stands around them. -/
structure ClassPriced (before : String) (lead body : List Char) (after : String) : Prop where
  price : exactScore (aroundClass before lead body after) =
    exactScore before + 1 + exactScore (.ofList (takenOutside lead body)) + exactScore after
  score : (analyze (aroundClass before lead body after)).score =
    (analyze before).score + 1 + (analyze (.ofList (takenOutside lead body))).score +
      (analyze after).score
  bound : (analyze (aroundClass before lead body after)).maxRepetition =
    largerBound (analyze before).maxRepetition (largerBound
      (analyze (.ofList (takenOutside lead body))).maxRepetition (analyze after).maxRepetition)
  /-- Unless a closing bracket stands first, the price goes up by one. -/
  scoreOne : ']' ∉ lead → (analyze (aroundClass before lead body after)).score =
    (analyze before).score + 1 + (analyze after).score
  /-- Unless a closing bracket stands first, no bound is added. -/
  boundNone : ']' ∉ lead → (analyze (aroundClass before lead body after)).maxRepetition =
    largerBound (analyze before).maxRepetition (analyze after).maxRepetition
  /-- If one stands first, the price goes up by more exactly if the members have a price. -/
  priceOne : exactScore (aroundClass before lead body after) =
    exactScore before + 1 + exactScore after ↔ (']' ∈ lead → exactScore (.ofList body) = 0)

/-- The parts of a pattern with brackets in it that have a price. -/
theorem ClassUnit.pricedParts_eq {before after : String} {lead body : List Char}
    (h : ClassUnit before lead body after) :
    pricedParts (aroundClass before lead body after).toList =
      pricedParts before.toList ++ .characterClass ::
        (pricedParts (takenOutside lead body) ++ pricedParts after.toList) := by
  have htext : (aroundClass before lead body after).toList =
      before.toList ++ '[' :: (lead ++ (body ++ after.toList)) := by
    simp [aroundClass]
  rw [htext, h.outside.pricedParts_append, pricedParts_bracketed h.lead h.body]

/-! ## All brackets of a pattern -/

namespace Dialect

/-- Where respelling is behind brackets, pricing is outside of brackets, too. -/
theorem Enclosed.endsOutside {inside rest : List Char} (h : Enclosed inside)
    (hrest : EndsOutside rest) : EndsOutside (inside ++ ']' :: rest) := by
  induction h with
  | nil => exact .plain (by decide) (by decide) hrest
  | @plain c inside hescape hclose hinside ih =>
    by_cases hbracket : c = '['
    · -- pricing takes the member for a start of brackets, which end at the same place
      subst hbracket
      exact .bracketed hinside hrest
    · exact .plain hescape hbracket ih
  | escaped hinside ih => exact .escaped ih

theorem endsOutside_bracketed {lead following inside rest : List Char}
    (hlead : ClassLead lead following) (hinside : Enclosed inside) (hrest : EndsOutside rest) :
    EndsOutside ('[' :: (lead ++ (inside ++ ']' :: rest))) := by
  have hcaret : ∀ {inside}, Enclosed inside → Enclosed ('^' :: inside) :=
    .plain (by decide) (by decide)
  cases hlead with
  | caretClose => exact .bracketed (hcaret .nil) (hinside.endsOutside hrest)
  | close => exact .bracketed .nil (hinside.endsOutside hrest)
  | caret => exact .bracketed (hcaret hinside) hrest
  | nothing => exact .bracketed hinside hrest

theorem endsOutside_writeToken (d : Dialect) (kind : TokenKind) {name rest : List Char}
    (hname : isGroupName name) (hrest : EndsOutside rest) :
    EndsOutside (d.writeToken kind name ++ rest) := by
  obtain ⟨c, e, more, hwrite, hc, hmore⟩ := exists_writeToken_eq d kind hname
  have hplain : ∀ x ∈ e :: more, x ≠ '\\' ∧ x ≠ '[' := by
    intro x hx
    obtain ⟨hescape, hbracket, -⟩ := hmore x hx
    exact ⟨hescape, hbracket⟩
  rw [hwrite]
  rcases hc with rfl | rfl
  · exact .escaped (.append (List.forall_mem_cons.mp hplain).2 hrest)
  · exact .plain (by decide) (by decide) (.append hplain hrest)

theorem Splits.writePieces_eq {text : List Char} {units : List Piece} (h : Splits text units) :
    writePieces units = text := by
  rw [h.eq_pieces, writePieces_pieces]

/-- **Pricing is outside of brackets wherever respelling comes upon some.** -/
theorem Splits.endsOutside {text lead body : List Char} {units more : List Piece}
    (h : Splits text (units ++ .bracketed lead body :: more)) :
    EndsOutside (writePieces units) ∧ ClassLead lead (body ++ writePieces more) ∧
      ClassBody body (writePieces more) := by
  induction units generalizing text with
  | nil =>
    cases h with
    | bracketed hlead hbody hmore =>
      rw [hmore.writePieces_eq]
      exact ⟨.nil, hlead, hbody⟩
  | cons unit units ih =>
    rw [List.cons_append] at h
    -- a unit that reaches to the end of the pattern comes before no brackets
    have hne : units ++ .bracketed lead body :: more ≠ [] := by simp
    generalize htail : units ++ .bracketed lead body :: more = tail at h hne ih
    cases h with
    | token hname hrest =>
      obtain ⟨houtside, hclass⟩ := ih hrest
      exact ⟨endsOutside_writeToken _ _ hname houtside, hclass⟩
    | escape _ hrest =>
      obtain ⟨houtside, hclass⟩ := ih hrest
      exact ⟨.escaped houtside, hclass⟩
    | escapeEnd => exact absurd rfl hne
    | bracketed hlead hbody hrest =>
      obtain ⟨houtside, hclass⟩ := ih hrest
      refine ⟨?_, hclass⟩
      cases hbody with
      | closed hinside =>
        have := endsOutside_bracketed hlead hinside houtside
        simpa [Piece.write] using this
      | unclosed _ => exact absurd (hrest.eq_pieces.trans (by rw [pieces])) hne
      | cutOff _ => exact absurd (hrest.eq_pieces.trans (by rw [pieces])) hne
    | single _ hescape hbracket hrest =>
      obtain ⟨houtside, hclass⟩ := ih hrest
      exact ⟨.plain hescape hbracket houtside, hclass⟩

end Dialect

/-- **Pricing comes upon all brackets that a pattern is split into.** -/
theorem classUnit_of_splits {pattern : String} {lead body : List Char} {units more : List Piece}
    (h : Splits pattern.toList (units ++ .bracketed lead body :: more)) :
    ClassUnit (.ofList (writePieces units)) lead body (.ofList (writePieces more)) ∧
      pattern = aroundClass (.ofList (writePieces units)) lead body
        (.ofList (writePieces more)) := by
  obtain ⟨houtside, hlead, hbody⟩ := h.endsOutside
  constructor
  · constructor <;> rw [String.toList_ofList]
    · exact houtside
    · exact hlead
    · exact hbody
  · apply String.toList_injective
    rw [← h.writePieces_eq]
    simp [aroundClass, writePieces, Piece.write]

/-! ## The price of brackets -/

/-- **Brackets cost one and spell out no bound**, wherever they stand and whatever they
enclose, but for what is taken to stand outside. -/
theorem analyze_class {before after : String} {lead body : List Char}
    (h : ClassUnit before lead body after) : ClassPriced before lead body after := by
  -- all that is said of a class comes from one list of parts, priced and bounded separately
  have hprice : exactScore (aroundClass before lead body after) =
      exactScore before + 1 + exactScore (.ofList (takenOutside lead body)) +
        exactScore after := by
    have hcost := congrArg Complexity.totalCost h.pricedParts_eq
    rw [Complexity.totalCost_append, Complexity.totalCost, Complexity.totalCost_append] at hcost
    simp only [Complexity.totalCost_pricedParts] at hcost
    simp only [exactScore, String.toList_ofList, hcost, Construct.cost]
    omega
  have hbounds : spelledBounds (aroundClass before lead body after).toList =
      spelledBounds before.toList ++
        (spelledBounds (takenOutside lead body) ++ spelledBounds after.toList) := by
    have hclass : Construct.characterClass.bound? = none := rfl
    simp only [spelledBounds_eq, h.pricedParts_eq, List.filterMap_append,
      List.filterMap_cons_none hclass]
  have hscore : (analyze (aroundClass before lead body after)).score =
      (analyze before).score + 1 + (analyze (.ofList (takenOutside lead body))).score +
        (analyze after).score := by
    simp only [Complexity.score_analyze, hprice, UInt32.ofNat_add]
    rfl
  have hbound : (analyze (aroundClass before lead body after)).maxRepetition =
      largerBound (analyze before).maxRepetition (largerBound
        (analyze (.ofList (takenOutside lead body))).maxRepetition
        (analyze after).maxRepetition) := by
    simp only [Complexity.maxRepetition_analyze, String.toList_ofList, hbounds,
      max?_append_eq_largerBound]
  have hempty : ']' ∉ lead → takenOutside lead body = [] := fun hlead => if_neg hlead
  refine ⟨hprice, hscore, hbound, ?scoreOne, ?boundNone, ?priceOne⟩
  case scoreOne =>
    intro hlead
    rw [hscore, hempty hlead, analyze_empty, UInt32.add_zero]
  case boundNone =>
    intro hlead
    rw [hbound, hempty hlead, analyze_empty]
    rfl
  -- only a bracket that stands first lets members be priced
  case priceOne =>
    by_cases hlead : ']' ∈ lead
    · have htaken : takenOutside lead body = body := if_pos hlead
      rw [hprice, htaken]
      constructor
      · intro h _
        omega
      · intro h
        have := h hlead
        omega
    · rw [hprice, hempty hlead, exactScore_empty]
      exact iff_of_true rfl fun h => absurd h hlead

/-- Behind a closing bracket that stands first the members are priced, here three for the
repetition and two for the bound. -/
theorem analyze_class_closing :
    ClassUnit "(a{2}" ['^', ']'] "+{9}]".toList "b{3}" ∧
      ClassPriced "(a{2}" ['^', ']'] "+{9}]".toList "b{3}" ∧
      (analyze (aroundClass "(a{2}" ['^', ']'] "+{9}]".toList "b{3}")).score = 4 + 1 + 5 + 2 := by
  have houtside : EndsOutside ("(a{2}".toList ++ []) := .append (by simp) .nil
  have hbody := classBody_splitClassBody ("+{9}]".toList ++ "b{3}".toList)
  have hsplit : splitClassBody ("+{9}]".toList ++ "b{3}".toList) =
      ("+{9}]".toList, "b{3}".toList) := by decide +kernel
  rw [hsplit] at hbody
  have hunit : ClassUnit "(a{2}" ['^', ']'] "+{9}]".toList "b{3}" :=
    ⟨by rwa [List.append_nil] at houtside, .caretClose, hbody⟩
  exact ⟨hunit, analyze_class hunit, by decide +kernel⟩

/-- A plus and a bound have a price although they are members between brackets: either pattern
is nothing but brackets, and yet the first costs four and the second spells out a bound. -/
theorem closing_member_is_priced :
    Splits "[]+]".toList [.bracketed [']'] "+]".toList] ∧
    ClassUnit "" [']'] "+]".toList "" ∧ aroundClass "" [']'] "+]".toList "" = "[]+]" ∧
    (analyze "").score + 1 + (analyze "").score = 1 ∧ (analyze "[]+]").score = 4 ∧
    Splits "[]{9}]".toList [.bracketed [']'] "{9}]".toList] ∧
    ClassUnit "" [']'] "{9}]".toList "" ∧ aroundClass "" [']'] "{9}]".toList "" = "[]{9}]" ∧
    (analyze "").maxRepetition = none ∧ (analyze "[]{9}]").maxRepetition = some 9 := by
  have hplus : ClassBody "+]".toList [] := .closed (.plain (by decide) (by decide) .nil)
  have hbound : ClassBody "{9}]".toList [] := by
    have h := classBody_splitClassBody "{9}]".toList
    rwa [show splitClassBody "{9}]".toList = ("{9}]".toList, []) by decide +kernel] at h
  refine ⟨.bracketed .close hplus .nil, ⟨.nil, .close, hplus⟩, by decide +kernel,
    by decide +kernel, by decide +kernel, ?_⟩
  exact ⟨.bracketed .close hbound .nil, ⟨.nil, .close, hbound⟩, by decide +kernel,
    by decide +kernel, by decide +kernel⟩

end StreamNames
