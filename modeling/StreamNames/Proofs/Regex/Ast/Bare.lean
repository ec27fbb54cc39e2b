import StreamNames.Regex

/-!
# Expressions without their places

Where a part of an expression stands in the text decides nothing but the place that a
fault is reported at. `Ast.bare` forgets the places, and two expressions that differ in
nothing else mean the same.

- `Ast.toOption_meaning_bare`: forgetting the places keeps the meaning, if there is one.
- `Ast.isSome_beyond?_bare`: it keeps whether an expression is nested too deeply.
- `compile_eq_ok_of_bare_eq`: what compiles, compiles in the same way wherever its parts
  stand.
-/

namespace StreamNames

namespace Regex

/-! ## Forgetting places -/

/-- The stretch that stands for any other. -/
def Span.blank : Span := .point .start

/-- A literal without its place. -/
def Literal.bare (l : Literal) : Literal := { l with span := .blank }

/-- A flag or hyphen without its place. -/
def FlagItem.bare : FlagItem → FlagItem
  | negation _ => negation .blank
  | flag _ f => flag .blank f

/-- The kind of a group without places. -/
def GroupKind.bare : GroupKind → GroupKind
  | capture index name => capture index name
  | plain items => plain (items.map FlagItem.bare)

mutual

/-- An item between brackets without places. -/
def ClassItem.bare : ClassItem → ClassItem
  | .empty _ => .empty .blank
  | .literal l => .literal l.bare
  | .range _ first last => .range .blank first.bare last.bare
  | .ascii _ negated kind => .ascii .blank negated kind
  | .property _ negated name => .property .blank negated name
  | .perl _ negated kind => .perl .blank negated kind
  | .bracketed _ negated body => .bracketed .blank negated body.bare
  | .union _ items => .union .blank (ClassItem.bareAll items)
  | .op _ kind lhs rhs => .op .blank kind lhs.bare rhs.bare

/-- Items between brackets without places. -/
def ClassItem.bareAll : List ClassItem → List ClassItem
  | [] => []
  | item :: items => item.bare :: ClassItem.bareAll items

end

mutual

/-- An expression without places. -/
def Ast.bare : Ast → Ast
  | .empty _ => .empty .blank
  | .flags _ items => .flags .blank (items.map FlagItem.bare)
  | .literal l => .literal l.bare
  | .dot _ => .dot .blank
  | .assertion _ kind => .assertion .blank kind
  | .property _ negated name => .property .blank negated name
  | .perl _ negated kind => .perl .blank negated kind
  | .bracketed _ negated body => .bracketed .blank negated body.bare
  | .repetition _ counts counted greedy body =>
    .repetition .blank counts counted greedy body.bare
  | .group _ kind body => .group .blank kind.bare body.bare
  | .alternation _ branches => .alternation .blank (Ast.bareAll branches)
  | .concat _ items => .concat .blank (Ast.bareAll items)

/-- Expressions without places. -/
def Ast.bareAll : List Ast → List Ast
  | [] => []
  | item :: items => item.bare :: Ast.bareAll items

end

theorem ClassItem.bareAll_eq_map (items : List ClassItem) :
    ClassItem.bareAll items = items.map ClassItem.bare := by
  induction items with
  | nil => rfl
  | cons item items ih => rw [ClassItem.bareAll, List.map_cons, ih]

theorem Ast.bareAll_eq_map (items : List Ast) : Ast.bareAll items = items.map Ast.bare := by
  induction items with
  | nil => rfl
  | cons item items ih => rw [Ast.bareAll, List.map_cons, ih]

/-! ## Meaning -/

/-- Only the place of a fault is lost. -/
theorem toOption_bind {ε α β : Type} (x : Except ε α) (f : α → Except ε β) :
    (x >>= f).toOption = x.toOption.bind fun a => (f a).toOption := by
  cases x <;> rfl

theorem Literal.toOption_inClass_bare (flags : Flags) (l : Literal) :
    (l.bare.inClass flags).toOption = (l.inClass flags).toOption := by
  unfold Literal.inClass Literal.bare
  split
  · rfl
  · split <;> rfl

theorem Literal.toOption_meaning_bare (flags : Flags) (l : Literal) :
    (l.bare.meaning flags).toOption = (l.meaning flags).toOption := by
  unfold Literal.meaning Literal.bare
  split
  · rfl
  · split <;> rfl

theorem toOption_finishSet (flags : Flags) (span span' : Span) (negated : Bool) (s : CharSet) :
    (finishSet flags span negated s).toOption = (finishSet flags span' negated s).toOption := by
  unfold finishSet
  dsimp only
  split
  · rfl
  · split <;> rfl

theorem PerlClass.toOption_meaning (flags : Flags) (span span' : Span) (negated : Bool)
    (kind : PerlClass) :
    (kind.meaning flags span negated).toOption =
      (kind.meaning flags span' negated).toOption := by
  unfold PerlClass.meaning
  dsimp only
  split
  · rfl
  · split <;> rfl

theorem PropertyName.toOption_meaning (flags : Flags) (span span' : Span) (negated : Bool)
    (name : PropertyName) :
    (name.meaning flags span negated).toOption =
      (name.meaning flags span' negated).toOption := by
  unfold PropertyName.meaning
  split
  · rfl
  · dsimp only
    split
    · exact toOption_finishSet flags span span' negated _
    · rfl
    · rfl

theorem toOption_dotMeaning (flags : Flags) (span span' : Span) :
    (dotMeaning flags span).toOption = (dotMeaning flags span').toOption := by
  unfold dotMeaning
  split
  · rfl
  · split
    · rfl
    · split <;> rfl

theorem Flags.apply_map_bare (negated : Bool) (flags : Flags) (items : List FlagItem) :
    Flags.apply negated flags (items.map FlagItem.bare) = Flags.apply negated flags items := by
  induction items generalizing negated flags with
  | nil => rfl
  | cons item items ih =>
    cases item with
    | negation span => exact ih true flags
    | flag span f => exact ih negated (flags.set f !negated)

mutual

theorem ClassItem.toOption_meaning_bare (flags : Flags) :
    ∀ item : ClassItem, (item.bare.meaning flags).toOption = (item.meaning flags).toOption
  | .empty _ => rfl
  | .literal l => by
    simp only [ClassItem.bare, ClassItem.meaning, toOption_bind, Literal.toOption_inClass_bare]
  | .range _ first last => by
    simp only [ClassItem.bare, ClassItem.meaning, toOption_bind, Literal.toOption_inClass_bare]
  | .ascii span negated kind => by
    simpa only [ClassItem.bare, ClassItem.meaning] using
      toOption_finishSet flags .blank span negated kind.toSet
  | .property span negated name => by
    simpa only [ClassItem.bare, ClassItem.meaning] using
      PropertyName.toOption_meaning flags .blank span negated name
  | .perl span negated kind => by
    simpa only [ClassItem.bare, ClassItem.meaning] using
      PerlClass.toOption_meaning flags .blank span negated kind
  | .bracketed span negated body => by
    simp only [ClassItem.bare, ClassItem.meaning, toOption_bind,
      ClassItem.toOption_meaning_bare flags body, toOption_finishSet flags .blank span]
  | .union _ items => by
    simpa only [ClassItem.bare, ClassItem.meaning] using
      ClassItem.toOption_unionMeaning_bareAll flags items
  | .op _ kind lhs rhs => by
    simp only [ClassItem.bare, ClassItem.meaning, toOption_bind,
      ClassItem.toOption_meaning_bare flags lhs, ClassItem.toOption_meaning_bare flags rhs]

theorem ClassItem.toOption_unionMeaning_bareAll (flags : Flags) :
    ∀ items : List ClassItem, (ClassItem.unionMeaning flags (ClassItem.bareAll items)).toOption =
      (ClassItem.unionMeaning flags items).toOption
  | [] => rfl
  | [item] => by
    simpa only [ClassItem.bareAll, ClassItem.unionMeaning] using
      ClassItem.toOption_meaning_bare flags item
  | item :: other :: items => by
    have h := ClassItem.toOption_unionMeaning_bareAll flags (other :: items)
    rw [ClassItem.bareAll] at h
    simp only [ClassItem.bareAll, ClassItem.unionMeaning, toOption_bind, h,
      ClassItem.toOption_meaning_bare flags item]

end

mutual

/-- **Forgetting the places keeps the meaning**, if there is one, and the flags after it. -/
theorem Ast.toOption_meaning_bare (flags : Flags) :
    ∀ ast : Ast, (ast.bare.meaning flags).toOption = (ast.meaning flags).toOption
  | .empty _ => rfl
  | .flags _ items => by
    simp only [Ast.bare, Ast.meaning, Flags.apply_map_bare]
  | .literal l => by
    simp only [Ast.bare, Ast.meaning, toOption_bind, Literal.toOption_meaning_bare]
  | .dot span => by
    simp only [Ast.bare, Ast.meaning, toOption_bind, toOption_dotMeaning flags .blank span]
  | .assertion _ kind => rfl
  | .property span negated name => by
    simp only [Ast.bare, Ast.meaning, toOption_bind,
      PropertyName.toOption_meaning flags .blank span]
  | .perl span negated kind => by
    simp only [Ast.bare, Ast.meaning, toOption_bind, PerlClass.toOption_meaning flags .blank span]
  | .bracketed span negated body => by
    simp only [Ast.bare, Ast.meaning, toOption_bind, ClassItem.toOption_meaning_bare flags body,
      toOption_finishSet flags .blank span]
  | .repetition _ counts counted greedy body => by
    simp only [Ast.bare, Ast.meaning, toOption_bind, Ast.toOption_meaning_bare flags body]
  | .group _ (.capture index name) body => by
    simp only [Ast.bare, GroupKind.bare, Ast.meaning, toOption_bind,
      Ast.toOption_meaning_bare flags body]
  | .group _ (.plain items) body => by
    simp only [Ast.bare, GroupKind.bare, Ast.meaning, toOption_bind, Flags.apply_map_bare,
      Ast.toOption_meaning_bare _ body]
  | .alternation _ branches => by
    simp only [Ast.bare, Ast.meaning, toOption_bind,
      Ast.toOption_meanings_bareAll flags branches]
  | .concat _ items => by
    simp only [Ast.bare, Ast.meaning, toOption_bind, Ast.toOption_meanings_bareAll flags items]

theorem Ast.toOption_meanings_bareAll (flags : Flags) :
    ∀ items : List Ast, (Ast.meanings flags (Ast.bareAll items)).toOption =
      (Ast.meanings flags items).toOption
  | [] => rfl
  | item :: items => by
    simp only [Ast.bareAll, Ast.meanings, toOption_bind, Ast.toOption_meaning_bare flags item,
      Ast.toOption_meanings_bareAll _ items]

end

/-! ## Nesting -/

theorem isSome_firstSpan? (a b : Option Span) :
    (firstSpan? a b).isSome = (a.isSome || b.isSome) := by
  cases a <;> rfl

mutual

theorem ClassItem.isSome_beyond?_bare :
    ∀ (room : Nat) (item : ClassItem), (item.bare.beyond? room).isSome =
      (item.beyond? room).isSome
  | _, .empty _ | _, .literal _ | _, .range _ _ _ | _, .ascii _ _ _ | _, .property _ _ _
  | _, .perl _ _ _ => by simp only [ClassItem.bare, ClassItem.beyond?]
  | 0, .bracketed _ _ _ | 0, .union _ _ | 0, .op _ _ _ _ => by
    simp only [ClassItem.bare, ClassItem.beyond?, Option.isSome_some]
  | room + 1, .bracketed _ negated body => by
    simpa only [ClassItem.bare, ClassItem.beyond?] using ClassItem.isSome_beyond?_bare room body
  | room + 1, .union _ items => by
    simpa only [ClassItem.bare, ClassItem.beyond?] using
      ClassItem.isSome_anyBeyond?_bareAll room items
  | room + 1, .op _ kind lhs rhs => by
    simp only [ClassItem.bare, ClassItem.beyond?, isSome_firstSpan?,
      ClassItem.isSome_beyond?_bare room lhs, ClassItem.isSome_beyond?_bare room rhs]

theorem ClassItem.isSome_anyBeyond?_bareAll :
    ∀ (room : Nat) (items : List ClassItem),
      (ClassItem.anyBeyond? room (ClassItem.bareAll items)).isSome =
        (ClassItem.anyBeyond? room items).isSome
  | _, [] => rfl
  | room, item :: items => by
    simp only [ClassItem.bareAll, ClassItem.anyBeyond?, isSome_firstSpan?,
      ClassItem.isSome_beyond?_bare room item, ClassItem.isSome_anyBeyond?_bareAll room items]

end

mutual

/-- **Forgetting the places keeps whether an expression is nested too deeply.** -/
theorem Ast.isSome_beyond?_bare :
    ∀ (room : Nat) (ast : Ast), (ast.bare.beyond? room).isSome = (ast.beyond? room).isSome
  | _, .empty _ | _, .flags _ _ | _, .literal _ | _, .dot _ | _, .assertion _ _
  | _, .property _ _ _ | _, .perl _ _ _ => by simp only [Ast.bare, Ast.beyond?]
  | 0, .bracketed _ _ _ | 0, .repetition _ _ _ _ _ | 0, .group _ _ _ | 0, .alternation _ _
  | 0, .concat _ _ => by simp only [Ast.bare, Ast.beyond?, Option.isSome_some]
  | room + 1, .bracketed _ negated body => by
    simpa only [Ast.bare, Ast.beyond?] using ClassItem.isSome_beyond?_bare room body
  | room + 1, .repetition _ counts counted greedy body => by
    simpa only [Ast.bare, Ast.beyond?] using Ast.isSome_beyond?_bare room body
  | room + 1, .group _ kind body => by
    simpa only [Ast.bare, Ast.beyond?] using Ast.isSome_beyond?_bare room body
  | room + 1, .alternation _ branches => by
    simpa only [Ast.bare, Ast.beyond?] using Ast.isSome_anyBeyond?_bareAll room branches
  | room + 1, .concat _ items => by
    simpa only [Ast.bare, Ast.beyond?] using Ast.isSome_anyBeyond?_bareAll room items

theorem Ast.isSome_anyBeyond?_bareAll :
    ∀ (room : Nat) (items : List Ast),
      (Ast.anyBeyond? room (Ast.bareAll items)).isSome = (Ast.anyBeyond? room items).isSome
  | _, [] => rfl
  | room, item :: items => by
    simp only [Ast.bareAll, Ast.anyBeyond?, isSome_firstSpan?,
      Ast.isSome_beyond?_bare room item, Ast.isSome_anyBeyond?_bareAll room items]

end

/-! ## Compiling -/

theorem meaning_eq_ok_iff {pattern : String} {e : Expr} :
    meaning pattern = .ok e ↔ ∃ ast, Ast.read pattern.toList = .ok ast ∧
      (ast.beyond? nestLimit).isSome = false ∧
      (ast.meaning .initial).toOption.map Prod.fst = some e := by
  unfold meaning
  cases hread : Ast.read pattern.toList with
  | error f =>
    constructor
    · intro h
      cases h
    · rintro ⟨ast, h, -⟩
      cases h
  | ok ast =>
    -- nesting is checked before anything is given a meaning
    cases hdeep : ast.beyond? nestLimit with
    | some span =>
      constructor
      · intro h
        simp only [bind, Except.bind, hdeep, throw, throwThe, MonadExceptOf.throw] at h
        cases h
      · rintro ⟨ast', h, hnot, -⟩
        cases h
        simp [hdeep] at hnot
    | none =>
      cases hmeans : ast.meaning .initial with
      | error f => simp [bind, Except.bind, Except.toOption, hdeep, hmeans]
      | ok found =>
        obtain ⟨e', flags⟩ := found
        simp [bind, Except.bind, pure, Except.pure, Except.toOption, hdeep, hmeans]

theorem compile_eq_ok_iff {pattern : String} {r : Regex} :
    compile pattern = .ok r ↔ ∃ e, meaning pattern = .ok e ∧ e.weight ≤ sizeLimit ∧
      r = ⟨.ofExpr e, e.namedGroups⟩ := by
  unfold compile
  cases hmeans : meaning pattern with
  | error f => simp
  | ok e =>
    dsimp only
    split
    · next hlarge =>
      simp only [reduceCtorEq, Except.ok.injEq, exists_eq_left', false_iff, not_and]
      intro hsmall
      omega
    · next hsmall =>
      simp only [Except.ok.injEq, exists_eq_left', Nat.not_lt.mp hsmall, true_and, eq_comm]

/-- **Patterns that are read as the same expression, but for the places, compile alike.** -/
theorem compile_eq_ok_of_bare_eq {pattern pattern' : String} {r : Regex} {ast ast' : Ast}
    (hread : Ast.read pattern.toList = .ok ast) (hread' : Ast.read pattern'.toList = .ok ast')
    (hbare : ast'.bare = ast.bare) (h : compile pattern = .ok r) :
    compile pattern' = .ok r := by
  obtain ⟨e, hmeans, hsize, hr⟩ := compile_eq_ok_iff.mp h
  obtain ⟨found, hfound, hdeep, he⟩ := meaning_eq_ok_iff.mp hmeans
  obtain rfl : found = ast := Except.ok.inj (hfound.symm.trans hread)
  refine compile_eq_ok_iff.mpr ⟨e, meaning_eq_ok_iff.mpr ⟨ast', hread', ?_, ?_⟩, hsize, hr⟩
  · rw [← Ast.isSome_beyond?_bare, hbare, Ast.isSome_beyond?_bare, hdeep]
  · rw [← Ast.toOption_meaning_bare, hbare, Ast.toOption_meaning_bare, he]

end Regex

end StreamNames
