import StreamNames.Proofs.Regex.Reader.Counts
import StreamNames.Proofs.Regex.Reader.Levels

/-!
# What a round of the reading adds

A round adds one leaf, repeats the last item, opens or closes a group, or starts another
alternative. All that is known about the reading of whole expressions follows from this.

- `Part`: what a round adds.
- `part_of_readPart`: a round adds nothing else.
-/

namespace StreamNames

namespace Regex

open Scan

/-! ## Leaves -/

/-- Whether an expression has no parts of its own. -/
def Ast.isLeaf : Ast → Bool
  | .repetition _ _ _ _ _ | .group _ _ _ | .alternation _ _ | .concat _ _ => false
  | _ => true

theorem Primitive.isLeaf_toAst (x : Primitive) : x.toAst.isLeaf := by
  cases x <;> rfl

theorem Primitive.span_toAst (x : Primitive) : x.toAst.span = x.span := by
  cases x <;> rfl

theorem stop_of_spanOfNext {s s₁ s₂ : ScanState} {span : Span}
    (hspan : spanOfNext s = .ok (span, s₁)) (hbump : discard bump s₁ = .ok ((), s₂)) :
    span.stop = s₂.place := by
  obtain ⟨rest, place, verbose, captures, names⟩ := s
  cases rest <;> cases hspan <;> cases hbump <;> rfl

theorem stop_of_readHex (start : Position) (digits : Nat) (s : ScanState) :
    Yields s (readHex start digits) fun l s' => l.span.stop = s'.place := by
  unfold readHex
  refine .bind fun more s₁ _ => .guard fails_at fun _ => .next? (.ite (fun _ => ?_) fun _ => ?_)
  · refine .here (.bind fun _ s₂ _ => .here (.bind fun _ s₃ _ => .bind fun _ s₄ _ =>
      .bind fun spelled s₅ _ => .bind fun ended s₆ _ => .guard fails_at fun _ =>
      .here (.bind fun _ s₇ _ => .guard fails_at fun _ => ?_)))
    cases charOfHex? spelled with
    | none => exact .of_fails (fails_fail _ _)
    | some c => exact .here (.pure rfl)
  · refine .here (.bind fun spelled s₂ _ => ?_)
    cases charOfHex? spelled with
    | none => exact .here (.of_fails (fails_fail _ _))
    | some c => exact .here (.pure rfl)

theorem stop_of_readProperty (start : Position) (negated : Bool) (s : ScanState) :
    Yields s (readProperty start negated) fun x s' => x.span.stop = s'.place := by
  unfold readProperty
  refine .bind fun more s₁ _ => .guard fails_at fun _ => .next? ?_
  split
  · exact .bind fun _ s₂ _ => .bind fun name s₃ _ => .bind fun ended s₄ _ =>
      .guard fails_at fun _ => .bind fun _ s₅ _ => .here (.pure rfl)
  · exact .bind fun _ s₂ _ => .of_fails (fails_fail _ _)
  · exact .bind fun _ s₂ _ => .here (.pure rfl)
  · exact .here (.of_fails (fails_fail _ _))

theorem stop_of_readWordBoundary (start : Position) (s : ScanState) :
    Yields s (readWordBoundary start) fun x s' => x.span.stop = s'.place := by
  unfold readWordBoundary
  refine .here (.next? (.ite (fun _ => .pure rfl) fun _ => .bind fun before s₁ hget => ?_))
  cases hget
  refine .here (.bind fun more s₂ _ => .guard fails_at fun _ => .here (.next? ?_))
  refine .ite (fun _ => .bind fun _ s₃ hset => ?_) fun _ => ?_
  · cases hset
    exact .pure rfl
  · refine .bind fun word s₃ _ => .next? (.guard fails_at fun _ => .here ?_)
    refine .bind fun _ s₄ _ => ?_
    cases Assertion.ofWord? word with
    | none => exact .of_fails (fails_fail _ _)
    | some kind => exact .here (.pure rfl)

theorem stop_of_readEscape (s : ScanState) :
    Yields s readEscape fun x s' => x.span.stop = s'.place := by
  unfold readEscape
  refine .here (.bind fun more s₁ _ => .guard fails_at fun _ => .next? ?_)
  cases s₁.rest.head? with
  | none => exact .here (.of_fails (fails_fail _ _))
  | some c =>
    refine .guard (.after _ fun _ => fails_fail _ _) fun _ => ?_
    have hhex : ∀ digits, Yields s₁
        (readHex s.place digits >>= fun l => pure (Primitive.literal l))
        fun x s' => x.span.stop = s'.place :=
      fun digits => .bind fun l s₂ hl => .pure (stop_of_readHex _ _ _ l s₂ hl)
    refine .ite (fun _ => hhex 2) fun _ => .ite (fun _ => hhex 4) fun _ =>
      .ite (fun _ => hhex 8) fun _ => .ite (fun _ => stop_of_readProperty _ _ _) fun _ =>
      .ite (fun _ => stop_of_readProperty _ _ _) fun _ => .bind fun _ s₂ _ => .here ?_
    refine .ite (fun _ => .pure rfl) fun _ => ?_
    split
    any_goals exact .pure rfl
    · exact stop_of_readWordBoundary _ _
    · exact .of_fails (fails_fail _ _)

theorem leaf_of_readClassBody (n : Nat) (frames : List ClassFrame) (start : Position)
    (items : List ClassItem) (s : ScanState) :
    Yields s (readClassBody n frames start items) fun ast s' =>
      ast.isLeaf ∧ ast.span.stop = s'.place := by
  -- whatever is nested, the last bracket yields the leaf
  induction n generalizing frames start items s with
  | zero => exact .of_fails (fails_failUnclosed frames)
  | succ n ih =>
    unfold readClassBody
    refine .bind fun _ s₁ _ => .next? ?_
    split
    · exact .of_fails (fails_failUnclosed frames)
    · refine .bind fun found s₃ _ => ?_
      cases found with
      | some item => exact ih _ _ _ _
      | none =>
        refine .bind ?_
        rintro ⟨opening, negated, inside, nested⟩ s₄ -
        exact ih _ _ _ _
    · split
      split
      · exact .bind fun _ s₃ _ => .here (.ite (fun _ => .pure ⟨rfl, rfl⟩) fun _ => ih _ _ _ _)
      · exact .of_fails (fails_failUnclosed _)
    · refine .bind fun operation s₃ _ => ?_
      cases operation with
      | none => exact .bind fun _ s₄ _ => ih _ _ _ _
      | some kind =>
        exact .bind fun _ s₄ _ => .bind fun _ s₅ _ => .here (ih _ _ _ _)

theorem leaf_of_readBracketed (s : ScanState) :
    Yields s readBracketed fun ast s' => ast.isLeaf ∧ ast.span.stop = s'.place :=
  .bind fun _ _ _ => .here (.bind fun ⟨_, _, _, _⟩ _ _ => leaf_of_readClassBody _ _ _ _ _)

/-! ## Parts -/

/-- What a round that leads from one state to another adds to the innermost open level and
to the open groups. -/
inductive Part (level : Level) (groups : List GroupFrame) (s s' : ScanState) : Round → Prop
  | done : Part level groups s s' (.done (level.close s.place))
  | leaf {item : Ast} : item.isLeaf → (item.isOperand → item.span.stop = s'.place) →
    Part level groups s s'
      (.more ⟨level.branches, level.branchStart, item :: level.items, level.start⟩ groups)
  | repeated {item : Ast} {before : List Ast} {span : Span} {counts : Counts} {greedy : Bool} :
    level.items = item :: before → span.stop = s'.place →
    Part level groups s s' (.more ⟨level.branches, level.branchStart,
      .repetition span counts false greedy item :: before, level.start⟩ groups)
  | counted {item : Ast} {before : List Ast} {span : Span} {counts : Counts} {greedy : Bool} :
    level.items = item :: before → item.isOperand → span.stop = s'.place →
    counts.Priced s.rest →
    Part level groups s s' (.more ⟨level.branches, level.branchStart,
      .repetition span counts true greedy item :: before, level.start⟩ groups)
  | opened {paren : Span} (kind : GroupKind) (verbose : Bool) : paren.start = s.place →
    Part level groups s s' (.more (.new s'.place) (⟨level, paren, kind, verbose⟩ :: groups))
  | closed {group : GroupFrame} {outer : List GroupFrame} : groups = group :: outer →
    Part level groups s s' (.more ⟨group.outer.branches, group.outer.branchStart,
      .group ⟨group.paren.start, s'.place⟩ group.kind (level.close s.place) ::
        group.outer.items, group.outer.start⟩ outer)
  | branch : Part level groups s s'
      (.more ⟨level.branch s.place :: level.branches, level.branchStart, [], s'.place⟩ groups)

theorem yields_readSymbol (counts : Counts) (items : List Ast) (s : ScanState) :
    Yields s (readSymbol counts items) fun items' s' => ∃ item before span greedy,
      items = item :: before ∧ items' = .repetition span counts false greedy item :: before ∧
      span.stop = s'.place := by
  unfold readSymbol
  refine .bind fun operand s₁ htake => ?_
  obtain ⟨item, before⟩ := operand
  obtain ⟨rfl, -, -⟩ := takeOperand_eq_ok_iff.mp htake
  exact .bind fun _ _ _ => .bind fun greedy _ _ => .here (.pure ⟨item, before, _, greedy, rfl, rfl, rfl⟩)

/-- **A round adds one part.** -/
theorem part_of_readPart (level : Level) (groups : List GroupFrame) (s : ScanState) :
    Yields s (readPart level groups) fun round s' => Part level groups s s' round := by
  have hsymbol : ∀ counts, Yields s (readSymbol counts level.items >>= fun items =>
      pure (Round.more { level with items } groups))
      fun round s' => Part level groups s s' round := by
    refine fun counts => .bind fun items s₁ hitems => .pure ?_
    obtain ⟨item, before, span, greedy, hlevel, rfl, hstop⟩ := yields_readSymbol _ _ _ _ _ hitems
    exact .repeated hlevel hstop
  unfold readPart
  refine .next? ?_
  -- by what comes next, as the round is written
  split
  · cases groups with
    | cons group groups => exact .of_fails (fails_fail _ _)
    | nil => exact .here (.pure .done)
  · refine .bind fun paren s₁ hparen => .bind fun t s₂ hget => .bind fun opening s₃ _ => ?_
    obtain ⟨hstart, rfl⟩ := spanOfNext_eq_ok hparen
    cases hget
    cases opening with
    | flags span items =>
      exact .bind fun _ s₄ _ => .pure (.leaf rfl (by rintro ⟨⟩))
    | group kind => exact .bind fun _ s₄ _ => .here (.pure (.opened kind _ hstart))
  · cases groups with
    | nil => exact .bind fun _ s₁ _ => .of_fails (fails_fail _ _)
    | cons group groups =>
      refine .bind fun _ s₁ hset => .here (.bind fun _ s₂ _ => .here (.pure ?_))
      cases hset
      exact .closed rfl
  · exact .here (.bind fun _ s₁ _ => .here (.pure .branch))
  · refine .bind fun item s₁ hitem => .pure ?_
    obtain ⟨hleaf, hstop⟩ := leaf_of_readBracketed _ _ _ hitem
    exact .leaf hleaf fun _ => hstop
  · exact hsymbol _
  · exact hsymbol _
  · exact hsymbol _
  · refine .bind fun items s₁ hitems => .pure ?_
    obtain ⟨item, before, span, counts, greedy, hlevel, hoperand, rfl, hstop, hpriced⟩ :=
      yields_readCounted _ _ _ _ hitems
    exact .counted hlevel hoperand hstop hpriced
  · refine .bind fun item s₁ hitem => .pure (.leaf item.isLeaf_toAst fun _ => ?_)
    rw [item.span_toAst]
    exact stop_of_readEscape _ _ _ hitem
  · refine .bind fun span s₁ hspan => .bind fun _ s₂ hbump => .pure (.leaf ?_ fun _ => ?_)
    · split <;> rfl
    · rw [← stop_of_spanOfNext hspan hbump]
      split <;> rfl

/-! ## Parts of an expression -/

mutual

/-- The expressions that an expression is built of, itself included. -/
def Ast.parts : Ast → List Ast
  | .repetition span counts counted greedy body =>
    .repetition span counts counted greedy body :: body.parts
  | .group span kind body => .group span kind body :: body.parts
  | .alternation span branches => .alternation span branches :: partsAll branches
  | .concat span items => .concat span items :: partsAll items
  | leaf => [leaf]

/-- The expressions that several expressions are built of. -/
def Ast.partsAll : List Ast → List Ast
  | [] => []
  | ast :: asts => ast.parts ++ partsAll asts

end

/-- Whether an expression is only made of those before it, when a level ends. -/
def Ast.isJoint : Ast → Bool
  | .empty _ | .alternation _ _ | .concat _ _ => true
  | _ => false

/-- The expressions that the finished alternatives and items of a level are built of. -/
def Level.parts (level : Level) : List Ast :=
  Ast.partsAll level.items ++ Ast.partsAll level.branches

theorem Ast.mem_partsAll {asts : List Ast} {part : Ast} :
    part ∈ partsAll asts ↔ ∃ ast ∈ asts, part ∈ ast.parts := by
  induction asts with
  | nil => simp [partsAll]
  | cons ast asts ih => simp [partsAll, ih]

theorem Ast.parts_of_isLeaf {ast : Ast} (h : ast.isLeaf) : ast.parts = [ast] := by
  cases ast <;> first | rfl | cases h

theorem Level.mem_parts_branch {level : Level} {stop : Position} {part : Ast}
    (h : part ∈ (level.branch stop).parts) : part ∈ Ast.partsAll level.items ∨ part.isJoint := by
  unfold Level.branch at h
  split at h
  · obtain rfl := List.mem_singleton.mp h
    exact .inr rfl
  · next item hitem =>
    rw [hitem, Ast.partsAll, Ast.partsAll, List.append_nil]
    exact .inl h
  · rw [Ast.parts, List.mem_cons] at h
    refine h.symm.imp (fun h => ?_) (by rintro rfl; rfl)
    rw [Ast.mem_partsAll] at h ⊢
    simpa using h

theorem Level.mem_parts_close {level : Level} {stop : Position} {part : Ast}
    (h : part ∈ (level.close stop).parts) : part ∈ level.parts ∨ part.isJoint := by
  have hbranch : part ∈ (level.branch stop).parts → part ∈ level.parts ∨ part.isJoint :=
    fun h => (mem_parts_branch h).imp_left (List.mem_append_left _)
  unfold Level.close at h
  split at h
  · exact hbranch h
  · rw [Ast.parts, List.mem_cons] at h
    rcases h with rfl | h
    · exact .inr rfl
    · simp only [Ast.mem_partsAll, List.mem_reverse, List.mem_cons, exists_eq_or_imp] at h
      rcases h with h | h
      · exact hbranch h
      · exact .inl (List.mem_append_right _ (Ast.mem_partsAll.mpr h))

/-- The expressions that all that was read is built of. -/
def Round.parts : Round → List Ast
  | done ast => ast.parts
  | more level groups => level.parts ++ groups.flatMap (·.outer.parts)

/-- An expression that a round adds. -/
inductive Added (level : Level) (groups : List GroupFrame) (s s' : ScanState) : Ast → Prop
  | leaf {part : Ast} : part.isLeaf → Added level groups s s' part
  | joint {part : Ast} : part.isJoint → Added level groups s s' part
  | repeated {span : Span} {counts : Counts} {greedy : Bool} {item : Ast} :
    Added level groups s s' (.repetition span counts false greedy item)
  | counted {span : Span} {counts : Counts} {greedy : Bool} {item : Ast} {before : List Ast} :
    level.items = item :: before → item.isOperand → counts.Priced s.rest →
    Added level groups s s' (.repetition span counts true greedy item)
  | closed {group : GroupFrame} {body : Ast} : group ∈ groups →
    Added level groups s s' (.group ⟨group.paren.start, s'.place⟩ group.kind body)

theorem Level.mem_parts_cons {branches items : List Ast} {branchStart start : Position}
    {item part : Ast} :
    part ∈ (Level.mk branches branchStart (item :: items) start).parts ↔
      part ∈ item.parts ∨ part ∈ (Level.mk branches branchStart items start).parts := by
  simp only [parts, Ast.partsAll, List.mem_append, or_assoc]

theorem Round.mem_parts_more {level : Level} {groups : List GroupFrame} {part : Ast} :
    part ∈ (more level groups).parts ↔
      part ∈ level.parts ∨ ∃ group ∈ groups, part ∈ group.outer.parts := by
  rw [parts, List.mem_append, List.mem_flatMap]

/-- A repetition takes the place of the item that it repeats. -/
theorem mem_parts_of_repetition {level : Level} {groups : List GroupFrame}
    {item repetition part : Ast} {before : List Ast} (hitems : level.items = item :: before)
    (hparts : repetition.parts = repetition :: item.parts)
    (hmem : part ∈ (Round.more ⟨level.branches, level.branchStart, repetition :: before,
      level.start⟩ groups).parts) :
    part ∈ (Round.more level groups).parts ∨ part = repetition := by
  obtain ⟨branches, branchStart, items, start⟩ := level
  obtain rfl : items = item :: before := hitems
  rw [Round.mem_parts_more, Level.mem_parts_cons, hparts, List.mem_cons] at hmem
  rw [Round.mem_parts_more, Level.mem_parts_cons]
  rcases hmem with ((h | h) | h) | h
  · exact .inr h
  · exact .inl (.inl (.inl h))
  · exact .inl (.inl (.inr h))
  · exact .inl (.inr h)

/-- **A round adds one expression**, but for those that join what was there. -/
theorem mem_parts_of_part {level : Level} {groups : List GroupFrame} {s s' : ScanState}
    {round : Round} {part : Ast} (h : Part level groups s s' round) (hmem : part ∈ round.parts) :
    part ∈ (Round.more level groups).parts ∨ Added level groups s s' part := by
  have hlevel : part ∈ level.parts → part ∈ (Round.more level groups).parts :=
    fun h => Round.mem_parts_more.mpr (.inl h)
  have houter : ∀ group ∈ groups, part ∈ group.outer.parts →
      part ∈ (Round.more level groups).parts :=
    fun group hgroup h => Round.mem_parts_more.mpr (.inr ⟨group, hgroup, h⟩)
  cases h with
  | done => exact (Level.mem_parts_close hmem).imp hlevel .joint
  | leaf hleaf _ =>
    rw [Round.mem_parts_more, Level.mem_parts_cons, Ast.parts_of_isLeaf hleaf,
      List.mem_singleton] at hmem
    rcases hmem with (rfl | h) | ⟨group, hgroup, h⟩
    · exact .inr (.leaf hleaf)
    · exact .inl (hlevel h)
    · exact .inl (houter group hgroup h)
  | repeated heq _ =>
    refine (mem_parts_of_repetition heq rfl hmem).imp_right ?_
    rintro rfl
    exact .repeated
  | counted heq hoperand _ hpriced =>
    refine (mem_parts_of_repetition heq rfl hmem).imp_right ?_
    rintro rfl
    exact .counted heq hoperand hpriced
  -- the new level is empty, and the one before it is kept in the frame of the group
  | opened kind verbose _ =>
    rw [Round.mem_parts_more] at hmem
    rcases hmem with h | ⟨group, _ | ⟨_, hgroup⟩, h⟩
    · cases h
    · exact .inl (hlevel h)
    · exact .inl (houter group hgroup h)
  | @closed group outer heq =>
    -- the outer level comes back from the frame that was opened for it
    have hgroup : group ∈ groups := by
      rw [heq]
      exact List.mem_cons_self
    rw [Round.mem_parts_more, Level.mem_parts_cons, Ast.parts, List.mem_cons] at hmem
    rcases hmem with ((rfl | h) | h) | ⟨group', hgroup', h⟩
    · exact .inr (.closed hgroup)
    · exact (Level.mem_parts_close h).imp hlevel .joint
    · exact .inl (houter group hgroup h)
    · refine .inl (houter group' ?_ h)
      rw [heq]
      exact List.mem_cons_of_mem _ hgroup'
  | branch =>
    rw [Round.mem_parts_more, Level.parts, Ast.partsAll, Ast.partsAll, List.nil_append,
      List.mem_append] at hmem
    rcases hmem with (h | h) | ⟨group, hgroup, h⟩
    · exact (Level.mem_parts_branch h).imp (fun h => hlevel (List.mem_append_left _ h)) .joint
    · exact .inl (hlevel (List.mem_append_right _ h))
    · exact .inl (houter group hgroup h)

end Regex

end StreamNames
