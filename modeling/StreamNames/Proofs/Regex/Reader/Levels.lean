import StreamNames.Proofs.Regex.Reader.Parts

/-!
# Reading whole expressions twice

The reading goes in rounds. Each takes the blanks that come next and one part of the
innermost open group, or one of its marks.

- `readLevels_succ`: the reading as a row of rounds.
- `Mirrors.enter`: what is recorded of a group that opens.
- `Advances.readPart`: a round on two texts.
-/

namespace StreamNames

namespace Regex

open Scan

variable {places : Nat → Prop}

/-! ## Rounds -/

/-- What one round of the reading yields: the whole expression, or the state of a further
round. -/
inductive Round where
  | done (ast : Ast)
  | more (level : Level) (groups : List GroupFrame)

/-- The flags that a group sets for its contents. -/
def GroupKind.flags : GroupKind → List FlagItem
  | plain items => items
  | capture _ _ => []

/-- What follows an opening parenthesis. -/
def enter (level : Level) (groups : List GroupFrame) (paren : Span) (verbose : Bool) :
    Opening → Scan Round
  | .flags span items => do
    setVerbose ((FlagItem.setting? .ignoreWhitespace false items).getD verbose)
    return .more { level with items := .flags span items :: level.items } groups
  | .group kind => do
    setVerbose ((FlagItem.setting? .ignoreWhitespace false kind.flags).getD verbose)
    return .more (.new (← here)) (⟨level, paren, kind, verbose⟩ :: groups)

/-- One round of the reading after the blanks: one part of the innermost open group, or one
of its marks. -/
def readPart (level : Level) (groups : List GroupFrame) : Scan Round := do
  let push (item : Ast) : Level := { level with items := item :: level.items }
  match ← next? with
  | none =>
    match groups with
    | group :: _ => fail .groupUnclosed group.paren
    | [] => return .done (level.close (← here))
  | some '(' =>
    let paren ← spanOfNext
    let s ← get
    enter level groups paren s.verbose (← readOpening)
  | some ')' =>
    match groups with
    | [] => fail .groupUnopened (← spanOfNext)
    | group :: groups =>
      setVerbose group.verbose
      let body := level.close (← here)
      discard bump
      let item := Ast.group ⟨group.paren.start, ← here⟩ group.kind body
      return .more { group.outer with items := item :: group.outer.items } groups
  | some '|' =>
    let branch := level.branch (← here)
    discard bump
    return .more ⟨branch :: level.branches, level.branchStart, [], ← here⟩ groups
  | some '[' => return .more (push (← readBracketed)) groups
  | some '?' => return .more { level with items := ← readSymbol ⟨0, some 1⟩ level.items } groups
  | some '*' => return .more { level with items := ← readSymbol ⟨0, none⟩ level.items } groups
  | some '+' => return .more { level with items := ← readSymbol ⟨1, none⟩ level.items } groups
  | some '\x7b' => return .more { level with items := ← readCounted level.items } groups
  | some '\\' => return .more (push (← readEscape).toAst) groups
  | some c =>
    let span ← spanOfNext
    discard bump
    let item := match c with
      | '.' => Ast.dot span
      | '^' => Ast.assertion span .startLine
      | '$' => Ast.assertion span .endLine
      | _ => Ast.literal ⟨span, c, false⟩
    return .more (push item) groups

/-- What follows a round. -/
def Round.next (bound : Nat) : Round → Scan Ast
  | done ast => pure ast
  | more level groups => readLevels bound level groups

/-- **The reading goes in rounds**: blanks, one part, and what follows. -/
theorem readLevels_succ (bound : Nat) (level : Level) (groups : List GroupFrame) :
    readLevels (bound + 1) level groups =
      bumpBlanks >>= fun _ => readPart level groups >>= Round.next bound := by
  unfold readLevels readPart
  refine congrArg (bumpBlanks >>= ·) (funext fun _ => ?_)
  rw [bind_assoc]
  refine congrArg (next? >>= ·) (funext fun next => ?_)
  split
  · -- the end of the text ends the expression only outside of all groups
    cases groups with
    | nil => simp only [bind_assoc, pure_bind, Round.next]
    | cons group groups => rfl
  · simp only [bind_assoc]
    refine congrArg (spanOfNext >>= ·) (funext fun paren => ?_)
    refine congrArg (get >>= ·) (funext fun s => ?_)
    refine congrArg (readOpening >>= ·) (funext fun opening => ?_)
    cases opening with
    | flags span items => simp only [enter, bind_assoc, pure_bind, Round.next]
    | group kind => cases kind <;> simp only [enter, GroupKind.flags, bind_assoc, pure_bind, Round.next]
  · cases groups with
    | nil =>
      simp only [bind_assoc]
      rfl
    | cons group groups => simp only [bind_assoc, pure_bind, Round.next]
  · simp only [bind_assoc, pure_bind, Round.next]
  · simp only [bind_assoc, pure_bind, Round.next]
  · simp only [bind_assoc, pure_bind, Round.next]
  · simp only [bind_assoc, pure_bind, Round.next]
  · simp only [bind_assoc, pure_bind, Round.next]
  · simp only [bind_assoc, pure_bind, Round.next]
  · simp only [bind_assoc, pure_bind, Round.next]
  · simp only [bind_assoc]
    rfl

/-! ## Rounds on two texts -/

/-- A level without places. -/
def Level.bare (level : Level) : Level :=
  ⟨level.branches.map Ast.bare, .start, level.items.map Ast.bare, .start⟩

/-- An open group without places. -/
def GroupFrame.bare (group : GroupFrame) : GroupFrame :=
  ⟨group.outer.bare, .blank, group.kind.bare, group.verbose⟩

/-- What a round yields, without places. -/
def Round.bare : Round → Round
  | done ast => done ast.bare
  | more level groups => more level.bare (groups.map GroupFrame.bare)

theorem Level.bare_branch {level level' : Level} (stop stop' : Position)
    (h : SameBare Level.bare level level') :
    SameBare Ast.bare (level.branch stop) (level'.branch stop') := by
  have hitems : level.items.map Ast.bare = level'.items.map Ast.bare := congrArg Level.items h
  unfold Level.branch
  generalize level.items = items at hitems
  generalize level'.items = items' at hitems
  -- one item stands for itself, so lists are told apart by their lengths
  match items, items' with
  | [], [] => rfl
  | [item], [item'] => exact List.head_eq_of_cons_eq hitems
  | a :: b :: items, a' :: b' :: items' =>
    have hreverse : SameBare (List.map Ast.bare) _ _ := SameBare.reverse hitems
    simp only [SameBare, Ast.bare, Ast.bareAll_eq_map, show List.map Ast.bare _ = _ from hreverse]
  | [], _ :: _ => cases hitems
  | _ :: _, [] => cases hitems
  | [_], _ :: _ :: _ => simp at hitems
  | _ :: _ :: _, [_] => simp at hitems

theorem Level.bare_close {level level' : Level} (stop stop' : Position)
    (h : SameBare Level.bare level level') :
    SameBare Ast.bare (level.close stop) (level'.close stop') := by
  have hbranch := Level.bare_branch stop stop' h
  have hbranches : level.branches.map Ast.bare = level'.branches.map Ast.bare :=
    congrArg Level.branches h
  unfold Level.close
  generalize level.branches = branches at hbranches
  generalize level'.branches = branches' at hbranches
  match branches, branches' with
  | [], [] => exact hbranch
  | a :: branches, a' :: branches' =>
    have hreverse : SameBare (List.map Ast.bare) _ _ :=
      SameBare.reverse (SameBare.cons hbranch hbranches)
    simp only [SameBare, Ast.bare, Ast.bareAll_eq_map, show List.map Ast.bare _ = _ from hreverse]
  | [], _ :: _ => cases hbranches
  | _ :: _, [] => cases hbranches

/-- Other items in the same place of a level. -/
theorem Level.bare_items {level level' : Level} {items items' : List Ast}
    (h : SameBare Level.bare level level') (hitems : SameBare (List.map Ast.bare) items items') :
    SameBare Level.bare { level with items } { level' with items := items' } := by
  have hbranches : level.branches.map Ast.bare = level'.branches.map Ast.bare :=
    congrArg Level.branches h
  simp only [SameBare, Level.bare, hbranches, show items.map Ast.bare = _ from hitems]

theorem Level.bare_push {level level' : Level} {item item' : Ast}
    (h : SameBare Level.bare level level') (hitem : SameBare Ast.bare item item') :
    SameBare Level.bare { level with items := item :: level.items }
      { level' with items := item' :: level'.items } :=
  Level.bare_items h (.cons hitem (congrArg Level.items h))

theorem Round.bare_more {level level' : Level} {groups groups' : List GroupFrame}
    (hlevel : SameBare Level.bare level level')
    (hgroups : SameBare (List.map GroupFrame.bare) groups groups') :
    SameBare Round.bare (.more level groups) (.more level' groups') :=
  congrArg₂ Round.more hlevel hgroups

theorem Primitive.bare_toAst {x y : Primitive} (h : SameBare Primitive.bare x y) :
    SameBare Ast.bare x.toAst y.toAst := by
  have hbare : ∀ x : Primitive, x.toAst.bare = x.bare.toAst := by
    intro x
    cases x <;> simp only [Primitive.toAst, Primitive.bare, Ast.bare]
  rw [SameBare, hbare, hbare]
  exact congrArg Primitive.toAst h

theorem FlagItem.setting?_map_bare (flag : Flag) (negated : Bool) (items : List FlagItem) :
    FlagItem.setting? flag negated (items.map FlagItem.bare) =
      FlagItem.setting? flag negated items := by
  induction items generalizing negated with
  | nil => rfl
  | cons item items ih =>
    cases item with
    | negation span => exact ih true
    | flag span f =>
      show (if f = flag then _ else _) = (if f = flag then _ else _)
      rw [ih negated]

/-- Places decide nothing about flags. -/
theorem FlagItem.setting?_eq {items items' : List FlagItem}
    (h : items.map FlagItem.bare = items'.map FlagItem.bare) (flag : Flag) (negated : Bool) :
    FlagItem.setting? flag negated items' = FlagItem.setting? flag negated items := by
  rw [← FlagItem.setting?_map_bare, ← h, FlagItem.setting?_map_bare]

theorem GroupKind.map_bare_flags (kind : GroupKind) :
    kind.bare.flags = kind.flags.map FlagItem.bare := by
  cases kind <;> rfl

theorem Mirrors.enter {level level' : Level} {groups groups' : List GroupFrame}
    {paren paren' : Span} (verbose : Bool) {x y : Opening}
    (hlevel : SameBare Level.bare level level')
    (hgroups : SameBare (List.map GroupFrame.bare) groups groups')
    (h : SameBare Opening.bare x y) (s : ScanState) :
    Mirrors places (SameBare Round.bare) s (Regex.enter level groups paren verbose x)
      (Regex.enter level' groups' paren' verbose y) := by
  cases x with
  | flags span items =>
    cases y with
    | group kind => cases h
    | flags span' items' =>
      -- the same flags are set in both, so blanks are passed over in both or in neither
      have hitems : items.map FlagItem.bare = items'.map FlagItem.bare :=
        (Opening.flags.inj h).2
      rw [Regex.enter, Regex.enter, FlagItem.setting?_eq hitems]
      refine (Mirrors.setVerbose _).bind fun _ _ s₁ _ _ => .pure (Round.bare_more ?_ hgroups)
      refine Level.bare_push hlevel ?_
      simp only [SameBare, Ast.bare, hitems]
  | group kind =>
    cases y with
    | flags span items => cases h
    | group kind' =>
      have hkind : kind.bare = kind'.bare := Opening.group.inj h
      have hflags : kind.flags.map FlagItem.bare = kind'.flags.map FlagItem.bare := by
        rw [← kind.map_bare_flags, ← kind'.map_bare_flags, hkind]
      rw [Regex.enter, Regex.enter, FlagItem.setting?_eq hflags]
      refine (Mirrors.setVerbose _).bind fun _ _ s₁ _ _ => Mirrors.here.bind
        fun _ _ s₂ _ _ => .pure (Round.bare_more rfl (.cons ?_ hgroups))
      simp only [SameBare, GroupFrame.bare, hkind, show level.bare = level'.bare from hlevel]

/-- **A part of an expression is read on both texts.** -/
theorem Advances.readPart {level level' : Level} {groups groups' : List GroupFrame}
    (hlevel : SameBare Level.bare level level')
    (hgroups : SameBare (List.map GroupFrame.bare) groups groups') (s : ScanState) :
    Advances places (SameBare Round.bare) s (Regex.readPart level groups)
      (Regex.readPart level' groups') := by
  unfold Regex.readPart
  refine .after .next? ?_
  rintro next _ s₁ hnext rfl
  cases hnext
  -- by what comes next: the end, a group that opens or closes, a bar, a bracket, the three
  -- symbols of repetition, a brace, a backslash, or any other character
  split
  · next hend =>
    have hrest : s.rest = [] := List.head?_eq_none_iff.mp hend
    cases groups with
    | cons group groups => exact .of_fails (fails_fail _ _)
    | nil =>
      cases groups' with
      | cons group' groups' => cases hgroups
      | nil =>
        refine ⟨Mirrors.here.bind fun _ _ _ _ _ => .pure ?_, fun hne => absurd hrest hne⟩
        exact congrArg Round.done (Level.bare_close _ _ hlevel)
  · refine .after .spanOfNext fun paren paren' s₂ _ _ => .after .get fun t t' s₃ _ hverbose => ?_
    rw [hverbose]
    exact (readOpening s₃).bind fun x y s₄ _ h => .enter _ hlevel hgroups h s₄
  · cases groups with
    | nil => exact .of_fails (.after _ fun _ => fails_fail _ _)
    | cons group groups =>
      cases groups' with
      | nil => cases hgroups
      | cons group' groups' =>
        obtain ⟨hgroup, hgroups⟩ := hgroups.of_cons
        have hkind : group.kind.bare = group'.kind.bare := congrArg GroupFrame.kind hgroup
        have hverbose := congrArg GroupFrame.verbose (show group.bare = group'.bare from hgroup)
        dsimp only
        rw [show group.verbose = group'.verbose from hverbose]
        refine .after (.setVerbose _) fun _ _ s₂ _ _ => .after .here fun stop stop' s₃ _ _ =>
          Advances.bump.discard.bind fun _ _ s₄ _ _ => Mirrors.here.bind
            fun _ _ _ _ _ => .pure (Round.bare_more (Level.bare_push ?_ ?_) hgroups)
        · exact congrArg GroupFrame.outer hgroup
        · have hbody : (level.close stop).bare = (level'.close stop').bare :=
            Level.bare_close stop stop' hlevel
          simp only [SameBare, Ast.bare, hkind, hbody]
  · refine .after .here fun stop stop' s₂ _ _ => Advances.bump.discard.bind fun _ _ s₃ _ _ =>
      Mirrors.here.bind fun _ _ _ _ _ => .pure (Round.bare_more ?_ hgroups)
    have hbranches : SameBare (List.map Ast.bare) (level.branch stop :: level.branches)
        (level'.branch stop' :: level'.branches) :=
      .cons (Level.bare_branch stop stop' hlevel) (congrArg Level.branches hlevel)
    exact congrArg (fun branches => Level.mk branches .start [] .start) hbranches
  · exact (readBracketed s).bind fun item item' _ _ hitem =>
      .pure (Round.bare_more (Level.bare_push hlevel hitem) hgroups)
  · exact (readSymbol _ (congrArg Level.items hlevel) s).bind fun items items' _ _ hitems =>
      .pure (Round.bare_more (Level.bare_items hlevel hitems) hgroups)
  · exact (readSymbol _ (congrArg Level.items hlevel) s).bind fun items items' _ _ hitems =>
      .pure (Round.bare_more (Level.bare_items hlevel hitems) hgroups)
  · exact (readSymbol _ (congrArg Level.items hlevel) s).bind fun items items' _ _ hitems =>
      .pure (Round.bare_more (Level.bare_items hlevel hitems) hgroups)
  · exact (readCounted (congrArg Level.items hlevel) s).bind fun items items' _ _ hitems =>
      .pure (Round.bare_more (Level.bare_items hlevel hitems) hgroups)
  · exact (readEscape s).bind fun item item' _ _ hitem =>
      .pure (Round.bare_more (Level.bare_push hlevel (Primitive.bare_toAst hitem)) hgroups)
  · refine .after .spanOfNext fun span span' s₂ _ _ => Advances.bump.discard.bind
      fun _ _ s₃ _ _ => .pure (Round.bare_more (Level.bare_push hlevel ?_) hgroups)
    split <;> rfl

/-- A part of an expression passes something, unless nothing is left. -/
theorem Advances.readPart_self (level : Level) (groups : List GroupFrame) (s : ScanState) :
    Advances nowhere (SameBare Round.bare) s (Regex.readPart level groups)
      (Regex.readPart level groups) :=
  .readPart rfl rfl s

/-- The reading of a pattern goes in rounds from its start. -/
theorem Ast.read_eq_ok_iff {pattern : List Char} {ast : Ast} :
    Ast.read pattern = .ok ast ↔ ∃ s', readLevels (pattern.length + 1) (.new .start) []
      ⟨pattern, .start, false, 0, []⟩ = .ok (ast, s') := by
  show Except.map Prod.fst (readLevels _ _ _ _) = _ ↔ _
  cases readLevels (pattern.length + 1) (.new .start) [] ⟨pattern, .start, false, 0, []⟩ with
  | error f => simp [Except.map]
  | ok found => simp [Except.map, Prod.ext_iff]

end Regex

end StreamNames
