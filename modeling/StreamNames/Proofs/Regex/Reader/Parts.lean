import StreamNames.Proofs.Regex.Reader.Brackets

/-!
# Reading the same repetition or group twice

- `Advances.readSymbol`, `Advances.readCounted`: a repetition on two texts.
- `takeName_eq_ok_iff`: the one step that depends on what was read long before.
- `Advances.readOpening`: the start of a group, or flags, on two texts.
-/

namespace StreamNames

namespace Regex

open Scan
open StreamNames.Unicode (isWhitespace)

variable {places : Nat → Prop}

/-! ## Repetitions -/

/-- The same number, or a fault in both cases. -/
def SameNumber (x y : Except Fault Nat) : Prop := x.toOption = y.toOption

/-- Whether a repetition may apply to an expression. -/
def Ast.isOperand : Ast → Bool
  | .empty _ | .flags _ _ => false
  | _ => true

theorem Ast.isOperand_bare (ast : Ast) : ast.bare.isOperand = ast.isOperand := by
  cases ast <;> simp only [Ast.bare, Ast.isOperand]

theorem takeOperand_cons {item : Ast} (before : List Ast) (h : item.isOperand) :
    takeOperand (item :: before) = pure (item, before) := by
  cases item <;> first | rfl | cases h

theorem fails_takeOperand {items : List Ast}
    (h : ∀ item before, items = item :: before → item.isOperand = false) :
    Fails (takeOperand items) := by
  have hmissing : Fails (here >>= fun p => fail .repetitionMissing (.point p) :
      Scan (Ast × List Ast)) := .after _ fun _ => fails_fail _ _
  cases items with
  | nil => exact hmissing
  | cons item before =>
    have hoperand := h item before rfl
    cases item <;> first | exact hmissing | cases hoperand

theorem takeOperand_eq_ok_iff {items before : List Ast} {item : Ast} {s s' : ScanState} :
    takeOperand items s = .ok ((item, before), s') ↔
      items = item :: before ∧ item.isOperand ∧ s' = s := by
  constructor
  · intro h
    by_cases hoperand : ∃ item before, items = item :: before ∧ item.isOperand
    · obtain ⟨item', before', rfl, hoperand⟩ := hoperand
      rw [takeOperand_cons before' hoperand] at h
      cases h
      exact ⟨rfl, hoperand, rfl⟩
    · refine absurd h (fails_takeOperand (fun item before heq => ?_) s _ s')
      exact Bool.eq_false_iff.mpr fun h => hoperand ⟨item, before, heq, h⟩
  · rintro ⟨rfl, hoperand, rfl⟩
    rw [takeOperand_cons before hoperand]
    rfl

/-- The end of a repetition behind its bounds. -/
def closeCounted (start : Position) (item : Ast) (before : List Ast) (counts : Counts) :
    Scan (List Ast) := do
  let unclosed {α : Type} : Scan α := do fail .repetitionCountUnclosed ⟨start, ← here⟩
  if (← next?) ≠ some '\x7d' then unclosed
  let greedy ← readGreed (← bumpWithBlanks)
  let span : Span := ⟨start, ← here⟩
  if counts.max.any (· < counts.min) then fail .repetitionCountInvalid span
  return .repetition ⟨item.span.start, span.stop⟩ counts true greedy item :: before

namespace Mirrors

theorem readDecimal (s : ScanState) :
    Mirrors places SameNumber s Regex.readDecimal Regex.readDecimal := by
  unfold Regex.readDecimal
  refine (collectWhile shrinks_bump (fun _ => bump) _ s).discard.bind fun _ _ s₁ _ _ =>
    here.bind fun _ _ s₂ _ _ =>
    (collectWhile shrinks_bumpWithBlanks (fun _ => bumpWithBlanks) _ s₂).bind ?_
  rintro digits _ s₃ - rfl
  refine here.bind fun _ _ s₄ _ _ =>
    (collectWhile shrinks_bumpWithBlanks (fun _ => bumpWithBlanks) _ s₄).discard.bind
      fun _ _ s₅ _ _ => ?_
  refine .ite Iff.rfl (fun _ => .pure rfl) fun _ => ?_
  exact .ite Iff.rfl (fun _ => .pure rfl) fun _ => .pure rfl

theorem liftNumber {x y : Except Fault Nat} (h : SameNumber x y) (s : ScanState) :
    Mirrors places Eq s (liftM x : Scan Nat) (liftM y : Scan Nat) := by
  cases x with
  | error f => exact .of_fails (by rintro s x s' ⟨⟩)
  | ok n =>
    cases y with
    | error f => cases h
    | ok m =>
      cases h
      exact .pure rfl

theorem takeOperand {items items' : List Ast} (h : SameBare (List.map Ast.bare) items items')
    (s : ScanState) :
    Mirrors places (fun x y => SameBare Ast.bare x.1 y.1 ∧
      SameBare (List.map Ast.bare) x.2 y.2) s
      (Regex.takeOperand items) (Regex.takeOperand items') := by
  cases items with
  | nil => exact .of_fails (fails_takeOperand (by simp))
  | cons item before =>
    cases items' with
    | nil => cases h
    | cons item' before' =>
      obtain ⟨hitem, hbefore⟩ := h.of_cons
      -- what can be repeated is told without places
      have hkind : item'.isOperand = item.isOperand := by
        rw [← item'.isOperand_bare, ← item.isOperand_bare, show item.bare = item'.bare from hitem]
      cases hoperand : item.isOperand with
      | false =>
        refine .of_fails (fails_takeOperand fun first rest heq => ?_)
        obtain ⟨rfl, -⟩ := List.cons.inj heq
        exact hoperand
      | true =>
        rw [takeOperand_cons before hoperand, takeOperand_cons before' (hkind.trans hoperand)]
        exact .pure ⟨hitem, hbefore⟩

theorem readGreed (more : Bool) (s : ScanState) :
    Mirrors places Eq s (Regex.readGreed more) (Regex.readGreed more) := by
  unfold Regex.readGreed
  refine next?.bind ?_
  rintro next _ s₁ - rfl
  exact .ite Iff.rfl (fun _ => bump.discard.bind fun _ _ _ _ _ => .pure rfl) fun _ => .pure rfl

theorem closeCounted (start start' : Position) (counts : Counts) {item item' : Ast}
    {before before' : List Ast} (hitem : SameBare Ast.bare item item')
    (hbefore : SameBare (List.map Ast.bare) before before') (s : ScanState) :
    Mirrors places (SameBare (List.map Ast.bare)) s
      (Regex.closeCounted start item before counts)
      (Regex.closeCounted start' item' before' counts) := by
  unfold Regex.closeCounted
  refine next?.bind ?_
  rintro next _ s₁ - rfl
  refine .guard Iff.rfl ((Fails.after _ fun _ => fails_fail _ _).bind _) fun _ =>
    bumpWithBlanks.bind ?_
  rintro more _ s₂ - rfl
  refine (readGreed more s₂).bind ?_
  rintro greedy _ s₃ - rfl
  refine here.bind fun stop stop' s₄ _ _ => ?_
  refine .guard Iff.rfl ((fails_fail _ _).bind _) fun _ => .pure (.cons ?_ hbefore)
  show Ast.repetition _ _ _ _ _ = Ast.repetition _ _ _ _ _
  rw [show item.bare = item'.bare from hitem]

end Mirrors

namespace Advances

theorem readSymbol (counts : Counts) {items items' : List Ast}
    (h : SameBare (List.map Ast.bare) items items') (s : ScanState) :
    Advances places (SameBare (List.map Ast.bare)) s (Regex.readSymbol counts items)
      (Regex.readSymbol counts items') := by
  unfold Regex.readSymbol
  refine .after (.takeOperand h s) ?_
  rintro ⟨item, before⟩ ⟨item', before'⟩ s₁ - ⟨hitem, hbefore⟩
  refine Advances.bump.bind ?_
  rintro more _ s₂ - rfl
  refine (Mirrors.readGreed more s₂).bind ?_
  rintro greedy _ s₃ - rfl
  refine Mirrors.here.bind fun _ _ s₄ _ _ => .pure (.cons ?_ hbefore)
  show Ast.repetition _ _ _ _ _ = Ast.repetition _ _ _ _ _
  rw [show item.bare = item'.bare from hitem]

theorem readCounted {items items' : List Ast}
    (h : SameBare (List.map Ast.bare) items items') (s : ScanState) :
    Advances places (SameBare (List.map Ast.bare)) s (Regex.readCounted items)
      (Regex.readCounted items') := by
  unfold Regex.readCounted
  refine .after .here fun start start' s₁ _ _ => .after (.takeOperand h s₁) ?_
  rintro ⟨item, before⟩ ⟨item', before'⟩ s₂ - ⟨hitem, hbefore⟩
  refine Advances.bumpWithBlanks.bind ?_
  rintro more _ s₃ - rfl
  -- wherever the text ends, it is the same fault
  have hunclosed : ∀ {α β : Type} (p : Position) (k : α → Scan β),
      Fails ((Scan.here >>= fun stop => Scan.fail .repetitionCountUnclosed ⟨p, stop⟩) >>= k) :=
    fun p k => (Fails.after _ fun _ => fails_fail _ _).bind k
  refine .guard Iff.rfl (hunclosed _ _) fun _ =>
    (Mirrors.readDecimal s₃).bind fun lower lower' s₄ _ hlower => Mirrors.atEnd.bind ?_
  rintro ended _ s₅ - rfl
  refine .guard Iff.rfl (hunclosed _ _) fun _ => Mirrors.next?.bind ?_
  rintro next _ s₆ - rfl
  -- the three forms of counts come together at the closing brace
  have hclose : ∀ counts s, Mirrors places (SameBare (List.map Ast.bare)) s
      (closeCounted start item before counts) (closeCounted start' item' before' counts) :=
    fun counts s => .closeCounted start start' counts hitem hbefore s
  refine .ite Iff.rfl (fun _ => ?_) fun _ => ?_
  · refine Mirrors.bumpWithBlanks.bind ?_
    rintro more _ s₇ - rfl
    refine .guard Iff.rfl (hunclosed _ _) fun _ => Mirrors.next?.bind ?_
    rintro next _ s₈ - rfl
    refine .ite Iff.rfl (fun _ => ?_) fun _ => ?_
    · refine (Mirrors.liftNumber hlower s₈).bind ?_
      rintro min _ s₉ - rfl
      exact hclose ⟨min, none⟩ s₉
    · refine (Mirrors.liftNumber hlower s₈).bind ?_
      rintro min _ s₉ - rfl
      refine (Mirrors.readDecimal s₉).bind fun upper upper' s₁₀ _ hupper =>
        (Mirrors.liftNumber hupper s₁₀).bind ?_
      rintro max _ s₁₁ - rfl
      exact hclose ⟨min, some max⟩ s₁₁
  · refine (Mirrors.liftNumber hlower s₆).bind ?_
    rintro exact _ s₇ - rfl
    exact hclose ⟨exact, some exact⟩ s₇

end Advances

/-! ## Groups -/

theorem readNameChars_bound (s : ScanState) (n m : Nat) (isFirst : Bool)
    (hn : s.rest.length ≤ n) (hm : s.rest.length ≤ m) :
    SameRun s (readNameChars n isFirst) (readNameChars m isFirst) := by
  refine loop_bound (fun n isFirst => readNameChars n isFirst) ?_ ?_ s n m isFirst hn hm
  · intro s n isFirst hrest
    exact (bind_eq (next?_eq s)).trans (by rw [hrest]; rfl)
  · intro s n m isFirst hne hloop
    refine .next? ?_
    split
    · exact .refl _
    · exact .refl _
    · refine .guard fun _ => .bind_right fun _ s₁ hbump => .bind_left ?_ _
      exact hloop false s₁ (shrinks_bump.discard s _ s₁ hbump hne)

theorem Mirrors.readNameChars (n : Nat) (isFirst : Bool) (s : ScanState) :
    Mirrors places Eq s (Regex.readNameChars n isFirst) (Regex.readNameChars n isFirst) := by
  induction n generalizing isFirst s with
  | zero => exact .pure rfl
  | succ n ih =>
    rw [Regex.readNameChars]
    refine Mirrors.next?.bind ?_
    rintro next _ s₁ - rfl
    split
    · exact .pure rfl
    · exact .pure rfl
    · refine .guard Iff.rfl fails_at fun _ => Mirrors.bump.discard.bind fun _ _ s₂ _ _ =>
        (ih false s₂).bind ?_
      rintro name _ s₃ - rfl
      exact .pure rfl

/-- Takes a name unless it was given to an earlier group. -/
def takeName (name : String) (span : Span) : Scan String := do
  let s ← get
  match s.names.find? (·.1 == name) with
  | some (_, earlier) => throw ⟨.groupNameDuplicate, span, some earlier⟩
  | none =>
    set { s with names := (name, span) :: s.names }
    return name

theorem takeName_eq_ok_iff {name : String} {span : Span} {s s' : ScanState} {x : String} :
    takeName name span s = .ok (x, s') ↔ (s.names.map Prod.fst).any (· == name) = false ∧
      x = name ∧ s' = { s with names := (name, span) :: s.names } := by
  have hgiven : (s.names.map Prod.fst).any (· == name) =
      (s.names.find? (·.1 == name)).isSome := by
    rw [Bool.eq_iff_iff, List.find?_isSome, List.any_eq_true]
    simp
  unfold takeName
  rw [bind_eq (get_eq s), hgiven]
  cases s.names.find? (·.1 == name) with
  | some earlier => exact ⟨fun h => absurd h (fails_throw _ s x s'), fun h => by cases h.1⟩
  | none =>
    constructor
    · intro h
      cases h
      exact ⟨rfl, rfl, rfl⟩
    · rintro ⟨-, rfl, rfl⟩
      rfl

theorem Mirrors.takeName (name : String) (span span' : Span) (s : ScanState) :
    Mirrors places Eq s (Regex.takeName name span) (Regex.takeName name span') := by
  intro x s' hrun
  obtain ⟨hnew, rfl, rfl⟩ := takeName_eq_ok_iff.mp hrun
  refine ⟨[], rfl, rfl, fun t rest htrest _ halike => ?_⟩
  rw [← halike.names] at hnew
  refine ⟨x, _, takeName_eq_ok_iff.mpr ⟨hnew, rfl, rfl⟩, htrest,
    ⟨halike.verbose, halike.captures, ?_⟩, rfl⟩
  exact congrArg (x :: ·) halike.names

theorem Mirrors.readGroupName (s : ScanState) :
    Mirrors places Eq s Regex.readGroupName Regex.readGroupName := by
  unfold Regex.readGroupName
  refine Mirrors.here.bind fun start start' s₁ _ _ => .bound (fun n => ?_) fun t n m _ hn hm =>
    .bind_left (readNameChars_bound t n m true hn hm) _
  refine (Mirrors.readNameChars n true s₁).bind ?_
  rintro name _ s₂ - rfl
  refine Mirrors.here.bind fun stop stop' s₃ _ _ => Mirrors.atEnd.bind ?_
  rintro ended _ s₄ - rfl
  refine .guard Iff.rfl fails_at fun _ => Mirrors.bump.discard.bind fun _ _ s₅ _ _ => ?_
  refine .guard Iff.rfl ((fails_fail _ _).bind _) fun _ => ?_
  exact .takeName (String.ofList name) ⟨start, stop⟩ ⟨start', stop'⟩ s₅

theorem SameBare.isNone_find? {items items' : List FlagItem}
    (h : SameBare (List.map FlagItem.bare) items items') {p : FlagItem → Bool}
    (hp : ∀ item, p item.bare = p item) (hnone : items.find? p = none) :
    items'.find? p = none := by
  have hany : ∀ items : List FlagItem, (items.map FlagItem.bare).any p = items.any p := by
    intro items
    rw [List.any_map]
    exact congrArg (List.any items) (funext hp)
  rw [List.find?_eq_none] at hnone ⊢
  rw [← List.any_eq_false, ← hany, ← show items.map _ = _ from h, hany, List.any_eq_false]
  exact hnone

theorem readFlags_bound (s : ScanState) (n m : Nat) (items : List FlagItem)
    (hne : s.rest ≠ []) (hn : s.rest.length ≤ n) (hm : s.rest.length ≤ m) :
    SameRun s (readFlags n items) (readFlags m items) := by
  induction n generalizing s m items with
  | zero => exact absurd (List.eq_nil_of_length_eq_zero (Nat.le_zero.mp hn)) hne
  | succ n ih =>
    have hpos := List.length_pos_iff.mpr hne
    obtain ⟨m, rfl⟩ : ∃ m', m = m' + 1 := ⟨m - 1, by omega⟩
    -- a further round is entered only where a character is left for it
    have hround : ∀ (item : FlagItem) (kind : FaultKind) (span : Position → Span),
        SameRun s
          (bump >>= fun more => if (!more) = true
            then here >>= fun p => fail kind (span p) >>= fun (_ : Unit) =>
              readFlags n (item :: items)
            else readFlags n (item :: items))
          (bump >>= fun more => if (!more) = true
            then here >>= fun p => fail kind (span p) >>= fun (_ : Unit) =>
              readFlags m (item :: items)
            else readFlags m (item :: items)) := by
      intro item kind span
      refine .bind_right fun more s₁ hbump => .guard fun hmore => ?_
      obtain ⟨c, rest, hrest⟩ := List.exists_cons_of_ne_nil hne
      rw [bump_cons hrest] at hbump
      cases hbump
      rw [hrest, List.length_cons] at hn hm
      exact ih _ m _ (by simpa using hmore) (Nat.le_of_succ_le_succ hn)
        (Nat.le_of_succ_le_succ hm)
    unfold readFlags
    refine .next? ?_
    split
    · exact .refl _
    · exact .refl _
    · refine .bind_right fun span s₁ hspan => ?_
      obtain ⟨-, rfl⟩ := spanOfNext_eq_ok hspan
      dsimp only
      split
      · exact .of_fails (fails_throw _)
      · exact hround _ _ _
    · refine .bind_right fun span s₁ hspan => ?_
      obtain ⟨-, rfl⟩ := spanOfNext_eq_ok hspan
      split
      · exact .refl _
      · dsimp only
        split
        · exact .of_fails (fails_throw _)
        · exact hround _ _ _
    · exact .refl _

theorem SameBare.reverse {α : Type} {bare : α → α} {xs ys : List α}
    (h : SameBare (List.map bare) xs ys) :
    SameBare (List.map bare) xs.reverse ys.reverse := by
  have hreverse := congrArg List.reverse h
  rwa [← List.map_reverse, ← List.map_reverse] at hreverse

/-- The end of a list of flags, of which the last one comes first. -/
def closeFlags (items : List FlagItem) : Scan (List FlagItem) :=
  match items with
  | .negation span :: _ => fail .flagDanglingNegation span
  | _ => return items.reverse

theorem Mirrors.closeFlags {items items' : List FlagItem}
    (h : SameBare (List.map FlagItem.bare) items items') (s : ScanState) :
    Mirrors places (SameBare (List.map FlagItem.bare)) s (Regex.closeFlags items)
      (Regex.closeFlags items') := by
  match items, items' with
  | [], [] => exact .pure h
  | .negation _ :: _, _ => exact .fail
  | .flag _ _ :: _, .flag _ _ :: _ => exact .pure h.reverse
  | .flag _ _ :: _, .negation _ :: _ => cases h.of_cons.1
  | [], _ :: _ => cases h
  | .flag _ _ :: _, [] => cases h

theorem Mirrors.readFlags (n : Nat) {items items' : List FlagItem}
    (h : SameBare (List.map FlagItem.bare) items items') (s : ScanState) :
    Mirrors places (SameBare (List.map FlagItem.bare)) s (Regex.readFlags n items)
      (Regex.readFlags n items') := by
  induction n generalizing items items' s with
  | zero => exact .pure h.reverse
  | succ n ih =>
    unfold Regex.readFlags
    refine Mirrors.next?.bind ?_
    rintro next _ s₁ - rfl
    split
    · exact .closeFlags h s₁
    · exact .closeFlags h s₁
    · refine Mirrors.spanOfNext.bind fun span span' s₂ _ _ => ?_
      dsimp only
      split
      · exact .of_fails ((fails_throw _).bind _)
      · next hnone =>
        -- a flag given before is found among the same flags
        rw [h.isNone_find? (by rintro (_ | _) <;> rfl) hnone]
        refine Mirrors.bump.bind ?_
        rintro more _ s₃ - rfl
        refine .guard Iff.rfl fails_at fun _ => ih ?_ s₃
        exact .cons rfl h
    · refine Mirrors.spanOfNext.bind fun span span' s₂ _ _ => ?_
      split
      · exact .fail
      · dsimp only
        split
        · exact .of_fails ((fails_throw _).bind _)
        · next hnone =>
          rw [h.isNone_find? (by rintro (_ | _) <;> rfl) hnone]
          refine Mirrors.bump.bind ?_
          rintro more _ s₃ - rfl
          refine .guard Iff.rfl fails_at fun _ => ih ?_ s₃
          exact .cons rfl h
    · exact Mirrors.here.bind fun _ _ _ _ _ => .fail

theorem Mirrors.orM {f g : Scan Bool} {s : ScanState} (hf : Mirrors places Eq s f f)
    (hg : ∀ s, Mirrors places Eq s g g) : Mirrors places Eq s (f <||> g) (f <||> g) := by
  refine hf.bind ?_
  rintro found _ s₁ - rfl
  cases found with
  | true => exact .pure rfl
  | false => exact hg s₁

/-- What an opening parenthesis begins, without places. -/
def Opening.bare : Opening → Opening
  | group kind => group kind.bare
  | flags _ items => flags .blank (items.map FlagItem.bare)

/-- A group with a name, behind what opens it. -/
def readNamed : Scan Opening := do
  let index ← nextCapture
  if ← atEnd then fail .groupNameUnexpectedEnd (.point (← here))
  return .group (.capture index (some (← readGroupName)))

theorem Mirrors.readNamed (s : ScanState) :
    Mirrors places (SameBare Opening.bare) s Regex.readNamed Regex.readNamed := by
  unfold Regex.readNamed
  refine Mirrors.nextCapture.bind ?_
  rintro index _ s₁ - rfl
  refine Mirrors.atEnd.bind ?_
  rintro ended _ s₂ - rfl
  refine .guard Iff.rfl fails_at fun _ => (Mirrors.readGroupName s₂).bind ?_
  rintro name _ s₃ - rfl
  exact .pure rfl

theorem Advances.readOpening (s : ScanState) :
    Advances places (SameBare Opening.bare) s Regex.readOpening Regex.readOpening := by
  unfold Regex.readOpening
  refine .after .spanOfNext fun paren paren' s₁ _ _ => Advances.bump.discard.bind
    fun _ _ s₂ _ _ => Mirrors.bumpBlanks.bind fun _ _ s₃ _ _ => ?_
  -- looking ahead or behind is refused on both
  have hlook : ∀ s, Mirrors places Eq s
      (bumpIf ['?', '='] <||> bumpIf ['?', '!'] <||> bumpIf ['?', '<', '=']
        <||> bumpIf ['?', '<', '!'])
      (bumpIf ['?', '='] <||> bumpIf ['?', '!'] <||> bumpIf ['?', '<', '=']
        <||> bumpIf ['?', '<', '!']) :=
    fun s => .orM (.bumpIf (by decide)) fun s => .orM (.bumpIf (by decide)) fun s =>
      .orM (.bumpIf (by decide)) fun s => .bumpIf (by decide)
  refine (hlook s₃).bind ?_
  rintro lookAround _ s₄ - rfl
  refine .guard Iff.rfl fails_at fun _ => Mirrors.here.bind fun inside inside' s₅ _ _ => ?_
  refine (Mirrors.orM (.bumpIf (by decide)) fun s => .bumpIf (by decide)).bind ?_
  rintro named _ s₆ - rfl
  refine .ite Iff.rfl (fun _ => .readNamed s₆) fun _ => ?_
  refine (Mirrors.bumpIf (by decide)).bind ?_
  rintro flagged _ s₇ - rfl
  refine .ite Iff.rfl (fun _ => ?_) fun _ => ?_
  · refine Mirrors.atEnd.bind ?_
    rintro ended _ s₈ hended rfl
    obtain ⟨rfl, rfl⟩ := Prod.mk.inj (Except.ok.inj hended)
    refine .guard Iff.rfl ((fails_fail _ _).bind _) fun hmore => ?_
    refine .bound (fun n => ?_) fun t n m hempty hn hm => .bind_left
      (readFlags_bound t n m [] (by rw [← hempty] at hmore; simpa using hmore) hn hm) _
    refine (Mirrors.readFlags n rfl _).bind fun items items' s₉ _ hitems =>
      Mirrors.next?.bind ?_
    rintro close _ s₁₀ - rfl
    refine Mirrors.bump.discard.bind fun _ _ s₁₁ _ _ => ?_
    refine .ite Iff.rfl (fun _ => ?_) fun _ => .pure ?_
    · refine .guard (by rw [hitems.isEmpty_eq]) ((fails_fail _ _).bind _) fun _ =>
        Mirrors.here.bind fun _ _ _ _ _ => .pure ?_
      exact congrArg (Opening.flags .blank) hitems
    · exact congrArg (Opening.group ∘ GroupKind.plain) hitems
  · refine Mirrors.nextCapture.bind ?_
    rintro index _ s₈ - rfl
    exact .pure rfl

end Regex

end StreamNames
