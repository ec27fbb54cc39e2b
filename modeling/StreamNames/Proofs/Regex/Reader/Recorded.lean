import StreamNames.Proofs.Regex.Reader.Levels

/-!
# What the reading records

A name is recorded when its group opens, and a name that is recorded already ends the
reading. No other step touches what is recorded.

- `KeepsNames`: steps that record no name, which are nearly all.
- `GivesNames`: steps that record what they yield.
- `GivesNames.takeName`: a name is only taken if it was not given before.
- `GivesNames.readPart`: a round records the names of the groups that it opens.
-/

namespace StreamNames

namespace Regex

open Scan

/-! ## Steps that record no name -/

/-- A step that leaves the names that are recorded as they are. -/
def KeepsNames {α : Type} (names : List (String × Span)) (f : Scan α) : Prop :=
  ∀ s, s.names = names → Yields s f fun _ s' => s'.names = names

namespace KeepsNames

variable {α β : Type} {names : List (String × Span)}

theorem bind {f : Scan α} {g : α → Scan β} (h : KeepsNames names f)
    (h' : ∀ x, KeepsNames names (g x)) : KeepsNames names (f >>= g) :=
  fun s hs => .bind fun x s₁ hf => h' x s₁ (h s hs x s₁ hf)

theorem pure (x : α) : KeepsNames names (Pure.pure x) := fun _ hs => .pure hs

theorem of_fails {f : Scan α} (h : Fails f) : KeepsNames names f := fun _ _ => .of_fails h

theorem fail (kind : FaultKind) (span : Span) :
    KeepsNames names (Scan.fail kind span : Scan α) :=
  of_fails (fails_fail kind span)

theorem ite {c : Prop} [Decidable c] {f g : Scan α} (h : KeepsNames names f)
    (h' : KeepsNames names g) : KeepsNames names (if c then f else g) :=
  fun s hs => .ite (fun _ => h s hs) fun _ => h' s hs

/-- A test that ends the reading if it holds. -/
theorem guard {c : Prop} [Decidable c] {f g : Scan α} (hfails : Fails f)
    (h : KeepsNames names g) : KeepsNames names (if c then f else g) :=
  ite (of_fails hfails) h

/-! ### Looks -/

/-- A step that looks at the state and passes nothing. -/
theorem peek (view : ScanState → α) {f : Scan α} (hview : ∀ s, f s = .ok (view s, s)) :
    KeepsNames names f := by
  intro s hs x s' hrun
  obtain ⟨-, rfl⟩ := Prod.mk.inj (Except.ok.inj (hrun.symm.trans (hview s)))
  exact hs

theorem here : KeepsNames names Scan.here := peek _ here_eq

theorem next? : KeepsNames names Scan.next? := peek _ next?_eq

theorem second? : KeepsNames names Scan.second? := peek (·.rest.tail.head?) fun _ => rfl

theorem atEnd : KeepsNames names Scan.atEnd := peek (·.rest.isEmpty) fun _ => rfl

theorem remaining : KeepsNames names Scan.remaining := peek _ remaining_eq

theorem spanOfNext : KeepsNames names Scan.spanOfNext := by
  intro s hs span s' hrun
  obtain ⟨-, rfl⟩ := spanOfNext_eq_ok hrun
  exact hs

theorem secondSignificant? : KeepsNames names Scan.secondSignificant? := by
  intro s hs x s' hrun
  unfold Scan.secondSignificant? at hrun
  rw [bind_eq (get_eq s)] at hrun
  split at hrun <;> cases hrun <;> exact hs

/-- The state, whose names are those that are recorded. -/
theorem get {g : ScanState → Scan α} (h : ∀ t, t.names = names → KeepsNames names (g t)) :
    KeepsNames names (MonadState.get >>= g) := by
  refine fun s hs => .bind fun t s₁ hget => ?_
  cases hget
  exact h s hs s hs

/-- Another state with the names that are recorded. -/
theorem set {t : ScanState} (h : t.names = names) :
    KeepsNames names (MonadStateOf.set t : Scan PUnit) := by
  intro s hs x s' hrun
  cases hrun
  exact h

/-! ### Single steps -/

theorem discard {f : Scan α} (h : KeepsNames names f) : KeepsNames names (discard f) := by
  rw [discard_eq_bind]
  exact h.bind fun _ => .pure ()

theorem bump : KeepsNames names Scan.bump := by
  intro s hs more s' hrun
  obtain ⟨rest, place, verbose, captures, recorded⟩ := s
  cases rest <;> cases hrun <;> exact hs

theorem bumpBlanks : KeepsNames names Scan.bumpBlanks := by
  intro s hs x s' hrun
  obtain ⟨rest, place, verbose, captures, recorded⟩ := s
  cases verbose <;> cases hrun <;> exact hs

theorem bumpWithBlanks : KeepsNames names Scan.bumpWithBlanks :=
  bump.bind fun _ => .ite (bumpBlanks.bind fun _ => atEnd.bind fun _ => .pure _) (.pure _)

theorem bumpIf (text : List Char) : KeepsNames names (Scan.bumpIf text) := by
  intro s hs x s' hrun
  by_cases htext : text.isPrefixOf s.rest
  · obtain ⟨rest, hrest⟩ := List.isPrefixOf_iff_prefix.mp htext
    rw [bumpIf_append hrest.symm] at hrun
    cases hrun
    exact hs
  · rw [bumpIf_of_not htext] at hrun
    cases hrun
    exact hs

theorem collect (p : Char → Bool) {step : Scan Bool} (h : KeepsNames names step) (n : Nat) :
    KeepsNames names (Scan.collect p step n) := by
  induction n with
  | zero => exact .pure []
  | succ n ih =>
    unfold Scan.collect
    refine next?.bind fun next => ?_
    cases next with
    | none => exact .pure []
    | some c => exact .ite (h.discard.bind fun _ => ih.bind fun _ => .pure _) (.pure [])

theorem collectWhile (p : Char → Bool) {step : Scan Bool} (h : KeepsNames names step) :
    KeepsNames names (Scan.collectWhile p step) :=
  remaining.bind fun n => collect p h n

/-! ### Escapes -/

theorem readHexDigits (n : Nat) : KeepsNames names (Regex.readHexDigits n) := by
  induction n with
  | zero => exact .pure []
  | succ n ih =>
    unfold Regex.readHexDigits
    refine next?.bind fun next => ?_
    cases next with
    | none => exact here.bind fun _ => .fail _ _
    | some c =>
      exact .guard fails_at (bumpWithBlanks.discard.bind fun _ => ih.bind fun _ => .pure _)

theorem readBracedHex (n : Nat) : KeepsNames names (Regex.readBracedHex n) := by
  induction n with
  | zero => exact .pure []
  | succ n ih =>
    unfold Regex.readBracedHex
    refine next?.bind fun next => ?_
    split
    · exact .pure []
    · exact .pure []
    · exact .guard fails_at (bumpWithBlanks.discard.bind fun _ => ih.bind fun _ => .pure _)

theorem readHex (start : Position) (digits : Nat) :
    KeepsNames names (Regex.readHex start digits) := by
  unfold Regex.readHex
  refine bumpWithBlanks.bind fun more => .guard fails_at (next?.bind fun next => .ite ?_ ?_)
  · refine here.bind fun brace => bump.discard.bind fun _ => here.bind fun inside =>
      bumpBlanks.bind fun _ => remaining.bind fun n => (readBracedHex n).bind fun spelled =>
      atEnd.bind fun ended => .guard fails_at <| here.bind fun stop =>
      bumpWithBlanks.discard.bind fun _ => .guard fails_at ?_
    cases charOfHex? spelled with
    | none => exact .fail _ _
    | some c => exact here.bind fun _ => .pure _
  · refine here.bind fun first => (readHexDigits digits).bind fun spelled => ?_
    cases charOfHex? spelled with
    | none => exact here.bind fun _ => .fail _ _
    | some c => exact here.bind fun _ => .pure _

theorem readProperty (start : Position) (negated : Bool) :
    KeepsNames names (Regex.readProperty start negated) := by
  unfold Regex.readProperty
  refine bumpWithBlanks.bind fun more => .guard fails_at (next?.bind fun next => ?_)
  split
  · exact bumpWithBlanks.discard.bind fun _ => (collectWhile _ bumpWithBlanks).bind fun _ =>
      atEnd.bind fun _ => .guard fails_at (bump.discard.bind fun _ => here.bind fun _ => .pure _)
  · exact spanOfNext.bind fun _ => .fail _ _
  · exact bumpWithBlanks.discard.bind fun _ => here.bind fun _ => .pure _
  · exact here.bind fun _ => .fail _ _

theorem readWordBoundary (start : Position) :
    KeepsNames names (Regex.readWordBoundary start) := by
  unfold Regex.readWordBoundary
  refine here.bind fun stop => next?.bind fun next => .ite (.pure _) ?_
  refine .get fun before hbefore => here.bind fun brace => bumpWithBlanks.bind fun more =>
    .guard fails_at <| here.bind fun inside => next?.bind fun next => .ite ?_ ?_
  · -- the state that is taken back has the same names
    exact (set hbefore).bind fun _ => .pure _
  · refine (collectWhile _ bumpWithBlanks).bind fun word => next?.bind fun _ =>
      .guard fails_at <| here.bind fun stop => bump.discard.bind fun _ => ?_
    cases Assertion.ofWord? word with
    | none => exact .fail _ _
    | some kind => exact here.bind fun _ => .pure _

theorem readEscape : KeepsNames names Regex.readEscape := by
  unfold Regex.readEscape
  refine here.bind fun start => bump.bind fun more => .guard fails_at (next?.bind fun next => ?_)
  cases next with
  | none => exact here.bind fun _ => .fail _ _
  | some c =>
    have hhex : ∀ digits, KeepsNames names
        (Regex.readHex start digits >>= fun l => Pure.pure (Primitive.literal l)) :=
      fun digits => (readHex start digits).bind fun l => .pure _
    refine .guard (.after _ fun _ => fails_fail _ _) <| .ite (hhex 2) <| .ite (hhex 4) <|
      .ite (hhex 8) <| .ite (readProperty _ _) <| .ite (readProperty _ _) <|
      bump.discard.bind fun _ => here.bind fun stop => .ite (.pure _) ?_
    split
    any_goals exact .pure _
    · exact readWordBoundary _
    · exact .fail _ _

/-! ### Brackets -/

theorem readClassPrimitive : KeepsNames names Regex.readClassPrimitive := by
  unfold Regex.readClassPrimitive
  refine next?.bind fun next => .ite readEscape ?_
  exact spanOfNext.bind fun _ => next?.bind fun _ => bump.discard.bind fun _ => .pure _

theorem toItem (x : Primitive) : KeepsNames names x.toItem := by
  cases x with
  | literal | property | perl => exact .pure _
  | assertion | dot => exact .fail _ _

theorem toBound (x : Primitive) : KeepsNames names x.toBound := by
  cases x with
  | literal => exact .pure _
  | assertion | dot | property | perl => exact .fail _ _

theorem readClassRange (frames : List ClassFrame) :
    KeepsNames names (Regex.readClassRange frames) := by
  unfold Regex.readClassRange
  refine readClassPrimitive.bind fun first => bumpBlanks.bind fun _ => atEnd.bind fun ended =>
    .guard ((fails_failUnclosed frames).bind _) <| secondSignificant?.bind fun after =>
    next?.bind fun next => .ite (toItem first) <| bumpWithBlanks.bind fun more =>
    .guard ((fails_failUnclosed frames).bind _) <| readClassPrimitive.bind fun last =>
    (toBound first).bind fun lo => (toBound last).bind fun hi => ?_
  exact .guard ((fails_fail _ _).bind _) (.pure _)

theorem readAsciiClass? : KeepsNames names Regex.readAsciiClass? := by
  unfold Regex.readAsciiClass?
  refine .get fun before hbefore => ?_
  -- the state that is taken back has the same names
  have hgiveUp : KeepsNames names
      (do MonadStateOf.set before; Pure.pure none : Scan (Option ClassItem)) :=
    (set hbefore).bind fun _ => .pure _
  refine here.bind fun start => bump.discard.bind fun _ => next?.bind fun next =>
    .ite hgiveUp <| bump.bind fun more => .ite hgiveUp <| next?.bind fun caret =>
    .ite (bump.bind fun more => .ite hgiveUp ?negated) ?plain
  all_goals
    refine (collectWhile _ bump).bind fun name => (bumpIf _).bind fun closed => .ite hgiveUp ?_
    cases AsciiClass.ofName? (String.ofList name) with
    | none => exact hgiveUp
    | some kind => exact here.bind fun _ => .pure _

theorem readLeadingHyphens (start : Position) (n : Nat) (items : List ClassItem) :
    KeepsNames names (Regex.readLeadingHyphens start n items) := by
  induction n generalizing items with
  | zero => exact .pure items
  | succ n ih =>
    unfold Regex.readLeadingHyphens
    refine next?.bind fun next => .ite (spanOfNext.bind fun span => ?_) (.pure _)
    exact bumpWithBlanks.bind fun more => .guard ((fails_fail _ _).bind _) (ih _)

theorem readClassOpening : KeepsNames names Regex.readClassOpening := by
  unfold Regex.readClassOpening
  refine here.bind fun start => bumpWithBlanks.bind fun more => .guard fails_at <|
    next?.bind fun caret => .ite (bumpWithBlanks.bind fun more => .guard fails_at ?negated) ?plain
  all_goals
    refine here.bind fun inside => remaining.bind fun n =>
      (readLeadingHyphens _ n _).bind fun items => next?.bind fun next => .ite ?_ ?_
    · exact spanOfNext.bind fun _ => bumpWithBlanks.bind fun _ => .guard fails_at <|
        (KeepsNames.pure _).bind fun _ => here.bind fun _ => .pure _
    · exact (KeepsNames.pure _).bind fun _ => here.bind fun _ => .pure _

theorem nextOperation? : KeepsNames names Regex.nextOperation? := by
  unfold Regex.nextOperation?
  exact next?.bind fun _ => second?.bind fun _ => .ite (.pure _) (.pure _)

theorem readClassBody (n : Nat) (frames : List ClassFrame) (start : Position)
    (items : List ClassItem) : KeepsNames names (Regex.readClassBody n frames start items) := by
  -- no branch of a round takes a name, so each is a chain of steps that keep them
  induction n generalizing frames start items with
  | zero => exact .of_fails (fails_failUnclosed frames)
  | succ n ih =>
    unfold Regex.readClassBody
    refine bumpBlanks.bind fun _ => next?.bind fun next => ?_
    split
    · exact .of_fails (fails_failUnclosed frames)
    · refine readAsciiClass?.bind fun found => ?_
      cases found with
      | some item => exact ih _ _ _
      | none => exact readClassOpening.bind fun ⟨opening, negated, inside, nested⟩ => ih _ _ _
    · split
      split
      · exact bump.discard.bind fun _ => here.bind fun _ => .ite (.pure _) (ih _ _ _)
      · exact .of_fails (fails_failUnclosed _)
    · refine nextOperation?.bind fun operation => ?_
      cases operation with
      | none => exact (readClassRange frames).bind fun _ => ih _ _ _
      | some kind =>
        exact bump.discard.bind fun _ => bump.discard.bind fun _ => here.bind fun _ => ih _ _ _

theorem readBracketed : KeepsNames names Regex.readBracketed :=
  remaining.bind fun _ => here.bind fun _ =>
    readClassOpening.bind fun ⟨_, _, _, _⟩ => readClassBody _ _ _ _

/-! ### Repetitions -/

theorem readDecimal : KeepsNames names Regex.readDecimal := by
  unfold Regex.readDecimal
  exact (collectWhile _ bump).discard.bind fun _ => here.bind fun _ =>
    (collectWhile _ bumpWithBlanks).bind fun _ => here.bind fun _ =>
    (collectWhile _ bumpWithBlanks).discard.bind fun _ => .ite (.pure _) (.ite (.pure _) (.pure _))

theorem takeOperand (items : List Ast) : KeepsNames names (Regex.takeOperand items) := by
  unfold Regex.takeOperand
  split
  any_goals exact here.bind fun _ => .fail _ _
  exact .pure _

theorem readGreed (more : Bool) : KeepsNames names (Regex.readGreed more) := by
  unfold Regex.readGreed
  exact next?.bind fun _ => .ite (bump.discard.bind fun _ => .pure _) (.pure _)

theorem liftM (x : Except Fault α) : KeepsNames names (liftM x : Scan α) := by
  cases x with
  | error f => exact .of_fails (fails_throw f)
  | ok x => exact .pure x

theorem readSymbol (counts : Counts) (items : List Ast) :
    KeepsNames names (Regex.readSymbol counts items) := by
  unfold Regex.readSymbol
  exact (takeOperand items).bind fun ⟨item, before⟩ => bump.bind fun more =>
    (readGreed more).bind fun _ => here.bind fun _ => .pure _

theorem closeCounted (start : Position) (item : Ast) (before : List Ast) (counts : Counts) :
    KeepsNames names (Regex.closeCounted start item before counts) := by
  unfold Regex.closeCounted
  refine next?.bind fun next => .guard ((Fails.after _ fun _ => fails_fail _ _).bind _) <|
    bumpWithBlanks.bind fun more => (readGreed more).bind fun greedy => here.bind fun stop => ?_
  exact .guard ((fails_fail _ _).bind _) (.pure _)

theorem readCounted (items : List Ast) : KeepsNames names (Regex.readCounted items) := by
  unfold Regex.readCounted
  refine here.bind fun start => (takeOperand items).bind fun ⟨item, before⟩ => ?_
  have hunclosed : ∀ {α β : Type} (k : α → Scan β),
      Fails ((Scan.here >>= fun stop => Scan.fail .repetitionCountUnclosed ⟨start, stop⟩) >>= k) :=
    fun k => (Fails.after _ fun _ => fails_fail _ _).bind k
  have hclose := @closeCounted names start item before
  refine bumpWithBlanks.bind fun more => .guard (hunclosed _) <| readDecimal.bind fun lower =>
    atEnd.bind fun ended => .guard (hunclosed _) <| next?.bind fun comma => .ite ?comma ?single
  case comma =>
    refine bumpWithBlanks.bind fun more => .guard (hunclosed _) <| next?.bind fun next => .ite ?_ ?_
    · exact (liftM lower).bind fun min => hclose ⟨min, none⟩
    · exact (liftM lower).bind fun min => readDecimal.bind fun upper =>
        (liftM upper).bind fun max => hclose ⟨min, some max⟩
  case single => exact (liftM lower).bind fun exact => hclose ⟨exact, some exact⟩

/-! ### Groups -/

theorem setVerbose (verbose : Bool) : KeepsNames names (Regex.setVerbose verbose) := by
  intro s hs x s' hrun
  cases hrun
  exact hs

theorem nextCapture : KeepsNames names Regex.nextCapture := by
  intro s hs index s' hrun
  cases hrun
  exact hs

theorem readNameChars (n : Nat) (isFirst : Bool) :
    KeepsNames names (Regex.readNameChars n isFirst) := by
  induction n generalizing isFirst with
  | zero => exact .pure []
  | succ n ih =>
    unfold Regex.readNameChars
    refine next?.bind fun next => ?_
    split
    · exact .pure []
    · exact .pure []
    · exact .guard fails_at (bump.discard.bind fun _ => (ih false).bind fun _ => .pure _)

theorem readFlags (n : Nat) (items : List FlagItem) :
    KeepsNames names (Regex.readFlags n items) := by
  induction n generalizing items with
  | zero => exact .pure _
  | succ n ih =>
    unfold Regex.readFlags
    refine next?.bind fun next => ?_
    have hclose : KeepsNames names (Regex.closeFlags items) := by
      unfold Regex.closeFlags
      split
      · exact .fail _ _
      · exact .pure _
    split
    · exact hclose
    · exact hclose
    · refine spanOfNext.bind fun span => ?_
      dsimp only
      split
      · exact .of_fails ((fails_throw _).bind _)
      · exact bump.bind fun more => .guard fails_at (ih _)
    · refine spanOfNext.bind fun span => ?_
      split
      · exact .fail _ _
      · dsimp only
        split
        · exact .of_fails ((fails_throw _).bind _)
        · exact bump.bind fun more => .guard fails_at (ih _)
    · exact here.bind fun _ => .fail _ _

theorem orM {f g : Scan Bool} (hf : KeepsNames names f) (hg : KeepsNames names g) :
    KeepsNames names (f <||> g) := by
  refine hf.bind fun found => ?_
  cases found with
  | true => exact .pure true
  | false => exact hg

end KeepsNames

/-! ## Steps that give names -/

/-- Some names are recorded besides those that were, and none of them was before. -/
structure Given (names : List (String × Span)) (given : List String)
    (names' : List (String × Span)) : Prop where
  recorded : names'.map Prod.fst = given ++ names.map Prod.fst
  nodup : (names.map Prod.fst).Nodup → (names'.map Prod.fst).Nodup

theorem Given.refl (names : List (String × Span)) : Given names [] names := ⟨rfl, id⟩

/-- A step that records the names which what it yields gives, and no others. -/
def GivesNames {α : Type} (names : List (String × Span)) (given : α → List String) (f : Scan α) :
    Prop :=
  ∀ s, s.names = names → Yields s f fun x s' => Given names (given x) s'.names

namespace GivesNames

variable {α β : Type} {names : List (String × Span)} {given : α → List String}

theorem of_fails {f : Scan α} (h : Fails f) : GivesNames names given f := fun _ _ => .of_fails h

theorem pure {x : α} (h : given x = []) : GivesNames names given (Pure.pure x) := by
  refine fun s hs => .pure ?_
  rw [h, hs]
  exact .refl names

/-- Names are given after a step that gives none. -/
theorem after {f : Scan β} {g : β → Scan α} (h : KeepsNames names f)
    (h' : ∀ x, GivesNames names given (g x)) : GivesNames names given (f >>= g) :=
  fun s hs => .bind fun x s₁ hf => h' x s₁ (h s hs x s₁ hf)

/-- No name is given after a step that gives some. -/
theorem bind {given' : β → List String} {f : Scan α} {g : α → Scan β}
    (h : GivesNames names given f) (h' : ∀ x names, KeepsNames names (g x))
    (hgiven : ∀ x s, Yields s (g x) fun y _ => given' y = given x) :
    GivesNames names given' (f >>= g) := by
  refine fun s hs => .bind fun x s₁ hf y s' hg => ?_
  rw [hgiven x s₁ y s' hg, h' x s₁.names s₁ rfl y s' hg]
  exact h s hs x s₁ hf

theorem ite {c : Prop} [Decidable c] {f g : Scan α} (h : GivesNames names given f)
    (h' : GivesNames names given g) : GivesNames names given (if c then f else g) :=
  fun s hs => .ite (fun _ => h s hs) fun _ => h' s hs

/-- A test that ends the reading if it holds. -/
theorem guard {c : Prop} [Decidable c] {f g : Scan α} (hfails : Fails f)
    (h : GivesNames names given g) : GivesNames names given (if c then f else g) :=
  ite (of_fails hfails) h

end GivesNames

/-- The names that a group gives. -/
def GroupKind.names : GroupKind → List String
  | .capture _ name => name.toList
  | .plain _ => []

/-- The names that an opening parenthesis gives. -/
def Opening.names : Opening → List String
  | .group kind => kind.names
  | .flags _ _ => []

namespace GivesNames

variable {names : List (String × Span)}

/-- **A name is only taken if it was not given before.** -/
theorem takeName (name : String) (span : Span) :
    GivesNames names (fun name => [name]) (Regex.takeName name span) := by
  intro s hs x s' hrun
  -- a name that is recorded already would have ended the reading
  obtain ⟨hnew, rfl, rfl⟩ := takeName_eq_ok_iff.mp hrun
  rw [hs] at hnew ⊢
  refine ⟨rfl, fun hnodup => List.nodup_cons.mpr ⟨fun hmem => ?_, hnodup⟩⟩
  rw [List.any_eq_false] at hnew
  exact hnew x hmem (beq_self_eq_true x)

theorem readGroupName : GivesNames names (fun name => [name]) Regex.readGroupName := by
  unfold Regex.readGroupName
  refine .after .here fun start => .after .remaining fun n => .after (.readNameChars n true)
    fun name => .after .here fun stop => .after .atEnd fun ended => .guard fails_at <|
    .after (.discard .bump) fun _ => .guard ((fails_fail _ _).bind _) ?_
  exact takeName (String.ofList name) ⟨start, stop⟩

theorem readNamed : GivesNames names Opening.names Regex.readNamed := by
  unfold Regex.readNamed
  refine .after .nextCapture fun index => .after .atEnd fun ended => .guard fails_at ?_
  exact readGroupName.bind (fun name names => .pure _) fun name s => .pure rfl

/-- **An opening parenthesis gives the names of its group.** -/
theorem readOpening : GivesNames names Opening.names Regex.readOpening := by
  unfold Regex.readOpening
  refine .after .spanOfNext fun paren => .after (.discard .bump) fun _ => .after .bumpBlanks
    fun _ => .after (.orM (.bumpIf _) (.orM (.bumpIf _) (.orM (.bumpIf _) (.bumpIf _))))
    fun lookAround => .guard fails_at <| .after .here fun inside =>
    .after (.orM (.bumpIf _) (.bumpIf _)) fun named => .ite readNamed <|
    .after (.bumpIf _) fun flagged => .ite ?_ ?_
  · refine .after .atEnd fun ended => .guard ((fails_fail _ _).bind _) <| .after .remaining
      fun n => .after (.readFlags n []) fun items => .after .next? fun next =>
      .after (.discard .bump) fun _ => .ite ?_ (.pure rfl)
    exact .guard ((fails_fail _ _).bind _) (.after .here fun _ => .pure rfl)
  · exact .after .nextCapture fun index => .pure rfl

end GivesNames

/-- What follows an opening parenthesis gives no further names. -/
theorem KeepsNames.enter {names : List (String × Span)} (level : Level)
    (groups : List GroupFrame) (paren : Span) (verbose : Bool) (opening : Opening) :
    KeepsNames names (Regex.enter level groups paren verbose opening) := by
  cases opening with
  | flags span items => exact (setVerbose _).bind fun _ => .pure _
  | group kind => exact (setVerbose _).bind fun _ => here.bind fun _ => .pure _

/-- The names of the groups that were opened since so many were open. -/
def Round.entered (before : Nat) : Round → List String
  | done _ => []
  | more _ groups => (groups.take (groups.length - before)).flatMap (·.kind.names)

theorem Round.entered_more (level : Level) (groups : List GroupFrame) :
    (more level groups).entered groups.length = [] := by
  rw [entered, Nat.sub_self]
  rfl

theorem entered_of_enter (level : Level) (groups : List GroupFrame) (paren : Span)
    (verbose : Bool) (opening : Opening) (s : ScanState) :
    Yields s (enter level groups paren verbose opening) fun round _ =>
      round.entered groups.length = opening.names := by
  cases opening with
  | flags span items => exact .bind fun _ s₁ _ => .pure (Round.entered_more _ groups)
  | group kind =>
    refine .bind fun _ s₁ _ => .here (.pure ?_)
    simp [Round.entered, Opening.names]

/-- **A round records the names of the groups that it opens**, and no others. -/
theorem GivesNames.readPart (names : List (String × Span)) (level : Level)
    (groups : List GroupFrame) :
    GivesNames names (Round.entered groups.length) (Regex.readPart level groups) := by
  have hmore : ∀ level, GivesNames names (Round.entered groups.length)
      (Pure.pure (Round.more level groups)) :=
    fun level => .pure (Round.entered_more level groups)
  unfold Regex.readPart
  refine .after .next? fun next => ?_
  split
  · cases groups with
    | cons group groups => exact .of_fails (fails_fail _ _)
    | nil => exact .after .here fun _ => .pure rfl
  · -- an opening parenthesis is the only part that gives names, and opens the group they are of
    refine .after .spanOfNext fun paren => ?_
    refine fun s hs => .bind fun t s₁ hget => ?_
    cases hget
    exact (GivesNames.readOpening.bind (fun opening names => .enter level groups paren _ opening)
      fun opening s => entered_of_enter level groups paren _ opening s) s hs
  · cases groups with
    | nil => exact .of_fails (.after _ fun _ => fails_fail _ _)
    | cons group groups =>
      -- a group is closed, so fewer are open than before
      refine .after (.setVerbose _) fun _ => .after .here fun _ => .after (.discard .bump)
        fun _ => .after .here fun _ => .pure ?_
      simp [Round.entered]
  -- all other parts are read without opening a group
  · exact .after .here fun _ => .after (.discard .bump) fun _ => .after .here fun _ => hmore _
  · exact .after .readBracketed fun _ => hmore _
  · exact .after (.readSymbol _ _) fun _ => hmore _
  · exact .after (.readSymbol _ _) fun _ => hmore _
  · exact .after (.readSymbol _ _) fun _ => hmore _
  · exact .after (.readCounted _) fun _ => hmore _
  · exact .after .readEscape fun _ => hmore _
  · exact .after .spanOfNext fun _ => .after (.discard .bump) fun _ => hmore _

end Regex

end StreamNames
