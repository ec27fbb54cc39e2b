import StreamNames.Regex

/-!
# Runs of the reading

The reading of a pattern is a run of small steps. Each looks at the text that is left,
passes some of it or ends the reading.

- `bind_eq_ok_iff`: steps in a row.
- `ScanState.pass`: the state after some text is passed.
- `Fails`, `SameRun`: steps that end the reading, and steps that do the same.
- `Yields`: what a step yields, by rules that follow its text.
-/

namespace StreamNames

namespace Regex

open Scan
open StreamNames.Unicode (isWhitespace)

/-! ## Runs of steps -/

theorem bind_eq_ok_iff {α β : Type} {f : Scan α} {g : α → Scan β} {s s' : ScanState} {y : β} :
    (f >>= g) s = .ok (y, s') ↔ ∃ x s₁, f s = .ok (x, s₁) ∧ g x s₁ = .ok (y, s') := by
  show Except.bind (f s) _ = _ ↔ _
  cases hf : f s with
  | error e => simp [Except.bind]
  | ok found =>
    obtain ⟨x, s₁⟩ := found
    constructor
    · intro hg
      exact ⟨x, s₁, rfl, hg⟩
    · rintro ⟨x', s₁', heq, hg⟩
      cases heq
      exact hg

theorem bind_eq {α β : Type} {f : Scan α} {g : α → Scan β} {s s₁ : ScanState} {x : α}
    (h : f s = .ok (x, s₁)) : (f >>= g) s = g x s₁ := by
  show Except.bind (f s) _ = _
  rw [h]
  rfl

theorem discard_eq_bind {α : Type} (f : Scan α) : discard f = f >>= fun _ => pure () :=
  map_eq_pure_bind _ f

/-- The place after a stretch of text. -/
def Position.after (p : Position) (text : List Char) : Position := text.foldl Position.advance p

@[simp] theorem Position.index_advance (p : Position) (c : Char) :
    (p.advance c).index = p.index + 1 := by
  unfold Position.advance
  split <;> rfl

@[simp] theorem Position.index_after (p : Position) (text : List Char) :
    (p.after text).index = p.index + text.length := by
  induction text generalizing p with
  | nil => rfl
  | cons c text ih =>
    show ((p.advance c).after text).index = _
    rw [ih, index_advance, List.length_cons]
    omega

/-- The state after some text is passed. -/
def ScanState.pass (s : ScanState) (text rest : List Char) : ScanState :=
  { s with rest, place := s.place.after text }

@[simp] theorem ScanState.rest_pass (s : ScanState) (text rest : List Char) :
    (s.pass text rest).rest = rest := rfl

theorem ScanState.pass_pass (s : ScanState) (text text' rest rest' : List Char) :
    (s.pass text rest).pass text' rest' = s.pass (text ++ text') rest' := by
  simp [pass, Position.after]

theorem ScanState.pass_nil (s : ScanState) : s.pass [] s.rest = s := rfl

theorem get_eq (s : ScanState) : (get : Scan ScanState) s = .ok (s, s) := rfl

theorem here_eq (s : ScanState) : here s = .ok (s.place, s) := rfl

theorem remaining_eq (s : ScanState) : remaining s = .ok (s.rest.length, s) := rfl

theorem next?_eq (s : ScanState) : next? s = .ok (s.rest.head?, s) := rfl

theorem bump_nil {s : ScanState} (h : s.rest = []) : bump s = .ok (false, s) := by
  obtain ⟨rest, place, verbose, captures, names⟩ := s
  obtain rfl : rest = [] := h
  rfl

theorem bump_cons {s : ScanState} {c : Char} {rest : List Char} (h : s.rest = c :: rest) :
    bump s = .ok (!rest.isEmpty, s.pass [c] rest) := by
  obtain ⟨whole, place, verbose, captures, names⟩ := s
  obtain rfl : whole = c :: rest := h
  rfl

theorem bumpIf_append {s : ScanState} {start rest : List Char} (h : s.rest = start ++ rest) :
    bumpIf start s = .ok (true, s.pass start rest) := by
  -- the characters are passed one by one
  have hloop : ∀ (start : List Char) (s : ScanState), s.rest = start ++ rest →
      (start.forM fun _ => discard bump) s = .ok ((), s.pass start rest) := by
    intro start
    induction start with
    | nil =>
      rintro s rfl
      rfl
    | cons c start ih =>
      intro s hs
      have hbump : discard bump s = .ok ((), s.pass [c] (start ++ rest)) := by
        show (bump s).map _ = _
        rw [bump_cons hs]
        rfl
      show (discard bump >>= fun _ => start.forM fun _ => discard bump) s = _
      rw [bind_eq hbump]
      exact ih (s.pass [c] (start ++ rest)) rfl
  have hprefix : start.isPrefixOf s.rest := by
    rw [h]
    exact List.isPrefixOf_iff_prefix.mpr (List.prefix_append _ _)
  unfold bumpIf
  rw [bind_eq (get_eq s), if_pos hprefix, bind_eq (hloop start s h)]
  rfl

theorem bumpIf_of_not {s : ScanState} {start : List Char} (h : ¬start.isPrefixOf s.rest) :
    bumpIf start s = .ok (false, s.pass [] s.rest) := by
  unfold bumpIf
  rw [bind_eq (get_eq s), if_neg h]
  rfl

theorem exists_spanOfNext_eq (s : ScanState) :
    ∃ stop, spanOfNext s = .ok (⟨s.place, stop⟩, s) := by
  obtain ⟨rest, place, verbose, captures, names⟩ := s
  cases rest <;> exact ⟨_, rfl⟩

theorem spanOfNext_eq_ok {s s' : ScanState} {span : Span} (h : spanOfNext s = .ok (span, s')) :
    span.start = s.place ∧ s' = s := by
  obtain ⟨stop, hspan⟩ := exists_spanOfNext_eq s
  cases hspan.symm.trans h
  exact ⟨rfl, rfl⟩

/-- Which blanks and comments are passed is decided by themselves and the next character. -/
theorem exists_skipBlanks_eq (inComment : Bool) (text : List Char) (place : Position) :
    ∃ blanks rest, text = blanks ++ rest ∧ ∀ rest' place', rest'.head? = rest.head? →
      skipBlanks inComment (blanks ++ rest') place' = (rest', place'.after blanks) := by
  -- only the first character behind the blanks stops, so the text from there on is free
  fun_induction skipBlanks inComment text place with
  | case1 =>
    refine ⟨[], [], rfl, fun rest' place' hnext => ?_⟩
    obtain rfl : rest' = [] := List.head?_eq_none_iff.mp hnext
    rw [List.append_nil, skipBlanks]
    rfl
  | case2 c rest place ih =>
    obtain ⟨blanks, after, rfl, hskip⟩ := ih
    refine ⟨c :: blanks, after, rfl, fun rest' place' hnext => ?_⟩
    rw [List.cons_append, skipBlanks]
    exact hskip rest' _ hnext
  | case3 c rest place hblank ih =>
    obtain ⟨blanks, after, rfl, hskip⟩ := ih
    refine ⟨c :: blanks, after, rfl, fun rest' place' hnext => ?_⟩
    rw [List.cons_append, skipBlanks, if_pos hblank]
    exact hskip rest' _ hnext
  | case4 rest place hblank ih =>
    obtain ⟨blanks, after, rfl, hskip⟩ := ih
    refine ⟨'#' :: blanks, after, rfl, fun rest' place' hnext => ?_⟩
    rw [List.cons_append, skipBlanks, if_neg hblank, if_pos rfl]
    exact hskip rest' _ hnext
  | case5 c rest place hblank hcomment =>
    refine ⟨[], c :: rest, rfl, fun rest' place' hnext => ?_⟩
    obtain ⟨tail, rfl⟩ := List.head?_eq_some_iff.mp hnext
    rw [List.nil_append, skipBlanks, if_neg hblank, if_neg hcomment]
    rfl

theorem bumpBlanks_eq (s : ScanState) :
    bumpBlanks s = .ok ((), if s.verbose then
      { s with rest := (skipBlanks false s.rest s.place).1,
               place := (skipBlanks false s.rest s.place).2 } else s) := by
  obtain ⟨rest, place, verbose, captures, names⟩ := s
  cases verbose <;> rfl

theorem bumpBlanks_nil {s : ScanState} (h : s.rest = []) : bumpBlanks s = .ok ((), s) := by
  obtain ⟨rest, place, verbose, captures, names⟩ := s
  obtain rfl : rest = [] := h
  cases verbose <;> rfl

/-- Where no blank comes next, none is passed. -/
theorem bumpBlanks_of_solid {s : ScanState} {c : Char} (h : s.rest.head? = some c)
    (hblank : isWhitespace c = false) (hcomment : c ≠ '#') : bumpBlanks s = .ok ((), s) := by
  obtain ⟨rest, hrest⟩ := List.head?_eq_some_iff.mp h
  have hskip : skipBlanks false (c :: rest) s.place = (c :: rest, s.place) := by
    rw [skipBlanks, if_neg (Bool.eq_false_iff.mp hblank), if_neg hcomment]
  rw [bumpBlanks_eq, hrest, hskip]
  obtain ⟨whole, place, verbose, captures, names⟩ := s
  obtain rfl : whole = c :: rest := hrest
  cases verbose <;> rfl

/-- The next character and the blanks after it, where these are to be skipped. -/
theorem bumpWithBlanks_cons {s : ScanState} {c : Char} {rest : List Char}
    (h : s.rest = c :: rest) : ∃ s₁, bumpWithBlanks s = .ok (!s₁.rest.isEmpty, s₁) ∧
      s₁.rest = if s.verbose then (skipBlanks false rest (s.place.advance c)).1 else rest := by
  unfold bumpWithBlanks
  rw [bind_eq (bump_cons h)]
  cases hrest : rest with
  | nil =>
    refine ⟨s.pass [c] [], rfl, ?_⟩
    cases s.verbose <;> rfl
  | cons c' rest' =>
    rw [if_pos (show (!(c' :: rest').isEmpty) = true from rfl), bind_eq (bumpBlanks_eq _)]
    refine ⟨_, rfl, ?_⟩
    show (if s.verbose then _ else s.pass [c] (c' :: rest')).rest = _
    cases s.verbose <;> rfl

/-! ## Steps that end the reading -/

/-- A step that always ends the reading. -/
def Fails {α : Type} (f : Scan α) : Prop := ∀ s x s', f s ≠ .ok (x, s')

theorem fails_fail {α : Type} (kind : FaultKind) (span : Span) :
    Fails (fail kind span : Scan α) := by
  rintro s x s' ⟨⟩

theorem fails_throw {α : Type} (f : Fault) : Fails (throw f : Scan α) := by
  rintro s x s' ⟨⟩

theorem Fails.bind {α β : Type} {f : Scan α} (h : Fails f) (g : α → Scan β) :
    Fails (f >>= g) := by
  intro s y s' hrun
  obtain ⟨x, s₁, hf, -⟩ := bind_eq_ok_iff.mp hrun
  exact h s x s₁ hf

theorem Fails.after {α β : Type} (f : Scan α) {g : α → Scan β} (h : ∀ x, Fails (g x)) :
    Fails (f >>= g) := by
  intro s y s' hrun
  obtain ⟨x, s₁, -, hg⟩ := bind_eq_ok_iff.mp hrun
  exact h x s₁ y s' hg

/-- A fault whose place is looked up first. -/
theorem fails_at {α β γ : Type} {f : Scan α} {kind : FaultKind} {span : α → Span}
    {g : β → Scan γ} : Fails (f >>= fun x => fail kind (span x) >>= g) :=
  .after f fun x => (fails_fail kind (span x)).bind g

/-! ## Steps that do the same -/

/-- Two steps do the same at a state. -/
def SameRun {α : Type} (s : ScanState) (f f' : Scan α) : Prop := f s = f' s

namespace SameRun

variable {α β : Type} {s : ScanState}

theorem refl (f : Scan α) : SameRun s f f := rfl

theorem bind_left {f f' : Scan α} (h : SameRun s f f') (g : α → Scan β) :
    SameRun s (f >>= g) (f' >>= g) := by
  show Except.bind (f s) _ = Except.bind (f' s) _
  rw [show f s = f' s from h]

theorem bind_right {f : Scan α} {g g' : α → Scan β}
    (h : ∀ x s₁, f s = .ok (x, s₁) → SameRun s₁ (g x) (g' x)) :
    SameRun s (f >>= g) (f >>= g') := by
  show Except.bind (f s) _ = Except.bind (f s) _
  cases hf : f s with
  | error e => rfl
  | ok found => exact h found.1 found.2 hf

theorem of_fails {f : Scan α} {g g' : α → Scan β} (h : Fails f) :
    SameRun s (f >>= g) (f >>= g') :=
  bind_right fun x s₁ hf => absurd hf (h s x s₁)

theorem ite {c : Prop} [Decidable c] {f f' g g' : Scan α} (h : c → SameRun s f g)
    (h' : ¬c → SameRun s f' g') : SameRun s (if c then f else f') (if c then g else g') := by
  by_cases hcase : c
  · rw [if_pos hcase, if_pos hcase]
    exact h hcase
  · rw [if_neg hcase, if_neg hcase]
    exact h' hcase

/-- A test that ends the reading if it holds. -/
theorem guard {γ : Type} {c : Prop} [Decidable c] {f : Scan γ} {kind : FaultKind}
    {span : γ → Span} {k k' : β → Scan α} {g g' : Scan α} (h : ¬c → SameRun s g g') :
    SameRun s (if c then f >>= fun x => fail kind (span x) >>= k else g)
      (if c then f >>= fun x => fail kind (span x) >>= k' else g') :=
  ite (fun _ => bind_right fun x _ _ => of_fails (fails_fail kind (span x))) h

/-- A test that ends the reading at once if it holds. -/
theorem guard_now {c : Prop} [Decidable c] {f : Scan β} {k k' : β → Scan α} {g g' : Scan α}
    (hfails : Fails f) (h : ¬c → SameRun s g g') :
    SameRun s (if c then f >>= k else g) (if c then f >>= k' else g') :=
  ite (fun _ => of_fails hfails) h

/-- A look at the next character. -/
theorem next? {g g' : Option Char → Scan β} (h : SameRun s (g s.rest.head?) (g' s.rest.head?)) :
    SameRun s (Scan.next? >>= g) (Scan.next? >>= g') := by
  refine bind_right fun x s₁ hnext => ?_
  obtain ⟨rfl, rfl⟩ := Prod.mk.inj (Except.ok.inj hnext)
  exact h

end SameRun

/-! ## What steps yield -/

/-- What a step yields at a state, and the state after it, if it does not end the reading. -/
def Yields {α : Type} (s : ScanState) (f : Scan α) (p : α → ScanState → Prop) : Prop :=
  ∀ x s', f s = .ok (x, s') → p x s'

namespace Yields

variable {α β : Type} {s : ScanState} {p : α → ScanState → Prop}

theorem bind {f : Scan β} {g : β → Scan α}
    (h : ∀ x s₁, f s = .ok (x, s₁) → Yields s₁ (g x) p) : Yields s (f >>= g) p := by
  intro y s' hrun
  obtain ⟨x, s₁, hf, hg⟩ := bind_eq_ok_iff.mp hrun
  exact h x s₁ hf y s' hg

theorem pure {x : α} (h : p x s) : Yields s (Pure.pure x) p := by
  intro y s' hrun
  obtain ⟨rfl, rfl⟩ := Prod.mk.inj (Except.ok.inj hrun)
  exact h

/-- A look at the place. -/
theorem here {g : Position → Scan α} (h : Yields s (g s.place) p) :
    Yields s (Scan.here >>= g) p := by
  refine bind fun x s₁ hhere => ?_
  cases hhere
  exact h

/-- A look at the next character. -/
theorem next? {g : Option Char → Scan α} (h : Yields s (g s.rest.head?) p) :
    Yields s (Scan.next? >>= g) p := by
  refine bind fun x s₁ hnext => ?_
  cases hnext
  exact h

theorem of_fails {f : Scan α} (h : Fails f) : Yields s f p :=
  fun x s' hrun => absurd hrun (h s x s')

theorem ite {c : Prop} [Decidable c] {f g : Scan α} (h : c → Yields s f p)
    (h' : ¬c → Yields s g p) : Yields s (if c then f else g) p := by
  split
  · next hc => exact h hc
  · next hc => exact h' hc

/-- A test that ends the reading if it holds. -/
theorem guard {c : Prop} [Decidable c] {f g : Scan α} (hfails : Fails f)
    (h : ¬c → Yields s g p) : Yields s (if c then f else g) p :=
  ite (fun _ => of_fails hfails) h

end Yields

end Regex

end StreamNames
