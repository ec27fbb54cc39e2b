import StreamNames.Proofs.Regex.Ast.Bare
import StreamNames.Proofs.Regex.Reader.Mirrors

/-!
# Reading the same escape twice

An escape is decided by its own text and the next character, also where it is looked
through and taken back, as a brace behind `\b` is.

- `SameBare`: equality of what was read, but for its places.
- `readWordBoundary_plain`: the one look that is taken back.
- `Advances.readEscape`: an escape on two texts.
-/

namespace StreamNames

namespace Regex

open Scan

/-- Two values are the same once their places are forgotten. -/
def SameBare {α : Type} (bare : α → α) (x y : α) : Prop := bare x = bare y

theorem SameBare.cons {α : Type} {bare : α → α} {x y : α} {xs ys : List α}
    (h : SameBare bare x y) (hs : SameBare (List.map bare) xs ys) :
    SameBare (List.map bare) (x :: xs) (y :: ys) :=
  congrArg₂ List.cons h hs

theorem SameBare.of_cons {α : Type} {bare : α → α} {x y : α} {xs ys : List α}
    (h : SameBare (List.map bare) (x :: xs) (y :: ys)) :
    SameBare bare x y ∧ SameBare (List.map bare) xs ys :=
  List.cons.inj h

theorem SameBare.isEmpty_eq {α : Type} {bare : α → α} {xs ys : List α}
    (h : SameBare (List.map bare) xs ys) : xs.isEmpty = ys.isEmpty := by
  rw [← List.isEmpty_map (f := bare) (l := xs), ← List.isEmpty_map (f := bare) (l := ys)]
  exact congrArg List.isEmpty h

/-- What an escape stands for, without its place. -/
def Primitive.bare : Primitive → Primitive
  | literal l => literal l.bare
  | assertion _ kind => assertion .blank kind
  | property _ negated name => property .blank negated name
  | perl _ negated kind => perl .blank negated kind
  | dot _ => dot .blank

variable {places : Nat → Prop}

theorem readBracedHex_bound (s : ScanState) (n m : Nat) (hn : s.rest.length ≤ n)
    (hm : s.rest.length ≤ m) : SameRun s (readBracedHex n) (readBracedHex m) := by
  refine loop_bound (fun n (_ : Unit) => readBracedHex n) ?_ ?_ s n m () hn hm
  · intro s n _ hrest
    exact (bind_eq (next?_eq s)).trans (by rw [hrest]; rfl)
  · intro s n m _ hne hloop
    refine .next? ?_
    split
    · exact .refl _
    · exact .refl _
    · refine .guard fun _ => .bind_right fun _ s₁ hbump => .bind_left ?_ _
      exact hloop () s₁ (shrinks_bumpWithBlanks.discard s _ s₁ hbump hne)

/-- A brace behind `\b` that opens no name is left for a repetition. -/
theorem readWordBoundary_plain {start : Position} {s s₁ : ScanState}
    (hbrace : s.rest.head? = some '\x7b') (hbump : bumpWithBlanks s = .ok (true, s₁))
    (hword : s₁.rest.head?.any isWordTestChar = false) :
    readWordBoundary start s = .ok (.assertion ⟨start, s.place⟩ .wordBoundary, s) := by
  unfold readWordBoundary
  rw [bind_eq (here_eq s), bind_eq (next?_eq s), if_neg (by simp [hbrace]),
    bind_eq (get_eq s), bind_eq (here_eq s), bind_eq hbump]
  rw [if_neg (by simp)]
  beta_reduce
  rw [bind_eq (here_eq s₁), bind_eq (next?_eq s₁), if_pos (by simp [hword])]
  rfl

namespace Mirrors

theorem readHexDigits (count : Nat) (s : ScanState) :
    Mirrors places Eq s (Regex.readHexDigits count) (Regex.readHexDigits count) := by
  induction count generalizing s with
  | zero => exact .pure rfl
  | succ count ih =>
    rw [Regex.readHexDigits]
    refine next?.bind ?_
    rintro next _ s₁ - rfl
    cases next with
    | none => exact here.bind fun _ _ _ _ _ => .fail
    | some c =>
      refine .guard Iff.rfl fails_at fun _ => ?_
      refine bumpWithBlanks.discard.bind fun _ _ s₂ _ _ => (ih s₂).bind ?_
      rintro digits _ s₃ - rfl
      exact .pure rfl

theorem readBracedHex (n : Nat) (s : ScanState) :
    Mirrors places Eq s (Regex.readBracedHex n) (Regex.readBracedHex n) := by
  induction n generalizing s with
  | zero => exact .pure rfl
  | succ n ih =>
    rw [Regex.readBracedHex]
    refine next?.bind ?_
    rintro next _ s₁ - rfl
    split
    · exact .pure rfl
    · exact .pure rfl
    · refine .guard Iff.rfl fails_at fun _ => ?_
      refine bumpWithBlanks.discard.bind fun _ _ s₂ _ _ => (ih s₂).bind ?_
      rintro digits _ s₃ - rfl
      exact .pure rfl

theorem readHex (start start' : Position) (digits : Nat) (s : ScanState) :
    Mirrors places (SameBare Literal.bare) s (Regex.readHex start digits)
      (Regex.readHex start' digits) := by
  unfold Regex.readHex
  refine bumpWithBlanks.bind ?_
  rintro more _ s₁ - rfl
  refine .guard Iff.rfl fails_at fun _ => next?.bind ?_
  rintro next _ s₂ - rfl
  refine .ite Iff.rfl (fun _ => ?_) fun _ => ?_
  · refine here.bind fun _ _ s₃ _ _ => bump.discard.bind fun _ _ s₄ _ _ =>
      here.bind fun _ _ s₅ _ _ => bumpBlanks.bind fun _ _ s₆ _ _ => ?_
    -- the loop is bounded by what is left, of which there is less in the other text
    refine .bound (fun n => ?_) fun t n m _ hn hm =>
      .bind_left (readBracedHex_bound t n m hn hm) _
    refine (readBracedHex n s₆).bind ?_
    rintro spelled _ s₇ - rfl
    refine atEnd.bind ?_
    rintro ended _ s₈ - rfl
    refine .guard Iff.rfl fails_at fun _ => here.bind fun _ _ s₉ _ _ =>
      bumpWithBlanks.discard.bind fun _ _ s₁₀ _ _ => ?_
    refine .guard Iff.rfl fails_at fun _ => ?_
    cases charOfHex? spelled with
    | none => exact .fail
    | some c => exact here.bind fun _ _ _ _ _ => .pure rfl
  · refine here.bind fun _ _ s₃ _ _ => (readHexDigits digits s₃).bind ?_
    rintro spelled _ s₄ - rfl
    cases charOfHex? spelled with
    | none => exact here.bind fun _ _ _ _ _ => .fail
    | some c => exact here.bind fun _ _ _ _ _ => .pure rfl

theorem readProperty (start start' : Position) (negated : Bool) (s : ScanState) :
    Mirrors places (SameBare Primitive.bare) s (Regex.readProperty start negated)
      (Regex.readProperty start' negated) := by
  unfold Regex.readProperty
  refine bumpWithBlanks.bind ?_
  rintro more _ s₁ - rfl
  refine .guard Iff.rfl fails_at fun _ => next?.bind ?_
  rintro next _ s₂ - rfl
  split
  · refine bumpWithBlanks.discard.bind fun _ _ s₃ _ _ =>
      (collectWhile shrinks_bumpWithBlanks (fun _ => bumpWithBlanks) _ s₃).bind ?_
    rintro name _ s₄ - rfl
    refine atEnd.bind ?_
    rintro ended _ s₅ - rfl
    refine .guard Iff.rfl fails_at fun _ => bump.discard.bind fun _ _ _ _ _ =>
      here.bind fun _ _ _ _ _ => .pure rfl
  · exact spanOfNext.bind fun _ _ _ _ _ => .fail
  · exact bumpWithBlanks.discard.bind fun _ _ _ _ _ => here.bind fun _ _ _ _ _ => .pure rfl
  · exact here.bind fun _ _ _ _ _ => .fail

theorem readWordBoundary (start start' : Position) (s : ScanState) :
    Mirrors places (SameBare Primitive.bare) s (Regex.readWordBoundary start)
      (Regex.readWordBoundary start') := by
  by_cases hplain : ∃ s₁, s.rest.head? = some '\x7b' ∧ Scan.bumpWithBlanks s = .ok (true, s₁) ∧
      s₁.rest.head?.any isWordTestChar = false
  · -- the look behind the brace is taken back, and comes out the same on the other text
    obtain ⟨s₁, hbrace, hbump, hword⟩ := hplain
    intro x s' hrun
    rw [readWordBoundary_plain hbrace hbump hword] at hrun
    cases hrun
    refine ⟨[], rfl, rfl, fun t rest htrest hrespelled halike => ?_⟩
    obtain rfl : t.rest = rest := htrest
    obtain ⟨t₁, j, hbump', hrest⟩ := hrespelled.bumpWithBlanks halike hbrace hbump
    have hbrace' := hrespelled.head?_eq.trans hbrace
    rw [← hrest.head?_eq] at hword
    exact ⟨_, t, readWordBoundary_plain hbrace' hbump' hword, rfl, halike, rfl⟩
  · unfold Regex.readWordBoundary
    refine here.bind fun _ _ s₁ hhere _ => next?.bind ?_
    rintro next _ s₂ hnext rfl
    cases hhere
    cases hnext
    refine .ite Iff.rfl (fun _ => .pure rfl) fun hbrace => ?_
    refine get.bind fun before _ s₃ hget _ => here.bind fun _ _ s₄ hhere _ => ?_
    cases hget
    cases hhere
    refine bumpWithBlanks.bind ?_
    rintro more _ s₅ hbump rfl
    refine .guard Iff.rfl fails_at fun hmore => here.bind fun _ _ s₆ hhere _ => next?.bind ?_
    rintro word _ s₇ hnext rfl
    cases hhere
    cases hnext
    refine .ite Iff.rfl (fun hword => ?_) fun _ => ?_
    · -- the case without a word behind the brace was settled above
      refine absurd ⟨s₅, by simpa using hbrace, ?_, by simpa using hword⟩ hplain
      rw [hbump]
      simpa using hmore
    · refine (collectWhile shrinks_bumpWithBlanks (fun _ => bumpWithBlanks) _ s₅).bind ?_
      rintro word _ s₈ - rfl
      refine next?.bind ?_
      rintro close _ s₉ - rfl
      refine .guard Iff.rfl fails_at fun _ => here.bind fun _ _ s₁₀ _ _ =>
        bump.discard.bind fun _ _ s₁₁ _ _ => ?_
      cases Assertion.ofWord? word with
      | none => exact .fail
      | some kind => exact here.bind fun _ _ _ _ _ => .pure rfl

end Mirrors

theorem Advances.readEscape (s : ScanState) :
    Advances places (SameBare Primitive.bare) s Regex.readEscape Regex.readEscape := by
  unfold Regex.readEscape
  refine .after .here fun start start' s₁ _ _ => Advances.bump.bind ?_
  rintro more _ s₂ - rfl
  refine .guard Iff.rfl fails_at fun _ => Mirrors.next?.bind ?_
  rintro next _ s₃ - rfl
  cases next with
  | none => exact Mirrors.here.bind fun _ _ _ _ _ => .fail
  | some c =>
    refine .guard Iff.rfl (.after _ fun _ => fails_fail _ _) fun _ => ?_
    have hhex : ∀ digits, Mirrors places (SameBare Primitive.bare) s₃
        (Regex.readHex start digits >>= fun l => pure (Primitive.literal l))
        (Regex.readHex start' digits >>= fun l => pure (Primitive.literal l)) :=
      fun digits => (Mirrors.readHex start start' digits s₃).bind fun l l' _ _ hl =>
        .pure (congrArg Primitive.literal hl)
    refine .ite Iff.rfl (fun _ => hhex 2) fun _ => ?_
    refine .ite Iff.rfl (fun _ => hhex 4) fun _ => ?_
    refine .ite Iff.rfl (fun _ => hhex 8) fun _ => ?_
    refine .ite Iff.rfl (fun _ => .readProperty start start' false s₃) fun _ => ?_
    refine .ite Iff.rfl (fun _ => .readProperty start start' true s₃) fun _ => ?_
    refine Mirrors.bump.discard.bind fun _ _ s₄ _ _ => Mirrors.here.bind fun _ _ s₅ _ _ => ?_
    refine .ite Iff.rfl (fun _ => .pure rfl) fun _ => ?_
    split
    any_goals exact .pure rfl
    · exact .readWordBoundary start start' s₅
    · exact .fail

end Regex

end StreamNames
