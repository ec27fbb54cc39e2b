import StreamNames.Proofs.Pattern.Respelled
import StreamNames.Proofs.Regex.Reader.Runs

/-!
# Reading the same text twice

What a step of the reading yields is decided by the text that it passes and by little of
what follows: by the next characters, which are the same in a pattern and its respelling.
So a step that passes a stretch of one text passes the same stretch of the other, and what
it yields differs in places only.

- `Mirrors`: one step does on a second text what another does on the first.
- `Mirrors.bind`, `Mirrors.guard`, …: steps in a row.
- `Mirrors.bump`, `Mirrors.collectWhile`, …: the single steps.
-/

namespace StreamNames

namespace Regex

open Scan
open Dialect (Respelled isGroupName)
open StreamNames.Unicode (isWhitespace)

/-! ## Looking ahead

Whether a step looks at the next characters of a text or of its respelling makes no
difference, if only groups are respelled: in both dialects a group starts with a
parenthesis and a question mark. -/

/-- The second text is the first with some groups respelled, at given places. -/
abbrev Regrouped (places : Nat → Prop) : Nat → List Char → List Char → Prop :=
  Respelled fun kind i => kind = .group ∧ places i

namespace Regrouped

variable {places : Nat → Prop} {i : Nat} {text text' : List Char}

theorem cases_next (h : Regrouped places i text text') :
    (text = [] ∧ text' = []) ∨
    (∃ c rest rest', text = c :: rest ∧ text' = c :: rest' ∧
      Regrouped places (i + 1) rest rest') ∨
    ∃ rest rest', text = '(' :: '?' :: rest ∧ text' = '(' :: '?' :: rest' := by
  cases h with
  | nil i => exact .inl ⟨rfl, rfl⟩
  | same hrest => exact .inr (.inl ⟨_, _, _, rfl, rfl, hrest⟩)
  | token hname hplace hrest =>
    obtain ⟨rfl, -⟩ := hplace
    exact .inr (.inr ⟨_, _, rfl, rfl⟩)

theorem head?_eq (h : Regrouped places i text text') : text'.head? = text.head? := by
  rcases h.cases_next with ⟨rfl, rfl⟩ | ⟨c, rest, rest', rfl, rfl, -⟩ | ⟨rest, rest', rfl, rfl⟩ <;>
    rfl

theorem isEmpty_eq (h : Regrouped places i text text') : text'.isEmpty = text.isEmpty := by
  rcases h.cases_next with ⟨rfl, rfl⟩ | ⟨c, rest, rest', rfl, rfl, -⟩ | ⟨rest, rest', rfl, rfl⟩ <;>
    rfl

theorem head?_tail_eq (h : Regrouped places i text text') :
    text'.tail.head? = text.tail.head? := by
  rcases h.cases_next with ⟨rfl, rfl⟩ | ⟨c, rest, rest', rfl, rfl, hrest⟩ |
    ⟨rest, rest', rfl, rfl⟩
  · rfl
  · exact head?_eq hrest
  · rfl

theorem significant?_eq (h : Regrouped places i text text') (inComment : Bool) :
    significant? inComment text' = significant? inComment text := by
  induction h generalizing inComment with
  | nil i => rfl
  | same _ ih => simp only [significant?, ih]
  | token hname hplace hrest _ =>
    obtain ⟨rfl, -⟩ := hplace
    have hopen : ∀ rest, significant? inComment ('(' :: rest) = some '(' := by
      intro rest
      have hblank : isWhitespace '(' = false := by decide
      simp [significant?, hblank]
    exact (hopen _).trans (hopen _).symm

theorem significant?_tail_eq (h : Regrouped places i text text') (inComment : Bool) :
    significant? inComment text'.tail = significant? inComment text.tail := by
  rcases h.cases_next with ⟨rfl, rfl⟩ | ⟨c, rest, rest', rfl, rfl, hrest⟩ |
    ⟨rest, rest', rfl, rfl⟩
  · rfl
  · exact significant?_eq hrest inComment
  · have hblank : isWhitespace '?' = false := by decide
    simp [significant?, hblank]

/-- A text without a parenthesis starts a pattern exactly if it starts the respelling. -/
theorem exists_eq_append_iff (h : Regrouped places i text text') {start : List Char}
    (hstart : '(' ∉ start) :
    (∃ rest, text' = start ++ rest) ↔ ∃ rest, text = start ++ rest := by
  induction start generalizing i text text' with
  | nil => exact ⟨fun _ => ⟨text, rfl⟩, fun _ => ⟨text', rfl⟩⟩
  | cons c start ih =>
    obtain ⟨hc, hstart⟩ : '(' ≠ c ∧ '(' ∉ start := by simpa using hstart
    rcases h.cases_next with ⟨rfl, rfl⟩ | ⟨c', rest, rest', rfl, rfl, hrest⟩ |
      ⟨rest, rest', rfl, rfl⟩
    · exact Iff.rfl
    · have := ih hrest hstart
      simpa using fun _ => this
    · simp [hc]

theorem isPrefixOf_eq (h : Regrouped places i text text') {start : List Char}
    (hstart : '(' ∉ start) : start.isPrefixOf text' = start.isPrefixOf text := by
  have hiff := exists_eq_append_iff h hstart
  rw [Bool.eq_iff_iff, List.isPrefixOf_iff_prefix, List.isPrefixOf_iff_prefix]
  simpa only [List.IsPrefix, eq_comm] using hiff

theorem newline_not_mem {d : Dialect} {kind : Dialect.TokenKind} {name : List Char}
    (hname : isGroupName name) : '\n' ∉ d.writeToken kind name := by
  intro h
  have := Dialect.mem_writeToken hname h
  revert this
  decide

theorem skipBlanks_comment_append {start : List Char} (h : '\n' ∉ start) (text : List Char)
    (place : Position) : ∃ place',
      Scan.skipBlanks true (start ++ text) place = Scan.skipBlanks true text place' := by
  induction start generalizing place with
  | nil => exact ⟨place, rfl⟩
  | cons c start ih =>
    obtain ⟨hc, hstart⟩ : '\n' ≠ c ∧ '\n' ∉ start := by simpa using h
    obtain ⟨place', hplace'⟩ := ih hstart (place.advance c)
    refine ⟨place', ?_⟩
    rw [List.cons_append, Scan.skipBlanks, decide_eq_true (Ne.symm hc)]
    exact hplace'

/-- Blanks and comments are passed alike, also where a comment holds a group. -/
theorem skipBlanks (h : Regrouped places i text text') (inComment : Bool)
    (place place' : Position) :
    ∃ j, Regrouped places j (Regex.Scan.skipBlanks inComment text place).1
      (Regex.Scan.skipBlanks inComment text' place').1 := by
  induction h generalizing inComment place place' with
  | nil i =>
    rw [Scan.skipBlanks, Scan.skipBlanks]
    exact ⟨i, .nil i⟩
  | @same i c text text' hrest ih =>
    cases inComment with
    | true => exact ih (c ≠ '\n') _ _
    | false =>
      rw [Scan.skipBlanks, Scan.skipBlanks]
      split
      · exact ih false _ _
      · split
        · exact ih true _ _
        · exact ⟨i, .same hrest⟩
  | @token i kind name text text' hname hplace hrest ih =>
    cases inComment with
    | true =>
      -- the comment goes on behind the group, since no group has a line end in it
      obtain ⟨p, hp⟩ := skipBlanks_comment_append (newline_not_mem hname) text place
      obtain ⟨p', hp'⟩ := skipBlanks_comment_append (newline_not_mem hname) text' place'
      rw [hp, hp']
      exact ih true p p'
    | false =>
      obtain rfl := hplace.1
      have hopen : ∀ rest p, Scan.skipBlanks false ('(' :: rest) p = ('(' :: rest, p) := by
        intro rest p
        rw [Scan.skipBlanks, if_neg (by decide), if_neg (by decide)]
      refine ⟨i, ?_⟩
      show Regrouped places i (Scan.skipBlanks false ('(' :: _) place).1
        (Scan.skipBlanks false ('(' :: _) place').1
      rw [hopen, hopen]
      exact .token hname hplace hrest

end Regrouped

/-! ## One step on two texts -/

/-- States that differ in the text that is left and in places alone. -/
structure ScanState.Alike (s t : ScanState) : Prop where
  verbose : t.verbose = s.verbose
  captures : t.captures = s.captures
  names : t.names.map Prod.fst = s.names.map Prod.fst

theorem ScanState.Alike.refl (s : ScanState) : s.Alike s := ⟨rfl, rfl, rfl⟩

/-- The same is seen behind the next character and the blanks after it. -/
theorem Regrouped.bumpWithBlanks {places : Nat → Prop} {i : Nat} {s s₁ t : ScanState} {more : Bool}
    (h : Regrouped places i s.rest t.rest) (halike : s.Alike t)
    (hbrace : s.rest.head? = some '\x7b') (hbump : Scan.bumpWithBlanks s = .ok (more, s₁)) :
    ∃ t₁ j, Scan.bumpWithBlanks t = .ok (more, t₁) ∧ Regrouped places j s₁.rest t₁.rest := by
  rcases h.cases_next with ⟨hs, -⟩ | ⟨c, rest, rest', hs, ht, hrest⟩ | ⟨rest, rest', hs, -⟩
  · rw [hs] at hbrace
    cases hbrace
  · obtain ⟨s₂, hs₂, hafter⟩ := bumpWithBlanks_cons hs
    obtain ⟨t₂, ht₂, hafter'⟩ := bumpWithBlanks_cons ht
    obtain ⟨rfl, rfl⟩ := Prod.mk.inj (Except.ok.inj (hs₂.symm.trans hbump))
    -- blanks are passed in both texts alike, as no token starts with one
    have hboth : ∃ j, Regrouped places j s₂.rest t₂.rest := by
      rw [hafter, hafter', halike.verbose]
      cases s.verbose with
      | false => exact ⟨i + 1, hrest⟩
      | true => exact hrest.skipBlanks false _ _
    obtain ⟨j, hboth⟩ := hboth
    refine ⟨t₂, j, ?_, hboth⟩
    rw [ht₂, hboth.isEmpty_eq]
  · rw [hs] at hbrace
    exact absurd (Option.some.inj hbrace) (by decide)

/-- What `f` passes at a state, `g` passes at each state where the same text comes before a
respelled rest; and what the two yield is related. -/
def Mirrors {α β : Type} (places : Nat → Prop) (related : α → β → Prop)
    (s : ScanState) (f : Scan α) (g : Scan β) : Prop :=
  ∀ x s', f s = .ok (x, s') → ∃ text, s.rest = text ++ s'.rest ∧
    s'.place.index = s.place.index + text.length ∧
    ∀ t rest, t.rest = text ++ rest → Regrouped places s'.place.index s'.rest rest →
      s.Alike t → ∃ y t', g t = .ok (y, t') ∧ t'.rest = rest ∧ s'.Alike t' ∧ related x y

/-- No place at all. -/
def nowhere (_ : Nat) : Prop := False

/-- No relation at all. -/
def Any {α β : Type} (_ : α) (_ : β) : Prop := True

namespace Mirrors

variable {α β γ δ : Type} {places : Nat → Prop} {s : ScanState}
  {related : α → β → Prop} {related' : γ → δ → Prop}

/-! ### Steps in a row -/

theorem bind {f : Scan α} {g : Scan β} {f' : α → Scan γ} {g' : β → Scan δ}
    (h : Mirrors places related s f g)
    (h' : ∀ x y s₁, f s = .ok (x, s₁) → related x y →
      Mirrors places related' s₁ (f' x) (g' y)) :
    Mirrors places related' s (f >>= f') (g >>= g') := by
  intro z s' hrun
  obtain ⟨x, s₁, hf, hf'⟩ := bind_eq_ok_iff.mp hrun
  obtain ⟨text, hrest, hplace, hmirror⟩ := h x s₁ hf
  -- the first text itself shows how far the second step goes
  obtain ⟨y₀, -, -, -, -, hxy₀⟩ := hmirror s s₁.rest hrest (.refl _ _ _) (.refl s)
  obtain ⟨text', hrest', hplace', -⟩ := h' x y₀ s₁ hf hxy₀ z s' hf'
  refine ⟨text ++ text', by rw [hrest, hrest', List.append_assoc], ?_, ?_⟩
  · rw [hplace', hplace, List.length_append]
    omega
  · intro t rest htrest hrespelled halike
    obtain ⟨y, t₁, hg, ht₁, halike₁, hxy⟩ := hmirror t (text' ++ rest)
      (by rw [htrest, List.append_assoc])
      (by rw [hrest']; exact .append text' (hplace' ▸ hrespelled)) halike
    obtain ⟨text'', hrest'', -, hmirror'⟩ := h' x y s₁ hf hxy z s' hf'
    obtain rfl : text' = text'' := List.append_cancel_right (hrest'.symm.trans hrest'')
    obtain ⟨w, t', hg', ht', halike', hzw⟩ := hmirror' t₁ rest ht₁ hrespelled halike₁
    exact ⟨w, t', bind_eq_ok_iff.mpr ⟨y, t₁, hg, hg'⟩, ht', halike', hzw⟩

theorem pure {x : α} {y : β} (h : related x y) :
    Mirrors places related s (Pure.pure x) (Pure.pure y) := by
  intro x' s' hrun
  obtain ⟨rfl, rfl⟩ := Prod.mk.inj (Except.ok.inj hrun)
  exact ⟨[], rfl, rfl, fun t rest htrest _ halike => ⟨y, t, rfl, htrest, halike, h⟩⟩

/-- A step that always ends the reading is mirrored by any other. -/
theorem of_fails {f : Scan α} {g : Scan β} (h : Fails f) : Mirrors places related s f g :=
  fun x s' hrun => absurd hrun (h s x s')

theorem fail {kind : FaultKind} {span : Span} {g : Scan β} :
    Mirrors places related s (Scan.fail kind span) g :=
  of_fails (fails_fail kind span)

theorem ite {c c' : Prop} [Decidable c] [Decidable c'] {f f' : Scan α} {g g' : Scan β}
    (hc : c ↔ c') (h : c → Mirrors places related s f g)
    (h' : ¬c → Mirrors places related s f' g') :
    Mirrors places related s (if c then f else f') (if c' then g else g') := by
  by_cases hcase : c
  · rw [if_pos hcase, if_pos (hc.mp hcase)]
    exact h hcase
  · rw [if_neg hcase, if_neg (mt hc.mpr hcase)]
    exact h' hcase

/-- A test that ends the reading if it holds. -/
theorem guard {c c' : Prop} [Decidable c] [Decidable c'] {f f' : Scan α} {g g' : Scan β}
    (hc : c ↔ c') (hfails : Fails f) (h : ¬c → Mirrors places related s f' g') :
    Mirrors places related s (if c then f else f') (if c' then g else g') :=
  ite hc (fun _ => of_fails hfails) h

/-! ### Single steps -/

/-- A step that looks at the state and passes nothing. -/
theorem peek (view : ScanState → α) {f : Scan α} {related : α → α → Prop}
    (hview : ∀ s, f s = .ok (view s, s))
    (h : ∀ t, Regrouped places s.place.index s.rest t.rest → s.Alike t →
      related (view s) (view t)) : Mirrors places related s f f := by
  intro x s' hrun
  obtain ⟨rfl, rfl⟩ := Prod.mk.inj (Except.ok.inj (hrun.symm.trans (hview s)))
  refine ⟨[], rfl, rfl, fun t rest htrest hrespelled halike => ?_⟩
  obtain rfl : t.rest = rest := htrest
  exact ⟨view t, t, hview t, rfl, halike, h t hrespelled halike⟩

theorem here : Mirrors places Any s Scan.here Scan.here :=
  peek (·.place) (fun _ => rfl) fun _ _ _ => trivial

theorem spanOfNext : Mirrors places Any s Scan.spanOfNext Scan.spanOfNext := by
  intro span s' hrun
  obtain ⟨-, rfl⟩ := spanOfNext_eq_ok hrun
  refine ⟨[], rfl, rfl, fun t rest htrest _ halike => ?_⟩
  obtain ⟨stop, hspan⟩ := exists_spanOfNext_eq t
  exact ⟨_, t, hspan, htrest, halike, trivial⟩

theorem setVerbose (verbose : Bool) :
    Mirrors places Eq s (Regex.setVerbose verbose) (Regex.setVerbose verbose) := by
  intro x s' hrun
  obtain ⟨rfl, rfl⟩ := Prod.mk.inj (Except.ok.inj hrun)
  exact ⟨[], rfl, rfl, fun t rest htrest _ halike =>
    ⟨_, _, rfl, htrest, ⟨rfl, halike.captures, halike.names⟩, rfl⟩⟩

theorem nextCapture : Mirrors places Eq s Regex.nextCapture Regex.nextCapture := by
  intro x s' hrun
  obtain ⟨rfl, rfl⟩ := Prod.mk.inj (Except.ok.inj hrun)
  refine ⟨[], rfl, rfl, fun t rest htrest _ halike =>
    ⟨_, _, rfl, htrest, ⟨halike.verbose, ?_, halike.names⟩, ?_⟩⟩
  · exact congrArg (· + 1) halike.captures
  · exact (congrArg (· + 1) halike.captures).symm

theorem get : Mirrors places (fun s t => s.verbose = t.verbose) s (get : Scan ScanState) get :=
  peek id (fun _ => rfl) fun _ _ halike => halike.verbose.symm

theorem next? : Mirrors places Eq s Scan.next? Scan.next? :=
  peek (·.rest.head?) (fun _ => rfl) fun _ hrespelled _ => (hrespelled.head?_eq).symm

theorem second? : Mirrors places Eq s Scan.second? Scan.second? :=
  peek (·.rest.tail.head?) (fun _ => rfl) fun _ hrespelled _ => (hrespelled.head?_tail_eq).symm

theorem atEnd : Mirrors places Eq s Scan.atEnd Scan.atEnd :=
  peek (·.rest.isEmpty) (fun _ => rfl) fun _ hrespelled _ => (hrespelled.isEmpty_eq).symm

theorem secondSignificant? :
    Mirrors places Eq s Scan.secondSignificant? Scan.secondSignificant? := by
  refine peek (fun s => if s.verbose then
      (significant? false s.rest.tail).or s.rest.tail.head? else s.rest.tail.head?) ?_ ?_
  · intro s
    unfold Scan.secondSignificant?
    rw [bind_eq (get_eq s)]
    cases s.verbose with
    | false => rfl
    | true => cases significant? false s.rest.tail <;> rfl
  · intro t hrespelled halike
    rw [halike.verbose, hrespelled.significant?_tail_eq false,
      hrespelled.head?_tail_eq]

/-- Passing a stretch of text, for a step that passes it on either text. -/
theorem passing {f : Scan α} {x : α} (text : List Char) {rest : List Char}
    (hrest : s.rest = text ++ rest)
    (hf : f s = .ok (x, s.pass text rest))
    (h : ∀ t rest', t.rest = text ++ rest' →
      Regrouped places (s.place.index + text.length) rest rest' → s.Alike t →
        f t = .ok (x, t.pass text rest')) :
    Mirrors places Eq s f f := by
  intro x' s' hrun
  obtain ⟨rfl, rfl⟩ := Prod.mk.inj (Except.ok.inj (hrun.symm.trans hf))
  refine ⟨text, hrest, s.place.index_after text, fun t rest' htrest hrespelled halike => ?_⟩
  refine ⟨x', t.pass text rest', h t rest' htrest ?_ halike, rfl, ?_, rfl⟩
  · rwa [← s.place.index_after text]
  · exact ⟨halike.verbose, halike.captures, halike.names⟩

theorem bump : Mirrors places Eq s Scan.bump Scan.bump := by
  cases hrest : s.rest with
  | nil =>
    have hpass : ∀ t : ScanState, t.rest = [] → t.pass [] [] = t := by
      intro t ht
      have := t.pass_nil
      rwa [ht] at this
    refine passing (x := false) [] hrest ?_ ?_
    · rw [bump_nil hrest, hpass s hrest]
    · intro t rest' htrest hrespelled _
      obtain rfl : rest' = [] := by simpa using hrespelled.isEmpty_eq
      rw [bump_nil htrest, hpass t htrest]
  | cons c rest =>
    refine passing [c] hrest (bump_cons hrest) ?_
    intro t rest' htrest hrespelled _
    rw [bump_cons (show t.rest = c :: rest' from htrest), hrespelled.isEmpty_eq]

theorem bumpBlanks : Mirrors places Eq s Scan.bumpBlanks Scan.bumpBlanks := by
  cases hverbose : s.verbose with
  | false =>
    have hskip : ∀ t : ScanState, t.verbose = false → Scan.bumpBlanks t = .ok ((), t) := by
      intro t ht
      rw [bumpBlanks_eq, ht]
      rfl
    refine passing [] rfl (hskip s hverbose) fun t rest' htrest _ halike => ?_
    obtain rfl : t.rest = rest' := htrest
    exact hskip t (halike.verbose.trans hverbose)
  | true =>
    -- how many blanks are passed depends on the character behind them only
    obtain ⟨blanks, rest, hrest, hskip⟩ := exists_skipBlanks_eq false s.rest s.place
    have hpass : ∀ (t : ScanState) (rest' : List Char), t.verbose = true →
        t.rest = blanks ++ rest' → rest'.head? = rest.head? →
        Scan.bumpBlanks t = .ok ((), t.pass blanks rest') := by
      intro t rest' ht htrest hnext
      obtain ⟨whole, place, verbose, captures, names⟩ := t
      obtain rfl : verbose = true := ht
      obtain rfl : whole = blanks ++ rest' := htrest
      rw [bumpBlanks_eq, if_pos rfl, hskip rest' place hnext]
      rfl
    refine passing blanks hrest (hpass s rest hverbose hrest rfl) ?_
    intro t rest' htrest hrespelled halike
    exact hpass t rest' (halike.verbose.trans hverbose) htrest hrespelled.head?_eq

theorem discard {f : Scan α} {g : Scan β} (h : Mirrors places related s f g) :
    Mirrors places Eq s (Functor.discard f) (Functor.discard g) := by
  rw [discard_eq_bind, discard_eq_bind]
  exact h.bind fun _ _ _ _ _ => pure rfl

theorem bumpWithBlanks : Mirrors places Eq s Scan.bumpWithBlanks Scan.bumpWithBlanks := by
  refine bump.bind ?_
  rintro more _ s₁ - rfl
  refine ite Iff.rfl (fun _ => ?_) fun _ => pure rfl
  refine bumpBlanks.bind fun _ _ s₂ _ _ => ?_
  refine atEnd.bind ?_
  rintro ended _ s₃ - rfl
  exact pure rfl

theorem bumpIf {start : List Char} (hstart : '(' ∉ start) :
    Mirrors places Eq s (Scan.bumpIf start) (Scan.bumpIf start) := by
  by_cases hnext : start.isPrefixOf s.rest
  · obtain ⟨rest, hrest⟩ := List.isPrefixOf_iff_prefix.mp hnext
    refine passing start hrest.symm (bumpIf_append hrest.symm) fun t rest' htrest _ _ => ?_
    exact bumpIf_append htrest
  · refine passing [] rfl (bumpIf_of_not hnext) fun t rest' htrest hrespelled _ => ?_
    obtain rfl : t.rest = rest' := htrest
    refine bumpIf_of_not ?_
    rwa [hrespelled.isPrefixOf_eq hstart]

/-! ### Loops

A loop is bounded by the number of characters left, which is not the same for the two
texts. But a loop whose rounds each pass a character never meets its bound. -/

/-- The text itself is one of those that a step is mirrored on. -/
theorem exists_related {f : Scan α} {g : Scan β} {x : α} {s' : ScanState}
    (h : Mirrors places related s f g) (hf : f s = .ok (x, s')) : ∃ y, related x y := by
  obtain ⟨text, hrest, -, hmirror⟩ := h x s' hf
  obtain ⟨y, -, -, -, -, hxy⟩ := hmirror s s'.rest hrest (.refl _ _ _) (.refl s)
  exact ⟨y, hxy⟩

theorem length_le {f : Scan α} {g : Scan β} {x : α} {s' : ScanState}
    (h : Mirrors places related s f g) (hf : f s = .ok (x, s')) :
    s'.rest.length ≤ s.rest.length := by
  obtain ⟨text, hrest, -⟩ := h x s' hf
  rw [hrest, List.length_append]
  omega

theorem index_le {f : Scan α} {g : Scan β} {x : α} {s' : ScanState}
    (h : Mirrors places related s f g) (hf : f s = .ok (x, s')) :
    s.place.index ≤ s'.place.index := by
  obtain ⟨text, -, hplace, -⟩ := h x s' hf
  omega

/-- **Where no group is respelled in what a step passes**, it does the same on the other
text, and what is left of both goes side by side. -/
theorem run {f : Scan α} {g : Scan β} {x : α} {s' t : ScanState}
    (h : Mirrors places related s f g) (hf : f s = .ok (x, s'))
    (hrespelled : Regrouped places s.place.index s.rest t.rest) (halike : s.Alike t)
    (hfree : ∀ i, s.place.index ≤ i → i < s'.place.index → ¬places i) :
    ∃ y t', g t = .ok (y, t') ∧ Regrouped places s'.place.index s'.rest t'.rest ∧
      s'.Alike t' ∧ related x y := by
  obtain ⟨text, hrest, hplace, hmirror⟩ := h x s' hf
  rw [hrest] at hrespelled
  obtain ⟨rest, htrest, hafter⟩ := hrespelled.of_append fun _ i hle hlt hplaces =>
    hfree i hle (hplace ▸ hlt) hplaces.2
  rw [← hplace] at hafter
  obtain ⟨y, t', hg, ht', halike', hxy⟩ := hmirror t rest htrest hafter halike
  exact ⟨y, t', hg, ht' ▸ hafter, halike', hxy⟩

end Mirrors

/-- A step that passes something, unless nothing is left. -/
def Shrinks {α : Type} (f : Scan α) : Prop :=
  ∀ s x s', f s = .ok (x, s') → s.rest ≠ [] → s'.rest.length < s.rest.length

theorem shrinks_bump : Shrinks bump := by
  intro s x s' hrun hne
  obtain ⟨c, rest, hrest⟩ := List.exists_cons_of_ne_nil hne
  rw [bump_cons hrest] at hrun
  cases hrun
  rw [hrest]
  exact Nat.lt_succ_self _

theorem Shrinks.bind {α β : Type} {f : Scan α} {g : α → Scan β} (h : Shrinks f)
    (hnext : ∀ x s y s', g x s = .ok (y, s') → s'.rest.length ≤ s.rest.length) :
    Shrinks (f >>= g) := by
  intro s y s' hrun hne
  obtain ⟨x, s₁, hf, hg⟩ := bind_eq_ok_iff.mp hrun
  exact Nat.lt_of_le_of_lt (hnext x s₁ y s' hg) (h s x s₁ hf hne)

theorem Shrinks.discard {α : Type} {f : Scan α} (h : Shrinks f) : Shrinks (discard f) := by
  intro s x s' hrun hne
  rw [discard_eq_bind] at hrun
  obtain ⟨y, s₁, hf, hpure⟩ := bind_eq_ok_iff.mp hrun
  cases hpure
  exact h s y _ hf hne

theorem shrinks_bumpWithBlanks : Shrinks bumpWithBlanks := by
  refine shrinks_bump.bind fun more s y s' hrun => ?_
  split at hrun
  · obtain ⟨_, s₁, hblanks, hend⟩ := bind_eq_ok_iff.mp hrun
    obtain ⟨-, rfl⟩ := Prod.mk.inj (Except.ok.inj hend)
    exact (@Mirrors.bumpBlanks nowhere s).length_le hblanks
  · cases hrun
    exact Nat.le_refl _

theorem Mirrors.bound {α β : Type} {places : Nat → Prop} {s : ScanState}
    {related : α → β → Prop} {f : Nat → Scan α} {g : Nat → Scan β}
    (h : ∀ n, Mirrors places related s (f n) (g n))
    (hbound : ∀ (t : ScanState) (n m : Nat), t.rest.isEmpty = s.rest.isEmpty →
      t.rest.length ≤ n → t.rest.length ≤ m → SameRun t (g n) (g m)) :
    Mirrors places related s (Scan.remaining >>= f) (Scan.remaining >>= g) := by
  intro x s' hrun
  rw [bind_eq (remaining_eq s)] at hrun
  obtain ⟨text, hrest, hplace, hmirror⟩ := h _ x s' hrun
  refine ⟨text, hrest, hplace, fun t rest htrest hrespelled halike => ?_⟩
  -- respelling towards the internal dialect only shortens, so one bound is enough for both
  have hlength : t.rest.length ≤ s.rest.length := by
    have := hrespelled.length_le
    rw [htrest, hrest, List.length_append, List.length_append]
    omega
  have hempty : t.rest.isEmpty = s.rest.isEmpty := by
    rw [htrest, hrest]
    exact Regrouped.isEmpty_eq (.append text (hplace ▸ hrespelled))
  rw [bind_eq (remaining_eq t),
    show g t.rest.length t = _ from
      hbound t t.rest.length s.rest.length hempty (Nat.le_refl _) hlength]
  exact hmirror t rest htrest hrespelled halike

/-- Bounds that are large enough make no difference to a loop whose rounds shrink the
text. -/
theorem loop_bound {α β : Type} (loop : Nat → β → Scan α)
    (hend : ∀ s n b, s.rest = [] → SameRun s (loop (n + 1) b) (loop 0 b))
    (hround : ∀ s n m b, s.rest ≠ [] →
      (∀ b' s', s'.rest.length < s.rest.length → SameRun s' (loop n b') (loop m b')) →
      SameRun s (loop (n + 1) b) (loop (m + 1) b))
    (s : ScanState) (n m : Nat) (b : β) (hn : s.rest.length ≤ n) (hm : s.rest.length ≤ m) :
    SameRun s (loop n b) (loop m b) := by
  have hends : ∀ s n b, s.rest = [] → loop n b s = loop 0 b s := by
    intro s n b hrest
    cases n with
    | zero => rfl
    | succ n => exact hend s n b hrest
  -- both bounds go down by one in a round, and the text by one at least
  induction n generalizing s m b with
  | zero => exact (hends s m b (List.eq_nil_of_length_eq_zero (Nat.le_zero.mp hn))).symm
  | succ n ih =>
    by_cases hrest : s.rest = []
    · exact (hends s _ b hrest).trans (hends s m b hrest).symm
    · have hpos := List.length_pos_iff.mpr hrest
      obtain ⟨m, rfl⟩ : ∃ m', m = m' + 1 := ⟨m - 1, by omega⟩
      refine hround s n m b hrest fun b' s' hshorter => ?_
      exact ih s' m b' (by omega) (by omega)

theorem collect_bound {step : Scan Bool} (hstep : Shrinks step) (p : Char → Bool)
    (s : ScanState) (n m : Nat) (hn : s.rest.length ≤ n) (hm : s.rest.length ≤ m) :
    SameRun s (collect p step n) (collect p step m) := by
  refine loop_bound (fun n (_ : Unit) => collect p step n) ?_ ?_ s n m () hn hm
  · intro s n _ hrest
    exact (bind_eq (next?_eq s)).trans (by rw [hrest]; rfl)
  · intro s n m _ hne hloop
    refine .next? ?_
    cases s.rest.head? with
    | none => exact .refl _
    | some c =>
      refine .ite (fun _ => ?_) fun _ => .refl _
      refine .bind_right fun _ s₁ hbump => .bind_left ?_ _
      exact hloop () s₁ (hstep.discard s _ s₁ hbump hne)

theorem Mirrors.collect {places : Nat → Prop} {step : Scan Bool}
    (hstep : ∀ s, Mirrors places Eq s step step) (p : Char → Bool) (n : Nat) (s : ScanState) :
    Mirrors places Eq s (Scan.collect p step n) (Scan.collect p step n) := by
  induction n generalizing s with
  | zero => exact .pure rfl
  | succ n ih =>
    rw [Scan.collect]
    refine Mirrors.next?.bind ?_
    rintro next _ s₁ - rfl
    cases next with
    | none => exact .pure rfl
    | some c =>
      refine .ite Iff.rfl (fun _ => ?_) fun _ => .pure rfl
      refine (hstep s₁).discard.bind fun _ _ s₂ _ _ => (ih s₂).bind ?_
      rintro found _ s₃ - rfl
      exact .pure rfl

theorem Mirrors.collectWhile {places : Nat → Prop} {step : Scan Bool}
    (hshrinks : Shrinks step) (hstep : ∀ s, Mirrors places Eq s step step) (p : Char → Bool)
    (s : ScanState) :
    Mirrors places Eq s (Scan.collectWhile p step) (Scan.collectWhile p step) :=
  .bound (fun n => .collect hstep p n s) fun t n m _ => collect_bound hshrinks p t n m

/-! ## Steps that pass something -/

/-- A step that is mirrored and that passes something, unless nothing is left. -/
structure Advances {α β : Type} (places : Nat → Prop) (related : α → β → Prop) (s : ScanState)
    (f : Scan α) (g : Scan β) : Prop where
  mirrors : Mirrors places related s f g
  shrinks : s.rest ≠ [] → ∀ x s', f s = .ok (x, s') → s'.rest.length < s.rest.length

namespace Advances

variable {α β γ δ : Type} {places : Nat → Prop} {s : ScanState}
  {related : α → β → Prop} {related' : γ → δ → Prop}

/-- The first of two steps passes something. -/
theorem bind {f : Scan α} {g : Scan β} {f' : α → Scan γ} {g' : β → Scan δ}
    (h : Advances places related s f g)
    (h' : ∀ x y s₁, f s = .ok (x, s₁) → related x y →
      Mirrors places related' s₁ (f' x) (g' y)) :
    Advances places related' s (f >>= f') (g >>= g') := by
  refine ⟨h.mirrors.bind h', fun hne z s' hrun => ?_⟩
  obtain ⟨x, s₁, hf, hf'⟩ := bind_eq_ok_iff.mp hrun
  obtain ⟨y, hxy⟩ := h.mirrors.exists_related hf
  exact Nat.lt_of_le_of_lt ((h' x y s₁ hf hxy).length_le hf') (h.shrinks hne x s₁ hf)

/-- The second of two steps passes something. -/
theorem after {f : Scan α} {g : Scan β} {f' : α → Scan γ} {g' : β → Scan δ}
    (h : Mirrors places related s f g)
    (h' : ∀ x y s₁, f s = .ok (x, s₁) → related x y →
      Advances places related' s₁ (f' x) (g' y)) :
    Advances places related' s (f >>= f') (g >>= g') := by
  refine ⟨h.bind fun x y s₁ hf hxy => (h' x y s₁ hf hxy).mirrors, fun hne z s' hrun => ?_⟩
  obtain ⟨x, s₁, hf, hf'⟩ := bind_eq_ok_iff.mp hrun
  obtain ⟨y, hxy⟩ := h.exists_related hf
  have hnext := h' x y s₁ hf hxy
  by_cases hne₁ : s₁.rest = []
  · -- then the first step passed all that was left
    have hle := hnext.mirrors.length_le hf'
    have hpos := List.length_pos_iff.mpr hne
    rw [hne₁, List.length_nil] at hle
    omega
  · exact Nat.lt_of_lt_of_le (hnext.shrinks hne₁ z s' hf') (h.length_le hf)

theorem ite {c c' : Prop} [Decidable c] [Decidable c'] {f f' : Scan α} {g g' : Scan β}
    (hc : c ↔ c') (h : c → Advances places related s f g)
    (h' : ¬c → Advances places related s f' g') :
    Advances places related s (if c then f else f') (if c' then g else g') := by
  by_cases hcase : c
  · rw [if_pos hcase, if_pos (hc.mp hcase)]
    exact h hcase
  · rw [if_neg hcase, if_neg (mt hc.mpr hcase)]
    exact h' hcase

theorem of_fails {f : Scan α} {g : Scan β} (h : Fails f) : Advances places related s f g :=
  ⟨.of_fails h, fun _ x s' hrun => absurd hrun (h s x s')⟩

theorem guard {c c' : Prop} [Decidable c] [Decidable c'] {f f' : Scan α} {g g' : Scan β}
    (hc : c ↔ c') (hfails : Fails f) (h : ¬c → Advances places related s f' g') :
    Advances places related s (if c then f else f') (if c' then g else g') :=
  ite hc (fun _ => of_fails hfails) h

theorem bound {f : Nat → Scan α} {g : Nat → Scan β}
    (h : ∀ n, Advances places related s (f n) (g n))
    (hbound : ∀ (t : ScanState) (n m : Nat), t.rest.isEmpty = s.rest.isEmpty →
      t.rest.length ≤ n → t.rest.length ≤ m → SameRun t (g n) (g m)) :
    Advances places related s (Scan.remaining >>= f) (Scan.remaining >>= g) :=
  ⟨.bound (fun n => (h n).mirrors) hbound, fun hne x s' hrun => (h _).shrinks hne x s' hrun⟩

theorem index_lt {f : Scan α} {g : Scan β} {s' : ScanState} {x : α}
    (h : Advances places related s f g) (hf : f s = .ok (x, s')) (hne : s.rest ≠ []) :
    s.place.index < s'.place.index := by
  have hshorter := h.shrinks hne x s' hf
  obtain ⟨text, hrest, hplace, -⟩ := h.mirrors x s' hf
  rw [hrest, List.length_append] at hshorter
  omega

/-- What is left is less than it was before, also if it was less already. -/
theorem length_lt {f : Scan α} {g : Scan β} {s₀ s' : ScanState} {x : α}
    (h : Advances places related s f g) (hf : f s = .ok (x, s')) (hne : s₀.rest ≠ [])
    (hle : s.rest.length ≤ s₀.rest.length) : s'.rest.length < s₀.rest.length := by
  have hnext := h.mirrors.length_le hf
  have hpos := List.length_pos_iff.mpr hne
  by_cases hrest : s.rest = []
  · rw [hrest, List.length_nil] at hnext
    omega
  · exact Nat.lt_of_lt_of_le (h.shrinks hrest x s' hf) hle

theorem bump : Advances places Eq s Scan.bump Scan.bump :=
  ⟨.bump, fun hne x s' hrun => shrinks_bump s x s' hrun hne⟩

theorem bumpWithBlanks : Advances places Eq s Scan.bumpWithBlanks Scan.bumpWithBlanks :=
  ⟨.bumpWithBlanks, fun hne x s' hrun => shrinks_bumpWithBlanks s x s' hrun hne⟩

theorem discard {f : Scan α} {g : Scan β} (h : Advances places related s f g) :
    Advances places Eq s (Functor.discard f) (Functor.discard g) := by
  rw [discard_eq_bind, discard_eq_bind]
  exact h.bind fun _ _ _ _ _ => .pure rfl

end Advances

end Regex

end StreamNames
