import StreamNames.Proofs.Regex.Reader.Groups

/-!
# Translated patterns mean the same

A pattern in the internal dialect is read as the expression that the pattern as written is
read as, provided that what is respelled is read as a named group. Then both compile to
the same regular expression, so they have the same named groups and find the same matches.

- `Regex.readOpening_writeToken`: a named group opens alike in both dialects.
- `Regex.readLevels_regrouped`: the reading of both patterns, round by round.
- `compile_toInternal`: the translation compiles to the same regular expression.
-/

namespace StreamNames

namespace Regex

open Scan
open Dialect (Respelled isGroupName external internal)

variable {places : Nat → Prop}

/-! ## Named groups in both dialects -/

theorem orM_of_true {f g : Scan Bool} {s s₁ : ScanState} (h : f s = .ok (true, s₁)) :
    (f <||> g) s = .ok (true, s₁) :=
  bind_eq h

theorem orM_of_false {f g : Scan Bool} {s s₁ : ScanState} (h : f s = .ok (false, s₁)) :
    (f <||> g) s = g s₁ :=
  bind_eq h

/-- What opens a named group is no look-around. -/
theorem lookAround_groupOpening {d : Dialect} {s : ScanState} {c : Char} {rest : List Char}
    (hrest : '(' :: s.rest = d.groupOpening ++ c :: rest) (hstart : Dialect.isNameStart c) :
    (bumpIf ['?', '='] <||> bumpIf ['?', '!'] <||> bumpIf ['?', '<', '=']
      <||> bumpIf ['?', '<', '!']) s = .ok (false, s) := by
  have hne : '=' ≠ c ∧ '!' ≠ c := by
    constructor <;> rintro rfl <;> cases hstart
  have hno : ∀ start ∈ [['?', '='], ['?', '!'], ['?', '<', '='], ['?', '<', '!']],
      bumpIf start s = .ok (false, s) := by
    intro start hmem
    refine bumpIf_of_not ?_
    rw [List.isPrefixOf_iff_prefix]
    cases d <;> rw [List.cons.inj hrest |>.2] <;> revert start <;> simp [hne]
  rw [orM_of_false (hno _ (by simp)), orM_of_false (hno _ (by simp)),
    orM_of_false (hno _ (by simp)), hno _ (by simp)]

theorem namedOpening_groupOpening {d : Dialect} {s : ScanState} {c : Char} {rest : List Char}
    (hrest : s.rest = d.groupOpening.tail ++ c :: rest) :
    (bumpIf ['?', 'P', '<'] <||> bumpIf ['?', '<']) s =
      .ok (true, s.pass d.groupOpening.tail (c :: rest)) := by
  cases d with
  | external => exact orM_of_true (bumpIf_append hrest)
  | internal =>
    refine (orM_of_false (bumpIf_of_not ?_)).trans (bumpIf_append hrest)
    simp [hrest, Dialect.groupOpening]

/-- **A named group opens alike in both dialects.** -/
theorem readOpening_writeToken (d : Dialect) {name rest : List Char} {s : ScanState}
    (hname : isGroupName name) (hrest : s.rest = d.writeToken .group name ++ rest) :
    readOpening s = readNamed (s.pass d.groupOpening (name ++ '>' :: rest)) := by
  obtain ⟨c, more, hmore, hstart⟩ : ∃ c more, name ++ '>' :: rest = c :: more ∧
      Dialect.isNameStart c := by
    cases name with
    | nil => cases hname
    | cons c more => exact ⟨c, _, rfl, (Bool.and_eq_true_iff.mp hname).1⟩
  have hopening : d.groupOpening = '(' :: d.groupOpening.tail := by
    cases d <;> rfl
  -- in both dialects a question mark follows, so no blanks are passed behind the parenthesis
  have hmark : (d.groupOpening.tail ++ c :: more).head? = some '?' := by
    cases d <;> rfl
  have hrest : s.rest = '(' :: (d.groupOpening.tail ++ c :: more) := by
    rw [hrest, ← List.cons_append, ← hopening, ← hmore]
    simp [Dialect.writeToken, Dialect.opening, Dialect.closing]
  have hparen : discard bump s = .ok ((), s.pass ['('] (d.groupOpening.tail ++ c :: more)) := by
    rw [discard_eq_bind, bind_eq (bump_cons hrest)]
    rfl
  obtain ⟨stop, hspan⟩ := exists_spanOfNext_eq s
  rw [hmore]
  unfold readOpening
  rw [bind_eq hspan, bind_eq hparen, bind_eq (bumpBlanks_of_solid hmark (by decide) (by decide)),
    bind_eq (lookAround_groupOpening (by rw [ScanState.rest_pass, hopening]; rfl) hstart),
    if_neg (by simp)]
  beta_reduce
  rw [bind_eq (here_eq _), bind_eq (namedOpening_groupOpening rfl), if_pos rfl,
    s.pass_pass, hopening]
  rfl

theorem readPart_writeToken (d : Dialect) (level : Level) (groups : List GroupFrame)
    {name rest : List Char} {s : ScanState} (hname : isGroupName name)
    (hrest : s.rest = d.writeToken .group name ++ rest) :
    ∃ paren, readPart level groups s =
      (readNamed >>= enter level groups paren s.verbose)
        (s.pass d.groupOpening (name ++ '>' :: rest)) := by
  -- both spellings open a parenthesis, which alone decides the kind of part
  obtain ⟨more, hopen⟩ : ∃ more, s.rest = '(' :: more := by
    rw [hrest]
    cases d <;> exact ⟨_, rfl⟩
  obtain ⟨stop, hspan⟩ := exists_spanOfNext_eq s
  refine ⟨⟨s.place, stop⟩, ?_⟩
  unfold readPart
  rw [bind_eq (next?_eq s), hopen, List.head?_cons]
  show (spanOfNext >>= _) s = _
  rw [bind_eq hspan, bind_eq (get_eq s)]
  show Except.bind (readOpening s) _ = Except.bind (readNamed _) _
  rw [readOpening_writeToken d hname hrest]

/-! ## Rounds on both patterns -/

/-- Either both texts start alike, or a group is respelled there. -/
theorem Regrouped.cases_first {i : Nat} {text text' : List Char}
    (h : Regrouped places i text text') :
    Regrouped (fun j => places j ∧ i < j) i text text' ∨
    ∃ name after after', isGroupName name ∧ text = external.writeToken .group name ++ after ∧
      text' = internal.writeToken .group name ++ after' ∧
      Regrouped (fun j => places j ∧ i < j) (i + (external.writeToken .group name).length)
        after after' := by
  cases h with
  | nil i => exact .inl (.nil i)
  | same hrest => exact .inl (.same (hrest.imp fun kind j hle h => ⟨h.1, h.2, hle⟩))
  | @token _ _ name after after' hname hplace hrest =>
    obtain ⟨rfl, -⟩ := hplace
    refine .inr ⟨name, after, after', hname, rfl, rfl, hrest.imp fun kind j hle h => ?_⟩
    have := List.length_pos_iff.mpr (Respelled.writeToken_ne_nil external .group name)
    exact ⟨h.1, h.2, by omega⟩

/-- **A round of the reading on both patterns**: a group may be respelled where the round
starts. -/
theorem readPart_regrouped {level level' : Level} {groups groups' : List GroupFrame}
    {round : Round} {s s' t : ScanState} (hrun : readPart level groups s = .ok (round, s'))
    (hlevel : SameBare Level.bare level level')
    (hgroups : SameBare (List.map GroupFrame.bare) groups groups')
    (hrespelled : Regrouped places s.place.index s.rest t.rest) (halike : s.Alike t)
    (hfree : ∀ i, s.place.index < i → i < s'.place.index → ¬places i) :
    ∃ round' t', readPart level' groups' t = .ok (round', t') ∧
      Regrouped places s'.place.index s'.rest t'.rest ∧ s'.Alike t' ∧
      SameBare Round.bare round round' := by
  have hfree' : ∀ i, i < s'.place.index → ¬(places i ∧ s.place.index < i) :=
    fun i hlt hplace => hfree i hplace.2 hlt hplace.1
  have hforget : ∀ {i : Nat} {text text' : List Char},
      Regrouped (fun j => places j ∧ s.place.index < j) i text text' →
      Regrouped places i text text' :=
    fun h => h.imp fun _ _ _ hplace => ⟨hplace.1, hplace.2.1⟩
  rcases hrespelled.cases_first with hsame | ⟨name, after, after', hname, hs, ht, hafter⟩
  · obtain ⟨round', t', hrun', hrest, halike', hround⟩ :=
      (Advances.readPart hlevel hgroups s).mirrors.run hrun hsame halike fun i _ => hfree' i
    exact ⟨round', t', hrun', hforget hrest, halike', hround⟩
  · obtain ⟨paren, hpart⟩ := readPart_writeToken external level groups hname hs
    obtain ⟨paren', hpart'⟩ := readPart_writeToken internal level' groups' hname ht
    rw [hpart] at hrun
    rw [hpart', halike.verbose]
    have hmirror : Mirrors (fun j => places j ∧ s.place.index < j) (SameBare Round.bare)
        (s.pass external.groupOpening (name ++ '>' :: after))
        (readNamed >>= enter level groups paren s.verbose)
        (readNamed >>= enter level' groups' paren' s.verbose) :=
      (Mirrors.readNamed _).bind fun _ _ s₁ _ h => .enter s.verbose hlevel hgroups h s₁
    -- behind what opens the group, both texts go on with its name
    have hnamed : Regrouped (fun j => places j ∧ s.place.index < j)
        (s.place.index + external.groupOpening.length)
        (name ++ ['>'] ++ after) (name ++ ['>'] ++ after') := by
      refine .append _ ?_
      rwa [Nat.add_assoc, ← List.length_append, ← List.append_assoc]
    rw [← s.place.index_after external.groupOpening, List.append_assoc, List.append_assoc]
      at hnamed
    obtain ⟨round', t', hrun', hrest, halike', hround⟩ := hmirror.run
      (t := t.pass internal.groupOpening (name ++ '>' :: after')) hrun hnamed
      ⟨halike.verbose, halike.captures, halike.names⟩ fun i _ => hfree' i
    exact ⟨round', t', hrun', hforget hrest, halike', hround⟩

theorem readPart_nil {level : Level} {groups : List GroupFrame} {s : ScanState}
    (hrest : s.rest = []) : Yields s (readPart level groups) fun round _ =>
      ∃ ast, round = .done ast := by
  unfold readPart
  refine .next? ?_
  rw [hrest]
  cases groups with
  | nil => exact .here (.pure ⟨_, rfl⟩)
  | cons group groups => exact .of_fails (fails_fail _ _)

/-- A round that does not end the reading passes something. -/
theorem passes_of_more {level level' : Level} {groups groups' : List GroupFrame}
    {s s' : ScanState} (h : readPart level groups s = .ok (.more level' groups', s')) :
    s'.rest.length < s.rest.length ∧ s.place.index < s'.place.index := by
  have hne : s.rest ≠ [] := by
    intro hrest
    obtain ⟨ast, hdone⟩ := readPart_nil hrest _ _ h
    cases hdone
  have hadvances := Advances.readPart_self level groups s
  exact ⟨hadvances.shrinks hne _ _ h, hadvances.index_lt h hne⟩

/-- **The reading of both patterns, round by round**: if groups are respelled only where the
first reading finds groups, the second ends with the same expression. -/
theorem readLevels_regrouped (n m : Nat) {level level' : Level} {groups groups' : List GroupFrame}
    {ast : Ast} {s s' t : ScanState} (hrun : readLevels n level groups s = .ok (ast, s'))
    (hn : s.rest.length < n) (hm : t.rest.length < m)
    (hlevel : SameBare Level.bare level level')
    (hgroups : SameBare (List.map GroupFrame.bare) groups groups')
    (hrespelled : Regrouped places s.place.index s.rest t.rest) (halike : s.Alike t)
    (hplaces : ∀ i, s.place.index ≤ i → places i → i ∈ ast.groupStarts)
    (hseen : ∀ i ∈ (Round.more level groups).groupStarts, i < s.place.index) :
    ∃ ast' t', readLevels m level' groups' t = .ok (ast', t') ∧ SameBare Ast.bare ast ast' := by
  induction n generalizing m level level' groups groups' s t with
  | zero => exact absurd hn (Nat.not_lt_zero _)
  | succ n ih =>
    obtain ⟨m, rfl⟩ : ∃ m', m = m' + 1 := ⟨m - 1, by omega⟩
    rw [readLevels_succ] at hrun ⊢
    obtain ⟨_, s₁, hblanks, hrun⟩ := bind_eq_ok_iff.mp hrun
    obtain ⟨round, s₂, hpart, hnext⟩ := bind_eq_ok_iff.mp hrun
    have hle₁ := (@Mirrors.bumpBlanks places s).index_le hblanks
    have hle₂ := (Advances.readPart_self level groups s₁).mirrors.index_le hpart
    -- what is respelled further on is where this round starts, or behind it
    have hwhere : ∀ i, s.place.index ≤ i → places i → i = s₁.place.index ∨ s₂.place.index ≤ i := by
      intro i hle hplace
      rcases mem_groupStarts_of_next n hnext (hplaces i hle hplace) with h | h
      · rcases mem_groupStarts_of_readPart hpart h with h | h
        · exact absurd (hseen i h) (Nat.not_lt.mpr hle)
        · exact .inl h
      · exact .inr h
    obtain ⟨_, t₁, hblanks', hrespelled₁, halike₁, -⟩ :=
      Mirrors.bumpBlanks.run hblanks hrespelled halike fun i hle hlt hplace => by
        have := hwhere i hle hplace
        omega
    obtain ⟨round', t₂, hpart', hrespelled₂, halike₂, hround⟩ :=
      readPart_regrouped hpart hlevel hgroups hrespelled₁ halike₁ fun i hle hlt hplace => by
        have := hwhere i (by omega) hplace
        omega
    rw [bind_eq hblanks', bind_eq hpart']
    cases round with
    | done ast₁ =>
      cases round' with
      | more level₁ groups₁ => cases hround
      | done ast₁' =>
        obtain ⟨rfl, -⟩ := Prod.mk.inj (Except.ok.inj hnext)
        exact ⟨ast₁', t₂, rfl, Round.done.inj hround⟩
    | more level₁ groups₁ =>
      cases round' with
      | done ast₁' => cases hround
      | more level₁' groups₁' =>
        obtain ⟨hlevel₁, hgroups₁⟩ := Round.more.inj hround
        obtain ⟨hshorter, hlt⟩ := passes_of_more hpart
        obtain ⟨hshorter', -⟩ := passes_of_more hpart'
        have hblank := (@Mirrors.bumpBlanks nowhere s).length_le hblanks
        have hblank' := (@Mirrors.bumpBlanks nowhere t).length_le hblanks'
        refine ih m hnext (by omega) (by omega) hlevel₁ hgroups₁ hrespelled₂ halike₂ ?_ ?_
        · exact fun i hle hplace => hplaces i (by omega) hplace
        · intro i hi
          rcases mem_groupStarts_of_readPart hpart hi with h | rfl
          · exact Nat.lt_of_lt_of_le (hseen i h) (Nat.le_trans hle₁ hle₂)
          · exact hlt

/-- **A pattern whose groups are respelled is read as the same expression.** -/
theorem Ast.read_regrouped {pattern pattern' : List Char} {ast : Ast}
    (hread : Ast.read pattern = .ok ast) (hrespelled : Regrouped places 0 pattern pattern')
    (hplaces : ∀ i, places i → i ∈ ast.groupStarts) :
    ∃ ast', Ast.read pattern' = .ok ast' ∧ ast'.bare = ast.bare := by
  obtain ⟨s', hrun⟩ := Ast.read_eq_ok_iff.mp hread
  obtain ⟨ast', t', hrun', hbare⟩ := readLevels_regrouped (pattern.length + 1)
    (pattern'.length + 1) (t := ⟨pattern', .start, false, 0, []⟩) hrun (Nat.lt_succ_self _)
    (Nat.lt_succ_self _) rfl rfl hrespelled ⟨rfl, rfl, rfl⟩ (fun i _ => hplaces i)
    (by rintro i ⟨⟩)
  exact ⟨ast', Ast.read_eq_ok_iff.mpr ⟨t', hrun'⟩, hbare.symm⟩

end Regex

/-! ## Whole patterns -/

open Dialect (externalTokens pieces)

/-- Whether all that is respelled in a pattern is the start of a named group, where the
pattern as written has a group. -/
def tokensAreGroups (pattern : String) : Bool :=
  match Regex.Ast.read pattern.toList with
  | .error _ => false
  | .ok ast => (externalTokens 0 (pieces pattern.toList)).all fun (kind, i) =>
      kind = .group ∧ i ∈ ast.groupStarts

/-- **Translation preserves meaning**: where what is respelled are groups, a pattern that is
a regular expression as written is the same one in the internal dialect, with the same
named groups and the same matches. -/
theorem compile_toInternal {pattern : String} {r : Regex} (h : Regex.compile pattern = .ok r)
    (hgroups : tokensAreGroups pattern) : Regex.compile (toInternal pattern) = .ok r := by
  obtain ⟨e, hmeans, -, -⟩ := Regex.compile_eq_ok_iff.mp h
  obtain ⟨ast, hread, -, -⟩ := Regex.meaning_eq_ok_iff.mp hmeans
  rw [tokensAreGroups, hread, List.all_eq_true] at hgroups
  have hrespelled : Regex.Regrouped (· ∈ ast.groupStarts) 0 pattern.toList
      (toInternal pattern).toList :=
    (Dialect.respelled_toInternal pattern).imp fun kind i _ htoken => by
      simpa using hgroups (kind, i) htoken
  obtain ⟨ast', hread', hbare⟩ := Regex.Ast.read_regrouped hread hrespelled fun _ => id
  exact Regex.compile_eq_ok_of_bare_eq hread hread' hbare h

/-- A named group and a group name between brackets that the rewriter leaves alone. -/
theorem compile_toInternal_named : ∃ r, Regex.compile "(?P<show>[(?P<]+)" = .ok r ∧
    tokensAreGroups "(?P<show>[(?P<]+)" ∧
    Regex.compile (toInternal "(?P<show>[(?P<]+)") = .ok r := by
  have hgroups : tokensAreGroups "(?P<show>[(?P<]+)" := by decide +kernel
  have hok : (Regex.compile "(?P<show>[(?P<]+)").toOption.isSome := by decide +kernel
  cases h : Regex.compile "(?P<show>[(?P<]+)" with
  | error e => rw [h] at hok; cases hok
  | ok r => exact ⟨r, rfl, hgroups, compile_toInternal h hgroups⟩

/-- Between brackets that hold a class with a name, a member is lost: the rewriter takes the
end of the class for the end of the brackets, and what follows for a group. -/
theorem toInternal_loses_member :
    toInternal "[[:digit:](?P<x>]" = "[[:digit:](?<x>]" ∧
    tokensAreGroups "[[:digit:](?P<x>]" = false ∧
    (Regex.compile "[[:digit:](?P<x>]").toOption.map (·.isMatch ['P']) = some true ∧
    (Regex.compile (toInternal "[[:digit:](?P<x>]")).toOption.map (·.isMatch ['P']) =
      some false := by
  refine ⟨?_, ?_, ?_, ?_⟩ <;> decide +kernel

end StreamNames
