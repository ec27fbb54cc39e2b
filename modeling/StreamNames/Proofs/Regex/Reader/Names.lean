import Mathlib.Data.List.Perm.Subperm
import StreamNames.Proofs.Regex.Ast.Bare
import StreamNames.Proofs.Regex.Reader.Recorded
import StreamNames.Proofs.Regex.Reader.Rounds

/-!
# Names of groups

The groups of an expression have different names, since a name is given once.

- `Ast.names`: the names of the groups of an expression.
- `names_of_part`: a round adds the names of the groups that it opens.
- `nodup_names_of_read`: no name is given twice.
-/

namespace StreamNames

namespace Regex

open Scan

/-! ## The names of an expression -/

/-- The name of a group. -/
def Ast.groupName? : Ast → Option String
  | .group _ (.capture _ name) _ => name
  | _ => none

/-- The names of the groups of an expression, in the order in which they open. -/
def Ast.names (ast : Ast) : List String := ast.parts.filterMap Ast.groupName?

theorem Ast.names_of_isLeaf {ast : Ast} (h : ast.isLeaf) : ast.names = [] := by
  rw [names, parts_of_isLeaf h]
  cases ast <;> first | rfl | cases h

theorem Ast.names_repetition (span : Span) (counts : Counts) (counted greedy : Bool) (body : Ast) :
    (Ast.repetition span counts counted greedy body).names = body.names := rfl

theorem Ast.names_group (span : Span) (kind : GroupKind) (body : Ast) :
    (Ast.group span kind body).names = kind.names ++ body.names := by
  rcases kind with ⟨index, _ | name⟩ | flags <;> rfl

theorem Ast.filterMap_partsAll (asts : List Ast) :
    (partsAll asts).filterMap groupName? = asts.flatMap names := by
  induction asts with
  | nil => rfl
  | cons ast asts ih => rw [partsAll, List.filterMap_append, ih, List.flatMap_cons, names]

theorem Ast.names_alternation (span : Span) (branches : List Ast) :
    (Ast.alternation span branches).names = branches.flatMap names :=
  filterMap_partsAll branches

theorem Ast.names_concat (span : Span) (items : List Ast) :
    (Ast.concat span items).names = items.flatMap names :=
  filterMap_partsAll items

/-! ## The names of what was read -/

/-- The names of the groups of a level that are closed. -/
def Level.names (level : Level) : List String :=
  level.items.flatMap Ast.names ++ level.branches.flatMap Ast.names

theorem Level.names_branch (level : Level) (stop : Position) :
    (level.branch stop).names.Perm (level.items.flatMap Ast.names) := by
  unfold Level.branch
  split
  · next hitems => rw [hitems]; exact .refl []
  · next item hitems => rw [hitems, List.flatMap_singleton]
  · rw [Ast.names_concat]
    exact (List.reverse_perm _).flatMap_right _

theorem Level.names_close (level : Level) (stop : Position) :
    (level.close stop).names.Perm level.names := by
  unfold Level.close
  split
  · next hbranches =>
    rw [Level.names, hbranches, List.flatMap_nil, List.append_nil]
    exact level.names_branch stop
  · rw [Ast.names_alternation]
    refine ((List.reverse_perm _).flatMap_right _).trans ?_
    rw [List.flatMap_cons]
    exact (level.names_branch stop).append_right _

/-- The names of the groups that were read, also of those that are open. -/
def Round.names : Round → List String
  | done ast => ast.names
  | more level groups =>
    level.names ++ groups.flatMap fun group => group.kind.names ++ group.outer.names

/-- Another item of a level. -/
theorem Round.names_push (level : Level) (groups : List GroupFrame) (item : Ast) :
    (more ⟨level.branches, level.branchStart, item :: level.items, level.start⟩ groups).names =
      item.names ++ (more level groups).names := by
  simp only [names, Level.names, List.flatMap_cons, List.append_assoc]

/-- An item that takes the place of the last one. -/
theorem Round.names_replace {level : Level} (groups : List GroupFrame) {item item' : Ast}
    {before : List Ast} (hitems : level.items = item :: before)
    (hnames : item'.names = item.names) :
    (more ⟨level.branches, level.branchStart, item' :: before, level.start⟩ groups).names =
      (more level groups).names := by
  simp only [names, Level.names, hitems, List.flatMap_cons, hnames]

/-- **A round adds the names of the groups that it opens.** -/
theorem names_of_part {level : Level} {groups : List GroupFrame} {s s' : ScanState}
    {round : Round} (h : Part level groups s s' round) :
    round.names.Subperm (round.entered groups.length ++ (Round.more level groups).names) := by
  cases h with
  | done =>
    have hclose : (level.close s.place).names.Subperm level.names :=
      (level.names_close s.place).subperm
    exact hclose.trans (List.sublist_append_left _ _).subperm
  | @leaf item hleaf _ =>
    rw [Round.entered_more, Round.names_push, Ast.names_of_isLeaf hleaf]
  | repeated hitems _ =>
    rw [Round.entered_more, Round.names_replace groups hitems (Ast.names_repetition ..),
      List.nil_append]
  | counted hitems _ _ _ =>
    rw [Round.entered_more, Round.names_replace groups hitems (Ast.names_repetition ..),
      List.nil_append]
  | opened kind verbose _ =>
    -- only here are there names which were not there before
    refine (List.perm_iff_count.mpr fun name => ?_).subperm
    simp [Round.names, Round.entered, Level.names, Level.new]
  | @closed group outer hgroups =>
    -- the names of the innermost group move to the level around it
    subst hgroups
    have hclose := (level.names_close s.place).count_eq
    refine (List.perm_iff_count.mpr fun name => ?_).subperm
    rw [Round.names_push, Ast.names_group]
    simp [Round.names, Round.entered, hclose]
    omega
  | branch =>
    have hbranch := (level.names_branch s.place).count_eq
    refine (List.perm_iff_count.mpr fun name => ?_).subperm
    rw [Round.entered_more]
    simp [Round.names, Level.names, hbranch]

/-! ## The names of a pattern -/

/-- What was read has the names that are recorded, each at most once. -/
structure Tracked (round : Round) (s : ScanState) : Prop where
  recorded : round.names.Subperm (s.names.map Prod.fst)
  nodup : (s.names.map Prod.fst).Nodup

/-- A round keeps track of the names. -/
theorem Tracked.readPart {level : Level} {groups : List GroupFrame} {round : Round}
    {s s' : ScanState} (h : Tracked (.more level groups) s)
    (hrun : readPart level groups s = .ok (round, s')) : Tracked round s' := by
  have hpart := names_of_part (part_of_readPart level groups s round s' hrun)
  obtain ⟨hrecorded, hnodup⟩ := GivesNames.readPart s.names level groups s rfl round s' hrun
  refine ⟨?_, hnodup h.nodup⟩
  rw [hrecorded]
  exact hpart.trans ((List.subperm_append_left _).mpr h.recorded)

/-- So does the rest of the reading. -/
theorem Tracked.next (n : Nat) {round : Round} {ast : Ast} {s s' : ScanState}
    (h : Tracked round s) (hrun : round.next n s = .ok (ast, s')) : Tracked (.done ast) s' := by
  -- on the rounds that are left; each one keeps track by `Tracked.readPart`
  induction n generalizing round s with
  | zero =>
    cases round with
    | done ast' =>
      cases hrun
      exact h
    | more level groups =>
      -- without rounds the level is closed as at the end of a pattern
      cases hrun
      have hpart : Part level groups s' s' (.done (level.close s'.place)) := .done
      exact ⟨(names_of_part hpart).trans h.recorded, h.nodup⟩
  | succ n ih =>
    cases round with
    | done ast' =>
      cases hrun
      exact h
    | more level groups =>
      rw [Round.next, readLevels_succ] at hrun
      obtain ⟨_, s₁, hblanks, hrun⟩ := bind_eq_ok_iff.mp hrun
      obtain ⟨round, s₂, hpart, hnext⟩ := bind_eq_ok_iff.mp hrun
      have hsame : s₁.names = s.names := KeepsNames.bumpBlanks s rfl _ s₁ hblanks
      have h₁ : Tracked (.more level groups) s₁ :=
        ⟨hsame ▸ h.recorded, hsame ▸ h.nodup⟩
      exact ih (h₁.readPart hpart) hnext

/-- **The groups of an expression have different names.** -/
theorem Ast.nodup_names_of_read {pattern : List Char} {ast : Ast}
    (h : Ast.read pattern = .ok ast) : ast.names.Nodup := by
  obtain ⟨s', hrun⟩ := Ast.read_eq_ok_iff.mp h
  have hstart : Tracked (.more (.new .start) []) ⟨pattern, .start, false, 0, []⟩ :=
    ⟨List.nil_subperm, List.nodup_nil⟩
  obtain ⟨hrecorded, hnodup⟩ := hstart.next (pattern.length + 1) hrun
  obtain ⟨names, hperm, hsub⟩ := hrecorded
  exact hperm.nodup_iff.mp (hnodup.sublist hsub)

/-! ## The names of what it means -/

/-- The names of the groups of an expression that record something. -/
def Expr.names (e : Expr) : List String := e.groups.filterMap Prod.snd

theorem Expr.map_snd_namedGroups (e : Expr) : e.namedGroups.map Prod.snd = e.names := by
  rw [namedGroups, names, List.map_filterMap]
  refine List.filterMap_congr fun ⟨index, name⟩ _ => ?_
  cases name <;> rfl

theorem Expr.names_group (index : Nat) (name : Option String) (body : Expr) :
    (Expr.group index name body).names = name.toList ++ body.names := by
  cases name <;> rfl

theorem Expr.names_repeated (body : Expr) (min : Nat) (max : Option Nat) (greedy : Bool) :
    (body.repeated min max greedy).names.Sublist body.names := by
  unfold repeated
  -- whatever the counts, the body is repeated or left out
  generalize (if body.isZeroWidth then _ else _ : Nat × Option Nat) = counts
  obtain ⟨min, max⟩ := counts
  dsimp only
  split
  · exact List.nil_sublist _
  · split <;> exact List.Sublist.refl _

theorem Expr.names_append (first second : Expr) :
    (first.groups ++ second.groups).filterMap Prod.snd = first.names ++ second.names :=
  List.filterMap_append

theorem Expr.names_sequence (es : List Expr) : (sequence es).names = es.flatMap names := by
  fun_induction sequence es with
  | case1 => rfl
  | case2 e => rw [List.flatMap_singleton]
  | case3 e es hne ih => rw [List.flatMap_cons, ← ih, ← names_append, names, groups]

theorem Expr.names_choice (es : List Expr) : (choice es).names = es.flatMap names := by
  fun_induction choice es with
  | case1 => rfl
  | case2 e => rw [List.flatMap_singleton]
  | case3 e es hne ih => rw [List.flatMap_cons, ← ih, ← names_append, names, groups]

theorem exceptBind_eq_ok_iff {α β : Type} {x : Except Fault α} {f : α → Except Fault β} {y : β} :
    (x >>= f) = .ok y ↔ ∃ a, x = .ok a ∧ f a = .ok y := by
  cases x with
  | error fault => simp [bind, Except.bind]
  | ok a => simp [bind, Except.bind]

/-- The meaning of a part that records nothing. -/
theorem names_of_set {x : Except Fault CharSet} {flags flags' : Flags} {e : Expr}
    (h : (do return (Expr.set (← x), flags)) = .ok (e, flags')) : e.names = [] := by
  obtain ⟨set, -, h⟩ := exceptBind_eq_ok_iff.mp h
  cases h
  rfl

mutual

/-- **What an expression means has no names but those of its groups**, and those in order. -/
theorem Ast.names_meaning {flags flags' : Flags} {e : Expr} :
    ∀ ast : Ast, ast.meaning flags = .ok (e, flags') → e.names.Sublist ast.names
  | .empty _, h | .flags _ _, h | .assertion _ _, h => by
    rw [Ast.meaning] at h
    cases h
    exact List.nil_sublist _
  | .literal l, h => by
    rw [names_of_set h]
    exact List.nil_sublist _
  | .dot span, h => by
    rw [names_of_set h]
    exact List.nil_sublist _
  | .property span negated name, h => by
    rw [names_of_set h]
    exact List.nil_sublist _
  | .perl span negated kind, h => by
    rw [names_of_set h]
    exact List.nil_sublist _
  | .bracketed span negated body, h => by
    obtain ⟨s, -, h⟩ := exceptBind_eq_ok_iff.mp h
    rw [names_of_set h]
    exact List.nil_sublist _
  | .repetition _ counts _ greedy body, h => by
    obtain ⟨⟨e, flags⟩, hbody, h⟩ := exceptBind_eq_ok_iff.mp h
    cases h
    exact (Expr.names_repeated ..).trans (Ast.names_meaning body hbody)
  -- only a capture adds a name, in front of those of its body
  | .group _ (.capture index name) body, h => by
    obtain ⟨⟨e, flags⟩, hbody, h⟩ := exceptBind_eq_ok_iff.mp h
    cases h
    rw [Ast.names_group, Expr.names_group]
    exact (Ast.names_meaning body hbody).append_left _
  | .group _ (.plain items) body, h => by
    obtain ⟨⟨e, flags⟩, hbody, h⟩ := exceptBind_eq_ok_iff.mp h
    cases h
    rw [Ast.names_group]
    exact Ast.names_meaning body hbody
  | .alternation _ branches, h => by
    obtain ⟨⟨es, flags⟩, hbranches, h⟩ := exceptBind_eq_ok_iff.mp h
    cases h
    rw [Ast.names_alternation, Expr.names_choice]
    exact Ast.names_meanings branches hbranches
  | .concat _ items, h => by
    obtain ⟨⟨es, flags⟩, hitems, h⟩ := exceptBind_eq_ok_iff.mp h
    cases h
    rw [Ast.names_concat, Expr.names_sequence]
    exact Ast.names_meanings items hitems

theorem Ast.names_meanings {flags flags' : Flags} {es : List Expr} :
    ∀ items : List Ast, Ast.meanings flags items = .ok (es, flags') →
      (es.flatMap Expr.names).Sublist (items.flatMap Ast.names)
  | [], h => by
    cases h
    exact List.nil_sublist _
  | item :: items, h => by
    obtain ⟨⟨e, flags⟩, hitem, h⟩ := exceptBind_eq_ok_iff.mp h
    obtain ⟨⟨es, flags⟩, hitems, h⟩ := exceptBind_eq_ok_iff.mp h
    cases h
    rw [List.flatMap_cons, List.flatMap_cons]
    exact (Ast.names_meaning item hitem).append (Ast.names_meanings items hitems)

end

/-- **The named groups of a compiled expression have different names.** -/
theorem nodup_groupNames_of_compile {pattern : String} {r : Regex}
    (h : compile pattern = .ok r) : r.groupNames.Nodup := by
  obtain ⟨e, hmeans, -, rfl⟩ := compile_eq_ok_iff.mp h
  obtain ⟨ast, hread, -, he⟩ := meaning_eq_ok_iff.mp hmeans
  have hnames : e.names.Sublist ast.names := by
    cases hmeaning : ast.meaning .initial with
    | error f =>
      rw [hmeaning] at he
      cases he
    | ok found =>
      rw [hmeaning] at he
      cases he
      exact Ast.names_meaning ast hmeaning
  rw [groupNames, Expr.map_snd_namedGroups]
  exact (Ast.nodup_names_of_read hread).sublist hnames

end Regex

end StreamNames
