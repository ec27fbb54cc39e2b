import StreamNames.Proofs.Regex.Reader.Rounds

/-!
# Where groups start

The groups of an expression start where a parenthesis was next at the beginning of a round.
So what was read before a place decides which groups start before it.

- `Ast.groupStarts`: the places of the groups.
- `mem_groupStarts_of_readPart`: what one round adds.
- `mem_groupStarts_of_next`: what the rest of the reading adds.
-/

namespace StreamNames

namespace Regex

open Scan

/-- The place where a group starts. -/
def Ast.groupStart? : Ast → Option Nat
  | .group span _ _ => some span.start.index
  | _ => none

/-- The places where the groups of an expression start. -/
def Ast.groupStarts (ast : Ast) : List Nat := ast.parts.filterMap Ast.groupStart?

theorem Ast.groupStart?_eq_none {ast : Ast} (h : ast.isLeaf ∨ ast.isJoint) :
    ast.groupStart? = none := by
  cases ast <;> first | rfl | (rcases h with h | h <;> cases h)

/-- The places where the groups that are open start. -/
def Round.openStarts : Round → List Nat
  | done _ => []
  | more _ groups => groups.map (·.paren.start.index)

/-- The places where the groups that were read start, also those that are open. -/
def Round.groupStarts (round : Round) : List Nat :=
  round.parts.filterMap Ast.groupStart? ++ round.openStarts

theorem Round.mem_openStarts_of_part {level : Level} {groups : List GroupFrame} {s s' : ScanState}
    {round : Round} {i : Nat} (h : Part level groups s s' round) (hi : i ∈ round.openStarts) :
    i ∈ (Round.more level groups).openStarts ∨ i = s.place.index := by
  cases h with
  | done => cases hi
  | opened kind verbose hparen =>
    rcases List.mem_cons.mp hi with rfl | hi
    · exact .inr (congrArg Position.index hparen)
    · exact .inl hi
  | closed heq =>
    rw [heq]
    exact .inl (List.mem_cons_of_mem _ hi)
  | _ => exact .inl hi

theorem mem_groupStarts_of_part {level : Level} {groups : List GroupFrame} {round : Round}
    {s s' : ScanState} {i : Nat} (hpart : Part level groups s s' round)
    (hi : i ∈ round.groupStarts) :
    i ∈ (Round.more level groups).groupStarts ∨ i = s.place.index := by
  rcases List.mem_append.mp hi with hi | hi
  · obtain ⟨part, hmem, hstart⟩ := List.mem_filterMap.mp hi
    rcases mem_parts_of_part hpart hmem with hold | hadded
    · exact .inl (List.mem_append_left _ (List.mem_filterMap.mpr ⟨part, hold, hstart⟩))
    · -- a group that is closed here was opened before
      cases hadded with
      | leaf hleaf => exact absurd hstart (by simp [Ast.groupStart?_eq_none (.inl hleaf)])
      | joint hjoint => exact absurd hstart (by simp [Ast.groupStart?_eq_none (.inr hjoint)])
      | repeated => cases hstart
      | counted => cases hstart
      | closed hgroup =>
        cases hstart
        exact .inl (List.mem_append_right _ (List.mem_map_of_mem hgroup))
  · exact (Round.mem_openStarts_of_part hpart hi).imp_left (List.mem_append_right _)

/-- **What one round adds**: at most a group that starts where the round does. -/
theorem mem_groupStarts_of_readPart {level : Level} {groups : List GroupFrame} {round : Round}
    {s s' : ScanState} {i : Nat} (hrun : readPart level groups s = .ok (round, s'))
    (hi : i ∈ round.groupStarts) :
    i ∈ (Round.more level groups).groupStarts ∨ i = s.place.index :=
  mem_groupStarts_of_part (part_of_readPart level groups s round s' hrun) hi

theorem Round.groupStarts_done (ast : Ast) : (done ast).groupStarts = ast.groupStarts :=
  List.append_nil _

/-- **What the rest of the reading adds**: no group that starts before it. -/
theorem mem_groupStarts_of_next (n : Nat) {round : Round} {ast : Ast} {s s' : ScanState} {i : Nat}
    (hrun : round.next n s = .ok (ast, s')) (hi : i ∈ ast.groupStarts) :
    i ∈ round.groupStarts ∨ s.place.index ≤ i := by
  -- the place only grows, so groups of later rounds start behind the place as well
  induction n generalizing round s with
  | zero =>
    cases round with
    | done ast' =>
      obtain ⟨rfl, -⟩ := Prod.mk.inj (Except.ok.inj hrun)
      exact .inl (by rwa [Round.groupStarts_done])
    | more level groups =>
      cases hrun
      rw [← Round.groupStarts_done] at hi
      have hpart : Part level groups s' s' (.done (level.close s'.place)) := .done
      exact (mem_groupStarts_of_part hpart hi).imp_right (Nat.le_of_eq ∘ Eq.symm)
  | succ n ih =>
    cases round with
    | done ast' =>
      obtain ⟨rfl, -⟩ := Prod.mk.inj (Except.ok.inj hrun)
      exact .inl (by rwa [Round.groupStarts_done])
    | more level groups =>
      rw [Round.next, readLevels_succ] at hrun
      obtain ⟨_, s₁, hblanks, hrun⟩ := bind_eq_ok_iff.mp hrun
      obtain ⟨round, s₂, hpart, hnext⟩ := bind_eq_ok_iff.mp hrun
      have hle₁ := (@Mirrors.bumpBlanks nowhere s).index_le hblanks
      have hle₂ := (Advances.readPart_self level groups s₁).mirrors.index_le hpart
      rcases ih hnext with h | h
      · rcases mem_groupStarts_of_readPart hpart h with h | rfl
        · exact .inl h
        · exact .inr hle₁
      · exact .inr (Nat.le_trans hle₁ (Nat.le_trans hle₂ h))

end Regex

end StreamNames
