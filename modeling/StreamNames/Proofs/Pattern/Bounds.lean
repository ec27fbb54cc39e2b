import StreamNames.Proofs.Pattern.Acceptance
import StreamNames.Proofs.Regex.Reader.Rounds

/-!
# Repetitions are limited as they are read

The limit on repetitions is checked against the bounds that pricing finds in the text of a
pattern. These are the bounds of its repetitions, provided that pricing finds quantifiers
where the pattern has repetitions with bounds: directly behind what is repeated, and
nowhere else.

- `Regex.bound_of_read`: the same bound is found at the same place.
- `quantifiersAreCounted`: that quantifiers are found at the right places.
- `measuresRepetitions`: what is measured, what is accepted and what is refused.
-/

namespace StreamNames

namespace Regex

open Scan
open StreamNames.Unicode (isWhitespace)

/-- The place behind what a repetition with bounds repeats, and its bound. -/
def Ast.counted? : Ast → Option (Nat × Nat)
  | .repetition _ counts true _ item => some (item.span.stop.index, counts.bound)
  | _ => none

/-- The repetitions with bounds of an expression. -/
def Ast.counted (ast : Ast) : List (Nat × Nat) := ast.parts.filterMap Ast.counted?

/-- Where a quantifier stands at the place of a repetition with bounds, it has the same
bound. -/
def Ast.Priced (text : List Char) (part : Ast) : Prop :=
  ∀ place bound, part.counted? = some (place, bound) → ∀ before rest q after,
    text = before ++ '\x7b' :: rest → place = before.length →
    Quantifier.read? rest = some (q, after) → bound = q.bound

theorem Ast.Priced.of_isLeaf {text : List Char} {part : Ast} (h : part.isLeaf ∨ part.isJoint) :
    part.Priced text := by
  intro place bound hcounted
  cases part <;> first | cases hcounted | (rcases h with h | h <;> cases h)

/-- A text of which a state has read the beginning. -/
def ScanState.Within (s : ScanState) (text : List Char) : Prop :=
  ∃ before, text = before ++ s.rest ∧ before.length = s.place.index

theorem Mirrors.within {α β : Type} {places : Nat → Prop} {related : α → β → Prop}
    {s s' : ScanState} {f : Scan α} {g : Scan β} {x : α} {text : List Char}
    (h : Mirrors places related s f g) (hf : f s = .ok (x, s')) (hwithin : s.Within text) :
    s'.Within text := by
  obtain ⟨before, rfl, hplace⟩ := hwithin
  obtain ⟨passed, hrest, hplace', -⟩ := h x s' hf
  exact ⟨before ++ passed, by rw [hrest, List.append_assoc], by
    rw [List.length_append, hplace, hplace']⟩

/-- The last item of a level ends at a place, if it can be repeated. -/
def Level.EndsAt (level : Level) (place : Position) : Prop :=
  ∀ item before, level.items = item :: before → item.isOperand → item.span.stop = place

/-- A round leaves off where the last item ends. -/
theorem endsAt_of_part {level level' : Level} {groups groups' : List GroupFrame}
    {s s' : ScanState} (h : Part level groups s s' (.more level' groups')) :
    level'.EndsAt s'.place := by
  intro item before hitems hoperand
  -- the kind of part decides what is now the last item of the level
  cases h with
  | leaf _ hstop =>
    obtain ⟨rfl, -⟩ := List.cons.inj hitems
    exact hstop hoperand
  | repeated _ hstop =>
    obtain ⟨rfl, -⟩ := List.cons.inj hitems
    exact hstop
  | counted _ _ hstop _ =>
    obtain ⟨rfl, -⟩ := List.cons.inj hitems
    exact hstop
  | opened kind verbose _ => cases hitems
  | closed _ =>
    obtain ⟨rfl, -⟩ := List.cons.inj hitems
    rfl
  | branch => cases hitems

/-- **What one round adds is priced.** The last item ends where the blanks before the round
start; a quantifier there comes before any blank. -/
theorem priced_of_added {level : Level} {groups : List GroupFrame} {s s₁ s₂ : ScanState}
    {text : List Char} {part : Ast} (hblanks : bumpBlanks s = .ok ((), s₁))
    (hadded : Added level groups s₁ s₂ part) (hwithin : s.Within text)
    (hstop : level.EndsAt s.place) : part.Priced text := by
  cases hadded with
  | leaf hleaf => exact .of_isLeaf (.inl hleaf)
  | joint hjoint => exact .of_isLeaf (.inr hjoint)
  | repeated => rintro place bound ⟨⟩
  | closed _ => rintro place bound ⟨⟩
  | @counted span counts greedy item items hitems hoperand hpriced =>
    rintro place bound ⟨⟩ before rest q after htext hplace hread
    obtain ⟨passed, hpassed, hindex⟩ := hwithin
    -- the item ends where the brace stands, so no blanks come before the round
    have hlength : before.length = passed.length := by
      rw [← hplace, hindex, hstop item items hitems hoperand]
    obtain ⟨-, hrest⟩ := List.append_inj (htext.symm.trans hpassed) hlength
    have hnone : bumpBlanks s = .ok ((), s) :=
      bumpBlanks_of_solid (by rw [← hrest]; rfl) (by decide) (by decide)
    cases hnone.symm.trans hblanks
    exact hpriced rest q after hrest.symm hread

/-- **All that is read is priced.** -/
theorem priced_of_readLevels (n : Nat) {level : Level} {groups : List GroupFrame} {ast : Ast}
    {s s' : ScanState} {text : List Char} (hrun : readLevels n level groups s = .ok (ast, s'))
    (hwithin : s.Within text) (hstop : level.EndsAt s.place)
    (hparts : ∀ part ∈ (Round.more level groups).parts, part.Priced text) :
    ∀ part ∈ ast.parts, part.Priced text := by
  -- each round hands on that the last item ends at the place and that all parts are priced
  induction n generalizing level groups s with
  | zero =>
    cases hrun
    intro part hmem
    rcases Level.mem_parts_close hmem with hold | hjoint
    · exact hparts part (List.mem_append_left _ hold)
    · exact .of_isLeaf (.inr hjoint)
  | succ n ih =>
    rw [readLevels_succ] at hrun
    obtain ⟨_, s₁, hblanks, hrun⟩ := bind_eq_ok_iff.mp hrun
    obtain ⟨round, s₂, hpart, hnext⟩ := bind_eq_ok_iff.mp hrun
    have hround := part_of_readPart level groups s₁ round s₂ hpart
    have hpriced : ∀ part ∈ round.parts, part.Priced text := by
      intro part hmem
      rcases mem_parts_of_part hround hmem with hold | hadded
      · exact hparts part hold
      · exact priced_of_added hblanks hadded hwithin hstop
    cases round with
    | done ast' =>
      obtain ⟨rfl, -⟩ := Prod.mk.inj (Except.ok.inj hnext)
      exact hpriced
    | more level' groups' =>
      have hwithin₁ := (@Mirrors.bumpBlanks nowhere s).within hblanks hwithin
      have hwithin₂ := (Advances.readPart_self level groups s₁).mirrors.within hpart hwithin₁
      exact ih hnext hwithin₂ (endsAt_of_part hround) hpriced

/-- **The same bound is found at the same place**, by the pricing of a text and by its
reading. -/
theorem bound_of_read {text : List Char} {ast : Ast} (hread : Ast.read text = .ok ast)
    {place bound : Nat} {q : Quantifier} (hcounted : (place, bound) ∈ ast.counted)
    (hquantifier : (place, q) ∈ quantifiersFrom 0 text) : bound = q.bound := by
  obtain ⟨s', hrun⟩ := Ast.read_eq_ok_iff.mp hread
  obtain ⟨part, hmem, hpart⟩ := List.mem_filterMap.mp hcounted
  have hwithin : (⟨text, .start, false, 0, []⟩ : ScanState).Within text := ⟨[], rfl, rfl⟩
  have hpriced := priced_of_readLevels _ hrun hwithin (by rintro _ _ ⟨⟩) (by rintro _ ⟨⟩) part
    hmem
  obtain ⟨before, rest, after, htext, hplace, hq⟩ := mem_quantifiersFrom hquantifier
  exact hpriced place bound hpart before rest q after htext (hplace.trans (Nat.zero_add _)) hq

/-- The bounds of the repetitions of an expression. -/
def Ast.bounds (ast : Ast) : List Nat := ast.counted.map Prod.snd

end Regex

/-! ## Whole patterns -/

/-- Whether the quantifiers that are priced are the repetitions with bounds, by their
places. -/
def quantifiersAreCounted (pattern : String) : Bool :=
  match Regex.Ast.read pattern.toList with
  | .error _ => false
  | .ok ast =>
    let counted := ast.counted.map Prod.fst
    let priced := (quantifiersFrom 0 pattern.toList).map Prod.fst
    counted.all (· ∈ priced) && priced.all (· ∈ counted)

/-- Then both have the same bounds. -/
theorem mem_spelledBounds_iff {pattern : String} {ast : Regex.Ast}
    (hread : Regex.Ast.read pattern.toList = .ok ast) (hplaces : quantifiersAreCounted pattern)
    (bound : Nat) : bound ∈ spelledBounds pattern.toList ↔ bound ∈ ast.bounds := by
  rw [quantifiersAreCounted, hread] at hplaces
  simp only [Bool.and_eq_true, List.all_eq_true, decide_eq_true_eq] at hplaces
  obtain ⟨hpriced, hcounted⟩ := hplaces
  rw [← map_bound_quantifiersFrom 0, Regex.Ast.bounds, List.mem_map, List.mem_map]
  constructor
  · rintro ⟨⟨place, q⟩, hq, rfl⟩
    obtain ⟨⟨_, bound⟩, hbound, rfl⟩ := List.mem_map.mp (hcounted place (List.mem_map_of_mem hq))
    exact ⟨(_, bound), hbound, Regex.bound_of_read hread hbound hq⟩
  · rintro ⟨⟨place, bound⟩, hbound, rfl⟩
    obtain ⟨⟨_, q⟩, hq, rfl⟩ := List.mem_map.mp (hpriced place (List.mem_map_of_mem hbound))
    exact ⟨(_, q), hq, (Regex.bound_of_read hread hbound hq).symm⟩

/-- What a pattern repeats is measured by its pricing and limited as measured. -/
structure MeasuresRepetitions (pattern : String) (bounds : List Nat) : Prop where
  /-- The largest bound is recorded, if there is any. -/
  maxRepetition : (Complexity.analyze pattern).maxRepetition = bounds.max?
  /-- Nothing is accepted that repeats beyond the limit. -/
  accepted : ∀ limits p limit, CompiledPattern.compile limits pattern = .ok p →
    limits.maxRepetition = some limit → ∀ bound ∈ bounds, bound ≤ limit
  /-- Nothing is refused for a repetition within the limit. -/
  refused : ∀ limits bound limit,
    CompiledPattern.compile limits pattern = .error (.limit (.repetition bound limit)) →
      limits.maxRepetition = some limit ∧ bound ∈ bounds ∧ limit < bound

/-- The largest bound depends on the bounds only, not on their order. -/
theorem max?_congr {l l' : List Nat} (h : ∀ n, n ∈ l ↔ n ∈ l') : l.max? = l'.max? :=
  Option.ext fun n => by simp only [List.max?_eq_some_iff, h]

/-- **Repetitions are limited as they are read**: where pricing finds the repetitions of a
pattern, it finds their bounds. -/
theorem measuresRepetitions {pattern : String} {ast : Regex.Ast}
    (hread : Regex.Ast.read (toInternal pattern).toList = .ok ast)
    (hplaces : quantifiersAreCounted (toInternal pattern)) :
    MeasuresRepetitions pattern ast.bounds := by
  -- the largest bound spelled out is the largest one parsed, since the places agree
  have hmax : (Complexity.analyze pattern).maxRepetition = ast.bounds.max? := by
    rw [Complexity.maxRepetition_analyze]
    refine max?_congr fun bound => ?_
    rw [← Dialect.spelledBounds_respell .internal, ← mem_spelledBounds_iff hread hplaces,
      toInternal, String.toList_ofList]
  refine ⟨hmax, ?accepted, ?refused⟩
  case accepted =>
    intro limits p limit hcompile hlimit bound hbound
    obtain ⟨-, hcheck, -⟩ := CompiledPattern.compile_eq_ok_iff.mp hcompile
    obtain ⟨largest, hlargest⟩ := Option.isSome_iff_exists.mp (List.isSome_max?_of_mem hbound)
    have hle : bound ≤ largest := (List.max?_eq_some_iff.mp hlargest).2 bound hbound
    -- beyond the limit the largest bound would be, too, and the pattern refused
    by_contra hlt
    have hrefused : limits.repetitionError? (Complexity.analyze pattern) =
        some (.repetition largest limit) :=
      PatternLimits.repetitionError?_eq_some_iff.mpr
        ⟨limit, largest, hlimit, hmax.trans hlargest, by omega, rfl⟩
    rw [PatternLimits.repetitionError?_of_check hcheck] at hrefused
    cases hrefused
  case refused =>
    intro limits bound limit hcompile
    have hcheck := CompiledPattern.check_of_compile_error hcompile
    obtain ⟨_, _, hlimit, hbound, hlt, ⟨⟩⟩ := PatternLimits.repetitionError?_eq_some_iff.mp
      (PatternLimits.repetitionError?_of_check_error hcheck)
    exact ⟨hlimit, List.max?_mem (hmax.symm.trans hbound), hlt⟩

/-- Repetitions of repetitions, in a group with a name. -/
theorem measuresRepetitions_nested :
    ∃ ast, Regex.Ast.read (toInternal "(?P<n>a\x7b2,5\x7d)\x7b3\x7d").toList = .ok ast ∧
      quantifiersAreCounted (toInternal "(?P<n>a\x7b2,5\x7d)\x7b3\x7d") ∧
      MeasuresRepetitions "(?P<n>a\x7b2,5\x7d)\x7b3\x7d" ast.bounds := by
  have hplaces : quantifiersAreCounted (toInternal "(?P<n>a\x7b2,5\x7d)\x7b3\x7d") := by
    decide +kernel
  have hok : (Regex.Ast.read
      (toInternal "(?P<n>a\x7b2,5\x7d)\x7b3\x7d").toList).toOption.isSome := by
    decide +kernel
  cases h : Regex.Ast.read (toInternal "(?P<n>a\x7b2,5\x7d)\x7b3\x7d").toList with
  | error e => rw [h] at hok; cases hok
  | ok ast => exact ⟨ast, rfl, hplaces, measuresRepetitions h hplaces⟩

/-- Blanks between braces hide a bound from the pricing, and the digits of a code point pass
for one: a repetition beyond the limit is accepted, and a pattern without repetitions is
refused. -/
theorem analyze_misreads_bounds :
    (Regex.Ast.read (toInternal "a\x7b 500 \x7d").toList).toOption.map Regex.Ast.bounds =
      some [500] ∧
    (Complexity.analyze "a\x7b 500 \x7d").maxRepetition = none ∧
    (CompiledPattern.compile ⟨none, some 100⟩ "a\x7b 500 \x7d").toOption.isSome ∧
    (Regex.Ast.read (toInternal "\\x\x7b2014\x7d").toList).toOption.map Regex.Ast.bounds =
      some [] ∧
    (Regex.compile (toInternal "\\x\x7b2014\x7d")).toOption.isSome ∧
    PatternLimits.check ⟨none, some 1000⟩ (Complexity.analyze "\\x\x7b2014\x7d") =
      .error (.repetition 2014 1000) := by
  refine ⟨?_, ?_, ?_, ?_, ?_, ?_⟩ <;> decide +kernel

end StreamNames
