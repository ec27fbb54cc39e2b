import StreamNames.Proofs.Pattern.Acceptance
import StreamNames.Proofs.Pattern.Scan

/-!
# A scan is bounded by the length of its text

The loop of a scan has no bound of its own: it goes on for as long as it finds a match
within the text. Counted in characters each search starts later than the one before, so a
text of `n` characters is searched at most `n + 1` times.

- `SearchRun`: where the loop searches, without a bound on the number of searches.
- `exists_searchRun`: the loop ends, with what a bounded scan finds.
- `SearchRun.length_add_le`, `SearchRun.exists_boundary`: how many searches there are and
  where, by induction on the loop.
- `searchRun_of_emptyAt`: where the searches are if only empty matches are found.
- `BoundedScan`, `CompiledPattern.boundedScan`: the searches of a pattern.
- `getMatchRanges_zeroTimes`: a pattern that reaches the bound in every text.
-/

namespace StreamNames

open Regex (LeftmostSearch Match Program leftmostSearch_captures? boundaryOf)
open Text (Offsets byteLength)

/-- The places of the searches in a loop that starts at a cursor. Nothing but the text and
what is found ends the loop. -/
inductive SearchRun (text : List Char) (search : Nat → Option Match) : Nat → List Nat → Prop
  | beyond {cursor : Nat} (beyond : byteLength text < cursor) : SearchRun text search cursor []
  | nothing {cursor : Nat} (within : cursor ≤ byteLength text) (nothing : search cursor = none) :
      SearchRun text search cursor [cursor]
  | found {cursor : Nat} {m : Match} {cursors : List Nat} (within : cursor ≤ byteLength text)
      (found : search cursor = some m)
      (later : SearchRun text search (cursorAfter text m.extent) cursors) :
      SearchRun text search cursor (cursor :: cursors)

section

variable {text : List Char} {search : Nat → Option Match} {c : Nat} {cursors : List Nat}

/-! ## The loop -/

theorem cursorAt_zero (text : List Char) : cursorAt text 0 = 0 := cursorAt_of_le (Nat.zero_le _)

/-- The loop takes one course. -/
theorem SearchRun.unique {cursor : Nat} {others : List Nat}
    (h : SearchRun text search cursor cursors) (hothers : SearchRun text search cursor others) :
    others = cursors := by
  -- a search has one result, so at each cursor both courses take the same step
  induction h generalizing others with
  | beyond hbeyond =>
    cases hothers with
    | beyond => rfl
    | nothing hwithin => omega
    | found hwithin => omega
  | nothing hwithin hnothing =>
    cases hothers with
    | beyond hbeyond => omega
    | nothing => rfl
    | found _ hfound =>
      rw [hnothing] at hfound
      cases hfound
  | found hwithin hfound hlater ih =>
    cases hothers with
    | beyond hbeyond => omega
    | nothing _ hnothing =>
      rw [hnothing] at hfound
      cases hfound
    | found _ hfound' hlater' =>
      obtain rfl := Option.some.inj (hfound.symm.trans hfound')
      rw [ih hlater']

/-- A cursor within the text is at a character of it, or at its end. -/
theorem cursorAt_le_byteLength_iff : cursorAt text c ≤ byteLength text ↔ c ≤ text.length := by
  rw [← Nat.not_lt, byteLength_lt_cursorAt_iff, Nat.not_lt]

/-- What one search leaves to the next: the loop goes on at a later character, at most one
beyond the last. -/
theorem exists_spans_of_found (h : LeftmostSearch text search) {m : Match}
    (hwithin : cursorAt text c ≤ byteLength text) (hfound : search (cursorAt text c) = some m) :
    ∃ j k, m.extent.Spans text j k ∧ cursorAfter text m.extent = cursorAt text (nextChar j k) ∧
      c < nextChar j k ∧ nextChar j k ≤ text.length + 1 := by
  have hc := cursorAt_le_byteLength_iff.mp hwithin
  rw [cursorAt_of_le hc] at hfound
  obtain ⟨j, k, hcj, hspans, -⟩ := h.spans hc hfound
  have hk := hspans.le_length
  refine ⟨j, k, hspans, cursorAfter_of_spans hspans,
    Nat.lt_of_le_of_lt hcj (lt_nextChar hspans.le), ?_⟩
  unfold nextChar
  split <;> omega

/-- **The loop ends**, and a scan with enough searches finds what it finds. -/
theorem exists_searchRun (h : LeftmostSearch text search) {bound : Nat}
    (hbound : text.length + 1 ≤ c + bound) :
    ∃ cursors, SearchRun text search (cursorAt text c) cursors ∧
      scan search text bound (cursorAt text c) = cursors.filterMap search := by
  -- the character and the bound together stay beyond the end of the text
  induction bound generalizing c with
  | zero => exact ⟨[], .beyond (byteLength_lt_cursorAt_iff.mpr (by omega)), rfl⟩
  | succ bound ih =>
    rw [scan]
    split
    · next hbeyond => exact ⟨[], .beyond hbeyond, rfl⟩
    · next hwithin =>
      rw [Nat.not_lt] at hwithin
      split
      · next hnone => exact ⟨_, .nothing hwithin hnone, by rw [List.filterMap_cons_none hnone]; rfl⟩
      · next m hsome =>
        obtain ⟨j, k, -, hafter, hlt, -⟩ := exists_spans_of_found h hwithin hsome
        obtain ⟨cursors, hrun, hscan⟩ := ih (c := nextChar j k) (by omega)
        rw [← hafter] at hrun hscan
        exact ⟨_, .found hwithin hsome hrun, by rw [List.filterMap_cons_some hsome, hscan]⟩

/-! ## Its searches -/

/-- **There is at most one search for each character that is left, and one at the end.** -/
theorem SearchRun.length_add_le (hsearch : LeftmostSearch text search) {cursor : Nat}
    (h : SearchRun text search cursor cursors) (hcursor : cursor = cursorAt text c)
    (hc : c ≤ text.length + 1) : cursors.length + c ≤ text.length + 1 := by
  -- each search moves the cursor by a character or more, to one beyond the last at most
  induction h generalizing c with
  | beyond => simpa using hc
  | nothing hwithin =>
    have := cursorAt_le_byteLength_iff.mp (hcursor ▸ hwithin)
    simp only [List.length_singleton]
    omega
  | found hwithin hfound hlater ih =>
    subst hcursor
    obtain ⟨j, k, -, hafter, hlt, hle⟩ := exists_spans_of_found hsearch hwithin hfound
    have := ih hafter hle
    rw [List.length_cons]
    omega

/-- **Each search starts at a boundary within the text.** -/
theorem SearchRun.exists_boundary (hsearch : LeftmostSearch text search) {cursor : Nat}
    (h : SearchRun text search cursor cursors) (hcursor : cursor = cursorAt text c) :
    ∀ place ∈ cursors, ∃ k ≤ text.length, place = boundaryOf text k := by
  induction h generalizing c with
  | beyond => exact fun place hplace => absurd hplace List.not_mem_nil
  | nothing hwithin =>
    subst hcursor
    have hc := cursorAt_le_byteLength_iff.mp hwithin
    exact List.forall_mem_singleton.mpr ⟨c, hc, cursorAt_of_le hc⟩
  | found hwithin hfound hlater ih =>
    subst hcursor
    have hc := cursorAt_le_byteLength_iff.mp hwithin
    obtain ⟨j, k, -, hafter, -⟩ := exists_spans_of_found hsearch hwithin hfound
    exact List.forall_mem_cons.mpr ⟨⟨c, hc, cursorAt_of_le hc⟩, ih hafter⟩

/-! ## Empty matches -/

/-- What a search finds at a place is empty and at that place. -/
def EmptyAt (search : Nat → Option Match) (place : Nat) : Prop :=
  ∃ found, search place = some found ∧ found.extent = ⟨place, place⟩

theorem EmptyAt.exists_spans {i : Nat} (h : EmptyAt search (boundaryOf text i))
    (hi : i ≤ text.length) :
    ∃ found, search (boundaryOf text i) = some found ∧ found.extent.Spans text i i := by
  obtain ⟨found, hfound, hextent⟩ := h
  exact ⟨found, hfound, Nat.le_refl i, hi, by rw [hextent], by rw [hextent]⟩

/-- **Where only empty matches are found, each boundary is searched.** -/
theorem searchRun_of_emptyAt (h : ∀ i ≤ text.length, EmptyAt search (boundaryOf text i))
    {left : Nat} (hleft : c + left = text.length + 1) :
    SearchRun text search (cursorAt text c) ((List.range' c left).map (boundaryOf text)) := by
  -- on the boundaries that are left: an empty match moves the cursor to the next one
  induction left generalizing c with
  | zero => exact .beyond (byteLength_lt_cursorAt_iff.mpr (by omega))
  | succ left ih =>
    have hc : c ≤ text.length := by omega
    obtain ⟨found, hfound, hspans⟩ := (h c hc).exists_spans hc
    have hnext : nextChar c c = c + 1 := if_neg (Nat.lt_irrefl c)
    have hafter : cursorAfter text found.extent = cursorAt text (c + 1) := by
      rw [cursorAfter_of_spans hspans, hnext]
    have hlater : SearchRun text search (cursorAt text (c + 1)) _ := ih (by omega)
    rw [List.range'_succ, List.map_cons, cursorAt_of_le hc]
    exact .found (cursorAt_of_le hc ▸ cursorAt_le_byteLength_iff.mpr hc) hfound
      (hafter ▸ hlater)

end

/-! ## The searches of a pattern -/

theorem byteOfChar_eq_boundaryOf (text : List Char) (i : Nat) :
    (Offsets.ofText text).byteOfChar i = boundaryOf text i :=
  Offsets.byteOfChar_ofText text i

namespace CompiledPattern

/-- A pattern matches the empty text at every place, and nothing longer. -/
def EmptyEverywhere (p : CompiledPattern) (text : String) : Prop :=
  ∀ i ≤ text.length, EmptyAt (p.regex.captures? text.toList)
    ((Offsets.ofText text.toList).byteOfChar i)

/-- The searches in a text are bounded and within it. -/
structure BoundedScan (p : CompiledPattern) (text : String) (cursors : List Nat) : Prop where
  /-- The matches in the text are the results of the searches. -/
  results : p.occurrences text.toList = cursors.filterMap (p.regex.captures? text.toList)
  /-- There is at most one search for each character and one for the end. -/
  bounded : cursors.length ≤ text.length + 1
  /-- Each search starts at a boundary of the text. -/
  within : ∀ cursor ∈ cursors, ∃ i ≤ text.length,
    cursor = (Offsets.ofText text.toList).byteOfChar i
  /-- The boundary after an empty match is looked for from a boundary of the text. -/
  advances : ∀ cursor ∈ cursors, ∀ found, p.regex.captures? text.toList cursor = some found →
    found.extent.stop ≤ found.extent.start → ∃ i ≤ text.length,
      found.extent.stop = (Offsets.ofText text.toList).byteOfChar i
  /-- If all matches are empty, each boundary is searched. -/
  searched : p.EmptyEverywhere text → cursors.length = text.length + 1
  /-- If all matches are empty, there is one at each place. -/
  empty : p.EmptyEverywhere text →
    p.visited text = (List.range (text.length + 1)).map fun i => ⟨i, i, none⟩
  /-- Without named groups these are picked out. -/
  reported : p.EmptyEverywhere text → p.hasNamedGroups = false → ∀ location,
    p.matchRanges location text = (List.range (text.length + 1)).map fun i => ⟨i, i, none⟩

section

variable {p : CompiledPattern} {text : String}

/-- The loop in a text ends, with its occurrences. -/
theorem exists_searchRun_occurrences (p : CompiledPattern) (text : List Char) :
    ∃ cursors, SearchRun text (p.regex.captures? text) 0 cursors ∧
      p.occurrences text = cursors.filterMap (p.regex.captures? text) := by
  have hbound : text.length + 1 ≤ 0 + (text.length + 1) := by omega
  have h := exists_searchRun (leftmostSearch_captures? p.regex text) hbound
  rwa [cursorAt_zero] at h

theorem EmptyEverywhere.emptyAt (h : p.EmptyEverywhere text) :
    ∀ i ≤ text.toList.length,
      EmptyAt (p.regex.captures? text.toList) (boundaryOf text.toList i) :=
  fun i hi => byteOfChar_eq_boundaryOf text.toList i ▸ h i hi

/-- Where all matches are empty, the loop is known. -/
theorem EmptyEverywhere.searchRun (h : p.EmptyEverywhere text) :
    SearchRun text.toList (p.regex.captures? text.toList) 0
      ((List.range (text.length + 1)).map (boundaryOf text.toList)) := by
  have hall := searchRun_of_emptyAt h.emptyAt (Nat.zero_add _)
  rwa [cursorAt_zero, ← List.range_eq_range'] at hall

/-- Where all matches are empty, there is one at each place. -/
theorem EmptyEverywhere.visited_eq (h : p.EmptyEverywhere text) :
    p.visited text = (List.range (text.length + 1)).map fun i => ⟨i, i, none⟩ := by
  obtain ⟨cursors, hrun, hresults⟩ := p.exists_searchRun_occurrences text.toList
  obtain rfl := h.searchRun.unique hrun
  rw [visited, hresults, List.filterMap_map, List.map_filterMap, ← List.filterMap_eq_map]
  refine List.filterMap_congr fun i hi => ?_
  have hi : i ≤ text.toList.length := Nat.le_of_lt_succ (List.mem_range.mp hi)
  obtain ⟨found, hfound, hspans⟩ := (h.emptyAt i hi).exists_spans hi
  rw [Function.comp_apply, hfound, Option.map_some, Function.comp_apply, rangeOf_of_spans hspans]

end

/-- **The searches in a text are bounded and within it**, whatever the pattern and the text:
the loop takes one course, which ends after at most one search for each character and one
for the end. -/
theorem boundedScan (p : CompiledPattern) (text : String) : ∃ cursors,
    (∀ others, SearchRun text.toList (p.regex.captures? text.toList) 0 others ↔
      others = cursors) ∧ p.BoundedScan text cursors := by
  have hsearch := leftmostSearch_captures? p.regex text.toList
  obtain ⟨cursors, hrun, hresults⟩ := p.exists_searchRun_occurrences text.toList
  have hplaces : ∀ cursor ∈ cursors, ∃ i ≤ text.length, cursor = boundaryOf text.toList i :=
    hrun.exists_boundary hsearch (cursorAt_zero text.toList).symm
  refine ⟨cursors, fun others => ⟨hrun.unique, fun h => h ▸ hrun⟩, ?_⟩
  refine ⟨hresults, ?bounded, ?within, ?advances, ?searched, fun h => h.visited_eq, ?reported⟩
  case bounded => exact hrun.length_add_le hsearch (cursorAt_zero text.toList).symm (Nat.zero_le _)
  case within =>
    intro cursor hcursor
    obtain ⟨i, hi, hplace⟩ := hplaces cursor hcursor
    exact ⟨i, hi, hplace.trans (byteOfChar_eq_boundaryOf text.toList i).symm⟩
  case advances =>
    intro cursor hcursor found hfound hempty
    obtain ⟨i, hi, rfl⟩ := hplaces cursor hcursor
    obtain ⟨j, k, -, hspans, -⟩ := hsearch.spans hi hfound
    exact ⟨k, hspans.le_length,
      hspans.stop_eq.trans (byteOfChar_eq_boundaryOf text.toList k).symm⟩
  case searched =>
    intro h
    rw [hrun.unique h.searchRun |>.symm, List.length_map, List.length_range]
  case reported =>
    intro h hnamed location
    rw [matchRanges_eq_visited hnamed, h.visited_eq]

/-! ### Patterns without characters -/

/-- An expression that takes no character matches the empty text at every place. -/
theorem matchAt?_empty (text : List Char) (k : Nat) :
    (Program.ofExpr .empty).matchAt? text k =
      some ⟨⟨boundaryOf text k, boundaryOf text k⟩, []⟩ := by
  rw [Program.matchAt?]
  cases text.drop k with
  | nil => rfl
  | cons c rest => rfl

theorem emptyEverywhere_of_empty {p : CompiledPattern} (h : p.regex.program = .ofExpr .empty)
    (text : String) : p.EmptyEverywhere text := by
  intro i hi
  rw [byteOfChar_eq_boundaryOf]
  refine ⟨_, (Program.find?_eq_some_iff p.regex.program hi).mpr
    ⟨i, Nat.le_refl i, hi, h ▸ matchAt?_empty text.toList i, fun j hij hji => ?_⟩, rfl⟩
  exact absurd hij (Nat.not_le.mpr hji)

/-- A character no times is found at every place of every text. -/
theorem getMatchRanges_zeroTimes (text : String) : getMatchRanges "x{0}" text =
    (List.range (text.length + 1)).map fun i => ⟨i, i, none⟩ := by
  have hregex : Regex.compile (toInternal "x{0}") = .ok ⟨.ofExpr .empty, []⟩ := by
    rw [show toInternal "x{0}" = "x{0}" by decide +kernel]
    rfl
  have hcompile := compile_eq_ok_iff.mpr
    ⟨by decide +kernel, PatternLimits.check_none _, _, hregex, rfl⟩
  rw [getMatchRanges, compiled?_of_compile_eq_ok hcompile]
  exact (matchRanges_eq_visited rfl .exact).trans (emptyEverywhere_of_empty rfl text).visited_eq

end CompiledPattern

end StreamNames
