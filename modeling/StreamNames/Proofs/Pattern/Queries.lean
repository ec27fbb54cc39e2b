import Mathlib.Data.String.Basic
import StreamNames.Proofs.Highlight.Capture
import StreamNames.Proofs.Pattern.Acceptance
import StreamNames.Proofs.Regex.Reader.Names

/-!
# The queries of a pattern agree

Whether a pattern matches a text, what it picks out of it and what its groups are in the
first match are three queries with searches of their own. They tell of the same first match:
the ranges of its groups come before all other ranges, and cover the texts that are told by
name.

- `inOrder_byName`, `perm_byName`: texts by name are the texts, put in order.
- `CompiledPattern.cases_first`: the first match is the first occurrence.
- `CompiledPattern.covered_rangesOf`: ranges and texts of the groups of one match.
- `CompiledPattern.nodup_groupNames`: no two groups share a name.
- `QueriesAgree`, `queries_agree`: what the queries tell of any pattern and text.
-/

namespace StreamNames

open Regex (Match)
open Text (Offsets sliceBytes sliceChars)
open scoped List

/-! ## Texts by name -/

/-- The names of some texts ascend, so that no two of them share one. -/
def InOrder (texts : List (String × String)) : Prop := texts.Pairwise (·.1 < ·.1)

theorem byName_append_singleton (entries : List (String × String)) (entry : String × String) :
    byName (entries ++ [entry]) = insertByName entry (byName entries) := by
  rw [byName, List.foldl_append]
  rfl

theorem forall_mem_insertByName {P : String × String → Prop} {entry : String × String}
    {texts : List (String × String)} (hentry : P entry) (h : ∀ other ∈ texts, P other) :
    ∀ other ∈ insertByName entry texts, P other := by
  induction texts with
  | nil => simpa [insertByName] using hentry
  | cons other rest ih =>
    obtain ⟨hother, hrest⟩ := List.forall_mem_cons.mp h
    rw [insertByName]
    split_ifs
    · exact List.forall_mem_cons.mpr ⟨hentry, h⟩
    · exact List.forall_mem_cons.mpr ⟨hentry, hrest⟩
    · exact List.forall_mem_cons.mpr ⟨hother, ih hrest⟩

theorem InOrder.insertByName {texts : List (String × String)} (h : InOrder texts)
    (entry : String × String) : InOrder (insertByName entry texts) := by
  induction texts with
  | nil => exact List.pairwise_singleton _ _
  | cons other rest ih =>
    obtain ⟨hother, hrest⟩ := List.pairwise_cons.mp h
    rw [StreamNames.insertByName]
    split_ifs with hbefore hsame
    · refine h.cons (List.forall_mem_cons.mpr ⟨hbefore, ?_⟩)
      exact fun later hlater => hbefore.trans (hother later hlater)
    · exact hrest.cons fun later hlater => hsame ▸ hother later hlater
    · have hafter : other.1 < entry.1 := lt_of_le_of_ne (not_lt.mp hbefore) (Ne.symm hsame)
      exact (ih hrest).cons (forall_mem_insertByName hafter hother)

/-- A text under a name that is new is added. -/
theorem perm_insertByName {entry : String × String} {texts : List (String × String)}
    (h : entry.1 ∉ texts.map Prod.fst) : insertByName entry texts ~ entry :: texts := by
  induction texts with
  | nil => exact .refl _
  | cons other rest ih =>
    obtain ⟨hother, hrest⟩ := not_or.mp (List.mem_cons.not.mp h)
    rw [insertByName, if_neg hother]
    split_ifs
    · exact .refl _
    · exact ((ih hrest).cons other).trans (.swap entry other rest)

theorem inOrder_byName (entries : List (String × String)) : InOrder (byName entries) := by
  induction entries using List.reverseRecOn with
  | nil => exact .nil
  | append_singleton entries entry ih =>
    rw [byName_append_singleton]
    exact ih.insertByName entry

/-- **Texts of different names are all told by name.** -/
theorem perm_byName {entries : List (String × String)} (h : (entries.map Prod.fst).Nodup) :
    byName entries ~ entries := by
  induction entries using List.reverseRecOn with
  | nil => exact .refl _
  | append_singleton entries entry ih =>
    rw [List.map_append, List.nodup_append] at h
    obtain ⟨hentries, -, hdisjoint⟩ := h
    have hperm := ih hentries
    -- names are distinct, so inserting replaces no entry
    have hnew : entry.1 ∉ (byName entries).map Prod.fst := by
      rw [(hperm.map Prod.fst).mem_iff]
      exact fun hmem => hdisjoint _ hmem _ List.mem_cons_self rfl
    rw [byName_append_singleton]
    calc insertByName entry (byName entries)
      _ ~ entry :: byName entries := perm_insertByName hnew
      _ ~ entry :: entries := hperm.cons entry
      _ ~ entries ++ [entry] := (List.perm_append_singleton _ _).symm

/-! ## Groups among ranges -/

/-- The group of a range, and the part of a text that the range covers. -/
def MatchRange.covered (text : String) (r : MatchRange) : Option String × String :=
  (r.group, String.ofList (sliceChars text.toList r.start r.stop))

/-- The groups of a match, told by name, come first among some ranges, each once. -/
structure GroupsFirst (text : String) (groups : List (String × String))
    (ranges : List MatchRange) : Prop where
  order : InOrder groups
  enough : groups.length ≤ ranges.length
  distinct : ((ranges.take groups.length).map (·.group)).Nodup
  covered : (ranges.take groups.length).map (·.covered text) ~
    groups.map fun entry => (some entry.1, entry.2)

namespace CompiledPattern

variable {p : CompiledPattern}

/-! ## The first match -/

/-- What a search from the start finds is the first occurrence. -/
theorem cases_first (p : CompiledPattern) (text : List Char) :
    (p.regex.captures? text 0 = none ∧ p.occurrences text = []) ∨
      ∃ found later, p.regex.captures? text 0 = some found ∧
        p.occurrences text = found :: later := by
  have hwithin : ¬Text.byteLength text < 0 := Nat.not_lt_zero _
  unfold occurrences
  rw [scan, if_neg hwithin]
  cases hfirst : p.regex.captures? text 0 with
  | none => exact .inl ⟨rfl, rfl⟩
  | some found => exact .inr ⟨found, _, rfl, rfl⟩

theorem groupTexts_of_some {text : String} {found : Match}
    (h : p.regex.captures? text.toList 0 = some found) :
    p.groupTexts text = byName (p.textsOf text.toList found) := by
  rw [groupTexts, h]

theorem groupTexts_of_none {text : String} (h : p.regex.captures? text.toList 0 = none) :
    p.groupTexts text = [] := by
  rw [groupTexts, h]

/-! ## The groups of one match -/

theorem named_eq_nil (h : p.hasNamedGroups = false) : p.regex.named = [] := by
  have hnames : p.regex.groupNames = [] := by simpa [hasNamedGroups, groupNames] using h
  exact List.map_eq_nil_iff.mp hnames

/-- The names of the groups that are told are those that took part. -/
theorem map_fst_textsOf (text : List Char) (found : Match) :
    (p.textsOf text found).map Prod.fst = p.participants found := by
  rw [textsOf, participants]
  induction p.regex.named with
  | nil => rfl
  | cons named rest ih =>
    cases hgroup : found.group? named.1 with
    | none => simpa [List.filterMap_cons, hgroup] using ih
    | some g => simpa [List.filterMap_cons, hgroup] using ih

/-- **The ranges of the groups of a match cover their texts.** -/
theorem covered_rangesOf {text : String} {found : Match} (hnamed : p.hasNamedGroups = true)
    (h : found ∈ p.occurrences text.toList) :
    (p.rangesOf .exact text.toList (.ofText text.toList) found).map (·.covered text) =
      (p.textsOf text.toList found).map fun entry => (some entry.1, entry.2) := by
  obtain ⟨j, k, -, hgroups⟩ := spans_of_mem_occurrences h
  rw [rangesOf, if_pos hnamed, textsOf, List.map_filterMap, List.map_filterMap]
  -- both lists run over the same named groups, so entries are compared one by one
  apply List.filterMap_congr
  intro named _
  obtain ⟨index, name⟩ := named
  dsimp only
  cases hgroup : found.group? index with
  | none => rfl
  | some group =>
    obtain ⟨a, b, -, -, hspans⟩ := hgroups index group hgroup
    have hrange : rangeOf (.ofText text.toList) group (some name) = ⟨a, b, some name⟩ :=
      rangeOf_of_spans hspans (some name)
    have hslice : sliceBytes text.toList group.start group.stop = sliceChars text.toList a b :=
      sliceBytes_of_spans hspans
    simp only [Option.map_some, locate, hrange, hslice, MatchRange.covered]

/-- **No two groups of a compiled pattern share a name.** -/
theorem nodup_groupNames {limits : PatternLimits} {source : String}
    (h : compile limits source = .ok p) : p.groupNames.Nodup := by
  obtain ⟨-, -, regex, hregex, rfl⟩ := compile_eq_ok_iff.mp h
  exact Regex.nodup_groupNames_of_compile hregex

/-! ## The queries of one pattern -/

/-- **The groups of the first match come first among the ranges of a pattern.** -/
theorem groupsFirst (hnodup : p.groupNames.Nodup) (text : String) :
    GroupsFirst text (p.groupTexts text) (p.matchRanges .exact text) := by
  rcases p.cases_first text.toList with ⟨hfirst, -⟩ | ⟨found, later, hfirst, hoccurrences⟩
  · rw [groupTexts_of_none hfirst]
    exact ⟨.nil, Nat.zero_le _, .nil, .nil⟩
  rw [groupTexts_of_some hfirst]
  -- without named groups there are no texts, and the ranges are whole matches
  cases hnamed : p.hasNamedGroups with
  | false =>
    rw [textsOf, named_eq_nil hnamed]
    exact ⟨.nil, Nat.zero_le _, .nil, .nil⟩
  | true =>
    have hfound : found ∈ p.occurrences text.toList := hoccurrences ▸ List.mem_cons_self
    -- ranges and texts both come from the groups that took part, which have different names
    have hgroups := groupsOf_rangesOf hnamed hfound .exact
    have hcovered := covered_rangesOf hnamed hfound
    have hranges : p.matchRanges .exact text =
        p.rangesOf .exact text.toList (.ofText text.toList) found ++
          later.flatMap (p.rangesOf .exact text.toList (.ofText text.toList)) := by
      rw [matchRanges, hoccurrences, List.flatMap_cons]
    have hparticipants : (p.participants found).Nodup := hnodup.sublist hgroups.ordered
    have hperm : byName (p.textsOf text.toList found) ~ p.textsOf text.toList found :=
      perm_byName (by rwa [map_fst_textsOf])
    have hlength : (byName (p.textsOf text.toList found)).length =
        (p.rangesOf .exact text.toList (.ofText text.toList) found).length := by
      rw [hperm.length_eq]
      simpa using (congrArg List.length hcovered).symm
    rw [hranges]
    refine ⟨inOrder_byName _, ?enough, ?distinct, ?covered⟩
    case enough =>
      rw [hlength, List.length_append]
      exact Nat.le_add_right _ _
    case distinct =>
      rw [hlength, List.take_left, hgroups.participating]
      exact List.pairwise_map.mpr (hparticipants.imp fun hne heq => hne (Option.some.inj heq))
    case covered =>
      rw [hlength, List.take_left, hcovered]
      exact (hperm.map _).symm

/-- A pattern that does not match a text picks nothing out of it. -/
theorem matchRanges_of_isMatch_eq_false {text : String} (h : p.isMatch text = false)
    (location : GroupLocation) : p.matchRanges location text = [] := by
  rcases p.cases_first text.toList with ⟨-, hoccurrences⟩ | ⟨found, later, hfirst, -⟩
  · rw [matchRanges, hoccurrences, List.flatMap_nil]
  · rw [isMatch, Regex.isMatch, hfirst] at h
    cases h

theorem groupTexts_of_isMatch_eq_false {text : String} (h : p.isMatch text = false) :
    p.groupTexts text = [] := by
  rw [isMatch, Regex.isMatch, Option.isSome_eq_false_iff, Option.isNone_iff_eq_none] at h
  exact groupTexts_of_none h

/-- A pattern without named groups picks its first match out of a text. -/
theorem matchRanges_ne_nil {text : String} (hnamed : p.hasNamedGroups = false)
    (h : p.isMatch text = true) (location : GroupLocation) : p.matchRanges location text ≠ [] := by
  rcases p.cases_first text.toList with ⟨hfirst, -⟩ | ⟨found, later, -, hoccurrences⟩
  · rw [isMatch, Regex.isMatch, hfirst] at h
    cases h
  · rw [matchRanges_eq_visited hnamed, visited, hoccurrences, List.map_cons]
    exact List.cons_ne_nil _ _

end CompiledPattern

/-! ## Patterns as they are written -/

theorem compile_of_compiled?_eq_some {pattern : String} {p : CompiledPattern}
    (h : compiled? pattern = some p) : CompiledPattern.compile .none pattern = .ok p := by
  unfold compiled? at h
  split at h
  · next hcompile =>
    cases h
    exact hcompile
  · cases h

/-- The three queries tell of the same first match. -/
structure QueriesAgree (pattern text : String) : Prop where
  /-- Ranges are only told of a pattern that matches. -/
  ranges : getMatchRanges pattern text ≠ [] → testMatch pattern text = true
  /-- So are groups. -/
  groups : extractGroups pattern text ≠ [] → testMatch pattern text = true
  /-- Without named groups ranges are told whenever it does. -/
  whole : ∀ p, compiled? pattern = some p → p.hasNamedGroups = false →
    (testMatch pattern text = true ↔ getMatchRanges pattern text ≠ [])
  /-- The groups of the first match come first among the ranges. -/
  first : GroupsFirst text (extractGroups pattern text) (getMatchRanges pattern text)
  /-- A pattern that is refused does not match, picks nothing out and has no groups. -/
  refused : compiled? pattern = none → testMatch pattern text = false ∧
    getMatchRanges pattern text = [] ∧ extractGroups pattern text = []

/-- **The queries of a pattern agree**, whatever the pattern and the text. -/
theorem queries_agree (pattern text : String) : QueriesAgree pattern text := by
  cases hcompiled : compiled? pattern with
  | none =>
    -- a pattern that is refused matches nothing
    have htest : testMatch pattern text = false := by rw [testMatch, hcompiled, Option.any_none]
    have hranges : getMatchRanges pattern text = [] := by rw [getMatchRanges, hcompiled]
    have hgroups : extractGroups pattern text = [] := by rw [extractGroups, hcompiled]
    refine ⟨fun h => absurd hranges h, fun h => absurd hgroups h, ?whole, ?first,
      fun _ => ⟨htest, hranges, hgroups⟩⟩
    case whole =>
      intro p hp
      cases hcompiled.symm.trans hp
    case first =>
      rw [hgroups, hranges]
      exact ⟨.nil, Nat.zero_le _, .nil, .nil⟩
  | some p =>
    have htest : testMatch pattern text = p.isMatch text := by
      rw [testMatch, hcompiled, Option.any_some]
    have hranges : getMatchRanges pattern text = p.matchRanges .exact text := by
      rw [getMatchRanges, hcompiled]
    have hgroups : extractGroups pattern text = p.groupTexts text := by
      rw [extractGroups, hcompiled]
    have hnodup : p.groupNames.Nodup :=
      CompiledPattern.nodup_groupNames (compile_of_compiled?_eq_some hcompiled)
    constructor
    case ranges =>
      intro hne
      by_contra hmatch
      rw [htest, Bool.not_eq_true] at hmatch
      exact hne (hranges.trans (CompiledPattern.matchRanges_of_isMatch_eq_false hmatch .exact))
    case groups =>
      intro hne
      by_contra hmatch
      rw [htest, Bool.not_eq_true] at hmatch
      exact hne (hgroups.trans (CompiledPattern.groupTexts_of_isMatch_eq_false hmatch))
    case whole =>
      intro q hq hnamed
      obtain rfl := Option.some.inj (hcompiled.symm.trans hq)
      rw [htest, hranges]
      constructor
      · exact fun hmatch => CompiledPattern.matchRanges_ne_nil hnamed hmatch .exact
      · intro hne
        by_contra hmatch
        rw [Bool.not_eq_true] at hmatch
        exact hne (CompiledPattern.matchRanges_of_isMatch_eq_false hmatch .exact)
    case first =>
      rw [hgroups, hranges]
      exact CompiledPattern.groupsFirst hnodup text
    case refused =>
      intro hnone
      cases hcompiled.symm.trans hnone

/-- A group may take part in a later match only. -/
example : extractGroups "(?P<x>a)|b" "ba" = [] ∧
    getMatchRanges "(?P<x>a)|b" "ba" = [⟨1, 2, some "x"⟩] := by decide +kernel

/-- Groups are told by name, ranges in the order in which the groups stand in a pattern. -/
example : extractGroups "(?P<y>a)(?P<x>b)" "ab" = [("x", "b"), ("y", "a")] ∧
    getMatchRanges "(?P<y>a)(?P<x>b)" "ab" = [⟨0, 1, some "y"⟩, ⟨1, 2, some "x"⟩] := by
  decide +kernel

end StreamNames
