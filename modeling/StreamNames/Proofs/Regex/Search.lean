import Mathlib.Data.Nat.Find
import StreamNames.Proofs.Text.Boundaries
import StreamNames.Regex

/-!
# What a search finds

A search tries the places of a text one after another and stops at the first where an
expression matches. What it finds there lies on boundaries of characters.

- `Thread.Within`: all that a thread recorded lies between the place where it started and
  the place where it stands. Every instruction keeps this (`within_of_follow`), and so
  does every character that is taken (`foundWithin_run`).
- `LeftmostSearch`: what may be relied on of a search.
- `leftmostSearch_captures?`: compiled expressions search like this.
-/

namespace StreamNames.Regex

open Text (byteLength byteLength_take_lt_iff byteLength_take_le)

/-! ## Places -/

/-- The place before character number `k` of a text, in bytes. -/
def boundaryOf (text : List Char) (k : Nat) : Nat := byteLength (text.take k)

theorem boundaryOf_lt_iff {text : List Char} {j k : Nat} (hj : j ≤ text.length)
    (hk : k ≤ text.length) : boundaryOf text j < boundaryOf text k ↔ j < k := by
  refine (byteLength_take_lt_iff hj).trans ⟨And.left, fun h => ⟨h, by omega⟩⟩

theorem boundaryOf_le_iff {text : List Char} {j k : Nat} (hj : j ≤ text.length)
    (hk : k ≤ text.length) : boundaryOf text j ≤ boundaryOf text k ↔ j ≤ k := by
  rw [← Nat.not_lt, ← Nat.not_lt, boundaryOf_lt_iff hk hj]

theorem boundaryOf_inj {text : List Char} {j k : Nat} (hj : j ≤ text.length)
    (hk : k ≤ text.length) : boundaryOf text j = boundaryOf text k ↔ j = k :=
  ⟨Text.byteLength_take_inj hj hk, fun h => h ▸ rfl⟩

theorem boundaryOf_zero (text : List Char) : boundaryOf text 0 = 0 := rfl

/-- The place after a character. -/
theorem boundaryOf_succ {text rest : List Char} {c : Char} {k : Nat}
    (h : text.drop k = c :: rest) : boundaryOf text (k + 1) = boundaryOf text k + c.utf8Size := by
  have hc : text[k]? = some c := by
    rw [← List.head?_drop, h]
    rfl
  rw [boundaryOf, List.take_add_one, hc, Text.byteLength_append]
  simp [boundaryOf]

theorem drop_succ_of_drop {text rest : List Char} {c : Char} {k : Nat}
    (h : text.drop k = c :: rest) : text.drop (k + 1) = rest := by
  rw [← List.drop_drop, h]
  rfl

theorem lt_length_of_drop {text rest : List Char} {c : Char} {k : Nat}
    (h : text.drop k = c :: rest) : k < text.length := by
  have := congrArg List.length h
  rw [List.length_drop, List.length_cons] at this
  omega

/-- A stretch of bytes takes the characters from number `j` up to number `k`. -/
structure Extent.Spans (text : List Char) (e : Extent) (j k : Nat) : Prop where
  le : j ≤ k
  le_length : k ≤ text.length
  start_eq : e.start = boundaryOf text j
  stop_eq : e.stop = boundaryOf text k

theorem Extent.Spans.start_le_length {text : List Char} {e : Extent} {j k : Nat}
    (h : e.Spans text j k) : j ≤ text.length :=
  Nat.le_trans h.le h.le_length

/-- A stretch of bytes takes some of the characters from number `low` up to number
`high`. -/
def Extent.Within (text : List Char) (low high : Nat) (e : Extent) : Prop :=
  ∃ j k, low ≤ j ∧ k ≤ high ∧ e.Spans text j k

theorem Extent.Within.mono {text : List Char} {low high higher : Nat} {e : Extent}
    (h : e.Within text low high) (hle : high ≤ higher) : e.Within text low higher := by
  obtain ⟨j, k, hj, hk, hspans⟩ := h
  exact ⟨j, k, hj, Nat.le_trans hk hle, hspans⟩

/-! ## Threads -/

/-- All that a thread recorded lies on boundaries between two places. -/
structure Thread.Within (text : List Char) (low high : Nat) (t : Thread) : Prop where
  entered : ∀ g ∈ t.entered, ∃ k, low ≤ k ∧ k ≤ high ∧ g.2 = boundaryOf text k
  recorded : ∀ g ∈ t.recorded, g.2.Within text low high

namespace Thread

variable {text : List Char} {low high : Nat} {t : Thread}

theorem Within.mono {higher : Nat} (h : t.Within text low high) (hle : high ≤ higher) :
    t.Within text low higher := by
  refine ⟨fun g hg => ?_, fun g hg => (h.recorded g hg).mono hle⟩
  obtain ⟨k, hlow, hhigh, hk⟩ := h.entered g hg
  exact ⟨k, hlow, Nat.le_trans hhigh hle, hk⟩

theorem Within.goto (h : t.Within text low high) (address : Nat) :
    (t.goto address).Within text low high :=
  ⟨h.entered, h.recorded⟩

theorem Within.enter (h : t.Within text low high) (hle : low ≤ high) (index : Nat) :
    (t.enter index (boundaryOf text high)).Within text low high := by
  refine ⟨fun g hg => ?_, h.recorded⟩
  rcases List.mem_cons.mp hg with rfl | hg
  · exact ⟨high, hle, Nat.le_refl _, rfl⟩
  · exact h.entered g hg

/-- A group that ends here started at a place that was recorded, or it starts here. -/
theorem Within.leave (h : t.Within text low high) (hle : low ≤ high)
    (hlength : high ≤ text.length) (index : Nat) :
    (t.leave index (boundaryOf text high)).Within text low high := by
  have hstart : ∃ k, low ≤ k ∧ k ≤ high ∧
      (t.entered.lookup index).getD (boundaryOf text high) = boundaryOf text k := by
    cases hcase : t.entered.lookup index with
    | none => exact ⟨high, hle, Nat.le_refl _, rfl⟩
    | some start =>
      obtain ⟨before, after, hentered, -⟩ := List.lookup_eq_some_iff.mp hcase
      exact h.entered (index, start) (by rw [hentered]; simp)
  obtain ⟨k, hlow, hhigh, hk⟩ := hstart
  refine ⟨h.entered, fun g hg => ?_⟩
  rcases List.mem_cons.mp hg with rfl | hg
  · exact ⟨k, high, hlow, Nat.le_refl _, hhigh, hlength, hk, rfl⟩
  · exact h.recorded g hg

end Thread

namespace Program

variable {text : List Char} {low high : Nat}

/-- **Instructions that take no character keep what is recorded between the places.** -/
theorem within_of_follow (p : Program) {place : Place} {bound : Nat} {reached : Array Bool}
    {threads : List Thread} (hplace : place.offset = boundaryOf text high) (hle : low ≤ high)
    (hlength : high ≤ text.length) (h : ∀ t ∈ threads, t.Within text low high) :
    (∀ t ∈ (follow p place bound reached threads).1, t.Within text low high) ∧
      ∀ recorded, (follow p place bound reached threads).2 = some recorded →
        ∀ g ∈ recorded, g.2.Within text low high := by
  -- the threads at hand are the only ones that change, one instruction at a time
  fun_induction follow p place bound reached threads with
  | case1 => exact ⟨fun t ht => absurd ht List.not_mem_nil, fun _ hnone => nomatch hnone⟩
  | case2 => exact ⟨fun t ht => absurd ht List.not_mem_nil, fun _ hnone => nomatch hnone⟩
  | case3 bound reached t ts hreached ih => exact ih (List.forall_mem_cons.mp h).2
  | case4 bound reached t ts hreached reached' hcode ih => exact ih (List.forall_mem_cons.mp h).2
  | case5 bound reached t ts hreached hcode =>
    -- accept: the less preferred threads are dropped
    refine ⟨fun u hu => absurd hu List.not_mem_nil, fun recorded haccept => ?_⟩
    cases haccept
    exact (List.forall_mem_cons.mp h).1.recorded
  | case6 bound reached t ts hreached reached' set next hcode waiting accepted hfollow ih =>
    -- take: the thread waits for a character
    obtain ⟨ht, hts⟩ := List.forall_mem_cons.mp h
    obtain ⟨hwaiting, haccepted⟩ := ih hts
    rw [hfollow] at hwaiting haccepted
    exact ⟨List.forall_mem_cons.mpr ⟨ht, hwaiting⟩, haccepted⟩
  | case7 bound reached t ts hreached reached' first second hcode ih =>
    obtain ⟨ht, hts⟩ := List.forall_mem_cons.mp h
    exact ih (List.forall_mem_cons.mpr
      ⟨ht.goto first, List.forall_mem_cons.mpr ⟨ht.goto second, hts⟩⟩)
  | case8 bound reached t ts hreached reached' look next hcode hholds ih =>
    obtain ⟨ht, hts⟩ := List.forall_mem_cons.mp h
    exact ih (List.forall_mem_cons.mpr ⟨ht.goto next, hts⟩)
  | case9 bound reached t ts hreached reached' look next hcode hholds ih =>
    exact ih (List.forall_mem_cons.mp h).2
  | case10 bound reached t ts hreached reached' index next hcode ih =>
    obtain ⟨ht, hts⟩ := List.forall_mem_cons.mp h
    rw [hplace] at ih ⊢
    exact ih (List.forall_mem_cons.mpr ⟨(ht.enter hle index).goto next, hts⟩)
  | case11 bound reached t ts hreached reached' index next hcode ih =>
    obtain ⟨ht, hts⟩ := List.forall_mem_cons.mp h
    rw [hplace] at ih ⊢
    exact ih (List.forall_mem_cons.mpr ⟨(ht.leave hle hlength index).goto next, hts⟩)

/-- Settling keeps what is recorded between the places, too. -/
theorem within_of_settle (p : Program) (before after : Option Char) {threads : List Thread}
    (hle : low ≤ high) (hlength : high ≤ text.length)
    (h : ∀ t ∈ threads, t.Within text low high) :
    (∀ t ∈ (settle p ⟨before, after, boundaryOf text high⟩ threads).1, t.Within text low high) ∧
      ∀ recorded, (settle p ⟨before, after, boundaryOf text high⟩ threads).2 = some recorded →
        ∀ g ∈ recorded, g.2.Within text low high :=
  within_of_follow p rfl hle hlength h

/-- Taking a character changes nothing that is recorded. -/
theorem within_of_mem_step (p : Program) {c : Char} {waiting : List Thread}
    (h : ∀ t ∈ waiting, t.Within text low high) :
    ∀ t ∈ step p c waiting, t.Within text low high := by
  intro t ht
  obtain ⟨u, hu, hstep⟩ := List.mem_filterMap.mp ht
  split at hstep
  · split at hstep
    · cases hstep
      exact (h u hu).goto _
    · cases hstep
  · cases hstep

/-- A match found from a place on stops at a later boundary, and its groups lie between
the two. -/
def FoundWithin (text : List Char) (low : Nat)
    (found : Option (Nat × List (Nat × Extent))) : Prop :=
  ∀ stop recorded, found = some (stop, recorded) → ∃ k, low ≤ k ∧ k ≤ text.length ∧
    stop = boundaryOf text k ∧ ∀ g ∈ recorded, g.2.Within text low k

/-- The best match so far, after the threads at a place are settled. -/
theorem foundWithin_settled (p : Program) (before after : Option Char) {threads : List Thread}
    {best : Option (Nat × List (Nat × Extent))} (hle : low ≤ high)
    (hlength : high ≤ text.length) (h : ∀ t ∈ threads, t.Within text low high)
    (hbest : FoundWithin text low best) :
    FoundWithin text low
      (match (settle p ⟨before, after, boundaryOf text high⟩ threads).2 with
      | some recorded => some (boundaryOf text high, recorded)
      | none => best) := by
  split
  · next recorded haccepted =>
    intro stop found heq
    cases heq
    exact ⟨high, hle, hlength, rfl, (within_of_settle p before after hle hlength h).2 _ haccepted⟩
  · exact hbest

/-- **A run finds nothing outside the rest of the text.** -/
theorem foundWithin_run (p : Program) {rest : List Char} {before : Option Char}
    {threads : List Thread} {best : Option (Nat × List (Nat × Extent))}
    (hle : low ≤ high) (hlength : high ≤ text.length) (hrest : text.drop high = rest)
    (h : ∀ t ∈ threads, t.Within text low high) (hbest : FoundWithin text low best) :
    FoundWithin text low (run p before (boundaryOf text high) rest threads best) := by
  -- the place moves on with the rest of the text, where the threads started does not
  induction rest generalizing before high threads best with
  | nil =>
    rw [run]
    exact foundWithin_settled p before none hle hlength h hbest
  | cons c rest ih =>
    have hhigh := lt_length_of_drop hrest
    have hbest' := foundWithin_settled p before (some c) hle hlength h hbest
    have hstep := within_of_mem_step p (c := c)
      (within_of_settle p before (some c) hle hlength h).1
    rw [run]
    dsimp only
    split
    · exact hbest'
    · rw [← boundaryOf_succ hrest]
      exact ih (Nat.le_succ_of_le hle) hhigh (drop_succ_of_drop hrest)
        (fun t ht => (hstep t ht).mono (Nat.le_succ high)) hbest'

/-! ## Places one after another -/

/-- The match that starts at character number `k`. -/
def matchAt? (p : Program) (text : List Char) (k : Nat) : Option Match :=
  p.matchHere? (text.take k).getLast? (boundaryOf text k) (text.drop k)

/-- A match starts at its place and stops at a later boundary, with its groups between. -/
theorem spans_of_matchAt? {p : Program} {k : Nat} {m : Match} (hk : k ≤ text.length)
    (h : p.matchAt? text k = some m) : ∃ stop, m.extent.Spans text k stop ∧
      ∀ g ∈ m.recorded, g.2.Within text k stop := by
  obtain ⟨⟨stop, recorded⟩, hrun, rfl⟩ := Option.map_eq_some_iff.mp h
  have hstart : ∀ t ∈ [(⟨p.start, [], []⟩ : Thread)], t.Within text k k := by
    intro t ht
    obtain rfl := List.mem_singleton.mp ht
    exact ⟨fun g hg => absurd hg List.not_mem_nil, fun g hg => absurd hg List.not_mem_nil⟩
  obtain ⟨j, hkj, hj, rfl, hgroups⟩ := foundWithin_run p (Nat.le_refl k) hk rfl hstart
    (fun _ _ hnone => by cases hnone) stop recorded hrun
  exact ⟨j, ⟨hkj, hj, rfl, rfl⟩, hgroups⟩

/-- A match is what matches at the first place, from character number `k` on, that is not
before the cursor and where anything does. -/
def FirstMatch (p : Program) (text : List Char) (cursor k : Nat) (m : Match) : Prop :=
  ∃ j, k ≤ j ∧ j ≤ text.length ∧ cursor ≤ boundaryOf text j ∧ p.matchAt? text j = some m ∧
    ∀ i, k ≤ i → i < j → cursor ≤ boundaryOf text i → p.matchAt? text i = none

/-- The first place answers. -/
theorem firstMatch_iff_eq {p : Program} {cursor k : Nat} {m found : Match}
    (hk : k ≤ text.length) (hcursor : cursor ≤ boundaryOf text k)
    (hfound : p.matchAt? text k = some found) :
    p.FirstMatch text cursor k m ↔ found = m := by
  constructor
  · rintro ⟨j, hkj, -, -, hmatch, hfirst⟩
    rcases Nat.eq_or_lt_of_le hkj with rfl | hlt
    · exact Option.some.inj (hfound.symm.trans hmatch)
    · rw [hfirst k (Nat.le_refl k) hlt hcursor] at hfound
      cases hfound
  · rintro rfl
    exact ⟨k, Nat.le_refl k, hk, hcursor, hfound, fun i hki hik => by omega⟩

/-- A place that does not answer can be left out. -/
theorem firstMatch_iff_succ {p : Program} {cursor k : Nat} {m : Match}
    (hnone : cursor ≤ boundaryOf text k → p.matchAt? text k = none) :
    p.FirstMatch text cursor k m ↔ p.FirstMatch text cursor (k + 1) m := by
  constructor
  · rintro ⟨j, hkj, hj, hcursor, hmatch, hfirst⟩
    rcases Nat.eq_or_lt_of_le hkj with rfl | hlt
    · rw [hnone hcursor] at hmatch
      cases hmatch
    · exact ⟨j, hlt, hj, hcursor, hmatch, fun i hki => hfirst i (Nat.le_of_succ_le hki)⟩
  · rintro ⟨j, hkj, hj, hcursor, hmatch, hfirst⟩
    refine ⟨j, by omega, hj, hcursor, hmatch, fun i hki hij => ?_⟩
    rcases Nat.eq_or_lt_of_le hki with rfl | hlt
    · exact hnone
    · exact hfirst i hlt hij

/-- Beyond the text nothing matches. -/
theorem not_firstMatch_of_length_lt {p : Program} {cursor k : Nat} {m : Match}
    (hk : text.length < k) : ¬p.FirstMatch text cursor k m := by
  rintro ⟨j, hkj, hj, -⟩
  omega

/-- **A search from some character on finds the first match.** -/
theorem findFrom?_eq_some_iff (p : Program) (cursor : Nat) {rest : List Char} {k : Nat}
    {m : Match} (hk : k ≤ text.length) (hrest : text.drop k = rest) :
    p.findFrom? cursor (text.take k).getLast? (boundaryOf text k) rest = some m ↔
      p.FirstMatch text cursor k m := by
  have hat : p.matchHere? (text.take k).getLast? (boundaryOf text k) rest =
      p.matchAt? text k := by
    rw [matchAt?, hrest]
  -- the search moves on by one character, so the induction is on what is left of the text
  induction rest generalizing k with
  | nil =>
    have hlast : text.length < k + 1 := Nat.lt_succ_of_le (List.drop_eq_nil_iff.mp hrest)
    rw [findFrom?, hat]
    by_cases hcursor : cursor ≤ boundaryOf text k
    · rw [if_pos hcursor]
      cases hmatch : p.matchAt? text k with
      | some found => rw [firstMatch_iff_eq hk hcursor hmatch, Option.some.injEq]
      | none =>
        rw [firstMatch_iff_succ fun _ => hmatch]
        exact iff_of_false (Option.some_ne_none m).symm (not_firstMatch_of_length_lt hlast)
    · rw [if_neg hcursor, firstMatch_iff_succ fun hle => absurd hle hcursor]
      exact iff_of_false (Option.some_ne_none m).symm (not_firstMatch_of_length_lt hlast)
  | cons c rest ih =>
    have hhigh := lt_length_of_drop hrest
    have hnext := drop_succ_of_drop hrest
    have hbefore : (text.take (k + 1)).getLast? = some c := by
      rw [List.take_add_one, ← List.head?_drop, hrest]
      simp
    have hlater := ih hhigh hnext (by rw [matchAt?, hnext])
    rw [hbefore, boundaryOf_succ hrest] at hlater
    rw [findFrom?, hat]
    dsimp only
    by_cases hcursor : cursor ≤ boundaryOf text k
    · rw [if_pos hcursor]
      cases hmatch : p.matchAt? text k with
      | some found => rw [firstMatch_iff_eq hk hcursor hmatch, Option.some.injEq]
      | none =>
        rw [firstMatch_iff_succ fun _ => hmatch]
        exact hlater
    · rw [if_neg hcursor, firstMatch_iff_succ fun hle => absurd hle hcursor]
      exact hlater

/-- A search at a boundary finds what matches at the first place from there on. -/
theorem find?_eq_some_iff (p : Program) {c : Nat} (hc : c ≤ text.length) {m : Match} :
    p.find? text (boundaryOf text c) = some m ↔
      ∃ j, c ≤ j ∧ j ≤ text.length ∧ p.matchAt? text j = some m ∧
        ∀ i, c ≤ i → i < j → p.matchAt? text i = none := by
  refine (findFrom?_eq_some_iff p (boundaryOf text c) (Nat.zero_le _) List.drop_zero).trans ?_
  constructor
  · rintro ⟨j, -, hj, hcursor, hmatch, hfirst⟩
    refine ⟨j, (boundaryOf_le_iff hc hj).mp hcursor, hj, hmatch, fun i hci hij => ?_⟩
    exact hfirst i (Nat.zero_le i) hij ((boundaryOf_le_iff hc (by omega)).mpr hci)
  · rintro ⟨j, hcj, hj, hmatch, hfirst⟩
    refine ⟨j, Nat.zero_le j, hj, (boundaryOf_le_iff hc hj).mpr hcj, hmatch,
      fun i _ hij hcursor => ?_⟩
    exact hfirst i ((boundaryOf_le_iff hc (by omega)).mp hcursor) hij

/-- A search that finds a match finds no other one from that match's start on. -/
theorem matchAt?_of_find? {p : Program} {c j : Nat} {m : Match} (hc : c ≤ text.length)
    (hj : j ≤ text.length) (h : p.find? text (boundaryOf text c) = some m)
    (hstart : m.extent.start = boundaryOf text j) : p.matchAt? text j = some m := by
  obtain ⟨i, -, hi, hmatch, -⟩ := (find?_eq_some_iff p hc).mp h
  obtain ⟨stop, hspans, -⟩ := spans_of_matchAt? hi hmatch
  obtain rfl : i = j := (boundaryOf_inj hi hj).mp (hspans.start_eq.symm.trans hstart)
  exact hmatch

end Program

/-! ## Searches -/

/-- What may be relied on of a search in a text. -/
structure LeftmostSearch (text : List Char) (search : Nat → Option Match) : Prop where
  /-- A match lies on boundaries, not before the cursor, with its groups inside. -/
  spans : ∀ {c m}, c ≤ text.length → search (boundaryOf text c) = some m →
    ∃ j k, c ≤ j ∧ m.extent.Spans text j k ∧
      ∀ index g, m.group? index = some g → g.Within text j k
  /-- Where a match starts, it is found again. -/
  again : ∀ {c j m}, c ≤ text.length → j ≤ text.length →
    search (boundaryOf text c) = some m → m.extent.start = boundaryOf text j →
    search (boundaryOf text j) = some m
  /-- No place is passed over where a match starts. -/
  leftmost : ∀ {c j m}, c ≤ j → j ≤ text.length →
    search (boundaryOf text j) = some m → m.extent.start = boundaryOf text j →
    ∃ found, search (boundaryOf text c) = some found ∧ found.extent.start ≤ boundaryOf text j

/-- **Every regular expression searches like this.** -/
theorem leftmostSearch_captures? (r : Regex) (text : List Char) :
    LeftmostSearch text (r.captures? text) where
  spans := by
    intro c m hc hfind
    obtain ⟨j, hcj, hj, hmatch, -⟩ := (Program.find?_eq_some_iff r.program hc).mp hfind
    obtain ⟨k, hspans, hgroups⟩ := Program.spans_of_matchAt? hj hmatch
    refine ⟨j, k, hcj, hspans, fun index g hg => ?_⟩
    obtain ⟨before, after, hrecorded, -⟩ := List.lookup_eq_some_iff.mp hg
    exact hgroups (index, g) (by rw [hrecorded]; simp)
  again := by
    intro c j m hc hj hfind hstart
    have hmatch := Program.matchAt?_of_find? hc hj hfind hstart
    exact (Program.find?_eq_some_iff r.program hj).mpr
      ⟨j, Nat.le_refl j, hj, hmatch, fun i hji hij => by omega⟩
  leftmost := by
    intro c j m hcj hj hfind hstart
    have hmatch := Program.matchAt?_of_find? hj hj hfind hstart
    -- the first place from the cursor on where anything matches
    have hexists : ∃ i, c ≤ i ∧ (r.program.matchAt? text i).isSome :=
      ⟨j, hcj, by rw [hmatch]; rfl⟩
    obtain ⟨hci, hsome⟩ := Nat.find_spec hexists
    have hij : Nat.find hexists ≤ j := Nat.find_min' hexists ⟨hcj, by rw [hmatch]; rfl⟩
    obtain ⟨found, hfound⟩ := Option.isSome_iff_exists.mp hsome
    obtain ⟨stop, hspans, -⟩ := Program.spans_of_matchAt? (by omega) hfound
    refine ⟨found, (Program.find?_eq_some_iff r.program (by omega)).mpr
      ⟨Nat.find hexists, hci, by omega, hfound, fun i hci' hi => ?_⟩, ?_⟩
    · have := Nat.find_min hexists hi
      exact Option.not_isSome_iff_eq_none.mp fun hsome' => this ⟨hci', hsome'⟩
    · rw [hspans.start_eq]
      exact (boundaryOf_le_iff (by omega) hj).mpr hij

end StreamNames.Regex
