import StreamNames.Proofs.Regex.Reader.Escapes

/-!
# Reading the same brackets twice

Sets between brackets are read item by item. Only a class with a name is tried and taken
back, so it is described first: it is read where its whole text comes next, and nothing is
read elsewhere.

- `readAsciiClass?_write`, `readAsciiClass?_cases`: classes with a name.
- `Mirrors.readClassBody`: the items up to the end of the brackets.
- `Advances.readBracketed`: a set on two texts.
-/

namespace StreamNames

namespace Regex

open Scan

variable {places : Nat → Prop}

/-! ## Classes with a name -/

theorem collect_bump (p : Char → Bool) (n : Nat) (s : ScanState) (hn : s.rest.length ≤ n) :
    collect p bump n s =
      .ok (s.rest.takeWhile p, s.pass (s.rest.takeWhile p) (s.rest.dropWhile p)) := by
  -- a step passes one character, so as many steps as characters are enough
  induction n generalizing s with
  | zero =>
    have hrest : s.rest = [] := List.eq_nil_of_length_eq_zero (Nat.le_zero.mp hn)
    have hpass := s.pass_nil
    rw [hrest] at hpass ⊢
    exact congrArg (fun s => Except.ok ([], s)) hpass.symm
  | succ n ih =>
    rw [collect, bind_eq (next?_eq s)]
    cases hrest : s.rest with
    | nil =>
      have hpass := s.pass_nil
      rw [hrest] at hpass
      exact congrArg (fun s => Except.ok ([], s)) hpass.symm
    | cons c rest =>
      rw [List.head?_cons]
      dsimp only
      cases hp : p c with
      | false =>
        rw [if_neg (by simp), List.takeWhile_cons_of_neg (by simp [hp]),
          List.dropWhile_cons_of_neg (by simp [hp]), ← hrest, s.pass_nil]
        rfl
      | true =>
        have hbump : discard bump s = .ok ((), s.pass [c] rest) := by
          rw [discard_eq_bind, bind_eq (bump_cons hrest)]
          rfl
        have hlength : (s.pass [c] rest).rest.length ≤ n := by
          rw [hrest, List.length_cons] at hn
          exact Nat.le_of_succ_le_succ hn
        rw [if_pos rfl, bind_eq hbump, bind_eq (ih _ hlength), List.takeWhile_cons_of_pos hp,
          List.dropWhile_cons_of_pos hp]
        rfl

theorem collectWhile_bump (p : Char → Bool) (s : ScanState) :
    collectWhile p bump s =
      .ok (s.rest.takeWhile p, s.pass (s.rest.takeWhile p) (s.rest.dropWhile p)) := by
  unfold collectWhile
  rw [bind_eq (remaining_eq s), collect_bump p _ s (Nat.le_refl _)]

/-- A class with a name as it is written. -/
def AsciiClass.write (negated : Bool) (name : List Char) : List Char :=
  '[' :: ':' :: ((if negated then ['^'] else []) ++ (name ++ [':', ']']))

/-- Names of classes are made of letters. -/
theorem AsciiClass.isLower_of_ofName? {name : List Char} {kind : AsciiClass}
    (h : AsciiClass.ofName? (String.ofList name) = some kind) :
    name ≠ [] ∧ ∀ c ∈ name, c.isLower := by
  have hletters : ∀ written : String, String.ofList name = written →
      written.toList ≠ [] ∧ (written.toList.all Char.isLower) →
      name ≠ [] ∧ ∀ c ∈ name, c.isLower := by
    rintro _ rfl
    rw [String.toList_ofList, List.all_eq_true]
    exact id
  unfold AsciiClass.ofName? at h
  split at h
  all_goals first
    | exact hletters _ ‹_› (by decide)
    | cases h

/-- What is read of a class with a name behind `[:` and the caret, if there is one. -/
def readAsciiName? (before : ScanState) (start : Position) (negated : Bool) :
    Scan (Option ClassItem) := do
  let giveUp : Scan (Option ClassItem) := do
    set before
    return none
  let name ← collectWhile (· ≠ ':') bump
  if !(← bumpIf [':', ']']) then return ← giveUp
  match AsciiClass.ofName? (String.ofList name) with
  | some kind => return some (.ascii ⟨start, ← here⟩ negated kind)
  | none => giveUp

theorem readAsciiName?_cases {before s : ScanState} (start : Position) (negated : Bool) :
    (∃ name kind rest, s.rest = name ++ [':', ']'] ++ rest ∧
      AsciiClass.ofName? (String.ofList name) = some kind) ∨
    readAsciiName? before start negated s = .ok (none, before) := by
  unfold readAsciiName?
  rw [bind_eq (collectWhile_bump _ s)]
  set name := s.rest.takeWhile (· ≠ ':')
  set after := s.rest.dropWhile (· ≠ ':') with hafter
  by_cases hclose : [':', ']'].isPrefixOf after
  · obtain ⟨rest, hrest⟩ := List.isPrefixOf_iff_prefix.mp hclose
    have hbump := bumpIf_append (s := s.pass name after) hrest.symm
    rw [bind_eq hbump, if_neg (by simp)]
    cases hname : AsciiClass.ofName? (String.ofList name) with
    | none => exact .inr rfl
    | some kind =>
      refine .inl ⟨name, kind, rest, ?_, hname⟩
      rw [List.append_assoc, hrest, hafter, List.takeWhile_append_dropWhile]
  · rw [bind_eq (bumpIf_of_not hclose), if_pos (by simp)]
    exact .inr rfl

theorem readAsciiName?_append {before s : ScanState} (start : Position) (negated : Bool)
    {name rest : List Char} {kind : AsciiClass} (hs : s.rest = name ++ [':', ']'] ++ rest)
    (hname : AsciiClass.ofName? (String.ofList name) = some kind) :
    ∃ span, readAsciiName? before start negated s =
      .ok (some (.ascii span negated kind), s.pass (name ++ [':', ']']) rest) := by
  -- names are spelled in small letters, so the colon behind the name is the first one
  have hcolon : ∀ c ∈ name, decide (c ≠ ':') = true := by
    intro c hc
    refine decide_eq_true fun heq => ?_
    have := (AsciiClass.isLower_of_ofName? hname).2 c hc
    rw [heq] at this
    exact absurd this (by decide)
  have htake : s.rest.takeWhile (· ≠ ':') = name := by
    rw [hs, List.append_assoc, List.takeWhile_append_of_pos hcolon]
    simp
  have hdrop : s.rest.dropWhile (· ≠ ':') = [':', ']'] ++ rest := by
    rw [hs, List.append_assoc, List.dropWhile_append_of_pos hcolon]
    simp
  refine ⟨⟨start, s.place.after (name ++ [':', ']'])⟩, ?_⟩
  unfold readAsciiName?
  rw [bind_eq (collectWhile_bump _ s), htake, hdrop, bind_eq (bumpIf_append rfl),
    if_neg (by simp), hname, s.pass_pass]
  rfl

theorem readAsciiClass?_open {s : ScanState} {negated : Bool} {d : Char} {rest : List Char}
    (hs : s.rest = '[' :: ':' :: ((if negated then ['^'] else []) ++ d :: rest))
    (hd : negated = false → d ≠ '^') :
    readAsciiClass? s = readAsciiName? s s.place negated
      (s.pass ('[' :: ':' :: if negated then ['^'] else []) (d :: rest)) := by
  have hbump : ∀ inner, s.rest = '[' :: inner → discard bump s = .ok ((), s.pass ['['] inner) := by
    intro inner hinner
    rw [discard_eq_bind, bind_eq (bump_cons hinner)]
    rfl
  unfold readAsciiClass?
  rw [bind_eq (get_eq s), bind_eq (here_eq s),
    bind_eq (hbump _ hs), bind_eq (next?_eq _), if_neg (by simp), bind_eq (bump_cons rfl),
    s.pass_pass]
  cases negated with
  | true =>
    show (if _ then (_ : Scan (Option ClassItem)) else _) (s.pass (['['] ++ [':']) ('^' :: d :: rest)) = _
    rw [if_neg (by simp), bind_eq (next?_eq _), if_pos (by simp), bind_eq (bump_cons rfl),
      s.pass_pass, if_neg (by simp)]
    rfl
  | false =>
    have hnegated : decide ((s.pass (['['] ++ [':']) (d :: rest)).rest.head? = some '^') =
      false := decide_eq_false (by simpa using hd rfl)
    show (if _ then (_ : Scan (Option ClassItem)) else _) (s.pass (['['] ++ [':']) (d :: rest)) = _
    rw [if_neg (by simp), bind_eq (next?_eq _), if_neg (by simpa using hd rfl), hnegated]
    rfl

/-- **A class with a name is read as one.** -/
theorem readAsciiClass?_write {s : ScanState} {negated : Bool} {name rest : List Char}
    {kind : AsciiClass} (hs : s.rest = AsciiClass.write negated name ++ rest)
    (hname : AsciiClass.ofName? (String.ofList name) = some kind) :
    ∃ span, readAsciiClass? s =
      .ok (some (.ascii span negated kind), s.pass (AsciiClass.write negated name) rest) := by
  obtain ⟨hne, hlower⟩ := AsciiClass.isLower_of_ofName? hname
  obtain ⟨d, more, rfl⟩ := List.exists_cons_of_ne_nil hne
  have hopen := @readAsciiClass?_open s negated d (more ++ [':', ']'] ++ rest)
    (by rw [hs]; simp [AsciiClass.write]) fun _ hcaret => by
      have := hlower d List.mem_cons_self
      rw [hcaret] at this
      exact absurd this (by decide)
  obtain ⟨span, hread⟩ := @readAsciiName?_append s
    (s.pass ('[' :: ':' :: if negated then ['^'] else []) (d :: more ++ [':', ']'] ++ rest))
    s.place negated _ _ _ rfl hname
  refine ⟨span, hopen.trans (hread.trans ?_)⟩
  rw [s.pass_pass]
  rfl

/-- **Nothing is read where no class with a name comes next.** -/
theorem readAsciiClass?_cases {s : ScanState} (hs : s.rest.head? = some '[') :
    (∃ negated name kind rest, s.rest = AsciiClass.write negated name ++ rest ∧
      AsciiClass.ofName? (String.ofList name) = some kind) ∨
    readAsciiClass? s = .ok (none, s) := by
  obtain ⟨inner, hs⟩ := List.head?_eq_some_iff.mp hs
  -- only a colon, an optional caret and another character open such a name
  by_cases hopen : ∃ negated d rest, inner = ':' :: ((if negated then ['^'] else []) ++ d :: rest) ∧
      (negated = false → d ≠ '^')
  · obtain ⟨negated, d, rest, rfl, hd⟩ := hopen
    rw [readAsciiClass?_open hs hd]
    rcases readAsciiName?_cases
      (s := s.pass ('[' :: ':' :: if negated then ['^'] else []) (d :: rest))
      s.place negated with ⟨name, kind, rest', hrest, hname⟩ | hread
    · refine .inl ⟨negated, name, kind, rest', ?_, hname⟩
      rw [ScanState.rest_pass] at hrest
      rw [hs, hrest]
      simp [AsciiClass.write]
    · exact .inr hread
  · refine .inr ?_
    have hbump : discard bump s = .ok ((), s.pass ['['] inner) := by
      rw [discard_eq_bind, bind_eq (bump_cons hs)]
      rfl
    unfold readAsciiClass?
    rw [bind_eq (get_eq s), bind_eq (here_eq s),
      bind_eq hbump, bind_eq (next?_eq _)]
    by_cases hcolon : inner.head? = some ':'
    · obtain ⟨named, rfl⟩ := List.head?_eq_some_iff.mp hcolon
      rw [if_neg (by simp), bind_eq (bump_cons rfl)]
      rcases named with _ | ⟨d, rest⟩
      · rfl
      · -- what could follow opens a class with a name, but for a caret at the end
        have hcaret : d = '^' := by
          by_contra hne
          exact hopen ⟨false, d, rest, rfl, fun _ => hne⟩
        subst hcaret
        rcases rest with _ | ⟨e, rest⟩
        · rfl
        · exact absurd ⟨true, e, rest, rfl, fun h => absurd h (by decide)⟩ hopen
    · rw [if_pos (by simpa using hcolon)]
      rfl

theorem AsciiClass.parenthesis_not_mem_write {negated : Bool} {name : List Char}
    {kind : AsciiClass} (hname : AsciiClass.ofName? (String.ofList name) = some kind) :
    '(' ∉ AsciiClass.write negated name := by
  have hlower : '(' ∉ name := fun h =>
    absurd ((AsciiClass.isLower_of_ofName? hname).2 '(' h) (by decide)
  cases negated <;> simp [AsciiClass.write, hlower]

theorem readAsciiClass?_shrinks {s s' : ScanState} {item : ClassItem}
    (hs : s.rest.head? = some '[') (h : readAsciiClass? s = .ok (some item, s')) :
    s'.rest.length < s.rest.length := by
  rcases readAsciiClass?_cases hs with ⟨negated, name, kind, rest, hrest, hname⟩ | hnone
  · obtain ⟨span, hread⟩ := readAsciiClass?_write hrest hname
    rw [hread] at h
    cases h
    rw [hrest, List.length_append, ScanState.rest_pass]
    exact Nat.lt_add_of_pos_left (Nat.succ_pos _)
  · rw [hnone] at h
    cases h

theorem Mirrors.readAsciiClass? {s : ScanState} (hs : s.rest.head? = some '[') :
    Mirrors places (SameBare (Option.map ClassItem.bare)) s Regex.readAsciiClass?
      Regex.readAsciiClass? := by
  intro x s' hrun
  rcases readAsciiClass?_cases hs with ⟨negated, name, kind, rest, hrest, hname⟩ | hnone
  · obtain ⟨span, hread⟩ := readAsciiClass?_write hrest hname
    rw [hread] at hrun
    cases hrun
    refine ⟨AsciiClass.write negated name, hrest, s.place.index_after _,
      fun t rest' htrest hrespelled halike => ?_⟩
    obtain ⟨span', hread'⟩ := readAsciiClass?_write htrest hname
    exact ⟨_, _, hread', rfl, ⟨halike.verbose, halike.captures, halike.names⟩, rfl⟩
  · rw [hnone] at hrun
    cases hrun
    refine ⟨[], rfl, rfl, fun t rest' htrest hrespelled halike => ?_⟩
    obtain rfl : t.rest = rest' := htrest
    rcases readAsciiClass?_cases (hrespelled.head?_eq.trans hs) with
      ⟨negated, name, kind, rest, hrest, hname⟩ | hnone'
    · -- such a class would have come next in the first text, too
      obtain ⟨rest', hrest'⟩ := (hrespelled.exists_eq_append_iff
        (AsciiClass.parenthesis_not_mem_write hname)).mp ⟨rest, hrest⟩
      obtain ⟨span, hread⟩ := readAsciiClass?_write hrest' hname
      rw [hread] at hnone
      cases hnone
    · exact ⟨none, t, hnone', rfl, halike, rfl⟩

/-! ## Items -/

/-- An open bracket or a waiting left side without places. -/
def ClassFrame.bare : ClassFrame → ClassFrame
  | opened _ negated _ outer => opened .blank negated .start (outer.map ClassItem.bare)
  | operation kind lhs => operation kind lhs.bare

theorem fails_failUnclosed {α : Type} (frames : List ClassFrame) :
    Fails (failUnclosed frames : Scan α) := by
  unfold failUnclosed
  cases ClassFrame.innermost? frames with
  | none => exact .after _ fun _ => fails_fail _ _
  | some opening => exact fails_fail _ _

theorem ClassItem.bare_ofItems {items items' : List ClassItem} (start start' : Position)
    (h : SameBare (List.map ClassItem.bare) items items') :
    SameBare ClassItem.bare (ClassItem.ofItems start items)
      (ClassItem.ofItems start' items') := by
  have hlength : items.length = items'.length := by
    simpa using congrArg List.length h
  match items, items', hlength with
  | [], [], _ => rfl
  | [item], [item'], _ => exact List.head_eq_of_cons_eq h
  | a :: b :: items, a' :: b' :: items', _ =>
    have hreverse := congrArg List.reverse h
    rw [← List.map_reverse, ← List.map_reverse] at hreverse
    simp only [ClassItem.ofItems, SameBare, ClassItem.bare, ClassItem.bareAll_eq_map, hreverse]

theorem Literal.char_eq {l l' : Literal} (h : SameBare Literal.bare l l') :
    l.char = l'.char := by
  have hchar := congrArg Literal.char (show l.bare = l'.bare from h)
  exact hchar

namespace Mirrors

theorem toItem {x y : Primitive} (h : SameBare Primitive.bare x y) (s : ScanState) :
    Mirrors places (SameBare ClassItem.bare) s x.toItem y.toItem := by
  cases x with
  | literal l =>
    cases y with
    | literal l' => exact .pure (congrArg ClassItem.literal (Primitive.literal.inj h))
    | _ => cases h
  | property span negated name =>
    cases y with
    | property span' negated' name' =>
      cases h
      exact .pure rfl
    | _ => cases h
  | perl span negated kind =>
    cases y with
    | perl span' negated' kind' =>
      cases h
      exact .pure rfl
    | _ => cases h
  | assertion span kind => exact .fail
  | dot span => exact .fail

theorem toBound {x y : Primitive} (h : SameBare Primitive.bare x y) (s : ScanState) :
    Mirrors places (SameBare Literal.bare) s x.toBound y.toBound := by
  cases x with
  | literal l =>
    cases y with
    | literal l' => exact .pure (Primitive.literal.inj h)
    | _ => cases h
  | _ => exact .fail

end Mirrors

namespace Advances

theorem readClassPrimitive (s : ScanState) :
    Advances places (SameBare Primitive.bare) s Regex.readClassPrimitive
      Regex.readClassPrimitive := by
  unfold Regex.readClassPrimitive
  refine .after .next? ?_
  rintro next _ s₁ - rfl
  refine .ite Iff.rfl (fun _ => .readEscape s₁) fun _ => ?_
  refine .after .spanOfNext fun _ _ s₂ _ _ => .after .next? ?_
  rintro c _ s₃ - rfl
  exact Advances.bump.discard.bind fun _ _ _ _ _ => .pure rfl

theorem readClassRange {frames frames' : List ClassFrame} (s : ScanState) :
    Advances places (SameBare ClassItem.bare) s (Regex.readClassRange frames)
      (Regex.readClassRange frames') := by
  unfold Regex.readClassRange
  refine (readClassPrimitive s).bind fun first first' s₁ _ hfirst =>
    Mirrors.bumpBlanks.bind fun _ _ s₂ _ _ => Mirrors.atEnd.bind ?_
  rintro ended _ s₃ - rfl
  refine .guard Iff.rfl ((fails_failUnclosed frames).bind _) fun _ =>
    Mirrors.secondSignificant?.bind ?_
  rintro after _ s₄ - rfl
  refine Mirrors.next?.bind ?_
  rintro next _ s₅ - rfl
  refine .ite Iff.rfl (fun _ => .toItem hfirst s₅) fun _ => Mirrors.bumpWithBlanks.bind ?_
  rintro more _ s₆ - rfl
  refine .guard Iff.rfl ((fails_failUnclosed frames).bind _) fun _ =>
    (readClassPrimitive s₆).mirrors.bind fun last last' s₇ _ hlast =>
    (Mirrors.toBound hfirst s₇).bind fun lo lo' s₈ _ hlo =>
    (Mirrors.toBound hlast s₈).bind fun hi hi' s₉ _ hhi => ?_
  -- ends are compared by their characters, which places do not change
  have hchars : hi.char < lo.char ↔ hi'.char < lo'.char := by
    rw [Literal.char_eq hhi, Literal.char_eq hlo]
  refine .guard hchars ((fails_fail _ _).bind _) fun _ => .pure ?_
  show ClassItem.range _ _ _ = ClassItem.range _ _ _
  rw [show lo.bare = lo'.bare from hlo, show hi.bare = hi'.bare from hhi]

end Advances

theorem readLeadingHyphens_bound (start : Position) (s : ScanState) (n m : Nat)
    (items : List ClassItem) (hn : s.rest.length ≤ n) (hm : s.rest.length ≤ m) :
    SameRun s (readLeadingHyphens start n items) (readLeadingHyphens start m items) := by
  refine loop_bound (fun n items => readLeadingHyphens start n items) ?_ ?_ s n m
    items hn hm
  · intro s n items hrest
    exact (bind_eq (next?_eq s)).trans (by rw [hrest]; rfl)
  · intro s n m items hne hloop
    refine .next? (.ite (fun _ => ?_) fun _ => .refl _)
    refine .bind_right fun span s₁ hspan => .bind_right fun more s₂ hbump => ?_
    obtain ⟨-, rfl⟩ := spanOfNext_eq_ok hspan
    refine .guard_now (fails_fail _ _) fun _ => ?_
    exact hloop _ s₂ (shrinks_bumpWithBlanks _ _ s₂ hbump hne)

theorem Mirrors.readLeadingHyphens (start start' : Position) (n : Nat) {items items' : List ClassItem}
    (hitems : SameBare (List.map ClassItem.bare) items items') (s : ScanState) :
    Mirrors places (SameBare (List.map ClassItem.bare)) s
      (Regex.readLeadingHyphens start n items) (Regex.readLeadingHyphens start' n items') := by
  induction n generalizing s items items' with
  | zero => exact .pure hitems
  | succ n ih =>
    rw [Regex.readLeadingHyphens, Regex.readLeadingHyphens]
    refine Mirrors.next?.bind ?_
    rintro next _ s₁ - rfl
    refine .ite Iff.rfl (fun _ => ?_) fun _ => .pure hitems
    refine Mirrors.spanOfNext.bind fun span span' s₂ _ _ => Mirrors.bumpWithBlanks.bind ?_
    rintro more _ s₃ - rfl
    refine .guard Iff.rfl ((fails_fail _ _).bind _) fun _ => ?_
    refine ih ?_ s₃
    exact .cons rfl hitems

/-- What an opening bracket yields, without places. -/
def SameOpening (x y : Span × Bool × Position × List ClassItem) : Prop :=
  x.2.1 = y.2.1 ∧ SameBare (List.map ClassItem.bare) x.2.2.2 y.2.2.2

/-- A character that may be passed before the rest. -/
theorem Mirrors.optional {α β : Type} {related : α → β → Prop} {c : Prop} [Decidable c]
    {kind : FaultKind} {span span' : Position → Span} {next : Unit → Scan α}
    {next' : Unit → Scan β} {s : ScanState}
    (h : ∀ s, Mirrors places related s (next ()) (next' ())) :
    Mirrors places related s
      (if c then Scan.bumpWithBlanks >>= fun more =>
        if (!more) = true then Scan.here >>= fun p => Scan.fail kind (span p) >>= next
        else next ()
      else next ())
      (if c then Scan.bumpWithBlanks >>= fun more =>
        if (!more) = true then Scan.here >>= fun p => Scan.fail kind (span' p) >>= next'
        else next' ()
      else next' ()) := by
  refine .ite Iff.rfl (fun _ => Mirrors.bumpWithBlanks.bind ?_) fun _ => h s
  rintro more _ s₁ - rfl
  exact .guard Iff.rfl fails_at fun _ => h s₁

theorem Advances.readClassOpening (s : ScanState) :
    Advances places SameOpening s Regex.readClassOpening Regex.readClassOpening := by
  unfold Regex.readClassOpening
  refine .after .here fun start start' s₁ _ _ => Advances.bumpWithBlanks.bind ?_
  rintro more _ s₂ - rfl
  refine .guard Iff.rfl fails_at fun _ => Mirrors.next?.bind ?_
  rintro next _ s₃ - rfl
  refine .optional fun s₄ => Mirrors.here.bind fun inside inside' s₅ _ _ => ?_
  refine .bound (fun n => ?_) fun t n m _ hn hm =>
    .bind_left (readLeadingHyphens_bound _ t n m [] hn hm) _
  refine (Mirrors.readLeadingHyphens start start' n rfl s₅).bind fun items items' s₆ _ hitems =>
    Mirrors.next?.bind ?_
  rintro after _ s₇ - rfl
  refine .ite (by rw [hitems.isEmpty_eq]) (fun _ => ?_) fun _ => ?_
  · refine Mirrors.spanOfNext.bind fun span span' s₈ _ _ => Mirrors.bumpWithBlanks.bind ?_
    rintro more _ s₉ - rfl
    refine .guard Iff.rfl fails_at fun _ => ?_
    refine Mirrors.bind (@Mirrors.pure _ _ _ _ (SameBare (List.map ClassItem.bare)) _ _ rfl)
      fun opened opened' s₁₀ _ hopened => ?_
    exact Mirrors.here.bind fun _ _ _ _ _ => .pure ⟨rfl, hopened⟩
  · refine Mirrors.bind (.pure hitems) fun opened opened' s₁₀ _ hopened => ?_
    exact Mirrors.here.bind fun _ _ _ _ _ => .pure ⟨rfl, hopened⟩

/-! ## Whole brackets -/

theorem bare_joinOperation {frames frames' : List ClassFrame} {item item' : ClassItem}
    (hframes : SameBare (List.map ClassFrame.bare) frames frames')
    (hitem : SameBare ClassItem.bare item item') :
    SameBare ClassItem.bare (joinOperation frames item).1 (joinOperation frames' item').1 ∧
    SameBare (List.map ClassFrame.bare) (joinOperation frames item).2
      (joinOperation frames' item').2 := by
  cases frames with
  | nil =>
    obtain rfl : frames' = [] := by simpa [SameBare] using hframes.symm
    exact ⟨hitem, rfl⟩
  | cons frame frames =>
    cases frames' with
    | nil => cases hframes
    | cons frame' frames' =>
      obtain ⟨hframe, hrest⟩ := hframes.of_cons
      -- the frames are of one kind, since they are the same without places
      cases frame with
      | opened opening negated start outer =>
        cases frame' with
        | opened opening' negated' start' outer' => exact ⟨hitem, hframes⟩
        | operation kind' lhs' => cases hframe
      | operation kind lhs =>
        cases frame' with
        | opened opening' negated' start' outer' => cases hframe
        | operation kind' lhs' =>
          obtain ⟨rfl, hlhs⟩ := ClassFrame.operation.inj hframe
          refine ⟨?_, hrest⟩
          show ClassItem.op _ _ _ _ = ClassItem.op _ _ _ _
          rw [hlhs, show item.bare = item'.bare from hitem]

theorem Mirrors.nextOperation? (s : ScanState) :
    Mirrors places Eq s Regex.nextOperation? Regex.nextOperation? := by
  unfold Regex.nextOperation?
  refine Mirrors.next?.bind ?_
  rintro next _ s₁ - rfl
  refine Mirrors.second?.bind ?_
  rintro second _ s₂ - rfl
  exact .ite Iff.rfl (fun _ => .pure rfl) fun _ => .pure rfl

theorem Mirrors.readClassBody (n : Nat) {frames frames' : List ClassFrame}
    {start start' : Position} {items items' : List ClassItem}
    (hframes : SameBare (List.map ClassFrame.bare) frames frames')
    (hitems : SameBare (List.map ClassItem.bare) items items') (s : ScanState) :
    Mirrors places (SameBare Ast.bare) s (Regex.readClassBody n frames start items)
      (Regex.readClassBody n frames' start' items') := by
  induction n generalizing frames frames' start start' items items' s with
  | zero => exact .of_fails (fails_failUnclosed frames)
  | succ n ih =>
    rw [Regex.readClassBody, Regex.readClassBody]
    refine Mirrors.bumpBlanks.bind fun _ _ s₁ _ _ => Mirrors.next?.bind ?_
    rintro next _ s₂ hnext rfl
    cases hnext
    -- the text ends, brackets open, brackets close, or an operation or a range comes next
    split
    · exact .of_fails (fails_failUnclosed frames)
    · next hopen =>
      refine (Mirrors.readAsciiClass? hopen).bind fun found found' s₃ _ hfound => ?_
      cases found with
      | some item =>
        cases found' with
        | some item' => exact ih hframes (.cons (Option.some.inj hfound) hitems) s₃
        | none => cases hfound
      | none =>
        cases found' with
        | some item' => cases hfound
        | none =>
          refine (Advances.readClassOpening s₃).mirrors.bind ?_
          rintro ⟨opening, negated, inside, nested⟩ ⟨opening', negated', inside', nested'⟩ s₄ -
            ⟨rfl, hnested⟩
          refine ih (.cons ?_ hframes) hnested s₄
          show ClassFrame.opened _ _ _ _ = ClassFrame.opened _ _ _ _
          rw [show items.map ClassItem.bare = items'.map ClassItem.bare from hitems]
    · have hjoined := bare_joinOperation hframes (ClassItem.bare_ofItems start start' hitems)
      generalize joinOperation frames (ClassItem.ofItems start items) = joined at hjoined
      generalize joinOperation frames' (ClassItem.ofItems start' items') = joined' at hjoined
      obtain ⟨body, rest⟩ := joined
      obtain ⟨body', rest'⟩ := joined'
      obtain ⟨hbody, hrest⟩ := hjoined
      cases rest with
      | nil => exact .of_fails (fails_failUnclosed _)
      | cons frame rest =>
        cases rest' with
        | nil => cases hrest
        | cons frame' rest' =>
          obtain ⟨hframe, htail⟩ := hrest.of_cons
          cases frame with
          | operation kind lhs => exact .of_fails (fails_failUnclosed _)
          | opened opening negated outerStart outer =>
            cases frame' with
            | operation kind' lhs' => cases hframe
            | opened opening' negated' outerStart' outer' =>
              obtain ⟨-, rfl, -, houter⟩ := ClassFrame.opened.inj hframe
              refine Mirrors.bump.discard.bind fun _ _ s₃ _ _ =>
                Mirrors.here.bind fun _ _ s₄ _ _ => ?_
              refine .ite (by rw [htail.isEmpty_eq]) (fun _ => .pure ?_) fun _ => ?_
              · show Ast.bracketed _ _ _ = Ast.bracketed _ _ _
                rw [show body.bare = body'.bare from hbody]
              · refine ih htail (.cons ?_ houter) s₄
                show ClassItem.bracketed _ _ _ = ClassItem.bracketed _ _ _
                rw [show body.bare = body'.bare from hbody]
    · refine (Mirrors.nextOperation? s₁).bind ?_
      rintro operation _ s₃ - rfl
      cases operation with
      | none =>
        refine (Advances.readClassRange s₃).mirrors.bind fun item item' s₄ _ hitem => ?_
        exact ih hframes (.cons hitem hitems) s₄
      | some kind =>
        have hjoined := bare_joinOperation hframes (ClassItem.bare_ofItems start start' hitems)
        refine Mirrors.bump.discard.bind fun _ _ s₄ _ _ =>
          Mirrors.bump.discard.bind fun _ _ s₅ _ _ => Mirrors.here.bind fun _ _ s₆ _ _ => ?_
        refine ih (.cons ?_ hjoined.2) rfl s₆
        exact congrArg (ClassFrame.operation kind) hjoined.1

theorem readClassBody_bound (s : ScanState) (n m : Nat) (frames : List ClassFrame)
    (start : Position) (items : List ClassItem) (hn : s.rest.length ≤ n)
    (hm : s.rest.length ≤ m) :
    SameRun s (readClassBody n frames start items) (readClassBody m frames start items) := by
  -- the three values that a round hands on are taken as one
  refine loop_bound (fun n (set : List ClassFrame × Position × List ClassItem) =>
    readClassBody n set.1 set.2.1 set.2.2) ?_ ?_ s n m (frames, start, items) hn hm
  · rintro s n ⟨frames, start, items⟩ hrest
    show (bumpBlanks >>= _) s = failUnclosed frames s
    rw [bind_eq (bumpBlanks_nil hrest), bind_eq (next?_eq s), hrest]
    rfl
  · rintro s n m ⟨frames, start, items⟩ hne hloop
    -- a step that passes a character leaves less text than the round began with
    have hstep : ∀ {α β : Type} {related : α → β → Prop} {f : Scan α} {g : Scan β}
        {s₁ s₂ : ScanState} {x : α} (set : List ClassFrame × Position × List ClassItem),
        Advances nowhere related s₁ f g → f s₁ = .ok (x, s₂) →
        s₁.rest.length ≤ s.rest.length →
        SameRun s₂ (readClassBody n set.1 set.2.1 set.2.2)
          (readClassBody m set.1 set.2.1 set.2.2) :=
      fun set hadvances hf hle => hloop set _ (hadvances.length_lt hf hne hle)
    refine .bind_right fun _ s₁ hblanks => .next? ?_
    have hle := (@Mirrors.bumpBlanks nowhere s).length_le hblanks
    split
    · exact .refl _
    · next hopen =>
      refine .bind_right fun found s₂ hread => ?_
      cases found with
      | some item =>
        exact hloop (frames, start, item :: items) s₂
          (Nat.lt_of_lt_of_le (readAsciiClass?_shrinks hopen hread) hle)
      | none =>
        have hle' := (@Mirrors.readAsciiClass? nowhere s₁ hopen).length_le hread
        refine .bind_right fun opening s₃ hopening => ?_
        exact hstep (_, _, _) (.readClassOpening s₂) hopening (Nat.le_trans hle' hle)
    · split
      split
      · refine .bind_right fun _ s₂ hbump => .bind_right fun stop s₃ hhere => ?_
        cases hhere
        refine .ite (fun _ => .refl _) fun _ => ?_
        exact hstep (_, _, _) Advances.bump.discard hbump hle
      · exact .refl _
    · refine .bind_right fun operation s₂ hoperation => ?_
      have hle' := (@Mirrors.nextOperation? nowhere s₁).length_le hoperation
      cases operation with
      | none =>
        refine .bind_right fun item s₃ hitem => ?_
        exact hstep (frames, start, item :: items)
          (@Advances.readClassRange nowhere frames frames s₂) hitem (Nat.le_trans hle' hle)
      | some kind =>
        refine .bind_right fun _ s₃ hbump => .bind_right fun _ s₄ hbump' => ?_
        refine .bind_right fun place s₅ hhere => ?_
        cases hhere
        have hle'' := (@Mirrors.bump nowhere s₂).discard.length_le hbump
        exact hstep (_, _, _) Advances.bump.discard hbump' (Nat.le_trans hle'' (Nat.le_trans hle' hle))

theorem Advances.readBracketed (s : ScanState) :
    Advances places (SameBare Ast.bare) s Regex.readBracketed Regex.readBracketed := by
  unfold Regex.readBracketed
  refine .bound (fun n => ?_) fun t n m _ hn hm => ?_
  · refine .after .here fun place place' s₁ _ _ => (readClassOpening s₁).bind ?_
    rintro ⟨opening, negated, inside, items⟩ ⟨opening', negated', inside', items'⟩ s₂ -
      ⟨rfl, hitems⟩
    refine Mirrors.readClassBody n ?_ hitems s₂
    rfl
  · refine .bind_right fun place t₁ hhere => .bind_right fun opening t₂ hopening => ?_
    cases hhere
    have hle := (@readClassOpening nowhere t).mirrors.length_le hopening
    exact readClassBody_bound t₂ n m _ _ _ (Nat.le_trans hle hn) (Nat.le_trans hle hm)

end Regex

end StreamNames
