import Mathlib.Data.List.Forall2
import StreamNames.Batch.Feed
import StreamNames.Proofs.Json.Layout

/-!
# Feeds that are written and read

A feed that was written is read back as the same streams, whatever characters their names
have, on one line or with indentation. An object may also have other members, its members
may stand in another order, and a reason that is null may be left out.

- `Describes`: the objects that describe a stream.
- `Gathers`: what is gathered from the members of an object, one after another.
- `reads_readStream`: an object that describes a stream is read as this stream.
- `roundTrips`: feeds are read back as they were written.
-/

namespace StreamNames.Feed

open JsonReader
open Json (Laid quote)

variable {isFirst : Bool} {text rest : List Char} {s : Stream} {members : List (String × Json)}

/-! ## Objects that describe a stream -/

/-- A reason, or null. -/
def reasonJson : Option String → Json
  | some reason => .string reason
  | none => .null

/-- The members that say something about a stream. A reason that is null may be left out. -/
inductive Own (s : Stream) : List (String × Json) → Prop
  | written :
      Own s [("name", .string s.name), ("builtin_filter_reason", reasonJson s.builtinFilterReason)]
  | withoutReason (notFlagged : s.builtinFilterReason = none) : Own s [("name", .string s.name)]

/-- A member that is passed over: it has another name and a simple value. -/
def IsOther (member : String × Json) : Prop :=
  member.1 ≠ "name" ∧ member.1 ≠ "builtin_filter_reason" ∧ IsSimple member.2

/-- An object that describes a stream: it has the members of the stream and others, in any
order. -/
inductive Describes (s : Stream) (members : List (String × Json)) : Prop
  | mk {own others : List (String × Json)} (isOwn : Own s own)
      (isOther : ∀ member ∈ others, IsOther member) (order : members.Perm (own ++ others))

/-- A member with another name may come first, and a reason that is null may be missing. -/
example : Describes ⟨"News", none⟩ [("id", .null), ("name", .string "News")] := by
  refine .mk (.withoutReason rfl) (List.forall_mem_singleton.mpr ?_) (.swap ..)
  exact ⟨by decide, by decide, .null⟩

theorem streamJson_eq (s : Stream) : streamJson s =
    .object [("name", .string s.name),
      ("builtin_filter_reason", reasonJson s.builtinFilterReason)] := by
  obtain ⟨name, reason⟩ := s
  cases reason <;> rfl

/-! ## Members one after another -/

/-- What is gathered from members, given the name and the reason found before them. -/
inductive Gathers : (name : Option String) → (reason : Option (Option String)) →
    List (String × Json) → Stream → Prop
  | closed {name : String} {reason : Option (Option String)} :
      Gathers (some name) reason [] ⟨name, reason.getD none⟩
  | name {name : String} {reason : Option (Option String)} {members : List (String × Json)}
      {s : Stream} (more : Gathers (some name) reason members s) :
      Gathers none reason (("name", .string name) :: members) s
  | reason {name : Option String} {reason : Option String} {members : List (String × Json)}
      {s : Stream} (more : Gathers name (some reason) members s) :
      Gathers name none (("builtin_filter_reason", reasonJson reason) :: members) s
  | other {name : Option String} {reason : Option (Option String)} {member : String × Json}
      {members : List (String × Json)} {s : Stream} (isOther : IsOther member)
      (more : Gathers name reason members s) : Gathers name reason (member :: members) s

/-- What is gathered does not depend on the order of the members. -/
theorem Gathers.perm {members' : List (String × Json)} (hperm : members.Perm members')
    {name : Option String} {reason : Option (Option String)} (h : Gathers name reason members s) :
    Gathers name reason members' s := by
  induction hperm generalizing name reason with
  | nil => exact h
  | cons member _ ih =>
    cases h with
    | name hmore => exact .name (ih hmore)
    | reason hmore => exact .reason (ih hmore)
    | other hother hmore => exact .other hother (ih hmore)
  | swap first second members =>
    -- a name and a reason are gathered at most once, so two of a kind do not come together
    cases h with
    | name hmore =>
      cases hmore with
      | reason hmore => exact .reason (.name hmore)
      | other hother hmore => exact .other hother (.name hmore)
    | reason hmore =>
      cases hmore with
      | name hmore => exact .name (.reason hmore)
      | other hother hmore => exact .other hother (.reason hmore)
    | other hother hmore =>
      cases hmore with
      | name hmore => exact .name (.other hother hmore)
      | reason hmore => exact .reason (.other hother hmore)
      | other hother' hmore => exact .other hother' (.other hother hmore)
  | trans _ _ ih ih' => exact ih' (ih h)

theorem gathers_others {others : List (String × Json)} (h : ∀ member ∈ others, IsOther member)
    (name : String) (reason : Option (Option String)) :
    Gathers (some name) reason others ⟨name, reason.getD none⟩ := by
  induction others with
  | nil => exact .closed
  | cons member others ih =>
    obtain ⟨hmember, hothers⟩ := List.forall_mem_cons.mp h
    exact .other hmember (ih hothers)

/-- From an object that describes a stream this stream is gathered. -/
theorem Describes.gathers (h : Describes s members) : Gathers none none members s := by
  obtain ⟨hown, hothers, horder⟩ := h
  refine Gathers.perm horder.symm ?_
  cases hown with
  | written => exact .name (.reason (gathers_others hothers s.name (some s.builtinFilterReason)))
  | withoutReason hnone =>
    obtain ⟨name, reason⟩ := s
    obtain rfl : reason = none := hnone
    exact .name (gathers_others hothers name none)

/-! ## How feeds are written -/

/-- A member as it is written. -/
inductive WritesMember (member : String × Json) : List Char → Prop
  | mk {blanks : List Char} (blank : AllBlank blanks) :
      WritesMember member (quote member.1 ++ ':' :: (blanks ++ member.2.compactChars))

/-- An object as it is written. -/
inductive WritesObject (members : List (String × Json)) : List Char → Prop
  | mk {text : List Char} (laid : Laid WritesMember true members text) :
      WritesObject members ('\x7b' :: (text ++ ['\x7d']))

/-- A feed as it is written. -/
inductive WritesFeed (objects : List (List (String × Json))) : List Char → Prop
  | mk {text : List Char} (laid : Laid WritesObject true objects text) :
      WritesFeed objects ('[' :: (text ++ [']']))

/-- All members of an object have simple values. -/
def AllSimple (members : List (String × Json)) : Prop := ∀ member ∈ members, IsSimple member.2

theorem isSimple_reasonJson (reason : Option String) : IsSimple (reasonJson reason) := by
  cases reason with
  | none => exact .null
  | some reason => exact .string reason

theorem Describes.allSimple (h : Describes s members) : AllSimple members := by
  obtain ⟨hown, hothers, horder⟩ := h
  intro member hmember
  rcases List.mem_append.mp (horder.mem_iff.mp hmember) with hmem | hmem
  · cases hown with
    | written =>
      rcases List.mem_cons.mp hmem with rfl | hmem
      · exact .string s.name
      · rw [List.mem_singleton.mp hmem]
        exact isSimple_reasonJson _
    | withoutReason =>
      rw [List.mem_singleton.mp hmem]
      exact .string s.name
  · exact (hothers member hmem).2.2

theorem writesFeed_compact (objects : List (List (String × Json))) :
    WritesFeed objects (Json.array (objects.map .object)).compactChars := by
  refine .mk (Json.laid_compactItems objects fun members _ => .mk ?_)
  exact Json.laid_compactMembers members fun _ _ => @WritesMember.mk _ [] Json.allBlank_nil

theorem writesObject_pretty (h : AllSimple members) (level : Nat) :
    WritesObject members ((Json.object members).prettyChars level) := by
  cases members with
  | nil => exact .mk (.closed Json.allBlank_nil)
  | cons member members =>
    refine .mk (Json.laid_prettyMembers (level + 1) level (member :: members) fun m hm => ?_)
    rw [(h m hm).prettyChars_eq]
    exact @WritesMember.mk _ [' '] (List.forall_mem_singleton.mpr (by decide))

theorem writesFeed_pretty {objects : List (List (String × Json))}
    (h : ∀ members ∈ objects, AllSimple members) :
    WritesFeed objects ((Json.array (objects.map .object)).prettyChars 0) := by
  cases objects with
  | nil => exact .mk (.closed Json.allBlank_nil)
  | cons members objects =>
    exact .mk (Json.laid_prettyItems 1 0 (members :: objects)
      fun members hmembers => writesObject_pretty (h members hmembers) 1)

/-! ## Reading the parts of a stream -/

/-- A text after blanks is read. -/
theorem reads_readText {blanks : List Char} (hblanks : AllBlank blanks) (value : String)
    (text : List Char) : Reads readText (blanks ++ (quote value ++ text)) value text := by
  have hnext := reads_nextPart? hblanks (c := '"') (by decide)
    (value.toList.flatMap Json.escapeChar ++ '"' :: text)
  rw [← quote_append] at hnext
  exact hnext.bind (reads_readString value text)

/-- A reason or null after blanks is read. -/
theorem reads_readOptionalText {blanks : List Char} (hblanks : AllBlank blanks)
    (reason : Option String) (text : List Char) :
    Reads readOptionalText (blanks ++ ((reasonJson reason).compactChars ++ text)) reason text := by
  cases reason with
  | none =>
    refine (reads_nextPart? hblanks (by decide) _).bind ?_
    exact (reads_bump _ _).bind ((reads_readIdent ['u', 'l', 'l'] text).bind (reads_pure _ _))
  | some reason =>
    have hnext := reads_nextPart? hblanks (c := '"') (by decide)
      (reason.toList.flatMap Json.escapeChar ++ '"' :: text)
    rw [← quote_append] at hnext
    exact hnext.bind ((reads_readText Json.allBlank_nil reason text).bind (reads_pure _ _))

theorem reads_readColon (text : List Char) : Reads readColon (':' :: text) () text :=
  (reads_nextPart? Json.allBlank_nil (by decide) text).bind (reads_bump _ _)

/-- Before a member what separates it from the one before is passed over. -/
theorem reads_nextMember {member : String × Json} {text : List Char}
    (h : Laid WritesMember isFirst (member :: members) text) (rest : List Char) :
    ∃ blanks more, AllBlank blanks ∧ Laid WritesMember false members more ∧
      Reads (nextMember isFirst) (text ++ '\x7d' :: rest) true (quote member.1 ++
        ':' :: (blanks ++ (member.2.compactChars ++ (more ++ '\x7d' :: rest)))) := by
  -- a member starts with a quote, by which it is told from the closing brace
  obtain ⟨name, hname⟩ : ∃ name, quote member.1 = '"' :: name := ⟨_, rfl⟩
  cases h with
  | first hblank hpart hmore =>
    obtain ⟨hblanks⟩ := hpart
    refine ⟨_, _, hblanks, hmore, ?_⟩
    simp only [List.append_assoc, List.cons_append, hname]
    exact (reads_nextPart? hblank (by decide) _).bind (reads_pure _ _)
  | next hbefore hblank hpart hmore =>
    obtain ⟨hblanks⟩ := hpart
    refine ⟨_, _, hblanks, hmore, ?_⟩
    simp only [List.append_assoc, List.cons_append, hname]
    refine (reads_nextPart? hbefore (by decide) _).bind ((reads_bump _ _).bind ?_)
    exact (reads_nextPart? hblank (by decide) _).bind (reads_pure _ _)

/-- After the last member the closing brace is left. -/
theorem reads_nextMember_closed {text : List Char} (h : Laid WritesMember isFirst [] text)
    (rest : List Char) :
    Reads (nextMember isFirst) (text ++ '\x7d' :: rest) false ('\x7d' :: rest) := by
  cases h with
  | closed hblank => exact (reads_nextPart? hblank (by decide) rest).bind (reads_pure _ _)

/-- **The members of an object are read as what is gathered from them.** -/
theorem reads_readMembers {name : Option String} {reason : Option (Option String)}
    (hgathers : Gathers name reason members s) {isFirst : Bool} {text : List Char}
    (hlaid : Laid WritesMember isFirst members text) {bound : Nat} (hbound : members.length < bound)
    (rest : List Char) :
    Reads (readMembers bound isFirst name reason) (text ++ '\x7d' :: rest) s rest := by
  -- each way to gather a member is a branch of the reading, and takes one step of its bound
  induction hgathers generalizing isFirst text bound with
  | closed =>
    obtain ⟨bound, rfl⟩ := Nat.exists_eq_succ_of_ne_zero (Nat.ne_of_gt hbound)
    refine (reads_nextMember_closed hlaid rest).bind ?_
    exact (reads_bump _ _).bind (reads_pure _ _)
  | name _ ih =>
    obtain ⟨bound, rfl⟩ := Nat.exists_eq_succ_of_ne_zero (Nat.ne_of_gt (Nat.zero_lt_of_lt hbound))
    obtain ⟨blanks, more, hblanks, hmore, hnext⟩ := reads_nextMember hlaid rest
    refine hnext.bind ((reads_readString _ _).bind ?_)
    refine (reads_readColon _).bind ((reads_readText hblanks _ _).bind ?_)
    exact ih hmore (Nat.lt_of_succ_lt_succ hbound)
  | reason _ ih =>
    obtain ⟨bound, rfl⟩ := Nat.exists_eq_succ_of_ne_zero (Nat.ne_of_gt (Nat.zero_lt_of_lt hbound))
    obtain ⟨blanks, more, hblanks, hmore, hnext⟩ := reads_nextMember hlaid rest
    refine hnext.bind ((reads_readString _ _).bind ?_)
    refine (reads_readColon _).bind ((reads_readOptionalText hblanks _ _).bind ?_)
    exact ih hmore (Nat.lt_of_succ_lt_succ hbound)
  | other hother _ ih =>
    obtain ⟨bound, rfl⟩ := Nat.exists_eq_succ_of_ne_zero (Nat.ne_of_gt (Nat.zero_lt_of_lt hbound))
    obtain ⟨blanks, more, hblanks, hmore, hnext⟩ := reads_nextMember hlaid rest
    obtain ⟨hname, hreason, hsimple⟩ := hother
    refine hnext.bind ((reads_readString _ _).bind ?_)
    -- neither of the known names, so the value is passed over
    rw [if_neg hname, if_neg hreason]
    refine (reads_readColon _).bind ((reads_skipValue hsimple hblanks _).bind ?_)
    exact ih hmore (Nat.lt_of_succ_lt_succ hbound)

/-! ## Reading the streams of a feed -/

theorem WritesMember.ne_nil {member : String × Json} {text : List Char}
    (h : WritesMember member text) : text ≠ [] := by
  obtain ⟨-⟩ := h
  exact List.cons_ne_nil _ _

theorem WritesObject.ne_nil {text : List Char} (h : WritesObject members text) : text ≠ [] := by
  obtain ⟨-⟩ := h
  exact List.cons_ne_nil _ _

/-- **An object that describes a stream is read as this stream.** -/
theorem reads_readStream (hdescribes : Describes s members) {body : List Char}
    (hlaid : Laid WritesMember true members body) (rest : List Char) :
    Reads readStream ('\x7b' :: (body ++ '\x7d' :: rest)) s rest := by
  have hlength := hlaid.length_le fun _ _ => WritesMember.ne_nil
  refine (reads_nextPart? Json.allBlank_nil (by decide) _).bind ((reads_bump _ _).bind ?_)
  refine (reads_remaining _).bind (reads_readMembers hdescribes.gathers hlaid ?_ rest)
  rw [List.length_append]
  omega

/-- Before an object what separates it from the one before is passed over. -/
theorem reads_nextItem {objects : List (List (String × Json))} {text : List Char}
    (h : Laid WritesObject isFirst (members :: objects) text) (rest : List Char) :
    ∃ body more, Laid WritesMember true members body ∧ Laid WritesObject false objects more ∧
      Reads (nextItem isFirst) (text ++ ']' :: rest) true
        ('\x7b' :: (body ++ '\x7d' :: (more ++ ']' :: rest))) := by
  cases h with
  | first hblank hpart hmore =>
    obtain ⟨hlaid⟩ := hpart
    refine ⟨_, _, hlaid, hmore, ?_⟩
    simp only [List.append_assoc, List.cons_append, List.nil_append]
    exact (reads_nextPart? hblank (by decide) _).bind (reads_pure _ _)
  | next hbefore hblank hpart hmore =>
    obtain ⟨hlaid⟩ := hpart
    refine ⟨_, _, hlaid, hmore, ?_⟩
    simp only [List.append_assoc, List.cons_append, List.nil_append]
    refine (reads_nextPart? hbefore (by decide) _).bind ((reads_bump _ _).bind ?_)
    exact (reads_nextPart? hblank (by decide) _).bind (reads_pure _ _)

/-- After the last object the closing bracket is left. -/
theorem reads_nextItem_closed {text : List Char} (h : Laid WritesObject isFirst [] text)
    (rest : List Char) :
    Reads (nextItem isFirst) (text ++ ']' :: rest) false (']' :: rest) := by
  cases h with
  | closed hblank => exact (reads_nextPart? hblank (by decide) rest).bind (reads_pure _ _)

/-- The streams of a feed are read one after another. -/
theorem reads_readStreams {streams : List Stream} {objects : List (List (String × Json))}
    (hdescribe : List.Forall₂ Describes streams objects) {isFirst : Bool} {text : List Char}
    (hlaid : Laid WritesObject isFirst objects text) {bound : Nat} (hbound : objects.length < bound)
    (rest : List Char) :
    Reads (readStreams bound isFirst) (text ++ ']' :: rest) streams rest := by
  obtain ⟨bound, rfl⟩ := Nat.exists_eq_succ_of_ne_zero (Nat.ne_of_gt (Nat.zero_lt_of_lt hbound))
  -- each object takes one step of the bound, so the bound changes with the streams left
  induction hdescribe generalizing isFirst text bound with
  | nil =>
    refine (reads_nextItem_closed hlaid rest).bind ?_
    exact (reads_bump _ _).bind (reads_pure _ _)
  | cons hstream _ ih =>
    obtain ⟨body, more, hbody, hmore, hnext⟩ := reads_nextItem hlaid rest
    obtain ⟨bound, rfl⟩ := Nat.exists_eq_succ_of_ne_zero
      (Nat.ne_of_gt (Nat.zero_lt_of_lt (Nat.lt_of_succ_lt_succ hbound)))
    refine hnext.bind ((reads_readStream hstream hbody _).bind ?_)
    exact (ih hmore bound (Nat.lt_of_succ_lt_succ hbound)).bind (reads_pure _ _)

/-- **A feed is read as the streams that its objects describe**, however it is laid out. -/
theorem parse_of_writesFeed {streams : List Stream} {objects : List (List (String × Json))}
    (hdescribe : List.Forall₂ Describes streams objects) {text : List Char}
    (hwrites : WritesFeed objects text) : parse (String.ofList text) = .ok streams := by
  cases hwrites with
  | @mk body hlaid =>
    -- an object takes a character at least, so the length of the text bounds the objects
    have hlength := hlaid.length_le fun _ _ => WritesObject.ne_nil
    have hread : Reads readFeed ('[' :: (body ++ [']'])) streams [] := by
      refine (reads_nextPart? Json.allBlank_nil (by decide) _).bind ((reads_bump _ _).bind ?_)
      refine (reads_remaining _).bind ?_
      refine (reads_readStreams hdescribe hlaid (by rw [List.length_append]; omega) []).bind ?_
      exact ((reads_skipWhile isBlank []).bind (reads_next? [])).bind (reads_pure _ _)
    obtain ⟨j, hj⟩ := hread 0
    rw [parse, String.toList_ofList]
    show Prod.fst <$> readFeed.run ⟨'[' :: (body ++ [']']), 0⟩ = _
    rw [hj]
    rfl

/-! ## There and back -/

theorem describes_written (s : Stream) : Describes s
    [("name", .string s.name), ("builtin_filter_reason", reasonJson s.builtinFilterReason)] :=
  .mk .written (List.forall_mem_nil _) (.refl _)

/-- The objects of a feed as it is written. -/
theorem exists_toJson_eq (streams : List Stream) : ∃ objects,
    toJson streams = .array (objects.map .object) ∧ List.Forall₂ Describes streams objects := by
  refine ⟨streams.map fun s => [("name", .string s.name),
    ("builtin_filter_reason", reasonJson s.builtinFilterReason)], ?_, ?_⟩
  · rw [toJson, List.map_map]
    exact congrArg Json.array (List.map_congr_left fun s _ => streamJson_eq s)
  · exact List.forall₂_map_right_iff.mpr (List.forall₂_same.mpr fun s _ => describes_written s)

theorem forall_allSimple {streams : List Stream} {objects : List (List (String × Json))}
    (h : List.Forall₂ Describes streams objects) : ∀ members ∈ objects, AllSimple members := by
  induction h with
  | nil => exact List.forall_mem_nil _
  | cons hstream _ ih => exact List.forall_mem_cons.mpr ⟨hstream.allSimple, ih⟩

/-- Feeds of some streams that are read as these streams. -/
structure RoundTrips (streams : List Stream) : Prop where
  compact : parse (toJson streams).compact = .ok streams
  pretty : parse (toJson streams).pretty = .ok streams
  /-- Other members, their order, and reasons that are null make no difference. -/
  described : ∀ objects : List (List (String × Json)), List.Forall₂ Describes streams objects →
    parse (Json.array (objects.map .object)).compact = .ok streams ∧
    parse (Json.array (objects.map .object)).pretty = .ok streams

/-- **Feeds are read as they were written.** -/
theorem roundTrips (streams : List Stream) : RoundTrips streams := by
  have hdescribed : ∀ objects : List (List (String × Json)),
      List.Forall₂ Describes streams objects →
      parse (Json.array (objects.map .object)).compact = .ok streams ∧
      parse (Json.array (objects.map .object)).pretty = .ok streams := fun objects h =>
    ⟨parse_of_writesFeed h (writesFeed_compact objects),
      parse_of_writesFeed h (writesFeed_pretty (forall_allSimple h))⟩
  obtain ⟨objects, hobjects, hdescribe⟩ := exists_toJson_eq streams
  obtain ⟨hcompact, hpretty⟩ := hdescribed objects hdescribe
  rw [← hobjects] at hcompact hpretty
  exact ⟨hcompact, hpretty, hdescribed⟩

end StreamNames.Feed
