import StreamNames.Proofs.Json.Reading

/-!
# How parts are laid out

The items of a list and the members of an object are written between brackets with commas
between them. On one line nothing else stands there, with indentation there are blanks as
well. A reading passes over blanks, so one notion of layout does for both.

- `Laid`: parts are written one after another, with commas and blanks between them.
- `laid_compactItems`, `laid_prettyItems`: lists are laid out so.
- `laid_compactMembers`, `laid_prettyMembers`: so are objects.
-/

namespace StreamNames.Json

open JsonReader (AllBlank isBlank)

variable {α : Type} {write : α → List Char → Prop} {isFirst : Bool} {a : α} {as : List α}
  {text rest : List Char}

/-- Parts as they are written from the first one on, or from the comma after another one on,
up to the closing bracket. -/
inductive Laid (write : α → List Char → Prop) : (isFirst : Bool) → List α → List Char → Prop
  | closed {isFirst : Bool} {blanks : List Char} (blank : AllBlank blanks) :
      Laid write isFirst [] blanks
  | first {a : α} {as : List α} {blanks text rest : List Char} (blank : AllBlank blanks)
      (part : write a text) (more : Laid write false as rest) :
      Laid write true (a :: as) (blanks ++ (text ++ rest))
  | next {a : α} {as : List α} {before blanks text rest : List Char} (blankBefore : AllBlank before)
      (blank : AllBlank blanks) (part : write a text) (more : Laid write false as rest) :
      Laid write false (a :: as) (before ++ ',' :: (blanks ++ (text ++ rest)))

theorem allBlank_nil : AllBlank [] := List.forall_mem_nil _

theorem Laid.cons (hpart : write a text) (hmore : Laid write false as rest) :
    Laid write true (a :: as) (text ++ rest) := .first allBlank_nil hpart hmore

theorem Laid.afterComma (h : Laid write true (a :: as) text) :
    Laid write false (a :: as) (',' :: text) := by
  cases h with
  | first hblank hpart hmore => exact .next allBlank_nil hblank hpart hmore

/-- There are no more parts than characters. -/
theorem Laid.length_le (h : Laid write isFirst as text)
    (hne : ∀ a text, write a text → text ≠ []) : as.length ≤ text.length := by
  -- a part has a character at least, so blanks and commas do not matter
  induction h with
  | closed => exact Nat.zero_le _
  | first _ hpart _ ih | next _ _ hpart _ ih =>
    have := List.length_pos_iff.mpr (hne _ _ hpart)
    simp only [List.length_cons, List.length_append]
    omega

/-! ## Lists -/

/-- The items of a list on one line. -/
theorem laid_compactItems {f : α → Json} (as : List α)
    (h : ∀ a ∈ as, write a (f a).compactChars) :
    Laid write true as (compactItems (as.map f)) := by
  induction as with
  | nil => exact .closed allBlank_nil
  | cons a as ih =>
    obtain ⟨ha, has⟩ := List.forall_mem_cons.mp h
    -- the last item is told from the others, as no comma follows it
    cases as with
    | nil =>
      have := Laid.cons ha (.closed allBlank_nil)
      rwa [List.append_nil] at this
    | cons b as => exact .cons ha (ih has).afterComma

theorem allBlank_newline (level : Nat) : AllBlank (newline level) := by
  refine List.forall_mem_cons.mpr ⟨by decide, fun c hc => ?_⟩
  rw [List.eq_of_mem_replicate hc]
  decide

/-- The items of a list with indentation, and the line of the closing bracket. -/
theorem laid_prettyItems {f : α → Json} (level outer : Nat) (as : List α)
    (h : ∀ a ∈ as, write a ((f a).prettyChars level)) :
    Laid write true as (prettyItems level (as.map f) ++ newline outer) := by
  induction as with
  | nil => exact .closed (allBlank_newline outer)
  | cons a as ih =>
    obtain ⟨ha, has⟩ := List.forall_mem_cons.mp h
    cases as with
    | nil =>
      have := Laid.first (allBlank_newline level) ha (.closed (allBlank_newline outer))
      rwa [← List.append_assoc] at this
    | cons b as =>
      have := Laid.first (allBlank_newline level) ha (ih has).afterComma
      simpa only [List.map_cons, prettyItems, List.append_assoc, List.cons_append] using this

/-! ## Objects -/

variable {write : String × Json → List Char → Prop}

/-- The members of an object on one line. -/
theorem laid_compactMembers (members : List (String × Json))
    (h : ∀ m ∈ members, write m (quote m.1 ++ ':' :: m.2.compactChars)) :
    Laid write true members (compactMembers members) := by
  induction members with
  | nil => exact .closed allBlank_nil
  | cons m members ih =>
    obtain ⟨hm, hmembers⟩ := List.forall_mem_cons.mp h
    obtain ⟨name, value⟩ := m
    cases members with
    | nil =>
      have := Laid.cons hm (.closed allBlank_nil)
      rwa [List.append_nil] at this
    | cons m' members =>
      have := Laid.cons hm (ih hmembers).afterComma
      rwa [List.append_assoc, List.cons_append] at this

/-- The members of an object with indentation, and the line of the closing brace. -/
theorem laid_prettyMembers (level outer : Nat) (members : List (String × Json))
    (h : ∀ m ∈ members, write m (quote m.1 ++ ':' :: ' ' :: m.2.prettyChars level)) :
    Laid write true members (prettyMembers level members ++ newline outer) := by
  induction members with
  | nil => exact .closed (allBlank_newline outer)
  | cons m members ih =>
    obtain ⟨hm, hmembers⟩ := List.forall_mem_cons.mp h
    obtain ⟨name, value⟩ := m
    cases members with
    | nil =>
      have := Laid.first (allBlank_newline level) hm (.closed (allBlank_newline outer))
      rwa [← List.append_assoc, ← List.append_assoc] at this
    | cons m' members =>
      -- the line break stands before a member, so it belongs to the member and not to the comma
      have := Laid.first (allBlank_newline level) hm (ih hmembers).afterComma
      simpa only [prettyMembers, List.append_assoc, List.cons_append] using this

end StreamNames.Json
