import StreamNames.Proofs.Pattern.Pieces

/-!
# A pattern beside its respelling

Respelling leaves a pattern as it is but for the tokens of the external dialect.
`Respelled` walks through a text and its respelling side by side and knows the places of
the tokens, so that the two can be compared from any place on.

- `Respelled.of_append`: where no token starts, both texts are the same.
- `externalTokens`: the places of the tokens that respelling changes.
- `respelled_toInternal`: a pattern beside its form in the internal dialect.
-/

namespace StreamNames

namespace Dialect

/-- What tokens are made of besides names. -/
def marks : List Char := ['(', '?', '<', '=', '>', ')', '\\']

theorem mem_writeToken {d : Dialect} {kind : TokenKind} {name : List Char} {c : Char}
    (hname : isGroupName name) (h : c ∈ d.writeToken kind name) :
    isNameChar c ∨ c ∈ marks := by
  have hall : ((d.opening kind).all fun c => isNameChar c || marks.contains c) = true := by
    cases d <;> cases kind <;> decide
  have hopening : ∀ c ∈ d.opening kind, isNameChar c ∨ c ∈ marks := by
    simpa only [List.all_eq_true, Bool.or_eq_true, List.contains_iff_mem] using hall
  have hclosing : d.closing kind ∈ marks := by
    cases d <;> cases kind <;> decide
  rw [writeToken, List.mem_append, List.mem_append, List.mem_singleton] at h
  rcases h with (h | h) | rfl
  · exact hopening c h
  · exact .inl (isNameChar_of_mem hname h)
  · exact .inr hclosing

/-- The second text is the first with some tokens of the external dialect respelled in the
internal one. The first starts at place `i`, and `allowed` says which tokens may be
respelled at which places. -/
inductive Respelled (allowed : TokenKind → Nat → Prop) : Nat → List Char → List Char → Prop
  | nil (i : Nat) : Respelled allowed i [] []
  | same {i : Nat} {c : Char} {text text' : List Char} :
    Respelled allowed (i + 1) text text' → Respelled allowed i (c :: text) (c :: text')
  | token {i : Nat} {kind : TokenKind} {name text text' : List Char} :
    isGroupName name → allowed kind i →
    Respelled allowed (i + (external.writeToken kind name).length) text text' →
    Respelled allowed i (external.writeToken kind name ++ text)
      (internal.writeToken kind name ++ text')

namespace Respelled

variable {allowed : TokenKind → Nat → Prop} {i : Nat} {text text' : List Char}

/-- Which tokens may be respelled further to the left does not matter. -/
theorem imp {allowed' : TokenKind → Nat → Prop} (h : Respelled allowed i text text')
    (himp : ∀ kind j, i ≤ j → allowed kind j → allowed' kind j) :
    Respelled allowed' i text text' := by
  induction h with
  | nil i => exact .nil i
  | same _ ih => exact .same (ih fun kind j hle => himp kind j (Nat.le_of_succ_le hle))
  | token hname hplace _ ih =>
    refine .token hname (himp _ _ (Nat.le_refl _) hplace) (ih fun kind j hle => ?_)
    exact himp kind j (Nat.le_trans (Nat.le_add_right _ _) hle)

/-- The same text may stand before both. -/
theorem append (start : List Char) (h : Respelled allowed (i + start.length) text text') :
    Respelled allowed i (start ++ text) (start ++ text') := by
  induction start generalizing i with
  | nil => exact h
  | cons c start ih =>
    refine .same (ih ?_)
    rw [List.length_cons, Nat.add_comm start.length 1, ← Nat.add_assoc] at h
    exact h

theorem refl (allowed : TokenKind → Nat → Prop) (i : Nat) (text : List Char) :
    Respelled allowed i text text := by
  have h := @append allowed i _ _ text (.nil (i + text.length))
  rwa [List.append_nil] at h

theorem length_writeToken_internal_lt (kind : TokenKind) (name : List Char) :
    (internal.writeToken kind name).length < (external.writeToken kind name).length := by
  cases kind <;> simp [writeToken, opening, groupOpening, referenceOpening]

theorem writeToken_ne_nil (d : Dialect) (kind : TokenKind) (name : List Char) :
    d.writeToken kind name ≠ [] := by
  cases d <;> cases kind <;> exact List.cons_ne_nil _ _

/-- The internal dialect is the shorter one. -/
theorem length_le (h : Respelled allowed i text text') : text'.length ≤ text.length := by
  induction h with
  | nil i => exact Nat.le_refl _
  | same _ ih => simpa using ih
  | @token i kind name text text' _ _ _ ih =>
    have := length_writeToken_internal_lt kind name
    simp only [List.length_append]
    omega

/-- **Where no token starts, both texts are the same.** -/
theorem of_append {start : List Char} (h : Respelled allowed i (start ++ text) text')
    (hfree : ∀ kind j, i ≤ j → j < i + start.length → ¬allowed kind j) :
    ∃ rest, text' = start ++ rest ∧ Respelled allowed (i + start.length) text rest := by
  induction start generalizing i text' with
  | nil => exact ⟨text', rfl, h⟩
  | cons c start ih =>
    have hnext : ∀ kind j, i + 1 ≤ j → j < i + 1 + start.length → ¬allowed kind j := by
      intro kind j hle hlt
      refine hfree kind j (by omega) ?_
      rw [List.length_cons]
      omega
    -- the index of the relation has to be a variable for the case analysis
    generalize hwhole : c :: start ++ text = whole at h
    cases h with
    | nil i => cases hwhole
    | same hrest =>
      obtain ⟨rfl, rfl⟩ := List.cons.inj hwhole
      obtain ⟨rest, rfl, hrespelled⟩ := ih hrest hnext
      refine ⟨rest, rfl, ?_⟩
      rw [List.length_cons, Nat.add_comm start.length 1, ← Nat.add_assoc]
      exact hrespelled
    -- no token may start within `start`
    | token _ hplace _ =>
      exact absurd hplace (hfree _ i (Nat.le_refl _) (by rw [List.length_cons]; omega))

end Respelled

/-! ## Whole patterns -/

/-- The tokens of the external dialect among pieces of which the first starts at place `i`,
each with its place. -/
def externalTokens : (i : Nat) → List Piece → List (TokenKind × Nat)
  | _, [] => []
  | i, .token .external kind name :: ps =>
    (kind, i) :: externalTokens (i + (external.writeToken kind name).length) ps
  | i, p :: ps => externalTokens (i + p.write.length) ps

theorem isGroupName_of_mem_pieces {text : List Char} {d : Dialect} {kind : TokenKind}
    {name : List Char} (h : .token d kind name ∈ pieces text) : isGroupName name := by
  induction text using pieces.induct with
  | case1 => rw [pieces] at h; cases h
  | case2 c rest p after hcase ih =>
    obtain ⟨d', kind', name', hname, rfl, -⟩ := token?_eq_some_iff.mp hcase
    rw [pieces_token hcase] at h
    rcases List.mem_cons.mp h with heq | h
    · cases heq
      exact hname
    · exact ih h
  | case3 => rw [pieces_escape_end] at h; simp at h
  | case4 escaped rest hcase ih =>
    rw [pieces_escape hcase] at h
    exact ih (by simpa using h)
  | case5 rest inner hcase hc ih =>
    rw [pieces_bracketed] at h
    exact ih (by simpa using h)
  | case6 c rest hcase hescape hbracket ih =>
    rw [pieces_single hcase hescape hbracket] at h
    exact ih (by simpa using h)

/-- Pieces beside the same pieces in the internal dialect. -/
theorem respelled_writePieces {allowed : TokenKind → Nat → Prop} {i : Nat} {ps : List Piece}
    (hname : ∀ d kind name, Piece.token d kind name ∈ ps → isGroupName name)
    (hallowed : ∀ kind j, (kind, j) ∈ externalTokens i ps → allowed kind j) :
    Respelled allowed i (writePieces ps)
      (writePieces (ps.map (Piece.respell internal))) := by
  induction ps generalizing i with
  | nil => exact .nil i
  | cons p ps ih =>
    have hnames : ∀ d kind name, Piece.token d kind name ∈ ps → isGroupName name :=
      fun d kind name h => hname d kind name (List.mem_cons_of_mem p h)
    rw [List.map_cons, writePieces_cons, writePieces_cons]
    cases p with
    | token d kind name =>
      cases d with
      | external =>
        refine .token (hname _ _ _ List.mem_cons_self) (hallowed _ _ List.mem_cons_self) ?_
        exact ih hnames fun kind j h => hallowed kind j (List.mem_cons_of_mem _ h)
      -- a token of the internal dialect is copied like any other piece
      | internal => exact (ih hnames hallowed).append _
    | escape escaped => exact (ih hnames hallowed).append _
    | bracketed lead body => exact (ih hnames hallowed).append _
    | single c => exact (ih hnames hallowed).append _

/-- **A pattern beside its form in the internal dialect**: exactly its tokens of the external
dialect are respelled. -/
theorem respelled_toInternal (pattern : String) :
    Respelled (fun kind i => (kind, i) ∈ externalTokens 0 (pieces pattern.toList)) 0
      pattern.toList (toInternal pattern).toList := by
  have h := @respelled_writePieces _ 0 (pieces pattern.toList)
    (fun _ _ _ => isGroupName_of_mem_pieces) (fun _ _ h => h)
  rwa [writePieces_pieces, ← respell_eq_writePieces internal,
    ← String.toList_ofList (l := internal.respell false pattern.toList)] at h

end Dialect

end StreamNames
