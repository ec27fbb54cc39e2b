import StreamNames.Proofs.Pattern.Braces

/-!
# The bounds that a pattern spells out

Pricing goes through a pattern once and steps over escaped characters and brackets. The
bounds that it finds are those of quantifiers at certain places, and the largest of them
is recorded. Respelling a pattern does not change them.

- `Complexity.maxRepetition_analyze`: the largest bound is recorded.
- `mem_quantifiersFrom`: a quantifier that is priced stands at its place.
- `Dialect.spelledBounds_respell`: both dialects spell out the same bounds.
-/

namespace StreamNames

/-! ## What a quantifier looks like -/

/-- What follows the first number of a quantifier: the closing brace, or a comma and
perhaps a second number, which is then the bound. -/
inductive Quantifier.Tail (q : Quantifier) (first after : List Char) : Char → List Char → Prop
  | exact : q.bound = decimal first → Tail q first after '\x7d' after
  | atLeast : q.bound = decimal first → Tail q first after ',' ('\x7d' :: after)
  | range {second : List Char} : second ≠ [] → (∀ c ∈ second, c.isDigit) →
    q.bound = decimal second → Tail q first after ',' (second ++ '\x7d' :: after)

/-- What a quantifier looks like. -/
theorem Quantifier.read?_eq_some {text after : List Char} {q : Quantifier}
    (h : Quantifier.read? text = some (q, after)) :
    ∃ first c more, first ≠ [] ∧ (∀ c ∈ first, c.isDigit) ∧ text = first ++ c :: more ∧
      Tail q first after c more := by
  obtain ⟨body, hwritten, rfl⟩ := read?_eq_some_iff.mp h
  cases hwritten with
  | exact hd => exact ⟨body, _, _, hd.ne_nil, hd.isDigit, rfl, .exact hd.eq_decimal⟩
  | atLeast hd =>
    refine ⟨_, ',', '\x7d' :: after, hd.ne_nil, hd.isDigit, ?_, .atLeast hd.eq_decimal⟩
    rw [List.append_assoc, List.singleton_append]
  | range hd he =>
    refine ⟨_, ',', _, hd.ne_nil, hd.isDigit, ?_, .range he.ne_nil he.isDigit he.eq_decimal⟩
    rw [List.append_assoc, List.cons_append]

/-- The bounds of the quantifiers that are priced in a text, in order. -/
def spelledBounds (text : List Char) : List Nat := (constructs text).filterMap Construct.bound?

/-! ## The largest bound -/

/-- The largest of two lists of bounds. -/
theorem max?_append_eq_largerBound (bounds more : List Nat) :
    (bounds ++ more).max? = largerBound bounds.max? more.max? := by
  induction bounds with
  | nil => rfl
  | cons bound bounds ih =>
    rw [List.cons_append, List.max?_cons, List.max?_cons, ih]
    cases bounds.max? <;> cases more.max? <;> simp [largerBound, Nat.max_assoc]

namespace Complexity

theorem maxRepetition_foldl_add (parts : List Construct) (total : Complexity) :
    (parts.foldl add total).maxRepetition =
      (total.maxRepetition.toList ++ parts.filterMap Construct.bound?).max? := by
  -- the bound found so far stands in front of those to come
  induction parts generalizing total with
  | nil =>
    obtain ⟨score, bound⟩ := total
    cases bound <;> rfl
  | cons part parts ih =>
    rw [List.foldl_cons, ih]
    obtain ⟨score, bound⟩ := total
    show ((largerBound bound part.bound?).toList ++ _).max? = _
    cases hpart : part.bound? with
    | none =>
      rw [List.filterMap_cons_none hpart]
      cases bound <;> rfl
    | some n =>
      rw [List.filterMap_cons_some hpart]
      cases bound <;> rfl

/-- **The largest bound of a pattern is recorded**, if it spells out any. -/
theorem maxRepetition_analyze (pattern : String) :
    (analyze pattern).maxRepetition = (spelledBounds pattern.toList).max? :=
  maxRepetition_foldl_add _ _

end Complexity

/-! ## Bounds by the start of a text -/

/-- Only parts that have a price spell out bounds. -/
theorem spelledBounds_eq (text : List Char) :
    spelledBounds text = (pricedParts text).filterMap Construct.bound? := by
  rw [spelledBounds, pricedParts, List.filterMap_filter]
  refine List.filterMap_congr fun part _ => ?_
  cases part <;> rfl

theorem spelledBounds_nil : spelledBounds [] = [] := by
  rw [spelledBounds_eq, pricedParts_nil]
  rfl

theorem spelledBounds_bracket (rest : List Char) :
    spelledBounds ('[' :: rest) = spelledBounds (skipClass rest) := by
  rw [spelledBounds_eq, spelledBounds_eq, pricedParts_bracket]
  rfl

theorem spelledBounds_backslash (rest : List Char) :
    spelledBounds ('\\' :: rest) = spelledBounds (rest.drop 1) := by
  rw [spelledBounds_eq, spelledBounds_eq, pricedParts_backslash]
  rfl

theorem spelledBounds_brace (rest : List Char) :
    spelledBounds ('\x7b' :: rest) =
      (((Quantifier.read? rest).map Prod.fst).map Quantifier.bound).toList ++
        spelledBounds rest := by
  rw [spelledBounds_eq, spelledBounds_eq, pricedParts_brace, List.filterMap_append]
  cases Quantifier.read? rest <;> rfl

theorem spelledBounds_transparent {c : Char} (hc : IsTransparent c) (rest : List Char) :
    spelledBounds (c :: rest) = spelledBounds rest := by
  obtain ⟨hbrace, hbracket, hescape⟩ := hc
  rw [spelledBounds, spelledBounds, constructs]
  simp only [hbrace, hbracket, hescape, if_false]
  split_ifs <;> rfl

/-! ## Places -/

/-- The quantifiers that are priced in a text that starts at place `i`, each with the place
of its opening brace. -/
def quantifiersFrom (i : Nat) (text : List Char) : List (Nat × Quantifier) :=
  match text with
  | [] => []
  | c :: rest =>
    if c = '\x7b' then
      (((Quantifier.read? rest).map Prod.fst).map (i, ·)).toList ++ quantifiersFrom (i + 1) rest
    else if c = '[' then
      quantifiersFrom (i + 1 + (rest.length - (skipClass rest).length)) (skipClass rest)
    else if c = '\\' then quantifiersFrom (i + 2) (rest.drop 1)
    else quantifiersFrom (i + 1) rest
termination_by text.length
decreasing_by
  · simp
  · have := length_skipClass_le rest
    simp only [List.length_cons]
    omega
  · simp only [List.length_drop, List.length_cons]
    omega
  · simp

/-- Their bounds are those that are spelled out. -/
theorem map_bound_quantifiersFrom (i : Nat) (text : List Char) :
    (quantifiersFrom i text).map (·.2.bound) = spelledBounds text := by
  fun_induction quantifiersFrom i text with
  | case1 i => exact spelledBounds_nil.symm
  | case2 i rest ih =>
    rw [spelledBounds_brace, List.map_append, ih]
    cases Quantifier.read? rest <;> rfl
  | case3 i rest _ ih => rw [spelledBounds_bracket, ih]
  | case4 i rest _ _ ih => rw [spelledBounds_backslash, ih]
  | case5 i c rest hbrace hbracket hescape ih =>
    rw [spelledBounds_transparent ⟨hbrace, hbracket, hescape⟩, ih]

theorem exists_eq_append_skipClass (text : List Char) : ∃ body, text = body ++ skipClass text := by
  fun_induction skipClass text with
  | case1 => exact ⟨[], rfl⟩
  | case2 c rest ih =>
    obtain ⟨body, hbody⟩ := ih
    exact ⟨'\\' :: c :: body, congrArg (fun text => '\\' :: c :: text) hbody⟩
  | case3 rest => exact ⟨[']'], rfl⟩
  | case4 c rest _ _ ih =>
    obtain ⟨body, hbody⟩ := ih
    exact ⟨c :: body, congrArg (c :: ·) hbody⟩

/-- **A quantifier that is priced stands at its place.** -/
theorem mem_quantifiersFrom {i j : Nat} {text : List Char} {q : Quantifier}
    (h : (j, q) ∈ quantifiersFrom i text) : ∃ before rest after,
      text = before ++ '\x7b' :: rest ∧ j = i + before.length ∧
      Quantifier.read? rest = some (q, after) := by
  fun_induction quantifiersFrom i text with
  | case1 i => cases h
  | case2 i rest ih =>
    rcases List.mem_append.mp h with h | h
    · cases hread : Quantifier.read? rest with
      | none => rw [hread] at h; cases h
      | some found =>
        rw [hread] at h
        obtain ⟨rfl, rfl⟩ := Prod.mk.inj (List.mem_singleton.mp h)
        exact ⟨[], rest, found.2, rfl, rfl, hread⟩
    · obtain ⟨before, rest', after, rfl, rfl, hread⟩ := ih h
      exact ⟨'\x7b' :: before, rest', after, rfl, by rw [List.length_cons]; omega, hread⟩
  | case3 i rest _ ih =>
    obtain ⟨before, rest', after, hrest, rfl, hread⟩ := ih h
    -- nothing is looked for inside of a class, so its length is added to the place
    obtain ⟨body, hbody⟩ := exists_eq_append_skipClass rest
    refine ⟨'[' :: (body ++ before), rest', after, ?_, ?_, hread⟩
    · rw [List.cons_append, List.append_assoc, ← hrest, ← hbody]
    · have hlength := congrArg List.length hbody
      rw [List.length_append] at hlength
      rw [List.length_cons, List.length_append]
      omega
  | case4 i rest _ _ ih =>
    obtain ⟨before, rest', after, hrest, rfl, hread⟩ := ih h
    cases rest with
    | nil => cases before <;> cases hrest
    | cons c rest =>
      refine ⟨'\\' :: c :: before, rest', after, ?_, ?_, hread⟩
      · exact congrArg (fun text => '\\' :: c :: text) hrest
      · rw [List.length_cons, List.length_cons]
        omega
  | case5 i c rest _ _ _ ih =>
    obtain ⟨before, rest', after, rfl, rfl, hread⟩ := ih h
    exact ⟨c :: before, rest', after, rfl, by rw [List.length_cons]; omega, hread⟩

/-! ## The same bounds in both dialects -/

namespace Dialect

/-- No token spells out a bound, so the bounds are those of the other pieces. -/
theorem Repriced.bounds {target : Dialect} {ps : List Piece} {parts parts' : List Construct}
    (h : Repriced target ps parts parts') :
    parts'.filterMap Construct.bound? = parts.filterMap Construct.bound? := by
  have htoken : ∀ d kind, (tokenParts d kind).filterMap Construct.bound? = [] := by
    rintro (_ | _) (_ | _) <;> rfl
  induction h with
  | nil => rfl
  | token d kind name rest ih =>
    rw [List.filterMap_append, List.filterMap_append, htoken, htoken, ih]
  | other notToken same rest ih => rw [List.filterMap_append, List.filterMap_append, ih]

/-- **Both dialects spell out the same bounds.** -/
theorem spelledBounds_respell (target : Dialect) (text : List Char) :
    spelledBounds (respell target false text) = spelledBounds text := by
  rw [spelledBounds_eq, spelledBounds_eq]
  exact (repriced_respell target text).bounds

end Dialect

end StreamNames
