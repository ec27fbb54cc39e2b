import StreamNames.Pattern.Extraction

/-!
# Patterns that are accepted

Limits can only refuse a pattern. One that is accepted within some limits is accepted
without any, and is ready for searching in the same form.

- `CompiledPattern.compile_eq_ok_iff`: what it takes for a pattern to be accepted.
- `CompiledPattern.compile_eq_error_iff`: what it takes for a pattern to be refused.
- `PatternLimits.complexityError?_eq_some_iff`, `PatternLimits.repetitionError?_eq_some_iff`:
  when a limit is exceeded.
- `compiled?_of_compile_eq_ok`: limits do not change what an accepted pattern is compiled to.
-/

namespace StreamNames

/-- Where no limits are set, none is exceeded. -/
@[simp] theorem PatternLimits.check_none (c : Complexity) :
    PatternLimits.none.check c = .ok () := rfl

/-- The limit on bounds is exceeded by the largest bound, if at all. -/
theorem PatternLimits.repetitionError?_eq_some_iff {limits : PatternLimits} {c : Complexity}
    {e : LimitError} :
    limits.repetitionError? c = some e ↔
      ∃ limit bound, limits.maxRepetition = some limit ∧ c.maxRepetition = some bound ∧
        limit < bound ∧ e = .repetition bound limit := by
  unfold repetitionError?
  constructor
  · intro h
    split at h
    · next limit bound hlimit hbound =>
      obtain ⟨hlt, he⟩ := Option.ite_none_right_eq_some.mp h
      exact ⟨limit, bound, hlimit, hbound, hlt, (Option.some.inj he).symm⟩
    · cases h
  · rintro ⟨limit, bound, hlimit, hbound, hlt, rfl⟩
    simp only [hlimit, hbound, if_pos hlt]

/-- The limit on the price is exceeded by the price, if at all. -/
theorem PatternLimits.complexityError?_eq_some_iff {limits : PatternLimits} {c : Complexity}
    {e : LimitError} :
    limits.complexityError? c = some e ↔
      ∃ limit, limits.maxComplexity = some limit ∧ limit < c.score.toNat ∧
        e = .complexity c.score.toNat limit := by
  unfold complexityError?
  constructor
  · intro h
    split at h
    · next limit hlimit =>
      obtain ⟨hlt, he⟩ := Option.ite_none_right_eq_some.mp h
      exact ⟨limit, hlimit, hlt, (Option.some.inj he).symm⟩
    · cases h
  · rintro ⟨limit, hlimit, hlt, rfl⟩
    simp only [hlimit, if_pos hlt]

/-- What is refused exceeds a limit, that on bounds only if it does not exceed the other. -/
theorem PatternLimits.check_eq_error_iff {limits : PatternLimits} {c : Complexity}
    {e : LimitError} :
    limits.check c = .error e ↔ limits.complexityError? c = some e ∨
      limits.complexityError? c = .none ∧ limits.repetitionError? c = some e := by
  unfold check
  cases limits.complexityError? c with
  | some e' => simp
  | none => cases limits.repetitionError? c <;> simp

/-- What is within the limits exceeds none of them. -/
theorem PatternLimits.check_eq_ok_iff {limits : PatternLimits} {c : Complexity} :
    limits.check c = .ok () ↔
      limits.complexityError? c = .none ∧ limits.repetitionError? c = .none := by
  unfold check
  cases limits.complexityError? c with
  | some e => simp
  | none => cases limits.repetitionError? c <;> simp

theorem PatternLimits.repetitionError?_of_check {limits : PatternLimits} {c : Complexity}
    (h : limits.check c = .ok ()) : limits.repetitionError? c = .none :=
  (check_eq_ok_iff.mp h).2

/-- What is refused for a bound exceeds the limit on bounds. -/
theorem PatternLimits.repetitionError?_of_check_error {limits : PatternLimits} {c : Complexity}
    {bound limit : Nat} (h : limits.check c = .error (.repetition bound limit)) :
    limits.repetitionError? c = some (.repetition bound limit) := by
  rcases check_eq_error_iff.mp h with hprice | ⟨-, hbound⟩
  · obtain ⟨_, -, -, ⟨⟩⟩ := complexityError?_eq_some_iff.mp hprice
  · exact hbound

/-- A pattern is accepted if it is not blank, within the limits and a regular
expression. -/
theorem CompiledPattern.compile_eq_ok_iff {limits : PatternLimits} {source : String}
    {p : CompiledPattern} :
    compile limits source = .ok p ↔
      Text.isBlank source = false ∧ limits.check (Complexity.analyze source) = .ok () ∧
        ∃ regex, Regex.compile (toInternal source) = .ok regex ∧
          p = ⟨source, toInternal source, regex, Complexity.analyze source⟩ := by
  unfold compile
  constructor
  · intro h
    -- the checks come in the order of the conditions: blank, limits, engine
    split at h
    · cases h
    · next hblank =>
      refine ⟨Bool.eq_false_iff.mpr hblank, ?_⟩
      dsimp only at h
      split at h
      · cases h
      · next hcheck =>
        refine ⟨hcheck, ?_⟩
        split at h
        · cases h
        · next regex hregex =>
          cases h
          exact ⟨regex, hregex, rfl⟩
  · rintro ⟨hblank, hcheck, regex, hregex, rfl⟩
    rw [if_neg (Bool.eq_false_iff.mp hblank)]
    simp only [hcheck, hregex]

/-- What it takes for a pattern to be refused for some reason: all checks that come before
let it pass. -/
theorem CompiledPattern.compile_eq_error_iff {limits : PatternLimits} {source : String}
    {e : PatternError} :
    compile limits source = .error e ↔
      match e with
      | .blank => Text.isBlank source = true
      | .limit e => Text.isBlank source = false ∧
        limits.check (Complexity.analyze source) = .error e
      | .compile internal e => Text.isBlank source = false ∧
        limits.check (Complexity.analyze source) = .ok () ∧
        internal = toInternal source ∧ Regex.compile (toInternal source) = .error e := by
  unfold compile
  cases hblank : Text.isBlank source with
  | true => cases e <;> simp
  | false =>
    cases hcheck : limits.check (Complexity.analyze source) with
    | error _ => cases e <;> simp [hcheck]
    | ok _ =>
      cases hregex : Regex.compile (toInternal source) with
      | error _ => cases e <;> simp [hcheck, hregex, eq_comm]
      | ok _ => cases e <;> simp [hcheck, hregex]

/-- A pattern is refused for a limit if it exceeds that limit. -/
theorem CompiledPattern.check_of_compile_error {limits : PatternLimits} {source : String}
    {e : LimitError} (h : compile limits source = .error (.limit e)) :
    limits.check (Complexity.analyze source) = .error e :=
  (compile_eq_error_iff.mp h).2

/-- **Limits do not change what an accepted pattern is compiled to.** -/
theorem compiled?_of_compile_eq_ok {limits : PatternLimits} {source : String}
    {p : CompiledPattern} (h : CompiledPattern.compile limits source = .ok p) :
    compiled? source = some p := by
  obtain ⟨hblank, -, hregex⟩ := CompiledPattern.compile_eq_ok_iff.mp h
  have hnone : CompiledPattern.compile .none source = .ok p :=
    CompiledPattern.compile_eq_ok_iff.mpr ⟨hblank, PatternLimits.check_none _, hregex⟩
  rw [compiled?, hnone]

end StreamNames
