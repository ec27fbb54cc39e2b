import StreamNames.Proofs.Pattern.Acceptance

/-!
# Limits refuse and change nothing else

Limits are checked against what was measured of a pattern, before it is compiled. They decide
whether it goes on to the engine and have no part in what becomes of it there. A pattern can
be refused for several reasons at once; which one is told follows a fixed order: it is blank,
it costs too much, it repeats a part too often, it is no regular expression.

- `PatternLimits.PriceWithin`, `PatternLimits.BoundWithin`: what limits ask of a pattern.
- `PatternLimits.Loosens`: limits that are nowhere stricter than others.
- `LimitsOnlyRefuse`, `limitsOnlyRefuse`: what limits change about the outcome.
-/

namespace StreamNames

/-! ## Within limits -/

namespace PatternLimits

variable {limits looser : PatternLimits} {c : Complexity}

/-- The price is within the limit on prices, if one is set. -/
def PriceWithin (limits : PatternLimits) (c : Complexity) : Prop :=
  ∀ limit, limits.maxComplexity = some limit → c.score.toNat ≤ limit

/-- The largest bound is within the limit on bounds, if there is a bound and a limit is
set. -/
def BoundWithin (limits : PatternLimits) (c : Complexity) : Prop :=
  ∀ limit bound, limits.maxRepetition = some limit → c.maxRepetition = some bound →
    bound ≤ limit

theorem complexityError?_eq_none_iff :
    limits.complexityError? c = .none ↔ limits.PriceWithin c := by
  rw [Option.eq_none_iff_forall_ne_some]
  constructor
  · intro h limit hlimit
    refine Nat.not_lt.mp fun hlt => ?_
    exact h _ (complexityError?_eq_some_iff.mpr ⟨limit, hlimit, hlt, rfl⟩)
  · intro h e he
    obtain ⟨limit, hlimit, hlt, -⟩ := complexityError?_eq_some_iff.mp he
    exact Nat.not_le_of_lt hlt (h limit hlimit)

theorem repetitionError?_eq_none_iff :
    limits.repetitionError? c = .none ↔ limits.BoundWithin c := by
  rw [Option.eq_none_iff_forall_ne_some]
  constructor
  · intro h limit bound hlimit hbound
    refine Nat.not_lt.mp fun hlt => ?_
    exact h _ (repetitionError?_eq_some_iff.mpr ⟨limit, bound, hlimit, hbound, hlt, rfl⟩)
  · intro h e he
    obtain ⟨limit, bound, hlimit, hbound, hlt, -⟩ := repetitionError?_eq_some_iff.mp he
    exact Nat.not_le_of_lt hlt (h limit bound hlimit hbound)

/-- The check lets pass what is within both limits. -/
theorem check_eq_ok_iff_within :
    limits.check c = .ok () ↔ limits.PriceWithin c ∧ limits.BoundWithin c := by
  rw [check_eq_ok_iff, complexityError?_eq_none_iff, repetitionError?_eq_none_iff]

/-- A price is refused if it is higher than the limit. -/
theorem check_eq_complexity_iff {score limit : Nat} :
    limits.check c = .error (.complexity score limit) ↔
      limits.maxComplexity = some limit ∧ score = c.score.toNat ∧ limit < score := by
  rw [check_eq_error_iff]
  constructor
  · rintro (hprice | ⟨-, hbound⟩)
    · obtain ⟨_, hlimit, hlt, ⟨⟩⟩ := complexityError?_eq_some_iff.mp hprice
      exact ⟨hlimit, rfl, hlt⟩
    · obtain ⟨_, _, -, -, -, ⟨⟩⟩ := repetitionError?_eq_some_iff.mp hbound
  · rintro ⟨hlimit, rfl, hlt⟩
    exact .inl (complexityError?_eq_some_iff.mpr ⟨limit, hlimit, hlt, rfl⟩)

/-- A bound is refused if it is higher than the limit, unless the price is refused. -/
theorem check_eq_repetition_iff {bound limit : Nat} :
    limits.check c = .error (.repetition bound limit) ↔ limits.PriceWithin c ∧
      limits.maxRepetition = some limit ∧ c.maxRepetition = some bound ∧ limit < bound := by
  rw [check_eq_error_iff]
  constructor
  · rintro (hprice | ⟨hwithin, hbound⟩)
    · obtain ⟨_, -, -, ⟨⟩⟩ := complexityError?_eq_some_iff.mp hprice
    · obtain ⟨_, _, hlimit, hmax, hlt, ⟨⟩⟩ := repetitionError?_eq_some_iff.mp hbound
      exact ⟨complexityError?_eq_none_iff.mp hwithin, hlimit, hmax, hlt⟩
  · rintro ⟨hwithin, hlimit, hmax, hlt⟩
    exact .inr ⟨complexityError?_eq_none_iff.mpr hwithin,
      repetitionError?_eq_some_iff.mpr ⟨limit, bound, hlimit, hmax, hlt, rfl⟩⟩

/-! ## Looser limits -/

/-- Limits that are nowhere stricter than others: each is as high at least, or not set. -/
structure Loosens (looser limits : PatternLimits) : Prop where
  price : ∀ limit, looser.maxComplexity = some limit →
    ∃ stricter, limits.maxComplexity = some stricter ∧ stricter ≤ limit
  bound : ∀ limit, looser.maxRepetition = some limit →
    ∃ stricter, limits.maxRepetition = some stricter ∧ stricter ≤ limit

theorem Loosens.priceWithin (h : looser.Loosens limits) (hwithin : limits.PriceWithin c) :
    looser.PriceWithin c := by
  intro limit hlimit
  obtain ⟨stricter, hstricter, hle⟩ := h.price limit hlimit
  exact Nat.le_trans (hwithin stricter hstricter) hle

theorem Loosens.boundWithin (h : looser.Loosens limits) (hwithin : limits.BoundWithin c) :
    looser.BoundWithin c := by
  intro limit bound hlimit hbound
  obtain ⟨stricter, hstricter, hle⟩ := h.bound limit hlimit
  exact Nat.le_trans (hwithin stricter bound hstricter hbound) hle

end PatternLimits

/-! ## Outcomes -/

open CompiledPattern (compile compile_eq_ok_iff compile_eq_error_iff)
open Complexity (analyze)

/-- The outcome of compiling a pattern within limits: what is accepted, and which error is
told otherwise. -/
structure LimitsOnlyRefuse (limits : PatternLimits) (source : String) : Prop where
  /-- What is accepted is within the limits and is the same as without any, in its text, its
  groups, its price and its regular expression. -/
  accepted : ∀ p, compile limits source = .ok p ↔ compile .none source = .ok p ∧
    limits.PriceWithin (analyze source) ∧ limits.BoundWithin (analyze source)
  /-- Looser limits accept whatever is accepted. -/
  loosened : ∀ looser : PatternLimits, looser.Loosens limits →
    ∀ p, compile limits source = .ok p → compile looser source = .ok p
  blank : compile limits source = .error .blank ↔ Text.isBlank source = true
  price : ∀ score limit, compile limits source = .error (.limit (.complexity score limit)) ↔
    Text.isBlank source = false ∧
    limits.maxComplexity = some limit ∧ score = (analyze source).score.toNat ∧ limit < score
  bound : ∀ bound limit, compile limits source = .error (.limit (.repetition bound limit)) ↔
    Text.isBlank source = false ∧ limits.PriceWithin (analyze source) ∧
    limits.maxRepetition = some limit ∧ (analyze source).maxRepetition = some bound ∧
    limit < bound
  engine : ∀ internal e, compile limits source = .error (.compile internal e) ↔
    Text.isBlank source = false ∧ limits.PriceWithin (analyze source) ∧
    limits.BoundWithin (analyze source) ∧
    internal = toInternal source ∧ Regex.compile (toInternal source) = .error e

/-- What is within some limits is compiled to the same as without any. -/
theorem compile_eq_ok_iff_within {limits : PatternLimits} {source : String}
    {p : CompiledPattern} :
    compile limits source = .ok p ↔ compile .none source = .ok p ∧
      limits.PriceWithin (analyze source) ∧ limits.BoundWithin (analyze source) := by
  rw [compile_eq_ok_iff, compile_eq_ok_iff, ← PatternLimits.check_eq_ok_iff_within]
  constructor
  · rintro ⟨hblank, hcheck, hregex⟩
    exact ⟨⟨hblank, PatternLimits.check_none _, hregex⟩, hcheck⟩
  · rintro ⟨⟨hblank, -, hregex⟩, hcheck⟩
    exact ⟨hblank, hcheck, hregex⟩

/-- **Limits only refuse**, the looser the less, and for the first reason in a fixed order. -/
theorem limitsOnlyRefuse (limits : PatternLimits) (source : String) :
    LimitsOnlyRefuse limits source where
  accepted p := compile_eq_ok_iff_within
  loosened := by
    intro looser hlooser p hcompile
    obtain ⟨hnone, hprice, hbound⟩ := compile_eq_ok_iff_within.mp hcompile
    exact compile_eq_ok_iff_within.mpr
      ⟨hnone, hlooser.priceWithin hprice, hlooser.boundWithin hbound⟩
  blank := compile_eq_error_iff
  price score limit := by
    rw [compile_eq_error_iff]
    exact and_congr_right fun _ => PatternLimits.check_eq_complexity_iff
  bound bound limit := by
    rw [compile_eq_error_iff]
    exact and_congr_right fun _ => PatternLimits.check_eq_repetition_iff
  -- the engine is asked last, so both limits were kept
  engine internal e := by
    rw [compile_eq_error_iff]
    dsimp only
    rw [PatternLimits.check_eq_ok_iff_within, and_assoc]

end StreamNames
