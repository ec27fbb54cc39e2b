import StreamNames.Pattern.Complexity

/-!
# Limits on patterns

Patterns that cost too much, or repeat a part too often, can be refused before they are
compiled. A limit that is not set refuses nothing.
-/

namespace StreamNames

/-- The highest price and the largest bound that a pattern may have. -/
structure PatternLimits where
  maxComplexity : Option Nat
  maxRepetition : Option Nat
  deriving DecidableEq, Repr

/-- A limit that a pattern exceeds. -/
inductive LimitError where
  | complexity (score limit : Nat)
  | repetition (bound limit : Nat)
  deriving DecidableEq, Repr

/-- The wording of an exceeded limit. -/
def LimitError.message : LimitError → String
  | complexity score limit =>
    "Pattern complexity score " ++ toString score ++ " exceeds limit of " ++ toString limit
  | repetition bound limit =>
    "Repetition bound " ++ toString bound ++ " exceeds limit of " ++ toString limit

namespace PatternLimits

/-- No limits. -/
def none : PatternLimits := ⟨.none, .none⟩

/-- The limit on the price, if it is exceeded. -/
def complexityError? (limits : PatternLimits) (c : Complexity) : Option LimitError :=
  match limits.maxComplexity with
  | some limit => if limit < c.score.toNat then some (.complexity c.score.toNat limit) else .none
  | .none => .none

/-- The limit on bounds, if it is exceeded. -/
def repetitionError? (limits : PatternLimits) (c : Complexity) : Option LimitError :=
  match limits.maxRepetition, c.maxRepetition with
  | some limit, some bound => if limit < bound then some (.repetition bound limit) else .none
  | _, _ => .none

/-- The limit that is exceeded; the one on the price comes first. -/
def check (limits : PatternLimits) (c : Complexity) : Except LimitError Unit :=
  match limits.complexityError? c with
  | some e => .error e
  | .none =>
    match limits.repetitionError? c with
    | some e => .error e
    | .none => .ok ()

end PatternLimits

end StreamNames
