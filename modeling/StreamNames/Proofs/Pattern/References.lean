import StreamNames.Pattern.Compiled
import StreamNames.Proofs.Pattern.Quantifiers

/-!
# References cost more in the external dialect

A pattern has the same largest bound in both dialects, and its named groups have the same
price. A reference costs three in the external dialect, where it looks like a group, and one
in the internal dialect, where it looks like an escaped character. So the price depends on
the dialect by two for each reference, and on nothing else.

- `Dialect.references`: the number of references of a dialect in a pattern.
- `Dialect.Repriced.cost`: the prices of the same pieces in two dialects.
- `analyze_respelled`: price and largest bound of a pattern in both dialects.
- `analyze_depends_on_dialect`: a reference on which a limit decides differently.
-/

namespace StreamNames

/-! ## Prices as numbers -/

namespace Complexity

theorem totalCost_append (parts more : List Construct) :
    totalCost (parts ++ more) = totalCost parts + totalCost more := by
  induction parts with
  | nil => rw [List.nil_append, totalCost, Nat.zero_add]
  | cons part parts ih => rw [List.cons_append, totalCost, totalCost, ih, Nat.add_assoc]

/-- Parts without a price may be left out. -/
theorem totalCost_pricedParts (text : List Char) :
    totalCost (pricedParts text) = totalCost (constructs text) := by
  rw [pricedParts]
  induction constructs text with
  | nil => rfl
  | cons part parts ih =>
    by_cases hpart : part = .plain
    · rw [List.filter_cons_of_neg (by simpa using hpart), totalCost, ih, hpart, Construct.cost,
        Nat.zero_add]
    · rw [List.filter_cons_of_pos (by simpa using hpart), totalCost, totalCost, ih]

theorem score_foldl_add (parts : List Construct) (total : Complexity) :
    (parts.foldl add total).score = total.score + .ofNat (totalCost parts) := by
  induction parts generalizing total with
  | nil => exact (UInt32.add_zero _).symm
  | cons part parts ih =>
    rw [List.foldl_cons, ih, totalCost, UInt32.ofNat_add, ← UInt32.add_assoc]
    rfl

/-- The price is recorded in 32 bits. -/
theorem score_analyze (pattern : String) :
    (analyze pattern).score = .ofNat (exactScore pattern) := by
  rw [analyze, score_foldl_add, exactScore]
  exact UInt32.zero_add _

end Complexity

/-! ## References -/

namespace Dialect

open Complexity (totalCost totalCost_append exactScore)

/-- Whether a piece is a reference of a dialect. -/
def Piece.isReferenceOf (d : Dialect) : Piece → Bool
  | .token e .reference _ => e = d
  | _ => false

/-- The number of references of a dialect in a pattern. -/
def references (d : Dialect) (text : List Char) : Nat :=
  (pieces text).countP (Piece.isReferenceOf d)

/-- A token costs two more, if it is a reference of the external dialect. -/
theorem totalCost_tokenParts (target d : Dialect) (kind : TokenKind) (name : List Char) :
    totalCost (tokenParts target kind) +
        2 * (if Piece.isReferenceOf external (.token d kind name) then 1 else 0) =
      totalCost (tokenParts d kind) +
        2 * (if Piece.isReferenceOf external (.token target kind name) then 1 else 0) := by
  cases target <;> cases d <;> cases kind <;> rfl

/-- **The price less two for each external reference is the same in both dialects.** -/
theorem Repriced.cost {target : Dialect} {ps : List Piece} {parts parts' : List Construct}
    (h : Repriced target ps parts parts') :
    totalCost parts' + 2 * ps.countP (Piece.isReferenceOf external) =
      totalCost parts +
        2 * (ps.map (Piece.respell target)).countP (Piece.isReferenceOf external) := by
  induction h with
  | nil => rfl
  | token d kind name rest ih =>
    -- a token costs two more where it is a reference in the external dialect
    have htoken := totalCost_tokenParts target d kind name
    rw [List.map_cons, List.countP_cons, List.countP_cons, totalCost_append, totalCost_append,
      Piece.respell]
    omega
  | @other p notToken same ps parts parts' rest ih =>
    have hp : p.respell target = p := by
      cases p <;> first | rfl | exact absurd rfl (notToken _ _ _)
    rw [List.map_cons, List.countP_cons, List.countP_cons, totalCost_append, totalCost_append, hp]
    omega

theorem totalCost_respell (target : Dialect) (text : List Char) :
    totalCost (constructs (respell target false text)) + 2 * references external text =
      totalCost (constructs text) + 2 * references external (respell target false text) := by
  rw [← Complexity.totalCost_pricedParts, ← Complexity.totalCost_pricedParts, references,
    references, pieces_respell]
  exact (repriced_respell target text).cost

/-- A respelled pattern has all references in the target dialect. -/
theorem references_external_respell (target : Dialect) (text : List Char) :
    references external (respell target false text) =
      match target with
      | external => references external text + references internal text
      | internal => 0 := by
  rw [references, references, references, pieces_respell]
  induction pieces text with
  | nil => cases target <;> rfl
  | cons p ps ih =>
    rw [List.map_cons, List.countP_cons, List.countP_cons, List.countP_cons, ih]
    cases target with
    | internal =>
      rcases p with ⟨_, _ | _, _⟩ | _ | _ | _ <;> rfl
    | external =>
      dsimp only
      -- only references change the count, one for one
      rcases p with ⟨_ | _, _ | _, _⟩ | _ | _ | _ <;>
        simp only [Piece.respell, Piece.isReferenceOf] <;> grind

end Dialect

/-! ## Whole patterns -/

open Complexity (analyze exactScore)
open Dialect (references)

/-- Price and largest bound of a pattern in both dialects. -/
structure PricedInDialects (pattern : String) : Prop where
  internalBound : (analyze (toInternal pattern)).maxRepetition = (analyze pattern).maxRepetition
  externalBound : (analyze (toExternal pattern)).maxRepetition = (analyze pattern).maxRepetition
  /-- A reference that is respelled in the internal dialect gets cheaper by two. -/
  internalPrice : exactScore pattern =
    exactScore (toInternal pattern) + 2 * references .external pattern.toList
  /-- A reference that is respelled in the external dialect gets dearer by two. -/
  externalPrice : exactScore (toExternal pattern) =
    exactScore pattern + 2 * references .internal pattern.toList
  internalScore : (analyze pattern).score =
    (analyze (toInternal pattern)).score + .ofNat (2 * references .external pattern.toList)
  externalScore : (analyze (toExternal pattern)).score =
    (analyze pattern).score + .ofNat (2 * references .internal pattern.toList)
  /-- Without references that are respelled, every limit decides the same. -/
  internalCheck : references .external pattern.toList = 0 →
    ∀ limits : PatternLimits,
      limits.check (analyze (toInternal pattern)) = limits.check (analyze pattern)
  externalCheck : references .internal pattern.toList = 0 →
    ∀ limits : PatternLimits,
      limits.check (analyze (toExternal pattern)) = limits.check (analyze pattern)

namespace Complexity

theorem eq_of_score_of_bound {c c' : Complexity} (hscore : c'.score = c.score)
    (hbound : c'.maxRepetition = c.maxRepetition) : c' = c := by
  cases c
  cases c'
  cases hscore
  cases hbound
  rfl

/-- Bounds are the same in both dialects. -/
theorem maxRepetition_respell (target : Dialect) (pattern : String) :
    (analyze (.ofList (target.respell false pattern.toList))).maxRepetition =
      (analyze pattern).maxRepetition := by
  rw [maxRepetition_analyze, maxRepetition_analyze, String.toList_ofList,
    Dialect.spelledBounds_respell]

theorem exactScore_respell (target : Dialect) (pattern : String) :
    exactScore (.ofList (target.respell false pattern.toList)) +
        2 * references .external pattern.toList =
      exactScore pattern +
        2 * references .external (target.respell false pattern.toList) := by
  rw [exactScore, String.toList_ofList]
  exact Dialect.totalCost_respell target pattern.toList

/-- References of the external dialect cost more than what they become. -/
theorem exactScore_toInternal (pattern : String) :
    exactScore pattern =
      exactScore (toInternal pattern) + 2 * references .external pattern.toList := by
  have h := exactScore_respell .internal pattern
  rw [Dialect.references_external_respell] at h
  exact h.symm

/-- References of the internal dialect cost less than what they become. -/
theorem exactScore_toExternal (pattern : String) :
    exactScore (toExternal pattern) =
      exactScore pattern + 2 * references .internal pattern.toList := by
  have h := exactScore_respell .external pattern
  rw [Dialect.references_external_respell] at h
  -- the references that were external already are priced the same on both sides
  dsimp only at h
  rw [toExternal]
  omega

/-- Prices that differ by a number are recorded with that difference. -/
theorem score_analyze_add {pattern pattern' : String} {n : Nat}
    (h : exactScore pattern = exactScore pattern' + n) :
    (analyze pattern).score = (analyze pattern').score + .ofNat n := by
  rw [score_analyze, score_analyze, h, UInt32.ofNat_add]

/-- Where no reference changes, nothing is priced differently. -/
theorem analyze_eq_of_score_add_zero {pattern pattern' : String}
    (hscore : (analyze pattern).score = (analyze pattern').score + .ofNat (2 * 0))
    (hbound : (analyze pattern).maxRepetition = (analyze pattern').maxRepetition) :
    analyze pattern = analyze pattern' :=
  eq_of_score_of_bound (hscore.trans (UInt32.add_zero _)) hbound

end Complexity

/-- **Only references have another price in the other dialect**, two less in the internal
one; all bounds are the same. -/
theorem analyze_respelled (pattern : String) : PricedInDialects pattern := by
  have hinternalBound : (analyze (toInternal pattern)).maxRepetition =
      (analyze pattern).maxRepetition := Complexity.maxRepetition_respell .internal pattern
  have hexternalBound : (analyze (toExternal pattern)).maxRepetition =
      (analyze pattern).maxRepetition := Complexity.maxRepetition_respell .external pattern
  have hinternal := Complexity.exactScore_toInternal pattern
  have hexternal := Complexity.exactScore_toExternal pattern
  refine ⟨hinternalBound, hexternalBound, hinternal, hexternal,
    Complexity.score_analyze_add hinternal, Complexity.score_analyze_add hexternal,
    fun hnone limits => ?internalCheck, fun hnone limits => ?externalCheck⟩
  -- without such references the price is the same, and so is every check
  case internalCheck =>
    have hscore := Complexity.score_analyze_add hinternal
    rw [hnone] at hscore
    rw [Complexity.analyze_eq_of_score_add_zero hscore hinternalBound.symm]
  case externalCheck =>
    have hscore := Complexity.score_analyze_add hexternal
    rw [hnone] at hscore
    rw [Complexity.analyze_eq_of_score_add_zero hscore hexternalBound]

/-- A limit decides differently on a reference in the two dialects. The engine knows no
references, but passes over one in a comment: the same regular expression is refused in the
external dialect and accepted in the internal one. -/
theorem analyze_depends_on_dialect :
    toInternal "(?P=w)" = "\\k<w>" ∧ toExternal "\\k<w>" = "(?P=w)" ∧
    (analyze "(?P=w)").score = 3 ∧ (analyze "\\k<w>").score = 1 ∧
    PatternLimits.check ⟨some 2, none⟩ (analyze "(?P=w)") = .error (.complexity 3 2) ∧
    PatternLimits.check ⟨some 2, none⟩ (analyze "\\k<w>") = .ok () ∧
    toInternal "(?x)a#(?P=w)" = "(?x)a#\\k<w>" ∧
    (CompiledPattern.compile ⟨some 5, none⟩ "(?x)a#(?P=w)").toOption.isSome = false ∧
    (CompiledPattern.compile ⟨some 5, none⟩ "(?x)a#\\k<w>").toOption.isSome = true := by
  refine ⟨?_, ?_, ?_, ?_, ?_, ?_, ?_, ?_, ?_⟩ <;> decide +kernel

end StreamNames
