import StreamNames.Proofs.Pattern.Limits
import StreamNames.Proofs.Pattern.References

/-!
# Prices grow with patterns

No part of a pattern costs more than three for each of its characters, so the price of a
pattern that is not too long fits the 32 bits in which it is recorded. A longer pattern is
not priced like its beginning alone: more text may close a brace, go on between brackets or
follow a backslash. But it takes no price away, as all that was left open by then is free.

- `Complexity.exactScore_le`: the price is bounded by the length.
- `isPrefix_pricedParts_append`: what is priced in the beginning of a text is priced in all of it.
- `AtLeastAsCostly`: a pattern that exceeds every limit which another exceeds.
- `analyze_extended`: the price of a pattern and of its extensions.
-/

namespace StreamNames

/-! ## Price and length -/

namespace Complexity

/-- A part that takes `n` characters may cost three for each of them. -/
theorem totalCost_cons_le {part : Construct} {rest text : List Char} (n : Nat)
    (hcost : part.cost ≤ 3 * n) (hlength : rest.length + n ≤ text.length)
    (hrest : totalCost (constructs rest) ≤ 3 * rest.length) :
    totalCost (part :: constructs rest) ≤ 3 * text.length := by
  rw [totalCost]
  omega

theorem totalCost_constructs_le (text : List Char) :
    totalCost (constructs text) ≤ 3 * text.length := by
  fun_induction constructs text
  case case1 => exact Nat.le_refl 0
  case case4 rest q after hread _ _ ih =>
    -- five at most for a quantifier, which has both braces at least
    refine totalCost_cons_le 2 ?_ (Nat.succ_le_succ (Quantifier.length_lt_of_read? hread)) ih
    rw [Construct.cost]
    split <;> omega
  case case9 rest _ _ _ _ _ _ ih =>
    exact totalCost_cons_le 1 (by decide) (Nat.succ_le_succ (length_skipClass_le rest)) ih
  case case10 rest _ _ _ _ _ _ _ ih =>
    refine totalCost_cons_le 1 (by decide) (Nat.succ_le_succ ?_) ih
    rw [List.length_drop]
    exact Nat.sub_le ..
  case case2 ih | case3 ih | case5 ih | case6 ih | case7 ih | case8 ih | case11 ih =>
    exact totalCost_cons_le 1 (by decide) (Nat.le_refl _) ih

/-- **A pattern costs at most three for each of its characters.** -/
theorem exactScore_le (pattern : String) : exactScore pattern ≤ 3 * pattern.length := by
  rw [exactScore, ← String.length_toList]
  exact totalCost_constructs_le pattern.toList

/-- The number of characters up to which the price of every pattern fits 32 bits. -/
def exactLength : Nat := 1431655765

/-- **The price of a pattern is recorded exactly**, if the pattern is not too long. -/
theorem toNat_score_analyze {pattern : String} (h : pattern.length ≤ exactLength) :
    (analyze pattern).score.toNat = exactScore pattern := by
  have hle := exactScore_le pattern
  have hfits : exactScore pattern < UInt32.size := by
    unfold exactLength at h
    show exactScore pattern < 4294967296
    omega
  rw [score_analyze, UInt32.toNat_ofNat_of_lt' hfits]

/-- Asterisks cost three each. -/
theorem exactScore_replicate (n : Nat) :
    exactScore (.ofList (List.replicate n '*')) = 3 * n := by
  rw [exactScore, String.toList_ofList]
  induction n with
  | zero =>
    rw [List.replicate_zero, constructs]
    rfl
  | succ n ih =>
    have hparts : constructs ('*' :: List.replicate n '*') =
        .repetition :: constructs (List.replicate n '*') := by
      rw [constructs, if_pos (.inl rfl)]
    rw [List.replicate_succ, hparts, totalCost, ih, Construct.cost, Nat.mul_succ, Nat.add_comm]

/-- One character more is too long: there are patterns whose price is then recorded as two. -/
theorem score_replicate_exactLength :
    (analyze (.ofList (List.replicate (exactLength + 1) '*'))).score = 2 := by
  rw [score_analyze, exactScore_replicate]
  rfl

end Complexity

/-! ## What is priced in a longer text -/

open Dialect (SameBrace splitClassBody splitClassBody_append skipClass_eq skipClass_append)

/-- How pricing goes on after a character. -/
@[elab_as_elim]
theorem pricing_induction {motive : List Char → Prop} (nil : motive [])
    (brace : ∀ rest, motive rest → motive ('\x7b' :: rest))
    (bracket : ∀ rest, motive (skipClass rest) → motive ('[' :: rest))
    (escape : ∀ rest, motive (rest.drop 1) → motive ('\\' :: rest))
    (transparent : ∀ c rest, IsTransparent c → motive rest → motive (c :: rest))
    (text : List Char) : motive text :=
  quantifiersFrom.induct (fun _ => motive) (fun _ => nil) (fun _ => brace)
    (fun _ rest _ => bracket rest) (fun _ rest _ _ => escape rest)
    (fun _ c rest hbrace hbracket hescape => transparent c rest ⟨hbrace, hbracket, hescape⟩)
    0 text

/-- A quantifier that does not end before the end of the text may be closed by more text. -/
def IsOpenBrace (text : List Char) : Prop := ∀ c ∈ text, Quantifier.isBodyChar c

/-- Nothing in it has a price so far. -/
theorem IsOpenBrace.pricedParts_eq {text : List Char} (h : IsOpenBrace text) :
    pricedParts ('\x7b' :: text) = [] := by
  have hfree : pricedParts text = [] := by
    have := pricedParts_free (fun c hc => .of_isBodyChar (h c hc)) []
    rwa [List.append_nil, pricedParts_nil] at this
  have hread : Quantifier.read? text = none := by
    rw [Quantifier.read?, List.dropWhile_eq_nil_iff.mpr h]
  rw [pricedParts_brace, hread, hfree]
  rfl

/-- More text does not change what a brace opens if that ends before. -/
theorem sameBrace_append {text : List Char} (h : ¬IsOpenBrace text) (more : List Char) :
    SameBrace text (text ++ more) := by
  induction text with
  | nil => exact absurd (List.forall_mem_nil _) h
  | cons c text ih =>
    exact .cons fun hc => ih fun hopen => h (List.forall_mem_cons.mpr ⟨hc, hopen⟩)

/-- More text does not change where brackets end if they end before. -/
theorem skipClass_append_of_ne_nil {text : List Char} (h : skipClass text ≠ [])
    (more : List Char) : skipClass (text ++ more) = skipClass text ++ more := by
  have hsplit : text ++ more = (splitClassBody text).1 ++ (skipClass text ++ more) := by
    rw [skipClass_eq, ← List.append_assoc, splitClassBody_append]
  have hopen : (splitClassBody text).2 = [] → skipClass text ++ more = [] := fun hend =>
    absurd ((skipClass_eq text).trans hend) h
  rw [hsplit, skipClass_append hopen]

/-- **What is priced in the beginning of a text is priced in all of it.** -/
theorem isPrefix_pricedParts_append (text more : List Char) :
    pricedParts text <+: pricedParts (text ++ more) := by
  induction text using pricing_induction with
  | nil =>
    rw [pricedParts_nil]
    exact List.nil_prefix
  | brace rest ih =>
    -- a brace that the text leaves open may be closed by `more`, and priced nothing so far
    by_cases hopen : IsOpenBrace rest
    · rw [hopen.pricedParts_eq]
      exact List.nil_prefix
    · rw [List.cons_append, pricedParts_brace, pricedParts_brace,
        (sameBrace_append hopen more).read?_eq]
      exact (List.prefix_append_right_inj _).mpr ih
  | bracket rest ih =>
    rw [List.cons_append, pricedParts_bracket, pricedParts_bracket, List.cons_prefix_cons]
    refine ⟨rfl, ?_⟩
    -- a class that the text leaves open goes on in `more`, and nothing comes after it
    by_cases hend : skipClass rest = []
    · rw [hend, pricedParts_nil]
      exact List.nil_prefix
    · rw [skipClass_append_of_ne_nil hend]
      exact ih
  | escape rest ih =>
    rw [List.cons_append, pricedParts_backslash, pricedParts_backslash, List.cons_prefix_cons]
    refine ⟨rfl, ?_⟩
    -- a backslash at the end escapes the first character of `more`
    cases rest with
    | nil =>
      rw [List.drop_nil, pricedParts_nil]
      exact List.nil_prefix
    | cons c rest => exact ih
  | transparent c rest hc ih =>
    rw [List.cons_append, pricedParts_transparent hc, pricedParts_transparent hc (rest ++ more)]
    exact (List.prefix_append_right_inj _).mpr ih

/-! ## Longer patterns -/

/-- A bound is no larger than the larger of it and another. -/
theorem le_largerBound (a b : Option Nat) : a ≤ largerBound a b := by
  cases a with
  | none => exact Option.none_le
  | some m =>
    cases b with
    | none => exact Nat.le_refl m
    | some n => exact Nat.le_max_left m n

namespace Complexity

theorem totalCost_le_of_isPrefix {parts parts' : List Construct} (h : parts <+: parts') :
    totalCost parts ≤ totalCost parts' := by
  obtain ⟨more, rfl⟩ := h
  rw [totalCost_append]
  exact Nat.le_add_right ..

/-- **A longer pattern costs no less.** -/
theorem exactScore_le_append (pattern more : String) :
    exactScore pattern ≤ exactScore (pattern ++ more) := by
  rw [exactScore, exactScore, String.toList_append, ← totalCost_pricedParts,
    ← totalCost_pricedParts]
  exact totalCost_le_of_isPrefix (isPrefix_pricedParts_append ..)

/-- **A longer pattern spells out no smaller bound**; a missing bound is the least. -/
theorem maxRepetition_le_append (pattern more : String) :
    (analyze pattern).maxRepetition ≤ (analyze (pattern ++ more)).maxRepetition := by
  obtain ⟨bounds, hbounds⟩ :=
    (isPrefix_pricedParts_append pattern.toList more.toList).filterMap Construct.bound?
  rw [maxRepetition_analyze, maxRepetition_analyze, String.toList_append, spelledBounds_eq,
    spelledBounds_eq, ← hbounds, max?_append_eq_largerBound]
  exact le_largerBound ..

end Complexity

/-! ## Limits that are exceeded -/

namespace PatternLimits

variable {limits : PatternLimits} {c c' : Complexity}

theorem PriceWithin.of_le (hle : c.score ≤ c'.score) (h : limits.PriceWithin c') :
    limits.PriceWithin c :=
  fun limit hlimit => Nat.le_trans hle (h limit hlimit)

theorem BoundWithin.of_le (hle : c.maxRepetition ≤ c'.maxRepetition)
    (h : limits.BoundWithin c') : limits.BoundWithin c := by
  intro limit bound hlimit hbound
  rw [hbound] at hle
  cases hmax : c'.maxRepetition with
  | none => rw [hmax] at hle; cases hle
  | some larger =>
    rw [hmax] at hle
    exact Nat.le_trans hle (h limit larger hlimit hmax)

end PatternLimits

open Complexity (analyze exactScore exactLength)

/-- A pattern that is priced no lower than another and so exceeds every limit that the other
exceeds. -/
structure AtLeastAsCostly (pattern other : String) : Prop where
  score : (analyze other).score ≤ (analyze pattern).score
  /-- A missing bound is the least. -/
  bound : (analyze other).maxRepetition ≤ (analyze pattern).maxRepetition
  priceExceeded : ∀ limits : PatternLimits,
    ¬limits.PriceWithin (analyze other) → ¬limits.PriceWithin (analyze pattern)
  boundExceeded : ∀ limits : PatternLimits,
    ¬limits.BoundWithin (analyze other) → ¬limits.BoundWithin (analyze pattern)
  accepted : ∀ limits : PatternLimits,
    limits.check (analyze pattern) = .ok () → limits.check (analyze other) = .ok ()

theorem atLeastAsCostly_of_le {pattern other : String}
    (hscore : (analyze other).score ≤ (analyze pattern).score)
    (hbound : (analyze other).maxRepetition ≤ (analyze pattern).maxRepetition) :
    AtLeastAsCostly pattern other where
  score := hscore
  bound := hbound
  priceExceeded _ := mt (.of_le hscore)
  boundExceeded _ := mt (.of_le hbound)
  accepted := by
    intro limits hcheck
    obtain ⟨hprice, hwithin⟩ := PatternLimits.check_eq_ok_iff_within.mp hcheck
    exact PatternLimits.check_eq_ok_iff_within.mpr ⟨hprice.of_le hscore, hwithin.of_le hbound⟩

/-- **Prices are recorded exactly and grow with patterns**, as far as patterns are not too
long. -/
theorem analyze_extended (pattern : String) :
    exactScore pattern ≤ 3 * pattern.length ∧
    (pattern.length ≤ exactLength → (analyze pattern).score.toNat = exactScore pattern) ∧
    ∀ more : String, (pattern ++ more).length ≤ exactLength →
      AtLeastAsCostly (pattern ++ more) pattern := by
  refine ⟨Complexity.exactScore_le pattern, Complexity.toNat_score_analyze, fun more hlong => ?_⟩
  have hshort : pattern.length ≤ exactLength :=
    Nat.le_trans (by rw [String.length_append]; exact Nat.le_add_right ..) hlong
  refine atLeastAsCostly_of_le ?_ (Complexity.maxRepetition_le_append pattern more)
  rw [UInt32.le_iff_toNat_le, Complexity.toNat_score_analyze hshort,
    Complexity.toNat_score_analyze hlong]
  exact Complexity.exactScore_le_append pattern more

/-- What is added closes a brace, which was plain before and is a quantifier then. -/
theorem analyze_extended_closed :
    ("a\x7b2" ++ ",\x7d.*").length ≤ exactLength ∧
      AtLeastAsCostly ("a\x7b2" ++ ",\x7d.*") "a\x7b2" ∧
      analyze "a\x7b2" = ⟨0, none⟩ ∧ analyze ("a\x7b2" ++ ",\x7d.*") = ⟨10, some 2⟩ := by
  have hlong : ("a\x7b2" ++ ",\x7d.*").length ≤ exactLength := by decide +kernel
  exact ⟨hlong, (analyze_extended "a\x7b2").2.2 _ hlong, by decide +kernel, by decide +kernel⟩

end StreamNames
