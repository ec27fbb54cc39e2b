import Mathlib.Data.Nat.Digits.Defs
import StreamNames.Proofs.Pattern.Pricing

/-!
# Quantifiers in braces

After an opening brace pricing looks ahead for a quantifier. Either one is there, with its
closing brace, and is taken as a whole, or nothing is taken.

- `Quantifier.Written`: how quantifiers are written.
- `Quantifier.read?_eq_some_iff`: exactly these are read.
- `Quantifier.allOrNothing`: a quantifier is taken as a whole, or nothing is.
-/

namespace StreamNames.Quantifier

variable {text after : List Char} {q : Quantifier}

/-! ## How quantifiers are written -/

/-- Decimal digits, at least one, that spell a number of 64 bits. -/
structure Numeral (digits : List Char) (n : Nat) : Prop where
  ne_nil : digits ≠ []
  isDigit : ∀ c ∈ digits, c.isDigit
  value : Nat.ofDigits 10 (digits.map fun c => c.toNat - '0'.toNat).reverse = n
  fits : n < 2 ^ 64

/-- What stands between the braces of a quantifier. -/
inductive Written : Quantifier → List Char → Prop
  | exact {d : List Char} {n : Nat} : Numeral d n → Written ⟨n, some n⟩ d
  | atLeast {d : List Char} {n : Nat} : Numeral d n → Written ⟨n, none⟩ (d ++ [','])
  | range {d e : List Char} {m n : Nat} : Numeral d m → Numeral e n →
      Written ⟨m, some n⟩ (d ++ ',' :: e)

/-- A text begins with a quantifier and its closing brace, after which the rest follows. -/
def Begins (text : List Char) (q : Quantifier) (after : List Char) : Prop :=
  ∃ body, Written q body ∧ text = body ++ '\x7d' :: after

/-! ## Numbers -/

/-- The value of digits by their places is the one by Horner's rule. -/
theorem ofDigits_eq_decimal (digits : List Char) :
    Nat.ofDigits 10 (digits.map fun c => c.toNat - '0'.toNat).reverse = decimal digits := by
  rw [Nat.ofDigits_eq_foldr, List.foldr_reverse, List.foldl_map, decimal]
  simp only [Nat.cast_id, Nat.add_comm]

theorem number?_eq_some_iff {digits : List Char} {n : Nat} :
    number? digits = some n ↔ Numeral digits n := by
  have hiff : (!digits.isEmpty && digits.all Char.isDigit && decimal digits < UInt64.size) = true ↔
      (digits ≠ [] ∧ ∀ c ∈ digits, c.isDigit) ∧ decimal digits < UInt64.size := by
    simp only [Bool.and_eq_true, Bool.not_eq_true', List.isEmpty_eq_false_iff, List.all_eq_true,
      decide_eq_true_eq]
  rw [number?]
  constructor
  · intro h
    obtain ⟨hnumber, hn⟩ := Option.ite_none_right_eq_some.mp h
    obtain ⟨⟨hne, hdigits⟩, hfits⟩ := hiff.mp hnumber
    obtain rfl := Option.some.inj hn
    exact ⟨hne, hdigits, ofDigits_eq_decimal digits, hfits⟩
  · rintro ⟨hne, hdigits, rfl, hfits⟩
    rw [ofDigits_eq_decimal] at hfits ⊢
    rw [if_pos (hiff.mpr ⟨⟨hne, hdigits⟩, hfits⟩)]

theorem Numeral.eq_decimal {digits : List Char} {n : Nat} (h : Numeral digits n) :
    n = decimal digits := h.value.symm.trans (ofDigits_eq_decimal digits)

/-! ## Between the braces -/

/-- No digit separates the numbers of a quantifier. -/
theorem Numeral.ne_comma {digits : List Char} {n : Nat} (h : Numeral digits n) :
    ∀ c ∈ digits, decide (c ≠ ',') = true := by
  intro c hc
  rw [decide_eq_true_eq]
  rintro rfl
  exact absurd (h.isDigit ',' hc) (by decide)

/-- What is written between braces is divided after the first number. -/
theorem Numeral.ofBody?_append {digits more : List Char} {n : Nat} (h : Numeral digits n)
    (hmore : more.takeWhile (· ≠ ',') = []) :
    ofBody? (digits ++ more) =
      match more with
      | [] => some ⟨n, some n⟩
      | _ :: second =>
        if second.isEmpty then some ⟨n, none⟩
        else (number? second).map fun max => ⟨n, some max⟩ := by
  have hdrop : more.dropWhile (· ≠ ',') = more := by
    have := List.takeWhile_append_dropWhile (p := (· ≠ ',')) (l := more)
    rwa [hmore, List.nil_append] at this
  rw [ofBody?, List.takeWhile_append_of_pos h.ne_comma, List.dropWhile_append_of_pos h.ne_comma,
    hmore, hdrop, List.append_nil, number?_eq_some_iff.mpr h]
  cases more <;> rfl

theorem ofBody?_eq_some_iff {body : List Char} : ofBody? body = some q ↔ Written q body := by
  constructor
  · intro h
    have hsplit : body.takeWhile (· ≠ ',') ++ body.dropWhile (· ≠ ',') = body :=
      List.takeWhile_append_dropWhile
    -- the body is divided at its first comma, so what is left of it has none
    have hcomma := List.head?_dropWhile_not (fun c => decide (c ≠ ',')) body
    unfold ofBody? at h
    generalize body.takeWhile (· ≠ ',') = first at h hsplit
    dsimp only at h
    split at h
    · next hend =>
      obtain ⟨n, hfirst, rfl⟩ := Option.map_eq_some_iff.mp h
      rw [← hsplit, hend, List.append_nil]
      exact .exact (number?_eq_some_iff.mp hfirst)
    · next c second hmore =>
      rw [hmore] at hcomma hsplit
      obtain rfl : c = ',' := by simpa using hcomma
      subst hsplit
      cases hfirst : number? first with
      | none => rw [hfirst] at h; cases h
      | some min =>
        rw [hfirst] at h
        have hmin := number?_eq_some_iff.mp hfirst
        dsimp only at h
        split at h
        · -- nothing behind the comma: the bound is open above
          next hempty =>
          obtain rfl : second = [] := List.isEmpty_iff.mp hempty
          cases h
          exact .atLeast hmin
        · obtain ⟨max, hsecond, rfl⟩ := Option.map_eq_some_iff.mp h
          exact .range hmin (number?_eq_some_iff.mp hsecond)
  · intro h
    cases h with
    | exact hd =>
      rw [← List.append_nil body]
      exact hd.ofBody?_append rfl
    | atLeast hd => exact hd.ofBody?_append rfl
    | range hd he =>
      rw [hd.ofBody?_append rfl]
      dsimp only
      rw [if_neg (by simpa using he.ne_nil), number?_eq_some_iff.mpr he]
      rfl

/-! ## What is read -/

theorem Numeral.isBodyChar {digits : List Char} {n : Nat} (h : Numeral digits n) :
    ∀ c ∈ digits, isBodyChar c := fun c hc => Bool.or_eq_true_iff.mpr (.inl (h.isDigit c hc))

/-- Digits and commas are all there is between the braces. -/
theorem Written.isBodyChar {body : List Char} (h : Written q body) :
    ∀ c ∈ body, isBodyChar c := by
  cases h with
  | exact hd => exact hd.isBodyChar
  | atLeast hd =>
    exact List.forall_mem_append.mpr ⟨hd.isBodyChar, List.forall_mem_singleton.mpr rfl⟩
  | range hd he =>
    exact List.forall_mem_append.mpr
      ⟨hd.isBodyChar, List.forall_mem_cons.mpr ⟨rfl, he.isBodyChar⟩⟩

/-- **Exactly those quantifiers are read that a text begins with.** -/
theorem read?_eq_some_iff : read? text = some (q, after) ↔ Begins text q after := by
  constructor
  · intro h
    obtain ⟨body, -, rfl, hbody⟩ := exists_body_of_read? h
    exact ⟨body, ofBody?_eq_some_iff.mp hbody, rfl⟩
  · rintro ⟨body, hwritten, rfl⟩
    have hbody := hwritten.isBodyChar
    rw [read?, List.takeWhile_append_of_pos hbody, List.dropWhile_append_of_pos hbody,
      List.takeWhile_cons_of_neg (by decide), List.dropWhile_cons_of_neg (by decide),
      List.append_nil, ofBody?_eq_some_iff.mpr hwritten]
    rfl

theorem read?_eq_none_iff : read? text = none ↔ ∀ q after, ¬Begins text q after := by
  simp only [← read?_eq_some_iff, Option.eq_none_iff_forall_ne_some, Prod.forall, ne_eq]

/-! ## What is taken -/

/-- After a brace a quantifier is taken as a whole, or nothing is. -/
structure AllOrNothing (text : List Char) : Prop where
  read : ∀ q after, read? text = some (q, after) ↔ Begins text q after
  refused : read? text = none ↔ ∀ q after, ¬Begins text q after
  /-- Pricing goes on behind the closing brace. -/
  taken : ∀ q after, Begins text q after →
    constructs ('\x7b' :: text) = .quantified q :: constructs after
  /-- Pricing goes on directly behind the opening brace. -/
  left : (∀ q after, ¬Begins text q after) →
    constructs ('\x7b' :: text) = .plain :: constructs text

/-- **A quantifier is taken as a whole, or nothing is.** -/
theorem allOrNothing (text : List Char) : AllOrNothing text where
  read _ _ := read?_eq_some_iff
  refused := read?_eq_none_iff
  taken q after h := by
    rw [constructs]
    simp only [Char.reduceEq, or_self, if_false, if_true]
    split
    · next q' after' hread =>
      obtain ⟨rfl, rfl⟩ := Prod.mk.inj (Option.some.inj ((read?_eq_some_iff.mpr h).symm.trans hread))
      rfl
    · next hread => exact absurd h (read?_eq_none_iff.mp hread q after)
  left h := by
    rw [constructs]
    simp only [Char.reduceEq, or_self, if_false, if_true]
    split
    · next q after hread => exact absurd (read?_eq_some_iff.mp hread) (h q after)
    · rfl

end StreamNames.Quantifier
