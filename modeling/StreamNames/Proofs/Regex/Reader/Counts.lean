import StreamNames.Proofs.Pattern.Quantifiers
import StreamNames.Proofs.Regex.Reader.Parts

/-!
# Bounds in braces, read twice

Patterns are priced before they are compiled, and the pricing has its own way to read
bounds in braces. Where it finds a quantifier, and the reader a repetition with bounds, the
two find the same bounds.

- `Counts.Priced`: that a repetition has the bound that pricing finds.
- `readDecimal_digits`: how the reader reads a number between braces.
- `yields_readCounted`: all repetitions with bounds are priced.
-/

namespace StreamNames

namespace Regex

open Scan
open StreamNames.Unicode (isWhitespace)

/-- The largest number that the bounds of a repetition spell out. -/
def Counts.bound (counts : Counts) : Nat := counts.max.getD counts.min

/-- Where a text starts with a quantifier, its bound is that of a repetition. -/
def Counts.Priced (counts : Counts) (text : List Char) : Prop :=
  ∀ rest q after, text = '\x7b' :: rest → Quantifier.read? rest = some (q, after) →
    counts.bound = q.bound

/-! ## Numbers between braces -/

theorem toNat_of_isDigit {c : Char} (h : c.isDigit) : 48 ≤ c.toNat ∧ c.toNat ≤ 57 := by
  rw [Char.isDigit, Bool.and_eq_true, decide_eq_true_eq, decide_eq_true_eq] at h
  exact h

theorem solid_of_isDigit {c : Char} (h : c.isDigit) : isWhitespace c = false ∧ c ≠ '#' := by
  obtain ⟨hlo, hhi⟩ := toNat_of_isDigit h
  constructor
  · have hspace : c ≠ ' ' := by
      rintro rfl
      exact absurd hlo (by decide)
    have hline : ¬c ≤ '\r' := fun hle => by
      have : c.toNat ≤ '\r'.toNat := hle
      have : '\r'.toNat = 13 := rfl
      omega
    rw [isWhitespace, if_pos (by omega)]
    simp [hspace, hline]
  · rintro rfl
    exact absurd hlo (by decide)

theorem numeral_eq_decimal {digits : List Char} (h : ∀ c ∈ digits, c.isDigit) :
    numeral 10 digits = Quantifier.decimal digits := by
  -- a decimal digit has the same value among the hexadecimal ones
  have hvalue : ∀ c ∈ digits, (hexDigit? c).getD 0 = c.toNat - '0'.toNat := by
    intro c hc
    obtain ⟨hlo, hhi⟩ := toNat_of_isDigit (h c hc)
    have hrange : '0' ≤ c ∧ c ≤ '9' := ⟨hlo, hhi⟩
    rw [hexDigit?, if_pos hrange]
    rfl
  have hfold : ∀ n, digits.foldl (fun n c => 10 * n + (hexDigit? c).getD 0) n =
      digits.foldl (fun n c => 10 * n + (c.toNat - '0'.toNat)) n := by
    induction digits with
    | nil => exact fun _ => rfl
    | cons c digits ih =>
      intro n
      rw [List.foldl_cons, List.foldl_cons, hvalue c List.mem_cons_self]
      exact ih (fun c hc => h c (List.mem_cons_of_mem _ hc))
        (fun c hc => hvalue c (List.mem_cons_of_mem _ hc)) _
  exact hfold 0

theorem bumpWithBlanks_of_solid {s : ScanState} {c d : Char} {rest : List Char}
    (h : s.rest = c :: d :: rest) (hblank : isWhitespace d = false) (hcomment : d ≠ '#') :
    bumpWithBlanks s = .ok (true, s.pass [c] (d :: rest)) := by
  unfold bumpWithBlanks
  rw [bind_eq (bump_cons h), if_pos (by simp),
    bind_eq (bumpBlanks_of_solid rfl hblank hcomment)]
  rfl

theorem bumpWithBlanks_of_digits {s : ScanState} {c : Char} {digits rest : List Char}
    (h : s.rest = c :: (digits ++ rest)) (hne : digits ≠ []) (hdigits : ∀ x ∈ digits, x.isDigit) :
    bumpWithBlanks s = .ok (true, s.pass [c] (digits ++ rest)) := by
  obtain ⟨d, digits, rfl⟩ := List.exists_cons_of_ne_nil hne
  have hd := solid_of_isDigit (hdigits d List.mem_cons_self)
  exact bumpWithBlanks_of_solid h hd.1 hd.2

theorem collect_of_solid {p : Char → Bool} {n : Nat} {s : ScanState} {word rest : List Char}
    {c : Char} (hrest : s.rest = word ++ c :: rest) (hword : ∀ x ∈ word, p x) (hc : p c = false)
    (hsolid : ∀ x ∈ c :: word, isWhitespace x = false ∧ x ≠ '#') (hn : word.length ≤ n) :
    collect p bumpWithBlanks n s = .ok (word, s.pass word (c :: rest)) := by
  induction word generalizing n s with
  | nil =>
    have hpass : s.pass [] (c :: rest) = s := by
      rw [← hrest.trans (List.nil_append _)]
      exact s.pass_nil
    rw [hpass]
    cases n with
    | zero => rfl
    | succ n =>
      rw [collect, bind_eq (next?_eq s), hrest]
      dsimp only [List.nil_append, List.head?_cons]
      rw [if_neg (Bool.eq_false_iff.mp hc)]
      rfl
  | cons d word ih =>
    obtain ⟨n, rfl⟩ : ∃ m, n = m + 1 := ⟨n - 1, by rw [List.length_cons] at hn; omega⟩
    obtain ⟨e, more, hmore⟩ : ∃ e more, word ++ c :: rest = e :: more := by
      cases word <;> exact ⟨_, _, rfl⟩
    have he : isWhitespace e = false ∧ e ≠ '#' := by
      refine hsolid e ?_
      cases word with
      | nil => obtain ⟨rfl, -⟩ := List.cons.inj hmore; simp
      | cons x word => obtain ⟨rfl, -⟩ := List.cons.inj hmore; simp
    -- what follows the digit is no blank, so a step passes the digit alone
    have hd : s.rest = d :: e :: more := by rw [hrest, List.cons_append, hmore]
    have hbump : discard bumpWithBlanks s = .ok ((), s.pass [d] (word ++ c :: rest)) := by
      rw [discard_eq_bind, bind_eq (bumpWithBlanks_of_solid hd he.1 he.2), hmore]
      rfl
    have hlater := ih (n := n) (s := s.pass [d] (word ++ c :: rest)) rfl
      (fun x hx => hword x (List.mem_cons_of_mem _ hx))
      (fun x hx => hsolid x (by simp at hx ⊢; tauto)) (by simpa using hn)
    rw [collect, bind_eq (next?_eq s), hrest]
    dsimp only [List.cons_append, List.head?_cons]
    rw [if_pos (hword d List.mem_cons_self), bind_eq hbump, bind_eq hlater, s.pass_pass]
    rfl

theorem collectWhile_of_not {p : Char → Bool} {step : Scan Bool} {s : ScanState} {c : Char}
    (hnext : s.rest.head? = some c) (hc : p c = false) :
    collectWhile p step s = .ok ([], s) := by
  unfold collectWhile
  rw [bind_eq (remaining_eq s)]
  cases s.rest.length with
  | zero => rfl
  | succ n =>
    rw [collect, bind_eq (next?_eq s), hnext]
    dsimp only
    rw [if_neg (Bool.eq_false_iff.mp hc)]
    rfl

/-- **How a number between braces is read**: as the digits that it consists of. -/
theorem readDecimal_digits {s : ScanState} {digits rest : List Char} {c : Char}
    (hrest : s.rest = digits ++ c :: rest) (hne : digits ≠ [])
    (hdigits : ∀ x ∈ digits, x.isDigit) (hc : c = ',' ∨ c = '\x7d') :
    Yields s readDecimal fun number s' =>
      s' = s.pass digits (c :: rest) ∧ ∀ n, number = .ok n → n = Quantifier.decimal digits := by
  -- what ends the number is no blank, so nothing is passed behind it
  have hsolid : isWhitespace c = false ∧ c ≠ '#' ∧ c.isDigit = false := by
    rcases hc with rfl | rfl <;> exact ⟨by decide, by decide, by decide⟩
  have hfirst : ∃ d, s.rest.head? = some d ∧ d.isDigit := by
    obtain ⟨d, more, rfl⟩ := List.exists_cons_of_ne_nil hne
    exact ⟨d, by rw [hrest]; rfl, hdigits d List.mem_cons_self⟩
  obtain ⟨d, hnext, hd⟩ := hfirst
  have hbefore : collectWhile isWhitespace bump s = .ok ([], s) :=
    collectWhile_of_not hnext (solid_of_isDigit hd).1
  have hnumber : collectWhile Char.isDigit bumpWithBlanks s =
      .ok (digits, s.pass digits (c :: rest)) := by
    unfold collectWhile
    rw [bind_eq (remaining_eq s)]
    refine collect_of_solid hrest hdigits hsolid.2.2 ?_ (by simp [hrest])
    rintro x (_ | ⟨_, hx⟩)
    · exact ⟨hsolid.1, hsolid.2.1⟩
    · exact solid_of_isDigit (hdigits x hx)
  have hafter : collectWhile isWhitespace bumpWithBlanks (s.pass digits (c :: rest)) =
      .ok ([], s.pass digits (c :: rest)) := collectWhile_of_not rfl hsolid.1
  unfold readDecimal
  rw [discard_eq_bind, discard_eq_bind, bind_assoc]
  refine .bind fun _ s₁ hrun => ?_
  cases hbefore.symm.trans hrun
  rw [pure_bind]
  refine .here (.bind fun _ s₂ hrun => ?_)
  cases hnumber.symm.trans hrun
  refine .here ?_
  rw [bind_assoc]
  refine .bind fun _ s₃ hrun => ?_
  cases hafter.symm.trans hrun
  rw [pure_bind]
  refine .ite (fun hempty => absurd (List.isEmpty_iff.mp hempty) hne) fun _ => ?_
  refine .ite (fun _ => .pure ⟨rfl, ?_⟩) fun _ => .pure ⟨rfl, ?_⟩
  · rintro n ⟨⟩
    exact numeral_eq_decimal hdigits
  · rintro n ⟨⟩

/-- A number is left where the reading goes on. -/
theorem yields_liftM {number : Except Fault Nat} {s : ScanState} :
    Yields s (liftM number : Scan Nat) fun n s' => number = .ok n ∧ s' = s := by
  cases number with
  | error f => exact .of_fails (by rintro s x s' ⟨⟩)
  | ok n => exact .pure ⟨rfl, rfl⟩

/-! ## Whole repetitions -/

/-- What a repetition with bounds that stands at the start of a text makes of the items
before it. -/
def IsCounted (text : List Char) (items items' : List Ast) (s' : ScanState) : Prop :=
  ∃ item before span counts greedy, items = item :: before ∧ item.isOperand ∧
    items' = .repetition span counts true greedy item :: before ∧ span.stop = s'.place ∧
    counts.Priced text

theorem yields_closeCounted {start : Position} {item : Ast} {before : List Ast} {counts : Counts}
    {text : List Char} {s : ScanState} (hoperand : item.isOperand) (hpriced : counts.Priced text) :
    Yields s (closeCounted start item before counts) (IsCounted text (item :: before)) := by
  unfold closeCounted
  refine .next? (.guard ((Fails.after _ fun _ => fails_fail _ _).bind _) fun _ => ?_)
  refine .bind fun more s₁ _ => .bind fun greedy s₂ _ => .here ?_
  refine .guard ((fails_fail _ _).bind _) fun _ => .pure ?_
  exact ⟨item, before, _, counts, greedy, rfl, hoperand, rfl, rfl, hpriced⟩

/-- **Repetitions with bounds are priced**: one repeats the last item, and if a quantifier
comes next, its bound is that of the repetition. -/
theorem yields_readCounted (items : List Ast) (s : ScanState) :
    Yields s (readCounted items) (IsCounted s.rest items) := by
  unfold readCounted
  refine .here (.bind fun operand s₁ htake => ?_)
  obtain ⟨item, before⟩ := operand
  obtain ⟨rfl, hoperand, rfl⟩ := takeOperand_eq_ok_iff.mp htake
  have hunclosed : ∀ {α β : Type} (k : α → Scan β),
      Fails ((here >>= fun stop => fail .repetitionCountUnclosed ⟨s₁.place, stop⟩) >>= k) :=
    fun k => (Fails.after _ fun _ => fails_fail _ _).bind k
  refine .bind fun more s₂ hbrace => .guard (hunclosed _) fun _ => ?_
  refine .bind fun lower s₃ hlower => .bind fun ended s₄ hended => ?_
  cases hended
  -- the lower bound is the first number of the quantifier, and what follows it is next
  have hfirst : ∀ text q after, s₁.rest = '\x7b' :: text →
      Quantifier.read? text = some (q, after) → ∃ first c more, s₃.rest = c :: more ∧
        (∀ n, lower = .ok n → n = Quantifier.decimal first) ∧ q.Tail first after c more := by
    intro text q after htext hread
    obtain ⟨first, c, more, hne, hdigits, rfl, htail⟩ := Quantifier.read?_eq_some hread
    cases (bumpWithBlanks_of_digits htext hne hdigits).symm.trans hbrace
    have hc : c = ',' ∨ c = '\x7d' := by
      cases htail <;> simp
    obtain ⟨rfl, hvalue⟩ := readDecimal_digits rfl hne hdigits hc _ _ hlower
    exact ⟨first, c, more, rfl, hvalue, htail⟩
  refine .guard (hunclosed _) fun _ => .next? (.ite (fun hcomma => ?comma) fun hcomma => ?single)
  case comma =>
    refine .bind fun more s₄ hbump => .guard (hunclosed _) fun _ => .next? ?_
    refine .ite (fun hend => .bind fun min s₅ hmin => yields_closeCounted hoperand ?noUpper)
      fun hend => .bind fun min s₅ hmin => .bind fun upper s₆ hupper =>
        .bind fun max s₇ hmax => yields_closeCounted hoperand ?upper
    case noUpper =>
      intro text q after htext hread
      obtain ⟨first, c, more, hnext, hvalue, htail⟩ := hfirst text q after htext hread
      cases htail with
      | exact hbound => simp [hnext] at hcomma
      | atLeast hbound => exact (hvalue _ (yields_liftM _ _ hmin).1).trans hbound.symm
      | range hne hdigits hbound =>
        cases (bumpWithBlanks_of_digits hnext hne hdigits).symm.trans hbump
        obtain ⟨d, digits, rfl⟩ := List.exists_cons_of_ne_nil hne
        obtain rfl : d = '\x7d' := Option.some.inj hend
        exact absurd (hdigits _ List.mem_cons_self) (by decide)
    case upper =>
      intro text q after htext hread
      obtain ⟨first, c, more, hnext, hvalue, htail⟩ := hfirst text q after htext hread
      cases htail with
      | exact hbound => simp [hnext] at hcomma
      | atLeast hbound =>
        cases (bumpWithBlanks_of_solid hnext (by decide) (by decide)).symm.trans hbump
        exact absurd rfl hend
      | range hne hdigits hbound =>
        cases (bumpWithBlanks_of_digits hnext hne hdigits).symm.trans hbump
        obtain rfl := (yields_liftM _ _ hmin).2
        obtain ⟨-, hmax'⟩ := readDecimal_digits rfl hne hdigits (.inr rfl) _ _ hupper
        exact (hmax' _ (yields_liftM _ _ hmax).1).trans hbound.symm
  case single =>
    refine .bind fun exact s₄ hexact => yields_closeCounted hoperand ?_
    intro text q after htext hread
    obtain ⟨first, c, more, hnext, hvalue, htail⟩ := hfirst text q after htext hread
    cases htail with
    | exact hbound => exact (hvalue _ (yields_liftM _ _ hexact).1).trans hbound.symm
    | atLeast hbound => exact absurd (congrArg List.head? hnext) hcomma
    | range hne hdigits hbound => exact absurd (congrArg List.head? hnext) hcomma

end Regex

end StreamNames
