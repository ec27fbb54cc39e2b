import Mathlib.Tactic.SplitIfs
import StreamNames.Json.Reader
import StreamNames.Json.Value

/-!
# Reading what was written

What a step of a reading yields depends on the text that is left, not on where it starts. So
it is enough to say which text a step finds, what it yields and which text it leaves.

- `Reads`: a step yields a value from a text and leaves the rest of it.
- `reads_readString`: strings are read as they were written, whatever their characters.
- `reads_skipValue`: strings, truth values and null are passed over.
-/

namespace StreamNames.JsonReader

variable {α β : Type} {text rest left : List Char} {a : α} {b : β} {c : Char}

/-! ## Steps -/

/-- From a text a step yields `a` and leaves the rest, wherever the text starts. -/
def Reads (step : JsonReader α) (text : List Char) (a : α) (rest : List Char) : Prop :=
  ∀ i, ∃ j, step.run ⟨text, i⟩ = .ok (a, ⟨rest, j⟩)

theorem reads_pure (a : α) (text : List Char) : Reads (pure a) text a text := fun i => ⟨i, rfl⟩

theorem Reads.bind {step : JsonReader α} {next : α → JsonReader β} (h : Reads step text a rest)
    (hnext : Reads (next a) rest b left) : Reads (step >>= next) text b left := by
  intro i
  obtain ⟨j, hj⟩ := h i
  obtain ⟨k, hk⟩ := hnext j
  refine ⟨k, ?_⟩
  rw [StateT.run_bind, hj]
  exact hk

theorem reads_next? (text : List Char) : Reads next? text text.head? text := fun i => ⟨i, rfl⟩

theorem reads_remaining (text : List Char) : Reads remaining text text.length text :=
  fun i => ⟨i, rfl⟩

theorem reads_bump (c : Char) (text : List Char) : Reads bump (c :: text) () text :=
  fun _ => ⟨_, rfl⟩

theorem reads_skipWhile (p : Char → Bool) (text : List Char) :
    Reads (skipWhile p) text () (text.dropWhile p) := fun _ => ⟨_, rfl⟩

/-- A word that follows is read. -/
theorem reads_readIdent (word text : List Char) : Reads (readIdent word) (word ++ text) () text := by
  induction word with
  | nil => exact reads_pure () text
  | cons c word ih =>
    refine (reads_next? _).bind ?_
    show Reads (if c = c then bump >>= fun _ => readIdent word else _) _ _ _
    rw [if_pos rfl]
    exact (reads_bump c _).bind ih

/-! ## Blanks -/

/-- Nothing but blanks. -/
def AllBlank (blanks : List Char) : Prop := ∀ c ∈ blanks, isBlank c

/-- The next part is the first character that is not blank. -/
theorem reads_nextPart? {blanks : List Char} (hblanks : AllBlank blanks)
    (hc : isBlank c = false) (text : List Char) :
    Reads nextPart? (blanks ++ c :: text) (some c) (c :: text) := by
  have hdrop : (blanks ++ c :: text).dropWhile isBlank = c :: text := by
    rw [List.dropWhile_append_of_pos hblanks, List.dropWhile_cons_of_neg (by simp [hc])]
  have hskip := reads_skipWhile isBlank (blanks ++ c :: text)
  rw [hdrop] at hskip
  exact hskip.bind (reads_next? _)

/-! ## Escapes -/

theorem hexValue?_hexDigit : ∀ n < 16, hexValue? (Json.hexDigit n) = some n := by decide

theorem utf8Size_hexDigit : ∀ n < 16, (Json.hexDigit n).utf8Size = 1 := by decide

/-- Four digits, of one byte each, are read as a number. -/
theorem reads_readFourHex {digits : List Char} {values : List Nat} (hlength : digits.length = 4)
    (hbytes : Text.byteLength digits = 4) (hvalues : digits.mapM hexValue? = some values)
    (text : List Char) :
    Reads readFourHex (digits ++ text) (values.foldl (fun n d => 16 * n + d) 0) text := by
  intro i
  have htake : (digits ++ text).take 4 = digits := List.take_left' hlength
  have hdrop : (digits ++ text).drop 4 = text := List.drop_left' hlength
  refine ⟨i + 4, ?_⟩
  unfold readFourHex
  rw [StateT.run_bind]
  show StateT.run (if Text.byteLength ((digits ++ text).take 4) < 4 then _ else _) _ = _
  rw [htake, hbytes, if_neg (Nat.lt_irrefl 4), hvalues]
  show Except.ok (_, JsonState.mk ((digits ++ text).drop 4) (i + 4)) = _
  rw [hdrop]

/-- The number of a control character, with its digits. -/
theorem reads_controlCode {n : Nat} (hn : n < 0x20) (text : List Char) :
    Reads readFourHex
      (['0', '0', Json.hexDigit (n / 16), Json.hexDigit (n % 16)] ++ text) n text := by
  have hhigh := hexValue?_hexDigit (n / 16) (by omega)
  have hlow := hexValue?_hexDigit (n % 16) (by omega)
  have hbytes : Text.byteLength ['0', '0', Json.hexDigit (n / 16), Json.hexDigit (n % 16)] = 4 := by
    simp only [Text.byteLength, utf8Size_hexDigit (n / 16) (by omega),
      utf8Size_hexDigit (n % 16) (by omega)]
    decide
  -- the number is below 32, so the first two of the four digits are zeros
  have hvalues : ['0', '0', Json.hexDigit (n / 16), Json.hexDigit (n % 16)].mapM hexValue? =
      some [0, 0, n / 16, n % 16] := by
    have hzero : hexValue? '0' = some 0 := by decide
    simp [hzero, hhigh, hlow]
  have hread := reads_readFourHex rfl hbytes hvalues text
  have hvalue : [0, 0, n / 16, n % 16].foldl (fun n d => 16 * n + d) 0 = n := by
    simp only [List.foldl_cons, List.foldl_nil]
    omega
  rwa [hvalue] at hread

/-- The escape of a character without its backslash, as it is read and as it is passed over. -/
structure IsEscapeOf (escape : List Char) (c : Char) : Prop where
  read : ∀ text, Reads readEscape (escape ++ text) c text
  skip : ∀ text, Reads skipEscape (escape ++ text) () text

/-- A letter that stands for a character. -/
theorem isEscapeOf_letter {letter c : Char} (hletter : letter ≠ 'u')
    (hc : shortEscape? letter = some c) : IsEscapeOf [letter] c where
  read text := by
    refine (reads_next? _).bind ?_
    dsimp only [List.cons_append, List.nil_append, List.head?_cons]
    split
    · next heq => cases heq
    · next heq => exact absurd (Option.some.inj heq) hletter
    · next other _ heq =>
      obtain rfl := Option.some.inj heq
      rw [hc]
      exact (reads_bump _ _).bind (reads_pure _ _)
  skip text := by
    refine (reads_next? _).bind ?_
    dsimp only [List.cons_append, List.nil_append, List.head?_cons]
    split
    · next heq => cases heq
    · next heq => exact absurd (Option.some.inj heq) hletter
    · next other _ heq =>
      obtain rfl := Option.some.inj heq
      rw [hc]
      exact reads_bump _ _

/-- The number of a control character. -/
theorem isEscapeOf_code {c : Char} (hc : c.toNat < 0x20) :
    IsEscapeOf ['u', '0', '0', Json.hexDigit (c.toNat / 16), Json.hexDigit (c.toNat % 16)] c where
  read text := by
    refine (reads_next? _).bind ((reads_bump _ _).bind ?_)
    refine (reads_controlCode hc text).bind ?_
    show Reads (if 0xdc00 ≤ c.toNat ∧ c.toNat ≤ 0xdfff then _ else _) _ _ _
    rw [if_neg (by omega)]
    show Reads (if c.toNat < 0xd800 ∨ 0xdbff < c.toNat then pure (Char.ofNat c.toNat) else _) _ _ _
    rw [if_pos (.inl (by omega)), Char.ofNat_toNat]
    exact reads_pure c text
  skip text := by
    refine (reads_next? _).bind ((reads_bump _ _).bind ?_)
    show Reads (readFourHex >>= fun _ => pure ()) _ _ _
    exact (reads_controlCode hc text).bind (reads_pure _ _)

/-- A character that stands for itself in a string. -/
structure IsPlain (c : Char) : Prop where
  ne_quote : c ≠ '"'
  ne_backslash : c ≠ '\\'
  not_control : ¬c.toNat < 0x20

/-- A character of a string is escaped, or it stands for itself. -/
theorem escapeChar_cases (c : Char) :
    (∃ escape, Json.escapeChar c = '\\' :: escape ∧ IsEscapeOf escape c) ∨
      (Json.escapeChar c = [c] ∧ IsPlain c) := by
  have hletter : ∀ {letter escaped : Char}, letter ≠ 'u' → shortEscape? letter = some escaped →
      ∃ escape, ['\\', letter] = '\\' :: escape ∧ IsEscapeOf escape escaped :=
    fun hne hescaped => ⟨_, rfl, isEscapeOf_letter hne hescaped⟩
  unfold Json.escapeChar
  split_ifs with hquote hbackslash hback hfeed hline hreturn htab hcontrol
  rotate_right 2
  · exact .inl ⟨_, rfl, isEscapeOf_code hcontrol⟩
  · exact .inr ⟨rfl, ⟨hquote, hbackslash, hcontrol⟩⟩
  -- the others have a letter each
  all_goals
    subst_vars
    exact .inl (hletter (by decide) rfl)

theorem escapeChar_ne_nil (c : Char) : Json.escapeChar c ≠ [] := by
  rcases escapeChar_cases c with ⟨escape, hescape, -⟩ | ⟨hself, -⟩
  · rw [hescape]
    exact List.cons_ne_nil _ _
  · rw [hself]
    exact List.cons_ne_nil _ _

/-! ## Strings -/

/-- The characters of a string take as many characters at least when they are written. -/
theorem length_lt_written (cs text : List Char) :
    cs.length < (cs.flatMap Json.escapeChar ++ '"' :: text).length + 1 := by
  rw [List.length_append]
  suffices h : cs.length ≤ (cs.flatMap Json.escapeChar).length by omega
  induction cs with
  | nil => exact Nat.le_refl 0
  | cons c cs ih =>
    have hc := List.length_pos_iff.mpr (escapeChar_ne_nil c)
    rw [List.flatMap_cons, List.length_append, List.length_cons]
    omega

theorem reads_readStringRest_plain (hc : IsPlain c) {bound : Nat} {before : List Char} {s : String}
    (h : Reads (readStringRest bound (c :: before)) text s rest) :
    Reads (readStringRest (bound + 1) before) (c :: text) s rest := by
  refine (reads_next? _).bind ?_
  dsimp only [List.head?_cons]
  split
  · next heq => cases heq
  · next heq => exact absurd (Option.some.inj heq) hc.ne_quote
  · next heq => exact absurd (Option.some.inj heq) hc.ne_backslash
  · next other _ _ heq =>
    obtain rfl := Option.some.inj heq
    refine (reads_bump _ _).bind ?_
    rw [if_neg hc.not_control]
    exact h

/-- The rest of a string is read, character by character. -/
theorem reads_readStringRest (cs : List Char) (before text : List Char) {bound : Nat}
    (hbound : cs.length < bound) :
    Reads (readStringRest bound before) (cs.flatMap Json.escapeChar ++ '"' :: text)
      (String.ofList (before.reverse ++ cs)) text := by
  induction cs generalizing bound before with
  | nil =>
    obtain ⟨bound, rfl⟩ := Nat.exists_eq_succ_of_ne_zero (Nat.ne_of_gt hbound)
    rw [List.append_nil]
    exact (reads_next? _).bind ((reads_bump _ _).bind (reads_pure _ _))
  | cons c cs ih =>
    obtain ⟨bound, rfl⟩ := Nat.exists_eq_succ_of_ne_zero (Nat.ne_of_gt (Nat.zero_lt_of_lt hbound))
    have hrest := ih (c :: before) (Nat.lt_of_succ_lt_succ hbound)
    rw [List.reverse_cons, List.append_assoc, List.singleton_append] at hrest
    rw [List.flatMap_cons, List.append_assoc]
    -- a character is escaped or it is neither a quote nor a backslash
    rcases escapeChar_cases c with ⟨escape, hescape, hread⟩ | ⟨hself, hplain⟩
    · rw [hescape]
      exact (reads_next? _).bind ((reads_bump _ _).bind ((hread.read _).bind hrest))
    · rw [hself]
      exact reads_readStringRest_plain hplain hrest

theorem quote_append (s : String) (text : List Char) :
    Json.quote s ++ text = '"' :: (s.toList.flatMap Json.escapeChar ++ '"' :: text) := by
  rw [Json.quote, List.cons_append, List.append_assoc, List.singleton_append]

/-- **A string is read as it was written.** -/
theorem reads_readString (s : String) (text : List Char) :
    Reads readString (Json.quote s ++ text) s text := by
  have hrest := reads_readStringRest s.toList [] text (length_lt_written s.toList text)
  rw [List.reverse_nil, List.nil_append, String.ofList_toList] at hrest
  rw [quote_append]
  exact (reads_bump _ _).bind ((reads_remaining _).bind hrest)

theorem reads_skipStringRest_plain (hc : IsPlain c) {bound : Nat}
    (h : Reads (skipStringRest bound) text () rest) :
    Reads (skipStringRest (bound + 1)) (c :: text) () rest := by
  refine (reads_next? _).bind ?_
  dsimp only [List.head?_cons]
  split
  · next heq => cases heq
  · next heq => exact absurd (Option.some.inj heq) hc.ne_quote
  · next heq => exact absurd (Option.some.inj heq) hc.ne_backslash
  · next other _ _ heq =>
    obtain rfl := Option.some.inj heq
    rw [if_neg hc.not_control]
    exact (reads_bump _ _).bind h

/-- The rest of a string is passed over, character by character. -/
theorem reads_skipStringRest (cs : List Char) (text : List Char) {bound : Nat}
    (hbound : cs.length < bound) :
    Reads (skipStringRest bound) (cs.flatMap Json.escapeChar ++ '"' :: text) () text := by
  induction cs generalizing bound with
  | nil =>
    obtain ⟨bound, rfl⟩ := Nat.exists_eq_succ_of_ne_zero (Nat.ne_of_gt hbound)
    exact (reads_next? _).bind (reads_bump _ _)
  | cons c cs ih =>
    obtain ⟨bound, rfl⟩ := Nat.exists_eq_succ_of_ne_zero (Nat.ne_of_gt (Nat.zero_lt_of_lt hbound))
    have hrest := ih (Nat.lt_of_succ_lt_succ hbound)
    rw [List.flatMap_cons, List.append_assoc]
    rcases escapeChar_cases c with ⟨escape, hescape, hread⟩ | ⟨hself, hplain⟩
    · rw [hescape]
      exact (reads_next? _).bind ((reads_bump _ _).bind ((hread.skip _).bind hrest))
    · rw [hself]
      exact reads_skipStringRest_plain hplain hrest

/-! ## Simple values -/

/-- A string, a truth value or null. -/
inductive IsSimple : Json → Prop
  | null : IsSimple .null
  | bool (b : Bool) : IsSimple (.bool b)
  | string (s : String) : IsSimple (.string s)

/-- Simple values are written in the same way with indentation. -/
theorem IsSimple.prettyChars_eq {value : Json} (h : IsSimple value) (level : Nat) :
    value.prettyChars level = value.compactChars := by
  cases h with
  | null => rfl
  | bool b => cases b <;> rfl
  | string s => rfl

/-- After a value that nothing encloses nothing more is passed over. -/
theorem reads_closeEnclosing_nil (bound : Nat) (text : List Char) :
    Reads (closeEnclosing (bound + 2) true []) text [] text := reads_pure [] text

/-- **Simple values are passed over.** -/
theorem reads_skipValue {value : Json} (h : IsSimple value) {blanks : List Char}
    (hblanks : AllBlank blanks) (text : List Char) :
    Reads skipValue (blanks ++ (value.compactChars ++ text)) () text := by
  refine (reads_remaining _).bind ?_
  rw [skipValues]
  -- each kind of value has its own step, after which nothing is left open
  have hclose := reads_closeEnclosing_nil text.length text
  cases h with
  | null =>
    refine (reads_nextPart? hblanks (by decide) _).bind ((reads_bump _ _).bind ?_)
    refine (reads_readIdent ['u', 'l', 'l'] text).bind ((reads_pure _ _).bind ?_)
    exact (reads_remaining _).bind (hclose.bind (reads_pure _ _))
  | bool b =>
    cases b with
    | true =>
      refine (reads_nextPart? hblanks (by decide) _).bind ((reads_bump _ _).bind ?_)
      refine (reads_readIdent ['r', 'u', 'e'] text).bind ((reads_pure _ _).bind ?_)
      exact (reads_remaining _).bind (hclose.bind (reads_pure _ _))
    | false =>
      refine (reads_nextPart? hblanks (by decide) _).bind ((reads_bump _ _).bind ?_)
      refine (reads_readIdent ['a', 'l', 's', 'e'] text).bind ((reads_pure _ _).bind ?_)
      exact (reads_remaining _).bind (hclose.bind (reads_pure _ _))
  | string s =>
    rw [Json.compactChars, quote_append]
    refine (reads_nextPart? hblanks (by decide) _).bind ((reads_bump _ _).bind ?_)
    refine (reads_remaining _).bind ?_
    refine (reads_skipStringRest s.toList text (length_lt_written s.toList text)).bind ?_
    exact (reads_pure _ _).bind ((reads_remaining _).bind (hclose.bind (reads_pure _ _)))

end StreamNames.JsonReader
