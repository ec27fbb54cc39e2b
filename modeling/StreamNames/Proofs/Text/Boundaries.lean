import Mathlib.Data.List.Basic
import StreamNames.Text.Offsets

/-!
# Characters and bytes count the same places

A text taken up to its character number `k` ends at the boundary
`byteLength (text.take k)`. All facts about offsets come down to this one place in two
counts:

- `byteOfChar_ofText`: the bytes before a character are the bytes of the text up to it,
  with the table and without it.
- `lastUpTo_ofText`: the character of a byte is the last one that starts no later; at a
  boundary it is the character that starts there (`charOfByte_byteLength`).
- `sliceBytes_byteLength`: a part of a text is the same by either count.
-/

namespace StreamNames.Text

/-! ## Bytes of characters -/

@[simp] theorem byteLength_nil : byteLength [] = 0 := rfl

@[simp] theorem byteLength_cons (c : Char) (text : List Char) :
    byteLength (c :: text) = c.utf8Size + byteLength text := rfl

@[simp] theorem byteLength_append (text more : List Char) :
    byteLength (text ++ more) = byteLength text + byteLength more := by
  induction text with
  | nil => rw [List.nil_append, byteLength_nil, Nat.zero_add]
  | cons c rest ih => rw [List.cons_append, byteLength_cons, byteLength_cons, ih, Nat.add_assoc]

/-- The bytes before a later character are more. -/
theorem byteLength_take_lt {text : List Char} {j k : Nat} (hjk : j < k)
    (hk : k ≤ text.length) : byteLength (text.take j) < byteLength (text.take k) := by
  induction text generalizing j k with
  | nil => exact absurd hk (by simp only [List.length_nil]; omega)
  | cons c rest ih =>
    obtain ⟨k, rfl⟩ := Nat.exists_eq_succ_of_ne_zero (Nat.ne_of_gt (Nat.zero_lt_of_lt hjk))
    have hc := c.utf8Size_pos
    cases j with
    | zero =>
      rw [List.take_zero, byteLength_nil, List.take_succ_cons, byteLength_cons]
      omega
    | succ j =>
      have := ih (Nat.lt_of_succ_lt_succ hjk) (Nat.le_of_succ_le_succ hk)
      rw [List.take_succ_cons, List.take_succ_cons, byteLength_cons, byteLength_cons]
      omega

theorem byteLength_take_le {text : List Char} {j k : Nat} (hjk : j ≤ k) :
    byteLength (text.take j) ≤ byteLength (text.take k) := by
  rw [← Nat.min_eq_left hjk, ← List.take_take]
  calc byteLength ((text.take k).take j)
      ≤ byteLength ((text.take k).take j) + byteLength ((text.take k).drop j) :=
        Nat.le_add_right _ _
    _ = byteLength (text.take k) := by
        rw [← byteLength_append, List.take_append_drop]

theorem byteLength_take_le_byteLength (text : List Char) (k : Nat) :
    byteLength (text.take k) ≤ byteLength text := by
  conv => rhs; rw [← List.take_append_drop k text, byteLength_append]
  exact Nat.le_add_right _ _

/-- Characters are in the order of their bytes. -/
theorem byteLength_take_lt_iff {text : List Char} {j k : Nat} (hj : j ≤ text.length) :
    byteLength (text.take j) < byteLength (text.take k) ↔ j < k ∧ j < text.length := by
  constructor
  · intro h
    constructor
    · exact Nat.lt_of_not_le fun hkj => absurd (byteLength_take_le hkj) (Nat.not_le.mpr h)
    · refine Nat.lt_of_le_of_ne hj fun heq => ?_
      rw [heq, List.take_length] at h
      exact absurd (byteLength_take_le_byteLength text k) (Nat.not_le.mpr h)
  · rintro ⟨hjk, hlt⟩
    calc byteLength (text.take j) < byteLength (text.take (min k text.length)) :=
          byteLength_take_lt (Nat.lt_min.mpr ⟨hjk, hlt⟩) (Nat.min_le_right ..)
      _ ≤ byteLength (text.take k) := byteLength_take_le (Nat.min_le_left ..)

theorem byteLength_take_inj {text : List Char} {j k : Nat} (hj : j ≤ text.length)
    (hk : k ≤ text.length) (h : byteLength (text.take j) = byteLength (text.take k)) :
    j = k := by
  rcases Nat.lt_trichotomy j k with hlt | heq | hgt
  · exact absurd h (Nat.ne_of_lt (byteLength_take_lt hlt hk))
  · exact heq
  · exact absurd h.symm (Nat.ne_of_lt (byteLength_take_lt hgt hj))

/-- Within ASCII every character takes one byte. -/
theorem byteLength_of_ascii {text : List Char} (h : text.all fun c => c.toNat < 0x80) :
    byteLength text = text.length := by
  induction text with
  | nil => rfl
  | cons c rest ih =>
    rw [List.all_cons, Bool.and_eq_true, decide_eq_true_iff] at h
    have hc : c.utf8Size = 1 := by
      rw [Char.utf8Size_eq_one_iff, UInt32.le_iff_toNat_le]
      exact Nat.le_of_lt_succ h.1
    rw [byteLength_cons, List.length_cons, ih h.2, hc, Nat.add_comm]

/-! ## The table -/

@[simp] theorem length_boundaries (offset : Nat) (text : List Char) :
    (boundaries offset text).length = text.length + 1 := by
  induction text generalizing offset with
  | nil => rfl
  | cons c rest ih => rw [boundaries, List.length_cons, List.length_cons, ih]

theorem getElem?_boundaries {offset k : Nat} {text : List Char} (hk : k ≤ text.length) :
    (boundaries offset text)[k]? = some (offset + byteLength (text.take k)) := by
  induction text generalizing offset k with
  | nil =>
    obtain rfl : k = 0 := Nat.le_zero.mp hk
    rfl
  | cons c rest ih =>
    cases k with
    | zero => rfl
    | succ k =>
      rw [boundaries, List.getElem?_cons_succ, ih (Nat.le_of_succ_le_succ hk),
        List.take_succ_cons, byteLength_cons, Nat.add_assoc]

/-! ## The character of a byte -/

/-- Character number `k` is the last of a text that starts at or before a byte. The end of
the text counts as a character of its own. -/
structure LastUpTo (text : List Char) (byte k : Nat) : Prop where
  le_length : k ≤ text.length
  le_byte : byteLength (text.take k) ≤ byte
  lt_next : k < text.length → byte < byteLength (text.take (k + 1))

/-- A later byte has no earlier character. -/
theorem LastUpTo.mono {text : List Char} {byte more j k : Nat} (hj : LastUpTo text byte j)
    (hk : LastUpTo text more k) (hle : byte ≤ more) : j ≤ k := by
  refine Nat.le_of_not_lt fun hkj => ?_
  have hnext := hk.lt_next (Nat.lt_of_lt_of_le hkj hj.le_length)
  have hbytes : byteLength (text.take (k + 1)) ≤ byteLength (text.take j) :=
    byteLength_take_le hkj
  have := hj.le_byte
  omega

theorem LastUpTo.unique {text : List Char} {byte j k : Nat} (hj : LastUpTo text byte j)
    (hk : LastUpTo text byte k) : j = k :=
  Nat.le_antisymm (hj.mono hk (Nat.le_refl _)) (hk.mono hj (Nat.le_refl _))

/-- At a boundary it is the character that starts there. -/
theorem lastUpTo_byteLength {text : List Char} {k : Nat} (hk : k ≤ text.length) :
    LastUpTo text (byteLength (text.take k)) k :=
  ⟨hk, Nat.le_refl _, fun hlt => byteLength_take_lt (Nat.lt_succ_self k) hlt⟩

/-- The boundaries up to a byte end with that of the last character up to it. -/
theorem takeWhile_boundaries {offset byte : Nat} (text : List Char) (h : offset ≤ byte) :
    ∃ k, ((boundaries offset text).takeWhile (· ≤ byte)).length = k + 1 ∧
      LastUpTo text (byte - offset) k := by
  induction text generalizing offset with
  | nil =>
    refine ⟨0, ?_, Nat.le_refl _, Nat.zero_le _, fun hlt => absurd hlt (Nat.lt_irrefl 0)⟩
    rw [boundaries, List.takeWhile_cons_of_pos (by simpa using h)]
    rfl
  | cons c rest ih =>
    rw [boundaries, List.takeWhile_cons_of_pos (by simpa using h)]
    -- the byte lies behind this character or in it
    by_cases hnext : offset + c.utf8Size ≤ byte
    · obtain ⟨k, hlen, hk, hle, hlt⟩ := ih hnext
      refine ⟨k + 1, congrArg Nat.succ hlen, Nat.succ_le_succ hk, ?_, fun hk' => ?_⟩
      · rw [List.take_succ_cons, byteLength_cons]
        omega
      · have := hlt (Nat.lt_of_succ_lt_succ hk')
        rw [List.take_succ_cons, byteLength_cons]
        omega
    · have hnil : (boundaries (offset + c.utf8Size) rest).takeWhile (· ≤ byte) = [] := by
        cases rest <;>
          rw [boundaries, List.takeWhile_cons_of_neg (by simpa using hnext)]
      refine ⟨0, by rw [hnil]; rfl, Nat.zero_le _, Nat.zero_le _, fun _ => ?_⟩
      rw [List.take_succ_cons, List.take_zero, byteLength_cons, byteLength_nil]
      omega

/-! ## Both conversions -/

namespace Offsets

/-- The number of characters, with the table and without it. -/
@[simp] theorem charCount_ofText (text : List Char) :
    (ofText text).charCount = text.length := by
  unfold ofText
  split
  · next hascii => exact byteLength_of_ascii hascii
  · simp [tabulated, charCount]

theorem byteOfChar_tabulated (text : List Char) (k : Nat) :
    (tabulated text).byteOfChar k = Text.byteLength (text.take k) := by
  show ((boundaries 0 text).getD k _) = _
  rw [List.getD_eq_getElem?_getD]
  by_cases hk : k ≤ text.length
  · rw [getElem?_boundaries hk, Option.getD_some, Nat.zero_add]
  · rw [List.getElem?_eq_none (by rw [length_boundaries]; omega), Option.getD_none,
      List.take_of_length_le (by omega)]
    rfl

/-- The bytes before a character are those of the text up to it. -/
theorem byteOfChar_ofText (text : List Char) (k : Nat) :
    (ofText text).byteOfChar k = Text.byteLength (text.take k) := by
  unfold ofText
  split
  · next hascii =>
    have htake : (text.take k).all fun c => c.toNat < 0x80 :=
      List.all_eq_true.mpr fun c hc =>
        List.all_eq_true.mp hascii c (List.mem_of_mem_take hc)
    show min k (Text.byteLength text) = _
    rw [byteLength_of_ascii hascii, byteLength_of_ascii htake, List.length_take]
  · exact byteOfChar_tabulated text k

/-- The table finds the last character up to a byte. -/
theorem lastUpTo_tabulated (text : List Char) (byte : Nat) :
    LastUpTo text byte ((tabulated text).charOfByte byte) := by
  obtain ⟨k, hlen, hk⟩ := takeWhile_boundaries text (Nat.zero_le byte)
  have hchar : (tabulated text).charOfByte byte = k := by
    show ((boundaries 0 text).takeWhile (· ≤ byte)).length - 1 = k
    rw [hlen, Nat.add_sub_cancel]
  rw [hchar]
  exact hk

/-- **The character of a byte is the last up to it**, with the table and without it. -/
theorem lastUpTo_ofText (text : List Char) (byte : Nat) :
    LastUpTo text byte ((ofText text).charOfByte byte) := by
  unfold ofText
  split
  · next hascii =>
    -- without a table places in bytes and in characters are the same
    have htake : ∀ k, Text.byteLength (text.take k) = min k text.length := by
      intro k
      have := byteOfChar_ofText text k
      rw [ofText, if_pos hascii] at this
      rw [← this, ← byteLength_of_ascii hascii]
      rfl
    show LastUpTo text byte (min byte (Text.byteLength text))
    rw [byteLength_of_ascii hascii]
    refine ⟨Nat.min_le_right .., ?_, fun hlt => ?_⟩
    · rw [htake]
      omega
    · rw [htake]
      omega
  · exact lastUpTo_tabulated text byte

@[simp] theorem charOfByte_tabulated_byteLength {text : List Char} {k : Nat}
    (hk : k ≤ text.length) :
    (tabulated text).charOfByte (Text.byteLength (text.take k)) = k :=
  (lastUpTo_tabulated text _).unique (lastUpTo_byteLength hk)

/-- At a boundary the character of a byte is the one that starts there. -/
@[simp] theorem charOfByte_byteLength {text : List Char} {k : Nat} (hk : k ≤ text.length) :
    (ofText text).charOfByte (Text.byteLength (text.take k)) = k :=
  (lastUpTo_ofText text _).unique (lastUpTo_byteLength hk)

end Offsets

/-! ## Parts of a text -/

/-- A part of a text is the same by its characters and by their bytes. -/
theorem sliceBytes_byteLength {text : List Char} {j k : Nat} (hj : j ≤ text.length)
    (hk : k ≤ text.length) :
    sliceBytes text (byteLength (text.take j)) (byteLength (text.take k)) =
      sliceChars text j k := by
  unfold sliceBytes sliceChars
  simp only [Offsets.charOfByte_tabulated_byteLength hj,
    Offsets.charOfByte_tabulated_byteLength hk]

end StreamNames.Text
