import StreamNames.Proofs.Verdict.Counts

/-!
# Counting record by record

Statistics can go on from any counters, with a setting of its own for each record. Whatever
the settings are, every record counts for the total and either for those kept or for those
dropped. So the total bounds all counters, and where there is room for the total to grow
there is room for the others.

- `Counts.Consistent`: how the numbers of a batch are related, and stay related.
- `Stats.after`: counting on, record by record.
- `Stats.counts_add`, `Stats.counts_after`: the counters show the numbers that they stand
  for, as long as the total has room.
- `Stats.SteadyRun`, `Stats.steadyRun`: what holds after each record.
-/

namespace StreamNames

/-! ## Numbers without bounds -/

namespace Counts

/-- Counts one record. -/
def add (c : Counts) (r : Record) (skip : Bool) : Counts :=
  let kept := r.verdict skip = .included
  { total := c.total + 1
    included := c.included + (decide kept).toNat
    excluded := c.excluded + (!decide kept).toNat
    builtinFlagged := c.builtinFlagged + r.isBuiltinFlagged.toNat
    withExtractions := c.withExtractions + (decide kept && r.hasExtractions).toNat }

/-- The numbers after some more records, each with the setting that it is counted with. -/
def after (c : Counts) (steps : List (Record × Bool)) : Counts :=
  steps.foldl (fun c step => c.add step.1 step.2) c

theorem total_after (c : Counts) (steps : List (Record × Bool)) :
    (c.after steps).total = c.total + steps.length := by
  induction steps generalizing c with
  | nil => rfl
  | cons step steps ih =>
    have hone : (c.add step.1 step.2).total = c.total + 1 := rfl
    show ((c.add step.1 step.2).after steps).total = _
    rw [ih, hone, List.length_cons, Nat.add_assoc, Nat.add_comm 1]

/-- The flagged streams are counted, whatever the settings. -/
theorem builtinFlagged_after (c : Counts) (steps : List (Record × Bool)) :
    (c.after steps).builtinFlagged =
      c.builtinFlagged + steps.countP fun step => step.1.builtinFilterReason.isSome := by
  induction steps generalizing c with
  | nil => rfl
  | cons step steps ih =>
    have hone : (c.add step.1 step.2).builtinFlagged =
        c.builtinFlagged + step.1.builtinFilterReason.isSome.toNat := rfl
    show ((c.add step.1 step.2).after steps).builtinFlagged = _
    rw [ih, hone, List.countP_cons]
    cases step.1.builtinFilterReason.isSome with
    | true =>
      simp only [Bool.toNat_true, if_true]
      omega
    | false => rfl

/-- Numbers none of which is larger than in others. -/
instance : LE Counts where
  le c d := c.total ≤ d.total ∧ c.included ≤ d.included ∧ c.excluded ≤ d.excluded ∧
    c.builtinFlagged ≤ d.builtinFlagged ∧ c.withExtractions ≤ d.withExtractions

theorem le_add (c : Counts) (r : Record) (skip : Bool) : c ≤ c.add r skip :=
  ⟨Nat.le_add_right .., Nat.le_add_right .., Nat.le_add_right .., Nat.le_add_right ..,
    Nat.le_add_right ..⟩

/-- How the numbers of a batch are related: streams are kept or dropped, parts are picked
out of kept ones, and those flagged are some of all. -/
structure Consistent (c : Counts) : Prop where
  split : c.included + c.excluded = c.total
  extractions : c.withExtractions ≤ c.included
  flagged : c.builtinFlagged ≤ c.total

/-- **One record more keeps the numbers related**, whether its stream is kept or dropped. -/
theorem Consistent.add {c : Counts} (h : c.Consistent) (r : Record) (skip : Bool) :
    (c.add r skip).Consistent := by
  obtain ⟨hsplit, hextractions, hflagged⟩ := h
  have hone : r.isBuiltinFlagged.toNat ≤ 1 := r.isBuiltinFlagged.toNat_le
  have hpicked : r.hasExtractions.toNat ≤ 1 := r.hasExtractions.toNat_le
  cases hkept : decide (r.verdict skip = .included) with
  | true =>
    constructor <;> simp only [Counts.add, hkept, Bool.not_true, Bool.true_and, Bool.toNat_true,
      Bool.toNat_false] <;> omega
  | false =>
    constructor <;> simp only [Counts.add, hkept, Bool.not_false, Bool.false_and, Bool.toNat_true,
      Bool.toNat_false] <;> omega

/-- **The numbers stay related**, record by record. -/
theorem Consistent.after {c : Counts} (h : c.Consistent) (steps : List (Record × Bool)) :
    (c.after steps).Consistent := by
  induction steps generalizing c with
  | nil => exact h
  | cons step steps ih => exact ih (h.add step.1 step.2)

end Counts

/-! ## Counters with room -/

namespace Stats

open Counts (Consistent)

variable {s : Stats}

theorem toNat_add_one {n : UInt64} (b : Bool) (h : n.toNat + 1 < UInt64.size) :
    (n + one b).toNat = n.toNat + b.toNat := by
  cases b with
  | true => exact (UInt64.toNat_add n 1).trans (Nat.mod_eq_of_lt h)
  | false => exact congrArg UInt64.toNat (UInt64.add_zero n)

/-- **No counter overflows in one step** if the total has room: all others are as low. -/
theorem counts_add (h : s.counts.Consistent) (hroom : s.total.toNat + 1 < UInt64.size)
    (r : Record) (skip : Bool) : (s.add r skip).counts = s.counts.add r skip := by
  obtain ⟨hsplit, hextractions, hflagged⟩ := h
  simp only [counts] at hsplit hextractions hflagged
  simp only [counts, add, Counts.add, Counts.mk.injEq]
  refine ⟨toNat_add_one true hroom, toNat_add_one _ ?_, toNat_add_one _ ?_, toNat_add_one _ ?_,
    toNat_add_one _ ?_⟩ <;> omega

/-- The statistics after some more records, each with the setting that it is counted with. -/
def after (s : Stats) (steps : List (Record × Bool)) : Stats :=
  steps.foldl (fun s step => s.add step.1 step.2) s

/-- **No counter overflows in a run** if there is room for the total. -/
theorem counts_after {steps : List (Record × Bool)} (h : s.counts.Consistent)
    (hroom : s.total.toNat + steps.length < UInt64.size) :
    (s.after steps).counts = s.counts.after steps := by
  induction steps generalizing s with
  | nil => rfl
  | cons step steps ih =>
    rw [List.length_cons] at hroom
    have hadd : (s.add step.1 step.2).counts = s.counts.add step.1 step.2 :=
      counts_add h (by omega) step.1 step.2
    have htotal : (s.add step.1 step.2).total.toNat = s.total.toNat + 1 :=
      congrArg Counts.total hadd
    have hnext : (s.add step.1 step.2).counts.Consistent := hadd ▸ h.add step.1 step.2
    show ((s.add step.1 step.2).after steps).counts = (s.counts.add step.1 step.2).after steps
    rw [ih hnext (by omega), hadd]

/-! ## Runs -/

/-- Some more records, all of which are counted in full. -/
structure SteadyRun (s : Stats) (steps : List (Record × Bool)) : Prop where
  /-- No counter overflows: after each record all show the numbers that they stand for. -/
  exact : ∀ done, done <+: steps → (s.after done).counts = s.counts.after done
  /-- The numbers stay related after each record. -/
  consistent : ∀ done, done <+: steps → (s.after done).counts.Consistent
  /-- No counter falls with a record. -/
  nondecreasing : ∀ done step, done ++ [step] <+: steps →
    (s.after done).counts ≤ (s.after (done ++ [step])).counts
  total : (s.after steps).total.toNat = s.total.toNat + steps.length
  /-- The flagged streams are counted, whatever the settings. -/
  flagged : (s.after steps).builtinFlagged.toNat =
    s.builtinFlagged.toNat + steps.countP fun step => step.1.builtinFilterReason.isSome

/-- **Counting goes on steadily** from counters that are related, as long as there is room for
the total. -/
theorem steadyRun {steps : List (Record × Bool)} (h : s.counts.Consistent)
    (hroom : s.total.toNat + steps.length < UInt64.size) : SteadyRun s steps := by
  -- room for all steps is room for each prefix, so no counter has overflowed up to there
  have hexact : ∀ done, done <+: steps → (s.after done).counts = s.counts.after done :=
    fun done hdone => counts_after h (by have := hdone.length_le; omega)
  refine ⟨hexact, ?consistent, ?nondecreasing, ?total, ?flagged⟩
  case consistent =>
    intro done hdone
    rw [hexact done hdone]
    exact h.after done
  case nondecreasing =>
    intro done step hdone
    have hstep : s.counts.after (done ++ [step]) = (s.counts.after done).add step.1 step.2 :=
      List.foldl_append
    rw [hexact done ((List.prefix_append done [step]).trans hdone), hexact _ hdone, hstep]
    exact Counts.le_add _ step.1 step.2
  case total =>
    exact (congrArg Counts.total (hexact steps List.prefix_rfl)).trans
      (Counts.total_after s.counts steps)
  case flagged =>
    exact (congrArg Counts.builtinFlagged (hexact steps List.prefix_rfl)).trans
      (Counts.builtinFlagged_after s.counts steps)

/-- Counters that have room for two streams more. -/
def nearlyFull : Stats := ⟨18446744073709551613, 18446744073709551612, 1, 5, 7⟩

/-- A stream with a part picked out that the built-in filter flagged. -/
def flaggedRecord : Record := ⟨[⟨0, 2, none⟩], .matched, false, some "placeholder"⟩

/-- A flagged stream that is kept and one that is dropped fill the room that is left. -/
theorem steadyRun_nearlyFull :
    nearlyFull.counts.Consistent ∧ nearlyFull.total.toNat + 2 < UInt64.size ∧
      SteadyRun nearlyFull [(flaggedRecord, true), (flaggedRecord, false)] ∧
      nearlyFull.after [(flaggedRecord, true), (flaggedRecord, false)] =
        ⟨18446744073709551615, 18446744073709551613, 2, 7, 8⟩ := by
  have hstart : nearlyFull.counts.Consistent := ⟨by decide, by decide, by decide⟩
  have hroom : nearlyFull.total.toNat + 2 < UInt64.size := by decide
  exact ⟨hstart, hroom, steadyRun hstart hroom, by decide⟩

end Stats

/-! ## Batches as runs -/

/-- A batch is a run from nothing counted, with the same setting for all records. -/
theorem aggregate_eq_after (records : List Record) (skip : Bool) :
    aggregate records skip = Stats.zero.after (records.map (·, skip)) := by
  rw [aggregate, Stats.after, List.foldl_map]

/-- The statistics of a batch are related, so that counting can go on from them. -/
theorem consistent_aggregate {records : List Record} (h : records.length < UInt64.size)
    (skip : Bool) : (aggregate records skip).counts.Consistent := by
  have hzero : Stats.zero.counts.Consistent := ⟨rfl, Nat.le_refl 0, Nat.le_refl 0⟩
  have hroom : Stats.zero.total.toNat + (records.map (·, skip)).length < UInt64.size := by
    rw [List.length_map]
    exact (Nat.zero_add _).symm ▸ h
  rw [aggregate_eq_after, Stats.counts_after hzero hroom]
  exact hzero.after _

end StreamNames
