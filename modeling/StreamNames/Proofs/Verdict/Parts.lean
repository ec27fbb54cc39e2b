import StreamNames.Proofs.Verdict.Counts

/-!
# Batches in parts

A batch can be counted in parts, and its streams in any order. The statistics of the batch
are those of its parts together, counter by counter, however the streams are divided.

- `Counts.ofRecords_append`, `Counts.ofRecords_perm`: the numbers of a batch in parts and in
  another order.
- `aggregate_append`, `aggregate_perm`, `aggregate_flatten`: the same for the counters.
- `CountedInParts`, `countedInParts`: how the statistics of a batch depend on its parts.
-/

namespace StreamNames

/-! ## Sums -/

/-- The numbers of two batches together. -/
instance : Add Counts where
  add c d := ⟨c.total + d.total, c.included + d.included, c.excluded + d.excluded,
    c.builtinFlagged + d.builtinFlagged, c.withExtractions + d.withExtractions⟩

/-- The statistics of two batches together, counter by counter. -/
instance : Add Stats where
  add s t := ⟨s.total + t.total, s.included + t.included, s.excluded + t.excluded,
    s.builtinFlagged + t.builtinFlagged, s.withExtractions + t.withExtractions⟩

namespace Counts

theorem toStats_add (c d : Counts) : (c + d).toStats = c.toStats + d.toStats := by
  show Stats.mk (.ofNat (c.total + d.total)) (.ofNat (c.included + d.included))
    (.ofNat (c.excluded + d.excluded)) (.ofNat (c.builtinFlagged + d.builtinFlagged))
    (.ofNat (c.withExtractions + d.withExtractions)) = _
  simp only [UInt64.ofNat_add]
  rfl

/-- **The numbers of two batches add up.** -/
theorem ofRecords_append (xs ys : List Record) (skip : Bool) :
    ofRecords (xs ++ ys) skip = ofRecords xs skip + ofRecords ys skip := by
  unfold ofRecords
  simp only [List.length_append, List.countP_append]
  rfl

/-- **The numbers of a batch do not depend on its order.** -/
theorem ofRecords_perm {xs ys : List Record} (h : xs.Perm ys) (skip : Bool) :
    ofRecords xs skip = ofRecords ys skip := by
  unfold ofRecords
  simp only [h.length_eq, h.countP_eq]

end Counts

/-! ## Statistics in parts -/

theorem aggregate_append (xs ys : List Record) (skip : Bool) :
    aggregate (xs ++ ys) skip = aggregate xs skip + aggregate ys skip := by
  rw [aggregate_eq_toStats, Counts.ofRecords_append, Counts.toStats_add, ← aggregate_eq_toStats,
    ← aggregate_eq_toStats]

theorem aggregate_perm {xs ys : List Record} (h : xs.Perm ys) (skip : Bool) :
    aggregate xs skip = aggregate ys skip := by
  rw [aggregate_eq_toStats, aggregate_eq_toStats, Counts.ofRecords_perm h]

/-- The statistics of parts together are those of the batch that is divided into them. -/
theorem aggregate_flatten (parts : List (List Record)) (skip : Bool) :
    aggregate parts.flatten skip = (parts.map (aggregate · skip)).foldr (· + ·) .zero := by
  induction parts with
  | nil => rfl
  | cons part parts ih =>
    rw [List.flatten_cons, aggregate_append, ih, List.map_cons, List.foldr_cons]

/-- The numbers that the counters hold add up in the same way, if there are no more records
than one can count. -/
theorem counts_aggregate_append {xs ys : List Record} (h : (xs ++ ys).length < UInt64.size)
    (skip : Bool) :
    (aggregate (xs ++ ys) skip).counts =
      (aggregate xs skip).counts + (aggregate ys skip).counts := by
  rw [List.length_append] at h
  have hall : (xs ++ ys).length < UInt64.size := by rwa [List.length_append]
  have hxs : xs.length < UInt64.size := Nat.lt_of_le_of_lt (Nat.le_add_right ..) h
  have hys : ys.length < UInt64.size := Nat.lt_of_le_of_lt (Nat.le_add_left ..) h
  rw [aggregate_eq_toStats, aggregate_eq_toStats, aggregate_eq_toStats,
    Counts.counts_toStats_ofRecords hall, Counts.counts_toStats_ofRecords hxs,
    Counts.counts_toStats_ofRecords hys, Counts.ofRecords_append]

/-- The statistics of a batch that consists of two parts, in any order. -/
structure CountedInParts (xs ys records : List Record) (skip : Bool) : Prop where
  sum : aggregate records skip = aggregate xs skip + aggregate ys skip
  /-- No sum overflows, unless there are more records than one can count. -/
  exact : records.length < UInt64.size → (aggregate records skip).counts =
    (aggregate xs skip).counts + (aggregate ys skip).counts
  /-- In another order the batch has the same statistics. -/
  order : ∀ reordered, reordered.Perm records → aggregate reordered skip = aggregate records skip
  /-- Divided in another way, into any number of parts, it has the same statistics. -/
  division : ∀ parts : List (List Record), parts.flatten.Perm records →
    (parts.map (aggregate · skip)).foldr (· + ·) .zero = aggregate records skip

/-- **A batch can be counted in parts and in any order.** -/
theorem countedInParts {xs ys records : List Record} (h : records.Perm (xs ++ ys))
    (skip : Bool) : CountedInParts xs ys records skip where
  sum := (aggregate_perm h skip).trans (aggregate_append xs ys skip)
  exact := by
    intro hfits
    rw [aggregate_perm h skip]
    exact counts_aggregate_append (h.length_eq ▸ hfits) skip
  order := fun reordered hreordered => aggregate_perm hreordered skip
  division := by
    intro parts hparts
    -- the parts together are a reordering of the batch
    rw [← aggregate_flatten]
    exact aggregate_perm hparts skip

/-- A stream that is kept, with a part picked out. -/
def keptRecord : Record := ⟨[⟨0, 2, none⟩], .matched, false, none⟩

/-- A stream that is dropped. -/
def droppedRecord : Record := ⟨[], .unconfigured, true, none⟩

/-- A stream that only the built-in filter drops. -/
def filteredRecord : Record := ⟨[], .unconfigured, false, some "placeholder"⟩

/-- A stream of one part stands between two of the other. -/
theorem countedInParts_interleaved :
    [keptRecord, droppedRecord, filteredRecord].Perm
        ([keptRecord, filteredRecord] ++ [droppedRecord]) ∧
      CountedInParts [keptRecord, filteredRecord] [droppedRecord]
        [keptRecord, droppedRecord, filteredRecord] false ∧
      aggregate [keptRecord, droppedRecord, filteredRecord] false = ⟨3, 1, 2, 1, 1⟩ := by
  have hperm : [keptRecord, droppedRecord, filteredRecord].Perm
      ([keptRecord, filteredRecord] ++ [droppedRecord]) := (List.Perm.swap _ _ []).cons keptRecord
  exact ⟨hperm, countedInParts hperm false, by decide⟩

end StreamNames
