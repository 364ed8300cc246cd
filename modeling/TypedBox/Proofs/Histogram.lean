import Mathlib.Data.List.Nodup
import TypedBox.Proofs.BufferHistory

/-! # The summary of a buffer

The summary counts the records of each type by going through the buffer once and
adding one to a table for every record.  The buffer can be asked for the records of
a type directly.  `Counts.IsHistogram` says that the table answers as the buffer does,
for all types at once; one record more, counted in both, keeps it so.

The buffer never holds more than its limit allows and forgets what is cleared, so
neither evicted nor cleared records are counted.
-/
namespace TypedBox
namespace Trace

/-- The records of a type among some records. -/
def Record.ofType (records : List Record) (type : String) : List Record :=
  records.filter (·.type == type)

namespace Counts

/-! ## One more of a type -/

/-- The types that have a count. -/
def types (counts : Counts) : List String := counts.map Prod.fst

theorem count?_cons (first : String) (n : Nat) (rest : Counts) (t : String) :
    count? ((first, n) :: rest) t = if t = first then some n else rest.count? t := by
  by_cases ht : t = first
  · simp [count?, ht]
  · have hne : (t == first) = false := beq_false_of_ne ht
    simp [count?, List.lookup_cons, hne, ht]

variable (counts : Counts) (type : String)

theorem count?_add (t : String) :
    (counts.add type).count? t =
      if t = type then some ((counts.count? type).getD 0 + 1) else counts.count? t := by
  induction counts with
  | nil =>
    rw [add, count?_cons]
    rfl
  | cons entry rest ih =>
    obtain ⟨first, n⟩ := entry
    by_cases hfirst : first = type
    · subst hfirst
      rw [add, if_pos rfl, count?_cons, count?_cons, count?_cons, if_pos rfl]
      by_cases ht : t = first <;> simp [ht]
    · -- the first entry stays, and answers for its own type only
      rw [add, if_neg hfirst, count?_cons, count?_cons, count?_cons, ih,
        if_neg (Ne.symm hfirst)]
      by_cases ht : t = first
      · simp [ht, hfirst]
      · simp [ht]

/-- A type is entered once: a later record of it finds its entry. -/
theorem types_add :
    (counts.add type).types =
      if type ∈ counts.types then counts.types else counts.types ++ [type] := by
  induction counts with
  | nil => rfl
  | cons entry rest ih =>
    obtain ⟨first, n⟩ := entry
    by_cases hfirst : first = type
    · simp [add, types, hfirst]
    · simp only [types] at ih
      by_cases hmem : type ∈ rest.map Prod.fst
      · simp [add, types, hfirst, ih, hmem]
      · simp [add, types, hfirst, ih, hmem, Ne.symm hfirst]

theorem total_add : (counts.add type).total = counts.total + 1 := by
  induction counts with
  | nil => rfl
  | cons entry rest ih =>
    obtain ⟨first, n⟩ := entry
    by_cases hfirst : first = type
    · simp only [add, if_pos hfirst, total]
      omega
    · simp only [add, if_neg hfirst, total, ih]
      omega

/-! ## The counts of some records -/

/-- The counts are those of some records: a type has an entry, and no more than one,
if there are records of it, and the entry is their number. -/
structure IsHistogram (counts : Counts) (records : List Record) : Prop where
  types_nodup : counts.types.Nodup
  count? : ∀ type, counts.count? type =
    if Record.ofType records type = [] then none else some (Record.ofType records type).length
  total : counts.total = records.length

variable {counts} {records : List Record}

theorem isHistogram_nil : IsHistogram [] [] where
  types_nodup := List.nodup_nil
  count? _ := rfl
  total := rfl

/-- One more record is one more of its type. -/
theorem IsHistogram.add (h : counts.IsHistogram records) (r : Record) :
    (counts.add r.type).IsHistogram (records ++ [r]) where
  types_nodup := by
    rw [types_add]
    split
    next => exact h.types_nodup
    next hnew =>
      rw [← List.concat_eq_append]
      exact h.types_nodup.concat hnew
  count? type := by
    rw [count?_add, h.count?]
    by_cases htype : type = r.type
    · have hmore : Record.ofType (records ++ [r]) type = Record.ofType records r.type ++ [r] := by
        simp [Record.ofType, htype]
      rw [if_pos htype, hmore]
      by_cases hnone : Record.ofType records r.type = []
      · simp [hnone]
      · simp [hnone]
    · have hsame : Record.ofType (records ++ [r]) type = Record.ofType records type := by
        simp [Record.ofType, Ne.symm htype]
      rw [if_neg htype, h.count?, hsame]
  total := by
    rw [total_add, h.total, List.length_append, List.length_singleton]

theorem isHistogram_ofRecords (records : List Record) :
    (ofRecords records).IsHistogram records := by
  induction records using List.reverseRecOn with
  | nil => exact isHistogram_nil
  | append_singleton records r ih =>
    have hadd : ofRecords (records ++ [r]) = (ofRecords records).add r.type :=
      List.foldl_append
    rw [hadd]
    exact ih.add r

end Counts

namespace Buffer

/-- **The summary of a buffer is an exact histogram**, after any pushes and clearings.

* It tells the number of records that the buffer holds, which its limit bounds, and
  the number of all pushes.
* A type has an entry just when the buffer holds records of it, and the entry is
  their number.
* No type is entered twice, and the entries add up to the number of records. -/
theorem stats_is_histogram (limit : Nat) (changes : List Change) :
    let b := (ofLimit limit).run changes
    let counts := b.stats.counts
    b.stats.records = b.size ∧ b.size = b.toList.length ∧ b.stats.records ≤ limit ∧
    b.stats.pushed = b.pushed ∧ b.pushed = (pushes changes).length ∧
    (∀ type, counts.count? type =
      if b.ofType type = [] then none else some (b.ofType type).length) ∧
    counts.types.Nodup ∧ counts.total = b.stats.records := by
  intro b counts
  have hcounts : counts.IsHistogram b.toList := Counts.isHistogram_ofRecords b.toList
  have hsize : b.size = min (pushes (sinceClear changes)).length limit := size_run limit changes
  have hbound : b.size ≤ limit := hsize ▸ Nat.min_le_right _ limit
  exact ⟨rfl, (length_toList b).symm, hbound, rfl, pushed_run limit changes, hcounts.count?,
    hcounts.types_nodup, hcounts.total.trans (length_toList b)⟩

end Buffer
end Trace
end TypedBox
