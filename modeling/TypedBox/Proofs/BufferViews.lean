import Mathlib.Data.List.Sort
import TypedBox.Proofs.BufferHistory

/-! # Views of a buffer

A buffer can be asked for all its records, for the latest ones, for the last one and
for those that satisfy a predicate.  All four are read off one list, `Buffer.toList`:
the latest records are its end, the last one is the end of length one, and the records
that satisfy a predicate are a sublist of it.

What ties them together is that the numbers in a buffer increase (`Window.earlier`).
They still do in every part of it, and a part is told by its members alone, so that
a predicate leaves no choice of which records to show and in which order.
-/
namespace TypedBox
namespace Trace

/-! ## The end of a list -/

section
variable {α : Type} {l part : List α} {m n : Nat}

/-- The end of a list is told by its length. -/
theorem eq_rtake_iff : part = l.rtake n ↔ part <:+ l ∧ part.length = min n l.length := by
  constructor
  · rintro rfl
    exact ⟨List.drop_suffix _ l, length_rtake l n⟩
  · rintro ⟨hend, hlength⟩
    refine List.IsSuffix.eq_of_length ?_ (hlength.trans (length_rtake l n).symm)
    exact List.suffix_of_suffix_length_le hend (List.drop_suffix _ l)
      (hlength.trans (length_rtake l n).symm).le

theorem rtake_suffix_of_le (h : m ≤ n) : l.rtake m <:+ l.rtake n := by
  have hend : l.rtake m = (l.rtake n).rtake m := by
    rw [rtake_rtake, Nat.min_eq_right h]
  rw [hend]
  exact List.drop_suffix _ _

theorem rtake_one : l.rtake 1 = l.getLast?.toList := by
  induction l using List.reverseRecOn with
  | nil => rfl
  | append_singleton l x _ => simp [List.rtake_concat_succ]

end

/-! ## Earlier and later records -/

/-- One record has a smaller number than another. -/
def Record.Earlier (r s : Record) : Prop := r.id < s.id

instance : Std.Irrefl Record.Earlier := ⟨fun r => Nat.lt_irrefl r.id⟩

instance : Std.Antisymm Record.Earlier :=
  ⟨fun _ _ h h' => absurd h' (Nat.lt_asymm h)⟩

namespace Buffer

/-- The numbers in a buffer increase. -/
theorem Window.earlier {b : Buffer} {before : Nat} {es : List Timed} (h : b.Window before es) :
    b.toList.Pairwise Record.Earlier := by
  have hids : (b.toList.map Record.id).Pairwise (· < ·) := by
    rw [h.map_id]
    exact List.pairwise_lt_range' 1
  rw [List.pairwise_map] at hids
  exact hids

variable (b : Buffer)

theorem last?_eq_getLast? : b.last? = b.toList.getLast? :=
  (Array.getLast?_toList b.records).symm

theorem last?_eq_some_iff (r : Record) : b.last? = some r ↔ b.recent 1 = [r] := by
  rw [recent_eq_rtake, rtake_one, last?_eq_getLast?]
  cases b.toList.getLast? <;> simp

theorem last?_eq_none_iff : b.last? = none ↔ b.isEmpty = true := by
  rw [last?, Array.back?_eq_none_iff, isEmpty, Array.isEmpty_iff]

/-- What satisfies a predicate is the only part of a buffer with just these members,
as long as the numbers in it increase. -/
theorem eq_filter_iff {b : Buffer} (h : b.toList.Pairwise Record.Earlier)
    (p : Record → Bool) (part : List Record) :
    part = b.filter p ↔
      part.Sublist b.toList ∧ ∀ r, r ∈ part ↔ r ∈ b.toList ∧ p r = true := by
  constructor
  · rintro rfl
    exact ⟨List.filter_sublist, fun r => List.mem_filter⟩
  · rintro ⟨hpart, hmem⟩
    refine List.Pairwise.eq_of_mem_iff (h.sublist hpart) (h.sublist List.filter_sublist) ?_
    intro r
    rw [hmem]
    exact List.mem_filter.symm

/-- **All views of a buffer are consistent**, after any pushes and clearings.

* The latest `n` records are the end of all records of length `n`, or all of them if
  there are no more; in front of them are just the others, and fewer of the latest
  are the end of more.
* The last record is the latest one; there is none just when the buffer is empty.
* The records that satisfy a predicate are those among all, in their order; together
  with those that do not satisfy it they are all records.
* In each view the numbers increase. -/
theorem views_agree (limit : Nat) (changes : List Change) :
    let b := (ofLimit limit).run changes
    (∀ n part, part = b.recent n ↔ part <:+ b.toList ∧ part.length = min n b.size) ∧
    (∀ n, b.toList.take (b.size - min n b.size) ++ b.recent n = b.toList) ∧
    (∀ m n, m ≤ n → b.recent m <:+ b.recent n) ∧
    (∀ r, b.last? = some r ↔ b.recent 1 = [r]) ∧
    (b.last? = none ↔ b.isEmpty = true) ∧
    (∀ p part, part = b.filter p ↔
      part.Sublist b.toList ∧ ∀ r, r ∈ part ↔ r ∈ b.toList ∧ p r = true) ∧
    (∀ p, (b.filter p ++ b.filter fun r => !p r).Perm b.toList) ∧
    b.toList.Pairwise Record.Earlier ∧
    (∀ n, (b.recent n).Pairwise Record.Earlier) ∧
    ∀ p, (b.filter p).Pairwise Record.Earlier := by
  intro b
  obtain ⟨_, -, hwindow⟩ := exists_window_run limit changes
  have hearlier : b.toList.Pairwise Record.Earlier := hwindow.earlier
  refine ⟨?latest, ?front, ?fewer, b.last?_eq_some_iff, b.last?_eq_none_iff,
    eq_filter_iff hearlier, ?both, hearlier, ?ends, ?parts⟩
  case latest =>
    intro n part
    rw [recent_eq_rtake, eq_rtake_iff, length_toList]
  case front =>
    intro n
    have hstart : b.size - min n b.size = b.toList.length - n := by
      rw [length_toList]
      omega
    rw [recent_eq_rtake, hstart]
    exact List.take_append_drop _ b.toList
  case fewer =>
    intro m n h
    rw [recent_eq_rtake, recent_eq_rtake]
    exact rtake_suffix_of_le h
  case both => exact fun p => List.filter_append_perm p b.toList
  case ends =>
    intro n
    rw [recent_eq_rtake]
    exact hearlier.sublist (List.drop_sublist _ _)
  case parts => exact fun p => hearlier.sublist List.filter_sublist

/-- In a buffer for three, after an eviction, a clearing and two more pushes, the
latest record is the end of the latest two, which are all that there is. -/
theorem views_agree_past_a_clearing :
    let changes : List Change :=
      [.push 10 (.boxed .point), .push 20 (.boxed .size), .push 30 (.boxed .rect),
       .push 40 (.boxed .guid), .clear, .push 50 (.unboxed .rect), .push 60 (.boxed .point)]
    let b := (ofLimit 3).run changes
    1 ≤ 2 ∧ b.recent 1 <:+ b.recent 2 ∧ b.recent 1 = [⟨5, 60, .boxed .point⟩] ∧
      b.last? = some ⟨5, 60, .boxed .point⟩ ∧ b.recent 2 = b.toList := by
  intro changes b
  obtain ⟨-, -, fewer, last, -⟩ := views_agree 3 changes
  have hone : b.recent 1 = [⟨5, 60, .boxed .point⟩] := by decide +kernel
  exact ⟨by decide, fewer 1 2 (by decide), hone, (last _).mpr hone, by decide +kernel⟩

end Buffer
end Trace
end TypedBox
