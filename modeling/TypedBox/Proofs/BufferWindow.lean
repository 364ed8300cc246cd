import Mathlib.Data.List.DropRight
import TypedBox.Trace.Buffer

/-! # What a buffer shows

A buffer is a window on the sequence of all events that were ever pushed: it
shows the last ones, as many as its limit allows, each numbered by its place in
the whole sequence.  Clearing closes the window and opens an empty one behind the
events pushed so far; the numbering goes on.

`Buffer.Window` states this for a buffer, and there is one lemma for each change.
Everything that can be asked of a buffer follows from it.
-/
namespace TypedBox
namespace Trace

/-! ## The end of a list -/

section
variable {α : Type} (l : List α)

theorem length_rtake (n : Nat) : (l.rtake n).length = min n l.length := by
  rw [List.rtake, List.length_drop]
  omega

/-- No more can be taken than there is. -/
theorem rtake_min_length (n : Nat) : l.rtake (min l.length n) = l.rtake n := by
  rw [List.rtake, List.rtake]
  congr 1
  omega

theorem rtake_rtake (m n : Nat) : (l.rtake m).rtake n = l.rtake (min m n) := by
  rw [List.rtake, length_rtake, List.rtake, List.rtake, List.drop_drop]
  congr 1
  omega

/-- Keeping the last `n` elements, adding one and keeping the last `n` again is
the same as adding it to all elements: what was dropped before would be dropped
now. -/
theorem rtake_append_singleton_rtake (n : Nat) (x : α) :
    (l.rtake n ++ [x]).rtake n = (l ++ [x]).rtake n := by
  cases n with
  | zero => rw [List.rtake_zero, List.rtake_zero]
  | succ n =>
    rw [List.rtake_concat_succ, List.rtake_concat_succ, rtake_rtake,
      Nat.min_eq_right n.le_succ]

end

/-! ## Numbered events -/

/-- An event with the time at which it happens. -/
abbrev Timed := Nat × Event

/-- The records of a sequence of events, numbered from `first` on. -/
def numbered (first : Nat) (es : List Timed) : List Record :=
  es.mapIdx fun i e => ⟨first + i, e.1, e.2⟩

@[simp] theorem numbered_nil (first : Nat) : numbered first [] = [] := rfl

@[simp] theorem length_numbered (first : Nat) (es : List Timed) :
    (numbered first es).length = es.length :=
  List.length_mapIdx

theorem numbered_append (first : Nat) (es more : List Timed) :
    numbered first (es ++ more) = numbered first es ++ numbered (first + es.length) more := by
  simp [numbered, List.mapIdx_append, Nat.add_assoc, Nat.add_comm es.length]

theorem numbered_append_singleton (first : Nat) (es : List Timed) (e : Timed) :
    numbered first (es ++ [e]) = numbered first es ++ [⟨first + es.length, e.1, e.2⟩] :=
  numbered_append first es [e]

namespace Buffer

/-! ## The window -/

/-- The buffer shows the end of a sequence of events.  Before the first of them,
`before` others were pushed. -/
structure Window (b : Buffer) (before : Nat) (es : List Timed) : Prop where
  pushed : b.pushed = before + es.length
  kept : b.toList = (numbered before es).rtake b.limit

variable {b : Buffer} {before : Nat} {es : List Timed}

theorem length_toList (b : Buffer) : b.toList.length = b.size := by
  simp [toList, size]

@[simp] theorem limit_push (b : Buffer) (time : Nat) (event : Event) :
    (b.push time event).limit = b.limit := rfl

@[simp] theorem limit_clear (b : Buffer) : b.clear.limit = b.limit := rfl

/-- A push adds a record behind all others and keeps the end of the limit's length,
which need not have room for the record itself. -/
theorem toList_push_eq_rtake (b : Buffer) (time : Nat) (event : Event) :
    (b.push time event).toList =
      (b.toList ++ [(⟨b.pushed, time, event⟩ : Record)]).rtake b.limit := by
  -- the length that decides how much is dropped is that of the list with the new record
  have hlength : (b.toList ++ [(⟨b.pushed, time, event⟩ : Record)]).length = b.size + 1 := by
    simp [length_toList]
  rw [toList_push, List.rtake, hlength]

theorem window_ofLimit (limit : Nat) : (ofLimit limit).Window 0 [] where
  pushed := rfl
  kept := by simp

/-- A push moves the window on by one event. -/
theorem Window.push (h : b.Window before es) (time : Nat) (event : Event) :
    (b.push time event).Window before (es ++ [(time, event)]) where
  pushed := by
    rw [List.length_append, List.length_singleton, ← Nat.add_assoc, ← h.pushed]
    rfl
  kept := by
    rw [toList_push_eq_rtake, limit_push, numbered_append_singleton, ← h.pushed,
      ← rtake_append_singleton_rtake (numbered before es), ← h.kept]

/-- Clearing opens an empty window behind all events so far. -/
theorem Window.clear (h : b.Window before es) : b.clear.Window (before + es.length) [] where
  pushed := h.pushed
  kept := by simp

theorem Window.size (h : b.Window before es) : b.size = min es.length b.limit := by
  rw [← length_toList, h.kept, length_rtake, length_numbered, Nat.min_comm]

/-- The latest records are the end of the sequence, as far as the buffer reaches
back. -/
theorem recent_eq_rtake (b : Buffer) (n : Nat) : b.recent n = b.toList.rtake n := by
  rw [toList_recent, List.rtake, length_toList]

/-- The summary of a buffer with a limit that shows the end of a sequence. -/
theorem Window.stats (h : b.Window before es) :
    b.stats = ⟨min es.length b.limit, b.limit, before + es.length, .ofRecords b.toList⟩ := by
  rw [Buffer.stats, h.size, h.pushed]

end Buffer
end Trace
end TypedBox
