import TypedBox.Trace.Record

/-! # Trace buffers

A buffer keeps the most recent records, up to a limit.  Every record gets the
number of records pushed before it, whether or not those are still there:
evicting and clearing take records away, but never give a number out again.

`Buffer.toList` is the view that every operation is described by.
-/
namespace TypedBox
namespace Trace

/-- The most recent records, oldest first. -/
structure Buffer where
  /-- The records that are kept. -/
  records : Array Record
  /-- The greatest number of records kept. -/
  limit : Nat
  /-- The number of records ever pushed, which is the number of the next one. -/
  pushed : Nat
  deriving DecidableEq

namespace Buffer

/-- The empty buffer with the given limit. -/
def ofLimit (limit : Nat) : Buffer := ⟨#[], limit, 0⟩

/-- The limit where none is asked for. -/
def standardLimit : Nat := 10000

/-- The empty buffer with the standard limit. -/
def standard : Buffer := ofLimit standardLimit

/-- The records that are kept, oldest first. -/
def toList (b : Buffer) : List Record := b.records.toList

/-- The number of records that are kept. -/
def size (b : Buffer) : Nat := b.records.size

/-- No record is kept. -/
def isEmpty (b : Buffer) : Bool := b.records.isEmpty

/-- The last `n` records of an array; all of them if there are no more. -/
def lastOf (records : Array Record) (n : Nat) : Array Record :=
  if records.size ≤ n then records
  else records.extract (records.size - n) records.size

/-- Drops the oldest record, again and again while there are more than `limit`. -/
def evict (limit : Nat) (records : Array Record) : Array Record :=
  if limit < records.size then evict limit (records.extract 1) else records
termination_by records.size

/-- Records an event at a time: appends its record, and evicts the oldest ones beyond the limit. -/
def push (b : Buffer) (time : Nat) (event : Event) : Buffer :=
  ⟨evict b.limit (b.records.push ⟨b.pushed, time, event⟩), b.limit, b.pushed + 1⟩

/-- Records an event at a time, and tells the number that it was given. -/
def insert (b : Buffer) (time : Nat) (event : Event) : Nat × Buffer :=
  (b.pushed, b.push time event)

/-- Records an event so many times, the first one at `time` and each later one `step` after the one
before it. -/
def pushMany (b : Buffer) (time step : Nat) (event : Event) : (count : Nat) → Buffer
  | 0 => b
  | count + 1 => pushMany (b.push time event) (time + step) step event count

/-- Drops all records. -/
def clear (b : Buffer) : Buffer := ⟨#[], b.limit, b.pushed⟩

/-- The latest record. -/
def last? (b : Buffer) : Option Record := b.records.back?

/-- The latest `n` records, oldest first. -/
def recent (b : Buffer) (n : Nat) : List Record := (lastOf b.records n).toList

/-- The records that satisfy a predicate. -/
def filter (b : Buffer) (p : Record → Bool) : List Record := b.toList.filter p

/-- The records of events with the given type name. -/
def ofType (b : Buffer) (type : String) : List Record := b.filter (·.type == type)

/-- No record is earlier than the one before it. -/
def inOrder (b : Buffer) : Bool :=
  (b.toList.zip b.toList.tail).all fun p => p.1.time ≤ p.2.time

def debugText (b : Buffer) : String :=
  Text.fields "TraceBuffer"
    [("records", Text.list (b.toList.map Record.debugText)),
     ("max_size", Text.decimal b.limit), ("next_id", Text.decimal b.pushed)]

@[simp] theorem toList_ofLimit (limit : Nat) : (ofLimit limit).toList = [] := rfl

@[simp] theorem toList_clear (b : Buffer) : b.clear.toList = [] := rfl

theorem toList_lastOf (records : Array Record) (n : Nat) :
    (lastOf records n).toList = records.toList.drop (records.size - n) := by
  unfold lastOf
  split
  next h => simp [Nat.sub_eq_zero_of_le h]
  next h =>
    rw [Array.toList_extract, List.extract_eq_take_drop]
    exact List.take_of_length_le (by simp)

/-- What eviction leaves are the last records. -/
theorem evict_eq_lastOf (limit : Nat) (records : Array Record) :
    evict limit records = lastOf records limit := by
  fun_induction evict limit records with
  | case1 records h ih =>
    have htail : (records.extract 1).toList = records.toList.drop 1 := by
      rw [Array.toList_extract, List.extract_eq_take_drop]
      exact List.take_of_length_le (by simp)
    have hsize : (records.extract 1).size = records.size - 1 := by
      rw [Array.size_extract, Nat.min_self]
    have hcount : 1 + (records.size - 1 - limit) = records.size - limit := by omega
    rw [ih, ← Array.toList_inj, toList_lastOf, toList_lastOf, htail, hsize, List.drop_drop, hcount]
  | case2 records h => rw [lastOf, if_pos (Nat.le_of_not_lt h)]

/-- Pushing appends a record, then drops what is beyond the limit from the front. -/
theorem toList_push (b : Buffer) (time : Nat) (event : Event) :
    (b.push time event).toList =
      (b.toList ++ [(⟨b.pushed, time, event⟩ : Record)]).drop (b.size + 1 - b.limit) := by
  simp [push, toList, evict_eq_lastOf, toList_lastOf, size]

theorem toList_recent (b : Buffer) (n : Nat) :
    b.recent n = b.toList.drop (b.size - n) :=
  toList_lastOf b.records n

end Buffer

/-- The changes that a buffer can undergo. -/
inductive Buffer.Change where
  | push (time : Nat) (event : Event)
  | clear
  deriving DecidableEq

namespace Buffer

/-- The buffer after one change. -/
def apply (b : Buffer) : Change → Buffer
  | .push time event => b.push time event
  | .clear => b.clear

/-- The buffer after a list of changes. -/
def run (b : Buffer) (changes : List Change) : Buffer :=
  changes.foldl apply b

end Buffer

/-! ## Statistics of a buffer

How many records a buffer keeps, how many were ever pushed, and how many of the
kept ones there are of each type.  Only types that occur have a count.
-/

/-- Counts by type name, in order of first occurrence. -/
abbrev Counts := List (String × Nat)

namespace Counts

/-- One more of the given type. -/
def add (type : String) : Counts → Counts
  | [] => [(type, 1)]
  | (t, n) :: rest => if t = type then (t, n + 1) :: rest else (t, n) :: add type rest

/-- The count of a type, if it occurs. -/
def count? (counts : Counts) (type : String) : Option Nat :=
  counts.lookup type

/-- All counts together. -/
def total : Counts → Nat
  | [] => 0
  | (_, n) :: rest => n + total rest

/-- The counts of the types of some records. -/
def ofRecords (records : List Record) : Counts :=
  records.foldl (fun counts r => counts.add r.type) []

end Counts

/-- A summary of a buffer. -/
structure Stats where
  /-- The number of records kept. -/
  records : Nat
  /-- The greatest number of records kept. -/
  limit : Nat
  /-- The number of records ever pushed. -/
  pushed : Nat
  /-- How many records are kept of each type. -/
  counts : Counts
  deriving DecidableEq

/-- The summary of no buffer at all. -/
def Stats.zero : Stats := ⟨0, 0, 0, []⟩

/-- The summary of a buffer. -/
def Buffer.stats (b : Buffer) : Stats :=
  ⟨b.size, b.limit, b.pushed, .ofRecords b.toList⟩

end Trace
end TypedBox
