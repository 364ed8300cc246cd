import TypedBox.Proofs.BufferWindow

/-! # The history of a buffer

What a buffer shows is read off the list of its changes.  The pushes among all
changes give the numbers; those after the last clearing give the contents.  One
lemma carries the whole history (`exists_window_run`): the buffer is a window on
the pushes since the last clearing, and what was pushed before that only shifts
the numbers.

So a number is the place of an event among all pushes and belongs to that event
for good: it is not given out again, and whoever finds a record with that number,
at any time, finds the same record.
-/
namespace TypedBox
namespace Trace

attribute [ext] Record

/-- The event of a record, with its time. -/
def Record.timed (r : Record) : Timed := (r.time, r.event)

theorem Record.eq_of_timed_eq {r s : Record} (hid : s.id = r.id) (htimed : s.timed = r.timed) :
    s = r :=
  Record.ext hid (congrArg Prod.fst htimed) (congrArg Prod.snd htimed)

/-- The record as of time zero. -/
def Record.untimed (r : Record) : Record := { r with time := 0 }

/-! ## The parts of numbered events -/

theorem map_timed_numbered (first : Nat) (es : List Timed) :
    (numbered first es).map Record.timed = es := by
  apply List.ext_getElem
  · simp
  · intro i h _
    simp [numbered, Record.timed]

theorem map_id_numbered (first : Nat) (es : List Timed) :
    (numbered first es).map Record.id = List.range' first es.length := by
  apply List.ext_getElem
  · simp
  · intro i h _
    simp [numbered]

/-- A numbered event is the one in its place. -/
theorem getElem?_of_mem_numbered {first : Nat} {es : List Timed} {r : Record}
    (h : r ∈ numbered first es) : first ≤ r.id ∧ es[r.id - first]? = some r.timed := by
  obtain ⟨i, hi, rfl⟩ := List.mem_mapIdx.mp h
  refine ⟨Nat.le_add_right first i, ?_⟩
  have hplace : first + i - first = i := Nat.add_sub_cancel_left first i
  simp [hplace, hi, Record.timed]

namespace Buffer

variable {b : Buffer} {before : Nat} {es : List Timed}

/-! ## What a window shows -/

theorem Window.map_timed (h : b.Window before es) :
    b.toList.map Record.timed = es.rtake b.limit := by
  rw [h.kept, List.rtake, List.map_drop, map_timed_numbered, length_numbered]
  rfl

/-- The numbers are consecutive, and the last of them is the last one given out. -/
theorem Window.map_id (h : b.Window before es) :
    b.toList.map Record.id = List.range' (b.pushed - b.size) b.size := by
  have hfirst : before + (es.length - b.limit) = b.pushed - b.size := by
    rw [h.pushed, h.size]
    omega
  have hcount : es.length - (es.length - b.limit) = b.size := by
    rw [h.size]
    omega
  rw [h.kept, List.rtake, List.map_drop, map_id_numbered, length_numbered, List.drop_range',
    Nat.mul_one, hfirst, hcount]

/-- A record in the window is the pushed event in its place. -/
theorem Window.getElem?_of_mem (h : b.Window before es) {r : Record} (hr : r ∈ b.toList) :
    before ≤ r.id ∧ es[r.id - before]? = some r.timed := by
  rw [h.kept] at hr
  exact getElem?_of_mem_numbered (List.mem_of_mem_drop hr)

/-! ## Changes and their pushes -/

/-- The event of a change, if it is a push. -/
def Change.timed? : Change → Option Timed
  | .push time event => some (time, event)
  | .clear => none

/-- All events that are pushed, in order. -/
def pushes (changes : List Change) : List Timed :=
  changes.filterMap Change.timed?

/-- The changes after the last clearing, or all of them if nothing is cleared. -/
def sinceClear (changes : List Change) : List Change :=
  changes.rtakeWhile (· ≠ .clear)

theorem pushes_append (changes more : List Change) :
    pushes (changes ++ more) = pushes changes ++ pushes more :=
  List.filterMap_append

theorem pushes_append_push (changes : List Change) (time : Nat) (event : Event) :
    pushes (changes ++ [.push time event]) = pushes changes ++ [(time, event)] :=
  pushes_append changes [.push time event]

theorem pushes_append_clear (changes : List Change) :
    pushes (changes ++ [.clear]) = pushes changes := by
  rw [pushes_append]
  exact List.append_nil _

theorem sinceClear_append_push (changes : List Change) (time : Nat) (event : Event) :
    sinceClear (changes ++ [.push time event]) = sinceClear changes ++ [.push time event] :=
  List.rtakeWhile_concat_pos _ _ _ (by simp)

theorem sinceClear_append_clear (changes : List Change) :
    sinceClear (changes ++ [.clear]) = [] :=
  List.rtakeWhile_concat_neg _ _ _ (by simp)

/-! ## The whole history -/

theorem run_append (b : Buffer) (changes more : List Change) :
    b.run (changes ++ more) = (b.run changes).run more :=
  List.foldl_append

theorem run_append_singleton (b : Buffer) (changes : List Change) (c : Change) :
    b.run (changes ++ [c]) = (b.run changes).apply c :=
  run_append b changes [c]

@[simp] theorem limit_run (b : Buffer) (changes : List Change) :
    (b.run changes).limit = b.limit := by
  induction changes using List.reverseRecOn with
  | nil => rfl
  | append_singleton changes c ih =>
    rw [run_append_singleton]
    cases c with
    | push time event => exact ih
    | clear => exact ih

/-- **The buffer is a window on the pushes since the last clearing.**  The pushes
before that are what the numbering starts from. -/
theorem exists_window_run (limit : Nat) (changes : List Change) :
    ∃ earlier : List Timed, pushes changes = earlier ++ pushes (sinceClear changes) ∧
      ((ofLimit limit).run changes).Window earlier.length (pushes (sinceClear changes)) := by
  induction changes using List.reverseRecOn with
  | nil => exact ⟨[], rfl, window_ofLimit limit⟩
  | append_singleton changes c ih =>
    obtain ⟨earlier, hall, hwindow⟩ := ih
    rw [run_append_singleton]
    cases c with
    | push time event =>
      rw [sinceClear_append_push, pushes_append_push, pushes_append_push]
      refine ⟨earlier, ?_, hwindow.push time event⟩
      rw [hall, List.append_assoc]
    | clear =>
      -- from now on all pushes so far are earlier ones
      rw [sinceClear_append_clear, pushes_append_clear]
      refine ⟨pushes changes, (List.append_nil _).symm, ?_⟩
      rw [hall, List.length_append]
      exact hwindow.clear

theorem pushed_run (limit : Nat) (changes : List Change) :
    ((ofLimit limit).run changes).pushed = (pushes changes).length := by
  obtain ⟨earlier, hall, hwindow⟩ := exists_window_run limit changes
  rw [hwindow.pushed, hall, List.length_append]

theorem size_run (limit : Nat) (changes : List Change) :
    ((ofLimit limit).run changes).size = min (pushes (sinceClear changes)).length limit := by
  obtain ⟨earlier, -, hwindow⟩ := exists_window_run limit changes
  rw [hwindow.size, limit_run]
  rfl

/-- **The number of a record is its place among all pushes.** -/
theorem getElem?_pushes_of_mem {limit : Nat} {changes : List Change} {r : Record}
    (hr : r ∈ ((ofLimit limit).run changes).toList) :
    (pushes changes)[r.id]? = some r.timed := by
  obtain ⟨earlier, hall, hwindow⟩ := exists_window_run limit changes
  obtain ⟨hle, hplace⟩ := hwindow.getElem?_of_mem hr
  rw [hall, List.getElem?_append_right hle]
  exact hplace

/-- A record that is seen again later is the same record. -/
theorem eq_of_id_eq_of_mem {limit : Nat} {changes later : List Change} {r s : Record}
    (hr : r ∈ ((ofLimit limit).run changes).toList)
    (hs : s ∈ ((ofLimit limit).run (changes ++ later)).toList) (hid : s.id = r.id) : s = r := by
  have hplace := getElem?_pushes_of_mem hr
  have hplace' := getElem?_pushes_of_mem hs
  -- what was pushed later stands behind the place that both numbers name
  obtain ⟨hlt, -⟩ := List.getElem?_eq_some_iff.mp hplace
  rw [pushes_append, hid, List.getElem?_append_left hlt, hplace] at hplace'
  have htimed : r.timed = s.timed := Option.some.inj hplace'
  exact Record.eq_of_timed_eq hid htimed.symm

/-! ## The numbers given out -/

/-- The numbers that pushes are told among some changes, in order. -/
def numbersTold (b : Buffer) : List Change → List Nat
  | [] => []
  | .push time event :: rest =>
    (b.insert time event).1 :: numbersTold (b.insert time event).2 rest
  | .clear :: rest => numbersTold b.clear rest

/-- Every push is told the next number; clearing does not start over. -/
theorem numbersTold_eq_range' (b : Buffer) (changes : List Change) :
    b.numbersTold changes = List.range' b.pushed (pushes changes).length := by
  induction changes generalizing b with
  | nil => rfl
  | cons c changes ih =>
    cases c with
    | push time event =>
      have hrest := ih (b.insert time event).2
      rw [numbersTold, hrest]
      rfl
    | clear =>
      rw [numbersTold, ih]
      rfl

/-! ## Times are only carried along -/

/-- The change with everything at time zero. -/
def Change.untimed : Change → Change
  | .push _ event => .push 0 event
  | .clear => .clear

/-- The buffer with every record as of time zero. -/
def untimed (b : Buffer) : Buffer := { b with records := b.records.map Record.untimed }

theorem evict_map (f : Record → Record) (limit : Nat) (records : Array Record) :
    evict limit (records.map f) = (evict limit records).map f := by
  fun_induction evict limit records with
  | case1 records h ih => rw [evict, Array.size_map, if_pos h, ← ih, Array.map_extract]
  | case2 records h => rw [evict, Array.size_map, if_neg h]

theorem untimed_apply (b : Buffer) (c : Change) :
    (b.apply c).untimed = b.untimed.apply c.untimed := by
  cases c with
  | clear => simp [apply, clear, untimed, Change.untimed]
  | push time event =>
    have hrecords : (evict b.limit (b.records.push ⟨b.pushed, time, event⟩)).map Record.untimed =
        evict b.limit ((b.records.map Record.untimed).push ⟨b.pushed, 0, event⟩) := by
      rw [← evict_map, Array.map_push]
      rfl
    exact congrArg (fun records => (⟨records, b.limit, b.pushed + 1⟩ : Buffer)) hrecords

/-- No time has an influence on what is kept and how it is numbered. -/
theorem untimed_run (b : Buffer) (changes : List Change) :
    (b.run changes).untimed = b.untimed.run (changes.map Change.untimed) := by
  induction changes generalizing b with
  | nil => rfl
  | cons c changes ih =>
    have hrest := ih (b.apply c)
    rw [untimed_apply] at hrest
    exact hrest

/-- **What a buffer shows after any pushes and clearings.**

* It shows the last of the events pushed since the last clearing, as many as its
  limit allows, oldest first and with their own times.
* The numbers of what it shows are consecutive and end below the number of all
  pushes; each is the place of its event among all pushes, clearings or not.
* The pushes are told the numbers from zero on, without gap or repetition.
* A record with a given number is the same record whenever it is seen. -/
theorem shows_latest_pushes (limit : Nat) (changes : List Change) :
    let b := (ofLimit limit).run changes
    let all := pushes changes
    let recent := pushes (sinceClear changes)
    let shown := min recent.length limit
    recent <:+ all ∧
    b.toList.map Record.timed = recent.rtake shown ∧
    b.toList.map Record.id = List.range' (all.length - shown) shown ∧
    (∀ r ∈ b.toList, all[r.id]? = some r.timed) ∧
    (ofLimit limit).numbersTold changes = List.range all.length ∧
    (∀ time event, b.insert time event = (all.length, b.apply (.push time event))) ∧
    b.pushed = all.length ∧
    b.size = shown ∧
    (∀ later, ∀ r ∈ b.toList, ∀ s ∈ (b.run later).toList, s.id = r.id → s = r) := by
  intro b all recent shown
  have hpushed : b.pushed = all.length := pushed_run limit changes
  have hsize : b.size = shown := size_run limit changes
  obtain ⟨earlier, hall, hwindow⟩ := exists_window_run limit changes
  refine ⟨⟨earlier, hall.symm⟩, ?timed, ?id, fun r hr => getElem?_pushes_of_mem hr, ?told, ?insert,
    hpushed, hsize, ?same⟩
  case timed =>
    rw [hwindow.map_timed, limit_run]
    exact (rtake_min_length recent limit).symm
  case id =>
    rw [← hpushed, ← hsize]
    exact hwindow.map_id
  case told =>
    rw [numbersTold_eq_range', List.range_eq_range']
    rfl
  case insert =>
    intro time event
    rw [← hpushed]
    rfl
  case same =>
    intro later r hr s hs hid
    have hs' : s ∈ ((ofLimit limit).run (changes ++ later)).toList := by
      rw [run_append]
      exact hs
    exact eq_of_id_eq_of_mem hr hs' hid

/-- In a buffer for two, the record with number two is there after the second push
behind a clearing, and the very same one after the third. -/
theorem shows_latest_pushes_past_a_clearing :
    let changes : List Change :=
      [.push 10 (.boxed .point), .push 20 (.boxed .size), .clear, .push 30 (.unboxed .rect)]
    let later : List Change := [.push 40 (.boxed .guid)]
    let r : Record := ⟨2, 30, .unboxed .rect⟩
    r ∈ ((ofLimit 2).run changes).toList ∧
      (pushes changes)[2]? = some (30, .unboxed .rect) ∧
      ∀ s ∈ (((ofLimit 2).run changes).run later).toList, s.id = 2 → s = r := by
  intro changes later r
  have hr : r ∈ ((ofLimit 2).run changes).toList := by decide +kernel
  obtain ⟨-, -, -, place, -, -, -, -, same⟩ := shows_latest_pushes 2 changes
  exact ⟨hr, place r hr, fun s hs hid => same later r hr s hs hid⟩

end Buffer
end Trace
end TypedBox
