import TypedBox.Proofs.TracerHistory

/-! # Filtering when recording and filtering when asking

Events of some types can be singled out in two ways: a tracer records only these, or
it records all and its buffer is asked for these.  What is singled out is the same
events in the same order (`fed_eq_filter`, `latest_filter`), but the limit of the
buffer counts recorded events: the first tracer keeps the latest events of the types,
the second one the events of the types among the latest.

So the answer of the second is the end of what the first one keeps, and all of it as
long as the second had to evict nothing.
-/
namespace TypedBox
namespace Trace

/-! ## The end of a list -/

/-- What is singled out at the end of a list is at the end of all that is singled
out. -/
theorem filter_rtake_suffix {α : Type} (p : α → Bool) (l : List α) (n : Nat) :
    (l.rtake n).filter p <:+ (l.filter p).rtake n := by
  have hend : (l.rtake n).filter p <:+ l.filter p := (List.drop_suffix _ l).filter p
  refine List.suffix_of_suffix_length_le hend (List.drop_suffix _ _) ?_
  have hle : ((l.rtake n).filter p).length ≤ (l.rtake n).length := List.length_filter_le p _
  rw [length_rtake] at hle ⊢
  exact Nat.le_min.mpr ⟨hle.trans (Nat.min_le_left n l.length), hend.length_le⟩

theorem rtake_of_length_le {α : Type} {l : List α} {n : Nat} (h : l.length ≤ n) :
    l.rtake n = l := by
  rw [List.rtake, Nat.sub_eq_zero_of_le h, List.drop_zero]

namespace Buffer

/-! ## Events without their times -/

/-- The events that are kept, oldest first. -/
def events (b : Buffer) : List Event := b.toList.map Record.event

/-- The events that are pushed after the last clearing. -/
def latest (changes : List Change) : List Event :=
  (pushes (sinceClear changes)).map Prod.snd

/-- The number of records that were pushed since the last clearing and are no longer
kept. -/
def evicted (limit : Nat) (changes : List Change) : Nat :=
  (latest changes).length - ((ofLimit limit).run changes).size

@[simp] theorem latest_append_push (changes : List Change) (time : Nat) (event : Event) :
    latest (changes ++ [.push time event]) = latest changes ++ [event] := by
  rw [latest, sinceClear_append_push, pushes_append_push, List.map_append]
  rfl

@[simp] theorem latest_append_clear (changes : List Change) :
    latest (changes ++ [.clear]) = [] := by
  rw [latest, sinceClear_append_clear]
  rfl

/-- **A buffer keeps the end of the events since the last clearing.** -/
theorem events_run (limit : Nat) (changes : List Change) :
    ((ofLimit limit).run changes).events = (latest changes).rtake limit := by
  obtain ⟨earlier, -, hwindow⟩ := exists_window_run limit changes
  have htimed := congrArg (List.map Prod.snd) hwindow.map_timed
  rw [limit_run, List.map_map] at htimed
  rw [events, latest, List.rtake, List.length_map, ← List.map_drop]
  exact htimed

theorem length_le_of_evicted_eq_zero {limit : Nat} {changes : List Change}
    (h : evicted limit changes = 0) : (latest changes).length ≤ limit := by
  have hsize := size_run limit changes
  have hlength : (latest changes).length = (pushes (sinceClear changes)).length :=
    List.length_map _
  unfold evicted at h
  omega

/-! ## Singling out events -/

/-- The change stays when only some events are singled out: clearings always do. -/
def Change.passes (p : Event → Bool) : Change → Bool
  | .push _ event => p event
  | .clear => true

theorem latest_filter (p : Event → Bool) (changes : List Change) :
    latest (changes.filter (Change.passes p)) = (latest changes).filter p := by
  induction changes using List.reverseRecOn with
  | nil => rfl
  | append_singleton changes c ih =>
    rw [List.filter_append]
    cases c with
    | clear =>
      have hstays : [Change.clear].filter (Change.passes p) = [.clear] := rfl
      rw [hstays, latest_append_clear, latest_append_clear]
      rfl
    | push time event =>
      by_cases hp : p event = true
      · simp [Change.passes, hp, ih]
      · simp [Change.passes, hp, ih]

theorem latest_untimed (changes : List Change) :
    latest (changes.map Change.untimed) = latest changes := by
  induction changes using List.reverseRecOn with
  | nil => rfl
  | append_singleton changes c ih =>
    rw [List.map_append]
    cases c with
    | clear => simp [Change.untimed]
    | push time event => simp [Change.untimed, ih]

end Buffer

namespace Tracer

open Buffer (latest)

/-! ## What two tracers are fed with -/

/-- The change with its event, if there is one, at time zero. -/
def Change.untimed : Change → Change
  | .record _ event => .record 0 event
  | c => c

theorem fedOf_eq_filter {types : List String} (hne : types ≠ []) (enabled : Bool) (c : Change) :
    fedOf types enabled c =
      (fedOf [] enabled c).filter (Buffer.Change.passes fun e => types.contains e.type) := by
  cases c with
  | enable | disable | setOutput | clear => rfl
  | record time event =>
    cases enabled with
    | false => rfl
    | true =>
      by_cases htype : event.type ∈ types
      · simp [fedOf, Buffer.Change.passes, htype]
      · simp [fedOf, Buffer.Change.passes, htype, hne]

/-- **Recording with a filter is recording all and singling out events.** -/
theorem fed_eq_filter {types : List String} (hne : types ≠ []) (enabled : Bool)
    (changes : List Change) :
    fed types enabled changes =
      (fed [] enabled changes).filter (Buffer.Change.passes fun e => types.contains e.type) := by
  induction changes generalizing enabled with
  | nil => rfl
  | cons c changes ih =>
    rw [fed_cons, fed_cons, List.filter_append, ← ih, ← fedOf_eq_filter hne]

theorem fedOf_untimed (filter : List String) (enabled : Bool) (c : Change) :
    fedOf filter enabled c.untimed = (fedOf filter enabled c).map Buffer.Change.untimed := by
  cases c with
  | enable | disable | setOutput | clear => rfl
  | record time event =>
    rw [Change.untimed, fedOf, fedOf]
    split <;> rfl

theorem enabledAfter_untimed (enabled : Bool) (c : Change) :
    enabledAfter enabled c.untimed = enabledAfter enabled c := by
  cases c <;> rfl

/-- What a buffer is fed with at other times is the same, at those times. -/
theorem fed_untimed (filter : List String) (enabled : Bool) (changes : List Change) :
    fed filter enabled (changes.map Change.untimed) =
      (fed filter enabled changes).map Buffer.Change.untimed := by
  induction changes generalizing enabled with
  | nil => rfl
  | cons c changes ih =>
    rw [List.map_cons, fed_cons, fed_cons, List.map_append, fedOf_untimed, enabledAfter_untimed, ih]

/-- Events since the last clearing do not depend on the times at which they happen. -/
theorem latest_fed_eq {filter : List String} {enabled : Bool} {changes changes' : List Change}
    (h : changes'.map Change.untimed = changes.map Change.untimed) :
    latest (fed filter enabled changes') = latest (fed filter enabled changes) := by
  rw [← Buffer.latest_untimed, ← fed_untimed, h, fed_untimed, Buffer.latest_untimed]

theorem events_run (c : Config) (changes : List Change) :
    ((ofConfig c).run changes).buffer.events =
      (latest (fed c.filter c.enabled changes)).rtake c.bufferLimit := by
  rw [buffer_run]
  exact Buffer.events_run c.bufferLimit (fed c.filter c.enabled changes)

/-- **Filtering when recording agrees with filtering when asking.**  Two tracers of one
limit undergo the same changes, each at times of its own; one records the events of some
types only, and the other records all and is asked for these types.

* The answer is the end of what the first tracer keeps.
* It is all of that if the second one has evicted nothing since the last clearing.
* For a single type it is what the buffer gives for that type. -/
theorem filter_agrees_with_query {types : List String} (hne : types ≠ []) (limit : Nat)
    (enabled : Bool) (o o' : Output) {changes changes' : List Change}
    (hsame : changes'.map Change.untimed = changes.map Change.untimed) :
    let filtered := (ofConfig ⟨enabled, limit, o, types⟩).run changes
    let unfiltered := (ofConfig ⟨enabled, limit, o', []⟩).run changes'
    let asked := (unfiltered.buffer.filter fun r => types.contains r.type).map Record.event
    asked <:+ filtered.buffer.events ∧
    (Buffer.evicted limit (fed [] enabled changes') = 0 → asked = filtered.buffer.events) ∧
    (∀ type, types = [type] → asked = (unfiltered.buffer.ofType type).map Record.event) := by
  intro filtered unfiltered asked
  -- both sides are read off the events that the second tracer recorded since the last clearing
  have hkept : filtered.buffer.events = ((latest (fed [] enabled changes')).filter
      fun e => types.contains e.type).rtake limit := by
    rw [events_run, fed_eq_filter hne, Buffer.latest_filter, latest_fed_eq hsame]
  have hasked : asked = ((latest (fed [] enabled changes')).rtake limit).filter
      fun e => types.contains e.type := by
    have hevents : unfiltered.buffer.events = (latest (fed [] enabled changes')).rtake limit :=
      events_run _ changes'
    rw [← hevents, Buffer.events, List.filter_map]
    rfl
  refine ⟨?_, ?_, ?_⟩
  · rw [hasked, hkept]
    exact filter_rtake_suffix _ _ limit
  · intro hevicted
    have hle := Buffer.length_le_of_evicted_eq_zero hevicted
    rw [hasked, hkept, rtake_of_length_le hle,
      rtake_of_length_le ((List.length_filter_le _ _).trans hle)]
  · rintro type rfl
    have hsingle : (fun r : Record => [type].contains r.type) = fun r => r.type == type := by
      funext r
      rw [Bool.eq_iff_iff, List.contains_iff_mem, List.mem_singleton, beq_iff_eq]
    change (unfiltered.buffer.filter fun r => [type].contains r.type).map Record.event = _
    rw [hsingle]
    rfl

/-- In a buffer for two, recording all events loses a boxing that recording the boxings
alone keeps; after a clearing nothing is lost and the two agree. -/
theorem filter_agrees_with_query_past_an_eviction :
    let changes : List Change :=
      [.record 1 (.boxed .point), .disable, .record 2 (.boxed .guid), .enable,
       .record 3 (.unboxed .point), .record 4 (.boxed .size)]
    let changes' : List Change :=
      [.record 10 (.boxed .point), .disable, .record 20 (.boxed .guid), .enable,
       .record 30 (.unboxed .point), .record 40 (.boxed .size)]
    let more : List Change := [.clear, .record 50 (.unboxed .rect), .record 60 (.boxed .rect)]
    let boxings := ofConfig ⟨true, 2, .none, ["value-boxed"]⟩
    let all := ofConfig ⟨true, 2, .errorStream, []⟩
    (boxings.run changes).buffer.events = [.boxed .point, .boxed .size] ∧
      ((all.run changes').buffer.filter fun r => ["value-boxed"].contains r.type).map Record.event
        <:+ [.boxed .point, .boxed .size] ∧
      ((all.run (changes' ++ more)).buffer.ofType "value-boxed").map Record.event =
        (boxings.run (changes ++ more)).buffer.events := by
  intro changes changes' more boxings all
  have hne : ["value-boxed"] ≠ [] := by decide
  have hsame : changes'.map Change.untimed = changes.map Change.untimed := by decide
  have hsame' : (changes' ++ more).map Change.untimed = (changes ++ more).map Change.untimed := by
    decide
  have hkept : (boxings.run changes).buffer.events = [.boxed .point, .boxed .size] := by
    decide +kernel
  obtain ⟨suffix, -, -⟩ := filter_agrees_with_query hne 2 true .none .errorStream hsame
  obtain ⟨-, equal, single⟩ := filter_agrees_with_query hne 2 true .none .errorStream hsame'
  rw [hkept] at suffix
  exact ⟨hkept, suffix, (single "value-boxed" rfl).symm.trans (equal (by decide +kernel))⟩

end Tracer
end Trace
end TypedBox
