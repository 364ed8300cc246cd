import TypedBox.Apartment.Basic
import TypedBox.Proofs.TracedLog
import TypedBox.Proofs.Unboxing

/-! # The log of an apartment

What is done in an apartment is logged: that it was entered, each boxing that
succeeds, each retrieval with its outcome, that it was left.  `Call.event?` says
for every call which event it is, if any.  It looks at shapes only, not at what
the call answers; that the call traces just this event is the one thing proved
about each of them (`apply_of_event?_eq_some`, `apply_of_event?_eq_none`).  The
rest follows from what a tracer keeps of its log.
-/
namespace TypedBox

open Trace (Event Record Timed)

namespace Apartment

/-! ## The event of a call -/

section Calls

variable [StoredTypes]

/-- The event of a retrieval. -/
def retrievalEvent (v : Value) (t : Target) : Event :=
  if v.shape = t.shape then .unboxed t.shape else .rejected t.shape v.shape

/-- The event of a call.  A boxing that failed before is none, nor is it one to
look at a value, at the apartment or at its trace. -/
def Call.event? : Call → Option Event
  | .box v => some (.boxed v.shape)
  | .boxChecked (.ok v) => some (.boxed v.shape)
  | .boxChecked (.error _) => none
  | .unbox v t => some (retrievalEvent v t)
  | .shapeOf _ | .kind | .isTracing | .recent _ | .stats => none

variable {a : Apartment}

/-- A retrieval, whether it succeeds or not, traces its event. -/
theorem state_unbox (a : Apartment) (time : Nat) (v : Value) (t : Target) :
    (a.unbox time v t).state = a.note time (retrievalEvent v t) := by
  unfold unbox retrievalEvent
  by_cases hs : v.shape = t.shape
  · obtain ⟨x, hx⟩ := Value.get_isOk_iff.mpr hs
    rw [hx, if_pos hs]
    rfl
  · rw [Value.get_of_shape_ne hs, if_neg hs]
    rfl

theorem apply_of_event?_eq_some {call : Call} {e : Event} (h : call.event? = some e)
    (time : Nat) : a.apply time call = a.note time e := by
  cases call with
  | box v =>
    obtain rfl := Option.some.inj h
    rfl
  | boxChecked r =>
    cases r with
    | ok v =>
      obtain rfl := Option.some.inj h
      rfl
    | error f => cases h
  | unbox v t =>
    obtain rfl := Option.some.inj h
    exact state_unbox a time v t
  | shapeOf | kind | isTracing | recent | stats => cases h

theorem apply_of_event?_eq_none {call : Call} (h : call.event? = none) (time : Nat) :
    a.apply time call = a := by
  cases call with
  | box | unbox => cases h
  | boxChecked r =>
    cases r with
    | ok v => cases h
    | error f => rfl
  | shapeOf | kind | isTracing | recent | stats => rfl

/-- No call leaves the apartment. -/
theorem closed_apply (a : Apartment) (time : Nat) (call : Call) :
    (a.apply time call).closed = a.closed := by
  cases h : call.event? with
  | none => rw [apply_of_event?_eq_none h]
  | some e => rw [apply_of_event?_eq_some h]; rfl

end Calls

/-! ## The log of an apartment -/

/-- The apartment was entered with the configuration, and its tracer has followed
the log. -/
structure Follows (a : Apartment) (c : Config) (log : List Timed) : Prop where
  kind : a.kind = c.kind
  tracer : a.tracer.Follows c.tracer log

variable {a : Apartment} {c : Config} {log : List Timed}

theorem Follows.note (h : a.Follows c log) (time : Nat) (e : Event) :
    (a.note time e).Follows c (log ++ [(time, e)]) where
  kind := h.kind
  tracer := h.tracer.record time e

/-- Entering is the first event. -/
theorem follows_enter (c : Config) (time : Nat) :
    (enter c time).state.Follows c [(time, .initialized c.kind)] := by
  have h : (ofConfig c).Follows c [] := ⟨rfl, Trace.Tracer.follows_ofConfig c.tracer⟩
  exact h.note time (.initialized c.kind)

/-- The events of a call at a time: one or none. -/
def Call.timed [StoredTypes] (time : Nat) (call : Call) : List Timed :=
  (call.event?.map fun e => (time, e)).toList

/-- A call adds its event to the log. -/
theorem Follows.apply [StoredTypes] (h : a.Follows c log) (time : Nat) (call : Call) :
    (a.apply time call).Follows c (log ++ call.timed time) := by
  cases he : call.event? with
  | none =>
    rw [apply_of_event?_eq_none he, Call.timed, he]
    simpa using h
  | some e =>
    rw [apply_of_event?_eq_some he, Call.timed, he]
    exact h.note time e

theorem close_of_open (hopen : a.closed = false) (time : Nat) :
    a.close time =
      { a with closed := true }.noting time (.uninitialized a.tracer.buffer.size) () := by
  simp [Apartment.close, hopen]

/-- Leaving is the last event, and tells the number of records that are kept. -/
theorem Follows.close (h : a.Follows c log) (hopen : a.closed = false) (time : Nat) :
    (a.close time).state.Follows c (log ++ [(time, .uninitialized a.tracer.buffer.size)]) := by
  rw [close_of_open hopen]
  exact ⟨h.kind, h.tracer.record time _⟩

end Apartment
end TypedBox
