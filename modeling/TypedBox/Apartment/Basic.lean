import TypedBox.Apartment.Config
import TypedBox.Trace.Tracer
import TypedBox.Value.Retrieval

/-! # Apartments

An apartment is the scope in which values are boxed and retrieved.  It adds
nothing to the values: what its operations answer is what boxing and retrieval
answer without it, save that a refused retrieval is told where it happened.
What it does add is a trace.  Entering, boxing, retrieving and leaving are events
for its tracer; looking at a value or at the trace is not.

The operations take the time at which they happen, and answer with the records
that the tracer echoed.
-/
namespace TypedBox

open Trace (Event Record Stats Tracer)

/-- A scope in which values are boxed and retrieved. -/
structure Apartment where
  /-- The threading model that it was entered with. -/
  kind : Apartment.Kind
  /-- The recorder of what happens in it. -/
  tracer : Tracer
  /-- It has been left. -/
  closed : Bool

namespace Apartment

/-- What an operation did: its answer, the state after it, and the records that were echoed. -/
structure Outcome (σ α : Type) where
  answer : α
  state : σ
  /-- The records echoed, in order. -/
  echo : List Record

/-- The outcome with its answer changed. -/
def Outcome.map {σ α β : Type} (f : α → β) (o : Outcome σ α) : Outcome σ β :=
  ⟨f o.answer, o.state, o.echo⟩

/-- The apartment after an event. -/
def note (a : Apartment) (time : Nat) (e : Event) : Apartment :=
  { a with tracer := a.tracer.record time e }

/-- An operation whose only effect is one event. -/
def noting {α : Type} (a : Apartment) (time : Nat) (e : Event) (answer : α) :
    Outcome Apartment α :=
  ⟨answer, a.note time e, a.tracer.echo time e⟩

/-- An operation that leaves the apartment as it is. -/
def unchanged {α : Type} (a : Apartment) (answer : α) : Outcome Apartment α :=
  ⟨answer, a, []⟩

/-- The apartment that a configuration describes, before anything happened in it. -/
def ofConfig (c : Config) : Apartment := ⟨c.kind, .ofConfig c.tracer, false⟩

/-- Enters an apartment; the entering is its first event. -/
def enter (c : Config) (time : Nat) : Outcome Apartment Unit :=
  (ofConfig c).noting time (.initialized c.kind) ()

/-- Takes a boxed value into the apartment. -/
def box [StoredTypes] (a : Apartment) (time : Nat) (v : Value) : Outcome Apartment Value :=
  a.noting time (.boxed v.shape) v

/-- Takes the outcome of a boxing into the apartment.  A failed one passes through. -/
def boxChecked [StoredTypes] (a : Apartment) (time : Nat) :
    Except Failure Value → Outcome Apartment (Except Failure Value)
  | .ok v => (a.box time v).map .ok
  | .error e => a.unchanged (.error e)

/-- The context of a refused retrieval: the name of the operation for the shape asked for. -/
def retrievalContext (s : Shape) : Failure.Context :=
  Failure.Context.empty.withOperation ("Get" ++ s.name)

/-- Retrieves a value. -/
def unbox [StoredTypes] (a : Apartment) (time : Nat) (v : Value) (t : Target) :
    Outcome Apartment (Except Failure t.Native) :=
  match v.get t with
  | .ok x => a.noting time (.unboxed t.shape) (.ok x)
  | .error e =>
    a.noting time (.rejected t.shape v.shape) (.error (e.withContext (retrievalContext t.shape)))

/-- The shape of a value. -/
def shapeOf [StoredTypes] (_ : Apartment) (v : Value) : Shape := v.shape

/-- Events are being recorded. -/
def isTracing (a : Apartment) : Bool := a.tracer.isEnabled

/-- The latest `n` records, oldest first. -/
def recent (a : Apartment) (n : Nat) : List Record := a.tracer.recent n

/-- A summary of what was recorded. -/
def stats (a : Apartment) : Stats := a.tracer.stats

/-- Leaves the apartment; the leaving is its last event.  Leaving it again does nothing. -/
def close (a : Apartment) (time : Nat) : Outcome Apartment Unit :=
  if a.closed then a.unchanged ()
  else
    { a with closed := true }.noting time (.uninitialized a.tracer.buffer.size) ()

theorem close_of_closed {a : Apartment} (h : a.closed = true) (time : Nat) :
    a.close time = a.unchanged () := by
  simp [close, h]

@[simp] theorem closed_close (a : Apartment) (time : Nat) :
    (a.close time).state.closed = true := by
  unfold close
  split
  next h => exact h
  next => rfl

/-- Leaves the apartment and sums up what was recorded, the leaving included. -/
def uninit (a : Apartment) (time : Nat) : Outcome Apartment Stats :=
  let left := a.close time
  ⟨left.state.stats, left.state, left.echo⟩

def debugText (a : Apartment) : String :=
  Text.someFields "Apartment"
    [("kind", a.kind.debugText),
     ("tracer", Text.fields "RefCell" [("value", a.tracer.debugText)])]

/-- What can be done in an apartment. -/
inductive Call [StoredTypes] where
  | box (v : Value)
  /-- A boxing that may have failed is passed on. -/
  | boxChecked (r : Except Failure Value)
  | unbox (v : Value) (t : Target)
  | shapeOf (v : Value)
  | kind
  | isTracing
  | recent (n : Nat)
  | stats

/-- The apartment after a call. -/
def apply [StoredTypes] (a : Apartment) (time : Nat) : Call → Apartment
  | .box v => (a.box time v).state
  | .boxChecked r => (a.boxChecked time r).state
  | .unbox v t => (a.unbox time v t).state
  | .shapeOf _ | .kind | .isTracing | .recent _ | .stats => a

/-- The apartment after a list of calls, each with its time. -/
def run [StoredTypes] (a : Apartment) (calls : List (Nat × Call)) : Apartment :=
  calls.foldl (fun a c => a.apply c.1 c.2) a

end Apartment
end TypedBox
