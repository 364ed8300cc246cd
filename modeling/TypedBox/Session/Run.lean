import TypedBox.Session.Command

/-! # Running a session

Each command is carried out by what the library offers for it: boxing and
retrieval outside an apartment by the operations on values, inside one through
the guard of the running thread.  The running thread holds at most one guard, so
its apartment is that of guard number zero.
-/
namespace TypedBox

open Trace (Record)
open Apartment (Outcome)

namespace Session

variable [StoredTypes]

/-- The reply to a retrieval. -/
def Reply.ofRetrieval (t : Target) : Except Failure t.Native → Reply
  | .ok x => .retrieved t x
  | .error e => .failed e

/-- A reply without any effect. -/
def reply (s : Session) (r : Reply) : Outcome Session Reply := ⟨r, s, []⟩

/-- A value is stored under a name. -/
def store (s : Session) (name : String) (v : Value) : Outcome Session Reply :=
  (s.putValue name v).reply (.stored v)

/-- The outcome of a boxing is stored under a name, unless it is a failure. -/
def storeChecked (s : Session) (name : String) : Except Failure Value → Outcome Session Reply
  | .ok v => s.store name v
  | .error e => s.reply (.failed e)

/-- What the running thread did, as an outcome of the session. -/
def ofThread {α : Type} (s : Session) (o : Outcome Thread α) (reply : α → Reply) :
    Outcome Session Reply :=
  ⟨reply o.answer, s.setThread o.state, o.echo⟩

/-- Does something in the apartment of the running thread, if it has one. -/
def inApartment {α : Type} (s : Session) (f : Apartment → Outcome Apartment α)
    (reply : α → Reply) : Outcome Session Reply :=
  s.ofThread (s.thread.within 0 f) fun
    | some x => reply x
    | none => .noApartment

/-- Does something with a named value in the apartment.  Without an apartment the name is not
looked up, so it needs no meaning then. -/
def withValue {α : Type} (s : Session) (name : String)
    (f : Value → Apartment → Outcome Apartment α) (reply : α → Reply) :
    Option (Outcome Session Reply) := do
  if s.apartment?.isNone then return s.reply .noApartment
  let v ← s.values name
  return s.inApartment (f v) reply

/-- Boxes a specification in the apartment so many times, adding to what was echoed before. -/
def boxTimes (time : Nat) (spec : ValueSpec) : (count : Nat) →
    Session → Apartment → Array Record → Option (Session × Apartment × Array Record)
  | 0, s, a, echo => some (s, a, echo)
  | count + 1, s, a, echo => do
    let (r, s) ← s.build spec
    let done := a.boxChecked time r
    boxTimes time spec count s done.state (echo ++ done.echo)

/-- Boxes a specification in the apartment and stores the value. -/
def box (s : Session) (time : Nat) (name : String) (spec : ValueSpec) :
    Option (Outcome Session Reply) := do
  if s.apartment?.isNone then return s.reply .noApartment
  let (r, s) ← s.build spec
  let stored := match r with
    | .ok v => s.putValue name v
    | .error _ => s
  return stored.inApartment (fun a => a.boxChecked time r) fun
    | .ok v => .stored v
    | .error e => .failed e

/-- Boxes a specification many times in the apartment. -/
def boxMany (s : Session) (time count : Nat) (spec : ValueSpec) :
    Option (Outcome Session Reply) :=
  match s.apartment? with
  | none => some (s.reply .noApartment)
  | some a => do
    let (s, a, echo) ← boxTimes time spec count s a #[]
    return s.inApartment (fun _ => ⟨a.stats, a, echo.toList⟩) .boxedMany

/-- Looks into an object: a value in it is stored, and so is an object in it, boxed. -/
def lookInto (s : Session) (o : Object) (name : String) : Outcome Session Reply :=
  match o.downcast? .value, o.downcast? .object with
  | some v, _ => s.store name v
  | none, some inner => s.store name (.object inner)
  | none, none => s.reply (.closed o)

/-- Starts a thread, which runs until it is joined. -/
def spawn (s : Session) : Session :=
  { s with spawned := s.spawned + 1, running := s.spawned :: s.running }

/-- Ends the running thread: its apartment is dropped, and the thread that waits goes on. -/
def join (s : Session) (time : Nat) : Outcome Session Reply :=
  let dropped := s.ofThread (s.thread.drop 0 time) fun _ => .done
  { dropped with state := { dropped.state with running := s.running.tail } }

/-- The outcome of a command at a time; there is none if it has to look up a name without
meaning. -/
def step (s : Session) (time : Nat) : Command → Option (Outcome Session Reply)
  | .init config => some <| s.ofThread (s.thread.init config time) fun
    | .ok () => .entered config.kind config.tracer.enabled
    | .error e => .failed e
  | .isInitialized => some (s.reply (.live s.thread.isInitialized))
  | .uninit =>
    let o := s.thread.uninit 0 time
    some <| s.ofThread o fun
      | some stats => .left stats o.state.isInitialized
      | none => .noApartment
  | .drop =>
    let o := s.thread.drop 0 time
    some <| s.ofThread o fun _ => .live o.state.isInitialized
  | .create name spec => do
    let (r, s) ← s.build spec
    return s.storeChecked name r
  | .box name spec => s.box time name spec
  | .boxMany count spec => s.boxMany time count spec
  | .clone name source => do return s.store name (← s.values source)
  | .shapeOf name => s.withValue name (fun v a => a.unchanged (a.shapeOf v)) .shape
  | .unbox name target =>
    s.withValue name (fun v a => a.unbox time v target) (.ofRetrieval target)
  | .get name target route => do
    let v ← s.values name
    return s.reply (.ofRetrieval target (v.getBy target route))
  | .inspect name => do return s.reply (.value (← s.values name))
  | .compare a b => do
    let va ← s.values a
    let vb ← s.values b
    return s.reply (.comparison (va.comparison address vb))
  | .share name spec => do
    let c ← s.content? spec
    let (a, s) := s.newShared c
    return (s.putShared name a).reply (.sharedNumber name)
  | .makeObject name spec => do
    let (o, s) ← s.buildObject spec
    return (s.putObject name o).reply (.madeObject o)
  | .takeObject name source => do
    match (← s.values source).getObject with
    | .ok o => return (s.putObject name o).reply (.takenObject o)
    | .error e => return s.reply (.failed e)
  | .lookInto object name => do return s.lookInto (← s.objects object) name
  | .compareObjects a b => do
    let oa ← s.objects a
    let ob ← s.objects b
    return s.reply (.objectComparison (oa.same ob) (oa == ob)
      (oa.hashBytes address == ob.hashBytes address))
  | .holds object type => do
    let o ← s.objects object
    return s.reply (.holds (o.is type) (o.downcast? type).isSome)
  | .wrap name source count => do
    let v ← s.values source
    let wrapped := v.wrappedTimes s.allocated count
    return { s with allocated := s.allocated + count }.store name wrapped
  | .unwrap name source => do
    let (depth, v) := (← s.values source).unwrapped
    return (s.putValue name v).reply (.unwrapped depth v)
  | .recent count => some (s.inApartment (fun a => a.unchanged (a.recent count)) .recent)
  | .stats =>
    some (s.inApartment (fun a => a.unchanged (a.stats, a.isTracing)) fun x => .stats x.1 x.2)
  | .describe => some (s.inApartment (fun a => a.unchanged a.debugText) .text)
  | .spawn => some (s.spawn.reply .done)
  | .join => some (s.join time)

/-- The session after a list of commands, each with its time; there is none if one of them has
to look up a name without meaning. -/
def run (s : Session) : List (Nat × Command) → Option Session
  | [] => some s
  | (time, c) :: rest => do
    let o ← s.step time c
    run o.state rest

end Session
end TypedBox
