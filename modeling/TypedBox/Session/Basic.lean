import TypedBox.Apartment.Thread
import TypedBox.Value.Boxing
import TypedBox.Value.PlainData

/-! # The state of a session

A session is a client of boxing: it keeps values and objects under names, and
runs on threads that enter and leave apartments.  Threads are started one inside
the other and share the names; each has its own apartment.

What a client wants boxed is described by a *specification*.  Building it may
make new objects, each at an allocation of its own, and may fail as boxing does.
A specification that refers to a name without meaning cannot be built at all.

A new object is a handle to shared contents at a new allocation.  A client can
also keep shared contents as such, and make handles to them whenever it likes.
-/
namespace TypedBox

/-! ## Names

A table of names gives each name at most one meaning.  A name may be given a new
meaning; the others keep theirs.
-/

namespace Session

/-- What names stand for. -/
abbrev Names (α : Type) := String → Option α

namespace Names

variable {α : Type}

/-- No name stands for anything. -/
def empty : Names α := fun _ => none

/-- The table in which `name` stands for `x`. -/
def put (names : Names α) (name : String) (x : α) : Names α :=
  fun other => if other = name then some x else names other

@[simp] theorem put_self (names : Names α) (name : String) (x : α) :
    names.put name x name = some x := by
  simp [put]

@[simp] theorem put_of_ne (names : Names α) {name other : String} (x : α) (h : other ≠ name) :
    names.put name x other = names other := by
  simp [put, h]

end Names
end Session

/-! ## Clients -/

variable [StoredTypes]

/-- What a client keeps between its commands. -/
structure Session where
  /-- The values that were given names. -/
  values : Session.Names Value
  /-- The objects that were given names. -/
  objects : Session.Names Object
  /-- The shared contents that were given names. -/
  shared : Session.Names Shared
  /-- The number of allocations made, which is the number of the next one. -/
  allocated : Nat
  threads : Threads
  /-- The number of threads started, which is the number of the next one. -/
  spawned : Nat
  /-- The running thread, and the ones that wait for it. -/
  running : List Nat

namespace Session

/-- A client that did nothing yet, on its first thread. -/
def start : Session := ⟨.empty, .empty, .empty, 0, .fresh, 1, [0]⟩

/-- What the contents at a new allocation are. -/
inductive ContentSpec where
  | given (content : Content)
  /-- A handle to the named object. -/
  | object (name : String)
  /-- The named value. -/
  | value (name : String)

instance : Coe Content ContentSpec := ⟨.given⟩

/-- What an object is. -/
inductive ObjectSpec where
  /-- A new object with contents of its own. -/
  | ofContent (spec : ContentSpec)
  /-- The named object itself. -/
  | handle (name : String)
  /-- A new handle to the named shared contents. -/
  | shared (name : String)

namespace ObjectSpec

/-- A new object with the given contents. -/
abbrev new (content : Content) : ObjectSpec := ofContent (.given content)

/-- A new object that holds a handle to the named object. -/
abbrev aroundObject (name : String) : ObjectSpec := ofContent (.object name)

/-- A new object that holds the named value. -/
abbrev aroundValue (name : String) : ObjectSpec := ofContent (.value name)

end ObjectSpec

/-- What is to be boxed. -/
inductive ValueSpec where
  /-- An integer of any size, if it fits the shape. -/
  | integer (shape : IntegerShape) (n : Int)
  /-- A character, if one code unit is enough for it. -/
  | character (c : Char)
  /-- A double precision number, rounded to single precision. -/
  | rounded (x : Double)
  | native (v : Value)
  | object (spec : ObjectSpec)
  | stored (name : String)

/-- The session after a new allocation was made. -/
def allocate (s : Session) : Session := { s with allocated := s.allocated + 1 }

/-- The given contents at a new allocation. -/
def newShared (s : Session) (c : Content) : Shared × Session :=
  (⟨s.allocated, c⟩, s.allocate)

/-- A new object with the given contents. -/
def newObject (s : Session) (c : Content) : Object × Session :=
  let (a, s) := s.newShared c
  (.ofShared a, s)

/-- The contents that a specification describes. -/
def content? (s : Session) : ContentSpec → Option Content
  | .given c => some c
  | .object name => do
    let o ← s.objects name
    return .object o
  | .value name => do
    let v ← s.values name
    return .value v

/-- The object that a specification describes. -/
def buildObject (s : Session) : ObjectSpec → Option (Object × Session)
  | .ofContent spec => do
    let c ← s.content? spec
    return s.newObject c
  | .handle name => do
    let o ← s.objects name
    return (o, s)
  | .shared name => do
    let a ← s.shared name
    return (.ofShared a, s)

/-- The outcome of boxing what a specification describes. -/
def build (s : Session) : ValueSpec → Option (Except Failure Value × Session)
  | .integer k n => some (Value.ofInt k n, s)
  | .character c => some (Value.ofChar c, s)
  | .rounded x => some (.ok (Value.singleOfDouble x), s)
  | .native v => some (.ok v, s)
  | .object spec => do
    let (o, s) ← s.buildObject spec
    return (.ok (.object o), s)
  | .stored name => do
    let v ← s.values name
    return (.ok v, s)

/-- The outcomes of boxing what several specifications describe, up to the first failure. -/
def buildAll (s : Session) : List ValueSpec → Option (Except Failure (List Value) × Session)
  | [] => some (.ok [], s)
  | spec :: rest => do
    match ← s.build spec with
    | (.error e, s) => return (.error e, s)
    | (.ok v, s) =>
      let (vs, s) ← buildAll s rest
      return (vs.map (v :: ·), s)

/-- Where allocations lie in memory: in the order in which they were made. -/
def address (allocation : Nat) : UInt64 := UInt64.ofNat allocation

/-- The number of the running thread. -/
def current (s : Session) : Nat := s.running.headD 0

/-- The running thread. -/
def thread (s : Session) : Thread := s.threads s.current

/-- The session with a new state of the running thread. -/
def setThread (s : Session) (t : Thread) : Session :=
  { s with threads := s.threads.set s.current t }

/-- The apartment of the running thread. -/
def apartment? (s : Session) : Option Apartment := s.thread.guards[0]?

/-- The session with a value under a name. -/
def putValue (s : Session) (name : String) (v : Value) : Session :=
  { s with values := s.values.put name v }

/-- The session with an object under a name. -/
def putObject (s : Session) (name : String) (o : Object) : Session :=
  { s with objects := s.objects.put name o }

/-- The session with shared contents under a name. -/
def putShared (s : Session) (name : String) (a : Shared) : Session :=
  { s with shared := s.shared.put name a }

end Session
end TypedBox
