import TypedBox.Session.Run

/-! # Handles and their flow

A client keeps values, objects and shared contents under names, its *places*.  At each
place there is a chain of handles: the outermost one, the one inside its contents, and so
on (`Session.handles`).  A chain is made in one way only: new objects are put around a
chain that was there before, from which some of the outer handles may have been taken off.
`Command.flow?` says which one this is for every command that stores something.

A client has handles because it was given them.  What it makes up itself (`isPlain`) has
none in it.
-/
namespace TypedBox

variable [StoredTypes]

mutual

/-- The handles in a value, from the outside inwards. -/
def Value.handles : Value → List Object
  | .object o => o.handles
  | _ => []

/-- A handle, and those in what it refers to. -/
def Object.handles : Object → List Object
  | .mk a c name => .mk a c name :: c.handles

/-- The handles in contents, from the outside inwards. -/
def Content.handles : Content → List Object
  | .data _ _ => []
  | .object o => o.handles
  | .value v => v.handles

end

/-- The chain of a handle starts with the handle. -/
theorem Object.handles_eq_cons (o : Object) : o.handles = o :: o.content.handles := by
  cases o
  rfl

namespace Value

/-- A value that is no object has no handles. -/
theorem handles_of_shape_ne {v : Value} (h : v.shape ≠ .object) : v.handles = [] := by
  cases v with
  | object o => exact absurd rfl h
  | _ => rfl

/-- A boxed integer is no object. -/
theorem shape_ne_object_of_ofInt_eq_ok {k : IntegerShape} {n : Int} {v : Value}
    (h : ofInt k n = .ok v) : v.shape ≠ .object := by
  unfold ofInt at h
  split at h
  · cases h
    rw [shape_ofNative]
    cases k <;> decide
  · cases h

/-- Unwrapping takes off as many handles as it counts. -/
theorem handles_unwrapped (v : Value) : v.unwrapped.2.handles = v.handles.drop v.unwrapped.1 := by
  fun_induction Value.unwrapped v with
  | case1 a v name inner ih => exact ih
  | case2 v h => rfl

/-- The last one of several wrappings goes around all others. -/
theorem wrappedTimes_succ (first count : Nat) (v : Value) :
    v.wrappedTimes first (count + 1) = (v.wrappedTimes first count).wrapped (first + count) := by
  induction count generalizing first v with
  | zero => rfl
  | succ count ih =>
    rw [wrappedTimes, ih, ← Nat.add_assoc, Nat.add_right_comm]
    rfl

/-- The contents of the objects in which a value is wrapped, from the outside inwards. -/
def wrappings (first : Nat) : (count : Nat) → Value → List Content
  | 0, _ => []
  | count + 1, v => .value (v.wrappedTimes first count) :: wrappings first count v

@[simp] theorem length_wrappings (first count : Nat) (v : Value) :
    (v.wrappings first count).length = count := by
  induction count with
  | zero => rfl
  | succ count ih => rw [wrappings, List.length_cons, ih]

end Value

namespace Session

/-- Where a client keeps handles. -/
inductive Place where
  | value (name : String)
  | object (name : String)
  | shared (name : String)
  deriving DecidableEq

/-- The handles at a place, from the outside inwards; none, where there is nothing.  Shared
contents count as the handle that is made to them. -/
def handles (s : Session) : Place → List Object
  | .value name => (s.values name).elim [] Value.handles
  | .object name => (s.objects name).elim [] Object.handles
  | .shared name => (s.shared name).elim [] fun a => (Object.ofShared a).handles

/-! ## Flows -/

/-- How the chain at a place is put together. -/
structure Flow where
  target : Place
  /-- The contents of the new objects, from the outside inwards. -/
  made : List Content
  /-- Where the rest of the chain is taken from. -/
  source : Option Place
  /-- How many handles are taken off there, from the outside. -/
  opened : Nat

/-- One layer for the contents of every new object, told how many come further in. -/
def layers {α : Type} (layer : Nat → Content → α) : List Content → List α
  | [] => []
  | c :: inner => layer inner.length c :: layers layer inner

/-- The chains after a flow, if there is one. -/
def Flow.carry {α : Type} (layer : Nat → Content → α) (chains : Place → List α) :
    Option Flow → Place → List α
  | none => chains
  | some f => fun p =>
    if p = f.target then layers layer f.made ++ (f.source.elim [] chains).drop f.opened
    else chains p

/-- The contents of the new objects of a flow, if there is one. -/
def Flow.contents (flow : Option Flow) : List Content := flow.elim [] made

/-- A flow changes nothing but its target. -/
theorem Flow.carry_of_ne {α : Type} {layer : Nat → Content → α} {chains : Place → List α}
    {f : Flow} {p : Place} (h : p ≠ f.target) : carry layer chains (some f) p = chains p :=
  if_neg h

/-! ## What is stored where -/

/-- The flow of described contents that get a new allocation for a place. -/
def ContentSpec.flow (s : Session) (target : Place) : ContentSpec → Flow
  | .given c => ⟨target, [c], none, 0⟩
  | .object name => ⟨target, ((s.objects name).map Content.object).toList, some (.object name), 0⟩
  | .value name => ⟨target, ((s.values name).map Content.value).toList, some (.value name), 0⟩

/-- The flow of an object that is built for a place. -/
def ObjectSpec.flow (s : Session) (target : Place) : ObjectSpec → Flow
  | .ofContent spec => spec.flow s target
  | .handle name => ⟨target, [], some (.object name), 0⟩
  | .shared name => ⟨target, [], some (.shared name), 0⟩

/-- The flow of a value that is boxed for a place.  What is no object has no handles. -/
def ValueSpec.flow (s : Session) (target : Place) : ValueSpec → Flow
  | .object spec => spec.flow s target
  | .stored name => ⟨target, [], some (.value name), 0⟩
  | .integer .. | .character _ | .rounded _ | .native _ => ⟨target, [], none, 0⟩

@[simp] theorem ContentSpec.target_flow (s : Session) (target : Place) (spec : ContentSpec) :
    (spec.flow s target).target = target := by
  cases spec <;> rfl

@[simp] theorem ObjectSpec.target_flow (s : Session) (target : Place) (spec : ObjectSpec) :
    (spec.flow s target).target = target := by
  cases spec with
  | ofContent spec => exact spec.target_flow s target
  | _ => rfl

@[simp] theorem ValueSpec.target_flow (s : Session) (target : Place) (spec : ValueSpec) :
    (spec.flow s target).target = target := by
  cases spec with
  | object spec => exact spec.target_flow s target
  | _ => rfl

/-- The flow of boxing something for a place, unless boxing fails. -/
def ValueSpec.flow? (s : Session) (target : Place) (spec : ValueSpec) : Option Flow :=
  match s.build spec with
  | some (.ok _, _) => some (spec.flow s target)
  | _ => none

/-- The flow of a command, if it stores anything. -/
def Command.flow? (s : Session) : Command → Option Flow
  | .create name spec => spec.flow? s (.value name)
  | .box name spec => if s.apartment?.isNone then none else spec.flow? s (.value name)
  | .clone name source => some ⟨.value name, [], some (.value source), 0⟩
  | .share name spec => some (spec.flow s (.shared name))
  | .makeObject name spec => some (spec.flow s (.object name))
  | .takeObject name source =>
    match s.values source with
    | some (.object _) => some ⟨.object name, [], some (.value source), 0⟩
    | _ => none
  | .lookInto object name =>
    match s.objects object with
    | some (.mk _ (.object _) _) | some (.mk _ (.value _) _) =>
      some ⟨.value name, [], some (.object object), 1⟩
    | _ => none
  | .wrap name source count =>
    (s.values source).map fun v =>
      ⟨.value name, v.wrappings s.allocated count, some (.value source), 0⟩
  | .unwrap name source =>
    (s.values source).map fun v => ⟨.value name, [], some (.value source), v.unwrapped.1⟩
  | _ => none

/-- A client cannot make up a handle: contents that it gives itself have none. -/
def ContentSpec.isPlain : ContentSpec → Bool
  | .given c => c.handles.isEmpty
  | _ => true

/-- A client cannot make up a handle: new objects get plain contents. -/
def ObjectSpec.isPlain : ObjectSpec → Bool
  | .ofContent spec => spec.isPlain
  | _ => true

/-- A client cannot make up a handle: values that it gives itself have none. -/
def ValueSpec.isPlain : ValueSpec → Bool
  | .native v => v.handles.isEmpty
  | .object spec => spec.isPlain
  | _ => true

/-- A client cannot make up a handle that is to be stored. -/
def Command.isPlain : Command → Bool
  | .create _ spec | .box _ spec => spec.isPlain
  | .share _ spec => spec.isPlain
  | .makeObject _ spec => spec.isPlain
  | _ => true

end Session
end TypedBox
