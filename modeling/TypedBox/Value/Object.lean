import TypedBox.Value.Basic

/-! # Objects

An object is identified by its allocation.  Its contents are never copied: all
handles to an allocation see what was stored there when it was made, and can
get at it only as the type it was stored as.

A handle is made from shared contents (`Object.ofShared`), and this is when the
name of their type is recorded.  From then on the name goes with the handle; it
is shown, but plays no part in getting at the contents.
-/
namespace TypedBox

variable [StoredTypes]

/-- The contents of a type. -/
@[reducible] def StoredType.Carrier : StoredType → Type
  | .data t => StoredTypes.Carrier t
  | .object => Object
  | .value => Value

namespace Content

/-- The type of some contents. -/
def type : Content → StoredType
  | data t _ => .data t
  | object _ => .object
  | value _ => .value

/-- What was stored. -/
def carried : (c : Content) → c.type.Carrier
  | data _ x => x
  | object o => o
  | value v => v

end Content

/-- Contents with the allocation at which all their handles see them. -/
structure Shared where
  /-- The allocation. -/
  allocation : Nat
  /-- What is stored there. -/
  content : Content

namespace Object

/-- A handle to shared contents.  It has the name of their type on record. -/
def ofShared (a : Shared) : Object :=
  .mk a.allocation a.content (StoredTypes.name a.content.type)

@[simp] theorem content_ofShared (a : Shared) : (ofShared a).content = a.content := rfl

/-- The type of what the object holds. -/
def type (o : Object) : StoredType := o.content.type

/-- The object holds contents of the given type. -/
def is (o : Object) (t : StoredType) : Bool := o.type == t

/-- What the object holds, if it is of the given type. -/
def downcast? (o : Object) (t : StoredType) : Option (StoredType.Carrier t) :=
  if h : o.content.type = t then some (h ▸ o.content.carried) else none

/-- Both handles refer to one allocation. -/
def same (a b : Object) : Bool := a.allocation == b.allocation

instance : BEq Object := ⟨same⟩

/-- The bytes of an object are those of its address. -/
def hashBytes (address : Nat → UInt64) (o : Object) : List UInt8 :=
  Bytes.littleEndian 8 (address o.allocation).toNat

/-- How an object is displayed: by the name on record. -/
def displayText (o : Object) : String :=
  "<object " ++ o.typeName ++ ">"

/-- An object with its address, in a form of the caller's choice. -/
def debugText (address : Nat → String) (o : Object) : String :=
  "<object " ++ o.typeName ++ " @" ++ address o.allocation ++ ">"

end Object

/-! ## Values inside objects

An object may hold a boxed value, and that value may be an object again.
Wrapping puts a value into a new object; unwrapping goes down to the innermost
value.
-/

namespace Value

/-- The value put into a new object at the given allocation, and that object boxed. -/
def wrapped (allocation : Nat) (v : Value) : Value :=
  object (.ofShared ⟨allocation, .value v⟩)

/-- The value wrapped so many times, in new objects at the allocations from `first` on. -/
def wrappedTimes (first : Nat) : (count : Nat) → Value → Value
  | 0, v => v
  | count + 1, v => wrappedTimes (first + 1) count (v.wrapped first)

/-- How often the value is wrapped, and the innermost value. -/
def unwrapped : Value → Nat × Value
  | object (.mk _ (.value v) _) =>
    let inner := v.unwrapped
    (inner.1 + 1, inner.2)
  | v => (0, v)

theorem unwrapped_wrapped (allocation : Nat) (v : Value) :
    (v.wrapped allocation).unwrapped = (v.unwrapped.1 + 1, v.unwrapped.2) := by
  rw [wrapped, Object.ofShared, unwrapped]

end Value
end TypedBox
