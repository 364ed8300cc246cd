import TypedBox.Value.Identity

/-! # Retrieval

A boxed value is retrieved as a *target*: one of the nineteen native types, or a
text that is shared instead of copied.  Retrieval succeeds exactly when the value
has the shape of the target, and then gives back the native value as it was
boxed; it never converts.  A refused retrieval names both shapes.

Besides the retrieval that takes the target as an argument (`Value.get`) there is
one operation per target, and a conversion that starts from the target.
-/
namespace TypedBox

/-- What a boxed value can be retrieved as. -/
inductive Target where
  /-- The native type of a shape. -/
  | native (s : Shape)
  /-- A text that is shared with the value. -/
  | sharedText
  deriving DecidableEq

namespace Target

/-- Every target. -/
def all : List Target := Shape.all.map native ++ [sharedText]

/-- The shape that a value must have to be retrieved as the target. -/
def shape : Target → Shape
  | native s => s
  | sharedText => .string

variable [StoredTypes]

/-- The type of what is retrieved. -/
@[reducible] def Native (t : Target) : Type := t.shape.Native

/-- Boxes a native value of the target's type. -/
def box (t : Target) (x : t.Native) : Value := Value.ofNative t.shape x

end Target

namespace Value

variable [StoredTypes]

/-- The native value, if the value has the given shape. -/
def as? (v : Value) (s : Shape) : Option s.Native :=
  if h : v.shape = s then some (h ▸ v.native) else none

/-- The failure of a retrieval as shape `expected`. -/
def mismatch (v : Value) (expected : Shape) : Failure :=
  .mismatch expected v.shape

/-- Retrieves the native value of a target. -/
def get (v : Value) (t : Target) : Except Failure t.Native :=
  match v.as? t.shape with
  | some x => .ok x
  | none => .error (v.mismatch t.shape)

/-- Retrieves an unsigned integer of 8 bits. -/
def getUInt8 : Value → Except Failure UInt8
  | uint8 n => .ok n
  | v => .error (v.mismatch .uint8)

/-- Retrieves a signed integer of 16 bits. -/
def getInt16 : Value → Except Failure Int16
  | int16 n => .ok n
  | v => .error (v.mismatch .int16)

/-- Retrieves an unsigned integer of 16 bits. -/
def getUInt16 : Value → Except Failure UInt16
  | uint16 n => .ok n
  | v => .error (v.mismatch .uint16)

/-- Retrieves a signed integer of 32 bits. -/
def getInt32 : Value → Except Failure Int32
  | int32 n => .ok n
  | v => .error (v.mismatch .int32)

/-- Retrieves an unsigned integer of 32 bits. -/
def getUInt32 : Value → Except Failure UInt32
  | uint32 n => .ok n
  | v => .error (v.mismatch .uint32)

/-- Retrieves a signed integer of 64 bits. -/
def getInt64 : Value → Except Failure Int64
  | int64 n => .ok n
  | v => .error (v.mismatch .int64)

/-- Retrieves an unsigned integer of 64 bits. -/
def getUInt64 : Value → Except Failure UInt64
  | uint64 n => .ok n
  | v => .error (v.mismatch .uint64)

/-- Retrieves a single precision number. -/
def getSingle : Value → Except Failure Single
  | single x => .ok x
  | v => .error (v.mismatch .single)

/-- Retrieves a double precision number. -/
def getDouble : Value → Except Failure Double
  | double x => .ok x
  | v => .error (v.mismatch .double)

/-- Retrieves a code unit as a number. -/
def getChar16 : Value → Except Failure UInt16
  | char16 c => .ok c.unit
  | v => .error (v.mismatch .char16)

/-- Retrieves a truth value. -/
def getBoolean : Value → Except Failure Bool
  | boolean b => .ok b
  | v => .error (v.mismatch .boolean)

/-- Retrieves a text. -/
def getString : Value → Except Failure String
  | string s => .ok s
  | v => .error (v.mismatch .string)

/-- Retrieves a text without copying it. -/
def getSharedText (v : Value) : Except Failure String :=
  v.get .sharedText

/-- Retrieves a handle to an object. -/
def getObject : Value → Except Failure Object
  | object o => .ok o
  | v => .error (v.mismatch .object)

/-- Retrieves an instant. -/
def getDateTime : Value → Except Failure DateTime
  | dateTime d => .ok d
  | v => .error (v.mismatch .dateTime)

/-- Retrieves the length of an interval. -/
def getTimeSpan : Value → Except Failure TimeSpan
  | timeSpan t => .ok t
  | v => .error (v.mismatch .timeSpan)

/-- Retrieves a globally unique identifier. -/
def getGuid : Value → Except Failure Guid
  | guid g => .ok g
  | v => .error (v.mismatch .guid)

/-- Retrieves a point. -/
def getPoint : Value → Except Failure Point
  | point p => .ok p
  | v => .error (v.mismatch .point)

/-- Retrieves a size. -/
def getSize : Value → Except Failure Size
  | size s => .ok s
  | v => .error (v.mismatch .size)

/-- Retrieves a rectangle. -/
def getRect : Value → Except Failure Rect
  | rect r => .ok r
  | v => .error (v.mismatch .rect)

/-- The operation named for a target.  The one for code units gives a number, which is read as a
code unit here. -/
def getNamed (v : Value) : (t : Target) → Except Failure t.Native
  | .native .uint8 => v.getUInt8
  | .native .int16 => v.getInt16
  | .native .uint16 => v.getUInt16
  | .native .int32 => v.getInt32
  | .native .uint32 => v.getUInt32
  | .native .int64 => v.getInt64
  | .native .uint64 => v.getUInt64
  | .native .single => v.getSingle
  | .native .double => v.getDouble
  | .native .char16 => v.getChar16.map Char16.mk
  | .native .boolean => v.getBoolean
  | .native .string => v.getString
  | .native .object => v.getObject
  | .native .dateTime => v.getDateTime
  | .native .timeSpan => v.getTimeSpan
  | .native .guid => v.getGuid
  | .native .point => v.getPoint
  | .native .size => v.getSize
  | .native .rect => v.getRect
  | .sharedText => v.getSharedText

end Value

/-- Converts a boxed value to a target, starting from the target. -/
def Target.convert [StoredTypes] (t : Target) (v : Value) : Except Failure t.Native :=
  v.get t

/-- The ways to retrieve a target. -/
inductive Route where
  /-- The operation named for the target. -/
  | named
  /-- The operation that takes the target as an argument. -/
  | generic
  /-- The conversion that starts from the target. -/
  | conversion
  deriving DecidableEq

variable [StoredTypes]

/-- Retrieves a target by one of the ways. -/
def Value.getBy (v : Value) (t : Target) : Route → Except Failure t.Native
  | .named => v.getNamed t
  | .generic => v.get t
  | .conversion => t.convert v

/-- Two retrievals of a target had the same outcome: values that are equal when boxed again, or
the same failure. -/
def Target.sameOutcome (t : Target) : Except Failure t.Native → Except Failure t.Native → Bool
  | .ok x, .ok y => t.box x == t.box y
  | .error e, .error e' => e == e'
  | _, _ => false

/-- All ways to retrieve a target from the value have the same outcome. -/
def Value.routesAgree (v : Value) (t : Target) : Bool :=
  [Route.generic, .conversion].all fun r => t.sameOutcome (v.getNamed t) (v.getBy t r)

end TypedBox
