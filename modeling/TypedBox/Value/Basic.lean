import TypedBox.Native.Char16
import TypedBox.Native.Geometry
import TypedBox.Native.Guid
import TypedBox.Native.Time

/-! # Boxed values

A boxed value is a native value together with its shape.  There is one
constructor for every shape, so a value cannot disagree with its shape.

Among the native values are *objects*: handles to shared contents.  A handle
knows the allocation that it refers to and what is stored there, and it has on
record the name of the type that it was made for; handles to one allocation are
the same object.

The contents of an object may be another object, a boxed value, or data of any
type that a client has, which is not looked into.  Which types of data there are,
and what all types are called, is for the client to say (`StoredTypes`).
-/
namespace TypedBox

/-- What tells a type of contents from all others, where `Data` does so for the types of data. -/
inductive TypeKey (Data : Type) where
  /-- A type of data. -/
  | data (t : Data)
  /-- The type of objects. -/
  | object
  /-- The type of boxed values. -/
  | value
  deriving DecidableEq

/-- The types that the contents of objects can be of. -/
class StoredTypes where
  /-- What tells the types of data apart. -/
  Data : Type
  /-- Types of data can be compared. -/
  decEqData : DecidableEq Data
  /-- The data of a type. -/
  Carrier : Data → Type
  /-- The full name of a type.  Types may share a name. -/
  name : TypeKey Data → String

attribute [reducible, instance] StoredTypes.decEqData

variable [StoredTypes]

/-- A type of contents. -/
abbrev StoredType : Type := TypeKey StoredTypes.Data

mutual

/-- A boxed value. -/
inductive Value where
  | uint8 (n : UInt8)
  | int16 (n : Int16)
  | uint16 (n : UInt16)
  | int32 (n : Int32)
  | uint32 (n : UInt32)
  | int64 (n : Int64)
  | uint64 (n : UInt64)
  | single (x : Single)
  | double (x : Double)
  | char16 (c : Char16)
  | boolean (b : Bool)
  | string (s : String)
  /-- A handle to an object. -/
  | object (o : Object)
  | dateTime (d : DateTime)
  | timeSpan (t : TimeSpan)
  | guid (g : Guid)
  | point (p : Point)
  | size (s : Size)
  | rect (r : Rect)

/-- A handle to the contents of an allocation. -/
inductive Object where
  /-- The allocation referred to, what is stored there, and the name on record for its type. -/
  | mk (allocation : Nat) (content : Content) (typeName : String)

/-- What an object holds. -/
inductive Content where
  /-- Data of one of the client's types. -/
  | data (t : StoredTypes.Data) (x : StoredTypes.Carrier t)
  /-- A handle to another object. -/
  | object (o : Object)
  | value (v : Value)

end

instance : Inhabited Value := ⟨.boolean false⟩

namespace Object

/-- The allocation that a handle refers to. -/
def allocation : Object → Nat
  | mk a _ _ => a

/-- What a handle gives access to. -/
def content : Object → Content
  | mk _ c _ => c

/-- The name on record for the type of the contents. -/
def typeName : Object → String
  | mk _ _ name => name

end Object

namespace Shape

/-- The type of the native values of a shape. -/
@[reducible] def Native : Shape → Type
  | uint8 => UInt8
  | int16 => Int16
  | uint16 => UInt16
  | int32 => Int32
  | uint32 => UInt32
  | int64 => Int64
  | uint64 => UInt64
  | single => Single
  | double => Double
  | char16 => Char16
  | boolean => Bool
  | string => String
  | object => Object
  | dateTime => DateTime
  | timeSpan => TimeSpan
  | guid => Guid
  | point => Point
  | size => Size
  | rect => Rect

end Shape

namespace Value

/-- The shape of a value. -/
def shape : Value → Shape
  | uint8 _ => .uint8
  | int16 _ => .int16
  | uint16 _ => .uint16
  | int32 _ => .int32
  | uint32 _ => .uint32
  | int64 _ => .int64
  | uint64 _ => .uint64
  | single _ => .single
  | double _ => .double
  | char16 _ => .char16
  | boolean _ => .boolean
  | string _ => .string
  | object _ => .object
  | dateTime _ => .dateTime
  | timeSpan _ => .timeSpan
  | guid _ => .guid
  | point _ => .point
  | size _ => .size
  | rect _ => .rect

/-- The native value that was boxed. -/
def native : (v : Value) → v.shape.Native
  | uint8 n => n
  | int16 n => n
  | uint16 n => n
  | int32 n => n
  | uint32 n => n
  | int64 n => n
  | uint64 n => n
  | single x => x
  | double x => x
  | char16 c => c
  | boolean b => b
  | string s => s
  | object o => o
  | dateTime d => d
  | timeSpan t => t
  | guid g => g
  | point p => p
  | size s => s
  | rect r => r

/-- Boxes a native value of the given shape. -/
def ofNative : (s : Shape) → s.Native → Value
  | .uint8 => uint8
  | .int16 => int16
  | .uint16 => uint16
  | .int32 => int32
  | .uint32 => uint32
  | .int64 => int64
  | .uint64 => uint64
  | .single => single
  | .double => double
  | .char16 => char16
  | .boolean => boolean
  | .string => string
  | .object => object
  | .dateTime => dateTime
  | .timeSpan => timeSpan
  | .guid => guid
  | .point => point
  | .size => size
  | .rect => rect

@[simp] theorem shape_ofNative (s : Shape) (x : s.Native) : (ofNative s x).shape = s := by
  cases s <;> rfl

@[simp] theorem ofNative_native (v : Value) : ofNative v.shape v.native = v := by
  cases v <;> rfl

/-- The value holds an integer or a floating-point number. -/
def isNumeric (v : Value) : Bool := v.shape.isNumeric

end Value
end TypedBox
