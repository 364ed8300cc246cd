import TypedBox.Value.Basic

/-! # Boxing

A native value of the right type is boxed by the constructor of its shape.  The
operations of this module box something that need not fit: an integer of any
size, a character, or a number of higher precision.  An integer or a character
that does not fit is refused with the number that was given; it is never cut
down to size.
-/
namespace TypedBox

/-- The shapes of whole numbers. -/
inductive IntegerShape where
  | uint8 | int16 | uint16 | int32 | uint32 | int64 | uint64
  deriving DecidableEq

namespace IntegerShape

/-- Every shape of whole numbers. -/
def all : List IntegerShape := [uint8, int16, uint16, int32, uint32, int64, uint64]

/-- The shape as one of the nineteen. -/
def shape : IntegerShape → Shape
  | uint8 => .uint8
  | int16 => .int16
  | uint16 => .uint16
  | int32 => .int32
  | uint32 => .uint32
  | int64 => .int64
  | uint64 => .uint64

/-- The shape of whole numbers that a shape is, if it is one. -/
def ofShape? (s : Shape) : Option IntegerShape :=
  all.find? (·.shape == s)

/-- The least number of the shape. -/
def least : IntegerShape → Int
  | uint8 => 0
  | int16 => -0x8000
  | uint16 => 0
  | int32 => -0x80000000
  | uint32 => 0
  | int64 => -0x8000000000000000
  | uint64 => 0

/-- The greatest number of the shape. -/
def greatest : IntegerShape → Int
  | uint8 => 0xff
  | int16 => 0x7fff
  | uint16 => 0xffff
  | int32 => 0x7fffffff
  | uint32 => 0xffffffff
  | int64 => 0x7fffffffffffffff
  | uint64 => 0xffffffffffffffff

/-- The number is one of the shape. -/
def Fits (k : IntegerShape) (n : Int) : Prop := k.least ≤ n ∧ n ≤ k.greatest

instance (k : IntegerShape) (n : Int) : Decidable (k.Fits n) :=
  inferInstanceAs (Decidable (_ ∧ _))

variable [StoredTypes]

/-- The native number of the shape that `n` is, for an `n` that fits. -/
def ofInt : (k : IntegerShape) → Int → k.shape.Native
  | uint8, n => UInt8.ofInt n
  | int16, n => Int16.ofInt n
  | uint16, n => UInt16.ofInt n
  | int32, n => Int32.ofInt n
  | uint32, n => UInt32.ofInt n
  | int64, n => Int64.ofInt n
  | uint64, n => UInt64.ofInt n

/-- The number that a native one is. -/
def toInt : (k : IntegerShape) → k.shape.Native → Int
  | uint8, n => UInt8.toNat n
  | int16, n => Int16.toInt n
  | uint16, n => UInt16.toNat n
  | int32, n => Int32.toInt n
  | uint32, n => UInt32.toNat n
  | int64, n => Int64.toInt n
  | uint64, n => UInt64.toNat n

end IntegerShape

namespace Value

variable [StoredTypes]

/-- Boxes an integer in the given shape, if it fits. -/
def ofInt (k : IntegerShape) (n : Int) : Except Failure Value :=
  if k.Fits n then .ok (ofNative k.shape (k.ofInt n)) else .error (.outOfRange k.shape n)

/-- Boxes a character as a single code unit, if one unit is enough. -/
def ofChar (c : Char) : Except Failure Value :=
  (Char16.ofChar c).map char16

/-- Boxes a double precision number as a single precision one, rounded to nearest. -/
def singleOfDouble (x : Double) : Value :=
  single x.toSingle

end Value
end TypedBox
