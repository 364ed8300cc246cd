import TypedBox.Bytes

/-! # Shapes

A boxed value has one of nineteen *shapes*.  A shape has a name and a code from
1 to 19; the names appear in every message about a value, the codes in every
byte sequence that identifies one.
-/
namespace TypedBox

/-- The shape of a boxed value, in the order of the codes. -/
inductive Shape where
  | uint8 | int16 | uint16 | int32 | uint32 | int64 | uint64
  | single | double
  | char16 | boolean | string | object
  | dateTime | timeSpan | guid | point | size | rect
  deriving DecidableEq

namespace Shape

/-- Every shape, by ascending code. -/
def all : List Shape :=
  [uint8, int16, uint16, int32, uint32, int64, uint64, single, double, char16, boolean,
   string, object, dateTime, timeSpan, guid, point, size, rect]

/-- The code of a shape: its place in `all`, counted from one. -/
def code : Shape → Nat
  | uint8 => 1
  | int16 => 2
  | uint16 => 3
  | int32 => 4
  | uint32 => 5
  | int64 => 6
  | uint64 => 7
  | single => 8
  | double => 9
  | char16 => 10
  | boolean => 11
  | string => 12
  | object => 13
  | dateTime => 14
  | timeSpan => 15
  | guid => 16
  | point => 17
  | size => 18
  | rect => 19

/-- The canonical name of a shape, which is also how it is displayed. -/
def name : Shape → String
  | uint8 => "UInt8"
  | int16 => "Int16"
  | uint16 => "UInt16"
  | int32 => "Int32"
  | uint32 => "UInt32"
  | int64 => "Int64"
  | uint64 => "UInt64"
  | single => "Single"
  | double => "Double"
  | char16 => "Char16"
  | boolean => "Boolean"
  | string => "String"
  | object => "OpaqueObject"
  | dateTime => "DateTime"
  | timeSpan => "TimeSpan"
  | guid => "Guid"
  | point => "Point"
  | size => "Size"
  | rect => "Rect"

/-- The shape with the given code. -/
def ofCode? (code : Nat) : Option Shape :=
  all.find? (·.code == code)

/-- The shape with the given name. -/
def ofName? (name : String) : Option Shape :=
  all.find? (·.name == name)

/-- The integer and floating-point shapes. -/
def isNumeric (s : Shape) : Bool :=
  s ∈ [uint8, int16, uint16, int32, uint32, int64, uint64, single, double]

/-- The shapes whose native value is a record of fields. -/
def isRecord (s : Shape) : Bool :=
  s ∈ [dateTime, timeSpan, guid, point, size, rect]

/-- Shapes are ordered by code. -/
def compare (a b : Shape) : Ordering :=
  Ord.compare a.code b.code

/-- A name with its code in parentheses. -/
def debugText (s : Shape) : String :=
  s.name ++ "(" ++ Nat.repr s.code ++ ")"

/-- A shape feeds its code to a hash, as four bytes. -/
def hashBytes (s : Shape) : List UInt8 :=
  Bytes.littleEndian 4 s.code

@[simp] theorem mem_all (s : Shape) : s ∈ all := by
  cases s <;> decide

@[simp] theorem ofCode?_code (s : Shape) : ofCode? s.code = some s := by
  cases s <;> rfl

theorem code_injective {a b : Shape} (h : a.code = b.code) : a = b := by
  have := congrArg ofCode? h
  simpa using this

end Shape
end TypedBox
