import TypedBox.Value.Object

/-! # Equality and hashing of boxed values

Two values are equal when they have the same shape and the same native value:
floating-point numbers by bit pattern, objects by allocation.  The bytes that a
value feeds to a hash are those of its shape, then those of its native value.
Where objects lie in memory is not for this library to decide, so the bytes
depend on an assignment of addresses to allocations.
-/
namespace TypedBox
namespace Value

variable [StoredTypes]

/-- The values have the same shape and the same native value. -/
def beq : Value → Value → Bool
  | uint8 a, uint8 b => a == b
  | int16 a, int16 b => a == b
  | uint16 a, uint16 b => a == b
  | int32 a, int32 b => a == b
  | uint32 a, uint32 b => a == b
  | int64 a, int64 b => a == b
  | uint64 a, uint64 b => a == b
  | single a, single b => a == b
  | double a, double b => a == b
  | char16 a, char16 b => a == b
  | boolean a, boolean b => a == b
  | string a, string b => a == b
  | object a, object b => a == b
  | dateTime a, dateTime b => a == b
  | timeSpan a, timeSpan b => a == b
  | guid a, guid b => a == b
  | point a, point b => a == b
  | size a, size b => a == b
  | rect a, rect b => a == b
  | _, _ => false

instance : BEq Value := ⟨beq⟩

/-- The bytes of the native value. -/
def payloadBytes (address : Nat → UInt64) : Value → List UInt8
  | uint8 n => Bytes.littleEndian 1 n.toNat
  | int16 n => Bytes.littleEndian 2 n.toUInt16.toNat
  | uint16 n => Bytes.littleEndian 2 n.toNat
  | int32 n => Bytes.littleEndian 4 n.toUInt32.toNat
  | uint32 n => Bytes.littleEndian 4 n.toNat
  | int64 n => Bytes.littleEndian 8 n.toUInt64.toNat
  | uint64 n => Bytes.littleEndian 8 n.toNat
  | single x => x.hashBytes
  | double x => x.hashBytes
  | char16 c => c.hashBytes
  | boolean b => Bytes.littleEndian 1 b.toNat
  | string s => Bytes.ofText s
  | object o => o.hashBytes address
  | dateTime d => d.hashBytes
  | timeSpan t => t.hashBytes
  | guid g => g.hashBytes
  | point p => p.hashBytes
  | size s => s.hashBytes
  | rect r => r.hashBytes

/-- The bytes that a value feeds to a hash: those of its shape, then those of its native value. -/
def hashBytes (address : Nat → UInt64) (v : Value) : List UInt8 :=
  v.shape.hashBytes ++ v.payloadBytes address

/-- The values that are left when every repetition is dropped. -/
def distinct (vs : List Value) : List Value :=
  vs.eraseDups

/-- For every value, the position of the first one equal to it. -/
def firstEqual (vs : List Value) : List Nat :=
  vs.map fun v => vs.findIdx (· == v)

end Value

/-- The ways to compare two values: equal, unequal, equal the other way round, and equal in the
bytes that they feed to a hash. -/
structure Comparison where
  /-- The first equals the second. -/
  eq : Bool
  /-- The first differs from the second. -/
  ne : Bool
  /-- The second equals the first. -/
  reverse : Bool
  /-- Both feed the same bytes to a hash. -/
  sameHash : Bool
  deriving DecidableEq

/-- Compares two values in every way. -/
def Value.comparison [StoredTypes] (address : Nat → UInt64) (a b : Value) : Comparison :=
  ⟨a == b, a != b, b == a, a.hashBytes address == b.hashBytes address⟩

end TypedBox
