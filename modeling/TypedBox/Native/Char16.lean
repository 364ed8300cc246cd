import TypedBox.Failure

/-! # UTF-16 code units

One code unit of UTF-16 stands for a character of the basic plane, unless it is
a surrogate, which stands for no character on its own.  Conversely the
characters beyond the basic plane need two units and have no single one.
-/
namespace TypedBox

/-- A UTF-16 code unit, surrogates included. -/
structure Char16 where
  /-- The unit as a number. -/
  unit : UInt16
  deriving DecidableEq

namespace Char16

/-- The unit of the NUL character. -/
def zero : Char16 := ⟨0⟩

/-- The character that the unit stands for; a surrogate stands for none. -/
def toChar? (c : Char16) : Option Char :=
  if h : c.unit.toUInt32.isValidChar then some ⟨c.unit.toUInt32, h⟩ else none

/-- The only unit of a character; one beyond the basic plane has two. -/
def ofChar (c : Char) : Except Failure Char16 :=
  if c.toNat < UInt16.size then .ok ⟨UInt16.ofNat c.toNat⟩
  else .error (.outOfRange .char16 c.toNat)

/-- Units are ordered as numbers. -/
def compare (a b : Char16) : Ordering :=
  Ord.compare a.unit.toNat b.unit.toNat

/-- A unit is displayed as its character, and a surrogate as an escape. -/
def displayText (c : Char16) : String :=
  match c.toChar? with
  | some ch => String.singleton ch
  | none => "\\u\x7b" ++ Text.fixedHex 4 c.unit.toNat ++ "\x7d"

def debugText (c : Char16) : String :=
  Text.applied "Char16" (Text.decimal c.unit.toNat)

/-- The unit as two bytes. -/
def hashBytes (c : Char16) : List UInt8 :=
  Bytes.littleEndian 2 c.unit.toNat

end Char16
end TypedBox
