import TypedBox.Bytes
import TypedBox.Text.Basic

/-! # Globally unique identifiers

An identifier of 128 bits, split into fields of 32, 16 and 16 bits and eight
bytes.  Read in this order, most significant bit first, the fields are the
digits of one number (`toNat`); the canonical text is that number in hexadecimal
with hyphens between groups.
-/
namespace TypedBox

/-- A globally unique identifier in its usual fields. -/
structure Guid where
  /-- The first 32 bits. -/
  data1 : UInt32
  /-- The next 16 bits. -/
  data2 : UInt16
  /-- The next 16 bits. -/
  data3 : UInt16
  /-- The last 64 bits, byte by byte. -/
  data4 : Vector UInt8 8
  deriving DecidableEq

namespace Guid

/-- The identifier of which every bit is zero. -/
def zero : Guid := ⟨0, 0, 0, Vector.replicate 8 0⟩

/-- The fields of the 128 low bits of a number, most significant first. -/
def ofNat (n : Nat) : Guid where
  data1 := UInt32.ofNat (n >>> 96)
  data2 := UInt16.ofNat (n >>> 80)
  data3 := UInt16.ofNat (n >>> 64)
  data4 := ⟨(Bytes.bigEndian 8 n).toArray, by simp⟩

/-- The fields joined to one number. -/
def toNat (g : Guid) : Nat :=
  g.data1.toNat <<< 96 + g.data2.toNat <<< 80 + g.data3.toNat <<< 64 +
    Bytes.ofBigEndian g.data4.toList

/-- Identifiers are ordered field by field, the last one byte by byte. -/
def compare (a b : Guid) : Ordering :=
  (Ord.compare a.data1.toNat b.data1.toNat).then <|
  (Ord.compare a.data2.toNat b.data2.toNat).then <|
  (Ord.compare a.data3.toNat b.data3.toNat).then <|
  List.compareLex (fun x y => Ord.compare x.toNat y.toNat) a.data4.toList b.data4.toList

/-- Bytes in hexadecimal, two digits each. -/
def bytesText (bytes : List UInt8) : String :=
  String.join (bytes.map fun b => Text.fixedHex 2 b.toNat)

/-- The canonical text: groups of 8, 4, 4, 4 and 12 hexadecimal digits. -/
def displayText (g : Guid) : String :=
  Text.fixedHex 8 g.data1.toNat ++ "-" ++ Text.fixedHex 4 g.data2.toNat ++ "-" ++
    Text.fixedHex 4 g.data3.toNat ++ "-" ++ bytesText (g.data4.toList.take 2) ++ "-" ++
    bytesText (g.data4.toList.drop 2)

def debugText (g : Guid) : String :=
  Text.fields "Guid"
    [("data1", Text.decimal g.data1.toNat), ("data2", Text.decimal g.data2.toNat),
     ("data3", Text.decimal g.data3.toNat),
     ("data4", Text.list (g.data4.toList.map fun b => Text.decimal b.toNat))]

/-- The fields as bytes; the last field is preceded by its length. -/
def hashBytes (g : Guid) : List UInt8 :=
  Bytes.littleEndian 4 g.data1.toNat ++ Bytes.littleEndian 2 g.data2.toNat ++
    Bytes.littleEndian 2 g.data3.toNat ++ Bytes.littleEndian 8 g.data4.toList.length ++
    g.data4.toList

end Guid
end TypedBox
