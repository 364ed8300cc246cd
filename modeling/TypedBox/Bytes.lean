/-! # Byte sequences

Values are identified by the bytes they feed to a hash.  A number of a fixed
width contributes that many bytes, least significant first; a text contributes
its UTF-8 bytes and one closing byte that no UTF-8 text contains.
-/
namespace TypedBox

-- a power of whole numbers keeps this one meaning where powers in a monoid are in scope as well
attribute [instance (high)] instPowNat

namespace Bytes

/-- The `width` low bytes of `n`, least significant first. -/
def littleEndian : (width : Nat) → (n : Nat) → List UInt8
  | 0, _ => []
  | width + 1, n => UInt8.ofNat (n % 256) :: littleEndian width (n / 256)

/-- The number whose bytes, least significant first, are `bytes`. -/
def ofLittleEndian : List UInt8 → Nat
  | [] => 0
  | b :: rest => b.toNat + 256 * ofLittleEndian rest

/-- The number whose bytes, most significant first, are `bytes`. -/
def ofBigEndian (bytes : List UInt8) : Nat :=
  ofLittleEndian bytes.reverse

/-- The `width` low bytes of `n`, most significant first. -/
def bigEndian (width n : Nat) : List UInt8 :=
  (littleEndian width n).reverse

/-- The bytes of a text: its UTF-8 form, closed by `0xff`. -/
def ofText (s : String) : List UInt8 :=
  s.toList.flatMap String.utf8EncodeChar ++ [0xff]

@[simp] theorem length_littleEndian (width n : Nat) :
    (littleEndian width n).length = width := by
  induction width generalizing n with
  | zero => rfl
  | succ width ih => simp [littleEndian, ih]

@[simp] theorem length_bigEndian (width n : Nat) : (bigEndian width n).length = width := by
  simp [bigEndian]

end Bytes

end TypedBox
