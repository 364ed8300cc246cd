import TypedBox.Decimal

/-! # Single and double precision numbers

A floating-point number is kept as its bit pattern, so that two numbers are
equal exactly when their patterns are: a NaN equals itself, and zero differs
from negative zero.
-/
namespace TypedBox

/-- A single precision number. -/
structure Single where
  /-- The bit pattern. -/
  bits : UInt32
  deriving DecidableEq

/-- A double precision number. -/
structure Double where
  /-- The bit pattern. -/
  bits : UInt64
  deriving DecidableEq

open Binary (Format Datum)

namespace Single

/-- What the number stands for. -/
def datum (x : Single) : Datum := Format.single.datum x.bits.toNat

/-- A sign and a code as a number. -/
def ofCode (negative : Bool) (code : Nat) : Single :=
  ⟨UInt32.ofNat (Format.single.pattern negative code)⟩

/-- The pattern as four bytes. -/
def hashBytes (x : Single) : List UInt8 := Bytes.littleEndian 4 x.bits.toNat

end Single

namespace Double

/-- Positive zero. -/
def zero : Double := ⟨0⟩

/-- What the number stands for. -/
def datum (x : Double) : Datum := Format.double.datum x.bits.toNat

/-- The pattern as eight bytes. -/
def hashBytes (x : Double) : List UInt8 := Bytes.littleEndian 8 x.bits.toNat

/-- The bits of precision that a double has beyond a single. -/
def extraPrecision : Nat := Format.double.precision - Format.single.precision

/-- The code of a single precision NaN that keeps the leading fraction bits of a double precision
one.  Its first fraction bit is set, so that it stays a NaN and is a quiet one. -/
def narrowNaN (code : Nat) : Nat :=
  let kept := (code - Format.double.infinity) >>> extraPrecision
  Format.single.infinity + (kept ||| 2 ^ (Format.single.precision - 2))

/-- The nearest single precision number, of two equally near ones the one with the even
significand.  The sign is kept; what is too large becomes infinity. -/
def toSingle (x : Double) : Single :=
  let bits := x.bits.toNat
  let negative := Format.double.isNegative bits
  match x.datum with
  | .nan => .ofCode negative (narrowNaN (Format.double.code bits))
  | .infinite _ => .ofCode negative Format.single.infinity
  | .finite _ code =>
    .ofCode negative (Format.single.nearest (Format.double.units code) Format.double.one)

end Double

/-! ## Texts

A number is displayed by its shortest decimal, always in positional notation.
Its debug text shows in addition that it is a floating-point number: a whole
number ends in `.0`, and magnitudes below `10 ^ -4` or from `10 ^ 16` on are
written with an exponent.  A NaN has no sign.
-/

namespace Binary

/-- The sign in front of a magnitude. -/
def signText (negative : Bool) : List Char :=
  if negative then ['-'] else []

/-- How a datum is displayed. -/
def Datum.displayText (f : Format) : Datum → String
  | .nan => "NaN"
  | .infinite negative => String.ofList (signText negative ++ ['i', 'n', 'f'])
  | .finite negative code => String.ofList (signText negative ++ (f.shortest code).positional)

/-- The magnitude is written with an exponent in debug text. -/
def Format.usesExponent (f : Format) (code : Nat) : Bool :=
  (code != 0 && code < f.nearest 1 10_000) || f.nearest 10_000_000_000_000_000 1 ≤ code

/-- The debug text of a finite magnitude. -/
def Format.debugMagnitude (f : Format) (code : Nat) : List Char :=
  let d := f.shortest code
  if f.usesExponent code then d.scientific
  else d.positional ++ (if d.places = 0 then ['.', '0'] else [])

/-- The debug text of a datum. -/
def Datum.debugText (f : Format) : Datum → String
  | .finite negative code => String.ofList (signText negative ++ f.debugMagnitude code)
  | d => d.displayText f

end Binary

/-- How a single precision number is displayed. -/
def Single.displayText (x : Single) : String := x.datum.displayText .single

/-- The debug text of a single precision number. -/
def Single.debugText (x : Single) : String := x.datum.debugText .single

/-- How a double precision number is displayed. -/
def Double.displayText (x : Double) : String := x.datum.displayText .double

/-- The debug text of a double precision number. -/
def Double.debugText (x : Double) : String := x.datum.debugText .double

end TypedBox
