import TypedBox.Bytes

/-! # Binary floating-point formats

A format packs a sign, an exponent and a fraction into `width` bits.  Without
the sign, the bit pattern read as a whole number is the *code* of a magnitude:
codes ascend with the magnitudes they stand for, the codes below `infinity` are
the finite magnitudes, and the codes above it are not numbers.

Every finite magnitude is a whole number of *units*, one unit being
`2 ^ -scale`, the least positive magnitude.  Rounding (`nearest`) takes an exact
quotient to the nearest magnitude, of two equally near ones to the one with the
even code.
-/
namespace TypedBox
namespace Binary

/-- The whole number nearest to `num / den`, of two equally near ones the even one. -/
def roundHalfEven (num den : Nat) : Nat :=
  let low := num / den
  let rest := num % den
  if 2 * rest < den then low
  else if den < 2 * rest then low + 1
  else if low % 2 = 0 then low
  else low + 1

theorem roundHalfEven_eq_div_or (num den : Nat) :
    roundHalfEven num den = num / den ∨ roundHalfEven num den = num / den + 1 := by
  simp only [roundHalfEven]
  grind

/-- A quotient without remainder is left as it is. -/
@[simp] theorem roundHalfEven_mul (n : Nat) {den : Nat} (h : 0 < den) :
    roundHalfEven (n * den) den = n := by
  simp [roundHalfEven, Nat.mul_div_cancel _ h, h]

/-- A binary interchange format, given by its width and by the number of significant bits, the
leading one of a normal number included. -/
structure Format where
  /-- The number of bits of a pattern, the sign included. -/
  width : Nat
  /-- The number of significant bits. -/
  precision : Nat

namespace Format

/-- Single precision: 32 bits, 24 of them significant. -/
def single : Format := ⟨32, 24⟩

/-- Double precision: 64 bits, 53 of them significant. -/
def double : Format := ⟨64, 53⟩

variable (f : Format)

/-- The weight of the sign bit; every code is below it. -/
def signWeight : Nat := 2 ^ (f.width - 1)

/-- The number of codes that share one exponent. -/
def binade : Nat := 2 ^ (f.precision - 1)

/-- One unit is `2 ^ -scale`. -/
def scale : Nat := 2 ^ (f.width - f.precision - 1) + f.precision - 3

/-- The number of units in one. -/
def one : Nat := 2 ^ f.scale

/-- The code of infinity, the first one that is not finite. -/
def infinity : Nat := f.signWeight - f.binade

/-- The number of units in the magnitude with the given code.  The codes of the first binade
count units; from there on a significand between `binade` and `2 * binade` is scaled by its
exponent. -/
def units (code : Nat) : Nat :=
  if code < f.binade then code
  else (f.binade + code % f.binade) * 2 ^ (code / f.binade - 1)

/-- The exponent by which `num / den` units have to be scaled down to have a significand of at
most `precision` bits. -/
def excess (num den : Nat) : Nat :=
  (num / den).log2 + 1 - f.precision

/-- The code of the magnitude nearest to `num / den` units, when exponents have no upper end. -/
def nearestUnbounded (num den : Nat) : Nat :=
  let k := f.excess num den
  k * f.binade + roundHalfEven num (den * 2 ^ k)

/-- The code of the magnitude nearest to `num / den` units; what is too large becomes infinity. -/
def nearestUnits (num den : Nat) : Nat :=
  min (f.nearestUnbounded num den) f.infinity

/-- The code of the magnitude nearest to the number `num / den`. -/
def nearest (num den : Nat) : Nat :=
  f.nearestUnits (num * f.one) den

end Format

/-- What a bit pattern stands for. -/
inductive Datum where
  /-- Not a number. -/
  | nan
  /-- An infinity of either sign. -/
  | infinite (negative : Bool)
  /-- A sign and a finite magnitude. -/
  | finite (negative : Bool) (code : Nat)
  deriving DecidableEq

namespace Format

variable (f : Format)

/-- The sign bit of a pattern. -/
def isNegative (bits : Nat) : Bool :=
  f.signWeight ≤ bits

/-- The code of a pattern, which is what is left without the sign. -/
def code (bits : Nat) : Nat :=
  bits % f.signWeight

/-- A sign and a code as one pattern. -/
def pattern (negative : Bool) (code : Nat) : Nat :=
  (if negative then f.signWeight else 0) + code

/-- What a pattern stands for. -/
def datum (bits : Nat) : Datum :=
  if f.code bits < f.infinity then .finite (f.isNegative bits) (f.code bits)
  else if f.code bits = f.infinity then .infinite (f.isNegative bits)
  else .nan

end Format
end Binary
end TypedBox
