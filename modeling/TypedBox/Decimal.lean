import TypedBox.Binary.Format
import TypedBox.Text.Basic

/-! # Decimal numbers

A decimal number is a whole number of steps, each step a power of ten.  It is
written either in positional notation or with an exponent.
-/
namespace TypedBox

/-- The number `digits * 10 ^ exponent`. -/
structure Decimal where
  /-- The digits, read as a whole number. -/
  digits : Nat
  /-- The power of ten of the last digit. -/
  exponent : Int
  deriving DecidableEq

namespace Decimal

/-- The number of digits after the point. -/
def places (d : Decimal) : Nat := (-d.exponent).toNat

/-- The numerator of the number as a fraction. -/
def num (d : Decimal) : Nat := d.digits * 10 ^ d.exponent.toNat

/-- The denominator of the number as a fraction. -/
def den (d : Decimal) : Nat := 10 ^ d.places

/-- The point and the digits after it, if there are any. -/
def fraction (d : Decimal) : List Char :=
  if d.places = 0 then [] else '.' :: Text.fixedDigits 10 d.places d.digits

/-- Positional notation: the whole part, and a point only if digits follow it. -/
def positional (d : Decimal) : List Char :=
  Text.decimalDigits (d.num / d.den) ++ d.fraction

/-- One digit before the point, the other digits after it, and the exponent that makes up for it. -/
def scientific (d : Decimal) : List Char :=
  match Text.decimalDigits d.digits with
  | [] => []
  | first :: rest =>
    let mantissa := if rest.isEmpty then [first] else first :: '.' :: rest
    mantissa ++ 'e' :: (Text.signedDecimal (d.exponent + rest.length)).toList

end Decimal

/-! ## The shortest decimal that reads back

To *read* a decimal in a binary format is to take the nearest magnitude.  The
shortest decimal of a magnitude is the one with the fewest digits among those
that read back as that magnitude; of several, the nearest to it.

The search walks down the decimal places, from above the leading digit.  At each
place the only candidates are the two neighbours of the magnitude on that grid.
-/

namespace Binary
namespace Format

variable (f : Format)

/-- The code of the magnitude nearest to a decimal number. -/
def read (d : Decimal) : Nat :=
  f.nearest d.num d.den

/-- The exact decimal value of a magnitude: `units / 2 ^ scale` is `units * 5 ^ scale` steps of
`10 ^ -scale`. -/
def exactDecimal (code : Nat) : Decimal :=
  ⟨f.units code * 5 ^ f.scale, -(f.scale : Int)⟩

/-- The number of decimal digits of `n`, where zero has none. -/
def digitCount (n : Nat) : Nat :=
  if n = 0 then 0 else (Nat.toDigits 10 n).length

/-- The decimal place of the leading digit of `num / den`, that is, the greatest power of ten
not above it. -/
def leadingPlace (num den : Nat) : Int :=
  if den ≤ num then (digitCount (num / den) : Int) - 1
  else -(digitCount ((den - 1) / num) : Int)

/-- The neighbour of the magnitude at a decimal place that reads back, if there is one.  When both
do, the nearer one is taken, and the upper one when they are equally near. -/
def neighbour? (code : Nat) (place : Int) : Option Decimal :=
  let num := f.units code * 10 ^ (-place).toNat
  let den := f.one * 10 ^ place.toNat
  let low : Decimal := ⟨num / den, place⟩
  let high : Decimal := ⟨num / den + 1, place⟩
  match f.read low == code, f.read high == code with
  | true, true => some (if 2 * (num % den) < den then low else high)
  | true, false => some low
  | false, true => some high
  | false, false => none

/-- The shortest decimal that reads back as the given code.  A magnitude has no need of more
decimal digits than it has significant bits, so the exact value after the search stands for
completeness only. -/
def shortest (code : Nat) : Decimal :=
  if code = 0 then ⟨0, 0⟩
  else
    let start := leadingPlace (f.units code) f.one + 1
    ((List.range (f.precision + 1)).findSome? fun (k : Nat) => f.neighbour? code (start - k)).getD
      (f.exactDecimal code)

end Format
end Binary
end TypedBox
