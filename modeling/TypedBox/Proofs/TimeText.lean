import TypedBox.Proofs.NumberText
import TypedBox.Proofs.Rounding
import TypedBox.Trace.Record

/-! # The displayed time of a record is exact

From one millisecond on, the microseconds of a record are divided by a thousand in double
precision, and what is displayed is the quotient rounded to three places.  Below
`2 ^ 43` milliseconds nothing is lost by this (`thousandths_millisecondsCode`): the
microseconds themselves have no more digits than a double, and the quotient is rounded
in steps of at most `2 ^ -10`, so that it is less than half a thousandth away from the
exact one.  The bound is sharp, one microsecond above it the displayed time is wrong.
-/
namespace TypedBox
namespace Trace

open Binary (Format roundHalfEven)

/-! ## Rounding back -/

/-- A quotient less than a half away from a whole number is rounded to it. -/
theorem roundHalfEven_eq_of_abs_sub_lt {num den m : Nat} (hden : 0 < den)
    (h : |(m : ℚ) - num / den| < 1 / 2) : roundHalfEven num den = m := by
  by_contra hne
  exact absurd (Binary.half_le_abs_sub_of_ne num hden (Ne.symm hne)) h.not_ge

variable {us : Nat}

/-- Microseconds with few enough digits are no less exact in double precision. -/
theorem units_nearest_of_lt (h : us < 2 ^ 53) :
    Format.double.units (Format.double.nearest us 1) = us * Format.double.one := by
  have hunits : Format.double.units (Format.double.nearestUnbounded (us * Format.double.one) 1) =
      us * Format.double.one :=
    Format.units_nearestUnbounded_mul_two_pow (by decide) h
  have hfinite : us * Format.double.one < Format.double.units Format.double.infinity := by
    have hlarge : 2 ^ 53 * Format.double.one ≤ Format.double.units Format.double.infinity := by
      decide +kernel
    exact Nat.lt_of_lt_of_le (Nat.mul_lt_mul_of_pos_right h (Nat.two_pow_pos _)) hlarge
  rw [← hunits, Format.double.units_strictMono.lt_iff_lt] at hfinite
  rw [Format.nearest, Format.nearestUnits, Nat.min_eq_left hfinite.le, hunits]

/-- Below `2 ^ 43` milliseconds the steps of the quotient are at most `2 ^ -10`. -/
theorem two_pow_excess_le (h : us < 2 ^ 43 * 1000) :
    (2 : ℚ) ^ Format.double.excess (us * Format.double.one) 1000 ≤ Format.double.one / 2 ^ 10 := by
  have hexcess : Format.double.excess (us * Format.double.one) 1000 ≤ 1064 := by
    refine Format.excess_le _ (by decide) ?_
    have hbound : 2 ^ 43 * 1000 * Format.double.one =
        2 ^ (Format.double.precision + 1064) * 1000 := by
      decide +kernel
    rw [Nat.div_lt_iff_lt_mul (by decide), ← hbound]
    exact Nat.mul_lt_mul_of_pos_right h (Nat.two_pow_pos _)
  have hone : Format.double.one = 2 ^ 1064 * 2 ^ 10 := by decide +kernel
  have hstep : (Format.double.one : ℚ) / 2 ^ 10 = 2 ^ 1064 := by
    rw [hone, Nat.cast_mul, Nat.cast_pow, Nat.cast_pow, Nat.cast_ofNat,
      mul_div_cancel_right₀ _ (by positivity)]
  rw [hstep]
  exact pow_le_pow_right₀ (by norm_num) hexcess

/-- The quotient that is displayed is not further from the exact one than half a step. -/
theorem abs_nearestUnbounded_sub_le (h : us < 2 ^ 43 * 1000) :
    |(Format.double.units (Format.double.nearestUnbounded (us * Format.double.one) 1000) : ℚ) -
        us * Format.double.one / 1000| ≤ Format.double.one / 2 ^ 11 := by
  have herror := Format.abs_units_nearestUnbounded_sub_le (f := .double)
    (us * Format.double.one) (by decide) (show 0 < 1000 by decide)
  have hsteps := two_pow_excess_le h
  rw [Nat.cast_mul, Nat.cast_ofNat] at herror
  refine herror.trans ?_
  have hhalf : (Format.double.one : ℚ) / 2 ^ 11 = Format.double.one / 2 ^ 10 / 2 := by ring
  rw [hhalf]
  exact div_le_div_of_nonneg_right hsteps (by norm_num)

/-- The quotient is far from infinity. -/
theorem units_millisecondsCode (h : us < 2 ^ 43 * 1000) :
    Format.double.units (millisecondsCode us) =
      Format.double.units (Format.double.nearestUnbounded (us * Format.double.one) 1000) := by
  have hone : (0 : ℚ) < Format.double.one := Nat.cast_pos.mpr (Nat.two_pow_pos _)
  have hunits : Format.double.units (Format.double.nearest us 1) = us * Format.double.one :=
    units_nearest_of_lt (Nat.lt_of_lt_of_le h (by decide))
  have herror := (abs_le.mp (abs_nearestUnbounded_sub_le h)).2
  have hfinite : Format.double.units
      (Format.double.nearestUnbounded (us * Format.double.one) 1000) <
        Format.double.units Format.double.infinity := by
    have hlarge : 2 ^ 44 * Format.double.one ≤ Format.double.units Format.double.infinity := by
      decide +kernel
    refine Nat.lt_of_lt_of_le (Nat.cast_lt.mp (lt_of_le_of_lt (sub_le_iff_le_add'.mp herror) ?_))
      hlarge
    have hus : (us : ℚ) < 2 ^ 43 * 1000 := by exact_mod_cast h
    rw [Nat.cast_mul, Nat.cast_pow, Nat.cast_ofNat]
    have hscaled := mul_lt_mul_of_pos_right hus hone
    linarith
  rw [Format.double.units_strictMono.lt_iff_lt] at hfinite
  simp only [millisecondsCode, Format.nearestUnits]
  rw [hunits, Nat.min_eq_left hfinite.le]

/-- **The displayed thousandths are the microseconds.** -/
theorem thousandths_millisecondsCode (h : us < 2 ^ 43 * 1000) :
    thousandths (millisecondsCode us) = us := by
  have hone : (0 : ℚ) < Format.double.one := Nat.cast_pos.mpr (Nat.two_pow_pos _)
  refine roundHalfEven_eq_of_abs_sub_lt (Nat.two_pow_pos _) ?_
  have herror := abs_nearestUnbounded_sub_le h
  rw [← units_millisecondsCode h] at herror
  rw [Nat.cast_mul, Nat.cast_ofNat]
  generalize (Format.double.units (millisecondsCode us) : ℚ) = quotient at herror ⊢
  generalize (Format.double.one : ℚ) = one at herror hone ⊢
  -- a thousand half steps are less than a half
  have hscaled : (us : ℚ) - quotient * 1000 / one =
      -((quotient - us * one / 1000) * (1000 / one)) := by
    field_simp
    ring
  rw [hscaled, abs_neg, abs_mul, abs_of_pos (by positivity : 0 < 1000 / one)]
  calc |quotient - us * one / 1000| * (1000 / one) ≤ one / 2 ^ 11 * (1000 / one) :=
        mul_le_mul_of_nonneg_right herror (by positivity)
    _ = 1000 / 2 ^ 11 := by field_simp
    _ < 1 / 2 := by norm_num

/-! ## The text -/

/-- A number of thousandths is written with digits after the point. -/
theorem places_thousandths (n : Nat) : (⟨n, -3⟩ : Decimal).places ≠ 0 := Nat.succ_ne_zero 2

theorem millisecondsText_eq (h : us < 2 ^ 43 * 1000) :
    millisecondsText us =
      Text.decimal (us / 1000) ++ "." ++ Text.paddedDecimal 3 (us % 1000) := by
  have hplaces :
      Text.fixedDigits 10 3 us = List.leftpad 3 '0' (Text.decimalDigits (us % 1000)) := by
    rw [← Text.fixedDigits_mod]
    exact Text.fixedDigits_eq_leftpad (by decide) (by decide) (Nat.mod_lt us (by decide))
  have hdigits : Decimal.positional ⟨us, -3⟩ =
      Text.decimalDigits (us / 1000) ++ '.' :: Text.fixedDigits 10 3 us := by
    rw [Decimal.positional_of_places_ne_zero (places_thousandths us),
      Decimal.num_of_places_ne_zero (places_thousandths us)]
    rfl
  rw [millisecondsText, thousandths_millisecondsCode h, hdigits, hplaces]
  refine String.toList_inj.mp ?_
  simp [Text.toList_decimal, Text.toList_paddedDecimal]

/-- Whole microseconds are shown as they are, and milliseconds to three places. -/
theorem timeText_eq {time : Nat} (h : time / 1000 < 2 ^ 43 * 1000) :
    timeText time =
      if time / 1000 < 1000 then Text.decimal (time / 1000) ++ "us"
      else Text.decimal (time / 1000 / 1000) ++ "." ++
        Text.paddedDecimal 3 (time / 1000 % 1000) ++ "ms" := by
  rw [← millisecondsText_eq h]
  rfl

namespace Record

/-- **A record shows its time exactly**, for times of less than `2 ^ 43` milliseconds: whole
microseconds below one millisecond, and from there on milliseconds to three places. -/
theorem displayText_shows_time (r : Record) (h : r.time / 1000 < 2 ^ 43 * 1000) :
    let us := r.time / 1000
    r.displayText =
      "[" ++ Text.paddedDecimal 6 r.id ++ "] " ++
        (if us < 1000 then Text.decimal us ++ "us"
          else Text.decimal (us / 1000) ++ "." ++ Text.paddedDecimal 3 (us % 1000) ++ "ms") ++
        " " ++ r.event.displayText := by
  intro us
  rw [displayText, lineWith, timeText_eq h]

/-- The last time that is shown exactly at any rate, in a record with a long number. -/
theorem displayText_shows_time_of_last :
    let r : Record := ⟨12345678, 8796093022207999999, .boxed .rect⟩
    r.time / 1000 < 2 ^ 43 * 1000 ∧
      r.displayText = "[12345678] 8796093022207.999ms value-boxed Rect" := by
  intro r
  have h : r.time / 1000 < 2 ^ 43 * 1000 := by decide
  refine ⟨h, (displayText_shows_time r h).trans ?_⟩
  decide

/-- One microsecond above the bound the displayed time is another one. -/
example : timeText 8796093022208001000 = "8796093022208.002ms" := by
  decide +kernel

end Record
end Trace
end TypedBox
