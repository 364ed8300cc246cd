import TypedBox.Proofs.NumberOrder
import TypedBox.Proofs.Rounding
import TypedBox.Value.Boxing
import TypedBox.Value.PlainData
import TypedBox.Value.Retrieval

/-! # Double precision numbers rounded to single precision

A double precision number is boxed as the single precision number that is nearest to
it, of two equally near ones as the one with the even significand
(`Single.IsRounded`).  What is half a step or more above the greatest single precision
number becomes infinity, and the sign stays also where nothing else does, at zero.

Magnitudes are taken to the nearest one as `Nearest` has it; the sign and the codes
that are too large are put around that.  A number that single precision has is left as
it is, and the order of numbers is kept.
-/
namespace TypedBox

open Binary

theorem single_infinity_lt_signWeight :
    Format.single.infinity < Format.single.signWeight := by
  decide +kernel

namespace Single

/-- The sign bit is set. -/
def isNegative (x : Single) : Bool := Format.single.isNegative x.bits.toNat

/-- The whole number that the exponent scales. -/
def significand (x : Single) : Nat := Format.single.significand (Format.single.code x.bits.toNat)

/-- The number that is stood for, if it is finite. -/
def number? (x : Single) : Option ℚ := x.datum.number? .single

/-- The place in the order of numbers. -/
def extended? (x : Single) : Option (WithBotTop ℚ) := x.datum.extended? .single

variable {negative : Bool} {code : Nat}

theorem toNat_bits_ofCode (h : code < Format.single.signWeight) :
    (ofCode negative code).bits.toNat = Format.single.pattern negative code := by
  have hfits : Format.single.pattern negative code < 2 ^ 32 := by
    have hweight : Format.single.signWeight = 2 ^ 31 := rfl
    unfold Format.pattern
    split <;> omega
  rw [ofCode, UInt32.toNat_ofNat', Nat.mod_eq_of_lt hfits]

theorem isNegative_ofCode (h : code < Format.single.signWeight) :
    (ofCode negative code).isNegative = negative := by
  rw [isNegative, toNat_bits_ofCode h, Format.isNegative_pattern h]

theorem datum_ofCode (h : code < Format.single.signWeight) :
    (ofCode negative code).datum =
      if code < Format.single.infinity then .finite negative code
      else if code = Format.single.infinity then .infinite negative
      else .nan := by
  rw [datum, toNat_bits_ofCode h, Format.datum, Format.isNegative_pattern h,
    Format.code_pattern h]

/-- A datum that is finite shows the sign and the code of the pattern. -/
theorem code_of_datum {y : Single} (h : y.datum = .finite negative code) :
    Format.single.code y.bits.toNat = code := by
  have hnumber : y.number? = some (Format.single.number negative code) := by
    rw [number?, h]
    rfl
  obtain ⟨hdatum, -⟩ := Format.datum_of_number?_eq_some hnumber
  exact (Datum.finite.inj (hdatum.symm.trans h)).2

end Single

namespace Double

/-- The sign bit is set. -/
def isNegative (x : Double) : Bool := Format.double.isNegative x.bits.toNat

/-- The number that is stood for, if it is finite. -/
def number? (x : Double) : Option ℚ := x.datum.number? .double

/-- The place in the order of numbers. -/
def extended? (x : Double) : Option (WithBotTop ℚ) := x.datum.extended? .double

/-! ## Magnitudes are taken to the nearest one -/

/-- The code of the single precision magnitude nearest to a double precision one, before
those that are too large become infinity. -/
def narrowed (code : Nat) : Nat :=
  Format.single.nearestUnbounded (Format.double.units code * Format.single.one) Format.double.one

theorem isNearest_narrowed (code : Nat) :
    Format.single.IsNearest (Format.double.magnitude code * Format.single.one)
      (narrowed code) := by
  have hquotient : Format.double.magnitude code * Format.single.one =
      (Format.double.units code * Format.single.one : Nat) / (Format.double.one : ℚ) := by
    rw [Format.magnitude, Nat.cast_mul, div_mul_eq_mul_div]
  rw [hquotient]
  exact Format.isNearest_nearestUnbounded _ (by decide) (Nat.two_pow_pos _)

theorem abs_magnitude_narrowed_sub_le (code other : Nat) :
    |Format.single.magnitude (narrowed code) - Format.double.magnitude code| ≤
      |Format.single.magnitude other - Format.double.magnitude code| := by
  rw [Format.abs_magnitude_sub, Format.abs_magnitude_sub]
  exact div_le_div_of_nonneg_right ((isNearest_narrowed code).closest other) Format.one_pos.le

theorem parity_of_magnitude_tie {code other : Nat} (hne : other ≠ narrowed code)
    (htie : |Format.single.magnitude other - Format.double.magnitude code| =
      |Format.single.magnitude (narrowed code) - Format.double.magnitude code|) :
    narrowed code % 2 = 0 ∧ other % 2 = 1 := by
  rw [Format.abs_magnitude_sub, Format.abs_magnitude_sub,
    div_left_inj' Format.one_pos.ne'] at htie
  exact ⟨(isNearest_narrowed code).even_of_tie other hne htie,
    (isNearest_narrowed code).odd_of_tie hne htie⟩

theorem narrowed_mono {c d : Nat}
    (h : Format.double.magnitude c ≤ Format.double.magnitude d) : narrowed c ≤ narrowed d :=
  (isNearest_narrowed c).mono (isNearest_narrowed d)
    (mul_le_mul_of_nonneg_right h Format.one_pos.le)

/-- Infinity would be the next magnitude.  It is nearest from the middle on, its code
being even. -/
theorem narrowed_lt_infinity_iff (code : Nat) :
    narrowed code < Format.single.infinity ↔
      Format.double.magnitude code < 2 ^ 128 - 2 ^ 103 := by
  have hinfinity : Format.single.infinity = 2139095039 + 1 := rfl
  have hgreatest : Format.single.units 2139095039 = (2 ^ 128 - 2 ^ 104) * Format.single.one := by
    decide +kernel
  have hnext : Format.single.units (2139095039 + 1) = 2 ^ 128 * Format.single.one := by
    decide +kernel
  have hone : (0 : ℚ) < Format.single.one := Format.one_pos
  rw [hinfinity, (isNearest_narrowed code).lt_succ_iff (by decide), hgreatest, hnext,
    Nat.cast_mul, Nat.cast_mul, ← mul_assoc, ← add_mul, mul_lt_mul_iff_of_pos_right hone]
  norm_num
  constructor <;> intro h <;> linarith

/-! ## What becomes of a number -/

variable {x : Double}

theorem toSingle_of_finite {code : Nat} (h : x.datum = .finite x.isNegative code) :
    x.toSingle = .ofCode x.isNegative (min (narrowed code) Format.single.infinity) := by
  simp only [toSingle, h]
  rfl

theorem toSingle_of_infinite {negative : Bool} (h : x.datum = .infinite negative) :
    x.toSingle = .ofCode x.isNegative Format.single.infinity := by
  simp only [toSingle, h]
  rfl

theorem toSingle_of_nan (h : x.IsNaN) :
    x.toSingle = .ofCode x.isNegative (narrowNaN (Format.double.code x.bits.toNat)) := by
  simp only [toSingle, show x.datum = .nan from h]
  rfl

/-- The code of a NaN stays above that of infinity. -/
theorem narrowNaN_bounds {code : Nat} (h : code < Format.double.signWeight) :
    Format.single.infinity < narrowNaN code ∧ narrowNaN code < Format.single.signWeight := by
  have hdouble : Format.double.infinity + 2 ^ 52 = Format.double.signWeight := by decide +kernel
  have hsingle : Format.single.infinity + 2 ^ 23 = Format.single.signWeight := by decide +kernel
  have hkept : (code - Format.double.infinity) >>> extraPrecision < 2 ^ 23 := by
    have hextra : extraPrecision = 29 := rfl
    rw [hextra, Nat.shiftRight_eq_div_pow]
    omega
  have hlow : 2 ^ 22 ≤ (code - Format.double.infinity) >>> extraPrecision ||| 2 ^ 22 :=
    Nat.right_le_or
  have hhigh : (code - Format.double.infinity) >>> extraPrecision ||| 2 ^ 22 < 2 ^ 23 :=
    Nat.or_lt_two_pow hkept (by decide)
  have hcode : narrowNaN code = Format.single.infinity +
      ((code - Format.double.infinity) >>> extraPrecision ||| 2 ^ 22) := rfl
  omega

theorem isNaN_toSingle (h : x.IsNaN) : x.toSingle.IsNaN := by
  have hcode : Format.double.code x.bits.toNat < Format.double.signWeight :=
    Nat.mod_lt _ (Nat.two_pow_pos _)
  obtain ⟨hlow, hhigh⟩ := narrowNaN_bounds hcode
  rw [toSingle_of_nan h, Single.IsNaN, Single.datum_ofCode hhigh, if_neg (by omega),
    if_neg (by omega)]

/-- A sign is kept, whatever becomes of the magnitude. -/
theorem isNegative_toSingle (h : ¬ x.IsNaN) : x.toSingle.isNegative = x.isNegative := by
  have hweight := single_infinity_lt_signWeight
  rcases Format.datum_eq_finite_or_infinite h with ⟨hdatum, -⟩ | ⟨hdatum, -⟩
  · rw [toSingle_of_finite hdatum, Single.isNegative_ofCode (by omega)]
  · rw [toSingle_of_infinite hdatum, Single.isNegative_ofCode hweight]

theorem datum_toSingle_of_infinite {negative : Bool} (h : x.datum = .infinite negative) :
    x.toSingle.datum = .infinite x.isNegative := by
  rw [toSingle_of_infinite h, Single.datum_ofCode single_infinity_lt_signWeight, if_neg (by omega),
    if_pos rfl]

/-- From half a step above the greatest finite magnitude on, a number becomes infinity. -/
theorem datum_toSingle_of_finite {code : Nat} (h : x.datum = .finite x.isNegative code) :
    x.toSingle.datum =
      if Format.double.magnitude code < 2 ^ 128 - 2 ^ 103 then
        .finite x.isNegative (narrowed code)
      else .infinite x.isNegative := by
  have hweight := single_infinity_lt_signWeight
  rw [toSingle_of_finite h, Single.datum_ofCode (by omega)]
  by_cases hcode : narrowed code < Format.single.infinity
  · rw [if_pos ((narrowed_lt_infinity_iff code).mp hcode), Nat.min_eq_left hcode.le, if_pos hcode]
  · rw [if_neg (mt (narrowed_lt_infinity_iff code).mpr hcode),
      Nat.min_eq_right (Nat.le_of_not_lt hcode), if_neg (by omega), if_pos rfl]

end Double

/-! ## Correct rounding -/

/-- The single precision number `y` is the double precision number `x` correctly
rounded. -/
structure Single.IsRounded (y : Single) (x : Double) : Prop where
  nan : x.IsNaN → y.IsNaN
  sign : ¬ x.IsNaN → y.isNegative = x.isNegative
  infinite : ∀ negative, x.datum = .infinite negative → y.datum = .infinite negative
  /-- What is too large becomes infinity. -/
  overflow : ∀ q, x.number? = some q → 2 ^ 128 - 2 ^ 103 ≤ |q| →
    y.datum = .infinite x.isNegative
  /-- Everything else becomes a finite number, and no single precision number is nearer.
  If one with another value is equally near, it has an odd significand and `y` an even
  one. -/
  nearest : ∀ q, x.number? = some q → |q| < 2 ^ 128 - 2 ^ 103 → ∃ r, y.number? = some r ∧
    ∀ (z : Single) (t : ℚ), z.number? = some t → |r - q| ≤ |t - q| ∧
      (t ≠ r → |t - q| = |r - q| → y.significand % 2 = 0 ∧ z.significand % 2 = 1)

namespace Double

variable {x : Double}

/-- A number of the other sign is never as near, unless both are zero. -/
theorem number_eq_of_tie {m n : Bool} {code : Nat}
    (htie : |Format.single.number m (narrowed code) - Format.double.number n code| =
      |Format.single.number n (narrowed code) - Format.double.number n code|) :
    Format.single.number m (narrowed code) = Format.single.number n (narrowed code) := by
  by_cases hmn : m = n
  · rw [hmn]
  · have hzero := abs_magnitude_narrowed_sub_le code 0
    have hsingle := Format.magnitude_nonneg (f := .single) (narrowed code)
    have hdouble := Format.magnitude_nonneg (f := .double) code
    rw [Format.magnitude_zero, zero_sub, abs_neg, abs_of_nonneg hdouble] at hzero
    rw [Format.abs_number_sub] at htie
    have hsum : Format.single.magnitude (narrowed code) + Format.double.magnitude code =
        |Format.single.magnitude (narrowed code) - Format.double.magnitude code| := by
      rw [← htie, ← abs_of_nonneg (add_nonneg hsingle hdouble)]
      cases m <;> cases n
      · exact absurd rfl hmn
      · simp [Format.number, signFactor]
      · rw [← abs_neg]
        simp [Format.number, signFactor, sub_eq_add_neg, add_comm]
      · exact absurd rfl hmn
    have hmagnitude : Format.single.magnitude (narrowed code) = 0 := by linarith
    rw [Format.number, Format.number, hmagnitude, mul_zero, mul_zero]

/-- **No single precision number is nearer**, of whatever sign; one with another value
that is equally near has an odd code, and the nearest one an even code. -/
theorem number_narrowed_nearest (m n : Bool) (code other : Nat) :
    |Format.single.number n (narrowed code) - Format.double.number n code| ≤
        |Format.single.number m other - Format.double.number n code| ∧
      (Format.single.number m other ≠ Format.single.number n (narrowed code) →
        |Format.single.number m other - Format.double.number n code| =
          |Format.single.number n (narrowed code) - Format.double.number n code| →
        narrowed code % 2 = 0 ∧ other % 2 = 1) := by
  have hother : |Format.single.magnitude other - Format.double.magnitude code| ≤
      |Format.single.number m other - Format.double.number n code| :=
    Format.abs_magnitude_sub_le Format.double m n other code
  have hclosest := abs_magnitude_narrowed_sub_le code other
  constructor
  · rw [Format.abs_number_sub]
    exact hclosest.trans hother
  · intro hne htie
    have hcode : other ≠ narrowed code := by
      intro hsame
      rw [hsame] at hne htie
      exact hne (number_eq_of_tie htie)
    rw [htie, Format.abs_number_sub] at hother
    exact parity_of_magnitude_tie hcode (le_antisymm hother hclosest)

/-- **Rounding to single precision is correct.** -/
theorem isRounded_toSingle (x : Double) : x.toSingle.IsRounded x where
  nan := isNaN_toSingle
  sign := isNegative_toSingle
  infinite negative h := by
    have hnumber : x.datum ≠ .nan := by rw [h]; nofun
    rcases Format.datum_eq_finite_or_infinite hnumber with ⟨hdatum, -⟩ | ⟨hdatum, -⟩
    · exact absurd (hdatum.symm.trans h) nofun
    · rw [datum_toSingle_of_infinite h]
      exact hdatum.symm.trans h
  overflow q hq hlarge := by
    obtain ⟨hdatum, rfl⟩ := Format.datum_of_number?_eq_some hq
    rw [Format.abs_number] at hlarge
    rw [datum_toSingle_of_finite hdatum, if_neg hlarge.not_gt]
  nearest q hq hsmall := by
    obtain ⟨hdatum, rfl⟩ := Format.datum_of_number?_eq_some hq
    rw [Format.abs_number] at hsmall
    have hsingle := datum_toSingle_of_finite hdatum
    rw [if_pos hsmall] at hsingle
    have hnumber : x.toSingle.number? = some (Format.single.number x.isNegative
        (narrowed (Format.double.code x.bits.toNat))) := by
      rw [Single.number?, hsingle]
      rfl
    refine ⟨_, hnumber, fun z t hz => ?_⟩
    obtain ⟨-, rfl⟩ := Format.datum_of_number?_eq_some hz
    obtain ⟨hclosest, htie⟩ := number_narrowed_nearest z.isNegative x.isNegative
      (Format.double.code x.bits.toNat) (Format.single.code z.bits.toNat)
    refine ⟨hclosest, fun hne hequal => ?_⟩
    obtain ⟨heven, hodd⟩ := htie hne hequal
    rw [Single.significand, Single.significand, Format.significand_mod_two (by decide),
      Format.significand_mod_two (by decide), Single.code_of_datum hsingle]
    exact ⟨heven, hodd⟩

end Double

/-! ## Order -/

namespace Single

/-- A place other than zero is that of one number only, and zero that of one number of each
sign. -/
theorem eq_of_extended?_eq {y z : Single} {v : WithBotTop ℚ} (hy : y.extended? = some v)
    (hz : z.extended? = some v) (h : v ≠ 0 ∨ z.isNegative = y.isNegative) : y = z := by
  obtain ⟨hyv, hyc⟩ := Format.extended_of_extended?_eq_some hy
  obtain ⟨hzv, hzc⟩ := Format.extended_of_extended?_eq_some hz
  obtain ⟨hcode, hsign⟩ := Format.sign_code_of_extended_eq hyc hzc (by decide +kernel)
    (hyv.symm.trans hzv)
  have hsign : y.isNegative = z.isNegative := by
    rcases h with h | h
    · exact hsign (hyv ▸ h)
    · exact h.symm
  exact Single.ext (UInt32.toNat_inj.mp
    (Format.eq_of_sign_code_eq (f := .single) y.bits.toNat_lt z.bits.toNat_lt hsign hcode))

theorem extended?_ofCode {negative : Bool} {code : Nat} (h : code ≤ Format.single.infinity) :
    (ofCode negative code).extended? = some (Format.single.extended negative code) := by
  have hweight := single_infinity_lt_signWeight
  rw [extended?, datum_ofCode (by omega)]
  rcases Nat.lt_or_eq_of_le h with h | rfl
  · rw [if_pos h, Format.extended_of_lt h]
    rfl
  · rw [if_neg (by omega), if_pos rfl, Format.extended_of_le le_rfl]
    cases negative <;> rfl

end Single

namespace Double

variable {x y : Double}

/-- Infinity is too large to become anything else. -/
theorem infinity_le_narrowed : Format.single.infinity ≤ narrowed Format.double.infinity := by
  have hunits : 2 ^ 128 * Format.double.one ≤ Format.double.units Format.double.infinity := by
    decide +kernel
  have hmagnitude : 2 ^ 128 ≤ Format.double.magnitude Format.double.infinity := by
    rw [Format.magnitude, le_div_iff₀ Format.one_pos]
    exact_mod_cast hunits
  refine Nat.le_of_not_lt fun hfinite => ?_
  have hbelow := (narrowed_lt_infinity_iff _).mp hfinite
  linarith

/-- A number is put at the place of its sign and of the code nearest to its magnitude. -/
theorem extended?_toSingle (h : ¬ x.IsNaN) :
    x.toSingle.extended? =
      some (Format.single.extended x.isNegative (narrowed (Format.double.code x.bits.toNat))) := by
  rcases Format.datum_eq_finite_or_infinite h with ⟨hdatum, -⟩ | ⟨hdatum, hcode⟩
  · rw [toSingle_of_finite hdatum, Single.extended?_ofCode (Nat.min_le_right _ _),
      Format.extended_min]
  · rw [toSingle_of_infinite hdatum, Single.extended?_ofCode le_rfl, hcode,
      Format.extended_of_le infinity_le_narrowed, Format.extended_of_le le_rfl]

/-- A magnitude that both formats have becomes itself. -/
theorem narrowed_eq_of_magnitude_eq {c d : Nat}
    (h : Format.single.magnitude c = Format.double.magnitude d) : narrowed d = c := by
  have hclosest := abs_magnitude_narrowed_sub_le d c
  rw [h, sub_self, abs_zero] at hclosest
  have hequal := sub_eq_zero.mp (abs_eq_zero.mp (le_antisymm hclosest (abs_nonneg _)))
  exact Format.single.magnitude_strictMono.injective (hequal.trans h.symm)

/-- **Nothing happens to a place that single precision has.** -/
theorem extended_narrowed_eq {m n : Bool} {c d : Nat} (hd : d ≤ Format.double.infinity)
    (h : Format.single.extended m c = Format.double.extended n d) :
    Format.single.extended n (narrowed d) = Format.double.extended n d := by
  rcases Nat.lt_or_eq_of_le hd with hd | rfl
  · obtain ⟨hc, hnumber⟩ := Format.number_eq_of_extended_eq hd h
    have hmagnitude : Format.single.magnitude c = Format.double.magnitude d := by
      rw [← Format.abs_number m c, hnumber, Format.abs_number]
    rw [narrowed_eq_of_magnitude_eq hmagnitude, Format.extended_of_lt hc,
      Format.extended_of_lt hd, Format.number,
      Format.number, hmagnitude]
  · rw [Format.extended_of_le infinity_le_narrowed, Format.extended_of_le le_rfl]

/-- **Rounding to single precision keeps the order of numbers.** -/
theorem extended_toSingle_mono {m n : Bool} {c d : Nat} (hc : c ≤ Format.double.infinity)
    (hd : d ≤ Format.double.infinity)
    (h : Format.double.extended m c ≤ Format.double.extended n d) :
    Format.single.extended m (narrowed c) ≤ Format.single.extended n (narrowed d) := by
  have hmono : Monotone fun code => min (narrowed code) Format.single.infinity :=
    fun _ _ hle => min_le_min_right _
      (narrowed_mono (Format.double.magnitude_strictMono.monotone hle))
  have hzero : min (narrowed 0) Format.single.infinity = 0 := by
    rw [narrowed_eq_of_magnitude_eq (Format.magnitude_zero.trans Format.magnitude_zero.symm),
      Nat.zero_min]
  rw [Format.extended_le_extended_iff hc hd (by decide +kernel)] at h
  rw [← Format.extended_min m, ← Format.extended_min n,
    Format.extended_le_extended_iff (Nat.min_le_right _ _) (Nat.min_le_right _ _)
      (by decide +kernel)]
  exact signedCode_mono hmono hzero h

/-- A number that single precision has is left as it is. -/
theorem extended?_toSingle_eq {z : Single} {v : WithBotTop ℚ} (hz : z.extended? = some v)
    (hx : x.extended? = some v) : x.toSingle.extended? = some v := by
  obtain ⟨hzv, -⟩ := Format.extended_of_extended?_eq_some hz
  obtain ⟨hxv, hxc⟩ := Format.extended_of_extended?_eq_some hx
  rw [extended?_toSingle (Datum.ne_nan_of_extended?_eq_some hx), hxv]
  exact congrArg some (extended_narrowed_eq hxc (hzv.symm.trans hxv))

end Double

namespace Value

/-- **A double precision number is boxed as the nearest single precision number.**

* What is retrieved is the number correctly rounded: a finite one that is nearest, with
  an even significand if another one is equally near; the infinity of the same sign
  from `2 ^ 128 - 2 ^ 103` on; a NaN for a NaN; and otherwise with the same sign.
* What single precision has is retrieved as it is, bit by bit; of the two zeros, the
  one with the sign that was boxed.
* Greater numbers are retrieved as numbers that are not smaller. -/
theorem singleOfDouble_retrieved_nearest [StoredTypes] (x : Double) :
    ∃ y : Single, (singleOfDouble x).getSingle = .ok y ∧ y.IsRounded x ∧
      (∀ (z : Single) v, z.extended? = some v → x.extended? = some v →
        y.extended? = some v ∧ (v ≠ 0 ∨ z.isNegative = x.isNegative → y = z)) ∧
      (∀ (x' : Double) (y' : Single) v v', (singleOfDouble x').getSingle = .ok y' →
        x.extended? = some v → x'.extended? = some v' → v ≤ v' →
          ∃ w w', y.extended? = some w ∧ y'.extended? = some w' ∧ w ≤ w') := by
  refine ⟨x.toSingle, rfl, x.isRounded_toSingle, ?exact, ?monotone⟩
  case exact =>
    intro z v hz hx
    have hy := Double.extended?_toSingle_eq hz hx
    refine ⟨hy, fun h => Single.eq_of_extended?_eq hy hz ?_⟩
    rwa [Double.isNegative_toSingle (Binary.Datum.ne_nan_of_extended?_eq_some hx)]
  case monotone =>
    intro x' y' v v' hy' hx hx' hle
    obtain rfl : x'.toSingle = y' := Except.ok.inj hy'
    obtain ⟨rfl, hcode⟩ := Format.extended_of_extended?_eq_some hx
    obtain ⟨rfl, hcode'⟩ := Format.extended_of_extended?_eq_some hx'
    exact ⟨_, _, Double.extended?_toSingle (Binary.Datum.ne_nan_of_extended?_eq_some hx),
      Double.extended?_toSingle (Binary.Datum.ne_nan_of_extended?_eq_some hx'),
      Double.extended_toSingle_mono hcode hcode' hle⟩

/-- Half the least magnitude below zero is as near to it as to zero, and becomes negative
zero; half a step above the greatest number is infinity already; and `-1.5` stays. -/
theorem singleOfDouble_retrieved_nearest_at_ties :
    let tiny : Double := ⟨0xb690000000000000⟩
    let large : Double := ⟨0x47effffff0000000⟩
    let exact : Double := ⟨0xbff8000000000000⟩
    (∃ y : Single, (singleOfDouble tiny).getSingle = .ok y ∧
      y.number? = some 0 ∧ y.isNegative = true) ∧
    (∃ y : Single, (singleOfDouble large).getSingle = .ok y ∧ y.datum = .infinite false) ∧
    (singleOfDouble exact).getSingle = .ok ⟨0xbfc00000⟩ := by
  intro tiny large exact
  refine ⟨?tiny, ?large, ?exact⟩
  case tiny =>
    obtain ⟨y, hy, hround, -⟩ := singleOfDouble_retrieved_nearest tiny
    obtain rfl : tiny.toSingle = y := Except.ok.inj hy
    exact ⟨_, hy, by decide +kernel, hround.sign (by decide +kernel)⟩
  case large =>
    obtain ⟨y, hy, hround, -⟩ := singleOfDouble_retrieved_nearest large
    have hnumber : large.number? = some (2 ^ 128 - 2 ^ 103) := by decide +kernel
    exact ⟨y, hy, hround.overflow _ hnumber (by norm_num)⟩
  case exact =>
    obtain ⟨y, hy, -, hexact, -⟩ := singleOfDouble_retrieved_nearest exact
    have hsame : exact.extended? = some ((-3 / 2 : ℚ) : WithBotTop ℚ) := by
      decide +kernel
    have hsingle : Single.extended? ⟨0xbfc00000⟩ = some ((-3 / 2 : ℚ) : WithBotTop ℚ) := by
      decide +kernel
    rw [hy, (hexact _ _ hsingle hsame).2 (.inr (by decide +kernel))]

end Value
end TypedBox
