import Mathlib.Algebra.Order.Field.Basic
import Mathlib.Algebra.Order.Monoid.Unbundled.WithTop
import Mathlib.Order.WithBotTop
import Mathlib.Tactic.FieldSimp
import Mathlib.Tactic.NormNum
import TypedBox.Proofs.Nearest
import TypedBox.Proofs.NumberText

/-! # The order of floating-point numbers

The exact value of a datum is a rational number (`Datum.number?`); with the infinities
at both ends, data are ordered (`Datum.extended?`), a NaN apart.  A number is its sign
times its magnitude, so that distances between numbers of one sign are distances
between magnitudes.  The order is that of the codes with their signs
(`extended_le_extended_iff`), in which the two zeros are the same.
-/
namespace TypedBox
namespace Binary

/-! ## The values of data -/

/-- The factor that a sign stands for. -/
def signFactor (negative : Bool) : ℚ := if negative then -1 else 1

/-- A code with its sign. -/
def signedCode (negative : Bool) (code : Nat) : Int := if negative then -code else code

@[simp] theorem signedCode_false (code : Nat) : signedCode false code = code := rfl

@[simp] theorem signedCode_true (code : Nat) : signedCode true code = -code := rfl

theorem signedCode_bounds (negative : Bool) (code : Nat) :
    -(code : Int) ≤ signedCode negative code ∧ signedCode negative code ≤ code := by
  cases negative
  · rw [signedCode_false]
    omega
  · rw [signedCode_true]
    omega

/-- What keeps the order of magnitudes and zero keeps the order of numbers. -/
theorem signedCode_mono {g : Nat → Nat} (hmono : Monotone g) (hzero : g 0 = 0) {m n : Bool}
    {c d : Nat} (h : signedCode m c ≤ signedCode n d) :
    signedCode m (g c) ≤ signedCode n (g d) := by
  cases m <;> cases n <;> simp only [signedCode_false, signedCode_true] at h ⊢
  · have hle := hmono (show c ≤ d by omega)
    omega
  · obtain ⟨rfl, rfl⟩ : c = 0 ∧ d = 0 := by omega
    omega
  · omega
  · have hle := hmono (show d ≤ c by omega)
    omega

@[simp] theorem abs_signFactor (negative : Bool) : |signFactor negative| = 1 := by
  cases negative <;> simp [signFactor]

namespace Format

variable (f : Format)

/-- The magnitude with the given code as a number. -/
def magnitude (code : Nat) : ℚ := f.units code / f.one

/-- The number with the given sign and code. -/
def number (negative : Bool) (code : Nat) : ℚ := signFactor negative * f.magnitude code

/-- The whole number that the exponent scales. -/
def significand (code : Nat) : Nat :=
  if code < f.binade then code else f.binade + code % f.binade

end Format

namespace Datum

variable (f : Format)

/-- The number that a datum stands for, if it is finite. -/
def number? : Datum → Option ℚ
  | .finite negative code => some (f.number negative code)
  | _ => none

/-- The place of a datum in the order of numbers, the infinities being the ends of it.  A
NaN has no place. -/
def extended? : Datum → Option (WithBotTop ℚ)
  | .nan => none
  | .infinite true => some ⊥
  | .infinite false => some ⊤
  | .finite negative code => some (f.number negative code : ℚ)

theorem ne_nan_of_extended?_eq_some {f : Format} {d : Datum} {v : WithBotTop ℚ}
    (h : d.extended? f = some v) : d ≠ .nan := by
  rintro rfl
  cases h

end Datum

namespace Format

variable {f : Format}

theorem one_pos : (0 : ℚ) < f.one := Nat.cast_pos.mpr (Nat.two_pow_pos _)

theorem magnitude_nonneg (code : Nat) : 0 ≤ f.magnitude code :=
  div_nonneg (Nat.cast_nonneg _) one_pos.le

theorem magnitude_strictMono (f : Format) : StrictMono f.magnitude := fun _ _ h =>
  div_lt_div_of_pos_right (Nat.cast_lt.mpr (f.units_strictMono h)) one_pos

@[simp] theorem magnitude_zero : f.magnitude 0 = 0 := by
  have hunits : f.units 0 = 0 := if_pos f.binade_pos
  rw [magnitude, hunits, Nat.cast_zero, zero_div]

@[simp] theorem abs_number (negative : Bool) (code : Nat) :
    |f.number negative code| = f.magnitude code := by
  rw [number, abs_mul, abs_signFactor, one_mul, abs_of_nonneg (magnitude_nonneg code)]

/-- The significand is even just when the code is. -/
theorem significand_mod_two (hf : 1 < f.precision) (code : Nat) :
    f.significand code % 2 = code % 2 := by
  have heven := binade_even hf
  have hdvd : 2 ∣ f.binade := Nat.dvd_of_mod_eq_zero heven
  unfold significand
  split
  · rfl
  · rw [Nat.add_mod, heven, Nat.zero_add, Nat.mod_mod, Nat.mod_mod_of_dvd _ hdvd]

/-! ## Patterns of a sign and a code -/

theorem isNegative_pattern {negative : Bool} {code : Nat} (h : code < f.signWeight) :
    f.isNegative (f.pattern negative code) = negative := by
  unfold isNegative pattern
  cases negative with
  | false => simpa using h
  | true => simp

theorem code_pattern {negative : Bool} {code : Nat} (h : code < f.signWeight) :
    f.code (f.pattern negative code) = code := by
  rw [Format.code, pattern]
  cases negative with
  | false => simpa using Nat.mod_eq_of_lt h
  | true => simpa using Nat.mod_eq_of_lt h

/-- A pattern with a finite number shows its sign and its code. -/
theorem datum_of_number?_eq_some {bits : Nat} {q : ℚ} (h : (f.datum bits).number? f = some q) :
    f.datum bits = .finite (f.isNegative bits) (f.code bits) ∧
      q = f.number (f.isNegative bits) (f.code bits) := by
  have hnumber : f.datum bits ≠ .nan := by
    intro hnan
    rw [hnan] at h
    cases h
  rcases datum_eq_finite_or_infinite hnumber with ⟨hdatum, -⟩ | ⟨hdatum, -⟩
  · rw [hdatum] at h
    exact ⟨hdatum, (Option.some.inj h).symm⟩
  · rw [hdatum] at h
    cases h

/-! ## Distances between magnitudes -/

theorem abs_magnitude_sub (code : Nat) (m : ℚ) :
    |f.magnitude code - m| = |(f.units code : ℚ) - m * f.one| / f.one := by
  have hone : (0 : ℚ) < f.one := one_pos
  have hunits : f.magnitude code - m = ((f.units code : ℚ) - m * f.one) / f.one := by
    rw [magnitude]
    field_simp
  rw [hunits, abs_div, abs_of_pos hone]

/-- Numbers of one sign are as far apart as their magnitudes. -/
theorem abs_number_sub (g : Format) (negative : Bool) (c d : Nat) :
    |f.number negative c - g.number negative d| = |f.magnitude c - g.magnitude d| := by
  rw [number, number, ← mul_sub, abs_mul, abs_signFactor, one_mul]

/-- Numbers are at least as far apart as their magnitudes. -/
theorem abs_magnitude_sub_le (g : Format) (m n : Bool) (c d : Nat) :
    |f.magnitude c - g.magnitude d| ≤ |f.number m c - g.number n d| := by
  rw [← abs_number (f := f) m c, ← abs_number (f := g) n d]
  exact abs_abs_sub_abs_le _ _

/-! ## Order -/

variable {m n : Bool} {c d : Nat}

/-- The place of a sign and a code in the order of numbers, from the code of infinity on at
the ends of it. -/
def extended (f : Format) (negative : Bool) (code : Nat) : WithBotTop ℚ :=
  if code < f.infinity then (f.number negative code : ℚ) else if negative then ⊥ else ⊤

theorem extended_of_lt (h : c < f.infinity) : f.extended n c = (f.number n c : ℚ) :=
  if_pos h

theorem extended_of_le (h : f.infinity ≤ c) : f.extended n c = if n then ⊥ else ⊤ :=
  if_neg h.not_gt

theorem extended_min (n : Bool) (c : Nat) : f.extended n (min c f.infinity) = f.extended n c := by
  rcases Nat.lt_or_ge c f.infinity with h | h
  · rw [Nat.min_eq_left h.le]
  · rw [Nat.min_eq_right h, extended_of_le h, extended_of_le le_rfl]

/-- The place of a pattern is that of its sign and its code. -/
theorem extended_of_extended?_eq_some {bits : Nat} {v : WithBotTop ℚ}
    (h : (f.datum bits).extended? f = some v) :
    v = f.extended (f.isNegative bits) (f.code bits) ∧ f.code bits ≤ f.infinity := by
  rcases datum_eq_finite_or_infinite (Datum.ne_nan_of_extended?_eq_some h) with
    ⟨hdatum, hcode⟩ | ⟨hdatum, hcode⟩
  · rw [hdatum] at h
    rw [extended_of_lt hcode]
    exact ⟨(Option.some.inj h).symm, hcode.le⟩
  · rw [hdatum] at h
    rw [extended_of_le hcode.ge]
    cases hsign : f.isNegative bits <;> rw [hsign] at h <;>
      exact ⟨(Option.some.inj h).symm, hcode.le⟩

theorem number_le_number_iff :
    f.number m c ≤ f.number n d ↔ signedCode m c ≤ signedCode n d := by
  have hc := magnitude_nonneg (f := f) c
  have hd := magnitude_nonneg (f := f) d
  have hzero : ∀ e, f.magnitude e = 0 ↔ e = 0 := fun e => by
    rw [← magnitude_zero (f := f), (f.magnitude_strictMono).injective.eq_iff]
  cases m <;> cases n <;>
    simp only [number, signFactor, signedCode_false, signedCode_true, one_mul, neg_one_mul,
      if_true, if_false, Bool.false_eq_true]
  · rw [f.magnitude_strictMono.le_iff_le, Int.ofNat_le]
  · -- at most a number that is not positive: only zero is
    constructor
    · intro h
      have hc' : f.magnitude c = 0 := by linarith
      have hd' : f.magnitude d = 0 := by linarith
      rw [hzero] at hc' hd'
      omega
    · intro h
      obtain ⟨rfl, rfl⟩ : c = 0 ∧ d = 0 := by omega
      simp
  · exact iff_of_true (by linarith) (by omega)
  · rw [neg_le_neg_iff, f.magnitude_strictMono.le_iff_le, neg_le_neg_iff, Int.ofNat_le]

/-- **Numbers are ordered as their codes with the sign**, the infinities included. -/
theorem extended_le_extended_iff (hc : c ≤ f.infinity) (hd : d ≤ f.infinity)
    (hpos : 0 < f.infinity) :
    f.extended m c ≤ f.extended n d ↔ signedCode m c ≤ signedCode n d := by
  rcases Nat.lt_or_eq_of_le hc with hc | rfl <;> rcases Nat.lt_or_eq_of_le hd with hd | rfl
  · rw [extended_of_lt hc, extended_of_lt hd, WithBotTop.coe_le_coe, number_le_number_iff]
  · have hbounds := signedCode_bounds m c
    rw [extended_of_lt hc, extended_of_le le_rfl]
    cases n
    · exact iff_of_true le_top (by rw [signedCode_false]; omega)
    · exact iff_of_false (WithBot.bot_lt_coe _).not_ge (by rw [signedCode_true]; omega)
  · have hbounds := signedCode_bounds n d
    rw [extended_of_le le_rfl, extended_of_lt hd]
    cases m
    · exact iff_of_false (WithBot.coe_lt_coe.mpr (WithTop.coe_lt_top _)).not_ge
        (by rw [signedCode_false]; omega)
    · exact iff_of_true bot_le (by rw [signedCode_true]; omega)
  · rw [extended_of_le le_rfl, extended_of_le le_rfl]
    cases m <;> cases n <;> simp
    omega

/-- What has the place of a finite number is a finite number itself, of whatever format. -/
theorem number_eq_of_extended_eq {g : Format} (hd : d < g.infinity)
    (h : f.extended m c = g.extended n d) :
    c < f.infinity ∧ f.number m c = g.number n d := by
  rw [extended_of_lt hd] at h
  rcases Nat.lt_or_ge c f.infinity with hc | hc
  · rw [extended_of_lt hc] at h
    exact ⟨hc, WithBotTop.coe_injective h⟩
  · rw [extended_of_le hc] at h
    cases m
    · exact absurd h.symm (WithBot.coe_lt_coe.mpr (WithTop.coe_lt_top _)).ne
    · exact absurd h WithBot.bot_ne_coe

/-- The place determines the code, and the sign except at zero. -/
theorem sign_code_of_extended_eq (hc : c ≤ f.infinity) (hd : d ≤ f.infinity)
    (hpos : 0 < f.infinity) (h : f.extended m c = f.extended n d) :
    c = d ∧ (f.extended m c ≠ 0 → m = n) := by
  have hle := (extended_le_extended_iff hc hd hpos).mp h.le
  have hge := (extended_le_extended_iff hd hc hpos).mp h.ge
  have hzero : f.extended m 0 = 0 := by
    rw [extended_of_lt hpos, number, magnitude_zero, mul_zero]
    rfl
  cases m <;> cases n <;> simp only [signedCode_false, signedCode_true] at hle hge
  · exact ⟨by omega, fun _ => rfl⟩
  · obtain ⟨rfl, rfl⟩ : c = 0 ∧ d = 0 := by omega
    exact ⟨rfl, fun hne => absurd hzero hne⟩
  · obtain ⟨rfl, rfl⟩ : c = 0 ∧ d = 0 := by omega
    exact ⟨rfl, fun hne => absurd hzero hne⟩
  · exact ⟨by omega, fun _ => rfl⟩

end Format
end Binary
end TypedBox
