import Mathlib.Data.Nat.Cast.Order.Field
import Mathlib.Tactic.FieldSimp
import TypedBox.Proofs.Nearest

/-! # Rounding finds the nearest magnitude

Rounding without an upper end finds the nearest code (`isNearest_nearestUnbounded`), for
the reason that the magnitudes around a number are the multiples of one power of two, its
steps, and the coarser and finer ones further away are no nearer.  Among the multiples
themselves the rounded quotient is the nearest, as it is among all whole numbers.
-/
namespace TypedBox
namespace Binary

/-! ## Whole numbers -/

section Whole

variable (num : Nat) {den : Nat}

/-- The rounded quotient is at most a half away, and even if it is just a half away. -/
theorem roundHalfEven_bounds (hden : 0 < den) :
    2 * num ≤ 2 * (den * roundHalfEven num den) + den ∧
      2 * (den * roundHalfEven num den) ≤ 2 * num + den ∧
      (2 * num = 2 * (den * roundHalfEven num den) + den ∨
        2 * (den * roundHalfEven num den) = 2 * num + den → roundHalfEven num den % 2 = 0) := by
  have hsplit := Nat.div_add_mod num den
  have hrest := Nat.mod_lt num hden
  have hnext : den * (num / den + 1) = den * (num / den) + den := Nat.mul_succ _ _
  unfold roundHalfEven
  simp only
  split
  next hbelow => omega
  next hbelow =>
    split
    next habove => omega
    next habove =>
      -- just in the middle
      split
      next heven => omega
      next hodd => omega

theorem abs_roundHalfEven_sub_le (hden : 0 < den) :
    |(roundHalfEven num den : ℚ) - num / den| ≤ 1 / 2 := by
  have hpos : (0 : ℚ) < den := Nat.cast_pos.mpr hden
  obtain ⟨hlow, hhigh, -⟩ := roundHalfEven_bounds num hden
  have hlow : (2 * num : ℚ) ≤ 2 * (den * roundHalfEven num den) + den := by exact_mod_cast hlow
  have hhigh : (2 * (den * roundHalfEven num den) : ℚ) ≤ 2 * num + den := by exact_mod_cast hhigh
  rw [abs_le]
  constructor
  · rw [neg_le_sub_iff_le_add, div_le_iff₀ hpos]
    linarith
  · rw [sub_le_iff_le_add', ← sub_le_iff_le_add, le_div_iff₀ hpos]
    linarith

theorem even_roundHalfEven_of_tie (hden : 0 < den)
    (h : |(roundHalfEven num den : ℚ) - num / den| = 1 / 2) :
    roundHalfEven num den % 2 = 0 := by
  have hpos : (0 : ℚ) < den := Nat.cast_pos.mpr hden
  obtain ⟨-, -, heven⟩ := roundHalfEven_bounds num hden
  refine heven ?_
  rcases (abs_eq (by norm_num)).mp h with h | h
  · right
    rw [sub_eq_iff_eq_add, ← sub_eq_iff_eq_add', eq_div_iff hpos.ne'] at h
    have : (2 * (den * roundHalfEven num den) : ℚ) = 2 * num + den := by linarith
    exact_mod_cast this
  · left
    rw [sub_eq_iff_eq_add, ← sub_eq_iff_eq_add', eq_div_iff hpos.ne'] at h
    have : (2 * num : ℚ) = 2 * (den * roundHalfEven num den) + den := by linarith
    exact_mod_cast this

/-- Every other whole number is at least a half away. -/
theorem half_le_abs_sub_of_ne (hden : 0 < den) {m : Nat} (hm : m ≠ roundHalfEven num den) :
    1 / 2 ≤ |(m : ℚ) - num / den| := by
  have hclose := abs_roundHalfEven_sub_le num hden
  have hapart : (1 : ℚ) ≤ |(m : ℚ) - roundHalfEven num den| := by
    have hint : (m : Int) - roundHalfEven num den ≠ 0 := by omega
    exact_mod_cast Int.one_le_abs hint
  have htriangle := abs_sub_le (m : ℚ) (num / den) (roundHalfEven num den)
  rw [abs_sub_comm ((num : ℚ) / den)] at htriangle
  linarith

/-- No whole number is nearer than the rounded quotient. -/
theorem abs_roundHalfEven_sub_le_abs (hden : 0 < den) (m : Nat) :
    |(roundHalfEven num den : ℚ) - num / den| ≤ |(m : ℚ) - num / den| := by
  by_cases hm : m = roundHalfEven num den
  · rw [hm]
  · exact (abs_roundHalfEven_sub_le num hden).trans (half_le_abs_sub_of_ne num hden hm)

end Whole

namespace Format

variable {f : Format}

/-! ## Steps -/

section Rounding

variable (num : Nat) {den : Nat}

theorem two_mul_binade (hf : 0 < f.precision) : 2 * f.binade = 2 ^ f.precision := by
  rw [binade, ← Nat.pow_add_one', Nat.sub_add_cancel hf]

theorem div_lt_two_pow (f : Format) (den : Nat) :
    num / den < 2 ^ (f.precision + f.excess num den) := by
  have hlog : num / den < 2 ^ ((num / den).log2 + 1) := Nat.lt_log2_self
  refine Nat.lt_of_lt_of_le hlog (Nat.pow_le_pow_right (by decide) ?_)
  unfold excess
  omega

theorem two_pow_le_div (hf : 0 < f.precision) (h : 0 < f.excess num den) :
    f.binade * 2 ^ f.excess num den ≤ num / den := by
  have hne : num / den ≠ 0 := by
    intro hzero
    rw [excess, hzero, Nat.log2_zero] at h
    omega
  have hexponent : f.precision - 1 + f.excess num den = (num / den).log2 := by
    unfold excess at h ⊢
    omega
  rw [binade, ← Nat.pow_add, hexponent]
  exact Nat.log2_self_le hne

/-- The rounded significand does not exceed the first one of the next binade, and from
the second binade on it is not below the first one of its own. -/
theorem significand_bounds (hf : 0 < f.precision) (den : Nat) :
    let k := f.excess num den
    let m := roundHalfEven num (den * 2 ^ k)
    m ≤ 2 * f.binade ∧ (k = 0 ∨ f.binade ≤ m) := by
  intro k m
  have hpow : 0 < 2 ^ k := Nat.two_pow_pos k
  have hquotient : num / (den * 2 ^ k) = num / den / 2 ^ k := (Nat.div_div_eq_div_mul ..).symm
  have hround := roundHalfEven_eq_div_or num (den * 2 ^ k)
  rw [hquotient] at hround
  constructor
  · have hlt : num / den / 2 ^ k < 2 * f.binade := by
      rw [Nat.div_lt_iff_lt_mul hpow, two_mul_binade hf, ← Nat.pow_add]
      exact div_lt_two_pow num f den
    change roundHalfEven num (den * 2 ^ k) ≤ _
    omega
  · rcases Nat.eq_zero_or_pos k with hk | hk
    · exact .inl hk
    · have hle : f.binade ≤ num / den / 2 ^ k :=
        (Nat.le_div_iff_mul_le hpow).mpr (two_pow_le_div num hf hk)
      right
      change f.binade ≤ roundHalfEven num (den * 2 ^ k)
      omega

/-- The magnitude that is rounded to is a whole number of steps, of the size that the
rounded number calls for. -/
theorem units_nearestUnbounded (hf : 0 < f.precision) (den : Nat) :
    f.units (f.nearestUnbounded num den) =
      roundHalfEven num (den * 2 ^ f.excess num den) * 2 ^ f.excess num den := by
  obtain ⟨hhigh, hlow⟩ := significand_bounds num hf den
  exact units_scaled hhigh hlow

/-- Distances in units are distances in steps, as many times as a step has units. -/
theorem abs_mul_two_pow_sub (m k : Nat) (hden : 0 < den) :
    |((m * 2 ^ k : Nat) : ℚ) - num / den| = 2 ^ k * |(m : ℚ) - num / (den * 2 ^ k : Nat)| := by
  have hpos : (0 : ℚ) < den := Nat.cast_pos.mpr hden
  have hpow : (0 : ℚ) < 2 ^ k := by positivity
  have hsteps : ((m * 2 ^ k : Nat) : ℚ) - num / den =
      2 ^ k * ((m : ℚ) - num / (den * 2 ^ k : Nat)) := by
    push_cast
    field_simp
  rw [hsteps, abs_mul, abs_of_pos hpow]

/-- **The error of rounding is at most half a step.** -/
theorem abs_units_nearestUnbounded_sub_le (hf : 0 < f.precision) (hden : 0 < den) :
    |(f.units (f.nearestUnbounded num den) : ℚ) - num / den| ≤ 2 ^ f.excess num den / 2 := by
  rw [units_nearestUnbounded num hf den, abs_mul_two_pow_sub num _ _ hden]
  have hhalf := abs_roundHalfEven_sub_le num
    (Nat.mul_pos hden (Nat.two_pow_pos (f.excess num den)))
  have hpow : (0 : ℚ) < 2 ^ f.excess num den := by positivity
  calc (2 : ℚ) ^ f.excess num den * _ ≤ 2 ^ f.excess num den * (1 / 2) :=
        mul_le_mul_of_nonneg_left hhalf hpow.le
    _ = 2 ^ f.excess num den / 2 := by ring

/-- A number with few enough digits has steps of at most so many units. -/
theorem excess_le (hf : 0 < f.precision) {j : Nat} (h : num / den < 2 ^ (f.precision + j)) :
    f.excess num den ≤ j := by
  unfold excess
  rcases Nat.eq_zero_or_pos (num / den) with hzero | hpos
  · rw [hzero, Nat.log2_zero]
    omega
  · have hlog := (Nat.log2_lt hpos.ne').mpr h
    omega

/-- What is a whole number of large enough steps is not changed. -/
theorem units_nearestUnbounded_mul_two_pow (hf : 0 < f.precision) {m j : Nat}
    (hm : m < 2 ^ f.precision) :
    f.units (f.nearestUnbounded (m * 2 ^ j) 1) = m * 2 ^ j := by
  have hexcess : f.excess (m * 2 ^ j) 1 ≤ j := by
    refine excess_le _ hf ?_
    rw [Nat.div_one, Nat.pow_add]
    exact Nat.mul_lt_mul_of_pos_right hm (Nat.two_pow_pos j)
  obtain ⟨i, hi⟩ := Nat.exists_eq_add_of_le hexcess
  have hsteps : m * 2 ^ j = m * 2 ^ i * 2 ^ f.excess (m * 2 ^ j) 1 := by
    rw [Nat.mul_assoc, ← Nat.pow_add, Nat.add_comm i, ← hi]
  rw [units_nearestUnbounded _ hf, Nat.one_mul]
  generalize f.excess (m * 2 ^ j) 1 = k at hsteps ⊢
  rw [hsteps, roundHalfEven_mul _ (Nat.two_pow_pos k)]

/-- A magnitude is a whole number of steps, or else less than all those that can be
nearest. -/
theorem units_eq_steps_or_lt (k code : Nat) :
    (∃ m, f.units code = m * 2 ^ k) ∨ (0 < k ∧ f.units code < f.binade * 2 ^ k) := by
  obtain ⟨j, m, rfl, hm, hj⟩ := f.exists_scaled code
  rw [units_scaled hm.le hj]
  rcases Nat.lt_or_ge j k with h | h
  · right
    obtain ⟨i, rfl⟩ := Nat.exists_eq_add_of_lt h
    refine ⟨by omega, ?_⟩
    have hbelow : m * 2 ^ j < 2 * f.binade * 2 ^ j :=
      Nat.mul_lt_mul_of_pos_right hm (Nat.two_pow_pos j)
    have hgrow : 2 ^ (j + 1) ≤ 2 ^ (j + i + 1) := Nat.pow_le_pow_right (by decide) (by omega)
    calc m * 2 ^ j < 2 * f.binade * 2 ^ j := hbelow
      _ = f.binade * 2 ^ (j + 1) := by rw [Nat.pow_succ]; ring
      _ ≤ f.binade * 2 ^ (j + i + 1) := Nat.mul_le_mul_left _ hgrow
  · left
    obtain ⟨i, rfl⟩ := Nat.exists_eq_add_of_le h
    exact ⟨m * 2 ^ i, by rw [Nat.pow_add]; ring⟩

/-- A code of a binade too low is further away than the one that is rounded to: the
first magnitude of the right binade lies between. -/
theorem abs_nearestUnbounded_sub_lt_of_lt (hf : 0 < f.precision) (hden : 0 < den) {other : Nat}
    (hpos : 0 < f.excess num den)
    (h : f.units other < f.binade * 2 ^ f.excess num den) :
    |(f.units (f.nearestUnbounded num den) : ℚ) - num / den| <
      |(f.units other : ℚ) - num / den| := by
  have hsteps : 0 < den * 2 ^ f.excess num den := Nat.mul_pos hden (Nat.two_pow_pos _)
  have hpow : (0 : ℚ) ≤ 2 ^ f.excess num den := by positivity
  have hfirst : ((f.binade * 2 ^ f.excess num den : Nat) : ℚ) ≤ num / den :=
    (Nat.cast_le.mpr (two_pow_le_div num hf hpos)).trans Nat.cast_div_le
  have hbelow : (f.units other : ℚ) < (f.binade * 2 ^ f.excess num den : Nat) :=
    Nat.cast_lt.mpr h
  calc |(f.units (f.nearestUnbounded num den) : ℚ) - num / den|
      ≤ |((f.binade * 2 ^ f.excess num den : Nat) : ℚ) - num / den| := by
        rw [units_nearestUnbounded num hf den, abs_mul_two_pow_sub num _ _ hden,
          abs_mul_two_pow_sub num _ _ hden]
        exact mul_le_mul_of_nonneg_left
          (abs_roundHalfEven_sub_le_abs num hsteps f.binade) hpow
    _ < |(f.units other : ℚ) - num / den| := by
        rw [abs_of_nonpos (by linarith), abs_of_neg (by linarith)]
        linarith

/-- **Rounding without an upper end finds the nearest code.** -/
theorem isNearest_nearestUnbounded (hf : 1 < f.precision) (hden : 0 < den) :
    f.IsNearest (num / den) (f.nearestUnbounded num den) := by
  have hf' : 0 < f.precision := Nat.lt_of_succ_lt hf
  have hsteps : 0 < den * 2 ^ f.excess num den := Nat.mul_pos hden (Nat.two_pow_pos _)
  have hpow : (0 : ℚ) < 2 ^ f.excess num den := by positivity
  constructor
  case closest =>
    intro other
    rcases f.units_eq_steps_or_lt (f.excess num den) other with ⟨m, hm⟩ | ⟨hpos, hlow⟩
    · rw [units_nearestUnbounded num hf' den, hm, abs_mul_two_pow_sub num _ _ hden,
        abs_mul_two_pow_sub num _ _ hden]
      exact mul_le_mul_of_nonneg_left (abs_roundHalfEven_sub_le_abs num hsteps m) hpow.le
    · exact (abs_nearestUnbounded_sub_lt_of_lt num hf' hden hpos hlow).le
  case even_of_tie =>
    intro other hne htie
    rcases f.units_eq_steps_or_lt (f.excess num den) other with ⟨m, hm⟩ | ⟨hpos, hlow⟩
    · have hdistinct : m ≠ roundHalfEven num (den * 2 ^ f.excess num den) := by
        rintro rfl
        exact hne (f.units_strictMono.injective
          (hm.trans (units_nearestUnbounded num hf' den).symm))
      rw [units_nearestUnbounded num hf' den, hm, abs_mul_two_pow_sub num _ _ hden,
        abs_mul_two_pow_sub num _ _ hden] at htie
      have htie := mul_left_cancel₀ hpow.ne' htie
      -- both are a half step away, which rounding decides by evenness
      have hhalf := half_le_abs_sub_of_ne num hsteps hdistinct
      have heven := even_roundHalfEven_of_tie num hsteps
        (le_antisymm (abs_roundHalfEven_sub_le num hsteps) (htie ▸ hhalf))
      have hbinade := binade_even hf
      rw [nearestUnbounded, Nat.add_mod, Nat.mul_mod, hbinade, heven, Nat.mul_zero, Nat.zero_mod]
    · exact absurd htie (abs_nearestUnbounded_sub_lt_of_lt num hf' hden hpos hlow).ne'

end Rounding
end Format
end Binary
end TypedBox
