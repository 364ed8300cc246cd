import Mathlib.Algebra.Order.Field.Rat
import Mathlib.Algebra.Order.Ring.Abs
import Mathlib.Tactic.Linarith
import TypedBox.Proofs.ReadBack

/-! # The nearest magnitude

What a format rounds to is described without saying how it is found
(`Format.IsNearest`): no magnitude of the format is nearer, and of two equally near
ones it is the one with the even code.  Codes ascend with the magnitudes they stand for
(`units_strictMono`).  So at most one code is nearest in this sense
(`IsNearest.unique`), and the nearest codes ascend with the numbers that are rounded
(`IsNearest.mono`).
-/
namespace TypedBox
namespace Binary

namespace Format

variable {f : Format}

/-! ## Codes and units -/

theorem binade_pos : 0 < f.binade := Nat.two_pow_pos _

theorem binade_even (hf : 1 < f.precision) : f.binade % 2 = 0 := by
  obtain ⟨p, hp⟩ := Nat.exists_eq_add_of_lt hf
  rw [binade, hp, Nat.add_sub_cancel, Nat.add_comm 1 p, Nat.pow_succ]
  omega

/-- A code is a whole number of binades and a significand. -/
theorem exists_scaled (f : Format) (code : Nat) :
    ∃ k m, code = k * f.binade + m ∧ m < 2 * f.binade ∧ (k = 0 ∨ f.binade ≤ m) := by
  have hpos := f.binade_pos
  by_cases h : code < f.binade
  · exact ⟨0, code, by omega, by omega, .inl rfl⟩
  · have hdiv : 0 < code / f.binade := Nat.div_pos (Nat.le_of_not_lt h) hpos
    have hmod := Nat.mod_lt code hpos
    obtain ⟨k, hk⟩ := Nat.exists_eq_add_of_lt hdiv
    refine ⟨k, f.binade + code % f.binade, ?_, by omega, .inr (by omega)⟩
    have hsplit := Nat.div_add_mod code f.binade
    rw [hk, Nat.zero_add, Nat.mul_succ, Nat.mul_comm] at hsplit
    omega

/-- The significand counts multiples of a power of two.  The first significand that is
too large stands for the same magnitude as the first one of the next binade. -/
theorem units_scaled {k m : Nat} (hm : m ≤ 2 * f.binade) (h : k = 0 ∨ f.binade ≤ m) :
    f.units (k * f.binade + m) = m * 2 ^ k := by
  have hpos := f.binade_pos
  unfold units
  by_cases hsmall : m < f.binade
  · obtain rfl : k = 0 := h.resolve_right (by omega)
    rw [Nat.zero_mul, Nat.zero_add, if_pos hsmall, Nat.pow_zero, Nat.mul_one]
  · obtain ⟨r, rfl⟩ := Nat.exists_eq_add_of_le (Nat.le_of_not_lt hsmall)
    have hcode : k * f.binade + (f.binade + r) = r + (k + 1) * f.binade := by ring
    rw [if_neg (by omega), hcode, Nat.add_mul_mod_self_right, Nat.add_mul_div_right _ _ hpos]
    by_cases hlast : r < f.binade
    · rw [Nat.mod_eq_of_lt hlast, Nat.div_eq_of_lt hlast, Nat.zero_add, Nat.add_sub_cancel]
    · obtain rfl : r = f.binade := by omega
      have hexponent : 1 + (k + 1) - 1 = k + 1 := by omega
      rw [Nat.mod_self, Nat.div_self hpos, hexponent, Nat.add_zero, Nat.pow_succ]
      ring

/-- Neighbouring magnitudes are a power of two apart. -/
theorem exists_units_succ (f : Format) (code : Nat) :
    ∃ k, f.units (code + 1) = f.units code + 2 ^ k := by
  obtain ⟨k, m, rfl, hm, hk⟩ := f.exists_scaled code
  refine ⟨k, ?_⟩
  rw [Nat.add_assoc, units_scaled (by omega) (by omega), units_scaled (by omega) hk]
  ring

/-- **Codes ascend with the magnitudes they stand for.** -/
theorem units_strictMono (f : Format) : StrictMono f.units := by
  refine strictMono_nat_of_lt_succ fun code => ?_
  obtain ⟨k, hk⟩ := f.exists_units_succ code
  rw [hk]
  exact Nat.lt_add_of_pos_right (Nat.two_pow_pos k)

/-! ## The nearest code -/

/-- The code stands for a magnitude than which no other one is nearer to `x` units, and
has the even code if another one is equally near. -/
structure IsNearest (f : Format) (x : ℚ) (code : Nat) : Prop where
  closest : ∀ other, |(f.units code : ℚ) - x| ≤ |(f.units other : ℚ) - x|
  even_of_tie : ∀ other, other ≠ code →
    |(f.units other : ℚ) - x| = |(f.units code : ℚ) - x| → code % 2 = 0

namespace IsNearest

variable {x y : ℚ} {c d : Nat}

/-- A number is not above the middle between its nearest magnitude and a greater one. -/
theorem le_middle (h : f.IsNearest x c) (hcd : c < d) :
    2 * x ≤ f.units c + f.units d := by
  have hlt : (f.units c : ℚ) < f.units d := Nat.cast_lt.mpr (f.units_strictMono hcd)
  have hclose := h.closest d
  by_contra hover
  rw [not_le] at hover
  rcases le_or_gt (f.units d : ℚ) x with hx | hx
  · rw [abs_of_nonpos (by linarith), abs_of_nonpos (by linarith)] at hclose
    linarith
  · rw [abs_of_nonpos (by linarith), abs_of_pos (by linarith)] at hclose
    linarith

/-- A number is not below the middle between its nearest magnitude and a smaller one. -/
theorem middle_le (h : f.IsNearest x c) (hdc : d < c) :
    f.units d + f.units c ≤ 2 * x := by
  have hlt : (f.units d : ℚ) < f.units c := Nat.cast_lt.mpr (f.units_strictMono hdc)
  have hclose := h.closest d
  by_contra hunder
  rw [not_le] at hunder
  rcases le_or_gt x (f.units d : ℚ) with hx | hx
  · rw [abs_of_nonneg (by linarith), abs_of_nonneg (by linarith)] at hclose
    linarith
  · rw [abs_of_pos (by linarith), abs_of_neg (by linarith)] at hclose
    linarith

/-- A greater magnitude that is equally near lies as far above as this one below. -/
theorem tie_of_middle_eq (h : 2 * x = f.units c + f.units d) :
    |(f.units d : ℚ) - x| = |(f.units c : ℚ) - x| := by
  have hd : (f.units d : ℚ) - x = -(f.units c - x) := by linarith
  rw [hd, abs_neg]

/-- **Nearest codes ascend with the numbers.** -/
theorem mono (hx : f.IsNearest x c) (hy : f.IsNearest y d) (hxy : x ≤ y) : c ≤ d := by
  by_contra hdc
  rw [not_le] at hdc
  have hlow := hx.middle_le hdc
  have hhigh := hy.le_middle hdc
  obtain rfl : x = y := by linarith
  have hmiddle : 2 * x = f.units d + f.units c := by linarith
  have hd : d % 2 = 0 := hy.even_of_tie c hdc.ne' (tie_of_middle_eq hmiddle)
  have hc : c % 2 = 0 := hx.even_of_tie d hdc.ne (tie_of_middle_eq hmiddle).symm
  -- so there is an odd code between the two, and its magnitude is nearer than both
  have hbetween := hx.middle_le (show d + 1 < c by omega)
  have hgreater : (f.units d : ℚ) < f.units (d + 1) :=
    Nat.cast_lt.mpr (f.units_strictMono (Nat.lt_succ_self d))
  linarith

theorem unique (hc : f.IsNearest x c) (hd : f.IsNearest x d) : c = d :=
  Nat.le_antisymm (hc.mono hd le_rfl) (hd.mono hc le_rfl)

/-- Of two equally near codes the other one is odd. -/
theorem odd_of_tie (h : f.IsNearest x c) (hne : d ≠ c)
    (htie : |(f.units d : ℚ) - x| = |(f.units c : ℚ) - x|) : d % 2 = 1 := by
  by_contra heven
  -- otherwise it would be nearest itself
  have hd : f.IsNearest x d :=
    ⟨fun other => htie ▸ h.closest other, fun other _ _ => by omega⟩
  exact hne (hd.unique h)

/-- The codes below an even one are nearest to the numbers below the middle under it. -/
theorem lt_succ_iff (h : f.IsNearest x c) {n : Nat} (hodd : n % 2 = 1) :
    c < n + 1 ↔ 2 * x < f.units n + f.units (n + 1) := by
  constructor
  · intro hc
    have hle := h.le_middle hc
    have hmono : (f.units c : ℚ) ≤ f.units n :=
      Nat.cast_le.mpr (f.units_strictMono.monotone (Nat.le_of_lt_succ hc))
    refine lt_of_le_of_ne (by linarith) fun hmiddle => ?_
    obtain rfl : c = n := by
      have hunits : (f.units n : ℚ) ≤ f.units c := by linarith
      exact Nat.le_antisymm (Nat.le_of_lt_succ hc)
        (f.units_strictMono.le_iff_le.mp (Nat.cast_le.mp hunits))
    have hc := h.even_of_tie (c + 1) (Nat.succ_ne_self c) (tie_of_middle_eq hmiddle)
    omega
  · intro hx
    by_contra hc
    have hle := h.middle_le (show n < c by omega)
    have hmono : (f.units (n + 1) : ℚ) ≤ f.units c :=
      Nat.cast_le.mpr (f.units_strictMono.monotone (by omega))
    linarith

end IsNearest

end Format
end Binary
end TypedBox
