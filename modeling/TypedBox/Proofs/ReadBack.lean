import Mathlib.Tactic.Ring
import TypedBox.Decimal

/-! # The shortest decimal reads back

Rounding leaves a magnitude that needs no rounding as it is, over whatever
denominator it is given (`nearestUnits_units_mul`).  So the exact decimal value of a
magnitude reads back as that magnitude.  The search for a shorter decimal accepts
only what reads back, and ends with the exact value when it finds none; hence
whatever is found reads back (`read_shortest`), and two magnitudes with one shortest
decimal are the same.
-/
namespace TypedBox
namespace Binary
namespace Format

variable {f : Format}

/-! ## Rounding a magnitude of the format -/

theorem excess_mul_self (u : Nat) {den : Nat} (hden : 0 < den) :
    f.excess (u * den) den = u.log2 + 1 - f.precision := by
  rw [excess, Nat.mul_div_cancel u hden]

/-- A significand that has exactly the bits of the format, scaled by `2 ^ e`. -/
theorem nearestUnbounded_scaled (hf : 0 < f.precision) {m : Nat} (e : Nat) {den : Nat}
    (hden : 0 < den) (hlow : f.binade ≤ m) (hhigh : m < 2 * f.binade) :
    f.nearestUnbounded (m * 2 ^ e * den) den = e * f.binade + m := by
  have hpow : 0 < 2 ^ e := Nat.two_pow_pos e
  have hprecision : f.precision - 1 + 1 = f.precision := Nat.sub_add_cancel hf
  have hlog : (m * 2 ^ e).log2 = f.precision - 1 + e := by
    have hm : m * 2 ^ e ≠ 0 := by
      have hbinade : 0 < f.binade := Nat.two_pow_pos _
      exact Nat.mul_ne_zero (by omega) hpow.ne'
    refine (Nat.log2_eq_iff hm).mpr ⟨?_, ?_⟩
    · rw [Nat.pow_add]
      exact Nat.mul_le_mul_right _ hlow
    · have hnext : 2 ^ (f.precision - 1 + e + 1) = 2 * f.binade * 2 ^ e := by
        rw [binade, Nat.pow_succ, Nat.pow_add]
        ring
      rw [hnext]
      exact Nat.mul_lt_mul_of_pos_right hhigh hpow
  have hexcess : f.excess (m * 2 ^ e * den) den = e := by
    rw [excess_mul_self _ hden, hlog]
    omega
  have hregroup : m * 2 ^ e * den = m * (den * 2 ^ e) := by ring
  rw [nearestUnbounded, hexcess, hregroup, roundHalfEven_mul m (Nat.mul_pos hden hpow)]

/-- In the first binade the code counts units. -/
theorem nearestUnbounded_small (hf : 0 < f.precision) {code den : Nat} (hden : 0 < den)
    (h : code < f.binade) : f.nearestUnbounded (code * den) den = code := by
  have hexcess : f.excess (code * den) den = 0 := by
    rw [excess_mul_self _ hden]
    rcases Nat.eq_zero_or_pos code with rfl | hpos
    · rw [Nat.log2_zero]
      omega
    · have hlog : code.log2 < f.precision - 1 := (Nat.log2_lt hpos.ne').mpr h
      omega
  rw [nearestUnbounded, hexcess, Nat.zero_mul, Nat.zero_add, Nat.pow_zero, Nat.mul_one,
    roundHalfEven_mul code hden]

/-- **A finite magnitude is rounded to itself**, over every denominator. -/
theorem nearestUnits_units_mul (hf : 0 < f.precision) {code den : Nat} (hden : 0 < den)
    (hfinite : code < f.infinity) : f.nearestUnits (f.units code * den) den = code := by
  have hbinade : 0 < f.binade := Nat.two_pow_pos _
  have hunbounded : f.nearestUnbounded (f.units code * den) den = code := by
    unfold units
    split
    next h => exact nearestUnbounded_small hf hden h
    next h =>
      have hmod : code % f.binade < f.binade := Nat.mod_lt code hbinade
      rw [nearestUnbounded_scaled hf _ hden (by omega) (by omega)]
      -- the exponent and the significand put together again
      have hquotient : 0 < code / f.binade := Nat.div_pos (Nat.le_of_not_lt h) hbinade
      obtain ⟨e, he⟩ := Nat.exists_eq_add_of_lt hquotient
      have hcode := Nat.div_add_mod code f.binade
      rw [he] at hcode ⊢
      calc (0 + e + 1 - 1) * f.binade + (f.binade + code % f.binade)
          = f.binade * (0 + e + 1) + code % f.binade := by
            rw [Nat.add_sub_cancel]
            ring
        _ = code := hcode
  rw [nearestUnits, hunbounded, Nat.min_eq_left (Nat.le_of_lt hfinite)]

/-! ## Reading decimals -/

theorem read_zero (hf : 0 < f.precision) (hfinite : 0 < f.infinity) : f.read ⟨0, 0⟩ = 0 := by
  have h := nearestUnits_units_mul hf Nat.one_pos hfinite
  have hunits : f.units 0 = 0 := if_pos (Nat.two_pow_pos _)
  rw [hunits, Nat.zero_mul] at h
  have hnum : (⟨0, 0⟩ : Decimal).num = 0 := rfl
  have hden : (⟨0, 0⟩ : Decimal).den = 1 := rfl
  rw [read, nearest, hnum, hden, Nat.zero_mul, h]

theorem read_exactDecimal (hf : 0 < f.precision) {code : Nat} (hfinite : code < f.infinity) :
    f.read (f.exactDecimal code) = code := by
  have hnum : (f.exactDecimal code).num = f.units code * 5 ^ f.scale := by
    have hexponent : (-(f.scale : Int)).toNat = 0 := by omega
    rw [Decimal.num, exactDecimal, hexponent, Nat.pow_zero, Nat.mul_one]
  have hden : (f.exactDecimal code).den = 10 ^ f.scale := by
    have hplaces : (-(-(f.scale : Int))).toNat = f.scale := by omega
    rw [Decimal.den, Decimal.places, exactDecimal, hplaces]
  have hten : f.units code * 5 ^ f.scale * f.one = f.units code * 10 ^ f.scale := by
    rw [one, Nat.mul_assoc, ← Nat.mul_pow]
  rw [read, nearest, hnum, hden, hten]
  exact nearestUnits_units_mul hf (Nat.pow_pos (by decide)) hfinite

/-- The search accepts nothing that does not read back. -/
theorem read_of_neighbour?_eq_some {code : Nat} {place : Int} {d : Decimal}
    (h : f.neighbour? code place = some d) : f.read d = code := by
  simp only [neighbour?] at h
  split at h
  next hlow hhigh =>
    obtain rfl := Option.some.inj h
    split
    · exact beq_iff_eq.mp hlow
    · exact beq_iff_eq.mp hhigh
  next hlow _ =>
    obtain rfl := Option.some.inj h
    exact beq_iff_eq.mp hlow
  next _ hhigh =>
    obtain rfl := Option.some.inj h
    exact beq_iff_eq.mp hhigh
  next => cases h

/-- **The shortest decimal of a finite magnitude reads back as that magnitude.** -/
theorem read_shortest (hf : 0 < f.precision) {code : Nat} (hfinite : code < f.infinity) :
    f.read (f.shortest code) = code := by
  unfold shortest
  split
  next hzero =>
    subst hzero
    exact read_zero hf hfinite
  next hzero =>
    simp only
    cases hfound : (List.range (f.precision + 1)).findSome? fun (k : Nat) =>
        f.neighbour? code (leadingPlace (f.units code) f.one + 1 - k) with
    | none => exact read_exactDecimal hf hfinite
    | some d =>
      obtain ⟨k, -, hk⟩ := List.exists_of_findSome?_eq_some hfound
      exact read_of_neighbour?_eq_some hk

end Format
end Binary
end TypedBox
