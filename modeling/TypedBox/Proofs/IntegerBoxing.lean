import TypedBox.Proofs.Hashing
import TypedBox.Proofs.Unboxing
import TypedBox.Value.Boxing

/-! # Boxing integers

The native numbers of a shape of whole numbers are the integers from its least to its
greatest number, each of them once (`IntegerShape.fits_iff_exists_toInt`,
`IntegerShape.toInt_injective`).  So an integer that is boxed in a shape is either one
of its native numbers and boxed as that, or none and refused as it was given: it is
never reduced to one of another size or sign.
-/
namespace TypedBox

namespace IntegerShape

/-! ## The integers of a shape -/

/-- Reducing a number that is small enough leaves it as it is. -/
theorem cast_toNat_emod_mod {n : Int} {size : Nat} (hleast : 0 ≤ n) (hlt : n < size) :
    (((n % size).toNat % size : Nat) : Int) = n := by
  rw [Int.emod_eq_of_lt hleast hlt, Nat.mod_eq_of_lt (by omega), Int.toNat_of_nonneg hleast]

variable [StoredTypes]

/-- A native number is between the bounds of its shape. -/
theorem fits_toInt (k : IntegerShape) (x : k.shape.Native) : k.Fits (k.toInt x) := by
  cases k with
  | uint8 =>
    exact ⟨Int.natCast_nonneg _, Int.le_of_lt_add_one (Int.ofNat_lt.mpr (UInt8.toNat_lt x))⟩
  | int16 => exact ⟨Int16.le_toInt x, Int.le_of_lt_add_one (Int16.toInt_lt x)⟩
  | uint16 =>
    exact ⟨Int.natCast_nonneg _, Int.le_of_lt_add_one (Int.ofNat_lt.mpr (UInt16.toNat_lt x))⟩
  | int32 => exact ⟨Int32.le_toInt x, Int.le_of_lt_add_one (Int32.toInt_lt x)⟩
  | uint32 =>
    exact ⟨Int.natCast_nonneg _, Int.le_of_lt_add_one (Int.ofNat_lt.mpr (UInt32.toNat_lt x))⟩
  | int64 => exact ⟨Int64.le_toInt x, Int.le_of_lt_add_one (Int64.toInt_lt x)⟩
  | uint64 =>
    exact ⟨Int.natCast_nonneg _, Int.le_of_lt_add_one (Int.ofNat_lt.mpr (UInt64.toNat_lt x))⟩

/-- A number that fits is the number of its native one. -/
theorem toInt_ofInt {k : IntegerShape} {n : Int} (h : k.Fits n) : k.toInt (k.ofInt n) = n := by
  obtain ⟨hleast, hgreatest⟩ := h
  have hlt : n < k.greatest + 1 := Int.lt_add_one_of_le hgreatest
  cases k with
  | uint8 | uint16 | uint32 | uint64 => exact cast_toNat_emod_mod hleast hlt
  | int16 => exact Int16.toInt_ofInt_of_le hleast hlt
  | int32 => exact Int32.toInt_ofInt_of_le hleast hlt
  | int64 => exact Int64.toInt_ofInt_of_le hleast hlt

/-- Different native numbers of a shape are different integers. -/
theorem toInt_injective (k : IntegerShape) : Function.Injective k.toInt := by
  intro x y h
  cases k with
  | uint8 => exact UInt8.toNat_inj.mp (Int.ofNat_inj.mp h)
  | int16 => exact Int16.toInt_inj.mp h
  | uint16 => exact UInt16.toNat_inj.mp (Int.ofNat_inj.mp h)
  | int32 => exact Int32.toInt_inj.mp h
  | uint32 => exact UInt32.toNat_inj.mp (Int.ofNat_inj.mp h)
  | int64 => exact Int64.toInt_inj.mp h
  | uint64 => exact UInt64.toNat_inj.mp (Int.ofNat_inj.mp h)

/-- **The integers that fit a shape are those of its native numbers.** -/
theorem fits_iff_exists_toInt (k : IntegerShape) (n : Int) :
    k.Fits n ↔ ∃ x : k.shape.Native, k.toInt x = n := by
  constructor
  · exact fun h => ⟨k.ofInt n, toInt_ofInt h⟩
  · rintro ⟨x, rfl⟩
    exact k.fits_toInt x

end IntegerShape

namespace Value

section Boxing

variable [StoredTypes] {k : IntegerShape} {n : Int}

/-! ## What boxing gives -/

/-- An integer is boxed as the native number that it is. -/
theorem ofInt_eq_ok_iff {v : Value} :
    ofInt k n = .ok v ↔ ∃ x : k.shape.Native, k.toInt x = n ∧ v = ofNative k.shape x := by
  unfold ofInt
  split
  next h =>
    rw [Except.ok.injEq]
    constructor
    · rintro rfl
      exact ⟨k.ofInt n, k.toInt_ofInt h, rfl⟩
    · rintro ⟨x, rfl, rfl⟩
      rw [k.toInt_injective (k.toInt_ofInt h)]
  next h =>
    constructor
    · intro heq
      cases heq
    · rintro ⟨x, rfl, -⟩
      exact absurd (k.fits_toInt x) h

/-- An integer that does not fit is refused, with the shape and the integer itself. -/
theorem ofInt_eq_error_iff {e : Failure} :
    ofInt k n = .error e ↔ ¬ k.Fits n ∧ e = ⟨.outOfRange k.shape n, none⟩ := by
  unfold ofInt
  split
  next h =>
    constructor
    · intro heq
      cases heq
    · exact fun heq => absurd h heq.1
  next h =>
    rw [Except.error.injEq]
    exact ⟨fun heq => ⟨h, heq.symm⟩, fun heq => heq.2.symm⟩

/-- **An integer is boxed as it is or refused, but never cut down to size.**

* It is boxed if it is between the least and the greatest number of the shape, and
  these are just the integers that the native type has.
* The boxed value has the shape, the operation named for the shape retrieves the same
  integer, and the value equals the native number with that integer, boxed directly;
  both are hashed alike.
* Otherwise it is refused, and the refusal names the shape and the unchanged integer
  and has no context. -/
theorem ofInt_keeps_integer (k : IntegerShape) (n : Int) :
    ((∃ v, ofInt k n = .ok v) ↔ k.least ≤ n ∧ n ≤ k.greatest) ∧
    ((k.least ≤ n ∧ n ≤ k.greatest) ↔ ∃ x : k.shape.Native, k.toInt x = n) ∧
    (∀ v, ofInt k n = .ok v →
      v.shape = k.shape ∧
      (∃ x : k.shape.Native, v.getNamed (.native k.shape) = .ok x ∧ k.toInt x = n) ∧
      ∀ x : k.shape.Native, k.toInt x = n →
        (v == ofNative k.shape x) = true ∧
        ∀ address, v.hashBytes address = (ofNative k.shape x).hashBytes address) ∧
    (∀ e, ofInt k n = .error e ↔
      ¬ (k.least ≤ n ∧ n ≤ k.greatest) ∧ e = ⟨.outOfRange k.shape n, none⟩) := by
  refine ⟨?ok, k.fits_iff_exists_toInt n, ?kept, fun e => ofInt_eq_error_iff⟩
  case ok =>
    constructor
    · rintro ⟨v, hv⟩
      obtain ⟨x, hx, -⟩ := ofInt_eq_ok_iff.mp hv
      exact (k.fits_iff_exists_toInt n).mpr ⟨x, hx⟩
    · intro h
      obtain ⟨x, hx⟩ := (k.fits_iff_exists_toInt n).mp h
      exact ⟨ofNative k.shape x, ofInt_eq_ok_iff.mpr ⟨x, hx, rfl⟩⟩
  case kept =>
    intro v hv
    obtain ⟨x, rfl, rfl⟩ := ofInt_eq_ok_iff.mp hv
    refine ⟨shape_ofNative k.shape x, ⟨x, getNamed_box (.native k.shape) x, rfl⟩, ?_⟩
    intro y hy
    obtain rfl := k.toInt_injective hy
    exact ⟨beq_equivalence.refl _, fun _ => rfl⟩

end Boxing

/-- The least number of a signed shape is boxed and retrieved; the one below it, which
has the bits of the greatest one, is refused as it is. -/
theorem ofInt_keeps_integer_at_least_int16 :
    (∃ v, ofInt .int16 (-0x8000) = .ok v ∧ v.shape = .int16 ∧
      (v == int16 Int16.minValue) = true) ∧
    ofInt .int16 (-0x8001) = .error ⟨.outOfRange .int16 (-0x8001), none⟩ := by
  obtain ⟨ok, -, kept, -⟩ := ofInt_keeps_integer .int16 (-0x8000)
  obtain ⟨-, -, -, refused⟩ := ofInt_keeps_integer .int16 (-0x8001)
  obtain ⟨v, hv⟩ := ok.mpr (by decide)
  obtain ⟨shape, -, equal⟩ := kept v hv
  exact ⟨⟨v, hv, shape, (equal Int16.minValue (by decide)).1⟩,
    (refused _).mpr ⟨by decide, rfl⟩⟩

end Value
end TypedBox
