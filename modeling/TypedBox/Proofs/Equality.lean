import TypedBox.Value.Identity

/-! # Equality of boxed values

`Value.beq` compares shape by shape.  Two facts carry every argument about it.
Equal values have one shape (`shape_eq_of_beq`), so that only pairs of native
values of one shape have to be looked at.  And equality sees of an object
nothing but its allocation: with the contents of objects forgotten
(`Value.bare`), equal values are the same value (`beq_iff_bare`).  So equality
is an equivalence relation.
-/
namespace TypedBox

attribute [ext] Single Double Char16 DateTime TimeSpan Point Size Rect Guid

/-! ## Native values with floating-point parts -/

theorem Single.beq_iff_bits (x y : Single) : (x == y) = true ↔ x.bits = y.bits := by
  rw [beq_iff_eq, Single.ext_iff]

theorem Double.beq_iff_bits (x y : Double) : (x == y) = true ↔ x.bits = y.bits := by
  rw [beq_iff_eq, Double.ext_iff]

theorem Point.beq_iff_bits (p q : Point) :
    (p == q) = true ↔ p.x.bits = q.x.bits ∧ p.y.bits = q.y.bits := by
  rw [beq_iff_eq, Point.ext_iff, Double.ext_iff, Double.ext_iff]

theorem Size.beq_iff_bits (s t : Size) :
    (s == t) = true ↔ s.width.bits = t.width.bits ∧ s.height.bits = t.height.bits := by
  rw [beq_iff_eq, Size.ext_iff, Double.ext_iff, Double.ext_iff]

namespace Rect

/-- Rectangles are compared through their origins and their sizes, which between
them are all four sides. -/
theorem beq_iff_bits (r s : Rect) :
    (r == s) = true ↔ r.x.bits = s.x.bits ∧ r.y.bits = s.y.bits ∧
      r.width.bits = s.width.bits ∧ r.height.bits = s.height.bits := by
  change (r.origin == s.origin && r.size == s.size) = true ↔ _
  rw [Bool.and_eq_true, Point.beq_iff_bits, Size.beq_iff_bits, and_assoc]
  rfl

instance : LawfulBEq Rect where
  eq_of_beq {r s} h := by
    obtain ⟨hx, hy, hw, hh⟩ := (beq_iff_bits r s).mp h
    exact Rect.ext (Double.ext hx) (Double.ext hy) (Double.ext hw) (Double.ext hh)
  rfl {r} := (beq_iff_bits r r).mpr ⟨rfl, rfl, rfl, rfl⟩

end Rect

variable [StoredTypes]

namespace Object

theorem beq_iff (a b : Object) : (a == b) = true ↔ a.allocation = b.allocation := by
  change (a.allocation == b.allocation) = true ↔ _
  exact beq_iff_eq

end Object

namespace Value

/-! ## Values of a known shape -/

/-- A value of a shape is a boxed native value of that shape. -/
theorem exists_eq_ofNative {v : Value} {s : Shape} (h : v.shape = s) :
    ∃ x : s.Native, v = ofNative s x := by
  subst h
  exact ⟨v.native, (ofNative_native v).symm⟩

/-- Two values of one shape come from two native values of that shape. -/
theorem exists_ofNative_pair {a b : Value} (h : a.shape = b.shape) :
    ∃ (s : Shape) (x y : s.Native), a = ofNative s x ∧ b = ofNative s y := by
  obtain ⟨x, hx⟩ := exists_eq_ofNative h
  obtain ⟨y, hy⟩ := exists_eq_ofNative (v := b) rfl
  exact ⟨b.shape, x, y, hx, hy⟩

theorem shape_eq_of_beq {a b : Value} (h : (a == b) = true) : a.shape = b.shape := by
  change beq a b = true at h
  revert h
  fun_cases beq a b <;> intro h
  -- the last case is that of two constructors, which `beq` refuses
  case case20 => cases h
  all_goals rfl

theorem beq_eq_false_of_shape_ne {a b : Value} (h : a.shape ≠ b.shape) : (a == b) = false :=
  Bool.eq_false_iff.mpr fun he => h (shape_eq_of_beq he)

/-! ## What equality sees -/

/-- The value without what its object holds.  The object keeps its allocation
only. -/
def bare : Value → Value
  | object o => object (.mk o.allocation (.value default) "")
  | v => v

@[simp] theorem shape_bare (v : Value) : v.bare.shape = v.shape := by
  cases v <;> rfl

theorem beq_ofNative_iff_bare (s : Shape) (x y : s.Native) :
    (ofNative s x == ofNative s y) = true ↔ (ofNative s x).bare = (ofNative s y).bare := by
  change beq _ _ = true ↔ _
  cases s
  case object => simp [ofNative, beq, bare, Object.beq_iff]
  all_goals simp [ofNative, beq, bare]

/-- **Equal values are the same value, up to what their objects hold.** -/
theorem beq_iff_bare (a b : Value) : (a == b) = true ↔ a.bare = b.bare := by
  by_cases hs : a.shape = b.shape
  · obtain ⟨s, x, y, rfl, rfl⟩ := exists_ofNative_pair hs
    exact beq_ofNative_iff_bare s x y
  · constructor
    · exact fun h => absurd (shape_eq_of_beq h) hs
    · intro h
      have := congrArg shape h
      simp only [shape_bare] at this
      exact absurd this hs

theorem beq_equivalence : Equivalence fun a b : Value => (a == b) = true where
  refl a := (beq_iff_bare a a).mpr rfl
  symm {a b} h := (beq_iff_bare b a).mpr ((beq_iff_bare a b).mp h).symm
  trans {a b c} h h' :=
    (beq_iff_bare a c).mpr (((beq_iff_bare a b).mp h).trans ((beq_iff_bare b c).mp h'))

end Value
end TypedBox
