import Mathlib.Data.Set.Function
import TypedBox.Proofs.Equality
import TypedBox.Proofs.PrefixCode
import TypedBox.Value.PlainData

/-! # Equality is told by the bytes that are hashed

A value feeds the code of its shape to a hash, in four bytes, and then its native
value.  Codes of one width are a prefix code, and so are the native values of any
one shape; hence no value's bytes start another's, unless the two values are
equal.

Objects are the one native value whose bytes do not come from the value itself:
they are the address of its allocation.  Allocations that are live at the same
time have different addresses, and this is all that is assumed of addresses.
-/
namespace TypedBox

open Bytes

/-- The bytes of two values tell whether the values are equal: equal values have
the same bytes, and of different ones neither's bytes start the other's. -/
structure ToldByBytes {α : Type} [BEq α] (bytes : α → List UInt8) (a b : α) : Prop where
  same_iff : (a == b) = true ↔ bytes a = bytes b
  apart : (a == b) = false → ¬ bytes a <+: bytes b ∧ ¬ bytes b <+: bytes a

/-- A prefix code tells equality that is sameness. -/
theorem ToldByBytes.of_prefixCode {α : Type} [BEq α] [LawfulBEq α] {bytes : α → List UInt8}
    (h : PrefixCode bytes) (a b : α) : ToldByBytes bytes a b where
  same_iff := beq_iff_eq.trans (h.injective.eq_iff).symm
  apart hne := by
    have hab : a ≠ b := beq_eq_false_iff_ne.mp hne
    exact ⟨fun hp => hab (h hp), fun hp => hab (h hp).symm⟩

/-! ## The native values -/

theorem Single.prefixCode_hashBytes : PrefixCode Single.hashBytes :=
  prefixCode_uint32.comp Single.bits fun _ _ h => Single.ext h

theorem Double.prefixCode_hashBytes : PrefixCode Double.hashBytes :=
  prefixCode_uint64.comp Double.bits fun _ _ h => Double.ext h

theorem Char16.prefixCode_hashBytes : PrefixCode Char16.hashBytes :=
  prefixCode_uint16.comp Char16.unit fun _ _ h => Char16.ext h

theorem Ticks.prefixCode_hashBytes : PrefixCode Ticks.hashBytes :=
  prefixCode_int64

theorem DateTime.prefixCode_hashBytes : PrefixCode DateTime.hashBytes :=
  Ticks.prefixCode_hashBytes.comp DateTime.ticks fun _ _ h => DateTime.ext h

theorem TimeSpan.prefixCode_hashBytes : PrefixCode TimeSpan.hashBytes :=
  Ticks.prefixCode_hashBytes.comp TimeSpan.ticks fun _ _ h => TimeSpan.ext h

theorem Point.prefixCode_hashBytes : PrefixCode Point.hashBytes := by
  intro p q h
  obtain ⟨hx, hy⟩ := Double.prefixCode_hashBytes.split_append h
  exact Point.ext hx (Double.prefixCode_hashBytes hy)

theorem Size.prefixCode_hashBytes : PrefixCode Size.hashBytes := by
  intro s t h
  obtain ⟨hw, hh⟩ := Double.prefixCode_hashBytes.split_append h
  exact Size.ext hw (Double.prefixCode_hashBytes hh)

/-- A rectangle is hashed through its origin and its size, which determine it. -/
theorem Rect.prefixCode_hashBytes : PrefixCode Rect.hashBytes := by
  intro r r' h
  obtain ⟨ho, hs⟩ := Point.prefixCode_hashBytes.split_append h
  rw [← ofParts_origin_size r, ho, Size.prefixCode_hashBytes hs, ofParts_origin_size]

/-- Field by field; of the last one the length comes first, and is always the
same. -/
theorem Guid.prefixCode_hashBytes : PrefixCode Guid.hashBytes := by
  intro g g' h
  simp only [Guid.hashBytes, List.append_assoc, Vector.length_toList] at h
  obtain ⟨h1, h⟩ := prefixCode_uint32.split_append h
  obtain ⟨h2, h⟩ := prefixCode_uint16.split_append h
  obtain ⟨h3, h⟩ := prefixCode_uint16.split_append h
  -- what is left is the length, which is eight on both sides, and the last field
  have hbytes : g.data4.toList <+: g'.data4.toList := (List.prefix_append_right_inj _).mp h
  exact Guid.ext h1 h2 h3 (Vector.toList_inj.mp (hbytes.eq_of_length (by simp)))

theorem Shape.prefixCode_hashBytes : PrefixCode Shape.hashBytes :=
  prefixCode_littleEndian 4 Shape.code (fun _ _ h => Shape.code_injective h)
    fun s => by cases s <;> decide

namespace Value

/-! ## Boxed values -/

section Values

variable [StoredTypes]

/-- The value, if it is an object, is one of a live allocation. -/
def IsLive (live : Set Nat) : Value → Prop
  | object o => o.allocation ∈ live
  | _ => True

variable {address : Nat → UInt64} {live : Set Nat}

/-- The native values of a shape are a prefix code, objects apart. -/
theorem prefixCode_payloadBytes {s : Shape} (hs : s ≠ .object) :
    PrefixCode fun x : s.Native => (ofNative s x).payloadBytes address := by
  cases s
  case object => exact absurd rfl hs
  case uint8 => exact prefixCode_uint8
  case int16 => exact prefixCode_int16
  case uint16 => exact prefixCode_uint16
  case int32 => exact prefixCode_int32
  case uint32 => exact prefixCode_uint32
  case int64 => exact prefixCode_int64
  case uint64 => exact prefixCode_uint64
  case single => exact Single.prefixCode_hashBytes
  case double => exact Double.prefixCode_hashBytes
  case char16 => exact Char16.prefixCode_hashBytes
  case boolean => exact prefixCode_bool
  case string => exact prefixCode_ofText
  case dateTime => exact DateTime.prefixCode_hashBytes
  case timeSpan => exact TimeSpan.prefixCode_hashBytes
  case guid => exact Guid.prefixCode_hashBytes
  case point => exact Point.prefixCode_hashBytes
  case size => exact Size.prefixCode_hashBytes
  case rect => exact Rect.prefixCode_hashBytes

/-- Live objects whose bytes start each other are handles to one allocation. -/
theorem beq_of_prefix_address (distinct : Set.InjOn address live) {o p : Object}
    (ho : o.allocation ∈ live) (hp : p.allocation ∈ live)
    (h : o.hashBytes address <+: p.hashBytes address) : (o == p) = true := by
  have haddress : address o.allocation = address p.allocation := prefixCode_uint64 h
  exact (Object.beq_iff o p).mpr (distinct ho hp haddress)

/-- Native values of one shape: if the bytes of one start those of the other,
the two are equal. -/
theorem beq_of_prefix_payloadBytes (distinct : Set.InjOn address live) (s : Shape)
    {x y : s.Native} (hx : (ofNative s x).IsLive live) (hy : (ofNative s y).IsLive live)
    (h : (ofNative s x).payloadBytes address <+: (ofNative s y).payloadBytes address) :
    (ofNative s x == ofNative s y) = true := by
  by_cases hs : s = .object
  · subst hs
    exact beq_of_prefix_address distinct hx hy h
  · rw [prefixCode_payloadBytes hs h]
    exact beq_equivalence.refl _

/-- If the bytes of one value start those of another, the two are equal: the
shapes agree because their codes do, and then the native values do. -/
theorem beq_of_prefix_hashBytes (distinct : Set.InjOn address live) {a b : Value}
    (ha : a.IsLive live) (hb : b.IsLive live)
    (h : a.hashBytes address <+: b.hashBytes address) : (a == b) = true := by
  obtain ⟨hs, hpayload⟩ := Shape.prefixCode_hashBytes.split_append h
  obtain ⟨s, x, y, rfl, rfl⟩ := exists_ofNative_pair hs
  exact beq_of_prefix_payloadBytes distinct s ha hb hpayload

/-- The bytes of a value do not depend on what its object holds. -/
theorem hashBytes_bare (v : Value) : v.bare.hashBytes address = v.hashBytes address := by
  cases v <;> rfl

theorem hashBytes_eq_of_beq {a b : Value} (h : (a == b) = true) :
    a.hashBytes address = b.hashBytes address := by
  rw [← hashBytes_bare a, (beq_iff_bare a b).mp h, hashBytes_bare]

theorem toldByBytes (distinct : Set.InjOn address live) {a b : Value}
    (ha : a.IsLive live) (hb : b.IsLive live) : ToldByBytes (hashBytes address) a b where
  same_iff := ⟨hashBytes_eq_of_beq, fun h =>
    beq_of_prefix_hashBytes distinct ha hb (h ▸ List.prefix_refl _)⟩
  apart hne := by
    have hab : ¬ (a == b) = true := Bool.eq_false_iff.mp hne
    refine ⟨fun hp => hab (beq_of_prefix_hashBytes distinct ha hb hp), fun hp => hab ?_⟩
    exact beq_equivalence.symm (beq_of_prefix_hashBytes distinct hb ha hp)

/-- **Equality is an equivalence relation that the hashed bytes tell**, between
any two values whose objects are live.  Values of different shapes are never
equal, and floating-point numbers, alone or as the sides of a record, are equal
exactly when their bit patterns are: a NaN equals itself and zero differs from
negative zero.  The records are told by the bytes that they hash on their own,
too. -/
theorem equality_told_by_hash {address : Nat → UInt64} {live : Set Nat}
    (distinct : Set.InjOn address live) :
    (∀ a b : Value, a.IsLive live → b.IsLive live → ToldByBytes (hashBytes address) a b) ∧
    Equivalence (fun a b : Value => (a == b) = true) ∧
    (∀ a b : Value, a.shape ≠ b.shape → (a == b) = false) ∧
    (∀ x y : Single, (single x == single y) = true ↔ x.bits = y.bits) ∧
    (∀ x y : Double, (double x == double y) = true ↔ x.bits = y.bits) ∧
    (∀ x : Double, x.datum = .nan → (double x == double x) = true) ∧
    (double .zero == double ⟨0x8000000000000000⟩) = false ∧
    (∀ p q : Point, ToldByBytes Point.hashBytes p q ∧ (point p == point q) = (p == q) ∧
      ((p == q) = true ↔ p.x.bits = q.x.bits ∧ p.y.bits = q.y.bits)) ∧
    (∀ s t : Size, ToldByBytes Size.hashBytes s t ∧ (size s == size t) = (s == t) ∧
      ((s == t) = true ↔ s.width.bits = t.width.bits ∧ s.height.bits = t.height.bits)) ∧
    (∀ r s : Rect, ToldByBytes Rect.hashBytes r s ∧ (rect r == rect s) = (r == s) ∧
      ((r == s) = true ↔ r.x.bits = s.x.bits ∧ r.y.bits = s.y.bits ∧
        r.width.bits = s.width.bits ∧ r.height.bits = s.height.bits)) := by
  refine ⟨fun a b ha hb => toldByBytes distinct ha hb, beq_equivalence,
    fun a b hs => beq_eq_false_of_shape_ne hs, Single.beq_iff_bits, Double.beq_iff_bits,
    fun x _ => beq_equivalence.refl (double x), rfl, ?_, ?_, ?_⟩
  · exact fun p q => ⟨.of_prefixCode Point.prefixCode_hashBytes p q, rfl, Point.beq_iff_bits p q⟩
  · exact fun s t => ⟨.of_prefixCode Size.prefixCode_hashBytes s t, rfl, Size.beq_iff_bits s t⟩
  · exact fun r s => ⟨.of_prefixCode Rect.prefixCode_hashBytes r s, rfl, Rect.beq_iff_bits r s⟩

end Values

/-- Two live handles to empty objects, at addresses sixteen bytes apart, are told
apart by their bytes. -/
theorem equality_told_of_two_allocations :
    let address : Nat → UInt64 := fun i => 4096 + 16 * UInt64.ofNat i
    let first := object (.ofShared ⟨0, .unit⟩)
    let second := object (.ofShared ⟨1, .unit⟩)
    Set.InjOn address {0, 1} ∧ first.IsLive {0, 1} ∧ second.IsLive {0, 1} ∧
      ToldByBytes (hashBytes address) first second ∧ (first == second) = false := by
  intro address first second
  have distinct : Set.InjOn address {0, 1} := by
    rintro i (rfl | rfl) j (rfl | rfl) h <;> first | rfl | exact absurd h (by decide)
  have hfirst : first.IsLive {0, 1} := Or.inl rfl
  have hsecond : second.IsLive {0, 1} := Or.inr rfl
  exact ⟨distinct, hfirst, hsecond,
    (equality_told_by_hash distinct).1 first second hfirst hsecond, by decide⟩

end Value
end TypedBox
