import TypedBox.Proofs.Equality
import TypedBox.Value.PlainData
import TypedBox.Value.Retrieval

/-! # Retrieval undoes boxing

A retrieval looks at the shape only: it succeeds when the shapes agree and then
gives the native value back as it is (`get_of_shape_eq`, `get_box`), and it names
both shapes otherwise (`get_of_shape_ne`).  So boxing and retrieval are inverse
to each other, and the operations named for the targets, which are written out
one by one, cannot differ from the retrieval by target.
-/
namespace TypedBox
namespace Value

section Retrieval

variable [StoredTypes] {v : Value} {t : Target}

/-! ## The native value of a shape -/

@[simp] theorem as?_ofNative (s : Shape) (x : s.Native) : (ofNative s x).as? s = some x := by
  cases s <;> rfl

theorem as?_of_shape_ne {s : Shape} (h : v.shape ≠ s) : v.as? s = none := by
  rw [as?, dif_neg h]

theorem as?_eq_some_iff {s : Shape} {x : s.Native} : v.as? s = some x ↔ v = ofNative s x := by
  constructor
  · intro h
    by_cases hs : v.shape = s
    · obtain ⟨y, rfl⟩ := exists_eq_ofNative hs
      rw [as?_ofNative, Option.some.injEq] at h
      rw [h]
    · rw [as?_of_shape_ne hs] at h
      cases h
  · rintro rfl
    exact as?_ofNative s x

/-! ## Retrieval by target -/

/-- **What was boxed comes back.** -/
@[simp] theorem get_box (t : Target) (x : t.Native) : (t.box x).get t = .ok x := by
  rw [get, Target.box, as?_ofNative]

/-- A value of another shape is refused, and the refusal names both shapes and
nothing else. -/
theorem get_of_shape_ne (h : v.shape ≠ t.shape) :
    v.get t = .error (.mismatch t.shape v.shape) := by
  rw [get, as?_of_shape_ne h]
  rfl

theorem exists_eq_box (h : v.shape = t.shape) : ∃ x : t.Native, v = t.box x :=
  exists_eq_ofNative h

/-- A retrieval succeeds with the native value from which boxing makes the value
again. -/
theorem get_eq_ok_iff {x : t.Native} : v.get t = .ok x ↔ v = t.box x := by
  rw [Target.box, ← as?_eq_some_iff, get]
  cases v.as? t.shape with
  | some y => rw [Except.ok.injEq, Option.some.injEq]
  | none => simp

theorem get_isOk_iff : (∃ x, v.get t = .ok x) ↔ v.shape = t.shape := by
  constructor
  · rintro ⟨x, h⟩
    rw [get_eq_ok_iff.mp h]
    exact shape_ofNative t.shape x
  · intro h
    obtain ⟨x, rfl⟩ := exists_eq_box h
    exact ⟨x, get_box t x⟩

theorem get_eq_error_iff {e : Failure} :
    v.get t = .error e ↔ v.shape ≠ t.shape ∧ e = ⟨.mismatch t.shape v.shape, none⟩ := by
  by_cases hs : v.shape = t.shape
  · obtain ⟨x, hx⟩ := get_isOk_iff.mpr hs
    simp [hx, hs]
  · rw [get_of_shape_ne hs, Except.error.injEq]
    exact ⟨fun h => ⟨hs, h.symm⟩, fun h => h.2.symm⟩

/-! ## The other ways to retrieve -/

/-- The operation named for a target gives what was boxed for that target. -/
theorem getNamed_box (t : Target) (x : t.Native) : (t.box x).getNamed t = .ok x := by
  cases t with
  | sharedText => rfl
  | native s => cases s <;> rfl

/-- The operation named for a target refuses the values of every other shape. -/
theorem getNamed_of_shape_ne (h : v.shape ≠ t.shape) :
    v.getNamed t = .error (.mismatch t.shape v.shape) := by
  cases t with
  | sharedText => exact get_of_shape_ne h
  | native s =>
    -- each operation matches on its own constructor, so all pairs have to be looked at
    cases s <;> cases v <;> first | rfl | exact absurd rfl h

/-- **The operations named for the targets are the retrieval by target.** -/
theorem getNamed_eq_get (v : Value) (t : Target) : v.getNamed t = v.get t := by
  by_cases hs : v.shape = t.shape
  · obtain ⟨x, rfl⟩ := exists_eq_box hs
    rw [getNamed_box, get_box]
  · rw [getNamed_of_shape_ne hs, get_of_shape_ne hs]

/-- The operation for code units gives the unit itself, as a number. -/
theorem getChar16_eq_get (v : Value) :
    v.getChar16 = (v.get (.native .char16)).map Char16.unit := by
  have h := getNamed_eq_get v (.native .char16)
  rw [← h]
  cases v <;> rfl

/-- A shared text and a copied one are the same text. -/
theorem getSharedText_eq_getString (v : Value) : v.getSharedText = v.getString := by
  cases v <;> rfl

/-- **Boxing and retrieval are inverse to each other, for every target and every
value.**  Retrieval succeeds exactly on the values of the target's shape; it gives
back what was boxed, and boxing that makes the value again; a refusal names both
shapes and carries no context.  The operation named for the target and the
conversion from the target have the same outcome. -/
theorem retrieval_undoes_boxing (t : Target) (v : Value) :
    ((∃ x, v.get t = .ok x) ↔ v.shape = t.shape) ∧
    (∀ e, v.get t = .error e ↔ v.shape ≠ t.shape ∧ e = ⟨.mismatch t.shape v.shape, none⟩) ∧
    (∀ x : t.Native, (t.box x).get t = .ok x) ∧
    (∀ x : t.Native, v.get t = .ok x → t.box x = v ∧ (t.box x == v) = true) ∧
    v.getNamed t = v.get t ∧
    t.convert v = v.get t ∧
    v.getChar16 = (v.get (.native .char16)).map Char16.unit ∧
    v.getString = v.get (.native .string) ∧
    v.getSharedText = v.getString := by
  refine ⟨get_isOk_iff, fun e => get_eq_error_iff, get_box t, fun x h => ?_,
    getNamed_eq_get v t, rfl, getChar16_eq_get v, getNamed_eq_get v (.native .string),
    getSharedText_eq_getString v⟩
  have hv : v = t.box x := get_eq_ok_iff.mp h
  exact ⟨hv.symm, hv ▸ beq_equivalence.refl v⟩

end Retrieval

/-- A lone surrogate comes back as it is, and boxing it again makes the value that
it came from. -/
theorem retrieval_undoes_boxing_of_surrogate :
    (char16 ⟨0xd800⟩).get (.native .char16) = .ok ⟨0xd800⟩ ∧
      ((Target.native .char16).box ⟨0xd800⟩ == char16 ⟨0xd800⟩) = true := by
  have h : (char16 ⟨0xd800⟩).get (.native .char16) = .ok ⟨0xd800⟩ := rfl
  exact ⟨h, ((retrieval_undoes_boxing (.native .char16) (char16 ⟨0xd800⟩)).2.2.2.1 _ h).2⟩

end Value
end TypedBox
