import TypedBox.Proofs.Equality
import TypedBox.Proofs.Numerals
import TypedBox.Value.Boxing
import TypedBox.Value.PlainData

/-! # Code units and characters

A code unit and a character belong together when they are the same number
(`Char16.toChar?_eq_some_iff`, `Char16.ofChar_eq_ok_iff`).  Both ways from one to the
other are read off that: they undo each other, a unit has no character just when it is a
surrogate, and a character has no unit just when it is beyond the basic plane.

A surrogate is displayed as an escape of eight characters, which no single character can
be mistaken for, so every unit has a text of its own (`Char16.displayText_injective`).
-/
namespace TypedBox
namespace Char16

variable {u : Char16} {c : Char}

/-! ## From units to characters -/

/-- A unit stands for the character with its number. -/
theorem toChar?_eq_some_iff : u.toChar? = some c ↔ u.unit.toNat = c.toNat := by
  unfold toChar?
  split
  next hvalid =>
    rw [Option.some.injEq, ← Char.toNat_inj]
    rfl
  next hinvalid =>
    constructor
    · intro h
      cases h
    · intro h
      have hvalid : u.unit.toUInt32.isValidChar := by
        rw [UInt32.isValidChar, UInt16.toNat_toUInt32, h]
        exact c.valid
      exact absurd hvalid hinvalid

/-- The numbers of units that no character has are the surrogates. -/
theorem toChar?_eq_none_iff :
    u.toChar? = none ↔ 0xD800 ≤ u.unit.toNat ∧ u.unit.toNat ≤ 0xDFFF := by
  have hnone : u.toChar? = none ↔ ¬ u.unit.toUInt32.isValidChar := by
    unfold toChar?
    split
    next hvalid => simp [hvalid]
    next hinvalid => simp [hinvalid]
  have hlt := u.unit.toNat_lt
  rw [hnone, UInt32.isValidChar, UInt16.toNat_toUInt32, Nat.isValidChar]
  omega

/-! ## From characters to units -/

/-- A character has the unit with its number. -/
theorem ofChar_eq_ok_iff : ofChar c = .ok u ↔ u.unit.toNat = c.toNat := by
  unfold ofChar
  split
  next hlt =>
    rw [Except.ok.injEq, Char16.ext_iff, ← UInt16.toNat_inj, UInt16.toNat_ofNat_of_lt' hlt]
    exact eq_comm
  next hge =>
    constructor
    · intro h
      cases h
    · intro h
      exact absurd (h ▸ u.unit.toNat_lt) hge

/-- **Going from a character to its unit is undone by going back**, and the other way
round. -/
theorem ofChar_eq_ok_iff_toChar? : ofChar c = .ok u ↔ u.toChar? = some c := by
  rw [ofChar_eq_ok_iff, toChar?_eq_some_iff]

/-- The characters with a unit are those of the basic plane. -/
theorem exists_ofChar_eq_ok_iff : (∃ u, ofChar c = .ok u) ↔ c.toNat ≤ 0xFFFF := by
  constructor
  · rintro ⟨u, hu⟩
    rw [← ofChar_eq_ok_iff.mp hu]
    exact Nat.le_of_lt_succ u.unit.toNat_lt
  · intro h
    have hunit : (UInt16.ofNat c.toNat).toNat = c.toNat :=
      UInt16.toNat_ofNat_of_lt' (Nat.lt_succ_of_le h)
    exact ⟨⟨UInt16.ofNat c.toNat⟩, ofChar_eq_ok_iff.mpr hunit⟩

/-- Any other character is refused with its code point. -/
theorem ofChar_eq_error_iff {e : Failure} :
    ofChar c = .error e ↔ 0xFFFF < c.toNat ∧ e = ⟨.outOfRange .char16 c.toNat, none⟩ := by
  unfold ofChar
  split
  next hlt =>
    constructor
    · intro h
      cases h
    · rintro ⟨hgt, -⟩
      exact absurd hlt (Nat.not_lt.mpr hgt)
  next hge =>
    rw [Except.error.injEq]
    exact ⟨fun h => ⟨Nat.not_lt.mp hge, h.symm⟩, fun h => h.2.symm⟩

/-! ## Texts -/

theorem displayText_of_eq_some (h : u.toChar? = some c) : u.displayText = String.singleton c := by
  rw [displayText, h]

theorem displayText_of_eq_none (h : u.toChar? = none) :
    u.displayText = "\\u\x7b" ++ Text.fixedHex 4 u.unit.toNat ++ "\x7d" := by
  rw [displayText, h]

/-- An escape is longer than a character. -/
theorem length_displayText_of_eq_none (h : u.toChar? = none) : u.displayText.length = 8 := by
  have hdigits : (Text.fixedHex 4 u.unit.toNat).length = 4 := by
    rw [Text.fixedHex, String.length_ofList, Text.length_fixedDigits]
  rw [displayText_of_eq_none h, String.length_append, String.length_append, hdigits]
  rfl

/-- A surrogate is told by its digits. -/
theorem eq_of_escape_eq {v : Char16} (hu : u.toChar? = none) (hv : v.toChar? = none)
    (h : u.displayText = v.displayText) : u = v := by
  rw [displayText_of_eq_none hu, displayText_of_eq_none hv] at h
  have hdigits := (String.append_right_inj _).mp ((String.append_left_inj _).mp h)
  exact Char16.ext (Text.fixedHex_uint16_injective hdigits)

/-- **Every unit has a text of its own.** -/
theorem displayText_injective : Function.Injective displayText := by
  intro u v h
  have hlength := congrArg String.length h
  rcases hu : u.toChar? with _ | c <;> rcases hv : v.toChar? with _ | d
  · exact eq_of_escape_eq hu hv h
  · rw [length_displayText_of_eq_none hu, displayText_of_eq_some hv] at hlength
    exact absurd hlength (by simp)
  · rw [displayText_of_eq_some hu, length_displayText_of_eq_none hv] at hlength
    exact absurd hlength (by simp)
  · rw [displayText_of_eq_some hu, displayText_of_eq_some hv, String.singleton_inj] at h
    subst h
    have hunit : u.unit.toNat = v.unit.toNat :=
      (toChar?_eq_some_iff.mp hu).trans (toChar?_eq_some_iff.mp hv).symm
    exact Char16.ext (UInt16.toNat_inj.mp hunit)

end Char16

/-! ## Boxed characters -/

namespace Value

variable [StoredTypes]

theorem ofChar_eq_ok_iff {c : Char} {v : Value} :
    ofChar c = .ok v ↔ ∃ u, Char16.ofChar c = .ok u ∧ v = char16 u := by
  unfold ofChar
  cases Char16.ofChar c with
  | ok u => simp [Except.map, eq_comm]
  | error e => simp [Except.map]

theorem ofChar_eq_error_iff {c : Char} {e : Failure} :
    ofChar c = .error e ↔ Char16.ofChar c = .error e := by
  unfold ofChar
  cases Char16.ofChar c with
  | ok u => simp [Except.map]
  | error e => simp [Except.map]

end Value

namespace Char16

/-- **Code units and characters correspond to each other where both exist.**

* A character has a unit if its code point is at most `0xFFFF`.  The unit has the same
  number and stands for that character.  Any other character is refused with its code
  point and without context.
* A unit stands for no character just when it is a surrogate, and for no other character
  than one whose unit it is.
* A character is boxed as its unit is, and refused alike.
* Different units are displayed differently. -/
theorem corresponds_to_char [StoredTypes] :
    (∀ c : Char,
      ((∃ u, ofChar c = .ok u) ↔ c.toNat ≤ 0xFFFF) ∧
      (∀ u, ofChar c = .ok u → u.unit.toNat = c.toNat ∧ u.toChar? = some c) ∧
      (∀ e, ofChar c = .error e ↔
        0xFFFF < c.toNat ∧ e = ⟨.outOfRange .char16 c.toNat, none⟩)) ∧
    (∀ u : Char16,
      (u.toChar? = none ↔ 0xD800 ≤ u.unit.toNat ∧ u.unit.toNat ≤ 0xDFFF) ∧
      (∀ c, u.toChar? = some c → ofChar c = .ok u)) ∧
    (∀ c : Char,
      (∀ u, ofChar c = .ok u →
        ∃ v, Value.ofChar c = .ok v ∧ v = .char16 u ∧ (v == .char16 u) = true) ∧
      (∀ e, Value.ofChar c = .error e ↔ ofChar c = .error e)) ∧
    (∀ u v : Char16, u ≠ v → u.displayText ≠ v.displayText) := by
  refine ⟨?char, ?unit, ?boxed, fun u v hne h => hne (displayText_injective h)⟩
  case char =>
    intro c
    refine ⟨exists_ofChar_eq_ok_iff, ?_, fun e => ofChar_eq_error_iff⟩
    intro u hu
    exact ⟨ofChar_eq_ok_iff.mp hu, ofChar_eq_ok_iff_toChar?.mp hu⟩
  case unit =>
    intro u
    exact ⟨toChar?_eq_none_iff, fun c hc => ofChar_eq_ok_iff_toChar?.mpr hc⟩
  case boxed =>
    intro c
    refine ⟨?_, fun e => Value.ofChar_eq_error_iff⟩
    intro u hu
    exact ⟨.char16 u, Value.ofChar_eq_ok_iff.mpr ⟨u, hu, rfl⟩, rfl,
      Value.beq_equivalence.refl _⟩

/-- The first unit behind the surrogates and its character are each other's, the last
surrogate has no character, and the first character beyond the basic plane has no unit. -/
theorem corresponds_to_char_at_gap :
    ofChar '\ue000' = .ok ⟨0xe000⟩ ∧ (⟨0xe000⟩ : Char16).toChar? = some '\ue000' ∧
      (⟨0xdfff⟩ : Char16).toChar? = none ∧
      ofChar (Char.ofNat 0x10000) = .error ⟨.outOfRange .char16 0x10000, none⟩ ∧
      (∃ v, Value.ofChar '\ue000' = .ok v ∧ (v == .char16 ⟨0xe000⟩) = true) ∧
      (⟨0xdfff⟩ : Char16).displayText ≠ (⟨0xdffe⟩ : Char16).displayText := by
  obtain ⟨chars, units, boxed, texts⟩ := corresponds_to_char
  have hunit : ofChar '\ue000' = .ok ⟨0xe000⟩ := by decide
  have hchar : (⟨0xe000⟩ : Char16).toChar? = some '\ue000' := ((chars _).2.1 _ hunit).2
  obtain ⟨v, hv, -, hequal⟩ := (boxed '\ue000').1 _ hunit
  exact ⟨(units _).2 _ hchar, hchar, (units _).1.mpr (by decide),
    ((chars _).2.2 _).mpr (by decide), ⟨v, hv, hequal⟩, texts _ _ (by decide)⟩

end Char16
end TypedBox
