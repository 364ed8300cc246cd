import TypedBox.Proofs.Numerals
import TypedBox.Proofs.QuotedText
import TypedBox.Proofs.RecordText
import TypedBox.Value.PlainData
import TypedBox.Value.Text

/-! # The debug text of a value tells the value

The debug text puts the name of the shape in front of a parenthesis.  No name has a
parenthesis in it and no two names are the same, so the shape is read off first
(`split_debugText`).  What stands in the parentheses then has to tell native values
of one shape apart only, and every shape has a lemma for its native type.  Objects
are left out, which show an address in place of themselves, and so are NaNs, which
are all displayed alike.
-/
namespace TypedBox

theorem Text.boolean_injective : Function.Injective Text.boolean := by
  intro a b h
  cases a <;> cases b
  · rfl
  · exact absurd h (by decide)
  · exact absurd h (by decide)
  · rfl

namespace Value

section DebugText

variable [StoredTypes] {address : Nat → String}

/-- The value is a floating-point number, or a record of such numbers, of which one
is a NaN. -/
def HasNaN : Value → Prop
  | single x => x.IsNaN
  | double x => x.IsNaN
  | point p => p.HasNaN
  | size s => s.HasNaN
  | rect r => r.HasNaN
  | _ => False

theorem toList_debugText (v : Value) :
    (v.debugText address).toList =
      v.shape.name.toList ++ '(' :: ((v.debugContent address).toList ++ [')']) := by
  simp [debugText, Text.applied]

/-- The shape and what stands in parentheses can be told from the debug text. -/
theorem split_debugText {a b : Value} (h : a.debugText address = b.debugText address) :
    a.shape = b.shape ∧ a.debugContent address = b.debugContent address := by
  have hlist := congrArg String.toList h
  rw [toList_debugText, toList_debugText] at hlist
  obtain ⟨hname, hrest⟩ := Bytes.split_at_stop a.shape.paren_not_mem_name
    b.shape.paren_not_mem_name hlist
  have hcontent := (List.append_inj' hrest rfl).1
  exact ⟨Shape.name_injective (String.toList_inj.mp hname), String.toList_inj.mp hcontent⟩

/-- A code unit is shown by its four hexadecimal digits. -/
theorem char16_eq_of_debugContent_eq {c d : Char16}
    (h : (char16 c).debugContent address = (char16 d).debugContent address) : c = d := by
  have hdigits := (String.append_right_inj "0x").mp h
  exact Char16.ext (Text.fixedHex_uint16_injective hdigits)

theorem guid_eq_of_debugContent_eq {g g' : Guid}
    (h : (guid g).debugContent address = (guid g').debugContent address) : g = g' := by
  have hbraces := (String.append_left_inj "\x7d").mp h
  exact Guid.displayText_injective ((String.append_right_inj "\x7b").mp hbraces)

/-- What stands in parentheses tells native values of one shape apart. -/
theorem eq_of_debugContent_eq {s : Shape} (hs : s ≠ .object) {x y : s.Native}
    (hx : ¬ (ofNative s x).HasNaN) (hy : ¬ (ofNative s y).HasNaN)
    (h : (ofNative s x).debugContent address = (ofNative s y).debugContent address) : x = y := by
  cases s
  case object => exact absurd rfl hs
  case uint8 => exact UInt8.toNat_inj.mp (Text.decimal_injective h)
  case int16 => exact Int16.toInt_inj.mp (Text.signedDecimal_injective h)
  case uint16 => exact UInt16.toNat_inj.mp (Text.decimal_injective h)
  case int32 => exact Int32.toInt_inj.mp (Text.signedDecimal_injective h)
  case uint32 => exact UInt32.toNat_inj.mp (Text.decimal_injective h)
  case int64 => exact Int64.toInt_inj.mp (Text.signedDecimal_injective h)
  case uint64 => exact UInt64.toNat_inj.mp (Text.decimal_injective h)
  case single => exact Single.eq_of_displayText_eq hx hy h
  case double => exact Double.eq_of_displayText_eq hx hy h
  case char16 => exact char16_eq_of_debugContent_eq h
  case boolean => exact Text.boolean_injective h
  case string => exact Text.quoted_injective h
  case dateTime => exact DateTime.displayText_injective h
  case timeSpan => exact TimeSpan.displayText_injective h
  case guid => exact guid_eq_of_debugContent_eq h
  case point => exact Point.eq_of_displayText_eq hx hy h
  case size => exact Size.eq_of_displayText_eq hx hy h
  case rect => exact Rect.eq_of_displayText_eq hx hy h

/-- Values without object and NaN are the same if their debug texts are. -/
theorem eq_of_debugText_eq {a b : Value} (hobject : a.shape ≠ .object) (ha : ¬ a.HasNaN)
    (hb : ¬ b.HasNaN) (h : a.debugText address = b.debugText address) : a = b := by
  obtain ⟨hshape, hcontent⟩ := split_debugText h
  obtain ⟨s, x, y, rfl, rfl⟩ := exists_ofNative_pair hshape
  rw [shape_ofNative] at hobject
  rw [eq_of_debugContent_eq hobject ha hb hcontent]

/-- A value that is no object has nothing that equality does not see. -/
theorem beq_iff_eq_of_shape_ne {a b : Value} (ha : a.shape ≠ .object) (hb : b.shape ≠ .object) :
    (a == b) = true ↔ a = b := by
  have hbare : ∀ {v : Value}, v.shape ≠ .object → v.bare = v := by
    intro v hv
    cases v
    case object => exact absurd rfl hv
    all_goals rfl
  rw [beq_iff_bare, hbare ha, hbare hb]

/-- **The debug text determines the value**, for all values that are no objects and
have no NaN in them: two such values have one debug text just when they are equal,
and then they have one shape and the same native value, bit by bit. -/
theorem debugText_determines_value (address : Nat → String) (a b : Value)
    (ha : a.shape ≠ .object) (hb : b.shape ≠ .object) (hanan : ¬ a.HasNaN)
    (hbnan : ¬ b.HasNaN) :
    (a.debugText address = b.debugText address ↔ (a == b) = true) ∧
      ((a == b) = true → a.shape = b.shape ∧ a = b) := by
  have hequal : (a == b) = true ↔ a = b := beq_iff_eq_of_shape_ne ha hb
  refine ⟨?_, ?_⟩
  · rw [hequal]
    constructor
    · intro h
      exact eq_of_debugText_eq ha hanan hbnan h
    · rintro rfl
      rfl
  · intro h
    obtain rfl := hequal.mp h
    exact ⟨rfl, rfl⟩

end DebugText

/-- Two rectangles with the signs of their zeros exchanged are told apart, and so are
a quotation mark and the text of its escape. -/
theorem debugText_determines_signed_zeros_and_marks :
    let address : Nat → String := fun _ => "0x0"
    let negativeZero : Double := ⟨0x8000000000000000⟩
    let r : Rect := ⟨.zero, negativeZero, .zero, .zero⟩
    let r' : Rect := ⟨negativeZero, .zero, .zero, .zero⟩
    let mark := "\""
    let escaped := "\\\""
    ¬ r.HasNaN ∧ ¬ r'.HasNaN ∧
      (rect r).debugText address ≠ (rect r').debugText address ∧
      (string mark).debugText address ≠ (string escaped).debugText address := by
  intro address negativeZero r r' mark escaped
  have hr : ¬ r.HasNaN := by decide
  have hr' : ¬ r'.HasNaN := by decide
  refine ⟨hr, hr', ?_, ?_⟩
  · intro h
    have hequal := (debugText_determines_value address (rect r) (rect r') (by decide)
      (by decide) hr hr').1.mp h
    exact absurd hequal (by decide)
  · intro h
    have hequal := (debugText_determines_value address (string mark) (string escaped) (by decide)
      (by decide) id id).1.mp h
    exact absurd hequal (by decide)

end Value
end TypedBox
