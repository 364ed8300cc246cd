import TypedBox.Value.Object

/-! # Boxed values as text

A value is displayed as its native value is.  Its debug text puts the shape in
front and the rest in parentheses, with texts quoted and code units in
hexadecimal.  The payload text is the structured text of the native value.
-/
namespace TypedBox
namespace Value

variable [StoredTypes]

/-- How a value is displayed. -/
def displayText : Value → String
  | uint8 n => Text.decimal n.toNat
  | int16 n => Text.signedDecimal n.toInt
  | uint16 n => Text.decimal n.toNat
  | int32 n => Text.signedDecimal n.toInt
  | uint32 n => Text.decimal n.toNat
  | int64 n => Text.signedDecimal n.toInt
  | uint64 n => Text.decimal n.toNat
  | single x => x.displayText
  | double x => x.displayText
  | char16 c => c.displayText
  | boolean b => Text.boolean b
  | string s => s
  | object o => o.displayText
  | dateTime d => d.displayText
  | timeSpan t => t.displayText
  | guid g => "\x7b" ++ g.displayText ++ "\x7d"
  | point p => p.displayText
  | size s => s.displayText
  | rect r => r.displayText

/-- What stands in parentheses in the debug text: the displayed value, unless that could be
mistaken for something else. -/
def debugContent (address : Nat → String) : Value → String
  | string s => Text.quoted s
  | char16 c => "0x" ++ Text.fixedHex 4 c.unit.toNat
  | object o => o.debugText address
  | v => v.displayText

/-- The shape of a value, and in parentheses the value. -/
def debugText (address : Nat → String) (v : Value) : String :=
  Text.applied v.shape.name (v.debugContent address)

/-- The structured text of the native value. -/
def payloadContent (address : Nat → String) : Value → String
  | single x => x.debugText
  | double x => x.debugText
  | char16 c => c.debugText
  | string s => Text.quoted s
  | object o => o.debugText address
  | dateTime d => d.debugText
  | timeSpan t => t.debugText
  | guid g => g.debugText
  | point p => p.debugText
  | size s => s.debugText
  | rect r => r.debugText
  | v => v.displayText

/-- The shape of a value, and in parentheses the structured text of the native value. -/
def payloadText (address : Nat → String) (v : Value) : String :=
  Text.applied v.shape.name (v.payloadContent address)

end Value
end TypedBox
