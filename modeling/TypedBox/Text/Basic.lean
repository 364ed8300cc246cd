import TypedBox.Bytes

/-! # Numerals and structured text

Whole numbers in decimal and in lower-case hexadecimal.  A numeral has as many
digits as the number needs, or at least so many, or exactly so many; the last of
these shows the low digits of a number that needs more.

The text of structured data: a record as its name and its fields in braces, a
case as its name and its content in parentheses, a list in brackets.
-/
namespace TypedBox
namespace Text

/-- The decimal digits of `n`, most significant first; zero has one digit. -/
def decimalDigits (n : Nat) : List Char :=
  Nat.toDigits 10 n

/-- The lower-case hexadecimal digits of `n`, most significant first. -/
def hexDigits (n : Nat) : List Char :=
  Nat.toDigits 16 n

/-- The `width` low digits of `n`, most significant first. -/
def fixedDigits (base : Nat) : (width n : Nat) → List Char
  | 0, _ => []
  | width + 1, n => fixedDigits base width (n / base) ++ [Nat.digitChar (n % base)]

/-- A whole number in decimal. -/
def decimal (n : Nat) : String :=
  String.ofList (decimalDigits n)

/-- An integer in decimal, with a minus sign in front of a negative one. -/
def signedDecimal : Int → String
  | .ofNat n => decimal n
  | .negSucc n => "-" ++ decimal (n + 1)

/-- A whole number in decimal, with zeros in front to reach at least `width` digits. -/
def paddedDecimal (width n : Nat) : String :=
  String.ofList (List.leftpad width '0' (decimalDigits n))

/-- The `width` low hexadecimal digits of a whole number. -/
def fixedHex (width n : Nat) : String :=
  String.ofList (fixedDigits 16 width n)

@[simp] theorem length_fixedDigits (base width n : Nat) :
    (fixedDigits base width n).length = width := by
  induction width generalizing n with
  | zero => rfl
  | succ width ih => simp [fixedDigits, ih]

/-- Digits can be split at any place. -/
theorem fixedDigits_add (base left right n : Nat) :
    fixedDigits base (left + right) n =
      fixedDigits base left (n / base ^ right) ++ fixedDigits base right n := by
  induction right generalizing n with
  | zero => simp [fixedDigits]
  | succ right ih =>
    rw [← Nat.add_assoc, fixedDigits, ih, Nat.div_div_eq_div_mul, ← Nat.pow_succ',
      List.append_assoc, fixedDigits]

/-! ## Structured text -/

/-- One field of a record: its name and its text. -/
def field (entry : String × String) : String :=
  entry.1 ++ ": " ++ entry.2

/-- A record with all its fields. -/
def fields (name : String) (entries : List (String × String)) : String :=
  name ++ " \x7b " ++ ", ".intercalate (entries.map field) ++ " \x7d"

/-- A record of which only some fields are shown. -/
def someFields (name : String) (entries : List (String × String)) : String :=
  name ++ " \x7b " ++ ", ".intercalate (entries.map field ++ [".."]) ++ " \x7d"

/-- A case with its content. -/
def applied (name content : String) : String :=
  name ++ "(" ++ content ++ ")"

/-- A list of texts. -/
def list (items : List String) : String :=
  "[" ++ ", ".intercalate items ++ "]"

/-- A text that may be absent. -/
def optional : Option String → String
  | none => "None"
  | some s => applied "Some" s

/-- A truth value. -/
def boolean (b : Bool) : String :=
  if b then "true" else "false"

end Text
end TypedBox
