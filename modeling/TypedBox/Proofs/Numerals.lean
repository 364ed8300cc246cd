import Mathlib.Data.Nat.Basic
import Mathlib.Logic.Function.Basic
import TypedBox.Proofs.PrefixCode
import TypedBox.Shape
import TypedBox.Text.Basic

/-! # Numerals and names tell what they stand for

No two numbers have the same digits, whether a numeral has as many digits as the
number needs (`toDigits_inj`) or a fixed number of them (`fixedDigits_inj`), in
any base with digits of their own.  Numerals of a fixed width are a prefix code;
the others have to be ended by something that is no digit.
-/
namespace TypedBox
namespace Text

/-! ## Digits -/

theorem digitChar_inj {m n : Nat} (hm : m < 16) (hn : n < 16)
    (h : m.digitChar = n.digitChar) : m = n := by
  have hall : ∀ i < 16, ∀ j < 16, i.digitChar = j.digitChar → i = j := by decide
  exact hall m hm n hn h

theorem mod_eq_of_digitChar_eq {base : Nat} (hpos : 0 < base) (hle : base ≤ 16) {m n : Nat}
    (h : (m % base).digitChar = (n % base).digitChar) : m % base = n % base :=
  digitChar_inj (Nat.lt_of_lt_of_le (Nat.mod_lt m hpos) hle)
    (Nat.lt_of_lt_of_le (Nat.mod_lt n hpos) hle) h

theorem toDigits_append_singleton_ne (base n : Nat) (c d : Char) :
    Nat.toDigits base n ++ [c] ≠ [d] := by
  intro h
  have hnil : Nat.toDigits base n = [] :=
    (List.append_inj' (h.trans (List.nil_append [d]).symm) rfl).1
  exact Nat.toDigits_ne_nil hnil

/-- A numeral in base sixteen or below determines its number. -/
theorem toDigits_inj {base : Nat} (hbase : 1 < base) (hle : base ≤ 16) {m n : Nat}
    (h : Nat.toDigits base m = Nat.toDigits base n) : m = n := by
  have hpos : 0 < base := Nat.lt_of_succ_lt hbase
  induction m using Nat.strongRecOn generalizing n with
  | ind m ih =>
    rcases Nat.lt_or_ge m base with hm | hm <;> rcases Nat.lt_or_ge n base with hn | hn
    · rw [Nat.toDigits_of_lt_base hm, Nat.toDigits_of_lt_base hn, List.singleton_inj] at h
      exact digitChar_inj (Nat.lt_of_lt_of_le hm hle) (Nat.lt_of_lt_of_le hn hle) h
    · rw [Nat.toDigits_of_lt_base hm, Nat.toDigits_of_base_le hbase hn] at h
      exact absurd h.symm (toDigits_append_singleton_ne _ _ _ _)
    · rw [Nat.toDigits_of_base_le hbase hm, Nat.toDigits_of_lt_base hn] at h
      exact absurd h (toDigits_append_singleton_ne _ _ _ _)
    · rw [Nat.toDigits_of_base_le hbase hm, Nat.toDigits_of_base_le hbase hn] at h
      obtain ⟨hfront, hlast⟩ := List.append_inj' h rfl
      have hdiv : m / base = n / base :=
        ih (m / base) (Nat.div_lt_self (Nat.lt_of_lt_of_le hpos hm) hbase) hfront
      have hmod : m % base = n % base :=
        mod_eq_of_digitChar_eq hpos hle (List.singleton_inj.mp hlast)
      rw [← Nat.div_add_mod m base, ← Nat.div_add_mod n base, hdiv, hmod]

/-- Low digits determine what the width leaves of a number. -/
theorem mod_eq_of_fixedDigits_eq {base : Nat} (hpos : 0 < base) (hle : base ≤ 16) {width m n : Nat}
    (h : fixedDigits base width m = fixedDigits base width n) :
    m % base ^ width = n % base ^ width := by
  induction width generalizing m n with
  | zero => rw [Nat.pow_zero, Nat.mod_one, Nat.mod_one]
  | succ width ih =>
    obtain ⟨hfront, hlast⟩ := List.append_inj' h rfl
    have hdiv : m / base % base ^ width = n / base % base ^ width := ih hfront
    have hmod : m % base = n % base := mod_eq_of_digitChar_eq hpos hle (List.singleton_inj.mp hlast)
    rw [Nat.pow_succ', Nat.mod_mul, Nat.mod_mul, hdiv, hmod]

/-- As many low digits as a number has determine it. -/
theorem fixedDigits_inj {base : Nat} (hpos : 0 < base) (hle : base ≤ 16) {width m n : Nat}
    (hm : m < base ^ width) (hn : n < base ^ width)
    (h : fixedDigits base width m = fixedDigits base width n) : m = n := by
  have hmod := mod_eq_of_fixedDigits_eq hpos hle h
  rwa [Nat.mod_eq_of_lt hm, Nat.mod_eq_of_lt hn] at hmod

theorem mem_fixedDigits {base width n : Nat} (hbase : 0 < base) {c : Char}
    (h : c ∈ fixedDigits base width n) : ∃ d < base, c = d.digitChar := by
  induction width generalizing n with
  | zero => cases h
  | succ width ih =>
    rw [fixedDigits, List.mem_append, List.mem_singleton] at h
    rcases h with h | h
    · exact ih h
    · exact ⟨n % base, Nat.mod_lt n hbase, h⟩

/-! ## Decimal numerals -/

theorem decimalDigits_injective : Function.Injective decimalDigits :=
  fun _ _ h => toDigits_inj (by decide) (by decide) h

theorem isDigit_of_mem_decimalDigits {n : Nat} {c : Char} (h : c ∈ decimalDigits n) :
    c.isDigit = true :=
  Nat.isDigit_of_mem_toDigits (by decide) (by decide) h

theorem isDigit_of_mem_fixedDigits {width n : Nat} {c : Char} (h : c ∈ fixedDigits 10 width n) :
    c.isDigit = true := by
  obtain ⟨d, hd, rfl⟩ := mem_fixedDigits (by decide) h
  rw [Nat.isDigit_digitChar]
  exact decide_eq_true hd

theorem toList_decimal (n : Nat) : (decimal n).toList = decimalDigits n :=
  String.toList_ofList

theorem decimal_injective : Function.Injective decimal := by
  intro m n h
  have hdigits := congrArg String.toList h
  rw [toList_decimal, toList_decimal] at hdigits
  exact decimalDigits_injective hdigits

/-- A decimal numeral has no sign in front of it. -/
theorem decimal_ne_minus_append (n : Nat) (s : String) : decimal n ≠ "-" ++ s := by
  intro h
  have hminus : '-' ∈ decimalDigits n := by
    rw [← toList_decimal, h, String.toList_append]
    exact List.mem_append_left _ (List.mem_singleton.mpr rfl)
  exact absurd (isDigit_of_mem_decimalDigits hminus) (by decide)

theorem signedDecimal_injective : Function.Injective signedDecimal := by
  intro i j h
  cases i with
  | ofNat m =>
    cases j with
    | ofNat n => exact congrArg Int.ofNat (decimal_injective h)
    | negSucc n => exact absurd h (decimal_ne_minus_append m _)
  | negSucc m =>
    cases j with
    | ofNat n => exact absurd h.symm (decimal_ne_minus_append n _)
    | negSucc n =>
      have hdigits := decimal_injective ((String.append_right_inj "-").mp h)
      rw [Nat.succ.inj hdigits]

/-- A sign and digits are all there is in the text of an integer. -/
theorem isDigit_or_minus_of_mem_signedDecimal {i : Int} {c : Char}
    (h : c ∈ (signedDecimal i).toList) : c.isDigit = true ∨ c = '-' := by
  cases i with
  | ofNat n =>
    rw [signedDecimal, toList_decimal] at h
    exact .inl (isDigit_of_mem_decimalDigits h)
  | negSucc n =>
    rw [signedDecimal, String.toList_append, toList_decimal, List.mem_append] at h
    rcases h with h | h
    · exact .inr (List.mem_singleton.mp h)
    · exact .inl (isDigit_of_mem_decimalDigits h)

/-! ## Padded numerals -/

theorem toList_paddedDecimal (width n : Nat) :
    (paddedDecimal width n).toList = List.leftpad width '0' (decimalDigits n) :=
  String.toList_ofList

theorem isDigit_of_mem_paddedDecimal {width n : Nat} {c : Char}
    (h : c ∈ (paddedDecimal width n).toList) : c.isDigit = true := by
  rw [toList_paddedDecimal, List.leftpad, List.mem_append] at h
  rcases h with h | h
  · obtain rfl := List.eq_of_mem_replicate h
    rfl
  · exact isDigit_of_mem_decimalDigits h

/-- Zeros in front do not change what the digits are read as. -/
theorem ofDigitChars_leftpad (width n : Nat) :
    Nat.ofDigitChars 10 (List.leftpad width '0' (decimalDigits n)) 0 = n := by
  rw [List.leftpad, Nat.ofDigitChars_append, Nat.ofDigitChars_replicate_zero, Nat.mul_zero,
    decimalDigits, Nat.ofDigitChars_ten_toDigits]

theorem paddedDecimal_injective (width : Nat) : Function.Injective (paddedDecimal width) := by
  intro m n h
  have hdigits := congrArg String.toList h
  rw [toList_paddedDecimal, toList_paddedDecimal] at hdigits
  rw [← ofDigitChars_leftpad width m, hdigits, ofDigitChars_leftpad]

/-- The low digits are those of the remainder. -/
theorem fixedDigits_mod (base width n : Nat) :
    fixedDigits base width (n % base ^ width) = fixedDigits base width n := by
  induction width generalizing n with
  | zero => rfl
  | succ width ih =>
    have hlast : n % base ^ (width + 1) % base = n % base :=
      Nat.mod_mod_of_dvd n ⟨base ^ width, Nat.pow_succ'⟩
    have hfront : n % base ^ (width + 1) / base = n / base % base ^ width := by
      rw [Nat.pow_succ', Nat.mod_mul_right_div_self]
    rw [fixedDigits, fixedDigits, hlast, hfront, ih]

/-- A number that fits a width has as many low digits as its padded numeral. -/
theorem fixedDigits_eq_leftpad {base width n : Nat} (hbase : 1 < base) (hwidth : 0 < width)
    (h : n < base ^ width) :
    fixedDigits base width n = List.leftpad width '0' (Nat.toDigits base n) := by
  induction width, hwidth using Nat.le_induction generalizing n with
  | base =>
    have hn : n < base := by rwa [Nat.pow_one] at h
    rw [Nat.toDigits_of_lt_base hn, fixedDigits, fixedDigits, Nat.mod_eq_of_lt hn]
    rfl
  | succ width hwidth ih =>
    have hfront : n / base < base ^ width := by
      rw [Nat.pow_succ'] at h
      exact Nat.div_lt_of_lt_mul h
    rw [fixedDigits, ih hfront, List.leftpad, List.leftpad]
    rcases Nat.lt_or_ge n base with hn | hn
    · -- the digit in front of the only one is a zero as well
      rw [Nat.div_eq_of_lt hn, Nat.toDigits_of_lt_base hn, Nat.mod_eq_of_lt hn,
        Nat.toDigits_of_lt_base (Nat.lt_of_succ_lt hbase)]
      change List.replicate (width - 1) '0' ++ ['0'] ++ _ = List.replicate width '0' ++ _
      rw [← List.replicate_succ', Nat.sub_add_cancel hwidth]
    · rw [Nat.toDigits_of_base_le hbase hn]
      simp

/-! ## Hexadecimal numerals -/

/-- The character is one of the sixteen digits, letters in lower case. -/
def isLowerHexDigit (c : Char) : Bool :=
  c.isDigit || ('a' ≤ c && c ≤ 'f')

theorem isLowerHexDigit_digitChar {d : Nat} (h : d < 16) : isLowerHexDigit d.digitChar = true := by
  have hall : ∀ d < 16, isLowerHexDigit d.digitChar = true := by decide
  exact hall d h

theorem isLowerHexDigit_of_mem_fixedDigits {width n : Nat} {c : Char}
    (h : c ∈ fixedDigits 16 width n) : isLowerHexDigit c = true := by
  obtain ⟨d, hd, rfl⟩ := mem_fixedDigits (by decide) h
  exact isLowerHexDigit_digitChar hd

theorem hexDigits_injective : Function.Injective hexDigits :=
  fun _ _ h => toDigits_inj (by decide) (by decide) h

/-- Only digits occur in a hexadecimal numeral. -/
theorem mem_hexDigits {n : Nat} {c : Char} (h : c ∈ hexDigits n) : ∃ d < 16, c = d.digitChar := by
  induction n using Nat.strongRecOn with
  | ind n ih =>
    rw [hexDigits, Nat.toDigits_eq_if (by decide)] at h
    split at h
    next hn => exact ⟨n, hn, List.mem_singleton.mp h⟩
    next hn =>
      rcases List.mem_append.mp h with h | h
      · exact ih (n / 16) (Nat.div_lt_self (by omega) (by decide)) h
      · exact ⟨n % 16, Nat.mod_lt n (by decide), List.mem_singleton.mp h⟩

theorem toList_fixedHex (width n : Nat) : (fixedHex width n).toList = fixedDigits 16 width n :=
  String.toList_ofList

/-- Numbers that fit a width are a prefix code in that many digits. -/
theorem prefixCode_fixedHex {α : Type} (width : Nat) (number : α → Nat)
    (hinj : Function.Injective number) (hfits : ∀ a, number a < 16 ^ width) :
    Bytes.PrefixCode fun a => fixedDigits 16 width (number a) :=
  .of_length (fun a => length_fixedDigits 16 width (number a))
    fun a b h => hinj (fixedDigits_inj (by decide) (by decide) (hfits a) (hfits b) h)

theorem prefixCode_fixedHex_uint8 :
    Bytes.PrefixCode fun n : UInt8 => fixedDigits 16 2 n.toNat :=
  prefixCode_fixedHex 2 UInt8.toNat (fun _ _ => UInt8.toNat_inj.mp)
    fun n => Nat.lt_of_lt_of_eq n.toNat_lt (by decide)

theorem prefixCode_fixedHex_uint16 :
    Bytes.PrefixCode fun n : UInt16 => fixedDigits 16 4 n.toNat :=
  prefixCode_fixedHex 4 UInt16.toNat (fun _ _ => UInt16.toNat_inj.mp)
    fun n => Nat.lt_of_lt_of_eq n.toNat_lt (by decide)

/-- Four digits tell a number of 16 bits. -/
theorem fixedHex_uint16_injective : Function.Injective fun n : UInt16 => fixedHex 4 n.toNat :=
  fun _ _ h => prefixCode_fixedHex_uint16.injective (String.ofList_injective h)

theorem prefixCode_fixedHex_uint32 :
    Bytes.PrefixCode fun n : UInt32 => fixedDigits 16 8 n.toNat :=
  prefixCode_fixedHex 8 UInt32.toNat (fun _ _ => UInt32.toNat_inj.mp)
    fun n => Nat.lt_of_lt_of_eq n.toNat_lt (by decide)

end Text

/-! ## The names of shapes

No two shapes have one name, and no name has a character in it that a text puts
behind a name.  So a shape can be read off where a text names it, and of two shapes
in a text the first one ends at the comma (`eq_of_names_eq`).
-/

namespace Shape

@[simp] theorem ofName?_name (s : Shape) : ofName? s.name = some s := by
  cases s <;> decide

theorem name_injective : Function.Injective name := by
  intro a b h
  have hfound := congrArg ofName? h
  simpa using hfound

theorem paren_not_mem_name (s : Shape) : '(' ∉ s.name.toList := by
  cases s <;> decide

theorem comma_not_mem_name (s : Shape) : ',' ∉ s.name.toList := by
  cases s <;> decide

/-- Two shapes that are named one after the other can be told from the text. -/
theorem eq_of_names_eq {expected actual expected' actual' : Shape}
    (h : expected.name ++ (", got " ++ actual.name) =
      expected'.name ++ (", got " ++ actual'.name)) :
    expected = expected' ∧ actual = actual' := by
  have hlist := congrArg String.toList h
  have hcomma : ", got ".toList = ',' :: " got ".toList := by decide
  simp only [String.toList_append, hcomma, List.cons_append] at hlist
  obtain ⟨hexpected, hrest⟩ := Bytes.split_at_stop expected.comma_not_mem_name
    expected'.comma_not_mem_name hlist
  have hactual := List.append_cancel_left hrest
  exact ⟨name_injective (String.toList_inj.mp hexpected),
    name_injective (String.toList_inj.mp hactual)⟩

end Shape
end TypedBox
