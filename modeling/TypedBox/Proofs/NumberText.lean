import TypedBox.Binary.Float
import TypedBox.Proofs.Equality
import TypedBox.Proofs.Numerals
import TypedBox.Proofs.ReadBack

/-! # The text of a floating-point number tells the number

A NaN apart, no two numbers of a format are displayed alike: the sign is seen, an
infinity is not a numeral, and the numeral of a finite magnitude is that of its
shortest decimal, from which the magnitude is read back.  The text of a number
consists of a few characters only (`isNumberChar`), so that where it stands among
other text it ends at the first other character.
-/
namespace TypedBox

open Bytes (split_at_stop)

namespace Decimal

/-! ## Positional notation -/

theorem isDigit_or_point_of_mem_positional {d : Decimal} {c : Char} (h : c ∈ d.positional) :
    c.isDigit = true ∨ c = '.' := by
  rcases List.mem_append.mp h with h | h
  · exact .inl (Text.isDigit_of_mem_decimalDigits h)
  · unfold fraction at h
    split at h
    next => cases h
    next =>
      rcases List.mem_cons.mp h with h | h
      · exact .inr h
      · exact .inl (Text.isDigit_of_mem_fixedDigits h)

theorem not_mem_positional {c : Char} (hdigit : c.isDigit = false) (hpoint : c ≠ '.')
    (d : Decimal) : c ∉ d.positional := by
  intro h
  rcases isDigit_or_point_of_mem_positional h with h | h
  · rw [hdigit] at h
    cases h
  · exact hpoint h

theorem point_not_mem_decimalDigits (n : Nat) : '.' ∉ Text.decimalDigits n :=
  fun h => absurd (Text.isDigit_of_mem_decimalDigits h) (by decide)

theorem positional_of_places_eq_zero {d : Decimal} (h : d.places = 0) :
    d.positional = Text.decimalDigits (d.num / d.den) := by
  rw [positional, fraction, if_pos h, List.append_nil]

theorem positional_of_places_ne_zero {d : Decimal} (h : d.places ≠ 0) :
    d.positional =
      Text.decimalDigits (d.num / d.den) ++ '.' :: Text.fixedDigits 10 d.places d.digits := by
  rw [positional, fraction, if_neg h]

/-- With digits after the point, the digits are the numerator. -/
theorem num_of_places_ne_zero {d : Decimal} (h : d.places ≠ 0) : d.num = d.digits := by
  have hexponent : d.exponent.toNat = 0 := by
    unfold places at h
    omega
  rw [num, hexponent, Nat.pow_zero, Nat.mul_one]

/-- **Positional notation determines the fraction.** -/
theorem num_den_of_positional_eq {d e : Decimal} (h : d.positional = e.positional) :
    d.num = e.num ∧ d.den = e.den := by
  by_cases hd : d.places = 0 <;> by_cases he : e.places = 0
  · rw [positional_of_places_eq_zero hd, positional_of_places_eq_zero he] at h
    have hquotient := Text.decimalDigits_injective h
    have hden : d.den = 1 := by rw [den, hd, Nat.pow_zero]
    have hden' : e.den = 1 := by rw [den, he, Nat.pow_zero]
    rw [hden, hden', Nat.div_one, Nat.div_one] at hquotient
    exact ⟨hquotient, hden.trans hden'.symm⟩
  · -- only one of them has a point
    rw [positional_of_places_eq_zero hd, positional_of_places_ne_zero he] at h
    have hpoint : '.' ∈ Text.decimalDigits (d.num / d.den) := by simp [h]
    exact absurd hpoint (point_not_mem_decimalDigits _)
  · rw [positional_of_places_ne_zero hd, positional_of_places_eq_zero he] at h
    have hpoint : '.' ∈ Text.decimalDigits (e.num / e.den) := by simp [← h]
    exact absurd hpoint (point_not_mem_decimalDigits _)
  · rw [positional_of_places_ne_zero hd, positional_of_places_ne_zero he] at h
    obtain ⟨hwhole, hrest⟩ := split_at_stop (point_not_mem_decimalDigits _)
      (point_not_mem_decimalDigits _) h
    have hplaces : d.places = e.places := by
      have hlength := congrArg List.length hrest
      rwa [Text.length_fixedDigits, Text.length_fixedDigits] at hlength
    have hden : d.den = e.den := by rw [den, den, hplaces]
    have hquotient := Text.decimalDigits_injective hwhole
    have hremainder : d.digits % d.den = e.digits % e.den := by
      rw [den, den, hplaces]
      rw [hplaces] at hrest
      exact Text.mod_eq_of_fixedDigits_eq (by decide) (by decide) hrest
    rw [num_of_places_ne_zero hd, num_of_places_ne_zero he] at hquotient ⊢
    refine ⟨?_, hden⟩
    rw [← Nat.div_add_mod d.digits d.den, hquotient, hremainder, hden, Nat.div_add_mod]

end Decimal

namespace Binary

/-- A finite magnitude is known by the numeral of its shortest decimal. -/
theorem Format.eq_of_positional_shortest_eq {f : Format} (hf : 0 < f.precision) {m n : Nat}
    (hm : m < f.infinity) (hn : n < f.infinity)
    (h : (f.shortest m).positional = (f.shortest n).positional) : m = n := by
  obtain ⟨hnum, hden⟩ := Decimal.num_den_of_positional_eq h
  have hread : f.read (f.shortest m) = f.read (f.shortest n) := by
    rw [Format.read, Format.read, hnum, hden]
  rwa [Format.read_shortest hf hm, Format.read_shortest hf hn] at hread

/-! ## Texts of data -/

/-- The characters that the text of a number can have, a NaN apart. -/
def isNumberChar (c : Char) : Bool :=
  c.isDigit || c ∈ ['-', '.', 'i', 'n', 'f']

theorem mem_signText {negative : Bool} {c : Char} (h : c ∈ signText negative) : c = '-' := by
  cases negative with
  | false => cases h
  | true => exact List.mem_singleton.mp h

/-- A sign is seen in front of whatever has no minus sign in it. -/
theorem signText_append_inj {negative negative' : Bool} {s t : List Char} (hs : '-' ∉ s)
    (ht : '-' ∉ t) (h : signText negative ++ s = signText negative' ++ t) :
    negative = negative' ∧ s = t := by
  cases negative with
  | false =>
    cases negative' with
    | false => exact ⟨rfl, h⟩
    | true =>
      change s = '-' :: t at h
      exact absurd (by rw [h]; exact List.mem_cons_self) hs
  | true =>
    cases negative' with
    | false =>
      change '-' :: s = t at h
      exact absurd (by rw [← h]; exact List.mem_cons_self) ht
    | true => exact ⟨rfl, (List.cons.inj h).2⟩

namespace Datum

/-- The datum is a finite magnitude of the format, or an infinity. -/
def IsNumber (f : Format) : Datum → Prop
  | nan => False
  | infinite _ => True
  | finite _ code => code < f.infinity

variable {f : Format}

theorem isNumberChar_of_mem_displayText {d : Datum} (hd : d.IsNumber f) {c : Char}
    (h : c ∈ (d.displayText f).toList) : isNumberChar c = true := by
  have hminus : isNumberChar '-' = true := by decide
  cases d with
  | nan => cases hd
  | infinite negative =>
    rw [displayText, String.toList_ofList] at h
    rcases List.mem_append.mp h with h | h
    · rwa [mem_signText h]
    · have hall : ['i', 'n', 'f'].all isNumberChar = true := by decide
      exact List.all_eq_true.mp hall c h
  | finite negative code =>
    rw [displayText, String.toList_ofList] at h
    rcases List.mem_append.mp h with h | h
    · rwa [mem_signText h]
    · rcases Decimal.isDigit_or_point_of_mem_positional h with h | rfl
      · rw [isNumberChar, h, Bool.true_or]
      · decide

theorem inf_ne_positional (d : Decimal) : ['i', 'n', 'f'] ≠ d.positional := by
  intro h
  have hi : 'i' ∈ d.positional := h ▸ List.mem_cons_self
  exact absurd hi (Decimal.not_mem_positional (by decide) (by decide) d)

/-- **A number is known by how it is displayed.** -/
theorem eq_of_displayText_eq (hf : 0 < f.precision) {d e : Datum} (hd : d.IsNumber f)
    (he : e.IsNumber f) (h : d.displayText f = e.displayText f) : d = e := by
  have hinf : '-' ∉ ['i', 'n', 'f'] := by decide
  have hminus := Decimal.not_mem_positional (c := '-') (by decide) (by decide)
  cases d with
  | nan => cases hd
  | infinite negative =>
    cases e with
    | nan => cases he
    | infinite negative' =>
      obtain ⟨rfl, -⟩ := signText_append_inj hinf hinf (String.ofList_injective h)
      rfl
    | finite negative' code =>
      obtain ⟨-, h⟩ := signText_append_inj hinf (hminus _) (String.ofList_injective h)
      exact absurd h (inf_ne_positional _)
  | finite negative code =>
    cases e with
    | nan => cases he
    | infinite negative' =>
      obtain ⟨-, h⟩ := signText_append_inj (hminus _) hinf (String.ofList_injective h)
      exact absurd h.symm (inf_ne_positional _)
    | finite negative' code' =>
      obtain ⟨rfl, hmagnitude⟩ :=
        signText_append_inj (hminus _) (hminus _) (String.ofList_injective h)
      rw [Format.eq_of_positional_shortest_eq hf hd he hmagnitude]

end Datum

/-! ## Bit patterns -/

namespace Format

variable {f : Format}

/-- What a pattern stands for shows its sign and its code, a NaN apart. -/
theorem datum_eq_finite_or_infinite {bits : Nat} (h : f.datum bits ≠ .nan) :
    (f.datum bits = .finite (f.isNegative bits) (f.code bits) ∧ f.code bits < f.infinity) ∨
      (f.datum bits = .infinite (f.isNegative bits) ∧ f.code bits = f.infinity) := by
  unfold datum at h ⊢
  by_cases hfinite : f.code bits < f.infinity
  · exact .inl ⟨if_pos hfinite, hfinite⟩
  · rw [if_neg hfinite] at h ⊢
    by_cases hinfinite : f.code bits = f.infinity
    · exact .inr ⟨if_pos hinfinite, hinfinite⟩
    · exact absurd (if_neg hinfinite) h

theorem isNumber_datum {bits : Nat} (h : f.datum bits ≠ .nan) : (f.datum bits).IsNumber f := by
  rcases datum_eq_finite_or_infinite h with ⟨hdatum, hfinite⟩ | ⟨hdatum, -⟩
  · rw [hdatum]
    exact hfinite
  · rw [hdatum]
    trivial

theorem sign_code_of_datum_eq {m n : Nat} (hm : f.datum m ≠ .nan) (hn : f.datum n ≠ .nan)
    (h : f.datum m = f.datum n) : f.isNegative m = f.isNegative n ∧ f.code m = f.code n := by
  rcases datum_eq_finite_or_infinite hm with ⟨hdatum, -⟩ | ⟨hdatum, hcode⟩ <;>
    rcases datum_eq_finite_or_infinite hn with ⟨hdatum', -⟩ | ⟨hdatum', hcode'⟩ <;>
    rw [hdatum, hdatum'] at h
  · exact Datum.finite.inj h
  · cases h
  · cases h
  · exact ⟨Datum.infinite.inj h, hcode.trans hcode'.symm⟩

/-- A pattern is put together from its sign and its code. -/
theorem eq_of_sign_code_eq {m n : Nat} (hm : m < 2 * f.signWeight) (hn : n < 2 * f.signWeight)
    (hsign : f.isNegative m = f.isNegative n) (hcode : f.code m = f.code n) : m = n := by
  have hsplit : ∀ {k : Nat}, k < 2 * f.signWeight →
      k = (if f.isNegative k = true then f.signWeight else 0) + f.code k := by
    intro k hk
    unfold isNegative code
    by_cases h : f.signWeight ≤ k
    · rw [decide_eq_true h, if_pos rfl, Nat.mod_eq_sub_mod h, Nat.mod_eq_of_lt (by omega)]
      omega
    · rw [decide_eq_false h, if_neg Bool.false_ne_true, Nat.mod_eq_of_lt (by omega), Nat.zero_add]
  rw [hsplit hm, hsplit hn, hsign, hcode]

/-- Patterns that are numbers are told apart by how they are displayed. -/
theorem eq_of_displayText_eq (hf : 0 < f.precision) {m n : Nat} (hm : m < 2 * f.signWeight)
    (hn : n < 2 * f.signWeight) (hnumber : f.datum m ≠ .nan) (hnumber' : f.datum n ≠ .nan)
    (h : (f.datum m).displayText f = (f.datum n).displayText f) : m = n := by
  have hdatum : f.datum m = f.datum n :=
    Datum.eq_of_displayText_eq hf (isNumber_datum hnumber) (isNumber_datum hnumber') h
  obtain ⟨hsign, hcode⟩ := sign_code_of_datum_eq hnumber hnumber' hdatum
  exact eq_of_sign_code_eq hm hn hsign hcode

end Format
end Binary

open Binary (Format isNumberChar)

namespace Single

/-- The bit pattern stands for no number. -/
def IsNaN (x : Single) : Prop := x.datum = .nan

instance (x : Single) : Decidable x.IsNaN := inferInstanceAs (Decidable (_ = _))

theorem eq_of_displayText_eq {x y : Single} (hx : ¬ x.IsNaN) (hy : ¬ y.IsNaN)
    (h : x.displayText = y.displayText) : x = y := by
  have hbits := Format.eq_of_displayText_eq (f := .single) (by decide) x.bits.toNat_lt
    y.bits.toNat_lt hx hy h
  exact Single.ext (UInt32.toNat_inj.mp hbits)

end Single

namespace Double

/-- The bit pattern stands for no number. -/
def IsNaN (x : Double) : Prop := x.datum = .nan

instance (x : Double) : Decidable x.IsNaN := inferInstanceAs (Decidable (_ = _))

theorem eq_of_displayText_eq {x y : Double} (hx : ¬ x.IsNaN) (hy : ¬ y.IsNaN)
    (h : x.displayText = y.displayText) : x = y := by
  have hbits := Format.eq_of_displayText_eq (f := .double) (by decide) x.bits.toNat_lt
    y.bits.toNat_lt hx hy h
  exact Double.ext (UInt64.toNat_inj.mp hbits)

theorem not_mem_displayText {x : Double} (hx : ¬ x.IsNaN) {c : Char}
    (hc : isNumberChar c = false) : c ∉ x.displayText.toList := by
  intro h
  have hnumber := Binary.Datum.isNumberChar_of_mem_displayText (Format.isNumber_datum hx) h
  rw [hc] at hnumber
  cases hnumber

/-- **A number inside a longer text** ends at the first character that no number
has. -/
theorem split_displayText {x y : Double} (hx : ¬ x.IsNaN) (hy : ¬ y.IsNaN) {stop : Char}
    (hstop : isNumberChar stop = false) {s t : List Char}
    (h : x.displayText.toList ++ stop :: s = y.displayText.toList ++ stop :: t) :
    x = y ∧ s = t := by
  obtain ⟨htext, hrest⟩ := split_at_stop (not_mem_displayText hx hstop)
    (not_mem_displayText hy hstop) h
  exact ⟨eq_of_displayText_eq hx hy (String.toList_inj.mp htext), hrest⟩

end Double
end TypedBox
