import Mathlib.Data.String.Basic
import TypedBox.Proofs.Numerals

/-! # Words and the numbers they spell

A word is a list of digits, most significant first: bytes, or the characters of a
hexadecimal numeral.  Words of one length are read as numbers without loss, and
comparing two of them place by place is comparing their numbers.

One fact about numbers carries this (`compare_mul_add`): the digit in front decides,
and what stands behind it only where the digits in front agree.  It does not matter
how wide the digits are, so that it serves words of fields as well, each with a width
of its own.
-/
namespace TypedBox

/-! ## Comparison place by place -/

/-- Words are compared by their fronts first, if these have one length. -/
theorem compareLex_append {α : Type} (cmp : α → α → Ordering) {as bs : List α}
    (h : as.length = bs.length) (cs ds : List α) :
    List.compareLex cmp (as ++ cs) (bs ++ ds) =
      (List.compareLex cmp as bs).then (List.compareLex cmp cs ds) := by
  induction as generalizing bs with
  | nil =>
    obtain rfl := List.length_eq_zero_iff.mp h.symm
    rfl
  | cons a as ih =>
    cases bs with
    | nil => cases h
    | cons b bs =>
      rw [List.cons_append, List.cons_append, List.compareLex_cons_cons,
        List.compareLex_cons_cons, ih (Nat.succ.inj h), Ordering.then_assoc]

/-- What is compared first decides, unless it is the same. -/
theorem compare_mul_add {k a b r s : Nat} (hr : r < k) (hs : s < k) :
    compare (a * k + r) (b * k + s) = (compare a b).then (compare r s) := by
  rcases Nat.lt_trichotomy a b with hab | rfl | hab
  · -- the whole of `b` above `a` outweighs any `r`
    have hstep : (a + 1) * k ≤ b * k := Nat.mul_le_mul_right k hab
    rw [Nat.add_mul, Nat.one_mul] at hstep
    have hlt : a * k + r < b * k + s := by omega
    rw [Nat.compare_eq_lt.mpr hab, Nat.compare_eq_lt.mpr hlt]
    rfl
  · rw [Nat.compare_eq_eq.mpr rfl, Nat.compare_eq_ite_lt, Nat.compare_eq_ite_lt]
    simp only [Nat.add_lt_add_iff_left]
    rfl
  · have hstep : (b + 1) * k ≤ a * k := Nat.mul_le_mul_right k hab
    rw [Nat.add_mul, Nat.one_mul] at hstep
    have hgt : b * k + s < a * k + r := by omega
    rw [Nat.compare_eq_gt.mpr hab, Nat.compare_eq_gt.mpr hgt]
    rfl

/-! ## Bytes -/

namespace Bytes

theorem ofLittleEndian_append (as bs : List UInt8) :
    ofLittleEndian (as ++ bs) = ofLittleEndian as + 256 ^ as.length * ofLittleEndian bs := by
  induction as with
  | nil => simp [ofLittleEndian]
  | cons a as ih =>
    rw [List.cons_append, ofLittleEndian, ofLittleEndian, ih, List.length_cons, Nat.pow_succ',
      Nat.mul_add, Nat.add_assoc, Nat.mul_assoc]

/-- The first byte is the most significant one. -/
theorem ofBigEndian_cons (b : UInt8) (bs : List UInt8) :
    ofBigEndian (b :: bs) = b.toNat * 256 ^ bs.length + ofBigEndian bs := by
  rw [ofBigEndian, List.reverse_cons, ofLittleEndian_append, List.length_reverse, Nat.add_comm,
    Nat.mul_comm]
  rfl

theorem ofBigEndian_lt (bs : List UInt8) : ofBigEndian bs < 256 ^ bs.length := by
  induction bs with
  | nil => decide
  | cons b bs ih =>
    have hb : b.toNat + 1 ≤ 256 := b.toNat_lt
    have hfront : (b.toNat + 1) * 256 ^ bs.length ≤ 256 * 256 ^ bs.length :=
      Nat.mul_le_mul_right _ hb
    rw [Nat.add_mul, Nat.one_mul] at hfront
    rw [ofBigEndian_cons, List.length_cons, Nat.pow_succ']
    omega

theorem ofBigEndian_bigEndian (width n : Nat) :
    ofBigEndian (bigEndian width n) = n % 256 ^ width := by
  rw [ofBigEndian, bigEndian, List.reverse_reverse, ofLittleEndian_littleEndian]

/-- The bytes of the number that some bytes spell are those bytes. -/
theorem littleEndian_ofLittleEndian (bs : List UInt8) :
    littleEndian bs.length (ofLittleEndian bs) = bs := by
  induction bs with
  | nil => rfl
  | cons b bs ih =>
    have hb : b.toNat < 256 := b.toNat_lt
    have hmod : (b.toNat + 256 * ofLittleEndian bs) % 256 = b.toNat := by omega
    have hdiv : (b.toNat + 256 * ofLittleEndian bs) / 256 = ofLittleEndian bs := by omega
    rw [List.length_cons, ofLittleEndian, littleEndian, hmod, hdiv, ih, UInt8.ofNat_toNat]

/-- Bytes of one length are told by the number they spell. -/
theorem ofBigEndian_inj {as bs : List UInt8} (hlen : as.length = bs.length)
    (h : ofBigEndian as = ofBigEndian bs) : as = bs := by
  have hbytes := littleEndian_ofLittleEndian bs.reverse
  rw [List.length_reverse, ← hlen, ← List.length_reverse] at hbytes
  change ofLittleEndian as.reverse = ofLittleEndian bs.reverse at h
  rw [← h, littleEndian_ofLittleEndian] at hbytes
  exact List.reverse_injective hbytes

/-- **Comparing bytes one by one is comparing the numbers they spell.** -/
theorem compareLex_bytes {as bs : List UInt8} (h : as.length = bs.length) :
    List.compareLex (fun a b => compare a.toNat b.toNat) as bs =
      compare (ofBigEndian as) (ofBigEndian bs) := by
  induction as generalizing bs with
  | nil =>
    obtain rfl := List.length_eq_zero_iff.mp h.symm
    rfl
  | cons a as ih =>
    cases bs with
    | nil => cases h
    | cons b bs =>
      have htail : as.length = bs.length := Nat.succ.inj h
      have hlt := ofBigEndian_lt as
      rw [htail] at hlt
      rw [List.compareLex_cons_cons, ih htail, ofBigEndian_cons, ofBigEndian_cons, htail,
        compare_mul_add hlt (ofBigEndian_lt bs)]

end Bytes

/-! ## Digits as characters -/

namespace Text

/-- A number in two parts has the digits of the front and then those of the rest. -/
theorem fixedDigits_mul_add (base left right m : Nat) {n : Nat} (h : n < base ^ right) :
    fixedDigits base (left + right) (m * base ^ right + n) =
      fixedDigits base left m ++ fixedDigits base right n := by
  have hdiv : (m * base ^ right + n) / base ^ right = m := by
    rw [Nat.mul_comm, Nat.mul_add_div (Nat.zero_lt_of_lt h), Nat.div_eq_of_lt h, Nat.add_zero]
  have hmod : (m * base ^ right + n) % base ^ right = n := by
    rw [Nat.mul_add_mod', Nat.mod_eq_of_lt h]
  rw [fixedDigits_add, hdiv, ← fixedDigits_mod base right, hmod]

/-- Two digits for every byte are the digits of the number that the bytes spell. -/
theorem flatMap_fixedDigits (bs : List UInt8) :
    bs.flatMap (fun b => fixedDigits 16 2 b.toNat) =
      fixedDigits 16 (2 * bs.length) (Bytes.ofBigEndian bs) := by
  induction bs with
  | nil => rfl
  | cons b bs ih =>
    have hpow : 256 ^ bs.length = 16 ^ (2 * bs.length) := by
      rw [Nat.pow_mul]
    have hlt := Bytes.ofBigEndian_lt bs
    rw [hpow] at hlt
    rw [List.flatMap_cons, ih, Bytes.ofBigEndian_cons, hpow, List.length_cons, Nat.mul_add,
      Nat.mul_one, Nat.add_comm (2 * bs.length), fixedDigits_mul_add 16 2 _ _ hlt]

theorem compare_digitChar {m n : Nat} (hm : m < 16) (hn : n < 16) :
    compare m.digitChar n.digitChar = compare m n := by
  have hall : ∀ i < 16, ∀ j < 16, compare i.digitChar j.digitChar = compare i j := by decide
  exact hall m hm n hn

/-- **Comparing digits one by one is comparing the numbers they spell.**  Of the
characters used as digits the later ones stand for the greater digits, letters
included. -/
theorem compareLex_fixedDigits {base : Nat} (hle : base ≤ 16) (width : Nat) {m n : Nat}
    (hm : m < base ^ width) (hn : n < base ^ width) :
    List.compareLex compare (fixedDigits base width m) (fixedDigits base width n) =
      compare m n := by
  induction width generalizing m n with
  | zero =>
    obtain rfl : m = 0 := Nat.lt_one_iff.mp hm
    obtain rfl : n = 0 := Nat.lt_one_iff.mp hn
    rfl
  | succ width ih =>
    have hpos : 0 < base := by
      rcases Nat.eq_zero_or_pos base with rfl | hpos
      · cases hm
      · exact hpos
    rw [Nat.pow_succ] at hm hn
    have hlast := compare_digitChar (Nat.lt_of_lt_of_le (Nat.mod_lt m hpos) hle)
      (Nat.lt_of_lt_of_le (Nat.mod_lt n hpos) hle)
    have hfront := ih (Nat.div_lt_of_lt_mul (Nat.mul_comm _ _ ▸ hm))
      (Nat.div_lt_of_lt_mul (Nat.mul_comm _ _ ▸ hn))
    calc List.compareLex compare (fixedDigits base (width + 1) m) (fixedDigits base (width + 1) n)
        = (compare (m / base) (n / base)).then (compare (m % base) (n % base)) := by
          rw [fixedDigits, fixedDigits, compareLex_append _ (by simp), hfront,
            List.compareLex_cons_cons, hlast, List.compareLex_nil_nil, Ordering.then_eq]
      _ = compare m n := by
          rw [← compare_mul_add (Nat.mod_lt m hpos) (Nat.mod_lt n hpos), Nat.div_add_mod',
            Nat.div_add_mod']

/-- Bytes in two digits each are compared like the bytes. -/
theorem compareLex_flatMap_fixedDigits {as bs : List UInt8} (h : as.length = bs.length) :
    List.compareLex compare (as.flatMap fun b => fixedDigits 16 2 b.toNat)
        (bs.flatMap fun b => fixedDigits 16 2 b.toNat) =
      List.compareLex (fun a b => compare a.toNat b.toNat) as bs := by
  have hfits : ∀ bs : List UInt8, Bytes.ofBigEndian bs < 16 ^ (2 * bs.length) := fun bs => by
    rw [Nat.pow_mul]
    exact Bytes.ofBigEndian_lt bs
  have has := hfits as
  rw [h] at has
  rw [flatMap_fixedDigits, flatMap_fixedDigits, h,
    compareLex_fixedDigits (by decide) _ has (hfits bs), Bytes.compareLex_bytes h]

theorem compareLex_eq_lt_iff (cs ds : List Char) :
    List.compareLex compare cs ds = .lt ↔ cs < ds := by
  induction cs generalizing ds with
  | nil => cases ds <;> simp [List.compareLex]
  | cons c cs ih =>
    cases ds with
    | nil => simp [List.compareLex]
    | cons d ds =>
      rw [List.compareLex_cons_cons, Ordering.then_eq_lt, List.cons_lt_cons_iff, ih,
        Std.LawfulLTCmp.eq_lt_iff_lt, Std.compare_eq_iff_eq]

/-- Texts are compared character by character. -/
theorem compare_eq_compareLex_toList (s t : String) :
    compare s t = List.compareLex compare s.toList t.toList := by
  cases h : List.compareLex compare s.toList t.toList with
  | lt =>
    exact Std.LawfulLTCmp.eq_lt_iff_lt.mpr
      (String.lt_iff_toList_lt.mpr ((compareLex_eq_lt_iff _ _).mp h))
  | eq =>
    have hst : s.toList = t.toList := Std.LawfulEqCmp.eq_of_compare h
    exact Std.compare_eq_iff_eq.mpr (String.toList_inj.mp hst)
  | gt =>
    have hts : List.compareLex compare t.toList s.toList = .lt := Std.OrientedCmp.gt_iff_lt.mp h
    exact Std.OrientedCmp.gt_iff_lt.mpr (Std.LawfulLTCmp.eq_lt_iff_lt.mpr
      (String.lt_iff_toList_lt.mpr ((compareLex_eq_lt_iff _ _).mp hts)))

end Text
end TypedBox
