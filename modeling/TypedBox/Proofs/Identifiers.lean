import TypedBox.Proofs.RecordText
import TypedBox.Proofs.WordOrder

/-! # Identifiers as numbers and as texts

The fields of an identifier are the digits of one number of 128 bits, in digits of
different widths (`Guid.toNat_eq`).  So splitting a number into fields and joining
fields to a number undo each other, and identifiers are in the order of their
numbers.

The canonical text spells the same number once more, in digits of four bits with
hyphens in between.  Hence it tells the identifier, and texts are in the order of
the identifiers as well.
-/
namespace TypedBox

/-- A number that ends in zeros is joined bit by bit with one that fits into the zeros. -/
theorem add_eq_or {x r k : Nat} (hx : 2 ^ k ∣ x) (hr : r < 2 ^ k) : x + r = x ||| r := by
  obtain ⟨a, rfl⟩ := hx
  exact Nat.two_pow_add_eq_or_of_lt hr a

namespace Guid

open Bytes (ofBigEndian)

/-! ## The number -/

/-- The fields as digits: each is scaled by what the ones behind it can make. -/
theorem toNat_eq (g : Guid) :
    g.toNat = ((g.data1.toNat * 2 ^ 16 + g.data2.toNat) * 2 ^ 16 + g.data3.toNat) * 2 ^ 64 +
      ofBigEndian g.data4.toList := by
  simp only [toNat, Nat.shiftLeft_eq]
  omega

theorem tail_lt (g : Guid) : ofBigEndian g.data4.toList < 2 ^ 64 := by
  have h := Bytes.ofBigEndian_lt g.data4.toList
  rwa [Vector.length_toList] at h

theorem toNat_lt (g : Guid) : g.toNat < 2 ^ 128 := by
  have h1 := g.data1.toNat_lt
  have h2 := g.data2.toNat_lt
  have h3 := g.data3.toNat_lt
  have h4 := g.tail_lt
  rw [toNat_eq]
  omega

/-- The fields do not overlap. -/
theorem toNat_eq_or (g : Guid) :
    g.toNat = g.data1.toNat <<< 96 ||| g.data2.toNat <<< 80 ||| g.data3.toNat <<< 64 |||
      ofBigEndian g.data4.toList := by
  have h2 := g.data2.toNat_lt
  have h3 := g.data3.toNat_lt
  have hdata2 : g.data2.toNat <<< 80 < 2 ^ 96 := by rw [Nat.shiftLeft_eq]; omega
  have hdata3 : g.data3.toNat <<< 64 < 2 ^ 80 := by rw [Nat.shiftLeft_eq]; omega
  have hfront : 2 ^ 96 ∣ g.data1.toNat <<< 96 := by
    rw [Nat.shiftLeft_eq]
    exact Nat.dvd_mul_left _ _
  have hmiddle : 2 ^ 80 ∣ g.data1.toNat <<< 96 + g.data2.toNat <<< 80 := by
    simp only [Nat.shiftLeft_eq]
    omega
  have hback : 2 ^ 64 ∣ g.data1.toNat <<< 96 + g.data2.toNat <<< 80 + g.data3.toNat <<< 64 := by
    simp only [Nat.shiftLeft_eq]
    omega
  rw [toNat, add_eq_or hback g.tail_lt, add_eq_or hmiddle hdata3, add_eq_or hfront hdata2]

theorem tail_ofNat (n : Nat) : ofBigEndian (ofNat n).data4.toList = n % 2 ^ 64 :=
  Bytes.ofBigEndian_bigEndian 8 n

theorem toNat_ofNat (n : Nat) : (ofNat n).toNat = n % 2 ^ 128 := by
  have h1 : (ofNat n).data1.toNat = n >>> 96 % 2 ^ 32 := UInt32.toNat_ofNat'
  have h2 : (ofNat n).data2.toNat = n >>> 80 % 2 ^ 16 := UInt16.toNat_ofNat'
  have h3 : (ofNat n).data3.toNat = n >>> 64 % 2 ^ 16 := UInt16.toNat_ofNat'
  rw [toNat_eq, h1, h2, h3, tail_ofNat]
  simp only [Nat.shiftRight_eq_div_pow]
  omega

/-- The number tells the fields. -/
theorem toNat_injective : Function.Injective toNat := by
  intro g h heq
  rw [toNat_eq, toNat_eq] at heq
  have g2 := g.data2.toNat_lt
  have g3 := g.data3.toNat_lt
  have g4 := g.tail_lt
  have h2 := h.data2.toNat_lt
  have h3 := h.data3.toNat_lt
  have h4 := h.tail_lt
  have hdata1 : g.data1.toNat = h.data1.toNat := by omega
  have hdata2 : g.data2.toNat = h.data2.toNat := by omega
  have hdata3 : g.data3.toNat = h.data3.toNat := by omega
  have htail : ofBigEndian g.data4.toList = ofBigEndian h.data4.toList := by omega
  exact Guid.ext (UInt32.toNat_inj.mp hdata1) (UInt16.toNat_inj.mp hdata2)
    (UInt16.toNat_inj.mp hdata3) (Vector.toList_inj.mp (Bytes.ofBigEndian_inj (by simp) htail))

theorem ofNat_toNat (g : Guid) : ofNat g.toNat = g :=
  toNat_injective (by rw [toNat_ofNat, Nat.mod_eq_of_lt g.toNat_lt])

/-- **Identifiers are in the order of their numbers.** -/
theorem compare_eq_compare_toNat (g h : Guid) :
    g.compare h = Ord.compare g.toNat h.toNat := by
  have hlen : g.data4.toList.length = h.data4.toList.length := by simp
  rw [Guid.compare, toNat_eq, toNat_eq, compare_mul_add g.tail_lt h.tail_lt,
    compare_mul_add g.data3.toNat_lt h.data3.toNat_lt,
    compare_mul_add g.data2.toNat_lt h.data2.toNat_lt, Bytes.compareLex_bytes hlen]
  simp only [Ordering.then_assoc]

/-- **Numbers of 128 bits and identifiers are the same thing in the same order.**

* Split into fields and joined again, a number of 128 bits is the number itself.
* Every identifier has a number of 128 bits, and split again that is the
  identifier.
* The fields share no bit of the number.
* The order of identifiers, field by field, is that of the numbers. -/
theorem corresponds_to_number :
    (∀ n < 2 ^ 128, (ofNat n).toNat = n) ∧
    (∀ g : Guid, g.toNat < 2 ^ 128 ∧ ofNat g.toNat = g ∧
      g.toNat = g.data1.toNat <<< 96 ||| g.data2.toNat <<< 80 ||| g.data3.toNat <<< 64 |||
        ofBigEndian g.data4.toList) ∧
    (∀ g h : Guid, g.compare h = Ord.compare g.toNat h.toNat) := by
  refine ⟨fun n hn => ?_, fun g => ⟨g.toNat_lt, g.ofNat_toNat, g.toNat_eq_or⟩,
    compare_eq_compare_toNat⟩
  rw [toNat_ofNat, Nat.mod_eq_of_lt hn]

/-- Between these two numbers every one of the last eight bytes goes from the greatest
to zero, and the field in front of them decides. -/
theorem corresponds_to_number_at_carry :
    (ofNat (2 ^ 64 - 1)).toNat = 2 ^ 64 - 1 ∧ (ofNat (2 ^ 64)).toNat = 2 ^ 64 ∧
      (ofNat (2 ^ 64 - 1)).compare (ofNat (2 ^ 64)) = .lt := by
  obtain ⟨number, -, order⟩ := corresponds_to_number
  have hlow := number (2 ^ 64 - 1) (by decide)
  have hhigh := number (2 ^ 64) (by decide)
  refine ⟨hlow, hhigh, ?_⟩
  rw [order, hlow, hhigh]
  decide

/-! ## The text -/

/-- What stands between groups of digits: a character that is no digit. -/
def separator? (c : Char) : Option Char :=
  if Text.isLowerHexDigit c then none else some c

theorem separator?_eq_some {c d : Char} (h : separator? c = some d) : c = d := by
  unfold separator? at h
  split at h
  · cases h
  · exact Option.some.inj h

theorem separator?_eq_none_iff {c : Char} :
    separator? c = none ↔ Text.isLowerHexDigit c = true := by
  unfold separator?
  split <;> simp_all

theorem map_separator?_fixedDigits (width n : Nat) :
    (Text.fixedDigits 16 width n).map separator? = List.replicate width none := by
  rw [List.eq_replicate_iff, List.length_map, Text.length_fixedDigits]
  refine ⟨rfl, fun x hx => ?_⟩
  obtain ⟨c, hc, rfl⟩ := List.mem_map.mp hx
  exact separator?_eq_none_iff.mpr (Text.isLowerHexDigit_of_mem_fixedDigits hc)

theorem toList_bytesText_eq_fixedDigits (bytes : List UInt8) :
    (bytesText bytes).toList = Text.fixedDigits 16 (2 * bytes.length) (ofBigEndian bytes) := by
  rw [toList_bytesText, Text.flatMap_fixedDigits]

/-- The text has digits, and hyphens at four places. -/
theorem map_separator?_displayText (g : Guid) :
    g.displayText.toList.map separator? =
      (List.range 36).map fun i => if i ∈ [8, 13, 18, 23] then some '-' else none := by
  have hhyphen : separator? '-' = some '-' := rfl
  simp only [toList_displayText, toList_bytesText_eq_fixedDigits, List.map_append, List.map_cons,
    map_separator?_fixedDigits, hhyphen, List.length_take, List.length_drop, Vector.length_toList]
  rfl

/-- At each of its places the text has a digit or, at four of them, a hyphen. -/
theorem exists_getElem?_displayText (g : Guid) {i : Nat} (hi : i < 36) :
    ∃ c, g.displayText.toList[i]? = some c ∧
      separator? c = if i ∈ [8, 13, 18, 23] then some '-' else none := by
  have h := congrArg (·[i]?) (map_separator?_displayText g)
  simp only [List.getElem?_map, List.getElem?_range hi] at h
  exact Option.map_eq_some_iff.mp h

/-- The groups of digits, one behind the other, are the digits of the number. -/
theorem digits_toNat (g : Guid) :
    Text.fixedDigits 16 8 g.data1.toNat ++ (Text.fixedDigits 16 4 g.data2.toNat ++
      (Text.fixedDigits 16 4 g.data3.toNat ++ ((bytesText (g.data4.toList.take 2)).toList ++
        (bytesText (g.data4.toList.drop 2)).toList))) = Text.fixedDigits 16 32 g.toNat := by
  have htail : (bytesText (g.data4.toList.take 2)).toList ++
      (bytesText (g.data4.toList.drop 2)).toList =
        Text.fixedDigits 16 16 (ofBigEndian g.data4.toList) := by
    rw [toList_bytesText, toList_bytesText, ← List.flatMap_append, List.take_append_drop,
      Text.flatMap_fixedDigits, Vector.length_toList]
  rw [htail, toNat_eq, ← List.append_assoc, ← List.append_assoc]
  symm
  calc Text.fixedDigits 16 (8 + 4 + 4 + 16)
        (((g.data1.toNat * 16 ^ 4 + g.data2.toNat) * 16 ^ 4 + g.data3.toNat) * 16 ^ 16 +
          ofBigEndian g.data4.toList)
      = Text.fixedDigits 16 (8 + 4 + 4)
            ((g.data1.toNat * 16 ^ 4 + g.data2.toNat) * 16 ^ 4 + g.data3.toNat) ++
          Text.fixedDigits 16 16 (ofBigEndian g.data4.toList) :=
        Text.fixedDigits_mul_add 16 _ _ _ g.tail_lt
    _ = Text.fixedDigits 16 8 g.data1.toNat ++ Text.fixedDigits 16 4 g.data2.toNat ++
          Text.fixedDigits 16 4 g.data3.toNat ++
          Text.fixedDigits 16 16 (ofBigEndian g.data4.toList) := by
        rw [Text.fixedDigits_mul_add 16 _ _ _ g.data3.toNat_lt,
          Text.fixedDigits_mul_add 16 _ _ _ g.data2.toNat_lt]

/-- Without its hyphens the text spells the number. -/
theorem filter_displayText (g : Guid) :
    g.displayText.toList.filter (· ≠ '-') = Text.fixedDigits 16 32 g.toNat := by
  have hkept : ∀ {group : List Char}, '-' ∉ group → group.filter (· ≠ '-') = group := by
    intro group h
    exact List.filter_eq_self.mpr fun c hc => decide_eq_true (ne_of_mem_of_not_mem hc h)
  have hdropped : ∀ rest : List Char,
      ('-' :: rest).filter (· ≠ '-') = rest.filter (· ≠ '-') := fun _ => rfl
  simp only [toList_displayText, List.filter_append, hdropped,
    hkept (hyphen_not_mem_fixedDigits _ _), hkept (hyphen_not_mem_bytesText _)]
  exact digits_toNat g

/-- A hyphen behind groups of one length has no part in their comparison. -/
theorem compareLex_group {group group' : List Char} (h : group.length = group'.length)
    (rest rest' : List Char) :
    List.compareLex Ord.compare (group ++ '-' :: rest) (group' ++ '-' :: rest') =
      (List.compareLex Ord.compare group group').then
        (List.compareLex Ord.compare rest rest') := by
  rw [compareLex_append _ h, List.compareLex_cons_cons]
  rfl

/-- Bytes written out are in the order of the bytes. -/
theorem compareLex_bytesText {bytes bytes' : List UInt8} (h : bytes.length = bytes'.length) :
    List.compareLex Ord.compare (bytesText bytes).toList (bytesText bytes').toList =
      List.compareLex (fun x y => Ord.compare x.toNat y.toNat) bytes bytes' := by
  rw [toList_bytesText, toList_bytesText, Text.compareLex_flatMap_fixedDigits h]

/-- **Texts are in the order of the identifiers.** -/
theorem compare_displayText (g h : Guid) :
    Ord.compare g.displayText h.displayText = g.compare h := by
  have hbase : 16 ≤ 16 := Nat.le_refl 16
  have hdata1 := Text.compareLex_fixedDigits hbase 8 g.data1.toNat_lt h.data1.toNat_lt
  have hdata2 := Text.compareLex_fixedDigits hbase 4 g.data2.toNat_lt h.data2.toNat_lt
  have hdata3 := Text.compareLex_fixedDigits hbase 4 g.data3.toNat_lt h.data3.toNat_lt
  have htake : (g.data4.toList.take 2).length = (h.data4.toList.take 2).length := by simp
  have hdrop : (g.data4.toList.drop 2).length = (h.data4.toList.drop 2).length := by simp
  have hbytes :
      (List.compareLex Ord.compare (bytesText (g.data4.toList.take 2)).toList
        (bytesText (h.data4.toList.take 2)).toList).then
        (List.compareLex Ord.compare (bytesText (g.data4.toList.drop 2)).toList
          (bytesText (h.data4.toList.drop 2)).toList) =
      List.compareLex (fun x y => Ord.compare x.toNat y.toNat) g.data4.toList h.data4.toList := by
    rw [compareLex_bytesText htake, compareLex_bytesText hdrop, ← compareLex_append _ htake,
      List.take_append_drop, List.take_append_drop]
  rw [Text.compare_eq_compareLex_toList, toList_displayText, toList_displayText,
    compareLex_group (by simp), compareLex_group (by simp), compareLex_group (by simp),
    compareLex_group (by simp [toList_bytesText_eq_fixedDigits]), hbytes,
    hdata1, hdata2, hdata3]
  rfl

/-- **The canonical text of an identifier.**

* It has 36 characters: hyphens at four places, and lower-case hexadecimal digits at
  all others.
* Without the hyphens it is the number in hexadecimal, with zeros in front to make 32
  digits.
* Two identifiers have the same text only if they are the same, and texts are in the
  order of the identifiers. -/
theorem displayText_canonical (g : Guid) :
    let text := g.displayText.toList
    g.displayText.length = 36 ∧
    (∀ i ∈ [8, 13, 18, 23], text[i]? = some '-') ∧
    (∀ i < 36, i ∉ [8, 13, 18, 23] → ∃ c, text[i]? = some c ∧ Text.isLowerHexDigit c = true) ∧
    text.filter (· ≠ '-') = List.leftpad 32 '0' (Text.hexDigits g.toNat) ∧
    (text.filter (· ≠ '-')).length = 32 ∧
    (∀ h : Guid, g.displayText = h.displayText ↔ g = h) ∧
    (∀ h : Guid, Ord.compare g.displayText h.displayText = g.compare h) := by
  intro text
  have hlen : g.displayText.length = 36 := by
    have := congrArg List.length (map_separator?_displayText g)
    rwa [List.length_map, List.length_map, List.length_range] at this
  refine ⟨hlen, fun i hi => ?hyphen, fun i hlt hi => ?digit, ?number, ?count,
    fun h => displayText_injective.eq_iff, g.compare_displayText⟩
  case hyphen =>
    have hlt : ∀ i ∈ [8, 13, 18, 23], i < 36 := by decide
    obtain ⟨c, hc, hsep⟩ := g.exists_getElem?_displayText (hlt i hi)
    rw [if_pos hi] at hsep
    rw [hc, separator?_eq_some hsep]
  case digit =>
    obtain ⟨c, hc, hsep⟩ := g.exists_getElem?_displayText hlt
    rw [if_neg hi] at hsep
    exact ⟨c, hc, separator?_eq_none_iff.mp hsep⟩
  case number =>
    rw [filter_displayText]
    exact Text.fixedDigits_eq_leftpad (by decide) (by decide) g.toNat_lt
  case count =>
    rw [filter_displayText]
    exact Text.length_fixedDigits 16 32 g.toNat

/-- An identifier of which the first groups are all zeros and the others all ones, and
the next one in order. -/
theorem displayText_canonical_at_carry :
    let g := ofNat (2 ^ 64 - 1)
    let h := ofNat (2 ^ 64)
    g.displayText = "00000000-0000-0000-ffff-ffffffffffff" ∧
      g.displayText.toList[18]? = some '-' ∧
      (∃ c, g.displayText.toList[19]? = some c ∧ Text.isLowerHexDigit c = true) ∧
      Ord.compare g.displayText h.displayText = .lt := by
  intro g h
  obtain ⟨-, hyphen, digit, -, -, -, order⟩ := displayText_canonical g
  refine ⟨by decide, hyphen 18 (by decide), digit 19 (by decide) (by decide), ?_⟩
  rw [order]
  decide

end Guid
end TypedBox
