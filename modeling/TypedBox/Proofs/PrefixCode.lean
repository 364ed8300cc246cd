import Mathlib.Data.List.Infix
import TypedBox.Bytes

/-! # Prefix codes

A *prefix code* gives every value a sequence of bytes, or of characters, that
starts no other value's.  Such sequences can be written one after the other and
are still told apart: when one such composition starts another, the first parts
already agree (`PrefixCode.split_append`).  Numbers of a fixed width are a prefix
code because they have one length, texts because the closing byte `0xff` starts no
character of UTF-8.
-/
namespace TypedBox
namespace Bytes

variable {α β σ : Type}

/-- Two sequences that are the same up to the first occurrence of a symbol, and
behind it. -/
theorem split_at_stop {stop : σ} {s t u v : List σ} (hs : stop ∉ s) (ht : stop ∉ t)
    (h : s ++ stop :: u = t ++ stop :: v) : s = t ∧ u = v := by
  rcases List.append_eq_append_iff.mp h with ⟨c, rfl, hc⟩ | ⟨c, rfl, hc⟩
  · -- the second sequence goes on with `c` where the first one has the symbol
    cases c with
    | nil => exact ⟨(List.append_nil s).symm, (List.cons.inj hc).2⟩
    | cons x c =>
      obtain rfl := (List.cons.inj hc).1
      exact absurd (List.mem_append_right s List.mem_cons_self) ht
  · cases c with
    | nil => exact ⟨List.append_nil t, (List.cons.inj hc).2.symm⟩
    | cons x c =>
      obtain rfl := (List.cons.inj hc).1
      exact absurd (List.mem_append_right t List.mem_cons_self) hs

/-- The sequence of a value starts the sequence of no other value. -/
def PrefixCode (f : α → List σ) : Prop :=
  ∀ ⦃a b : α⦄, f a <+: f b → a = b

namespace PrefixCode

variable {f : α → List σ}

/-- A prefix code gives different values different sequences. -/
theorem injective (hf : PrefixCode f) : Function.Injective f :=
  fun a _ h => hf (h ▸ List.prefix_refl (f a))

/-- **The first part of a composition can be read off**, whatever stands behind
it. -/
theorem split_append (hf : PrefixCode f) {a b : α} {s t : List σ}
    (h : f a ++ s <+: f b ++ t) : a = b ∧ s <+: t := by
  have ha : f a <+: f b ++ t := (List.prefix_append (f a) s).trans h
  have hb : f b <+: f b ++ t := List.prefix_append (f b) t
  -- two starts of one list start each other, one way or the other
  have hab : a = b := by
    rcases List.prefix_or_prefix_of_prefix ha hb with hp | hp
    · exact hf hp
    · exact (hf hp).symm
  subst b
  exact ⟨rfl, (List.prefix_append_right_inj (f a)).mp h⟩

/-- A prefix code of the parts of a value is one of the value, if the value is
determined by those parts. -/
theorem comp (hf : PrefixCode f) (parts : β → α) (hparts : Function.Injective parts) :
    PrefixCode fun b => f (parts b) :=
  fun _ _ h => hparts (hf h)

/-- Different sequences of one length do not start each other. -/
theorem of_length {width : Nat} (hlen : ∀ a, (f a).length = width)
    (hf : Function.Injective f) : PrefixCode f :=
  fun a b h => hf (h.eq_of_length (by rw [hlen a, hlen b]))

/-- Different sequences that end at the first occurrence of a symbol do not start
each other. -/
theorem stopped (hf : Function.Injective f) (stop : σ) (hstop : ∀ a, stop ∉ f a) :
    PrefixCode fun a => f a ++ [stop] := by
  rintro a b ⟨rest, h⟩
  have hsplit : f a ++ stop :: rest = f b ++ stop :: [] := by
    simpa only [List.append_assoc, List.singleton_append] using h
  exact hf (split_at_stop (hstop a) (hstop b) hsplit).1

/-- Words of a prefix code, one after the other and closed by a symbol that starts
none of them, are a prefix code of sequences. -/
theorem closed (hf : PrefixCode f) (stop : σ)
    (hstart : ∀ a, ∃ (b : σ) (bs : List σ), f a = b :: bs ∧ b ≠ stop) :
    PrefixCode fun as : List α => as.flatMap f ++ [stop] := by
  intro as
  induction as with
  | nil =>
    intro as' h
    cases as' with
    | nil => rfl
    | cons a' as' =>
      -- one is at its closing symbol, and the other is not
      obtain ⟨b, bs, ha', hb⟩ := hstart a'
      simp only [List.flatMap_nil, List.nil_append, List.flatMap_cons, ha', List.cons_append,
        List.cons_prefix_cons] at h
      exact absurd h.1.symm hb
  | cons a as ih =>
    intro as' h
    cases as' with
    | nil =>
      obtain ⟨b, bs, ha, hb⟩ := hstart a
      simp only [List.flatMap_nil, List.nil_append, List.flatMap_cons, ha, List.cons_append,
        List.cons_prefix_cons] at h
      exact absurd h.1 hb
    | cons a' as' =>
      simp only [List.flatMap_cons, List.append_assoc] at h
      obtain ⟨rfl, hrest⟩ := hf.split_append h
      rw [ih hrest]

end PrefixCode

/-! ## Numbers of a fixed width -/

/-- The bytes of a number are read back as the number, up to what the width cuts
off. -/
theorem ofLittleEndian_littleEndian (width n : Nat) :
    ofLittleEndian (littleEndian width n) = n % 256 ^ width := by
  induction width generalizing n with
  | zero => simp [littleEndian, ofLittleEndian, Nat.mod_one]
  | succ width ih =>
    have hbyte : (UInt8.ofNat (n % 256)).toNat = n % 256 :=
      Nat.mod_eq_of_lt (Nat.mod_lt n (by decide))
    rw [littleEndian, ofLittleEndian, ih, hbyte, Nat.pow_succ', Nat.mod_mul]

theorem littleEndian_inj {width m n : Nat} (hm : m < 256 ^ width) (hn : n < 256 ^ width)
    (h : littleEndian width m = littleEndian width n) : m = n := by
  have := congrArg ofLittleEndian h
  rwa [ofLittleEndian_littleEndian, ofLittleEndian_littleEndian, Nat.mod_eq_of_lt hm,
    Nat.mod_eq_of_lt hn] at this

/-- Numbers that fit a width are a prefix code in that width. -/
theorem prefixCode_littleEndian (width : Nat) (number : α → Nat)
    (hinj : Function.Injective number) (hfits : ∀ a, number a < 256 ^ width) :
    PrefixCode fun a => littleEndian width (number a) :=
  .of_length (fun a => length_littleEndian width (number a))
    fun a b h => hinj (littleEndian_inj (hfits a) (hfits b) h)

theorem prefixCode_uint8 : PrefixCode fun n : UInt8 => littleEndian 1 n.toNat :=
  prefixCode_littleEndian 1 UInt8.toNat (fun _ _ => UInt8.toNat_inj.mp) UInt8.toNat_lt

theorem prefixCode_uint16 : PrefixCode fun n : UInt16 => littleEndian 2 n.toNat :=
  prefixCode_littleEndian 2 UInt16.toNat (fun _ _ => UInt16.toNat_inj.mp) UInt16.toNat_lt

theorem prefixCode_uint32 : PrefixCode fun n : UInt32 => littleEndian 4 n.toNat :=
  prefixCode_littleEndian 4 UInt32.toNat (fun _ _ => UInt32.toNat_inj.mp) UInt32.toNat_lt

theorem prefixCode_uint64 : PrefixCode fun n : UInt64 => littleEndian 8 n.toNat :=
  prefixCode_littleEndian 8 UInt64.toNat (fun _ _ => UInt64.toNat_inj.mp) UInt64.toNat_lt

/-! Signed numbers are hashed as the unsigned numbers with the same bits. -/

theorem prefixCode_int16 : PrefixCode fun n : Int16 => littleEndian 2 n.toUInt16.toNat :=
  prefixCode_uint16.comp Int16.toUInt16 (Function.LeftInverse.injective Int16.toInt16_toUInt16)

theorem prefixCode_int32 : PrefixCode fun n : Int32 => littleEndian 4 n.toUInt32.toNat :=
  prefixCode_uint32.comp Int32.toUInt32 (Function.LeftInverse.injective Int32.toInt32_toUInt32)

theorem prefixCode_int64 : PrefixCode fun n : Int64 => littleEndian 8 n.toUInt64.toNat :=
  prefixCode_uint64.comp Int64.toUInt64 (Function.LeftInverse.injective Int64.toInt64_toUInt64)

theorem prefixCode_bool : PrefixCode fun b : Bool => littleEndian 1 b.toNat :=
  prefixCode_littleEndian 1 Bool.toNat (by unfold Function.Injective; decide) (by decide)

/-! ## Texts -/

/-- The UTF-8 form of one character is a prefix code: whatever follows it, it is
decoded as that character. -/
theorem prefixCode_utf8EncodeChar : PrefixCode String.utf8EncodeChar := by
  rintro c d ⟨rest, h⟩
  have hc :
      ((String.utf8EncodeChar c).toByteArray ++ rest.toByteArray).utf8DecodeChar? 0 = some c :=
    ByteArray.utf8DecodeChar?_utf8EncodeChar_append
  have hd :
      ((String.utf8EncodeChar d).toByteArray ++ ByteArray.empty).utf8DecodeChar? 0 = some d :=
    ByteArray.utf8DecodeChar?_utf8EncodeChar_append
  -- both characters are what the decoder finds at the start of the same bytes
  rw [← List.toByteArray_append, h] at hc
  rw [ByteArray.append_empty, hc] at hd
  exact Option.some.inj hd

/-- A character has a first byte, and `0xff` is none. -/
theorem utf8EncodeChar_eq_cons (c : Char) :
    ∃ (b : UInt8) (bs : List UInt8), String.utf8EncodeChar c = b :: bs ∧ b ≠ 0xff := by
  have hpos : 0 < (String.utf8EncodeChar c).length := by simp [c.utf8Size_pos]
  refine ⟨(String.utf8EncodeChar c)[0], (String.utf8EncodeChar c).tail,
    (List.cons_head_tail (List.ne_nil_of_length_pos hpos)).symm.trans ?_, ?_⟩
  · rw [List.head_eq_getElem]
  · intro hb
    have hfirst := UInt8.isUTF8FirstByte_getElem_zero_utf8EncodeChar (c := c)
    rw [hb] at hfirst
    revert hfirst
    decide

/-- **Closed texts are a prefix code.** -/
theorem prefixCode_ofText : PrefixCode ofText := by
  have hclosed := prefixCode_utf8EncodeChar.closed 0xff utf8EncodeChar_eq_cons
  exact hclosed.comp String.toList fun _ _ h => String.ext h

end Bytes
end TypedBox
