import TypedBox.Proofs.Numerals
import TypedBox.Text.Quoted

/-! # A quoted text tells the text

Inside quotation marks a character stands for itself, or is escaped by a backslash
and one character, or by its code point in braces.  No such form starts that of
another character (`prefixCode_escape`), and none of them starts with a quotation
mark; so the closing mark is found and every character before it can be read off.
The argument does not depend on which characters are hidden, and none of the tables
is opened.
-/
namespace TypedBox
namespace Text

open Bytes (PrefixCode)

/-- The character that an escape of two characters stands for, by the second one. -/
def escapedBy : Char → Char
  | '0' => '\x00'
  | 't' => '\t'
  | 'n' => '\n'
  | 'r' => '\r'
  | x => x

/-- The forms that a character can take inside quotation marks. -/
inductive EscapeForm (c : Char) : List Char → Prop
  | plain (hmark : c ≠ '"') (hslash : c ≠ '\\') : EscapeForm c [c]
  /-- A backslash and a character that is not the one that announces a code point. -/
  | short (x : Char) (hx : x ≠ 'u') (hc : escapedBy x = c) : EscapeForm c ['\\', x]
  | codePoint : EscapeForm c (codePointEscape c)

theorem escapeForm_escape (c : Char) : EscapeForm c (escape c) := by
  unfold escape
  split_ifs with hzero htab hline hreturn hmark hslash hhidden
  · exact .short '0' (by decide) hzero.symm
  · exact .short 't' (by decide) htab.symm
  · exact .short 'n' (by decide) hline.symm
  · exact .short 'r' (by decide) hreturn.symm
  · exact .short '"' (by decide) hmark.symm
  · exact .short '\\' (by decide) hslash.symm
  · exact .codePoint
  · exact .plain hmark hslash

/-- The digits of a code point end at the closing brace. -/
theorem prefixCode_hexDigits_brace : PrefixCode fun n => hexDigits n ++ ['\x7d'] := by
  apply PrefixCode.stopped hexDigits_injective
  intro n hbrace
  obtain ⟨d, hd, h⟩ := mem_hexDigits hbrace
  have hnot : ∀ d < 16, '\x7d' ≠ Nat.digitChar d := by decide
  exact hnot d hd h

theorem eq_of_prefix_codePointEscape {c d : Char}
    (h : codePointEscape c <+: codePointEscape d) : c = d := by
  simp only [codePointEscape, List.append_assoc] at h
  have hdigits := prefixCode_hexDigits_brace ((List.prefix_append_right_inj _).mp h)
  exact Char.toNat_inj.mp hdigits

/-- **No escaped character starts another one.** -/
theorem prefixCode_escape : PrefixCode escape := by
  intro c d h
  have hc := escapeForm_escape c
  have hd := escapeForm_escape d
  generalize escape c = s at h hc
  generalize escape d = t at h hd
  cases hc with
  | plain hmark hslash =>
    cases hd with
    | plain => exact (List.cons_prefix_cons.mp h).1
    | short x => exact absurd (List.cons_prefix_cons.mp h).1 hslash
    | codePoint => exact absurd (List.cons_prefix_cons.mp h).1 hslash
  | short x hx hc =>
    cases hd with
    | plain hmark hslash => exact absurd (List.cons_prefix_cons.mp h).1.symm hslash
    | short y hy hd =>
      have htail := (List.cons_prefix_cons.mp h).2
      obtain rfl : x = y := (List.cons_prefix_cons.mp htail).1
      exact hc.symm.trans hd
    | codePoint =>
      have htail := (List.cons_prefix_cons.mp h).2
      exact absurd (List.cons_prefix_cons.mp htail).1 hx
  | codePoint =>
    cases hd with
    | plain hmark hslash => exact absurd (List.cons_prefix_cons.mp h).1.symm hslash
    | short y hy =>
      have htail := (List.cons_prefix_cons.mp h).2
      exact absurd (List.cons_prefix_cons.mp htail).1.symm hy
    | codePoint => exact eq_of_prefix_codePointEscape h

/-- An escaped character has a first character, and it is no quotation mark. -/
theorem escape_eq_cons (c : Char) :
    ∃ (x : Char) (rest : List Char), escape c = x :: rest ∧ x ≠ '"' := by
  have h := escapeForm_escape c
  generalize escape c = s at h
  cases h with
  | plain hmark hslash => exact ⟨c, [], rfl, hmark⟩
  | short x => exact ⟨'\\', [x], rfl, by decide⟩
  | codePoint => exact ⟨'\\', _, rfl, by decide⟩

theorem toList_quoted (s : String) :
    (quoted s).toList = '"' :: (s.toList.flatMap escape ++ ['"']) :=
  String.toList_ofList

/-- **A quoted text is followed by nothing that could belong to it**, and different
texts are quoted differently. -/
theorem prefixCode_quoted : PrefixCode fun s => (quoted s).toList := by
  intro s t h
  simp only [toList_quoted] at h
  have hclosed := (prefixCode_escape.closed '"' escape_eq_cons) (List.cons_prefix_cons.mp h).2
  exact String.toList_inj.mp hclosed

theorem quoted_injective : Function.Injective quoted :=
  fun _ _ h => prefixCode_quoted.injective (congrArg String.toList h)

end Text
end TypedBox
