import TypedBox.Native.Time
import TypedBox.Proofs.NumberText

/-! # The texts of records tell the records

The displayed text of an instant, an interval, an identifier, a point, a size or a
rectangle determines it, if no coordinate is a NaN.  Each text is taken apart at a
character that cannot stand in the part before it: a hyphen in no hexadecimal
group, a comma, a parenthesis or an `x` in no number.
-/
namespace TypedBox

open Bytes (split_at_stop)

/-! ## Instants and intervals -/

theorem Ticks.text_injective : Function.Injective Ticks.text :=
  fun _ _ h => Int64.toInt_inj.mp (Text.signedDecimal_injective h)

theorem DateTime.displayText_injective : Function.Injective DateTime.displayText := by
  intro d e h
  have hticks := (String.append_right_inj "@").mp h
  exact DateTime.ext (Ticks.text_injective hticks)

theorem TimeSpan.displayText_injective : Function.Injective TimeSpan.displayText := by
  intro d e h
  have hticks := (String.append_left_inj "t").mp h
  exact TimeSpan.ext (Ticks.text_injective hticks)

/-! ## Identifiers -/

namespace Guid

theorem hyphen_not_mem_fixedDigits (width n : Nat) : '-' ∉ Text.fixedDigits 16 width n := by
  intro h
  obtain ⟨d, hd, hdigit⟩ := Text.mem_fixedDigits (by decide) h
  have hnot : ∀ d < 16, '-' ≠ Nat.digitChar d := by decide
  exact hnot d hd hdigit

theorem toList_bytesText (bytes : List UInt8) :
    (bytesText bytes).toList = bytes.flatMap fun b => Text.fixedDigits 16 2 b.toNat := by
  rw [bytesText, String.toList_join, List.flatMap_map]
  simp only [Text.toList_fixedHex]

theorem hyphen_not_mem_bytesText (bytes : List UInt8) : '-' ∉ (bytesText bytes).toList := by
  rw [toList_bytesText]
  intro h
  obtain ⟨b, -, hb⟩ := List.mem_flatMap.mp h
  exact hyphen_not_mem_fixedDigits 2 b.toNat hb

theorem bytesText_injective : Function.Injective bytesText := by
  intro bytes bytes' h
  have hdigits := congrArg String.toList h
  rw [toList_bytesText, toList_bytesText] at hdigits
  -- a hyphen behind the bytes starts none of them
  have hclosed := Text.prefixCode_fixedHex_uint8.closed '-' fun b => by
    refine ⟨_, _, rfl, ?_⟩
    have hhead : Nat.digitChar (b.toNat / 16 % 16) ∈ Text.fixedDigits 16 2 b.toNat :=
      List.mem_cons_self
    exact fun hx => hyphen_not_mem_fixedDigits 2 b.toNat (hx ▸ hhead)
  exact hclosed.injective (congrArg (· ++ ['-']) hdigits)

theorem toList_displayText (g : Guid) :
    g.displayText.toList =
      Text.fixedDigits 16 8 g.data1.toNat ++ '-' :: (Text.fixedDigits 16 4 g.data2.toNat ++
        '-' :: (Text.fixedDigits 16 4 g.data3.toNat ++ '-' ::
          ((bytesText (g.data4.toList.take 2)).toList ++
            '-' :: (bytesText (g.data4.toList.drop 2)).toList))) := by
  simp [displayText, Text.toList_fixedHex]

theorem displayText_injective : Function.Injective displayText := by
  intro g g' h
  have hlist := congrArg String.toList h
  rw [toList_displayText, toList_displayText] at hlist
  obtain ⟨h1, hlist⟩ := split_at_stop (hyphen_not_mem_fixedDigits _ _)
    (hyphen_not_mem_fixedDigits _ _) hlist
  obtain ⟨h2, hlist⟩ := split_at_stop (hyphen_not_mem_fixedDigits _ _)
    (hyphen_not_mem_fixedDigits _ _) hlist
  obtain ⟨h3, hlist⟩ := split_at_stop (hyphen_not_mem_fixedDigits _ _)
    (hyphen_not_mem_fixedDigits _ _) hlist
  obtain ⟨htake, hdrop⟩ := split_at_stop (hyphen_not_mem_bytesText _)
    (hyphen_not_mem_bytesText _) hlist
  have hdata1 : g.data1 = g'.data1 := Text.prefixCode_fixedHex_uint32.injective h1
  have hdata2 : g.data2 = g'.data2 := Text.prefixCode_fixedHex_uint16.injective h2
  have hdata3 : g.data3 = g'.data3 := Text.prefixCode_fixedHex_uint16.injective h3
  have hdata4 : g.data4.toList = g'.data4.toList := by
    rw [← List.take_append_drop 2 g.data4.toList, ← List.take_append_drop 2 g'.data4.toList,
      bytesText_injective (String.toList_inj.mp htake),
      bytesText_injective (String.toList_inj.mp hdrop)]
  exact Guid.ext hdata1 hdata2 hdata3 (Vector.toList_inj.mp hdata4)

end Guid

/-! ## Points, sizes and rectangles -/

/-- A coordinate is no number. -/
def Point.HasNaN (p : Point) : Prop := p.x.IsNaN ∨ p.y.IsNaN

instance (p : Point) : Decidable p.HasNaN := inferInstanceAs (Decidable (_ ∨ _))

/-- An extent is no number. -/
def Size.HasNaN (s : Size) : Prop := s.width.IsNaN ∨ s.height.IsNaN

instance (s : Size) : Decidable s.HasNaN := inferInstanceAs (Decidable (_ ∨ _))

/-- A coordinate or an extent is no number. -/
def Rect.HasNaN (r : Rect) : Prop := r.origin.HasNaN ∨ r.size.HasNaN

instance (r : Rect) : Decidable r.HasNaN := inferInstanceAs (Decidable (_ ∨ _))

/-- The text of a point ends at its closing parenthesis, whatever follows it. -/
theorem Point.split_displayText {p q : Point} (hp : ¬ p.HasNaN) (hq : ¬ q.HasNaN)
    {s t : List Char} (h : p.displayText.toList ++ s = q.displayText.toList ++ t) :
    p = q ∧ s = t := by
  obtain ⟨hpx, hpy⟩ := not_or.mp hp
  obtain ⟨hqx, hqy⟩ := not_or.mp hq
  have hparts : p.x.displayText.toList ++ ',' :: ' ' :: (p.y.displayText.toList ++ ')' :: s) =
      q.x.displayText.toList ++ ',' :: ' ' :: (q.y.displayText.toList ++ ')' :: t) := by
    simpa [Point.displayText] using h
  obtain ⟨hx, hrest⟩ := Double.split_displayText hpx hqx (by decide) hparts
  obtain ⟨hy, hst⟩ := Double.split_displayText hpy hqy (by decide) (List.cons.inj hrest).2
  exact ⟨Point.ext hx hy, hst⟩

theorem Point.eq_of_displayText_eq {p q : Point} (hp : ¬ p.HasNaN) (hq : ¬ q.HasNaN)
    (h : p.displayText = q.displayText) : p = q :=
  (Point.split_displayText hp hq (congrArg (·.toList ++ []) h)).1

theorem Size.eq_of_displayText_eq {s t : Size} (hs : ¬ s.HasNaN) (ht : ¬ t.HasNaN)
    (h : s.displayText = t.displayText) : s = t := by
  obtain ⟨hsw, hsh⟩ := not_or.mp hs
  obtain ⟨htw, hth⟩ := not_or.mp ht
  have hparts : s.width.displayText.toList ++ 'x' :: s.height.displayText.toList =
      t.width.displayText.toList ++ 'x' :: t.height.displayText.toList := by
    simpa [Size.displayText] using congrArg String.toList h
  obtain ⟨hwidth, hheight⟩ := Double.split_displayText hsw htw (by decide) hparts
  exact Size.ext hwidth (Double.eq_of_displayText_eq hsh hth (String.toList_inj.mp hheight))

/-- A rectangle is displayed as its origin and its size, and determined by them. -/
theorem Rect.eq_of_displayText_eq {r r' : Rect} (hr : ¬ r.HasNaN) (hr' : ¬ r'.HasNaN)
    (h : r.displayText = r'.displayText) : r = r' := by
  obtain ⟨horigin, hsize⟩ := not_or.mp hr
  obtain ⟨horigin', hsize'⟩ := not_or.mp hr'
  have hparts : r.origin.displayText.toList ++ ' ' :: r.size.displayText.toList =
      r'.origin.displayText.toList ++ ' ' :: r'.size.displayText.toList := by
    simpa [Rect.displayText] using congrArg String.toList h
  obtain ⟨ho, hrest⟩ := Point.split_displayText horigin horigin' hparts
  have hs : r.size = r'.size :=
    Size.eq_of_displayText_eq hsize hsize' (String.toList_inj.mp (List.cons.inj hrest).2)
  rw [← ofParts_origin_size r, ← ofParts_origin_size r', ho, hs]

end TypedBox
