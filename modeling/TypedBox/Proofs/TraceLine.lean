import TypedBox.Proofs.DebugText
import TypedBox.Proofs.TimeText

/-! # A trace line tells the record

How an event is displayed is written out for every kind of event, and so is its type name.
Both agree: the text is the type name, a space and the details (`Event.displayText_eq`).  No
type name has a space in it and no two are the same, so the kind of event is read off first,
and the details then tell events of one kind apart (`Event.displayText_injective`).

In a line, the number of the record ends at the bracket and the time at the next space,
whichever unit it is shown in.  Of the time, what is displayed is told: the microseconds,
as far as they are shown exactly.
-/
namespace TypedBox

open Bytes (split_at_stop)

theorem Apartment.Kind.displayText_injective : Function.Injective displayText := by
  intro k k' h
  cases k <;> cases k'
  · rfl
  · exact absurd h (by decide)
  · exact absurd h (by decide)
  · rfl

namespace Trace

/-! ## Events -/

namespace Event

/-- What is displayed of an event after its type name. -/
def details : Event → String
  | initialized kind => kind.displayText
  | uninitialized records => "after " ++ Text.decimal records ++ " records"
  | boxed shape => shape.name
  | unboxed shape => shape.name
  | rejected expected actual => "expected " ++ expected.name ++ ", got " ++ actual.name

/-- The type names are spelled twice, alone and in front of the details, and the two
spellings agree. -/
theorem displayText_eq (e : Event) : e.displayText = e.type ++ " " ++ e.details := by
  unfold displayText type details
  cases e with
  | initialized | boxed | unboxed => rfl
  | uninitialized | rejected => simp only [← String.append_assoc, String.reduceAppend]

theorem space_not_mem_type (e : Event) : ' ' ∉ e.type.toList := by
  cases e <;> (rw [type]; decide)

theorem toList_displayText (e : Event) :
    e.displayText.toList = e.type.toList ++ ' ' :: e.details.toList := by
  simp [displayText_eq]

/-- The type name and the details can be told from the text. -/
theorem split_displayText {e e' : Event} (h : e.displayText = e'.displayText) :
    e.type = e'.type ∧ e.details = e'.details := by
  have hlist := congrArg String.toList h
  rw [toList_displayText, toList_displayText] at hlist
  obtain ⟨htype, hdetails⟩ := split_at_stop e.space_not_mem_type e'.space_not_mem_type hlist
  exact ⟨String.toList_inj.mp htype, String.toList_inj.mp hdetails⟩

/-- The details of a rejection end the expected shape at the comma. -/
theorem shapes_eq_of_details_eq {expected actual expected' actual' : Shape}
    (h : (rejected expected actual).details = (rejected expected' actual').details) :
    expected = expected' ∧ actual = actual' := by
  simp only [details, String.append_assoc] at h
  exact Shape.eq_of_names_eq ((String.append_right_inj "expected ").mp h)

theorem records_eq_of_details_eq {n n' : Nat}
    (h : (uninitialized n).details = (uninitialized n').details) : n = n' := by
  have hfront := (String.append_left_inj " records").mp h
  exact Text.decimal_injective ((String.append_right_inj "after ").mp hfront)

/-- **An event is known by how it is displayed.** -/
theorem displayText_injective : Function.Injective displayText := by
  intro e e' h
  obtain ⟨htype, hdetails⟩ := split_displayText h
  cases e <;> cases e'
  case initialized.initialized =>
    rw [Apartment.Kind.displayText_injective hdetails]
  case uninitialized.uninitialized =>
    rw [records_eq_of_details_eq hdetails]
  case boxed.boxed =>
    rw [Shape.name_injective hdetails]
  case unboxed.unboxed =>
    rw [Shape.name_injective hdetails]
  case rejected.rejected =>
    obtain ⟨rfl, rfl⟩ := shapes_eq_of_details_eq hdetails
    rfl
  -- the type names of two kinds of events differ
  all_goals simp [type] at htype

end Event

/-! ## Times -/

/-- A time is digits, perhaps with a point between them, and a unit. -/
theorem space_not_mem_timeText (time : Nat) : ' ' ∉ (timeText time).toList := by
  unfold timeText
  simp only
  split
  · rw [String.toList_append, Text.toList_decimal, List.mem_append, not_or]
    exact ⟨fun h => absurd (Text.isDigit_of_mem_decimalDigits h) (by decide), by decide⟩
  · rw [String.toList_append, millisecondsText, String.toList_ofList, List.mem_append, not_or]
    exact ⟨Decimal.not_mem_positional (by decide) (by decide) _, by decide⟩

theorem microseconds_ne_milliseconds (s t : String) : s ++ "us" ≠ t ++ "ms" := by
  intro h
  have hlist := congrArg String.toList h
  have hus : "us".toList = ['u', 's'] := by decide
  have hms : "ms".toList = ['m', 's'] := by decide
  rw [String.toList_append, String.toList_append, hus, hms] at hlist
  exact absurd (List.append_inj' hlist rfl).2 (by decide)

/-- Microseconds that are shown exactly are told by the displayed time. -/
theorem microseconds_eq_of_timeText_eq {t t' : Nat} (ht : t / 1000 < 2 ^ 43 * 1000)
    (ht' : t' / 1000 < 2 ^ 43 * 1000) (h : timeText t = timeText t') : t / 1000 = t' / 1000 := by
  unfold timeText at h
  simp only at h
  split at h <;> split at h
  · exact Text.decimal_injective ((String.append_left_inj "us").mp h)
  · exact absurd h (microseconds_ne_milliseconds _ _)
  · exact absurd h.symm (microseconds_ne_milliseconds _ _)
  · have hdigits := String.ofList_injective ((String.append_left_inj "ms").mp h)
    rw [thousandths_millisecondsCode ht, thousandths_millisecondsCode ht'] at hdigits
    obtain ⟨hnum, -⟩ := Decimal.num_den_of_positional_eq hdigits
    rwa [Decimal.num_of_places_ne_zero (places_thousandths _),
      Decimal.num_of_places_ne_zero (places_thousandths _)] at hnum

/-! ## Lines -/

namespace Record

theorem toList_displayText (r : Record) :
    r.displayText.toList =
      '[' :: ((Text.paddedDecimal 6 r.id).toList ++ ']' :: ' ' ::
        ((timeText r.time).toList ++ ' ' :: r.event.displayText.toList)) := by
  simp [displayText, lineWith]

/-- The number, the time and the event can be told from the line. -/
theorem split_displayText {r s : Record} (h : r.displayText = s.displayText) :
    r.id = s.id ∧ timeText r.time = timeText s.time ∧ r.event = s.event := by
  have hbracket : ∀ n, ']' ∉ (Text.paddedDecimal 6 n).toList := fun n hmem =>
    absurd (Text.isDigit_of_mem_paddedDecimal hmem) (by decide)
  have hlist := congrArg String.toList h
  rw [toList_displayText, toList_displayText] at hlist
  obtain ⟨hid, hrest⟩ := split_at_stop (hbracket _) (hbracket _) (List.cons.inj hlist).2
  obtain ⟨htime, hevent⟩ := split_at_stop (space_not_mem_timeText _) (space_not_mem_timeText _)
    (List.cons.inj hrest).2
  exact ⟨Text.paddedDecimal_injective 6 (String.toList_inj.mp hid), String.toList_inj.mp htime,
    Event.displayText_injective (String.toList_inj.mp hevent)⟩

/-- **A trace line tells what was traced.**  Two records with one line have the same number
and the same event, and the same microseconds if both times are below `2 ^ 43`
milliseconds.  An event is displayed by its type name and a space to begin with, and two
events with one text are the same event. -/
theorem line_tells_record :
    (∀ r s : Record, r.displayText = s.displayText →
      r.id = s.id ∧ r.event = s.event ∧
        (r.time / 1000 < 2 ^ 43 * 1000 → s.time / 1000 < 2 ^ 43 * 1000 →
          r.time / 1000 = s.time / 1000)) ∧
    (∀ e : Event, (e.type ++ " ").toList <+: e.displayText.toList) ∧
    (∀ e e' : Event, e.displayText = e'.displayText → e = e') := by
  refine ⟨?_, ?_, fun _ _ h => Event.displayText_injective h⟩
  · intro r s h
    obtain ⟨hid, htime, hevent⟩ := split_displayText h
    exact ⟨hid, hevent, fun hr hs => microseconds_eq_of_timeText_eq hr hs htime⟩
  · intro e
    refine ⟨e.details.toList, ?_⟩
    rw [Event.displayText_eq, ← String.toList_append]

/-- Two records whose times differ by less than a microsecond share a line, the number of
which is longer than the padding; what the line shows is the same for both. -/
theorem line_tells_record_of_long_number :
    let r : Record := ⟨1234567, 1500000, .rejected .point .size⟩
    let s : Record := ⟨1234567, 1500999, .rejected .point .size⟩
    r.displayText = s.displayText ∧ r.displayText =
      "[1234567] 1.500ms unbox-rejected expected Point, got Size" ∧
      r.time / 1000 = s.time / 1000 := by
  intro r s
  have hr : r.displayText = "[1234567] 1.500ms unbox-rejected expected Point, got Size" := by
    rw [displayText, lineWith, timeText_eq (by decide)]
    decide
  have hs : s.displayText = "[1234567] 1.500ms unbox-rejected expected Point, got Size" := by
    rw [displayText, lineWith, timeText_eq (by decide)]
    decide
  obtain ⟨-, -, htime⟩ := line_tells_record.1 r s (hr.trans hs.symm)
  exact ⟨hr.trans hs.symm, hr, htime (by decide) (by decide)⟩

end Record
end Trace
end TypedBox
