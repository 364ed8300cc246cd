import TypedBox.Failure
import TypedBox.Proofs.LastStep
import TypedBox.Proofs.Numerals

/-! # What the message of a failure tells

The first letter of a message tells what kind of cause it describes.  Behind it stand
names of shapes and numbers: a first name ends at the comma, a number at the next space,
and whatever comes last is not followed by anything.  So a message describes one cause
only (`Cause.message_injective`).

A context says where an operation failed and not why: contexts may be set and replaced,
and the cause stays, and the message with it.
-/
namespace TypedBox
namespace Failure

namespace Cause

/-! ## Messages -/

/-- The first letter of the message for a kind of cause. -/
def initial : Cause → Char
  | mismatch .. => 't'
  | outOfRange .. => 'v'
  | unknownCode _ => 'u'
  | alreadyInitialized => 'a'

theorem head?_message (c : Cause) : c.message.toList.head? = some c.initial := by
  unfold message initial
  cases c <;> simp

theorem initial_eq_of_message_eq {c d : Cause} (h : c.message = d.message) :
    c.initial = d.initial := by
  have hhead := congrArg (fun s : String => s.toList.head?) h
  simpa only [head?_message, Option.some.injEq] using hhead

/-- The message of a mismatch names the two shapes. -/
theorem shapes_eq_of_message_eq {expected actual expected' actual' : Shape}
    (h : (mismatch expected actual).message = (mismatch expected' actual').message) :
    expected = expected' ∧ actual = actual' := by
  unfold message at h
  simp only [String.append_assoc] at h
  exact Shape.eq_of_names_eq ((String.append_right_inj "type mismatch: expected ").mp h)

theorem space_not_mem_signedDecimal (value : Int) :
    ' ' ∉ (Text.signedDecimal value).toList := by
  intro h
  rcases Text.isDigit_or_minus_of_mem_signedDecimal h with h | h
  · exact absurd h (by decide)
  · exact absurd h (by decide)

/-- The message for a number that does not fit shows the number up to the next space, and
names the shape at its end. -/
theorem target_eq_of_message_eq {target target' : Shape} {value value' : Int}
    (h : (outOfRange target value).message = (outOfRange target' value').message) :
    target = target' ∧ value = value' := by
  unfold message at h
  simp only [String.append_assoc] at h
  have hlist := congrArg String.toList ((String.append_right_inj "value ").mp h)
  have hspace : " out of range for ".toList = ' ' :: "out of range for ".toList := by decide
  simp only [String.toList_append, hspace, List.cons_append] at hlist
  obtain ⟨hvalue, hrest⟩ := Bytes.split_at_stop (space_not_mem_signedDecimal value)
    (space_not_mem_signedDecimal value') hlist
  have htarget := String.toList_inj.mp (List.append_cancel_left hrest)
  exact ⟨Shape.name_injective htarget,
    Text.signedDecimal_injective (String.toList_inj.mp hvalue)⟩

theorem code_eq_of_message_eq {code code' : Nat}
    (h : (unknownCode code).message = (unknownCode code').message) : code = code' :=
  Text.decimal_injective ((String.append_right_inj "unknown type code: ").mp h)

/-- **A message describes one cause only.** -/
theorem message_injective : Function.Injective message := by
  intro c d h
  have hinitial := initial_eq_of_message_eq h
  cases c <;> cases d
  case mismatch.mismatch =>
    obtain ⟨rfl, rfl⟩ := shapes_eq_of_message_eq h
    rfl
  case outOfRange.outOfRange =>
    obtain ⟨rfl, rfl⟩ := target_eq_of_message_eq h
    rfl
  case unknownCode.unknownCode =>
    rw [code_eq_of_message_eq h]
  case alreadyInitialized.alreadyInitialized => rfl
  -- the first letters of two kinds differ
  all_goals exact absurd hinitial (by simp [initial])

/-- Neither the shape with the shorter name nor the number without its sign is meant. -/
example :
    (outOfRange .uint16 (-1)).message = "value -1 out of range for UInt16" := by decide

end Cause

/-! ## Contexts leave the cause alone -/

theorem cause_foldl_withContext (e : Failure) (contexts : List Context) :
    (contexts.foldl withContext e).cause = e.cause := by
  induction contexts generalizing e with
  | nil => rfl
  | cons c contexts ih => exact ih (e.withContext c)

/-- The last context is the one that stays. -/
theorem context_foldl_withContext (e : Failure) (contexts : List Context) :
    (contexts.foldl withContext e).context = contexts.getLast?.or e.context := by
  have hstep : ∀ (e : Failure) (c : Context),
      (e.withContext c).context = (some c).or e.context := fun _ _ => rfl
  rw [field?_foldl hstep, lastGiven, List.filterMap_some]

/-- **The message of a failure identifies its cause.**

* Two causes have one message just when they are the same cause.
* However often the context of a failure is set, its cause stays and its message is that
  of the cause; only the last context is kept.
* So two failures have one message just when they have one cause, whatever their
  contexts. -/
theorem message_identifies_cause :
    (∀ c d : Cause, c.message = d.message ↔ c = d) ∧
    (∀ (e : Failure) (contexts : List Context),
      let f := contexts.foldl withContext e
      f.cause = e.cause ∧ f.message = e.cause.message ∧
        f.context = contexts.getLast?.or e.context) ∧
    (∀ (e e' : Failure) (contexts contexts' : List Context),
      (contexts.foldl withContext e).message = (contexts'.foldl withContext e').message ↔
        e.cause = e'.cause) := by
  have hmessage : ∀ (e : Failure) (contexts : List Context),
      (contexts.foldl withContext e).message = e.cause.message := by
    intro e contexts
    rw [message, cause_foldl_withContext]
  refine ⟨fun c d => Cause.message_injective.eq_iff, ?_, ?_⟩
  · intro e contexts f
    exact ⟨cause_foldl_withContext e contexts, hmessage e contexts,
      context_foldl_withContext e contexts⟩
  · intro e e' contexts contexts'
    rw [hmessage, hmessage, Cause.message_injective.eq_iff]

end Failure
end TypedBox
