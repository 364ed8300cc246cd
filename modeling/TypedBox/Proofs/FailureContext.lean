import Mathlib.Data.Option.Basic
import TypedBox.Failure
import TypedBox.Proofs.LastStep
import TypedBox.Proofs.PrefixCode

/-! # What the text of a context tells

A context is built by steps: the operation named last counts, and the frames are those
of all steps in order (`operation_ofSteps`, `frames_ofSteps`).

Its text starts with a line for the operation, which may be empty.  A line break ends
that line only if there are frames, each of which has a line of its own.  As long as no
name has a line break in it, the lines can be told apart (`Text.eq_of_lines_eq`), and
so can the names; the first line shows whether an operation was named at all.
-/
namespace TypedBox

/-- Lines without breaks in them can be read off when each of them is ended by one. -/
theorem Text.eq_of_lines_eq {lines lines' : List (List Char)} (h : ∀ l ∈ lines, '\n' ∉ l)
    (h' : ∀ l ∈ lines', '\n' ∉ l)
    (heq : lines.flatMap (· ++ ['\n']) = lines'.flatMap (· ++ ['\n'])) : lines = lines' := by
  induction lines generalizing lines' with
  | nil =>
    cases lines' with
    | nil => rfl
    | cons l' lines' => simp at heq
  | cons l lines ih =>
    cases lines' with
    | nil => simp at heq
    | cons l' lines' =>
      obtain ⟨hl, hlines⟩ := List.forall_mem_cons.mp h
      obtain ⟨hl', hlines'⟩ := List.forall_mem_cons.mp h'
      simp only [List.flatMap_cons, List.append_assoc, List.singleton_append] at heq
      obtain ⟨rfl, hrest⟩ := Bytes.split_at_stop hl hl' heq
      rw [ih hlines hlines' hrest]

namespace Failure

attribute [ext] Context

namespace Context

/-! ## Contexts built by steps -/

/-- The operation that a step names. -/
def Step.operation? : Step → Option String
  | .operation name => some name
  | .frame _ => none

/-- The call that a step adds. -/
def Step.frame? : Step → Option String
  | .operation _ => none
  | .frame name => some name

theorem operation_apply (c : Context) (s : Step) :
    (c.apply s).operation = s.operation?.or c.operation := by
  cases s <;> rfl

theorem frames_apply (c : Context) (s : Step) :
    (c.apply s).frames = c.frames ++ s.frame?.toList := by
  cases s with
  | operation name => exact (List.append_nil c.frames).symm
  | frame name => rfl

theorem operation_ofSteps (steps : List Step) :
    (ofSteps steps).operation = lastGiven Step.operation? steps := by
  rw [ofSteps, field?_foldl operation_apply]
  exact Option.or_none

theorem frames_foldl (c : Context) (steps : List Step) :
    (steps.foldl apply c).frames = c.frames ++ steps.filterMap Step.frame? := by
  induction steps generalizing c with
  | nil => exact (List.append_nil c.frames).symm
  | cons s steps ih =>
    rw [List.foldl_cons, ih, frames_apply, List.append_assoc]
    cases h : s.frame? <;> simp [h]

theorem frames_ofSteps (steps : List Step) :
    (ofSteps steps).frames = steps.filterMap Step.frame? :=
  frames_foldl empty steps

/-! ## The lines of a text -/

/-- No name in the context has a line break in it. -/
def OneLined (c : Context) : Prop :=
  (∀ name ∈ c.operation, '\n' ∉ name.toList) ∧ ∀ name ∈ c.frames, '\n' ∉ name.toList

instance (c : Context) : Decidable c.OneLined := inferInstanceAs (Decidable (_ ∧ _))

/-- The first line of the text, for the operation. -/
def firstLine : Option String → String
  | none => ""
  | some name => "in " ++ name

/-- The text of a frame, without the break that ends its line. -/
def frameText (name : String) : String := "  from " ++ name

/-- The lines of a text that has frames. -/
def lines (c : Context) : List (List Char) :=
  (firstLine c.operation).toList :: c.frames.map fun name => (frameText name).toList

theorem displayText_eq (c : Context) :
    c.displayText = firstLine c.operation ++
      if c.frames.isEmpty then "" else "\n" ++ String.join (c.frames.map frameLine) := by
  unfold displayText
  cases c.operation <;> rfl

/-- Without frames nothing ends the first line. -/
theorem displayText_of_nil {c : Context} (h : c.frames = []) :
    c.displayText = firstLine c.operation := by
  rw [displayText_eq, h]
  exact String.append_empty

theorem toList_frameLine (name : String) :
    (frameLine name).toList = (frameText name).toList ++ ['\n'] :=
  String.toList_append

/-- With frames every line is ended by a break. -/
theorem toList_displayText_of_ne_nil {c : Context} (h : c.frames ≠ []) :
    c.displayText.toList = c.lines.flatMap (· ++ ['\n']) := by
  rw [displayText_eq, if_neg (by simpa using h), lines, List.flatMap_cons, String.toList_append,
    String.toList_append, String.toList_join, List.flatMap_map, List.flatMap_map, List.append_assoc]
  simp only [toList_frameLine]
  rfl

theorem break_not_mem_firstLine {c : Context} (h : c.OneLined) :
    '\n' ∉ (firstLine c.operation).toList := by
  cases hop : c.operation with
  | none => exact List.not_mem_nil
  | some name =>
    rw [firstLine, String.toList_append, List.mem_append, not_or]
    exact ⟨by decide, h.1 name hop⟩

theorem break_not_mem_frameText {name : String} (h : '\n' ∉ name.toList) :
    '\n' ∉ (frameText name).toList := by
  rw [frameText, String.toList_append, List.mem_append, not_or]
  exact ⟨by decide, h⟩

theorem break_not_mem_of_mem_lines {c : Context} (h : c.OneLined) : ∀ l ∈ c.lines, '\n' ∉ l := by
  intro l hl
  rcases List.mem_cons.mp hl with rfl | hl
  · exact break_not_mem_firstLine h
  · obtain ⟨name, hname, rfl⟩ := List.mem_map.mp hl
    exact break_not_mem_frameText (h.2 name hname)

/-! ## Reading the names off the text -/

theorem in_append_ne_empty (name : String) : "in " ++ name ≠ "" :=
  fun h => absurd (congrArg String.length h) (by simp [String.length_append])

/-- An operation with an empty name is told from no operation. -/
theorem firstLine_injective : Function.Injective firstLine := by
  intro operation operation' h
  cases operation <;> cases operation'
  · rfl
  · exact absurd h.symm (in_append_ne_empty _)
  · exact absurd h (in_append_ne_empty _)
  · rw [(String.append_right_inj "in ").mp h]

theorem frameText_injective : Function.Injective frameText :=
  fun _ _ h => (String.append_right_inj "  from ").mp h

/-- Whether a context has frames can be seen from its text. -/
theorem frames_eq_nil_iff {c : Context} (h : c.OneLined) :
    c.frames = [] ↔ '\n' ∉ c.displayText.toList := by
  constructor
  · intro hnil
    rw [displayText_of_nil hnil]
    exact break_not_mem_firstLine h
  · intro hbreak
    by_contra hne
    have hfirst : '\n' ∈ (firstLine c.operation).toList ++ ['\n'] :=
      List.mem_append_right _ List.mem_cons_self
    rw [toList_displayText_of_ne_nil hne] at hbreak
    exact hbreak (List.mem_flatMap.mpr ⟨_, List.mem_cons_self, hfirst⟩)

theorem lines_injective : Function.Injective lines := by
  intro a b h
  obtain ⟨hfirst, hframes⟩ := List.cons.inj h
  have hframe : Function.Injective fun name => (frameText name).toList :=
    fun _ _ h => frameText_injective (String.toList_inj.mp h)
  exact Context.ext (firstLine_injective (String.toList_inj.mp hfirst))
    (List.map_injective_iff.mpr hframe hframes)

/-- Contexts without line breaks in their names are the same if their texts are. -/
theorem eq_of_displayText_eq {a b : Context} (ha : a.OneLined) (hb : b.OneLined)
    (h : a.displayText = b.displayText) : a = b := by
  by_cases hnil : a.frames = []
  · have hnil' : b.frames = [] := by
      rwa [frames_eq_nil_iff hb, ← h, ← frames_eq_nil_iff ha]
    rw [displayText_of_nil hnil, displayText_of_nil hnil'] at h
    exact Context.ext (firstLine_injective h) (hnil.trans hnil'.symm)
  · have hne : b.frames ≠ [] := by
      rwa [ne_eq, frames_eq_nil_iff hb, ← h, ← frames_eq_nil_iff ha]
    have hlist := congrArg String.toList h
    rw [toList_displayText_of_ne_nil hnil, toList_displayText_of_ne_nil hne] at hlist
    exact lines_injective (Text.eq_of_lines_eq (break_not_mem_of_mem_lines ha)
      (break_not_mem_of_mem_lines hb) hlist)

/-- **A context is known by its text.**

* However its steps are mixed, a context has the operation that was named last, if any
  was, and the frames in the order in which they were added.
* Two contexts without line breaks in their names are displayed alike just when they have
  the same frames, and the same operation or both none. -/
theorem displayText_tells_names :
    (∀ steps : List Step,
      (ofSteps steps).operation = (steps.filterMap Step.operation?).getLast? ∧
      (ofSteps steps).frames = steps.filterMap Step.frame?) ∧
    (∀ a b : Context, a.OneLined → b.OneLined →
      (a.displayText = b.displayText ↔ a.operation = b.operation ∧ a.frames = b.frames)) := by
  refine ⟨fun steps => ⟨operation_ofSteps steps, frames_ofSteps steps⟩, ?_⟩
  intro a b ha hb
  constructor
  · intro h
    obtain rfl := eq_of_displayText_eq ha hb h
    exact ⟨rfl, rfl⟩
  · rintro ⟨hoperation, hframes⟩
    rw [Context.ext hoperation hframes]

/-- A frame that looks like two is told from two, and an operation with an empty name
from none. -/
theorem displayText_tells_names_of_lookalikes :
    let a := ofSteps [.operation "open", .frame "x  from y", .operation ""]
    let b := ofSteps [.frame "x", .operation "", .frame "y"]
    let c := ofSteps [.frame "x", .frame "y"]
    a.OneLined ∧ b.OneLined ∧ c.OneLined ∧
      a.operation = some "" ∧ a.displayText ≠ b.displayText ∧ b.displayText ≠ c.displayText := by
  intro a b c
  have ha : a.OneLined := by decide
  have hb : b.OneLined := by decide
  have hc : c.OneLined := by decide
  obtain ⟨built, told⟩ := displayText_tells_names
  refine ⟨ha, hb, hc, (built _).1, ?_, ?_⟩
  · intro h
    exact absurd ((told a b ha hb).mp h).2 (by decide)
  · intro h
    exact absurd ((told b c hb hc).mp h).1 (by decide)

/-- With a line break in its name, one frame is displayed as two. -/
example :
    (ofSteps [.frame "x\n  from y"]).displayText =
      (ofSteps [.frame "x", .frame "y"]).displayText := by decide

end Context
end Failure
end TypedBox
