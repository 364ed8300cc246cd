import Mathlib.Data.List.DropRight
import TypedBox.Apartment.Config
import TypedBox.Proofs.LastStep

/-! # What the last steps of a configuration decide

A configuration is built by steps on two levels.  In the configuration of a tracer each
step sets one field, so every field is as the last step that sets it says.

In the configuration of an apartment the steps get into each other's way: one of them
replaces all that was said about the tracer, and another turns tracing on in whatever is
there.  One lemma carries any list of steps (`tracer_foldl`): the tracer is configured
as it was given last, with tracing on if that was asked for since.
-/
namespace TypedBox

namespace Trace
namespace Config

/-! ## The configuration of a tracer -/

/-- What a step says about recording. -/
def Step.enabled? : Step → Option Bool
  | .enabled => some true
  | _ => none

/-- What a step says about the limit of the buffer. -/
def Step.bufferLimit? : Step → Option Nat
  | .bufferLimit limit => some limit
  | _ => none

/-- What a step says about the output. -/
def Step.output? : Step → Option Output
  | .errorStream => some .errorStream
  | _ => none

/-- What a step says about the types of event that are recorded. -/
def Step.filter? : Step → Option (List String)
  | .filter types => some types
  | _ => none

theorem enabled_ofSteps (steps : List Step) :
    (ofSteps steps).enabled = (lastGiven Step.enabled? steps).getD false :=
  field_foldl (fun c s => by cases s <;> rfl) standard steps

theorem bufferLimit_ofSteps (steps : List Step) :
    (ofSteps steps).bufferLimit = (lastGiven Step.bufferLimit? steps).getD Buffer.standardLimit :=
  field_foldl (fun c s => by cases s <;> rfl) standard steps

theorem output_ofSteps (steps : List Step) :
    (ofSteps steps).output = (lastGiven Step.output? steps).getD .none :=
  field_foldl (fun c s => by cases s <;> rfl) standard steps

theorem filter_ofSteps (steps : List Step) :
    (ofSteps steps).filter = (lastGiven Step.filter? steps).getD [] :=
  field_foldl (fun c s => by cases s <;> rfl) standard steps

end Config
end Trace

namespace Apartment
namespace Config

/-! ## The configuration of an apartment -/

/-- What a step says about the threading model. -/
def Step.kind? : Step → Option Kind
  | .kind k => some k
  | _ => none

/-- The configuration that a step gives the tracer. -/
def Step.tracer? : Step → Option Trace.Config
  | .tracer t => some t
  | _ => none

/-- The steps after the last one that gives the tracer its configuration, or all of them
if there is none. -/
def sinceTracer (steps : List Step) : List Step :=
  steps.rtakeWhile (·.tracer?.isNone)

theorem sinceTracer_append_of_none {s : Step} (h : s.tracer? = none) (steps : List Step) :
    sinceTracer (steps ++ [s]) = sinceTracer steps ++ [s] :=
  List.rtakeWhile_concat_pos _ _ _ (by simp [h])

theorem sinceTracer_append_tracer (steps : List Step) (t : Trace.Config) :
    sinceTracer (steps ++ [.tracer t]) = [] :=
  List.rtakeWhile_concat_neg _ _ _ (by simp [Step.tracer?])

theorem kind_ofSteps (start : Start) (steps : List Step) :
    (ofSteps start steps).kind = (lastGiven Step.kind? steps).getD (ofStart start).kind :=
  field_foldl (fun c s => by cases s <;> rfl) (ofStart start) steps

/-- **The tracer is configured as it was given last, with tracing on if that was asked
for since.** -/
theorem tracer_foldl (c : Config) (steps : List Step) :
    let given := (lastGiven Step.tracer? steps).getD c.tracer
    (steps.foldl apply c).tracer =
      if .tracing ∈ sinceTracer steps then given.withEnabled else given := by
  induction steps using List.reverseRecOn with
  | nil => rfl
  | append_singleton steps s ih =>
    intro given
    rw [List.foldl_append, List.foldl_cons, List.foldl_nil]
    cases s with
    | kind k =>
      rw [sinceTracer_append_of_none rfl]
      simpa [apply, withKind, given, Step.tracer?] using ih
    | tracing =>
      have hgiven : given = (lastGiven Step.tracer? steps).getD c.tracer := by
        simp [given, Step.tracer?]
      have hon : Step.tracing ∈ sinceTracer steps ++ [.tracing] :=
        List.mem_append_right _ List.mem_cons_self
      rw [sinceTracer_append_of_none rfl, if_pos hon, hgiven]
      change (steps.foldl apply c).tracer.withEnabled = _
      -- turning tracing on once more changes nothing
      rw [ih]
      split <;> rfl
    | tracer t =>
      have hgiven : given = t := by
        simp [given, Step.tracer?]
      rw [sinceTracer_append_tracer, if_neg List.not_mem_nil, hgiven]
      rfl

theorem tracer_ofStart (start : Start) : (ofStart start).tracer = .standard := by
  cases start <;> rfl

theorem tracer_ofSteps (start : Start) (steps : List Step) :
    let given := (lastGiven Step.tracer? steps).getD .standard
    (ofSteps start steps).tracer =
      if .tracing ∈ sinceTracer steps then given.withEnabled else given := by
  rw [← tracer_ofStart start]
  exact tracer_foldl (ofStart start) steps

/-- What was said about the tracer before its configuration is given is lost. -/
theorem tracer_ofSteps_append_tracer (start start' : Start) (before after : List Step)
    (t : Trace.Config) :
    (ofSteps start (before ++ .tracer t :: after)).tracer =
      (ofSteps start' (.tracer t :: after)).tracer := by
  rw [ofSteps, ofSteps, List.foldl_append, List.foldl_cons, List.foldl_cons, tracer_foldl,
    tracer_foldl]
  rfl

/-- **The last steps decide**, on both levels.

* The threading model is the one given last, or else that of the start, which is for
  several threads unless it was to be for a single one.
* Limit, output and filter of the tracer are those of the configuration given last, or
  else ten thousand records, no output and no filter.
* It is enabled just when that configuration is, or tracing was turned on since; whatever
  was said before has no part in it.
* In the configuration of a tracer, every field is as the last step that sets it says, or
  else as if there had been no configuration. -/
theorem last_steps_decide (start : Start) (steps : List Step) :
    let c := ofSteps start steps
    let startKind : Kind := match start with
      | .singleThreaded => .singleThreaded
      | .new | .standard | .multiThreaded => .multiThreaded
    let given := (lastGiven Step.tracer? steps).getD ⟨false, 10000, .none, []⟩
    c.kind = (lastGiven Step.kind? steps).getD startKind ∧
    c.tracer.bufferLimit = given.bufferLimit ∧
    c.tracer.output = given.output ∧
    c.tracer.filter = given.filter ∧
    (c.tracer.enabled = true ↔ given.enabled = true ∨ .tracing ∈ sinceTracer steps) ∧
    (∀ (t : Trace.Config) (after : List Step),
      (ofSteps start (steps ++ .tracer t :: after)).tracer =
        (ofSteps .new (.tracer t :: after)).tracer) ∧
    (∀ tracerSteps : List Trace.Config.Step,
      let t := Trace.Config.ofSteps tracerSteps
      t.enabled = (lastGiven Trace.Config.Step.enabled? tracerSteps).getD false ∧
      t.bufferLimit =
        (lastGiven Trace.Config.Step.bufferLimit? tracerSteps).getD 10000 ∧
      t.output = (lastGiven Trace.Config.Step.output? tracerSteps).getD .none ∧
      t.filter = (lastGiven Trace.Config.Step.filter? tracerSteps).getD []) := by
  intro c startKind given
  have hkind : (ofStart start).kind = startKind := by
    cases start <;> rfl
  have htracer : c.tracer =
      if .tracing ∈ sinceTracer steps then given.withEnabled else given :=
    tracer_ofSteps start steps
  refine ⟨hkind ▸ kind_ofSteps start steps, ?limit, ?output, ?filter, ?enabled, ?lost, ?fields⟩
  case limit | output | filter =>
    rw [htracer]
    split <;> rfl
  case enabled =>
    rw [htracer]
    split
    next hon => exact ⟨fun _ => .inr hon, fun _ => rfl⟩
    next hoff => exact ⟨.inl, fun h => h.resolve_right hoff⟩
  case lost =>
    intro t after
    exact tracer_ofSteps_append_tracer start .new steps after t
  case fields =>
    intro tracerSteps t
    exact ⟨Trace.Config.enabled_ofSteps tracerSteps, Trace.Config.bufferLimit_ofSteps tracerSteps,
      Trace.Config.output_ofSteps tracerSteps, Trace.Config.filter_ofSteps tracerSteps⟩

/-- Tracing that is turned on too early is lost, and so is a threading model. -/
example :
    ofSteps .singleThreaded
        [.tracing, .kind .multiThreaded, .tracer (Trace.Config.ofSteps [.bufferLimit 8]),
          .kind .singleThreaded] =
      ⟨.singleThreaded, ⟨false, 8, .none, []⟩⟩ := by
  decide

end Config
end Apartment
end TypedBox
