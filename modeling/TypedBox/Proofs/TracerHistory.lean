import TypedBox.Proofs.BufferHistory
import TypedBox.Trace.Tracer

/-! # The history of a tracer

A tracer can be switched on and off, have its lines sent elsewhere and be cleared
while events happen.  Of all this its buffer sees the admitted events and the
clearings, nothing else: `fed` reads them off the list of changes, and the buffer
is the one that undergoes just these (`buffer_run`).

Where the lines go is no part of `fed`.  Hence it makes no difference to what is
recorded, whatever else is done in between.
-/
namespace TypedBox
namespace Trace
namespace Tracer

/-! ## What is admitted -/

theorem admits_iff (t : Tracer) (e : Event) :
    t.admits e = true ↔
      t.isEnabled = true ∧ (t.config.filter = [] ∨ e.type ∈ t.config.filter) := by
  simp [admits, Config.accepts]

theorem record_of_admits {t : Tracer} {e : Event} (h : t.admits e = true) (time : Nat) :
    t.record time e = { t with buffer := t.buffer.push time e } := by
  rw [record, if_pos h]

theorem record_of_not_admits {t : Tracer} {e : Event} (h : ¬ t.admits e = true) (time : Nat) :
    t.record time e = t := by
  rw [record, if_neg h]

/-- Recording an event does not change what is configured. -/
@[simp] theorem config_record (t : Tracer) (time : Nat) (e : Event) :
    (t.record time e).config = t.config := by
  unfold record
  split <;> rfl

/-- An event leaves the tracer as it is just when it is not admitted: an admitted
one takes a number. -/
theorem record_eq_self_iff (t : Tracer) (time : Nat) (e : Event) :
    t.record time e = t ↔ ¬ t.admits e = true := by
  constructor
  · intro h hadmits
    rw [record_of_admits hadmits] at h
    have hpushed : t.buffer.pushed + 1 = t.buffer.pushed :=
      congrArg (fun t => t.buffer.pushed) h
    exact Nat.succ_ne_self _ hpushed
  · intro h
    exact record_of_not_admits h time

/-! ## What the buffer is fed with -/

/-- The changes that a buffer sees of those of its tracer: the events that happen
while the tracer is enabled and whose type is in the filter, all types if that is
empty, and the clearings. -/
def fed (filter : List String) : (enabled : Bool) → List Change → List Buffer.Change
  | _, [] => []
  | enabled, .record time event :: rest =>
    if enabled = true ∧ (filter = [] ∨ event.type ∈ filter) then
      .push time event :: fed filter enabled rest
    else fed filter enabled rest
  | _, .enable :: rest => fed filter true rest
  | _, .disable :: rest => fed filter false rest
  | enabled, .setOutput _ :: rest => fed filter enabled rest
  | enabled, .clear :: rest => .clear :: fed filter enabled rest

/-- What a buffer sees of one change. -/
def fedOf (filter : List String) (enabled : Bool) : Change → List Buffer.Change
  | .record time event =>
    if enabled = true ∧ (filter = [] ∨ event.type ∈ filter) then [.push time event] else []
  | .clear => [.clear]
  | .enable | .disable | .setOutput _ => []

/-- Whether the tracer is enabled after a change. -/
def enabledAfter (enabled : Bool) : Change → Bool
  | .enable => true
  | .disable => false
  | .record .. | .setOutput _ | .clear => enabled

theorem fed_cons (filter : List String) (enabled : Bool) (c : Change) (rest : List Change) :
    fed filter enabled (c :: rest) =
      fedOf filter enabled c ++ fed filter (enabledAfter enabled c) rest := by
  cases c with
  | record time event =>
    rw [fed, fedOf]
    split <;> rfl
  | enable | disable | setOutput | clear => rfl

/-- Fed with the first of several changes, the buffer is that of the changed tracer, and
the others are read off from there. -/
theorem run_fed_cons (t : Tracer) (c : Change) (rest : List Change) :
    t.buffer.run (fed t.config.filter t.isEnabled (c :: rest)) =
      (t.apply c).buffer.run (fed (t.apply c).config.filter (t.apply c).isEnabled rest) := by
  cases c with
  | record time event =>
    have hstep : t.apply (.record time event) = t.record time event := rfl
    by_cases hadmits : t.admits event = true
    · rw [hstep, record_of_admits hadmits, fed, if_pos ((admits_iff t event).mp hadmits)]
      rfl
    · rw [hstep, record_of_not_admits hadmits, fed,
        if_neg fun h => hadmits ((admits_iff t event).mpr h)]
  | enable | disable | setOutput | clear => rfl

/-- **The buffer undergoes what it is fed with, and nothing else.** -/
theorem buffer_run (t : Tracer) (changes : List Change) :
    (t.run changes).buffer = t.buffer.run (fed t.config.filter t.isEnabled changes) := by
  induction changes generalizing t with
  | nil => rfl
  | cons c changes ih =>
    rw [run_fed_cons]
    exact ih (t.apply c)

@[simp] theorem filter_apply (t : Tracer) (c : Change) :
    (t.apply c).config.filter = t.config.filter := by
  cases c with
  | record time event => exact congrArg Config.filter (t.config_record time event)
  | enable | disable | setOutput | clear => rfl

theorem isEnabled_apply (t : Tracer) (c : Change) :
    (t.apply c).isEnabled = enabledAfter t.isEnabled c := by
  cases c with
  | record time event => exact congrArg Config.enabled (t.config_record time event)
  | enable | disable | setOutput | clear => rfl

/-- The filter is never changed. -/
@[simp] theorem filter_run (t : Tracer) (changes : List Change) :
    (t.run changes).config.filter = t.config.filter := by
  induction changes generalizing t with
  | nil => rfl
  | cons c changes ih => exact (ih (t.apply c)).trans (t.filter_apply c)

/-! ## Where the lines go -/

/-- The change sends the lines elsewhere. -/
def Change.isSetOutput : Change → Bool
  | .setOutput _ => true
  | _ => false

/-- The changes without those that send the lines elsewhere. -/
def withoutOutput (changes : List Change) : List Change :=
  changes.filter fun c => !c.isSetOutput

theorem fed_withoutOutput (filter : List String) (enabled : Bool) (changes : List Change) :
    fed filter enabled (withoutOutput changes) = fed filter enabled changes := by
  induction changes generalizing enabled with
  | nil => rfl
  | cons c changes ih =>
    cases c with
    | setOutput o => exact ih enabled
    | record | enable | disable | clear =>
      change fed filter enabled (_ :: withoutOutput changes) = _
      rw [fed_cons, fed_cons, ih]

/-- Runs that differ only in where the lines go, at first or later, record the
same. -/
theorem buffer_run_eq_of_withoutOutput_eq (c : Config) (o : Output)
    {changes changes' : List Change} (h : withoutOutput changes' = withoutOutput changes) :
    ((ofConfig { c with output := o }).run changes').buffer =
      ((ofConfig c).run changes).buffer := by
  have hfed : fed c.filter c.enabled changes' = fed c.filter c.enabled changes := by
    rw [← fed_withoutOutput, h, fed_withoutOutput]
  calc ((ofConfig { c with output := o }).run changes').buffer
      = (Buffer.ofLimit c.bufferLimit).run (fed c.filter c.enabled changes') :=
        buffer_run (ofConfig { c with output := o }) changes'
    _ = (Buffer.ofLimit c.bufferLimit).run (fed c.filter c.enabled changes) := by rw [hfed]
    _ = ((ofConfig c).run changes).buffer := (buffer_run (ofConfig c) changes).symm

/-- **What a tracer records while it is switched, redirected and cleared.**

* Its buffer is one with the configured limit that was fed with the admitted
  events and the clearings, in their order; and up to times it is any buffer that
  was fed with these events, at whatever times.
* An event that finds the tracer disabled or does not pass the filter leaves the
  tracer as it is, and only such an event does.
* Switching on and off does not touch the buffer.
* Where the lines go, at first and later on, has no influence on what is
  recorded, summed up and shown. -/
theorem records_admitted_events (c : Config) (changes : List Change) :
    let t := (ofConfig c).run changes
    let admitted := fed c.filter c.enabled changes
    t.buffer = (Buffer.ofLimit c.bufferLimit).run admitted ∧
    (∀ others : List Buffer.Change,
      others.map Buffer.Change.untimed = admitted.map Buffer.Change.untimed →
        t.buffer.untimed = ((Buffer.ofLimit c.bufferLimit).run others).untimed) ∧
    (∀ time e, t.record time e = t ↔
      t.isEnabled = false ∨ (c.filter ≠ [] ∧ e.type ∉ c.filter)) ∧
    t.enable.buffer = t.buffer ∧ t.disable.buffer = t.buffer ∧
    (∀ (o : Output) (changes' : List Change), withoutOutput changes' = withoutOutput changes →
      let t' := (ofConfig { c with output := o }).run changes'
      t'.buffer = t.buffer ∧ t'.stats = t.stats ∧ ∀ n, t'.recent n = t.recent n) := by
  intro t admitted
  have hbuffer : t.buffer = (Buffer.ofLimit c.bufferLimit).run admitted :=
    buffer_run (ofConfig c) changes
  refine ⟨hbuffer, ?upToTimes, ?dropped, rfl, rfl, ?redirected⟩
  case upToTimes =>
    intro others hothers
    rw [hbuffer, Buffer.untimed_run, Buffer.untimed_run, hothers]
  case dropped =>
    intro time e
    have hfilter : t.config.filter = c.filter := filter_run (ofConfig c) changes
    rw [record_eq_self_iff, admits_iff, hfilter, not_and_or, not_or, Bool.not_eq_true]
  case redirected =>
    intro o changes' hchanges t'
    have hsame : t'.buffer = t.buffer := buffer_run_eq_of_withoutOutput_eq c o hchanges
    refine ⟨hsame, ?_, ?_⟩
    · exact congrArg Buffer.stats hsame
    · exact fun n => congrArg (Buffer.recent · n) hsame

/-- Two runs, one of them with lines sent to the error stream for a while, and a
third buffer that was fed at other times.  One event finds the tracer disabled,
one does not pass the filter. -/
theorem records_admitted_events_of_redirected_run :
    let c : Config := ⟨true, 2, .none, ["value-boxed"]⟩
    let changes : List Change :=
      [.record 1 (.boxed .point), .disable, .record 2 (.boxed .size), .enable,
       .record 3 (.unboxed .point), .clear, .record 4 (.boxed .rect)]
    let others : List Buffer.Change :=
      [.push 70 (.boxed .point), .clear, .push 80 (.boxed .rect)]
    let changes' := Change.setOutput .none :: changes ++ [.setOutput .errorStream]
    let t := (ofConfig c).run changes
    t.buffer.toList = [⟨1, 4, .boxed .rect⟩] ∧
      t.buffer.untimed = ((Buffer.ofLimit 2).run others).untimed ∧
      ((ofConfig c.withErrorStream).run changes').stats = t.stats := by
  intro c changes others changes' t
  have hothers : others.map Buffer.Change.untimed =
      (fed c.filter c.enabled changes).map Buffer.Change.untimed := by decide
  have hchanges : withoutOutput changes' = withoutOutput changes := by decide
  obtain ⟨-, upToTimes, -, -, -, redirected⟩ := records_admitted_events c changes
  exact ⟨by decide +kernel, upToTimes others hothers,
    (redirected .errorStream changes' hchanges).2.1⟩

end Tracer
end Trace
end TypedBox
