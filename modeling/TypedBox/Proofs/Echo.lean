import TypedBox.Proofs.LastStep
import TypedBox.Proofs.TracerHistory

/-! # The echo of a tracer

While its output is the error stream, a tracer echoes each event that it records as
the line of a record.  That record is made up before the event goes into the buffer,
from the number of events pushed so far; the buffer gives its number to the record
that it makes itself.  Both come to the same record in every state
(`echo_eq_pushed`), whether the buffer then keeps it or evicts it at once.

So what is echoed in a run is a part of all that was recorded, with the numbers that
the buffer gave out (`echoRun_sublist`), and all of it if the output is never
anything else (`echoRun_eq_numbered`).
-/
namespace TypedBox
namespace Trace

namespace Buffer

/-- The record that a push makes: it has the number that the push is told. -/
def pushedRecord (b : Buffer) (time : Nat) (event : Event) : Record :=
  ⟨(b.insert time event).1, time, event⟩

end Buffer

namespace Tracer

/-! ## One event -/

/-- **The echo of an event is the record that the buffer makes of it**, if the event
is recorded and the output is the error stream, and otherwise there is none. -/
theorem echo_eq_pushed (t : Tracer) (time : Nat) (e : Event) :
    t.echo time e =
      if t.admits e = true ∧ t.config.output = .errorStream then [t.buffer.pushedRecord time e]
      else [] := by
  unfold echo preview?
  by_cases hadmits : t.admits e = true
  · cases houtput : t.config.output with
    | none => simp [hadmits]
    | errorStream =>
      simp only [hadmits, and_self, if_true]
      rfl
  · simp [hadmits]

theorem echoLines_eq (t : Tracer) (time : Nat) (e : Event) :
    t.echoLines time e =
      if t.admits e = true ∧ t.config.output = .errorStream then
        [(t.buffer.pushedRecord time e).displayText]
      else [] := by
  rw [echoLines, echo_eq_pushed]
  split <;> rfl

/-! ## Switch and output -/

/-- What a change says about whether events are recorded. -/
def Change.enabled? : Change → Option Bool
  | .enable => some true
  | .disable => some false
  | .record .. | .setOutput _ | .clear => none

/-- What a change says about the output. -/
def Change.output? : Change → Option Output
  | .setOutput o => some o
  | .record .. | .enable | .disable | .clear => none

theorem output_apply (t : Tracer) (c : Change) :
    (t.apply c).config.output = c.output?.getD t.config.output := by
  cases c with
  | record time event => exact congrArg Config.output (t.config_record time event)
  | enable | disable | setOutput | clear => rfl

/-- The last change that switches a tracer says whether it is enabled. -/
theorem isEnabled_run (t : Tracer) (changes : List Change) :
    (t.run changes).isEnabled = (lastGiven Change.enabled? changes).getD t.isEnabled :=
  field_foldl (fun t c => by rw [isEnabled_apply]; cases c <;> rfl) t changes

/-- The last change that redirects a tracer says where its lines go. -/
theorem output_run (t : Tracer) (changes : List Change) :
    (t.run changes).config.output = (lastGiven Change.output? changes).getD t.config.output := by
  let output (t : Tracer) : Output := t.config.output
  have hstep : ∀ t c, output (apply t c) = (Change.output? c).getD (output t) := output_apply
  exact field_foldl hstep t changes

/-! ## A run -/

/-- The events that a buffer records of one change. -/
def recordedOf (t : Tracer) (c : Change) : List Timed :=
  Buffer.pushes (fedOf t.config.filter t.isEnabled c)

/-- The events that a buffer records in a list of changes. -/
def recorded (t : Tracer) (changes : List Change) : List Timed :=
  Buffer.pushes (fed t.config.filter t.isEnabled changes)

theorem recorded_cons (t : Tracer) (c : Change) (rest : List Change) :
    t.recorded (c :: rest) = t.recordedOf c ++ (t.apply c).recorded rest := by
  rw [recorded, fed_cons, Buffer.pushes_append, recordedOf, recorded, filter_apply,
    isEnabled_apply]

theorem recordedOf_record (t : Tracer) (time : Nat) (e : Event) :
    t.recordedOf (.record time e) = if t.admits e = true then [(time, e)] else [] := by
  rw [recordedOf, fedOf]
  by_cases hadmits : t.admits e = true
  · rw [if_pos hadmits, if_pos ((admits_iff t e).mp hadmits)]
    rfl
  · rw [if_neg hadmits, if_neg fun h => hadmits ((admits_iff t e).mpr h)]
    rfl

/-- A change takes as many numbers as it records events. -/
theorem pushed_apply (t : Tracer) (c : Change) :
    (t.apply c).buffer.pushed = t.buffer.pushed + (t.recordedOf c).length := by
  cases c with
  | record time event =>
    rw [recordedOf_record]
    by_cases hadmits : t.admits event = true
    · rw [if_pos hadmits]
      exact congrArg (fun t => t.buffer.pushed) (record_of_admits hadmits time)
    · rw [if_neg hadmits]
      exact congrArg (fun t => t.buffer.pushed) (record_of_not_admits hadmits time)
  | enable | disable | setOutput | clear => rfl

/-- What is echoed of one change is what is recorded of it, or nothing. -/
theorem echoOf_eq (t : Tracer) (c : Change) :
    t.echoOf c =
      if t.config.output = .errorStream then numbered t.buffer.pushed (t.recordedOf c)
      else [] := by
  cases c with
  | record time event =>
    rw [recordedOf_record]
    change t.echo time event = _
    rw [echo_eq_pushed]
    by_cases hadmits : t.admits event = true
    · simp [hadmits, Buffer.pushedRecord, Buffer.insert, numbered]
    · simp [hadmits]
  | enable | disable | setOutput | clear => exact (ite_self _).symm

/-- **What is echoed is a part of what is recorded, with the same numbers.** -/
theorem echoRun_sublist (t : Tracer) (changes : List Change) :
    (t.echoRun changes).Sublist (numbered t.buffer.pushed (t.recorded changes)) := by
  induction changes generalizing t with
  | nil => exact List.Sublist.refl _
  | cons c changes ih =>
    -- the numbers of the later changes start where those of the first one end
    rw [recorded_cons, numbered_append, ← pushed_apply]
    refine List.Sublist.append ?_ (ih (t.apply c))
    rw [echoOf_eq]
    split
    next => exact List.Sublist.refl _
    next => exact List.nil_sublist _

/-- The change does not send the lines away from the error stream. -/
def Change.keepsErrorStream : Change → Bool
  | .setOutput o => o = .errorStream
  | .record .. | .enable | .disable | .clear => true

theorem keepsErrorStream_iff (c : Change) :
    c.keepsErrorStream = true ↔ c.output?.getD .errorStream = .errorStream := by
  cases c with
  | setOutput o => exact decide_eq_true_iff
  | record | enable | disable | clear => exact iff_of_true rfl rfl

/-- **With the error stream as output throughout, all that is recorded is echoed.** -/
theorem echoRun_eq_numbered {t : Tracer} (h : t.config.output = .errorStream)
    {changes : List Change} (hkeeps : ∀ c ∈ changes, c.keepsErrorStream = true) :
    t.echoRun changes = numbered t.buffer.pushed (t.recorded changes) := by
  induction changes generalizing t with
  | nil => rfl
  | cons c changes ih =>
    obtain ⟨hc, hrest⟩ := List.forall_mem_cons.mp hkeeps
    have houtput : (t.apply c).config.output = .errorStream := by
      rw [output_apply, h, (keepsErrorStream_iff c).mp hc]
    rw [recorded_cons, numbered_append, ← pushed_apply, ← ih houtput hrest, echoRun, echoOf_eq,
      if_pos h]

/-! ## The echo and the buffer -/

variable {c : Config} {changes : List Change}

theorem admits_run_iff (e : Event) :
    ((ofConfig c).run changes).admits e = true ↔
      ((ofConfig c).run changes).isEnabled = true ∧ (c.filter = [] ∨ e.type ∈ c.filter) := by
  rw [admits_iff, filter_run]
  rfl

/-- A record in the buffer with the number of an echoed record is that record: both
tell the event in one place among all that were recorded. -/
theorem eq_of_id_eq_of_mem_echoRun {r s : Record} (hr : r ∈ (ofConfig c).echoRun changes)
    (hs : s ∈ ((ofConfig c).run changes).buffer.toList) (hid : s.id = r.id) : s = r := by
  obtain ⟨-, hplace⟩ :=
    getElem?_of_mem_numbered (((ofConfig c).echoRun_sublist changes).subset hr)
  rw [buffer_run] at hs
  have hplace' := Buffer.getElem?_pushes_of_mem hs
  rw [hid] at hplace'
  exact Record.eq_of_timed_eq hid (Option.some.inj (hplace'.symm.trans hplace))

/-- **The echo and the buffer never disagree**, after any events, however the tracer is
switched, redirected and cleared in between.

* The tracer is enabled if it was switched on last, or was configured so and never
  switched, and its output is the one that was set last, or else that of its
  configuration.
* An event that finds the tracer enabled, passes the filter and finds the output to be
  the error stream is echoed as one line, that of the record which the buffer makes of
  it, even if the buffer evicts it at once.  Any other event is not echoed.
* What is echoed in a run is a part of what is recorded, under the same numbers; a
  record in the buffer with the number of an echoed one is that record.
* With the error stream as output throughout, all that is recorded is echoed, so that
  the numbers are those from zero on, without gap or repetition. -/
theorem echo_agrees_with_buffer (c : Config) (changes : List Change) :
    let t := (ofConfig c).run changes
    let echoed := (ofConfig c).echoRun changes
    let recorded := Buffer.pushes (fed c.filter c.enabled changes)
    (t.isEnabled = (lastGiven Change.enabled? changes).getD c.enabled ∧
      t.config.output = (lastGiven Change.output? changes).getD c.output) ∧
    (∀ time e,
      let passes := t.isEnabled = true ∧ (c.filter = [] ∨ e.type ∈ c.filter)
      let r : Record := ⟨(t.buffer.insert time e).1, time, e⟩
      (t.record time e).buffer =
        (if passes then (t.buffer.insert time e).2 else t.buffer) ∧
      (t.buffer.insert time e).2.toList = (t.buffer.toList ++ [r]).rtake c.bufferLimit ∧
      t.echoLines time e =
        if passes ∧ t.config.output = .errorStream then [r.displayText] else []) ∧
    (echoed.Sublist (numbered 0 recorded) ∧
      ∀ r ∈ echoed, ∀ s ∈ t.buffer.toList, s.id = r.id → s = r) ∧
    (c.output = .errorStream → (∀ change ∈ changes, change.keepsErrorStream = true) →
      echoed = numbered 0 recorded ∧ echoed.map Record.id = List.range t.buffer.pushed) := by
  intro t echoed recorded
  have hbuffer : t.buffer = (Buffer.ofLimit c.bufferLimit).run (fed c.filter c.enabled changes) :=
    buffer_run (ofConfig c) changes
  refine ⟨⟨isEnabled_run _ changes, output_run _ changes⟩, ?event,
    ⟨(ofConfig c).echoRun_sublist changes, ?same⟩, ?throughout⟩
  case event =>
    intro time e passes r
    have hadmits : t.admits e = true ↔ passes := admits_run_iff e
    have hlimit : t.buffer.limit = c.bufferLimit := by
      rw [hbuffer, Buffer.limit_run]
      rfl
    refine ⟨?_, ?_, ?_⟩
    · by_cases hpasses : passes
      · rw [if_pos hpasses, record_of_admits (hadmits.mpr hpasses)]
        rfl
      · rw [if_neg hpasses, record_of_not_admits (hpasses ∘ hadmits.mp)]
    · rw [← hlimit]
      exact t.buffer.toList_push_eq_rtake time e
    · rw [echoLines_eq]
      exact if_congr (and_congr_left' hadmits) rfl rfl
  case same => exact fun r hr s hs hid => eq_of_id_eq_of_mem_echoRun hr hs hid
  case throughout =>
    intro houtput hkeeps
    have hall : echoed = numbered 0 recorded := echoRun_eq_numbered houtput hkeeps
    refine ⟨hall, ?_⟩
    rw [hall, map_id_numbered, hbuffer, Buffer.pushed_run, List.range_eq_range']

/-- A buffer without any room keeps nothing of three events, with a clearing and a
moment of being disabled between them; all of them are echoed, one after the other. -/
theorem echo_agrees_with_buffer_without_room :
    let c : Config := ⟨true, 0, .errorStream, []⟩
    let changes : List Change :=
      [.record 10 (.boxed .point), .clear, .record 20 (.unboxed .point), .disable,
       .record 30 (.boxed .size), .setOutput .errorStream, .enable, .record 40 (.boxed .rect)]
    let t := (ofConfig c).run changes
    c.output = .errorStream ∧ (∀ change ∈ changes, change.keepsErrorStream = true) ∧
      t.buffer.toList = [] ∧ t.buffer.pushed = 3 ∧
      ((ofConfig c).echoRun changes).map Record.id = List.range 3 := by
  intro c changes t
  have hkeeps : ∀ change ∈ changes, change.keepsErrorStream = true := by decide
  obtain ⟨-, -, -, throughout⟩ := echo_agrees_with_buffer c changes
  exact ⟨rfl, hkeeps, by decide +kernel, by decide +kernel, (throughout rfl hkeeps).2⟩

end Tracer
end Trace
end TypedBox
