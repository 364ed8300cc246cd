import TypedBox.Trace.Buffer
import TypedBox.Trace.Config

/-! # Tracers

A tracer is a configuration and a buffer.  It records an event if it is enabled
and the event passes its filter; any other event leaves no trace at all.  If its
output is the error stream, it also echoes a recorded event as one line, the
line of the very record that goes into the buffer.
-/
namespace TypedBox
namespace Trace

/-- A recorder of events. -/
structure Tracer where
  /-- What is recorded, and where lines go. -/
  config : Config
  /-- What was recorded. -/
  buffer : Buffer
  deriving DecidableEq

namespace Tracer

/-- The tracer with the given configuration and nothing recorded. -/
def ofConfig (c : Config) : Tracer := ⟨c, .ofLimit c.bufferLimit⟩

/-- The tracer that records nothing until it is enabled. -/
def disabled : Tracer := ofConfig .standard

/-- The tracer records events. -/
def isEnabled (t : Tracer) : Bool := t.config.enabled

/-- The tracer with recording on. -/
def enable (t : Tracer) : Tracer := { t with config := { t.config with enabled := true } }

/-- The tracer with recording off. -/
def disable (t : Tracer) : Tracer := { t with config := { t.config with enabled := false } }

/-- The tracer with lines going to the given output. -/
def setOutput (t : Tracer) (o : Output) : Tracer :=
  { t with config := { t.config with output := o } }

/-- The tracer with all its records dropped. -/
def clear (t : Tracer) : Tracer := { t with buffer := t.buffer.clear }

/-- The tracer would record the event. -/
def admits (t : Tracer) (e : Event) : Bool := t.isEnabled && t.config.accepts e

/-- The record whose line is echoed if an event is recorded now.  It is made up before the event
goes into the buffer, which may evict it at once. -/
def preview? (t : Tracer) (time : Nat) (e : Event) : Option Record :=
  match t.config.output with
  | .none => none
  | .errorStream => some ⟨t.buffer.pushed, time, e⟩

/-- The tracer after an event. -/
def record (t : Tracer) (time : Nat) (e : Event) : Tracer :=
  if t.admits e then { t with buffer := t.buffer.push time e } else t

/-- The records echoed for an event. -/
def echo (t : Tracer) (time : Nat) (e : Event) : List Record :=
  if t.admits e then (t.preview? time e).toList else []

/-- The lines echoed for an event. -/
def echoLines (t : Tracer) (time : Nat) (e : Event) : List String :=
  (t.echo time e).map Record.displayText

/-- The latest `n` records, oldest first. -/
def recent (t : Tracer) (n : Nat) : List Record := t.buffer.recent n

/-- A summary of what was recorded. -/
def stats (t : Tracer) : Stats := t.buffer.stats

def debugText (t : Tracer) : String :=
  Text.someFields "Tracer"
    [("enabled", Text.boolean t.isEnabled), ("records", Text.decimal t.buffer.size)]

/-- What can be done to a tracer. -/
inductive Change where
  /-- An event happens at a time. -/
  | record (time : Nat) (event : Event)
  | enable
  | disable
  /-- Lines are sent elsewhere. -/
  | setOutput (output : Output)
  | clear
  deriving DecidableEq

/-- The tracer after one change. -/
def apply (t : Tracer) : Change → Tracer
  | .record time event => t.record time event
  | .enable => t.enable
  | .disable => t.disable
  | .setOutput output => t.setOutput output
  | .clear => t.clear

/-- The records echoed in one change. -/
def echoOf (t : Tracer) : Change → List Record
  | .record time event => t.echo time event
  | _ => []

/-- The tracer after a list of changes. -/
def run (t : Tracer) (changes : List Change) : Tracer :=
  changes.foldl apply t

/-- The records echoed in a list of changes, in order. -/
def echoRun (t : Tracer) : List Change → List Record
  | [] => []
  | c :: rest => t.echoOf c ++ echoRun (t.apply c) rest

end Tracer
end Trace
end TypedBox
