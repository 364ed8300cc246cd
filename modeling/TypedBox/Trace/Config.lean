import TypedBox.Text.Quoted
import TypedBox.Trace.Buffer

/-! # Configuration of a tracer

Whether events are recorded, which ones, how many are kept, and whether each is
also echoed as a line.  A configuration is built by steps; each step sets one
field and leaves the others alone.
-/
namespace TypedBox
namespace Trace

/-- Where the line for a recorded event goes. -/
inductive Output where
  /-- Nowhere; the event is recorded in the buffer only. -/
  | none
  /-- To the error stream, in addition to the buffer. -/
  | errorStream
  deriving DecidableEq

namespace Output

/-- The output where none is asked for. -/
def standard : Output := none

/-- The name of an output. -/
def debugText : Output → String
  | none => "None"
  | errorStream => "Stderr"

end Output

/-- The configuration of a tracer. -/
structure Config where
  /-- Events are recorded at all. -/
  enabled : Bool
  /-- The limit of the buffer. -/
  bufferLimit : Nat
  /-- Where lines go. -/
  output : Output
  /-- The types of event that are recorded; if there are none, all types are. -/
  filter : List String
  deriving DecidableEq

namespace Config

/-- The configuration where none is asked for: nothing is recorded. -/
def standard : Config := ⟨false, Buffer.standardLimit, .standard, []⟩

/-- With recording on. -/
def withEnabled (c : Config) : Config := { c with enabled := true }

/-- With a limit for the buffer. -/
def withBufferLimit (c : Config) (limit : Nat) : Config := { c with bufferLimit := limit }

/-- With every recorded event echoed to the error stream. -/
def withErrorStream (c : Config) : Config := { c with output := .errorStream }

/-- With only events of the given types recorded, or of all types if none is given. -/
def withFilter (c : Config) (types : List String) : Config := { c with filter := types }

/-- One step in building a configuration. -/
inductive Step where
  | enabled
  | bufferLimit (limit : Nat)
  | errorStream
  | filter (types : List String)
  deriving DecidableEq

/-- The configuration after one step. -/
def apply (c : Config) : Step → Config
  | .enabled => c.withEnabled
  | .bufferLimit limit => c.withBufferLimit limit
  | .errorStream => c.withErrorStream
  | .filter types => c.withFilter types

/-- The configuration built by a list of steps, starting from the standard one. -/
def ofSteps (steps : List Step) : Config :=
  steps.foldl apply standard

/-- The filter lets an event pass. -/
def accepts (c : Config) (e : Event) : Bool :=
  c.filter.isEmpty || c.filter.contains e.type

def debugText (c : Config) : String :=
  Text.fields "TracerConfig"
    [("enabled", Text.boolean c.enabled), ("buffer_size", Text.decimal c.bufferLimit),
     ("output", c.output.debugText), ("event_filter", Text.list (c.filter.map Text.quoted))]

end Config
end Trace
end TypedBox
