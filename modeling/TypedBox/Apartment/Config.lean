import TypedBox.Trace.Config

/-! # Configuration of an apartment

The threading model that an apartment is entered with, and the configuration of
its tracer.  One step replaces the tracer's configuration as a whole, so turning
tracing on lasts only until the next such step.
-/
namespace TypedBox
namespace Apartment

/-- The configuration of an apartment. -/
structure Config where
  kind : Kind
  tracer : Trace.Config
  deriving DecidableEq

namespace Config

/-- The configuration where none is asked for. -/
def standard : Config := ⟨.standard, .standard⟩

/-- The standard configuration with a threading model. -/
def ofKind (kind : Kind) : Config := { standard with kind := kind }

/-- With the given threading model. -/
def withKind (c : Config) (kind : Kind) : Config := { c with kind := kind }

/-- With tracing turned on. -/
def withTracing (c : Config) : Config := { c with tracer := c.tracer.withEnabled }

/-- With the given configuration of the tracer in place of the former one. -/
def withTracer (c : Config) (tracer : Trace.Config) : Config := { c with tracer := tracer }

/-- A configuration to start building from. -/
inductive Start where
  | new
  | standard
  | singleThreaded
  | multiThreaded
  deriving DecidableEq

/-- The configuration to start from. -/
def ofStart : Start → Config
  | .new => standard
  | .standard => standard
  | .singleThreaded => ofKind .singleThreaded
  | .multiThreaded => ofKind .multiThreaded

/-- One step in building a configuration. -/
inductive Step where
  | kind (kind : Kind)
  | tracing
  /-- Replaces the configuration of the tracer. -/
  | tracer (tracer : Trace.Config)
  deriving DecidableEq

/-- The configuration after one step. -/
def apply (c : Config) : Step → Config
  | .kind kind => c.withKind kind
  | .tracing => c.withTracing
  | .tracer tracer => c.withTracer tracer

/-- The configuration built by a list of steps. -/
def ofSteps (start : Start) (steps : List Step) : Config :=
  steps.foldl apply (ofStart start)

/-- The configurations on the way: at the start, and after each step. -/
def stages (c : Config) : List Step → List Config
  | [] => [c]
  | s :: rest => c :: stages (c.apply s) rest

def debugText (c : Config) : String :=
  Text.fields "ApartmentConfig"
    [("kind", c.kind.debugText), ("tracer", c.tracer.debugText)]

end Config
end Apartment
end TypedBox
