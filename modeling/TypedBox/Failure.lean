import TypedBox.Shape
import TypedBox.Text.Basic
import TypedBox.Text.Quoted

/-! # Failures

A failure has a *cause* and possibly a *context*.  The message of a failure is
that of its cause alone.  The context names the operation that failed and the
calls around it, innermost first; it is built up by steps and displayed line by
line.
-/
namespace TypedBox
namespace Failure

/-- Why an operation failed. -/
inductive Cause where
  /-- A value was asked for in a shape that it does not have. -/
  | mismatch (expected actual : Shape)
  /-- A number does not fit the shape that it was meant for. -/
  | outOfRange (target : Shape) (value : Int)
  /-- No shape has this code. -/
  | unknownCode (code : Nat)
  /-- The thread has a live apartment already. -/
  | alreadyInitialized
  deriving DecidableEq

namespace Cause

/-- The message that describes a cause. -/
def message : Cause → String
  | mismatch expected actual =>
    "type mismatch: expected " ++ expected.name ++ ", got " ++ actual.name
  | outOfRange target value =>
    "value " ++ Text.signedDecimal value ++ " out of range for " ++ target.name
  | unknownCode code => "unknown type code: " ++ Text.decimal code
  | alreadyInitialized => "apartment already initialized on this thread"

def debugText : Cause → String
  | mismatch expected actual =>
    Text.fields "TypeMismatch" [("expected", expected.debugText), ("actual", actual.debugText)]
  | outOfRange target value =>
    Text.fields "OutOfRange" [("target", target.debugText), ("value", Text.signedDecimal value)]
  | unknownCode code => Text.applied "UnknownTypeCode" (Text.decimal code)
  | alreadyInitialized => "ApartmentAlreadyInitialized"

end Cause

/-- Where an operation failed. -/
structure Context where
  /-- The operation that failed. -/
  operation : Option String
  /-- The calls around it, innermost first. -/
  frames : List String
  deriving DecidableEq

namespace Context

/-- The context that says nothing. -/
def empty : Context := ⟨none, []⟩

/-- One step in building a context. -/
inductive Step where
  /-- Names the failed operation, in place of an earlier name. -/
  | operation (name : String)
  /-- Adds a call around those named so far. -/
  | frame (name : String)
  deriving DecidableEq

/-- The context with its operation named. -/
def withOperation (c : Context) (name : String) : Context :=
  { c with operation := some name }

/-- The context with one more call around it. -/
def withFrame (c : Context) (name : String) : Context :=
  { c with frames := c.frames ++ [name] }

/-- The context after one step. -/
def apply (c : Context) : Step → Context
  | .operation name => c.withOperation name
  | .frame name => c.withFrame name

/-- The context built by a list of steps, starting from the empty one. -/
def ofSteps (steps : List Step) : Context :=
  steps.foldl apply empty

/-- The line for one call around the operation. -/
def frameLine (name : String) : String :=
  "  from " ++ name ++ "\n"

/-- How a context is displayed: the operation, then on lines of their own the calls around it. -/
def displayText (c : Context) : String :=
  (match c.operation with
    | none => ""
    | some name => "in " ++ name) ++
  (if c.frames.isEmpty then "" else "\n" ++ String.join (c.frames.map frameLine))

def debugText (c : Context) : String :=
  Text.fields "ErrorContext"
    [("operation", Text.optional (c.operation.map Text.quoted)),
     ("stack", Text.list (c.frames.map Text.quoted))]

end Context
end Failure

/-- The failure of an operation: its cause, and where it happened if that is known. -/
structure Failure where
  /-- Why the operation failed. -/
  cause : Failure.Cause
  /-- Where it failed. -/
  context : Option Failure.Context
  deriving DecidableEq

namespace Failure

/-- A failure of which only the cause is known. -/
def ofCause (cause : Cause) : Failure := ⟨cause, none⟩

/-- A value of shape `actual` was asked for as `expected`. -/
def mismatch (expected actual : Shape) : Failure := ofCause (.mismatch expected actual)

/-- The number `value` does not fit the shape `target`. -/
def outOfRange (target : Shape) (value : Int) : Failure := ofCause (.outOfRange target value)

/-- No shape has the code. -/
def unknownCode (code : Nat) : Failure := ofCause (.unknownCode code)

/-- The failure with its context set, in place of an earlier one. -/
def withContext (e : Failure) (c : Context) : Failure :=
  { e with context := some c }

/-- The message of a failure is that of its cause. -/
def message (e : Failure) : String := e.cause.message

/-- A value was asked for in another shape than its own. -/
def isMismatch (e : Failure) : Bool :=
  match e.cause with
  | .mismatch .. => true
  | _ => false

/-- A number did not fit its shape. -/
def isOutOfRange (e : Failure) : Bool :=
  match e.cause with
  | .outOfRange .. => true
  | _ => false

def debugText (e : Failure) : String :=
  Text.fields "Error"
    [("kind", e.cause.debugText),
     ("context", Text.optional (e.context.map Context.debugText))]

end Failure

/-- The shape with the given code; every other code is unknown. -/
def Shape.ofCode (code : Nat) : Except Failure Shape :=
  match Shape.ofCode? code with
  | some s => .ok s
  | none => .error (.unknownCode code)

end TypedBox
