import TypedBox.Decimal
import TypedBox.Shape

/-! # Trace events and records

What happens inside an apartment: it is entered and left, values are boxed, and
retrievals succeed or are rejected.  Every kind of event has a type name, which
is what filters go by and how the displayed event starts.

A record is an event with a number and a time.  It is displayed on one line: the
number, the time, the event.  Times are shown in whole microseconds below one
millisecond, and from there on in milliseconds to three places.

The milliseconds are a double precision quotient: the microseconds are rounded
to double precision, so is their quotient by a thousand, and the exact value of
the result is rounded to three places.
-/
namespace TypedBox

/-! ## Threading models

An apartment is entered for use by a single thread or by several.
-/

namespace Apartment

/-- The threading model of an apartment. -/
inductive Kind where
  | singleThreaded
  | multiThreaded
  deriving DecidableEq

namespace Kind

/-- The threading model where none is asked for. -/
def standard : Kind := multiThreaded

/-- How a threading model is displayed. -/
def displayText : Kind → String
  | singleThreaded => "single-threaded"
  | multiThreaded => "multi-threaded"

/-- The name of a threading model. -/
def debugText : Kind → String
  | singleThreaded => "SingleThreaded"
  | multiThreaded => "MultiThreaded"

/-- The place of a threading model in the list of both. -/
def index : Kind → Nat
  | singleThreaded => 0
  | multiThreaded => 1

/-- The place of a threading model as eight bytes. -/
def hashBytes (k : Kind) : List UInt8 := Bytes.littleEndian 8 k.index

end Kind
end Apartment

/-! ## Events -/

namespace Trace

/-- Something that happened in an apartment. -/
inductive Event where
  | initialized (kind : Apartment.Kind)
  /-- The apartment was left, with so many records in its buffer. -/
  | uninitialized (records : Nat)
  | boxed (shape : Shape)
  /-- A value was retrieved as its own shape. -/
  | unboxed (shape : Shape)
  /-- A value was asked for in another shape than its own. -/
  | rejected (expected actual : Shape)
  deriving DecidableEq

namespace Event

/-- The type name of an event. -/
def type : Event → String
  | initialized _ => "apartment-init"
  | uninitialized _ => "apartment-uninit"
  | boxed _ => "value-boxed"
  | unboxed _ => "value-unboxed"
  | rejected .. => "unbox-rejected"

/-- How an event is displayed. -/
def displayText : Event → String
  | initialized kind => "apartment-init " ++ kind.displayText
  | uninitialized records => "apartment-uninit after " ++ Text.decimal records ++ " records"
  | boxed shape => "value-boxed " ++ shape.name
  | unboxed shape => "value-unboxed " ++ shape.name
  | rejected expected actual =>
    "unbox-rejected expected " ++ expected.name ++ ", got " ++ actual.name

def debugText : Event → String
  | initialized kind => Text.fields "ApartmentInit" [("kind", kind.debugText)]
  | uninitialized records => Text.fields "ApartmentUninit" [("records", Text.decimal records)]
  | boxed shape => Text.fields "ValueBoxed" [("tag", shape.debugText)]
  | unboxed shape => Text.fields "ValueUnboxed" [("tag", shape.debugText)]
  | rejected expected actual =>
    Text.fields "UnboxRejected"
      [("expected", expected.debugText), ("actual", actual.debugText)]

end Event

/-! ## Records -/

/-- An event as it was recorded. -/
structure Record where
  /-- How many events were recorded before it. -/
  id : Nat
  /-- The nanoseconds since recording started. -/
  time : Nat
  event : Event
  deriving DecidableEq

open Binary (Format roundHalfEven)

/-- The code of the double precision quotient of `us`, rounded to double precision, by a
thousand. -/
def millisecondsCode (us : Nat) : Nat :=
  let rounded := Format.double.nearest us 1
  Format.double.nearestUnits (Format.double.units rounded) 1000

/-- Thousandths of a double precision magnitude, rounded to a whole number of them. -/
def thousandths (code : Nat) : Nat :=
  roundHalfEven (Format.double.units code * 1000) Format.double.one

/-- Milliseconds to three places, for a time given in microseconds. -/
def millisecondsText (us : Nat) : String :=
  String.ofList (Decimal.positional ⟨thousandths (millisecondsCode us), -3⟩)

/-- A time in nanoseconds as it is displayed. -/
def timeText (time : Nat) : String :=
  let us := time / 1000
  if us < 1000 then Text.decimal us ++ "us" else millisecondsText us ++ "ms"

namespace Record

/-- The type name of the recorded event. -/
def type (r : Record) : String := r.event.type

/-- The line for a record, with its time given as a text. -/
def lineWith (time : String) (r : Record) : String :=
  "[" ++ Text.paddedDecimal 6 r.id ++ "] " ++ time ++ " " ++ r.event.displayText

/-- How a record is displayed. -/
def displayText (r : Record) : String :=
  r.lineWith (timeText r.time)

def debugText (r : Record) : String :=
  Text.fields "TraceRecord"
    [("id", Text.decimal r.id), ("timestamp_ns", Text.decimal r.time),
     ("event", r.event.debugText)]

end Record
end Trace
end TypedBox
