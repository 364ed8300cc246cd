import TypedBox.Bytes
import TypedBox.Text.Basic

/-! # Instants and intervals

Time is counted in ticks.  How long a tick is, and which instant is tick zero,
is for the users of the values to agree on.
-/
namespace TypedBox

/-- A number of ticks, with a sign. -/
abbrev Ticks := Int64

namespace Ticks

/-- Ticks as a decimal number. -/
def text (t : Ticks) : String := Text.signedDecimal t.toInt

/-- Ticks as eight bytes, in two's complement. -/
def hashBytes (t : Ticks) : List UInt8 := Bytes.littleEndian 8 t.toUInt64.toNat

end Ticks

/-- An instant, given by its distance from the reference instant. -/
structure DateTime where
  /-- The ticks since the reference instant. -/
  ticks : Ticks
  deriving DecidableEq

namespace DateTime

/-- The reference instant. -/
def zero : DateTime := ⟨0⟩

/-- Earlier instants come first. -/
def compare (a b : DateTime) : Ordering := Ord.compare a.ticks.toInt b.ticks.toInt

/-- How an instant is displayed. -/
def displayText (d : DateTime) : String := "@" ++ Ticks.text d.ticks

def debugText (d : DateTime) : String :=
  Text.fields "DateTime" [("universal_time", Ticks.text d.ticks)]

/-- The bytes of an instant are those of its ticks. -/
def hashBytes (d : DateTime) : List UInt8 := Ticks.hashBytes d.ticks

end DateTime

/-- The length of an interval of time, possibly negative. -/
structure TimeSpan where
  /-- The length in ticks. -/
  ticks : Ticks
  deriving DecidableEq

namespace TimeSpan

/-- The empty interval. -/
def zero : TimeSpan := ⟨0⟩

/-- The interval runs backwards. -/
def isNegative (t : TimeSpan) : Bool := t.ticks.toInt < 0

/-- Shorter intervals come first. -/
def compare (a b : TimeSpan) : Ordering := Ord.compare a.ticks.toInt b.ticks.toInt

/-- How an interval is displayed. -/
def displayText (t : TimeSpan) : String := Ticks.text t.ticks ++ "t"

def debugText (t : TimeSpan) : String :=
  Text.fields "TimeSpan" [("duration", Ticks.text t.ticks)]

/-- The bytes of an interval are those of its ticks. -/
def hashBytes (t : TimeSpan) : List UInt8 := Ticks.hashBytes t.ticks

end TimeSpan
end TypedBox
