import TypedBox.Session.Basic

/-! # Commands of a session

What a client can do, and what it is told in reply.  A command that needs an
apartment is told when there is none; a command that boxes is told the failure,
and then stores nothing.
-/
namespace TypedBox

open Trace (Record Stats)

namespace Session

variable [StoredTypes]

/-- Something that a client does. -/
inductive Command where
  | init (config : Apartment.Config)
  | isInitialized
  /-- Leaves the apartment for its final summary. -/
  | uninit
  | drop
  /-- Boxes outside the apartment. -/
  | create (name : String) (spec : ValueSpec)
  | box (name : String) (spec : ValueSpec)
  /-- Boxes the same so many times in the apartment, and keeps nothing of it. -/
  | boxMany (count : Nat) (spec : ValueSpec)
  /-- Gives a value one more name. -/
  | clone (name source : String)
  | shapeOf (name : String)
  /-- Retrieves a value in the apartment. -/
  | unbox (name : String) (target : Target)
  /-- Retrieves a value outside the apartment. -/
  | get (name : String) (target : Target) (route : Route)
  | inspect (name : String)
  | compare (a b : String)
  /-- Keeps contents at a new allocation, to make handles to them later. -/
  | share (name : String) (spec : ContentSpec)
  /-- Makes an object, or another handle to one. -/
  | makeObject (name : String) (spec : ObjectSpec)
  /-- Retrieves an object from a value. -/
  | takeObject (name source : String)
  /-- Looks into an object for a value or for another object, which is then boxed. -/
  | lookInto (object name : String)
  | compareObjects (a b : String)
  /-- Asks whether an object holds contents of a type. -/
  | holds (object : String) (type : StoredType)
  /-- Wraps a value in so many objects. -/
  | wrap (name source : String) (count : Nat)
  /-- Unwraps a value down to the innermost one. -/
  | unwrap (name source : String)
  | recent (count : Nat)
  | stats
  /-- Asks for the apartment as text. -/
  | describe
  /-- Starts a thread; the running one waits for it. -/
  | spawn
  /-- Ends the running thread, which drops its apartment. -/
  | join

/-- What a client is told. -/
inductive Reply where
  /-- There is nothing to tell. -/
  | done
  | noApartment
  | failed (e : Failure)
  | entered (kind : Apartment.Kind) (tracing : Bool)
  /-- The thread has a live apartment or not. -/
  | live (isLive : Bool)
  | left (stats : Stats) (isLive : Bool)
  | stored (v : Value)
  /-- Values were boxed and not kept. -/
  | boxedMany (stats : Stats)
  | shape (s : Shape)
  | retrieved (t : Target) (x : t.Native)
  | value (v : Value)
  | comparison (c : Comparison)
  /-- How two objects compare: one allocation, equal, equal in the bytes fed to a hash. -/
  | objectComparison (same eq sameHash : Bool)
  | sharedNumber (name : String)
  | madeObject (o : Object)
  | takenObject (o : Object)
  /-- The object holds something else. -/
  | closed (o : Object)
  /-- Whether an object is of a type, and whether its contents can be had as that type. -/
  | holds (is downcasts : Bool)
  | unwrapped (depth : Nat) (v : Value)
  | recent (records : List Record)
  /-- The summary, and whether events are being recorded. -/
  | stats (stats : Stats) (tracing : Bool)
  | text (s : String)

end Session
end TypedBox
