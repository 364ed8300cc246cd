import TypedBox.Apartment.Basic

/-! # Threads and their apartments

A thread enters an apartment by obtaining a *guard*, and leaves it by giving the
guard back: either by dropping it, or by asking for the final summary.  The
thread has a *marker* that says whether it has a live apartment.  Entering looks
at the marker only, and is refused while it is set; every other operation goes
through a guard.

Each thread has its own marker and its own guards (`Threads`).
-/
namespace TypedBox

open Trace (Record Stats)
open Apartment (Outcome)

/-- What a thread knows about its apartments. -/
structure Thread where
  /-- The marker: the thread has a live apartment. -/
  live : Bool
  /-- The guards that the thread holds. -/
  guards : List Apartment

namespace Thread

/-- A thread that never entered an apartment. -/
def fresh : Thread := ⟨false, []⟩

/-- Enters an apartment, unless the marker says that there is a live one. -/
def init (t : Thread) (c : Apartment.Config) (time : Nat) :
    Outcome Thread (Except Failure Unit) :=
  if t.live then ⟨.error (.ofCause .alreadyInitialized), t, []⟩
  else
    let entered := Apartment.enter c time
    ⟨.ok (), ⟨true, t.guards ++ [entered.state]⟩, entered.echo⟩

/-- The marker. -/
def isInitialized (t : Thread) : Bool := t.live

/-- The thread after giving back its guard number `i`. -/
def release (t : Thread) (i : Nat) : Thread := ⟨false, t.guards.eraseIdx i⟩

/-- Drops guard number `i`, if there is one. -/
def drop (t : Thread) (i time : Nat) : Outcome Thread Unit :=
  match t.guards[i]? with
  | none => ⟨(), t, []⟩
  | some a => ⟨(), t.release i, (a.close time).echo⟩

/-- Gives back guard number `i` for its final summary, if there is one.  The apartment is closed
for the summary, and then dropped. -/
def uninit (t : Thread) (i time : Nat) : Outcome Thread (Option Stats) :=
  match t.guards[i]? with
  | none => ⟨none, t, []⟩
  | some a =>
    let left := a.uninit time
    ⟨some left.answer, t.release i, left.echo ++ (left.state.close time).echo⟩

/-- Does something in the apartment of guard number `i`, if there is one. -/
def within {α : Type} (t : Thread) (i : Nat) (f : Apartment → Outcome Apartment α) :
    Outcome Thread (Option α) :=
  match t.guards[i]? with
  | none => ⟨none, t, []⟩
  | some a =>
    let done := f a
    ⟨some done.answer, { t with guards := t.guards.set i done.state }, done.echo⟩

/-- What a thread can do. -/
inductive Act [StoredTypes] where
  | init (config : Apartment.Config)
  | isInitialized
  | drop (guard : Nat)
  /-- Gives back a guard for its final summary. -/
  | uninit (guard : Nat)
  /-- Does something in the apartment of a guard. -/
  | call (guard : Nat) (call : Apartment.Call)

/-- The thread after an act. -/
def apply [StoredTypes] (t : Thread) (time : Nat) : Act → Thread
  | .init config => (t.init config time).state
  | .isInitialized => t
  | .drop guard => (t.drop guard time).state
  | .uninit guard => (t.uninit guard time).state
  | .call guard call => (t.within guard fun a => ⟨(), a.apply time call, []⟩).state

end Thread

/-- All threads, by number. -/
abbrev Threads := Nat → Thread

namespace Threads

/-- No thread has entered an apartment yet. -/
def fresh : Threads := fun _ => Thread.fresh

/-- The threads with the state of thread `i` replaced. -/
def set (ts : Threads) (i : Nat) (t : Thread) : Threads :=
  fun j => if j = i then t else ts j

@[simp] theorem set_self (ts : Threads) (i : Nat) (t : Thread) : ts.set i t i = t := by
  simp [set]

@[simp] theorem set_of_ne (ts : Threads) {i j : Nat} (t : Thread) (h : j ≠ i) :
    ts.set i t j = ts j := by
  simp [set, h]

/-- The threads after an act of thread `i`. -/
def apply [StoredTypes] (ts : Threads) (i time : Nat) (act : Thread.Act) : Threads :=
  ts.set i ((ts i).apply time act)

/-- The threads after a list of acts, each with its thread and its time. -/
def run [StoredTypes] (ts : Threads) (acts : List (Nat × Nat × Thread.Act)) : Threads :=
  acts.foldl (fun ts a => ts.apply a.1 a.2.1 a.2.2) ts

end Threads
end TypedBox
