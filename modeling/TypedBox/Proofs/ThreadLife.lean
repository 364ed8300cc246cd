import TypedBox.Apartment.Thread
import TypedBox.Proofs.ApartmentLog

/-! # A thread and its guard

The marker of a thread and the guards that it holds are set and cleared by
different operations, at different moments.  What keeps them together is that a
thread is only ever in one of two situations (`Thread.Sound`): away, as if it had
never entered an apartment, or inside, with the marker set and one guard of an
apartment that was not left.  Every act leads from one of them to one of them,
whatever the threads do and in whatever order.

In particular a thread that gives its guard back is as fresh as at the start, and
since threads share nothing (`Threads.run_apply`), all that follows is what would
follow at the start.
-/
namespace TypedBox

open Trace (Timed)
open Apartment (Outcome)

namespace Thread

section Acts

variable [StoredTypes]

/-- The thread after a list of acts, each with its time. -/
def run (t : Thread) (acts : List (Nat × Act)) : Thread :=
  acts.foldl (fun t a => t.apply a.1 a.2) t

@[simp] theorem run_nil (t : Thread) : t.run [] = t := rfl

@[simp] theorem run_cons (t : Thread) (a : Nat × Act) (acts : List (Nat × Act)) :
    t.run (a :: acts) = (t.apply a.1 a.2).run acts := rfl

end Acts

/-! ## Away or inside -/

/-- The thread is away from every apartment, or inside the one whose guard it
holds. -/
inductive Sound : Thread → Prop
  | away : Sound fresh
  | inside {a : Apartment} (isOpen : a.closed = false) : Sound ⟨true, [a]⟩

/-- A thread that is away enters what it asks for. -/
theorem init_fresh (c : Apartment.Config) (time : Nat) :
    fresh.init c time =
      ⟨.ok (), ⟨true, [(Apartment.enter c time).state]⟩, (Apartment.enter c time).echo⟩ := rfl

/-- A thread that is inside is refused and stays as it is. -/
theorem init_of_live {t : Thread} (h : t.live = true) (c : Apartment.Config) (time : Nat) :
    t.init c time = ⟨.error (.ofCause .alreadyInitialized), t, []⟩ := by
  rw [init, if_pos h]

/-- Both routes out leave the same thread behind. -/
theorem state_uninit (t : Thread) (guard time : Nat) :
    (t.uninit guard time).state = (t.drop guard time).state := by
  rw [uninit, drop]
  cases t.guards[guard]? <;> rfl

variable {t : Thread}

theorem Sound.init (h : t.Sound) (c : Apartment.Config) (time : Nat) :
    (t.init c time).state.Sound := by
  cases h with
  | away => exact .inside rfl
  | inside isOpen => exact .inside isOpen

theorem Sound.drop (h : t.Sound) (guard time : Nat) : (t.drop guard time).state.Sound := by
  cases h with
  | away => exact .away
  | inside isOpen =>
    cases guard with
    | zero => exact .away
    | succ guard => exact .inside isOpen

theorem Sound.uninit (h : t.Sound) (guard time : Nat) : (t.uninit guard time).state.Sound := by
  rw [state_uninit]
  exact h.drop guard time

/-- Every act keeps a thread away or inside. -/
theorem Sound.apply [StoredTypes] (h : t.Sound) (time : Nat) (act : Act) :
    (t.apply time act).Sound := by
  cases act with
  | init c => exact h.init c time
  | isInitialized => exact h
  | drop guard => exact h.drop guard time
  | uninit guard => exact h.uninit guard time
  | call guard call =>
    cases h with
    | away => exact .away
    | @inside a isOpen =>
      -- there is one guard, number zero; all others do nothing
      cases guard with
      | zero => exact .inside ((Apartment.closed_apply a time call).trans isOpen)
      | succ guard => exact .inside isOpen

theorem Sound.run [StoredTypes] (h : t.Sound) (acts : List (Nat × Act)) : (t.run acts).Sound := by
  induction acts generalizing t with
  | nil => exact h
  | cons a acts ih =>
    rw [run_cons]
    exact ih (h.apply a.1 a.2)

/-! ## What the marker tells -/

theorem Sound.length_guards_le (h : t.Sound) : t.guards.length ≤ 1 := by
  cases h with
  | away => exact Nat.zero_le 1
  | inside => exact Nat.le_refl 1

theorem Sound.isInitialized_iff (h : t.Sound) :
    t.isInitialized = true ↔ ∃ a ∈ t.guards, a.closed = false := by
  cases h with
  | away => simp [Thread.isInitialized, fresh]
  | inside isOpen => simp [Thread.isInitialized, isOpen]

theorem Sound.init_ok_iff (h : t.Sound) (c : Apartment.Config) (time : Nat) :
    (t.init c time).answer = .ok () ↔ t.guards = [] := by
  cases h with
  | away => exact iff_of_true rfl rfl
  | inside => exact iff_of_false (by simp [init_of_live]) (List.cons_ne_nil _ _)

/-- An entering that succeeds makes an apartment in which nothing but this
entering was ever traced. -/
theorem Sound.init_ok (h : t.Sound) {c : Apartment.Config} {time : Nat}
    (hok : (t.init c time).answer = .ok ()) :
    ∃ a : Apartment, (t.init c time).state = ⟨true, [a]⟩ ∧
      a.Follows c [(time, .initialized c.kind)] := by
  cases h with
  | away => exact ⟨_, rfl, Apartment.follows_enter c time⟩
  | inside => simp [init_of_live] at hok

/-- A refused entering changes nothing. -/
theorem init_error {c : Apartment.Config} {time : Nat} {e : Failure}
    (h : (t.init c time).answer = .error e) :
    e = ⟨.alreadyInitialized, none⟩ ∧ t.isInitialized = true ∧ (t.init c time).state = t := by
  by_cases hlive : t.live = true
  · rw [init_of_live hlive] at h ⊢
    obtain rfl := Except.error.inj h
    exact ⟨rfl, hlive, rfl⟩
  · rw [Thread.init, if_neg hlive] at h
    cases h

/-- By either route a thread that gives its guard back is fresh again. -/
theorem Sound.apply_leaving [StoredTypes] (h : t.Sound) {guard : Nat}
    (hguard : guard < t.guards.length) (time : Nat) {act : Act}
    (hact : act = .drop guard ∨ act = .uninit guard) :
    t.apply time act = fresh := by
  cases h with
  | away => exact absurd hguard (Nat.not_lt_zero guard)
  | inside =>
    obtain rfl : guard = 0 := Nat.lt_one_iff.mp hguard
    rcases hact with rfl | rfl <;> rfl

end Thread

namespace Threads

section Runs

variable [StoredTypes]

/-! ## Threads share nothing -/

/-- The acts of one thread among those of all threads. -/
def own (i : Nat) (acts : List (Nat × Nat × Thread.Act)) : List (Nat × Thread.Act) :=
  acts.filterMap fun a => if a.1 = i then some a.2 else none

theorem apply_of_ne (ts : Threads) {i j : Nat} (h : j ≠ i) (time : Nat) (act : Thread.Act) :
    ts.apply j time act i = ts i :=
  set_of_ne ts _ (Ne.symm h)

/-- **What all threads do, one thread sees only its own part of.** -/
theorem run_apply (ts : Threads) (acts : List (Nat × Nat × Thread.Act)) (i : Nat) :
    ts.run acts i = (ts i).run (own i acts) := by
  induction acts generalizing ts with
  | nil => rfl
  | cons a acts ih =>
    obtain ⟨j, time, act⟩ := a
    change (ts.apply j time act).run acts i = _
    rw [ih]
    -- an act of another thread is none of the own ones, and leaves this thread alone
    by_cases hj : j = i
    · subst hj
      simp [own, Threads.apply]
    · rw [apply_of_ne ts hj]
      simp [own, hj]

/-- Whatever the threads have done, each of them is away or inside. -/
theorem run_sound (acts : List (Nat × Nat × Thread.Act)) (i : Nat) :
    (fresh.run acts i).Sound := by
  rw [run_apply]
  exact Thread.Sound.away.run (own i acts)

/-- **The marker of a thread tells whether it holds a guard**, in every state that
the threads can reach by entering and leaving apartments in any order.

* A thread holds at most one guard, its marker is set exactly while it holds one of
  an apartment that was not left, and it can enter exactly while it holds none.
* A refused entering fails without context and leaves the thread as it was, its
  apartment and its trace included.
* Once the guard is given back, by either route, the thread can enter again, and
  whatever is done from then on has the outcome that it would have at the start.
* An apartment that was entered shows its own entering only, under the
  configuration that it was entered with.
* Acts of other threads change nothing here. -/
theorem marker_tells_the_guard (acts : List (Nat × Nat × Thread.Act)) (i : Nat) :
    let ts := fresh.run acts
    ((ts i).guards.length ≤ 1 ∧
      ((ts i).isInitialized = true ↔ ∃ a ∈ (ts i).guards, a.closed = false) ∧
      ∀ c time, ((ts i).init c time).answer = .ok () ↔ (ts i).guards = []) ∧
    (∀ c time e, ((ts i).init c time).answer = .error e →
      e = ⟨.alreadyInitialized, none⟩ ∧ (ts i).isInitialized = true ∧
        ((ts i).init c time).state = ts i) ∧
    (∀ guard time act, guard < (ts i).guards.length →
      (act = .drop guard ∨ act = .uninit guard) →
        (∀ c later, ((ts.apply i time act i).init c later).answer = .ok ()) ∧
        ∀ rest, (ts.apply i time act).run rest i = fresh.run rest i) ∧
    (∀ c time, ((ts i).init c time).answer = .ok () →
      ∃ a : Apartment, ((ts i).init c time).state = ⟨true, [a]⟩ ∧ a.kind = c.kind ∧
        a.tracer.config = c.tracer ∧
        let traced := c.tracer.traced [(time, .initialized c.kind)]
        a.tracer.buffer.toList = (Trace.numbered 0 traced).rtake c.tracer.bufferLimit ∧
        a.stats.pushed = traced.length) ∧
    (∀ j time act, j ≠ i → ts.apply j time act i = ts i) ∧
    ts i = Thread.fresh.run (own i acts) := by
  intro ts
  have hsound : (ts i).Sound := run_sound acts i
  refine ⟨⟨hsound.length_guards_le, hsound.isInitialized_iff, hsound.init_ok_iff⟩,
    fun c time e h => Thread.init_error h, ?leaving, ?entering,
    fun j time act hj => apply_of_ne ts hj time act, run_apply fresh acts i⟩
  case leaving =>
    intro guard time act hguard hact
    -- once fresh again, the thread is the one that all runs start with
    have hfresh : ts.apply i time act i = Thread.fresh := by
      rw [Threads.apply, set_self]
      exact hsound.apply_leaving hguard time hact
    constructor
    · intro c later
      rw [hfresh, Thread.init_fresh]
    · intro rest
      rw [run_apply, run_apply, hfresh]
      rfl
  case entering =>
    intro c time hok
    obtain ⟨a, hstate, ha⟩ := hsound.init_ok hok
    exact ⟨a, hstate, ha.kind, ha.tracer.config, ha.tracer.kept,
      congrArg Trace.Stats.pushed ha.tracer.stats⟩

end Runs

/-- Two threads are inside, one of them is refused a second apartment, leaves the
first one and enters again, as if for the first time. -/
theorem marker_tells_the_guard_of_two_threads :
    let acts : List (Nat × Nat × Thread.Act) :=
      [(0, 10, .init (Apartment.Config.ofKind .singleThreaded).withTracing),
       (1, 20, .init .standard)]
    let ts := fresh.run acts
    let later : List (Nat × Nat × Thread.Act) := [(1, 50, .drop 0), (0, 60, .init .standard)]
    ((ts 0).init .standard 30).answer = .error ⟨.alreadyInitialized, none⟩ ∧
      ((ts 0).init .standard 30).state = ts 0 ∧
      0 < (ts 0).guards.length ∧
      (ts.apply 0 40 (.uninit 0)).run later 0 = fresh.run later 0 := by
  intro acts ts later
  have hrefused : ((ts 0).init .standard 30).answer = .error ⟨.alreadyInitialized, none⟩ := rfl
  have hguard : 0 < (ts 0).guards.length := Nat.zero_lt_one
  obtain ⟨-, refused, leaving, -⟩ := marker_tells_the_guard acts 0
  exact ⟨hrefused, (refused .standard 30 _ hrefused).2.2, hguard,
    (leaving 0 40 (.uninit 0) hguard (.inr rfl)).2 later⟩

end Threads
end TypedBox
