import TypedBox.Proofs.ThreadLife

/-! # The trace of a stay

A thread that has entered an apartment does things in it, tries in vain to enter
another one, and at last leaves.  `Stay` has what it can do in between, and
`stayLog` reads off which events that is.  At every moment the apartment shows the
end of the traced part of this log, and leaving adds one event to it, however
often the apartment is closed on the way out.
-/
namespace TypedBox

open Trace (Timed)

/-- What a thread can do between entering an apartment and leaving it. -/
inductive Stay [StoredTypes] where
  /-- Does something in the apartment. -/
  | call (call : Apartment.Call)
  /-- Tries to enter another apartment. -/
  | init (config : Apartment.Config)
  /-- Looks at the marker. -/
  | isInitialized

namespace Stay

variable [StoredTypes]

/-- What is done in the apartment is done through its guard. -/
def act (guard : Nat) : Stay → Thread.Act
  | call c => .call guard c
  | init config => .init config
  | isInitialized => .isInitialized

/-- The events of something done at a time.  A call may be one event; all else is
none. -/
def timed (time : Nat) : Stay → List Timed
  | call c => c.timed time
  | init _ | isInitialized => []

end Stay

/-- The events of all that is done, in order. -/
def stayLog [StoredTypes] (stays : List (Nat × Stay)) : List Timed :=
  stays.flatMap fun s => s.2.timed s.1

namespace Thread

/-- The thread is inside the apartment of a guard, whose tracer has followed the
log. -/
structure Inside (t : Thread) (guard : Nat) (c : Apartment.Config) (log : List Timed) : Prop where
  live : t.live = true
  holds : ∃ a : Apartment, t.guards[guard]? = some a ∧ a.closed = false ∧ a.Follows c log

variable {t : Thread} {guard : Nat} {c : Apartment.Config} {log : List Timed}

theorem inside_init {start : Nat} (entered : (t.init c start).answer = .ok ()) :
    (t.init c start).state.Inside t.guards.length c [(start, .initialized c.kind)] := by
  by_cases hlive : t.live = true
  · rw [init_of_live hlive] at entered
    cases entered
  · have hstate : (t.init c start).state =
        ⟨true, t.guards ++ [(Apartment.enter c start).state]⟩ := by
      rw [Thread.init, if_neg hlive]
    rw [hstate]
    exact ⟨rfl, _, List.getElem?_concat_length, rfl, Apartment.follows_enter c start⟩

/-- Whatever is done, the thread stays inside, and its log grows by the events of
what is done. -/
theorem Inside.apply [StoredTypes] (h : t.Inside guard c log) (time : Nat) (s : Stay) :
    (t.apply time (s.act guard)).Inside guard c (log ++ s.timed time) := by
  cases s with
  | call call =>
    obtain ⟨a, hguard, hopen, ha⟩ := h.holds
    have hstate : t.apply time (.call guard call) =
        { t with guards := t.guards.set guard (a.apply time call) } := by
      simp only [Thread.apply, within, hguard]
    rw [Stay.act, hstate]
    refine ⟨h.live, a.apply time call, ?_, ?_, ha.apply time call⟩
    · have hlt : guard < t.guards.length := (List.getElem?_eq_some_iff.mp hguard).1
      exact List.getElem?_set_self hlt
    · rw [Apartment.closed_apply, hopen]
  | init config =>
    -- the marker is set, so that entering is refused
    have hstate : t.apply time (.init config) = t := by
      rw [Thread.apply, init_of_live h.live]
    rw [Stay.act, hstate, Stay.timed, List.append_nil]
    exact h
  | isInitialized =>
    rw [Stay.timed, List.append_nil]
    exact h

theorem Inside.run [StoredTypes] (h : t.Inside guard c log) (stays : List (Nat × Stay)) :
    (t.run (stays.map fun s => (s.1, s.2.act guard))).Inside guard c (log ++ stayLog stays) := by
  induction stays generalizing t log with
  | nil => simpa [stayLog] using h
  | cons s stays ih =>
    rw [stayLog, List.flatMap_cons, ← List.append_assoc, List.map_cons, run_cons]
    exact ih (h.apply s.1 s.2)

/-! ## Leaving -/

/-- Leaving closes the apartment twice; the second time nothing happens, so that
the final summary and the lines that are echoed are those of closing it once. -/
theorem uninit_eq_close {a : Apartment} (hguard : t.guards[guard]? = some a) (time : Nat) :
    t.uninit guard time =
      ⟨some (a.close time).state.stats, t.release guard, (a.close time).echo⟩ := by
  simp only [Thread.uninit, hguard, Apartment.uninit]
  rw [Apartment.close_of_closed (Apartment.closed_close a time)]
  simp [Apartment.unchanged]

theorem echo_drop {a : Apartment} (hguard : t.guards[guard]? = some a) (time : Nat) :
    (t.drop guard time).echo = (a.close time).echo := by
  simp only [Thread.drop, hguard]

/-- **The trace of a stay.**  After a successful entering, and after whatever is done
then, the buffer shows the last traced events of the log, as many as its limit
allows and each with its place among all traced events; the summary counts all of
them; the latest records are the end of what the buffer shows.  Leaving adds one
more event to the log, which is traced once. -/
theorem trace_of_stay [StoredTypes] {start : Nat}
    (entered : (t.init c start).answer = .ok ()) (stays : List (Nat × Stay)) :
    let guard := t.guards.length
    let inside := (t.init c start).state.run (stays.map fun s => (s.1, s.2.act guard))
    let limit := c.tracer.bufferLimit
    let log := (start, .initialized c.kind) :: stayLog stays
    let traced := c.tracer.traced log
    ∃ a : Apartment, inside.guards[guard]? = some a ∧ a.kind = c.kind ∧
      a.isTracing = c.tracer.enabled ∧
      a.tracer.buffer.toList = (Trace.numbered 0 traced).rtake (min traced.length limit) ∧
      a.stats = ⟨min traced.length limit, limit, traced.length,
        .ofRecords a.tracer.buffer.toList⟩ ∧
      (∀ n, a.recent n = a.tracer.buffer.toList.rtake n) ∧
      ∀ stop,
        let whole := c.tracer.traced (log ++ [(stop, .uninitialized (min traced.length limit))])
        (inside.uninit guard stop).answer =
          some ⟨min whole.length limit, limit, whole.length,
            .ofRecords ((Trace.numbered 0 whole).rtake limit)⟩ ∧
        (inside.uninit guard stop).echo = (inside.drop guard stop).echo := by
  intro guard inside limit log traced
  have hinside : inside.Inside guard c log := (inside_init entered).run stays
  obtain ⟨a, hguard, hopen, ha⟩ := hinside.holds
  have htracer := ha.tracer
  refine ⟨a, hguard, ha.kind, ?_, ?_, ?_, fun n => ?_, fun stop => ⟨?_, ?_⟩⟩
  · rw [Apartment.isTracing, Trace.Tracer.isEnabled, htracer.config]
  · rw [htracer.kept, ← Trace.length_numbered 0 traced, Trace.rtake_min_length]
  · rw [htracer.kept]
    exact htracer.stats
  · exact Trace.Buffer.recent_eq_rtake a.tracer.buffer n
  · -- the size that the last event tells is the number of records shown before it
    have hclose := ha.close hopen stop
    rw [htracer.size] at hclose
    rw [uninit_eq_close hguard]
    exact congrArg some hclose.tracer.stats
  · rw [uninit_eq_close hguard, echo_drop hguard]

/-- Three traced events in a buffer for two: a retrieval refused, after a boxing
and another entering refused. -/
theorem trace_of_stay_in_small_buffer :
    let c : Apartment.Config :=
      Apartment.Config.standard.withTracer (Trace.Config.standard.withEnabled.withBufferLimit 2)
    let stays : List (Nat × Stay) :=
      [(20, .call (.box (.boolean true))), (30, .init .standard),
       (40, .call (.unbox (.boolean true) (.native .uint8)))]
    (fresh.init c 10).answer = .ok () ∧
      ∃ a : Apartment,
        ((fresh.init c 10).state.run (stays.map fun s => (s.1, s.2.act 0))).guards[0]? = some a ∧
        a.stats.pushed = 3 ∧
        a.tracer.buffer.toList =
          [⟨1, 20, .boxed .boolean⟩, ⟨2, 40, .rejected .uint8 .boolean⟩] := by
  intro c stays
  have entered : (fresh.init c 10).answer = .ok () := rfl
  obtain ⟨a, hguard, -, -, hkept, hstats, -⟩ := trace_of_stay entered stays
  exact ⟨entered, a, hguard, congrArg Trace.Stats.pushed hstats, hkept⟩

end Thread
end TypedBox
