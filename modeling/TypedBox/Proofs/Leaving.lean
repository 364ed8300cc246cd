import TypedBox.Proofs.Echo
import TypedBox.Proofs.StayLog

/-! # What leaving an apartment reports

The last event of an apartment tells a number of records.  It is the number of those
that the buffer still holds at that moment.  As long as the limit of the buffer leaves
room for all, these are the records traced so far (`Follows.reported`); once some were
evicted, the report falls short of them, and a buffer without any room reports none.

The event itself is traced once, by either way out, and echoed with the number that it
is given.
-/
namespace TypedBox

open Trace (Event Record Timed)

namespace Apartment

variable {a : Apartment} {c : Config} {log : List Timed}

/-- What is reported is the smaller of the number of traced records and the limit. -/
theorem Follows.reported (h : a.Follows c log) :
    a.stats.records = min a.stats.pushed c.tracer.bufferLimit := by
  have hpushed : a.stats.pushed = (c.tracer.traced log).length :=
    congrArg Trace.Stats.pushed h.tracer.stats
  rw [hpushed]
  exact h.tracer.size

/-- The event of leaving, with what it reports. -/
def leavingEvent (a : Apartment) : Event := .uninitialized a.stats.records

theorem Follows.admits_leavingEvent (h : a.Follows c log) (enabled : c.tracer.enabled = true)
    (passes : c.tracer.filter = [] ∨ "apartment-uninit" ∈ c.tracer.filter) :
    a.tracer.admits a.leavingEvent = true := by
  rw [Trace.Tracer.admits_iff, Trace.Tracer.isEnabled, h.tracer.config]
  exact ⟨enabled, passes⟩

variable (hopen : a.closed = false) (hadmits : a.tracer.admits a.leavingEvent = true) (time : Nat)
include hopen hadmits

theorem buffer_close :
    (a.close time).state.tracer.buffer = a.tracer.buffer.push time a.leavingEvent := by
  rw [close_of_open hopen]
  exact congrArg Trace.Tracer.buffer (Trace.Tracer.record_of_admits hadmits time)

theorem echo_close :
    (a.close time).echo =
      if a.tracer.config.output = .errorStream then [⟨a.stats.pushed, time, a.leavingEvent⟩]
      else [] := by
  rw [close_of_open hopen]
  change a.tracer.echo time a.leavingEvent = _
  rw [Trace.Tracer.echo_eq_pushed]
  simp only [hadmits, true_and]
  rfl

end Apartment

namespace Thread

variable {t : Thread} {c : Apartment.Config}

/-- **Leaving reports the records that are kept**, after a successful entering under a
configuration that traces the leaving, and after whatever is done then.

* The report is the smaller of the number of records traced so far and the limit of
  the buffer.  So it is the number of traced records just when the limit leaves room
  for all of them.
* By either way out the report is traced once, behind all other records, and echoed
  once if lines go to the error stream. -/
theorem leaving_reports_kept [StoredTypes] {start : Nat}
    (entered : (t.init c start).answer = .ok ()) (enabled : c.tracer.enabled = true)
    (passes : c.tracer.filter = [] ∨ "apartment-uninit" ∈ c.tracer.filter)
    (stays : List (Nat × Stay)) :
    let guard := t.guards.length
    let inside := (t.init c start).state.run (stays.map fun s => (s.1, s.2.act guard))
    let limit := c.tracer.bufferLimit
    ∃ a : Apartment, inside.guards[guard]? = some a ∧
      let traced := a.stats.pushed
      traced = (c.tracer.traced ((start, .initialized c.kind) :: stayLog stays)).length ∧
      (min traced limit = traced ↔ traced ≤ limit) ∧
      ∀ stop,
        let report : Event := .uninitialized (min traced limit)
        (a.close stop).state.tracer.buffer = a.tracer.buffer.push stop report ∧
        (inside.uninit guard stop).answer = some (a.tracer.buffer.push stop report).stats ∧
        (inside.uninit guard stop).echo = (inside.drop guard stop).echo ∧
        (inside.drop guard stop).echo =
          if c.tracer.output = .errorStream then [⟨traced, stop, report⟩] else [] := by
  intro guard inside limit
  have hinside : inside.Inside guard c ((start, .initialized c.kind) :: stayLog stays) :=
    (inside_init entered).run stays
  obtain ⟨a, hguard, hopen, ha⟩ := hinside.holds
  refine ⟨a, hguard, ?_⟩
  intro traced
  have hroom : min traced limit = traced ↔ traced ≤ limit := by omega
  refine ⟨congrArg Trace.Stats.pushed ha.tracer.stats, hroom, ?_⟩
  intro stop report
  have hreport : a.leavingEvent = report := congrArg Event.uninitialized ha.reported
  have hadmits := ha.admits_leavingEvent enabled passes
  have hbuffer : (a.close stop).state.tracer.buffer = a.tracer.buffer.push stop report := by
    rw [Apartment.buffer_close hopen hadmits, hreport]
  refine ⟨hbuffer, ?_, ?_, ?_⟩
  · rw [uninit_eq_close hguard]
    exact congrArg (fun b => some b.stats) hbuffer
  · rw [uninit_eq_close hguard, echo_drop hguard]
  · rw [echo_drop hguard, Apartment.echo_close hopen hadmits, ha.tracer.config, hreport]

/-- Two boxings, which the filter lets pass, in a buffer for two: both are kept, and
both are reported. -/
theorem leaving_reports_kept_in_full_buffer :
    let c : Apartment.Config := Apartment.Config.standard.withTracer
      ⟨true, 2, .errorStream, ["value-boxed", "apartment-uninit"]⟩
    let stays : List (Nat × Stay) :=
      [(20, .call (.box (.boolean true))), (30, .call (.unbox (.boolean true) (.native .uint8))),
       (40, .call (.box (.uint8 7)))]
    let inside := (fresh.init c 10).state.run (stays.map fun s => (s.1, s.2.act 0))
    (fresh.init c 10).answer = .ok () ∧ c.tracer.enabled = true ∧
      "apartment-uninit" ∈ c.tracer.filter ∧
      (inside.drop 0 50).echo = [⟨2, 50, .uninitialized 2⟩] := by
  intro c stays inside
  have entered : (fresh.init c 10).answer = .ok () := rfl
  have passes : "apartment-uninit" ∈ c.tracer.filter := by decide
  obtain ⟨a, hguard, htraced, -, leaving⟩ :=
    leaving_reports_kept entered rfl (.inr passes) stays
  have htwo : a.stats.pushed = 2 := htraced
  obtain ⟨-, -, -, echoed⟩ := leaving 50
  rw [htwo] at echoed
  exact ⟨entered, rfl, passes, echoed⟩

/-- **The report can fall short of what was traced.**  In a buffer for one record the
boxing evicts the entering: two records were traced, and one is reported. -/
theorem leaving_reports_fewer_than_traced :
    let c : Apartment.Config :=
      Apartment.Config.standard.withTracer ⟨true, 1, .errorStream, []⟩
    let stays : List (Nat × Stay) := [(20, .call (.box (.boolean true)))]
    let inside := (fresh.init c 10).state.run (stays.map fun s => (s.1, s.2.act 0))
    ∃ a : Apartment, inside.guards[0]? = some a ∧ a.stats.pushed = 2 ∧
      (a.close 30).state.tracer.buffer.toList = [⟨2, 30, .uninitialized 1⟩] ∧
      (inside.uninit 0 30).echo = [⟨2, 30, .uninitialized 1⟩] :=
  ⟨_, rfl, rfl, by decide +kernel, by decide +kernel⟩

end Thread
end TypedBox
