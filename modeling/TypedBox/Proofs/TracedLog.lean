import TypedBox.Proofs.BufferWindow
import TypedBox.Trace.Tracer

/-! # What a tracer keeps of a log

A log is the sequence of all events that a tracer is told of.  Its configuration
decides which of them are traced (`Config.traced`): none if it is not enabled,
otherwise those that pass its filter.  As long as the configuration stays as it
is, the buffer is a window on the traced part of the log (`Tracer.Follows`); an
event that is not traced changes nothing, not even the numbers given out later.
-/
namespace TypedBox
namespace Trace

namespace Config

/-- The events of a log that are traced: none without tracing, all with an empty
filter, and otherwise those whose type is in the filter. -/
def traced (c : Config) (log : List Timed) : List Timed :=
  if c.enabled = false then []
  else if c.filter = [] then log
  else log.filter fun e => e.2.type ∈ c.filter

@[simp] theorem traced_nil (c : Config) : c.traced [] = [] := by
  simp [traced]

/-- One more event in the log is one more traced event, if it is admitted. -/
theorem traced_append_singleton (c : Config) (log : List Timed) (e : Timed) :
    c.traced (log ++ [e]) =
      c.traced log ++ if (c.enabled && c.accepts e.2) = true then [e] else [] := by
  unfold traced accepts
  cases c.enabled with
  | false => simp
  | true =>
    by_cases hf : c.filter = []
    · simp [hf]
    · by_cases he : e.2.type ∈ c.filter
      · simp [hf, he]
      · simp [hf, he]

end Config

namespace Tracer

/-- The tracer has its configuration still, and shows the traced part of the
log. -/
structure Follows (t : Tracer) (c : Config) (log : List Timed) : Prop where
  config : t.config = c
  limit : t.buffer.limit = c.bufferLimit
  window : t.buffer.Window 0 (c.traced log)

variable {t : Tracer} {c : Config} {log : List Timed}

theorem follows_ofConfig (c : Config) : (ofConfig c).Follows c [] where
  config := rfl
  limit := rfl
  window := by
    rw [Config.traced_nil]
    exact Buffer.window_ofLimit c.bufferLimit

theorem Follows.record (h : t.Follows c log) (time : Nat) (e : Event) :
    (t.record time e).Follows c (log ++ [(time, e)]) := by
  -- whether the event is admitted depends on the configuration only, which never changed
  have hadmits : t.admits e = (c.enabled && c.accepts e) := by
    rw [admits, isEnabled, h.config]
  unfold Tracer.record
  split
  next ha =>
    rw [hadmits] at ha
    exact ⟨h.config, h.limit, by
      rw [c.traced_append_singleton, if_pos ha]
      exact h.window.push time e⟩
  next ha =>
    rw [hadmits] at ha
    exact ⟨h.config, h.limit, by
      rw [c.traced_append_singleton, if_neg ha, List.append_nil]
      exact h.window⟩

/-! ## What can be asked of the tracer -/

theorem Follows.kept (h : t.Follows c log) :
    t.buffer.toList = (numbered 0 (c.traced log)).rtake c.bufferLimit := by
  rw [h.window.kept, h.limit]

theorem Follows.size (h : t.Follows c log) :
    t.buffer.size = min (c.traced log).length c.bufferLimit := by
  rw [h.window.size, h.limit]

theorem Follows.stats (h : t.Follows c log) :
    t.stats = ⟨min (c.traced log).length c.bufferLimit, c.bufferLimit, (c.traced log).length,
      .ofRecords ((numbered 0 (c.traced log)).rtake c.bufferLimit)⟩ := by
  rw [Tracer.stats, h.window.stats, h.limit, h.kept, Nat.zero_add]

end Tracer
end Trace
end TypedBox
