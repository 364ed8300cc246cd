import TypedBox.Proofs.Unboxing
import TypedBox.Apartment.Basic

/-! # What an apartment answers

An apartment traces what is done with values, but has no say in it.  To every call
about a value it gives the answer that boxing and retrieval give without any
apartment (`answer?_eq_bareAnswer?`); all that it adds is that a refused retrieval
names its operation.  Since that answer looks at the call alone, neither the
configuration of an apartment nor what was done in it before can be told from the
answers, however many calls are made.
-/
namespace TypedBox
namespace Apartment

/-! ## Single calls -/

/-- A failure as it is reported for a retrieval in an apartment: its cause is kept,
and its context names the operation for the shape asked for, and no more. -/
def reported (asked : Shape) (e : Failure) : Failure :=
  ⟨e.cause, some ⟨some ("Get" ++ asked.name), []⟩⟩

section Calls

variable [StoredTypes] (a : Apartment) (time : Nat)

theorem answer_boxChecked (r : Except Failure Value) : (a.boxChecked time r).answer = r := by
  cases r with
  | ok v => rfl
  | error e => rfl

theorem answer_unbox (v : Value) (t : Target) :
    (a.unbox time v t).answer = (v.get t).mapError (reported t.shape) := by
  unfold unbox
  cases v.get t with
  | ok x => rfl
  | error e => rfl

theorem answer_unbox_eq_ok_iff (v : Value) (t : Target) (x : t.Native) :
    (a.unbox time v t).answer = .ok x ↔ v.get t = .ok x := by
  rw [answer_unbox]
  cases v.get t with
  | ok y => exact Iff.rfl
  | error e => exact iff_of_false (fun h => nomatch h) (fun h => nomatch h)

theorem answer_unbox_eq_error_iff (v : Value) (t : Target) (f : Failure) :
    (a.unbox time v t).answer = .error f ↔
      ∃ e, v.get t = .error e ∧ f = reported t.shape e := by
  rw [answer_unbox]
  cases v.get t with
  | ok y => exact iff_of_false (fun h => nomatch h) (fun ⟨_, h, _⟩ => nomatch h)
  | error e =>
    constructor
    · intro h
      exact ⟨e, rfl, (Except.error.inj h).symm⟩
    · rintro ⟨e', he, rfl⟩
      obtain rfl : e = e' := Except.error.inj he
      rfl

/-! ## Runs of calls -/

/-- An answer that is about a value. -/
inductive Answer where
  | value (v : Value)
  /-- A boxing that may have failed. -/
  | checked (r : Except Failure Value)
  | retrieved (t : Target) (r : Except Failure t.Native)
  | shape (s : Shape)

/-- What the apartment answers to a call about a value.  The other calls ask about
the apartment itself. -/
def answer? (a : Apartment) (time : Nat) : Call → Option Answer
  | .box v => some (.value (a.box time v).answer)
  | .boxChecked r => some (.checked (a.boxChecked time r).answer)
  | .unbox v t => some (.retrieved t (a.unbox time v t).answer)
  | .shapeOf v => some (.shape (a.shapeOf v))
  | .kind | .isTracing | .recent _ | .stats => none

/-- The answers to a list of calls, in order. -/
def answers (a : Apartment) : List (Nat × Call) → List Answer
  | [] => []
  | (time, call) :: rest => (a.answer? time call).toList ++ answers (a.apply time call) rest

/-- What is answered to a call about a value without any apartment, but for the
name that a refused retrieval is reported under. -/
def Call.bareAnswer? : Call → Option Answer
  | .box v => some (.value v)
  | .boxChecked r => some (.checked r)
  | .unbox v t => some (.retrieved t ((v.get t).mapError (reported t.shape)))
  | .shapeOf v => some (.shape v.shape)
  | .kind | .isTracing | .recent _ | .stats => none

/-- **The answer to a call comes from the call alone.** -/
theorem answer?_eq_bareAnswer? (call : Call) : a.answer? time call = call.bareAnswer? := by
  cases call with
  | box v => rfl
  | boxChecked r =>
    have h := a.answer_boxChecked time r
    rw [answer?, h, Call.bareAnswer?]
  | unbox v t =>
    have h := a.answer_unbox time v t
    rw [answer?, h, Call.bareAnswer?]
  | shapeOf v => rfl
  | kind | isTracing | recent | stats => rfl

theorem answers_eq_filterMap (a : Apartment) (calls : List (Nat × Call)) :
    a.answers calls = (calls.map Prod.snd).filterMap Call.bareAnswer? := by
  induction calls generalizing a with
  | nil => rfl
  | cons c calls ih =>
    obtain ⟨time, call⟩ := c
    rw [answers, ih, answer?_eq_bareAnswer?, List.map_cons, List.filterMap_cons]
    cases call.bareAnswer? with
    | none => rfl
    | some x => rfl

/-- **An apartment is transparent.**  In every state that it can get into under any
configuration, a boxing answers with what was boxed, a checked boxing with the
outcome that it was given, and a value has its own shape.  A retrieval succeeds
with what the retrieval without an apartment gives, and fails just when that
fails, for the same cause and with nothing but its operation as context.

Hence two apartments give the same answers to the same calls, whatever they were
configured to do, whatever was done in them before and at whatever times. -/
theorem answers_as_without_apartment (c : Config) (start : Nat) (history : List (Nat × Call)) :
    let a := (enter c start).state.run history
    (∀ time (t : Target) (x : t.Native), (a.box time (t.box x)).answer = t.box x) ∧
    (∀ time r, (a.boxChecked time r).answer = r) ∧
    (∀ v, a.shapeOf v = v.shape) ∧
    (∀ time v (t : Target),
      (∀ x, (a.unbox time v t).answer = .ok x ↔ v.get t = .ok x) ∧
      (∀ f, (a.unbox time v t).answer = .error f ↔
        ∃ e, v.get t = .error e ∧ f = ⟨e.cause, some ⟨some ("Get" ++ t.shape.name), []⟩⟩)) ∧
    (∀ (c' : Config) (start' : Nat) (history' calls calls' : List (Nat × Call)),
      calls'.map Prod.snd = calls.map Prod.snd →
        ((enter c' start').state.run history').answers calls' = a.answers calls) := by
  intro a
  refine ⟨fun _ _ _ => rfl, a.answer_boxChecked, fun _ => rfl, ?_, ?_⟩
  · intro time v t
    exact ⟨a.answer_unbox_eq_ok_iff time v t, a.answer_unbox_eq_error_iff time v t⟩
  · intro c' start' history' calls calls' hcalls
    rw [answers_eq_filterMap, answers_eq_filterMap, hcalls]

end Calls

/-- An apartment without a trace and one that traces refused retrievals only, after
something was done in it, answer alike to a boxing and a refused retrieval. -/
theorem answers_as_without_apartment_in_two :
    let traced : Config :=
      Config.standard.withTracer (Trace.Config.standard.withEnabled.withFilter ["unbox-rejected"])
    let history : List (Nat × Call) := [(1, .box (.uint8 7)), (2, .stats)]
    let calls : List (Nat × Call) :=
      [(3, .box (.boolean true)), (4, .unbox (.boolean true) (.native .int16))]
    let calls' : List (Nat × Call) :=
      [(50, .box (.boolean true)), (60, .unbox (.boolean true) (.native .int16))]
    calls'.map Prod.snd = calls.map Prod.snd ∧
      ((enter traced 0).state.run history).answers calls' =
        ((enter .standard 9).state.run []).answers calls := by
  intro traced history calls calls'
  have hcalls : calls'.map Prod.snd = calls.map Prod.snd := rfl
  obtain ⟨-, -, -, -, alike⟩ := answers_as_without_apartment .standard 9 []
  exact ⟨hcalls, alike traced 0 history calls calls' hcalls⟩

end Apartment
end TypedBox
