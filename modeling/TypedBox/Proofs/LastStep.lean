import Mathlib.Data.List.Induction

/-! # The last step decides

Configurations and contexts are built by steps, some of which give a field its value
while all others leave it alone.  Then the field has the value of the last step that
gives one, whatever stands between, and what it was at the start if no step gives one
(`field_foldl`).
-/
namespace TypedBox

variable {σ τ β : Type} {apply : σ → τ → σ} {gives? : τ → Option β}

/-- The value of the last step that gives one. -/
def lastGiven (gives? : τ → Option β) (steps : List τ) : Option β :=
  (steps.filterMap gives?).getLast?

theorem lastGiven_append (gives? : τ → Option β) (steps more : List τ) :
    lastGiven gives? (steps ++ more) = (lastGiven gives? more).or (lastGiven gives? steps) := by
  rw [lastGiven, List.filterMap_append, List.getLast?_append]
  rfl

@[simp] theorem lastGiven_append_singleton (gives? : τ → Option β) (steps : List τ) (s : τ) :
    lastGiven gives? (steps ++ [s]) = (gives? s).or (lastGiven gives? steps) := by
  rw [lastGiven_append]
  cases h : gives? s <;> simp [lastGiven, h]

/-- A field that may be empty is what the last step gives, or else what it was. -/
theorem field?_foldl {field? : σ → Option β}
    (hstep : ∀ c s, field? (apply c s) = (gives? s).or (field? c)) (c : σ) (steps : List τ) :
    field? (steps.foldl apply c) = (lastGiven gives? steps).or (field? c) := by
  induction steps using List.reverseRecOn with
  | nil => rfl
  | append_singleton steps s ih =>
    rw [List.foldl_append, lastGiven_append_singleton, Option.or_assoc, ← ih]
    exact hstep _ s

/-- **A field is what the last step that gives it a value says**, whatever stands
between the steps that do. -/
theorem field_foldl {field : σ → β}
    (hstep : ∀ c s, field (apply c s) = (gives? s).getD (field c)) (c : σ) (steps : List τ) :
    field (steps.foldl apply c) = (lastGiven gives? steps).getD (field c) := by
  -- the field as one that may be empty, but never is
  let field? (c : σ) : Option β := some (field c)
  have hstep? : ∀ c s, field? (apply c s) = (gives? s).or (field? c) := by
    intro c s
    rw [Option.or_some, ← hstep]
  have hlast := field?_foldl hstep? c steps
  rw [Option.or_some] at hlast
  exact Option.some.inj hlast

end TypedBox
