import TypedBox.Proofs.HandleFlow

/-! # Names that have a meaning

A command has an outcome just when every name that it looks up has a meaning.  `Command.names`
reads the names off the command; the only thing of the session that matters besides is whether
there is an apartment, since some commands look at nothing without one (`Command.isBound`).

So a history runs to its end just when each of its commands finds its names, in the session
that those before it lead to (`isSome_run`).
-/
namespace TypedBox
namespace Session

variable [StoredTypes]

/-- There is something at the place. -/
def has (s : Session) : Place → Bool
  | .value name => (s.values name).isSome
  | .object name => (s.objects name).isSome
  | .shared name => (s.shared name).isSome

/-! ## The names in a command -/

/-- The names in described contents. -/
def ContentSpec.names : ContentSpec → List Place
  | .given _ => []
  | .object name => [.object name]
  | .value name => [.value name]

/-- The names in the description of an object. -/
def ObjectSpec.names : ObjectSpec → List Place
  | .ofContent spec => spec.names
  | .handle name => [.object name]
  | .shared name => [.shared name]

/-- The names in what is to be boxed. -/
def ValueSpec.names : ValueSpec → List Place
  | .object spec => spec.names
  | .stored name => [.value name]
  | .integer .. | .character _ | .rounded _ | .native _ => []

/-- The names that a command looks up.  What is boxed no times is not looked at. -/
def Command.names : Command → List Place
  | .create _ spec | .box _ spec | .boxMany (_ + 1) spec => spec.names
  | .share _ spec => spec.names
  | .makeObject _ spec => spec.names
  | .clone _ source | .takeObject _ source | .wrap _ source _ | .unwrap _ source => [.value source]
  | .shapeOf name | .unbox name _ | .get name .. | .inspect name => [.value name]
  | .compare a b => [.value a, .value b]
  | .lookInto object _ | .holds object _ => [.object object]
  | .compareObjects a b => [.object a, .object b]
  | .boxMany 0 _ | .init _ | .isInitialized | .uninit | .drop | .recent _ | .stats | .describe
  | .spawn | .join => []

/-- The command is for values in an apartment: without one it looks up nothing. -/
def Command.isInside : Command → Bool
  | .box .. | .boxMany .. | .shapeOf _ | .unbox .. => true
  | _ => false

/-- Every name that the command looks up has a meaning. -/
def Command.isBound (s : Session) (c : Command) : Bool :=
  (c.isInside && s.apartment?.isNone) || c.names.all s.has

/-- Every command finds its names, in the session that those before it lead to. -/
def bound (s : Session) : List (Nat × Command) → Bool
  | [] => true
  | (time, c) :: rest => c.isBound s && (s.step time c).all fun o => bound o.state rest

/-! ## Specifications -/

variable {s s' : Session}

theorem isSome_content? (s : Session) (spec : ContentSpec) :
    (s.content? spec).isSome = spec.names.all s.has := by
  cases spec <;> simp [content?, ContentSpec.names, has, Option.isSome_bind]

theorem isSome_buildObject (s : Session) (spec : ObjectSpec) :
    (s.buildObject spec).isSome = spec.names.all s.has := by
  cases spec with
  | ofContent spec =>
    simp [buildObject, ObjectSpec.names, Option.isSome_bind, isSome_content?]
  | handle | shared => simp [buildObject, ObjectSpec.names, has, Option.isSome_bind]

/-- Boxing may fail, but not for a name. -/
theorem isSome_build (s : Session) (spec : ValueSpec) :
    (s.build spec).isSome = spec.names.all s.has := by
  cases spec with
  | object spec => simp [build, ValueSpec.names, Option.isSome_bind, isSome_buildObject]
  | stored name => simp [build, ValueSpec.names, has, Option.isSome_bind]
  | integer | character | rounded | native => rfl

/-- Building something changes no name. -/
theorem has_build {spec : ValueSpec} {r : Except Failure Value}
    (h : s.build spec = some (r, s')) : s'.has = s.has := by
  obtain rfl | rfl := state_build h
  · rfl
  · funext p
    cases p <;> rfl

/-- What can be boxed once can be boxed any number of times. -/
theorem isSome_boxTimes (time : Nat) (spec : ValueSpec) (count : Nat) (s : Session)
    (a : Apartment) (echo : Array Trace.Record) :
    (boxTimes time spec count s a echo).isSome =
      (Command.boxMany count spec).names.all s.has := by
  induction count generalizing s a echo with
  | zero => rfl
  | succ count ih =>
    rw [boxTimes, Command.names, ← isSome_build]
    cases hbuild : s.build spec with
    | none => rfl
    | some built =>
      obtain ⟨r, s'⟩ := built
      have hnames : spec.names.all s'.has = true := by
        rw [has_build hbuild, ← isSome_build, hbuild, Option.isSome_some]
      change (boxTimes time spec count s' _ _).isSome = true
      rw [ih]
      cases count with
      | zero => rfl
      | succ count => exact hnames

/-! ## Commands and histories -/

/-- A value is looked up if there is an apartment. -/
theorem isSome_withValue {α : Type} (s : Session) (name : String)
    (f : Value → Apartment → Apartment.Outcome Apartment α) (reply : α → Reply) :
    (s.withValue name f reply).isSome = (s.apartment?.isNone || s.has (.value name)) := by
  unfold withValue
  split
  case isTrue hout => simp [hout]
  case isFalse hin => simp [has, hin, Option.isSome_bind]

/-- **A command has an outcome just when its names have a meaning.** -/
theorem isSome_step (s : Session) (time : Nat) (c : Command) :
    (s.step time c).isSome = c.isBound s := by
  unfold Command.isBound
  cases c with
  | create name spec =>
    simp [step, Command.isInside, Command.names, Option.isSome_bind, isSome_build]
  | box name spec =>
    rw [step, box, Command.names, ← isSome_build]
    cases s.apartment? <;> simp [Command.isInside, Option.isSome_bind]
  | boxMany count spec =>
    rw [step, boxMany]
    cases s.apartment? <;> simp [Command.isInside, Option.isSome_bind, isSome_boxTimes]
  | shapeOf | unbox => simp [step, Command.isInside, Command.names, isSome_withValue]
  | share name spec =>
    simp [step, Command.isInside, Command.names, Option.isSome_bind, isSome_content?]
  | makeObject name spec =>
    simp [step, Command.isInside, Command.names, Option.isSome_bind, isSome_buildObject]
  | takeObject name source =>
    -- whether the value is an object decides on the reply only
    cases hv : s.values source with
    | none => simp [step, Command.isInside, Command.names, has, hv]
    | some v =>
      cases hget : v.getObject <;> simp [step, Command.isInside, Command.names, has, hv, hget]
  | compare a b =>
    cases ha : s.values a <;>
      simp [step, Command.isInside, Command.names, has, Option.isSome_bind, ha]
  | compareObjects a b =>
    cases ha : s.objects a <;>
      simp [step, Command.isInside, Command.names, has, Option.isSome_bind, ha]
  | clone | get | inspect | lookInto | holds | wrap | unwrap =>
    simp [step, Command.isInside, Command.names, has, Option.isSome_bind]
  | init | isInitialized | uninit | drop | recent | stats | describe | spawn | join => rfl

/-- **A history runs to its end just when each of its commands finds its names.** -/
theorem isSome_run (s : Session) (history : List (Nat × Command)) :
    (s.run history).isSome = s.bound history := by
  induction history generalizing s with
  | nil => rfl
  | cons command rest ih =>
    obtain ⟨time, c⟩ := command
    rw [run, bound, ← isSome_step s time c]
    cases s.step time c with
    | none => rfl
    | some o => exact ih o.state

end Session
end TypedBox
