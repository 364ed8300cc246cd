import TypedBox.Proofs.Handles

/-! # Commands follow their flow

The chain that a command stores is put together first (`Brings`) and then stored under a
name (`Brings.store`).  Each way to build an object or to box a value brings the chain of
its flow; nothing that is done in an apartment or asked of a value touches a place.  So a
command does what its flow says and leaves all other places alone (`carries_step`).
-/
namespace TypedBox
namespace Session

variable [StoredTypes]

/-- The handle to the contents at one of the next allocations. -/
def newHandle (s : Session) (i : Nat) (c : Content) : Object := .ofShared ⟨s.allocated + i, c⟩

@[simp] theorem allocation_newHandle (s : Session) (i : Nat) (c : Content) :
    (s.newHandle i c).allocation = s.allocated + i := rfl

/-- The chains of `s'` come from those of `s` by a flow, whose new objects have the next
allocations. -/
structure Carries (s s' : Session) (flow : Option Flow) : Prop where
  handles : s'.handles = Flow.carry s.newHandle s.handles flow
  allocated : s.allocated + (Flow.contents flow).length ≤ s'.allocated

/-- A chain has been put together for a flow, and is not stored yet. -/
structure Brings (s s' : Session) (f : Flow) (chain : List Object) : Prop where
  chain : chain = layers s.newHandle f.made ++ (f.source.elim [] s.handles).drop f.opened
  handles : s'.handles = s.handles
  allocated : s.allocated + f.made.length ≤ s'.allocated

variable {s s' : Session} {f : Flow} {name : String}

theorem handles_putValue (s : Session) (name : String) (v : Value) (p : Place) :
    (s.putValue name v).handles p = if p = .value name then v.handles else s.handles p := by
  cases p with
  | value other => by_cases h : other = name <;> simp [putValue, handles, h]
  | _ => rfl

theorem handles_putObject (s : Session) (name : String) (o : Object) (p : Place) :
    (s.putObject name o).handles p = if p = .object name then o.handles else s.handles p := by
  cases p with
  | object other => by_cases h : other = name <;> simp [putObject, handles, h]
  | _ => rfl

theorem handles_putShared (s : Session) (name : String) (a : Shared) (p : Place) :
    (s.putShared name a).handles p =
      if p = .shared name then (Object.ofShared a).handles else s.handles p := by
  cases p with
  | shared other => by_cases h : other = name <;> simp [putShared, handles, h]
  | _ => rfl

/-- A chain that is stored at the target of its flow completes the flow. -/
theorem Brings.store {s'' : Session} {chain : List Object} (h : s.Brings s' f chain)
    {target : Place} (ht : f.target = target)
    (stored : ∀ p, s''.handles p = if p = target then chain else s'.handles p)
    (kept : s''.allocated = s'.allocated) : s.Carries s'' (some f) where
  handles := by
    funext p
    rw [stored, h.chain, h.handles, ← ht]
    rfl
  allocated := kept ▸ h.allocated

/-! ## Boxing -/

theorem handles_value {v : Value} (h : s.values name = some v) :
    s.handles (.value name) = v.handles := by
  rw [handles, h, Option.elim_some]

theorem handles_object {o : Object} (h : s.objects name = some o) :
    s.handles (.object name) = o.handles := by
  rw [handles, h, Option.elim_some]

theorem handles_shared {a : Shared} (h : s.shared name = some a) :
    s.handles (.shared name) = (Object.ofShared a).handles := by
  rw [handles, h, Option.elim_some]

/-- A chain that is at a place already is brought from there. -/
theorem brings_copy {source : Place} {opened : Nat} {chain : List Object} (target : Place)
    (h : chain = (s.handles source).drop opened) :
    s.Brings s ⟨target, [], some source, opened⟩ chain :=
  ⟨h, rfl, Nat.le_refl _⟩

/-- A new object around the chain at a place. -/
theorem brings_newObject (s : Session) (target : Place) (source : Option Place) {c : Content}
    (h : c.handles = source.elim [] s.handles) :
    s.Brings s.allocate ⟨target, [c], source, 0⟩ (Object.ofShared ⟨s.allocated, c⟩).handles := by
  refine ⟨?_, rfl, Nat.le_refl _⟩
  rw [Object.handles_eq_cons, Object.content_ofShared, h]
  rfl

/-- Described contents at a new allocation. -/
theorem brings_content? {spec : ContentSpec} {c : Content} (target : Place)
    (hplain : spec.isPlain = true) (h : s.content? spec = some c) :
    s.Brings s.allocate (spec.flow s target) (Object.ofShared ⟨s.allocated, c⟩).handles := by
  cases spec with
  | given c =>
    cases h
    exact brings_newObject s target none (List.isEmpty_iff.mp hplain)
  | object name =>
    obtain ⟨o, ho, h⟩ := Option.bind_eq_some_iff.mp h
    cases h
    rw [ContentSpec.flow, ho]
    exact brings_newObject s target (some (.object name)) (handles_object ho).symm
  | value name =>
    obtain ⟨v, hv, h⟩ := Option.bind_eq_some_iff.mp h
    cases h
    rw [ContentSpec.flow, hv]
    exact brings_newObject s target (some (.value name)) (handles_value hv).symm

theorem brings_buildObject {spec : ObjectSpec} {o : Object} (target : Place)
    (hplain : spec.isPlain = true) (h : s.buildObject spec = some (o, s')) :
    s.Brings s' (spec.flow s target) o.handles := by
  cases spec with
  | ofContent spec =>
    obtain ⟨c, hc, h⟩ := Option.bind_eq_some_iff.mp h
    cases h
    exact brings_content? target hplain hc
  | handle name =>
    obtain ⟨o, ho, h⟩ := Option.bind_eq_some_iff.mp h
    cases h
    exact brings_copy target (handles_object ho).symm
  | shared name =>
    obtain ⟨a, ha, h⟩ := Option.bind_eq_some_iff.mp h
    cases h
    exact brings_copy target (handles_shared ha).symm

/-- What is boxed as a native value is no object, unless the client gave one. -/
theorem brings_build {spec : ValueSpec} {v : Value} (target : Place)
    (hplain : spec.isPlain = true) (h : s.build spec = some (.ok v, s')) :
    s.Brings s' (spec.flow s target) v.handles := by
  have bare : v.handles = [] → s' = s → s.Brings s' ⟨target, [], none, 0⟩ v.handles := by
    rintro hv rfl
    exact ⟨hv, rfl, Nat.le_refl _⟩
  cases spec with
  | integer k n =>
    obtain ⟨hn, rfl⟩ := Prod.mk.inj (Option.some.inj h)
    exact bare (Value.handles_of_shape_ne (Value.shape_ne_object_of_ofInt_eq_ok hn)) rfl
  | character c =>
    obtain ⟨hc, rfl⟩ := Prod.mk.inj (Option.some.inj h)
    unfold Value.ofChar at hc
    cases hu : Char16.ofChar c <;> rw [hu] at hc <;> cases hc
    exact bare rfl rfl
  | rounded x =>
    cases h
    exact bare rfl rfl
  | native v =>
    cases h
    exact bare (List.isEmpty_iff.mp hplain) rfl
  | object spec =>
    obtain ⟨⟨o, s₁⟩, ho, h⟩ := Option.bind_eq_some_iff.mp h
    cases h
    exact brings_buildObject target hplain ho
  | stored name =>
    obtain ⟨w, hw, h⟩ := Option.bind_eq_some_iff.mp h
    cases h
    exact brings_copy target (handles_value hw).symm

/-- Building an object makes at most one allocation. -/
theorem state_buildObject {spec : ObjectSpec} {o : Object}
    (h : s.buildObject spec = some (o, s')) : s' = s ∨ s' = s.allocate := by
  cases spec with
  | ofContent =>
    obtain ⟨_, -, h⟩ := Option.bind_eq_some_iff.mp h
    cases h
    exact .inr rfl
  | handle | shared =>
    obtain ⟨_, -, h⟩ := Option.bind_eq_some_iff.mp h
    cases h
    exact .inl rfl

/-- So does boxing, whatever comes of it. -/
theorem state_build {spec : ValueSpec} {r : Except Failure Value}
    (h : s.build spec = some (r, s')) : s' = s ∨ s' = s.allocate := by
  cases spec with
  | integer | character | rounded | native =>
    cases h
    exact .inl rfl
  | stored name =>
    obtain ⟨w, -, h⟩ := Option.bind_eq_some_iff.mp h
    cases h
    exact .inl rfl
  | object spec =>
    obtain ⟨⟨o, s₁⟩, ho, h⟩ := Option.bind_eq_some_iff.mp h
    cases h
    exact state_buildObject ho

theorem Carries.refl (s : Session) : s.Carries s none := ⟨rfl, Nat.le_refl _⟩

theorem carries_build {spec : ValueSpec} {r : Except Failure Value}
    (h : s.build spec = some (r, s')) : s.Carries s' none := by
  obtain rfl | rfl := state_build h
  · exact .refl s'
  · exact ⟨rfl, Nat.le_succ _⟩

theorem Carries.trans {s'' : Session} (h : s.Carries s' none) (h' : s'.Carries s'' none) :
    s.Carries s'' none :=
  ⟨h'.handles.trans h.handles, Nat.le_trans h.allocated h'.allocated⟩

theorem carries_boxTimes {time count : Nat} {spec : ValueSpec} {a a' : Apartment}
    {echo echo' : Array Trace.Record}
    (h : boxTimes time spec count s a echo = some (s', a', echo')) : s.Carries s' none := by
  induction count generalizing s a echo with
  | zero =>
    cases h
    exact .refl s'
  | succ count ih =>
    obtain ⟨⟨r, s₁⟩, hbuild, h⟩ := Option.bind_eq_some_iff.mp h
    exact (carries_build hbuild).trans (ih h)

/-! ## Commands -/

variable {time : Nat} {o : Apartment.Outcome Session Reply}

/-- What is done in the apartment touches no place. -/
theorem carries_withValue {α : Type} {f : Value → Apartment → Apartment.Outcome Apartment α}
    {reply : α → Reply} (h : s.withValue name f reply = some o) : s.Carries o.state none := by
  unfold withValue at h
  split at h
  · cases h
    exact .refl s
  · obtain ⟨v, -, h⟩ := Option.bind_eq_some_iff.mp h
    cases h
    exact ⟨rfl, Nat.le_refl _⟩

/-- A value that was built and is put under a name has its birth there. -/
theorem carries_putValue {spec : ValueSpec} {v : Value} (hplain : spec.isPlain = true)
    (hbuild : s.build spec = some (.ok v, s')) :
    s.Carries (s'.putValue name v) (spec.flow? s (.value name)) := by
  unfold ValueSpec.flow?
  rw [hbuild]
  exact (brings_build _ hplain hbuild).store (spec.target_flow s _) (handles_putValue s' name v)
    rfl

/-- A failure to build leaves nothing that could be put under a name. -/
theorem carries_failure {spec : ValueSpec} {e : Failure}
    (hbuild : s.build spec = some (.error e, s')) :
    s.Carries s' (spec.flow? s (.value name)) := by
  unfold ValueSpec.flow?
  rw [hbuild]
  exact carries_build hbuild

theorem carries_create {spec : ValueSpec} (hplain : spec.isPlain = true)
    (h : s.step time (.create name spec) = some o) :
    s.Carries o.state (spec.flow? s (.value name)) := by
  obtain ⟨⟨r, s₁⟩, hbuild, h⟩ := Option.bind_eq_some_iff.mp h
  cases r with
  | error e =>
    cases h
    exact carries_failure hbuild
  | ok v =>
    cases h
    exact carries_putValue hplain hbuild

theorem carries_box {spec : ValueSpec} (hplain : spec.isPlain = true)
    (h : s.box time name spec = some o) :
    s.Carries o.state (if s.apartment?.isNone then none else spec.flow? s (.value name)) := by
  unfold box at h
  split at h
  case isTrue hout =>
    cases h
    rw [if_pos hout]
    exact .refl s
  case isFalse hin =>
    obtain ⟨⟨r, s₁⟩, hbuild, h⟩ := Option.bind_eq_some_iff.mp h
    rw [if_neg hin]
    -- what is traced of it touches no place
    cases r with
    | error e =>
      cases h
      exact ⟨(carries_failure hbuild).handles, (carries_failure hbuild).allocated⟩
    | ok v =>
      cases h
      exact ⟨(carries_putValue hplain hbuild).handles, (carries_putValue hplain hbuild).allocated⟩

theorem carries_boxMany {count : Nat} {spec : ValueSpec}
    (h : s.boxMany time count spec = some o) : s.Carries o.state none := by
  unfold boxMany at h
  split at h
  · cases h
    exact .refl s
  · obtain ⟨⟨s₁, a, echo⟩, hboxed, h⟩ := Option.bind_eq_some_iff.mp h
    cases h
    exact ⟨(carries_boxTimes hboxed).handles, (carries_boxTimes hboxed).allocated⟩

theorem carries_lookInto {object : String} (h : s.step time (.lookInto object name) = some o) :
    s.Carries o.state ((Command.lookInto object name).flow? s) := by
  obtain ⟨⟨a, c, typeName⟩, hobject, h⟩ := Option.bind_eq_some_iff.mp h
  cases h
  have hchain : c.handles = (s.handles (.object object)).drop 1 := by
    rw [handles_object hobject]
    rfl
  rw [Command.flow?, hobject]
  cases c with
  | object inner =>
    exact (brings_copy _ hchain).store rfl (handles_putValue s name (.object inner)) rfl
  | value v =>
    exact (brings_copy _ hchain).store rfl (handles_putValue s name v) rfl
  | data t x => exact .refl s

theorem brings_wrapped {source : String} {v : Value} (target : Place) (count : Nat)
    (h : s.values source = some v) :
    s.Brings { s with allocated := s.allocated + count }
      ⟨target, v.wrappings s.allocated count, some (.value source), 0⟩
      (v.wrappedTimes s.allocated count).handles where
  chain := by
    induction count with
    | zero => exact (handles_value h).symm
    | succ count ih =>
      rw [Value.wrappedTimes_succ, Value.wrappings, layers, Value.length_wrappings]
      exact congrArg _ ih
  handles := rfl
  allocated := Nat.le_of_eq (congrArg _ (v.length_wrappings s.allocated count))

/-- **A command does what its flow says**, and touches no other place. -/
theorem carries_step {c : Command} (hplain : c.isPlain = true) (h : s.step time c = some o) :
    s.Carries o.state (c.flow? s) := by
  cases c with
  | create name spec => exact carries_create hplain h
  | box name spec => exact carries_box hplain h
  | boxMany count spec => exact carries_boxMany h
  | lookInto object name => exact carries_lookInto h
  | shapeOf name | unbox name target => exact carries_withValue h
  | clone name source =>
    obtain ⟨v, hv, h⟩ := Option.bind_eq_some_iff.mp h
    cases h
    exact (brings_copy _ (handles_value hv).symm).store rfl (handles_putValue s name v) rfl
  | share name spec =>
    obtain ⟨c, hc, h⟩ := Option.bind_eq_some_iff.mp h
    cases h
    exact (brings_content? _ hplain hc).store (spec.target_flow s _)
      (handles_putShared s.allocate name ⟨s.allocated, c⟩) rfl
  | makeObject name spec =>
    obtain ⟨⟨object, s₁⟩, ho, h⟩ := Option.bind_eq_some_iff.mp h
    cases h
    exact (brings_buildObject _ hplain ho).store (spec.target_flow s _)
      (handles_putObject s₁ name object) rfl
  | takeObject name source =>
    obtain ⟨v, hv, h⟩ := Option.bind_eq_some_iff.mp h
    rw [Command.flow?, hv]
    cases v with
    | object object =>
      cases h
      exact (brings_copy _ (handles_value hv).symm).store rfl
        (handles_putObject s name object) rfl
    | _ =>
      cases h
      exact .refl s
  | wrap name source count =>
    obtain ⟨v, hv, h⟩ := Option.bind_eq_some_iff.mp h
    cases h
    rw [Command.flow?, hv]
    exact (brings_wrapped (.value name) count hv).store rfl (handles_putValue _ name _) rfl
  | unwrap name source =>
    obtain ⟨v, hv, h⟩ := Option.bind_eq_some_iff.mp h
    cases h
    rw [Command.flow?, hv]
    have hchain : v.unwrapped.2.handles = (s.handles (.value source)).drop v.unwrapped.1 := by
      rw [handles_value hv, Value.handles_unwrapped]
    exact (brings_copy _ hchain).store rfl (handles_putValue s name v.unwrapped.2) rfl
  | get | inspect | holds =>
    obtain ⟨_, -, h⟩ := Option.bind_eq_some_iff.mp h
    cases h
    exact .refl s
  | compare | compareObjects =>
    obtain ⟨_, -, h⟩ := Option.bind_eq_some_iff.mp h
    obtain ⟨_, -, h⟩ := Option.bind_eq_some_iff.mp h
    cases h
    exact .refl s
  | isInitialized =>
    cases h
    exact .refl s
  | init | uninit | drop | recent | stats | describe | spawn | join =>
    cases h
    exact ⟨rfl, Nat.le_refl _⟩

end Session
end TypedBox
