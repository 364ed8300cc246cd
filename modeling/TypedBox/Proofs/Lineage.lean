import Mathlib
import TypedBox.Proofs.BoundNames
import TypedBox.Proofs.Hashing
import TypedBox.Proofs.Unboxing

/-! # The lineage of handles

Every object was made once, by some command of the client, and all handles to it descend
from that making: they were cloned, boxed, retrieved, unwrapped, made of the same shared
contents or had by name from a handle that did.  The history of a client tells which handles
descend from which making, without a look at any allocation (`Tracked.step`): the births of
the handles at a place follow the same flows as the handles.

So two handles that are alive at the same time are equal exactly when they have the same
birth, and what a handle tells of its contents is what they were at its birth, whatever types
of contents there are (`identity_is_lineage`).  The invariant is `Tracked.Faithful`: an
allocation that was used before stands for one birth only, and the next one has not been used.
-/
namespace TypedBox

section Contents

variable [StoredTypes]

/-- What a handle tells of contents, whatever type it is asked for. -/
structure Object.Shows (o : Object) (c : Content) : Prop where
  typeName : o.typeName = StoredTypes.name c.type
  is_iff : ∀ t, o.is t = true ↔ t = c.type
  downcast : o.downcast? c.type = some c.carried
  downcast_of_ne : ∀ t, t ≠ c.type → o.downcast? t = none

/-- A handle tells of the contents that it was made for, and never of another type. -/
theorem Object.shows_ofShared (a : Shared) : (ofShared a).Shows a.content where
  typeName := rfl
  is_iff t := by rw [Object.is, beq_iff_eq, eq_comm, Object.type, content_ofShared]
  downcast := dif_pos rfl
  downcast_of_ne _ h := dif_neg (Ne.symm h)

end Contents

namespace Session

/-! ## Chains side by side -/

section Layers

variable [StoredTypes] {α β : Type} {layer : Nat → Content → α} {layer' : Nat → Content → β}

@[simp] theorem length_layers (layer : Nat → Content → α) (made : List Content) :
    (layers layer made).length = made.length := by
  induction made with
  | nil => rfl
  | cons c inner ih => rw [layers, List.length_cons, List.length_cons, ih]

theorem zip_layers (made : List Content) :
    (layers layer made).zip (layers layer' made) =
      layers (fun i c => (layer i c, layer' i c)) made := by
  induction made with
  | nil => rfl
  | cons c inner ih => rw [layers, layers, List.zip_cons_cons, ih, layers]

/-- A layer is that of one of the contents, with its number counted from the inside. -/
theorem exists_of_mem_layers {made : List Content} {x : α} (h : x ∈ layers layer made) :
    ∃ i c, made.reverse[i]? = some c ∧ x = layer i c := by
  induction made with
  | nil => cases h
  | cons c inner ih =>
    rw [List.reverse_cons]
    rcases List.mem_cons.mp h with rfl | h
    · exact ⟨inner.length, c, by rw [← List.length_reverse, List.getElem?_concat_length], rfl⟩
    · obtain ⟨i, d, hd, rfl⟩ := ih h
      have hi : i < inner.reverse.length := (List.getElem?_eq_some_iff.mp hd).1
      exact ⟨i, d, by rw [List.getElem?_append_left hi, hd], rfl⟩

variable {chains : Place → List α} {chains' : Place → List β}

/-- Flows keep chains side by side. -/
theorem Flow.length_carry (h : ∀ p, (chains p).length = (chains' p).length) (flow : Option Flow)
    (p : Place) : (carry layer chains flow p).length = (carry layer' chains' flow p).length := by
  cases flow with
  | none => exact h p
  | some f =>
    by_cases hp : p = f.target
    · cases hsource : f.source <;> simp [carry, hp, hsource, h]
    · rw [carry_of_ne hp, carry_of_ne hp, h]

theorem Flow.zip_carry (flow : Option Flow) (p : Place) :
    (carry layer chains flow p).zip (carry layer' chains' flow p) =
      carry (fun i c => (layer i c, layer' i c)) (fun p => (chains p).zip (chains' p)) flow p := by
  cases flow with
  | none => rfl
  | some f =>
    by_cases hp : p = f.target
    · have hlength : (layers layer f.made).length = (layers layer' f.made).length := by
        rw [length_layers, length_layers]
      simp only [carry, if_pos hp]
      rw [List.zip_append hlength, zip_layers]
      cases f.source with
      | none => simp
      | some source => simp [List.zip, List.drop_zipWith]
    · rw [carry_of_ne hp, carry_of_ne hp, carry_of_ne hp]

/-- What is somewhere after a flow is new, or was somewhere before. -/
theorem Flow.mem_carry {flow : Option Flow} {p : Place} {x : α}
    (h : x ∈ carry layer chains flow p) :
    (∃ i c, (contents flow).reverse[i]? = some c ∧ x = layer i c) ∨ ∃ q, x ∈ chains q := by
  cases flow with
  | none => exact .inr ⟨p, h⟩
  | some f =>
    by_cases hp : p = f.target
    · simp only [carry, if_pos hp] at h
      rcases List.mem_append.mp h with h | h
      · exact .inl (exists_of_mem_layers h)
      · cases hsource : f.source with
        | none => simp [hsource] at h
        | some source =>
          rw [hsource] at h
          exact .inr ⟨source, List.mem_of_mem_drop h⟩
    · rw [carry_of_ne hp] at h
      exact .inr ⟨p, h⟩

end Layers

/-! ## Births -/

section Births

variable [StoredTypes]

/-- The making of an object: the command that made it, how many objects this command had made
before, and the contents that were stored. -/
structure Birth where
  command : Nat
  number : Nat
  content : Content

/-- The births of the handles at every place. -/
abbrev Lineage := Place → List Birth

/-- A session with the lineage of its handles. -/
structure Tracked where
  session : Session
  lineage : Lineage
  /-- The number of commands carried out, which is the number of the next one. -/
  commands : Nat

namespace Tracked

/-- A client that did nothing yet. -/
def start : Tracked := ⟨.start, fun _ => [], 0⟩

/-- A command brings births to where it brings handles. -/
def step (t : Tracked) (time : Nat) (c : Command) : Option Tracked := do
  let o ← t.session.step time c
  return ⟨o.state, Flow.carry (Birth.mk t.commands) t.lineage (c.flow? t.session),
    t.commands + 1⟩

/-- The tracked session after a list of commands, each with its time. -/
def run (t : Tracked) : List (Nat × Command) → Option Tracked
  | [] => some t
  | (time, c) :: rest => do run (← t.step time c) rest

/-- Tracking looks on: it changes nothing in how commands run. -/
theorem session_run (t : Tracked) (history : List (Nat × Command)) :
    (t.run history).map session = t.session.run history := by
  induction history generalizing t with
  | nil => rfl
  | cons command rest ih =>
    obtain ⟨time, c⟩ := command
    rw [run, Session.run, step]
    cases t.session.step time c with
    | none => rfl
    | some o => exact ih _

/-- A history that finds its names is tracked to its end. -/
theorem exists_run (t : Tracked) {history : List (Nat × Command)}
    (hbound : t.session.bound history = true) :
    ∃ t', t.run history = some t' ∧ t.session.run history = some t'.session := by
  rw [← isSome_run] at hbound
  obtain ⟨s, hs⟩ := Option.isSome_iff_exists.mp hbound
  obtain ⟨t', ht', rfl⟩ := Option.map_eq_some_iff.mp ((t.session_run history).trans hs)
  exact ⟨t', ht', hs⟩

/-- The birth of the outermost handle at a place. -/
def birth? (t : Tracked) (p : Place) : Option Birth := (t.lineage p).head?

/-- A handle at some place, and its birth. -/
def Live (t : Tracked) (o : Object) (b : Birth) : Prop :=
  ∃ p, (o, b) ∈ (t.session.handles p).zip (t.lineage p)

/-- The lineage accounts for every handle, and allocations are births. -/
structure Faithful (t : Tracked) : Prop where
  length : ∀ p, (t.session.handles p).length = (t.lineage p).length
  bounds : ∀ {o b}, t.Live o b → o.allocation < t.session.allocated ∧ b.command < t.commands
  made : ∀ {o b}, t.Live o b → o = .ofShared ⟨o.allocation, b.content⟩
  birth_eq : ∀ {o b o' b'}, t.Live o b → t.Live o' b' → o.allocation = o'.allocation → b = b'
  allocation_eq : ∀ {o b o' b'}, t.Live o b → t.Live o' b' →
    b.command = b'.command → b.number = b'.number → o.allocation = o'.allocation

theorem faithful_start : start.Faithful := by
  have nothing : ∀ o b, ¬ start.Live o b := by
    rintro o b ⟨p, hp⟩
    cases p <;> cases hp
  refine ⟨fun p => ?_, fun h => ?_, fun h => ?_, fun h => ?_, fun h => ?_⟩
  · cases p <;> rfl
  all_goals exact absurd h (nothing _ _)

variable {t t' : Tracked} {time : Nat} {c : Command} {o : Object} {b : Birth}

/-- What a step does to the session is what the command does. -/
theorem carries_session (hplain : c.isPlain = true) (hstep : t.step time c = some t') :
    t.session.Carries t'.session (c.flow? t.session) ∧
      t'.lineage = Flow.carry (Birth.mk t.commands) t.lineage (c.flow? t.session) ∧
      t'.commands = t.commands + 1 := by
  obtain ⟨o, ho, hstep⟩ := Option.bind_eq_some_iff.mp hstep
  cases hstep
  exact ⟨carries_step hplain ho, rfl, rfl⟩

/-- A handle that is alive after a command was made by it, or was alive before. -/
theorem Live.of_step (hplain : c.isPlain = true) (hstep : t.step time c = some t')
    (h : t'.Live o b) :
    (∃ i d, (Flow.contents (c.flow? t.session)).reverse[i]? = some d ∧
      o = t.session.newHandle i d ∧ b = ⟨t.commands, i, d⟩) ∨ t.Live o b := by
  obtain ⟨hcarries, hlineage, -⟩ := carries_session hplain hstep
  obtain ⟨p, hp⟩ := h
  rw [hcarries.handles, hlineage, Flow.zip_carry] at hp
  rcases Flow.mem_carry hp with ⟨i, d, hi, hnew⟩ | hold
  · exact .inl ⟨i, d, hi, (Prod.mk.inj hnew).1, (Prod.mk.inj hnew).2⟩
  · exact .inr hold

/-- **A command keeps the lineage faithful.**  What it makes has unused allocations and the
number of the command. -/
theorem Faithful.step (ht : t.Faithful) (hplain : c.isPlain = true)
    (hstep : t.step time c = some t') : t'.Faithful := by
  obtain ⟨hcarries, hlineage, hcommands⟩ := carries_session hplain hstep
  have hgrows := hcarries.allocated
  refine ⟨fun p => ?_, fun h => ?_, fun h => ?_, fun h h' heq => ?_, fun h h' hsame hnumber => ?_⟩
  · rw [hcarries.handles, hlineage]
    exact Flow.length_carry ht.length _ p
  · rcases h.of_step hplain hstep with ⟨i, d, hi, rfl, rfl⟩ | h
    · obtain ⟨hlt, -⟩ := List.getElem?_eq_some_iff.mp hi
      rw [List.length_reverse] at hlt
      rw [allocation_newHandle, hcommands]
      exact ⟨by omega, Nat.lt_succ_self _⟩
    · have := ht.bounds h
      omega
  · rcases h.of_step hplain hstep with ⟨i, d, -, rfl, rfl⟩ | h
    · rfl
    · exact ht.made h
  · rcases h.of_step hplain hstep with ⟨i, d, hi, rfl, rfl⟩ | h <;>
      rcases h'.of_step hplain hstep with ⟨j, e, hj, rfl, rfl⟩ | h'
    · rw [allocation_newHandle, allocation_newHandle] at heq
      obtain rfl : i = j := by omega
      rw [Option.some.inj (hi.symm.trans hj)]
    · have := (ht.bounds h').1
      rw [allocation_newHandle] at heq
      omega
    · have := (ht.bounds h).1
      rw [allocation_newHandle] at heq
      omega
    · exact ht.birth_eq h h' heq
  · rcases h.of_step hplain hstep with ⟨i, d, hi, rfl, rfl⟩ | h <;>
      rcases h'.of_step hplain hstep with ⟨j, e, hj, rfl, rfl⟩ | h'
    · obtain rfl : i = j := hnumber
      rfl
    · exact absurd hsame (ht.bounds h').2.ne'
    · exact absurd hsame (ht.bounds h).2.ne
    · exact ht.allocation_eq h h' hsame hnumber

theorem Faithful.run {history : List (Nat × Command)} (ht : t.Faithful)
    (hplain : ∀ c ∈ history, c.2.isPlain = true) (hrun : t.run history = some t') :
    t'.Faithful := by
  induction history generalizing t with
  | nil =>
    cases hrun
    exact ht
  | cons command rest ih =>
    obtain ⟨t₁, hstep, hrun⟩ := Option.bind_eq_some_iff.mp hrun
    obtain ⟨hc, hrest⟩ := List.forall_mem_cons.mp hplain
    exact ih (ht.step hc hstep) hrest hrun

/-- The allocations that live handles refer to. -/
def liveAllocations (t : Tracked) : Set Nat := {a | ∃ o b, t.Live o b ∧ o.allocation = a}

/-- A live handle tells of the contents at its birth. -/
theorem Faithful.shows (ht : t.Faithful) (h : t.Live o b) : o.Shows b.content := by
  rw [ht.made h]
  exact Object.shows_ofShared _

theorem Faithful.beq_iff {o' : Object} {b' : Birth} (ht : t.Faithful) (h : t.Live o b)
    (h' : t.Live o' b') : (o == o') = true ↔ b = b' := by
  rw [Object.beq_iff]
  constructor
  · exact ht.birth_eq h h'
  · rintro rfl
    exact ht.allocation_eq h h' rfl rfl

/-- An object that is made now is none of those alive. -/
theorem Faithful.newObject_beq (ht : t.Faithful) (h : t.Live o b) (c : Content) :
    ((t.session.newObject c).1 == o) = false := by
  rw [Bool.eq_false_iff, ne_eq, Object.beq_iff]
  exact (ht.bounds h).1.ne'

/-- Live allocations at different addresses are told by their addresses, and so by the
hashed bytes. -/
theorem Faithful.address_eq_iff {o' : Object} {b' : Birth} {address : Nat → UInt64}
    (ht : t.Faithful) (distinct : Set.InjOn address t.liveAllocations) (h : t.Live o b)
    (h' : t.Live o' b') : address o.allocation = address o'.allocation ↔ b = b' := by
  rw [← ht.beq_iff h h', Object.beq_iff]
  exact distinct.eq_iff ⟨o, b, h, rfl⟩ ⟨o', b', h', rfl⟩

theorem Faithful.hashBytes_eq_iff {o' : Object} {b' : Birth} {address : Nat → UInt64}
    (ht : t.Faithful) (distinct : Set.InjOn address t.liveAllocations) (h : t.Live o b)
    (h' : t.Live o' b') : o.hashBytes address = o'.hashBytes address ↔ b = b' := by
  rw [← ht.address_eq_iff distinct h h']
  exact Bytes.prefixCode_uint64.injective.eq_iff

/-- The addresses of a session are distinct as long as there are enough of them. -/
theorem Faithful.injOn_address (ht : t.Faithful) (h : t.session.allocated ≤ UInt64.size) :
    Set.InjOn address t.liveAllocations := by
  rintro _ ⟨o, b, ho, rfl⟩ _ ⟨o', b', ho', rfl⟩ heq
  have hlt : o.allocation < UInt64.size := Nat.lt_of_lt_of_le (ht.bounds ho).1 h
  have hlt' : o'.allocation < UInt64.size := Nat.lt_of_lt_of_le (ht.bounds ho').1 h
  have htoNat := congrArg UInt64.toNat heq
  rwa [address, address, UInt64.toNat_ofNat_of_lt' hlt, UInt64.toNat_ofNat_of_lt' hlt'] at htoNat

/-- A client that compares two named objects is told whether they have one birth: that they
are the same, that they are equal and that their hashed bytes are. -/
theorem Faithful.step_compareObjects {x y : String} {o' : Object} {b' : Birth} (ht : t.Faithful)
    (hroom : t.session.allocated ≤ UInt64.size) (hx : t.session.objects x = some o)
    (hy : t.session.objects y = some o') (h : t.Live o b) (h' : t.Live o' b') (time : Nat) :
    ∃ same, t.session.step time (.compareObjects x y) =
        some (t.session.reply (.objectComparison same same same)) ∧
      (same = true ↔ b = b') := by
  have hhash : (o.hashBytes address == o'.hashBytes address) = (o == o') := by
    rw [Bool.eq_iff_iff, beq_iff_eq, ht.hashBytes_eq_iff (ht.injOn_address hroom) h h',
      ht.beq_iff h h']
  refine ⟨o == o', ?_, ht.beq_iff h h'⟩
  rw [Session.step, hx, hy]
  exact congrArg (fun hash => some (t.session.reply (.objectComparison _ _ hash))) hhash

/-- A client that asks a named object for a type is told whether it is that of the contents at
its birth, and can get at them just then. -/
theorem Faithful.step_holds {x : String} (ht : t.Faithful) (hx : t.session.objects x = some o)
    (h : t.Live o b) (time : Nat) (type : StoredType) :
    ∃ holds, t.session.step time (.holds x type) =
        some (t.session.reply (.holds holds holds)) ∧
      (holds = true ↔ type = b.content.type) := by
  have hshows := ht.shows h
  have hdowncast : (o.downcast? type).isSome = o.is type := by
    by_cases htype : type = b.content.type
    · rw [htype, hshows.downcast, (hshows.is_iff _).mpr rfl, Option.isSome_some]
    · rw [hshows.downcast_of_ne _ htype, Bool.eq_false_iff.mpr (mt (hshows.is_iff _).mp htype),
        Option.isSome_none]
  refine ⟨o.is type, ?_, hshows.is_iff type⟩
  rw [Session.step, hx]
  exact congrArg (fun downcasts => some (t.session.reply (.holds _ downcasts))) hdowncast

/-- A named object is alive, with the outermost birth at its place. -/
theorem live_of_objects {name : String} (h : t.session.objects name = some o)
    (hb : t.birth? (.object name) = some b) : t.Live o b := by
  obtain ⟨rest, hrest⟩ := List.head?_eq_some_iff.mp hb
  refine ⟨.object name, ?_⟩
  rw [handles_object h, Object.handles_eq_cons, hrest]
  exact List.mem_cons_self

/-- What is retrieved from a named value as an object, in whichever way, is the outermost
handle there. -/
theorem head?_handles_of_getBy {s : Session} {name : String} {v : Value} {route : Route}
    (hv : s.values name = some v) (h : v.getBy (.native .object) route = .ok o) :
    (s.handles (.value name)).head? = some o := by
  have hget : v.get (.native .object) = .ok o := by
    cases route with
    | named => rwa [Value.getBy, Value.getNamed_eq_get] at h
    | generic | conversion => exact h
  rw [handles_value hv, Value.get_eq_ok_iff.mp hget]
  cases o
  rfl

/-- **The identity of objects is their lineage**, through whatever a client does that finds
the names that it looks up, for any types of contents.

* The history runs to its end, and every handle at every place has a birth then, those inside
  of contents included.
* Two live handles are equal exactly when they have one birth, that is, when the same command
  made both as the same one of its objects.  The values that they are boxed as are equal
  just then, too, and so are their addresses and hashed bytes, as long as live allocations
  have different addresses.
* A handle has the name of the type on record whose contents were stored at its birth; it
  gives these contents, and nothing for any other type.  An object that is made now, of
  whatever contents, is none of those alive.
* What is retrieved from a value as an object is the outermost handle there, not a new one.
* So a client is told of its named objects: a comparison tells, in each of its ways, whether
  they have one birth, and the question for a type, whether it is that of the contents. -/
theorem identity_is_lineage {history : List (Nat × Command)}
    (hplain : ∀ c ∈ history, c.2.isPlain = true) (hbound : Session.start.bound history = true) :
    ∃ t, start.run history = some t ∧ Session.start.run history = some t.session ∧
    (∀ p, (t.session.handles p).length = (t.lineage p).length) ∧
    (∀ o b o' b', t.Live o b → t.Live o' b' →
      ((o == o') = true ↔ b = b') ∧
      (b = b' ↔ b.command = b'.command ∧ b.number = b'.number) ∧
      ((Value.object o == Value.object o') = true ↔ b = b')) ∧
    (∀ address, Set.InjOn address t.liveAllocations →
      ∀ o b o' b', t.Live o b → t.Live o' b' →
        (address o.allocation = address o'.allocation ↔ b = b') ∧
        (o.hashBytes address = o'.hashBytes address ↔ b = b')) ∧
    (∀ o b, t.Live o b →
      o.Shows b.content ∧ ∀ c, ((t.session.newObject c).1 == o) = false) ∧
    (∀ name v route o, t.session.values name = some v →
      v.getBy (.native .object) route = .ok o →
      (t.session.handles (.value name)).head? = some o) ∧
    (t.session.allocated ≤ UInt64.size → ∀ time x y o b o' b',
      t.session.objects x = some o → t.session.objects y = some o' →
      t.Live o b → t.Live o' b' →
      ∃ same, t.session.step time (.compareObjects x y) =
          some (t.session.reply (.objectComparison same same same)) ∧
        (same = true ↔ b = b')) ∧
    (∀ time x o b type, t.session.objects x = some o → t.Live o b →
      ∃ holds, t.session.step time (.holds x type) =
          some (t.session.reply (.holds holds holds)) ∧
        (holds = true ↔ type = b.content.type)) := by
  obtain ⟨t, hrun, hsession⟩ := start.exists_run hbound
  have ht : t.Faithful := faithful_start.run hplain hrun
  refine ⟨t, hrun, hsession, ht.length, fun o b o' b' h h' => ⟨ht.beq_iff h h', ⟨?_, ?_⟩,
    ht.beq_iff h h'⟩, fun address distinct o b o' b' h h' => ⟨ht.address_eq_iff distinct h h',
      ht.hashBytes_eq_iff distinct h h'⟩, fun o b h => ⟨ht.shows h, ht.newObject_beq h⟩,
    fun name v route o hv h => head?_handles_of_getBy hv h,
    fun hroom time x y o b o' b' hx hy h h' => ht.step_compareObjects hroom hx hy h h' time,
    fun time x o b type hx h => ht.step_holds hx h time type⟩
  · rintro rfl
    exact ⟨rfl, rfl⟩
  · rintro ⟨hcommand, hnumber⟩
    exact ht.birth_eq h h' (ht.allocation_eq h h' hcommand hnumber)

end Tracked
end Births

namespace Tracked

/-- A client that wraps an empty object twice, takes it along all ways around, and makes two
handles to one number. -/
def wrapTwice : List (Nat × Command) := [
  (0, .makeObject "empty" (.new .unit)),
  (1, .makeObject "first" (.aroundObject "empty")),
  (2, .makeObject "second" (.aroundObject "empty")),
  (3, .create "boxed" (.object (.handle "empty"))),
  (4, .clone "copy" "boxed"),
  (5, .makeObject "around" (.aroundValue "copy")),
  (6, .lookInto "around" "found"),
  (7, .wrap "wrapped" "found" 2),
  (8, .unwrap "unwrapped" "wrapped"),
  (9, .takeObject "retrieved" "unwrapped"),
  (10, .share "number" (7 : Int64)),
  (11, .makeObject "one" (.shared "number")),
  (12, .makeObject "other" (.shared "number"))]

/-- The wrappers hold the same and have births of their own, while what is retrieved in the end
has that of the object that was made first.  The two handles to the number have one birth,
and the name of its type. -/
theorem identity_is_lineage_of_wrapTwice :
    (∀ c ∈ wrapTwice, c.2.isPlain = true) ∧ Session.start.bound wrapTwice = true ∧
      ∃ t, start.run wrapTwice = some t ∧ ∃ a b c d e f,
        t.session.objects "empty" = some a ∧ t.session.objects "first" = some b ∧
        t.session.objects "second" = some c ∧ t.session.objects "retrieved" = some d ∧
        t.session.objects "one" = some e ∧ t.session.objects "other" = some f ∧
        (a == d) = true ∧ (b == c) = false ∧ b.Shows (.object a) ∧ c.Shows (.object a) ∧
        b.hashBytes address ≠ c.hashBytes address ∧
        (e == f) = true ∧ (a == e) = false ∧ e.typeName = "i64" := by
  have hplain : ∀ c ∈ wrapTwice, c.2.isPlain = true := by decide
  have hbound : Session.start.bound wrapTwice = true := by decide +kernel
  obtain ⟨t, hrun, -, -, hsame, haddress, hshows, -⟩ := identity_is_lineage hplain hbound
  have hallocated : t.session.allocated = 7 := by
    have h : (start.run wrapTwice).map (·.session.allocated) = some 7 := by cbv
    rwa [hrun, Option.map_some, Option.some.injEq] at h
  have hdistinct : Set.InjOn address t.liveAllocations :=
    (faithful_start.run hplain hrun).injOn_address (hallocated ▸ by decide)
  -- a name is looked up in the end by running the history
  have named (name : String) (o : Object) (b : Birth)
      (h : (start.run wrapTwice).map (fun t => (t.session.objects name, t.birth? (.object name))) =
        some (some o, some b)) : t.session.objects name = some o ∧ t.Live o b := by
    rw [hrun, Option.map_some, Option.some.injEq, Prod.mk.injEq] at h
    exact ⟨h.1, live_of_objects h.1 h.2⟩
  let empty : Object := .ofShared ⟨0, .unit⟩
  obtain ⟨ha, la⟩ := named "empty" empty ⟨0, 0, .unit⟩ (by cbv)
  obtain ⟨hb, lb⟩ := named "first" (.ofShared ⟨1, .object empty⟩) ⟨1, 0, .object empty⟩ (by cbv)
  obtain ⟨hc, lc⟩ := named "second" (.ofShared ⟨2, .object empty⟩) ⟨2, 0, .object empty⟩ (by cbv)
  obtain ⟨hd, ld⟩ := named "retrieved" empty ⟨0, 0, .unit⟩ (by cbv)
  obtain ⟨he, le⟩ := named "one" (.ofShared ⟨6, .int64 7⟩) ⟨10, 0, .int64 7⟩ (by cbv)
  obtain ⟨hf, lf⟩ := named "other" (.ofShared ⟨6, .int64 7⟩) ⟨10, 0, .int64 7⟩ (by cbv)
  refine ⟨hplain, hbound, t, hrun, _, _, _, _, _, _, ha, hb, hc, hd, he, hf, ?_, ?_,
    (hshows _ _ lb).1, (hshows _ _ lc).1, ?_, ?_, ?_, (hshows _ _ le).1.typeName⟩
  · exact (hsame _ _ _ _ la ld).1.mpr rfl
  · exact Bool.eq_false_iff.mpr fun h => absurd ((hsame _ _ _ _ lb lc).1.mp h) (by simp)
  · exact fun h => absurd ((haddress _ hdistinct _ _ _ _ lb lc).2.mp h) (by simp)
  · exact (hsame _ _ _ _ le lf).1.mpr rfl
  · exact Bool.eq_false_iff.mpr fun h => absurd ((hsame _ _ _ _ la le).1.mp h) (by simp)

end Tracked
end Session
end TypedBox
