import Mathlib.Logic.Relation

namespace OpenNebula.Library

/-! # Runs of a transition system

Every system below is an executable partial function from a state and an event
to the next state.  `ok` selects the steps a statement is about: with the
trivial predicate the runs are all the runs of the program, with a narrower one
they are the runs in which every step meets a side condition.
-/

universe u v w

/-- A state machine driven by events; `step` is `none` when the event cannot
happen in the state. -/
structure System (σ : Type u) (ε : Type v) where
  initial : σ → Prop
  step : σ → ε → Option σ

namespace System

variable {σ : Type u} {ε : Type v} {α : Type w}

def Next (system : System σ ε) (ok : σ → ε → Prop) (before after : σ) : Prop :=
  ∃ event, ok before event ∧ system.step before event = some after

/-- A finite run, every step of which meets `ok`. -/
def Path (system : System σ ε) (ok : σ → ε → Prop) : σ → σ → Prop :=
  Relation.ReflTransGen (system.Next ok)

def Reachable (system : System σ ε) (ok : σ → ε → Prop) (state : σ) : Prop :=
  ∃ start, system.initial start ∧ system.Path ok start state

def anyStep : σ → ε → Prop := fun _ _ => True

instance (state : σ) (event : ε) : Decidable (anyStep state event) := isTrue trivial

/-- Run a list of events that all can happen and meet `ok`. -/
def exec (system : System σ ε) (ok : σ → ε → Prop) [∀ state event, Decidable (ok state event)] : σ → List ε → Option σ
  | state, [] => some state
  | state, event :: events =>
    if ok state event then
      match system.step state event with
      | none => none
      | some next => system.exec ok next events
    else none

variable {system : System σ ε} {ok : σ → ε → Prop}

variable {start after : σ} {events : List ε}

theorem Path.snoc {middle : σ} (path : system.Path ok start middle) {event : ε} (meets : ok middle event)
    (stepped : system.step middle event = some after) : system.Path ok start after :=
  Relation.ReflTransGen.tail path ⟨event, meets, stepped⟩

theorem Reachable.step {before : σ} (reached : system.Reachable ok before) {event : ε}
    (meets : ok before event) (stepped : system.step before event = some after) : system.Reachable ok after := by
  obtain ⟨start, isInitial, path⟩ := reached
  exact ⟨start, isInitial, path.snoc meets stepped⟩

theorem Reachable.path {before : σ} (reached : system.Reachable ok before)
    (path : system.Path ok before after) : system.Reachable ok after := by
  obtain ⟨start, isInitial, first⟩ := reached
  exact ⟨start, isInitial, Relation.ReflTransGen.trans first path⟩

theorem path_of_exec [∀ state event, Decidable (ok state event)] (ran : system.exec ok start events = some after) :
    system.Path ok start after := by
  induction events generalizing start with
  | nil =>
    simp only [exec, Option.some.injEq] at ran
    subst after
    exact Relation.ReflTransGen.refl
  | cons event events ih =>
    simp only [exec] at ran
    split at ran
    · rename_i meets
      split at ran
      · contradiction
      · rename_i next stepped
        exact Relation.ReflTransGen.head ⟨event, meets, stepped⟩ (ih ran)
    · contradiction

theorem reachable_of_exec [∀ state event, Decidable (ok state event)] (isInitial : system.initial start)
    (ran : system.exec ok start events = some after) : system.Reachable ok after :=
  ⟨start, isInitial, path_of_exec ran⟩

theorem path_of_exec_and {also : ε → Prop} [∀ state event, Decidable (ok state event)]
    (all : ∀ event ∈ events, also event) (ran : system.exec ok start events = some after) :
    system.Path (fun state event => ok state event ∧ also event) start after := by
  induction events generalizing start with
  | nil =>
    simp only [exec, Option.some.injEq] at ran
    subst after
    exact Relation.ReflTransGen.refl
  | cons event events ih =>
    simp only [exec] at ran
    split at ran
    · rename_i meets
      split at ran
      · contradiction
      · rename_i next stepped
        refine Relation.ReflTransGen.head ⟨event, ⟨meets, all event (List.mem_cons_self ..)⟩, stepped⟩ (ih ?_ ran)
        exact fun other member => all other (List.mem_cons_of_mem _ member)
    · contradiction

theorem reachable_of_exec_and {also : ε → Prop} [∀ state event, Decidable (ok state event)]
    (isInitial : system.initial start) (all : ∀ event ∈ events, also event)
    (ran : system.exec ok start events = some after) :
    system.Reachable (fun state event => ok state event ∧ also event) after :=
  ⟨start, isInitial, path_of_exec_and all ran⟩

theorem Path.weaken {other : σ → ε → Prop} (path : system.Path ok start after)
    (weaker : ∀ state event, ok state event → other state event) : system.Path other start after :=
  Relation.ReflTransGen.mono
    (fun _ _ ⟨event, meets, stepped⟩ => ⟨event, weaker _ _ meets, stepped⟩) _ _ path

theorem Path.invariant {holds : σ → Prop} {start after : σ}
    (path : system.Path ok start after) (atStart : holds start)
    (kept : ∀ before event next, holds before → ok before event →
      system.step before event = some next → holds next) : holds after := by
  induction path with
  | refl => exact atStart
  | tail _ last ih =>
    obtain ⟨event, meets, stepped⟩ := last
    exact kept _ event _ ih meets stepped

theorem Reachable.invariant {holds : σ → Prop} {state : σ} (reached : system.Reachable ok state)
    (initially : ∀ start, system.initial start → holds start)
    (kept : ∀ before event next, holds before → ok before event →
      system.step before event = some next → holds next) : holds state := by
  obtain ⟨start, isInitial, path⟩ := reached
  exact path.invariant (initially start isInitial) kept

/-- Forward simulation: a relation between the states of the machine and those
of a more abstract step relation, which every step of the machine keeps by some
number of abstract steps. -/
structure Simulates (system : System σ ε) (ok : σ → ε → Prop)
    (abstract : α → α → Prop) (related : σ → α → Prop) : Prop where
  kept : ∀ before event after image, related before image → ok before event →
    system.step before event = some after →
    ∃ next, Relation.ReflTransGen abstract image next ∧ related after next

theorem Simulates.path {abstract : α → α → Prop} {related : σ → α → Prop}
    (simulates : Simulates system ok abstract related) {image : α} (path : system.Path ok start after)
    (atStart : related start image) : ∃ next, Relation.ReflTransGen abstract image next ∧ related after next := by
  induction path with
  | refl => exact ⟨image, Relation.ReflTransGen.refl, atStart⟩
  | tail _ last ih =>
    obtain ⟨event, meets, stepped⟩ := last
    obtain ⟨middle, first, relatedMiddle⟩ := ih
    obtain ⟨next, second, relatedNext⟩ := simulates.kept _ event _ middle relatedMiddle meets stepped
    exact ⟨next, first.trans second, relatedNext⟩

end System

end OpenNebula.Library
