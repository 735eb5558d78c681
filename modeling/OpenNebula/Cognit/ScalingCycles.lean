import OpenNebula.Cognit.ClusterScaler

namespace OpenNebula.Cognit.Scaling

open Library

/-! # What the cycles bring about -/

section Merge

variable {κ α ι : Type} [DecidableEq κ]

theorem lookup_foldl_insertNew (gives : ι → Option (κ × α)) (items : List ι) (start : Map κ α) (key : κ) :
    (items.foldl (fun rows item =>
        match gives item with
        | some row => Map.insertNew row.1 row.2 rows
        | none => rows) start).lookup key =
      (start.lookup key).or (((items.filterMap gives).find? fun row => row.1 = key).map Prod.snd) := by
  induction items generalizing start with
  | nil => simp
  | cons item rest hypothesis =>
    rw [List.foldl_cons, hypothesis]
    cases given : gives item with
    | none => simp [given]
    | some row =>
      rw [List.filterMap_cons_some given, List.find?_cons]
      by_cases same : row.1 = key
      · subst same
        cases found : start.lookup row.1 <;> simp [found]
      · have apart : key ≠ row.1 := fun equal => same equal.symm
        simp [same, Map.lookup_insertNew_ne apart]

end Merge

namespace Cycle

variable (cycle : Cycle) (pending : Map Key Nat)

variable {key : Key} {target : Nat}

end Cycle

variable {pair : Text × Text}

def Separable (rows : Rows) : Prop := ∀ row ∈ rows.entries, splitComposite (composite row.1) = some row.1

instance (rows : Rows) : Decidable (Separable rows) := inferInstanceAs (Decidable (∀ row ∈ rows.entries, _))

theorem Separable.split {rows : Rows} (separable : Separable rows) {stored : Nat}
    (found : rows.lookup pair = some stored) : splitComposite (composite pair) = some pair :=
  separable ⟨pair, stored⟩ (Map.mem_entries_iff.2 found)

section Update

variable {cycle : Cycle} {keys : List Key} {rows : Rows} {pair : Text × Text}

/-- A row is the stored one, or it is the allocation of its pair and its cluster has been scaled. -/
def Placed (cycle : Cycle) (keys : List Key) (pair : Text × Text) (before after : Nat) : Prop :=
  after = before ∨ (cycle.solution.allocs.lookup (composite pair) = some after ∧
    ∃ flavour, flavourOf (composite pair) = some flavour ∧ (after, flavour) ∈ keys)

end Update

variable (cycle : Cycle) (pending : Map Key Nat)

def Cycle.targetSum (cluster : Nat) : Nat :=
  Map.total id (Map.filter (fun key _ => key.1 = cluster) (cycle.targets pending))

structure Follows (before : State) (cycle : Cycle) (after : State) : Prop where
  stored : (∀ key ∈ cycle.sent before.pending, cycle.outcome key = .success) →
    ∀ pair held cluster, after.rows.lookup pair = some held →
      cycle.solution.allocs.lookup (composite pair) = some cluster → held = cluster
  sized : ∀ cluster ∈ cycle.clustersInSolution, ∀ size, cycle.solution.nVms.lookup cluster = some size →
    cycle.targetSum before.pending cluster = size
  /-- An assignment changes only to its allocation, on a cluster that has its size. -/
  moved : ∀ pair, (before.rows.lookup pair = none ∧ after.rows.lookup pair = none) ∨
    ∃ held now, before.rows.lookup pair = some held ∧ after.rows.lookup pair = some now ∧
      (now = held ∨ (cycle.solution.allocs.lookup (composite pair) = some now ∧
        ∃ flavour, flavourOf (composite pair) = some flavour ∧
          ((cycle.targets before.pending).lookup (now, flavour) = some (cycle.current now) ∨
            ((now, flavour) ∈ cycle.sent before.pending ∧ cycle.outcome (now, flavour) = .success))))
  retried : ∀ key target, before.pending.lookup key = some target →
    key ∈ cycle.freshTargets ∨ (cycle.scaleDowns before.pending).lookup key = some target
  queued : ∀ key target, (cycle.scaleDowns before.pending).lookup key = some target →
    cycle.outcome key = .timeout → after.pending.lookup key = some target

/-- A pair whose cluster has its target size is stored there already. -/
def Cycle.Moved (rows : Rows) : Prop :=
  ∀ row ∈ rows.entries, ∀ alloc ∈ cycle.solution.allocs.entries, alloc.1 = composite row.1 →
    cycle.solution.nVms.lookup alloc.2 = some (cycle.current alloc.2) → row.2 = alloc.2

/-- The pairs on one cluster have one flavour, or the cluster is emptied. -/
def Cycle.OneFlavour : Prop :=
  ∀ alloc ∈ cycle.solution.allocs.entries, ∀ other ∈ cycle.solution.allocs.entries, alloc.2 = other.2 →
    cycle.solution.nVms.lookup alloc.2 = some 0 ∨ flavourOf alloc.1 = flavourOf other.1

/-- A retry without a new target is below the size of its cluster, and empties it if it is one of the
solution. -/
def Cycle.StillDown : Prop :=
  ∀ entry ∈ pending.entries, entry.1 ∉ cycle.freshTargets →
    entry.2 < cycle.current entry.1.1 ∧ (entry.1.1 ∈ cycle.clustersInSolution → entry.2 = 0)

instance (rows : Rows) : Decidable (cycle.Moved rows) := inferInstanceAs (Decidable (∀ row ∈ rows.entries, _))

instance : Decidable cycle.OneFlavour := inferInstanceAs (Decidable (∀ alloc ∈ _, _))

instance : Decidable (cycle.StillDown pending) := inferInstanceAs (Decidable (∀ entry ∈ pending.entries, _))

/-- The condition on a step of a run -/
def Clean (state : State) : Event → Prop
  | .store _ => True
  | .cycle cycle =>
    Separable state.rows ∧ cycle.Moved state.rows ∧ cycle.OneFlavour ∧ cycle.StillDown state.pending

instance (state : State) (event : Event) : Decidable (Clean state event) :=
  match event with
  | .store _ => .isTrue trivial
  | .cycle cycle => inferInstanceAs (Decidable (Separable state.rows ∧ cycle.Moved state.rows ∧ cycle.OneFlavour ∧
      cycle.StillDown state.pending))

section Cycle

variable {cycle : Cycle} {pending : Map Key Nat}

end Cycle

def onFirst : State where
  pending := ∅
  rows := AList.insert (['d'], ['f']) 1 ∅

end OpenNebula.Cognit.Scaling
