import OpenNebula.Library.Map
import OpenNebula.Library.PyText
import OpenNebula.Library.Transition

namespace OpenNebula.Cognit

open Library

/-! # Scaling the clusters to the optimizer's decision

`scale_clusters_and_update_db`, with its queue of scale-downs to retry.  A device and a flavour are
named together by one text, and so is what the optimizer places.
-/

namespace Scaling

abbrev Text := List Char

def composite (pair : Text × Text) : Text := pair.1 ++ ':' :: ':' :: ':' :: pair.2

/-- `split(':::', 1)`; nothing when the separator is missing -/
def splitComposite : Text → Option (Text × Text)
  | ':' :: ':' :: ':' :: flavour => some ([], flavour)
  | char :: rest => (splitComposite rest).map fun pair => (char :: pair.1, pair.2)
  | [] => none

def flavourOf (id : Text) : Option Text := (splitComposite id).map Prod.snd

/-- A cluster and a flavour -/
abbrev Key := Nat × Text

inductive ScaleResult where
  | success
  | timeout
  | failed
deriving DecidableEq

/-- What the optimizer returns: each composite identifier is placed on a cluster whose size is set. -/
structure Solution where
  nVms : Map Nat Nat
  allocs : Map Text Nat
  separated : ∀ alloc ∈ allocs.entries, (flavourOf alloc.1).isSome
  sized : ∀ alloc ∈ allocs.entries, alloc.2 ∈ nVms

/-- The arguments of a call, and how each request ends that it may send -/
structure Cycle where
  solution : Solution
  feasible : List Nat
  flavours : Map Nat Text
  currentCardinality : Map Nat Nat
  outcome : Key → ScaleResult

def getFlavourFromTemplate (flavours : Text) : Option Text :=
  let first := PyText.strip (flavours.takeWhile (· ≠ ','))
  if first = [] then none else some first

namespace Cycle

variable (cycle : Cycle)

def current (cluster : Nat) : Nat := (cycle.currentCardinality.lookup cluster).getD 0

def clustersInSolution : List Nat := cycle.solution.allocs.entries.map fun alloc => alloc.2

def solutionTargets : Map Key Nat :=
  cycle.solution.allocs.entries.foldl
    (fun targets alloc =>
      match cycle.solution.nVms.lookup alloc.2, flavourOf alloc.1 with
      | some target, some flavour => Map.insertNew (alloc.2, flavour) target targets
      | _, _ => targets)
    ∅

/-- `cluster_flavour_targets` before the retries are merged -/
def freshTargets : Map Key Nat :=
  cycle.feasible.foldl
    (fun targets cluster =>
      if cluster ∈ cycle.clustersInSolution then targets
      else
        match getFlavourFromTemplate ((cycle.flavours.lookup cluster).getD []) with
        | none => targets
        | some flavour => Map.insertNew (cluster, flavour) 0 targets)
    cycle.solutionTargets

/-- Fresh decisions take priority. -/
def targets (pending : Map Key Nat) : Map Key Nat :=
  pending.entries.foldl (fun targets entry => Map.insertNew entry.1 entry.2 targets) cycle.freshTargets

section

variable (pending : Map Key Nat)

def scaleUps : Map Key Nat :=
  Map.filter (fun key target => cycle.current key.1 < target) (cycle.targets pending)

def scaleDowns : Map Key Nat :=
  Map.filter (fun key target => target < cycle.current key.1) (cycle.targets pending)

def sent : List Key := (cycle.scaleUps pending).keys ++ (cycle.scaleDowns pending).keys

def scaled : List Key :=
  (cycle.sent pending).filter fun key => cycle.outcome key = .success

end

end Cycle

/-- The cluster of each device and flavour -/
abbrev Rows := Map (Text × Text) Nat

structure State where
  pending : Map Key Nat
  rows : Rows

inductive Event where
  | cycle (cycle : Cycle)
  /-- The frontend and the clean-up change the stored assignments between two cycles. -/
  | store (rows : Rows)

end Scaling

end OpenNebula.Cognit
