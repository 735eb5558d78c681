import OpenNebula.Library.Piecewise
import OpenNebula.Library.Table
import Mathlib.Algebra.Order.Floor.Defs
import Mathlib.Data.List.Sort
import Mathlib.Data.Prod.Lex
import Mathlib.Data.Rat.Floor

namespace OpenNebula.Cognit.DeviceAlloc

open Library

/-! # The allocation of devices to clusters (`device_alloc`)

The arithmetic is exact.  The solver is a parameter: it is given the program of an attempt.
-/

structure Cluster where
  id : ℕ
  maxCapacity : ℚ
  /-- Pairs of a CPU usage and an energy consumption -/
  energy : List (ℚ × ℚ)
  carbonIntensity : ℚ := 0
deriving DecidableEq

structure Device (δ : Type*) where
  id : δ
  load : ℚ
  capacityLoad : ℚ
  clusterIds : List ℕ
deriving DecidableEq

/-- The arguments of `optimize_contention`; devices and clusters are known by their identifiers. -/
structure Problem (δ : Type*) where
  devices : List (Device δ)
  clusters : List Cluster
  minCapacity : ℤ := 0
  maxCapacity : Option ℤ := none
  contentionCorr : ℚ := 2
  devicesDiffer : (devices.map Device.id).Nodup
  clustersDiffer : (clusters.map Cluster.id).Nodup
  clustersKnown : ∀ device ∈ devices, ∀ id ∈ device.clusterIds, id ∈ clusters.map Cluster.id
  breakpointsKnown : ∀ cluster ∈ clusters, 2 ≤ cluster.energy.length

/-- `isclose` with a relative tolerance of 0.01 -/
def isclose (first second : ℚ) : Bool := |first - second| ≤ 1 / 100 * max |first| |second|

/-- `_energy_bpts`: without a correction there is no contention at all. -/
def Cluster.breakpoints (cluster : Cluster) (contentionCorr : Option ℚ) : List (ℚ × ℚ) :=
  match cluster.energy.reverse with
  | last :: previous :: _ =>
    match contentionCorr with
    | none => if isclose last.2 previous.2 then cluster.energy.dropLast else cluster.energy
    | some corr =>
      if corr ≠ 1 ∧ isclose last.2 previous.2 then cluster.energy.dropLast ++ [(last.1, last.2 * corr)]
      else cluster.energy
  | _ => cluster.energy

def sorted (points : List (ℚ × ℚ)) : List (ℚ × ℚ) := ((points.map toLex).insertionSort (· ≤ ·)).map ofLex

def Cluster.curve (cluster : Cluster) (contentionCorr : Option ℚ) : List Segment :=
  segments (sorted (cluster.breakpoints contentionCorr))

structure Values (δ : Type*) where
  x : δ → ℕ → Bool
  nVms : ℕ → ℤ
  segInd : ℕ → ℕ → Bool
  segWeight : ℕ → ℕ → ℚ

structure Result (δ : Type*) where
  /-- The items of the dictionary -/
  allocs : List (δ × ℕ)
  nVms : Table ℕ ℤ
  objective : ℚ

variable {δ : Type*} [DecidableEq δ]

namespace Problem

variable (problem : Problem δ) (contentionCorr : Option ℚ) (values : Values δ)

def capUb : ℚ :=
  match problem.maxCapacity with
  | none => ∑ cluster ∈ problem.clusters.toFinset, cluster.maxCapacity
  | some maxCapacity => maxCapacity

def Named (cluster : Cluster) : Prop := ∃ device ∈ problem.devices, cluster.id ∈ device.clusterIds

instance (cluster : Cluster) : Decidable (problem.Named cluster) :=
  inferInstanceAs (Decidable (∃ device ∈ problem.devices, _))

def clusterLoad (load : Device δ → ℚ) (id : ℕ) : ℚ :=
  ∑ device ∈ problem.devices.toFinset with id ∈ device.clusterIds, bit (values.x device.id id) * load device

/-- The bounds of the variables and the constraints of an attempt -/
structure Satisfies : Prop where
  nVmsBounds : ∀ cluster ∈ problem.clusters,
    0 ≤ values.nVms cluster.id ∧ (values.nVms cluster.id : ℚ) ≤ min cluster.maxCapacity problem.capUb
  deviceAllocated : ∀ device ∈ problem.devices, device.clusterIds ≠ [] →
    ∑ id ∈ device.clusterIds.toFinset, bit (values.x device.id id) = 1
  capacity : ∀ cluster ∈ problem.clusters, problem.Named cluster →
    problem.clusterLoad values Device.capacityLoad cluster.id ≤ cluster.maxCapacity
  vmCountLb : ∀ cluster ∈ problem.clusters, problem.Named cluster →
    problem.clusterLoad values Device.capacityLoad cluster.id ≤ values.nVms cluster.id
  vmCountUb : ∀ cluster ∈ problem.clusters, problem.Named cluster →
    values.nVms cluster.id ≤ problem.clusterLoad values Device.capacityLoad cluster.id + 9999 / 10000
  capacityLb : (problem.minCapacity : ℚ) ≤ ∑ cluster ∈ problem.clusters.toFinset, (values.nVms cluster.id : ℚ)
  capacityUb : ∑ cluster ∈ problem.clusters.toFinset, (values.nVms cluster.id : ℚ) ≤ problem.capUb
  piecewise : ∀ cluster ∈ problem.clusters, 1 < (cluster.breakpoints contentionCorr).length →
    Encoded (cluster.curve contentionCorr) (values.segInd cluster.id) (values.segWeight cluster.id) ∧
      problem.clusterLoad values Device.load cluster.id =
        interpolate Prod.fst (cluster.curve contentionCorr) (values.segInd cluster.id) (values.segWeight cluster.id)

def objective : ℚ :=
  ∑ cluster ∈ problem.clusters.toFinset, cluster.carbonIntensity *
    interpolate Prod.snd (cluster.curve contentionCorr) (values.segInd cluster.id) (values.segWeight cluster.id)

def Optimal : Prop :=
  problem.Satisfies contentionCorr values ∧
    ∀ other, problem.Satisfies contentionCorr other →
      problem.objective contentionCorr values ≤ problem.objective contentionCorr other

def allocated (device : Device δ) : Option ℕ :=
  (device.clusterIds.eraseDups.filter (values.x device.id)).getLast?

def result : Result δ where
  allocs := problem.devices.filterMap fun device => (allocated values device).map fun id => (device.id, id)
  nVms := ⟨problem.clusters.map Cluster.id, values.nVms⟩
  objective := problem.objective contentionCorr values

abbrev Solver (δ : Type*) := Option ℚ → Option (Values δ)

variable (solve : Solver δ)

def optimize : Option (Result δ) := (solve contentionCorr).map (problem.result contentionCorr)

def optimizeContention : Option (Result δ) :=
  match problem.optimize none solve with
  | some result => some result
  | none => problem.optimize (some problem.contentionCorr) solve

end Problem

namespace Problem

variable (problem : Problem δ) (solve : Problem.Solver δ)

/-- The solver finds an optimal solution, or there is none. -/
def Exact : Prop := ∀ contentionCorr,
  match solve contentionCorr with
  | some values => problem.Optimal contentionCorr values
  | none => ¬ ∃ values, problem.Optimal contentionCorr values

def put (result : Result δ) (load : Device δ → ℚ) (id : ℕ) : ℚ :=
  ∑ device ∈ problem.devices.toFinset with (device.id, id) ∈ result.allocs, load device

structure Sound (result : Result δ) : Prop where
  allocated : ∀ device ∈ problem.devices, ∃ id ∈ device.clusterIds,
    (result.allocs.filter fun item => item.1 = device.id) = [(device.id, id)]
  capacity : ∀ cluster ∈ problem.clusters,
    problem.put result Device.capacityLoad cluster.id ≤ cluster.maxCapacity
  nVms : ∀ cluster ∈ problem.clusters,
    result.nVms.lookup cluster.id = some ⌈problem.put result Device.capacityLoad cluster.id⌉
  total : (problem.minCapacity : ℚ) ≤ ∑ id ∈ result.nVms.ids, (result.nVms.get id : ℚ) ∧
    ∑ id ∈ result.nVms.ids, (result.nVms.get id : ℚ) ≤ problem.capUb

def assigned (cluster : δ → ℕ) (load : Device δ → ℚ) (id : ℕ) : ℚ :=
  ∑ device ∈ problem.devices.toFinset with id ∈ device.clusterIds ∧ cluster device.id = id, load device

/-- An assignment of all devices within the limits -/
structure Fits (cluster : δ → ℕ) : Prop where
  named : ∀ device ∈ problem.devices, cluster device.id ∈ device.clusterIds
  capacity : ∀ other ∈ problem.clusters,
    problem.assigned cluster Device.capacityLoad other.id ≤ other.maxCapacity
  total : (problem.minCapacity : ℚ) ≤
      ∑ other ∈ problem.clusters.toFinset, (⌈problem.assigned cluster Device.capacityLoad other.id⌉ : ℚ) ∧
    ∑ other ∈ problem.clusters.toFinset, (⌈problem.assigned cluster Device.capacityLoad other.id⌉ : ℚ) ≤
      problem.capUb
  inSpan : ∀ other ∈ problem.clusters, InSpan other.energy (problem.assigned cluster Device.load other.id)

/-- Every result is sound, and there is one whenever an assignment fits. -/
def Allocates : Prop := ∀ solve, problem.Exact solve →
  match problem.optimizeContention solve with
  | some result => problem.Sound result
  | none => ¬ ∃ cluster, problem.Fits cluster

end Problem

end OpenNebula.Cognit.DeviceAlloc
