import OpenNebula.Library.PyText
import Mathlib.Order.Basic

namespace OpenNebula.Pyoneai

open Library

/-! # Metrics of services and clusters

The accessors of services and clusters aggregate the time series of their members.
-/

structure Timeseries (Time Entity Value : Type) [LT Time] where
  timeIndex : List Time
  entity : Entity
  data : List Value
  increasing : timeIndex.Pairwise (· < ·)
  shape : data.length = timeIndex.length
  nonempty : data ≠ []

inductive Aggregation where
  | sum
  | mean
  | min
  | max
  | median

def aggFunctions : String → Option Aggregation
  | "sum" => some .sum
  | "avg" => some .mean
  | "mean" => some .mean
  | "min" => some .min
  | "max" => some .max
  | "median" => some .median
  | _ => none

inductive AggregateError where
  /-- `np.concatenate` of arrays of different lengths -/
  | concatenate
  | duplicateEntities
  | unsupported (name : String)

section Aggregate

variable {Time Entity Value : Type} [LT Time]

namespace Timeseries

def samples (series : Timeseries Time Entity Value) : List (Time × Value) := series.timeIndex.zip series.data

theorem length_samples (series : Timeseries Time Entity Value) : series.samples.length = series.data.length := by
  simp [samples, series.shape]

end Timeseries

def stacked (length : Nat) (members : List (Timeseries Time Entity Value)) : List (List (Time × Value)) :=
  (List.range length).map fun row => members.filterMap fun member => member.samples[row]?

def combinedData (length : Nat) (members : List (Timeseries Time Entity Value)) : List (List Value) :=
  (stacked length members).map (List.map Prod.snd)

theorem length_combinedData (length : Nat) (members : List (Timeseries Time Entity Value)) :
    (combinedData length members).length = length := by
  simp [combinedData, stacked]

/-- The arrays are put side by side, under the time index of the first one. -/
def aggregateTimeseries [DecidableEq Entity] (reduce : Aggregation → List Value → Value)
    (timeseriesList : List (Option (Timeseries Time Entity Value))) (aggregationFn : String)
    (targetEntity : Entity) : Except AggregateError (Option (Timeseries Time Entity Value)) :=
  match timeseriesList.filterMap id with
  | [] => .ok none
  | first :: rest =>
    let validTs := first :: rest
    if validTs.any fun series => series.data.length ≠ first.data.length then .error .concatenate
    else if ¬ (validTs.map Timeseries.entity).Nodup then .error .duplicateEntities
    else
      match aggFunctions aggregationFn with
      | none => .error (.unsupported aggregationFn)
      | some function =>
        .ok (some
          { timeIndex := first.timeIndex
            entity := targetEntity
            data := (combinedData first.data.length validTs).map (reduce function)
            increasing := first.increasing
            shape := by rw [List.length_map, length_combinedData, first.shape]
            nonempty := by
              rw [ne_eq, List.map_eq_nil_iff, ← List.length_eq_zero_iff, length_combinedData,
                List.length_eq_zero_iff]
              exact first.nonempty })

end Aggregate

inductive EntityUID where
  | host (id : Int)
  | cluster (id : Int)
  | virtualMachine (id : Int)
  | service (id : Int)
  | serviceRole (id : List Char)

inductive LookupError where
  | serviceNotFound (service : Int)
  | idFormat (id : List Char)
  | serviceId (id : List Char)
  | roleNotFound (role : List Char) (service : Int)
  | entityType
deriving DecidableEq

abbrev ServiceTopology := List (Int × List (List Char × List Nat))

namespace ServiceTopology

variable (decimals : PyText.Decimals) (topology : ServiceTopology)

def getVmsForEntity : EntityUID → Except LookupError (List Nat)
  | .service service =>
    match topology.lookup service with
    | none => .error (.serviceNotFound service)
    | some roles => .ok (roles.flatMap Prod.snd)
  | .serviceRole id =>
    match PyText.rsplit '_' id with
    | none => .error (.idFormat id)
    | some (front, role) =>
      match decimals.int front with
      | none => .error (.serviceId id)
      | some service =>
        match topology.lookup service with
        | none => .error (.serviceNotFound service)
        | some roles =>
          match roles.lookup role with
          | none => .error (.roleNotFound role service)
          | some vms => .ok vms
  | .host _ | .cluster _ | .virtualMachine _ => .error .entityType

def role (service : Int) (name : List Char) : Option (List Nat) :=
  (topology.lookup service).bind fun roles => roles.lookup name

def roleId (service : Int) (name : List Char) : EntityUID := .serviceRole (PyText.str service ++ '_' :: name)

end ServiceTopology

namespace ServiceAggregatingAccessor

variable {Time Entity Value : Type} [LT Time] [DecidableEq Entity]

def aggregateTimeseries (reduce : Aggregation → List Value → Value)
    (timeseriesList : List (Option (Timeseries Time Entity Value))) (aggregationFn : String)
    (targetEntity : Entity) : Except AggregateError (Option (Timeseries Time Entity Value)) :=
  Pyoneai.aggregateTimeseries reduce timeseriesList aggregationFn targetEntity

end ServiceAggregatingAccessor

namespace ClusterAggregatingAccessor

variable {Time Entity Value : Type} [LT Time] [DecidableEq Entity]

def aggregateTimeseries (reduce : Aggregation → List Value → Value)
    (timeseriesList : List (Option (Timeseries Time Entity Value))) (aggregationFn : String)
    (targetEntity : Entity) : Except AggregateError (Option (Timeseries Time Entity Value)) :=
  Pyoneai.aggregateTimeseries reduce timeseriesList aggregationFn targetEntity

end ClusterAggregatingAccessor

section ByTime

variable {Time Entity Value : Type} [Preorder Time] [DecidableEq Time] [DecidableEq Entity]

def valuesAt (members : List (Timeseries Time Entity Value)) (time : Time) : List Value :=
  members.flatMap fun member => (member.samples.filter fun sample => sample.1 = time).map Prod.snd

structure ByTime (aggregate : List Value → Value) (members : List (Timeseries Time Entity Value))
    (result : Timeseries Time Entity Value) : Prop where
  value : ∀ sample ∈ result.samples, sample.2 = aggregate (valuesAt members sample.1)
  unmixed : ∀ row ∈ result.timeIndex.zip (stacked result.data.length members),
    ∀ sample ∈ row.2, sample.1 = row.1

def AggregatesByTime (reduce : Aggregation → List Value → Value) (aggregationFn : String)
    (members : List (Timeseries Time Entity Value)) :
    Except AggregateError (Option (Timeseries Time Entity Value)) → Prop
  | .error _ => True
  | .ok none => members = []
  | .ok (some result) => ∀ function ∈ aggFunctions aggregationFn, ByTime (reduce function) members result

end ByTime

end OpenNebula.Pyoneai
