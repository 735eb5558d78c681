import OpenNebula.Library.Map

namespace OpenNebula.Raft

open Library

/-! # Clients waiting for replication (`ReplicaRequest`, `ReplicaRequestMap`)

A request lives on the stack of the thread that writes; the map holds pointers
to requests.  Here a pointer is a number and `objects` is what it points to.
`notified` counts the calls of `notify`.
-/

structure ReplicaRequest where
  index : Nat
  toCommit : Int
  replicas : Int
  result : Bool
  timeout : Bool
  message : String
  notified : Nat

namespace ReplicaRequest

def make (index : Nat) : ReplicaRequest :=
  { index, toCommit := -1, replicas := 1, result := false, timeout := false, message := "",
    notified := 0 }

def notify (rr : ReplicaRequest) : ReplicaRequest := { rr with notified := rr.notified + 1 }

def addReplica (rr : ReplicaRequest) : ReplicaRequest :=
  let rr := { rr with replicas := rr.replicas + 1 }
  let rr := if 0 < rr.toCommit then { rr with toCommit := rr.toCommit - 1 } else rr
  if rr.toCommit = 0 then { rr with result := true, timeout := false }.notify else rr

def stepDown (rr : ReplicaRequest) : ReplicaRequest :=
  { rr with result := false, timeout := false, message := "oned is now follower" }.notify

end ReplicaRequest

structure ReplicaRequestMap where
  /-- index to pointer, `none` for a slot that is only allocated -/
  requests : Map Nat (Option Nat)
  objects : Map Nat ReplicaRequest

namespace ReplicaRequestMap

section

variable (map : ReplicaRequestMap)

def update (pointer : Nat) (change : ReplicaRequest → ReplicaRequest) : ReplicaRequestMap :=
  { map with objects := Map.modify (fun p rr => if p = pointer then change rr else rr) map.objects }

def addReplica (map : ReplicaRequestMap) (rindex : Nat) : ReplicaRequestMap × Int :=
  match map.requests.lookup rindex with
  | some (some pointer) =>
    let map := map.update pointer .addReplica
    match map.objects.lookup pointer with
    | some rr =>
      (if rr.toCommit = 0 then { map with requests := map.requests.erase rindex } else map, rr.toCommit)
    | none => (map, -1)
  | _ => (map, -1)

def allocate (rindex : Nat) : ReplicaRequestMap :=
  { map with requests := Map.insertNew rindex none map.requests }

def set (rindex pointer : Nat) : ReplicaRequestMap :=
  { map with requests := map.requests.insert rindex (some pointer) }

def remove (rindex : Nat) : ReplicaRequestMap :=
  { map with requests := map.requests.erase rindex }

def clear : ReplicaRequestMap :=
  let notified := map.requests.entries.foldl
    (fun map slot => match slot.2 with
      | none => map
      | some pointer => map.update pointer .stepDown) map
  { notified with requests := ∅ }

def isReplicable (rindex : Nat) : Bool :=
  match map.requests.lookup rindex with
  | none => true
  | some slot => slot.isSome

end

end ReplicaRequestMap

end OpenNebula.Raft
