import OpenNebula.Raft.ZoneAPI

namespace OpenNebula.Federation

open Library Sql Raft

/-! # Replication of the federated records (`FedReplicaManager`)

The master zone sends its federated records one by one to each slave zone.  A
federated record has the same `fed_index` in every zone; on the master it is
also its index in the log.  An index that the source writes as `UINT64_MAX` is
`none`.
-/

structure ZoneServers where
  zoneId : Int
  next : Option Nat
  last : Option Nat

structure FedReplicaThread where
  pendingRequests : Bool
  retryRequest : Bool
  call : Option Nat

structure FedReplicaManager where
  zones : Map Int ZoneServers
  threadPool : Map Int FedReplicaThread
  /-- the calls of threads that left the pool -/
  finalized : List (Int × Nat)

inductive NextRecord where
  | record (lr : LogDBRecord)
  | error (message : String)
  | noRecords

namespace FedReplicaManager

def empty : FedReplicaManager := { zones := ∅, threadPool := ∅, finalized := [] }

section

variable (frm : FedReplicaManager)

def replicateAll : FedReplicaManager :=
  { frm with
    threadPool := Map.modify (fun _ thread => { thread with pendingRequests := true })
      frm.threadPool }

section

variable (zoneId : Int)

def updateThread
    (update : FedReplicaThread → FedReplicaThread) : FedReplicaManager :=
  { frm with
    threadPool := Map.modify (fun id thread => if id = zoneId then update thread else thread)
      frm.threadPool }

def replicate : FedReplicaManager :=
  frm.updateThread zoneId fun thread => { thread with pendingRequests := true }

def addReplicaThread : FedReplicaManager :=
  { frm with threadPool := Map.insertNew zoneId ⟨false, false, none⟩ frm.threadPool }

def calls (threadPool : Map Int FedReplicaThread) : List (Int × Nat) :=
  threadPool.entries.filterMap fun thread => thread.2.call.map (thread.1, ·)

def deleteReplicaThread : FedReplicaManager :=
  { frm with
    finalized := frm.finalized ++ (calls frm.threadPool).filter fun call => call.1 = zoneId
    threadPool := frm.threadPool.erase zoneId }

def stopReplicaThreads : FedReplicaManager :=
  { frm with finalized := frm.finalized ++ calls frm.threadPool, threadPool := ∅ }

def updateZones (logdb : LogDB) (zoneIds : List Int) : FedReplicaManager :=
  { frm with
    zones := zoneIds.foldl
      (fun zones id => Map.insertNew id ⟨id, logdb.lastFederated, none⟩ zones) ∅ }

def startReplicaThreads (logdb : LogDB) (zoneIds : List Int) : FedReplicaManager :=
  zoneIds.foldl addReplicaThread (frm.updateZones logdb zoneIds)

def throughInt (index : Option Nat) : Option Nat :=
  let word := index.getD (2 ^ 64 - 1) % 2 ^ 32
  if word < 2 ^ 31 then some word
  else if word = 2 ^ 32 - 1 then none
  else some (2 ^ 64 - 2 ^ 32 + word)

def addZone (logdb : LogDB) (zoneId : Int) : FedReplicaManager :=
  addReplicaThread
    { frm with
      zones := Map.insertNew zoneId ⟨zoneId, throughInt logdb.lastFederated, none⟩ frm.zones }
    zoneId

def deleteZone : FedReplicaManager :=
  if zoneId ∈ frm.zones then
    deleteReplicaThread { frm with zones := frm.zones.erase zoneId } zoneId
  else frm

end

section

variable (logdb : LogDB)

/-- The zone whose next record is looked up: `next` is set when it is not known,
and moved when the zone has that record. -/
def advance (zone : ZoneServers) : ZoneServers :=
  let zone := if zone.next = none then { zone with next := logdb.lastFederated } else zone
  if zone.last = zone.next then
    { zone with next := zone.next.bind logdb.nextFederated }
  else zone

def loadRecord (zone : ZoneServers) : NextRecord :=
  match zone.next with
  | none => .noRecords
  | some next =>
    match logdb.previousFederated next with
    | none => .error ("Missing federation record previous to: " ++ toString next)
    | some prevIndex =>
      match logdb.getLogRecord next prevIndex with
      | none => .error ("Failed to load federation log record " ++ toString next ++
          " for zone " ++ toString zone.zoneId)
      | some lr => .record lr

def getNextRecord (zoneId : Int) : FedReplicaManager × NextRecord :=
  match frm.zones.lookup zoneId with
  | none => (frm, .error "")
  | some zone =>
    let zone := advance logdb zone
    ({ frm with zones := frm.zones.insert zoneId zone }, loadRecord logdb zone)

def replicateSuccess (zoneId : Int) : FedReplicaManager :=
  match frm.zones.lookup zoneId with
  | none => frm
  | some zone =>
    let next := zone.next.bind logdb.nextFederated
    let frm := { frm with
      zones := frm.zones.insert zoneId { zone with last := zone.next, next } }
    if next ≠ none then frm.replicate zoneId else frm

def replicateFailure (zoneId : Int)
    (lastZone : Option Nat) : FedReplicaManager :=
  match frm.zones.lookup zoneId with
  | none => frm
  | some zone =>
    let zone := match lastZone with
      | none => zone
      | some last => { zone with last := lastZone, next := logdb.nextFederated last }
    let frm := { frm with zones := frm.zones.insert zoneId zone }
    if zone.next ≠ none then frm.replicate zoneId else frm

end

end

/-- Returns 0 when the record was written, the last federated index when the
record does not follow it, and `UINT64_MAX` when it could not be written. -/
def applyLogRecord (logdb : LogDB) (index : Nat) (prev : Option Nat) (sql : String)
    (outcome : LogDB.WriteOutcome) : LogDB × Option Nat :=
  let lastIndex := logdb.lastFederated
  if prev ≠ lastIndex then (logdb, lastIndex)
  else
    match logdb.execWr sql (some index) outcome with
    | (logdb, false) => (logdb, none)
    | (logdb, true) => (logdb, some 0)

end FedReplicaManager

/-- The error code and the attributes `replication_idx` and `resp_msg` of the
request. -/
structure FedResponse where
  code : ErrorCode
  replicationIdx : Option Nat
  respMsg : String

structure FedLogParams where
  index : Nat
  prev : Option Nat
  sql : String

namespace ZoneAPI

def replicateFedLog (isSlave : Bool) (logdb : LogDB) (params : FedLogParams) (oneadmin : Bool)
    (outcome : LogDB.WriteOutcome) : LogDB × FedResponse :=
  if oneadmin = false then (logdb, ⟨.authorization, none, ""⟩)
  else if logdb.cache then (logdb, ⟨.action, none, "Server is in cache mode."⟩)
  else if params.sql = "" then
    (logdb, ⟨.replication, none, "Received an empty SQL command at index" ++ toString params.index⟩)
  else if isSlave = false then
    (logdb, ⟨.replication, none, "Cannot replicate federate log records on federation master"⟩)
  else
    match FedReplicaManager.applyLogRecord logdb params.index params.prev params.sql outcome with
    | (logdb, some 0) => (logdb, ⟨.success, some params.index, ""⟩)
    | (logdb, none) =>
      (logdb, ⟨.replication, some params.index,
        "Error replicating log entry " ++ toString params.index ++ " in zone"⟩)
    | (logdb, some last) =>
      (logdb, ⟨.replication, some last, "Zone log is outdated last log index is " ++ toString last⟩)

end ZoneAPI

end OpenNebula.Federation
