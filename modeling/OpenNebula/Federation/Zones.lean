import OpenNebula.Federation.FedReplicaManager
import OpenNebula.Library.Transition

namespace OpenNebula.Federation

open Library Sql Raft

/-! # A master zone and a slave zone

Each zone is the log of its leader.  One event is one uninterrupted piece of a
thread: a write, a handler run on the slave, the part of `replicate()` of the
replication thread before or after its remote call.  A request that was sent
stays in the network: it can be delivered late, many times, or never; each
delivery adds a reply, and the caller takes one of the replies to its call or
gives up.
-/

structure FedPacket where
  id : Nat
  params : FedLogParams

/-- `last` is the `replication_idx` of the response. -/
structure FedReply where
  id : Nat
  success : Bool
  last : Option Nat

structure Zones where
  master : LogDB
  frm : FedReplicaManager
  slave : LogDB
  nextCall : Nat
  requests : List FedPacket
  replies : List FedReply

inductive FedThreadRef where
  | pool
  | finalized (position : Nat)

inductive FedEvent where
  | federatedWrite (cmd : String) (outcome : LogDB.WriteOutcome)
  | masterWrite (cmd : String) (outcome : LogDB.WriteOutcome)
  | slaveWrite (cmd : String) (outcome : LogDB.WriteOutcome)
  | slaveApply (commitIndex : Nat) (rc : Nat → SqlError)
  | replicaCall
  /-- position of the reply, `none` for a failed call -/
  | replicaReply (thread : FedThreadRef) (reply : Option Nat)
  | replicaRetry
  | deliver (request : Nat) (oneadmin : Bool) (outcome : LogDB.WriteOutcome)
  | startReplicaThreads
  | stopReplicaThreads
  | addZone
  | deleteZone
  | masterRestart (now : String)
  | slaveRestart (now : String)

namespace Zones

def restart (logdb : LogDB) (now : String) : LogDB :=
  LogDB.load logdb.solo logdb.cache logdb.table logdb.raftState logdb.executed now

/-- `replicate()` of an idle thread with a pending request, up to the remote call
of `rpc_replicate_log`. -/
def replicaCall (zoneId : Int) (zones : Zones) : Option Zones :=
  match zones.frm.threadPool.lookup zoneId with
  | none => none
  | some thread =>
    if thread.call ≠ none ∨ thread.pendingRequests = false then none
    else
      match zones.frm.getNextRecord zones.master zoneId with
      | (frm, .error _) =>
        some { zones with frm := frm.updateThread zoneId fun _ => ⟨false, true, none⟩ }
      | (frm, .noRecords) =>
        some { zones with frm := frm.updateThread zoneId fun _ => ⟨false, false, none⟩ }
      | (frm, .record lr) =>
        some { zones with
          frm := frm.updateThread zoneId fun thread =>
            { thread with pendingRequests := false, call := some zones.nextCall }
          nextCall := zones.nextCall + 1
          requests := zones.requests ++
            [⟨zones.nextCall, ⟨lr.index, zones.master.previousFederated lr.index, lr.sql⟩⟩] }

def answer (zoneId : Int) (zones : Zones) (call : Nat) (reply : Option Nat) : Option FedReplicaManager :=
  match reply with
  | none => some zones.frm
  | some position =>
    match zones.replies[position]? with
    | none => none
    | some reply =>
      if reply.id ≠ call then none
      else if reply.success then some (zones.frm.replicateSuccess zones.master zoneId)
      else some (zones.frm.replicateFailure zones.master zoneId reply.last)

def replicaReply (zoneId : Int) (zones : Zones) (thread : FedThreadRef) (reply : Option Nat) : Option Zones :=
  match thread with
  | .pool =>
    match (zones.frm.threadPool.lookup zoneId).bind FedReplicaThread.call with
    | none => none
    | some call =>
      (answer zoneId zones call reply).map fun frm =>
        { zones with
          frm := frm.updateThread zoneId fun thread =>
            { thread with call := none, retryRequest := reply = none } }
  | .finalized position =>
    match zones.frm.finalized[position]? with
    | none => none
    | some (_, call) =>
      (answer zoneId zones call reply).map fun frm =>
        { zones with frm := { frm with finalized := frm.finalized.eraseIdx position } }

def deliver (zones : Zones) (request : Nat) (oneadmin : Bool) (outcome : LogDB.WriteOutcome) : Option Zones :=
  match zones.requests[request]? with
  | none => none
  | some packet =>
    let (slave, response) := ZoneAPI.replicateFedLog true zones.slave packet.params oneadmin outcome
    some { zones with
      slave
      replies := zones.replies ++
        [⟨packet.id, response.code = .success, response.replicationIdx⟩] }

def step (zoneId : Int) (zones : Zones) : FedEvent → Option Zones
  | .federatedWrite cmd outcome =>
    match zones.master.execWr cmd (some 0) outcome with
    | (master, false) => some { zones with master }
    | (master, true) => some { zones with master, frm := zones.frm.replicateAll }
  | .masterWrite cmd outcome =>
    some { zones with master := (zones.master.execWr cmd none outcome).1 }
  | .slaveWrite cmd outcome =>
    some { zones with slave := (zones.slave.execWr cmd none outcome).1 }
  | .slaveApply commitIndex rc =>
    some { zones with slave := (zones.slave.applyLogRecords commitIndex rc).1 }
  | .replicaCall => replicaCall zoneId zones
  | .replicaReply thread reply => replicaReply zoneId zones thread reply
  | .replicaRetry =>
    some { zones with
      frm := zones.frm.updateThread zoneId fun thread =>
        { thread with pendingRequests := thread.retryRequest || thread.pendingRequests } }
  | .deliver request oneadmin outcome => deliver zones request oneadmin outcome
  | .startReplicaThreads =>
    some { zones with frm := zones.frm.startReplicaThreads zones.master [zoneId] }
  | .stopReplicaThreads => some { zones with frm := zones.frm.stopReplicaThreads }
  | .addZone => some { zones with frm := zones.frm.addZone zones.master zoneId }
  | .deleteZone => some { zones with frm := zones.frm.deleteZone zoneId }
  | .masterRestart now => some { zones with master := restart zones.master now, frm := .empty }
  | .slaveRestart now => some { zones with slave := restart zones.slave now }

end Zones

end OpenNebula.Federation
