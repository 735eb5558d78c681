import OpenNebula.Federation.FedLog

namespace OpenNebula.Federation

open Library Sql Raft

/-! # What the master knows of the slave

The master keeps the last federated record of a zone in `last`.  It learns it
from the replies: a successful one stands for the record that was sent, a failed
one carries an index of the slave.  The handler of the slave puts the index of
the request there too when the record could not be written, and `UINT64_MAX`, the
last index of a zone without federated records, is taken for such an error.
-/

variable {zones next : Zones} {masterLog slaveLog : List LogEntry}

/-- `_exec_wr` stores the record of the command. -/
def Takes (db : LogDB) (outcome : LogDB.WriteOutcome) : Prop :=
  outcome.stored = true ∧
    if db.solo then outcome.rc db.nextIndex = .success else outcome.isLeader = true

instance (db : LogDB) (outcome : LogDB.WriteOutcome) : Decidable (Takes db outcome) :=
  inferInstanceAs (Decidable (_ ∧ ite _ _ _))

variable {log : List LogEntry} {db : LogDB} {outcome : LogDB.WriteOutcome} {other : FedReplicaManager}

theorem ApplyRun.fedLog {commitIndex : Nat} {before after : LogDB}
    (ran : LogDB.ApplyRun log commitIndex before after) : after.fedLog = before.fedLog := by
  induction ran with
  | done db => rfl
  | next _ _ _ _ ih => exact ih

theorem fedLog_applyLogRecords (repr : db.Represents log) (commitIndex : Nat) (rc : Nat → SqlError) :
    (db.applyLogRecords commitIndex rc).1.fedLog = db.fedLog :=
  ApplyRun.fedLog (repr.applyLogRecords commitIndex rc)

theorem fedLog_execWr (zone : db.Zone log) (cmd : String) (fedIndex : Option Nat) (outcome : LogDB.WriteOutcome) :
    db.fedLog ⊆ (db.execWr cmd fedIndex outcome).1.fedLog := by
  obtain ⟨logAfter, written⟩ := zone.execWr cmd fedIndex outcome
  intro index inside
  obtain ⟨recordCmd, isRecord⟩ := (zone.mirrors index).1 inside
  refine (written.zone.mirrors index).2 ⟨recordCmd, ?_⟩
  rcases written.added with same | ⟨term, isAdded⟩
  · rw [same]
    exact isRecord
  · rw [isAdded]
    exact (federated_append log _).subset isRecord

theorem mem_execWr (zone : db.Zone log) (cmd : String) {index : Nat} (valid : index ≠ 0)
    (cache : db.cache = false) (takes : Takes db outcome) :
    index ∈ (db.execWr cmd (some index) outcome).1.fedLog := by
  obtain ⟨stored, runs⟩ := takes
  have isFederated (position : Nat) :
      LogDB.federatedIndex (some index) position = some index :=
    if_neg (by simpa using valid)
  rw [LogDB.execWr]
  by_cases solo : db.solo = true
  · rw [if_pos solo] at runs
    have ranZone : (db.markExecuted cmd (some index)).Zone log := zone.memory _ _
    obtain ⟨after, inserted, -⟩ := ranZone.insertLogRecord 0 cmd true (some index)
    simp only [solo, if_true, runs, LogDB.insertSolo, stored, inserted]
    exact (LogDB.mem_insertLogRecord inserted).2 (.inl (isFederated _))
  · rw [if_neg solo] at runs
    obtain ⟨after, inserted, zoneAfter, -⟩ := zone.insertLogRecord outcome.term cmd false (some index)
    have inside : index ∈ after.fedLog := (LogDB.mem_insertLogRecord inserted).2 (.inl (isFederated _))
    simp only [solo, cache, runs, stored, inserted, if_true, Bool.false_eq_true, if_false, Bool.true_eq_false]
    split
    · rw [fedLog_applyLogRecords zoneAfter.repr]
      exact inside
    · exact inside

theorem fedLog_restart (zone : db.Zone log) (now : String) : (Zones.restart db now).fedLog = db.fedLog := by
  ext index
  exact ((zone.load now).mirrors index).trans (zone.mirrors index).symm

/-- The handler passes the request to `apply_log_record`. -/
def Handled (zones : Zones) (packet : FedPacket) (oneadmin : Bool) : Prop :=
  oneadmin = true ∧ zones.slave.cache = false ∧ packet.params.sql ≠ ""

instance (zones : Zones) (packet : FedPacket) (oneadmin : Bool) : Decidable (Handled zones packet oneadmin) :=
  inferInstanceAs (Decidable (_ ∧ _ ∧ _))

/-- The slave writes a record that follows its last one, and can name its last
record when the one it is sent does not follow it. -/
def Answers (zones : Zones) (packet : FedPacket) (outcome : LogDB.WriteOutcome) : Prop :=
  if packet.params.prev = zones.slave.lastFederated then Takes zones.slave outcome
  else zones.slave.lastFederated ≠ none

instance (zones : Zones) (packet : FedPacket) (outcome : LogDB.WriteOutcome) :
    Decidable (Answers zones packet outcome) :=
  inferInstanceAs (Decidable (ite _ _ _))

structure Tells (fedLog : Finset Nat) (packet : FedPacket) (reply : FedReply) : Prop where
  success : reply.success = true → packet.params.index ∈ fedLog
  failure : reply.success = false → ∀ index ∈ reply.last, index ∈ fedLog

theorem Tells.grow {fedLog larger : Finset Nat} {packet : FedPacket} {reply : FedReply}
    (tells : Tells fedLog packet reply) (grows : fedLog ⊆ larger) : Tells larger packet reply :=
  ⟨fun success => grows (tells.success success),
    fun failure index isLast => grows (tells.failure failure index isLast)⟩

section

variable (synced : Synced zones masterLog slaveLog)
include synced

theorem Synced.fedLog_pos {index : Nat}
    (inside : index ∈ zones.slave.fedLog) : index ≠ 0 := by
  obtain ⟨cmd, isRecord⟩ := (synced.slave.mirrors index).1 inside
  obtain ⟨entry, isEntry, isFederated, -⟩ := mem_federated.1 (synced.run.subset isRecord)
  obtain ⟨position, found⟩ := List.mem_iff_getElem?.mp isEntry
  have isIndex := synced.own position entry index found isFederated
  omega

theorem Synced.sent_pos {params : FedLogParams}
    (follows : params.Follows masterLog) : params.index ≠ 0 := by
  obtain ⟨prev, prevCmd, -, isRun⟩ := follows
  obtain ⟨entry, isEntry, isFederated, -⟩ :=
    mem_federated.1 (isRun.subset (by simp : (params.index, params.sql) ∈ _))
  obtain ⟨position, found⟩ := List.mem_iff_getElem?.mp isEntry
  have isIndex := synced.own position entry params.index found isFederated
  omega

theorem Synced.reply {packet : FedPacket}
    (follows : packet.params.Follows masterLog) {oneadmin : Bool}
    (answers : Handled zones packet oneadmin → Answers zones packet outcome) {slave : LogDB} {response : FedResponse}
    (handled : ZoneAPI.replicateFedLog true zones.slave packet.params oneadmin outcome = (slave, response)) :
    zones.slave.fedLog ⊆ slave.fedLog ∧ Tells slave.fedLog packet
        ⟨packet.id, response.code = .success, response.replicationIdx⟩ := by
  have refused {code : ErrorCode} (isError : code ≠ .success) :
      Tells zones.slave.fedLog packet ⟨packet.id, code = .success, none⟩ :=
    ⟨fun success => absurd (of_decide_eq_true success) isError, fun _ index isLast => by cases isLast⟩
  simp only [ZoneAPI.replicateFedLog, Bool.true_eq_false, if_false] at handled
  split at handled
  · obtain ⟨rfl, rfl⟩ := Prod.mk.inj handled
    exact ⟨Finset.Subset.refl _, refused fun same => by cases same⟩
  rename_i isAdmin
  split at handled
  · obtain ⟨rfl, rfl⟩ := Prod.mk.inj handled
    exact ⟨Finset.Subset.refl _, refused fun same => by cases same⟩
  rename_i notCache
  split at handled
  · obtain ⟨rfl, rfl⟩ := Prod.mk.inj handled
    exact ⟨Finset.Subset.refl _, refused fun same => by cases same⟩
  rename_i notEmpty
  rw [Bool.not_eq_true] at notCache
  have answered := answers ⟨by simpa using isAdmin, notCache, notEmpty⟩
  rw [Answers] at answered
  rw [FedReplicaManager.applyLogRecord] at handled
  split at answered
  · -- the record follows the last one of the slave and is stored
    rename_i isLast
    rw [if_neg (not_not.2 isLast)] at handled
    have grows := fedLog_execWr synced.slave packet.params.sql (some packet.params.index) outcome
    have inside := mem_execWr synced.slave packet.params.sql (synced.sent_pos follows) notCache answered
    have tells (success : Bool) (fedLog : Finset Nat) (isIndex : packet.params.index ∈ fedLog) :
        Tells fedLog packet ⟨packet.id, success, some packet.params.index⟩ :=
      ⟨fun _ => isIndex, fun _ index isSent => Option.some.inj isSent ▸ isIndex⟩
    cases written : zones.slave.execWr packet.params.sql (some packet.params.index) outcome with
    | mk after success =>
      rw [written] at handled grows inside
      cases success with
      | false | true =>
        obtain ⟨rfl, rfl⟩ := Prod.mk.inj handled
        exact ⟨grows, tells _ _ inside⟩
  · rename_i apart
    rw [if_pos apart] at handled
    obtain ⟨last, isLast⟩ := Option.ne_none_iff_exists'.1 answered
    have inside := (LogDB.largest_eq_some isLast).1
    have positive := synced.fedLog_pos inside
    rw [isLast] at handled
    cases last with
    | zero => exact absurd rfl positive
    | succ last =>
      obtain ⟨rfl, rfl⟩ := Prod.mk.inj handled
      exact ⟨Finset.Subset.refl _, fun success => (by cases success),
        fun _ index isSent => Option.some.inj isSent ▸ inside⟩

end

def Known (fedLog : Finset Nat) (zoneId : Int) (frm : FedReplicaManager) : Prop :=
  ∀ zone ∈ frm.zones.lookup zoneId, ∀ index ∈ zone.last, index ∈ fedLog

variable {fedLog : Finset Nat} {zoneId : Int} {frm : FedReplicaManager}

theorem Known.grow (known : Known fedLog zoneId frm) {larger : Finset Nat}
    (grows : fedLog ⊆ larger) : Known larger zoneId frm :=
  fun zone isZone index isLast => grows (known zone isZone index isLast)

theorem Known.same (known : Known fedLog zoneId frm) (same : other.zones = frm.zones) :
    Known fedLog zoneId other := by
  intro zone isZone
  rw [same] at isZone
  exact known zone isZone

theorem known_insert {zone : ZoneServers} (isKnown : ∀ index ∈ zone.last, index ∈ fedLog)
    (isOther : other.zones = frm.zones.insert zoneId zone) : Known fedLog zoneId other := by
  intro found isFound
  rw [isOther, AList.lookup_insert] at isFound
  obtain rfl := Option.some.inj isFound
  exact isKnown

theorem Known.fresh (known : Known fedLog zoneId frm) (index : Option Nat) {zoneIds : Int}
    (isOther : other.zones = Map.insertNew zoneIds ⟨zoneIds, index, none⟩ frm.zones) : Known fedLog zoneId other := by
  intro found isFound last isLast
  rw [isOther] at isFound
  by_cases same : zoneId = zoneIds
  · subst same
    rw [Map.lookup_insertNew_self] at isFound
    cases before : frm.zones.lookup zoneId with
    | none =>
      rw [before] at isFound
      obtain rfl := Option.some.inj isFound
      cases isLast
    | some zone =>
      rw [before] at isFound
      obtain rfl := Option.some.inj isFound
      exact known zone before last isLast
  · rw [Map.lookup_insertNew_ne same] at isFound
    exact known found isFound last isLast

theorem advance_last (logdb : LogDB) (zone : ZoneServers) :
    (FedReplicaManager.advance logdb zone).last = zone.last := by
  simp only [FedReplicaManager.advance]
  split <;> split <;> rfl

theorem Known.getNextRecord (known : Known fedLog zoneId frm) (logdb : LogDB) :
    Known fedLog zoneId (frm.getNextRecord logdb zoneId).1 := by
  rw [FedReplicaManager.getNextRecord]
  split
  · exact known
  · rename_i zone isZone
    refine known_insert ?_ rfl
    rw [advance_last]
    exact known zone isZone

theorem Known.replicateSuccess (known : Known fedLog zoneId frm) (logdb : LogDB)
    (taken : ∀ zone ∈ frm.zones.lookup zoneId, ∀ index ∈ zone.next, index ∈ fedLog) :
    Known fedLog zoneId (frm.replicateSuccess logdb zoneId) := by
  rw [FedReplicaManager.replicateSuccess]
  split
  · exact known
  · rename_i zone isZone
    dsimp only
    split
    · exact known_insert (taken zone isZone) rfl
    · exact known_insert (taken zone isZone) rfl

theorem Known.replicateFailure (known : Known fedLog zoneId frm) (logdb : LogDB)
    {last : Option Nat} (isLast : ∀ index ∈ last, index ∈ fedLog) :
    Known fedLog zoneId (frm.replicateFailure logdb zoneId last) := by
  rw [FedReplicaManager.replicateFailure]
  split
  · exact known
  · rename_i zone isZone
    cases last with
    | none =>
      dsimp only
      split <;> exact known_insert (known zone isZone) rfl
    | some index =>
      dsimp only
      split <;> exact known_insert isLast rfl

theorem Known.updateZones (logdb : LogDB) (frm : FedReplicaManager) (zoneIds : List Int) :
    Known fedLog zoneId (frm.updateZones logdb zoneIds) := by
  have kept (zones : Map Int ZoneServers) (known : Known fedLog zoneId { frm with zones }) :
      Known fedLog zoneId { frm with
        zones := zoneIds.foldl
          (fun zones id => Map.insertNew id ⟨id, logdb.lastFederated, none⟩ zones) zones } := by
    induction zoneIds generalizing zones with
    | nil => exact known
    | cons first rest ih => exact ih _ (known.fresh logdb.lastFederated rfl)
  exact kept ∅ fun zone isZone => by cases isZone

theorem addReplicaThread_zones (zoneIds : List Int) (frm : FedReplicaManager) :
    (zoneIds.foldl FedReplicaManager.addReplicaThread frm).zones = frm.zones := by
  induction zoneIds generalizing frm with
  | nil => rfl
  | cons first rest ih => exact ih _

theorem Known.deleteZone (known : Known fedLog zoneId frm) (other : Int) :
    Known fedLog zoneId (frm.deleteZone other) := by
  rw [FedReplicaManager.deleteZone]
  split
  · intro zone isZone
    rw [FedReplicaManager.deleteReplicaThread, Map.lookup_erase_eq] at isZone
    split at isZone
    · cases isZone
    · exact known zone isZone
  · exact known

/-- The steps after which the master still knows what the slave has. -/
def FedEvent.Told (zoneId : Int) (zones : Zones) : FedEvent → Prop
  | .deliver request oneadmin outcome =>
    ∀ packet ∈ zones.requests[request]?, Handled zones packet oneadmin → Answers zones packet outcome
  | .replicaReply _ (some position) =>
    ∀ reply ∈ zones.replies[position]?, reply.success = true →
      ∀ zone ∈ zones.frm.zones.lookup zoneId, ∀ index ∈ zone.next,
        ∀ packet ∈ zones.requests, packet.id = reply.id → packet.params.index = index
  | _ => True

instance (zoneId : Int) (zones : Zones) : (event : FedEvent) → Decidable (event.Told zoneId zones)
  | .deliver request oneadmin outcome =>
    inferInstanceAs (Decidable (∀ packet ∈ zones.requests[request]?,
      Handled zones packet oneadmin → Answers zones packet outcome))
  | .replicaReply _ (some position) =>
    inferInstanceAs (Decidable (∀ reply ∈ zones.replies[position]?, reply.success = true →
      ∀ zone ∈ zones.frm.zones.lookup zoneId, ∀ index ∈ zone.next,
        ∀ packet ∈ zones.requests, packet.id = reply.id → packet.params.index = index))
  | .replicaReply _ none | .slaveWrite .. | .federatedWrite .. | .masterWrite .. | .slaveApply ..
  | .replicaCall | .replicaRetry | .startReplicaThreads | .stopReplicaThreads | .addZone
  | .deleteZone | .masterRestart _ | .slaveRestart _ => isTrue trivial

structure Informed (zoneId : Int) (zones : Zones) : Prop where
  known : Known zones.slave.fedLog zoneId zones.frm
  replies : ∀ reply ∈ zones.replies, ∃ packet ∈ zones.requests, packet.id = reply.id ∧
    Tells zones.slave.fedLog packet reply

section

variable (informed : Informed zoneId zones)
include informed

theorem Informed.grow (grows : zones.slave.fedLog ⊆ next.slave.fedLog)
    (requests : zones.requests ⊆ next.requests) (replies : next.replies = zones.replies)
    (known : Known zones.slave.fedLog zoneId next.frm) : Informed zoneId next := by
  refine ⟨known.grow grows, fun reply isReply => ?_⟩
  rw [replies] at isReply
  obtain ⟨packet, isPacket, isCall, tells⟩ := informed.replies reply isReply
  exact ⟨packet, requests isPacket, isCall, tells.grow grows⟩

theorem Informed.threads (known : Known zones.slave.fedLog zoneId frm) : Informed zoneId { zones with frm } :=
  informed.grow (Finset.Subset.refl _) (List.Subset.refl _) rfl known

theorem Informed.replicaCall (stepped : zones.replicaCall zoneId = some next) : Informed zoneId next := by
  have known := informed.known.getNextRecord zones.master
  simp only [Zones.replicaCall] at stepped
  split at stepped
  · contradiction
  split at stepped
  · contradiction
  split at stepped
  · rename_i isNext
    cases stepped
    rw [isNext] at known
    exact informed.threads (known.same rfl)
  · rename_i isNext
    cases stepped
    rw [isNext] at known
    exact informed.threads (known.same rfl)
  · rename_i isNext
    cases stepped
    rw [isNext] at known
    exact informed.grow (Finset.Subset.refl _) (List.subset_append_left _ _) rfl (known.same rfl)

theorem Informed.answer {thread : FedThreadRef} {call : Nat}
    {reply : Option Nat} (told : FedEvent.Told zoneId zones (.replicaReply thread reply))
    (answered : zones.answer zoneId call reply = some frm) : Known zones.slave.fedLog zoneId frm := by
  cases reply with
  | none =>
    cases answered
    exact informed.known
  | some position =>
    simp only [Zones.answer] at answered
    split at answered
    · contradiction
    rename_i reply isReply
    obtain ⟨packet, isPacket, isCall, tells⟩ := informed.replies reply (List.mem_of_getElem? isReply)
    split at answered
    · contradiction
    split at answered
    · rename_i success
      cases answered
      refine informed.known.replicateSuccess zones.master fun zone isZone index isNext => ?_
      rw [← told reply isReply success zone isZone index isNext packet isPacket isCall]
      exact tells.success success
    · rename_i failure
      cases answered
      exact informed.known.replicateFailure zones.master
        (tells.failure (Bool.not_eq_true _ ▸ failure))

theorem Informed.replicaReply {thread : FedThreadRef}
    {reply : Option Nat} (told : FedEvent.Told zoneId zones (.replicaReply thread reply))
    (stepped : zones.replicaReply zoneId thread reply = some next) : Informed zoneId next := by
  cases thread with
  | pool | finalized position =>
    simp only [Zones.replicaReply] at stepped
    split at stepped
    · contradiction
    · obtain ⟨frm, answered, rfl⟩ := Option.map_eq_some_iff.1 stepped
      exact informed.threads ((informed.answer told answered).same rfl)

section

variable (synced : Synced zones masterLog slaveLog)
include synced

theorem Informed.deliver
    {request : Nat} {oneadmin : Bool} (told : FedEvent.Told zoneId zones (.deliver request oneadmin outcome))
    (stepped : zones.deliver request oneadmin outcome = some next) : Informed zoneId next := by
  simp only [Zones.deliver] at stepped
  split at stepped
  · contradiction
  rename_i packet isPacket
  cases handled : ZoneAPI.replicateFedLog true zones.slave packet.params oneadmin outcome with
  | mk slave response =>
    rw [handled] at stepped
    cases stepped
    have inside : packet ∈ zones.requests := List.mem_of_getElem? isPacket
    obtain ⟨grows, tells⟩ := synced.reply (synced.requests packet inside) (told packet isPacket) handled
    refine ⟨informed.known.grow grows, fun reply isReply => ?_⟩
    rcases List.mem_append.1 isReply with earlier | new
    · obtain ⟨other, isOther, isCall, otherTells⟩ := informed.replies reply earlier
      exact ⟨other, isOther, isCall, otherTells.grow grows⟩
    · rw [List.mem_singleton.1 new]
      exact ⟨packet, inside, rfl, tells⟩

theorem Informed.step {event : FedEvent}
    (told : event.Told zoneId zones) (stepped : zones.step zoneId event = some next) : Informed zoneId next := by
  cases event with
  | federatedWrite cmd outcome =>
    simp only [Zones.step] at stepped
    split at stepped
    · cases stepped
      exact informed.grow (Finset.Subset.refl _) (List.Subset.refl _) rfl informed.known
    · cases stepped
      exact informed.grow (Finset.Subset.refl _) (List.Subset.refl _) rfl
        (informed.known.same rfl)
  | masterWrite cmd outcome =>
    cases stepped
    exact informed.grow (Finset.Subset.refl _) (List.Subset.refl _) rfl informed.known
  | slaveWrite cmd outcome =>
    cases stepped
    exact informed.grow (fedLog_execWr synced.slave cmd none outcome) (List.Subset.refl _) rfl
      informed.known
  | slaveApply commitIndex rc =>
    cases stepped
    exact informed.grow (fedLog_applyLogRecords synced.slave.repr commitIndex rc).superset
      (List.Subset.refl _) rfl informed.known
  | replicaCall => exact informed.replicaCall stepped
  | replicaReply thread reply => exact informed.replicaReply told stepped
  | deliver request oneadmin outcome => exact informed.deliver synced told stepped
  | replicaRetry =>
    cases stepped
    exact informed.threads (informed.known.same rfl)
  | startReplicaThreads =>
    cases stepped
    exact informed.threads ((Known.updateZones zones.master zones.frm [zoneId]).same (addReplicaThread_zones _ _))
  | stopReplicaThreads =>
    cases stepped
    exact informed.threads (informed.known.same rfl)
  | addZone =>
    cases stepped
    exact informed.threads (informed.known.fresh _ rfl)
  | deleteZone =>
    cases stepped
    exact informed.threads (informed.known.deleteZone zoneId)
  | masterRestart now =>
    cases stepped
    exact informed.grow (Finset.Subset.refl _) (List.Subset.refl _) rfl
      fun zone isZone => by cases isZone
  | slaveRestart now =>
    cases stepped
    exact informed.grow (fedLog_restart synced.slave now).superset (List.Subset.refl _) rfl
      informed.known

/-- The slave has the record that the master keeps as the last one of the zone,
and every record of the master between its first one and that one. -/
def Progress (zoneId : Int) (zones : Zones) : Prop :=
  ∀ zone ∈ zones.frm.zones.lookup zoneId, ∀ last ∈ zone.last,
    ∃ masterLog slaveLog, zones.master.Represents masterLog ∧ zones.slave.Represents slaveLog ∧
      (∃ cmd, (last, cmd) ∈ federated slaveLog) ∧
      ∀ record ∈ federated masterLog, record.1 ≤ last →
        record ∈ federated slaveLog ∨ ∀ held ∈ federated slaveLog, record.1 < held.1

theorem Informed.progress : Progress zoneId zones := by
  intro zone isZone last isLast
  obtain ⟨cmd, isRecord⟩ := (synced.slave.mirrors last).1 (informed.known zone isZone last isLast)
  refine ⟨masterLog, slaveLog, synced.master.repr, synced.slave.repr, ⟨cmd, isRecord⟩, fun record inside atMost => ?_⟩
  obtain ⟨front, back, isWhole⟩ := synced.run
  have ascending := synced.own.ascending
  rw [← isWhole] at inside ascending
  obtain ⟨sorted, -, acrossBack⟩ := List.pairwise_append.1 ascending
  obtain ⟨-, -, acrossFront⟩ := List.pairwise_append.1 sorted
  rcases List.mem_append.1 inside with inside | inBack
  · rcases List.mem_append.1 inside with inFront | inSlave
    · exact .inr fun held isHeld => acrossFront record inFront held isHeld
    · exact .inl inSlave
  · have beyond := acrossBack (last, cmd) (List.mem_append_right _ isRecord) record inBack
    exact absurd beyond (Nat.not_lt.2 atMost)

end

end

/-- In a run in which the slave stores each record that follows its last one,
always has a record to name, and each successful reply is taken while its record
is the next one of the zone, the master knows the last record of the slave. -/
theorem federation_progress (zoneId : Int) (zones : Zones)
    (reached : (Zones.system zoneId).Reachable (fun zones event => event.Told zoneId zones) zones) :
    Progress zoneId zones := by
  have held := @System.Reachable.invariant _ _ _ _
    (fun zones => (∃ masterLog slaveLog, Synced zones masterLog slaveLog) ∧ Informed zoneId zones)
    _ reached ?_ ?_
  · obtain ⟨⟨masterLog, slaveLog, synced⟩, informed⟩ := held
    exact informed.progress synced
  · rintro start ⟨masterLog, slaveLog, synced, -, -, noReplies, empty⟩
    refine ⟨⟨masterLog, slaveLog, synced⟩, fun zone isZone => ?_, fun reply isReply => ?_⟩
    · rw [empty] at isZone
      cases isZone
    · rw [noReplies] at isReply
      cases isReply
  · rintro before event next ⟨⟨masterLog, slaveLog, synced⟩, informed⟩ told stepped
    obtain ⟨masterAfter, slaveAfter, after, -⟩ := synced.step stepped
    exact ⟨⟨masterAfter, slaveAfter, after⟩, informed.step synced told stepped⟩

/-- The first request comes once more after the second, is refused, and the
replies to both are taken. -/
theorem federation_progress_repeated :
    ∃ zones, (Zones.system 100).Reachable (fun zones event => event.Told 100 zones) zones ∧
      (zones.frm.zones.lookup 100).bind ZoneServers.last = some 3 ∧ Progress 100 zones := by
  have ran : (((Zones.system 100).exec (fun zones event => event.Told 100 zones) seedZones
      [.federatedWrite "INSERT" written, .startReplicaThreads, .federatedWrite "DELETE" written,
        .replicaCall, .deliver 0 true written, .deliver 0 true written,
        .replicaReply .pool (some 1), .replicaCall, .deliver 1 true written,
        .replicaReply .pool (some 2)]).map
          fun zones => (zones.frm.zones.lookup 100).bind ZoneServers.last) = some (some 3) := by
    decide
  obtain ⟨zones, ran, isLast⟩ := Option.map_eq_some_iff.mp ran
  have reached : (Zones.system 100).Reachable (fun zones event => event.Told 100 zones) zones :=
    System.reachable_of_exec seedZones_start ran
  exact ⟨zones, reached, isLast, federation_progress 100 zones reached⟩

/-- The command fails on the database of the slave. -/
def rejected : LogDB.WriteOutcome := { written with rc := fun _ => .sql }

/-- The error reply makes the master take the record for replicated. -/
theorem federation_progress_database_error : ¬ ∀ (zoneId : Int) (zones : Zones),
      (Zones.system zoneId).Reachable System.anyStep zones → Progress zoneId zones := by
  intro claim
  have ran : (((Zones.system 100).exec System.anyStep seedZones
      [.federatedWrite "INSERT" written, .startReplicaThreads, .federatedWrite "DELETE" written,
        .replicaCall, .deliver 0 true rejected, .replicaReply .pool (some 0)]).map
          fun zones => ((zones.frm.zones.lookup 100).bind ZoneServers.last,
            zones.slave.table.entries.map fun row => row.2.fedIndex)) =
      some (some 2, [some 1, none]) := by
    decide
  obtain ⟨zones, ran, isZones⟩ := Option.map_eq_some_iff.mp ran
  obtain ⟨isLast, rows⟩ := Prod.mk.inj isZones
  obtain ⟨zone, isZone, isTwo⟩ := Option.bind_eq_some_iff.mp isLast
  obtain ⟨-, slaveLog, -, repr, ⟨cmd, isRecord⟩, -⟩ :=
    claim 100 zones (System.reachable_of_exec seedZones_start ran) zone isZone 2 isTwo
  obtain ⟨entry, isEntry, isFederated, -⟩ := mem_federated.mp isRecord
  obtain ⟨position, found⟩ := List.mem_iff_getElem?.mp isEntry
  obtain ⟨row, stored, rfl⟩ := repr.lookup found
  have isRow : row.fedIndex ∈ zones.slave.table.entries.map fun row => row.2.fedIndex :=
    List.mem_map.mpr ⟨⟨position + 1, row⟩, Map.mem_entries_iff.mpr stored, rfl⟩
  rw [rows, show row.fedIndex = some 2 from isFederated] at isRow
  simp at isRow

end OpenNebula.Federation
