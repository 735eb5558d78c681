import OpenNebula.Federation.Zones
import OpenNebula.Sql.Federated

namespace OpenNebula.Federation

open Library Sql Raft

/-! # The federated log of the slave

The federated records of the slave are a contiguous run of those of the master:
a request names the record before the one it carries, and the slave takes it
only when that is its last one.
-/

def OwnIndex (log : List LogEntry) : Prop :=
  ∀ (position : Nat) (entry : LogEntry) (index : Nat),
    log[position]? = some entry → entry.fedIndex = some index → index = position + 1

variable {log : List LogEntry} {zoneId : Int}

theorem OwnIndex.ascending (own : OwnIndex log) : Ascending Prod.fst (federated log) := by
  rw [Ascending, federated, List.pairwise_filterMap, List.pairwise_iff_getElem]
  intro left right inLeft inRight below
  rintro ⟨leftIndex, leftCmd⟩ isLeft ⟨rightIndex, rightCmd⟩ isRight
  obtain ⟨index, isIndex, same⟩ := Option.map_eq_some_iff.1 isLeft
  obtain ⟨otherIndex, isOther, sameOther⟩ := Option.map_eq_some_iff.1 isRight
  have atLeft := own left _ index (List.getElem?_eq_getElem inLeft) isIndex
  have atRight := own right _ otherIndex (List.getElem?_eq_getElem inRight) isOther
  obtain ⟨rfl, -⟩ := Prod.mk.inj same
  obtain ⟨rfl, -⟩ := Prod.mk.inj sameOther
  show index < otherIndex
  omega

theorem OwnIndex.snoc (own : OwnIndex log) {entry : LogEntry}
    (isOwn : ∀ index, entry.fedIndex = some index → index = log.length + 1) : OwnIndex (log ++ [entry]) := by
  intro position other index found isIndex
  by_cases inside : position < log.length
  · rw [List.getElem?_append_left inside] at found
    exact own position other index found isIndex
  · rw [List.getElem?_append_right (Nat.le_of_not_lt inside)] at found
    obtain ⟨atEnd, rfl⟩ := List.getElem?_eq_some_iff.1 found
    have last : position = log.length := by
      simp only [List.length_cons, List.length_nil] at atEnd
      omega
    subst last
    exact isOwn index (by simpa using isIndex)

/-- The record of the request follows the one it names as previous. -/
def FedLogParams.Follows (params : FedLogParams) (log : List LogEntry) : Prop :=
  ∃ prev prevCmd, params.prev = some prev ∧
    [(prev, prevCmd), (params.index, params.sql)] <:+: federated log

structure Synced (zones : Zones) (masterLog slaveLog : List LogEntry) : Prop where
  master : zones.master.Zone masterLog
  slave : zones.slave.Zone slaveLog
  own : OwnIndex masterLog
  run : federated slaveLog <:+: federated masterLog
  requests : ∀ packet ∈ zones.requests, packet.params.Follows masterLog

theorem federated_append (log added : List LogEntry) : federated log <:+: federated (log ++ added) := by
  rw [federated, federated, List.filterMap_append]
  exact (List.prefix_append _ _).isInfix

variable {zones next : Zones} {masterLog slaveLog : List LogEntry}

section

variable (synced : Synced zones masterLog slaveLog)
include synced

theorem Synced.masterWritten {cmd : String}
    {fedIndex : Option Nat} {stored : Bool} {master : LogDB} {logAfter : List LogEntry}
    (written : LogDB.Written masterLog cmd fedIndex stored zones.master master logAfter)
    (isOwn : ∀ position index, LogDB.federatedIndex fedIndex position = some index →
      index = position) (frm : FedReplicaManager) : Synced { zones with master, frm } logAfter slaveLog := by
  obtain ⟨zone, added, -⟩ := written
  rcases added with rfl | ⟨term, rfl⟩
  · exact ⟨zone, synced.slave, synced.own, synced.run, synced.requests⟩
  · refine ⟨zone, synced.slave, synced.own.snoc fun index => isOwn _ index,
      synced.run.trans (federated_append _ _), fun packet isPacket => ?_⟩
    obtain ⟨prev, prevCmd, isPrev, follows⟩ := synced.requests packet isPacket
    exact ⟨prev, prevCmd, isPrev, follows.trans (federated_append _ _)⟩

theorem Synced.loadRecord {zone : ZoneServers} {lr : LogDBRecord}
    (loaded : FedReplicaManager.loadRecord zones.master zone = .record lr) :
    FedLogParams.Follows ⟨lr.index, zones.master.previousFederated lr.index, lr.sql⟩ masterLog := by
  simp only [FedReplicaManager.loadRecord] at loaded
  split at loaded
  · contradiction
  rename_i index isNext
  split at loaded
  · contradiction
  rename_i prev isPrev
  split at loaded
  · contradiction
  rename_i record found
  cases loaded
  obtain ⟨row, prevRow, stored, -, rfl⟩ := LogDB.getLogRecord_cases found
  obtain ⟨cmd, isRecord⟩ := (synced.master.mirrors index).1 (LogDB.mem_of_previousFederated isPrev)
  obtain ⟨entry, isEntry, isFederated, rfl⟩ := mem_federated.1 isRecord
  obtain ⟨position, atPosition⟩ := List.mem_iff_getElem?.mp isEntry
  have isIndex := synced.own position entry index atPosition isFederated
  subst isIndex
  have isRow := synced.master.repr.entry stored
  rw [atPosition, Option.some.injEq] at isRow
  obtain ⟨prevCmd, follows⟩ := synced.master.mirrors.previousFederated synced.own.ascending isRecord isPrev
  rw [isRow] at follows
  exact ⟨prev, prevCmd, isPrev, follows⟩

theorem Synced.applyLogRecord {params : FedLogParams}
    (follows : params.Follows masterLog) (outcome : LogDB.WriteOutcome) :
    ∃ logAfter, federated logAfter <:+: federated masterLog ∧
      LogDB.Written slaveLog params.sql (some params.index) outcome.stored zones.slave
        (FedReplicaManager.applyLogRecord zones.slave params.index params.prev params.sql outcome).1 logAfter := by
  have isSlave : (FedReplicaManager.applyLogRecord zones.slave params.index params.prev params.sql
      outcome).1 = if params.prev ≠ zones.slave.lastFederated then zones.slave
        else (zones.slave.execWr params.sql (some params.index) outcome).1 := by
    simp only [FedReplicaManager.applyLogRecord]
    split
    · rfl
    · split <;> simp_all
  rw [isSlave]
  split
  · exact ⟨slaveLog, synced.run, synced.slave, .inl rfl, fun _ journal => journal⟩
  · rename_i isLast
    obtain ⟨logAfter, written⟩ := synced.slave.execWr params.sql (some params.index) outcome
    refine ⟨logAfter, ?_, written⟩
    rcases written.added with same | ⟨term, isAdded⟩
    · rw [same]
      exact synced.run
    · obtain ⟨prev, prevCmd, isPrev, isRun⟩ := follows
      rw [isPrev, ne_eq, not_not] at isLast
      have ascending := synced.own.ascending
      obtain ⟨front, lastCmd, isSlaveRun⟩ := synced.slave.mirrors.lastFederated
        (ascending.sublist synced.run.sublist) isLast.symm
      have inRun : (prev, lastCmd) ∈ federated masterLog := synced.run.subset (by rw [isSlaveRun]; simp)
      obtain ⟨-, rfl⟩ := Prod.mk.inj
        (ascending.unique inRun (isRun.subset (List.mem_cons_self ..)) rfl)
      have isRecord : (params.index, params.sql) ∈ federated masterLog := isRun.subset (by simp)
      obtain ⟨entry, isEntry, isFederated, -⟩ := mem_federated.1 isRecord
      obtain ⟨position, found⟩ := List.mem_iff_getElem?.mp isEntry
      have isIndex := synced.own position entry params.index found isFederated
      have isNew : (LogDB.newEntry slaveLog term params.sql (some params.index)).fedIndex =
          some params.index :=
        if_neg (by simp [isIndex])
      have extended := run_snoc ascending.nodup (isSlaveRun ▸ synced.run) isRun
      rw [isAdded, federated_snoc_some slaveLog isNew, isSlaveRun]
      exact extended

end

theorem replicateFedLog_slave (isSlave : Bool) (logdb : LogDB) (params : FedLogParams)
    (oneadmin : Bool) (outcome : LogDB.WriteOutcome) :
    (ZoneAPI.replicateFedLog isSlave logdb params oneadmin outcome).1 = logdb ∨
      (ZoneAPI.replicateFedLog isSlave logdb params oneadmin outcome).1 =
        (FedReplicaManager.applyLogRecord logdb params.index params.prev params.sql outcome).1 := by
  simp only [ZoneAPI.replicateFedLog]
  split
  · exact .inl rfl
  split
  · exact .inl rfl
  split
  · exact .inl rfl
  split
  · exact .inl rfl
  right
  split <;> rename_i isResult <;> rw [isResult]

def FedEvent.Stored : FedEvent → Prop
  | .deliver _ _ outcome | .slaveWrite _ outcome => outcome.stored = true
  | _ => True

instance : (event : FedEvent) → Decidable event.Stored
  | .deliver _ _ outcome | .slaveWrite _ outcome =>
    inferInstanceAs (Decidable (outcome.stored = true))
  | .federatedWrite .. | .masterWrite .. | .slaveApply .. | .replicaCall | .replicaReply ..
  | .replicaRetry | .startReplicaThreads | .stopReplicaThreads | .addZone | .deleteZone
  | .masterRestart _ | .slaveRestart _ => isTrue trivial

def Steps (zones next : Zones) (slaveLog : List LogEntry) (event : FedEvent) : Prop :=
  ∃ masterAfter slaveAfter, Synced next masterAfter slaveAfter ∧
    (event.Stored → zones.slave.Journal slaveLog → next.slave.Journal slaveAfter)

section

variable (synced : Synced zones masterLog slaveLog)
include synced

theorem Synced.threads (frm : FedReplicaManager) (event : FedEvent) : Steps zones { zones with frm } slaveLog event :=
  ⟨masterLog, slaveLog, ⟨synced.master, synced.slave, synced.own, synced.run, synced.requests⟩,
    fun _ journal => journal⟩

theorem Synced.replicaCall (stepped : zones.replicaCall zoneId = some next) :
    Steps zones next slaveLog .replicaCall := by
  simp only [Zones.replicaCall] at stepped
  split at stepped
  · contradiction
  split at stepped
  · contradiction
  simp only [FedReplicaManager.getNextRecord] at stepped
  split at stepped
  · cases stepped
    exact synced.threads _ _
  · cases stepped
    exact synced.threads _ _
  · rename_i frm lr isNext
    cases stepped
    have loaded : ∃ zone, FedReplicaManager.loadRecord zones.master zone = .record lr := by
      split at isNext
      · cases isNext
      · exact ⟨_, (Prod.mk.inj isNext).2⟩
    obtain ⟨zone, isRecord⟩ := loaded
    refine ⟨masterLog, slaveLog, ⟨synced.master, synced.slave, synced.own, synced.run, ?_⟩, fun _ journal => journal⟩
    intro packet isPacket
    rcases List.mem_append.1 isPacket with earlier | new
    · exact synced.requests packet earlier
    · rw [List.mem_singleton.1 new]
      exact synced.loadRecord isRecord

theorem Synced.replicaReply {thread : FedThreadRef}
    {reply : Option Nat} (stepped : zones.replicaReply zoneId thread reply = some next) :
    Steps zones next slaveLog (.replicaReply thread reply) := by
  cases thread with
  | pool | finalized position =>
    simp only [Zones.replicaReply] at stepped
    split at stepped
    · contradiction
    · obtain ⟨frm, -, rfl⟩ := Option.map_eq_some_iff.1 stepped
      exact synced.threads _ _

theorem Synced.deliver {request : Nat} {oneadmin : Bool} {outcome : LogDB.WriteOutcome}
    (stepped : zones.deliver request oneadmin outcome = some next) :
    Steps zones next slaveLog (.deliver request oneadmin outcome) := by
  simp only [Zones.deliver] at stepped
  split at stepped
  · contradiction
  rename_i packet isPacket
  cases stepped
  have follows := synced.requests packet (List.mem_of_getElem? isPacket)
  rcases replicateFedLog_slave true zones.slave packet.params oneadmin outcome with same | taken
  · refine ⟨masterLog, slaveLog, ⟨synced.master, ?_, synced.own, synced.run, synced.requests⟩, fun _ journal => ?_⟩
    · exact same.symm ▸ synced.slave
    · exact same.symm ▸ journal
  · obtain ⟨slaveAfter, run, written⟩ := synced.applyLogRecord follows outcome
    rw [← taken] at written
    exact ⟨masterLog, slaveAfter, ⟨synced.master, written.zone, synced.own, run, synced.requests⟩, written.journal⟩

theorem Synced.step {event : FedEvent}
    (stepped : zones.step zoneId event = some next) : Steps zones next slaveLog event := by
  cases event with
  | federatedWrite cmd outcome =>
    obtain ⟨masterAfter, written⟩ := synced.master.execWr cmd (some 0) outcome
    have isOwn (position index : Nat)
        (isIndex : LogDB.federatedIndex (some 0) position = some index) : index = position :=
      (Option.some.inj isIndex).symm
    simp only [Zones.step] at stepped
    split at stepped
    all_goals
      rename_i master isMaster
      cases stepped
      rw [isMaster] at written
      exact ⟨masterAfter, slaveLog, synced.masterWritten written isOwn _, fun _ journal => journal⟩
  | masterWrite cmd outcome =>
    obtain ⟨masterAfter, written⟩ := synced.master.execWr cmd none outcome
    cases stepped
    exact ⟨masterAfter, slaveLog, synced.masterWritten written (fun _ _ isIndex => by cases isIndex) _,
      fun _ journal => journal⟩
  | slaveWrite cmd outcome =>
    obtain ⟨slaveAfter, written⟩ := synced.slave.execWr cmd none outcome
    cases stepped
    refine ⟨masterLog, slaveAfter, ⟨synced.master, written.zone, synced.own, ?_, synced.requests⟩, written.journal⟩
    rcases written.added with rfl | ⟨term, rfl⟩
    · exact synced.run
    · rw [federated_snoc_none slaveLog rfl]
      exact synced.run
  | slaveApply commitIndex rc =>
    cases stepped
    have ran := synced.slave.repr.applyLogRecords commitIndex rc
    exact ⟨masterLog, slaveLog, ⟨synced.master, ran.zone synced.slave, synced.own, synced.run, synced.requests⟩,
      fun _ journal => ran.journal synced.slave.repr journal⟩
  | replicaCall => exact synced.replicaCall stepped
  | replicaReply thread reply => exact synced.replicaReply stepped
  | deliver request oneadmin outcome => exact synced.deliver stepped
  | masterRestart now =>
    cases stepped
    exact ⟨masterLog, slaveLog, ⟨synced.master.load now, synced.slave, synced.own, synced.run, synced.requests⟩,
      fun _ journal => journal⟩
  | slaveRestart now =>
    cases stepped
    exact ⟨masterLog, slaveLog, ⟨synced.master, synced.slave.load now, synced.own, synced.run, synced.requests⟩,
      fun _ journal => journal.load synced.slave.repr now⟩
  | replicaRetry | startReplicaThreads | stopReplicaThreads | addZone | deleteZone =>
    cases stepped
    exact synced.threads _ _

end

/-- The slave starts with a run of the federated records of the master, each
executed at most once, and nothing was sent yet. -/
def Zones.Start (zones : Zones) : Prop :=
  ∃ masterLog slaveLog, Synced zones masterLog slaveLog ∧ zones.slave.Journal slaveLog ∧
    zones.requests = [] ∧ zones.replies = [] ∧ zones.frm = .empty

def Zones.system (zoneId : Int) : System Zones FedEvent where
  initial := Zones.Start
  step := Zones.step zoneId

/-- The federated records of the slave are a contiguous run of those of the
master. -/
def Contiguous (zones : Zones) : Prop :=
  ∃ masterLog slaveLog, zones.master.Represents masterLog ∧ zones.slave.Represents slaveLog ∧
    federated slaveLog <:+: federated masterLog

/-- No federated index was executed twice on the slave. -/
def AppliedOnce (zones : Zones) : Prop :=
  (zones.slave.executed.filterMap fun run => run.2.fedIndex).Nodup

theorem federated_apart (ascending : Ascending Prod.fst (federated log)) {left right index : Nat}
    {entry other : LogEntry} (below : left < right) (atLeft : log[left]? = some entry)
    (atRight : log[right]? = some other) (isEntry : entry.fedIndex = some index) : other.fedIndex ≠ some index := by
  intro isOther
  rw [Ascending, federated, List.pairwise_filterMap, List.pairwise_iff_getElem] at ascending
  obtain ⟨inLeft, rfl⟩ := List.getElem?_eq_some_iff.1 atLeft
  obtain ⟨inRight, rfl⟩ := List.getElem?_eq_some_iff.1 atRight
  have apart := ascending left right inLeft inRight below
    (index, log[left].sqlcmd) (by rw [isEntry]; rfl) (index, log[right].sqlcmd) (by rw [isOther]; rfl)
  exact Nat.lt_irrefl _ apart

theorem Synced.appliedOnce (synced : Synced zones masterLog slaveLog)
    (journal : zones.slave.Journal slaveLog) : AppliedOnce zones := by
  have ascending : Ascending Prod.fst (federated slaveLog) := synced.own.ascending.sublist synced.run.sublist
  refine List.pairwise_filterMap.2 (journal.ascending.imp_of_mem ?_)
  rintro ⟨index, entry⟩ ⟨otherIndex, other⟩ isRun isOther below fed isFed otherFed isOtherFed rfl
  obtain ⟨position, rfl, found⟩ := journal.recorded index entry isRun
  obtain ⟨otherPosition, rfl, otherFound⟩ := journal.recorded otherIndex other isOther
  exact federated_apart ascending (Nat.lt_of_succ_lt_succ below) found otherFound isFed isOtherFed

/-- Contiguity holds in every run.  Each record is executed once when the records of
executed commands are stored: in solo mode a failed insert goes unnoticed. -/
theorem federation_log (zoneId : Int) :
    (∀ zones, (Zones.system zoneId).Reachable System.anyStep zones → Contiguous zones) ∧
      (∀ zones, (Zones.system zoneId).Reachable (fun _ event => event.Stored) zones → AppliedOnce zones) := by
  constructor
  · intro zones reached
    have held := @System.Reachable.invariant _ _ _ _
      (fun zones => ∃ masterLog slaveLog, Synced zones masterLog slaveLog) _ reached
      (fun start ⟨masterLog, slaveLog, synced, _⟩ => ⟨masterLog, slaveLog, synced⟩)
      (fun before event next ⟨masterLog, slaveLog, synced⟩ _ stepped => by
        obtain ⟨masterAfter, slaveAfter, after, -⟩ := synced.step stepped
        exact ⟨masterAfter, slaveAfter, after⟩)
    obtain ⟨masterLog, slaveLog, synced⟩ := held
    exact ⟨masterLog, slaveLog, synced.master.repr, synced.slave.repr, synced.run⟩
  · intro zones reached
    have held := @System.Reachable.invariant _ _ _ _
      (fun zones => ∃ masterLog slaveLog, Synced zones masterLog slaveLog ∧ zones.slave.Journal slaveLog) _ reached
      (fun start ⟨masterLog, slaveLog, synced, journal, _⟩ =>
        ⟨masterLog, slaveLog, synced, journal⟩)
      (fun before event next ⟨masterLog, slaveLog, synced, journal⟩ stored stepped => by
        obtain ⟨masterAfter, slaveAfter, after, kept⟩ := synced.step stepped
        exact ⟨masterAfter, slaveAfter, after, kept stored journal⟩)
    obtain ⟨masterLog, slaveLog, synced, journal⟩ := held
    exact synced.appliedOnce journal

/-- A zone in solo mode with one federated record. -/
def seed : LogDB :=
  { solo := true, cache := false, raftState := none, executed := [(1, ⟨0, "CREATE", some 1⟩)],
    table := AList.insert 1 ⟨0, "CREATE", some 1, true⟩ (AList.insert 0 ⟨0, "0", none, true⟩ ∅),
    nextIndex := 2, lastApplied := 1, lastIndex := 1, lastTerm := 0, fedLog := {1} }

theorem seed_lookup (index : Nat) : seed.table.lookup index = if index = 1 then some ⟨0, "CREATE", some 1, true⟩
    else if index = 0 then some ⟨0, "0", none, true⟩ else none := by
  rw [seed, Map.lookup_insert_eq, Map.lookup_insert_eq]
  rfl

theorem seed_zone : seed.Zone [⟨0, "CREATE", some 1⟩] where
  repr := by
    refine ⟨⟨⟨_, seed_lookup 0, rfl⟩, fun index => ?_⟩, rfl, rfl, rfl⟩
    rw [seed_lookup]
    cases index with
    | zero => rfl
    | succ index => rw [if_neg (by omega), if_neg (by omega)]; rfl
  mirrors := by
    intro index
    simp [seed, federated]
  boot := by
    intro row stored
    rw [seed_lookup] at stored
    cases stored
    rfl

theorem seed_journal : seed.Journal [⟨0, "CREATE", some 1⟩] where
  ascending := List.pairwise_singleton _ _
  bounded := by simp [seed]
  recorded := by
    intro index entry isRun
    obtain ⟨rfl, rfl⟩ := Prod.mk.inj (List.mem_singleton.1 isRun)
    exact ⟨0, rfl, rfl⟩
  applied := .inr ⟨_, seed_lookup 1, rfl⟩
  inside := Nat.le_refl _

def seedZones : Zones :=
  { master := seed, frm := .empty, slave := seed, nextCall := 0, requests := [], replies := [] }

theorem seedZones_start : seedZones.Start := by
  refine ⟨[⟨0, "CREATE", some 1⟩], [⟨0, "CREATE", some 1⟩],
    ⟨seed_zone, seed_zone, ?_, List.infix_rfl, fun _ isPacket => by cases isPacket⟩, seed_journal,
    rfl, rfl, rfl⟩
  intro position entry index found isIndex
  cases position with
  | zero => cases found; cases isIndex; rfl
  | succ position => cases found

def written : LogDB.WriteOutcome :=
  { stored := true, isLeader := true, term := 0, replicated := true, rc := fun _ => .success }

/-- The reply to the first request is lost, the master restarts, and the request
comes once more at the end. -/
theorem federation_log_retry : ∃ zones, (Zones.system 100).Reachable (fun _ event => event.Stored) zones ∧
      zones.slave.executed.map Prod.fst = [1, 2, 3, 4] ∧ Contiguous zones ∧ AppliedOnce zones := by
  have ran : (((Zones.system 100).exec (fun _ event => event.Stored) seedZones
      [.federatedWrite "INSERT" written, .startReplicaThreads, .federatedWrite "DELETE" written,
        .replicaCall, .deliver 0 true written, .replicaReply .pool none,
        .masterRestart "1", .startReplicaThreads, .federatedWrite "UPDATE" written, .replicaCall,
        .deliver 1 true written, .replicaReply .pool (some 1), .replicaCall,
        .deliver 2 true written, .deliver 0 true written]).map
          fun zones => zones.slave.executed.map Prod.fst) = some [1, 2, 3, 4] := by
    decide
  obtain ⟨zones, ran, executed⟩ := Option.map_eq_some_iff.mp ran
  have reached : (Zones.system 100).Reachable (fun _ event => event.Stored) zones :=
    System.reachable_of_exec seedZones_start ran
  have anyReached : (Zones.system 100).Reachable System.anyStep zones := by
    obtain ⟨start, isStart, path⟩ := reached
    exact ⟨start, isStart, path.weaken fun _ _ _ => trivial⟩
  exact ⟨zones, reached, executed, (federation_log 100).1 zones anyReached, (federation_log 100).2 zones reached⟩

end OpenNebula.Federation
