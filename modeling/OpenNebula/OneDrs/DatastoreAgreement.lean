import OpenNebula.OneDrs.NoOvercommit
import OpenNebula.OneDrs.OptimizerParser

namespace OpenNebula.OneDrs

open Library

/-! # The datastore of an action and the places that the program reserves -/

namespace Document

variable {document : Document} {values : Assignment} {vm : ℕ} {allocation : Allocation}

/-- A VM that gets an action has somewhere to be stored, at one place only, and the shared datastore that
it uses already still matches it. -/
structure Settled (document : Document) (values : Assignment) (vm : ℕ) : Prop where
  asks : (document.buildVmStorage vm).ids ≠ ∅
  together : ∀ first ∈ (document.buildVmStorage vm).ids, ∀ second ∈ (document.buildVmStorage vm).ids,
    ∀ place, document.Reserved values vm first place → document.Reserved values vm second place
  used : ∀ id ∈ document.usedSharedDstores.lookup (vm, 0), id ∈ document.requirements.get vm

variable {id host req : ℕ}

theorem mem_localHosts :
    host ∈ document.localHosts id ↔ host ∈ document.hosts.ids ∧ id ∈ (document.hosts.get host).localDs := by
  rw [localHosts, List.mem_filter, decide_eq_true_eq, Table.ids, List.mem_toFinset]

theorem isLocal_iff :
    document.isLocal id = true ↔ ∃ host ∈ document.hosts.ids, id ∈ (document.hosts.get host).localDs := by
  unfold isLocal
  rw [decide_eq_true_eq]
  constructor
  · intro listed
    obtain ⟨host, member⟩ := List.exists_mem_of_ne_nil _ listed
    exact ⟨host, mem_localHosts.1 member⟩
  · rintro ⟨host, hasIt⟩
    exact List.ne_nil_of_mem (mem_localHosts.2 hasIt)

theorem mem_sharedDs (member : id ∈ document.sharedDs) :
    id ∈ document.datastores.ids ∧ (document.datastores.get id).type ≠ .imageDs :=
  ⟨(Finset.mem_filter.1 member).1, (Finset.mem_filter.1 member).2.1⟩

theorem buildVmStorage_eq (disks : (document.vms.get vm).disks ≠ []) : document.buildVmStorage vm =
      ⟨List.range (document.vms.get vm).disks.length,
        fun req => ((document.vms.get vm).disks[req]?).elim default (document.diskRequirement vm)⟩ :=
  if_neg disks

theorem buildVmStorage_diskless (noDisks : (document.vms.get vm).disks = []) : document.buildVmStorage vm =
      if document.requirements.get vm = [] then .ofList [] else ⟨[0], fun _ => document.systemRequirement vm 0⟩ :=
  if_pos noDisks

theorem mem_storage_of_disk {disk : Disk} (isDisk : (document.vms.get vm).disks[req]? = some disk) :
    req ∈ (document.buildVmStorage vm).ids ∧ document.input.request vm req = document.diskRequirement vm disk := by
  obtain ⟨inRange, -⟩ := List.getElem?_eq_some_iff.1 isDisk
  have disks : (document.vms.get vm).disks ≠ [] := List.ne_nil_of_mem (List.mem_of_getElem? isDisk)
  change _ ∧ (document.buildVmStorage vm).get req = _
  rw [buildVmStorage_eq disks]
  exact ⟨List.mem_toFinset.2 (List.mem_range.2 inRange), by simp only [isDisk, Option.elim]⟩

theorem unmatched_of_storage (empty : (document.buildVmStorage vm).ids = ∅) : document.requirements.get vm = [] := by
  by_contra matched
  by_cases noDisks : (document.vms.get vm).disks = []
  · rw [buildVmStorage_diskless noDisks, if_neg matched] at empty
    exact Finset.singleton_ne_empty 0 empty
  · obtain ⟨disk, rest, isDisks⟩ := List.exists_cons_of_ne_nil noDisks
    have first : (document.vms.get vm).disks[0]? = some disk := by rw [isDisks]; rfl
    exact Finset.ne_empty_of_mem (mem_storage_of_disk first).1 empty

section

variable (builds : document.Builds)
include builds

theorem Builds.imageUsage (known : vm ∈ document.scheduled) {disk : Disk}
    (isDisk : (document.vms.get vm).disks[req]? = some disk) : disk.imageUsage = 0 := by
  by_contra used
  have positive : 0 < disk.imageUsage := Nat.pos_of_ne_zero used
  have member : disk ∈ (document.vms.get vm).disks := List.mem_of_getElem? isDisk
  have linked : disk.target = some .self := by
    by_contra other
    exact used (if_neg other)
  obtain ⟨solid, copied⟩ : disk.volatile = false ∧ disk.clone.isNone = false := by
    unfold Disk.target at linked
    split at linked
    · cases linked
    · rename_i solid
      refine ⟨Bool.eq_false_iff.2 solid, ?_⟩
      cases clone : disk.clone with
      | none =>
        rw [clone] at linked
        cases linked
      | some => rfl
  obtain ⟨id, isId⟩ := Option.isSome_iff_exists.1 (builds.imageDatastores vm known disk member positive)
  obtain ⟨isReq, isDiskRequirement⟩ := mem_storage_of_disk isDisk
  have request : document.input.request vm req =
      { size := disk.imageUsage, allowHostDstores := false, sharedDstoreIds := [id] } := by
    simp only [isDiskRequirement, diskRequirement, solid, copied, Bool.not_false, Bool.and_false, Bool.false_eq_true,
      if_false, if_pos positive, isId, Option.toList]
  have found := builds.program.dstores vm (List.mem_toFinset.2 known) req isReq (by rw [request]) id
    (by rw [request]; exact List.mem_singleton_self _)
  have shared : id ∈ document.sharedDs := of_decide_eq_true (List.mem_filter.1 (List.mem_toFinset.1 found)).2
  obtain ⟨isDatastore, notImage⟩ := mem_sharedDs shared
  have inPool : vm ∈ document.vms.ids := of_decide_eq_true (List.mem_filter.1 known).2
  exact notImage (document.imagesStored vm inPool disk member solid id isId isDatastore)

theorem Builds.request_eq (known : vm ∈ document.scheduled)
    (isReq : req ∈ (document.buildVmStorage vm).ids) :
    ∃ size, document.input.request vm req = document.systemRequirement vm size := by
  by_cases noDisks : (document.vms.get vm).disks = []
  · refine ⟨0, ?_⟩
    change (document.buildVmStorage vm).get req = _
    rw [buildVmStorage_diskless noDisks] at isReq ⊢
    split at isReq
    next => cases isReq
    next matched => rw [if_neg matched]
  · rw [buildVmStorage_eq noDisks] at isReq
    have isDisk := List.getElem?_eq_getElem (List.mem_range.1 (List.mem_toFinset.1 isReq))
    rw [(mem_storage_of_disk isDisk).2]
    simp only [diskRequirement, builds.imageUsage known isDisk, lt_irrefl, if_false]
    split
    · exact ⟨0, rfl⟩
    · exact ⟨_, rfl⟩

theorem Builds.systemRequests_eq (known : vm ∈ document.scheduled) :
    document.systemRequests vm = (document.buildVmStorage vm).ids := by
  refine Finset.filter_true_of_mem fun req _ => ?_
  cases isDisk : (document.vms.get vm).disks[req]? with
  | none => rfl
  | some disk => exact decide_eq_true (builds.imageUsage known isDisk)

theorem Builds.hostDisk (known : vm ∈ document.scheduled) {disk : ℕ}
    (isReq : req ∈ (document.buildVmStorage vm).ids) (considered : disk ∈ document.input.hostDisks vm req host) :
    disk = 0 ∧ (document.localMatches vm host).Nonempty := by
  obtain ⟨size, isSystem⟩ := builds.request_eq known isReq
  unfold Input.hostDisks at considered
  split at considered
  · cases considered
  · rw [isSystem] at considered
    unfold diskMatches systemRequirement at considered
    simp only at considered
    split at considered
    · obtain ⟨found, -⟩ := Finset.mem_filter.1 considered
      split at found
      · rename_i isHost
        obtain ⟨id, matched, hasIt⟩ := List.mem_flatMap.1 (List.mem_toFinset.1 isHost)
        refine ⟨by simpa using found, id, Finset.mem_inter.2 ⟨?_, List.mem_toFinset.2 matched⟩⟩
        exact List.mem_toFinset.2 (mem_localHosts.1 hasIt).2
      · cases found
    · cases considered

end

theorem usedSharedDstores_spec (used : document.usedSharedDstores.lookup (vm, req) = some id) :
    req = 0 ∧ document.isLocal id = false ∧ id ∈ document.sharedDs := by
  obtain ⟨member, isId⟩ := Table.lookup_eq_some.1 used
  obtain ⟨other, otherMember, same⟩ := List.mem_map.1 (List.mem_toFinset.1 member)
  cases same
  have shared := (List.mem_filter.1 otherMember).2
  change (document.lastDs vm).getD 0 = id at isId
  cases last : document.lastDs vm with
  | none =>
    rw [last] at shared
    cases shared
  | some found =>
    rw [last, Option.getD_some] at isId
    rw [last, Option.any_some, isId] at shared
    simpa using shared

theorem Builds.sharedDstore (builds : document.Builds) (known : vm ∈ document.scheduled)
    (isReq : req ∈ (document.buildVmStorage vm).ids) (considered : id ∈ document.input.sharedDstores vm req) :
    document.isLocal id = false ∧ id ∈ document.sharedDs ∧
      (id ∈ document.requirements.get vm ∨ document.usedSharedDstores.lookup (vm, 0) = some id) := by
  unfold Input.sharedDstores at considered
  split at considered
  · cases considered
  · split at considered
    · rename_i used isUsed
      obtain rfl := Finset.mem_singleton.1 considered
      obtain ⟨rfl, isShared, member⟩ := usedSharedDstores_spec isUsed
      exact ⟨isShared, member, .inr isUsed⟩
    · obtain ⟨size, isSystem⟩ := builds.request_eq known isReq
      rw [isSystem] at considered
      unfold sharedMatches systemRequirement at considered
      simp only at considered
      split at considered
      · cases considered
      · obtain ⟨found, -⟩ := Finset.mem_filter.1 considered
        obtain ⟨matched, kind⟩ := List.mem_filter.1 (List.mem_toFinset.1 found)
        simp only [Bool.and_eq_true, Bool.not_eq_true', decide_eq_true_eq] at kind
        exact ⟨kind.1, kind.2, .inl matched⟩

theorem reserved_inl {disk : ℕ} (reserved : document.Reserved values vm req (.inl ⟨host, disk⟩)) :
    host ∈ document.input.hostMatches vm ∧ disk ∈ document.input.hostDisks vm req host ∧
      values.hostDisk vm req host disk = true := by
  obtain ⟨isMatch, considered⟩ := Finset.mem_sigma.1 (Finset.inl_mem_disjSum.1 reserved.1)
  exact ⟨isMatch, considered, reserved.2⟩

theorem reserved_inr (reserved : document.Reserved values vm req (.inr id)) :
    id ∈ document.input.sharedDstores vm req ∧ values.shared document.input vm req id = true :=
  ⟨Finset.inr_mem_disjSum.1 reserved.1, reserved.2⟩

theorem reserved_used {used : ℕ} (isUsed : document.usedSharedDstores.lookup (vm, 0) = some used)
    (reserved : document.Reserved values vm 0 (document.placeOf id host)) : id = used := by
  have member : (vm, 0) ∈ document.usedSharedDstores.ids := (Table.lookup_eq_some.1 isUsed).1
  unfold placeOf at reserved
  split at reserved
  · have considered := (reserved_inl reserved).2.1
    rw [Input.hostDisks, if_pos (.inl member)] at considered
    cases considered
  · have considered := (reserved_inr reserved).1
    unfold Input.sharedDstores at considered
    split at considered
    · cases considered
    · rw [show document.input.usedSharedDstores.lookup (vm, 0) = some used from isUsed] at considered
      exact Finset.mem_singleton.1 considered

section Placed

variable (builds : document.Builds) (satisfies : values.Satisfies document.input) (known : vm ∈ document.scheduled)
  (placed : values.optPlacement document.input vm = some allocation)

include satisfies known placed

variable {req id : ℕ}

section

variable (isReq : req ∈ (document.buildVmStorage vm).ids)
include isReq

theorem exists_reserved : ∃ place, document.Reserved values vm req place ∧
      ∀ other, document.Reserved values vm req other → other = place := by
  have one := satisfies.storage vm (List.mem_toFinset.2 known) req isReq
  rw [pending_of_optPlacement placed, bit_false, sub_zero] at one
  obtain ⟨place, member, chosen, single⟩ := sum_bit_eq_one.1 one
  exact ⟨place, ⟨member, chosen⟩, fun other reserved => single other reserved.1 reserved.2⟩

theorem reserved_unique {first second : (Σ _ : ℕ, ℕ) ⊕ ℕ}
    (atFirst : document.Reserved values vm req first) (atSecond : document.Reserved values vm req second) :
    first = second := by
  obtain ⟨place, -, single⟩ := exists_reserved satisfies known placed isReq
  exact (single first atFirst).trans (single second atSecond).symm

theorem cluster_of_reserved (reserved : document.Reserved values vm req (.inr id)) :
    ∃ host, allocation.host = some host ∧
      (document.hosts.get host).clusterId ∈ (document.datastores.get id).clusterIds := by
  obtain ⟨considered, chosen⟩ := reserved_inr reserved
  exact cluster_of_placed satisfies (List.mem_toFinset.2 known) placed
    (satisfies.dstoreCluster vm (List.mem_toFinset.2 known) req isReq id considered) chosen

end

include builds

theorem sharedDstore_iff (isReq : req ∈ (document.buildVmStorage vm).ids) :
    allocation.sharedDstore req = some id ↔ document.Reserved values vm req (.inr id) := by
  constructor
  · intro isId
    obtain ⟨considered, chosen⟩ := sharedDstore_of_placed placed isId
    exact ⟨Finset.inr_mem_disjSum.2 considered, chosen⟩
  · intro reserved
    obtain ⟨considered, chosen⟩ := reserved_inr reserved
    have isDstore := builds.program.placedDstores vm (List.mem_toFinset.2 known) req isReq id considered
    obtain ⟨last, isLast⟩ := exists_sharedDstore placed isDstore considered chosen
    obtain ⟨lastConsidered, lastChosen⟩ := sharedDstore_of_placed placed isLast
    have atLast : document.Reserved values vm req (.inr last) := ⟨Finset.inr_mem_disjSum.2 lastConsidered, lastChosen⟩
    have same := reserved_unique satisfies known placed isReq reserved atLast
    cases same
    exact isLast

theorem hostDisk_of_reserved {host disk : ℕ} (isReq : req ∈ (document.buildVmStorage vm).ids)
    (reserved : document.Reserved values vm req (.inl ⟨host, disk⟩)) :
    allocation.host = some host ∧ disk = 0 ∧ (document.localMatches vm host).Nonempty ∧
      ∃ last, allocation.hostDisk req = some last := by
  obtain ⟨isMatch, considered, chosen⟩ := reserved_inl reserved
  obtain ⟨chosenHost, -, isHost, unique⟩ := host_of_placed satisfies (List.mem_toFinset.2 known) placed
  have isNext : values.next document.input vm host = true := bit_le_bit.1
    (satisfies.diskAllocation vm (List.mem_toFinset.2 known) req isReq host isMatch disk considered) chosen
  obtain rfl := (unique host isMatch).1 isNext
  obtain ⟨isDisk, matched⟩ := builds.hostDisk known isReq considered
  refine ⟨isHost, isDisk, matched, exists_hostDisk placed isMatch ?_ considered chosen⟩
  exact (Input.mem_hostDisks (List.mem_toFinset.2 known) isReq builds.program considered).2

theorem getVmDs_shared (settled : document.Settled values vm) (isReq : req ∈ (document.buildVmStorage vm).ids)
    (reserved : document.Reserved values vm req (.inr id)) : document.getVmDs vm allocation = {some id} := by
  obtain ⟨host, isHost, -⟩ := cluster_of_reserved satisfies known placed isReq reserved
  obtain ⟨considered, -⟩ := reserved_inr reserved
  have isShared := (builds.sharedDstore known isReq considered).2.1
  have all : ∀ found ∈ document.sharedDstoreIds vm allocation, found = id := by
    intro found member
    obtain ⟨other, otherMember, isFound⟩ := List.mem_filterMap.1 member
    have isOther : other ∈ (document.buildVmStorage vm).ids := List.mem_toFinset.2 otherMember
    have atOther := settled.together req isReq other isOther _ reserved
    rw [(sharedDstore_iff builds satisfies known placed isOther).2 atOther] at isFound
    exact (Option.some.inj isFound).symm
  have member : id ∈ document.sharedDstoreIds vm allocation :=
    List.mem_filterMap.2 ⟨req, List.mem_toFinset.1 isReq,
      (sharedDstore_iff builds satisfies known placed isReq).2 reserved⟩
  have first : (document.sharedDstoreIds vm allocation).find? (fun id => id ∈ document.sharedDs) = some id := by
    cases found : (document.sharedDstoreIds vm allocation).find? fun id => id ∈ document.sharedDs with
    | none => exact absurd (decide_eq_true isShared) (List.find?_eq_none.1 found id member)
    | some other => rw [all other (List.mem_of_find?_eq_some found)]
  simp only [getVmDs, isHost, if_pos (List.ne_nil_of_mem member), first]

theorem getVmDs_local {host disk : ℕ} (settled : document.Settled values vm)
    (isReq : req ∈ (document.buildVmStorage vm).ids)
    (reserved : document.Reserved values vm req (.inl ⟨host, disk⟩)) :
    document.getVmDs vm allocation = (document.localMatches vm host).image some := by
  obtain ⟨isHost, -, -, last, isLast⟩ := hostDisk_of_reserved builds satisfies known placed isReq reserved
  have empty : document.sharedDstoreIds vm allocation = [] := by
    refine List.filterMap_eq_nil_iff.2 fun other otherMember => ?_
    have isOther : other ∈ (document.buildVmStorage vm).ids := List.mem_toFinset.2 otherMember
    cases found : allocation.sharedDstore other with
    | none => rfl
    | some id =>
      have atShared := (sharedDstore_iff builds satisfies known placed isOther).1 found
      have atHost := settled.together req isReq other isOther _ reserved
      cases reserved_unique satisfies known placed isOther atShared atHost
  have member : last ∈ document.hostDstoreIds vm allocation :=
    List.mem_filterMap.2 ⟨req, List.mem_toFinset.1 isReq, isLast⟩
  simp only [getVmDs, isHost, empty, ne_eq, not_true_eq_false, if_false, if_pos (List.ne_nil_of_mem member)]

theorem getVmDs_nonempty : (document.getVmDs vm allocation).Nonempty := by
  obtain ⟨host, -, isHost, -⟩ := host_of_placed satisfies (List.mem_toFinset.2 known) placed
  simp only [getVmDs, isHost]
  split
  next => split <;> exact Finset.singleton_nonempty _
  next noShared =>
    split
    next listed =>
      obtain ⟨disk, member⟩ := List.exists_mem_of_ne_nil _ listed
      obtain ⟨req, reqMember, isDisk⟩ := List.mem_filterMap.1 member
      have isReq : req ∈ (document.buildVmStorage vm).ids := List.mem_toFinset.2 reqMember
      obtain ⟨other, otherMatch, considered, chosen⟩ := hostDisk_of_placed placed isDisk
      have reserved : document.Reserved values vm req (.inl ⟨other, disk⟩) :=
        ⟨Finset.inl_mem_disjSum.2 (Finset.mem_sigma.2 ⟨otherMatch, considered⟩), chosen⟩
      obtain ⟨isOther, -, matched, -⟩ := hostDisk_of_reserved builds satisfies known placed isReq reserved
      rw [isHost] at isOther
      cases isOther
      exact matched.image _
    next => exact Finset.singleton_nonempty _

theorem Settled.agrees (settled : document.Settled values vm) {operation : Operation} {ds : Option ℕ}
    (named : ds ∈ document.getVmDs vm allocation) :
    ∃ host id, document.Agrees values ⟨vm, operation, allocation.host, ds⟩ host id := by
  obtain ⟨req, isReq⟩ := Finset.nonempty_iff_ne_empty.2 settled.asks
  obtain ⟨place, reserved, -⟩ := exists_reserved satisfies known placed isReq
  have everywhere : ∀ other ∈ document.systemRequests vm, document.Reserved values vm other place := by
    rw [builds.systemRequests_eq known]
    exact fun other isOther => settled.together req isReq other isOther place reserved
  have scheduledVm : vm ∈ document.requirements.ids := List.mem_toFinset.2 (List.mem_filter.1 known).1
  cases place with
  | inl place =>
    obtain ⟨host, disk⟩ := place
    obtain ⟨isHost, rfl, -⟩ := hostDisk_of_reserved builds satisfies known placed isReq reserved
    rw [getVmDs_local builds satisfies known placed settled isReq reserved] at named
    obtain ⟨id, member, rfl⟩ := Finset.mem_image.1 named
    obtain ⟨hasIt, matched⟩ := Finset.mem_inter.1 member
    rw [List.mem_toFinset] at hasIt matched
    have hostKnown : host ∈ document.hosts.ids := Input.mem_hosts (reserved_inl reserved).1
    have isLocal : document.isLocal id = true := isLocal_iff.2 ⟨host, hostKnown, hasIt⟩
    refine ⟨host, id, isHost, rfl, matched, document.matchesSystem vm scheduledVm id matched, ?_, ?_⟩
    · rwa [Usable, if_pos isLocal]
    · rwa [placeOf, if_pos isLocal]
  | inr id =>
    obtain ⟨host, isHost, inCluster⟩ := cluster_of_reserved satisfies known placed isReq reserved
    rw [getVmDs_shared builds satisfies known placed settled isReq reserved, Finset.mem_singleton] at named
    obtain ⟨isShared, -, from'⟩ := builds.sharedDstore known isReq (reserved_inr reserved).1
    have matched : id ∈ document.requirements.get vm := from'.elim (fun matched => matched) (settled.used id)
    have notLocal : ¬ document.isLocal id = true := Bool.eq_false_iff.1 isShared
    refine ⟨host, id, isHost, named, matched, document.matchesSystem vm scheduledVm id matched, ?_, ?_⟩
    · rwa [Usable, if_neg notLocal]
    · rwa [placeOf, if_neg notLocal]

theorem settled_of_agrees {operation : Operation} {ds : Option ℕ} {host : ℕ}
    (agrees : document.Agrees values ⟨vm, operation, allocation.host, ds⟩ host id) : document.Settled values vm := by
  have reserved := agrees.reserved
  rw [builds.systemRequests_eq known] at reserved
  refine ⟨fun empty => ?_, fun first isFirst second isSecond place atFirst => ?_, fun used isUsed => ?_⟩
  · have matched := agrees.matched
    rw [unmatched_of_storage empty] at matched
    cases matched
  · rw [reserved_unique satisfies known placed isFirst atFirst (reserved first isFirst)]
    exact reserved second isSecond
  · obtain ⟨member, -⟩ := Table.lookup_eq_some.1 isUsed
    have isReq : 0 ∈ (document.buildVmStorage vm).ids := (builds.program.usedShared (vm, 0) member).2
    obtain rfl := reserved_used isUsed (reserved 0 isReq)
    exact agrees.matched

end Placed

def Acted (document : Document) (values : Assignment) (vm : ℕ) : Prop :=
  ∃ allocation, values.optPlacement document.input vm = some allocation ∧
    (document.getOperation vm allocation).isSome

end Document

theorem plan_agrees_iff {document : Document} {values : Assignment} (builds : document.Builds)
    (satisfies : values.Satisfies document.input) : (∀ vm ∈ document.scheduled, ∀ action ∈ document.actions values vm,
        ∃ host id, document.Agrees values action host id) ↔
      ∀ vm ∈ document.scheduled, document.Acted values vm → document.Settled values vm := by
  refine forall₂_congr fun vm known => ?_
  cases placed : values.optPlacement document.input vm with
  | none =>
    refine iff_of_true (fun action member => ?_) ?_
    · simp [Document.actions, placed] at member
    · rintro ⟨allocation, isPlaced, -⟩
      rw [placed] at isPlaced
      cases isPlaced
  | some allocation =>
    cases operated : document.getOperation vm allocation with
    | none =>
      refine iff_of_true (fun action member => ?_) ?_
      · simp [Document.actions, placed, operated] at member
      · rintro ⟨other, isPlaced, isOperated⟩
        rw [placed] at isPlaced
        cases isPlaced
        rw [operated] at isOperated
        cases isOperated
    | some operation =>
      have actions : document.actions values vm =
          (document.getVmDs vm allocation).image fun ds => ⟨vm, operation, allocation.host, ds⟩ := by
        simp only [Document.actions, placed, operated]
      rw [actions, Finset.forall_mem_image]
      constructor
      · intro agree _
        obtain ⟨ds, named⟩ := Document.getVmDs_nonempty builds satisfies known placed
        obtain ⟨host, id, agrees⟩ := agree named
        exact Document.settled_of_agrees builds satisfies known placed agrees
      · intro settled ds named
        have acted : document.Acted values vm := ⟨allocation, placed, by rw [operated]; rfl⟩
        exact (settled acted).agrees builds satisfies known placed named

def twoDisks : Document where
  datastores := ⟨[100, 101], fun _ =>
    { type := .systemDs, shared := true, clusterIds := {0}, totalMb := 3000, usedMb := 0 }⟩
  hosts := ⟨[0], fun _ => { capacity := { memory := ⟨10, 0⟩, cpu := ⟨4, 0⟩ }, clusterId := 0 }⟩
  vms := ⟨[1], fun _ =>
    { requirements := { state := some .pending, memory := (5 : ℕ), cpuRatio := 1 }
      disks := [{ volatile := true, size := 1000 }, { volatile := true, size := 1000 }] }⟩
  requirements := ⟨[1], fun _ => [100, 101]⟩
  matchesSystem := fun _ _ _ _ _ => rfl
  imagesStored := by decide

/-- Both disks get the first datastore, or each its own one. -/
def twoDisksValues (apart : Bool) : Assignment where
  used _ := true
  alloc _ _ := true
  groupAlloc _ _ := false
  pend _ := false
  groupPend _ := false
  pci _ _ _ _ := false
  hostDisk _ _ _ _ := false
  sharedDstore _ req id := id = if apart then 100 + req else 100
  vnet _ _ _ := false

theorem twoDisks_builds : twoDisks.Builds where
  program :=
    { usedHost := by decide
      usedShared := by decide
      groups := by decide
      vnets := by decide
      disks := by decide
      dstores := by decide
      placedDstores := by decide +kernel
      joined := by decide
      remaining := by decide
      clusterGroups := by decide
      clusterNames := by decide }
  imageDatastores := by decide

theorem twoDisks_satisfies (apart : Bool) : (twoDisksValues apart).Satisfies twoDisks.input where
  oneHost := by revert apart; decide +kernel
  memory := by revert apart; decide +kernel
  cpu := by revert apart; decide +kernel
  committed := by revert apart; decide +kernel
  withGroup := by revert apart; decide +kernel
  antiAffined := by revert apart; decide +kernel
  pciAllocation := by revert apart; decide +kernel
  pciRequest := by revert apart; decide +kernel
  pciDevice := Input.pciDevice_of_asked (by revert apart; decide +kernel)
  diskAllocation := by revert apart; decide +kernel
  remaining := by revert apart; decide +kernel
  storage := by revert apart; decide +kernel
  disk := Input.disk_of_asked (by revert apart; decide +kernel)
  dstore := Input.dstore_of_asked (by revert apart; decide +kernel)
  nic := by revert apart; decide +kernel
  addresses := Input.addresses_of_asked (by revert apart; decide +kernel)
  share := by
    intro vm known
    have waiting : twoDisks.input.nics vm = ∅ := by revert vm; decide +kernel
    simp [Input.vnetNics, waiting]
  dstoreCluster := by revert apart; decide +kernel
  vnetCluster := by revert apart; decide +kernel
  sameCluster := by revert apart; decide +kernel
  migrations := by revert apart; decide +kernel

/-- Each disk is given a datastore of its own; the action names the first one. -/
theorem plan_disagrees :
    ∃ (document : Document) (values : Assignment), document.Builds ∧ values.Satisfies document.input ∧
      ∃ vm ∈ document.scheduled, ∃ action ∈ document.actions values vm,
        ¬ ∃ host id, document.Agrees values action host id := by
  refine ⟨twoDisks, twoDisksValues true, twoDisks_builds, twoDisks_satisfies true, 1, List.mem_singleton_self _,
    ⟨1, .deploy, some 0, some 100⟩, by decide +kernel, ?_⟩
  rintro ⟨host, id, agrees⟩
  obtain rfl := Option.some.inj agrees.hostIs
  obtain rfl := Option.some.inj agrees.dsIs
  exact absurd (agrees.reserved 1 (by decide)).2 (by decide +kernel)

theorem twoDisks_together : ∀ first ∈ (twoDisks.buildVmStorage 1).ids, ∀ second ∈ (twoDisks.buildVmStorage 1).ids,
    ∀ place ∈ twoDisks.input.storagePlaces 1 first,
      (twoDisksValues false).stored twoDisks.input 1 first place = true →
        place ∈ twoDisks.input.storagePlaces 1 second ∧
          (twoDisksValues false).stored twoDisks.input 1 second place = true := by
  decide +kernel

/-- Both disks are given the datastore that the action names. -/
theorem plan_agrees_twoDisks : (twoDisksValues false).Satisfies twoDisks.input ∧
      ∀ vm ∈ twoDisks.scheduled, ∀ action ∈ twoDisks.actions (twoDisksValues false) vm,
        ∃ host id, twoDisks.Agrees (twoDisksValues false) action host id := by
  refine ⟨twoDisks_satisfies false,
    (plan_agrees_iff twoDisks_builds (twoDisks_satisfies false)).2 fun vm known _ => ?_⟩
  obtain rfl := List.mem_singleton.1 known
  refine ⟨by decide, fun first isFirst second isSecond place reserved => ?_, by decide⟩
  exact twoDisks_together first isFirst second isSecond place reserved.1 reserved.2

end OpenNebula.OneDrs
