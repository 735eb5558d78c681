import OpenNebula.OneDrs.Matching
import Mathlib.Algebra.Order.BigOperators.Ring.Finset
import Mathlib.Tactic.Linarith

namespace OpenNebula.OneDrs

open Library

/-! # What a placement promises

A placement that is read back from an assignment gives no host, device, disk, datastore or VNet more
than it has, as far as the program knows what is on the hosts.
-/

inductive Resource where
  | memory | cpu

namespace Resource

def capacity : Resource → HostCapacity → Capacity
  | .memory, host => host.memory
  | .cpu, host => host.cpu

def demand : Resource → VMRequirements → ℚ≥0
  | .memory, vm => vm.memory
  | .cpu, vm => vm.cpuRatio

end Resource

namespace Input

variable (input : Input)

def residents (host : ℕ) : Finset ℕ := input.vms.ids.filter fun vm => input.currentPlacement.lookup vm = some host

def outside (resource : Resource) (host : ℕ) : ℚ :=
  (resource.capacity (input.hosts.get host)).usage -
    ∑ vm ∈ input.residents host, (resource.demand (input.vms.get vm) : ℚ)

section

variable (plan : ℕ → Option Allocation)

def hostAfter (vm : ℕ) : Option ℕ :=
  match plan vm with
  | some allocation => allocation.host
  | none => input.currentPlacement.lookup vm

def loadAfter (resource : Resource) (host : ℕ) : ℚ :=
  input.outside resource host +
    ∑ vm ∈ input.vms.ids.filter fun vm => input.hostAfter plan vm = some host, (resource.demand (input.vms.get vm) : ℚ)

/-- The program knows what is on a host: only free resources are given away, or no VM can get there, or
all that is used of it is used by VMs that the program may move. -/
def Accounted (resource : Resource) (host : ℕ) : Prop :=
  input.narrow = true ∨ input.vmMatches host = ∅ ∨
    (resource.capacity (input.hosts.get host)).usage ≤
      ∑ vm ∈ (input.residents host).filter fun vm => input.hostMatches vm ≠ ∅, (resource.demand (input.vms.get vm) : ℚ)

def diskUsers (host disk : ℕ) : Finset (Σ _ : ℕ, ℕ) :=
  input.vms.ids.sigma fun vm => (input.vms.get vm).storage.ids.filter fun req =>
    (plan vm).any fun allocation => allocation.host = some host && allocation.hostDisk req = some disk

def dstoreUsers (dstore : ℕ) : Finset (Σ _ : ℕ, ℕ) :=
  input.vms.ids.sigma fun vm => (input.vms.get vm).storage.ids.filter fun req =>
    (plan vm).any fun allocation => allocation.sharedDstore req = some dstore

def vnetUsers (vnet : ℕ) : Finset (Σ _ : ℕ, ℕ) :=
  input.vms.ids.sigma fun vm => (input.vms.get vm).nicMatches.ids.filter fun nic =>
    (plan vm).any fun allocation => allocation.vnet nic = some vnet

end

end Input

structure Fits (input : Input) (values : Assignment) (plan : ℕ → Option Allocation) : Prop where
  placed : ∀ vm ∈ input.vms.ids, ∀ allocation ∈ plan vm, ∃ host ∈ input.hosts.ids, allocation.host = some host ∧
    host ∈ input.hostMatches vm ∧ (∀ ids ∈ (input.vms.get vm).hostIds, host ∈ ids) ∧
      ∀ other ∈ input.hostMatches vm, values.next input vm other = true ↔ other = host
  load : ∀ resource, ∀ host ∈ input.hosts.ids,
    (resource.capacity (input.hosts.get host)).usage ≤ (resource.capacity (input.hosts.get host)).total →
      input.Accounted resource host →
        input.loadAfter plan resource host ≤ (resource.capacity (input.hosts.get host)).total
  device : ∀ host address, ∀ first ∈ input.pciRequests host address, ∀ second ∈ input.pciRequests host address,
    values.pci first.1 first.2 host address = true → values.pci second.1 second.2 host address = true → first = second
  disk : ∀ host disk, input.diskUsers plan host disk ≠ ∅ →
    ∑ key ∈ input.diskUsers plan host disk, ((input.request key.1 key.2).size : ℚ) ≤
      ((input.hosts.get host).disks.get disk).available input.narrow
  dstore : ∀ dstore, input.dstoreUsers plan dstore ≠ ∅ →
    ∑ key ∈ input.dstoreUsers plan dstore, ((input.request key.1 key.2).size : ℚ) ≤
      (input.dstoreCaps.get dstore).size.available input.narrow
  vnet : ∀ vnet, input.vnetUsers plan vnet ≠ ∅ →
    ((input.vnetUsers plan vnet).card : ℚ) ≤ (input.vnets.get vnet).freeIpAddresses
  pciServed : ∀ vm ∈ input.vms.ids, ∀ allocation ∈ plan vm, ∀ request < (input.vms.get vm).pciDevices.length,
    ∃ host address, allocation.host = some host ∧ address ∈ input.pciAddresses vm request host ∧
      values.pci vm request host address = true ∧
        ∀ place ∈ input.pciPlaces vm request, values.pci vm request place.1 place.2 = true → place = ⟨host, address⟩
  storageServed : ∀ vm ∈ input.vms.ids, ∀ allocation ∈ plan vm, ∀ req ∈ (input.vms.get vm).storage.ids,
    ∃ host, allocation.host = some host ∧
      ((∃ disk ∈ input.hostDisks vm req host, allocation.hostDisk req = some disk) ∨
        ∃ dstore ∈ input.sharedDstores vm req, allocation.sharedDstore req = some dstore ∧
          (input.hosts.get host).clusterId ∈ (input.dstores.get dstore).clusterIds)
  nicServed : ∀ vm ∈ input.vms.ids, ∀ allocation ∈ plan vm, ∀ nic ∈ input.nics vm, input.nicVnets vm nic ≠ ∅ →
    ∃ host, ∃ vnet ∈ input.nicVnets vm nic, allocation.host = some host ∧ allocation.vnet nic = some vnet ∧
      (input.hosts.get host).clusterId ∈ (input.vnets.get vnet).clusterIds

section Reading

variable {input : Input} {values : Assignment} {vm : ℕ} {allocation : Allocation}

theorem pending_of_optPlacement (placed : values.optPlacement input vm = some allocation) :
    values.pending input vm = false := by
  unfold Assignment.optPlacement at placed
  split at placed
  · cases placed
  · rename_i notPending
    exact Bool.eq_false_iff.2 notPending

theorem matches_of_placed (notPending : values.pending input vm = false) : input.hostMatches vm ≠ ∅ := by
  intro none
  rw [Assignment.pending, if_pos none] at notPending
  cases notPending

theorem host_of_placed (satisfies : values.Satisfies input) (known : vm ∈ input.vms.ids)
    (placed : values.optPlacement input vm = some allocation) :
    ∃ host ∈ input.hostMatches vm, allocation.host = some host ∧
      ∀ other ∈ input.hostMatches vm, values.next input vm other = true ↔ other = host := by
  have notPending := pending_of_optPlacement placed
  have one := satisfies.oneHost vm known (matches_of_placed notPending)
  rw [notPending, bit_false, add_zero] at one
  obtain ⟨host, isMatch, isNext, unique⟩ := sum_bit_eq_one.1 one
  have found : (input.hosts.keys.filter fun host => host ∈ input.hostMatches vm).find? (values.next input vm) =
      some host := by
    have member : host ∈ input.hosts.keys.filter fun host => host ∈ input.hostMatches vm :=
      List.mem_filter.2 ⟨List.mem_toFinset.1 (Input.mem_hosts isMatch), decide_eq_true isMatch⟩
    cases result : (input.hosts.keys.filter fun host => host ∈ input.hostMatches vm).find? (values.next input vm) with
    | none => exact absurd isNext (List.find?_eq_none.1 result host member)
    | some other =>
      have otherMatch := of_decide_eq_true (List.mem_filter.1 (List.mem_of_find?_eq_some result)).2
      rw [unique other otherMatch (List.find?_some result)]
  refine ⟨host, isMatch, ?_, fun other otherMatch => ⟨unique other otherMatch, fun same => same ▸ isNext⟩⟩
  unfold Assignment.optPlacement at placed
  rw [if_neg (by simp [notPending])] at placed
  rw [← Option.some.inj placed]
  exact found

variable {req : ℕ}

theorem hostDisk_of_placed (placed : values.optPlacement input vm = some allocation) {disk : ℕ}
    (isDisk : allocation.hostDisk req = some disk) :
    ∃ host ∈ input.hostMatches vm, disk ∈ input.hostDisks vm req host ∧ values.hostDisk vm req host disk = true := by
  unfold Assignment.optPlacement at placed
  rw [if_neg (by simp [pending_of_optPlacement placed])] at placed
  obtain rfl := Option.some.inj placed
  obtain ⟨host, isMatch, found⟩ := List.mem_flatMap.1 (List.mem_of_getLast? isDisk)
  obtain ⟨member, chosen⟩ := of_decide_eq_true (List.mem_filter.1 found).2
  exact ⟨host, of_decide_eq_true (List.mem_filter.1 isMatch).2, member, chosen⟩

theorem exists_of_mem {items : List ℕ} {item : ℕ} (member : item ∈ items) : ∃ last, items.getLast? = some last :=
  Option.isSome_iff_exists.1 (by rw [List.getLast?_isSome]; exact List.ne_nil_of_mem member)

section

variable (placed : values.optPlacement input vm = some allocation)
include placed

theorem exists_hostDisk {host disk : ℕ}
    (isMatch : host ∈ input.hostMatches vm) (isDisk : disk ∈ (input.hosts.get host).disks.ids)
    (considered : disk ∈ input.hostDisks vm req host) (chosen : values.hostDisk vm req host disk = true) :
    ∃ last, allocation.hostDisk req = some last := by
  unfold Assignment.optPlacement at placed
  rw [if_neg (by simp [pending_of_optPlacement placed])] at placed
  obtain rfl := Option.some.inj placed
  have isHost : host ∈ input.hosts.keys.filter fun host => host ∈ input.hostMatches vm :=
    List.mem_filter.2 ⟨List.mem_toFinset.1 (Input.mem_hosts isMatch), decide_eq_true isMatch⟩
  exact exists_of_mem (List.mem_flatMap.2 ⟨host, isHost,
    List.mem_filter.2 ⟨List.mem_toFinset.1 isDisk, decide_eq_true ⟨considered, chosen⟩⟩⟩)

theorem exists_sharedDstore {dstore : ℕ}
    (known : dstore ∈ input.dstores.ids) (considered : dstore ∈ input.sharedDstores vm req)
    (chosen : values.shared input vm req dstore = true) : ∃ last, allocation.sharedDstore req = some last := by
  unfold Assignment.optPlacement at placed
  rw [if_neg (by simp [pending_of_optPlacement placed])] at placed
  obtain rfl := Option.some.inj placed
  exact exists_of_mem (List.mem_filter.2 ⟨List.mem_toFinset.1 known, decide_eq_true ⟨considered, chosen⟩⟩)

theorem sharedDstore_of_placed {dstore : ℕ} (isDstore : allocation.sharedDstore req = some dstore) :
    dstore ∈ input.sharedDstores vm req ∧ values.shared input vm req dstore = true := by
  unfold Assignment.optPlacement at placed
  rw [if_neg (by simp [pending_of_optPlacement placed])] at placed
  obtain rfl := Option.some.inj placed
  exact of_decide_eq_true (List.mem_filter.1 (List.mem_of_getLast? isDstore)).2

end

end Reading

section Load

variable {input : Input} {values : Assignment} {host : ℕ}

end Load

section Places

variable {input : Input} {values : Assignment} {host : ℕ}

variable {vm : ℕ} {allocation : Allocation}

theorem cluster_of_placed (satisfies : values.Satisfies input) (known : vm ∈ input.vms.ids)
    (placed : values.optPlacement input vm = some allocation) {value : Bool} {clusters : Finset ℕ}
    (bounded : bit value ≤ ∑ cluster ∈ clusters, values.inCluster input vm cluster) (chosen : value = true) :
    ∃ host, allocation.host = some host ∧ (input.hosts.get host).clusterId ∈ clusters := by
  obtain ⟨host, isMatch, isHost, unique⟩ := host_of_placed satisfies known placed
  unfold Assignment.inCluster at bounded
  rw [Finset.sum_sigma'] at bounded
  obtain ⟨⟨cluster, other⟩, member, isNext⟩ := bit_le_sum_bit.1 bounded chosen
  obtain ⟨isCluster, member⟩ := Finset.mem_sigma.1 member
  obtain ⟨otherMatch, inCluster⟩ := Finset.mem_filter.1 member
  obtain rfl := (unique other otherMatch).1 isNext
  exact ⟨other, isHost, inCluster ▸ isCluster⟩

end Places

variable {input : Input} {values : Assignment}

namespace Input

variable {limit : ℕ → Prop}

/-! A bound on what is asked for somewhere holds as soon as it holds wherever a VM asks for something. -/

theorem pciDevice_of_asked {values : Assignment}
    (asked : ∀ vm ∈ input.vms.ids, ∀ request < (input.vms.get vm).pciDevices.length, ∀ place ∈ input.pciPlaces vm request,
      ∑ key ∈ input.pciRequests place.1 place.2, bit (values.pci key.1 key.2 place.1 place.2) ≤ 1) (host : ℕ)
    (address : String) : ∑ key ∈ input.pciRequests host address, bit (values.pci key.1 key.2 host address) ≤ 1 := by
  obtain none | ⟨⟨vm, request⟩, member⟩ := (input.pciRequests host address).eq_empty_or_nonempty
  · rw [none, Finset.sum_empty]
    exact zero_le_one
  · obtain ⟨known, member⟩ := Finset.mem_sigma.1 member
    obtain ⟨inRange, considered⟩ := Finset.mem_filter.1 member
    refine asked vm known request (Finset.mem_range.1 inRange) ⟨host, address⟩ (Finset.mem_sigma.2 ⟨?_, considered⟩)
    by_contra noMatch
    simp [pciAddresses, noMatch] at considered
    split at considered <;> cases considered

theorem disk_of_asked {limit : ℕ → ℕ → Prop}
    (asked : ∀ vm ∈ input.vms.ids, ∀ req ∈ (input.vms.get vm).storage.ids, ∀ host ∈ input.hostMatches vm,
      ∀ disk ∈ input.hostDisks vm req host, limit host disk) (host disk : ℕ)
    (some : input.diskRequests host disk ≠ ∅) : limit host disk := by
  obtain ⟨key, member⟩ := Finset.nonempty_iff_ne_empty.2 some
  obtain ⟨known, member⟩ := Finset.mem_sigma.1 member
  obtain ⟨isReq, considered⟩ := Finset.mem_filter.1 member
  refine asked key.1 known key.2 isReq host ?_ disk considered
  by_contra noMatch
  simp [hostDisks, noMatch] at considered

theorem dstore_of_asked
    (asked : ∀ vm ∈ input.vms.ids, ∀ req ∈ (input.vms.get vm).storage.ids, ∀ dstore ∈ input.sharedDstores vm req,
      limit dstore) (dstore : ℕ) (some : input.dstoreRequests dstore ≠ ∅) : limit dstore := by
  obtain ⟨key, member⟩ := Finset.nonempty_iff_ne_empty.2 some
  obtain ⟨known, member⟩ := Finset.mem_sigma.1 member
  obtain ⟨isReq, considered⟩ := Finset.mem_filter.1 member
  exact asked key.1 known key.2 isReq dstore considered

theorem vnet_of_asked {vm : ℕ} (asked : ∀ nic ∈ input.nics vm, ∀ vnet ∈ input.nicVnets vm nic, limit vnet) (vnet : ℕ)
    (some : input.vnetNics vm vnet ≠ ∅) : limit vnet := by
  obtain ⟨nic, member⟩ := Finset.nonempty_iff_ne_empty.2 some
  obtain ⟨isNic, considered⟩ := Finset.mem_filter.1 member
  exact asked nic isNic vnet considered

theorem addresses_of_asked
    (asked : ∀ vm ∈ input.vms.ids, ∀ nic ∈ input.nics vm, ∀ vnet ∈ input.nicVnets vm nic, limit vnet) (vnet : ℕ)
    (some : input.vnetRequests vnet ≠ ∅) : limit vnet := by
  obtain ⟨key, member⟩ := Finset.nonempty_iff_ne_empty.2 some
  obtain ⟨known, member⟩ := Finset.mem_sigma.1 member
  exact vnet_of_asked (asked key.1 known) vnet (Finset.ne_empty_of_mem member)

end Input

/-- A VM that runs on host 1 may move to host 0, most of whose memory is used by VMs that are not
scheduled. -/
def shifted : Input where
  currentPlacement := .ofList [(1, 1)]
  vms := .ofList [(1, { state := some .running, memory := 5, cpuRatio := 1 })]
  hosts := .ofList [(0, { memory := ⟨10, 8⟩, cpu := ⟨4, 1⟩ }), (1, { memory := ⟨10, 5⟩, cpu := ⟨4, 1⟩ })]

end OpenNebula.OneDrs
