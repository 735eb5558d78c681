import OpenNebula.OneDrs.ILPOptimizer
import Mathlib.Algebra.Order.BigOperators.Group.Finset
import Mathlib.Data.NNRat.BigOperators

namespace OpenNebula.OneDrs

open Library

/-! # Hosts that match

What it means for a VM, alone or in a group, that a host is among its matches.
-/

section Requirements

variable {hosts : Table ℕ HostCapacity} {vnets : Table ℕ VNetCapacity} {free : Bool} {vm : VMRequirements} {id : ℕ}

theorem mem_findHostMatches_iff :
    id ∈ vm.findHostMatches hosts vnets free ↔ id ∈ hosts.ids ∧ vm.reaches vnets (hosts.get id) = true ∧
      (∀ ids ∈ vm.hostIds, id ∈ ids) ∧ (vm.cpuRatio : ℚ) ≤ (hosts.get id).cpu.available free ∧
        (vm.memory : ℚ) ≤ (hosts.get id).memory.available free ∧
          ∀ request ∈ vm.pciDevices, matchPciDevices request (hosts.get id) free ≠ ∅ := by
  simp only [VMRequirements.findHostMatches, Finset.mem_filter]

end Requirements

section Groups

variable {vms : Table ℕ VMRequirements} {vmIds : Finset ℕ} {vm id : ℕ}

theorem mem_members {requirements : VMRequirements} :
    requirements ∈ (vms.keys.filter fun vm => vm ∈ vmIds).map vms.get ↔
      ∃ vm ∈ vms.ids, vm ∈ vmIds ∧ vms.get vm = requirements := by
  simp only [List.mem_map, List.mem_filter, decide_eq_true_eq, Table.ids, List.mem_toFinset, and_assoc]

end Groups

namespace Input

variable {input : Input} {vm host : ℕ}

theorem mem_hosts (isMatch : host ∈ input.hostMatches vm) : host ∈ input.hosts.ids :=
  (mem_findHostMatches_iff.1 isMatch).1

theorem mem_hostDisks (inside : vm ∈ input.vms.ids) {req disk : ℕ} (isReq : req ∈ (input.vms.get vm).storage.ids)
    (builds : input.Builds) (isDisk : disk ∈ input.hostDisks vm req host) :
    host ∈ input.hostMatches vm ∧ disk ∈ (input.hosts.get host).disks.ids := by
  unfold hostDisks at isDisk
  split at isDisk
  · cases isDisk
  · rename_i notUsed
    push Not at notUsed
    refine ⟨notUsed.2, ?_⟩
    unfold diskMatches at isDisk
    split at isDisk
    · rename_i allowed
      have found := (Finset.mem_filter.1 isDisk).1
      split at found
      · exact found
      · rename_i disks isGiven
        split at found
        · rename_i isHost
          exact builds.disks vm inside req isReq allowed disks isGiven host isHost notUsed.2 disk (List.mem_toFinset.1 found)
        · cases found
    · cases isDisk

end Input

end OpenNebula.OneDrs
