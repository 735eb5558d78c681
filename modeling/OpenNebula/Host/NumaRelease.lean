import Mathlib.Algebra.BigOperators.Fin
import OpenNebula.Host.NumaCapacity
import OpenNebula.Host.NumaAgreement

namespace OpenNebula.Host

open Library

/-! # Release of a virtual machine

`del` works from the attributes of the virtual nodes.  A core with marks of a VM is followed
as the core that it is without them.
-/

/-- Without the marks of a VM -/
def Cpu.drop (vmid : Nat) (cpu : Cpu) : Cpu := { cpu with vms := cpu.vms.filter (· ≠ vmid) }

theorem Cpu.drop_unmark (vmid : Nat) (ids : List Nat) (cpu : Cpu) :
    (cpu.unmark vmid ids).drop vmid = cpu.drop vmid := by
  simp only [Cpu.unmark]
  split
  · simp [Cpu.drop]
  · rfl

theorem Cpu.drop_eq {vmid : Nat} {cpu : Cpu} (unmarked : vmid ∉ cpu.vms) : cpu.drop vmid = cpu := by
  have kept : cpu.vms.filter (· ≠ vmid) = cpu.vms := by
    refine List.filter_eq_self.2 fun other inside => decide_eq_true fun same => ?_
    exact unmarked (same ▸ inside)
  rw [Cpu.drop, kept]

namespace Core

/-- The counters are those of the marks. -/
def Counted (core : Core) : Prop := core.setCpuUsage = core

/-- No thread is marked with the VM. -/
def Unmarked (vmid : Nat) (core : Core) : Prop := ∀ cpu ∈ core.cpus, vmid ∉ cpu.vms

variable {core now : Core} {vmid : Nat}

theorem counted_setCpuUsage (core : Core) : core.setCpuUsage.Counted := by
  simp only [Counted, setCpuUsage]
  split
  · rename_i isDedicated
    simp [isDedicated]
  · rename_i notDedicated
    simp [notDedicated, marks]

theorem Counted.dedicated (counted : core.Counted) (isDedicated : core.dedicated = true) :
    core.usedCpus = 1 ∧ core.freeCpus = 0 := by
  rw [← counted]
  simp [setCpuUsage, isDedicated]

theorem Counted.shared (counted : core.Counted) (notDedicated : core.dedicated = false) :
    core.usedCpus = core.marks ∧ core.freeCpus =
      (core.cpus.length - core.reservedCpus.card) * core.vmsThread % 2 ^ 32 - core.marks := by
  have used := congrArg usedCpus counted
  have free := congrArg freeCpus counted
  simp only [setCpuUsage, notDedicated, Bool.false_eq_true, if_false] at used free
  exact ⟨used.symm, free.symm⟩

theorem Fresh.counted (fresh : core.Fresh) (ids : List Nat) :
    (core.reserveCpus ids).Counted ∧ ∀ cpu ∈ (core.reserveCpus ids).cpus, cpu.vms = [] := by
  obtain ⟨-, undedicated, unreserved, unmarked, counted⟩ := fresh
  simp only [Core.reserveCpus]
  split
  · refine ⟨counted_setCpuUsage _, ?_⟩
    simp only [setCpuUsage, undedicated, Bool.false_eq_true, if_false]
    exact unmarked
  · rename_i unchanged
    -- No thread is in the list: the set of reserved ones stays empty.
    have none : (core.cpus.filter (core.reserves ids)) = [] := by
      refine List.filter_eq_nil_iff.2 fun cpu inside isReserved => unchanged ?_
      simp only [reserves, Bool.and_eq_true, decide_eq_true_eq] at isReserved
      refine List.any_eq_true.2 ⟨cpu, inside, ?_⟩
      simp [isReserved.1, unmarked cpu inside]
    have same : ({ core with
        reservedCpus := ((core.cpus.filter (core.reserves ids)).map Cpu.id).toFinset } : Core) =
          core := by
      rw [none]
      cases core
      simp_all
    rw [same]
    exact ⟨counted, unmarked⟩

theorem Counted.eq (counted : core.Counted) (isCounted : now.Counted) (sameId : now.id = core.id)
    (sameThread : now.vmsThread = core.vmsThread) (sameFlag : now.dedicated = core.dedicated)
    (sameCpus : now.cpus = core.cpus) (sameReserved : now.reservedCpus = core.reservedCpus) : now = core := by
  cases isDedicated : core.dedicated with
  | true =>
    obtain ⟨used, free⟩ := counted.dedicated isDedicated
    obtain ⟨isUsed, isFree⟩ := isCounted.dedicated (sameFlag.trans isDedicated)
    cases core
    cases now
    simp_all
  | false =>
    obtain ⟨used, free⟩ := counted.shared isDedicated
    obtain ⟨isUsed, isFree⟩ := isCounted.shared (sameFlag.trans isDedicated)
    rw [sameCpus, sameReserved, sameThread] at isFree
    simp only [marks, sameCpus] at isUsed isFree used free
    cases core
    cases now
    simp_all

theorem Counted.allocateHt (counted : core.Counted) (vmid tc tcpus : Nat) :
    (core.allocateHt vmid tc tcpus).1.Counted := by
  cases isDedicated : core.dedicated with
  | true =>
    rw [allocateHt_full (counted.dedicated isDedicated).2]
    exact counted
  | false =>
    obtain ⟨used, free⟩ := counted.shared isDedicated
    have few := core.allocateHt_few vmid tc tcpus
    have threads : (core.markCpus vmid (min (core.freeCpus / tc * tc) tcpus) core.cpus).1.length =
        core.cpus.length := by
      have ids := congrArg List.length
        (@markCpus_map_id core vmid (min (core.freeCpus / tc * tc) tcpus) core.cpus)
      rwa [List.length_map, List.length_map] at ids
    have below : (core.cpus.length - core.reservedCpus.card) * core.vmsThread % 2 ^ 32 < 2 ^ 32 :=
      Nat.mod_lt _ (by decide)
    rw [marks] at used free
    simp only [Counted, setCpuUsage, Core.allocateHt, isDedicated, Bool.false_eq_true, if_false,
      marks, markCpus_marks, threads]
    congr 1 <;> omega

structure Hosts (vmid : Nat) (core now : Core) : Prop where
  sameId : now.id = core.id
  sameThread : now.vmsThread = core.vmsThread
  sameReserved : now.reservedCpus = core.reservedCpus
  sameCpus : now.cpus.map (Cpu.drop vmid) = core.cpus
  counted : now.Counted
  dedicated : core.dedicated = true → now.dedicated = true
  apart : core.dedicated = true → now.Unmarked vmid
  alone : now.dedicated = true → core.dedicated = true ∨ ¬now.Unmarked vmid

theorem Hosts.start (counted : core.Counted) (unmarked : core.Unmarked vmid) : core.Hosts vmid core where
  sameId := rfl
  sameThread := rfl
  sameReserved := rfl
  sameCpus := by
    refine (List.map_congr_left fun cpu inside => ?_).trans (List.map_id _)
    exact Cpu.drop_eq (unmarked cpu inside)
  counted := counted
  dedicated := fun flag => flag
  apart := fun _ => unmarked
  alone := .inl

section

variable (hosts : core.Hosts vmid now)
include hosts

theorem Hosts.eq (counted : core.Counted)
    (unmarked : now.Unmarked vmid) : now = core := by
  refine counted.eq hosts.counted hosts.sameId hosts.sameThread ?_ ?_ hosts.sameReserved
  · cases isDedicated : now.dedicated with
    | true => exact ((hosts.alone isDedicated).resolve_right (not_not_intro unmarked)).symm
    | false =>
      cases before : core.dedicated with
      | true => exact absurd (isDedicated.symm.trans (hosts.dedicated before)) (by decide)
      | false => rfl
  · rw [← hosts.sameCpus]
    refine ((List.map_congr_left fun cpu inside => ?_).trans (List.map_id _)).symm
    exact Cpu.drop_eq (unmarked cpu inside)

theorem Hosts.sameIds : now.cpus.map Cpu.id = core.cpus.map Cpu.id := by
  rw [← hosts.sameCpus, List.map_map]
  rfl

theorem Hosts.undedicated
    (apart : now.usedCpus = 0 ∨ now.freeCpus ≠ 0) : core.dedicated = false := by
  cases isDedicated : core.dedicated with
  | true =>
    have counters := hosts.counted.dedicated (hosts.dedicated isDedicated)
    omega
  | false => rfl

theorem Hosts.dedicate (isFree : now.isFree = true) :
    core.Hosts vmid (now.dedicate vmid).1 := by
  simp only [Core.isFree, Bool.and_eq_true, decide_eq_true_eq] at isFree
  have notDedicated := hosts.undedicated (.inl isFree.1)
  simp only [Core.dedicate]
  split
  · rename_i isCpus
    simp [isCpus] at isFree
  · rename_i cpu rest isCpus
    have sameCpus := hosts.sameCpus
    rw [isCpus] at sameCpus
    refine ⟨hosts.sameId, hosts.sameThread, hosts.sameReserved, ?_, ?_, fun _ => rfl, ?_, ?_⟩
    · simpa [Cpu.drop] using sameCpus
    · simp [Counted, setCpuUsage]
    · intro isDedicated
      exact absurd (notDedicated.symm.trans isDedicated) (by decide)
    · intro _
      refine .inr fun unmarked => unmarked _ List.mem_cons_self ?_
      exact List.mem_cons_self

end

theorem markCpus_drop {count : Nat} {cpus : List Cpu} :
    (core.markCpus vmid count cpus).1.map (Cpu.drop vmid) = cpus.map (Cpu.drop vmid) := by
  induction cpus generalizing count with
  | nil => cases count <;> rfl
  | cons first rest ih =>
    cases count with
    | zero => rfl
    | succ count =>
      simp only [markCpus]
      split
      · simp [ih, Cpu.drop]
      · simp only [List.map_cons, ih]

theorem Hosts.allocateHt (hosts : core.Hosts vmid now) (tc tcpus : Nat) :
    core.Hosts vmid (now.allocateHt vmid tc tcpus).1 := by
  cases isDedicated : now.dedicated with
  | true =>
    rw [allocateHt_full (hosts.counted.dedicated isDedicated).2]
    exact hosts
  | false =>
    have notDedicated : core.dedicated ≠ true := fun before =>
      absurd (isDedicated.symm.trans (hosts.dedicated before)) (by decide)
    exact ⟨hosts.sameId, hosts.sameThread, hosts.sameReserved, markCpus_drop.trans hosts.sameCpus,
      hosts.counted.allocateHt vmid tc tcpus, fun before => absurd before notDedicated,
      fun before => absurd before notDedicated,
      fun contra => absurd (isDedicated.symm.trans contra) (by decide)⟩

theorem Hosts.delCpus (hosts : core.Hosts vmid now) {ids : List Nat}
    (apart : core.dedicated = true → ∀ id ∈ now.cpus.map Cpu.id, id ∉ ids) :
    core.Hosts vmid (now.delCpus vmid ids).1 := by
  simp only [Core.delCpus]
  split
  · rename_i isOwn
    have notDedicated : core.dedicated ≠ true := by
      intro before
      obtain ⟨id, inside, isOwn⟩ := List.any_eq_true.1 isOwn
      exact apart before id (of_decide_eq_true isOwn) inside
    refine ⟨?_, ?_, ?_, ?_, counted_setCpuUsage _, fun before => absurd before notDedicated,
      fun before => absurd before notDedicated, ?_⟩
    · simpa [setCpuUsage] using hosts.sameId
    · simpa [setCpuUsage] using hosts.sameThread
    · simpa [setCpuUsage] using hosts.sameReserved
    · simp only [setCpuUsage, Bool.false_eq_true, if_false, List.map_map]
      refine (List.map_congr_left fun cpu _ => ?_).trans hosts.sameCpus
      exact Cpu.drop_unmark vmid ids cpu
    · intro contra
      simp [setCpuUsage] at contra
  · exact hosts

end Core

def Marks (cores : List Core) (vm id : Nat) : Prop :=
  ∃ core ∈ cores, ∃ cpu ∈ core.cpus, cpu.id = id ∧ vm ∈ cpu.vms

theorem marks_cons {core : Core} {rest : List Core} {vm id : Nat} :
    Marks (core :: rest) vm id ↔ (∃ cpu ∈ core.cpus, cpu.id = id ∧ vm ∈ cpu.vms) ∨ Marks rest vm id := by
  simp only [Marks, List.exists_mem_cons_iff]

theorem Core.markCpus_marks_iff {core : Core} {vmid count vm id : Nat} {cpus : List Cpu}
    (marked : ∃ cpu ∈ (core.markCpus vmid count cpus).1, cpu.id = id ∧ vm ∈ cpu.vms) :
    (∃ cpu ∈ cpus, cpu.id = id ∧ vm ∈ cpu.vms) ∨ (vm = vmid ∧ id ∈ (core.markCpus vmid count cpus).2) := by
  induction cpus generalizing count with
  | nil => cases count <;> exact .inl marked
  | cons first rest ih =>
    cases count with
    | zero => exact .inl marked
    | succ count =>
      simp only [markCpus] at marked ⊢
      split at marked
      · rename_i accepted
        simp only [if_pos accepted]
        rcases (List.exists_mem_cons_iff _ _ _).1 marked with ⟨isId, isVm⟩ | later
        · rcases List.mem_cons.1 isVm with same | old
          · exact .inr ⟨same, List.mem_cons.2 (.inl isId.symm)⟩
          · exact .inl ⟨first, List.mem_cons_self, isId, old⟩
        · rcases ih later with ⟨cpu, inside, isCpu⟩ | ⟨same, given⟩
          · exact .inl ⟨cpu, List.mem_cons_of_mem _ inside, isCpu⟩
          · exact .inr ⟨same, List.mem_cons_of_mem _ given⟩
      · rename_i refused
        simp only [if_neg refused]
        rcases (List.exists_mem_cons_iff _ _ _).1 marked with own | later
        · exact .inl ⟨first, List.mem_cons_self, own⟩
        · rcases ih later with ⟨cpu, inside, isCpu⟩ | given
          · exact .inl ⟨cpu, List.mem_cons_of_mem _ inside, isCpu⟩
          · exact .inr given

namespace HostShareNode

variable {vmid tc tcpus vm id : Nat} {cores nows : List Core}

theorem marks_dedicateCores (marked : Marks (dedicateCores vmid tcpus cores).1 vm id) :
    Marks cores vm id ∨ (vm = vmid ∧ id ∈ (dedicateCores vmid tcpus cores).2) := by
  induction cores generalizing tcpus with
  | nil => cases tcpus <;> exact .inl marked
  | cons first rest ih =>
    cases tcpus with
    | zero => exact .inl marked
    | succ tcpus =>
      simp only [dedicateCores] at marked ⊢
      split at marked
      · rename_i isFree
        simp only [if_pos isFree]
        rcases marks_cons.1 marked with ⟨cpu, inside, isId, isVm⟩ | later
        · simp only [Core.dedicate] at inside ⊢
          split at inside
          · exact .inl (marks_cons.2 (.inl ⟨cpu, inside, isId, isVm⟩))
          · rename_i head others isCpus
            rcases List.mem_cons.1 inside with rfl | other
            · rcases List.mem_cons.1 isVm with same | old
              · exact .inr ⟨same, by simp [← isId]⟩
              · refine .inl (marks_cons.2 (.inl ⟨head, ?_, isId, old⟩))
                rw [isCpus]
                exact List.mem_cons_self
            · refine .inl (marks_cons.2 (.inl ⟨cpu, ?_, isId, isVm⟩))
              rw [isCpus]
              exact List.mem_cons_of_mem _ other
        · rcases ih later with old | ⟨same, given⟩
          · exact .inl (marks_cons.2 (.inr old))
          · exact .inr ⟨same, List.mem_append_right _ given⟩
      · rename_i notFree
        simp only [if_neg notFree]
        rcases marks_cons.1 marked with own | later
        · exact .inl (marks_cons.2 (.inl own))
        · rcases ih later with old | given
          · exact .inl (marks_cons.2 (.inr old))
          · exact .inr given

theorem marks_htCores (marked : Marks (htCores vmid tc tcpus cores).1 vm id) :
    Marks cores vm id ∨ (vm = vmid ∧ id ∈ (htCores vmid tc tcpus cores).2) := by
  induction cores generalizing tcpus with
  | nil => cases tcpus <;> exact .inl marked
  | cons first rest ih =>
    cases tcpus with
    | zero => exact .inl marked
    | succ tcpus =>
      simp only [htCores] at marked ⊢
      rcases marks_cons.1 marked with own | later
      · rcases Core.markCpus_marks_iff own with old | ⟨same, given⟩
        · exact .inl (marks_cons.2 (.inl old))
        · exact .inr ⟨same, List.mem_append_left _ given⟩
      · rcases ih later with old | ⟨same, given⟩
        · exact .inl (marks_cons.2 (.inr old))
        · exact .inr ⟨same, List.mem_append_right _ given⟩

section

variable (hosts : List.Forall₂ (Core.Hosts vmid) cores nows)
include hosts

theorem hosts_dedicateCores : List.Forall₂ (Core.Hosts vmid) cores (dedicateCores vmid tcpus nows).1 := by
  induction hosts generalizing tcpus with
  | nil => cases tcpus <;> exact .nil
  | cons first rest ih =>
    cases tcpus with
    | zero => exact .cons first rest
    | succ tcpus =>
      simp only [dedicateCores]
      split
      · rename_i isFree
        exact .cons (first.dedicate isFree) ih
      · exact .cons first ih

theorem hosts_htCores : List.Forall₂ (Core.Hosts vmid) cores (htCores vmid tc tcpus nows).1 := by
  induction hosts generalizing tcpus with
  | nil => cases tcpus <;> exact .nil
  | cons first rest ih =>
    cases tcpus with
    | zero => exact .cons first rest
    | succ tcpus => exact .cons (first.allocateHt tc _) ih

theorem dedicateCores_undedicated (given : id ∈ (dedicateCores vmid tcpus nows).2) :
    ∃ core ∈ cores, core.dedicated = false ∧ id ∈ core.cpus.map Cpu.id := by
  induction hosts generalizing tcpus with
  | nil => cases tcpus <;> cases given
  | @cons core now _ _ isHost _ ih =>
    cases tcpus with
    | zero => cases given
    | succ tcpus =>
      simp only [dedicateCores] at given
      split at given
      · rename_i isFree
        rcases List.mem_append.1 given with own | later
        · simp only [Core.isFree, Bool.and_eq_true, decide_eq_true_eq] at isFree
          refine ⟨core, List.mem_cons_self, isHost.undedicated (.inl isFree.1), ?_⟩
          rw [← isHost.sameIds]
          simp only [Core.dedicate] at own
          split at own
          · cases own
          · rename_i isCpus
            rw [isCpus, List.mem_singleton.1 own]
            exact List.mem_cons_self
        · obtain ⟨other, inside, isOther⟩ := ih later
          exact ⟨other, List.mem_cons_of_mem _ inside, isOther⟩
      · obtain ⟨other, inside, isOther⟩ := ih given
        exact ⟨other, List.mem_cons_of_mem _ inside, isOther⟩

theorem htCores_undedicated (given : id ∈ (htCores vmid tc tcpus nows).2) :
    ∃ core ∈ cores, core.dedicated = false ∧ id ∈ core.cpus.map Cpu.id := by
  induction hosts generalizing tcpus with
  | nil => cases tcpus <;> cases given
  | @cons core now _ _ isHost _ ih =>
    cases tcpus with
    | zero => cases given
    | succ tcpus =>
      simp only [htCores] at given
      rcases List.mem_append.1 given with own | later
      · have hasFree : now.freeCpus ≠ 0 := by
          intro full
          rw [Core.allocateHt_full full] at own
          cases own
        obtain ⟨cpu, inside, -, isId⟩ := Core.mem_markCpus_ids own
        refine ⟨core, List.mem_cons_self, isHost.undedicated (.inr hasFree), ?_⟩
        rw [← isHost.sameIds]
        exact List.mem_map.2 ⟨cpu, inside, isId⟩
      · obtain ⟨other, inside, isOther⟩ := ih later
        exact ⟨other, List.mem_cons_of_mem _ inside, isOther⟩

end

variable {ids : List Nat}

theorem delCpus_congr {core : Core} {left : List Nat} (same : ∀ id ∈ core.cpus.map Cpu.id, id ∈ left ↔ id ∈ ids) :
    (core.delCpus vmid left).1 = (core.delCpus vmid ids).1 := by
  have owns : (left.any fun id => decide (id ∈ core.cpus.map Cpu.id)) =
      ids.any fun id => decide (id ∈ core.cpus.map Cpu.id) := by
    rw [Bool.eq_iff_iff, List.any_eq_true, List.any_eq_true]
    constructor
    · rintro ⟨id, inside, isOwn⟩
      exact ⟨id, (same id (of_decide_eq_true isOwn)).1 inside, isOwn⟩
    · rintro ⟨id, inside, isOwn⟩
      exact ⟨id, (same id (of_decide_eq_true isOwn)).2 inside, isOwn⟩
  have unmarks : core.cpus.map (Cpu.unmark vmid left) = core.cpus.map (Cpu.unmark vmid ids) := by
    refine List.map_congr_left fun cpu inside => ?_
    simp only [Cpu.unmark, same cpu.id (List.mem_map.2 ⟨cpu, inside, rfl⟩)]
  simp only [Core.delCpus, owns, unmarks]
  split <;> rfl

theorem delCores_eq_map (distinct : (cores.flatMap fun core => core.cpus.map Cpu.id).Nodup) :
    delCores vmid ids cores = cores.map fun core => (core.delCpus vmid ids).1 := by
  induction cores generalizing ids with
  | nil => rfl
  | cons core rest ih =>
    rw [List.flatMap_cons, List.nodup_append] at distinct
    obtain ⟨-, further, apart⟩ := distinct
    simp only [delCores, List.map_cons, ih further, List.cons.injEq, true_and]
    refine List.map_congr_left fun other inside => delCpus_congr fun id isOther => ?_
    have outside : id ∉ core.cpus.map Cpu.id := fun isOwn =>
      apart id isOwn id (List.mem_flatMap.2 ⟨other, inside, isOther⟩) rfl
    simp only [Core.delCpus]
    split
    · rw [List.mem_filter]
      exact and_iff_left (by rw [decide_eq_false outside]; rfl)
    · rfl

theorem marks_delCpus {core : Core} (marked : ∃ cpu ∈ (core.delCpus vmid ids).1.cpus, cpu.id = id ∧ vm ∈ cpu.vms) :
    (∃ cpu ∈ core.cpus, cpu.id = id ∧ vm ∈ cpu.vms) ∧ ¬(vm = vmid ∧ id ∈ ids) := by
  simp only [Core.delCpus] at marked
  split at marked
  · obtain ⟨cpu, inside, isId, isVm⟩ := marked
    simp only [Core.setCpuUsage, Bool.false_eq_true, if_false] at inside
    obtain ⟨before, isBefore, rfl⟩ := List.mem_map.1 inside
    rw [Cpu.unmark_id] at isId
    refine ⟨⟨before, isBefore, isId, (before.unmark_sublist vmid ids).subset isVm⟩, ?_⟩
    rintro ⟨rfl, given⟩
    rw [Cpu.unmark, if_pos (isId ▸ given)] at isVm
    exact of_decide_eq_true (List.mem_filter.1 isVm).2 rfl
  · rename_i foreign
    obtain ⟨cpu, inside, isId, isVm⟩ := marked
    refine ⟨⟨cpu, inside, isId, isVm⟩, ?_⟩
    rintro ⟨-, given⟩
    refine foreign (List.any_eq_true.2 ⟨id, given, decide_eq_true ?_⟩)
    exact List.mem_map.2 ⟨cpu, inside, isId⟩

theorem marks_delCores (distinct : (cores.flatMap fun core => core.cpus.map Cpu.id).Nodup)
    (marked : Marks (delCores vmid ids cores) vm id) : Marks cores vm id ∧ ¬(vm = vmid ∧ id ∈ ids) := by
  rw [delCores_eq_map distinct] at marked
  obtain ⟨core, inside, isMarked⟩ := marked
  obtain ⟨before, isBefore, rfl⟩ := List.mem_map.1 inside
  obtain ⟨was, apart⟩ := marks_delCpus isMarked
  exact ⟨⟨before, isBefore, was⟩, apart⟩

theorem hosts_delCores {ids : List Nat} (hosts : List.Forall₂ (Core.Hosts vmid) cores nows)
    (distinct : (nows.flatMap fun core => core.cpus.map Cpu.id).Nodup)
    (apart : ∀ core ∈ cores, core.dedicated = true → ∀ id ∈ core.cpus.map Cpu.id, id ∉ ids) :
    List.Forall₂ (Core.Hosts vmid) cores (delCores vmid ids nows) := by
  rw [delCores_eq_map distinct, List.forall₂_map_right_iff]
  clear distinct
  induction hosts with
  | nil => exact .nil
  | @cons core now _ _ isHost _ ih =>
    refine .cons (isHost.delCpus fun isDedicated id inside => ?_)
      (ih fun other isOther => apart other (List.mem_cons_of_mem _ isOther))
    exact apart core List.mem_cons_self isDedicated id (isHost.sameIds ▸ inside)

end HostShareNode

/-- The attributes that a release needs: the nodes of the CPUs and of the memory, the CPUs and
the memory -/
def VirtualNode.place (virtual : VirtualNode) : Option (Nat × Nat × List Nat × Nat) :=
  match virtual.nodeId, virtual.memoryNodeId, virtual.cpus, virtual.memory with
  | some nodeId, some memNodeId, some ids, some memory => some (nodeId, memNodeId, ids, memory)
  | _, _, _, _ => none

def VirtualNode.cpusOn (id : Nat) (virtual : VirtualNode) : List Nat :=
  match virtual.place with
  | some (nodeId, _, ids, _) => if nodeId = id then ids else []
  | none => []

def VirtualNode.memoryOn (id : Nat) (virtual : VirtualNode) : Nat :=
  match virtual.place with
  | some (_, memNodeId, _, memory) => if memNodeId = id then memory else 0
  | none => 0

theorem VirtualNode.memoryOn_eq (id : Nat) (virtual : VirtualNode) :
    virtual.memoryOn id = virtual.place.elim 0 fun place => if place.2.1 = id then place.2.2.2 else 0 := by
  rw [VirtualNode.memoryOn]
  cases virtual.place with
  | none | some place => rfl

def VirtualNode.release (vmid pageSize id : Nat) (node : HostShareNode) (virtual : VirtualNode) : HostShareNode :=
  match virtual.place with
  | none => node
  | some (nodeId, memNodeId, ids, memory) =>
    let node := if id = nodeId then node.delCpu ids vmid else node
    if id = memNodeId then
      let node := { node with memUsage := node.memUsage - memory }
      if pageSize = 0 then node else node.delPages pageSize (memory / pageSize)
    else node

def HostShareNUMA.Knows (host : HostShareNUMA) (virtual : VirtualNode) : Prop :=
  ∀ place ∈ virtual.place, place.1 ∈ host.nodes ∧ place.2.1 ∈ host.nodes

namespace HostShareNUMA

variable {host : HostShareNUMA} {vmid pageSize id : Nat} {virtual : VirtualNode}

theorem delNode_lookup (known : host.Knows virtual) : (host.delNode vmid pageSize virtual).nodes.lookup id =
      (host.nodes.lookup id).map fun node => virtual.release vmid pageSize id node := by
  simp only [delNode]
  split
  · rename_i nodeId memNodeId ids memory isNode isMemNode isIds isMemory
    have isPlace : virtual.place = some (nodeId, memNodeId, ids, memory) := by
      simp only [VirtualNode.place, isNode, isMemNode, isIds, isMemory]
    obtain ⟨hasNode, hasMemNode⟩ := known _ isPlace
    obtain ⟨node, isNode⟩ := mem_iff_lookup.1 hasNode
    obtain ⟨memNode, isMemNode⟩ := mem_iff_lookup.1 hasMemNode
    simp only [VirtualNode.release, isPlace]
    rw [lookup_setNode, lookup_setNode]
    simp only [getNode, lookup_setNode]
    by_cases isMemory : id = memNodeId
    · subst isMemory
      simp only [if_true, isMemNode, Option.map_some, Option.some.injEq]
      by_cases same : id = nodeId
      · subst same
        obtain rfl := Option.some.inj (isNode.symm.trans isMemNode)
        simp [isNode]
      · simp [same]
    · simp only [if_neg isMemory]
      by_cases same : id = nodeId
      · subst same
        simp [isNode]
      · simp [same]
  · rename_i isNone
    have isPlace : virtual.place = none := by
      simp only [VirtualNode.place]
    simp only [VirtualNode.release, isPlace, Option.map_id']

theorem Knows.delNode {other : VirtualNode} (known : host.Knows virtual) (isOther : host.Knows other) :
    (host.delNode vmid pageSize virtual).Knows other := by
  intro place isPlace
  obtain ⟨cpus, memory⟩ := isOther place isPlace
  have kept : ∀ id ∈ host.nodes, id ∈ (host.delNode vmid pageSize virtual).nodes := by
    intro id inside
    obtain ⟨node, isNode⟩ := mem_iff_lookup.1 inside
    exact mem_iff_lookup.2 ⟨_, by rw [delNode_lookup known, isNode, Option.map_some]⟩
  exact ⟨kept _ cpus, kept _ memory⟩

def nodeReleased (vmid pageSize id : Nat) (nodes : List VirtualNode) (node : HostShareNode) : HostShareNode :=
  nodes.foldl (VirtualNode.release vmid pageSize id) node

theorem del_lookup {sr : NumaCapacity} (known : ∀ virtual ∈ sr.nodes, host.Knows virtual) :
    (host.del sr).nodes.lookup id = (host.nodes.lookup id).map
      (nodeReleased sr.vmid ((sr.topology.map Topology.pageSize).getD 0) id sr.nodes) := by
  simp only [del]
  generalize (sr.topology.map Topology.pageSize).getD 0 = pageSize
  generalize sr.nodes = nodes at known
  induction nodes generalizing host with
  | nil => exact Option.map_id'.symm
  | cons virtual rest ih =>
    have isFirst := known virtual List.mem_cons_self
    rw [List.foldl_cons, ih fun other inside =>
      isFirst.delNode (known other (List.mem_cons_of_mem _ inside)), delNode_lookup isFirst,
      Option.map_map]
    rfl

end HostShareNUMA

namespace HostShareNode

variable {vmid pageSize id size : Nat} {virtual : VirtualNode} {node : HostShareNode}

theorem delPages_memUsage (node : HostShareNode) (size count : Nat) :
    (node.delPages size count).memUsage = node.memUsage := by
  simp only [delPages]
  split <;> rfl

theorem delPages_lookup (node : HostShareNode) (size count other : Nat) :
    (node.delPages size count).pages.lookup other = (node.pages.lookup other).map fun page =>
        if other = size then { page with usage := page.usage - count } else page := by
  simp only [delPages]
  split
  · rename_i absent
    by_cases same : other = size
    · rw [same, absent]
      rfl
    · simp [same]
  · rename_i page found
    rw [Map.lookup_insert_eq]
    by_cases same : other = size
    · have less : (if page.usage > count then page.usage - count else 0) = page.usage - count := by
        split <;> omega
      rw [if_pos same, same, found, less]
      simp
    · simp [same]

theorem delCores_nil {cores : List Core} : delCores vmid [] cores = cores := by
  induction cores with
  | nil => rfl
  | cons core rest ih => simp [delCores, Core.delCpus, ih]

theorem release_cores :
    (virtual.release vmid pageSize id node).cores = delCores vmid (virtual.cpusOn id) node.cores := by
  simp only [VirtualNode.release, VirtualNode.cpusOn]
  cases virtual.place with
  | none => exact delCores_nil.symm
  | some place =>
    obtain ⟨nodeId, memNodeId, ids, memory⟩ := place
    have cpus : (if id = nodeId then node.delCpu ids vmid else node).cores =
        delCores vmid (if nodeId = id then ids else []) node.cores := by
      by_cases same : id = nodeId
      · simp [same, delCpu]
      · simp [same, Ne.symm same, delCores_nil]
    rw [← cpus]
    dsimp only
    split
    · split
      · rfl
      · rw [delPages_cores]
    · rfl

theorem release_memUsage :
    (virtual.release vmid pageSize id node).memUsage = node.memUsage - virtual.memoryOn id := by
  simp only [VirtualNode.release, VirtualNode.memoryOn]
  cases virtual.place with
  | none => simp
  | some place =>
    obtain ⟨nodeId, memNodeId, ids, memory⟩ := place
    have cpus : (if id = nodeId then node.delCpu ids vmid else node).memUsage = node.memUsage := by
      split <;> rfl
    by_cases same : id = memNodeId
    · simp only [same, if_true]
      split
      · rw [← same, cpus]
      · rw [delPages_memUsage, ← same, cpus]
    · simp [same, Ne.symm same, cpus]

theorem release_lookup : (virtual.release vmid pageSize id node).pages.lookup size =
      (node.pages.lookup size).map fun page =>
        if size = pageSize ∧ pageSize ≠ 0 then
          { page with usage := page.usage - virtual.memoryOn id / pageSize }
        else page := by
  simp only [VirtualNode.release, VirtualNode.memoryOn]
  cases virtual.place with
  | none => simp
  | some place =>
    obtain ⟨nodeId, memNodeId, ids, memory⟩ := place
    have cpus : (if id = nodeId then node.delCpu ids vmid else node).pages = node.pages := by
      split <;> rfl
    by_cases same : id = memNodeId
    · simp only [same, if_true]
      split
      · rename_i isZero
        simp [isZero, ← same, cpus]
      · rename_i isSize
        simp [delPages_lookup, isSize, ← same, cpus]
    · simp [same, Ne.symm same, cpus]

theorem cpuIds_congr {other : HostShareNode}
    (same : node.cores.map Core.layout = other.cores.map Core.layout) : node.cpuIds = other.cpuIds := by
  have byLayout : ∀ node : HostShareNode,
      node.cpuIds = (node.cores.map Core.layout).flatMap fun layout => layout.1 := by
    intro node
    rw [cpuIds, List.flatMap_map]
    rfl
  rw [byLayout, byLayout, same]

theorem release_layout :
    (virtual.release vmid pageSize id node).cores.map Core.layout = node.cores.map Core.layout := by
  rw [release_cores, delCores_layout]

end HostShareNode

namespace HostShareNUMA

variable {vmid pageSize id size : Nat} {nodes : List VirtualNode} {node : HostShareNode}

theorem nodeReleased_memUsage : (nodeReleased vmid pageSize id nodes node).memUsage =
      node.memUsage - (nodes.map (VirtualNode.memoryOn id)).sum := by
  induction nodes generalizing node with
  | nil => simp [nodeReleased]
  | cons virtual rest ih =>
    rw [nodeReleased, List.foldl_cons]
    refine ih.trans ?_
    rw [HostShareNode.release_memUsage, List.map_cons, List.sum_cons]
    push_cast
    omega

theorem nodeReleased_lookup : (nodeReleased vmid pageSize id nodes node).pages.lookup size =
      (node.pages.lookup size).map fun page =>
        if size = pageSize ∧ pageSize ≠ 0 then
          { page with usage :=
              page.usage - (nodes.map fun virtual => virtual.memoryOn id / pageSize).sum }
        else page := by
  induction nodes generalizing node with
  | nil => simp [nodeReleased]
  | cons virtual rest ih =>
    rw [nodeReleased, List.foldl_cons]
    refine ih.trans ?_
    rw [HostShareNode.release_lookup, Option.map_map]
    refine congrArg (fun update => (node.pages.lookup size).map update) (funext fun page => ?_)
    simp only [Function.comp_apply, List.map_cons, List.sum_cons]
    split
    · simp only [Nat.sub_sub]
    · rfl

theorem marks_nodeReleased {vm cpu : Nat} (distinct : node.cpuIds.Nodup)
    (marked : Marks (nodeReleased vmid pageSize id nodes node).cores vm cpu) :
    Marks node.cores vm cpu ∧ ¬(vm = vmid ∧ ∃ virtual ∈ nodes, cpu ∈ virtual.cpusOn id) := by
  induction nodes generalizing node with
  | nil => exact ⟨marked, by simp⟩
  | cons virtual rest ih =>
    rw [nodeReleased, List.foldl_cons] at marked
    have stillDistinct : (virtual.release vmid pageSize id node).cpuIds.Nodup := by
      rw [HostShareNode.cpuIds_congr HostShareNode.release_layout]
      exact distinct
    obtain ⟨between, apart⟩ := ih stillDistinct marked
    rw [HostShareNode.release_cores] at between
    obtain ⟨before, isApart⟩ := HostShareNode.marks_delCores distinct between
    refine ⟨before, ?_⟩
    rintro ⟨same, other, inside, given⟩
    rcases List.mem_cons.1 inside with rfl | later
    · exact isApart ⟨same, given⟩
    · exact apart ⟨same, other, later, given⟩

theorem nodeReleased_counted (counted : ∀ core ∈ node.cores, core.Counted) :
    ∀ core ∈ (nodeReleased vmid pageSize id nodes node).cores, core.Counted := by
  induction nodes generalizing node with
  | nil => exact counted
  | cons virtual rest ih =>
    rw [nodeReleased, List.foldl_cons]
    refine ih fun core inside => ?_
    rw [HostShareNode.release_cores] at inside
    obtain ⟨before, isBefore, left, rfl⟩ := HostShareNode.mem_delCores inside
    simp only [Core.delCpus]
    split
    · exact Core.counted_setCpuUsage _
    · exact counted before isBefore

theorem hosts_nodeReleased {cores : List Core}
    (hosts : List.Forall₂ (Core.Hosts vmid) cores node.cores) (distinct : node.cpuIds.Nodup)
    (apart : ∀ virtual ∈ nodes, ∀ core ∈ cores, core.dedicated = true →
      ∀ cpu ∈ core.cpus.map Cpu.id, cpu ∉ virtual.cpusOn id) :
    List.Forall₂ (Core.Hosts vmid) cores (nodeReleased vmid pageSize id nodes node).cores := by
  induction nodes generalizing node with
  | nil => exact hosts
  | cons virtual rest ih =>
    rw [nodeReleased, List.foldl_cons]
    refine ih ?_ ?_ fun other inside => apart other (List.mem_cons_of_mem _ inside)
    · rw [HostShareNode.release_cores]
      exact HostShareNode.hosts_delCores hosts distinct (apart virtual List.mem_cons_self)
    · rw [HostShareNode.cpuIds_congr HostShareNode.release_layout]
      exact distinct

theorem counted_of_hosts {cores nows : List Core}
    (hosts : List.Forall₂ (Core.Hosts vmid) cores nows) : ∀ core ∈ nows, core.Counted := by
  induction hosts with
  | nil => simp
  | cons isHost _ ih =>
    intro core inside
    rcases List.mem_cons.1 inside with rfl | later
    · exact isHost.counted
    · exact ih core later

theorem eq_of_hosts {cores nows : List Core} (hosts : List.Forall₂ (Core.Hosts vmid) cores nows)
    (counted : ∀ core ∈ cores, core.Counted) (unmarked : ∀ cpu, ¬Marks nows vmid cpu) : nows = cores := by
  induction hosts with
  | nil => rfl
  | @cons core now _ _ isHost _ ih =>
    have clean : now.Unmarked vmid := fun cpu inside isMarked =>
      unmarked cpu.id (marks_cons.2 (.inl ⟨cpu, inside, rfl, isMarked⟩))
    rw [isHost.eq (counted core List.mem_cons_self) clean,
      ih (fun other inside => counted other (List.mem_cons_of_mem _ inside))
        fun cpu marked => unmarked cpu (marks_cons.2 (.inr marked))]

theorem marks_apply {topology : Topology} {threads : Int} {placement : Placement} {vm cpu : Nat}
    (complete : id = placement.nodeId →
      (placement.takeCpus topology threads vmid node).2.length = placement.request.totalCpus)
    (positive : 0 < placement.request.totalCpus)
    (marked : Marks (Placement.apply topology threads vmid id node placement).cores vm cpu) :
    Marks node.cores vm cpu ∨ (vm = vmid ∧ id = placement.nodeId ∧
      cpu ∈ (placement.takeCpus topology threads vmid node).2) := by
  rw [Placement.apply_cores] at marked
  split at marked
  · rename_i same
    have isComplete := complete same
    simp only [Placement.takeCpus] at marked isComplete ⊢
    split at marked
    · rename_i isCore
      simp only [if_pos isCore, HostShareNode.allocateDedicatedCpus, HostShareNode.allocated]
        at marked isComplete ⊢
      split at isComplete
      · rename_i isAll
        rw [if_pos isAll]
        exact (HostShareNode.marks_dedicateCores marked).imp_right fun given =>
          ⟨given.1, same, given.2⟩
      · exact absurd isComplete positive.ne
    · rename_i notCore
      simp only [if_neg notCore, HostShareNode.allocateHtCpus, HostShareNode.allocated]
        at marked isComplete ⊢
      split at isComplete
      · rename_i isAll
        rw [if_pos isAll]
        exact (HostShareNode.marks_htCores marked).imp_right fun given => ⟨given.1, same, given.2⟩
      · exact absurd isComplete positive.ne
  · exact .inl marked

end HostShareNUMA

end OpenNebula.Host
