import OpenNebula.Vm.Placement

namespace OpenNebula.Vm

open Library

/-! # Placement accounting over the life cycle

The requests keep the hosts of every state as the answers of the drivers do.  Two steps do
not.  A live migration to the host of the machine itself, with another system datastore,
frees that host when it succeeds, and a machine that is deleted from the database during a
migration keeps the host that it leaves.
-/

namespace Cloud

variable {cloud before after : Cloud}

theorem WellPlaced.shutsDown (wellPlaced : cloud.WellPlaced) {hard : Bool} {lcmState : LcmState}
    (shuts : cloud.shutsDown hard lcmState = true) (place : lcmState.place = .current)
    (busy : lcmState ≠ .lcmInit) (action : VmAction) :
    ((cloud.setLcmState lcmState).updateVm fun vm => vm.setAction action).WellPlaced := by
  simp only [Cloud.shutsDown, Bool.and_eq_true, Bool.or_eq_true, decide_eq_true_eq] at shuts
  obtain ⟨_, member | ⟨_, inState⟩⟩ := shuts
  · obtain ⟨running, current⟩ := runs_place _ member
    exact wellPlaced.moveLcm lcmState rfl running (by rw [current, place]; decide) rfl rfl
      (by simp) rfl
  · exact wellPlaced.moveLcm lcmState inState busy (by rw [place]; decide) rfl rfl (by simp) rfl

theorem WellPlaced.activate (wellPlaced : before.WellPlaced) (lcmState : LcmState)
    {states : List VmState} (member : before.vm.state ∈ states)
    (leads : ∀ state ∈ states, (state.place .lcmInit).leadsTo lcmState.place)
    (other : .active ∉ states) (active : after.vm.state = .active)
    (inLcm : after.vm.lcmState = lcmState) (hid : after.vm.hid = before.vm.hid)
    (hosts : after.hosts = before.hosts) : after.WellPlaced := by
  refine wellPlaced.move _ _ ?_ active inLcm (fun differs => (differs rfl).elim) hid hosts
  have idle : before.vm.lcmState = .lcmInit := by
    apply wellPlaced.idle
    intro same
    exact other (same ▸ member)
  rw [idle]
  exact leads _ member

section

variable (wellPlaced : cloud.WellPlaced)
include wellPlaced

theorem WellPlaced.hold : cloud.hold.WellPlaced := by
  unfold Cloud.hold
  split
  · rename_i inState
    refine wellPlaced.move _ _ ?_ rfl rfl (fun _ => wellPlaced.idle ?_) rfl rfl
    · rw [inState]
      exact .inl ⟨by simp [VmState.place], rfl⟩
    · simp [inState]
  · exact wellPlaced

theorem WellPlaced.release (met : Bool) : (cloud.release met).WellPlaced := by
  unfold Cloud.release
  split
  · rename_i accepted
    simp only [Bool.and_eq_true, decide_eq_true_eq] at accepted
    refine wellPlaced.move _ _ ?_ rfl rfl (fun _ => wellPlaced.idle ?_) rfl rfl
    · rw [accepted.1]
      exact .inl ⟨by simp [VmState.place], rfl⟩
    · simp [accepted.1]
  · exact wellPlaced

theorem WellPlaced.stop : cloud.stop.WellPlaced := by
  unfold Cloud.stop
  split
  · rename_i running
    exact wellPlaced.moveLcm .saveStop running.2 (by decide) (by decide) rfl rfl (by simp) rfl
  · split
    · rename_i suspended
      exact wellPlaced.activate .epilogStop (List.mem_singleton.2 suspended) (by decide)
        (by decide) rfl rfl (by simp) rfl
    · exact wellPlaced

theorem WellPlaced.suspend : cloud.suspend.WellPlaced := by
  unfold Cloud.suspend
  split
  · rename_i running
    exact wellPlaced.moveLcm .saveSuspend running.2 (by decide) (by decide) rfl rfl (by simp)
      rfl
  · exact wellPlaced

theorem WellPlaced.poweroff (hard : Bool) : (cloud.poweroff hard).WellPlaced := by
  unfold Cloud.poweroff
  split
  · rename_i shuts
    exact wellPlaced.shutsDown shuts rfl (by decide) _
  · exact wellPlaced

theorem WellPlaced.undeploy (hard : Bool) : (cloud.undeploy hard).WellPlaced := by
  unfold Cloud.undeploy
  split
  · rename_i shuts
    exact wellPlaced.shutsDown shuts rfl (by decide) _
  · split
    · rename_i poweroff
      exact wellPlaced.activate .epilogUndeploy (List.mem_singleton.2 poweroff) (by decide)
        (by decide) rfl rfl (by simp) rfl
    · exact wellPlaced

theorem WellPlaced.triggerShutdown (hard : Bool) : (cloud.triggerShutdown hard).WellPlaced := by
  unfold Cloud.triggerShutdown
  split
  · rename_i shuts
    exact wellPlaced.shutsDown shuts rfl (by decide) _
  · split
    · rename_i member
      exact wellPlaced.activate .epilog member (by decide) (by decide) rfl rfl (by simp) rfl
    · exact wellPlaced

theorem WellPlaced.triggerRestore : cloud.triggerRestore.WellPlaced := by
  unfold Cloud.triggerRestore
  split
  · rename_i suspended
    exact wellPlaced.activate .bootSuspended (List.mem_singleton.2 suspended) (by decide)
      (by decide) (by simp) (by simp) (by simp) rfl
  · exact wellPlaced

theorem WellPlaced.triggerRestart : cloud.triggerRestart.WellPlaced := by
  unfold Cloud.triggerRestart
  split
  · rename_i unknown
    exact wellPlaced.setLcmState unknown.2 (by decide) (by decide)
  · split
    · rename_i poweroff
      exact wellPlaced.activate .bootPoweroff (List.mem_singleton.2 poweroff) (by decide)
        (by decide) (by simp) (by simp) (by simp) rfl
    · exact wellPlaced

theorem WellPlaced.resume (inQuota met : Bool) : (cloud.resume inQuota met).WellPlaced := by
  have charged : (cloud.vmAdd (cloud.quotaTemplate true)).WellPlaced := ⟨wellPlaced.idle, wellPlaced.placed⟩
  unfold Cloud.resume
  simp only
  split
  · exact wellPlaced
  · split
    · rename_i member
      split
      · have free : ∀ state ∈ ([.stopped, .undeployed] : List VmState),
            state ≠ .active ∧ ∀ lcmState, state.place lcmState = .none := by
          simp [VmState.place]
        obtain ⟨other, place⟩ := free _ member
        exact wellPlaced.move _ _ (by rw [place]; exact .inl ⟨by simp, rfl⟩) rfl rfl
          (fun _ => wellPlaced.idle other) rfl rfl
      · exact wellPlaced
    · split
      · exact charged.triggerRestore
      · split
        · exact charged.triggerRestart
        · exact wellPlaced

theorem WellPlaced.leftHosts {hosts : Finset Int} (left : hosts = cloud.hosts \ cloud.vm.hid.toFinset)
    (single : cloud.vm.state.place cloud.vm.lcmState ≠ .both) : hosts = ∅ := by
  rw [left, Finset.sdiff_eq_empty_iff_subset]
  exact wellPlaced.placed.subset single

theorem WellPlaced.cleanUpVm (dispose : Bool) : (cloud.cleanUpVm dispose).1.vm.state = .active ∧
    (cloud.cleanUpVm dispose).1.vm.lcmState = (if dispose then .cleanupDelete else .cleanupResubmit) ∧
    (cloud.cleanUpVm dispose).1.hosts = ∅ := by
  unfold Cloud.cleanUpVm
  simp only
  split
  · rename_i member
    have places : ∀ state ∈ ([.poweroff, .suspended] : List VmState),
        ∀ lcmState, state.place lcmState ≠ .both := by simp [VmState.place]
    exact ⟨rfl, rfl, wellPlaced.leftHosts rfl (places _ member _)⟩
  · rename_i elsewhere
    have single (other : cloud.vm.lcmState.place ≠ .both) :
        cloud.vm.state.place cloud.vm.lcmState ≠ .both := by
      cases inState : cloud.vm.state <;> simp_all [VmState.place]
    have migrates {lcmState : LcmState} (inState : cloud.vm.lcmState = lcmState)
        (busy : lcmState ≠ .lcmInit) (both : lcmState.place = .both) :
        (cloud.hosts \ cloud.vm.hid.toFinset) \ cloud.vm.previousHid.toFinset = ∅ := by
      have placed := wellPlaced.holds inState busy
      rw [both] at placed
      rw [placed.2.2, sdiff_sdiff_left]
      exact Finset.sdiff_self _
    split
    case h_1 inState | h_2 inState | h_3 inState =>
      exact ⟨rfl, rfl, wellPlaced.leftHosts rfl (single (by rw [inState]; decide))⟩
    case h_4 inState | h_5 inState => exact ⟨rfl, rfl, migrates inState (by decide) rfl⟩
    case h_6 notMigrate notSaveMigrate =>
      refine ⟨rfl, rfl, wellPlaced.leftHosts rfl (single ?_)⟩
      cases inState : cloud.vm.lcmState <;> first | decide | contradiction

theorem WellPlaced.triggerDelete : cloud.triggerDelete.WellPlaced := by
  unfold Cloud.triggerDelete
  split
  · split
    · rename_i inState
      have free : cloud.hosts = ∅ := wellPlaced.holds inState (by decide)
      exact (wellPlaced.setLcmState inState (by decide) (by decide)).triggerDone free
    · rename_i inState
      have free : cloud.hosts = ∅ := wellPlaced.holds inState (by decide)
      exact wellPlaced.triggerDone free
    · obtain ⟨active, inLcm, free⟩ := wellPlaced.cleanUpVm true
      exact (WellPlaced.of_active .cleanupDelete active inLcm free).triggerDone free
  · exact wellPlaced

theorem WellPlaced.triggerDeleteRecreate : cloud.triggerDeleteRecreate.WellPlaced := by
  unfold Cloud.triggerDeleteRecreate
  split
  · split
    · exact wellPlaced
    · exact wellPlaced.triggerResubmit
    · obtain ⟨active, inLcm, free⟩ := wellPlaced.cleanUpVm false
      exact .of_active .cleanupResubmit active inLcm free
  · exact wellPlaced

theorem WellPlaced.free {state : VmState}
    (inState : cloud.vm.state = state) (none : ∀ lcmState, state.place lcmState = .none) : cloud.hosts = ∅ := by
  have placed := wellPlaced.holdsAt inState
  rw [none] at placed
  exact placed

theorem WellPlaced.deleteOff {state : VmState}
    (inState : cloud.vm.state = state) (off : ∀ lcmState, state.place lcmState = .current) :
    (cloud.delCapacity cloud.vm.hid).freeVmResources.WellPlaced :=
  wellPlaced_freeVmResources (wellPlaced.leftHosts rfl (by rw [inState, off]; decide))

theorem WellPlaced.deleteVm : cloud.deleteVm.WellPlaced := by
  unfold Cloud.deleteVm
  split
  case h_1 inState | h_2 inState => exact wellPlaced.deleteOff inState fun _ => rfl
  case h_3 inState | h_4 inState | h_5 inState | h_6 inState | h_7 inState | h_8 inState | h_9 inState =>
    exact wellPlaced_freeVmResources (wellPlaced.free inState fun _ => rfl)
  case h_10 => exact wellPlaced.triggerDelete
  case h_11 => exact wellPlaced

theorem WellPlaced.deleteRecreate (inUserQuota inGroupQuota : Bool) :
    (cloud.deleteRecreate inUserQuota inGroupQuota).WellPlaced := by
  have resubmitted {state : VmState} (inState : cloud.vm.state = state)
      (none : ∀ lcmState, state.place lcmState = .none) {next : Cloud}
      (pending : next.vm.state = .pending) (idle : next.vm.lcmState = .lcmInit)
      (hosts : next.hosts = cloud.hosts) : next.WellPlaced :=
    .of_idle pending idle (hosts.trans (wellPlaced.free inState none))
  unfold Cloud.deleteRecreate
  split
  case h_1 | h_2 | h_3 | h_4 | h_5 => exact wellPlaced
  case h_6 inState | h_7 inState =>
    dsimp only
    split
    · exact wellPlaced
    · split
      · exact ⟨wellPlaced.idle, wellPlaced.placed⟩
      · exact resubmitted inState (fun _ => rfl) rfl rfl rfl
  case h_8 inState => exact resubmitted inState (fun _ => rfl) rfl rfl rfl
  case h_9 | h_10 | h_11 => exact wellPlaced.triggerDeleteRecreate

theorem WellPlaced.deleteVmDb (same : cloud.vm.lcmState ∈ [.migrate, .saveMigrate] →
      cloud.vm.hid = cloud.vm.previousHid) : cloud.deleteVmDb.WellPlaced := by
  unfold Cloud.deleteVmDb
  split
  case h_1 inState | h_2 inState => exact wellPlaced.deleteOff inState fun _ => rfl
  case h_3 inState =>
    apply wellPlaced_freeVmResources
    by_cases migrates : cloud.vm.lcmState ∈ [.migrate, .saveMigrate]
    · have both : ∀ lcmState ∈ ([.migrate, .saveMigrate] : List LcmState),
          lcmState ≠ .lcmInit ∧ lcmState.place = .both := by decide
      obtain ⟨busy, place⟩ := both _ migrates
      have placed := wellPlaced.holds rfl busy
      rw [place] at placed
      rw [delCapacity_hosts, placed.2.2, same migrates, Finset.union_self, Finset.sdiff_self]
    · apply wellPlaced.leftHosts rfl
      rw [inState]
      simp only [List.mem_cons, List.not_mem_nil, or_false, not_or] at migrates
      obtain ⟨notMigrate, notSaveMigrate⟩ := migrates
      cases inLcm : cloud.vm.lcmState <;> first | decide | contradiction
  case h_4 inState | h_5 inState | h_6 inState | h_7 inState | h_8 inState | h_9 inState | h_10 inState =>
    exact wellPlaced_freeVmResources (wellPlaced.free inState fun _ => rfl)
  case h_11 => exact wellPlaced

theorem WellPlaced.terminate (hard : Bool) : (cloud.terminate hard).WellPlaced := by
  unfold Cloud.terminate
  split
  case h_1 | h_2 | h_3 | h_4 => exact wellPlaced.triggerShutdown false
  case h_5 inState | h_6 inState | h_7 inState | h_8 inState | h_9 inState =>
    exact wellPlaced_freeVmResources (wellPlaced.free inState fun _ => rfl)
  case h_10 => exact wellPlaced
  case h_11 =>
    split
    · exact wellPlaced.triggerShutdown hard
    · split
      · exact wellPlaced.triggerDelete
      · exact wellPlaced

/-- A success does not reach a machine that migrates live to its own host. -/
def SafeDeploy (cloud : Cloud) : Prop :=
  cloud.vm.lcmState = .migrate → cloud.vm.hid ≠ cloud.vm.previousHid

instance (cloud : Cloud) : Decidable cloud.SafeDeploy :=
  inferInstanceAs (Decidable (_ → _))

theorem WellPlaced.recoverLcm (success : Bool)
    (safe : success = true → cloud.SafeDeploy) : (cloud.recoverLcm success).WellPlaced := by
  have answers {ifSuccess ifFailure : Cloud} (first : success = true → ifSuccess.WellPlaced)
      (second : ifFailure.WellPlaced) :
      (if success then ifSuccess else ifFailure).WellPlaced := by
    split
    · rename_i succeeded
      exact first succeeded
    · exact second
  have prolog := answers (fun _ => wellPlaced.triggerPrologSuccess) wellPlaced.triggerPrologFailure
  have epilog := answers (fun _ => wellPlaced.triggerEpilogSuccess) wellPlaced.triggerEpilogFailure
  have deploy := answers (fun succeeded => wellPlaced.triggerDeploySuccess (safe succeeded))
    wellPlaced.triggerDeployFailure
  have shutdown := answers (fun _ => wellPlaced.triggerShutdownSuccess)
    wellPlaced.triggerShutdownFailure
  have save := answers (fun _ => wellPlaced.triggerSaveSuccess) wellPlaced.triggerSaveFailure
  have nic := answers (fun _ => wellPlaced.triggerNicKept) wellPlaced.triggerNicDeleted
  have resize := answers (fun _ => wellPlaced.triggerResizeSuccess) wellPlaced.triggerResizeFailure
  unfold Cloud.recoverLcm
  simp only
  split
  all_goals first
    | exact wellPlaced
    | exact prolog
    | exact epilog
    | exact deploy
    | exact shutdown
    | exact save
    | exact nic
    | exact resize
    | exact wellPlaced.finish _
    | exact wellPlaced.triggerResubmit
    | skip
  · rename_i inState
    exact wellPlaced.triggerDone (wellPlaced.holds inState (by decide))
  · rename_i inState
    exact wellPlaced.setLcmState inState (by decide) (by decide)

theorem WellPlaced.recover (success ready error onHold : Bool) (safe : success = true → cloud.SafeDeploy) :
    (cloud.recover success ready error onHold).WellPlaced := by
  unfold Cloud.recover
  split
  · exact wellPlaced.triggerDiskLock ready error onHold
  · exact wellPlaced.recoverLcm success safe
  · exact wellPlaced

end

theorem retryStates_place : ∀ entry ∈ retryStates,
    entry.1 ≠ .lcmInit ∧ entry.1.place.leadsTo entry.2.place := by decide

theorem WellPlaced.retry (wellPlaced : cloud.WellPlaced) : cloud.retry.WellPlaced := by
  unfold Cloud.retry
  split
  · cases found : retryStates.lookup cloud.vm.lcmState with
    | none => exact wellPlaced
    | some next =>
      obtain ⟨busy, leads⟩ := retryStates_place _ (lookup_mem found)
      exact wellPlaced.setLcmState rfl busy leads
  · exact wellPlaced

theorem Start.entries_place (operation : Start) : ∀ entry ∈ operation.entries,
    (entry.1.1.place entry.1.2).leadsTo entry.2.place := by
  cases operation <;> decide

theorem Start.record_hid (operation : Start) (vm : VirtualMachine) :
    ((operation.action vm.state).elim vm vm.closeCpHistory).hid = vm.hid := by
  cases operation.action vm.state with
  | none => rfl
  | some action => exact vm.closeCpHistory_hid action

theorem WellPlaced.start (wellPlaced : cloud.WellPlaced) (operation : Start)
    (accepted : Bool) : (cloud.start operation accepted).WellPlaced := by
  unfold Cloud.start
  split
  · rename_i lcmState found
    exact wellPlaced.move .active lcmState (operation.entries_place _ (lookup_mem found)) rfl rfl
      (fun other => (other rfl).elim) (operation.record_hid cloud.vm) rfl
  · exact wellPlaced

theorem WellPlaced.awaitNic (wellPlaced : before.WellPlaced) {lcmState : LcmState}
    (ready : (before.vm.state = .active ∧ before.vm.lcmState = .running) ∨
      (before.vm.state = .poweroff ∧ before.vm.lcmState = .lcmInit))
    (place : lcmState.place = .current) (active : after.vm.state = .active)
    (inLcm : after.vm.lcmState = lcmState) (hid : after.vm.hid = before.vm.hid)
    (hosts : after.hosts = before.hosts) : after.WellPlaced := by
  refine wellPlaced.move .active lcmState ?_ active inLcm (fun other => (other rfl).elim) hid hosts
  have leads : Place.current.leadsTo (VmState.active.place lcmState) := .inl ⟨by decide, place⟩
  rcases ready with ⟨inState, inLcm⟩ | ⟨inState, inLcm⟩
  · rw [inState, inLcm]
    exact leads
  · rw [inState, inLcm]
    exact leads

theorem WellPlaced.stay (wellPlaced : before.WellPlaced) (state : after.vm.state = before.vm.state)
    (inLcm : after.vm.lcmState = before.vm.lcmState) (single : before.vm.state.place before.vm.lcmState ≠ .both)
    (hid : after.vm.hid = before.vm.hid) (hosts : after.hosts = before.hosts) : after.WellPlaced :=
  wellPlaced.move _ _ (.inl ⟨single, rfl⟩) state inLcm wellPlaced.idle hid hosts

theorem WellPlaced.attachNic (wellPlaced : cloud.WellPlaced) (pci granted setUp cold : Bool) :
    (cloud.attachNic pci granted setUp cold).WellPlaced := by
  have charged :
      (if pci && cloud.vm.isRunningQuota then cloud.vmAdd oneNic else cloud).WellPlaced := by
    split
    · exact ⟨wellPlaced.idle, wellPlaced.placed⟩
    · exact wellPlaced
  have sameVm :
      (if pci && cloud.vm.isRunningQuota then cloud.vmAdd oneNic else cloud).vm = cloud.vm := by
    split <;> rfl
  unfold Cloud.attachNic
  simp only
  split
  · exact wellPlaced
  · split
    · rename_i running
      split
      · exact charged.awaitNic (.inl (by rw [sameVm]; exact running)) rfl
          ((VirtualMachine.closeCpHistory_state _ _).trans (by rw [sameVm]; exact running.1)) rfl
          (VirtualMachine.closeCpHistory_hid _ _) rfl
      · exact charged
    · split
      · rename_i poweroff
        split
        · exact charged
        · split
          · exact charged.awaitNic (.inr (by rw [sameVm]; exact poweroff)) rfl rfl rfl
              (VirtualMachine.closeCpHistory_hid _ _) rfl
          · refine charged.stay (VirtualMachine.closeCpHistory_state _ _)
              (VirtualMachine.closeCpHistory_lcmState _ _) ?_
              (VirtualMachine.closeCpHistory_hid _ _) rfl
            rw [sameVm, poweroff.1]
            simp [VmState.place]
      · exact charged

theorem WellPlaced.detachNic (wellPlaced : cloud.WellPlaced) (pci found cold : Bool) :
    (cloud.detachNic pci found cold).WellPlaced := by
  unfold Cloud.detachNic
  simp only
  split
  · exact wellPlaced
  · split
    · rename_i running
      exact wellPlaced.awaitNic (.inl running) rfl (by simpa using running.1) rfl
        (VirtualMachine.closeCpHistory_hid _ _) rfl
    · split
      · rename_i poweroff
        split
        · exact wellPlaced.awaitNic (.inr poweroff) rfl rfl rfl
            (VirtualMachine.closeCpHistory_hid _ _) rfl
        · apply WellPlaced.deleteAttachNic
          refine wellPlaced.stay (VirtualMachine.closeCpHistory_state _ _)
            (VirtualMachine.closeCpHistory_lcmState _ _) ?_
            (VirtualMachine.closeCpHistory_hid _ _) rfl
          rw [poweroff.1]
          simp [VmState.place]
      · exact wellPlaced

theorem WellPlaced.changePci (wellPlaced : cloud.WellPlaced) (change : Rat) (action : VmAction)
    (accepted : Bool) : (cloud.changePci change action accepted).WellPlaced := by
  unfold Cloud.changePci
  split
  · rename_i allowed
    simp only [Bool.and_eq_true, decide_eq_true_eq] at allowed
    obtain ⟨⟨_, member⟩, inLcm⟩ := allowed
    have single : ∀ state ∈ ([.poweroff, .undeployed] : List VmState),
        state.place .lcmInit ≠ .both := by decide
    refine wellPlaced.stay ?_ ?_ ?_ ?_ rfl
    · simp only [updateVm_vm]
      split <;> simp
    · simp only [updateVm_vm]
      split <;> simp
    · rw [inLcm]
      exact single _ member
    · simp only [updateVm_vm]
      split
      · rfl
      · exact cloud.vm.closeCpHistory_hid action
  · exact wellPlaced

theorem WellPlaced.recharge (wellPlaced : before.WellPlaced)
    (current : before.vm.state.place before.vm.lcmState = .current) (state : VmState)
    (lcmState : LcmState) (place : state.place lcmState = .current)
    (inState : after.vm.state = state) (inLcm : after.vm.lcmState = lcmState)
    (idle : state ≠ .active → lcmState = .lcmInit) (hid : after.vm.hid = before.vm.hid)
    (hosts : after.hosts = before.hosts \ before.vm.hid.toFinset ∪ before.vm.hid.toFinset) : after.WellPlaced := by
  have placed := wellPlaced.placed
  rw [current] at placed
  refine ⟨?_, ?_⟩
  · intro other
    rw [inLcm]
    exact idle (inState ▸ other)
  · rw [inState, inLcm, place, hid, hosts, placed.2, Finset.sdiff_self, Finset.empty_union]
    exact ⟨placed.1, rfl⟩

theorem WellPlaced.resize (wellPlaced : cloud.WellPlaced) (asked : Capacity)
    (inQuota accepted : Bool) : (cloud.resize asked inQuota accepted).WellPlaced := by
  unfold Cloud.resize
  split
  · exact wellPlaced
  · simp only
    have sameVm (p : Prop) [Decidable p] (amount : RunningUsage) :
        (if p then cloud.vmAdd amount else cloud).vm = cloud.vm := by
      split <;> rfl
    have sameHosts (p : Prop) [Decidable p] (amount : RunningUsage) :
        (if p then cloud.vmAdd amount else cloud).hosts = cloud.hosts := by
      split <;> rfl
    split
    · rename_i member
      split
      · have free : ∀ state ∈ ([.init, .pending, .hold, .undeployed, .cloning,
            .cloningFailure] : List VmState), ∀ lcmState, state.place lcmState ≠ .both := by
          simp [VmState.place]
        refine wellPlaced.stay ?_ ?_ (free _ member _) ?_ (sameHosts _ _)
        · simp [sameVm]
        · simp [sameVm]
        · simp [sameVm]
      · exact wellPlaced
    · split
      · rename_i poweroff
        split
        · refine wellPlaced.recharge (by rw [poweroff]; rfl) .poweroff .lcmInit rfl ?_ ?_
            (fun _ => rfl) ?_ ?_
          · simpa [sameVm] using poweroff
          · simpa [sameVm] using wellPlaced.idle (by simp [poweroff])
          · simp [sameVm]
          · simp [sameHosts]
        · exact wellPlaced
      · split
        · rename_i running
          obtain ⟨⟨active, inLcm⟩, _⟩ := running
          split
          · refine wellPlaced.stay ?_ ?_ ?_ ?_ (sameHosts _ _)
            · simp [sameVm]
            · simp [sameVm]
            · rw [active, inLcm]
              decide
            · simp [sameVm]
          · refine wellPlaced.recharge (by rw [active, inLcm]; rfl) .active .hotplugResize rfl
              ?_ ?_ (fun other => (other rfl).elim) ?_ ?_
            · simpa [sameVm] using active
            · simp
            · simp only [addCapacity_vm, delCapacity_vm, setLcmState_vm,
                VirtualMachine.setLcmState_hid, updateVm_vm, sameVm]
              exact VirtualMachine.closeCpHistory_hid _ _
            · simp [sameHosts]
        · exact wellPlaced

/-- A live migration does not succeed on the host of the machine itself, and a machine on two
hosts is not deleted from the database. -/
def KeepsHosts (cloud : Cloud) : Event → Prop
  | .callback (.deploy true) => cloud.SafeDeploy
  | .recover true _ _ _ => cloud.SafeDeploy
  | .deleteDb =>
    cloud.vm.lcmState ∈ [.migrate, .saveMigrate] → cloud.vm.hid = cloud.vm.previousHid
  | _ => True

instance (cloud : Cloud) (event : Event) : Decidable (KeepsHosts cloud event) := by
  unfold KeepsHosts
  split <;> infer_instance

theorem WellPlaced.answer (wellPlaced : cloud.WellPlaced) (callback : Callback)
    (keeps : KeepsHosts cloud (.callback callback)) : (cloud.answer callback).WellPlaced := by
  cases callback with
  | save success =>
    cases success
    · exact wellPlaced.triggerSaveFailure
    · exact wellPlaced.triggerSaveSuccess
  | deploy success =>
    cases success
    · exact wellPlaced.triggerDeployFailure
    · exact wellPlaced.triggerDeploySuccess keeps
  | shutdown success =>
    cases success
    · exact wellPlaced.triggerShutdownFailure
    · exact wellPlaced.triggerShutdownSuccess
  | prolog success =>
    cases success
    · exact wellPlaced.triggerPrologFailure
    · exact wellPlaced.triggerPrologSuccess
  | epilog success =>
    cases success
    · exact wellPlaced.triggerEpilogFailure
    · exact wellPlaced.triggerEpilogSuccess
  | cleanup => exact wellPlaced.triggerResubmit
  | operation operation found =>
    cases found
    · exact wellPlaced
    · exact wellPlaced.finish operation
  | attachNic success =>
    cases success
    · exact wellPlaced.triggerNicDeleted
    · exact wellPlaced.triggerNicKept
  | detachNic success =>
    cases success
    · exact wellPlaced.triggerNicKept
    · exact wellPlaced.triggerNicDeleted
  | resize success =>
    cases success
    · exact wellPlaced.triggerResizeFailure
    · exact wellPlaced.triggerResizeSuccess
  | diskLock ready error onHold => exact wellPlaced.triggerDiskLock ready error onHold

theorem WellPlaced.step (wellPlaced : cloud.WellPlaced) (event : Event)
    (keeps : KeepsHosts cloud event) : (cloud.step event).WellPlaced := by
  cases event with
  | deploy request => exact wellPlaced.deploy request
  | migrate request => exact wellPlaced.migrate request
  | hold => exact wellPlaced.hold
  | release met => exact wellPlaced.release met
  | stop => exact wellPlaced.stop
  | suspend => exact wellPlaced.suspend
  | poweroff hard => exact wellPlaced.poweroff hard
  | undeploy hard => exact wellPlaced.undeploy hard
  | resume inQuota met => exact wellPlaced.resume inQuota met
  | terminate hard => exact wellPlaced.terminate hard
  | recover success ready error onHold =>
    apply wellPlaced.recover
    intro succeeded
    subst success
    exact keeps
  | retry => exact wellPlaced.retry
  | delete => exact wellPlaced.deleteVm
  | deleteRecreate inUserQuota inGroupQuota => exact wellPlaced.deleteRecreate inUserQuota inGroupQuota
  | deleteDb => exact wellPlaced.deleteVmDb keeps
  | start operation accepted => exact wellPlaced.start operation accepted
  | attachNic pci granted setUp cold => exact wellPlaced.attachNic pci granted setUp cold
  | detachNic pci found cold => exact wellPlaced.detachNic pci found cold
  | attachPci accepted => exact wellPlaced.changePci 1 .pciAttach accepted
  | detachPci accepted => exact wellPlaced.changePci (-1) .pciDetach accepted
  | resize asked inQuota accepted => exact wellPlaced.resize asked inQuota accepted
  | callback callback => exact wellPlaced.answer callback keeps
  | monitor report =>
    cases report
    · exact wellPlaced.triggerMonitorSuspend
    · exact wellPlaced.triggerMonitorDone
    · exact wellPlaced.triggerMonitorPoweroff
    · exact wellPlaced.triggerMonitorPoweron

structure Created (cloud : Cloud) : Prop where
  state : cloud.vm.state ∈ [.pending, .hold, .cloning]
  idle : cloud.vm.lcmState = .lcmInit
  history : cloud.vm.history = none
  previousHistory : cloud.vm.previousHistory = none
  hosts : cloud.hosts = ∅

theorem Created.wellPlaced (created : cloud.Created) : cloud.WellPlaced := by
  have free : ∀ state ∈ ([.pending, .hold, .cloning] : List VmState),
      state.place .lcmInit = .none := by decide
  refine .of_idle rfl created.idle ?_
  rw [free _ created.state]
  exact created.hosts

theorem reachable_wellPlaced (reached : (lifeCycle Created).Reachable KeepsHosts cloud) : cloud.WellPlaced := by
  refine reached.invariant ?_ ?_
  · intro start created
    exact created.wellPlaced
  · intro before event after wellPlaced keeps stepped
    obtain rfl := Option.some.inj stepped
    exact wellPlaced.step event keeps

def deployedStates : List LcmState :=
  [.running, .unknown, .boot, .bootUnknown, .bootPoweroff, .bootSuspended, .bootStopped,
    .bootUndeploy, .bootMigrate, .bootFailure, .bootMigrateFailure, .bootUndeployFailure,
    .bootStoppedFailure, .prolog, .prologMigrate, .prologResume, .prologUndeploy,
    .prologFailure, .prologMigrateFailure, .prologMigratePoweroff,
    .prologMigratePoweroffFailure, .prologMigrateSuspend, .prologMigrateSuspendFailure,
    .prologMigrateUnknown, .prologMigrateUnknownFailure, .prologResumeFailure,
    .prologUndeployFailure]

/-- The hosts that hold the machine are those that its state and its history tell. -/
structure Accounted (cloud : Cloud) : Prop where
  migrating : cloud.vm.state = .active → cloud.vm.lcmState ∈ [.migrate, .saveMigrate] →
    ∃ current previous, cloud.vm.hid = some current ∧ cloud.vm.previousHid = some previous ∧
      cloud.hosts = {current, previous}
  deployed : (cloud.vm.state = .active ∧ cloud.vm.lcmState ∈ deployedStates) ∨
    cloud.vm.state ∈ [.poweroff, .suspended] →
    ∃ current, cloud.vm.hid = some current ∧ cloud.hosts = {current}
  cleaned : (cloud.vm.state = .active ∧ cloud.vm.lcmState ∈ [.cleanupResubmit, .cleanupDelete]) ∨
    cloud.vm.state ∈ [.pending, .done] → cloud.hosts = ∅

theorem WellPlaced.accounted (wellPlaced : cloud.WellPlaced) : cloud.Accounted := by
  have placed := wellPlaced.placed
  refine ⟨?_, ?_, ?_⟩
  · intro active member
    have both : ∀ lcmState ∈ ([.migrate, .saveMigrate] : List LcmState),
        lcmState.place = .both := by decide
    rw [active, show VmState.active.place cloud.vm.lcmState = .both from both _ member] at placed
    obtain ⟨current, found⟩ := Option.isSome_iff_exists.1 placed.1
    obtain ⟨previous, last⟩ := Option.isSome_iff_exists.1 placed.2.1
    refine ⟨current, previous, found, last, ?_⟩
    rw [placed.2.2, found, last]
    rfl
  · intro inState
    have current : cloud.vm.state.place cloud.vm.lcmState = .current := by
      rcases inState with ⟨active, member⟩ | member
      · have places : ∀ lcmState ∈ deployedStates, lcmState.place = .current := by decide
        rw [active]
        exact places _ member
      · have places : ∀ state ∈ ([.poweroff, .suspended] : List VmState),
            ∀ lcmState, state.place lcmState = .current := by simp [VmState.place]
        exact places _ member _
    rw [current] at placed
    obtain ⟨host, found⟩ := Option.isSome_iff_exists.1 placed.1
    refine ⟨host, found, ?_⟩
    rw [placed.2, found]
    rfl
  · intro inState
    have none : cloud.vm.state.place cloud.vm.lcmState = .none := by
      rcases inState with ⟨active, member⟩ | member
      · have places : ∀ lcmState ∈ ([.cleanupResubmit, .cleanupDelete] : List LcmState),
            lcmState.place = .none := by decide
        rw [active]
        exact places _ member
      · have places : ∀ state ∈ ([.pending, .done] : List VmState),
            ∀ lcmState, state.place lcmState = .none := by simp [VmState.place]
        exact places _ member _
    rw [none] at placed
    exact placed

/-- In every run of such steps the hosts that hold the machine are those of its state. -/
theorem placement_accounting {cloud : Cloud}
    (reached : (lifeCycle Created).Reachable KeepsHosts cloud) : cloud.Accounted :=
  (reachable_wellPlaced reached).accounted

theorem pendingCloud_created : pendingCloud.Created where
  state := by simp [pendingCloud]
  idle := rfl
  history := rfl
  previousHistory := rfl
  hosts := rfl

/-- What a run that is evaluated below is read for -/
def placement (cloud : Cloud) : VmState × LcmState × Option Int × Finset Int :=
  (cloud.vm.state, cloud.vm.lcmState, cloud.vm.hid, cloud.hosts)

/-- A live migration to host 1, and a cold one back to host 0 that is under way -/
theorem placement_accounting_run : ∃ cloud : Cloud, (lifeCycle Created).Reachable KeepsHosts cloud ∧
      cloud.placement = (.active, .saveMigrate, some 0, {0, 1}) ∧ cloud.Accounted := by
  have ran : ((lifeCycle Created).exec KeepsHosts pendingCloud
      (deployment ++ [migration 1 (-1) true, .callback (.deploy true), migration 0 101 false])).map placement =
      some (.active, .saveMigrate, some 0, {0, 1}) := by
    decide
  obtain ⟨cloud, isRun, isPlaced⟩ := Option.map_eq_some_iff.mp ran
  have reached := System.reachable_of_exec pendingCloud_created isRun
  exact ⟨cloud, reached, isPlaced, placement_accounting reached⟩

/-- After a live migration to another datastore of its host no host holds the machine. -/
theorem placement_accounting_same_host :
    ¬∀ cloud : Cloud, (lifeCycle Created).Reachable System.anyStep cloud → cloud.Accounted := by
  intro always
  have ran : ((lifeCycle Created).exec System.anyStep pendingCloud
      (deployment ++ [migration 0 101 true, .callback (.deploy true)])).map placement =
      some (.active, .running, some 0, ∅) := by
    decide
  obtain ⟨cloud, isRun, isPlaced⟩ := Option.map_eq_some_iff.mp ran
  have accounted := always cloud (System.reachable_of_exec pendingCloud_created isRun)
  simp only [placement, Prod.mk.injEq] at isPlaced
  obtain ⟨active, running, -, empty⟩ := isPlaced
  obtain ⟨current, -, held⟩ := accounted.deployed (.inl ⟨active, by rw [running]; decide⟩)
  rw [empty] at held
  exact Finset.singleton_ne_empty current held.symm

end Cloud

end OpenNebula.Vm
