import OpenNebula.Vm.BackupJob

namespace OpenNebula.Vm

open Library

/-! # The collections of a backup job

A machine that is backed up by an earlier run may finish when the next run has listed it
again: then it is in two collections.
-/

namespace BackupJob

variable {job : BackupJob}

/-- Every machine is in one collection at most, and it is listed. -/
structure Partitioned (job : BackupJob) : Prop where
  updatedOutdated : Disjoint job.updated job.outdated
  updatedBackingUp : Disjoint job.updated job.backingUp
  updatedError : Disjoint job.updated job.error
  outdatedBackingUp : Disjoint job.outdated job.backingUp
  outdatedError : Disjoint job.outdated job.error
  backingUpError : Disjoint job.backingUp job.error
  listed : job.updated ∪ job.outdated ∪ job.backingUp ∪ job.error ⊆ job.listed

/-- The completion is of a backup of this run, or its machine is listed, does not wait for a
backup and has no other result. -/
def Expects (job : BackupJob) (vm : Int) (success : Bool) : Prop :=
  vm ∈ job.backingUp ∨
    (vm ∈ job.listed ∧ vm ∉ job.outdated ∧ vm ∉ if success then job.error else job.updated)

theorem partitioned_iff : job.Partitioned ↔ ∀ vm,
      (vm ∈ job.updated → vm ∈ job.listed ∧ vm ∉ job.outdated ∧ vm ∉ job.backingUp ∧ vm ∉ job.error) ∧
      (vm ∈ job.outdated → vm ∈ job.listed ∧ vm ∉ job.backingUp ∧ vm ∉ job.error) ∧
      (vm ∈ job.backingUp → vm ∈ job.listed ∧ vm ∉ job.error) ∧ (vm ∈ job.error → vm ∈ job.listed) := by
  constructor
  · intro partitioned vm
    have isListed := @partitioned.listed vm
    simp only [Finset.mem_union] at isListed
    have apart {left right : Finset Int} (disjoint : Disjoint left right) (inLeft : vm ∈ left) :
        vm ∉ right := Finset.disjoint_left.1 disjoint inLeft
    refine ⟨fun inSet => ⟨isListed (by tauto), ?_, ?_, ?_⟩, fun inSet => ⟨isListed (by tauto), ?_, ?_⟩,
      fun inSet => ⟨isListed (by tauto), ?_⟩, fun inSet => isListed (by tauto)⟩
    · exact apart partitioned.updatedOutdated inSet
    · exact apart partitioned.updatedBackingUp inSet
    · exact apart partitioned.updatedError inSet
    · exact apart partitioned.outdatedBackingUp inSet
    · exact apart partitioned.outdatedError inSet
    · exact apart partitioned.backingUpError inSet
  · intro all
    refine ⟨?_, ?_, ?_, ?_, ?_, ?_, ?_⟩
    · exact Finset.disjoint_left.2 fun vm inSet => ((all vm).1 inSet).2.1
    · exact Finset.disjoint_left.2 fun vm inSet => ((all vm).1 inSet).2.2.1
    · exact Finset.disjoint_left.2 fun vm inSet => ((all vm).1 inSet).2.2.2
    · exact Finset.disjoint_left.2 fun vm inSet => ((all vm).2.1 inSet).2.1
    · exact Finset.disjoint_left.2 fun vm inSet => ((all vm).2.1 inSet).2.2
    · exact Finset.disjoint_left.2 fun vm inSet => ((all vm).2.2.1 inSet).2
    · intro vm inSet
      simp only [Finset.mem_union] at inSet
      rcases inSet with ((inUpdated | inOutdated) | inBackingUp) | inError
      · exact ((all vm).1 inUpdated).1
      · exact ((all vm).2.1 inOutdated).1
      · exact ((all vm).2.2.1 inBackingUp).1
      · exact (all vm).2.2.2 inError

@[simp] theorem listed_cancel : job.cancel.listed = job.listed := rfl

@[simp] theorem listed_retry : job.retry.listed = job.listed := rfl

@[simp] theorem listed_backupStarted (vm : Int) : (job.backupStarted vm).listed = job.listed := rfl

@[simp] theorem listed_addError (vm : Int) : (job.addError vm).listed = job.listed := rfl

@[simp] theorem listed_backupFinished (vm : Int) (success : Bool) :
    (job.backupFinished vm success).listed = job.listed := by
  cases success <;> rfl

@[simp] theorem listed_removeVm (vm : Int) : (job.removeVm vm).listed = job.listed.erase vm := by
  apply Finset.ext
  intro other
  simp only [listed, removeVm, Finset.mem_erase, List.mem_toFinset, List.mem_filter, decide_eq_true_eq]
  exact And.comm

@[simp] theorem listed_accept (vms : List Int) : (job.accept vms).listed = (uniqueVms vms).toFinset := rfl

theorem execute_cases {started : BackupJob} (executed : job.execute = .ok started) :
    job.backingUp = ∅ ∧ job.outdated = ∅ ∧
      started = { job with outdated := job.listed, updated := ∅, error := ∅ } := by
  simp only [execute] at executed
  split at executed
  · contradiction
  · rename_i idle
    cases executed
    simp only [not_or, Finset.card_pos, Finset.not_nonempty_iff_eq_empty] at idle
    exact ⟨idle.1, idle.2, rfl⟩

theorem partitioned_execute {started : BackupJob} (executed : job.execute = .ok started) : started.Partitioned := by
  obtain ⟨noneRuns, noneWaits, rfl⟩ := execute_cases executed
  rw [partitioned_iff]
  intro vm
  simp only [noneRuns, Finset.notMem_empty, not_false_eq_true, and_true, false_implies, true_and]
  exact id

theorem Partitioned.cancel (partitioned : job.Partitioned) : job.cancel.Partitioned := by
  rw [partitioned_iff] at partitioned ⊢
  intro vm
  have parts := partitioned vm
  rw [listed_cancel]
  simp only [BackupJob.cancel, Finset.notMem_empty]
  grind

theorem Partitioned.retry (partitioned : job.Partitioned) : job.retry.Partitioned := by
  rw [partitioned_iff] at partitioned ⊢
  intro vm
  have parts := partitioned vm
  rw [listed_retry]
  simp only [BackupJob.retry, Finset.notMem_empty, Finset.mem_union]
  grind

variable {vm : Int}

section

variable (partitioned : job.Partitioned)
include partitioned

theorem Partitioned.removeVm (waits : vm ∈ job.outdated) : (job.removeVm vm).Partitioned := by
  rw [partitioned_iff] at partitioned ⊢
  intro other
  have parts := partitioned other
  have own := partitioned vm
  rw [listed_removeVm]
  simp only [BackupJob.removeVm, Finset.mem_erase]
  grind

theorem Partitioned.backupStarted (waits : vm ∈ job.outdated) : (job.backupStarted vm).Partitioned := by
  rw [partitioned_iff] at partitioned ⊢
  intro other
  have parts := partitioned other
  rw [listed_backupStarted]
  simp only [BackupJob.backupStarted, Finset.mem_erase, Finset.mem_insert]
  grind

theorem Partitioned.addError (waits : vm ∈ job.outdated) : (job.addError vm).Partitioned := by
  rw [partitioned_iff] at partitioned ⊢
  intro other
  have parts := partitioned other
  rw [listed_addError]
  simp only [BackupJob.addError, Finset.mem_erase, Finset.mem_insert]
  grind

theorem Partitioned.accept (vms : List Int) : (job.accept vms).Partitioned := by
  rw [partitioned_iff] at partitioned ⊢
  intro other
  have parts := partitioned other
  rw [listed_accept]
  simp only [BackupJob.accept, Finset.mem_filter]
  grind

theorem Partitioned.backupFinished_iff {success : Bool} :
    (job.backupFinished vm success).Partitioned ↔ job.Expects vm success := by
  have before := partitioned_iff.1 partitioned
  have own := before vm
  rw [partitioned_iff]
  simp only [listed_backupFinished]
  cases success with
  | true =>
    simp only [BackupJob.backupFinished, Expects, if_true, Finset.mem_erase, Finset.mem_insert]
    constructor
    · intro after
      have finished := (after vm).1 (.inl rfl)
      grind
    · intro expected other
      have parts := before other
      grind
  | false =>
    simp only [BackupJob.backupFinished, Expects, Bool.false_eq_true, if_false, Finset.mem_erase, Finset.mem_insert]
    constructor
    · intro after
      have finished := after vm
      grind
    · intro expected other
      have parts := before other
      grind

end

def Timely (job : BackupJob) : Event → Prop
  | .backupFinished vm success => job.Expects vm success
  | _ => True

/-- While every completion is expected, no machine is in two collections and every one is
listed. -/
theorem backup_job_partition (reached : lifeCycle.Reachable Timely job) : job.Partitioned := by
  refine reached.invariant ?_ ?_
  · intro start isInitial
    obtain ⟨text, rfl⟩ := isInitial
    rw [partitioned_iff]
    intro vm
    simp [accept]
  · intro before event after partitioned timely stepped
    cases event with
    | execute =>
      simp only [lifeCycle, step] at stepped
      split at stepped
      · rename_i executed
        cases stepped
        exact partitioned_execute executed
      · cases stepped
        exact partitioned
    | cancel =>
      cases stepped
      exact partitioned.cancel
    | retry =>
      cases stepped
      exact partitioned.retry
    | serve vm outcome =>
      simp only [lifeCycle, step] at stepped
      split at stepped
      · rename_i inLoop
        cases stepped
        cases outcome with
        | removed => exact partitioned.removeVm inLoop.2.2
        | failed => exact partitioned.addError inLoop.2.2
        | started => exact partitioned.backupStarted inLoop.2.2
      · contradiction
    | backupFinished vm success =>
      cases stepped
      exact partitioned.backupFinished_iff.mpr timely
    | parse text accepted =>
      cases stepped
      cases accepted with
      | true => exact partitioned.accept _
      | false => exact partitioned

instance (job : BackupJob) (event : Event) : Decidable (job.Timely event) := by
  unfold Timely Expects
  split <;> infer_instance

theorem backup_job_partition_run :
    ∃ job : BackupJob, lifeCycle.Reachable Timely job ∧ job.updated = {1} ∧ job.error = {2} ∧ job.Partitioned := by
  have ran : (lifeCycle.exec Timely (({} : BackupJob).accept (splitVms "1,2"))
      [.execute, .serve 1 .started, .serve 2 .started, .backupFinished 1 true,
        .backupFinished 2 false]).map (fun job => (job.updated, job.error)) = some ({1}, {2}) := by
    decide
  obtain ⟨job, isRun, same⟩ := Option.map_eq_some_iff.mp ran
  have created : lifeCycle.initial (({} : BackupJob).accept (splitVms "1,2")) := ⟨_, rfl⟩
  have reached := System.reachable_of_exec created isRun
  simp only [Prod.mk.injEq] at same
  exact ⟨job, reached, same.1, same.2, backup_job_partition reached⟩

/-- The backup of a run that is cancelled fails when the next run waits for the machine. -/
theorem backup_job_partition_cancelled :
    ¬∀ job : BackupJob, lifeCycle.Reachable System.anyStep job → job.Partitioned := by
  intro always
  have ran : (lifeCycle.exec System.anyStep (({} : BackupJob).accept (splitVms "1"))
      [.execute, .serve 1 .started, .cancel, .execute, .backupFinished 1 false]).map
        (fun job => (job.outdated, job.error)) = some ({1}, {1}) := by
    decide
  obtain ⟨job, isRun, same⟩ := Option.map_eq_some_iff.mp ran
  have created : lifeCycle.initial (({} : BackupJob).accept (splitVms "1")) := ⟨_, rfl⟩
  have partitioned := always job (System.reachable_of_exec created isRun)
  simp only [Prod.mk.injEq] at same
  have apart := partitioned.outdatedError
  rw [same.1, same.2] at apart
  simp at apart

end BackupJob

end OpenNebula.Vm
