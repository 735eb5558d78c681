import Mathlib.Data.Finset.Card
import Mathlib.Data.List.Destutter
import OpenNebula.Library.Streams
import OpenNebula.Library.Transition

namespace OpenNebula.Vm

open Library

/-! # Backup jobs (`BackupJob`)

The numbers of `BACKUP_VMS` are read as `unsigned int`.  They stand here for the `int` that they
are cast to, in the collections and in the pool of machines.
-/

def asInt (id : Int) : Int := Int.bmod id (2 ^ 32)

structure BackupJob where
  /-- `BACKUP_VMS`, whose text is joined from these numbers -/
  vms : List Int := []
  updated : Finset Int := ∅
  outdated : Finset Int := ∅
  backingUp : Finset Int := ∅
  error : Finset Int := ∅

namespace BackupJob

variable (job : BackupJob)

def listed : Finset Int := job.vms.toFinset

def execute : Except String BackupJob :=
  if 0 < job.backingUp.card ∨ 0 < job.outdated.card then
    throw "Unable to execute Backup Job, pending backups in progress"
  else pure { job with outdated := job.listed, updated := ∅, error := ∅ }

def cancel : BackupJob := { job with outdated := ∅, backingUp := ∅ }

def retry : BackupJob := { job with outdated := job.outdated ∪ job.error, error := ∅ }

def backupStarted (vm : Int) : BackupJob :=
  { job with outdated := job.outdated.erase vm, backingUp := insert vm job.backingUp }

def removeVm (vm : Int) : BackupJob :=
  { job with
    outdated := job.outdated.erase vm
    vms := job.vms.filter fun id => id ≠ vm }

def backupFinished (vm : Int) (success : Bool) : BackupJob :=
  if success then
    { job with backingUp := job.backingUp.erase vm, updated := insert vm job.updated }
  else { job with backingUp := job.backingUp.erase vm, error := insert vm job.error }

def addError (vm : Int) : BackupJob :=
  { job with outdated := job.outdated.erase vm, error := insert vm job.error }

def splitVms (text : String) : List Int := (splitUnique .unsigned ',' text).map asInt

/-- `std::unique` drops a number that is equal to the one before. -/
def uniqueVms (vms : List Int) : List Int := vms.destutter (· ≠ ·)

def accept (vms : List Int) : BackupJob :=
  let base := (uniqueVms vms).toFinset
  { vms := uniqueVms vms
    updated := job.updated.filter (· ∈ base)
    outdated := job.outdated.filter (· ∈ base)
    backingUp := job.backingUp.filter (· ∈ base)
    error := job.error.filter (· ∈ base) }

/-- What becomes of a machine that the loop of `backup_jobs` looks at: it is no more, its backup
cannot be started, or it is started. -/
inductive Outcome where
  | removed | failed | started

/-- One turn of the loop -/
def serve (vm : Int) : Outcome → BackupJob
  | .removed => job.removeVm vm
  | .failed => job.addError vm
  | .started => job.backupStarted vm

inductive Event where
  | execute
  | cancel
  | retry
  | serve (vm : Int) (outcome : Outcome)
  | backupFinished (vm : Int) (success : Bool)
  | parse (text : String) (accepted : Bool)

/-- A call that fails leaves the stored job alone. -/
def step : Event → Option BackupJob
  | .execute =>
    match job.execute with
    | .ok started => some started
    | .error _ => some job
  | .cancel => some job.cancel
  | .retry => some job.retry
  | .serve vm outcome =>
    -- `backup_vms` reads the list as `int`, which fails for the numbers that do not fit
    if vm ∈ job.vms ∧ 0 ≤ vm ∧ vm ∈ job.outdated then some (job.serve vm outcome) else none
  | .backupFinished vm success => some (job.backupFinished vm success)
  | .parse text accepted => some (if accepted then job.accept (splitVms text) else job)

def lifeCycle : System BackupJob Event where
  initial := fun job => ∃ text, job = ({} : BackupJob).accept (splitVms text)
  step := step

end BackupJob

end OpenNebula.Vm
