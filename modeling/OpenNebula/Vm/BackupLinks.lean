import Mathlib.Data.List.Sort
import OpenNebula.Library.Map
import OpenNebula.Vm.BackupJob

namespace OpenNebula.Vm

open Library

/-! # The backup job of a machine

A job lists its machines, and a machine records its job.  Creations, updates and deletions
change both sides, machine by machine.  The list before an update travels in the template, as
`BACKUP_VMS_OLD`, where a creation takes it from the user.
-/

structure BackupJobPool where
  jobs : Map Int BackupJob := ∅
  links : Map Int Int := ∅

namespace BackupJobPool

variable (pool : BackupJobPool)

def difference (left right : List Int) : List Int :=
  ((left.filter (· ∉ right)).dedup).insertionSort fun first second =>
    first % 2 ^ 32 ≤ second % 2 ^ 32

/-- A machine that the job may take: it has no job, or this one, or one that is no more. -/
def Free (bjid current : Int) : Prop := current = -1 ∨ current = bjid ∨ current ∉ pool.jobs

instance (bjid current : Int) : Decidable (pool.Free bjid current) :=
  inferInstanceAs (Decidable (_ ∨ _))

/-- The first loop of `process_backup_vms`: the links, with the error that ends it -/
def addId (bjid : Int) : List Int → Map Int Int → Map Int Int × Option String
  | [], links => (links, none)
  | vmid :: rest, links =>
    match links.lookup vmid with
    | none => addId bjid rest links
    | some current =>
      if pool.Free bjid current then addId bjid rest (links.insert vmid bjid)
      else (links, some ("Unable to add VM " ++ toString (vmid % 2 ^ 32) ++ " to Backup Job " ++
          toString bjid ++ ". It's already in Backup Job " ++ toString current))

def removeId (bjid : Int) (vms : List Int) (links : Map Int Int) : Map Int Int :=
  vms.foldl (fun links vmid =>
    if links.lookup vmid = some bjid then links.insert vmid (-1) else links) links

def processBackupVms (bjid : Int) (new old : List Int) : Map Int Int × Option String :=
  match pool.addId bjid (difference new old) pool.links with
  | (links, some error) => (removeId bjid (difference new old) links, some error)
  | (links, none) => (removeId bjid (difference old new) links, none)

/-- `insert_replace` comes last: it fails with `fault` when the job is no valid XML, or in the database. -/
def allocate (id : Int) (vms old : String) (fault : Option String) : BackupJobPool × Option String :=
  let job := ({} : BackupJob).accept (BackupJob.splitVms vms)
  match pool.processBackupVms id job.vms (BackupJob.splitVms old) with
  | (links, some error) => ({ pool with links }, some error)
  | (links, none) =>
    match fault with
    | some error => ({ pool with links }, some error)
    | none => ({ jobs := pool.jobs.insert id job, links }, none)

/-- That the job is not stored is not told to the user. -/
def updateTemplate (id : Int) (job : BackupJob) (given : Option String) (append stored : Bool) :
    BackupJobPool × Option String :=
  let numbers :=
    match given with
    | some text => BackupJob.splitVms text
    | none => if append then job.vms else []
  let after := job.accept numbers
  match pool.processBackupVms id after.vms job.vms with
  | (links, some error) => ({ pool with links }, some error)
  | (links, none) => ({ jobs := if stored then pool.jobs.insert id after else pool.jobs, links }, none)

def drop (id : Int) (job : BackupJob) (stored : Bool) : BackupJobPool × Option String :=
  let links := removeId id job.vms pool.links
  if stored then ({ jobs := pool.jobs.erase id, links }, none) else ({ pool with links }, some "SQL DB error")

inductive Event where
  | allocate (id : Int) (vms old : String) (fault : Option String)
  | update (id : Int) (given : Option String) (append stored : Bool)
  | drop (id : Int) (stored : Bool)

def call : Event → Option (BackupJobPool × Option String)
  | .allocate id vms old fault =>
    if 0 ≤ id ∧ id ∉ pool.jobs then some (pool.allocate id vms old fault) else none
  | .update id given append stored =>
    (pool.jobs.lookup id).map fun job => pool.updateTemplate id job given append stored
  | .drop id stored => (pool.jobs.lookup id).map fun job => pool.drop id job stored

def lifeCycle : System BackupJobPool Event where
  initial := fun pool => pool.jobs = ∅ ∧ ∀ vm link, pool.links.lookup vm = some link → link = -1
  step := fun pool event => (pool.call event).map Prod.fst

variable {pool} {bjid : Int} {links : Map Int Int}

variable {vm : Int} {error : String} {job : BackupJob}

theorem mem_difference {left right : List Int} : vm ∈ difference left right ↔ vm ∈ left ∧ vm ∉ right := by
  simp [difference, List.mem_insertionSort]

theorem lookup_removeId (vms : List Int) (links : Map Int Int) (vm : Int) : (removeId bjid vms links).lookup vm =
      if vm ∈ vms ∧ links.lookup vm = some bjid then some (-1) else links.lookup vm := by
  induction vms generalizing links with
  | nil => simp [removeId]
  | cons first rest ih =>
    have tail := ih (if links.lookup first = some bjid then links.insert first (-1) else links)
    rw [removeId] at tail
    rw [removeId, List.foldl_cons, tail]
    by_cases linked : links.lookup first = some bjid
    · rw [if_pos linked, Map.lookup_insert_eq]
      by_cases same : vm = first
      · subst same
        simp [linked]
      · simp [same]
    · rw [if_neg linked]
      by_cases same : vm = first
      · subst same
        simp [linked]
      · simp [same]

theorem addId_none {vms : List Int} {after : Map Int Int} (nodup : vms.Nodup)
    (added : pool.addId bjid vms links = (after, none)) :
    (∀ vm ∈ vms, ∀ current, links.lookup vm = some current → pool.Free bjid current) ∧ ∀ vm, after.lookup vm =
        if vm ∈ vms then (links.lookup vm).map fun _ => bjid else links.lookup vm := by
  induction vms generalizing links with
  | nil =>
    cases added
    simp
  | cons first rest ih =>
    obtain ⟨notLater, nodupRest⟩ := List.nodup_cons.1 nodup
    rw [addId] at added
    cases found : links.lookup first with
    | none =>
      simp only [found] at added
      obtain ⟨free, linked⟩ := ih nodupRest added
      refine ⟨fun vm member current isCurrent => ?_, fun vm => ?_⟩
      · rcases List.mem_cons.1 member with rfl | later
        · rw [found] at isCurrent
          contradiction
        · exact free vm later current isCurrent
      · rw [linked vm]
        by_cases same : vm = first
        · subst same
          simp [found]
        · simp [same]
    | some held =>
      simp only [found] at added
      split at added
      · rename_i isFree
        obtain ⟨free, linked⟩ := ih nodupRest added
        have other : ∀ vm ∈ rest, (links.insert first bjid).lookup vm = links.lookup vm := by
          intro vm later
          rw [Map.lookup_insert_eq, if_neg fun same : vm = first => notLater (same ▸ later)]
        refine ⟨fun vm member current isCurrent => ?_, fun vm => ?_⟩
        · rcases List.mem_cons.1 member with rfl | later
          · cases Option.some.inj (found.symm.trans isCurrent)
            exact isFree
          · exact free vm later current ((other vm later).trans isCurrent)
        · rw [linked vm]
          by_cases same : vm = first
          · subst same
            simp [found, notLater]
          · simp [same]
      · simp at added

theorem addId_some {vms : List Int} {after : Map Int Int} (added : pool.addId bjid vms links = (after, some error)) :
    (∃ vm ∈ vms, ∃ current, links.lookup vm = some current ∧ ¬pool.Free bjid current) ∧
      ∀ vm, after.lookup vm = links.lookup vm ∨ (vm ∈ vms ∧ after.lookup vm = some bjid ∧
          ∃ current, links.lookup vm = some current ∧ pool.Free bjid current) := by
  induction vms generalizing links with
  | nil => cases added
  | cons first rest ih =>
    rw [addId] at added
    cases found : links.lookup first with
    | none =>
      simp only [found] at added
      obtain ⟨⟨vm, member, taken⟩, kept⟩ := ih added
      refine ⟨⟨vm, List.mem_cons_of_mem _ member, taken⟩, fun other => ?_⟩
      exact (kept other).imp id fun changed => ⟨List.mem_cons_of_mem _ changed.1, changed.2⟩
    | some held =>
      simp only [found] at added
      split at added
      · rename_i isFree
        obtain ⟨⟨vm, member, current, isCurrent, taken⟩, kept⟩ := ih added
        have moved : ∀ other, (links.insert first bjid).lookup other =
            if other = first then some bjid else links.lookup other :=
          fun other => Map.lookup_insert_eq first other bjid links
        refine ⟨?_, fun other => ?_⟩
        · rw [moved] at isCurrent
          split at isCurrent
          · cases isCurrent
            exact absurd (.inr (.inl rfl)) taken
          · exact ⟨vm, List.mem_cons_of_mem _ member, current, isCurrent, taken⟩
        · by_cases same : other = first
          · subst same
            refine .inr ⟨List.mem_cons_self, ?_, held, found, isFree⟩
            rcases kept other with unchanged | changed
            · rw [unchanged, moved, if_pos rfl]
            · exact changed.2.1
          · rcases kept other with unchanged | changed
            · rw [moved, if_neg same] at unchanged
              exact .inl unchanged
            · rw [moved, if_neg same] at changed
              exact .inr ⟨List.mem_cons_of_mem _ changed.1, changed.2⟩
      · rename_i taken
        cases added
        exact ⟨⟨first, List.mem_cons_self, held, found, taken⟩, fun other => .inl rfl⟩

def Lists (pool : BackupJobPool) (id vm : Int) : Prop :=
  ∃ job, pool.jobs.lookup id = some job ∧ vm ∈ job.listed

structure Linked (pool : BackupJobPool) : Prop where
  ids : ∀ id ∈ pool.jobs, 0 ≤ id
  held : ∀ vm link, pool.links.lookup vm = some link → link = -1 ∨ 0 ≤ link
  agree : ∀ vm link, pool.links.lookup vm = some link →
    ∀ id, 0 ≤ id → (link = id ↔ pool.Lists id vm)

theorem Linked.congr {other : BackupJobPool} (linked : pool.Linked) (sameJobs : other.jobs = pool.jobs)
    (sameLinks : ∀ vm, other.links.lookup vm = pool.links.lookup vm) : other.Linked := by
  refine ⟨?_, ?_, ?_⟩
  · rw [sameJobs]
    exact linked.ids
  · intro vm link
    rw [sameLinks]
    exact linked.held vm link
  · intro vm link
    rw [sameLinks]
    simp only [Lists, sameJobs]
    exact linked.agree vm link

theorem Linked.none_of_free (linked : pool.Linked) {current : Int}
    (isCurrent : pool.links.lookup vm = some current) (free : pool.Free bjid current) (apart : current ≠ bjid) :
    current = -1 := by
  rcases linked.held vm current isCurrent with unset | isId
  · exact unset
  · rcases free with unset | same | gone
    · exact unset
    · exact absurd same apart
    · obtain ⟨job, found, -⟩ := (linked.agree vm current isCurrent current isId).1 rfl
      exact absurd (AList.lookup_isSome.1 (by rw [found]; rfl)) gone

theorem processBackupVms_some (linked : pool.Linked) {new old : List Int}
    (apart : ∀ vm ∈ new, vm ∉ old → pool.links.lookup vm ≠ some bjid)
    (refused : pool.processBackupVms bjid new old = (links, some error)) (vm : Int) :
    links.lookup vm = pool.links.lookup vm := by
  rw [processBackupVms] at refused
  cases added : pool.addId bjid (difference new old) pool.links with
  | mk middle answer =>
    rw [added] at refused
    cases answer with
    | none => simp at refused
    | some error =>
      cases refused
      rw [lookup_removeId]
      rcases (addId_some added).2 vm with unchanged | ⟨member, changed, current, isCurrent, free⟩
      · rw [unchanged]
        split
        · rename_i reverted
          obtain ⟨isNew, notOld⟩ := mem_difference.1 reverted.1
          exact absurd reverted.2 (apart vm isNew notOld)
        · rfl
      · obtain ⟨isNew, notOld⟩ := mem_difference.1 member
        have notOwn : current ≠ bjid := by
          intro same
          exact apart vm isNew notOld (same ▸ isCurrent)
        rw [if_pos ⟨member, changed⟩, isCurrent, linked.none_of_free isCurrent free notOwn]

theorem processBackupVms_none {new old : List Int} (accepted : pool.processBackupVms bjid new old = (links, none)) :
    (∀ vm ∈ new, vm ∉ old → ∀ current, pool.links.lookup vm = some current → pool.Free bjid current) ∧
    ∀ vm, links.lookup vm = if vm ∈ new ∧ vm ∉ old then (pool.links.lookup vm).map fun _ => bjid
      else if vm ∈ old ∧ vm ∉ new ∧ pool.links.lookup vm = some bjid then some (-1)
      else pool.links.lookup vm := by
  rw [processBackupVms] at accepted
  cases added : pool.addId bjid (difference new old) pool.links with
  | mk middle answer =>
    rw [added] at accepted
    cases answer with
    | some error => simp at accepted
    | none =>
      cases accepted
      have nodup : (difference new old).Nodup := (List.perm_insertionSort _ _).nodup_iff.2 (List.nodup_dedup _)
      obtain ⟨free, isLinked⟩ := addId_none nodup added
      refine ⟨fun vm isNew notOld => free vm (mem_difference.2 ⟨isNew, notOld⟩), fun vm => ?_⟩
      rw [lookup_removeId, isLinked]
      simp only [mem_difference]
      by_cases isNew : vm ∈ new
      · simp [isNew]
      · simp [isNew]

/-- The job's row is written, and when a creation is accepted no machine that it lists is taken for an
old one. -/
def KeepsLinks (pool : BackupJobPool) : Event → Prop
  | .allocate id vms old fault =>
    fault = none ∧
      ((∀ vm ∈ BackupJob.splitVms vms, vm ∉ BackupJob.splitVms old →
          ∀ current ∈ pool.links.lookup vm, pool.Free id current) →
        ∀ vm ∈ BackupJob.splitVms vms, vm ∈ BackupJob.splitVms old → vm ∉ pool.links)
  | .update _ _ _ stored | .drop _ stored => stored = true

theorem mem_destutter_ne {first : Int} {rest : List Int} :
    vm ∈ rest.destutter' (· ≠ ·) first ↔ vm = first ∨ vm ∈ rest := by
  induction rest generalizing first with
  | nil => simp
  | cons second rest ih =>
    by_cases same : first = second
    · subst same
      rw [List.destutter'_cons_neg _ (by simp), ih, List.mem_cons, ← or_assoc, or_self]
    · rw [List.destutter'_cons_pos _ same, List.mem_cons, ih, List.mem_cons]

theorem mem_uniqueVms {vms : List Int} : vm ∈ BackupJob.uniqueVms vms ↔ vm ∈ vms := by
  cases vms with
  | nil => simp [BackupJob.uniqueVms]
  | cons first rest =>
    rw [BackupJob.uniqueVms, List.destutter_cons', mem_destutter_ne, List.mem_cons]

variable {after : BackupJobPool} {answer : Option String} {id : Int} {vms old : String}

theorem Linked.fresh (linked : pool.Linked) (isId : 0 ≤ id) (fresh : id ∉ pool.jobs) (vm : Int) :
    pool.links.lookup vm ≠ some id := by
  intro isLinked
  obtain ⟨job, found, -⟩ := (linked.agree vm id isLinked id isId).1 rfl
  exact fresh (AList.lookup_isSome.1 (by rw [found]; rfl))

theorem Linked.relink (linked : pool.Linked) (isId : 0 ≤ id) (listed : Int → Prop)
    (ids : ∀ other ∈ after.jobs, 0 ≤ other) (lists : ∀ other vm, after.Lists other vm ↔
      if other = id then listed vm else pool.Lists other vm)
    (links : ∀ vm link, after.links.lookup vm = some link → ∃ current, pool.links.lookup vm = some current ∧
        ((listed vm ∧ link = id ∧ (current = id ∨ current = -1)) ∨
          (¬listed vm ∧ link = if current = id then -1 else current))) : after.Linked := by
  refine ⟨ids, fun vm link isLink => ?_, fun vm link isLink other isOther => ?_⟩
  · obtain ⟨current, isCurrent, ⟨-, rfl, -⟩ | ⟨-, rfl⟩⟩ := links vm link isLink
    · exact .inr isId
    · split
      · exact .inl rfl
      · exact linked.held vm current isCurrent
  · obtain ⟨current, isCurrent, change⟩ := links vm link isLink
    have before := linked.agree vm current isCurrent other isOther
    rw [lists]
    rcases change with ⟨taken, rfl, wasFree⟩ | ⟨left, rfl⟩
    · split
      · rename_i same
        exact ⟨fun _ => taken, fun _ => same.symm⟩
      · rename_i apart
        rw [← before]
        constructor <;> intro same <;> omega
    · by_cases same : other = id
      · subst same
        rw [if_pos rfl]
        refine ⟨fun linked => ?_, fun taken => absurd taken left⟩
        split at linked <;> omega
      · rw [if_neg same, ← before]
        split <;> constructor <;> intro linked <;> omega

theorem lists_insert {links : Map Int Int} (other vm : Int) :
    (BackupJobPool.mk (pool.jobs.insert id job) links).Lists other vm ↔
      if other = id then vm ∈ job.vms else pool.Lists other vm := by
  simp only [Lists, Map.lookup_insert_eq]
  split
  · simp [BackupJob.listed]
  · rfl

section

variable (linked : pool.Linked)
include linked

theorem Linked.ids_insert (isId : 0 ≤ id) : ∀ other ∈ pool.jobs.insert id job, 0 ≤ other := by
  intro other member
  rcases AList.mem_insert _ |>.mp member with rfl | inside
  · exact isId
  · exact linked.ids other inside

theorem Linked.accepted (isId : 0 ≤ id) {listedBefore : List Int} {links : Map Int Int}
    (before : ∀ vm ∈ pool.links, vm ∈ job.vms → vm ∈ listedBefore → pool.links.lookup vm = some id)
    (others : ∀ vm, vm ∉ listedBefore → pool.links.lookup vm ≠ some id)
    (accepted : pool.processBackupVms id job.vms listedBefore = (links, none)) :
    (BackupJobPool.mk (pool.jobs.insert id job) links).Linked := by
  obtain ⟨free, isLinked⟩ := processBackupVms_none accepted
  refine linked.relink isId (· ∈ job.vms) (linked.ids_insert isId) lists_insert ?_
  intro vm link isLink
  change links.lookup vm = some link at isLink
  rw [isLinked] at isLink
  by_cases isNew : vm ∈ job.vms
  · by_cases wasOld : vm ∈ listedBefore
    · rw [if_neg (fun added => added.2 wasOld), if_neg (fun removed => removed.2.1 isNew)] at isLink
      have own := before vm (AList.lookup_isSome.1 (by rw [isLink]; rfl)) isNew wasOld
      have same := Option.some.inj (isLink.symm.trans own)
      exact ⟨link, isLink, .inl ⟨isNew, same, .inl same⟩⟩
    · rw [if_pos ⟨isNew, wasOld⟩] at isLink
      obtain ⟨current, isCurrent, rfl⟩ := Option.map_eq_some_iff.1 isLink
      have notOwn : current ≠ id := fun same => others vm wasOld (same ▸ isCurrent)
      exact ⟨current, isCurrent, .inl ⟨isNew, rfl,
        .inr (linked.none_of_free isCurrent (free vm isNew wasOld current isCurrent) notOwn)⟩⟩
  · rw [if_neg (fun added => isNew added.1)] at isLink
    split at isLink
    · rename_i removed
      cases isLink
      exact ⟨id, removed.2.2, .inr ⟨isNew, (if_pos rfl).symm⟩⟩
    · rename_i kept
      refine ⟨link, isLink, .inr ⟨isNew, ?_⟩⟩
      rw [if_neg]
      intro same
      subst same
      by_cases wasOld : vm ∈ listedBefore
      · exact kept ⟨wasOld, isNew, isLink⟩
      · exact others vm wasOld isLink

theorem Linked.allocate (isId : 0 ≤ id) (fresh : id ∉ pool.jobs)
    {fault : Option String} (keeps : pool.KeepsLinks (.allocate id vms old fault)) :
    (pool.allocate id vms old fault).1.Linked := by
  have apart := linked.fresh isId fresh
  obtain ⟨rfl, keeps⟩ := keeps
  rw [BackupJobPool.allocate]
  cases processed : pool.processBackupVms id
      (({} : BackupJob).accept (BackupJob.splitVms vms)).vms (BackupJob.splitVms old) with
  | mk links answer =>
    cases answer with
    | some error =>
      exact linked.congr rfl (processBackupVms_some linked (fun vm _ _ => apart vm) processed)
    | none =>
      refine linked.accepted isId (fun vm isVm isNew wasOld => ?_) (fun vm _ => apart vm)
        processed
      have free := (processBackupVms_none processed).1
      refine absurd isVm (keeps (fun vm isNew notOld current isCurrent => ?_) vm (mem_uniqueVms.1 isNew) wasOld)
      exact free vm (mem_uniqueVms.2 isNew) notOld current isCurrent

theorem Linked.updateTemplate (found : pool.jobs.lookup id = some job)
    (given : Option String) (append : Bool) : (pool.updateTemplate id job given append true).1.Linked := by
  have isId := linked.ids id (AList.lookup_isSome.1 (by rw [found]; rfl))
  have own : ∀ vm link, pool.links.lookup vm = some link → (link = id ↔ vm ∈ job.vms) := by
    intro vm link isLink
    rw [linked.agree vm link isLink id isId, Lists]
    simp [found, BackupJob.listed]
  have others : ∀ vm, vm ∉ job.vms → pool.links.lookup vm ≠ some id :=
    fun vm notListed isLink => notListed ((own vm id isLink).1 rfl)
  simp only [BackupJobPool.updateTemplate]
  split
  · rename_i refused
    exact linked.congr rfl (processBackupVms_some linked (fun vm _ => others vm) refused)
  · rename_i accepted
    refine linked.accepted isId (fun vm isVm _ wasOld => ?_) others accepted
    obtain ⟨link, isLink⟩ := Option.isSome_iff_exists.1 (AList.lookup_isSome.2 isVm)
    rw [isLink, (own vm link isLink).2 wasOld]

theorem Linked.drop (found : pool.jobs.lookup id = some job) : (pool.drop id job true).1.Linked := by
  have isId := linked.ids id (AList.lookup_isSome.1 (by rw [found]; rfl))
  refine linked.relink isId (fun _ => False) ?_ ?_ ?_
  · intro other member
    exact linked.ids other (AList.mem_erase.1 member).2
  · intro other vm
    simp only [Lists, BackupJobPool.drop, if_true, Map.lookup_erase_eq]
    split <;> simp
  · intro vm link isLink
    simp only [BackupJobPool.drop, if_true, lookup_removeId] at isLink
    split at isLink
    · rename_i removed
      cases isLink
      exact ⟨id, removed.2, .inr ⟨not_false, (if_pos rfl).symm⟩⟩
    · rename_i kept
      refine ⟨link, isLink, .inr ⟨not_false, ?_⟩⟩
      rw [if_neg]
      intro same
      subst same
      refine kept ⟨?_, isLink⟩
      obtain ⟨stored, isStored, inList⟩ := (linked.agree vm link isLink link isId).1 rfl
      cases Option.some.inj (found.symm.trans isStored)
      simpa [BackupJob.listed] using inList

end

theorem reachable_linked (reached : lifeCycle.Reachable KeepsLinks pool) : pool.Linked := by
  refine reached.invariant ?_ ?_
  · intro start isInitial
    refine ⟨?_, ?_, ?_⟩
    · intro id member
      rw [isInitial.1] at member
      exact absurd member (AList.notMem_empty id)
    · intro vm link isLink
      exact .inl (isInitial.2 vm link isLink)
    · intro vm link isLink id isId
      have unset := isInitial.2 vm link isLink
      have noJob : ¬start.Lists id vm := by
        simp [Lists, isInitial.1]
      constructor
      · intro same
        omega
      · intro isListed
        exact absurd isListed noJob
  · intro before event after linked keeps stepped
    obtain ⟨⟨next, answer⟩, called, rfl⟩ := Option.map_eq_some_iff.1 stepped
    cases event with
    | allocate id vms old fault =>
      simp only [call] at called
      split at called
      · rename_i accepts
        have same := Option.some.inj called
        have kept := linked.allocate accepts.1 accepts.2 keeps
        rw [same] at kept
        exact kept
      · contradiction
    | update id given append stored =>
      obtain ⟨job, found, same⟩ := Option.map_eq_some_iff.1 called
      obtain rfl : stored = true := keeps
      have kept := linked.updateTemplate found given append
      rw [same] at kept
      exact kept
    | drop id stored =>
      obtain ⟨job, found, same⟩ := Option.map_eq_some_iff.1 called
      obtain rfl : stored = true := keeps
      have kept := linked.drop found
      rw [same] at kept
      exact kept

theorem Linked.refused (linked : pool.Linked) {event : Event} (keeps : pool.KeepsLinks event)
    (called : pool.call event = some (after, some error)) (vm : Int) :
    after.links.lookup vm = pool.links.lookup vm := by
  cases event with
  | allocate id vms old fault =>
    obtain ⟨rfl, -⟩ := keeps
    simp only [call] at called
    split at called
    · rename_i accepts
      simp only [BackupJobPool.allocate, Option.some.injEq] at called
      split at called
      · rename_i refused
        cases called
        exact processBackupVms_some linked
          (fun other _ _ => linked.fresh accepts.1 accepts.2 other) refused vm
      · simp at called
    · contradiction
  | update id given append stored =>
    obtain ⟨job, found, same⟩ := Option.map_eq_some_iff.1 called
    simp only [BackupJobPool.updateTemplate] at same
    split at same
    · rename_i refused
      cases same
      refine processBackupVms_some linked (fun other _ notListed isLink => ?_) refused vm
      have isId := linked.ids id (AList.lookup_isSome.1 (by rw [found]; rfl))
      obtain ⟨stored, isStored, inList⟩ := (linked.agree other id isLink id isId).1 rfl
      cases Option.some.inj (found.symm.trans isStored)
      exact notListed (by simpa [BackupJob.listed] using inList)
    · simp at same
  | drop id stored =>
    obtain ⟨job, found, same⟩ := Option.map_eq_some_iff.1 called
    obtain rfl : stored = true := keeps
    simp [BackupJobPool.drop] at same

/-- While every job is stored and no creation takes a machine that it lists for an old one, a machine
records a job exactly when the job exists and lists it, and a call that is refused changes no link. -/
theorem backup_job_links (reached : lifeCycle.Reachable KeepsLinks pool) :
    (∀ vm link, pool.links.lookup vm = some link → ∀ id, 0 ≤ id →
        (link = id ↔ ∃ job, pool.jobs.lookup id = some job ∧ vm ∈ job.listed)) ∧
    ∀ event after error, pool.KeepsLinks event → pool.call event = some (after, some error) →
      ∀ vm, after.links.lookup vm = pool.links.lookup vm :=
  ⟨(reachable_linked reached).agree, fun _ _ _ keeps called => (reachable_linked reached).refused keeps called⟩

instance decidableKeepsLinks (pool : BackupJobPool) (event : Event) : Decidable (pool.KeepsLinks event) := by
  unfold KeepsLinks
  split <;> infer_instance

def machines : BackupJobPool :=
  { links := ((∅ : Map Int Int).insert 1 (-1)).insert 2 (-1) |>.insert 3 (-1) }

theorem machines_initial : lifeCycle.initial machines := by
  refine ⟨rfl, fun vm link isLink => ?_⟩
  simp only [machines, Map.lookup_insert_eq] at isLink
  split at isLink
  · cases isLink
    rfl
  · split at isLink
    · cases isLink
      rfl
    · split at isLink
      · cases isLink
        rfl
      · simp at isLink

/-- The second creation is refused, and the machine that it had taken is given back. -/
theorem backup_job_links_run : ∃ pool : BackupJobPool, lifeCycle.Reachable KeepsLinks pool ∧
      pool.links.lookup 1 = some 0 ∧ pool.links.lookup 2 = some (-1) ∧ (∀ vm link, pool.links.lookup vm = some link →
        ∀ id, 0 ≤ id → (link = id ↔ ∃ job, pool.jobs.lookup id = some job ∧ vm ∈ job.listed)) := by
  have ran : (lifeCycle.exec KeepsLinks machines
      [.allocate 0 "3,1" "" none, .allocate 1 "2,3" "" none, .update 0 (some "1") false true]).map
        (fun pool => (pool.links.lookup 1, pool.links.lookup 2)) = some (some 0, some (-1)) := by
    decide
  obtain ⟨pool, isRun, same⟩ := Option.map_eq_some_iff.mp ran
  have reached := System.reachable_of_exec machines_initial isRun
  simp only [Prod.mk.injEq] at same
  exact ⟨pool, reached, same.1, same.2, (backup_job_links reached).1⟩

/-- A creation with the machine in both `BACKUP_VMS` and `BACKUP_VMS_OLD`; and one that fails when the
machine is linked already. -/
theorem backup_job_links_old : (¬∀ pool : BackupJobPool, lifeCycle.Reachable System.anyStep pool →
      ∀ vm link, pool.links.lookup vm = some link → ∀ id, 0 ≤ id →
          (link = id ↔ ∃ job, pool.jobs.lookup id = some job ∧ vm ∈ job.listed)) ∧
    ¬∀ pool event after error, lifeCycle.Reachable System.anyStep pool → pool.call event = some (after, some error) →
      ∀ vm, after.links.lookup vm = pool.links.lookup vm := by
  constructor
  · intro always
    have ran : (lifeCycle.exec System.anyStep machines [.allocate 0 "1" "1" none]).map
        (fun pool => (pool.links.lookup 1, (pool.jobs.lookup 0).map BackupJob.listed)) =
          some (some (-1), some {1}) := by
      decide
    obtain ⟨pool, isRun, same⟩ := Option.map_eq_some_iff.mp ran
    simp only [Prod.mk.injEq] at same
    obtain ⟨isLink, isListed⟩ := same
    obtain ⟨job, found, sameList⟩ := Option.map_eq_some_iff.mp isListed
    have agree := always pool (System.reachable_of_exec machines_initial isRun) 1 (-1) isLink 0
      (by decide)
    have linked := agree.mpr ⟨job, found, by rw [sameList]; simp⟩
    exact absurd linked (by decide)
  · intro always
    have unchanged := always machines (.allocate 0 "1" "" (some "Error transforming the Backup Job to XML.")) _ _
      ⟨machines, machines_initial, .refl⟩ rfl 1
    exact absurd unchanged (by decide)

end BackupJobPool

end OpenNebula.Vm
