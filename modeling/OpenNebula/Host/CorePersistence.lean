import OpenNebula.Common.VectorAttribute
import OpenNebula.Host.NumaRelease

namespace OpenNebula.Host

open Library Common

/-! # Cores in the database (`HostShareNode::Core`)

A core is stored as the list of its threads, with one entry for each VM of a thread.  A thread
without a VM has -1 in its place, and a reserved one has -2, whatever VMs it has.
-/

/-- `std::replace`, `>> cpu_id` and `>> vm_id`: a thread with the number of a VM, -1 when there is
none -/
def readThread (text : String) : Option (Nat × Int) :=
  if text = "" then none
  else
    let blanked := text.toList.map fun char => if char = ':' then ' ' else char
    let (cpuId, stream) := (Stream.mk blanked false).readUnsigned 10 0
    if stream.failed then none else some (cpuId, (extracted .int (String.ofList stream.rest)).getD (-1))

/-- `cpus[cpu_id]`, with a VM or without; the map is kept in the order of the ids. -/
def insertCpu (cpuId : Nat) (vms : List Nat) : List Cpu → List Cpu
  | [] => [⟨cpuId, vms⟩]
  | cpu :: rest =>
    if cpuId < cpu.id then ⟨cpuId, vms⟩ :: cpu :: rest
    else if cpuId = cpu.id then { cpu with vms := vms ++ cpu.vms } :: rest
    else cpu :: insertCpu cpuId vms rest

namespace Core

def addThread (core : Core) (thread : Nat × Int) : Core :=
  if 0 ≤ thread.2 then { core with cpus := insertCpu thread.1 [thread.2.toNat] core.cpus }
  else if thread.2 = -2 then
    { core with
      cpus := insertCpu thread.1 [] core.cpus
      reservedCpus := insert thread.1 core.reservedCpus }
  else { core with cpus := insertCpu thread.1 [] core.cpus }

/-- The constructor -/
def ofText (id : Nat) (text : String) (vmsThread : Nat) (dedicated : Bool) : Core :=
  setCpuUsage <|
    ((pieces ',' text).filterMap readThread).foldl addThread
      { id, freeCpus := 0, usedCpus := 0, vmsThread, dedicated, cpus := [], reservedCpus := ∅ }

variable (core : Core)

/-- What is written for a thread; the VMs are in the order of the multiset. -/
def vmIds (cpu : Cpu) : List Int :=
  if cpu.id ∈ core.reservedCpus then [-2]
  else if cpu.vms = [] then [-1]
  else (cpu.vms.insertionSort (· ≤ ·)).map Int.ofNat

def threads : List (Nat × Int) := core.cpus.flatMap fun cpu => (core.vmIds cpu).map (cpu.id, ·)

def threadText (thread : Nat × Int) : String := s!"{thread.1}:{thread.2}"

def toAttribute : VectorAttribute :=
  ((((∅ : VectorAttribute).replace "ID" (toString core.id)).replace "CPUS"
    (",".intercalate (core.threads.map threadText))).replace "FREE" (toString core.freeCpus)).replace
    "DEDICATED" (if core.dedicated then "YES" else "NO")

def ofAttribute (vmsThread : Nat) (attr : VectorAttribute) : Core :=
  ofText ((attr.unsignedValue "ID").getD 0) (attr.vectorValue "CPUS") vmsThread
    ((attr.vectorValue "DEDICATED").toUpper = "YES")

def assignments : List (Nat × Multiset Nat) := core.cpus.map fun cpu => (cpu.id, ↑cpu.vms)

/-- The core that is built from its attribute is the same, and so are its counters. -/
def Persists : Prop :=
  let again := ofAttribute core.vmsThread core.toAttribute
  again.assignments = core.assignments ∧ again.dedicated = core.dedicated ∧
    again.freeCpus = core.freeCpus ∧ again.usedCpus = core.usedCpus

end Core

theorem toDigits_apart {separator : Char} (notDigit : separator.isDigit = false) (number : Nat) :
    separator ∉ Nat.toDigits 10 number := by
  intro member
  have isDigit : separator.isDigit = true := Nat.isDigit_of_mem_toDigits (by decide) (by decide) member
  rw [notDigit] at isDigit
  cases isDigit

theorem toString_apart {separator : Char} (notDigit : separator.isDigit = false) (notMinus : separator ≠ '-')
    (value : Int) : separator ∉ (toString value).toList := by
  rw [toString_toList_int]
  split
  · rw [List.mem_cons, not_or]
    exact ⟨notMinus, toDigits_apart notDigit _⟩
  · exact toDigits_apart notDigit _

theorem threadText_toList (thread : Nat × Int) :
    (Core.threadText thread).toList = Nat.toDigits 10 thread.1 ++ ':' :: (toString thread.2).toList := by
  have chars : (Core.threadText thread).toList =
      ((toString thread.1).toList ++ ":".toList) ++ (toString thread.2).toList := by
    rw [Core.threadText]
    simp only [String.toList_append]
    rfl
  rw [chars, show (toString thread.1).toList = Nat.toDigits 10 thread.1 from Nat.toList_repr, List.append_assoc]
  rfl

theorem readThread_threadText {thread : Nat × Int} (cpuFits : thread.1 < 2 ^ 32) (low : -2 ^ 31 ≤ thread.2)
    (high : thread.2 < 2 ^ 31) : readThread (Core.threadText thread) = some thread := by
  have kept : ∀ chars : List Char, ':' ∉ chars →
      chars.map (fun char => if char = ':' then ' ' else char) = chars := by
    intro chars apart
    refine (List.map_congr_left fun char member => if_neg ?_).trans (List.map_id _)
    rintro rfl
    exact apart member
  have blanked : (Core.threadText thread).toList.map (fun char => if char = ':' then ' ' else char) =
      [] ++ (Nat.toDigits 10 thread.1 ++ ' ' :: (toString thread.2).toList) := by
    rw [threadText_toList, List.map_append, List.map_cons, kept _ (toDigits_apart (by decide) _),
      kept _ (toString_apart (by decide) (by decide) _), List.nil_append]
    rfl
  have filled : Core.threadText thread ≠ "" := by
    intro empty
    have chars := threadText_toList thread
    rw [empty] at chars
    exact absurd chars.symm (by simp)
  have readId := @Stream.readUnsigned_spelled 10 _ [] _ (' ' :: (toString thread.2).toList)
    (spells_toDigits thread.1) cpuFits (by simp) (by simp) 0
  rw [readThread, if_neg filled, blanked]
  simp only [readId, Bool.false_eq_true, if_false, extracted_blank, String.ofList_toList,
    extracted_toString low high, Option.getD_some]

theorem readThread_fits {text : String} {thread : Nat × Int} (isRead : readThread text = some thread) :
    thread.1 < 2 ^ 32 ∧ thread.2 < 2 ^ 31 := by
  rw [readThread] at isRead
  split at isRead
  · cases isRead
  · simp only at isRead
    split at isRead
    · cases isRead
    · obtain rfl := Option.some.inj isRead
      constructor
      · exact Stream.readUnsigned_lt (Nat.two_pow_pos 32) _ _
      · cases isVm : extracted .int _ with
        | none => exact show (-1 : Int) < 2 ^ 31 by decide
        | some value => exact extracted_lt isVm

theorem insertCpu_append {cpuId : Nat} {done : List Cpu} (smaller : ∀ cpu ∈ done, cpu.id < cpuId) (vms : List Nat)
    (rest : List Cpu) : insertCpu cpuId vms (done ++ rest) = done ++ insertCpu cpuId vms rest := by
  induction done with
  | nil => rfl
  | cons cpu done ih =>
    obtain ⟨isSmaller, others⟩ := List.forall_mem_cons.1 smaller
    rw [List.cons_append, insertCpu, if_neg (by omega), if_neg (by omega), ih others]
    rfl

namespace Core

def Unmixed (core : Core) : Prop := ∀ cpu ∈ core.cpus, cpu.id ∈ core.reservedCpus → cpu.vms = []

instance (core : Core) : Decidable core.Unmixed := inferInstanceAs (Decidable (∀ cpu ∈ core.cpus, _))

/-- The threads are in order, and their numbers can be read. -/
structure Readable (core : Core) : Prop where
  sorted : (core.cpus.map Cpu.id).Pairwise (· < ·)
  fits : ∀ cpu ∈ core.cpus, cpu.id < 2 ^ 32 ∧ ∀ vm ∈ cpu.vms, vm < 2 ^ 31
  known : ∀ id ∈ core.reservedCpus, id ∈ core.cpus.map Cpu.id

structure Stored (core : Core) : Prop extends core.Readable where
  unmixed : core.Unmixed
  counted : core.Counted

variable {core base : Core}

theorem Stored.reads (stored : core.Stored) {text : String}
    (isText : text = ",".intercalate (core.threads.map threadText)) :
    (pieces ',' text).filterMap readThread = core.threads := by
  have plain : ∀ piece ∈ core.threads.map threadText, piece ≠ "" ∧ ',' ∉ piece.toList := by
    intro piece member
    obtain ⟨thread, -, rfl⟩ := List.mem_map.1 member
    refine ⟨fun empty => ?_, ?_⟩
    · have chars := threadText_toList thread
      rw [empty] at chars
      exact absurd chars.symm (by simp)
    · rw [threadText_toList, List.mem_append, List.mem_cons, not_or, not_or]
      exact ⟨toDigits_apart (by decide) _, by decide, toString_apart (by decide) (by decide) _⟩
  have isJoined : text.toList = [','].intercalate ((core.threads.map threadText).map String.toList) := by
    rw [isText, String.toList_intercalate]
    rfl
  rw [pieces_intercalate plain isJoined, List.filterMap_map]
  refine (List.filterMap_congr fun thread member => ?_).trans List.filterMap_some
  obtain ⟨cpu, isCpu, member⟩ := List.mem_flatMap.1 member
  obtain ⟨vmId, isVm, rfl⟩ := List.mem_map.1 member
  obtain ⟨cpuFits, vmsFit⟩ := stored.fits cpu isCpu
  have bounds : -2 ^ 31 ≤ vmId ∧ vmId < 2 ^ 31 := by
    simp only [vmIds] at isVm
    split at isVm
    · rw [List.mem_singleton.1 isVm]
      decide
    · split at isVm
      · rw [List.mem_singleton.1 isVm]
        decide
      · obtain ⟨vm, inVms, rfl⟩ := List.mem_map.1 isVm
        have fits := vmsFit vm ((List.mem_insertionSort _).1 inVms)
        constructor
        · exact le_trans (by decide) (Int.natCast_nonneg vm)
        · exact Int.ofNat_lt.2 fits
  exact readThread_threadText cpuFits bounds.1 bounds.2

theorem addThread_vm (base : Core) (cpuId vm : Nat) :
    addThread base (cpuId, Int.ofNat vm) = { base with cpus := insertCpu cpuId [vm] base.cpus } :=
  if_pos (Int.natCast_nonneg vm)

variable {cpuId : Nat} {cpu : Cpu} {vms : List Nat} {cpus : List Cpu}

theorem foldl_addThread_vms {done : List Cpu} (smaller : ∀ cpu ∈ done, cpu.id < cpuId) (vms held : List Nat)
    (isBase : base.cpus = done ++ [⟨cpuId, held⟩]) : ((vms.map Int.ofNat).map (cpuId, ·)).foldl addThread base =
      { base with cpus := done ++ [⟨cpuId, vms.reverse ++ held⟩] } := by
  induction vms generalizing base held with
  | nil =>
    cases base
    simp_all
  | cons vm rest ih =>
    have added : addThread base (cpuId, Int.ofNat vm) = { base with cpus := done ++ [⟨cpuId, vm :: held⟩] } := by
      rw [addThread_vm, isBase, insertCpu_append smaller, insertCpu, if_neg (Nat.lt_irrefl _), if_pos rfl]
      rfl
    rw [List.map_cons, List.map_cons, List.foldl_cons, added, ih (vm :: held) rfl, List.reverse_cons,
      List.append_assoc]
    rfl

def readBack (core : Core) (cpu : Cpu) : Cpu :=
  { cpu with vms := if cpu.id ∈ core.reservedCpus then [] else (cpu.vms.insertionSort (· ≤ ·)).reverse }

theorem foldl_addThread_cpu {done : List Cpu} (smaller : ∀ other ∈ done, other.id < cpu.id)
    (isBase : base.cpus = done) : ((core.vmIds cpu).map (cpu.id, ·)).foldl addThread base = { base with
        cpus := done ++ [core.readBack cpu]
        reservedCpus := if cpu.id ∈ core.reservedCpus then insert cpu.id base.reservedCpus else base.reservedCpus } := by
  have inserted : ∀ vms, insertCpu cpu.id vms base.cpus = done ++ [⟨cpu.id, vms⟩] := by
    intro vms
    rw [isBase, ← List.append_nil done, insertCpu_append smaller, List.append_nil]
    rfl
  rw [vmIds, readBack]
  by_cases isReserved : cpu.id ∈ core.reservedCpus
  · simp [isReserved, addThread, inserted]
  · simp only [isReserved, if_false]
    by_cases isFree : cpu.vms = []
    · simp [isFree, addThread, inserted]
    · rw [if_neg isFree]
      have filled : cpu.vms.insertionSort (· ≤ ·) ≠ [] := fun none =>
        isFree ((none ▸ List.perm_insertionSort (· ≤ ·) cpu.vms).symm.eq_nil)
      obtain ⟨first, rest, isSorted⟩ := List.exists_cons_of_ne_nil filled
      have added : addThread base (cpu.id, Int.ofNat first) = { base with cpus := done ++ [⟨cpu.id, [first]⟩] } := by
        rw [addThread_vm, inserted]
      rw [isSorted, List.map_cons, List.map_cons, List.foldl_cons, added, foldl_addThread_vms smaller rest [first] rfl,
        List.reverse_cons]

theorem foldl_addThread {cpus done : List Cpu} (sorted : ((done ++ cpus).map Cpu.id).Pairwise (· < ·))
    (isBase : base.cpus = done) : (cpus.flatMap fun cpu => (core.vmIds cpu).map (cpu.id, ·)).foldl addThread base =
      { base with
        cpus := done ++ cpus.map core.readBack
        reservedCpus := base.reservedCpus ∪ ((cpus.map Cpu.id).filter (· ∈ core.reservedCpus)).toFinset } := by
  induction cpus generalizing base done with
  | nil =>
    cases base
    simp_all
  | cons cpu rest ih =>
    have smaller : ∀ other ∈ done, other.id < cpu.id := by
      rw [List.map_append, List.pairwise_append] at sorted
      exact fun other member => sorted.2.2 _ (List.mem_map_of_mem member) _ List.mem_cons_self
    have stillSorted : (((done ++ [core.readBack cpu]) ++ rest).map Cpu.id).Pairwise (· < ·) := by
      rw [List.append_assoc, List.map_append] at *
      exact sorted
    rw [List.flatMap_cons, List.foldl_append, foldl_addThread_cpu smaller isBase, ih stillSorted rfl,
      List.append_assoc, List.map_cons, List.map_cons]
    by_cases isReserved : cpu.id ∈ core.reservedCpus
    · simp [isReserved, Finset.insert_union]
    · simp [isReserved]

theorem Stored.ofText_eq (stored : core.Stored) (id vmsThread : Nat) (dedicated : Bool) :
    ofText id (",".intercalate (core.threads.map threadText)) vmsThread dedicated = setCpuUsage
        { id, freeCpus := 0, usedCpus := 0, vmsThread, dedicated
          cpus := core.cpus.map core.readBack
          reservedCpus := core.reservedCpus } := by
  have sameReserved : ((core.cpus.map Cpu.id).filter (· ∈ core.reservedCpus)).toFinset = core.reservedCpus := by
    ext cpuId
    rw [List.mem_toFinset, List.mem_filter, decide_eq_true_iff]
    exact ⟨fun both => both.2, fun isReserved => ⟨stored.known cpuId isReserved, isReserved⟩⟩
  rw [ofText, stored.reads rfl, threads, @foldl_addThread core _ core.cpus [] stored.sorted rfl, sameReserved,
    Finset.empty_union]
  rfl

theorem Stored.readBack_vms (stored : core.Stored) (member : cpu ∈ core.cpus) :
    (core.readBack cpu).vms.Perm cpu.vms := by
  rw [readBack]
  split
  · rename_i isReserved
    rw [stored.unmixed cpu member isReserved]
  · exact (List.reverse_perm _).trans (List.perm_insertionSort _ _)

theorem Stored.persists (stored : core.Stored) : core.Persists := by
  have again : ofAttribute core.vmsThread core.toAttribute =
      setCpuUsage
        { id := ((core.toAttribute.unsignedValue "ID").getD 0), freeCpus := 0, usedCpus := 0
          vmsThread := core.vmsThread, dedicated := core.dedicated
          cpus := core.cpus.map core.readBack
          reservedCpus := core.reservedCpus } := by
    have isText : core.toAttribute.vectorValue "CPUS" = ",".intercalate (core.threads.map threadText) := by
      simp [toAttribute]
    have isFlag : decide ((core.toAttribute.vectorValue "DEDICATED").toUpper = "YES") = core.dedicated := by
      have stored : core.toAttribute.vectorValue "DEDICATED" = if core.dedicated then "YES" else "NO" := by
        simp [toAttribute]
      rw [stored]
      cases core.dedicated <;> decide +kernel
    rw [← stored.ofText_eq, ofAttribute, isText, isFlag]
  have sameVms : ∀ cpu ∈ core.cpus, (core.readBack cpu).vms.Perm cpu.vms := fun cpu member => stored.readBack_vms member
  have sameMarks : ((core.cpus.map core.readBack).map fun cpu => cpu.vms.length) =
      core.cpus.map fun cpu => cpu.vms.length := by
    rw [List.map_map]
    exact List.map_congr_left fun cpu member => (sameVms cpu member).length_eq
  have sameAssignments : (core.cpus.map core.readBack).map (fun cpu => (cpu.id, (↑cpu.vms : Multiset Nat))) =
      core.assignments := by
    rw [List.map_map]
    exact List.map_congr_left fun cpu member => Prod.ext rfl (Multiset.coe_eq_coe.2 (sameVms cpu member))
  rw [Persists, again]
  cases isDedicated : core.dedicated with
  | true =>
    obtain ⟨used, free⟩ := stored.counted.dedicated isDedicated
    simp only [setCpuUsage, if_true]
    exact ⟨sameAssignments, trivial, free.symm, used.symm⟩
  | false =>
    obtain ⟨used, free⟩ := stored.counted.shared isDedicated
    simp only [setCpuUsage, Bool.false_eq_true, if_false, marks, sameMarks, List.length_map]
    exact ⟨sameAssignments, trivial, free.symm, used.symm⟩

theorem mem_insertCpu (member : cpu ∈ insertCpu cpuId vms cpus) :
    cpu ∈ cpus ∨ cpu = ⟨cpuId, vms⟩ ∨ ∃ before ∈ cpus, before.id = cpuId ∧ cpu = ⟨cpuId, vms ++ before.vms⟩ := by
  induction cpus with
  | nil => exact .inr (.inl (List.mem_singleton.1 member))
  | cons first rest ih =>
    simp only [insertCpu] at member
    split at member
    · rcases List.mem_cons.1 member with rfl | old
      · exact .inr (.inl rfl)
      · exact .inl old
    · split at member
      · rename_i same
        rcases List.mem_cons.1 member with rfl | old
        · exact .inr (.inr ⟨first, List.mem_cons_self, same.symm, by rw [same]⟩)
        · exact .inl (List.mem_cons_of_mem _ old)
      · rcases List.mem_cons.1 member with rfl | later
        · exact .inl List.mem_cons_self
        · rcases ih later with old | isNew | ⟨before, isBefore, isSame⟩
          · exact .inl (List.mem_cons_of_mem _ old)
          · exact .inr (.inl isNew)
          · exact .inr (.inr ⟨before, List.mem_cons_of_mem _ isBefore, isSame⟩)

theorem mem_insertCpu_ids {id : Nat} :
    id ∈ (insertCpu cpuId vms cpus).map Cpu.id ↔ id = cpuId ∨ id ∈ cpus.map Cpu.id := by
  induction cpus with
  | nil => simp [insertCpu]
  | cons first rest ih =>
    simp only [insertCpu]
    split
    · rw [List.map_cons, List.mem_cons]
    · split
      · rename_i same
        rw [List.map_cons, List.map_cons, List.mem_cons, same]
        simp
      · rw [List.map_cons, List.map_cons, List.mem_cons, List.mem_cons, ih]
        exact or_left_comm

theorem sorted_insertCpu (vms : List Nat) (sorted : (cpus.map Cpu.id).Pairwise (· < ·)) :
    ((insertCpu cpuId vms cpus).map Cpu.id).Pairwise (· < ·) := by
  induction cpus with
  | nil => simp [insertCpu]
  | cons first rest ih =>
    obtain ⟨smaller, others⟩ := List.pairwise_cons.1 sorted
    simp only [insertCpu]
    split
    · rename_i before
      refine List.pairwise_cons.2 ⟨fun id member => ?_, sorted⟩
      rcases List.mem_cons.1 member with rfl | later
      · exact before
      · exact Nat.lt_trans before (smaller id later)
    · split
      · exact sorted
      · refine List.pairwise_cons.2 ⟨fun id member => ?_, ih others⟩
        rcases mem_insertCpu_ids.1 member with rfl | later
        · omega
        · exact smaller id later

theorem Readable.insertCpu (readable : core.Readable) {reservedCpus : Finset Nat} (cpuFits : cpuId < 2 ^ 32)
    (vmsFit : ∀ vm ∈ vms, vm < 2 ^ 31) (isKnown : ∀ id ∈ reservedCpus, id = cpuId ∨ id ∈ core.reservedCpus) :
    Readable { core with cpus := Host.insertCpu cpuId vms core.cpus, reservedCpus } := by
  refine ⟨sorted_insertCpu vms readable.sorted, fun cpu member => ?_, fun id isReserved => ?_⟩
  · rcases mem_insertCpu member with old | rfl | ⟨before, isBefore, rfl, rfl⟩
    · exact readable.fits cpu old
    · exact ⟨cpuFits, vmsFit⟩
    · refine ⟨cpuFits, fun vm isVm => ?_⟩
      rcases List.mem_append.1 isVm with new | old
      · exact vmsFit vm new
      · exact (readable.fits before isBefore).2 vm old
  · exact mem_insertCpu_ids.2 ((isKnown id isReserved).imp_right (readable.known id))

theorem Readable.addThread (readable : core.Readable) {thread : Nat × Int} (cpuFits : thread.1 < 2 ^ 32)
    (vmFits : thread.2 < 2 ^ 31) : (core.addThread thread).Readable := by
  simp only [Core.addThread]
  split
  · refine readable.insertCpu cpuFits (fun vm isVm => ?_) fun id isReserved => .inr isReserved
    rw [List.mem_singleton.1 isVm]
    omega
  · split
    · exact readable.insertCpu cpuFits (fun vm isVm => absurd isVm List.not_mem_nil)
        fun id isReserved => Finset.mem_insert.1 isReserved
    · exact readable.insertCpu cpuFits (fun vm isVm => absurd isVm List.not_mem_nil)
        fun id isReserved => .inr isReserved

theorem setCpuUsage_keeps (core : Core) :
    core.setCpuUsage.cpus = core.cpus ∧ core.setCpuUsage.reservedCpus = core.reservedCpus := by
  simp only [Core.setCpuUsage]
  split <;> exact ⟨rfl, rfl⟩

theorem Readable.setCpuUsage (readable : core.Readable) (unmixed : core.Unmixed) : core.setCpuUsage.Stored := by
  obtain ⟨sorted, fits, known⟩ := readable
  refine ⟨⟨?_, ?_, ?_⟩, ?_, counted_setCpuUsage core⟩ <;> simp only [Unmixed, setCpuUsage_keeps] <;> assumption

theorem stored_ofText {id : Nat} {text : String} {vmsThread : Nat} {dedicated : Bool}
    (unmixed : (ofText id text vmsThread dedicated).Unmixed) : (ofText id text vmsThread dedicated).Stored := by
  have kept : ∀ (threads : List (Nat × Int)) (base : Core), base.Readable →
      (∀ thread ∈ threads, thread.1 < 2 ^ 32 ∧ thread.2 < 2 ^ 31) → (threads.foldl Core.addThread base).Readable := by
    intro threads
    induction threads with
    | nil => exact fun base readable _ => readable
    | cons thread rest ih =>
      intro base readable fit
      obtain ⟨⟨cpuFits, vmFits⟩, others⟩ := List.forall_mem_cons.1 fit
      exact ih _ (readable.addThread cpuFits vmFits) others
  have readable := kept ((pieces ',' text).filterMap readThread)
    { id, freeCpus := 0, usedCpus := 0, vmsThread, dedicated, cpus := [], reservedCpus := ∅ }
    ⟨List.Pairwise.nil, by simp, by simp⟩ fun thread member => by
      obtain ⟨piece, -, isRead⟩ := List.mem_filterMap.1 member
      exact readThread_fits isRead
  refine readable.setCpuUsage ?_
  simp only [ofText, Unmixed, setCpuUsage_keeps] at unmixed
  exact unmixed

variable {now : Core}

section

variable (stored : core.Stored)
include stored

theorem Stored.of_layout (sameLayout : now.layout = core.layout) (counted : now.Counted)
    (fits : ∀ cpu ∈ now.cpus, ∀ vm ∈ cpu.vms, vm < 2 ^ 31)
    (unmixed : ∀ cpu ∈ now.cpus, cpu.id ∈ core.reservedCpus → cpu.vms = []) : now.Stored := by
  obtain ⟨sameIds, sameReserved⟩ := Prod.ext_iff.1 sameLayout
  simp only [layout] at sameIds sameReserved
  refine ⟨⟨sameIds ▸ stored.sorted, fun cpu member => ⟨?_, fits cpu member⟩, ?_⟩, ?_, counted⟩
  · have isId : cpu.id ∈ core.cpus.map Cpu.id := sameIds ▸ List.mem_map_of_mem member
    obtain ⟨before, isBefore, sameId⟩ := List.mem_map.1 isId
    exact sameId ▸ (stored.fits before isBefore).1
  · rw [sameIds, sameReserved]
    exact stored.known
  · rw [Unmixed, sameReserved]
    exact unmixed

theorem Stored.dedicate (first : ∀ cpu ∈ core.cpus.head?, cpu.id ∉ core.reservedCpus)
    {vmid : Nat} (fits : vmid < 2 ^ 31) : (core.dedicate vmid).1.Stored := by
  cases isCpus : core.cpus with
  | nil =>
    rw [Core.dedicate]
    simp only [isCpus]
    exact stored
  | cons cpu rest =>
    have outside : cpu.id ∉ core.reservedCpus := first cpu (by simp [isCpus])
    refine stored.of_layout (layout_dedicate core vmid) ?_ ?_ ?_
    · simp [Core.dedicate, isCpus, Counted, setCpuUsage]
    · intro other member vm isVm
      simp only [Core.dedicate, isCpus] at member
      rcases List.mem_cons.1 member with rfl | later
      · rcases List.mem_cons.1 isVm with rfl | old
        · exact fits
        · exact (stored.fits cpu (by simp [isCpus])).2 vm old
      · exact (stored.fits other (by simp [isCpus, later])).2 vm isVm
    · intro other member isReserved
      simp only [Core.dedicate, isCpus] at member
      rcases List.mem_cons.1 member with rfl | later
      · exact absurd isReserved outside
      · exact stored.unmixed other (by simp [isCpus, later]) isReserved

theorem Stored.allocateHt {vmid : Nat} (fits : vmid < 2 ^ 31) (tc tcpus : Nat) :
    (core.allocateHt vmid tc tcpus).1.Stored := by
  refine stored.of_layout (layout_allocateHt core vmid tc tcpus) (stored.counted.allocateHt vmid tc tcpus) ?_ ?_
  · intro cpu member vm isVm
    rcases mem_markCpus member with old | ⟨before, isBefore, -, rfl⟩
    · exact (stored.fits cpu old).2 vm isVm
    · rcases List.mem_cons.1 isVm with rfl | old
      · exact fits
      · exact (stored.fits before isBefore).2 vm old
  · intro cpu member isReserved
    rcases mem_markCpus member with old | ⟨before, -, accepted, rfl⟩
    · exact stored.unmixed cpu old isReserved
    · simp only [accepts, Bool.and_eq_true, decide_eq_true_eq] at accepted
      exact absurd isReserved accepted.2

theorem Stored.delCpus (vmid : Nat) (ids : List Nat) : (core.delCpus vmid ids).1.Stored := by
  have sameLayout := layout_delCpus core vmid ids
  simp only [Core.delCpus] at sameLayout ⊢
  split at sameLayout
  · rw [if_pos ‹_›]
    refine stored.of_layout sameLayout (counted_setCpuUsage _) ?_ ?_
    all_goals
      simp only [setCpuUsage, Bool.false_eq_true, if_false]
      intro cpu member
      obtain ⟨before, isBefore, rfl⟩ := List.mem_map.1 member
      have kept := before.unmark_sublist vmid ids
    · exact fun vm isVm => (stored.fits before isBefore).2 vm (kept.subset isVm)
    · intro isReserved
      rw [Cpu.unmark_id] at isReserved
      rw [stored.unmixed before isBefore isReserved] at kept
      exact List.sublist_nil.1 kept
  · rw [if_neg ‹_›]
    exact stored

theorem Stored.reserveCpus (ids : List Nat) : (core.reserveCpus ids).Stored := by
  let reserved := ((core.cpus.filter (core.reserves ids)).map Cpu.id).toFinset
  -- A thread with VMs is reserved only if it was, and then it has none.
  have unmixed : ∀ cpu ∈ core.cpus, cpu.id ∈ reserved → cpu.vms = [] := by
    intro cpu member isReserved
    obtain ⟨other, isOther, sameId⟩ := List.mem_map.1 (List.mem_toFinset.1 isReserved)
    obtain ⟨isCpu, isListed⟩ := List.mem_filter.1 isOther
    obtain rfl : other = cpu := List.inj_on_of_nodup_map stored.sorted.nodup isCpu member sameId
    simp only [reserves, Bool.and_eq_true, Bool.or_eq_true, decide_eq_true_eq, List.isEmpty_iff] at isListed
    exact isListed.2.elim (fun isEmpty => isEmpty) (stored.unmixed other isCpu)
  have known : ∀ id ∈ reserved, id ∈ core.cpus.map Cpu.id := by
    intro id isReserved
    obtain ⟨cpu, isCpu, rfl⟩ := List.mem_map.1 (List.mem_toFinset.1 isReserved)
    exact List.mem_map_of_mem (List.mem_of_mem_filter isCpu)
  simp only [Core.reserveCpus]
  split
  · exact Readable.setCpuUsage ⟨stored.sorted, stored.fits, known⟩ unmixed
  · rename_i unchanged
    have same : reserved = core.reservedCpus := by
      ext id
      rw [List.mem_toFinset, List.mem_map]
      constructor
      · rintro ⟨cpu, isCpu, rfl⟩
        obtain ⟨member, isListed⟩ := List.mem_filter.1 isCpu
        simp only [reserves, Bool.and_eq_true, Bool.or_eq_true, decide_eq_true_eq] at isListed
        refine isListed.2.resolve_left fun isEmpty => unchanged (List.any_eq_true.2 ⟨cpu, member, ?_⟩)
        rw [if_pos isListed.1]
        exact isEmpty
      · intro isReserved
        obtain ⟨cpu, member, rfl⟩ := List.mem_map.1 (stored.known id isReserved)
        refine ⟨cpu, List.mem_filter.2 ⟨member, ?_⟩, rfl⟩
        have isListed : cpu.id ∈ ids := by
          by_contra notListed
          refine unchanged (List.any_eq_true.2 ⟨cpu, member, ?_⟩)
          rw [if_neg notListed, decide_eq_true_iff]
          exact isReserved
        simp [reserves, isListed, isReserved]
    exact ⟨⟨stored.sorted, stored.fits, known⟩, unmixed, by
      rw [show ((core.cpus.filter (core.reserves ids)).map Cpu.id).toFinset = core.reservedCpus from same]
      exact stored.counted⟩

end

end Core

namespace HostShareNode

variable (node : HostShareNode)

def setCore (id : Nat) (text : String) (vmsThread : Nat) (dedicated : Bool) : HostShareNode :=
  if node.cores.any fun core => core.id = id then node
  else
    { node with
      cores := node.cores.orderedInsert (fun core other => core.id ≤ other.id)
        (.ofText id text vmsThread dedicated) }

def reserveCpus (ids : List Nat) : HostShareNode :=
  { node with cores := node.cores.map fun core => core.reserveCpus ids }

def updateCpuUsage (vmsThread : Nat) : HostShareNode :=
  { node with cores := node.cores.map fun core => Core.setCpuUsage { core with vmsThread } }

end HostShareNode

inductive CoreEvent where
  | setCore (id : Nat) (text : String) (vmsThread : Nat) (dedicated : Bool)
  | allocateDedicatedCpus (vmid tcpus : Nat)
  | allocateHtCpus (vmid tcpus tc : Nat)
  | delCpu (ids : List Nat) (vmid : Nat)
  | reserveCpus (ids : List Nat)
  | updateCpuUsage (vmsThread : Nat)

/-- The identifier of a virtual machine is an `int`. -/
def HostShareNode.step (node : HostShareNode) : CoreEvent → Option HostShareNode
  | .setCore id text vmsThread dedicated => some (node.setCore id text vmsThread dedicated)
  | .allocateDedicatedCpus vmid tcpus =>
    if vmid < 2 ^ 31 then some (node.allocateDedicatedCpus vmid tcpus).1 else none
  | .allocateHtCpus vmid tcpus tc => if vmid < 2 ^ 31 then some (node.allocateHtCpus vmid tcpus tc).1 else none
  | .delCpu ids vmid => some (node.delCpu ids vmid)
  | .reserveCpus ids => some (node.reserveCpus ids)
  | .updateCpuUsage vmsThread => some (node.updateCpuUsage vmsThread)

def coreSystem : System HostShareNode CoreEvent where
  initial start := ∃ id, start = .empty id
  step := HostShareNode.step

/-- No VM is put on a reserved thread: the cores that are dedicated do not have their first thread
reserved, and the texts of new cores have no such VM. -/
def CoreEvent.Apart (node : HostShareNode) : CoreEvent → Prop
  | .setCore id text vmsThread dedicated => (Core.ofText id text vmsThread dedicated).Unmixed
  | .allocateDedicatedCpus _ tcpus => ∀ core ∈ (node.cores.filter Core.isFree).take tcpus,
      ∀ cpu ∈ core.cpus.head?, cpu.id ∉ core.reservedCpus
  | _ => True

instance (node : HostShareNode) : (event : CoreEvent) → Decidable (event.Apart node)
  | .setCore .. => inferInstanceAs (Decidable (Core.Unmixed _))
  | .allocateDedicatedCpus _ tcpus =>
    inferInstanceAs (Decidable (∀ core ∈ (node.cores.filter Core.isFree).take tcpus, _))
  | .allocateHtCpus .. | .delCpu .. | .reserveCpus .. | .updateCpuUsage .. => isTrue trivial

namespace HostShareNode

variable {node : HostShareNode}

def Stored (node : HostShareNode) : Prop := ∀ core ∈ node.cores, core.Stored

theorem mem_dedicateCores_taken {vmid tcpus : Nat} {cores : List Core} {core : Core}
    (member : core ∈ (dedicateCores vmid tcpus cores).1) :
    core ∈ cores ∨ ∃ before ∈ (cores.filter Core.isFree).take tcpus, core = (before.dedicate vmid).1 := by
  induction cores generalizing tcpus with
  | nil => cases tcpus <;> simp [dedicateCores] at member
  | cons first rest ih =>
    cases tcpus with
    | zero => exact .inl member
    | succ tcpus =>
      simp only [dedicateCores] at member
      split at member
      · rename_i isFree
        rw [List.filter_cons_of_pos isFree, List.take_succ_cons]
        rcases List.mem_cons.1 member with same | later
        · exact .inr ⟨first, List.mem_cons_self, same⟩
        · rcases ih later with old | ⟨before, isBefore, isGiven⟩
          · exact .inl (List.mem_cons_of_mem _ old)
          · exact .inr ⟨before, List.mem_cons_of_mem _ isBefore, isGiven⟩
      · rename_i notFree
        rw [List.filter_cons_of_neg notFree]
        rcases List.mem_cons.1 member with same | later
        · exact .inl (same ▸ List.mem_cons_self)
        · exact (ih later).imp_left (List.mem_cons_of_mem _)

theorem Stored.step {next : HostShareNode} {event : CoreEvent} (stored : node.Stored) (apart : event.Apart node)
    (stepped : node.step event = some next) : next.Stored := by
  cases event with
  | setCore id text vmsThread dedicated =>
    obtain rfl := Option.some.inj stepped
    rw [HostShareNode.setCore]
    split
    · exact stored
    · intro core member
      rcases (List.mem_orderedInsert _).1 member with rfl | old
      · exact Core.stored_ofText apart
      · exact stored core old
  | allocateDedicatedCpus vmid tcpus =>
    simp only [HostShareNode.step] at stepped
    split at stepped
    · rename_i fits
      obtain rfl := Option.some.inj stepped
      intro core member
      rcases mem_dedicateCores_taken member with old | ⟨before, isBefore, rfl⟩
      · exact stored core old
      · exact (stored before (List.mem_of_mem_filter (List.mem_of_mem_take isBefore))).dedicate
          (apart before isBefore) fits
    · cases stepped
  | allocateHtCpus vmid tcpus tc =>
    simp only [HostShareNode.step] at stepped
    split at stepped
    · rename_i fits
      obtain rfl := Option.some.inj stepped
      intro core member
      rcases mem_htCores member with old | ⟨before, isBefore, count, rfl⟩
      · exact stored core old
      · exact (stored before isBefore).allocateHt fits tc count
    · cases stepped
  | delCpu ids vmid =>
    obtain rfl := Option.some.inj stepped
    intro core member
    obtain ⟨before, isBefore, left, rfl⟩ := mem_delCores member
    exact (stored before isBefore).delCpus vmid left
  | reserveCpus ids =>
    obtain rfl := Option.some.inj stepped
    intro core member
    obtain ⟨before, isBefore, rfl⟩ := List.mem_map.1 member
    exact (stored before isBefore).reserveCpus ids
  | updateCpuUsage vmsThread =>
    obtain rfl := Option.some.inj stepped
    intro core member
    obtain ⟨before, isBefore, rfl⟩ := List.mem_map.1 member
    obtain ⟨⟨sorted, fits, known⟩, unmixed, -⟩ := stored before isBefore
    exact Core.Readable.setCpuUsage ⟨sorted, fits, known⟩ unmixed

end HostShareNode

/-- In a run that puts no VM on a reserved thread, every core is the same after it was stored. -/
theorem core_persists (node : HostShareNode)
    (reached : coreSystem.Reachable (fun node event => event.Apart node) node) :
    ∀ core ∈ node.cores, core.Persists := by
  have stored : node.Stored := by
    refine @System.Reachable.invariant _ _ _ _ HostShareNode.Stored _ reached ?_ ?_
    · rintro start ⟨id, rfl⟩ core member
      exact absurd member List.not_mem_nil
    · exact fun before event next stored apart stepped => stored.step apart stepped
  exact fun core member => (stored core member).persists

theorem coreSystem_initial (id : Nat) : coreSystem.initial (.empty id) := ⟨id, rfl⟩

def HostShareNode.texts (node : HostShareNode) : List (String × Nat × Nat) :=
  node.cores.map fun core => (core.toAttribute.vectorValue "CPUS", core.freeCpus, core.usedCpus)

/-- One thread is reserved, two VMs share the other one, and a third VM has a core to itself. -/
theorem core_persists_two_cores : ∃ node, coreSystem.Reachable (fun node event => event.Apart node) node ∧
      node.texts = [("0:8,0:9,1:-2", 0, 2), ("2:7,3:-1", 0, 1)] ∧ ∀ core ∈ node.cores, core.Persists := by
  have ran : ((coreSystem.exec (fun node event => event.Apart node) (.empty 0)
      [.setCore 0 "0,1" 2 false, .setCore 1 "2:-1,3:-1" 2 false, .reserveCpus [1], .allocateHtCpus 9 1 1,
        .allocateHtCpus 8 1 1, .allocateDedicatedCpus 7 1]).map HostShareNode.texts) =
          some [("0:8,0:9,1:-2", 0, 2), ("2:7,3:-1", 0, 1)] := by
    decide +kernel
  obtain ⟨node, isRun, isTexts⟩ := Option.map_eq_some_iff.mp ran
  have reached := System.reachable_of_exec (coreSystem_initial 0) isRun
  exact ⟨node, reached, isTexts, core_persists node reached⟩

/-- A VM with a core to itself is put on the first thread although it is reserved, and its text does
not have the VM. -/
theorem core_persists_first_thread :
    ¬∀ node, coreSystem.Reachable System.anyStep node → ∀ core ∈ node.cores, core.Persists := by
  intro always
  have ran : ((coreSystem.exec System.anyStep (.empty 0)
      [.setCore 0 "0,1" 1 false, .reserveCpus [0], .allocateDedicatedCpus 7 1]).map fun node =>
        node.cores.map fun core =>
          (core.assignments, (Core.ofAttribute core.vmsThread core.toAttribute).assignments)) =
      some [([(0, {7}), (1, {})], [(0, {}), (1, {})])] := by
    decide +kernel
  obtain ⟨node, isRun, isLost⟩ := Option.map_eq_some_iff.mp ran
  obtain ⟨core, rest, isCores, isLost, -⟩ := List.map_eq_cons_iff.mp isLost
  have reached := System.reachable_of_exec (coreSystem_initial 0) isRun
  have same := (always node reached core (isCores ▸ List.mem_cons_self)).1
  obtain ⟨before, after⟩ := Prod.mk.inj isLost
  rw [before, after] at same
  exact absurd same (by decide)

end OpenNebula.Host
