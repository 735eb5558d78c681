import Mathlib.Algebra.BigOperators.Group.Finset.Piecewise
import OpenNebula.Quota.Atomicity

namespace OpenNebula.Quota

open Library

/-! # Change of the owner of a virtual machine (`SharedAPI::get_and_quota`)

The usage of a virtual machine is charged to the new owner and then released from the old
one, template by template.  The templates are collected in a map by their type, which
keeps only the first of those for datastores.
-/

/-- There are quotas for the user or the group; -1 means that it does not change. -/
def tracked (oid : Int) : Bool := oid ≠ oneadminId && oid ≠ -1

variable {F : Type}

abbrev Charge (F : Type) := QuotaType × QuotaTemplate F

/-- The attributes of a disk that count; the target is that of the `clone` or the `ln` action. -/
structure Disk where
  tmTarget : String
  size : Option Int
  snapshotTotalSize : Option Int
  datastoreId : String

def Disk.imageDsSize (disk : Disk) : Int :=
  if disk.tmTarget ≠ "SELF" then 0
  else disk.size.elim 0 fun size => size + disk.snapshotTotalSize.getD 0

/-- A virtual machine with the template of `get_quota_template` -/
structure Vm (F : Type) where
  uid : Int
  gid : Int
  isDone : Bool
  template : QuotaTemplate F
  disks : List Disk

namespace Vm

variable [Zero F] [IntCast F] (vm : Vm F)

def imageDsQuotas : List (QuotaTemplate F) :=
  (vm.disks.filter fun disk => disk.imageDsSize ≠ 0).map fun disk =>
    { datastore := disk.datastoreId
      size := some (disk.imageDsSize : F)
      images := some 0
      systemDiskSize := 0 }

theorem imageDsQuotas_size : ∀ tmpl ∈ vm.imageDsQuotas, ∃ size, tmpl.size = some size := by
  intro tmpl member
  obtain ⟨disk, _, rfl⟩ := List.mem_map.1 member
  exact ⟨_, rfl⟩

def recorded : List (Charge F) :=
  vm.imageDsQuotas.map (fun tmpl => (.datastore, tmpl)) ++ [(.virtualMachine, vm.template)]

def quotaMap : Map QuotaType (QuotaTemplate F) :=
  vm.imageDsQuotas.foldl (fun charges tmpl => Map.insertNew .datastore tmpl charges)
    (Map.insertNew .virtualMachine vm.template ∅)

def charges : List (Charge F) :=
  [.datastore, .vm, .network, .image, .virtualMachine, .virtualRouter].filterMap fun type =>
    (vm.quotaMap.lookup type).map fun tmpl => (type, tmpl)

theorem charges_eq : vm.charges = (vm.imageDsQuotas.head?.map fun tmpl => (QuotaType.datastore, tmpl)).toList ++
      [(.virtualMachine, vm.template)] := by
  have inserted : ∀ (tmpls : List (QuotaTemplate F)) (charges : Map QuotaType (QuotaTemplate F)) type,
      (tmpls.foldl (fun charges tmpl => Map.insertNew .datastore tmpl charges) charges).lookup type =
        if type = .datastore then (charges.lookup type).or tmpls.head? else charges.lookup type := by
    intro tmpls
    induction tmpls with
    | nil => intro charges type; simp
    | cons tmpl rest ih =>
      intro charges type
      rw [List.foldl_cons, ih]
      split
      · rename_i isDatastore
        rw [isDatastore, Map.lookup_insertNew_self]
        cases charges.lookup QuotaType.datastore <;> rfl
      · rename_i apart
        exact Map.lookup_insertNew_ne apart tmpl charges
  have start : ∀ type, (Map.insertNew .virtualMachine vm.template ∅ : Map QuotaType _).lookup type =
      if type = .virtualMachine then some vm.template else none := by
    intro type
    split
    · rename_i isMachine
      rw [isMachine, Map.lookup_insertNew_self]
      rfl
    · rename_i apart
      rw [Map.lookup_insertNew_ne apart]
      rfl
  have found : ∀ type, vm.quotaMap.lookup type =
      if type = .datastore then vm.imageDsQuotas.head?
      else if type = .virtualMachine then some vm.template else none := by
    intro type
    rw [quotaMap, inserted, start]
    cases type <;> rfl
  rw [charges]
  simp only [List.filterMap_cons, List.filterMap_nil, found]
  cases vm.imageDsQuotas.head? <;> rfl

end Vm

section Moves

variable [Zero F] [IntCast F] [Add F] [Neg F] [DecidableEq F]

def holderRollback (setup : Setup F) (type : QuotaType) (oid : Int) (tmpl : QuotaTemplate F)
    (pool : Map Int (Quotas F)) : Map Int (Quotas F) :=
  if !tracked oid then pool
  else
    (getQuotas pool oid).elim pool fun quotas => pool.insert oid (Quotas.quotaDel setup type tmpl quotas)

def Pools.quotaRollback (setup : Setup F) (uid gid : Int) (pools : Pools F) (charge : Charge F) : Pools F :=
  { pools with
    users := holderRollback setup charge.1 uid charge.2 pools.users
    groups := holderRollback setup charge.1 gid charge.2 pools.groups }

theorem rollback_holders {setup : Setup F} {uid gid : Int} (charges : List (Charge F)) (pools : Pools F) :
    (charges.foldl (Pools.quotaRollback setup uid gid) pools).users =
        charges.foldl (fun pool charge => holderRollback setup charge.1 uid charge.2 pool) pools.users ∧
      (charges.foldl (Pools.quotaRollback setup uid gid) pools).groups =
        charges.foldl (fun pool charge => holderRollback setup charge.1 gid charge.2 pool) pools.groups := by
  induction charges generalizing pools with
  | nil => exact ⟨rfl, rfl⟩
  | cons charge rest ih => exact ih _

variable [LE F] [DecidableLE F] [LT F] [DecidableLT F] [ToString F]

def holderAuthorization (setup : Setup F) (name missing : String) (type : QuotaType) (oid : Int)
    (tmpl : QuotaTemplate F) (defaults : Quotas F) (pool : Map Int (Quotas F)) : Except String (Map Int (Quotas F)) :=
  if !tracked oid then .ok pool
  else
    match getQuotas pool oid with
    | none => .error missing
    | some quotas =>
      match Quotas.quotaCheck setup type tmpl defaults quotas with
      | (_, .error message) => .error s!"{name} [{oid}] {message}"
      | (charged, .ok _) => .ok (pool.insert oid charged)

namespace Pools

def userAuthorization (setup : Setup F) (uid : Int) (charge : Charge F) (pools : Pools F) :
    Except String (Map Int (Quotas F)) :=
  holderAuthorization setup "user" "User not found" charge.1 uid charge.2 pools.defaultUserQuota
    pools.users

def groupAuthorization (setup : Setup F) (gid : Int) (charge : Charge F) (pools : Pools F) :
    Except String (Map Int (Quotas F)) :=
  holderAuthorization setup "group" "Group not found" charge.1 gid charge.2 pools.defaultGroupQuota
    pools.groups

/-- The user gets his usage back when the group refuses. -/
def quotaAuthorization (setup : Setup F) (uid gid : Int) (charge : Charge F) (pools : Pools F) :
    Pools F × Except String Unit :=
  match pools.userAuthorization setup uid charge with
  | .error message => (pools, .error message)
  | .ok users =>
    match pools.groupAuthorization setup gid charge with
    | .error message =>
      ({ pools with users := holderRollback setup charge.1 uid charge.2 users }, .error message)
    | .ok groups => ({ pools with users, groups }, .ok ())

/-- The loop over the map; `done` are the templates that were charged so far. -/
def authorizeAll (setup : Setup F) (uid gid : Int) :
    List (Charge F) → List (Charge F) → Pools F → Pools F × List (Charge F) × Except String Unit
  | [], done, pools => (pools, done, .ok ())
  | charge :: rest, done, pools =>
    match pools.quotaAuthorization setup uid gid charge with
    | (pools, .error message) => (pools, done, .error message)
    | (pools, .ok _) => authorizeAll setup uid gid rest (done ++ [charge]) pools

end Pools

inductive OwnerError where
  | noExists
  | action (message : String)
  | authorization (message : String)

namespace Pools

/-- The machine is read again before the usage of the old owner is released; it may be gone.  The
templates that were moved are returned. -/
def getAndQuota (setup : Setup F) (vm : Vm F) (isThere : Bool) (newUid newGid : Int) (pools : Pools F) :
    Pools F × Except OwnerError (List (Charge F)) :=
  if vm.isDone then (pools, .error (.action "Could not change VM ownership, wrong state"))
  else
    let oldUid := if newUid = -1 then -1 else vm.uid
    let oldGid := if newGid = -1 then -1 else vm.gid
    match pools.authorizeAll setup newUid newGid vm.charges [] with
    | (pools, done, .error message) =>
      (done.foldl (quotaRollback setup newUid newGid) pools, .error (.authorization message))
    | (pools, done, .ok _) =>
      if !isThere then (done.foldl (quotaRollback setup newUid newGid) pools, .error .noExists)
      else (done.foldl (quotaRollback setup oldUid oldGid) pools, .ok done)

end Pools

def Moved (setup : Setup F) (name missing : String) (defaults : Quotas F) (charges : List (Charge F))
    (old new : Int) (before after : Map Int (Quotas F)) : Prop :=
  ∃ charged, charges.foldlM (fun pool charge =>
        holderAuthorization setup name missing charge.1 new charge.2 defaults pool) before = .ok charged ∧
    after = charges.foldl (fun pool charge => holderRollback setup charge.1 old charge.2 pool) charged

variable {setup : Setup F} {pools after : Pools F} {charges done moved : List (Charge F)}
  {uid gid newUid newGid : Int} {vm : Vm F} {isThere : Bool}

theorem authorizeAll_ok {isOk : Unit}
    (accepted : pools.authorizeAll setup uid gid charges done = (after, moved, .ok isOk)) : moved = done ++ charges ∧
      charges.foldlM (fun pool charge => holderAuthorization setup "user" "User not found" charge.1 uid
        charge.2 pools.defaultUserQuota pool) pools.users = .ok after.users ∧
      charges.foldlM (fun pool charge => holderAuthorization setup "group" "Group not found" charge.1 gid
        charge.2 pools.defaultGroupQuota pool) pools.groups = .ok after.groups := by
  induction charges generalizing pools done with
  | nil =>
    obtain ⟨rfl, isMoved⟩ := Prod.mk.inj accepted
    exact ⟨by rw [List.append_nil, (Prod.mk.inj isMoved).1], rfl, rfl⟩
  | cons charge rest ih =>
    rw [Pools.authorizeAll, Pools.quotaAuthorization] at accepted
    cases isUsers : pools.userAuthorization setup uid charge with
    | error message => simp [isUsers] at accepted
    | ok users =>
      cases isGroups : pools.groupAuthorization setup gid charge with
      | error message => simp [isUsers, isGroups] at accepted
      | ok groups =>
        simp only [isUsers, isGroups] at accepted
        obtain ⟨isMoved, charged, chargedGroups⟩ := ih accepted
        refine ⟨by rw [isMoved, List.append_assoc, List.singleton_append], ?_, ?_⟩
        · rw [List.foldlM_cons]
          exact (congrArg (· >>= _) isUsers).trans charged
        · rw [List.foldlM_cons]
          exact (congrArg (· >>= _) isGroups).trans chargedGroups

theorem getAndQuota_ok (succeeded : pools.getAndQuota setup vm isThere newUid newGid = (after, .ok moved)) :
    moved = vm.charges ∧ Moved setup "user" "User not found" pools.defaultUserQuota moved
        (if newUid = -1 then -1 else vm.uid) newUid pools.users after.users ∧
      Moved setup "group" "Group not found" pools.defaultGroupQuota moved
        (if newGid = -1 then -1 else vm.gid) newGid pools.groups after.groups := by
  cases isDone : vm.isDone with
  | true => simp [Pools.getAndQuota, isDone] at succeeded
  | false =>
    cases authorized : pools.authorizeAll setup newUid newGid vm.charges [] with
    | mk charged rest =>
      obtain ⟨done, isOk⟩ := rest
      cases isOk with
      | error message => simp [Pools.getAndQuota, isDone, authorized] at succeeded
      | ok isOk =>
        cases isThere with
        | false => simp [Pools.getAndQuota, isDone, authorized] at succeeded
        | true =>
          simp only [Pools.getAndQuota, isDone, authorized, Bool.false_eq_true, if_false, Bool.not_true] at succeeded
          obtain ⟨isAfter, isMoved⟩ := Prod.mk.inj succeeded
          obtain rfl := Except.ok.inj isMoved
          obtain ⟨isCharges, chargedUsers, chargedGroups⟩ := authorizeAll_ok authorized
          rw [List.nil_append] at isCharges
          refine ⟨isCharges, ⟨charged.users, ?_, ?_⟩, ⟨charged.groups, ?_, ?_⟩⟩
          · rw [isCharges]
            exact chargedUsers
          · rw [← isAfter, (rollback_holders done charged).1]
          · rw [isCharges]
            exact chargedGroups
          · rw [← isAfter, (rollback_holders done charged).2]

variable {type : QuotaType} {tmpl : QuotaTemplate F} {oid : Int} {name missing : String}
  {defaults quotas : Quotas F} {pool charged : Map Int (Quotas F)}

theorem holderAuthorization_ok (isTracked : tracked oid = true)
    (accepted : holderAuthorization setup name missing type oid tmpl defaults pool = .ok charged) :
    ∃ quotas, getQuotas pool oid = some quotas ∧ (Quotas.quotaCheck setup type tmpl defaults quotas).2 = .ok () ∧
      charged = pool.insert oid (Quotas.charge setup (quotas.requests type tmpl) quotas) := by
  rw [holderAuthorization, isTracked] at accepted
  simp only [Bool.not_true, Bool.false_eq_true, if_false] at accepted
  split at accepted
  · cases accepted
  · rename_i quotas found
    split at accepted
    · cases accepted
    · rename_i after _ checked
      have isOk := congrArg Prod.snd checked
      have isCharged := Quotas.quotaCheck_ok isOk
      simp only [checked] at isCharged
      exact ⟨quotas, found, isOk, isCharged ▸ (Except.ok.inj accepted).symm⟩

end Moves

/-! ## Conservation

For numbers that are added without rounding.
-/

section Numbers

variable [AddCommGroup F]

theorem grown_exact {setup : Setup F} (exact : ∀ number, setup.stored number = number) (usage : F) (nums : List F) :
    grown setup usage nums = usage + nums.sum := by
  induction nums generalizing usage with
  | nil => rw [List.sum_nil, add_zero]; rfl
  | cons num rest ih =>
    rw [grown, List.foldl_cons]
    refine (ih _).trans ?_
    rw [exact, List.sum_cons, add_assoc]

theorem amounts_neg (metrics : List String) (request : String → Option F) (metric : String) :
    (amounts metrics (fun metric => (request metric).map fun num => -num) metric).sum =
      -(amounts metrics request metric).sum := by
  rw [List.sum_neg, amounts, amounts, List.map_filterMap]

theorem sum_moved {old new : Int} {f g : Int → F} {amount : F} (apart : old ≠ new) (less : f old = g old - amount)
    (more : f new = g new + amount) (others : ∀ oid, oid ≠ old → oid ≠ new → f oid = g oid)
    {oids : Finset Int} (hasOld : old ∈ oids) (hasNew : new ∈ oids) : ∑ oid ∈ oids, f oid = ∑ oid ∈ oids, g oid := by
  have changed : ∀ oid ∈ oids, f oid =
      g oid + ((if oid = new then amount else 0) - if oid = old then amount else 0) := by
    intro oid _
    by_cases isOld : oid = old
    · rw [if_pos isOld, if_neg fun isNew => apart (isOld.symm.trans isNew), isOld, less, zero_sub, sub_eq_add_neg]
    · by_cases isNew : oid = new
      · rw [if_neg isOld, if_pos isNew, isNew, more, sub_zero]
      · rw [if_neg isOld, if_neg isNew, others oid isOld isNew, sub_self, add_zero]
  rw [Finset.sum_congr rfl changed, Finset.sum_add_distrib, Finset.sum_sub_distrib, Finset.sum_ite_eq',
    Finset.sum_ite_eq', if_pos hasNew, if_pos hasOld, sub_self, add_zero]

end Numbers

section Exact

variable [AddCommGroup F] [IntCast F] {setup : Setup F} {vm : Vm F}
  {tmpl : QuotaTemplate F} {pool charged before after : Map Int (Quotas F)} {quotas : Quotas F}
  {oid old new : Int} {id metric : String}

def dsAmount (setup : Setup F) (tmpl : QuotaTemplate F) (id metric : String) : F :=
  (Quotas.amountsOf setup (tmpl.size.toList.map (datastoreRequest tmpl)) .datastore id metric).sum

/-- What the machine counts in a datastore -/
def Vm.dsUsage (setup : Setup F) (vm : Vm F) (id metric : String) : F :=
  (vm.imageDsQuotas.map fun tmpl => dsAmount setup tmpl id metric).sum

def Vm.RecordedBy (vm : Vm F) (quotas : Quotas F) : Prop :=
  ∀ tmpl ∈ vm.imageDsQuotas, ∃ row, (quotas .datastore).lookup tmpl.datastore = some row ∧
    row.clusterIds = []

/-- The old owner keeps nothing of the usage of the machine in the datastores, and the sum over
the owners does not change. -/
def Handover (setup : Setup F) (vm : Vm F) (old new : Int) (before after : Map Int (Quotas F)) : Prop :=
  tracked old = true → tracked new = true → old ≠ new →
  ∀ quotas, getQuotas before old = some quotas → vm.RecordedBy quotas →
  ∀ id, ∀ metric ∈ setup.metrics .datastore,
    usageOf after old .datastore id metric =
        usageOf before old .datastore id metric - vm.dsUsage setup id metric ∧
      ∀ oids : Finset Int, old ∈ oids → new ∈ oids →
        ∑ oid ∈ oids, usageOf after oid .datastore id metric =
          ∑ oid ∈ oids, usageOf before oid .datastore id metric

structure Shift (setup : Setup F) (oid : Int) (amount : String → String → F)
    (before after : Map Int (Quotas F)) : Prop where
  usage : ∀ id, ∀ metric ∈ setup.metrics .datastore, usageOf after oid .datastore id metric =
    usageOf before oid .datastore id metric + amount id metric
  others : ∀ other, other ≠ oid → getQuotas after other = getQuotas before other

theorem Shift.trans {middle : Map Int (Quotas F)} {first second : String → String → F}
    (shifted : Shift setup oid first before middle) (again : Shift setup oid second middle after) :
    Shift setup oid (fun id metric => first id metric + second id metric) before after where
  usage id metric isMetric := by
    rw [again.usage id metric isMetric, shifted.usage id metric isMetric, add_assoc]
  others other apart := (again.others other apart).trans (shifted.others other apart)

variable {amount : String → String → F}

theorem Shift.otherUsage (shifted : Shift setup oid amount before after) {other : Int} (apart : other ≠ oid) :
    usageOf after other .datastore id metric = usageOf before other .datastore id metric := by
  rw [usageOf, usageOf, shifted.others other apart]

theorem handover_of_shifts (same : ∀ id metric, amount id metric = vm.dsUsage setup id metric)
    (charged : Shift setup new amount before pool)
    (released : old ≠ new → ∀ quotas, getQuotas before old = some quotas → vm.RecordedBy quotas →
      Shift setup old (fun id metric => -amount id metric) pool after) :
    Handover setup vm old new before after := by
  intro _ _ apart quotas found isRecorded id metric isMetric
  have release := released apart quotas found isRecorded
  have less : usageOf after old .datastore id metric =
      usageOf before old .datastore id metric - vm.dsUsage setup id metric := by
    rw [release.usage id metric isMetric, charged.otherUsage apart, same, sub_eq_add_neg]
  have more : usageOf after new .datastore id metric =
      usageOf before new .datastore id metric + vm.dsUsage setup id metric := by
    rw [release.otherUsage apart.symm, charged.usage id metric isMetric, same]
  refine ⟨less, fun oids hasOld hasNew => ?_⟩
  refine sum_moved apart less more (fun oid notOld notNew => ?_) hasOld hasNew
  rw [release.otherUsage notOld, charged.otherUsage notNew]

variable [DecidableEq F]

theorem holderRollback_eq (type : QuotaType) (isTracked : tracked oid = true)
    (found : getQuotas pool oid = some quotas) :
    holderRollback setup type oid tmpl pool = pool.insert oid (Quotas.quotaDel setup type tmpl quotas) := by
  rw [holderRollback, isTracked, found]
  rfl

theorem quotaDel_datastore_usage (exact : ∀ number, setup.stored number = number) {size : F}
    (isSize : tmpl.size = some size) (isDefined : tmpl.datastore ≠ "")
    (isValid : Kind.valid .datastore tmpl.datastore = true) {row : Row F}
    (found : (quotas .datastore).lookup tmpl.datastore = some row) (noCluster : row.clusterIds = [])
    (isMetric : metric ∈ setup.metrics .datastore) :
    (Quotas.quotaDel setup .datastore tmpl quotas).usage .datastore id metric =
      quotas.usage .datastore id metric - dsAmount setup tmpl id metric := by
  have released : (Quotas.quotaDel setup .datastore tmpl quotas).usage .datastore id metric =
      (delQuota setup .datastore tmpl.datastore (datastoreRequest tmpl size).usage
        (quotas .datastore)).usage id metric := by
    rw [Quotas.quotaDel, Quotas.delDatastore, if_neg isDefined, isSize]
    rfl
  have counted : dsAmount setup tmpl id metric =
      if tmpl.datastore = id then
        (amounts (setup.metrics .datastore) (datastoreRequest tmpl size).usage metric).sum
      else 0 := by
    rw [dsAmount, isSize]
    simp only [Option.toList_some, List.map_cons, List.map_nil, Quotas.amountsOf, List.flatMap_cons,
      List.flatMap_nil, List.append_nil]
    by_cases same : tmpl.datastore = id
    · rw [if_pos ⟨rfl, same⟩, if_pos same]
    · rw [if_neg fun both => same both.2, if_neg same, List.sum_nil]
  rw [released, delQuota_usage isValid found noCluster isMetric, counted]
  by_cases same : id = tmpl.datastore
  · rw [if_pos same, if_pos same.symm, grown_exact exact, amounts_neg, sub_eq_add_neg, Quotas.usage,
      Rows.usage, same, found, Option.getD_some]
  · rw [if_neg same, if_neg fun isId => same isId.symm, sub_zero, Quotas.usage]

theorem machineRollback_shift (isTracked : tracked oid = true) (found : getQuotas pool oid = some quotas) :
    Shift setup oid (fun _ _ => 0) pool (holderRollback setup .virtualMachine oid tmpl pool) where
  usage id metric _ := by
    rw [holderRollback_eq .virtualMachine isTracked found, usageOf_insert found, usageOf_eq found, add_zero,
      Quotas.usage, Quotas.quotaDel_virtualMachine_datastore, Quotas.usage]
  others other apart := by
    rw [holderRollback_eq .virtualMachine isTracked found, getQuotas_insert_ne apart]

theorem datastoreRollback_shift (exact : ∀ number, setup.stored number = number)
    (isTracked : tracked oid = true) (found : getQuotas pool oid = some quotas) {size : F}
    (isSize : tmpl.size = some size) (isDefined : tmpl.datastore ≠ "")
    (isValid : Kind.valid .datastore tmpl.datastore = true) {row : Row F}
    (isRow : (quotas .datastore).lookup tmpl.datastore = some row) (noCluster : row.clusterIds = []) :
    Shift setup oid (fun id metric => -dsAmount setup tmpl id metric) pool
      (holderRollback setup .datastore oid tmpl pool) where
  usage id metric isMetric := by
    rw [holderRollback_eq .datastore isTracked found, usageOf_insert found, usageOf_eq found,
      quotaDel_datastore_usage exact isSize isDefined isValid isRow noCluster isMetric, sub_eq_add_neg]
  others other apart := by
    rw [holderRollback_eq .datastore isTracked found, getQuotas_insert_ne apart]

variable [LE F] [DecidableLE F] [LT F] [DecidableLT F] [ToString F] {name missing : String}
  {defaults : Quotas F}

section

variable (exact : ∀ number, setup.stored number = number)
include exact

theorem charge_shift {type : QuotaType} (isTracked : tracked oid = true)
    (accepted : holderAuthorization setup name missing type oid tmpl defaults pool = .ok charged)
    (isAmount : ∀ (quotas : Quotas F) id metric,
      (Quotas.amountsOf setup (quotas.requests type tmpl) .datastore id metric).sum = amount id metric) :
    Shift setup oid amount pool charged := by
  obtain ⟨quotas, found, -, rfl⟩ := holderAuthorization_ok isTracked accepted
  refine ⟨fun id metric _ => ?_, fun other apart => getQuotas_insert_ne apart _⟩
  rw [usageOf_insert found, usageOf_eq found, Quotas.charge_usage, grown_exact exact, isAmount]

theorem machineCharge_shift (isTracked : tracked oid = true)
    (accepted : holderAuthorization setup name missing .virtualMachine oid tmpl defaults pool = .ok charged) :
    Shift setup oid (fun _ _ => 0) pool charged := by
  refine charge_shift exact isTracked accepted fun quotas id metric => ?_
  rw [Quotas.amountsOf_other Quotas.requests_virtualMachine_kind, List.sum_nil]

theorem datastoreCharge_shift (isTracked : tracked oid = true)
    (accepted : holderAuthorization setup name missing .datastore oid tmpl defaults pool = .ok charged) :
    Shift setup oid (dsAmount setup tmpl) pool charged :=
  charge_shift exact isTracked accepted fun _ _ _ => rfl

theorem handover_of_moved (few : vm.imageDsQuotas.length ≤ 1)
    (moves : Moved setup name missing defaults vm.charges old new before after) :
    Handover setup vm old new before after := by
  intro trackedOld trackedNew apart quotas found isRecorded
  obtain ⟨charged, accepted, isAfter⟩ := moves
  rw [vm.charges_eq] at accepted isAfter
  cases isTmpls : vm.imageDsQuotas with
  | nil =>
    simp only [isTmpls, List.head?_nil, Option.map_none, Option.toList_none, List.nil_append,
      List.foldlM_cons, List.foldlM_nil, bind_pure, List.foldl_cons, List.foldl_nil] at accepted isAfter
    have shifted := machineCharge_shift exact trackedNew accepted
    refine handover_of_shifts (fun id metric => ?_) shifted ?_ trackedOld trackedNew apart quotas found
      isRecorded
    · rw [Vm.dsUsage, isTmpls, List.map_nil, List.sum_nil]
    · intro _ _ _ _
      have kept : getQuotas charged old = some quotas := (shifted.others old apart).trans found
      rw [isAfter]
      simpa only [neg_zero] using machineRollback_shift trackedOld kept
  | cons tmpl rest =>
    obtain rfl : rest = [] := by
      rw [isTmpls, List.length_cons] at few
      exact List.length_eq_zero_iff.1 (by omega)
    simp only [isTmpls, List.head?_cons, Option.map_some, Option.toList_some, List.singleton_append,
      List.foldlM_cons, List.foldlM_nil, bind_pure, List.foldl_cons, List.foldl_nil] at accepted isAfter
    cases isFirst : holderAuthorization setup name missing .datastore new tmpl defaults before with
    | error message =>
      rw [isFirst] at accepted
      cases accepted
    | ok first =>
      rw [isFirst] at accepted
      have shifted := (datastoreCharge_shift exact trackedNew isFirst).trans
        (machineCharge_shift exact trackedNew accepted)
      obtain ⟨_, _, checked, _⟩ := holderAuthorization_ok trackedNew isFirst
      obtain ⟨isDefined, isValid⟩ := Quotas.quotaCheck_datastore_ok checked
      obtain ⟨size, isSize⟩ := vm.imageDsQuotas_size tmpl (isTmpls ▸ List.mem_cons_self)
      obtain ⟨row, isRow, noCluster⟩ := isRecorded tmpl (isTmpls ▸ List.mem_cons_self)
      refine handover_of_shifts (fun id metric => ?_) shifted ?_ trackedOld trackedNew apart quotas
        found isRecorded
      · rw [Vm.dsUsage, isTmpls, List.map_singleton, List.sum_singleton, add_zero]
      · intro _ _ _ _
        have kept : getQuotas charged old = some quotas := (shifted.others old apart).trans found
        have released := datastoreRollback_shift exact trackedOld kept isSize isDefined isValid isRow noCluster
        have stillKept : getQuotas (holderRollback setup .datastore old tmpl charged) old =
            some (Quotas.quotaDel setup .datastore tmpl quotas) := by
          rw [holderRollback_eq .datastore trackedOld kept, getQuotas_insert kept]
        rw [isAfter]
        simpa only [add_zero] using released.trans (machineRollback_shift trackedOld stillKept)

end

/-- What is charged to the new owner is what is released from the old one, it is the whole usage
of the machine, and the usage of the datastores is handed over. -/
structure Conserves (setup : Setup F) (vm : Vm F) (newUid newGid : Int) (pools after : Pools F)
    (moved : List (Charge F)) : Prop where
  complete : moved.Perm vm.recorded
  userCharges : Moved setup "user" "User not found" pools.defaultUserQuota moved
    (if newUid = -1 then -1 else vm.uid) newUid pools.users after.users
  groupCharges : Moved setup "group" "Group not found" pools.defaultGroupQuota moved
    (if newGid = -1 then -1 else vm.gid) newGid pools.groups after.groups
  userUsage : Handover setup vm vm.uid newUid pools.users after.users
  groupUsage : Handover setup vm vm.gid newGid pools.groups after.groups

/-- A change of the owner conserves the usage if and only if at most one disk of the machine
takes space in the datastore of its image. -/
theorem ownership_conserves_usage (exact : ∀ number, setup.stored number = number)
    {pools after : Pools F} {isThere : Bool} {newUid newGid : Int} {moved : List (Charge F)}
    (succeeded : pools.getAndQuota setup vm isThere newUid newGid = (after, .ok moved)) :
    Conserves setup vm newUid newGid pools after moved ↔
      (vm.disks.filter fun disk => disk.imageDsSize ≠ 0).length ≤ 1 := by
  obtain ⟨isMoved, userCharges, groupCharges⟩ := getAndQuota_ok succeeded
  have sameLength : vm.imageDsQuotas.length = (vm.disks.filter fun disk => disk.imageDsSize ≠ 0).length :=
    List.length_map _
  rw [← sameLength]
  constructor
  · intro conserves
    have lengths := conserves.complete.length_eq
    rw [isMoved, vm.charges_eq, Vm.recorded] at lengths
    simp only [List.length_append, List.length_map, Option.length_toList] at lengths
    split at lengths <;> omega
  · intro few
    have handover : ∀ {name missing : String} {defaults : Quotas F} {old new : Int}
        {before after : Map Int (Quotas F)},
        Moved setup name missing defaults moved (if new = -1 then -1 else old) new before after →
        Handover setup vm old new before after := by
      intro name missing defaults old new before after moves trackedOld trackedNew
      have changes : new ≠ -1 := by
        rintro rfl
        exact absurd trackedNew (by decide)
      rw [if_neg changes, isMoved] at moves
      exact handover_of_moved exact few moves trackedOld trackedNew
    refine ⟨?_, userCharges, groupCharges, handover userCharges, handover groupCharges⟩
    rw [isMoved, vm.charges_eq, Vm.recorded]
    have all : (vm.imageDsQuotas.head?.map fun tmpl => ((QuotaType.datastore, tmpl) : Charge F)).toList =
        vm.imageDsQuotas.map fun tmpl => (QuotaType.datastore, tmpl) := by
      match isTmpls : vm.imageDsQuotas with
      | [] | [tmpl] => rfl
      | _ :: _ :: _ => simp [isTmpls] at few
    rw [all]

end Exact

def clonedDisk (datastoreId : String) : Disk := ⟨"SELF", some 10, none, datastoreId⟩

/-- A virtual machine of user 5 and group 100 -/
def cloned (datastoreIds : List String) : Vm Int where
  uid := 5
  gid := 100
  isDone := false
  template := { value := fun metric => if metric = "VMS" then some 1 else none, systemDiskSize := 0 }
  disks := datastoreIds.map clonedDisk

def tenUsed : Row Int := ⟨[], fun _ => defaultLimit, fun metric => if metric = "SIZE" then 10 else 0⟩

def twoUsers : Pools Int where
  users := ((∅ : Map Int (Quotas Int)).insert 5 fun kind =>
    if kind = .datastore then ((∅ : Rows Int).insert "1" tenUsed).insert "2" tenUsed else ∅).insert 6
      fun _ => ∅
  groups := (∅ : Map Int (Quotas Int)).insert 100 fun _ => ∅
  defaultUserQuota := fun _ => ∅
  defaultGroupQuota := fun _ => ∅

/-- A machine with one disk gets a new owner. -/
theorem ownership_conserves_usage_one_disk :
    ∃ after moved, twoUsers.getAndQuota wholeSetup (cloned ["1"]) true 6 (-1) = (after, .ok moved) ∧
      Conserves wholeSetup (cloned ["1"]) 6 (-1) twoUsers after moved := by
  have isOk : (twoUsers.getAndQuota wholeSetup (cloned ["1"]) true 6 (-1)).2.isOk = true := by
    decide
  cases isResult : twoUsers.getAndQuota wholeSetup (cloned ["1"]) true 6 (-1) with
  | mk after result =>
    cases result with
    | error code =>
      rw [isResult] at isOk
      cases isOk
    | ok moved =>
      exact ⟨after, moved, rfl, (ownership_conserves_usage (fun _ => rfl) isResult).mpr (by decide)⟩

/-- With disks in two datastores, one of them still counts for the old owner. -/
theorem ownership_conserves_usage_two_disks :
    ¬∀ (vm : Vm Int) (newUid newGid : Int) (pools after : Pools Int) (moved : List (Charge Int)),
      pools.getAndQuota wholeSetup vm true newUid newGid = (after, .ok moved) →
      Conserves wholeSetup vm newUid newGid pools after moved := by
  intro always
  have counted : (twoUsers.getAndQuota wholeSetup (cloned ["1", "2"]) true 6 (-1)).2.toOption.map
      List.length = some 2 := by
    decide
  cases isResult : twoUsers.getAndQuota wholeSetup (cloned ["1", "2"]) true 6 (-1) with
  | mk after result =>
    cases result with
    | error code =>
      rw [isResult] at counted
      cases counted
    | ok moved =>
      rw [isResult] at counted
      have two : moved.length = 2 := Option.some.inj counted
      have same := (always _ _ _ _ _ _ isResult).complete.length_eq
      rw [two] at same
      exact absurd same (by decide)

end OpenNebula.Quota
