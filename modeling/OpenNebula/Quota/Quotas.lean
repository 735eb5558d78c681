import OpenNebula.Quota.Quota

namespace OpenNebula.Quota

open Library

/-! # The quotas of a user or a group (`Quotas`)

A template is turned into requests for single quotas: one for a datastore, one for each
lease and each image, and up to two for a virtual machine, one of them for its cluster.
-/

inductive QuotaType where
  | datastore
  | vm
  | network
  | image
  | virtualMachine
  | virtualRouter
deriving DecidableEq

structure Nic where
  networkId : String
  isAuto : Bool := false
  floatingIp : Bool := false

structure QuotaTemplate (F : Type) where
  datastore : String := ""
  size : Option F := none
  images : Option Int := none
  nics : List Nic := []
  disks : List String := []
  value : String → Option F := fun _ => none
  systemDiskSize : F
  clusterId : Option Int := none
  skipGlobalQuota : Bool := false

/-- A call of `check_quota` or `del_quota` -/
structure Request (F : Type) where
  kind : Kind
  id : String
  usage : String → Option F

variable {F : Type}

abbrev Quotas (F : Type) := Kind → Rows F

section Requests

variable [IntCast F]

def datastoreRequest (tmpl : QuotaTemplate F) (size : F) : Request F where
  kind := .datastore
  id := tmpl.datastore
  usage metric :=
    if metric = "SIZE" then some size
    else if metric = "IMAGES" then
      some (((tmpl.images.filter fun images => 0 ≤ images).getD 1 : Int) : F)
    else none

def oneMore (kind : Kind) (name id : String) : Request F where
  kind := kind
  id := id
  usage metric := if metric = name then some ((1 : Int) : F) else none

def networkRequests (ofRouter : Bool) (tmpl : QuotaTemplate F) : List (Request F) :=
  (tmpl.nics.filter fun nic =>
      !(nic.isAuto && nic.networkId = "") && nic.networkId ≠ "" && (!ofRouter || nic.floatingIp)).map
    fun nic => oneMore .network "LEASES" nic.networkId

/-- `del` does not look at the identifiers. -/
def networkReleases (ofRouter : Bool) (tmpl : QuotaTemplate F) : List (Request F) :=
  (tmpl.nics.filter fun nic => !ofRouter || nic.floatingIp).map
    fun nic => oneMore .network "LEASES" nic.networkId

def imageRequests (tmpl : QuotaTemplate F) : List (Request F) :=
  (tmpl.disks.filter fun id => id ≠ "").map (oneMore .image "RVMS")

def imageReleases (tmpl : QuotaTemplate F) : List (Request F) :=
  tmpl.disks.map (oneMore .image "RVMS")

end Requests

def clusterQuota (rows : Rows F) (tmpl : QuotaTemplate F) : Option String :=
  tmpl.clusterId.bind fun cluster =>
    (rows.entries.find? fun row => row.2.clusterIds.contains cluster).map Sigma.fst

def vmRequest (tmpl : QuotaTemplate F) (id : String) : Request F where
  kind := .vm
  id := id
  usage metric := if metric = "SYSTEM_DISK_SIZE" then some tmpl.systemDiskSize else tmpl.value metric

def vmRequests (rows : Rows F) (tmpl : QuotaTemplate F) : List (Request F) :=
  (clusterQuota rows tmpl).toList.map (vmRequest tmpl) ++
    if tmpl.skipGlobalQuota then [] else [vmRequest tmpl ""]

theorem vmRequests_kind {rows : Rows F} {tmpl : QuotaTemplate F} :
    ∀ request ∈ vmRequests rows tmpl, request.kind = .vm := by
  intro request member
  rcases List.mem_append.1 member with inCluster | inGlobal
  · obtain ⟨id, _, rfl⟩ := List.mem_map.1 inCluster
    rfl
  · split at inGlobal
    · cases inGlobal
    · rw [List.mem_singleton.1 inGlobal]
      rfl

theorem networkRequests_kind [IntCast F] {ofRouter : Bool} {tmpl : QuotaTemplate F} :
    ∀ request ∈ networkRequests ofRouter tmpl, request.kind = .network := by
  intro request member
  obtain ⟨nic, _, rfl⟩ := List.mem_map.1 member
  rfl

namespace Quotas

def amountsOf (setup : Setup F) (requests : List (Request F)) (kind : Kind) (id metric : String) : List F :=
  requests.flatMap fun request =>
    if request.kind = kind ∧ request.id = id then amounts (setup.metrics kind) request.usage metric else []

variable {setup : Setup F} {quotas : Quotas F}

theorem amountsOf_other {requests : List (Request F)} {kind : Kind}
    (apart : ∀ request ∈ requests, request.kind ≠ kind) (id metric : String) :
    amountsOf setup requests kind id metric = [] := by
  refine List.flatMap_eq_nil_iff.2 fun request member => if_neg fun same => ?_
  exact apart request member same.1

section Charges

variable [Zero F] [IntCast F] [Add F] (setup : Setup F)

def usage (quotas : Quotas F) (kind : Kind) (id metric : String) : F := (quotas kind).usage id metric

def requests (type : QuotaType) (tmpl : QuotaTemplate F) (quotas : Quotas F) : List (Request F) :=
  match type with
  | .datastore => tmpl.size.toList.map (datastoreRequest tmpl)
  | .network => networkRequests false tmpl
  | .image => imageRequests tmpl
  | .vm => vmRequests (quotas .vm) tmpl
  | .virtualMachine => networkRequests false tmpl ++ (vmRequests (quotas .vm) tmpl ++ imageRequests tmpl)
  | .virtualRouter => networkRequests true tmpl

def charge (requests : List (Request F)) (quotas : Quotas F) : Quotas F :=
  requests.foldl
    (fun quotas request =>
      Function.update quotas request.kind
        ((quotas request.kind).insert request.id
          ((((quotas request.kind).lookup request.id).getD newRow).addUsage setup
            (setup.metrics request.kind) request.usage)))
    quotas

variable {setup} {quotas : Quotas F}

theorem charge_append (first second : List (Request F)) :
    charge setup (first ++ second) quotas = charge setup second (charge setup first quotas) :=
  List.foldl_append

theorem charge_usage (requests : List (Request F)) (kind : Kind) (id metric : String) :
    usage (charge setup requests quotas) kind id metric =
      grown setup (usage quotas kind id metric) (amountsOf setup requests kind id metric) := by
  induction requests generalizing quotas with
  | nil => rfl
  | cons request rest ih =>
    rw [charge, List.foldl_cons]
    refine ih.trans ?_
    have split : amountsOf setup (request :: rest) kind id metric =
        (if request.kind = kind ∧ request.id = id then
            amounts (setup.metrics kind) request.usage metric else []) ++
          amountsOf setup rest kind id metric :=
      List.flatMap_cons
    rw [split, grown_append]
    refine congrArg (fun usage => grown setup usage (amountsOf setup rest kind id metric)) ?_
    by_cases sameKind : request.kind = kind
    · subst sameKind
      rw [usage, Function.update_self, Rows.usage_insert]
      by_cases sameId : request.id = id
      · subst sameId
        rw [if_pos rfl, Row.addUsage_used, if_pos ⟨rfl, rfl⟩]
        rfl
      · rw [if_neg fun same => sameId same.symm, if_neg fun same => sameId same.2]
        rfl
    · rw [usage, Function.update_of_ne fun same => sameKind same.symm, if_neg fun same => sameKind same.1]
      rfl

theorem charge_other {requests : List (Request F)} {kind : Kind}
    (apart : ∀ request ∈ requests, request.kind ≠ kind) : charge setup requests quotas kind = quotas kind := by
  induction requests generalizing quotas with
  | nil => rfl
  | cons request rest ih =>
    rw [charge, List.foldl_cons]
    refine (ih fun other member => apart other (List.mem_cons_of_mem _ member)).trans ?_
    exact Function.update_of_ne (apart request List.mem_cons_self).symm _ _

end Charges

section Checks

variable [Zero F] [IntCast F] [Add F] [LE F] [DecidableLE F] [DecidableEq F] [ToString F]
  (setup : Setup F)

def checkAll (defaults : Quotas F) : List (Request F) → Quotas F → Quotas F × Except String Unit
  | [], quotas => (quotas, .ok ())
  | request :: rest, quotas =>
    match checkQuota setup request.kind request.id request.usage (defaults request.kind)
        (quotas request.kind) with
    | (rows, .error message) => (Function.update quotas request.kind rows, .error message)
    | (rows, .ok _) => checkAll defaults rest (Function.update quotas request.kind rows)

theorem checkAll_ok {setup : Setup F} {defaults quotas : Quotas F} {requests : List (Request F)}
    (accepted : (checkAll setup defaults requests quotas).2 = .ok ()) :
    (checkAll setup defaults requests quotas).1 = charge setup requests quotas := by
  induction requests generalizing quotas with
  | nil => rfl
  | cons request rest ih =>
    rw [checkAll] at accepted ⊢
    split at accepted
    · cases accepted
    · rename_i rows _ checked
      have isRows := checkQuota_ok (congrArg Prod.snd checked)
      simp only [checked] at isRows
      rw [ih accepted, isRows, charge, charge, List.foldl_cons]

variable [Neg F] [LT F] [DecidableLT F]

def delAll (requests : List (Request F)) (quotas : Quotas F) : Quotas F :=
  requests.foldl
    (fun quotas request =>
      Function.update quotas request.kind
        (delQuota setup request.kind request.id request.usage (quotas request.kind)))
    quotas

section

variable (tmpl : QuotaTemplate F)

section

variable (defaults quotas : Quotas F)

def checkDatastore : Quotas F × Except String Unit :=
  if tmpl.datastore = "" then (quotas, .error "Datastore not defined for image")
  else
    match tmpl.size with
    | none => (quotas, .error "Image size must be a positive integer value")
    | some size =>
      if size < 0 then (quotas, .error "Image size must be a positive integer value")
      else checkAll setup defaults [datastoreRequest tmpl size] quotas

def delDatastore (quotas : Quotas F) : Quotas F :=
  if tmpl.datastore = "" then quotas
  else tmpl.size.elim quotas fun size => delAll setup [datastoreRequest tmpl size] quotas

def checkNetwork (ofRouter : Bool) (tmpl : QuotaTemplate F) (defaults quotas : Quotas F) :
    Quotas F × Except String Unit :=
  checkAll setup defaults (networkRequests ofRouter tmpl) quotas

def delNetwork (ofRouter : Bool) (tmpl : QuotaTemplate F) (quotas : Quotas F) : Quotas F :=
  delAll setup (networkReleases ofRouter tmpl) quotas

def checkImage : Quotas F × Except String Unit :=
  checkAll setup defaults (imageRequests tmpl) quotas

def delImage (quotas : Quotas F) : Quotas F :=
  delAll setup (imageReleases tmpl) quotas

def checkVm : Quotas F × Except String Unit :=
  checkAll setup defaults (vmRequests (quotas .vm) tmpl) quotas

end

def delVm (quotas : Quotas F) : Quotas F :=
  delAll setup (vmRequests (quotas .vm) tmpl) quotas

end

def quotaCheck (type : QuotaType) (tmpl : QuotaTemplate F) (defaults quotas : Quotas F) :
    Quotas F × Except String Unit :=
  match type with
  | .datastore => checkDatastore setup tmpl defaults quotas
  | .network => checkNetwork setup false tmpl defaults quotas
  | .image => checkImage setup tmpl defaults quotas
  | .vm => checkVm setup tmpl defaults quotas
  | .virtualMachine =>
    match checkNetwork setup false tmpl defaults quotas with
    | (quotas, .error message) => (quotas, .error message)
    | (quotas, .ok _) =>
      match checkVm setup tmpl defaults quotas with
      | (quotas, .error message) => (delNetwork setup false tmpl quotas, .error message)
      | (quotas, .ok _) =>
        match checkImage setup tmpl defaults quotas with
        | (quotas, .error message) =>
          (delVm setup tmpl (delNetwork setup false tmpl quotas), .error message)
        | (quotas, .ok _) => (quotas, .ok ())
  | .virtualRouter => checkNetwork setup true tmpl defaults quotas

def quotaDel (type : QuotaType) (tmpl : QuotaTemplate F) (quotas : Quotas F) : Quotas F :=
  match type with
  | .datastore => delDatastore setup tmpl quotas
  | .network => delNetwork setup false tmpl quotas
  | .image => delImage setup tmpl quotas
  | .vm => delVm setup tmpl quotas
  | .virtualMachine => delImage setup tmpl (delVm setup tmpl (delNetwork setup false tmpl quotas))
  | .virtualRouter => delNetwork setup true tmpl quotas

variable {setup} {tmpl : QuotaTemplate F} {type : QuotaType} {defaults quotas : Quotas F}

theorem quotaCheck_ok (accepted : (quotaCheck setup type tmpl defaults quotas).2 = .ok ()) :
    (quotaCheck setup type tmpl defaults quotas).1 = charge setup (requests type tmpl quotas) quotas := by
  cases type with
  | datastore =>
    simp only [quotaCheck, checkDatastore] at accepted ⊢
    split at accepted
    · cases accepted
    · split at accepted
      · cases accepted
      · rename_i size isSize
        split at accepted
        · cases accepted
        · rename_i notNegative
          rw [if_neg ‹_›, if_neg notNegative]
          rw [checkAll_ok accepted, requests, isSize]
          rfl
  | vm | network | image | virtualRouter => exact checkAll_ok accepted
  | virtualMachine =>
    simp only [quotaCheck] at accepted ⊢
    split at accepted
    · cases accepted
    · rename_i leased _ checkedNetwork
      have isLeased := checkAll_ok (congrArg Prod.snd checkedNetwork)
      rw [show checkAll setup defaults (networkRequests false tmpl) quotas = _ from checkedNetwork] at isLeased
      split at accepted
      · cases accepted
      · rename_i counted _ checkedVm
        have isCounted := checkAll_ok (congrArg Prod.snd checkedVm)
        rw [show checkAll setup defaults (vmRequests (leased .vm) tmpl) leased = _ from checkedVm]
          at isCounted
        split at accepted
        · cases accepted
        · rename_i imaged _ checkedImage
          have isImaged := checkAll_ok (congrArg Prod.snd checkedImage)
          rw [show checkAll setup defaults (imageRequests tmpl) counted = _ from checkedImage] at isImaged
          -- The leases do not change the quotas of virtual machines.
          have sameVms : leased .vm = quotas .vm := by
            refine (congrFun isLeased .vm).trans (charge_other fun request member => ?_)
            rw [networkRequests_kind request member]
            decide
          rw [requests, charge_append, charge_append, ← sameVms]
          exact isImaged.trans (congrArg _ (isCounted.trans (congrArg _ isLeased)))

theorem quotaCheck_datastore_ok (accepted : (quotaCheck setup .datastore tmpl defaults quotas).2 = .ok ()) :
    tmpl.datastore ≠ "" ∧ Kind.valid .datastore tmpl.datastore = true := by
  simp only [quotaCheck, checkDatastore] at accepted
  split at accepted
  · cases accepted
  · rename_i isDefined
    split at accepted
    · cases accepted
    · rename_i size isSize
      split at accepted
      · cases accepted
      · refine ⟨isDefined, ?_⟩
        simp only [checkAll] at accepted
        split at accepted
        · cases accepted
        · rename_i checked
          exact valid_of_checkQuota_ok (congrArg Prod.snd checked)

end Checks

theorem delAll_other [Zero F] [IntCast F] [Add F] [Neg F] [DecidableEq F] {requests : List (Request F)}
    {kind : Kind} (apart : ∀ request ∈ requests, request.kind ≠ kind) :
    delAll setup requests quotas kind = quotas kind := by
  induction requests generalizing quotas with
  | nil => rfl
  | cons request rest ih =>
    rw [delAll, List.foldl_cons]
    refine (ih fun other member => apart other (List.mem_cons_of_mem _ member)).trans ?_
    exact Function.update_of_ne (apart request List.mem_cons_self).symm _ _

theorem quotaDel_virtualMachine_datastore [Zero F] [IntCast F] [Add F] [Neg F] [DecidableEq F]
    {tmpl : QuotaTemplate F} : quotaDel setup .virtualMachine tmpl quotas .datastore = quotas .datastore := by
  have network : ∀ quotas : Quotas F, delNetwork setup false tmpl quotas .datastore = quotas .datastore := by
    refine fun quotas => delAll_other fun request member => ?_
    obtain ⟨nic, _, rfl⟩ := List.mem_map.1 member
    exact fun same => by cases same
  have image : ∀ quotas : Quotas F, delImage setup tmpl quotas .datastore = quotas .datastore := by
    refine fun quotas => delAll_other fun request member => ?_
    obtain ⟨id, _, rfl⟩ := List.mem_map.1 member
    exact fun same => by cases same
  have machine : ∀ quotas : Quotas F, delVm setup tmpl quotas .datastore = quotas .datastore := by
    refine fun quotas => delAll_other fun request member => ?_
    rw [vmRequests_kind request member]
    decide
  exact (image _).trans ((machine _).trans (network quotas))

theorem requests_virtualMachine_kind [IntCast F] {tmpl : QuotaTemplate F} :
    ∀ request ∈ requests .virtualMachine tmpl quotas, request.kind ≠ .datastore := by
  intro request member
  rw [requests, List.mem_append, List.mem_append] at member
  rcases member with inNetwork | inMachine | inImages
  · rw [networkRequests_kind request inNetwork]
    decide
  · rw [vmRequests_kind request inMachine]
    decide
  · obtain ⟨id, _, rfl⟩ := List.mem_map.1 inImages
    exact fun same => by cases same

end Quotas

end OpenNebula.Quota
