import Mathlib.Data.List.Basic
import OpenNebula.Library.Map
import OpenNebula.Library.Streams

namespace OpenNebula.Quota

open Library

/-! # Limits and usage of one kind of resource (`Quota`)

A quota has a limit and a usage for each metric of its kind.  A request is checked against
the limits and then added to the usage.  The numbers are of any type with the operations
of the code, so that what is proved about them does not depend on their precision.
-/

/-- The classes of quotas -/
inductive Kind where
  | datastore
  | network
  | image
  | vm
deriving DecidableEq

structure Setup (F : Type) where
  /-- The number that is read again from the text of `float_to_str` -/
  stored : F → F
  generic : List String

/-- The attributes of a quota; there is a limit and a usage for each metric. -/
structure Row (F : Type) where
  clusterIds : List Int
  limit : String → F
  used : String → F

/-- The quotas of a kind by their `ID`, for virtual machines by the text of `CLUSTER_IDS`.  The
code looks for a quota before it adds one, and there is at most one for each key. -/
abbrev Rows (F : Type) := Map String (Row F)

variable {F : Type}

def Kind.templateName : Kind → String
  | .datastore => "DATASTORE"
  | .network => "NETWORK"
  | .image => "IMAGE"
  | .vm => "VM"

def vmMetrics : List String :=
  ["VMS", "RUNNING_VMS", "CPU", "RUNNING_CPU", "MEMORY", "RUNNING_MEMORY", "PCI_DEV",
    "RUNNING_PCI_DEV", "PCI_NIC", "RUNNING_PCI_NIC", "SYSTEM_DISK_SIZE"]

def Setup.metrics (setup : Setup F) : Kind → List String
  | .datastore => ["SIZE", "IMAGES"]
  | .network => ["LEASES"]
  | .image => ["RVMS"]
  | .vm => vmMetrics ++ setup.generic.flatMap fun metric => [metric, "RUNNING_" ++ metric]

/-- `get_quota` fails for other texts; the quotas of virtual machines have no such check. -/
def Kind.valid (kind : Kind) (id : String) : Bool :=
  kind = .vm || (id ≠ "" && (readNumber 10 .int id).good)

section Usage

variable [Add F]

def Row.addToQuota (setup : Setup F) (row : Row F) (metric : String) (num : F) : Row F :=
  { row with
    used := fun other => if other = metric then setup.stored (row.used metric + num) else row.used other }

def Row.addUsage (setup : Setup F) (metrics : List String) (request : String → Option F) (row : Row F) : Row F :=
  metrics.foldl
    (fun row metric => (request metric).elim row fun num => row.addToQuota setup metric num) row

/-- A usage after some numbers were added -/
def grown (setup : Setup F) (usage : F) (nums : List F) : F :=
  nums.foldl (fun usage num => setup.stored (usage + num)) usage

def amounts (metrics : List String) (request : String → Option F) (metric : String) : List F :=
  (metrics.filter fun other => other = metric).filterMap request

variable {setup : Setup F} {metrics : List String} {request : String → Option F}

theorem grown_append (usage : F) (first second : List F) :
    grown setup usage (first ++ second) = grown setup (grown setup usage first) second :=
  List.foldl_append

theorem Row.addUsage_used (row : Row F) (metric : String) : (row.addUsage setup metrics request).used metric =
      grown setup (row.used metric) (amounts metrics request metric) := by
  induction metrics generalizing row with
  | nil => rfl
  | cons first rest ih =>
    rw [addUsage, List.foldl_cons]
    refine (ih _).trans ?_
    by_cases same : first = metric
    · subst same
      cases asked : request first with
      | none => simp [amounts, asked]
      | some num => simp [amounts, asked, grown, addToQuota]
    · have other : metric ≠ first := fun isFirst => same isFirst.symm
      cases request first with
      | none => simp [amounts, same]
      | some num => simp [amounts, same, addToQuota, other]

theorem Row.addUsage_keeps (row : Row F) : (row.addUsage setup metrics request).clusterIds = row.clusterIds ∧
      (row.addUsage setup metrics request).limit = row.limit := by
  induction metrics generalizing row with
  | nil => exact ⟨rfl, rfl⟩
  | cons first rest ih =>
    obtain ⟨sameClusters, sameLimit⟩ := ih ((request first).elim row fun num => row.addToQuota setup first num)
    refine ⟨sameClusters.trans ?_, sameLimit.trans ?_⟩ <;> cases request first <;> rfl

end Usage

variable [Zero F] [IntCast F]

def defaultLimit : F := ((-1 : Int) : F)

def unlimited : F := ((-2 : Int) : F)

/-- The quota that is created for a resource without one -/
def newRow : Row F := ⟨[], fun _ => defaultLimit, fun _ => 0⟩

def Rows.usage (rows : Rows F) (id metric : String) : F := ((rows.lookup id).getD newRow).used metric

theorem Rows.usage_insert (rows : Rows F) (id other metric : String) (row : Row F) :
    Rows.usage (rows.insert id row) other metric =
      if other = id then row.used metric else rows.usage other metric := by
  rw [Rows.usage, Map.lookup_insert_eq]
  split <;> rfl

section Checks

variable [Add F] [LE F] [DecidableLE F] [DecidableEq F] [ToString F]

def Row.effectiveLimit (row : Row F) (default : Option (Row F)) (metric : String) : F :=
  if row.limit metric = defaultLimit then default.elim unlimited fun row => row.limit metric
  else row.limit metric

def Row.refusal (kind : Kind) (metrics : List String) (qid : String) (request : String → Option F)
    (default : Option (Row F)) (row : Row F) : Option String :=
  metrics.findSome? fun metric =>
    (request metric).bind fun num =>
      let limit := row.effectiveLimit default metric
      if limit = unlimited ∨ row.used metric + num ≤ limit then none
      else
        some (s!"limit of {limit} reached for {metric} quota in {kind.templateName}" ++
          if qid = "" then "" else s!" with ID: {qid}")

def checkQuota (setup : Setup F) (kind : Kind) (qid : String) (request : String → Option F)
    (defaults : Rows F) (rows : Rows F) : Rows F × Except String Unit :=
  if !kind.valid qid then (rows, .error s!"String '{qid}' is not a valid ID")
  else
    let row := (rows.lookup qid).getD newRow
    match row.refusal kind (setup.metrics kind) qid request (defaults.lookup qid) with
    | some message => (rows.insertNew qid row, .error message)
    | none => (rows.insert qid (row.addUsage setup (setup.metrics kind) request), .ok ())

variable {setup : Setup F} {kind : Kind} {qid : String} {request : String → Option F}
  {defaults rows : Rows F}

theorem checkQuota_ok (accepted : (checkQuota setup kind qid request defaults rows).2 = .ok ()) :
    (checkQuota setup kind qid request defaults rows).1 =
      rows.insert qid (((rows.lookup qid).getD newRow).addUsage setup (setup.metrics kind) request) := by
  revert accepted
  simp only [checkQuota]
  split
  · simp
  · split
    · simp
    · simp

theorem valid_of_checkQuota_ok (accepted : (checkQuota setup kind qid request defaults rows).2 = .ok ()) :
    kind.valid qid = true := by
  by_contra invalid
  rw [Bool.not_eq_true] at invalid
  simp [checkQuota, invalid] at accepted

end Checks

variable [DecidableEq F] {setup : Setup F} {kind : Kind} {qid : String} {request : String → Option F}
  {rows : Rows F}

def Row.withoutDefaults (metrics : List String) (row : Row F) : Row F :=
  { row with
    limit := fun metric =>
      if metric ∈ metrics ∧ row.limit metric = defaultLimit then unlimited else row.limit metric }

def cleanupQuota (setup : Setup F) (kind : Kind) (qid : String) (rows : Rows F) : Rows F :=
  match rows.lookup qid with
  | none => rows
  | some row =>
    let isCluster := row.clusterIds ≠ []
    let row := if isCluster then row.withoutDefaults (setup.metrics kind) else row
    let implicitLimit := if isCluster then unlimited else defaultLimit
    if (setup.metrics kind).any fun metric =>
        (!isCluster && row.used metric ≠ 0) || row.limit metric ≠ implicitLimit then
      rows.insert qid row
    else rows.erase qid

def delQuota [Add F] [Neg F] (setup : Setup F) (kind : Kind) (qid : String) (request : String → Option F)
    (rows : Rows F) : Rows F :=
  if !kind.valid qid then rows
  else
    match rows.lookup qid with
    | none => rows
    | some row =>
      cleanupQuota setup kind qid
        (rows.insert qid (row.addUsage setup (setup.metrics kind) fun metric => (request metric).map fun num => -num))

theorem cleanupQuota_usage {row : Row F} (found : rows.lookup qid = some row)
    (noCluster : row.clusterIds = []) {metric : String} (isMetric : metric ∈ setup.metrics kind) (other : String) :
    (cleanupQuota setup kind qid rows).usage other metric = rows.usage other metric := by
  rw [cleanupQuota, found]
  simp only [noCluster, ne_eq, not_true_eq_false, if_false, decide_false, Bool.not_false, Bool.true_and]
  split
  · rw [Rows.usage_insert]
    split
    · rename_i same
      rw [same, Rows.usage, found, Option.getD_some]
    · rfl
  · rename_i unused
    have noUsage : row.used metric = 0 := by
      by_contra used
      refine unused (List.any_eq_true.2 ⟨metric, isMetric, ?_⟩)
      simp [used]
    rw [Rows.usage, Map.lookup_erase_eq]
    split
    · rename_i same
      rw [same, Rows.usage, found, Option.getD_none, Option.getD_some, noUsage]
      rfl
    · rfl

theorem delQuota_usage [Add F] [Neg F] {row : Row F} (isValid : kind.valid qid = true)
    (found : rows.lookup qid = some row) (noCluster : row.clusterIds = []) {metric : String}
    (isMetric : metric ∈ setup.metrics kind) (other : String) :
    (delQuota setup kind qid request rows).usage other metric = if other = qid then
        grown setup (row.used metric)
          (amounts (setup.metrics kind) (fun metric => (request metric).map fun num => -num) metric)
      else rows.usage other metric := by
  rw [delQuota, isValid, found]
  simp only [Bool.not_true, Bool.false_eq_true, if_false]
  rw [cleanupQuota_usage (AList.lookup_insert ..) (row.addUsage_keeps.1.trans noCluster) isMetric,
    Rows.usage_insert, Row.addUsage_used]

end OpenNebula.Quota
