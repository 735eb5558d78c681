import OpenNebula.Quota.Quotas

namespace OpenNebula.Quota

open Library

/-! # What a request leaves when it is released

The records of the virtual machines are charged for their cluster and for all clusters; a release
takes the amounts off again, and deletes the record of a cluster that has no limits.
-/

variable {F : Type} [Zero F] [IntCast F] [Add F] [LE F] [DecidableLE F] [DecidableEq F] [ToString F]

namespace Quotas

def SameKind (setup : Setup F) (kind : Kind) (before after : Quotas F) : Prop :=
  ∀ id, ∀ metric ∈ setup.metrics kind, after.usage kind id metric = before.usage kind id metric

/-- The quota of a cluster without limits, which a release deletes whatever its usage is -/
def forgetsCluster (metrics : List String) (row : Row F) : Bool :=
  row.clusterIds ≠ [] ∧ ∀ metric ∈ metrics, row.limit metric = defaultLimit ∨ row.limit metric = unlimited

def MachinesReturn [Neg F] (setup : Setup F) (tmpl : QuotaTemplate F) (quotas : Quotas F) : Prop :=
  ∀ request ∈ vmRequests (quotas .vm) tmpl, ∀ metric ∈ setup.metrics .vm,
    let row := ((quotas .vm).lookup request.id).getD newRow
    (if forgetsCluster (setup.metrics .vm) row then 0 else
        grown setup (grown setup (row.used metric) (amounts (setup.metrics .vm) request.usage metric))
          (amounts (setup.metrics .vm) (fun metric => (request.usage metric).map fun num => -num) metric)) =
      row.used metric

def Keyed (quotas : Quotas F) : Prop :=
  ∀ row, (quotas .vm).lookup "" = some row → row.clusterIds = []

section Charges

omit [Add F] [LE F] [DecidableLE F] [DecidableEq F] [ToString F] in
theorem Keyed.clusterIds_global {quotas : Quotas F} (keyed : Keyed quotas) :
    (((quotas .vm).lookup "").getD newRow).clusterIds = [] := by
  cases found : (quotas .vm).lookup "" with
  | none => rfl
  | some row => exact keyed row found

omit [LE F] [DecidableLE F] [DecidableEq F] [ToString F]

variable {setup : Setup F}

theorem charge_cons (request : Request F) (rest : List (Request F)) (quotas : Quotas F) :
    charge setup (request :: rest) quotas = charge setup rest (charge setup [request] quotas) := rfl

theorem charge_single_lookup (request : Request F) (quotas : Quotas F) (kind : Kind) (id : String) :
    (charge setup [request] quotas kind).lookup id = if kind = request.kind ∧ id = request.id then
        some ((((quotas request.kind).lookup request.id).getD newRow).addUsage setup
          (setup.metrics request.kind) request.usage) else (quotas kind).lookup id := by
  rw [charge, List.foldl_cons, List.foldl_nil]
  by_cases isKind : kind = request.kind
  · subst isKind
    rw [Function.update_self, Map.lookup_insert_eq]
    simp only [true_and]
  · rw [Function.update_of_ne isKind, if_neg fun both => isKind both.1]

theorem charge_keeps (requests : List (Request F)) (quotas : Quotas F) (kind : Kind) (id : String) :
    let row := ((quotas kind).lookup id).getD newRow
    let charged := ((charge setup requests quotas kind).lookup id).getD newRow
    charged.clusterIds = row.clusterIds ∧ charged.limit = row.limit := by
  induction requests generalizing quotas with
  | nil => exact ⟨rfl, rfl⟩
  | cons request rest ih =>
    obtain ⟨sameClusters, sameLimit⟩ := ih (charge setup [request] quotas)
    rw [charge_cons]
    refine ⟨sameClusters.trans ?_, sameLimit.trans ?_⟩ <;> rw [charge_single_lookup] <;> split
    · rename_i both
      rw [both.1, both.2]
      exact Row.addUsage_keeps _ |>.1
    · rfl
    · rename_i both
      rw [both.1, both.2]
      exact Row.addUsage_keeps _ |>.2
    · rfl

theorem mem_charge {requests : List (Request F)} {quotas : Quotas F} {kind : Kind} {id : String} :
    id ∈ charge setup requests quotas kind ↔
      id ∈ quotas kind ∨ ∃ request ∈ requests, request.kind = kind ∧ request.id = id := by
  induction requests generalizing quotas with
  | nil => simp [charge]
  | cons request rest ih =>
    rw [charge_cons, ih, List.exists_mem_cons_iff, ← or_assoc]
    refine or_congr_left ?_
    rw [← AList.lookup_isSome, charge_single_lookup, ← AList.lookup_isSome]
    split
    · rename_i both
      simp [both]
    · rename_i apart
      rw [or_iff_left fun both => apart ⟨both.1.symm, both.2.symm⟩]

end Charges

section Lookups

omit [LE F] [DecidableLE F] [ToString F]

variable [Neg F] {setup : Setup F} {quotas : Quotas F} {tmpl : QuotaTemplate F}

variable {kind : Kind} {id : String}

omit [Add F] [Neg F] in
theorem cleanupQuota_lookup_ne {other : String} (apart : other ≠ id) (rows : Rows F) :
    (cleanupQuota setup kind id rows).lookup other = rows.lookup other := by
  cases found : rows.lookup id with
  | none => simp only [cleanupQuota, found]
  | some row =>
    simp only [cleanupQuota, found]
    split_ifs
    all_goals first
      | exact AList.lookup_insert_ne apart
      | exact AList.lookup_erase_ne apart

theorem delQuota_lookup_ne {other : String} (apart : other ≠ id) (request : String → Option F) (rows : Rows F) :
    (delQuota setup kind id request rows).lookup other = rows.lookup other := by
  simp only [delQuota]
  split
  · rfl
  · split
    · rfl
    · rw [cleanupQuota_lookup_ne apart, AList.lookup_insert_ne apart]

omit [Add F] [Neg F] in
theorem cleanupQuota_lookup {rows : Rows F} {row : Row F} (found : rows.lookup id = some row) :
    (cleanupQuota setup kind id rows).lookup id = if row.clusterIds = [] then
        if ∀ metric ∈ setup.metrics kind, row.limit metric = defaultLimit ∧ row.used metric = 0 then none else some row
      else if forgetsCluster (setup.metrics kind) row then none
      else some (row.withoutDefaults (setup.metrics kind)) := by
  have kept : ∀ (isKept : Bool) (kept : Row F),
      (if isKept then rows.insert id kept else rows.erase id).lookup id = if isKept then some kept else none := by
    intro isKept kept
    cases isKept with
    | false => rw [if_neg Bool.false_ne_true, if_neg Bool.false_ne_true, Map.lookup_erase_eq, if_pos rfl]
    | true => rw [if_pos rfl, if_pos rfl, AList.lookup_insert]
  simp only [cleanupQuota, found, kept]
  by_cases plain : row.clusterIds = []
  · simp only [plain, ne_eq, not_true_eq_false, decide_false, Bool.not_false, Bool.true_and, if_false, if_true]
    rw [← ite_not]
    refine if_congr ?_ rfl rfl
    simp only [List.any_eq_true, Bool.or_eq_true, decide_eq_true_eq, not_exists, not_and, not_or, not_not, and_comm]
  · simp only [plain, ne_eq, not_false_eq_true, decide_true, Bool.not_true, Bool.false_and, Bool.false_or, if_true,
      if_false]
    rw [← ite_not]
    refine if_congr ?_ rfl rfl
    simp only [List.any_eq_true, decide_eq_true_eq, forgetsCluster, ne_eq, plain, not_false_eq_true, true_and,
      not_exists, not_and, not_not]
    refine forall_congr' fun metric => forall_congr' fun isMetric => ?_
    by_cases isDefault : row.limit metric = defaultLimit <;> simp [Row.withoutDefaults, isMetric, isDefault]

end Lookups

section Clusters

omit [Add F] [LE F] [DecidableLE F] [DecidableEq F] [ToString F]

variable {rows : Rows F} {tmpl : QuotaTemplate F} {id : String} {row : Row F}

omit [Zero F] [IntCast F] in
theorem clusterQuota_found (found : clusterQuota rows tmpl = some id) :
    ∃ cluster row, tmpl.clusterId = some cluster ∧ rows.lookup id = some row ∧
      row.clusterIds.contains cluster = true := by
  obtain ⟨cluster, isCluster, found⟩ := Option.bind_eq_some_iff.1 found
  obtain ⟨entry, isFirst, rfl⟩ := Option.map_eq_some_iff.1 found
  have has := List.find?_some isFirst
  exact ⟨cluster, entry.2, isCluster, Map.mem_entries_iff.1 (List.mem_of_find?_eq_some isFirst), has⟩

omit [Zero F] [IntCast F] in
theorem find_kerase {holds : (Σ _ : String, Row F) → Bool} {entries : List (Σ _ : String, Row F)}
    (fails : ∀ entry ∈ entries, entry.1 = id → holds entry = false) :
    (entries.kerase id).find? holds = entries.find? holds := by
  induction entries with
  | nil => rfl
  | cons entry rest ih =>
    obtain ⟨first, others⟩ := List.forall_mem_cons.1 fails
    by_cases same : id = entry.1
    · rw [List.kerase_cons_eq same, List.find?_cons, first same.symm]
    · rw [List.kerase_cons_ne same, List.find?_cons, List.find?_cons, ih others]

theorem clusterQuota_insert_found (found : clusterQuota rows tmpl = some id)
    (sameClusters : row.clusterIds = ((rows.lookup id).getD newRow).clusterIds) :
    clusterQuota (rows.insert id row) tmpl = some id := by
  obtain ⟨cluster, held, isCluster, isHeld, has⟩ := clusterQuota_found found
  rw [isHeld, Option.getD_some] at sameClusters
  rw [clusterQuota, isCluster, Option.bind_some, AList.entries_insert,
    List.find?_cons_of_pos (by simpa [sameClusters] using has)]
  rfl

theorem clusterQuota_insert_plain (plain : row.clusterIds = [])
    (wasPlain : ((rows.lookup id).getD newRow).clusterIds = []) :
    clusterQuota (rows.insert id row) tmpl = clusterQuota rows tmpl := by
  rw [clusterQuota, clusterQuota]
  refine congrArg (Option.bind tmpl.clusterId) (funext fun cluster => ?_)
  rw [AList.entries_insert, List.find?_cons_of_neg (by simp [plain]), find_kerase fun entry member isId => ?_]
  have isRow := Map.mem_entries_iff.1 member
  rw [isId] at isRow
  rw [isRow, Option.getD_some] at wasPlain
  simp [wasPlain]

def vmIds (rows : Rows F) (tmpl : QuotaTemplate F) : List String :=
  (clusterQuota rows tmpl).toList ++ if tmpl.skipGlobalQuota then [] else [""]

omit [Zero F] [IntCast F] in
theorem vmRequests_eq (rows : Rows F) (tmpl : QuotaTemplate F) :
    vmRequests rows tmpl = (vmIds rows tmpl).map (vmRequest tmpl) := by
  rw [vmRequests, vmIds, List.map_append]
  split <;> rfl

omit [Zero F] [IntCast F] in
theorem vmIds_nodup {quotas : Quotas F} (keyed : Keyed quotas) : (vmIds (quotas .vm) tmpl).Nodup := by
  rw [vmIds]
  cases found : clusterQuota (quotas .vm) tmpl with
  | none => split <;> simp
  | some id =>
    have notGlobal : id ≠ "" := by
      rintro rfl
      obtain ⟨cluster, row, -, isRow, has⟩ := clusterQuota_found found
      rw [keyed row isRow] at has
      simp at has
    split <;> simp [notGlobal]

end Clusters

section Machines

omit [LE F] [DecidableLE F] [ToString F]

variable {setup : Setup F} {quotas : Quotas F} {tmpl : QuotaTemplate F}

omit [DecidableEq F] in
theorem charge_rows (request : Request F) (quotas : Quotas F) :
    charge setup [request] quotas request.kind = (quotas request.kind).insert request.id
      ((((quotas request.kind).lookup request.id).getD newRow).addUsage setup (setup.metrics request.kind)
        request.usage) := by
  rw [charge, List.foldl_cons, List.foldl_nil, Function.update_self]

omit [DecidableEq F] in
theorem vmIds_charge (keyed : Keyed quotas) :
    vmIds (charge setup (vmRequests (quotas .vm) tmpl) quotas .vm) tmpl = vmIds (quotas .vm) tmpl := by
  have kept : ∀ quotas : Quotas F, (((quotas .vm).lookup "").getD newRow).clusterIds = [] →
      clusterQuota (charge setup [vmRequest tmpl ""] quotas .vm) tmpl = clusterQuota (quotas .vm) tmpl := by
    intro quotas plain
    rw [show Kind.vm = (vmRequest tmpl "").kind from rfl, charge_rows]
    exact clusterQuota_insert_plain (Row.addUsage_keeps _ |>.1.trans plain) plain
  have global := keyed.clusterIds_global
  rw [vmIds, vmIds, vmRequests]
  congr 2
  cases found : clusterQuota (quotas .vm) tmpl with
  | none =>
    split
    · exact found
    · exact (kept quotas global).trans found
  | some id =>
    have first : clusterQuota (charge setup [vmRequest tmpl id] quotas .vm) tmpl = some id := by
      rw [show Kind.vm = (vmRequest tmpl id).kind from rfl, charge_rows]
      exact clusterQuota_insert_found found (Row.addUsage_keeps _ |>.1)
    split
    · exact first
    · refine (kept (charge setup [vmRequest tmpl id] quotas) ?_).trans first
      rw [(charge_keeps [vmRequest tmpl id] quotas .vm "").1]
      exact global

variable [Neg F]

variable {id : String}

theorem delQuota_vm {rows : Rows F} {metric : String} {row : Row F} {request : String → Option F}
    (found : rows.lookup id = some row) (isMetric : metric ∈ setup.metrics .vm) :
    (delQuota setup .vm id request rows).usage id metric = if forgetsCluster (setup.metrics .vm) row then 0
      else grown setup (row.used metric)
        (amounts (setup.metrics .vm) (fun metric => (request metric).map fun num => -num) metric) := by
  by_cases plain : row.clusterIds = []
  · have kept : forgetsCluster (setup.metrics .vm) row = false := by simp [forgetsCluster, plain]
    rw [delQuota_usage rfl found plain isMetric, if_pos rfl, kept]
    rfl
  · let released := row.addUsage setup (setup.metrics .vm) fun metric => (request metric).map fun num => -num
    obtain ⟨sameClusters, sameLimit⟩ : released.clusterIds = row.clusterIds ∧ released.limit = row.limit :=
      Row.addUsage_keeps row
    have isCluster : released.clusterIds ≠ [] := sameClusters ▸ plain
    have left : delQuota setup .vm id request rows = cleanupQuota setup .vm id (rows.insert id released) := by
      simp only [delQuota, Kind.valid, decide_true, Bool.true_or, Bool.not_true, Bool.false_eq_true, if_false, found,
        released]
    have sameForgets : forgetsCluster (setup.metrics .vm) released = forgetsCluster (setup.metrics .vm) row := by
      rw [forgetsCluster, forgetsCluster, sameClusters, sameLimit]
    rw [left, Rows.usage, cleanupQuota_lookup (AList.lookup_insert ..), if_neg isCluster, sameForgets]
    split
    · rfl
    · exact Row.addUsage_used row metric

theorem delAll_vm {ids : List String} (distinct : ids.Nodup) {metric : String}
    (isMetric : metric ∈ setup.metrics .vm) (present : ∀ id ∈ ids, id ∈ quotas .vm) (id : String) :
    usage (delAll setup (ids.map (vmRequest tmpl)) quotas) .vm id metric = if id ∈ ids then
        let row := ((quotas .vm).lookup id).getD newRow
        if forgetsCluster (setup.metrics .vm) row then 0
        else grown setup (row.used metric) (amounts (setup.metrics .vm)
          (fun metric => ((vmRequest tmpl id).usage metric).map fun num => -num) metric)
      else usage quotas .vm id metric := by
  induction ids generalizing quotas with
  | nil => rfl
  | cons first rest ih =>
    obtain ⟨apart, restDistinct⟩ := List.nodup_cons.1 distinct
    obtain ⟨isPresent, others⟩ := List.forall_mem_cons.1 present
    let next := Function.update quotas .vm
      (delQuota setup .vm first (vmRequest tmpl first).usage (quotas .vm))
    have isNext : next .vm = delQuota setup .vm first (vmRequest tmpl first).usage (quotas .vm) :=
      Function.update_self ..
    have sameRow : ∀ other, other ≠ first → (next .vm).lookup other = (quotas .vm).lookup other :=
      fun other isOther => isNext ▸ delQuota_lookup_ne isOther _ _
    have stillPresent : ∀ other ∈ rest, other ∈ next .vm := by
      intro other member
      rw [← AList.lookup_isSome, sameRow other fun same => apart (same ▸ member), AList.lookup_isSome]
      exact others other member
    refine (ih restDistinct stillPresent).trans ?_
    by_cases isFirst : id = first
    · subst isFirst
      obtain ⟨row, found⟩ := Option.isSome_iff_exists.1 (AList.lookup_isSome.2 isPresent)
      rw [if_neg apart, if_pos List.mem_cons_self, found, usage, isNext, delQuota_vm found isMetric]
      rfl
    · have sameMember : id ∈ first :: rest ↔ id ∈ rest := by
        rw [List.mem_cons, or_iff_right isFirst]
      rw [usage, usage, Rows.usage, Rows.usage, sameRow id isFirst]
      simp only [sameMember]

omit [Zero F] [IntCast F] [Add F] [DecidableEq F] [Neg F] in
theorem amountsOf_absent {ids : List String} (absent : id ∉ ids) (metric : String) :
    amountsOf setup (ids.map (vmRequest tmpl)) .vm id metric = [] := by
  refine List.flatMap_eq_nil_iff.2 fun request inRequests => ?_
  obtain ⟨other, isOther, rfl⟩ := List.mem_map.1 inRequests
  refine if_neg fun both => ?_
  obtain ⟨-, rfl⟩ := both
  exact absent isOther

omit [Zero F] [IntCast F] [Add F] [DecidableEq F] [Neg F] in
theorem amountsOf_vm {ids : List String} (distinct : ids.Nodup) (member : id ∈ ids) (metric : String) :
    amountsOf setup (ids.map (vmRequest tmpl)) .vm id metric =
      amounts (setup.metrics .vm) (vmRequest tmpl id).usage metric := by
  induction ids with
  | nil => exact absurd member List.not_mem_nil
  | cons first rest ih =>
    obtain ⟨apart, restDistinct⟩ := List.nodup_cons.1 distinct
    rw [List.map_cons, amountsOf, List.flatMap_cons]
    rcases List.mem_cons.1 member with rfl | later
    · rw [if_pos ⟨rfl, rfl⟩]
      exact List.append_right_eq_self.2 (amountsOf_absent apart metric)
    · have other : ¬((vmRequest tmpl first).kind = .vm ∧ (vmRequest tmpl first).id = id) := by
        rintro ⟨-, rfl⟩
        exact apart later
      rw [if_neg other, List.nil_append]
      exact ih restDistinct later

theorem sameKind_machines_iff {counted : Quotas F} (keyed : Keyed quotas)
    (isCounted : counted .vm = charge setup (vmRequests (quotas .vm) tmpl) quotas .vm) :
    SameKind setup .vm quotas (delVm setup tmpl counted) ↔ MachinesReturn setup tmpl quotas := by
  have distinct := @vmIds_nodup F tmpl quotas keyed
  have isDel : delVm setup tmpl counted = delAll setup ((vmIds (quotas .vm) tmpl).map (vmRequest tmpl)) counted := by
    rw [delVm, vmRequests_eq, isCounted, vmIds_charge keyed]
  have present : ∀ id ∈ vmIds (quotas .vm) tmpl, id ∈ counted .vm := by
    intro id member
    rw [isCounted, mem_charge, vmRequests_eq]
    exact .inr ⟨vmRequest tmpl id, List.mem_map_of_mem member, rfl, rfl⟩
  -- What is there after the charge has the limits and the clusters that it had before.
  have forgets : ∀ id, forgetsCluster (setup.metrics .vm) (((counted .vm).lookup id).getD newRow) =
      forgetsCluster (setup.metrics .vm) (((quotas .vm).lookup id).getD newRow) := by
    intro id
    obtain ⟨sameClusters, sameLimit⟩ := @charge_keeps F _ _ _ setup (vmRequests (quotas .vm) tmpl) quotas .vm id
    rw [isCounted, forgetsCluster, forgetsCluster, sameClusters, sameLimit]
  have used : ∀ id metric, (((counted .vm).lookup id).getD newRow).used metric =
      grown setup ((((quotas .vm).lookup id).getD newRow).used metric)
        (amountsOf setup ((vmIds (quotas .vm) tmpl).map (vmRequest tmpl)) .vm id metric) := by
    intro id metric
    rw [← vmRequests_eq, isCounted]
    exact charge_usage _ .vm id metric
  rw [isDel, MachinesReturn, vmRequests_eq, List.forall_mem_map]
  constructor
  · intro same id member metric isMetric
    have left := (@delAll_vm F _ _ _ _ setup counted tmpl _ _ distinct _ isMetric present id).symm.trans (same id metric isMetric)
    rw [if_pos member] at left
    simp only [forgets, used, amountsOf_vm distinct member] at left
    exact left
  · intro returns id metric isMetric
    refine (@delAll_vm F _ _ _ _ setup counted tmpl _ _ distinct _ isMetric present id).trans ?_
    split
    · rename_i member
      simp only [forgets, used, amountsOf_vm distinct member]
      exact returns id member metric isMetric
    · rename_i absent
      rw [usage, Rows.usage, used, amountsOf_absent absent]
      rfl

end Machines

end Quotas

end OpenNebula.Quota
