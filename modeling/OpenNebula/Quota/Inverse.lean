import Mathlib.Algebra.Order.Ring.Rat
import OpenNebula.Quota.Releases

namespace OpenNebula.Quota.Quotas

open Library

/-! # Virtual machines that are counted and released again -/

def exact (generic : List String) : Setup ℚ := ⟨id, generic⟩

variable {generic : List String} {tmpl : QuotaTemplate ℚ} {defaults quotas : Quotas ℚ}

def vmMetricsOf (generic : List String) : List String := (exact generic).metrics .vm

/-- No counter is negative. -/
def Natural (generic : List String) (quotas : Quotas ℚ) : Prop :=
  ∀ id, ∀ metric ∈ vmMetricsOf generic, 0 ≤ quotas.usage .vm id metric

/-- What a virtual machine adds to a counter. -/
def added (generic : List String) (tmpl : QuotaTemplate ℚ) (metric : String) : ℚ :=
  (amounts (vmMetricsOf generic) (vmRequest tmpl "").usage metric).sum

/-- Its release undoes what the check of a virtual machine has counted. -/
structure Undoes (generic : List String) (tmpl : QuotaTemplate ℚ) (quotas after : Quotas ℚ) : Prop where
  restored : SameKind (exact generic) .vm quotas (delVm (exact generic) tmpl after)
  counted : Natural generic after
  released : Natural generic (delVm (exact generic) tmpl after)

theorem grown_exact (usage : ℚ) (nums : List ℚ) : grown (exact generic) usage nums = usage + nums.sum := by
  induction nums generalizing usage with
  | nil => exact (add_zero usage).symm
  | cons num rest induction => exact (induction _).trans (by simp [exact, add_assoc])

theorem amounts_neg (metrics : List String) (request : String → Option ℚ) (metric : String) :
    (amounts metrics (fun metric => (request metric).map fun num => -num) metric).sum =
      -(amounts metrics request metric).sum := by
  induction metrics with
  | nil => simp [amounts]
  | cons first rest induction =>
    unfold amounts at induction ⊢
    by_cases same : first = metric
    · cases asked : request first with
      | none => simpa [same, asked, same ▸ asked] using induction
      | some num =>
        rw [same] at asked
        simp [same, asked, induction, add_comm]
    · simpa [same] using induction

theorem machinesReturn_iff : MachinesReturn (exact generic) tmpl quotas ↔ ∀ request ∈ vmRequests (quotas .vm) tmpl,
      let row := ((quotas .vm).lookup request.id).getD newRow
      forgetsCluster (vmMetricsOf generic) row → ∀ metric ∈ vmMetricsOf generic, row.used metric = 0 := by
  refine forall₂_congr fun request _ => ⟨fun back forgets metric member => ?_, fun zero metric member => ?_⟩
  · exact ((if_pos forgets).symm.trans (back metric member)).symm
  · change ite _ _ _ = _
    split
    · rename_i forgets
      exact (zero forgets metric member).symm
    · rw [grown_exact, grown_exact, amounts_neg, add_neg_cancel_right]

theorem natural_charge_iff (keyed : Keyed quotas) (natural : Natural generic quotas) :
    Natural generic (charge (exact generic) (vmRequests (quotas .vm) tmpl) quotas) ↔
      ∀ request ∈ vmRequests (quotas .vm) tmpl, ∀ metric ∈ vmMetricsOf generic,
        0 ≤ quotas.usage .vm request.id metric + added generic tmpl metric := by
  have distinct := @vmIds_nodup ℚ tmpl quotas keyed
  simp only [Natural, charge_usage, vmRequests_eq, List.forall_mem_map, grown_exact]
  constructor
  · intro counted id member metric isMetric
    have usage := counted id metric isMetric
    rwa [amountsOf_vm distinct member] at usage
  · intro counted id metric isMetric
    by_cases member : id ∈ vmIds (quotas .vm) tmpl
    · rw [amountsOf_vm distinct member]
      exact counted id member metric isMetric
    · rw [amountsOf_absent member, List.sum_nil, add_zero]
      exact natural id metric isMetric

/-- A check that is accepted is undone, and no counter is negative on the way, exactly where the
quota of the cluster has a limit or no usage, and no counter is brought below zero. -/
theorem undoes_iff (generic : List String) (tmpl : QuotaTemplate ℚ) (defaults quotas : Quotas ℚ)
    (keyed : Keyed quotas) (accepted : (checkVm (exact generic) tmpl defaults quotas).2 = .ok ()) :
    Undoes generic tmpl quotas (checkVm (exact generic) tmpl defaults quotas).1 ↔
      Natural generic quotas ∧ ∀ request ∈ vmRequests (quotas .vm) tmpl,
        let row := ((quotas .vm).lookup request.id).getD newRow
        (forgetsCluster (vmMetricsOf generic) row → ∀ metric ∈ vmMetricsOf generic, row.used metric = 0) ∧
          ∀ metric ∈ vmMetricsOf generic, 0 ≤ row.used metric + added generic tmpl metric := by
  rw [checkVm, checkAll_ok accepted]
  have back : SameKind (exact generic) .vm quotas
      (delVm (exact generic) tmpl (charge (exact generic) (vmRequests (quotas .vm) tmpl) quotas)) ↔ _ :=
    (sameKind_machines_iff keyed rfl).trans machinesReturn_iff
  have counted := @natural_charge_iff generic tmpl quotas keyed
  constructor
  · intro undoes
    have natural : Natural generic quotas := fun id metric isMetric => by
      rw [← undoes.restored id metric isMetric]
      exact undoes.released id metric isMetric
    exact ⟨natural, fun request member =>
      ⟨back.mp undoes.restored request member, (counted natural).mp undoes.counted request member⟩⟩
  · rintro ⟨natural, both⟩
    have restored := back.mpr fun request member => (both request member).1
    refine ⟨restored, (counted natural).mpr fun request member => (both request member).2, fun id metric isMetric => ?_⟩
    rw [restored id metric isMetric]
    exact natural id metric isMetric

def licensed (count : ℚ) : QuotaTemplate ℚ :=
  { value := fun metric => if metric = "VMS" then some 1 else if metric = "LICENSE" then some count else none
    systemDiskSize := 0 }

theorem undoes_licensed :
    Undoes ["LICENSE"] (licensed 5) (fun _ => ∅) (checkVm (exact ["LICENSE"]) (licensed 5) (fun _ => ∅) fun _ => ∅).1 := by
  refine (undoes_iff ["LICENSE"] (licensed 5) _ _ (fun row found => by cases found) (by decide +kernel)).mpr
    ⟨fun _ _ _ => le_rfl, fun request member => ⟨fun _ _ _ => rfl, ?_⟩⟩
  change ∀ metric ∈ vmMetricsOf ["LICENSE"], 0 ≤ 0 + added ["LICENSE"] (licensed 5) metric
  decide +kernel

/-- A negative number of a generic metric is accepted, and brings its counter below zero. -/
theorem not_natural_licensed : (checkVm (exact ["LICENSE"]) (licensed (-5)) (fun _ => ∅) fun _ => ∅).2 = .ok () ∧
      usage (checkVm (exact ["LICENSE"]) (licensed (-5)) (fun _ => ∅) fun _ => ∅).1 .vm "" "LICENSE" = -5 := by
  decide +kernel

end OpenNebula.Quota.Quotas
