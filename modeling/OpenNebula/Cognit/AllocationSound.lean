import OpenNebula.Cognit.AllocationPlans
import Mathlib.Tactic.NormNum

namespace OpenNebula.Cognit.DeviceAlloc

open Library

/-! # When the allocation is sound and total -/

variable {δ : Type*}

namespace Plan

variable {plan : Plan δ} {id other : ℕ}

def withVm (plan : Plan δ) (id : ℕ) : Plan δ := { plan with nVms := Function.update plan.nVms id 1 }

theorem withVm_self : (plan.withVm id).nVms id = 1 := Function.update_self _ _ _

theorem withVm_of_ne (apart : other ≠ id) : (plan.withVm id).nVms other = plan.nVms other :=
  Function.update_of_ne apart _ _

end Plan

variable [DecidableEq δ]

namespace Problem

section Condition

variable (problem : Problem δ) (contentionCorr : Option ℚ)

/-- The second attempt is made when no plan can be represented in the first one. -/
def Tried : Prop :=
  contentionCorr = none ∨
    contentionCorr = some problem.contentionCorr ∧ ¬ ∃ plan, problem.Representable none plan

/-- An assignment of all devices whose numbers of VMs the program can express -/
structure Rounds (cluster : δ → ℕ) : Prop where
  named : ∀ device ∈ problem.devices, cluster device.id ∈ device.clusterIds
  capacity : ∀ other ∈ problem.clusters,
    problem.assigned cluster Device.capacityLoad other.id ≤ other.maxCapacity
  rounded : ∀ other ∈ problem.clusters,
    0 ≤ ⌈problem.assigned cluster Device.capacityLoad other.id⌉ ∧
      (⌈problem.assigned cluster Device.capacityLoad other.id⌉ : ℚ) ≤ min other.maxCapacity problem.capUb ∧
        (⌈problem.assigned cluster Device.capacityLoad other.id⌉ : ℚ) ≤
          problem.assigned cluster Device.capacityLoad other.id + 9999 / 10000
  total : (problem.minCapacity : ℚ) ≤
      ∑ other ∈ problem.clusters.toFinset, (⌈problem.assigned cluster Device.capacityLoad other.id⌉ : ℚ) ∧
    ∑ other ∈ problem.clusters.toFinset, (⌈problem.assigned cluster Device.capacityLoad other.id⌉ : ℚ) ≤
      problem.capUb
  inSpan : ∀ other ∈ problem.clusters, 1 < (other.breakpoints contentionCorr).length →
    InSpan (other.breakpoints contentionCorr) (problem.assigned cluster Device.load other.id)

/-- The condition on the devices and the clusters -/
structure Served : Prop where
  named : (∃ contentionCorr plan, problem.Tried contentionCorr ∧ problem.Representable contentionCorr plan) →
    ∀ device ∈ problem.devices, device.clusterIds ≠ []
  full : ∀ contentionCorr plan, problem.Tried contentionCorr → problem.Cheapest contentionCorr plan →
    ∀ cluster ∈ problem.clusters, ¬ problem.Named cluster →
      cluster.maxCapacity < 1 ∨
        problem.capUb < (∑ other ∈ problem.clusters.toFinset with problem.Named other, (plan.nVms other.id : ℚ)) + 1
  rounds : (∃ cluster, problem.Fits cluster) →
    ∃ contentionCorr cluster, (contentionCorr = none ∨ contentionCorr = some problem.contentionCorr) ∧
      problem.Rounds contentionCorr cluster

end Condition

variable {problem : Problem δ} {contentionCorr : Option ℚ} {values : Values δ} {plan : Plan δ} {device : Device δ}

omit [DecidableEq δ] in
theorem mem_allocs {id : ℕ} (member : device ∈ problem.devices) :
    (device.id, id) ∈ (problem.result contentionCorr values).allocs ↔ allocated values device = some id := by
  simp only [result, List.mem_filterMap, Option.map_eq_some_iff, Prod.mk.injEq]
  constructor
  · rintro ⟨other, otherMember, found, isFound, same, rfl⟩
    rwa [← device_eq otherMember member same]
  · exact fun isFound => ⟨device, member, id, isFound, rfl, rfl⟩

theorem Satisfies.allocated_iff (satisfies : problem.Satisfies contentionCorr values)
    (member : device ∈ problem.devices) {id : ℕ} :
    Problem.allocated values device = some id ↔ id ∈ device.clusterIds ∧ problem.clusterOf values device.id = id := by
  rw [clusterOf_eq member]
  constructor
  · intro isAllocated
    exact ⟨(mem_of_allocated isAllocated).1, by rw [isAllocated, Option.getD_some]⟩
  · rintro ⟨names, rfl⟩
    obtain ⟨id, -, isAllocated, -⟩ := satisfies.allocated member (List.ne_nil_of_mem names)
    rw [isAllocated, Option.getD_some]

theorem Satisfies.put_eq (satisfies : problem.Satisfies contentionCorr values) (load : Device δ → ℚ) (id : ℕ) :
    problem.put (problem.result contentionCorr values) load id =
      problem.assigned (problem.clusterOf values) load id := by
  unfold put assigned
  refine Finset.sum_congr (Finset.filter_congr fun device member => ?_) fun _ _ => rfl
  rw [mem_allocs (List.mem_toFinset.1 member), satisfies.allocated_iff (List.mem_toFinset.1 member)]

theorem filter_allocs {devices : List (Device δ)} (differ : (devices.map Device.id).Nodup)
    (member : device ∈ devices) :
    ((devices.filterMap fun device => (allocated values device).map fun id => (device.id, id)).filter fun item =>
      item.1 = device.id) = ((allocated values device).map fun id => (device.id, id)).toList := by
  induction devices with
  | nil => exact absurd member List.not_mem_nil
  | cons first rest ih =>
    obtain ⟨absent, differ⟩ := List.nodup_cons.1 differ
    rcases List.mem_cons.1 member with rfl | later
    · have others : ((rest.filterMap fun other => (allocated values other).map fun id => (other.id, id)).filter
          fun item => item.1 = device.id) = [] := by
        refine List.filter_eq_nil_iff.2 fun item itemMember => ?_
        obtain ⟨other, otherMember, isItem⟩ := List.mem_filterMap.1 itemMember
        obtain ⟨id, -, rfl⟩ := Option.map_eq_some_iff.1 isItem
        exact fun same => absent (of_decide_eq_true same ▸ List.mem_map_of_mem otherMember)
      cases found : allocated values device with
      | none | some id => simp [found, others]
    · have apart : first.id ≠ device.id := fun same => absent (same ▸ List.mem_map_of_mem later)
      rw [← ih differ later]
      cases found : allocated values first with
      | none => simp [found]
      | some id => simp [found, apart]

omit [DecidableEq δ] in
theorem sum_nVms : ∑ id ∈ (problem.result contentionCorr values).nVms.ids,
    ((problem.result contentionCorr values).nVms.get id : ℚ) =
      ∑ cluster ∈ problem.clusters.toFinset, (values.nVms cluster.id : ℚ) := by
  have ids : (problem.result contentionCorr values).nVms.ids = problem.clusters.toFinset.image Cluster.id := by
    ext id
    simp [result, Table.ids]
  rw [ids, Finset.sum_image fun first member second otherMember same =>
    cluster_eq (List.mem_toFinset.1 member) (List.mem_toFinset.1 otherMember) same]
  rfl

variable {cluster : Cluster}

theorem assigned_unnamed (unnamed : ¬ problem.Named cluster) (assignment : δ → ℕ) (load : Device δ → ℚ) :
    problem.assigned assignment load cluster.id = 0 := by
  unfold assigned
  rw [Finset.filter_eq_empty_iff.2 fun device member names => unnamed ⟨device, List.mem_toFinset.1 member, names.1⟩]
  rfl

theorem Representable.nVms_eq (representable : problem.Representable contentionCorr plan)
    (member : cluster ∈ problem.clusters) (named : problem.Named cluster) :
    plan.nVms cluster.id = ⌈problem.assigned plan.cluster Device.capacityLoad cluster.id⌉ := by
  have atLeast := representable.vmCountLb cluster member named
  have atMost := representable.vmCountUb cluster member named
  refine (Int.ceil_eq_iff.2 ⟨?_, atLeast⟩).symm
  linarith

theorem Satisfies.sound_iff (satisfies : problem.Satisfies contentionCorr values) :
    problem.Sound (problem.result contentionCorr values) ↔ (∀ device ∈ problem.devices, device.clusterIds ≠ []) ∧
        ∀ cluster ∈ problem.clusters, ¬ problem.Named cluster → values.nVms cluster.id = 0 := by
  have lookup_eq {cluster : Cluster} (member : cluster ∈ problem.clusters) :
      (problem.result contentionCorr values).nVms.lookup cluster.id = some (values.nVms cluster.id) :=
    Table.lookup_eq_some.2 ⟨List.mem_toFinset.2 (List.mem_map_of_mem member), rfl⟩
  constructor
  · intro sound
    refine ⟨fun device member => ?_, fun cluster member unnamed => ?_⟩
    · obtain ⟨id, names, -⟩ := sound.allocated device member
      exact List.ne_nil_of_mem names
    · have counted := sound.nVms cluster member
      rw [lookup_eq member, satisfies.put_eq, assigned_unnamed unnamed, Int.ceil_zero] at counted
      exact Option.some.inj counted
  · rintro ⟨named, unnamed⟩
    refine ⟨fun device member => ?_, fun cluster member => ?_, fun cluster member => ?_, ?_⟩
    · obtain ⟨id, idMember, isAllocated, -⟩ := satisfies.allocated member (named device member)
      refine ⟨id, idMember, ?_⟩
      rw [result, filter_allocs problem.devicesDiffer member, isAllocated]
      rfl
    · rw [satisfies.put_eq]
      by_cases isNamed : problem.Named cluster
      · exact satisfies.representable.capacity cluster member isNamed
      · obtain ⟨nonneg, bounded⟩ := satisfies.nVmsBounds cluster member
        rw [assigned_unnamed isNamed]
        exact (Int.cast_nonneg nonneg).trans (bounded.trans (min_le_left _ _))
    · rw [lookup_eq member, satisfies.put_eq]
      by_cases isNamed : problem.Named cluster
      · exact congrArg _ (satisfies.representable.nVms_eq member isNamed)
      · rw [assigned_unnamed isNamed, Int.ceil_zero, unnamed cluster member isNamed]
    · rw [sum_nVms]
      exact ⟨satisfies.capacityLb, satisfies.capacityUb⟩

theorem Rounds.exists_plan {cluster : δ → ℕ} (rounds : problem.Rounds contentionCorr cluster) :
    ∃ plan, problem.Representable contentionCorr plan := by
  have onCurve (other : Cluster) : ∃ energy, other ∈ problem.clusters →
      (1 < (other.breakpoints contentionCorr).length →
        OnCurve (other.curve contentionCorr) (problem.assigned cluster Device.load other.id) energy) ∧
      (¬ 1 < (other.breakpoints contentionCorr).length → energy = 0) := by
    by_cases member : other ∈ problem.clusters
    · by_cases several : 1 < (other.breakpoints contentionCorr).length
      · obtain ⟨energy, on⟩ := (other.exists_energy_iff several).2 (rounds.inSpan other member several)
        exact ⟨energy, fun _ => ⟨fun _ => on, fun short => absurd several short⟩⟩
      · exact ⟨0, fun _ => ⟨fun long => absurd long several, fun _ => rfl⟩⟩
    · exact ⟨0, fun known => absurd known member⟩
  choose energy onCurve using onCurve
  refine ⟨⟨cluster, fun id => ⌈problem.assigned cluster Device.capacityLoad id⌉, energy⟩, ?_⟩
  exact {
    nVmsBounds := fun other member => ⟨(rounds.rounded other member).1, (rounds.rounded other member).2.1⟩
    named := fun device member _ => rounds.named device member
    capacity := fun other member _ => rounds.capacity other member
    vmCountLb := fun other member _ => Int.le_ceil _
    vmCountUb := fun other member _ => (rounds.rounded other member).2.2
    capacityLb := rounds.total.1
    capacityUb := rounds.total.2
    onCurve := fun other member => (onCurve other member).1
    withoutCurve := fun other member => (onCurve other member).2 }

theorem Satisfies.rounds (satisfies : problem.Satisfies contentionCorr values)
    (named : ∀ device ∈ problem.devices, device.clusterIds ≠ [])
    (unnamed : ∀ cluster ∈ problem.clusters, ¬ problem.Named cluster → values.nVms cluster.id = 0) :
    problem.Rounds contentionCorr (problem.clusterOf values) := by
  have representable := satisfies.representable
  have counted (cluster : Cluster) (member : cluster ∈ problem.clusters) :
      ⌈problem.assigned (problem.clusterOf values) Device.capacityLoad cluster.id⌉ = values.nVms cluster.id := by
    by_cases isNamed : problem.Named cluster
    · exact (representable.nVms_eq member isNamed).symm
    · rw [assigned_unnamed isNamed, Int.ceil_zero, unnamed cluster member isNamed]
  have total : ∑ cluster ∈ problem.clusters.toFinset,
      (⌈problem.assigned (problem.clusterOf values) Device.capacityLoad cluster.id⌉ : ℚ) =
        ∑ cluster ∈ problem.clusters.toFinset, (values.nVms cluster.id : ℚ) :=
    Finset.sum_congr rfl fun cluster member => by rw [counted cluster (List.mem_toFinset.1 member)]
  refine ⟨fun device member => representable.named device member (named device member), fun cluster member => ?_,
    fun cluster member => ?_, by rw [total]; exact ⟨satisfies.capacityLb, satisfies.capacityUb⟩,
    fun cluster member several => ?_⟩
  · by_cases isNamed : problem.Named cluster
    · exact representable.capacity cluster member isNamed
    · obtain ⟨nonneg, bounded⟩ := satisfies.nVmsBounds cluster member
      rw [assigned_unnamed isNamed]
      exact (Int.cast_nonneg nonneg).trans (bounded.trans (min_le_left _ _))
  · obtain ⟨nonneg, bounded⟩ := satisfies.nVmsBounds cluster member
    rw [counted cluster member]
    refine ⟨nonneg, bounded, ?_⟩
    by_cases isNamed : problem.Named cluster
    · exact representable.vmCountUb cluster member isNamed
    · rw [assigned_unnamed isNamed, unnamed cluster member isNamed]
      norm_num
  · exact (cluster.exists_energy_iff several).1 ⟨_, representable.onCurve cluster member several⟩

section Attempts

variable {solve : Solver δ}

section

variable (exact : problem.Exact solve)
include exact

theorem Exact.optimal (found : solve contentionCorr = some values) :
    problem.Optimal contentionCorr values := by
  have answer := exact contentionCorr
  rwa [found] at answer

theorem Exact.not_representable (missing : solve contentionCorr = none) :
    ¬ ∃ plan, problem.Representable contentionCorr plan := by
  have answer := exact contentionCorr
  rw [missing] at answer
  exact fun found => answer (exists_optimal_iff.2 found)

theorem Exact.optimizeContention_eq_some {result : Result δ}
    (returned : problem.optimizeContention solve = some result) :
    ∃ contentionCorr values, problem.Tried contentionCorr ∧ problem.Optimal contentionCorr values ∧
      result = problem.result contentionCorr values := by
  unfold optimizeContention optimize at returned
  cases first : solve none with
  | some values =>
    rw [first] at returned
    cases returned
    exact ⟨none, values, .inl rfl, exact.optimal first, rfl⟩
  | none =>
    rw [first] at returned
    obtain ⟨values, second, rfl⟩ := Option.map_eq_some_iff.1 returned
    exact ⟨_, values, .inr ⟨rfl, exact.not_representable first⟩, exact.optimal second, rfl⟩

theorem Exact.optimizeContention_eq_none
    (missing : problem.optimizeContention solve = none) : (¬ ∃ plan, problem.Representable none plan) ∧
      ¬ ∃ plan, problem.Representable (some problem.contentionCorr) plan := by
  unfold optimizeContention optimize at missing
  cases first : solve none with
  | some values =>
    rw [first] at missing
    cases missing
  | none =>
    rw [first] at missing
    exact ⟨exact.not_representable first, exact.not_representable (Option.map_eq_none_iff.1 missing)⟩

end

open Classical in
noncomputable def exactSolver (problem : Problem δ) : Solver δ := fun attempt =>
  if found : ∃ values, problem.Optimal attempt values then some found.choose else none

theorem exactSolver_exact : problem.Exact problem.exactSolver := by
  intro attempt
  unfold exactSolver
  split
  next same =>
    split at same
    next found =>
      cases same
      exact found.choose_spec
    next => cases same
  next same =>
    split at same
    next => cases same
    next missing => exact missing

theorem exists_exact (tried : problem.Tried contentionCorr) (optimal : problem.Optimal contentionCorr values) :
    ∃ solve, problem.Exact solve ∧
      problem.optimizeContention solve = some (problem.result contentionCorr values) := by
  let solve : Solver δ := Function.update problem.exactSolver contentionCorr (some values)
  have atAttempt : solve contentionCorr = some values := Function.update_self _ _ _
  have exact : problem.Exact solve := by
    intro attempt
    by_cases same : attempt = contentionCorr
    · rw [same, atAttempt]
      exact optimal
    · rw [show solve attempt = _ from Function.update_of_ne same _ _]
      exact exactSolver_exact attempt
  refine ⟨solve, exact, ?_⟩
  unfold optimizeContention optimize
  rcases tried with rfl | ⟨rfl, unrepresentable⟩
  · rw [atAttempt]
    rfl
  · cases first : solve none with
    | some others => exact absurd ⟨_, (exact.optimal first).cheapest.1⟩ unrepresentable
    | none =>
      rw [atAttempt]
      rfl

end Attempts

omit [DecidableEq δ] in
theorem sum_withVm (member : cluster ∈ problem.clusters) (without : plan.nVms cluster.id = 0) :
    ∑ other ∈ problem.clusters.toFinset, ((plan.withVm cluster.id).nVms other.id : ℚ) =
      ∑ other ∈ problem.clusters.toFinset, (plan.nVms other.id : ℚ) + 1 := by
  have known := List.mem_toFinset.2 member
  rw [← Finset.add_sum_erase _ _ known, ← Finset.add_sum_erase _ (fun other => (plan.nVms other.id : ℚ)) known]
  have others : ∑ other ∈ problem.clusters.toFinset.erase cluster, ((plan.withVm cluster.id).nVms other.id : ℚ) =
      ∑ other ∈ problem.clusters.toFinset.erase cluster, (plan.nVms other.id : ℚ) := by
    refine Finset.sum_congr rfl fun other otherMember => ?_
    obtain ⟨apart, otherKnown⟩ := Finset.mem_erase.1 otherMember
    rw [Plan.withVm_of_ne fun same => apart (cluster_eq (List.mem_toFinset.1 otherKnown) member same)]
  rw [others, Plan.withVm_self, without]
  push_cast
  ring

theorem Representable.withVm (representable : problem.Representable contentionCorr plan)
    (member : cluster ∈ problem.clusters) (unnamed : ¬ problem.Named cluster) (room : 1 ≤ cluster.maxCapacity)
    (without : plan.nVms cluster.id = 0)
    (left : ∑ other ∈ problem.clusters.toFinset, (plan.nVms other.id : ℚ) + 1 ≤ problem.capUb) :
    problem.Representable contentionCorr (plan.withVm cluster.id) := by
  have kept {other : Cluster} (otherMember : other ∈ problem.clusters) (named : problem.Named other) :
      (plan.withVm cluster.id).nVms other.id = plan.nVms other.id :=
    Plan.withVm_of_ne fun same => unnamed (cluster_eq otherMember member same ▸ named)
  have nonneg : 0 ≤ ∑ other ∈ problem.clusters.toFinset, (plan.nVms other.id : ℚ) :=
    Finset.sum_nonneg fun other otherMember =>
      Int.cast_nonneg (representable.nVmsBounds other (List.mem_toFinset.1 otherMember)).1
  exact { representable with
    nVmsBounds := fun other otherMember => by
      by_cases same : other.id = cluster.id
      · obtain rfl := cluster_eq otherMember member same
        rw [Plan.withVm_self]
        exact ⟨zero_le_one, le_min (by exact_mod_cast room) (by push_cast; linarith)⟩
      · rw [Plan.withVm_of_ne same]
        exact representable.nVmsBounds other otherMember
    vmCountLb := fun other otherMember named => by
      rw [kept otherMember named]
      exact representable.vmCountLb other otherMember named
    vmCountUb := fun other otherMember named => by
      rw [kept otherMember named]
      exact representable.vmCountUb other otherMember named
    capacityLb := by
      have atLeast := representable.capacityLb
      rw [sum_withVm member without]
      linarith
    capacityUb := by
      rw [sum_withVm member without]
      exact left }

theorem Cheapest.exists_unnamed (cheapest : problem.Cheapest contentionCorr plan)
    (member : cluster ∈ problem.clusters) (unnamed : ¬ problem.Named cluster) (room : 1 ≤ cluster.maxCapacity)
    (left : (∑ other ∈ problem.clusters.toFinset with problem.Named other, (plan.nVms other.id : ℚ)) + 1 ≤ problem.capUb) :
    ∃ plan, problem.Cheapest contentionCorr plan ∧
      ∃ other ∈ problem.clusters, ¬ problem.Named other ∧ plan.nVms other.id ≠ 0 := by
  by_cases used : ∃ other ∈ problem.clusters, ¬ problem.Named other ∧ plan.nVms other.id ≠ 0
  · exact ⟨plan, cheapest, used⟩
  · push Not at used
    have total : ∑ other ∈ problem.clusters.toFinset, (plan.nVms other.id : ℚ) =
        ∑ other ∈ problem.clusters.toFinset with problem.Named other, (plan.nVms other.id : ℚ) := by
      rw [Finset.sum_filter]
      refine Finset.sum_congr rfl fun other otherMember => ?_
      split
      next => rfl
      next without => rw [used other (List.mem_toFinset.1 otherMember) without, Int.cast_zero]
    rw [← total] at left
    refine ⟨plan.withVm cluster.id, ⟨?_, cheapest.2⟩, cluster, member, unnamed, ?_⟩
    · exact cheapest.1.withVm member unnamed room (used cluster member unnamed) left
    · rw [Plan.withVm_self]
      exact one_ne_zero

theorem Served.unnamed (served : problem.Served) (tried : problem.Tried contentionCorr)
    (cheapest : problem.Cheapest contentionCorr plan) (member : cluster ∈ problem.clusters)
    (unnamed : ¬ problem.Named cluster) : plan.nVms cluster.id = 0 := by
  obtain ⟨nonneg, bounded⟩ := cheapest.1.nVmsBounds cluster member
  by_contra used
  have one : 1 ≤ plan.nVms cluster.id := by omega
  have oneCast : (1 : ℚ) ≤ plan.nVms cluster.id := by exact_mod_cast one
  rcases served.full contentionCorr plan tried cheapest cluster member unnamed with small | noRoom
  · exact absurd (oneCast.trans (bounded.trans (min_le_left _ _))) (not_le.2 small)
  · refine absurd noRoom (not_lt.2 ?_)
    have apart : cluster ∉ problem.clusters.toFinset.filter problem.Named :=
      fun inside => unnamed (Finset.mem_filter.1 inside).2
    calc (∑ other ∈ problem.clusters.toFinset with problem.Named other, (plan.nVms other.id : ℚ)) + 1
        ≤ (∑ other ∈ problem.clusters.toFinset with problem.Named other, (plan.nVms other.id : ℚ)) +
            plan.nVms cluster.id := by linarith
      _ = ∑ other ∈ insert cluster (problem.clusters.toFinset.filter problem.Named), (plan.nVms other.id : ℚ) := by
          rw [Finset.sum_insert apart, add_comm]
      _ ≤ ∑ other ∈ problem.clusters.toFinset, (plan.nVms other.id : ℚ) := by
          refine Finset.sum_le_sum_of_subset_of_nonneg ?_ fun other otherMember _ => ?_
          · exact Finset.insert_subset (List.mem_toFinset.2 member) (Finset.filter_subset _ _)
          · exact Int.cast_nonneg (cheapest.1.nVmsBounds other (List.mem_toFinset.1 otherMember)).1
      _ ≤ problem.capUb := cheapest.1.capacityUb

end Problem

open Problem in
theorem allocates_iff (problem : Problem δ) : problem.Allocates ↔ problem.Served := by
  constructor
  · intro allocates
    have sound {contentionCorr : Option ℚ} {values : Values δ} (tried : problem.Tried contentionCorr)
        (optimal : problem.Optimal contentionCorr values) :
        problem.Sound (problem.result contentionCorr values) := by
      obtain ⟨solve, exact, returned⟩ := exists_exact tried optimal
      have answer := allocates solve exact
      rwa [returned] at answer
    refine ⟨?_, fun contentionCorr plan tried cheapest cluster member unnamed => ?_, fun ⟨cluster, fits⟩ => ?_⟩
    · rintro ⟨contentionCorr, plan, tried, representable⟩
      obtain ⟨values, optimal⟩ := exists_optimal_iff.2 ⟨plan, representable⟩
      exact (optimal.1.sound_iff.1 (sound tried optimal)).1
    · by_contra room
      push Not at room
      obtain ⟨other, otherCheapest, used⟩ := cheapest.exists_unnamed member unnamed room.1 room.2
      obtain ⟨values, optimal, counts⟩ := otherCheapest.exists_optimal
      obtain ⟨usedCluster, usedMember, isUnnamed, notZero⟩ := used
      rw [← counts] at notZero
      exact notZero ((optimal.1.sound_iff.1 (sound tried optimal)).2 usedCluster usedMember isUnnamed)
    · have answer := allocates problem.exactSolver exactSolver_exact
      cases returned : problem.optimizeContention problem.exactSolver with
      | none =>
        rw [returned] at answer
        exact absurd ⟨cluster, fits⟩ answer
      | some result =>
        obtain ⟨contentionCorr, values, tried, optimal, -⟩ := exactSolver_exact.optimizeContention_eq_some returned
        obtain ⟨named, unnamed⟩ := optimal.1.sound_iff.1 (sound tried optimal)
        exact ⟨contentionCorr, _, tried.imp_right And.left, optimal.1.rounds named unnamed⟩
  · intro served solve exact
    cases returned : problem.optimizeContention solve with
    | some result =>
      obtain ⟨contentionCorr, values, tried, optimal, rfl⟩ := exact.optimizeContention_eq_some returned
      refine optimal.1.sound_iff.2 ⟨served.named ⟨_, _, tried, optimal.cheapest.1⟩, fun cluster member unnamed => ?_⟩
      exact served.unnamed tried optimal.cheapest member unnamed
    | none =>
      intro fitting
      obtain ⟨first, second⟩ := exact.optimizeContention_eq_none returned
      obtain ⟨contentionCorr, cluster, rfl | rfl, rounds⟩ := served.rounds fitting
      · exact first rounds.exists_plan
      · exact second rounds.exists_plan

def cluster : Cluster := { id := 1, maxCapacity := 2, energy := [(0, 5), (2, 10)] }

def homeless : Problem ℕ where
  devices := [⟨1, 1, 1, [1]⟩, ⟨2, 1, 1, []⟩]
  clusters := [cluster]
  devicesDiffer := by decide
  clustersDiffer := by decide
  clustersKnown := by decide
  breakpointsKnown := by decide

/-- The device needs a little more than one VM. -/
def slightlyMore : Problem ℕ where
  devices := [⟨1, 1, 20001 / 20000, [1]⟩]
  clusters := [cluster]
  devicesDiffer := by decide
  clustersDiffer := by decide
  clustersKnown := by decide
  breakpointsKnown := by decide

theorem cluster_breakpoints : cluster.breakpoints none = [(0, 5), (2, 10)] := by
  have apart : isclose 10 5 = false := by
    refine decide_eq_false ?_
    norm_num
  simp [Cluster.breakpoints, cluster, apart]

theorem cluster_curve : cluster.curve none = [((0, 5), (2, 10))] := by
  have ordered : (toLex (0, 5) : ℚ ×ₗ ℚ) ≤ toLex (2, 10) := Prod.Lex.toLex_le_toLex.2 (.inl two_pos)
  rw [Cluster.curve, cluster_breakpoints, sorted]
  simp [ordered, segments]

theorem homeless_assigned (load : Device ℕ → ℚ) : homeless.assigned (fun _ => 1) load 1 = load ⟨1, 1, 1, [1]⟩ := by
  simp [Problem.assigned, homeless, Finset.sum_filter]

theorem homeless_representable : homeless.Representable none ⟨fun _ => 1, fun _ => 1, fun _ => 15 / 2⟩ := by
  have ub : homeless.capUb = 2 := by simp [Problem.capUb, homeless, cluster]
  have total : ∑ other ∈ homeless.clusters.toFinset, (((fun _ => 1 : ℕ → ℤ) other.id : ℤ) : ℚ) = 1 := by
    simp [homeless]
  constructor
  case nVmsBounds => rw [ub]; simp [homeless, cluster]
  case named => decide
  case capacity | vmCountLb | vmCountUb =>
    rintro other member -
    obtain rfl := List.mem_singleton.1 member
    rw [show cluster.id = 1 from rfl, homeless_assigned]
    norm_num [cluster]
  case capacityLb => rw [total]; norm_num [homeless]
  case capacityUb => rw [total, ub]; norm_num
  case onCurve =>
    rintro other member -
    obtain rfl := List.mem_singleton.1 member
    rw [show cluster.id = 1 from rfl, homeless_assigned]
    refine ⟨((0, 5), (2, 10)), ?_, 1 / 2, by norm_num, by norm_num, by norm_num, by norm_num⟩
    rw [cluster_curve]
    exact List.mem_singleton_self _
  case withoutCurve =>
    intro other member short
    obtain rfl := List.mem_singleton.1 member
    rw [cluster_breakpoints] at short
    exact absurd (by decide) short

theorem slightlyMore_assigned {assignment : ℕ → ℕ} (chosen : assignment 1 = 1) (load : Device ℕ → ℚ) :
    slightlyMore.assigned assignment load 1 = load ⟨1, 1, 20001 / 20000, [1]⟩ := by
  simp [Problem.assigned, slightlyMore, Finset.sum_filter, chosen]

theorem slightlyMore_fits : slightlyMore.Fits fun _ => 1 := by
  have ub : slightlyMore.capUb = 2 := by simp [Problem.capUb, slightlyMore, cluster]
  have count : ⌈slightlyMore.assigned (fun _ => 1) Device.capacityLoad 1⌉ = 2 := by
    rw [slightlyMore_assigned rfl]
    norm_num
  have total : ∑ other ∈ slightlyMore.clusters.toFinset,
      (⌈slightlyMore.assigned (fun _ => 1) Device.capacityLoad other.id⌉ : ℚ) = 2 := by
    rw [show slightlyMore.clusters.toFinset = {cluster} from rfl, Finset.sum_singleton,
      show cluster.id = 1 from rfl, count]
    norm_num
  constructor
  case named => decide
  case capacity =>
    intro other member
    obtain rfl := List.mem_singleton.1 member
    rw [show cluster.id = 1 from rfl, slightlyMore_assigned rfl]
    norm_num [cluster]
  case total =>
    rw [total, ub]
    norm_num [slightlyMore]
  case inSpan =>
    intro other member
    obtain rfl := List.mem_singleton.1 member
    rw [show cluster.id = 1 from rfl, slightlyMore_assigned rfl]
    norm_num [InSpan, cluster]

theorem slightlyMore_unrepresentable (contentionCorr : Option ℚ) :
    ¬ ∃ plan, slightlyMore.Representable contentionCorr plan := by
  rintro ⟨plan, representable⟩
  have member : cluster ∈ slightlyMore.clusters := List.mem_singleton_self _
  have named : slightlyMore.Named cluster := by decide
  have chosen : plan.cluster 1 = 1 :=
    List.mem_singleton.1 (representable.named ⟨1, 1, 20001 / 20000, [1]⟩ (List.mem_singleton_self _) (by decide))
  have atMost := representable.vmCountUb cluster member named
  rw [representable.nVms_eq member named, show cluster.id = 1 from rfl, slightlyMore_assigned chosen] at atMost
  norm_num at atMost

/-- A device without clusters is left out, and a load that is a little more than a whole number of VMs
is refused. -/
theorem not_allocates : ¬ homeless.Allocates ∧ ¬ slightlyMore.Allocates := by
  constructor
  · intro allocates
    obtain ⟨values, optimal⟩ := Problem.exists_optimal_iff.2 ⟨_, homeless_representable⟩
    obtain ⟨solve, exact, returned⟩ := Problem.exists_exact (.inl rfl) optimal
    have sound := allocates solve exact
    rw [returned] at sound
    exact (optimal.1.sound_iff.1 sound).1 ⟨2, 1, 1, []⟩ (by decide) rfl
  · intro allocates
    have exact : slightlyMore.Exact fun _ => none :=
      fun attempt optimal => slightlyMore_unrepresentable attempt (Problem.exists_optimal_iff.1 optimal)
    exact allocates (fun _ => none) exact ⟨_, slightlyMore_fits⟩

end OpenNebula.Cognit.DeviceAlloc
