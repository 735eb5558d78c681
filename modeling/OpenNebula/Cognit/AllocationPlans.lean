import OpenNebula.Cognit.DeviceOptimizer
import Mathlib.Data.Set.Finite.Lemmas

namespace OpenNebula.Cognit.DeviceAlloc

open Library

/-! # What the program of an attempt decides

A plan has a cluster for each device, a number of VMs for each cluster, and a point on its energy curve.
The solutions of the program are the plans that it can represent, with their costs.
-/

theorem sorted_perm (points : List (ℚ × ℚ)) : (sorted points).Perm points := by
  have permuted := ((points.map toLex).perm_insertionSort (· ≤ ·)).map ofLex
  rwa [List.map_map, show ofLex ∘ toLex = (id : ℚ × ℚ → ℚ × ℚ) from rfl, List.map_id] at permuted

theorem sorted_pairwise (points : List (ℚ × ℚ)) : (sorted points).Pairwise fun left right => left.1 ≤ right.1 := by
  refine List.pairwise_map.2 ((List.pairwise_insertionSort (· ≤ ·) _).imp fun {left right} ordered => ?_)
  rcases Prod.Lex.le_iff.1 ordered with before | ⟨same, -⟩
  · exact before.le
  · exact same.le

theorem Cluster.exists_energy_iff (cluster : Cluster) {contentionCorr : Option ℚ} {cpu : ℚ}
    (several : 1 < (cluster.breakpoints contentionCorr).length) :
    (∃ energy, OnCurve (cluster.curve contentionCorr) cpu energy) ↔
      InSpan (cluster.breakpoints contentionCorr) cpu := by
  have permuted := sorted_perm (cluster.breakpoints contentionCorr)
  rw [← inSpan_perm permuted]
  exact exists_onCurve_iff (permuted.length_eq ▸ several) (sorted_pairwise _)

structure Plan (δ : Type*) where
  cluster : δ → ℕ
  nVms : ℕ → ℤ
  energy : Cluster → ℚ

variable {δ : Type*} [DecidableEq δ]

namespace Problem

section Definitions

variable (problem : Problem δ) (contentionCorr : Option ℚ) (plan : Plan δ)

structure Representable : Prop where
  nVmsBounds : ∀ cluster ∈ problem.clusters,
    0 ≤ plan.nVms cluster.id ∧ (plan.nVms cluster.id : ℚ) ≤ min cluster.maxCapacity problem.capUb
  named : ∀ device ∈ problem.devices, device.clusterIds ≠ [] → plan.cluster device.id ∈ device.clusterIds
  capacity : ∀ cluster ∈ problem.clusters, problem.Named cluster →
    problem.assigned plan.cluster Device.capacityLoad cluster.id ≤ cluster.maxCapacity
  vmCountLb : ∀ cluster ∈ problem.clusters, problem.Named cluster →
    problem.assigned plan.cluster Device.capacityLoad cluster.id ≤ plan.nVms cluster.id
  vmCountUb : ∀ cluster ∈ problem.clusters, problem.Named cluster →
    plan.nVms cluster.id ≤ problem.assigned plan.cluster Device.capacityLoad cluster.id + 9999 / 10000
  capacityLb : (problem.minCapacity : ℚ) ≤ ∑ cluster ∈ problem.clusters.toFinset, (plan.nVms cluster.id : ℚ)
  capacityUb : ∑ cluster ∈ problem.clusters.toFinset, (plan.nVms cluster.id : ℚ) ≤ problem.capUb
  onCurve : ∀ cluster ∈ problem.clusters, 1 < (cluster.breakpoints contentionCorr).length →
    OnCurve (cluster.curve contentionCorr) (problem.assigned plan.cluster Device.load cluster.id) (plan.energy cluster)
  withoutCurve : ∀ cluster ∈ problem.clusters, ¬ 1 < (cluster.breakpoints contentionCorr).length →
    plan.energy cluster = 0

def cost : ℚ := ∑ cluster ∈ problem.clusters.toFinset, cluster.carbonIntensity * plan.energy cluster

def Cheapest : Prop :=
  problem.Representable contentionCorr plan ∧
    ∀ other, problem.Representable contentionCorr other → problem.cost plan ≤ problem.cost other

def clusterOf (values : Values δ) (id : δ) : ℕ :=
  ((problem.devices.find? fun device => device.id = id).bind (allocated values)).getD 0

def planOf (values : Values δ) : Plan δ where
  cluster := problem.clusterOf values
  nVms := values.nVms
  energy := fun cluster =>
    interpolate Prod.snd (cluster.curve contentionCorr) (values.segInd cluster.id) (values.segWeight cluster.id)

end Definitions

variable {problem : Problem δ} {contentionCorr : Option ℚ} {values : Values δ} {plan : Plan δ} {device : Device δ}

omit [DecidableEq δ] in
theorem device_eq (member : device ∈ problem.devices) {other : Device δ} (otherMember : other ∈ problem.devices)
    (same : device.id = other.id) : device = other :=
  List.inj_on_of_nodup_map problem.devicesDiffer member otherMember same

variable {cluster : Cluster}

omit [DecidableEq δ] in
theorem cluster_eq {other : Cluster} (member : cluster ∈ problem.clusters)
    (otherMember : other ∈ problem.clusters) (same : cluster.id = other.id) : cluster = other :=
  List.inj_on_of_nodup_map problem.clustersDiffer member otherMember same

theorem clusterOf_eq (member : device ∈ problem.devices) :
    problem.clusterOf values device.id = (allocated values device).getD 0 := by
  unfold clusterOf
  cases found : problem.devices.find? fun other => other.id = device.id with
  | none =>
    have absent := List.find?_eq_none.1 found device member
    exact absurd (decide_eq_true rfl) absent
  | some other =>
    have same : other.id = device.id := by simpa using List.find?_some found
    rw [device_eq (List.mem_of_find?_eq_some found) member same]
    rfl

omit [DecidableEq δ] in
theorem mem_of_allocated {id : ℕ} (allocated : allocated values device = some id) :
    id ∈ device.clusterIds ∧ values.x device.id id = true := by
  obtain ⟨member, isSet⟩ := List.mem_filter.1 (List.mem_of_getLast? allocated)
  exact ⟨List.mem_eraseDups.1 member, isSet⟩

theorem Satisfies.allocated (satisfies : problem.Satisfies contentionCorr values) (member : device ∈ problem.devices)
    (names : device.clusterIds ≠ []) : ∃ id ∈ device.clusterIds, allocated values device = some id ∧
      ∀ other ∈ device.clusterIds, values.x device.id other = true ↔ other = id := by
  obtain ⟨id, idMember, isSet, unique⟩ := sum_bit_eq_one.1 (satisfies.deviceAllocated device member names)
  rw [List.mem_toFinset] at idMember
  have listed : id ∈ device.clusterIds.eraseDups.filter (values.x device.id) :=
    List.mem_filter.2 ⟨List.mem_eraseDups.2 idMember, isSet⟩
  cases last : DeviceAlloc.Problem.allocated values device with
  | none =>
    rw [List.getLast?_eq_none_iff.1 last] at listed
    exact absurd listed List.not_mem_nil
  | some found =>
    obtain ⟨foundMember, foundSet⟩ := mem_of_allocated last
    obtain rfl : found = id := unique found (List.mem_toFinset.2 foundMember) foundSet
    refine ⟨found, idMember, rfl, fun other otherMember => ⟨fun otherSet => ?_, fun same => same ▸ isSet⟩⟩
    exact unique other (List.mem_toFinset.2 otherMember) otherSet

theorem Satisfies.x_eq (satisfies : problem.Satisfies contentionCorr values) (member : device ∈ problem.devices)
    {id : ℕ} (names : id ∈ device.clusterIds) :
    values.x device.id id = decide (problem.clusterOf values device.id = id) := by
  obtain ⟨chosen, -, isAllocated, isSet⟩ := satisfies.allocated member (List.ne_nil_of_mem names)
  rw [clusterOf_eq member, isAllocated, Option.getD_some, Bool.eq_iff_iff, isSet id names, decide_eq_true_eq]
  exact eq_comm

theorem clusterLoad_eq {cluster : δ → ℕ} (chosen : ∀ device ∈ problem.devices, ∀ id ∈ device.clusterIds,
      values.x device.id id = decide (cluster device.id = id)) (load : Device δ → ℚ) (id : ℕ) :
    problem.clusterLoad values load id = problem.assigned cluster load id := by
  unfold clusterLoad assigned
  rw [Finset.sum_filter, Finset.sum_filter]
  refine Finset.sum_congr rfl fun device known => ?_
  by_cases names : id ∈ device.clusterIds
  · rw [chosen device (List.mem_toFinset.1 known) id names]
    by_cases same : cluster device.id = id <;> simp [same, names]
  · rw [if_neg names, if_neg fun both => names both.1]

theorem Satisfies.load_eq (satisfies : problem.Satisfies contentionCorr values) (load : Device δ → ℚ) (id : ℕ) :
    problem.clusterLoad values load id = problem.assigned (problem.clusterOf values) load id :=
  clusterLoad_eq (fun _ member _ names => satisfies.x_eq member names) load id

theorem interpolate_short (short : ¬ 1 < (cluster.breakpoints contentionCorr).length) (coordinate : ℚ × ℚ → ℚ)
    (indicator : ℕ → Bool) (weight : ℕ → ℚ) :
    interpolate coordinate (cluster.curve contentionCorr) indicator weight = 0 := by
  have atMost : (sorted (cluster.breakpoints contentionCorr)).length ≤ 1 := by
    rw [(sorted_perm _).length_eq]
    omega
  have empty : cluster.curve contentionCorr = [] := by
    unfold Cluster.curve segments
    rw [← List.length_eq_zero_iff, List.length_zip, List.length_tail]
    omega
  rw [empty]
  rfl

theorem Satisfies.representable (satisfies : problem.Satisfies contentionCorr values) :
    problem.Representable contentionCorr (problem.planOf contentionCorr values) where
  nVmsBounds := satisfies.nVmsBounds
  named device member names := by
    obtain ⟨id, idMember, isAllocated, -⟩ := satisfies.allocated member names
    change problem.clusterOf values device.id ∈ _
    rw [clusterOf_eq member, isAllocated]
    exact idMember
  capacity cluster member named := satisfies.load_eq _ _ ▸ satisfies.capacity cluster member named
  vmCountLb cluster member named := satisfies.load_eq _ _ ▸ satisfies.vmCountLb cluster member named
  vmCountUb cluster member named := satisfies.load_eq _ _ ▸ satisfies.vmCountUb cluster member named
  capacityLb := satisfies.capacityLb
  capacityUb := satisfies.capacityUb
  onCurve cluster member several := by
    obtain ⟨encoded, atLoad⟩ := satisfies.piecewise cluster member several
    have on := encoded.onCurve
    rwa [← atLoad, satisfies.load_eq] at on
  withoutCurve cluster _ short := interpolate_short short _ _ _

theorem Representable.exists_segments (representable : problem.Representable contentionCorr plan) (id : ℕ) :
    ∃ indicator weight, ∀ cluster ∈ problem.clusters, cluster.id = id →
      interpolate Prod.snd (cluster.curve contentionCorr) indicator weight = plan.energy cluster ∧
        (1 < (cluster.breakpoints contentionCorr).length → Encoded (cluster.curve contentionCorr) indicator weight ∧
            problem.assigned plan.cluster Device.load cluster.id =
              interpolate Prod.fst (cluster.curve contentionCorr) indicator weight) := by
  by_cases known : ∃ cluster ∈ problem.clusters, cluster.id = id
  · obtain ⟨cluster, member, isId⟩ := known
    have only {other : Cluster} (otherMember : other ∈ problem.clusters) (otherId : other.id = id) : other = cluster :=
      cluster_eq otherMember member (otherId.trans isId.symm)
    by_cases several : 1 < (cluster.breakpoints contentionCorr).length
    · obtain ⟨indicator, weight, encoded, atLoad, atEnergy⟩ :=
        exists_encoded (representable.onCurve cluster member several)
      refine ⟨indicator, weight, fun other otherMember otherId => ?_⟩
      rw [only otherMember otherId]
      exact ⟨atEnergy, fun _ => ⟨encoded, atLoad.symm⟩⟩
    · refine ⟨fun _ => false, fun _ => 0, fun other otherMember otherId => ?_⟩
      rw [only otherMember otherId]
      refine ⟨?_, fun long => absurd long several⟩
      rw [interpolate_short several, representable.withoutCurve cluster member several]
  · exact ⟨fun _ => false, fun _ => 0, fun cluster member isId => absurd ⟨cluster, member, isId⟩ known⟩

theorem Representable.exists_values (representable : problem.Representable contentionCorr plan) :
    ∃ values, problem.Satisfies contentionCorr values ∧ problem.objective contentionCorr values = problem.cost plan ∧
      values.nVms = plan.nVms := by
  choose indicator weight segmented using representable.exists_segments
  let values : Values δ := ⟨fun device id => decide (plan.cluster device = id), plan.nVms, indicator, weight⟩
  have load_eq (load : Device δ → ℚ) (id : ℕ) :
      problem.clusterLoad values load id = problem.assigned plan.cluster load id :=
    clusterLoad_eq (fun _ _ _ _ => rfl) load id
  refine ⟨values, ?_, ?_, rfl⟩
  · exact {
      nVmsBounds := representable.nVmsBounds
      deviceAllocated := fun device member names => by
        refine sum_bit_eq_one.2 ⟨plan.cluster device.id, ?_, decide_eq_true rfl, fun other _ found => ?_⟩
        · exact List.mem_toFinset.2 (representable.named device member names)
        · exact (of_decide_eq_true found).symm
      capacity := fun cluster member named => load_eq _ _ ▸ representable.capacity cluster member named
      vmCountLb := fun cluster member named => load_eq _ _ ▸ representable.vmCountLb cluster member named
      vmCountUb := fun cluster member named => load_eq _ _ ▸ representable.vmCountUb cluster member named
      capacityLb := representable.capacityLb
      capacityUb := representable.capacityUb
      piecewise := fun cluster member several =>
        load_eq _ _ ▸ (segmented cluster.id cluster member rfl).2 several }
  · refine Finset.sum_congr rfl fun cluster member => ?_
    rw [(segmented cluster.id cluster (List.mem_toFinset.1 member) rfl).1]

open Classical in
noncomputable def leastEnergy (contentionCorr : Option ℚ) (cluster : Cluster) (cpu : ℚ) : ℚ :=
  if found : 1 < (cluster.breakpoints contentionCorr).length ∧ ∃ y, OnCurve (cluster.curve contentionCorr) cpu y then
    (exists_least_onCurve cluster.carbonIntensity found.2).choose
  else 0

theorem leastEnergy_spec {cpu energy : ℚ} (several : 1 < (cluster.breakpoints contentionCorr).length)
    (on : OnCurve (cluster.curve contentionCorr) cpu energy) :
    OnCurve (cluster.curve contentionCorr) cpu (leastEnergy contentionCorr cluster cpu) ∧
      cluster.carbonIntensity * leastEnergy contentionCorr cluster cpu ≤ cluster.carbonIntensity * energy := by
  unfold leastEnergy
  rw [dif_pos ⟨several, energy, on⟩]
  have spec := (exists_least_onCurve cluster.carbonIntensity ⟨energy, on⟩).choose_spec
  exact ⟨spec.1, spec.2 energy on⟩

def pairs (problem : Problem δ) (cluster : δ → ℕ) : Finset (Device δ × ℕ) :=
  (problem.devices.toFinset ×ˢ (problem.clusters.map Cluster.id).toFinset).filter fun pair =>
    pair.2 ∈ pair.1.clusterIds ∧ cluster pair.1.id = pair.2

noncomputable def leastCost (problem : Problem δ) (contentionCorr : Option ℚ) (pairs : Finset (Device δ × ℕ)) : ℚ :=
  ∑ cluster ∈ problem.clusters.toFinset, cluster.carbonIntensity *
    leastEnergy contentionCorr cluster
      (∑ device ∈ problem.devices.toFinset with (device, cluster.id) ∈ pairs, device.load)

theorem assigned_pairs (cluster : δ → ℕ) {other : Cluster} (member : other ∈ problem.clusters) :
    ∑ device ∈ problem.devices.toFinset with (device, other.id) ∈ problem.pairs cluster, device.load =
      problem.assigned cluster Device.load other.id := by
  unfold assigned
  refine Finset.sum_congr (Finset.filter_congr fun device known => ?_) fun _ _ => rfl
  have listed : other.id ∈ (problem.clusters.map Cluster.id).toFinset :=
    List.mem_toFinset.2 (List.mem_map_of_mem member)
  simp only [pairs, Finset.mem_filter, Finset.mem_product, known, listed, true_and]

theorem Representable.exists_least (representable : problem.Representable contentionCorr plan) :
    ∃ least, problem.Representable contentionCorr least ∧
      problem.cost least = problem.leastCost contentionCorr (problem.pairs plan.cluster) ∧
        problem.cost least ≤ problem.cost plan := by
  let energy (cluster : Cluster) : ℚ :=
    leastEnergy contentionCorr cluster (problem.assigned plan.cluster Device.load cluster.id)
  refine ⟨{ plan with energy := energy }, ?_, ?_, ?_⟩
  · exact { representable with
      onCurve := fun cluster member several => (leastEnergy_spec several (representable.onCurve cluster member several)).1
      withoutCurve := fun cluster _ short => dif_neg fun found => short found.1 }
  · refine Finset.sum_congr rfl fun cluster member => ?_
    rw [assigned_pairs plan.cluster (List.mem_toFinset.1 member)]
  · refine Finset.sum_le_sum fun cluster member => ?_
    by_cases several : 1 < (cluster.breakpoints contentionCorr).length
    · exact (leastEnergy_spec several (representable.onCurve cluster (List.mem_toFinset.1 member) several)).2
    · rw [representable.withoutCurve cluster (List.mem_toFinset.1 member) several]
      exact (congrArg _ (dif_neg fun found => several found.1)).le

theorem exists_cheapest (found : ∃ plan, problem.Representable contentionCorr plan) :
    ∃ plan, problem.Cheapest contentionCorr plan := by
  let choices : Set (Finset (Device δ × ℕ)) :=
    { choice | ∃ plan, problem.Representable contentionCorr plan ∧ problem.pairs plan.cluster = choice }
  have finite : choices.Finite := by
    refine (Finset.finite_toSet
      (problem.devices.toFinset ×ˢ (problem.clusters.map Cluster.id).toFinset).powerset).subset ?_
    rintro choice ⟨plan, -, rfl⟩
    exact Finset.mem_coe.2 (Finset.mem_powerset.2 (Finset.filter_subset _ _))
  obtain ⟨plan, representable⟩ := found
  obtain ⟨choice, ⟨best, bestRepresentable, rfl⟩, bestLeast⟩ :=
    Set.exists_min_image choices (problem.leastCost contentionCorr) finite ⟨_, plan, representable, rfl⟩
  obtain ⟨least, leastRepresentable, isCost, -⟩ := bestRepresentable.exists_least
  refine ⟨least, leastRepresentable, fun other otherRepresentable => ?_⟩
  obtain ⟨otherLeast, -, otherCost, cheaper⟩ := otherRepresentable.exists_least
  calc problem.cost least
      = problem.leastCost contentionCorr (problem.pairs best.cluster) := isCost
    _ ≤ problem.leastCost contentionCorr (problem.pairs other.cluster) := bestLeast _ ⟨other, otherRepresentable, rfl⟩
    _ = problem.cost otherLeast := otherCost.symm
    _ ≤ problem.cost other := cheaper

theorem Optimal.cheapest (optimal : problem.Optimal contentionCorr values) :
    problem.Cheapest contentionCorr (problem.planOf contentionCorr values) := by
  refine ⟨optimal.1.representable, fun other representable => ?_⟩
  obtain ⟨others, satisfies, isCost, -⟩ := representable.exists_values
  rw [← isCost]
  exact optimal.2 others satisfies

theorem Cheapest.exists_optimal (cheapest : problem.Cheapest contentionCorr plan) :
    ∃ values, problem.Optimal contentionCorr values ∧ values.nVms = plan.nVms := by
  obtain ⟨values, satisfies, isCost, counts⟩ := cheapest.1.exists_values
  refine ⟨values, ⟨satisfies, fun other otherSatisfies => ?_⟩, counts⟩
  rw [isCost]
  exact cheapest.2 (problem.planOf contentionCorr other) otherSatisfies.representable

theorem exists_optimal_iff :
    (∃ values, problem.Optimal contentionCorr values) ↔ ∃ plan, problem.Representable contentionCorr plan := by
  constructor
  · rintro ⟨values, optimal⟩
    exact ⟨_, optimal.cheapest.1⟩
  · intro found
    obtain ⟨plan, cheapest⟩ := exists_cheapest found
    obtain ⟨values, optimal, -⟩ := cheapest.exists_optimal
    exact ⟨values, optimal⟩

end Problem

end OpenNebula.Cognit.DeviceAlloc
