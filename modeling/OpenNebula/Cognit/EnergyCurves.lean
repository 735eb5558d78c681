import OpenNebula.Cognit.AllocationSound

namespace OpenNebula.Cognit.DeviceAlloc

open Library

/-! # The energy of a load

The optimizers of the devices and of the hosts (`ILPOptimizer`) have an `_add_energy` each.
-/

section Constraints

variable (breakpoints : List (ℚ × ℚ)) (load : ℚ) (indicator : ℕ → Bool) (weight : ℕ → ℚ)

def energy : ℚ := interpolate Prod.snd (segments (sorted breakpoints)) indicator weight

/-- `DeviceOptimizer._add_energy` for a cluster -/
structure AddEnergy : Prop where
  encoded : Encoded (segments (sorted breakpoints)) indicator weight
  balance : load = interpolate Prod.fst (segments (sorted breakpoints)) indicator weight

/-- `ILPOptimizer._add_energy` for a host; `y` tells whether it is committed. -/
structure AddHostEnergy (y : Bool) : Prop where
  nonneg : ∀ i : Fin (segments (sorted breakpoints)).length, 0 ≤ weight i
  weights : ∀ i : Fin (segments (sorted breakpoints)).length, weight i ≤ bit (indicator i)
  segments : ∑ i : Fin (segments (sorted breakpoints)).length, bit (indicator i) = bit y
  balance : load = interpolate Prod.fst (Library.segments (sorted breakpoints)) indicator weight

/-- The constraints can be met on the span of the breakpoints, and then the energy is the interpolated one. -/
structure Exact (constraints : (ℕ → Bool) → (ℕ → ℚ) → Prop) : Prop where
  satisfiable : (∃ indicator weight, constraints indicator weight) ↔ InSpan breakpoints load
  value : ∀ indicator weight, constraints indicator weight →
    ∀ value, Interpolates breakpoints load value ↔ value = energy breakpoints indicator weight

/-- A host that is not committed takes no load and no energy. -/
structure Idle : Prop where
  satisfiable : (∃ indicator weight, AddHostEnergy breakpoints load indicator weight false) ↔ load = 0
  value : ∀ indicator weight, AddHostEnergy breakpoints load indicator weight false →
    energy breakpoints indicator weight = 0

end Constraints

variable {breakpoints : List (ℚ × ℚ)} {load : ℚ} {indicator : ℕ → Bool} {weight : ℕ → ℚ}

theorem sorted_increasing (differ : (breakpoints.map Prod.fst).Nodup) :
    (sorted breakpoints).Pairwise fun left right => left.1 < right.1 := by
  have distinct := ((sorted_perm breakpoints).map Prod.fst).nodup_iff.2 differ
  exact ((sorted_pairwise breakpoints).and (List.pairwise_map.1 distinct)).imp fun both => both.1.lt_of_ne both.2

theorem AddEnergy.interpolates (differ : (breakpoints.map Prod.fst).Nodup)
    (added : AddEnergy breakpoints load indicator weight) :
    Interpolates breakpoints load (energy breakpoints indicator weight) := by
  have on := added.encoded.onCurve
  rw [← added.balance] at on
  exact (on.interpolates (sorted_increasing differ)).perm (sorted_perm breakpoints)

theorem addEnergy_exact (several : 2 ≤ breakpoints.length) (differ : (breakpoints.map Prod.fst).Nodup) :
    Exact breakpoints load (AddEnergy breakpoints load) where
  satisfiable := by
    have permuted := sorted_perm breakpoints
    rw [← inSpan_perm permuted, ← exists_onCurve_iff (permuted.length_eq ▸ several) (sorted_pairwise _)]
    constructor
    · rintro ⟨indicator, weight, encoded, balance⟩
      exact ⟨_, balance ▸ encoded.onCurve⟩
    · rintro ⟨value, on⟩
      obtain ⟨indicator, weight, encoded, balance, -⟩ := exists_encoded on
      exact ⟨indicator, weight, encoded, balance.symm⟩
  value indicator weight added value :=
    ⟨fun interpolated => interpolated.unique differ (added.interpolates differ),
      fun isValue => isValue ▸ added.interpolates differ⟩

theorem addHostEnergy_committed :
    AddHostEnergy breakpoints load indicator weight true ↔ AddEnergy breakpoints load indicator weight :=
  ⟨fun added => ⟨⟨added.nonneg, added.weights, added.segments⟩, added.balance⟩,
    fun added => ⟨added.encoded.nonneg, added.encoded.indicated, added.encoded.one, added.balance⟩⟩

theorem AddHostEnergy.interpolate_eq (added : AddHostEnergy breakpoints load indicator weight false)
    (coordinate : ℚ × ℚ → ℚ) :
    interpolate coordinate (Library.segments (sorted breakpoints)) indicator weight = 0 := by
  refine Finset.sum_eq_zero fun i member => ?_
  have absent : bit (indicator i) = 0 :=
    (Finset.sum_eq_zero_iff_of_nonneg fun (j : Fin _) _ => bit_nonneg (indicator j)).1 added.segments i member
  have weightless : weight i = 0 := le_antisymm (absent ▸ added.weights i) (added.nonneg i)
  rw [absent, weightless, zero_mul, zero_mul, add_zero]

theorem addHostEnergy_idle : Idle breakpoints load where
  satisfiable := by
    constructor
    · rintro ⟨indicator, weight, added⟩
      rw [added.balance, added.interpolate_eq]
    · rintro rfl
      refine ⟨fun _ => false, fun _ => 0, fun _ => le_rfl, fun _ => le_rfl, Finset.sum_const_zero, ?_⟩
      refine (Finset.sum_eq_zero fun i _ => ?_).symm
      rw [bit_false, zero_mul, zero_mul, add_zero]
  value _ _ added := added.interpolate_eq Prod.snd

/-- Clusters without a segment have no energy in the objective. -/
theorem energy_exact {δ : Type*} [DecidableEq δ] (problem : Problem δ) (contentionCorr : Option ℚ)
    (values : Values δ) :
    (∀ (breakpoints : List (ℚ × ℚ)) (load : ℚ), 2 ≤ breakpoints.length → (breakpoints.map Prod.fst).Nodup →
      Exact breakpoints load (AddEnergy breakpoints load) ∧
        Exact breakpoints load (fun indicator weight => AddHostEnergy breakpoints load indicator weight true) ∧
        Idle breakpoints load) ∧
      (problem.Optimal contentionCorr values →
        (∀ cluster ∈ problem.clusters, ((cluster.breakpoints contentionCorr).map Prod.fst).Nodup) →
        ∃ interpolated : Cluster → ℚ,
          (∀ cluster ∈ problem.clusters,
            if 1 < (cluster.breakpoints contentionCorr).length then
              Interpolates (cluster.breakpoints contentionCorr)
                (problem.put (problem.result contentionCorr values) Device.load cluster.id) (interpolated cluster)
            else interpolated cluster = 0) ∧
          (problem.result contentionCorr values).objective =
            ∑ cluster ∈ problem.clusters.toFinset, cluster.carbonIntensity * interpolated cluster) := by
  constructor
  · intro breakpoints load several differ
    refine ⟨addEnergy_exact several differ, ?_, addHostEnergy_idle⟩
    simp only [addHostEnergy_committed]
    exact addEnergy_exact several differ
  · rintro ⟨satisfies, -⟩ differ
    refine ⟨fun cluster => interpolate Prod.snd (cluster.curve contentionCorr) (values.segInd cluster.id)
      (values.segWeight cluster.id), fun cluster member => ?_, rfl⟩
    split
    next several =>
      obtain ⟨encoded, balance⟩ := satisfies.piecewise cluster member several
      rw [satisfies.put_eq, ← satisfies.load_eq]
      exact AddEnergy.interpolates (differ cluster member) ⟨encoded, balance⟩
    next short => exact Problem.interpolate_short short _ _ _

theorem energy_exact_homeless :
    (∃ indicator weight, AddEnergy [(4, 30), (0, 10), (2, 14)] 3 indicator weight ∧
      energy [(4, 30), (0, 10), (2, 14)] indicator weight = 22) ∧
    ∃ values, homeless.Optimal none values ∧ ∃ interpolated,
      Interpolates (cluster.breakpoints none) (homeless.put (homeless.result none values) Device.load 1) interpolated ∧
      (homeless.result none values).objective = cluster.carbonIntensity * interpolated := by
  obtain ⟨values, optimal⟩ := Problem.exists_optimal_iff.2 ⟨_, homeless_representable⟩
  obtain ⟨encodings, objective⟩ := energy_exact homeless none values
  constructor
  · obtain ⟨exact, -⟩ := encodings [(4, 30), (0, 10), (2, 14)] 3 (by decide) (by decide)
    obtain ⟨indicator, weight, added⟩ :=
      exact.satisfiable.mpr ⟨⟨(0, 10), by simp, by norm_num⟩, (4, 30), by simp, by norm_num⟩
    refine ⟨indicator, weight, added, ((exact.value indicator weight added 22).mp ?_).symm⟩
    refine ⟨(2, 14), (4, 30), ⟨by simp, by simp, by norm_num, ?_, by norm_num, by norm_num⟩, by norm_num [line]⟩
    simp only [List.mem_cons, List.not_mem_nil, or_false, forall_eq_or_imp, forall_eq]
    norm_num
  · have several : 1 < (cluster.breakpoints none).length := by rw [cluster_breakpoints]; decide
    have differ : ∀ other ∈ homeless.clusters, ((other.breakpoints none).map Prod.fst).Nodup := by
      rintro other member
      obtain rfl := List.mem_singleton.1 member
      rw [cluster_breakpoints]
      decide
    obtain ⟨interpolated, each, isObjective⟩ := objective optimal differ
    have own := each cluster (List.mem_singleton_self _)
    rw [if_pos several] at own
    exact ⟨values, optimal, interpolated cluster, own, isObjective.trans (by simp [homeless])⟩

end OpenNebula.Cognit.DeviceAlloc
