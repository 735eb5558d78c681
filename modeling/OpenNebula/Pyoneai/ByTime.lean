import Mathlib.Data.List.Basic
import OpenNebula.Pyoneai.Aggregation

namespace OpenNebula.Pyoneai

open Library

/-! # When metrics aggregate by time -/

section Aggregate

variable {Time Entity Value : Type} [Preorder Time]

namespace Timeseries

variable (series : Timeseries Time Entity Value)

theorem times_samples : series.samples.map Prod.fst = series.timeIndex := by
  unfold samples
  rw [List.map_fst_zip]
  exact le_of_eq series.shape.symm

theorem samples_increasing : series.samples.Pairwise fun sample other => sample.1 < other.1 := by
  have increasing := series.increasing
  rw [← times_samples] at increasing
  exact List.pairwise_map.1 increasing

theorem filter_time [DecidableEq Time] {sample : Time × Value} (member : sample ∈ series.samples) :
    series.samples.filter (fun other => other.1 = sample.1) = [sample] := by
  obtain ⟨front, back, apart⟩ := List.append_of_mem member
  have increasing := series.samples_increasing
  rw [apart, List.pairwise_append, List.pairwise_cons] at increasing
  obtain ⟨-, ⟨later, -⟩, earlier⟩ := increasing
  have none : front.filter (fun other => other.1 = sample.1) = [] :=
    List.filter_eq_nil_iff.2 fun other member => by
      simpa using (earlier other member sample List.mem_cons_self).ne
  have noMore : back.filter (fun other => other.1 = sample.1) = [] :=
    List.filter_eq_nil_iff.2 fun other member => by simpa using (later other member).ne'
  rw [apart, List.filter_append, List.filter_cons, none, noMore]
  simp

end Timeseries

variable (members : List (Timeseries Time Entity Value))

def Aligned : Prop := ∀ member ∈ members, ∀ other ∈ members, member.timeIndex = other.timeIndex

/-- The members cannot be put side by side, or there is no such function. -/
def Rejected (aggregationFn : String) : Prop :=
  (∃ member ∈ members, ∃ other ∈ members, member.data.length ≠ other.data.length) ∨
    ¬ (members.map Timeseries.entity).Nodup ∨ aggFunctions aggregationFn = none

variable {members}

theorem aggregateTimeseries_cases [DecidableEq Entity] (reduce : Aggregation → List Value → Value)
    (timeseriesList : List (Option (Timeseries Time Entity Value))) (aggregationFn : String) (target : Entity) :
    (timeseriesList.filterMap id = [] ∧ aggregateTimeseries reduce timeseriesList aggregationFn target = .ok none) ∨
      (Rejected (timeseriesList.filterMap id) aggregationFn ∧
        ∃ error, aggregateTimeseries reduce timeseriesList aggregationFn target = .error error) ∨
      ∃ first ∈ timeseriesList.filterMap id, ∃ function result,
        (∀ member ∈ timeseriesList.filterMap id, member.data.length = first.data.length) ∧
        ¬ Rejected (timeseriesList.filterMap id) aggregationFn ∧ aggFunctions aggregationFn = some function ∧
        aggregateTimeseries reduce timeseriesList aggregationFn target = .ok (some result) ∧
        result.timeIndex = first.timeIndex ∧
        result.data = (combinedData first.data.length (timeseriesList.filterMap id)).map (reduce function) := by
  unfold aggregateTimeseries
  cases valid : timeseriesList.filterMap id with
  | nil => exact .inl ⟨rfl, rfl⟩
  | cons first rest =>
    refine .inr ?_
    simp only
    by_cases unequal : (first :: rest).any fun series => series.data.length ≠ first.data.length
    · rw [if_pos unequal]
      obtain ⟨other, member, differ⟩ := List.any_eq_true.1 unequal
      exact .inl ⟨.inl ⟨other, member, first, List.mem_cons_self, of_decide_eq_true differ⟩, _, rfl⟩
    · rw [if_neg unequal]
      have equal : ∀ member ∈ first :: rest, member.data.length = first.data.length := by
        intro member inList
        by_contra differ
        exact unequal (List.any_eq_true.2 ⟨member, inList, decide_eq_true differ⟩)
      by_cases duplicate : ¬ ((first :: rest).map Timeseries.entity).Nodup
      · rw [if_pos duplicate]
        exact .inl ⟨.inr (.inl duplicate), _, rfl⟩
      · rw [if_neg duplicate]
        cases supported : aggFunctions aggregationFn with
        | none => exact .inl ⟨.inr (.inr supported), _, rfl⟩
        | some function =>
          refine .inr ⟨first, List.mem_cons_self, function, _, equal, ?_, rfl, rfl, rfl, rfl⟩
          rintro (⟨member, inList, other, otherIn, differ⟩ | repeated | unsupported)
          · exact differ ((equal member inList).trans (equal other otherIn).symm)
          · exact duplicate repeated
          · rw [supported] at unsupported
            cases unsupported

theorem mem_zip_stacked {times : List Time} {length : Nat} {row : Time × List (Time × Value)} :
    row ∈ times.zip (stacked length members) ↔ ∃ index, index < length ∧ times[index]? = some row.1 ∧
        row.2 = members.filterMap fun member => member.samples[index]? := by
  rw [List.mem_iff_getElem?]
  constructor
  · rintro ⟨index, found⟩
    obtain ⟨label, inRow⟩ := List.getElem?_zip_eq_some.1 found
    have inRange := List.getElem?_eq_some_iff.1 inRow
    obtain ⟨bound, same⟩ := inRange
    have short : index < length := by simpa [stacked] using bound
    exact ⟨index, short, label, by rw [← same]; simp [stacked]⟩
  · rintro ⟨index, short, label, same⟩
    refine ⟨index, List.getElem?_zip_eq_some.2 ⟨label, ?_⟩⟩
    rw [same]
    simp [stacked, short]

theorem values_row [DecidableEq Time] (aligned : Aligned members) {index : Nat} {time : Time}
    {first : Timeseries Time Entity Value} (member : first ∈ members) (label : first.timeIndex[index]? = some time) :
    (members.filterMap fun other => other.samples[index]?).map Prod.snd = valuesAt members time := by
  have rows : ∀ other ∈ members, other.samples[index]?.toList =
      other.samples.filter fun sample => sample.1 = time := by
    intro other inList
    have stamp : (other.samples.map Prod.fst)[index]? = some time := by
      rw [other.times_samples, aligned other inList first member, label]
    rw [List.getElem?_map] at stamp
    obtain ⟨sample, found, rfl⟩ := Option.map_eq_some_iff.1 stamp
    rw [found, other.filter_time (List.mem_of_getElem? found)]
    rfl
  unfold valuesAt
  rw [List.filterMap_eq_flatMap_toList, List.map_flatMap]
  exact List.flatMap_congr fun other inList => by rw [rows other inList]

theorem aggregatesByTime_iff [DecidableEq Time] [DecidableEq Entity] (reduce : Aggregation → List Value → Value)
    (timeseriesList : List (Option (Timeseries Time Entity Value))) (aggregationFn : String) (target : Entity) :
    AggregatesByTime reduce aggregationFn (timeseriesList.filterMap id)
        (aggregateTimeseries reduce timeseriesList aggregationFn target) ↔
      Rejected (timeseriesList.filterMap id) aggregationFn ∨ Aligned (timeseriesList.filterMap id) := by
  rcases aggregateTimeseries_cases reduce timeseriesList aggregationFn target with
    ⟨empty, returned⟩ | ⟨rejected, error, returned⟩ |
      ⟨first, member, function, result, equal, accepted, supported, returned, times, data⟩
  · rw [returned, empty]
    exact iff_of_true rfl (.inr (by simp [Aligned]))
  · rw [returned]
    exact iff_of_true trivial (.inl rejected)
  · rw [returned]
    have length : result.data.length = first.data.length := by simp [data, length_combinedData]
    rw [or_iff_right accepted]
    constructor
    · intro byTime
      have unmixed := (byTime function supported).unmixed
      -- the stamp of each member in a row is the label of the row
      have sameAsFirst : ∀ other ∈ timeseriesList.filterMap id, other.timeIndex = first.timeIndex := by
        intro other inList
        refine List.ext_getElem ?_ fun index inOther inFirst => ?_
        · rw [← other.shape, ← first.shape, equal other inList]
        · have inSamples : index < other.samples.length := by
            rw [other.length_samples, other.shape]
            exact inOther
          have short : index < result.data.length := by
            rw [length, first.shape]
            exact inFirst
          have inRow : (first.timeIndex[index], (timeseriesList.filterMap id).filterMap
              fun series => series.samples[index]?) ∈
              result.timeIndex.zip (stacked result.data.length (timeseriesList.filterMap id)) :=
            mem_zip_stacked.2 ⟨index, short, by rw [times, List.getElem?_eq_getElem inFirst], rfl⟩
          have stamp := unmixed _ inRow other.samples[index]
            (List.mem_filterMap.2 ⟨other, inList, List.getElem?_eq_getElem inSamples⟩)
          have own : other.samples[index].1 = other.timeIndex[index] := by
            simp [Timeseries.samples]
          rw [← own, stamp]
      exact fun one oneIn other otherIn => (sameAsFirst one oneIn).trans (sameAsFirst other otherIn).symm
    · intro aligned picked isPicked
      obtain rfl : function = picked := Option.some.inj (supported.symm.trans isPicked)
      refine ⟨fun sample inResult => ?_, fun row inRows sample inRow => ?_⟩
      · obtain ⟨index, found⟩ := List.mem_iff_getElem?.1 inResult
        obtain ⟨label, value⟩ := List.getElem?_zip_eq_some.1 found
        rw [times] at label
        have valueRow : ∃ values, (combinedData first.data.length (timeseriesList.filterMap id))[index]? =
            some values ∧ reduce function values = sample.2 := by
          rw [data, List.getElem?_map] at value
          exact Option.map_eq_some_iff.1 value
        obtain ⟨values, inData, reduced⟩ := valueRow
        obtain ⟨bound, same⟩ := List.getElem?_eq_some_iff.1 inData
        have row : values = ((timeseriesList.filterMap id).filterMap fun other => other.samples[index]?).map
            Prod.snd := by
          rw [← same]
          simp [combinedData, stacked]
        rw [← reduced, row, values_row aligned member label]
      · obtain ⟨index, -, label, same⟩ := mem_zip_stacked.1 inRows
        rw [same] at inRow
        obtain ⟨other, inList, found⟩ := List.mem_filterMap.1 inRow
        have stamp : other.timeIndex[index]? = some sample.1 := by
          rw [← other.times_samples, List.getElem?_map, found]
          rfl
        rw [times, aligned first member other inList, stamp] at label
        exact Option.some.inj label

end Aggregate

namespace ServiceTopology

variable (decimals : PyText.Decimals) (topology : ServiceTopology) (service : Int) (name : List Char)

/-- The identifier of a role is resolved to the VMs of the role, or to an error when there is none. -/
def Resolved : Prop :=
  match topology.role service name with
  | some vms => topology.getVmsForEntity decimals (roleId service name) = .ok vms
  | none => ∃ error, topology.getVmsForEntity decimals (roleId service name) = .error error

/-- The role has no underscore in its name, or the one that is read at the last underscore has the
same VMs. -/
def Unambiguous : Prop :=
  ∀ front back, name = front ++ '_' :: back → '_' ∉ back →
    ((decimals.int (PyText.str service ++ '_' :: front)).bind fun other => topology.role other back) =
      topology.role service name

variable {decimals topology service name}

variable (decimals topology) in
theorem getVmsForEntity_rsplit {id front role : List Char} (cut : PyText.rsplit '_' id = some (front, role)) :
    match (decimals.int front).bind fun other => topology.role other role with
    | some vms => topology.getVmsForEntity decimals (.serviceRole id) = .ok vms
    | none => ∃ error, topology.getVmsForEntity decimals (.serviceRole id) = .error error := by
  simp only [getVmsForEntity, cut]
  cases read : decimals.int front with
  | none => exact ⟨_, rfl⟩
  | some other =>
    simp only [Option.bind_some, ServiceTopology.role]
    cases known : topology.lookup other with
    | none => exact ⟨_, rfl⟩
    | some roles =>
      simp only [Option.bind_some]
      cases roles.lookup role with
      | none => exact ⟨_, rfl⟩
      | some vms => rfl

variable (decimals topology service name)

theorem resolved_iff : topology.Resolved decimals service name ↔ topology.Unambiguous decimals service name := by
  rcases PyText.rsplit_cases '_' name with ⟨-, plain⟩ | ⟨front, back, cut, plain⟩
  · -- without an underscore the cut is the one that was put in
    have read := getVmsForEntity_rsplit decimals topology
      (PyText.rsplit_append (PyText.str service) plain)
    rw [decimals.int_str, Option.bind_some] at read
    refine iff_of_true read fun front back same => ?_
    exact absurd (by rw [same]; simp) plain
  · have text : PyText.str service ++ '_' :: name =
        (PyText.str service ++ '_' :: front) ++ '_' :: back := by rw [cut]; simp
    have read := getVmsForEntity_rsplit decimals topology
      (PyText.rsplit_append (PyText.str service ++ '_' :: front) plain)
    rw [← text] at read
    have unique : topology.Unambiguous decimals service name ↔
        ((decimals.int (PyText.str service ++ '_' :: front)).bind fun other => topology.role other back) =
          topology.role service name := by
      refine ⟨fun unambiguous => unambiguous front back cut plain, fun same other last apart lastPlain => ?_⟩
      have again := (PyText.rsplit_append front plain).symm.trans
        ((congrArg (PyText.rsplit '_') (cut.symm.trans apart)).trans (PyText.rsplit_append other lastPlain))
      cases again
      exact same
    rw [unique]
    unfold Resolved roleId
    cases found : topology.role service name with
    | none =>
      cases other : (decimals.int (PyText.str service ++ '_' :: front)).bind fun other =>
          topology.role other back with
      | none => rw [other] at read; exact iff_of_true read rfl
      | some vms =>
        rw [other] at read
        refine iff_of_false ?_ (by simp)
        rintro ⟨error, failed⟩
        cases failed.symm.trans read
    | some wanted =>
      cases other : (decimals.int (PyText.str service ++ '_' :: front)).bind fun other =>
          topology.role other back with
      | none =>
        rw [other] at read
        obtain ⟨error, failed⟩ := read
        refine iff_of_false (fun resolved => ?_) (by simp)
        cases failed.symm.trans resolved
      | some vms =>
        rw [other] at read
        have readOk : topology.getVmsForEntity decimals
          (.serviceRole (PyText.str service ++ '_' :: name)) = .ok vms := read
        simp only [readOk, Except.ok.injEq, Option.some.injEq]

end ServiceTopology

section Accessors

variable {Time Entity Value : Type} [Preorder Time] [DecidableEq Time] [DecidableEq Entity]

theorem aggregates_by_time_iff (reduce : Aggregation → List Value → Value)
    (timeseriesList : List (Option (Timeseries Time Entity Value))) (aggregationFn : String) (target : Entity)
    (decimals : PyText.Decimals) (topology : ServiceTopology) (service : Int) (name : List Char) :
    (AggregatesByTime reduce aggregationFn (timeseriesList.filterMap id)
        (ServiceAggregatingAccessor.aggregateTimeseries reduce timeseriesList aggregationFn target) ↔
      Rejected (timeseriesList.filterMap id) aggregationFn ∨ Aligned (timeseriesList.filterMap id)) ∧
    (AggregatesByTime reduce aggregationFn (timeseriesList.filterMap id)
        (ClusterAggregatingAccessor.aggregateTimeseries reduce timeseriesList aggregationFn target) ↔
      Rejected (timeseriesList.filterMap id) aggregationFn ∨ Aligned (timeseriesList.filterMap id)) ∧
    (topology.Resolved decimals service name ↔ topology.Unambiguous decimals service name) :=
  ⟨aggregatesByTime_iff reduce timeseriesList aggregationFn target,
    aggregatesByTime_iff reduce timeseriesList aggregationFn target,
    topology.resolved_iff decimals service name⟩

end Accessors

def loadFrom (start : Nat) (vm : Nat) : Timeseries Nat Nat Int where
  timeIndex := [start, start + 60]
  entity := vm
  data := [10, 20]
  increasing := by simp
  shape := rfl
  nonempty := by simp

/-- Two services, of which the first one has the role `2_web` and the twelfth one the role `web` -/
def twoServices : ServiceTopology :=
  [(1, [(['2', '_', 'w', 'e', 'b'], [100])]), (12, [(['w', 'e', 'b'], [200])])]

theorem clocks_and_names_mixed :
    ¬ AggregatesByTime (fun _ values => values.foldr (· + ·) 0) "sum" [loadFrom 0 1, loadFrom 7 2]
        (ServiceAggregatingAccessor.aggregateTimeseries (fun _ values => values.foldr (· + ·) 0)
          [some (loadFrom 0 1), some (loadFrom 7 2)] "sum" 0) ∧ twoServices.getVmsForEntity PyText.Decimals.ofAscii
          (ServiceTopology.roleId 1 ['2', '_', 'w', 'e', 'b']) = .ok [200] ∧
      ¬ twoServices.Resolved PyText.Decimals.ofAscii 1 ['2', '_', 'w', 'e', 'b'] := by
  refine ⟨fun byTime => ?_, by decide, fun resolved => ?_⟩
  · have mixed := (byTime .sum rfl).unmixed
    exact absurd (mixed (0, [(0, 10), (7, 10)]) (by decide) (7, 10) (by decide)) (by decide)
  · have own : twoServices.getVmsForEntity PyText.Decimals.ofAscii
        (ServiceTopology.roleId 1 ['2', '_', 'w', 'e', 'b']) = .ok [100] := resolved
    exact absurd own (by decide)

end OpenNebula.Pyoneai
