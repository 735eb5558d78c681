import OpenNebula.Library.Binary
import Mathlib.Algebra.Order.Field.Basic
import Mathlib.Data.Fintype.BigOperators
import Mathlib.Tactic.FieldSimp
import Mathlib.Tactic.Linarith
import Mathlib.Tactic.Ring

namespace OpenNebula.Library

/-! # Piecewise linear curves

A curve is a list of segments.  An integer program speaks of a point on it with a binary indicator and
a weight for each segment.
-/

abbrev Segment := (ℚ × ℚ) × (ℚ × ℚ)

def segments (points : List (ℚ × ℚ)) : List Segment := points.zip points.tail

def OnSegment (segment : Segment) (x y : ℚ) : Prop :=
  ∃ share, 0 ≤ share ∧ share ≤ 1 ∧ x = segment.1.1 + share * (segment.2.1 - segment.1.1) ∧
    y = segment.1.2 + share * (segment.2.2 - segment.1.2)

def OnCurve (curve : List Segment) (x y : ℚ) : Prop := ∃ segment ∈ curve, OnSegment segment x y

variable {curve rest : List Segment} {segment : Segment} {x y : ℚ}

@[simp] theorem onCurve_nil : ¬ OnCurve [] x y := fun ⟨_, member, _⟩ => List.not_mem_nil member

@[simp] theorem onCurve_cons : OnCurve (segment :: rest) x y ↔ OnSegment segment x y ∨ OnCurve rest x y := by
  simp [OnCurve]

theorem exists_onSegment {left right : ℚ × ℚ} (ordered : left.1 ≤ right.1) :
    (∃ y, OnSegment (left, right) x y) ↔ left.1 ≤ x ∧ x ≤ right.1 := by
  constructor
  · rintro ⟨y, share, nonneg, atMost, rfl, -⟩
    have width : 0 ≤ right.1 - left.1 := sub_nonneg.2 ordered
    have from0 := mul_nonneg nonneg width
    have upTo1 := mul_le_of_le_one_left width atMost
    constructor <;> simp only <;> linarith
  · rintro ⟨fromLeft, toRight⟩
    rcases ordered.eq_or_lt with same | apart
    · exact ⟨_, 0, le_refl 0, zero_le_one, by simp only [zero_mul, add_zero]; linarith, rfl⟩
    · have width : 0 < right.1 - left.1 := sub_pos.2 apart
      refine ⟨_, (x - left.1) / (right.1 - left.1), div_nonneg (sub_nonneg.2 fromLeft) width.le, ?_, ?_, rfl⟩
      · rw [div_le_one width]
        linarith
      · simp only
        rw [div_mul_cancel₀ _ width.ne']
        ring

variable {points : List (ℚ × ℚ)}

theorem exists_onCurve_cons {first second : ℚ × ℚ}
    (sorted : (first :: second :: points).Pairwise fun left right => left.1 ≤ right.1) :
    (∃ y, OnCurve (segments (first :: second :: points)) x y) ↔
      first.1 ≤ x ∧ ∃ point ∈ second :: points, x ≤ point.1 := by
  induction points generalizing first second with
  | nil =>
    have ordered : first.1 ≤ second.1 := (List.pairwise_cons.1 sorted).1 _ (List.mem_singleton_self _)
    simpa [segments] using exists_onSegment ordered
  | cons third points ih =>
    obtain ⟨fromFirst, sorted⟩ := List.pairwise_cons.1 sorted
    have ordered : first.1 ≤ second.1 := fromFirst _ List.mem_cons_self
    have split : (∃ y, OnCurve (segments (first :: second :: third :: points)) x y) ↔
        (∃ y, OnSegment (first, second) x y) ∨ ∃ y, OnCurve (segments (second :: third :: points)) x y := by
      simp only [segments, List.tail_cons, List.zip_cons_cons, onCurve_cons, exists_or]
    rw [split, exists_onSegment ordered, ih sorted, List.exists_mem_cons_iff (l := third :: points)]
    constructor
    · rintro (⟨fromLeft, toRight⟩ | ⟨fromLeft, covered⟩)
      · exact ⟨fromLeft, .inl toRight⟩
      · exact ⟨ordered.trans fromLeft, .inr covered⟩
    · rintro ⟨fromLeft, toRight | covered⟩
      · exact .inl ⟨fromLeft, toRight⟩
      · rcases le_total x second.1 with toRight | beyond
        · exact .inl ⟨fromLeft, toRight⟩
        · exact .inr ⟨beyond, covered⟩

/-- Between the first and the last abscissa of its points -/
def InSpan (points : List (ℚ × ℚ)) (x : ℚ) : Prop :=
  (∃ point ∈ points, point.1 ≤ x) ∧ ∃ point ∈ points, x ≤ point.1

theorem exists_onCurve_iff (several : 2 ≤ points.length)
    (sorted : points.Pairwise fun left right => left.1 ≤ right.1) :
    (∃ y, OnCurve (segments points) x y) ↔ InSpan points x := by
  match points, several with
  | first :: second :: points, _ =>
    rw [exists_onCurve_cons sorted]
    obtain ⟨fromFirst, -⟩ := List.pairwise_cons.1 sorted
    constructor
    · rintro ⟨fromLeft, point, member, covered⟩
      exact ⟨⟨first, List.mem_cons_self, fromLeft⟩, point, List.mem_cons_of_mem _ member, covered⟩
    · rintro ⟨⟨low, lowMember, fromLow⟩, point, member, covered⟩
      constructor
      · rcases List.mem_cons.1 lowMember with rfl | later
        · exact fromLow
        · exact (fromFirst _ later).trans fromLow
      · rcases List.mem_cons.1 member with rfl | later
        · exact ⟨second, List.mem_cons_self, covered.trans (fromFirst _ List.mem_cons_self)⟩
        · exact ⟨point, later, covered⟩

theorem inSpan_perm {others : List (ℚ × ℚ)} (permuted : points.Perm others) : InSpan points x ↔ InSpan others x := by
  simp only [InSpan, permuted.mem_iff]

theorem exists_least_onSegment (factor : ℚ) (found : OnSegment segment x y) :
    ∃ least, OnSegment segment x least ∧ ∀ other, OnSegment segment x other → factor * least ≤ factor * other := by
  obtain ⟨share, nonneg, atMost, atX, atY⟩ := found
  by_cases upright : segment.2.1 - segment.1.1 = 0
  · -- All points have the abscissa, and one of the two ends is the cheapest.
    have atFirst : x = segment.1.1 := by rw [atX, upright]; ring
    rcases le_total 0 (factor * (segment.2.2 - segment.1.2)) with rising | falling
    · refine ⟨segment.1.2, ⟨0, le_refl 0, zero_le_one, by rw [atFirst]; ring, by ring⟩, ?_⟩
      rintro other ⟨share, nonneg, -, -, rfl⟩
      have more := mul_nonneg nonneg rising
      linarith
    · refine ⟨segment.2.2, ⟨1, zero_le_one, le_refl 1, by rw [upright, atFirst]; ring, by ring⟩, ?_⟩
      rintro other ⟨share, -, atMost, -, rfl⟩
      have less := mul_nonpos_of_nonneg_of_nonpos (sub_nonneg.2 atMost) falling
      linarith
  · refine ⟨y, ⟨share, nonneg, atMost, atX, atY⟩, ?_⟩
    rintro other ⟨otherShare, -, -, otherX, rfl⟩
    have same : share = otherShare := by
      have equal : share * (segment.2.1 - segment.1.1) = otherShare * (segment.2.1 - segment.1.1) := by linarith
      exact mul_right_cancel₀ upright equal
    rw [atY, same]

theorem exists_least_onCurve (factor : ℚ) (found : ∃ y, OnCurve curve x y) :
    ∃ least, OnCurve curve x least ∧ ∀ other, OnCurve curve x other → factor * least ≤ factor * other := by
  induction curve with
  | nil =>
    obtain ⟨y, on⟩ := found
    exact absurd on onCurve_nil
  | cons segment rest ih =>
    simp only [onCurve_cons] at found ⊢
    by_cases onRest : ∃ y, OnCurve rest x y
    · obtain ⟨later, onLater, leastLater⟩ := ih onRest
      by_cases onFirst : ∃ y, OnSegment segment x y
      · obtain ⟨first, onFirst⟩ := onFirst
        obtain ⟨first, onFirst, leastFirst⟩ := exists_least_onSegment factor onFirst
        rcases le_total (factor * first) (factor * later) with before | after
        · exact ⟨first, .inl onFirst, fun other on =>
            on.elim (leastFirst other) fun on => before.trans (leastLater other on)⟩
        · exact ⟨later, .inr onLater, fun other on =>
            on.elim (fun on => after.trans (leastFirst other on)) (leastLater other)⟩
      · exact ⟨later, .inr onLater, fun other on =>
          on.elim (fun on => absurd ⟨other, on⟩ onFirst) (leastLater other)⟩
    · obtain ⟨y, on | on⟩ := found
      · obtain ⟨first, onFirst, leastFirst⟩ := exists_least_onSegment factor on
        exact ⟨first, .inl onFirst, fun other on =>
          on.elim (leastFirst other) fun on => absurd ⟨other, on⟩ onRest⟩
      · exact absurd ⟨y, on⟩ onRest

structure Encoded (curve : List Segment) (indicator : ℕ → Bool) (weight : ℕ → ℚ) : Prop where
  nonneg : ∀ i : Fin curve.length, 0 ≤ weight i
  indicated : ∀ i : Fin curve.length, weight i ≤ bit (indicator i)
  one : ∑ i : Fin curve.length, bit (indicator i) = 1

def interpolate (coordinate : ℚ × ℚ → ℚ) (curve : List Segment) (indicator : ℕ → Bool) (weight : ℕ → ℚ) : ℚ :=
  ∑ i : Fin curve.length, (bit (indicator i) * coordinate (curve.get i).1 +
    weight i * (coordinate (curve.get i).2 - coordinate (curve.get i).1))

variable {indicator : ℕ → Bool} {weight : ℕ → ℚ}

theorem interpolate_eq (coordinate : ℚ × ℚ → ℚ) {i : Fin curve.length} (isChosen : indicator i = true)
    (others : ∀ j : Fin curve.length, j ≠ i → indicator j = false ∧ weight j = 0) :
    interpolate coordinate curve indicator weight =
      coordinate (curve.get i).1 + weight i * (coordinate (curve.get i).2 - coordinate (curve.get i).1) := by
  unfold interpolate
  rw [Finset.sum_eq_single i]
  · rw [isChosen, bit_true, one_mul]
  · intro j _ apart
    obtain ⟨absent, without⟩ := others j apart
    rw [absent, without, bit_false, zero_mul, zero_mul, add_zero]
  · exact fun absent => absurd (Finset.mem_univ i) absent

theorem Encoded.onCurve (encoded : Encoded curve indicator weight) :
    OnCurve curve (interpolate Prod.fst curve indicator weight) (interpolate Prod.snd curve indicator weight) := by
  obtain ⟨i, -, isChosen, unique⟩ := sum_bit_eq_one.1 encoded.one
  have others (j : Fin curve.length) (apart : j ≠ i) : indicator j = false ∧ weight j = 0 := by
    have absent : indicator j = false := by
      cases found : indicator j with
      | false => rfl
      | true => exact absurd (unique j (Finset.mem_univ j) found) apart
    have bound := encoded.indicated j
    rw [absent, bit_false] at bound
    exact ⟨absent, le_antisymm bound (encoded.nonneg j)⟩
  have atMost := encoded.indicated i
  rw [isChosen, bit_true] at atMost
  exact ⟨curve.get i, List.get_mem curve i, weight i, encoded.nonneg i, atMost,
    interpolate_eq Prod.fst isChosen others, interpolate_eq Prod.snd isChosen others⟩

theorem exists_encoded (on : OnCurve curve x y) :
    ∃ indicator weight, Encoded curve indicator weight ∧ interpolate Prod.fst curve indicator weight = x ∧
      interpolate Prod.snd curve indicator weight = y := by
  obtain ⟨segment, member, share, nonneg, atMost, rfl, rfl⟩ := on
  obtain ⟨i, rfl⟩ := List.get_of_mem member
  have isChosen : decide ((i : ℕ) = i) = true := decide_eq_true rfl
  have others (j : Fin curve.length) (apart : j ≠ i) :
      decide ((j : ℕ) = i) = false ∧ (if (j : ℕ) = i then share else 0) = 0 := by
    have apart : (j : ℕ) ≠ i := fun same => apart (Fin.ext same)
    exact ⟨decide_eq_false apart, if_neg apart⟩
  refine ⟨fun j => decide (j = i), fun j => if j = i then share else 0, ⟨fun j => ?_, fun j => ?_, ?_⟩, ?_, ?_⟩
  · split <;> [exact nonneg; exact le_refl 0]
  · split
    next same => rw [same, decide_eq_true rfl, bit_true]; exact atMost
    next => exact bit_nonneg _
  · refine sum_bit_eq_one.2 ⟨i, Finset.mem_univ i, isChosen, fun j _ found => ?_⟩
    exact Fin.ext (of_decide_eq_true found)
  · rw [interpolate_eq Prod.fst isChosen others, if_pos rfl]
  · rw [interpolate_eq Prod.snd isChosen others, if_pos rfl]

/-! ## Interpolation -/

def line (left right : ℚ × ℚ) (x : ℚ) : ℚ := left.2 + (x - left.1) / (right.1 - left.1) * (right.2 - left.2)

/-- Neighbouring points with the abscissa between theirs -/
structure Spans (points : List (ℚ × ℚ)) (left right : ℚ × ℚ) (x : ℚ) : Prop where
  first : left ∈ points
  second : right ∈ points
  apart : left.1 < right.1
  gap : ∀ point ∈ points, point.1 ≤ left.1 ∨ right.1 ≤ point.1
  fromLeft : left.1 ≤ x
  toRight : x ≤ right.1

def Interpolates (points : List (ℚ × ℚ)) (x y : ℚ) : Prop :=
  ∃ left right, Spans points left right x ∧ y = line left right x

theorem Interpolates.perm {others : List (ℚ × ℚ)} (permuted : points.Perm others)
    (interpolates : Interpolates points x y) : Interpolates others x y := by
  obtain ⟨left, right, spans, rfl⟩ := interpolates
  exact ⟨left, right, ⟨permuted.mem_iff.1 spans.first, permuted.mem_iff.1 spans.second, spans.apart,
    fun point member => spans.gap point (permuted.mem_iff.2 member), spans.fromLeft, spans.toRight⟩, rfl⟩

theorem Spans.line_eq {left right low high : ℚ × ℚ} (differ : (points.map Prod.fst).Nodup)
    (first : Spans points left right x) (second : Spans points low high x) (ordered : left.1 ≤ low.1) :
    line left right x = line low high x := by
  have point_eq := List.inj_on_of_nodup_map differ
  rcases ordered.lt_or_eq with before | same
  · -- The abscissa is the one of the point where the first segment meets the second.
    have beyond := (first.gap low second.first).resolve_left (not_le.2 before)
    have meets : right.1 = low.1 := le_antisymm beyond (second.fromLeft.trans first.toRight)
    have atX : x = right.1 := le_antisymm first.toRight (meets ▸ second.fromLeft)
    obtain rfl := point_eq first.second second.first meets
    have width : right.1 - left.1 ≠ 0 := (sub_pos.2 first.apart).ne'
    simp only [line, atX, div_self width, sub_self]
    ring
  · obtain rfl := point_eq first.first second.first same
    have toHigh := (second.gap right first.second).resolve_left (not_le.2 first.apart)
    have toRight := (first.gap high second.second).resolve_left (not_le.2 second.apart)
    rw [point_eq first.second second.second (le_antisymm toRight toHigh)]

theorem Interpolates.unique {other : ℚ} (differ : (points.map Prod.fst).Nodup) (first : Interpolates points x y)
    (second : Interpolates points x other) : y = other := by
  obtain ⟨left, right, spans, rfl⟩ := first
  obtain ⟨low, high, otherSpans, rfl⟩ := second
  rcases le_total left.1 low.1 with ordered | ordered
  · exact spans.line_eq differ otherSpans ordered
  · exact (otherSpans.line_eq differ spans ordered).symm

theorem eq_append_of_mem_segments (member : segment ∈ segments points) :
    ∃ before after, points = before ++ segment.1 :: segment.2 :: after := by
  induction points with
  | nil => cases member
  | cons first points ih =>
    cases points with
    | nil => cases member
    | cons second points =>
      rcases List.mem_cons.1 member with rfl | later
      · exact ⟨[], points, rfl⟩
      · obtain ⟨before, after, same⟩ := ih later
        exact ⟨first :: before, after, congrArg (first :: ·) same⟩

theorem OnCurve.interpolates (increasing : points.Pairwise fun left right => left.1 < right.1)
    (on : OnCurve (segments points) x y) : Interpolates points x y := by
  obtain ⟨⟨left, right⟩, member, share, nonneg, atMost, atX, atY⟩ := on
  obtain ⟨before, after, rfl⟩ := eq_append_of_mem_segments member
  simp only [List.pairwise_append, List.pairwise_cons, List.mem_cons, forall_eq_or_imp] at increasing
  obtain ⟨-, ⟨⟨apart, -⟩, later, -⟩, earlier⟩ := increasing
  obtain ⟨fromLeft, toRight⟩ := (exists_onSegment apart.le).1 ⟨y, share, nonneg, atMost, atX, atY⟩
  refine ⟨left, right, ⟨by simp, by simp, apart, fun point listed => ?_, fromLeft, toRight⟩, ?_⟩
  · simp only [List.mem_append, List.mem_cons] at listed
    rcases listed with isEarlier | rfl | rfl | isLater
    · exact .inl (earlier point isEarlier).1.le
    · exact .inl le_rfl
    · exact .inr le_rfl
    · exact .inr (later point isLater).le
  · have width : right.1 - left.1 ≠ 0 := (sub_pos.2 apart).ne'
    rw [line, atX, add_sub_cancel_left, mul_div_cancel_right₀ _ width, atY]

end OpenNebula.Library
