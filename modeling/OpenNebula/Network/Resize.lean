import OpenNebula.Network.LeaseRange

namespace OpenNebula.Network

open Common
open Library

/-! # Updates that fail (`update_attributes`)

A size that is accepted leaves no lease outside, whatever number of bits it has.  The prefixes are
stored as soon as they were read, so an update that fails later has changed them.
-/

namespace AddressRange

variable (env : Environment) (ar : AddressRange)

/-- The update without what the user may not change, and with what the range has of it -/
def permitted (keepRestricted : Bool) (vup : VectorAttribute) : VectorAttribute :=
  if keepRestricted && env.restricted.isSome then
    (removeRestricted env vup).merge (removeAllExceptRestricted env ar.attr)
  else vup

def ownAttributes : List String :=
  ["TYPE", "MAC", "IPAM_MAD", "IP", "IP6", "AR_ID", "ALLOCATED", "USED_LEASES", "LEASES",
    "PARENT_NETWORK_AR_ID", "MAC_END", "IP_END", "IP6_END", "IP6_ULA", "IP6_ULA_END", "IP6_GLOBAL",
    "IP6_GLOBAL_END", "PREFIX_LENGTH"]

/-- The size is not a number, or that of a reservation, or too small for a lease. -/
def RefusesSize (vup : VectorAttribute) : Prop :=
  vup.vectorValue "SIZE" ≠ "" ∧ ∀ size ∈ vup.unsignedLongValue "SIZE",
    (ar.isReservation = true ∧ size ≠ ar.size) ∨
      ∃ index ∈ ar.allocated, size = 0 ∨ (size - 1) % 2 ^ 32 < index

/-- A new size is larger than the leases, and an update that fails changes nothing. -/
def UpdatesSafely (keepRestricted : Bool) (vup : VectorAttribute) : Prop :=
  let result := ar.updateAttributes env vup keepRestricted
  (∀ outcome, result.2 = .ok outcome → (ar.permitted env keepRestricted vup).vectorValue "SIZE" ≠ "" →
      ∀ index ∈ ar.allocated, index < result.1.size) ∧
    ∀ message, result.2 = .error message → result.1 = ar

def samePrefix (text : String) (held : Prefix6) : Bool := (prefixToI env text held).1 = held

/-- Prefixes that can be read are those of the range, or the update is accepted. -/
def KeepsPrefixes (vup : VectorAttribute) : Prop :=
  ar.isIpv6 = true → (prefixToI env (vup.vectorValue "GLOBAL_PREFIX") ar.global6).2 = true →
    (samePrefix env (vup.vectorValue "GLOBAL_PREFIX") ar.global6 = true ∧
        samePrefix env (vup.vectorValue "ULA_PREFIX") ar.ula6 = true) ∨
      ((prefixToI env (vup.vectorValue "ULA_PREFIX") ar.ula6).2 = true ∧ ¬ar.RefusesSize vup)

variable {env ar}

theorem merge_congr {left right : VectorAttribute} (other : VectorAttribute) {name : String}
    (same : left.vectorValue name = right.vectorValue name) :
    (left.merge other).vectorValue name = (right.merge other).vectorValue name := by
  have all : ∀ (rows : List (Σ _ : String, String)) (left right : VectorAttribute),
      left.vectorValue name = right.vectorValue name →
        (rows.foldl (fun merged row => merged.replace row.1 row.2) left).vectorValue name =
          (rows.foldl (fun merged row => merged.replace row.1 row.2) right).vectorValue name := by
    intro rows
    induction rows with
    | nil => exact fun _ _ same => same
    | cons row rest ih =>
      refine fun left right same => ih _ _ ?_
      rw [VectorAttribute.vectorValue_replace, VectorAttribute.vectorValue_replace, same]
  exact all other.entries left right same

theorem keepAttributes_value (keepRestricted : Bool) (vup : VectorAttribute) {name : String}
    (isFree : name ∉ ownAttributes) : (ar.keepAttributes env keepRestricted vup).vectorValue name =
      (ar.permitted env keepRestricted vup).vectorValue name := by
  simp only [ownAttributes, List.mem_cons, List.not_mem_nil, or_false, not_or] at isFree
  have choose {chosen : Prop} [Decidable chosen] (left right : VectorAttribute) :
      (if chosen then left else right).vectorValue name =
        if chosen then left.vectorValue name else right.vectorValue name :=
    apply_ite (fun attr : VectorAttribute => attr.vectorValue name) ..
  simp only [keepAttributes, permitted, keepValue, List.foldl]
  cases keepRestricted && env.restricted.isSome with
  | false =>
    simp only [Bool.false_eq_true, if_false, choose, VectorAttribute.vectorValue_replace,
      VectorAttribute.vectorValue_remove, isFree, ite_self]
  | true =>
    simp only [if_true, choose, VectorAttribute.vectorValue_replace, VectorAttribute.vectorValue_remove,
      isFree, if_false, ite_self]
    refine merge_congr _ ?_
    simp only [choose, VectorAttribute.vectorValue_replace, VectorAttribute.vectorValue_remove,
      isFree, if_false, ite_self]

theorem holdsLeases_false_iff {size : Nat} :
    ar.holdsLeases size = false ↔ ∃ index ∈ ar.allocated, size = 0 ∨ (size - 1) % 2 ^ 32 < index := by
  rw [holdsLeases]
  split
  · rename_i empty
    rw [List.isEmpty_eq_false_iff_exists_mem]
    constructor
    · rintro ⟨lease, member⟩
      exact ⟨lease.1, AList.lookup_isSome.1 (Option.isSome_of_mem (Map.mem_entries_iff.1 member)), .inl empty⟩
    · rintro ⟨index, member, -⟩
      obtain ⟨owner, isOwner⟩ := Option.isSome_iff_exists.1 (AList.lookup_isSome.2 member)
      exact ⟨⟨index, owner⟩, Map.mem_entries_iff.2 isOwner⟩
  · rename_i notEmpty
    rw [List.all_eq_false]
    constructor
    · rintro ⟨lease, member, outside⟩
      refine ⟨lease.1, AList.lookup_isSome.1 (Option.isSome_of_mem (Map.mem_entries_iff.1 member)), .inr ?_⟩
      rw [decide_eq_true_iff] at outside
      omega
    · rintro ⟨index, member, outside⟩
      obtain ⟨owner, isOwner⟩ := Option.isSome_iff_exists.1 (AList.lookup_isSome.2 member)
      refine ⟨⟨index, owner⟩, Map.mem_entries_iff.2 isOwner, ?_⟩
      rw [decide_eq_true_iff]
      exact Nat.not_le.2 (outside.resolve_left notEmpty)

theorem newSize_congr {left right : VectorAttribute}
    (same : left.vectorValue "SIZE" = right.vectorValue "SIZE") : ar.newSize left = ar.newSize right := by
  simp only [newSize, VectorAttribute.unsignedLongValue, VectorAttribute.naturalValue, same]

theorem newSize_refused_iff {vup : VectorAttribute} :
    (∃ message, ar.newSize vup = .error message) ↔ ar.RefusesSize vup := by
  rw [newSize, RefusesSize]
  by_cases given : vup.vectorValue "SIZE" = ""
  · simp [given]
  · rw [if_neg given]
    cases vup.unsignedLongValue "SIZE" with
    | none => simp [given]
    | some size =>
      simp only [given, ne_eq, not_false_eq_true, true_and, Option.mem_some_iff, forall_eq', ← holdsLeases_false_iff]
      by_cases reserved : ar.isReservation = true ∧ size ≠ ar.size
      · simp [reserved]
      · rw [if_neg reserved]
        cases ar.holdsLeases size <;> simp [reserved]

theorem newSize_given {vup : VectorAttribute} {size : Nat} (given : vup.vectorValue "SIZE" ≠ "")
    (accepted : ar.newSize vup = .ok size) : ∀ index ∈ ar.allocated, index < size := by
  rw [newSize, if_neg given] at accepted
  split at accepted
  · cases accepted
  · split at accepted
    · cases accepted
    · split at accepted
      · rename_i holds
        exact Except.ok.inj accepted ▸ holdsLeases_inside holds
      · cases accepted

theorem samePrefix_of_unreadable {text : String} {held : Prefix6}
    (unreadable : (prefixToI env text held).2 = false) : samePrefix env text held = true := by
  rw [samePrefix, decide_eq_true_iff]
  rw [prefixToI] at unreadable ⊢
  split at unreadable
  · cases unreadable
  · rename_i given
    rw [if_neg given]
    split at unreadable
    · rfl
    · cases unreadable

theorem updatePrefixes_size {vup read : VectorAttribute} {changed : AddressRange}
    (isRead : ar.updatePrefixes env vup = (changed, .ok read)) :
    read.vectorValue "SIZE" = vup.vectorValue "SIZE" := by
  simp only [updatePrefixes] at isRead
  split at isRead
  · rw [← Except.ok.inj (Prod.mk.inj isRead).2]
    simp
  · split at isRead
    · cases isRead
    · split at isRead
      · cases isRead
      · rw [← Except.ok.inj (Prod.mk.inj isRead).2]
        simp

variable {keepRestricted : Bool} {vup : VectorAttribute}

theorem updateAttributes_inside (given : (ar.permitted env keepRestricted vup).vectorValue "SIZE" ≠ "")
    {outcome : Finset Nat × VectorAttribute}
    (accepted : (ar.updateAttributes env vup keepRestricted).2 = .ok outcome) :
    ∀ index ∈ ar.allocated, index < (ar.updateAttributes env vup keepRestricted).1.size := by
  rw [updateAttributes] at accepted ⊢
  split at accepted
  · cases accepted
  · rename_i changed read isRead
    split at accepted
    · cases accepted
    · rename_i size isSize
      have sameSize := updatePrefixes_size isRead
      rw [keepAttributes_value keepRestricted vup (by decide)] at sameSize
      have sameLeases := (updatePrefixes_keeps env ar (ar.keepAttributes env keepRestricted vup)).1.1
      rw [isRead] at sameLeases
      have inside := newSize_given (sameSize ▸ given) isSize
      exact fun index member => inside index (sameLeases ▸ member)

theorem unchanged_iff {global6 ula6 : Prefix6} :
    ({ ar with global6, ula6 } : AddressRange) = ar ↔ global6 = ar.global6 ∧ ula6 = ar.ula6 := by
  constructor
  · intro same
    exact ⟨congrArg AddressRange.global6 same, congrArg AddressRange.ula6 same⟩
  · rintro ⟨rfl, rfl⟩
    rfl

theorem sized_unchanged_iff {changed : AddressRange} {read : VectorAttribute}
    {result : AddressRange × Except String (Finset Nat × VectorAttribute)}
    (isResult : result = match changed.newSize read with
      | .error message => (changed, .error message)
      | .ok size => changed.storeUpdate env size read) :
    (∀ message, result.2 = .error message → result.1 = ar) ↔
      changed = ar ∨ ¬∃ message, changed.newSize read = .error message := by
  subst isResult
  cases changed.newSize read with
  | ok size => simp [storeUpdate]
  | error message => simp

theorem failed_unchanged_iff : (∀ message, (ar.updateAttributes env vup keepRestricted).2 = .error message →
        (ar.updateAttributes env vup keepRestricted).1 = ar) ↔
      ar.KeepsPrefixes env (ar.permitted env keepRestricted vup) := by
  have isGlobal := @keepAttributes_value env ar keepRestricted vup "GLOBAL_PREFIX" (by decide)
  have isUla := @keepAttributes_value env ar keepRestricted vup "ULA_PREFIX" (by decide)
  have isSize := @keepAttributes_value env ar keepRestricted vup "SIZE" (by decide)
  rw [KeepsPrefixes, ← isGlobal, ← isUla, ← newSize_refused_iff, ← newSize_congr isSize]
  simp only [updateAttributes, updatePrefixes]
  generalize ar.keepAttributes env keepRestricted vup = kept
  cases isIpv6 : ar.isIpv6 with
  | false =>
    refine (sized_unchanged_iff rfl).trans ?_
    simp only [true_or, Bool.false_eq_true, false_imp_iff]
  | true =>
    simp only [Bool.not_true, Bool.false_eq_true, if_false, true_imp_iff]
    cases goodGlobal : (prefixToI env (kept.vectorValue "GLOBAL_PREFIX") ar.global6).2 with
    | false => simp
    | true =>
      simp only [Bool.not_true, Bool.false_eq_true, if_false, true_imp_iff]
      cases goodUla : (prefixToI env (kept.vectorValue "ULA_PREFIX") ar.ula6).2 with
      | false =>
        have sameUla := samePrefix_of_unreadable goodUla
        simp only [Bool.not_false, if_true, sameUla, and_true, Bool.false_eq_true, false_and, or_false]
        rw [samePrefix, decide_eq_true_iff, ← @unchanged_iff ar _ ar.ula6 |>.trans (and_iff_left rfl)]
        exact ⟨fun unchanged => unchanged _ rfl, fun same _ _ => same⟩
      | true =>
        have sameSize : ((kept.replace "GLOBAL_PREFIX" (kept.vectorValue "GLOBAL_PREFIX")).replace
            "ULA_PREFIX" (kept.vectorValue "ULA_PREFIX")).vectorValue "SIZE" =
              kept.vectorValue "SIZE" := by
          simp
        simp only [Bool.not_true, Bool.false_eq_true, if_false, true_and]
        refine (sized_unchanged_iff rfl).trans ?_
        rw [unchanged_iff, samePrefix, samePrefix, decide_eq_true_iff, decide_eq_true_iff, ← newSize_congr sameSize]
        rfl

theorem update_safe_iff : ar.UpdatesSafely env keepRestricted vup ↔
      ar.KeepsPrefixes env (ar.permitted env keepRestricted vup) := by
  rw [← failed_unchanged_iff]
  exact ⟨And.right, fun unchanged =>
    ⟨fun _ accepted given => updateAttributes_inside given accepted, unchanged⟩⟩

/-- A C library that reads one address -/
def documentationPrefix : Environment :=
  { Networks.plainEnvironment with
    inetPton := fun text => if text = "2001:db8::" then some ⟨0, 0, 0, 0x20010DB8⟩ else none }

def sixAddresses : AddressRange :=
  { id := 0, manager := .internal 0, type := .ip6, size := 6, mac := ⟨1, 0x0200⟩,
    attr := (((∅ : VectorAttribute).replace "TYPE" "IP6").replace "MAC" "02:00:00:00:00:01").replace
      "SIZE" "6" }

/-- The update fails, and the range has the new prefix. -/
theorem update_keeps_prefix :
    ¬∀ (env : Environment) (ar : AddressRange) (keepRestricted : Bool) (vup : VectorAttribute),
      ar.UpdatesSafely env keepRestricted vup := by
  intro always
  have safe := (always documentationPrefix sixAddresses false
    (((∅ : VectorAttribute).replace "GLOBAL_PREFIX" "2001:db8::").replace "SIZE" "six")).2
  have unchanged := congrArg AddressRange.global6 (safe _ rfl)
  revert unchanged
  decide +kernel

end AddressRange

end OpenNebula.Network
