import Mathlib.Logic.Function.Basic
import OpenNebula.Common.VectorAttribute
import OpenNebula.Library.Folds

namespace OpenNebula.Images

open Common Library

/-! # Increments of a backup image

The set and the template point to the same attributes.
-/

inductive IncrementType where
  | full | increment
  deriving DecidableEq

def IncrementType.text : IncrementType → String
  | full => "FULL"
  | increment => "INCREMENT"

structure Increment where
  id : Int
  va : ℕ
  deriving DecidableEq

structure BackupIncrements where
  attributes : ℕ → VectorAttribute := fun _ => ∅
  fresh : ℕ := 0
  template : List ℕ := []
  /-- In the order of their numbers -/
  increments : List Increment := []

def parseEntry (text : String) : Option (Int × String) :=
  match split ':' text with
  | [id, source] =>
    let reading := readNumber 10 .int id
    if reading.good then reading.value.map (·, source) else none
  | _ => none

namespace BackupIncrements

variable (backup : BackupIncrements)

def write (address : ℕ) (change : VectorAttribute → VectorAttribute) : BackupIncrements :=
  { backup with attributes := Function.update backup.attributes address (change (backup.attributes address)) }

def newIncrement (now : Int) (source : String) (size : Int) (type : IncrementType) (parent : Int) : VectorAttribute :=
  ((((((∅ : VectorAttribute).replace "TYPE" type.text).replace "DATE" (toString now)).replace "SOURCE"
    source).replace "SIZE" (toString size)).replace "PARENT_ID" (toString parent)).replace "ID" (toString (parent + 1))

def addIncrement (now : Int) (source : String) (size : Int) (type : IncrementType) : BackupIncrements × Bool :=
  if backup.increments = [] ∧ type ≠ .full then (backup, false)
  else
    let parent := (backup.increments.getLast?.map Increment.id).getD (-1)
    ({ attributes := Function.update backup.attributes backup.fresh (newIncrement now source size type parent)
       fresh := backup.fresh + 1
       template := backup.template ++ [backup.fresh]
       increments := backup.increments ++ [⟨parent + 1, backup.fresh⟩] }, true)

def getIncrement (id : Int) : Option Increment := backup.increments.find? (·.id = id)

/-- The first increment that is named becomes the full one. -/
def rebase (size : String) (attr : VectorAttribute) : VectorAttribute :=
  ((attr.replace "TYPE" "FULL").replace "PARENT_ID" "-1").replace "SIZE" size

def updateSource (size : String) (first : Int) (address : ℕ) (source : String) : BackupIncrements :=
  (if first = -1 then backup.write address (rebase size) else backup).write address (·.replace "SOURCE" source)

/-- The loop over the entries of a reply, with the number of the first one -/
def updateSources (size : String) : List String → Int → BackupIncrements → BackupIncrements × Option Int
  | [], first, backup => (backup, some first)
  | entry :: rest, first, backup =>
    match parseEntry entry with
    | none => (backup, none)
    | some (id, source) =>
      match backup.getIncrement id with
      | none => (backup, none)
      | some inc =>
        updateSources size rest (if first = -1 then id else first) (backup.updateSource size first inc.va source)

def deleteBelow : ℕ → BackupIncrements → BackupIncrements
  | 0, backup => backup
  | id + 1, backup =>
    match backup.getIncrement id with
    | none => backup
    | some inc => deleteBelow id { backup with
        increments := backup.increments.filter (·.id ≠ id)
        template := backup.template.erase inc.va }

def updateIncrements (incs size : String) : BackupIncrements × Bool :=
  match updateSources size (split ',' incs) (-1) backup with
  | (backup, none) => (backup, false)
  | (backup, some first) => (deleteBelow first.toNat backup, true)

/-! ## Chains -/

def value (inc : Increment) (name : String) : String := (backup.attributes inc.va).vectorValue name

structure Linked (first : Int) (inc : Increment) : Prop where
  id : backup.value inc "ID" = toString inc.id
  full : inc.id = first → backup.value inc "TYPE" = "FULL" ∧ backup.value inc "PARENT_ID" = "-1"
  parent : inc.id ≠ first → backup.value inc "TYPE" = "INCREMENT" →
    backup.value inc "PARENT_ID" = toString (inc.id - 1)

structure Chain (first next : ℕ) : Prop where
  ascending : backup.increments.Pairwise (·.id < ·.id)
  consecutive : ∀ id, (∃ inc ∈ backup.increments, inc.id = id) ↔ (first : Int) ≤ id ∧ id < next
  start : first ≤ next ∧ (first = next → next = 0)
  template : backup.template = backup.increments.map Increment.va
  apart : backup.template.Nodup
  allocated : ∀ address ∈ backup.template, address < backup.fresh
  linked : ∀ inc ∈ backup.increments, backup.Linked first inc

inductive Event where
  | add (now : Int) (source : String) (size : Int) (type : IncrementType)
  | update (incs size : String)

def apply : Event → BackupIncrements × Bool
  | .add now source size type => backup.addIncrement now source size type
  | .update incs size => backup.updateIncrements incs size

/-- What a reply says about the increments, as far as it can be read -/
def named (incs : String) : List (Int × String) := (split ',' incs).filterMap parseEntry

def Names (entry : String) : Prop := ∃ parsed, parseEntry entry = some parsed ∧ ∃ inc ∈ backup.increments, inc.id = parsed.1

/-- The chain is that of the reply, or what it was before. -/
def Follows : Event → Prop
  | .add .. => True
  | .update incs size =>
    let updated := backup.updateIncrements incs size
    (updated.2 = false → updated.1 = backup) ∧
      (updated.2 = true → (∀ id, (∃ inc ∈ updated.1.increments, inc.id = id) ↔ id ∈ (named incs).map Prod.fst) ∧
        ∀ entry ∈ named incs, ∀ inc ∈ updated.1.increments, inc.id = entry.1 → updated.1.value inc "SOURCE" = entry.2)

/-- The first entry is wrong; or all entries are right, and they name each increment once, from the
first one that they name on. -/
def Orderly : Event → Prop
  | .add .. => True
  | .update incs _ =>
    (∃ entry ∈ (split ',' incs).head?, ¬backup.Names entry) ∨
      ((∀ entry ∈ split ',' incs, backup.Names entry) ∧ ((named incs).map Prod.fst).Nodup ∧
        ∀ inc ∈ backup.increments, inc.id ∈ (named incs).map Prod.fst ↔
          ∀ first ∈ ((named incs).map Prod.fst).head?, first ≤ inc.id)

section Chains

variable {backup} {first next : ℕ} {inc other : Increment} {id : Int} {address : ℕ}

section

variable (chain : backup.Chain first next)
include chain

theorem Chain.getIncrement_iff : backup.getIncrement id = some inc ↔ inc ∈ backup.increments ∧ inc.id = id := by
  constructor
  · intro found
    exact ⟨List.mem_of_find?_eq_some found, by simpa using List.find?_some found⟩
  · rintro ⟨member, rfl⟩
    have ids : (backup.increments.map Increment.id).Nodup :=
      List.pairwise_map.2 (chain.ascending.imp fun less => less.ne)
    exact find?_of_nodup_map ids member

theorem Chain.same (member : inc ∈ backup.increments)
    (also : other ∈ backup.increments) : inc.va = other.va ↔ inc.id = other.id := by
  have ids : (backup.increments.map Increment.id).Nodup :=
    List.pairwise_map.2 (chain.ascending.imp fun less => less.ne)
  have addresses := chain.template ▸ chain.apart
  exact ⟨fun equal => congrArg Increment.id (List.inj_on_of_nodup_map addresses member also equal),
    fun equal => congrArg Increment.va (List.inj_on_of_nodup_map ids member also equal)⟩

/-- A new increment comes after the last one. -/
theorem Chain.parent : (backup.increments.getLast?.map Increment.id).getD (-1) + 1 = next := by
  rcases List.eq_nil_or_concat backup.increments with empty | ⟨earlier, last, parts⟩
  · have bounds := chain.consecutive first
    simp only [empty, List.not_mem_nil, false_and, exists_false, false_iff] at bounds
    have start := chain.start
    simp [empty]
    omega
  · have ascending := chain.ascending
    rw [parts, List.concat_eq_append] at ascending
    have own := (chain.consecutive last.id).1 ⟨last, by simp [parts], rfl⟩
    obtain ⟨inc, member, isLast⟩ := (chain.consecutive (next - 1)).2 (by omega)
    have below : inc.id ≤ last.id := by
      rw [parts, List.concat_eq_append, List.mem_append, List.mem_singleton] at member
      rcases member with earlier | rfl
      · exact ((List.pairwise_append.1 ascending).2.2 inc earlier last (by simp)).le
      · exact le_rfl
    simp [parts]
    omega

theorem Chain.add (now : Int) (source : String) (size : Int) (type : IncrementType) :
    ∃ next, (backup.addIncrement now source size type).1.Chain first next := by
  unfold addIncrement
  split
  · exact ⟨next, chain⟩
  · rename_i accepted
    have parent := chain.parent
    simp only
    generalize (backup.increments.getLast?.map Increment.id).getD (-1) = last at parent ⊢
    have fresh : backup.fresh ∉ backup.template := fun member => (chain.allocated _ member).false
    have start := chain.start
    refine ⟨next + 1, ?_, fun id => ?_, by omega, by simp [chain.template], ?_, ?_, ?_⟩
    · refine List.pairwise_append.2 ⟨chain.ascending, List.pairwise_singleton _ _, fun inc member new isNew => ?_⟩
      obtain rfl := List.mem_singleton.1 isNew
      have bounds := (chain.consecutive inc.id).1 ⟨inc, member, rfl⟩
      change inc.id < last + 1
      omega
    · have before := chain.consecutive id
      simp only [List.mem_append, List.mem_singleton, or_and_right, exists_or, before, exists_eq_left]
      push_cast
      omega
    · exact List.nodup_append.2 ⟨chain.apart, List.nodup_singleton _, by
        intro address member new isNew
        obtain rfl := List.mem_singleton.1 isNew
        rintro rfl
        exact fresh member⟩
    · intro address member
      rcases List.mem_append.1 member with old | new
      · exact (chain.allocated address old).trans (Nat.lt_succ_self _)
      · rw [List.mem_singleton.1 new]
        exact Nat.lt_succ_self _
    · refine List.forall_mem_append.2 ⟨fun inc member => ?_, fun inc new => ?_⟩
      · have other : inc.va ≠ backup.fresh := fun same =>
          fresh (same ▸ chain.template ▸ List.mem_map.2 ⟨inc, member, rfl⟩)
        obtain ⟨id, full, parent⟩ := chain.linked inc member
        constructor <;> simpa [value, Function.update_of_ne other]
      · obtain rfl := List.mem_singleton.1 new
        refine ⟨by simp [value, newIncrement], fun isFirst => ?_, fun _ isIncrement => by simp [value, newIncrement]⟩
        change last + 1 = (first : Int) at isFirst
        have zero : next = 0 := start.2 (by omega)
        have empty : backup.increments = [] := by
          refine List.eq_nil_iff_forall_not_mem.2 fun inc member => ?_
          have bounds := (chain.consecutive inc.id).1 ⟨inc, member, rfl⟩
          omega
        have full : type = .full := by
          by_contra other
          exact accepted ⟨empty, other⟩
        have root : last = -1 := by omega
        refine ⟨by simp [value, newIncrement, full, IncrementType.text], ?_⟩
        simp [value, newIncrement, root]
        rfl

end

/-! A reply writes the attributes at their addresses, and leaves the set and the template. -/

theorem value_write (change : VectorAttribute → VectorAttribute) (inc : Increment) (name : String) :
    (backup.write address change).value inc name =
      if inc.va = address then (change (backup.attributes address)).vectorValue name else backup.value inc name := by
  by_cases same : inc.va = address
  · simp [value, write, same]
  · simp [value, write, same]

theorem value_updateSource (size : String) (base : Int) (source : String) (inc : Increment) {name : String}
    (other : name ≠ "SOURCE") : (backup.updateSource size base address source).value inc name =
      if inc.va = address ∧ base = -1 then (rebase size (backup.attributes address)).vectorValue name
      else backup.value inc name := by
  unfold updateSource
  by_cases same : inc.va = address
  · by_cases isBase : base = -1
    · simp only [isBase, if_true, value_write, same, and_self]
      simp [write, other]
    · simp only [isBase, if_false, value_write, same, if_true, and_false]
      simp [value, same, other]
  · by_cases isBase : base = -1
    · simp [value_write, same, isBase]
    · simp [value_write, same, isBase]

theorem source_updateSource (size : String) (base : Int) (source : String) (inc : Increment) :
    (backup.updateSource size base address source).value inc "SOURCE" =
      if inc.va = address then source else backup.value inc "SOURCE" := by
  unfold updateSource
  by_cases same : inc.va = address
  · simp [value_write, same]
  · by_cases isBase : base = -1
    · simp [value_write, same, isBase]
    · simp [value_write, same, isBase]

theorem updateSource_lists (size : String) (base : Int) (address : ℕ) (source : String) :
    (backup.updateSource size base address source).increments = backup.increments ∧
      (backup.updateSource size base address source).template = backup.template ∧
      (backup.updateSource size base address source).fresh = backup.fresh := by
  unfold updateSource
  split <;> exact ⟨rfl, rfl, rfl⟩

theorem Chain.sourced (chain : backup.Chain first next) (size : String) (base : Int) (address : ℕ)
    (source : String) : (backup.updateSource size base address source).Chain first next := by
  obtain ⟨increments, template, fresh⟩ := backup.updateSource_lists size base address source
  refine ⟨increments ▸ chain.ascending, increments ▸ chain.consecutive, chain.start, ?_, template ▸ chain.apart,
    fresh ▸ template ▸ chain.allocated, fun inc member => ?_⟩
  · rw [template, increments, chain.template]
  · obtain ⟨id, full, parent⟩ := chain.linked inc (increments ▸ member)
    by_cases rebased : inc.va = address ∧ base = -1
    · have own : backup.attributes address = backup.attributes inc.va := by rw [rebased.1]
      refine ⟨?_, fun _ => ⟨?_, ?_⟩, fun _ isIncrement => ?_⟩
      · rw [value_updateSource size base source inc (by decide), if_pos rebased, own]
        simpa [rebase, value] using id
      · rw [value_updateSource size base source inc (by decide), if_pos rebased]
        simp [rebase]
      · rw [value_updateSource size base source inc (by decide), if_pos rebased]
        simp [rebase]
      · rw [value_updateSource size base source inc (by decide), if_pos rebased] at isIncrement
        simp [rebase] at isIncrement
    · have kept {name : String} (other : name ≠ "SOURCE") :
          (backup.updateSource size base address source).value inc name = backup.value inc name :=
        (value_updateSource size base source inc other).trans (if_neg rebased)
      exact ⟨(kept (by decide)).trans id,
        fun isFirst => ⟨(kept (by decide)).trans (full isFirst).1, (kept (by decide)).trans (full isFirst).2⟩,
        fun other isIncrement => (kept (by decide)).trans (parent other ((kept (by decide)).symm.trans isIncrement))⟩

def Based (backup : BackupIncrements) (base : Int) : Prop :=
  base = -1 ∨ ∃ inc ∈ backup.increments, inc.id = base ∧ backup.value inc "TYPE" = "FULL" ∧ backup.value inc "PARENT_ID" = "-1"

theorem Based.updateSource {base : Int} (based : backup.Based base) (size source : String)
    (found : inc ∈ backup.increments ∧ inc.id = id) :
    (backup.updateSource size base inc.va source).Based (if base = -1 then id else base) := by
  obtain ⟨increments, -, -⟩ := backup.updateSource_lists size base inc.va source
  by_cases isBase : base = -1
  · rw [if_pos isBase]
    refine Or.inr ⟨inc, increments ▸ found.1, found.2, ?_, ?_⟩
    all_goals
      rw [value_updateSource size base source inc (by decide), if_pos ⟨rfl, isBase⟩]
      simp [rebase]
  · rw [if_neg isBase]
    obtain ⟨held, member, isHeld, full, root⟩ := based.resolve_left isBase
    refine Or.inr ⟨held, increments ▸ member, isHeld, ?_, ?_⟩
    · exact (value_updateSource size base source held (by decide)).trans ((if_neg fun rebased => isBase rebased.2).trans full)
    · exact (value_updateSource size base source held (by decide)).trans ((if_neg fun rebased => isBase rebased.2).trans root)

/-- Whatever the entries are -/
theorem Chain.allSourced (chain : backup.Chain first next) {base : Int} (based : backup.Based base) (size : String)
    (entries : List String) : (updateSources size entries base backup).1.Chain first next ∧
      (updateSources size entries base backup).1.increments = backup.increments ∧
      ∀ start ∈ (updateSources size entries base backup).2, (updateSources size entries base backup).1.Based start := by
  fun_induction updateSources size entries base backup with
  | case1 => exact ⟨chain, rfl, fun start isStart => Option.some.inj isStart ▸ based⟩
  | case2 | case3 => exact ⟨chain, rfl, fun start isStart => nomatch isStart⟩
  | case4 entry rest base backup id source read inc found induction =>
    obtain ⟨kept, increments, based⟩ := induction (chain.sourced size base inc.va source)
      (based.updateSource size source (chain.getIncrement_iff.1 found))
    exact ⟨kept, increments.trans (backup.updateSource_lists size base inc.va source).1, based⟩

theorem Chain.namedSources (chain : backup.Chain first next) (size : String) {entries : List String} (base : Int)
    (names : ∀ entry ∈ entries, backup.Names entry) (once : ((entries.filterMap parseEntry).map Prod.fst).Nodup) :
    (updateSources size entries base backup).2 =
        some (if base = -1 then ((entries.filterMap parseEntry).map Prod.fst).head?.getD (-1) else base) ∧
      (∀ inc ∈ backup.increments, inc.id ∉ (entries.filterMap parseEntry).map Prod.fst →
        (updateSources size entries base backup).1.value inc "SOURCE" = backup.value inc "SOURCE") ∧
      ∀ entry ∈ entries.filterMap parseEntry, ∀ inc ∈ backup.increments, inc.id = entry.1 →
        (updateSources size entries base backup).1.value inc "SOURCE" = entry.2 := by
  induction entries generalizing base backup with
  | nil =>
    refine ⟨?_, fun _ _ _ => rfl, fun entry member => by simp at member⟩
    by_cases isBase : base = -1 <;> simp [updateSources, isBase]
  | cons entry rest induction =>
    obtain ⟨⟨id, source⟩, read, inc, member, isId⟩ := names entry (by simp)
    have found := chain.getIncrement_iff.2 ⟨member, isId⟩
    obtain ⟨increments, -, -⟩ := backup.updateSource_lists size base inc.va source
    rw [List.filterMap_cons_some read, List.map_cons, List.nodup_cons] at once
    obtain ⟨start, others, sources⟩ := induction (chain.sourced size base inc.va source)
      (if base = -1 then id else base)
      (fun entry isRest => by simpa only [Names, increments] using names entry (List.mem_cons_of_mem _ isRest)) once.2
    rw [increments] at others sources
    have sameAddress {other : Increment} (isOther : other ∈ backup.increments) :
        other.va = inc.va ↔ other.id = id := (chain.same isOther member).trans (by rw [isId])
    have natural := (chain.consecutive id).1 ⟨inc, member, isId⟩
    simp only [updateSources, read, found, List.filterMap_cons_some read, List.map_cons,
      List.head?_cons, Option.getD_some]
    refine ⟨?_, fun other isOther unnamed => ?_, List.forall_mem_cons.2 ⟨fun other isOther isNamed => ?_, sources⟩⟩
    · rw [start]
      by_cases isBase : base = -1
      · rw [if_pos isBase, if_neg (show id ≠ -1 by omega)]
      · rw [if_neg isBase, if_neg isBase]
    · rw [List.mem_cons, not_or] at unnamed
      rw [others other isOther unnamed.2, source_updateSource, if_neg fun same => unnamed.1 ((sameAddress isOther).1 same)]
    · rw [others other isOther (isNamed ▸ once.1), source_updateSource, if_pos ((sameAddress isOther).2 isNamed)]

def above (backup : BackupIncrements) (bound : ℕ) : BackupIncrements :=
  let kept := backup.increments.filter fun inc => (bound : Int) ≤ inc.id
  { backup with increments := kept, template := kept.map Increment.va }

theorem above_all {bound : ℕ} (template : backup.template = backup.increments.map Increment.va)
    (none : ∀ inc ∈ backup.increments, (bound : Int) ≤ inc.id) : backup = backup.above bound := by
  unfold above
  rw [List.filter_eq_self.2 (by simpa using none)]
  exact congrArg (fun template => { backup with template }) template

theorem deleteBelow_eq {bound : ℕ} (template : backup.template = backup.increments.map Increment.va)
    (apart : backup.template.Nodup) (once : (backup.increments.map Increment.id).Nodup)
    (present : ∀ id < (bound : Int), (∃ inc ∈ backup.increments, inc.id = id) ↔ (first : Int) ≤ id) :
    deleteBelow bound backup = backup.above bound := by
  induction bound generalizing backup with
  | zero =>
    refine above_all template fun inc member => ?_
    by_contra negative
    have natural := (present inc.id (by omega)).1 ⟨inc, member, rfl⟩
    omega
  | succ bound induction =>
    rw [deleteBelow]
    split
    · rename_i missing
      refine above_all template fun inc member => ?_
      by_contra below
      have least := (present inc.id (by omega)).1 ⟨inc, member, rfl⟩
      obtain ⟨gap, isGap, itsId⟩ := (present bound (by omega)).2 (by omega)
      exact absurd itsId (by simpa using List.find?_eq_none.1 missing gap isGap)
    · rename_i inc found
      have member : inc ∈ backup.increments := List.mem_of_find?_eq_some found
      have isBound : inc.id = bound := by simpa using List.find?_some found
      have erased : backup.template.erase inc.va =
          (backup.increments.filter (·.id ≠ (bound : Int))).map Increment.va := by
        rw [apart.erase_eq_filter, template, List.filter_map]
        refine congrArg _ (List.filter_congr fun other isOther => ?_)
        have same : other.va = inc.va ↔ other.id = bound :=
          ⟨fun same => List.inj_on_of_nodup_map (template ▸ apart) isOther member same ▸ isBound,
            fun same => List.inj_on_of_nodup_map once isOther member (same.trans isBound.symm) ▸ rfl⟩
        rw [Bool.eq_iff_iff]
        simp [same]
      have sub : (backup.increments.filter (·.id ≠ (bound : Int))).Sublist backup.increments := List.filter_sublist
      rw [induction erased (apart.erase _) (once.sublist (sub.map _)) fun id below => ?_]
      · have both : (backup.increments.filter (·.id ≠ (bound : Int))).filter (fun inc => (bound : Int) ≤ inc.id) =
            backup.increments.filter fun inc => ((bound + 1 : ℕ) : Int) ≤ inc.id := by
          rw [List.filter_filter]
          refine List.filter_congr fun inc _ => ?_
          rw [← Bool.decide_and, decide_eq_decide]
          push_cast
          omega
        simp only [above, both]
      · rw [← present id (by omega)]
        refine exists_congr fun inc => ?_
        simp only [List.mem_filter, decide_eq_true_eq]
        constructor
        · exact fun held => ⟨held.1.1, held.2⟩
        · exact fun held => ⟨⟨held.1, by omega⟩, held.2⟩

section

variable (chain : backup.Chain first next)
include chain

theorem Chain.above {start : ℕ} (member : inc ∈ backup.increments)
    (isStart : inc.id = start) (root : backup.value inc "TYPE" = "FULL" ∧ backup.value inc "PARENT_ID" = "-1") :
    (backup.above start).Chain start next := by
  have bounds := (chain.consecutive start).1 ⟨inc, member, isStart⟩
  have sub : (backup.above start).increments.Sublist backup.increments := List.filter_sublist
  have kept : (backup.above start).template.Sublist backup.template := chain.template ▸ sub.map _
  refine ⟨chain.ascending.sublist sub, fun id => ?_, by omega, rfl, chain.apart.sublist kept,
    fun address isKept => chain.allocated address (kept.subset isKept), fun other isKept => ?_⟩
  · have before := chain.consecutive id
    constructor
    · rintro ⟨other, isKept, isId⟩
      obtain ⟨isOther, inside⟩ := List.mem_filter.1 isKept
      have within := before.1 ⟨other, isOther, isId⟩
      have least := of_decide_eq_true inside
      omega
    · rintro ⟨least, below⟩
      obtain ⟨other, isOther, isId⟩ := before.2 (by omega)
      exact ⟨other, List.mem_filter.2 ⟨isOther, decide_eq_true (by omega)⟩, isId⟩
  · obtain ⟨isOther, inside⟩ := List.mem_filter.1 isKept
    have least := of_decide_eq_true inside
    obtain ⟨id, -, parent⟩ := chain.linked other isOther
    refine ⟨id, fun isFirst => ?_, fun notFirst isIncrement => parent (by omega) isIncrement⟩
    have same : other = inc := Option.some.inj ((chain.getIncrement_iff.2 ⟨isOther, isFirst⟩).symm.trans
      (chain.getIncrement_iff.2 ⟨member, isStart⟩))
    exact same ▸ root

theorem Chain.delete {start : Int} (based : backup.Based start) :
    deleteBelow start.toNat backup = backup.above start.toNat ∧
      ∃ first next, (backup.above start.toNat).Chain first next := by
  have once : (backup.increments.map Increment.id).Nodup :=
    List.pairwise_map.2 (chain.ascending.imp fun less => less.ne)
  rcases based with rfl | ⟨inc, member, isStart, root⟩
  · have whole : backup = backup.above 0 := above_all chain.template fun inc member => by
      have bounds := (chain.consecutive inc.id).1 ⟨inc, member, rfl⟩
      omega
    exact ⟨whole, first, next, whole ▸ chain⟩
  · have bounds := (chain.consecutive start).1 ⟨inc, member, isStart⟩
    obtain ⟨start, rfl⟩ := Int.eq_ofNat_of_zero_le (show 0 ≤ start by omega)
    have present (id : Int) (below : id < start) : (∃ inc ∈ backup.increments, inc.id = id) ↔ (first : Int) ≤ id := by
      rw [chain.consecutive id]
      omega
    exact ⟨deleteBelow_eq chain.template chain.apart once present, start, next, chain.above member isStart root⟩

theorem Chain.update (incs size : String) : ∃ first next, (backup.updateIncrements incs size).1.Chain first next := by
  obtain ⟨kept, -, based⟩ := chain.allSourced (Or.inl rfl) size (split ',' incs)
  unfold updateIncrements
  split
  · rename_i after failed
    rw [failed] at kept
    exact ⟨first, next, kept⟩
  · rename_i after start done
    rw [done] at kept based
    obtain ⟨isAbove, chained⟩ := kept.delete (based start rfl)
    exact isAbove ▸ chained

theorem Chain.follows {event : Event} (orderly : backup.Orderly event) : backup.Follows event := by
  cases event with
  | add => trivial
  | update incs size =>
    rcases orderly with ⟨entry, isFirst, wrong⟩ | ⟨names, once, rest⟩
    · obtain ⟨rest, entries⟩ : ∃ rest, split ',' incs = entry :: rest := List.head?_eq_some_iff.1 isFirst
      have failed : backup.updateIncrements incs size = (backup, false) := by
        unfold updateIncrements
        rw [entries, updateSources]
        cases read : parseEntry entry with
        | none => rfl
        | some parsed =>
          have missing : backup.getIncrement parsed.1 = none := by
            refine List.find?_eq_none.2 fun inc member => ?_
            simpa using fun isId => wrong ⟨parsed, read, inc, member, isId⟩
          simp only [missing]
      refine ⟨fun _ => congrArg Prod.fst failed, fun accepted => ?_⟩
      rw [failed] at accepted
      contradiction
    · obtain ⟨start, -, sources⟩ := chain.namedSources size (-1) names once
      obtain ⟨kept, increments, based⟩ := chain.allSourced (Or.inl rfl) size (split ',' incs)
      rw [if_pos rfl] at start
      change _ = some (((named incs).map Prod.fst).head?.getD (-1)) at start
      have done : backup.updateIncrements incs size =
          ((updateSources size (split ',' incs) (-1) backup).1.above
            (((named incs).map Prod.fst).head?.getD (-1)).toNat, true) := by
        rw [← (kept.delete (based _ start)).1]
        unfold updateIncrements
        rw [← Prod.mk.eta (p := updateSources size (split ',' incs) (-1) backup), start]
      refine ⟨fun failed => ?_, fun _ => ?_⟩
      · rw [done] at failed
        contradiction
      rw [done]
      have isKept (inc : Increment) (member : inc ∈ backup.increments) :
          ((((named incs).map Prod.fst).head?.getD (-1)).toNat : Int) ≤ inc.id ↔ inc.id ∈ (named incs).map Prod.fst := by
        rw [rest inc member]
        have bounds := (chain.consecutive inc.id).1 ⟨inc, member, rfl⟩
        cases ((named incs).map Prod.fst).head? with
        | none => simpa using by omega
        | some first =>
          simp only [Option.getD_some, Option.mem_def, Option.some.injEq, forall_eq']
          omega
      have members (inc : Increment) : inc ∈ ((updateSources size (split ',' incs) (-1) backup).1.above
          (((named incs).map Prod.fst).head?.getD (-1)).toNat).increments ↔
            inc ∈ backup.increments ∧ inc.id ∈ (named incs).map Prod.fst := by
        refine (List.mem_filter.trans (and_congr_left' (by rw [increments]))).trans (and_congr_right fun member => ?_)
        exact decide_eq_true_iff.trans (isKept inc member)
      refine ⟨fun id => ?_, fun entry isNamed inc member isId => ?_⟩
      · constructor
        · rintro ⟨inc, member, rfl⟩
          exact ((members inc).1 member).2
        · intro isNamed
          obtain ⟨parsed, isParsed, rfl⟩ := List.mem_map.1 isNamed
          obtain ⟨text, isEntry, read⟩ := List.mem_filterMap.1 isParsed
          obtain ⟨_, again, inc, member, isId⟩ := names text isEntry
          obtain rfl := Option.some.inj (read.symm.trans again)
          exact ⟨inc, (members inc).2 ⟨member, isId ▸ isNamed⟩, isId⟩
      · exact sources entry isNamed inc ((members inc).1 member).1 isId

end

end Chains

def run (backup : BackupIncrements) (events : List Event) : BackupIncrements :=
  events.foldl (fun backup event => (backup.apply event).1) backup

theorem run_chain (events : List Event) : ∃ first next, (run {} events).Chain first next := by
  refine foldl_keeps (P := fun backup : BackupIncrements => ∃ first next, backup.Chain first next) ?_ ?_
  · rintro backup (⟨now, source, size, type⟩ | ⟨incs, size⟩) ⟨first, next, chain⟩
    · obtain ⟨next, chain⟩ := chain.add now source size type
      exact ⟨first, next, chain⟩
    · exact chain.update incs size
  · exact ⟨0, 0, List.Pairwise.nil, by simp, by simp, rfl, List.nodup_nil, by simp, by simp⟩

/-- The increments of a backup are one chain in every run, and it is that of an orderly reply. -/
theorem increments_follow (events : List Event) : (∃ first next, (run {} events).Chain first next) ∧
      ∀ event, (run {} events).Orderly event → (run {} events).Follows event := by
  obtain ⟨first, next, chain⟩ := run_chain events
  exact ⟨⟨first, next, chain⟩, fun _ orderly => chain.follows orderly⟩

def threeIncrements : List Event :=
  [.add 1 "s0" 10 .full, .add 2 "s1" 1 .increment, .add 3 "s2" 1 .increment]

theorem increments_follow_reply : (run {} threeIncrements).Follows (.update "1:t1,2:t2" "11") :=
  (increments_follow threeIncrements).2 _ (Or.inr ⟨by
    have entries : split ',' "1:t1,2:t2" = ["1:t1", "2:t2"] := by decide +kernel
    rw [entries]
    refine List.forall_mem_cons.mpr ⟨⟨(1, "t1"), by decide +kernel, ⟨1, 1⟩, by decide +kernel, rfl⟩, ?_⟩
    exact List.forall_mem_singleton.mpr ⟨(2, "t2"), by decide +kernel, ⟨2, 2⟩, by decide +kernel, rfl⟩,
    by decide +kernel, by decide +kernel⟩)

/-- A later entry that is wrong leaves the first source changed; an increment that is not named stays. -/
theorem reply_half_applied : ¬(run {} threeIncrements).Follows (.update "0:t0,x" "11") ∧
    ¬(run {} threeIncrements).Follows (.update "0:t0" "11") := by
  constructor
  · intro follows
    have same := congrArg (fun backup : BackupIncrements => backup.value ⟨0, 0⟩ "SOURCE") (follows.1 (by decide +kernel))
    exact absurd same (by decide +kernel)
  · intro follows
    have named := (follows.2 (by decide +kernel)).1 1
    exact absurd (named.mp ⟨⟨1, 1⟩, by decide +kernel, rfl⟩) (by decide +kernel)

end BackupIncrements

end OpenNebula.Images
