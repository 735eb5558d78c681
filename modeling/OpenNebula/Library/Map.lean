import Mathlib.Algebra.BigOperators.Group.List.Basic
import Mathlib.Algebra.Ring.Nat
import Mathlib.Data.Finset.Card
import Mathlib.Data.List.AList

namespace OpenNebula.Library

/-! # Finite maps

Association lists with distinct keys stand for ordered maps and for the tables
of a database with a primary key.  Deleting the rows that fail a predicate and
updating rows in place are the operations that `AList` does not have.
-/

abbrev Map (κ α : Type) := AList (fun _ : κ => α)

namespace Map

variable {κ α : Type} [DecidableEq κ]

def filter (keep : κ → α → Bool) (rows : Map κ α) : Map κ α where
  entries := rows.entries.filter fun row => keep row.1 row.2
  nodupKeys := rows.nodupKeys.sublist List.filter_sublist

def modify (update : κ → α → α) (rows : Map κ α) : Map κ α where
  entries := rows.entries.map (Sigma.map id update)
  nodupKeys := rows.nodupKeys.map₂ update _

def update (key : κ) (change : α → α) (rows : Map κ α) : Map κ α :=
  modify (fun other value => if other = key then change value else value) rows

def insertNew (key : κ) (value : α) (rows : Map κ α) : Map κ α :=
  if key ∈ rows then rows else rows.insert key value

omit [DecidableEq κ] in
theorem nodupKeys_snoc {rows : Map κ α} {key : κ} (absent : key ∉ rows) (value : α) :
    (rows.entries ++ [(⟨key, value⟩ : Σ _ : κ, α)]).NodupKeys := by
  rw [List.nodupKeys_middle, List.append_nil]
  exact List.nodupKeys_cons.2 ⟨absent, rows.nodupKeys⟩

def insertLast (key : κ) (value : α) (rows : Map κ α) : Map κ α :=
  if present : key ∈ rows then rows else ⟨rows.entries ++ [⟨key, value⟩], nodupKeys_snoc present value⟩

variable {value : α}

theorem mem_entries_iff {key : κ} {rows : Map κ α} :
    (⟨key, value⟩ : Σ _ : κ, α) ∈ rows.entries ↔ rows.lookup key = some value :=
  (List.mem_dlookup_iff rows.nodupKeys).symm

theorem lookup_filter (keep : κ → α → Bool) (rows : Map κ α) (key : κ) :
    (filter keep rows).lookup key = (rows.lookup key).filter (keep key) := by
  apply Option.ext
  intro value
  rw [Option.filter_eq_some_iff, ← mem_entries_iff, ← mem_entries_iff]
  simp [filter]

theorem lookup_modify (update : κ → α → α) (rows : Map κ α) (key : κ) :
    (modify update rows).lookup key = (rows.lookup key).map (update key) :=
  List.dlookup_map₂ key

theorem lookup_update (key other : κ) (change : α → α) (rows : Map κ α) : (update key change rows).lookup other =
      (rows.lookup other).map fun value => if other = key then change value else value :=
  lookup_modify _ rows other

theorem lookup_update_ne {key other : κ} (apart : other ≠ key) (change : α → α) (rows : Map κ α) :
    (update key change rows).lookup other = rows.lookup other := by
  simp [lookup_update, apart]

theorem update_id (key : κ) (rows : Map κ α) : update key id rows = rows := by
  have same : (fun (other : κ) (value : α) => if other = key then id value else value) = fun _ => id := by
    funext other value
    exact ite_self value
  rw [update, same]
  exact AList.ext (List.map_id _)

theorem lookup_foldl_update {β : Type} (change : β → α → α) (changes : List (Σ _ : κ, β))
    (nodup : changes.NodupKeys) (rows : Map κ α) (key : κ) :
    (changes.foldl (fun rows row => update row.1 (change row.2) rows) rows).lookup key =
      (rows.lookup key).map fun value =>
        match changes.dlookup key with
        | none => value
        | some held => change held value := by
  induction changes generalizing rows with
  | nil => simp
  | cons row rest ih =>
    obtain ⟨other, held⟩ := row
    obtain ⟨absent, nodupRest⟩ := List.nodupKeys_cons.1 nodup
    rw [List.foldl_cons, ih nodupRest, lookup_update, Option.map_map]
    congr 1
    funext value
    by_cases same : key = other
    · subst same
      simp [List.dlookup_eq_none.2 absent]
    · rw [List.dlookup_cons_ne rest ⟨other, held⟩ same]
      simp [same]

theorem mem_modify {update : κ → α → α} {rows : Map κ α} {key : κ} : key ∈ modify update rows ↔ key ∈ rows := by
  rw [← AList.lookup_isSome, ← AList.lookup_isSome, lookup_modify, Option.isSome_map]

@[simp] theorem lookup_insertNew_self (key : κ) (value : α) (rows : Map κ α) :
    (insertNew key value rows).lookup key = some ((rows.lookup key).getD value) := by
  unfold insertNew
  split
  · rename_i inside
    obtain ⟨found, isFound⟩ := Option.isSome_iff_exists.1 (AList.lookup_isSome.2 inside)
    simp [isFound]
  · rename_i absent
    simp [AList.lookup_eq_none.2 absent]

theorem lookup_insertNew_ne {key other : κ} (apart : other ≠ key) (value : α) (rows : Map κ α) :
    (insertNew key value rows).lookup other = rows.lookup other := by
  unfold insertNew
  split
  · rfl
  · exact AList.lookup_insert_ne apart

theorem mem_insertNew {key other : κ} {rows : Map κ α} :
    other ∈ insertNew key value rows ↔ other = key ∨ other ∈ rows := by
  unfold insertNew
  split
  · rename_i inside
    exact ⟨.inr, fun either => either.elim (fun same => same ▸ inside) id⟩
  · exact AList.mem_insert _

theorem lookup_insertLast {key : κ} {rows : Map κ α} (absent : key ∉ rows) (other : κ) :
    (insertLast key value rows).lookup other = if other = key then some value else rows.lookup other := by
  apply Option.ext
  intro found
  rw [insertLast, dif_neg absent, ← mem_entries_iff]
  simp only [List.mem_append, List.mem_singleton, Sigma.mk.injEq, heq_eq_eq]
  rw [mem_entries_iff]
  split
  · rename_i same
    subst same
    simp [AList.lookup_eq_none.2 absent, eq_comm]
  · rename_i apart
    simp [apart]

theorem lookup_insert_eq (key other : κ) (value : α) (rows : Map κ α) : (AList.insert key value rows).lookup other =
      if other = key then some value else rows.lookup other := by
  by_cases same : other = key
  · subst same; simp
  · rw [if_neg same]; exact AList.lookup_insert_ne same

theorem lookup_erase_eq (key other : κ) (rows : Map κ α) :
    (AList.erase key rows).lookup other = if other = key then none else rows.lookup other := by
  by_cases same : other = key
  · subst same; simp
  · rw [if_neg same]; exact AList.lookup_erase_ne same

theorem mem_keys_iff {key : κ} {rows : Map κ α} : key ∈ rows.keys ↔ ∃ value, rows.lookup key = some value := by
  rw [← AList.mem_keys, ← AList.lookup_isSome, Option.isSome_iff_exists]

def keysWhere (holds : α → Bool) (rows : Map κ α) : Finset κ :=
  ((rows.entries.filter fun row => holds row.2).map Sigma.fst).toFinset

theorem mem_keysWhere {holds : α → Bool} {rows : Map κ α} {key : κ} :
    key ∈ keysWhere holds rows ↔ ∃ value, rows.lookup key = some value ∧ holds value = true := by
  simp only [keysWhere, List.mem_toFinset, List.mem_map, List.mem_filter]
  constructor
  · rintro ⟨⟨found, value⟩, ⟨inside, isHeld⟩, rfl⟩
    exact ⟨value, mem_entries_iff.1 inside, isHeld⟩
  · rintro ⟨value, isValue, isHeld⟩
    exact ⟨⟨key, value⟩, ⟨mem_entries_iff.2 isValue, isHeld⟩, rfl⟩

theorem card_keysWhere (holds : α → Bool) (rows : Map κ α) :
    (keysWhere holds rows).card = (rows.entries.filter fun row => holds row.2).length := by
  have nodup : ((rows.entries.filter fun row => holds row.2).map Sigma.fst).Nodup :=
    rows.nodupKeys.sublist List.filter_sublist
  rw [keysWhere, List.toFinset_card_of_nodup nodup, List.length_map]

def total (weight : α → Nat) (rows : Map κ α) : Nat :=
  (rows.entries.map fun row => weight row.2).sum

variable {weight : α → Nat} {rows : Map κ α} {key : κ}

def sum {M : Type} [AddCommMonoid M] (measure : α → M) (rows : Map κ α) : M :=
  (rows.entries.map fun row => measure row.2).sum

section

variable {M : Type} [AddCommMonoid M] {measure : α → M}

theorem sum_erase {value : α} (found : rows.lookup key = some value) :
    measure value + sum measure (rows.erase key) = sum measure rows := by
  have inside : key ∈ rows.entries.keys := mem_keys_iff.2 ⟨value, found⟩
  obtain ⟨held, front, back, -, split, erased⟩ := List.exists_of_kerase inside
  have member : (⟨key, held⟩ : Σ _ : κ, α) ∈ rows.entries := by rw [split]; simp
  have same : held = value := Option.some.inj ((mem_entries_iff.1 member).symm.trans found)
  have isErased : (rows.erase key).entries = front ++ back := erased
  rw [sum, sum, isErased, split, same]
  simp only [List.map_append, List.map_cons, List.sum_append, List.sum_cons]
  exact add_left_comm _ _ _

theorem sum_insertNew (absent : key ∉ rows) (value : α) :
    sum measure (insertNew key value rows) = measure value + sum measure rows := by
  rw [insertNew, if_neg absent, sum, AList.entries_insert_of_notMem absent]
  rfl

omit [DecidableEq κ] in
theorem sum_modify {update : κ → α → α} (kept : ∀ key value, measure (update key value) = measure value) :
    sum measure (modify update rows) = sum measure rows := by
  have same : (modify update rows).entries.map (fun row => measure row.2) =
      rows.entries.map fun row => measure row.2 := by
    rw [modify, List.map_map]
    exact List.map_congr_left fun row _ => kept row.1 row.2
  rw [sum, same, sum]

end

theorem total_erase (found : rows.lookup key = some value) :
    weight value + total weight (rows.erase key) = total weight rows :=
  sum_erase found

theorem total_insert (value : α) :
    total weight (rows.insert key value) = weight value + total weight (rows.erase key) := rfl

theorem erase_of_notMem (absent : key ∉ rows) : rows.erase key = rows :=
  AList.ext (List.kerase_of_notMem_keys absent)

theorem erase_insert_new {value : α} (absent : key ∉ rows) : (rows.insert key value).erase key = rows := by
  have erased : (rows.insert key value).entries.kerase key = rows.entries.kerase key :=
    @List.kerase_cons_eq κ (fun _ => α) _ key ⟨key, value⟩ _ rfl
  exact AList.ext (erased.trans (List.kerase_of_notMem_keys absent))

theorem total_insert_new (absent : key ∉ rows) :
    total weight (rows.insert key value) = weight value + total weight rows := by
  rw [total_insert, erase_of_notMem absent]

theorem length_erase (found : rows.lookup key = some value) :
    (rows.erase key).entries.length + 1 = rows.entries.length := by
  have inside : key ∈ rows.entries.keys := mem_keys_iff.2 ⟨value, found⟩
  obtain ⟨held, front, back, -, split, erased⟩ := List.exists_of_kerase inside
  have isErased : (rows.erase key).entries = front ++ back := erased
  rw [isErased, split]
  simp only [List.length_append, List.length_cons]
  omega

theorem length_insertNew (absent : key ∉ rows) :
    (insertNew key value rows).entries.length = rows.entries.length + 1 := by
  rw [insertNew, if_neg absent]
  change (⟨key, value⟩ :: List.kerase key rows.entries).length = _
  rw [List.length_cons, List.kerase_of_notMem_keys absent]

theorem lookup_foldl_insertNew (added : List (Σ _ : κ, α)) (start : Map κ α) (key : κ) :
    (added.foldl (fun rows row => insertNew row.1 row.2 rows) start).lookup key =
      (start.lookup key).or (added.dlookup key) := by
  induction added generalizing start with
  | nil => simp
  | cons row rest ih =>
    obtain ⟨held, value⟩ := row
    rw [List.foldl_cons, ih]
    by_cases same : key = held
    · subst same
      rw [lookup_insertNew_self, List.dlookup_cons_eq]
      cases start.lookup key with
      | none | some value => rfl
    · rw [lookup_insertNew_ne same, List.dlookup_cons_ne rest ⟨held, value⟩ same]

theorem length_foldl_insertNew {added : List (Σ _ : κ, α)} {start : Map κ α} (distinct : added.NodupKeys)
    (absent : ∀ row ∈ added, row.1 ∉ start) :
    (added.foldl (fun rows row => insertNew row.1 row.2 rows) start).entries.length =
      start.entries.length + added.length := by
  induction added generalizing start with
  | nil => rfl
  | cons row rest ih =>
    obtain ⟨apart, others⟩ := List.nodupKeys_cons.1 distinct
    have isNew : row.1 ∉ start := absent row List.mem_cons_self
    rw [List.foldl_cons, ih others, length_insertNew isNew, List.length_cons]
    · omega
    · intro other member inside
      rcases mem_insertNew.1 inside with same | before
      · exact apart (same ▸ List.mem_keys_of_mem member)
      · exact absent other (List.mem_cons_of_mem _ member) before

end Map

end OpenNebula.Library
