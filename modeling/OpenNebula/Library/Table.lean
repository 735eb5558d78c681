import Mathlib.Data.Finset.Dedup

namespace OpenNebula.Library

/-! # Dictionaries

A dictionary that is filled once and then read: the list of its keys, in their order, and what it
gives for each of them.  What it gives for another key is never looked at, for such a lookup fails.
-/

universe u v

structure Table (κ : Type u) (α : Type v) where
  keys : List κ
  get : κ → α

namespace Table

variable {κ : Type u} {α : Type v} [DecidableEq κ] {rows : List (κ × α)} {table : Table κ α} {key : κ}

def ids (table : Table κ α) : Finset κ := table.keys.toFinset

def lookup (table : Table κ α) (key : κ) : Option α :=
  if key ∈ table.ids then some (table.get key) else none

def ofList [Inhabited α] (rows : List (κ × α)) : Table κ α where
  keys := rows.map Prod.fst
  get key := (rows.lookup key).getD default

theorem lookup_eq_some {value : α} : table.lookup key = some value ↔ key ∈ table.ids ∧ table.get key = value := by
  unfold lookup
  split
  · rename_i member
    simp [member]
  · rename_i absent
    simp [absent]

end Table

end OpenNebula.Library
