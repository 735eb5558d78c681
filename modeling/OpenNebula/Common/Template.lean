import Mathlib.Data.List.Sort
import Mathlib.Data.String.Basic
import OpenNebula.Common.VectorAttribute

namespace OpenNebula.Common

open Library

/-! # Templates (`Template`)

A multimap keeps the attributes with one name in the order in which they were inserted.
-/

inductive Attribute where
  | single (value : String)
  | vector (value : VectorAttribute)
deriving DecidableEq

structure Template where
  attributes : List (String × Attribute) := []
deriving DecidableEq

namespace Template

variable (tmpl : Template)

section

variable (name : String)

def singles : List String :=
  tmpl.attributes.filterMap fun row =>
    match row with
    | (other, .single value) => if other = name then some value else none
    | (_, .vector _) => none

def vectors : List VectorAttribute :=
  tmpl.attributes.filterMap fun row =>
    match row with
    | (other, .vector value) => if other = name then some value else none
    | (_, .single _) => none

def get : Option String := (tmpl.singles name).head?

def set (row : String × Attribute) : Template := ⟨tmpl.attributes ++ [row]⟩

def erase : Template := ⟨tmpl.attributes.filter fun row => row.1 ≠ name⟩

def isEmptyVector : Attribute → Bool
  | .single _ => false
  | .vector value => value.entries.isEmpty

def merge (other : Template) : Template :=
  other.attributes.foldl (fun merged row => if isEmptyVector row.2 then merged else merged.set row)
    (other.attributes.foldl (fun erased row => erased.erase row.1) tmpl)

/-- The sub-attributes that are restricted, by attribute; there are none for a simple one. -/
abbrev Restricted := Map String (List String)

def restrictedPairs (subs : List String) : List (String × String) :=
  (tmpl.vectors name).flatMap fun attr =>
    subs.filterMap fun sub => (attr.lookup sub).map fun value => (sub, value)

def restrictedValues (subs : List String) : List String × Bool :=
  (((tmpl.restrictedPairs name subs).map fun pair => pair.1 ++ pair.2).insertionSort (· ≤ ·),
    !(tmpl.vectors name).isEmpty)

end

def checkAttribute (base : Template) (append : Bool) (name : String) (subs : List String) : Except String Template :=
  if subs ≠ [] then
    let (values, given) := tmpl.restrictedValues name subs
    let (baseValues, held) := base.restrictedValues name subs
    if values ≠ baseValues ∧ (given || !append && held) then throw name else pure tmpl
  else
    match tmpl.get name, base.get name with
    | some value, held => if held.getD "" ≠ value then throw name else pure tmpl
    | none, some value => pure (tmpl.set (name, .single value))
    | none, none => pure tmpl

def checkRestricted (base : Template) (append : Bool) :
    List (Σ _ : String, List String) → Template → Except String Template
  | [], tmpl => pure tmpl
  | ⟨name, subs⟩ :: rest, tmpl => do
      let checked ← tmpl.checkAttribute base append name subs
      checkRestricted base append rest checked

def replaceTemplate (base user : Template) (restricted : Restricted) : Except String Template :=
  match checkRestricted base false restricted.entries user with
  | .ok tmpl => pure tmpl
  | .error name => throw ("Tried to change restricted attribute: " ++ name)

def appendTemplate (base user : Template) (restricted : Restricted) : Except String Template :=
  match checkRestricted base true restricted.entries user with
  | .ok tmpl => pure (base.merge tmpl)
  | .error name => throw ("User Template includes a restricted attribute " ++ name)

end Template

end OpenNebula.Common
