import OpenNebula.Library.Map
import OpenNebula.Library.Streams

namespace OpenNebula.Common

open Library

/-! # Vector attributes -/

abbrev VectorAttribute := Map String String

namespace VectorAttribute

section

variable (attr : VectorAttribute)

section

variable (name : String)

def vectorValue : String := (attr.lookup name).getD ""

def replace (name value : String) : VectorAttribute :=
  attr.insert name value

def remove : VectorAttribute := attr.erase name

def merge (attr other : VectorAttribute) : VectorAttribute :=
  other.entries.foldl (fun merged row => merged.replace row.1 row.2) attr

def intValue (held : Int) : Int × Bool :=
  if attr.vectorValue name = "" then (held, false)
  else
    let reading := readNumber 10 .int (attr.vectorValue name)
    (reading.value.getD held, reading.good)

def timeValue (held : Int) : Int × Bool :=
  if attr.vectorValue name = "" then (held, false)
  else
    let reading := Stream.readLong ⟨(attr.vectorValue name).toList, false⟩ 10 held
    (reading.1, !reading.2.failed && reading.2.rest.isEmpty)

def naturalValue (width : Width) (name : String) : Option Nat :=
  let text := attr.vectorValue name
  if text = "" ∨ (trim text).toList.head? = some '-' then none
  else
    let reading := readNumber 10 width text
    if reading.good then reading.value.map Int.toNat else none

def unsignedValue : Option Nat :=
  attr.naturalValue .unsigned name

def unsignedLongValue : Option Nat :=
  attr.naturalValue .unsignedLong name

end

@[simp] theorem vectorValue_replace (name value other : String) :
    (attr.replace name value).vectorValue other = if other = name then value else attr.vectorValue other := by
  rw [vectorValue, replace, Map.lookup_insert_eq]
  split <;> rfl

@[simp] theorem vectorValue_remove (name other : String) :
    (attr.remove name).vectorValue other = if other = name then "" else attr.vectorValue other := by
  rw [vectorValue, remove, Map.lookup_erase_eq]
  split <;> rfl

end

variable {attr : VectorAttribute} {name : String} {number : Nat}

theorem merge_value {left other : VectorAttribute} {value : String}
    (agrees : ∀ row ∈ other.entries, row.1 = name → row.2 = value) (isValue : left.vectorValue name = value) :
    (left.merge other).vectorValue name = value := by
  rw [merge]
  generalize other.entries = rows at agrees
  induction rows generalizing left with
  | nil => exact isValue
  | cons row rest ih =>
    refine ih ?_ fun other member => agrees other (List.mem_cons_of_mem _ member)
    rw [vectorValue_replace]
    split
    · rename_i same
      exact agrees row List.mem_cons_self same.symm
    · exact isValue

section

variable (isStored : attr.vectorValue name = toString number)
include isStored

theorem naturalValue_stored {width : Width} (fits : width.store false number = ((number : Int), true)) :
    attr.naturalValue width name = some number := by
  obtain ⟨digit, rest, isDigit, isText⟩ := toDigits_cons number
  have chars : (toString number).toList = digit.digitChar :: rest := Nat.toList_repr.trans isText
  have filled : toString number ≠ "" := by
    intro empty
    rw [empty] at chars
    cases chars
  have notMinus : (toString number).toList.head? ≠ some '-' := by
    rw [chars]
    exact fun same => (digitChar_plain isDigit).2.1 (Option.some.inj same)
  simp only [naturalValue, isStored, filled, trim_toString, notMinus, or_self, if_false,
    readNumber_stored fits, if_true, Option.map_some, Int.toNat_natCast]

theorem unsignedValue_stored (fits : number < 2 ^ 32) : attr.unsignedValue name = some number :=
  naturalValue_stored isStored (storeUnsigned_natural fits)

theorem unsignedLongValue_stored (fits : number < 2 ^ 64) : attr.unsignedLongValue name = some number :=
  naturalValue_stored isStored (storeUnsigned_natural fits)

end

end VectorAttribute

end OpenNebula.Common
