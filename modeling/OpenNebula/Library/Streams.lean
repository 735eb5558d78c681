import Mathlib.Algebra.Order.Ring.Int
import Mathlib.Data.List.Basic

namespace OpenNebula.Library

/-! # Numbers and lines of text streams

What the formatted input and output of C++ streams does to a text that holds one
number, and how `getline` cuts a text into pieces.  A number that does not fit its
type or is followed by other text fails, and the variable is changed all the same.
-/

/-- A piece of white space. -/
def isBlank (char : Char) : Bool := char = ' ' || ('\t' ≤ char && char ≤ '\r')

def digitValue (base : Nat) (char : Char) : Option Nat :=
  let value :=
    if char.isDigit then char.toNat - '0'.toNat
    else if 'a' ≤ char ∧ char ≤ 'f' then char.toNat - 'a'.toNat + 10
    else if 'A' ≤ char ∧ char ≤ 'F' then char.toNat - 'A'.toNat + 10
    else base
  if value < base then some value else none

/-- The number at the front of the text, `none` without a digit, and the rest. -/
def readDigits (base : Nat) : List Char → Option Nat → Option Nat × List Char
  | [], sofar => (sofar, [])
  | char :: rest, sofar =>
    match digitValue base char with
    | none => (sofar, char :: rest)
    | some digit => readDigits base rest (some (base * sofar.getD 0 + digit))

def skipBase (base : Nat) (text : List Char) : List Char :=
  match text with
  | '0' :: 'x' :: rest | '0' :: 'X' :: rest => if base = 16 then rest else text
  | _ => text

def splitSign (text : List Char) : Bool × List Char :=
  match text with
  | '-' :: rest => (true, rest)
  | '+' :: rest => (false, rest)
  | _ => (false, text)

/-- The integer types, with the value that is stored and whether the number fits. -/
inductive Width where
  | int
  | unsigned
  | unsignedLong

def storeUnsigned (bits : Nat) (negative : Bool) (magnitude : Nat) : Int × Bool :=
  if magnitude < 2 ^ bits then
    (if negative then ((2 ^ bits - magnitude) % 2 ^ bits : Nat) else (magnitude : Int), true)
  else (2 ^ bits - 1, false)

def Width.store (width : Width) (negative : Bool) (magnitude : Nat) : Int × Bool :=
  match width with
  | .int =>
    if negative then if magnitude ≤ 2 ^ 31 then (-(magnitude : Int), true) else (-2 ^ 31, false)
    else if magnitude < 2 ^ 31 then ((magnitude : Int), true) else (2 ^ 31 - 1, false)
  | .unsigned => storeUnsigned 32 negative magnitude
  | .unsignedLong => storeUnsigned 64 negative magnitude

/-- `iss >> variable`: the value that the variable gets, if any, and whether the
whole text was a number. -/
structure Reading where
  value : Option Int
  good : Bool
deriving DecidableEq

def readNumber (base : Nat) (width : Width) (text : String) : Reading :=
  match text.toList.dropWhile isBlank with
  | [] => ⟨none, false⟩
  | chars =>
    match readDigits base (skipBase base (splitSign chars).2) none with
    | (none, _) => ⟨some 0, false⟩
    | (some magnitude, rest) =>
      ⟨some (width.store (splitSign chars).1 magnitude).1,
        (width.store (splitSign chars).1 magnitude).2 && rest.isEmpty⟩

/-- A stream that is read piece by piece: what is left, and whether a read failed.
At the end of the text every further read fails and leaves its variable alone. -/
structure Stream where
  rest : List Char
  failed : Bool

/-- `stream >> variable`, with the value that the variable holds -/
def Stream.readUnsigned (stream : Stream) (base held : Nat) : Nat × Stream :=
  if stream.failed then (held, stream)
  else
    match stream.rest.dropWhile isBlank with
    | [] => (held, ⟨[], true⟩)
    | chars =>
      match readDigits base (skipBase base (splitSign chars).2) none with
      | (none, rest) => (0, ⟨rest, true⟩)
      | (some magnitude, rest) =>
        let stored := storeUnsigned 32 (splitSign chars).1 magnitude
        (stored.1.toNat, ⟨rest, !stored.2⟩)

def Stream.readLong (stream : Stream) (base : Nat) (held : Int) : Int × Stream :=
  if stream.failed then (held, stream)
  else
    match stream.rest.dropWhile isBlank with
    | [] => (held, ⟨[], true⟩)
    | chars =>
      match readDigits base (skipBase base (splitSign chars).2) none with
      | (none, rest) => (0, ⟨rest, true⟩)
      | (some magnitude, rest) =>
        if (splitSign chars).1 then
          if magnitude ≤ 2 ^ 63 then (-(magnitude : Int), ⟨rest, false⟩)
          else (-2 ^ 63, ⟨rest, true⟩)
        else if magnitude < 2 ^ 63 then ((magnitude : Int), ⟨rest, false⟩)
        else (2 ^ 63 - 1, ⟨rest, true⟩)

/-- `iss >> variable`, when it does not fail; other text may follow the number. -/
def extracted (width : Width) (text : String) : Option Int :=
  let chars := text.toList.dropWhile isBlank
  match (readDigits 10 (splitSign chars).2 none).1 with
  | none => none
  | some magnitude =>
    if (width.store (splitSign chars).1 magnitude).2 then
      some (width.store (splitSign chars).1 magnitude).1
    else none

def pieces (delimiter : Char) (text : String) : List String :=
  let parts := (text.toList.splitOn delimiter).map String.ofList
  if parts.getLast? = some "" then parts.dropLast else parts

def split (delimiter : Char) (text : String) : List String := (pieces delimiter text).filter (· ≠ "")

def splitUnique (width : Width) (delimiter : Char) (text : String) : List Int :=
  (pieces delimiter text).filterMap (extracted width)

def trim (text : String) : String :=
  String.ofList ((text.toList.dropWhile isBlank).reverse.dropWhile isBlank).reverse

def firstWord (text : String) : String :=
  String.ofList ((text.toList.dropWhile isBlank).takeWhile fun char => !isBlank char)

/-- Filled with zeros on the left. -/
def padded (width : Nat) (text : String) : String :=
  String.ofList (List.replicate (width - text.length) '0') ++ text

def hexText (number : Nat) : String := String.ofList (Nat.toDigits 16 number)

theorem padded_hexText (width number : Nat) : (padded width (hexText number)).toList =
      List.replicate (width - (Nat.toDigits 16 number).length) '0' ++ Nat.toDigits 16 number := by
  simp [padded, hexText]

variable {base digit number : Nat} {char : Char} {text : List Char} {sofar : Option Nat} {value : Int}

theorem digitValue_digitChar (most : base ≤ 16) (isDigit : digit < base) :
    digitValue base digit.digitChar = some digit := by
  have all : ∀ base ≤ 16, ∀ digit < base, digitValue base (Nat.digitChar digit) = some digit := by
    decide
  exact all base most digit isDigit

theorem readDigits_snoc {value : Nat} (read : readDigits base text sofar = (some value, []))
    (isDigit : digitValue base char = some digit) :
    readDigits base (text ++ [char]) sofar = (some (base * value + digit), []) := by
  induction text generalizing sofar with
  | nil =>
    simp only [readDigits, Prod.mk.injEq] at read
    simp only [List.nil_append, readDigits, isDigit, read.1, Option.getD_some]
  | cons first rest ih =>
    cases isFirst : digitValue base first with
    | none => simp [readDigits, isFirst] at read
    | some value =>
      simp only [readDigits, isFirst] at read
      simp only [List.cons_append, readDigits, isFirst]
      exact ih read

theorem readDigits_digits (least : 1 < base) (most : base ≤ 16) (number : Nat) :
    readDigits base (Nat.toDigits base number) none = (some number, []) := by
  induction number using Nat.strongRecOn with
  | ind number ih =>
    rw [Nat.toDigits_eq_if least]
    split
    · rename_i small
      simp [readDigits, digitValue_digitChar most small]
    · rename_i large
      have isNumber : base * (number / base) + number % base = number := Nat.div_add_mod number base
      rw [readDigits_snoc (ih (number / base) (Nat.div_lt_self (by omega) least))
        (digitValue_digitChar most (Nat.mod_lt _ (by omega))), isNumber]

theorem readDigits_toDigits (number : Nat) : readDigits 10 (Nat.toDigits 10 number) none = (some number, []) :=
  readDigits_digits (by decide) (by decide) number

theorem readDigits_zeros (positive : 0 < base) (read : readDigits base text none = (some number, [])) (zeros : Nat) :
    readDigits base (List.replicate zeros '0' ++ text) none = (some number, []) := by
  have zero : digitValue base '0' = some 0 := by simp [digitValue, positive]
  induction zeros with
  | zero => exact read
  | succ zeros ih =>
    rw [List.replicate_succ, List.cons_append, readDigits, zero]
    cases rest : List.replicate zeros '0' ++ text with
    | nil =>
      rw [rest] at ih
      simp [readDigits] at ih
    | cons char rest =>
      rw [rest, readDigits] at ih
      cases isDigit : digitValue base char with
      | none => simp [isDigit] at ih
      | some digit => simpa [readDigits, isDigit] using ih

theorem readDigits_padded (least : 1 < base) (most : base ≤ 16) (width number : Nat) :
    readDigits base (List.replicate (width - (Nat.toDigits base number).length) '0' ++
      Nat.toDigits base number) none = (some number, []) :=
  readDigits_zeros (by omega) (readDigits_digits least most number) _

theorem digitValue_of_read (read : readDigits base text sofar = (some number, [])) :
    ∀ char ∈ text, digitValue base char ≠ none := by
  induction text generalizing sofar with
  | nil => exact fun char inside => by cases inside
  | cons first rest ih =>
    cases isDigit : digitValue base first with
    | none => simp [readDigits, isDigit] at read
    | some digit =>
      rw [readDigits, isDigit] at read
      intro char inside
      rcases List.mem_cons.1 inside with rfl | later
      · rw [isDigit]
        exact Option.some_ne_none digit
      · exact ih read char later

theorem toDigits_cons (number : Nat) :
    ∃ digit rest, digit < 10 ∧ Nat.toDigits 10 number = digit.digitChar :: rest := by
  induction number using Nat.strongRecOn with
  | ind number ih =>
    rw [Nat.toDigits_eq_if (by decide)]
    split
    · rename_i small
      exact ⟨number, [], small, rfl⟩
    · obtain ⟨digit, rest, isDigit, same⟩ := ih (number / 10) (by omega)
      exact ⟨digit, rest ++ [(number % 10).digitChar], isDigit, by rw [same]; rfl⟩

theorem digitChar_plain (isDigit : digit < 10) :
    isBlank digit.digitChar = false ∧ digit.digitChar ≠ '-' ∧ digit.digitChar ≠ '+' := by
  have all : ∀ digit < 10, isBlank (Nat.digitChar digit) = false ∧ Nat.digitChar digit ≠ '-' ∧
      Nat.digitChar digit ≠ '+' := by
    decide
  exact all digit isDigit

theorem splitSign_plain (rest : List Char) (notMinus : char ≠ '-') (notPlus : char ≠ '+') :
    splitSign (char :: rest) = (false, char :: rest) := by
  simp only [splitSign]
  split
  · rename_i same
    exact absurd (List.cons.inj same).1 notMinus
  · rename_i same
    exact absurd (List.cons.inj same).1 notPlus
  · rfl

theorem splitSign_digits (isDigit : digit < 10) (rest : List Char) :
    splitSign (digit.digitChar :: rest) = (false, digit.digitChar :: rest) := by
  obtain ⟨-, notMinus, notPlus⟩ := digitChar_plain isDigit
  exact splitSign_plain rest notMinus notPlus

theorem skipBase_ten (text : List Char) : skipBase 10 text = text := by
  simp only [skipBase]
  split <;> simp

theorem readNumber_stored {width : Width} (fits : width.store false number = ((number : Int), true)) :
    readNumber 10 width (toString number) = ⟨some number, true⟩ := by
  obtain ⟨digit, rest, isDigit, isText⟩ := toDigits_cons number
  have read := readDigits_toDigits number
  rw [isText] at read
  have notBlank := (digitChar_plain isDigit).1
  have chars : (toString number).toList = digit.digitChar :: rest := Nat.toList_repr.trans isText
  simp only [readNumber, chars, List.dropWhile_cons, notBlank, Bool.false_eq_true, if_false,
    splitSign_digits isDigit, skipBase_ten, read, fits, List.isEmpty_nil, Bool.and_self]

theorem readNumber_natural (fits : number < 2 ^ 31) : readNumber 10 .int (toString number) = ⟨some number, true⟩ :=
  readNumber_stored (by simp only [Width.store, Bool.false_eq_true, if_false, if_pos fits])

theorem storeUnsigned_natural {bits : Nat} (fits : number < 2 ^ bits) :
    storeUnsigned bits false number = ((number : Int), true) := by
  simp only [storeUnsigned, if_pos fits, Bool.false_eq_true, if_false]

theorem toString_toList_int (value : Int) : (toString value).toList =
      if value < 0 then '-' :: Nat.toDigits 10 value.natAbs else Nat.toDigits 10 value.natAbs := by
  cases value with
  | ofNat number =>
    have natural : ¬Int.ofNat number < 0 := Int.not_lt.2 (Int.natCast_nonneg number)
    rw [if_neg natural]
    exact Nat.toList_repr
  | negSucc number =>
    rw [if_pos (Int.negSucc_lt_zero number)]
    change (String.append "-" (Nat.repr (number + 1))).toList = _
    have joined : (String.append "-" (Nat.repr (number + 1))).toList =
        "-".toList ++ (Nat.repr (number + 1)).toList := String.toList_append
    rw [joined, Nat.toList_repr]
    rfl

theorem splitSign_toString (value : Int) : (toString value).toList.dropWhile isBlank = (toString value).toList ∧
      splitSign (toString value).toList = (decide (value < 0), Nat.toDigits 10 value.natAbs) := by
  obtain ⟨digit, rest, isDigit, isText⟩ := toDigits_cons value.natAbs
  have notBlank := (digitChar_plain isDigit).1
  rw [toString_toList_int, isText]
  split
  · rename_i negative
    rw [decide_eq_true negative]
    exact ⟨rfl, rfl⟩
  · rename_i natural
    rw [decide_eq_false natural, splitSign_digits isDigit]
    exact ⟨List.dropWhile_cons_of_neg (by simp [notBlank]), rfl⟩

theorem extracted_toString (low : -2 ^ 31 ≤ value) (high : value < 2 ^ 31) :
    extracted .int (toString value) = some value := by
  obtain ⟨noBlank, sign⟩ := splitSign_toString value
  simp only [extracted, noBlank, sign, readDigits_toDigits, Width.store]
  by_cases negative : value < 0
  · have magnitude : value.natAbs ≤ 2 ^ 31 := by omega
    simp only [negative, decide_true, if_true, magnitude]
    congr 1
    omega
  · have magnitude : value.natAbs < 2 ^ 31 := by omega
    simp only [negative, decide_false, Bool.false_eq_true, if_false, magnitude, if_true]
    congr 1
    omega

theorem Stream.readLong_toString (low : -2 ^ 63 ≤ value) (high : value < 2 ^ 63) (held : Int) :
    (Stream.mk (toString value).toList false).readLong 10 held = (value, ⟨[], false⟩) := by
  obtain ⟨noBlank, sign⟩ := splitSign_toString value
  have filled : (toString value).toList ≠ [] := by
    obtain ⟨digit, rest, -, isText⟩ := toDigits_cons value.natAbs
    rw [toString_toList_int, isText]
    split <;> simp
  obtain ⟨first, more, isText⟩ := List.exists_cons_of_ne_nil filled
  rw [isText] at noBlank sign
  simp only [Stream.readLong, Bool.false_eq_true, if_false, isText, noBlank, sign, skipBase_ten, readDigits_toDigits]
  by_cases negative : value < 0
  · have magnitude : value.natAbs ≤ 2 ^ 63 := by omega
    simp only [negative, decide_true, if_true, magnitude, Prod.mk.injEq, and_true]
    omega
  · have magnitude : value.natAbs < 2 ^ 63 := by omega
    simp only [negative, decide_false, Bool.false_eq_true, if_false, magnitude, if_true, Prod.mk.injEq, and_true]
    omega

theorem readNumber_minusOne : readNumber 10 .int "-1" = ⟨some (-1), true⟩ := by decide

theorem pieces_intercalate {delimiter : Char} {texts : List String}
    (plain : ∀ text ∈ texts, text ≠ "" ∧ delimiter ∉ text.toList) {joined : String}
    (isJoined : joined.toList = [delimiter].intercalate (texts.map String.toList)) :
    pieces delimiter joined = texts := by
  cases texts with
  | nil => simp [pieces, isJoined]
  | cons first rest =>
    have apart : ∀ chars ∈ (first :: rest).map String.toList, delimiter ∉ chars := by
      intro chars member
      obtain ⟨text, isText, rfl⟩ := List.mem_map.1 member
      exact (plain text isText).2
    have parts : (joined.toList.splitOn delimiter).map String.ofList = first :: rest := by
      rw [isJoined, List.splitOn_intercalate delimiter apart (by simp), List.map_map]
      exact (List.map_congr_left fun text _ => String.ofList_toList).trans (List.map_id _)
    have lastFilled : (first :: rest).getLast? ≠ some "" := fun isLast =>
      (plain "" (List.mem_of_getLast? isLast)).1 rfl
    simp only [pieces, parts, if_neg lastFilled]

theorem storeUnsigned_lt (bits : Nat) (negative : Bool) (magnitude : Nat) :
    (storeUnsigned bits negative magnitude).1.toNat < 2 ^ bits := by
  have positive : 0 < 2 ^ bits := Nat.two_pow_pos bits
  simp only [storeUnsigned]
  split
  · split
    · exact Nat.mod_lt _ positive
    · assumption
  · change ((2 : Int) ^ bits - 1).toNat < 2 ^ bits
    have cast : (2 : Int) ^ bits = ((2 ^ bits : Nat) : Int) := by push_cast; rfl
    rw [cast]
    omega

theorem Stream.readUnsigned_lt {held : Nat} (isHeld : held < 2 ^ 32) (stream : Stream) (base : Nat) :
    (stream.readUnsigned base held).1 < 2 ^ 32 := by
  simp only [Stream.readUnsigned]
  split
  · exact isHeld
  · split
    · exact isHeld
    · split
      · exact Nat.two_pow_pos 32
      · exact storeUnsigned_lt 32 _ _

theorem store_int_range (negative : Bool) (magnitude : Nat) : -2 ^ 31 ≤ (Width.int.store negative magnitude).1 ∧
      (Width.int.store negative magnitude).1 < 2 ^ 31 := by
  simp only [Width.store]
  split
  · split <;> omega
  · split <;> omega

theorem extracted_lt {text : String} (isRead : extracted .int text = some value) : value < 2 ^ 31 := by
  simp only [extracted] at isRead
  split at isRead
  · cases isRead
  · split at isRead
    · exact Option.some.inj isRead ▸ (store_int_range _ _).2
    · cases isRead

theorem extracted_blank (width : Width) (chars : List Char) :
    extracted width (String.ofList (' ' :: chars)) = extracted width (String.ofList chars) := by
  simp [extracted, isBlank]

def Spells (base number : Nat) (text : List Char) : Prop :=
  (∀ char ∈ text, isBlank char = false ∧ char ≠ '-' ∧ char ≠ '+' ∧ char ≠ 'x' ∧ char ≠ 'X') ∧
    readDigits base text none = (some number, [])

instance (base number : Nat) (text : List Char) : Decidable (Spells base number text) :=
  -- The characters of the text are looked at, not all the characters.
  have : Decidable (∀ char ∈ text, isBlank char = false ∧ char ≠ '-' ∧ char ≠ '+' ∧ char ≠ 'x' ∧ char ≠ 'X') :=
    List.decidableBAll _ _
  inferInstanceAs (Decidable (_ ∧ _))

theorem readDigits_append {rest : List Char} (read : readDigits base text sofar = (some number, []))
    (ends : ∀ char ∈ rest.head?, digitValue base char = none) :
    readDigits base (text ++ rest) sofar = (some number, rest) := by
  induction text generalizing sofar with
  | nil =>
    simp only [readDigits, Prod.mk.injEq] at read
    cases rest with
    | nil => simp [readDigits, read.1]
    | cons char rest => simp [readDigits, read.1, ends char rfl]
  | cons char text ih =>
    cases isDigit : digitValue base char with
    | none => simp [readDigits, isDigit] at read
    | some value =>
      simp only [readDigits, isDigit] at read
      simp only [List.cons_append, readDigits, isDigit]
      exact ih read

theorem Spells.ne_nil (spells : Spells base number text) : text ≠ [] := by
  rintro rfl
  have read := spells.2
  simp [readDigits] at read

theorem skipBase_plain (plain : ∀ char ∈ text.tail.head?, char ≠ 'x' ∧ char ≠ 'X') : skipBase base text = text := by
  simp only [skipBase]
  split
  · exact absurd rfl (plain 'x' rfl).1
  · exact absurd rfl (plain 'X' rfl).2
  · rfl

theorem Spells.reads {lead rest : List Char} (spells : Spells base number text)
    (blanks : ∀ char ∈ lead, isBlank char = true) (ends : ∀ char ∈ rest.head?, char = ' ') :
    ∃ first more, (lead ++ (text ++ rest)).dropWhile isBlank = first :: more ∧
      splitSign (first :: more) = (false, first :: more) ∧ skipBase base (first :: more) = first :: more ∧
      readDigits base (first :: more) none = (some number, rest) := by
  have read : readDigits base (text ++ rest) none = (some number, rest) := by
    refine readDigits_append spells.2 fun char isHead => ?_
    rw [ends char isHead]
    simp [digitValue]
  obtain ⟨first, more, isText⟩ := List.exists_cons_of_ne_nil spells.ne_nil
  obtain ⟨notBlank, notMinus, notPlus, -⟩ := spells.1 first (by simp [isText])
  have plain : ∀ char ∈ (text ++ rest).tail.head?, char ≠ 'x' ∧ char ≠ 'X' := by
    intro char isSecond
    rw [isText] at isSecond
    cases more with
    | nil =>
      rw [ends char isSecond]
      decide
    | cons second later =>
      obtain rfl : second = char := Option.some.inj isSecond
      exact (spells.1 second (by simp [isText])).2.2.2
  have chars : (lead ++ (text ++ rest)).dropWhile isBlank = first :: (more ++ rest) := by
    rw [List.dropWhile_append_of_pos blanks, isText, List.cons_append,
      List.dropWhile_cons_of_neg (by simp [notBlank])]
  have whole : first :: (more ++ rest) = text ++ rest := by rw [isText]; rfl
  refine ⟨first, more ++ rest, chars, splitSign_plain _ notMinus notPlus, ?_, ?_⟩
  · rw [whole]
    exact skipBase_plain plain
  · rw [whole]
    exact read

theorem Stream.readUnsigned_spelled {base number : Nat} {lead text rest : List Char}
    (spells : Spells base number text) (fits : number < 2 ^ 32)
    (blanks : ∀ char ∈ lead, isBlank char = true) (ends : ∀ char ∈ rest.head?, char = ' ') (held : Nat) :
    (Stream.mk (lead ++ (text ++ rest)) false).readUnsigned base held = (number, ⟨rest, false⟩) := by
  obtain ⟨first, more, chars, sign, plain, read⟩ := spells.reads blanks ends
  simp only [Stream.readUnsigned, Bool.false_eq_true, if_false, chars, sign, plain, read,
    storeUnsigned_natural fits, Int.toNat_natCast, Bool.not_true]

theorem Stream.readLong_spelled {base number : Nat} {lead text rest : List Char}
    (spells : Spells base number text) (fits : number < 2 ^ 63)
    (blanks : ∀ char ∈ lead, isBlank char = true) (ends : ∀ char ∈ rest.head?, char = ' ') (held : Int) :
    (Stream.mk (lead ++ (text ++ rest)) false).readLong base held = ((number : Int), ⟨rest, false⟩) := by
  obtain ⟨first, more, chars, sign, plain, read⟩ := spells.reads blanks ends
  simp only [Stream.readLong, Bool.false_eq_true, if_false, chars, sign, plain, read, if_pos fits]

theorem isDigit_plain (isDigit : char.isDigit = true) :
    isBlank char = false ∧ char ≠ '-' ∧ char ≠ '+' ∧ char ≠ 'x' ∧ char ≠ 'X' := by
  have notBlank : isBlank char = false := by
    refine Bool.eq_false_iff.2 fun blank => ?_
    simp only [isBlank, Bool.or_eq_true, Bool.and_eq_true, decide_eq_true_eq] at blank
    rcases blank with rfl | ⟨-, below⟩
    · revert isDigit
      decide
    · simp only [Char.isDigit, Bool.and_eq_true, decide_eq_true_eq] at isDigit
      exact absurd (Nat.le_trans isDigit.1 below) (by decide)
  refine ⟨notBlank, ?_, ?_, ?_, ?_⟩ <;> rintro rfl <;> revert isDigit <;> decide

theorem trim_toString (number : Nat) : trim (toString number) = toString number := by
  have kept : ∀ {chars : List Char}, (∀ char ∈ chars, char.isDigit = true) →
      chars.dropWhile isBlank = chars := by
    intro chars digits
    cases chars with
    | nil => rfl
    | cons char rest =>
      have notBlank := (isDigit_plain (digits char List.mem_cons_self)).1
      exact List.dropWhile_cons_of_neg (by simp [notBlank])
  have digits : ∀ char ∈ (toString number).toList, char.isDigit = true := by
    rw [show (toString number).toList = Nat.toDigits 10 number from Nat.toList_repr]
    exact fun char member => Nat.isDigit_of_mem_toDigits (by decide) (by decide) member
  rw [trim, kept digits, kept fun char member => digits char (List.mem_reverse.1 member), List.reverse_reverse,
    String.ofList_toList]

theorem spells_toDigits (number : Nat) : Spells 10 number (Nat.toDigits 10 number) :=
  ⟨fun _ member => isDigit_plain (Nat.isDigit_of_mem_toDigits (by decide) (by decide) member),
    readDigits_toDigits number⟩

theorem Stream.readUnsigned_toString {number : Nat} (fits : number < 2 ^ 32) (held : Nat) :
    ((Stream.mk (toString number).toList false).readUnsigned 10 held).1 = number := by
  have chars : (toString number).toList = [] ++ (Nat.toDigits 10 number ++ []) :=
    Nat.toList_repr.trans (List.append_nil _).symm
  rw [chars, Stream.readUnsigned_spelled (spells_toDigits number) fits (by simp) (by simp)]

end OpenNebula.Library
