import Mathlib.Data.List.TakeWhile

namespace OpenNebula.Library

/-! # Texts of Python

The readers of `str` and `int` that programs rely on, over lists of characters.
-/

namespace PyText

/-- The characters that `str.strip` removes -/
def isSpace (char : Char) : Bool :=
  let code := char.toNat
  (9 ≤ code && code ≤ 13) || (28 ≤ code && code ≤ 32) || code = 133 || code = 160 || code = 5760 ||
    (8192 ≤ code && code ≤ 8202) || code = 8232 || code = 8233 || code = 8239 || code = 8287 ||
    code = 12288

def strip (text : List Char) : List Char := ((text.dropWhile isSpace).reverse.dropWhile isSpace).reverse

theorem dropWhile_isSpace {text : List Char} (plain : ∀ char ∈ text, isSpace char = false) :
    text.dropWhile isSpace = text := by
  cases text with
  | nil => rfl
  | cons char rest => rw [List.dropWhile_cons_of_neg (by simp [plain char])]

theorem strip_eq_self {text : List Char} (plain : ∀ char ∈ text, isSpace char = false) : strip text = text := by
  have reversed : ∀ char ∈ text.reverse, isSpace char = false :=
    fun char member => plain char (List.mem_reverse.1 member)
  rw [strip, dropWhile_isSpace plain, dropWhile_isSpace reversed, List.reverse_reverse]

def rsplit (separator : Char) (text : List Char) : Option (List Char × List Char) :=
  match text.reverse.dropWhile (· ≠ separator) with
  | [] => none
  | _ :: front => some (front.reverse, (text.reverse.takeWhile (· ≠ separator)).reverse)

theorem rsplit_append {separator : Char} (front : List Char) {back : List Char} (plain : separator ∉ back) :
    rsplit separator (front ++ separator :: back) = some (front, back) := by
  have other : ∀ char ∈ back.reverse, decide (char ≠ separator) = true := by
    intro char member
    have differs : char ≠ separator := fun same => plain (same ▸ List.mem_reverse.1 member)
    exact decide_eq_true differs
  have reversed : (front ++ separator :: back).reverse = back.reverse ++ separator :: front.reverse := by simp
  unfold rsplit
  rw [reversed, List.dropWhile_append_of_pos other, List.takeWhile_append_of_pos other]
  simp

theorem rsplit_cases (separator : Char) (text : List Char) : (rsplit separator text = none ∧ separator ∉ text) ∨
      ∃ front back, text = front ++ separator :: back ∧ separator ∉ back := by
  by_cases member : separator ∈ text
  · obtain ⟨later, earlier, apart, absent⟩ :=
      List.eq_append_cons_of_mem (List.mem_reverse.2 member)
    refine .inr ⟨earlier.reverse, later.reverse, ?_, by simpa using absent⟩
    rw [← List.reverse_reverse text, apart]
    simp
  · refine .inl ⟨?_, member⟩
    have other : ∀ char ∈ text.reverse, decide (char ≠ separator) = true := by
      intro char inText
      have differs : char ≠ separator := fun same => member (same ▸ List.mem_reverse.1 inText)
      exact decide_eq_true differs
    unfold rsplit
    rw [List.dropWhile_eq_nil_iff.2 other]

/-- The characters that `int` takes for decimal digits, which depend on the version of Unicode -/
structure Decimals where
  value : Char → Option Nat
  ascii : ∀ char, char.isDigit = true → value char = some (char.toNat - '0'.toNat)
  signs : ∀ char ∈ ['_', '+', '-'], value char = none

namespace Decimals

variable (decimals : Decimals)

/-- Digits, between two of which a single underscore may stand -/
def more (number : Nat) : List Char → Option Nat
  | [] => some number
  | [char] => (decimals.value char).map fun digit => number * 10 + digit
  | char :: next :: rest =>
    match decimals.value char with
    | some digit => more (number * 10 + digit) (next :: rest)
    | none =>
      if char = '_' then
        match decimals.value next with
        | some digit => more (number * 10 + digit) rest
        | none => none
      else none

def unsigned : List Char → Option Nat
  | [] => none
  | char :: rest =>
    match decimals.value char with
    | some digit => decimals.more digit rest
    | none => none

def int (text : List Char) : Option Int :=
  match strip text with
  | '-' :: rest => (decimals.unsigned rest).map fun number => -(number : Int)
  | '+' :: rest => (decimals.unsigned rest).map Int.ofNat
  | rest => (decimals.unsigned rest).map Int.ofNat

def ofAscii : Decimals where
  value := fun char => if char.isDigit then some (char.toNat - '0'.toNat) else none
  ascii := fun _ digit => if_pos digit
  signs := List.forall_mem_cons.mpr ⟨rfl, List.forall_mem_cons.mpr ⟨rfl, List.forall_mem_singleton.mpr rfl⟩⟩

theorem more_digits (number : Nat) {text : List Char} (digits : ∀ char ∈ text, char.isDigit = true) :
    decimals.more number text = some (Nat.ofDigitChars 10 text number) := by
  induction text generalizing number with
  | nil => rfl
  | cons char rest hypothesis =>
    have value := decimals.ascii char (digits char (by simp))
    have later := hypothesis (number * 10 + (char.toNat - '0'.toNat))
      fun other member => digits other (List.mem_cons_of_mem _ member)
    rw [Nat.ofDigitChars_cons, Nat.mul_comm 10]
    cases rest with
    | nil => simp [more, value, Nat.ofDigitChars_nil]
    | cons next rest =>
      simp only [more, value]
      exact later

theorem unsigned_digits {text : List Char} (nonempty : text ≠ []) (digits : ∀ char ∈ text, char.isDigit = true) :
    decimals.unsigned text = some (Nat.ofDigitChars 10 text 0) := by
  cases text with
  | nil => exact absurd rfl nonempty
  | cons char rest =>
    have value := decimals.ascii char (digits char (by simp))
    simp only [unsigned, value, Nat.ofDigitChars_cons, Nat.mul_zero, Nat.zero_add]
    exact decimals.more_digits _ fun other member => digits other (List.mem_cons_of_mem _ member)

end Decimals

def str : Int → List Char
  | .ofNat number => Nat.toDigits 10 number
  | .negSucc number => '-' :: Nat.toDigits 10 (number + 1)

theorem isDigit_of_mem {number : Nat} {char : Char} (member : char ∈ Nat.toDigits 10 number) :
    char.isDigit = true := Nat.isDigit_of_mem_toDigits (by decide) (by decide) member

theorem isSpace_of_isDigit {char : Char} (digit : char.isDigit = true) : isSpace char = false := by
  have bounds := Char.isDigit_iff_toNat.1 digit
  have low : '0'.toNat = 48 := rfl
  have high : '9'.toNat = 57 := rfl
  simp only [isSpace, Bool.or_eq_false_iff, Bool.and_eq_false_iff, decide_eq_false_iff_not]
  omega

theorem Decimals.int_str (decimals : Decimals) (number : Int) : decimals.int (str number) = some number := by
  have read : ∀ number, decimals.unsigned (Nat.toDigits 10 number) = some number := by
    intro number
    rw [decimals.unsigned_digits Nat.toDigits_ne_nil fun char => isDigit_of_mem, Nat.ofDigitChars_ten_toDigits]
  have plain : ∀ number, ∀ char ∈ Nat.toDigits 10 number, isSpace char = false :=
    fun number char member => isSpace_of_isDigit (isDigit_of_mem member)
  cases number with
  | ofNat number =>
    have value := read number
    unfold str int
    rw [strip_eq_self (plain number)]
    split
    next rest text =>
      rw [text] at value
      simp [unsigned, decimals.signs] at value
    next rest text =>
      rw [text] at value
      simp [unsigned, decimals.signs] at value
    next => rw [value]; rfl
  | negSucc number =>
    have unstripped : ∀ char ∈ '-' :: Nat.toDigits 10 (number + 1), isSpace char = false :=
      List.forall_mem_cons.2 ⟨by decide, plain (number + 1)⟩
    unfold str int
    rw [strip_eq_self unstripped]
    simp only [read]
    rfl

end PyText

end OpenNebula.Library
