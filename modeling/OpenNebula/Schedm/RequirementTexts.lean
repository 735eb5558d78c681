import OpenNebula.Schedm.Requirements
import Mathlib.Data.List.Induction
import Mathlib.Data.List.TakeWhile

namespace OpenNebula.Schedm

open Library Parsers

/-! # Texts the scheduler adds

The texts that the scheduler writes have no quote and evaluate on every object.  Such a text,
once it is added, has to hold for the whole to hold, whatever the text before it is.
-/

variable {object : Object} {front back : List Token}

structure Evaluates (text : String) (value : Object → Bool) : Prop where
  unquoted : '"' ∉ text.toList
  tokens : lex text.toList ≠ []
  isValue : ∀ object, evalBool object text = some (value object)

structure Narrows (wide text : String) : Prop where
  holds : ∀ object, evalBool object text = some true → evalBool object wide = some true
  within : wide.toList <:+: text.toList

theorem Narrows.refl (text : String) : Narrows text text := ⟨fun _ => id, List.infix_rfl⟩

variable {text : String} {value : Object → Bool} {number : Nat}

theorem Narrows.trans {wide middle : String} (first : Narrows wide middle) (second : Narrows middle text) :
    Narrows wide text :=
  ⟨fun object holds => first.holds object (second.holds object holds), first.within.trans second.within⟩

theorem reduceWith_shape (value : Bool) (stack : List Symbol) :
    ∃ result rest, reduceWith value stack = .expr result :: rest ∧ ¬Reduces rest := by
  induction value, stack using reduceWith.induct with
  | case1 value rest ih | case2 value left rest ih | case3 value left rest ih => simpa only [reduceWith] using ih
  | case4 value rest notNot notAnd notOr =>
    have stops : ¬Reduces rest := by
      intro reduces
      unfold Reduces at reduces
      split at reduces
      · exact notNot _ rfl
      · exact notAnd _ _ rfl
      · exact notOr _ _ rfl
      · exact reduces
    exact ⟨value, rest, reduceWith_of_not_reduces stops value, stops⟩

theorem parseFrom_paren (stack : List Symbol) {value : Bool}
    (opens : shift object stack (.symbol '(') = some (.paren :: stack)) (nonempty : back ≠ [])
    (accepted : (parseFrom object [] back).bind accept = some value) :
    parseFrom object stack (.symbol '(' :: (back ++ [.symbol ')'])) = some (.expr value :: stack) := by
  obtain ⟨last, rest, parsed, isReduced⟩ := accepted_stack nonempty accepted
  have inside : parseFrom object ([] ++ .paren :: stack) back =
      some (.expr last :: rest ++ .paren :: stack) := parseFrom_append parsed
  simp only [parseFrom, List.nil_append, List.cons_append] at inside
  rw [parseFrom, List.foldlM_cons, opens, Option.bind_eq_bind, Option.bind_some, List.foldlM_append,
    inside, Option.bind_eq_bind, Option.bind_some, List.foldlM_cons]
  simp only [shift, afterExpr, reduceWith_append, isReduced, List.cons_append, List.nil_append]
  rfl

theorem joined_holds {value : Bool} (nonempty : back ≠ [])
    (accepted : (parseFrom object [] back).bind accept = some value)
    (holds : (parseFrom object [] (joined front back)).bind accept = some true) :
    (parseFrom object [] front).bind accept = some true ∧ value = true := by
  rw [joined, parseFrom, List.foldlM_append] at holds
  cases parsed : parseFrom object [] front with
  | none =>
    rw [← parseFrom, parsed] at holds
    cases holds
  | some stack =>
    rw [← parseFrom, parsed, Option.bind_eq_bind, Option.bind_some, List.foldlM_cons] at holds
    cases stack with
    | nil => cases holds
    | cons top rest =>
      cases top with
      | expr last =>
        have opened : parseFrom object (.and :: reduceWith last rest) _ = _ := parseFrom_paren _ rfl nonempty accepted
        rw [parseFrom] at opened
        simp only [shift, afterExpr, Option.bind_eq_bind, Option.bind_some, opened, accept] at holds
        obtain ⟨result, below, isShape, stops⟩ := reduceWith_shape last rest
        rw [isShape] at holds
        simp only [reduceWith, reduceWith_of_not_reduces stops] at holds
        split at holds
        · rename_i isOne
          cases isOne
          simp only [Option.some.injEq, Bool.and_eq_true] at holds
          simp only [Option.bind_some, accept, isShape, holds.1]
          exact ⟨trivial, holds.2⟩
        · cases holds
      | _ => cases holds

theorem Evaluates.added {added : String} (evaluates : Evaluates added value) (text : String) :
    Narrows text (addRequirements text added) ∧ Narrows added (addRequirements text added) := by
  have nonempty : added ≠ "" := by
    rintro rfl
    exact evaluates.tokens rfl
  by_cases none : text = ""
  · subst none
    rw [addRequirements, if_neg nonempty, if_pos rfl]
    exact ⟨⟨fun _ _ => evalBool_empty, ⟨[], _, rfl⟩⟩, .refl added⟩
  · have holdsBoth : ∀ object, evalBool object (addRequirements text added) = some true →
        evalBool object text = some true ∧ value object = true := by
      intro object holds
      rw [evalBool, lex_addRequirements none nonempty (.inr evaluates.unquoted)] at holds
      exact joined_holds evaluates.tokens (evaluates.isValue object) holds
    have chars : (addRequirements text added).toList =
        text.toList ++ (" & (".toList ++ added.toList ++ ")".toList) := by
      rw [addRequirements, if_neg nonempty, if_neg none]
      simp only [String.toList_append, List.append_assoc]
    refine ⟨⟨fun object holds => (holdsBoth object holds).1, ?_⟩, ⟨fun object holds => ?_, ?_⟩⟩
    · rw [chars]
      exact List.infix_append' [] _ _
    · rw [evaluates.isValue, (holdsBoth object holds).2]
    · rw [chars, ← List.append_assoc, ← List.append_assoc]
      exact List.infix_append _ _ _

theorem lex_digits (fits : number < 2 ^ 31) : lex (Nat.toDigits 10 number) = [.integer number] := by
  have digits : ∀ char ∈ Nat.toDigits 10 number, char.isDigit = true :=
    fun char member => Nat.isDigit_of_mem_toDigits (by decide) (by decide) member
  have value : atoi false (Nat.toDigits 10 number) = number := by
    simp only [atoi, readDigits_toDigits, Option.getD_some, Bool.false_eq_true, if_false]
    rw [min_eq_right (by omega), Int.bmod_eq_of_le (by omega) (by omega)]
  cases isText : Nat.toDigits 10 number with
  | nil => exact absurd isText Nat.toDigits_ne_nil
  | cons char rest =>
    rw [isText] at digits value
    have isDigit := digits char List.mem_cons_self
    have notAlpha : char.isAlpha = false := by
      cases alpha : char.isAlpha with
      | false => rfl
      | true =>
        have letters : (decide ('A'.val ≤ char.val ∧ char.val ≤ 'Z'.val) ||
            (decide ('a'.val ≤ char.val) && decide (char.val ≤ 'z'.val))) = true := alpha
        simp only [Char.isDigit, Bool.or_eq_true, Bool.and_eq_true, decide_eq_true_eq]
          at letters isDigit
        obtain ⟨-, high⟩ := isDigit
        rcases letters with ⟨low, -⟩ | ⟨low, -⟩ <;>
          exact absurd (UInt32.le_trans low high) (by decide)
    have whole : (char :: rest).takeWhile Char.isDigit = char :: rest := List.takeWhile_eq_self_iff.2 digits
    have nothing : (char :: rest).dropWhile Char.isDigit = [] := List.dropWhile_eq_nil_iff.2 digits
    rw [lex_cons, lexOne, if_neg (by simp [notAlpha]), if_pos isDigit, lexNumber, whole, nothing, value]
    rfl

theorem digits_unquoted (number : Nat) : '"' ∉ Nat.toDigits 10 number := by
  intro member
  exact absurd (Nat.isDigit_of_mem_toDigits (by decide) (by decide) member) (by decide)

theorem evaluates_currentVms {op : String} {relation : Relation}
    (isOp : op = "=" ∧ relation = .eq ∨ op = "!=" ∧ relation = .ne) (fits : number < 2 ^ 31) :
    Evaluates ("CURRENT_VMS " ++ op ++ " " ++ toString number)
      fun object => object "CURRENT_VMS" relation (.integer number) := by
  have chars : ("CURRENT_VMS " ++ op ++ " " ++ toString number).toList =
      ("CURRENT_VMS " ++ op).toList ++ ' ' :: Nat.toDigits 10 number := by
    simp [String.toList_append]
  have split : lex ("CURRENT_VMS " ++ op ++ " " ++ toString number).toList =
      lex ("CURRENT_VMS " ++ op).toList ++ [.integer number] := by
    rw [chars, lex_append stops_blank (.inr (digits_unquoted number)), lex_blank, lex_digits fits]
  rcases isOp with ⟨rfl, rfl⟩ | ⟨rfl, rfl⟩
  · have first : lex ("CURRENT_VMS " ++ "=").toList = [.string "CURRENT_VMS", .symbol '='] := by
      decide
    rw [first] at split
    refine ⟨?_, by rw [split]; simp, fun object => by rw [evalBool, split]; rfl⟩
    rw [chars]
    simp [digits_unquoted]
  · have first : lex ("CURRENT_VMS " ++ "!=").toList =
        [.string "CURRENT_VMS", .symbol '!', .symbol '='] := by
      decide
    rw [first] at split
    refine ⟨?_, by rw [split]; simp, fun object => by rw [evalBool, split]; rfl⟩
    rw [chars]
    simp [digits_unquoted]

theorem evaluates_host {op : String} {relation : Relation}
    (isOp : op = "=" ∧ relation = .eq ∨ op = "!=" ∧ relation = .ne) (fits : number < 2 ^ 31) :
    Evaluates ("ID" ++ op ++ toString number) fun object => object "ID" relation (.integer number) := by
  rcases isOp with ⟨rfl, rfl⟩ | ⟨rfl, rfl⟩
  · have chars : ("ID" ++ "=" ++ toString number).toList = 'I' :: 'D' :: '=' :: Nat.toDigits 10 number := by
      simp [String.toList_append]
    have split : lex ("ID" ++ "=" ++ toString number).toList =
        [.string "ID", .symbol '=', .integer number] := by
      rw [chars, lex_cons]
      change Token.string "ID" :: lex ('=' :: Nat.toDigits 10 number) = _
      rw [lex_cons]
      change Token.string "ID" :: Token.symbol '=' :: lex (Nat.toDigits 10 number) = _
      rw [lex_digits fits]
    refine ⟨?_, by rw [split]; simp, fun object => by rw [evalBool, split]; rfl⟩
    rw [chars]
    simp [digits_unquoted]
  · have chars : ("ID" ++ "!=" ++ toString number).toList =
        'I' :: 'D' :: '!' :: '=' :: Nat.toDigits 10 number := by
      simp [String.toList_append]
    have split : lex ("ID" ++ "!=" ++ toString number).toList =
        [.string "ID", .symbol '!', .symbol '=', .integer number] := by
      rw [chars, lex_cons]
      change Token.string "ID" :: lex ('!' :: '=' :: Nat.toDigits 10 number) = _
      rw [lex_cons]
      change Token.string "ID" :: Token.symbol '!' :: lex ('=' :: Nat.toDigits 10 number) = _
      rw [lex_cons]
      change Token.string "ID" :: Token.symbol '!' :: Token.symbol '=' :: lex (Nat.toDigits 10 number) = _
      rw [lex_digits fits]
    refine ⟨?_, by rw [split]; simp, fun object => by rw [evalBool, split]; rfl⟩
    rw [chars]
    simp [digits_unquoted]

def joinTerms (sep : String) (terms : List String) : String :=
  terms.foldl (fun text term => (if text = "" then "" else text ++ sep) ++ term) ""

theorem joinTerms_snoc (sep : String) (terms : List String) (term : String) : joinTerms sep (terms ++ [term]) =
      (if joinTerms sep terms = "" then "" else joinTerms sep terms ++ sep) ++ term := by
  rw [joinTerms, List.foldl_append]
  rfl

theorem Evaluates.nonempty (evaluates : Evaluates text value) : text ≠ "" := by
  rintro rfl
  exact evaluates.tokens rfl

theorem Evaluates.paren (evaluates : Evaluates text value) : Evaluates ("(" ++ text ++ ")") value := by
  have chars : ("(" ++ text ++ ")").toList = '(' :: (text.toList ++ [')']) := by
    simp [String.toList_append]
  have tokens : lex ("(" ++ text ++ ")").toList =
      .symbol '(' :: (lex text.toList ++ [.symbol ')']) := by
    rw [chars, lex_symbol (by simp), lex_append stops_paren (.inr (by simp)), lex_symbol (by simp)]
    rfl
  refine ⟨?_, by rw [tokens]; simp, fun object => ?_⟩
  · rw [chars]
    simp [evaluates.unquoted]
  · rw [evalBool, tokens, parseFrom_paren [] rfl evaluates.tokens (evaluates.isValue object)]
    rfl

theorem evalBool_operator {op : Symbol} {char : Char} {stack : List Symbol} {left right : Bool}
    (isOp : op = .and ∧ char = '&' ∨ op = .or ∧ char = '|') (frontNonempty : front ≠ [])
    (backNonempty : back ≠ []) (frontAccepted : (parseFrom object [] front).bind accept = some left)
    (backAccepted : (parseFrom object [] back).bind accept = some right)
    (isStack : stack = reduceWith right [op, .expr left]) :
    (parseFrom object [] (front ++ .symbol char :: .symbol '(' :: (back ++ [.symbol ')']))).bind accept =
      accept stack := by
  obtain ⟨last, rest, parsed, isReduced⟩ := accepted_stack frontNonempty frontAccepted
  simp only [parseFrom] at parsed
  rw [parseFrom, List.foldlM_append, parsed, Option.bind_eq_bind, Option.bind_some, List.foldlM_cons]
  subst isStack
  rcases isOp with ⟨rfl, rfl⟩ | ⟨rfl, rfl⟩
  · have inside := parseFrom_paren [.and, .expr left] rfl backNonempty backAccepted
    rw [parseFrom] at inside
    simp only [shift, afterExpr, isReduced, Option.bind_eq_bind, Option.bind_some, inside]
    rfl
  · have inside := parseFrom_paren [.or, .expr left] rfl backNonempty backAccepted
    rw [parseFrom] at inside
    simp only [shift, afterExpr, isReduced, Option.bind_eq_bind, Option.bind_some, inside]
    rfl

theorem lex_operator {char : Char} (isOp : char = '&' ∨ char = '|') (front : List Char) {back : List Char}
    (unquoted : '"' ∉ back) :
    lex (front ++ ' ' :: char :: ' ' :: '(' :: (back ++ [')'])) =
      lex front ++ .symbol char :: .symbol '(' :: (lex back ++ [.symbol ')']) := by
  have symbol : ∀ rest, lex (char :: rest) = .symbol char :: lex rest := by
    intro rest
    rw [lex_cons]
    rcases isOp with rfl | rfl <;> rfl
  have notQuote : '"' ≠ char := by
    rcases isOp with rfl | rfl <;> decide
  rw [lex_append stops_blank (.inr (by simp [unquoted, notQuote])), lex_blank, symbol, lex_blank,
    lex_symbol (by simp), lex_append stops_paren (.inr (by simp)), lex_symbol (by simp)]
  rfl

theorem evaluates_joinTerms {sep : String} {combine : Bool → Bool → Bool}
    (isSep : sep = " & " ∧ combine = and ∨ sep = " | " ∧ combine = or) (first : String × (Object → Bool))
    (rest : List (String × (Object → Bool))) (evaluates : ∀ term ∈ first :: rest, Evaluates term.1 term.2) :
    Evaluates (joinTerms sep ((first :: rest).map fun term => "(" ++ term.1 ++ ")"))
      fun object => rest.foldl (fun value term => combine value (term.2 object)) (first.2 object) := by
  induction rest using List.reverseRecOn with
  | nil =>
    have single := (evaluates first List.mem_cons_self).paren
    simpa [joinTerms] using single
  | append_singleton rest last ih =>
    have before := ih fun term member => evaluates term (by
      rcases List.mem_cons.1 member with same | member
      · simp [same]
      · simp [member])
    have after := evaluates last (by simp)
    have split : (first :: (rest ++ [last])).map (fun term => "(" ++ term.1 ++ ")") =
        ((first :: rest).map fun term => "(" ++ term.1 ++ ")") ++ ["(" ++ last.1 ++ ")"] := by
      simp
    have text : joinTerms sep ((first :: (rest ++ [last])).map fun term => "(" ++ term.1 ++ ")") =
        joinTerms sep ((first :: rest).map fun term => "(" ++ term.1 ++ ")") ++ sep ++
          ("(" ++ last.1 ++ ")") := by
      rw [split, joinTerms_snoc, if_neg before.nonempty]
    have unquoted : ∀ char, (char = '&' ∨ char = '|') → ∀ front : List Char, '"' ∉ front →
        '"' ∉ front ++ ' ' :: char :: ' ' :: '(' :: (last.1.toList ++ [')']) := by
      intro char isOp front notFront
      rcases isOp with rfl | rfl <;> simp [notFront, after.unquoted]
    generalize joinTerms sep ((first :: rest).map fun term => "(" ++ term.1 ++ ")") = front at before text
    have value : ∀ object, (rest ++ [last]).foldl (fun value term => combine value (term.2 object))
        (first.2 object) =
        combine (rest.foldl (fun value term => combine value (term.2 object)) (first.2 object))
          (last.2 object) := by
      intro object
      rw [List.foldl_append]
      rfl
    rw [text]
    rcases isSep with ⟨rfl, rfl⟩ | ⟨rfl, rfl⟩
    · have chars : (front ++ " & " ++ ("(" ++ last.1 ++ ")")).toList =
          front.toList ++ ' ' :: '&' :: ' ' :: '(' :: (last.1.toList ++ [')']) := by
        simp [String.toList_append]
      have tokens := lex_operator (.inl rfl) front.toList after.unquoted
      refine ⟨?_, ?_, fun object => ?_⟩
      · rw [chars]
        exact unquoted '&' (.inl rfl) _ before.unquoted
      · rw [chars, tokens]
        simp
      · rw [value, evalBool, chars, tokens]
        exact evalBool_operator (.inl ⟨rfl, rfl⟩) before.tokens after.tokens (before.isValue object)
          (after.isValue object) rfl
    · have chars : (front ++ " | " ++ ("(" ++ last.1 ++ ")")).toList =
          front.toList ++ ' ' :: '|' :: ' ' :: '(' :: (last.1.toList ++ [')']) := by
        simp [String.toList_append]
      have tokens := lex_operator (.inr rfl) front.toList after.unquoted
      refine ⟨?_, ?_, fun object => ?_⟩
      · rw [chars]
        exact unquoted '|' (.inr rfl) _ before.unquoted
      · rw [chars, tokens]
        simp
      · rw [value, evalBool, chars, tokens]
        exact evalBool_operator (.inr ⟨rfl, rfl⟩) before.tokens after.tokens (before.isValue object)
          (after.isValue object) rfl

end OpenNebula.Schedm
