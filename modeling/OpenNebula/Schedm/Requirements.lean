import OpenNebula.Parsers.ExprBool

namespace OpenNebula.Schedm

open Parsers

/-! # Requirements

Two expressions are joined as texts.  An operator outside the parentheses that are opened for
the second one reaches the first one, and a quote may be closed in the other text.
-/

def buildRequirements (automatic requirements : String) : String :=
  if requirements ≠ "" then
    if automatic ≠ "" then automatic ++ " & ( " ++ requirements ++ " )" else requirements
  else automatic

def addRequirements (requirements added : String) : String :=
  if added = "" then requirements
  else if requirements = "" then added
  else requirements ++ (" & (" ++ added ++ ")")

variable {object : Object} {stack below : List Symbol} {tokens : List Token} {value : Bool}

/-- An operator with the operand before it -/
def Reduces : List Symbol → Prop
  | .not :: _ | .and :: .expr _ :: _ | .or :: .expr _ :: _ => True
  | _ => False

theorem reduceWith_of_not_reduces (stops : ¬Reduces stack) (value : Bool) :
    reduceWith value stack = .expr value :: stack := by
  unfold reduceWith
  split
  · exact absurd trivial stops
  · exact absurd trivial stops
  · exact absurd trivial stops
  · rfl

theorem reduces_append : Reduces (stack ++ .paren :: below) ↔ Reduces stack := by
  cases stack with
  | nil => rfl
  | cons first rest =>
    cases first with
    | and | or =>
      cases rest with
      | nil => rfl
      | cons second rest => cases second <;> rfl
    | _ => rfl

theorem reduceWith_append (value : Bool) (stack below : List Symbol) :
    reduceWith value (stack ++ .paren :: below) = reduceWith value stack ++ .paren :: below := by
  induction value, stack using reduceWith.induct with
  | case1 value rest ih | case2 value left rest ih | case3 value left rest ih =>
    simpa only [List.cons_append, reduceWith] using ih
  | case4 value rest notNot notAnd notOr =>
    have stops : ¬Reduces rest := by
      intro reduces
      unfold Reduces at reduces
      split at reduces
      · exact notNot _ rfl
      · exact notAnd _ _ rfl
      · exact notOr _ _ rfl
      · exact reduces
    rw [reduceWith_of_not_reduces stops, reduceWith_of_not_reduces (mt reduces_append.1 stops)]
    rfl

variable {token : Token} {after rest : List Symbol} {requirements : String} {front back : List Token}
  {current : Bool}

theorem shift_append (shifted : shift object stack token = some after) :
    shift object (stack ++ .paren :: below) token = some (after ++ .paren :: below) := by
  cases stack with
  | nil =>
    simp only [shift, List.nil_append] at shifted ⊢
    unfold operand at shifted ⊢
    split at shifted <;> cases shifted <;> rfl
  | cons top rest =>
    cases top with
    | name name =>
      simp only [shift, List.cons_append] at shifted ⊢
      obtain ⟨symbol, isSymbol, rfl⟩ := Option.map_eq_some_iff.1 shifted
      rw [isSymbol]
      rfl
    | nameNot name =>
      simp only [shift, List.cons_append] at shifted ⊢
      split at shifted
      · rename_i isEqual
        cases shifted
        rw [if_pos isEqual]
        rfl
      · contradiction
    | nameAt name =>
      simp only [shift, List.cons_append] at shifted ⊢
      split at shifted
      · rename_i isGreater
        cases shifted
        rw [if_pos isGreater]
        rfl
      · contradiction
    | relation name relation =>
      simp only [shift, List.cons_append] at shifted ⊢
      obtain ⟨value, isValue, rfl⟩ := Option.map_eq_some_iff.1 shifted
      rw [isValue]
      rfl
    | expr value =>
      simp only [shift, List.cons_append] at shifted ⊢
      unfold afterExpr at shifted ⊢
      split at shifted
      · cases shifted
        rw [reduceWith_append]
        rfl
      · cases shifted
        rw [reduceWith_append]
        rfl
      · rw [reduceWith_append]
        split at shifted
        · rename_i isClosed
          cases shifted
          rw [isClosed]
          rfl
        · contradiction
      · contradiction
    | and | or | not | paren =>
      simp only [shift, List.cons_append] at shifted ⊢
      unfold operand at shifted ⊢
      split at shifted <;> cases shifted <;> rfl

theorem parseFrom_append (parsed : parseFrom object stack tokens = some after) :
    parseFrom object (stack ++ .paren :: below) tokens = some (after ++ .paren :: below) := by
  induction tokens generalizing stack with
  | nil =>
    cases parsed
    rfl
  | cons token rest ih =>
    simp only [parseFrom, List.foldlM_cons] at parsed ⊢
    obtain ⟨next, isNext, later⟩ := Option.bind_eq_some_iff.1 parsed
    rw [shift_append isNext]
    exact ih later

theorem shift_ne_nil (shifted : shift object stack token = some after) : after ≠ [] := by
  unfold shift at shifted
  split at shifted
  · obtain ⟨symbol, -, rfl⟩ := Option.map_eq_some_iff.1 shifted
    simp
  · split at shifted <;> cases shifted
    simp
  · split at shifted <;> cases shifted
    simp
  · obtain ⟨value, -, rfl⟩ := Option.map_eq_some_iff.1 shifted
    simp
  · unfold afterExpr at shifted
    split at shifted
    · cases shifted
      simp
    · cases shifted
      simp
    · split at shifted <;> cases shifted
      simp
    · contradiction
  · unfold operand at shifted
    split at shifted <;> cases shifted <;> simp

theorem parseFrom_keeps (nonempty : stack ≠ []) (parsed : parseFrom object stack tokens = some after) :
    after ≠ [] := by
  induction tokens generalizing stack with
  | nil =>
    cases parsed
    exact nonempty
  | cons token rest ih =>
    simp only [parseFrom, List.foldlM_cons] at parsed
    obtain ⟨next, isNext, later⟩ := Option.bind_eq_some_iff.1 parsed
    exact ih (shift_ne_nil isNext) later

theorem parseFrom_ne_nil (nonempty : tokens ≠ []) (parsed : parseFrom object stack tokens = some after) :
    after ≠ [] := by
  obtain ⟨token, rest, rfl⟩ := List.exists_cons_of_ne_nil nonempty
  simp only [parseFrom, List.foldlM_cons] at parsed
  obtain ⟨next, isNext, later⟩ := Option.bind_eq_some_iff.1 parsed
  exact parseFrom_keeps (shift_ne_nil isNext) later

theorem accepted_stack (nonempty : tokens ≠ []) (accepted : (parseFrom object [] tokens).bind accept = some value) :
    ∃ last rest, parseFrom object [] tokens = some (.expr last :: rest) ∧ reduceWith last rest = [.expr value] := by
  obtain ⟨stack, parsed, isValue⟩ := Option.bind_eq_some_iff.1 accepted
  unfold accept at isValue
  split at isValue
  · exact absurd rfl (parseFrom_ne_nil nonempty parsed)
  · rename_i last rest
    refine ⟨last, rest, parsed, ?_⟩
    split at isValue
    · rename_i isReduced
      cases isValue
      exact isReduced
    · contradiction
  · contradiction

theorem stops_blank : Stops ' ' := by
  constructor <;> decide

theorem stops_paren : Stops ')' := by
  constructor <;> decide

def joined (front back : List Token) : List Token :=
  front ++ .symbol '&' :: .symbol '(' :: (back ++ [.symbol ')'])

theorem lex_blank (rest : List Char) : lex (' ' :: rest) = lex rest := by
  rw [lex_cons]
  rfl

theorem lex_symbol {char : Char} (isSymbol : char ∈ ['&', '(', ')']) (rest : List Char) :
    lex (char :: rest) = .symbol char :: lex rest := by
  rw [lex_cons]
  simp only [List.mem_cons, List.not_mem_nil, or_false] at isSymbol
  rcases isSymbol with rfl | rfl | rfl <;> rfl

theorem lex_joined {front back : List Char} {rest : List Char} (apart : QuotesApart front back)
    (rests : rest = ' ' :: (back ++ ' ' :: [')']) ∨ rest = back ++ ')' :: []) :
    lex (front ++ ' ' :: '&' :: ' ' :: '(' :: rest) = joined (lex front) (lex back) := by
  have after : QuotesApart front ('&' :: ' ' :: '(' :: rest) := by
    refine apart.imp id fun unquoted inside => unquoted ?_
    rcases rests with rfl | rfl <;> simpa using inside
  have closing : lex rest = lex back ++ [.symbol ')'] := by
    rcases rests with rfl | rfl
    · rw [lex_blank, lex_append stops_blank (.inr (by simp)), lex_blank, lex_symbol (by simp)]
      rfl
    · rw [lex_append stops_paren (.inr (by simp)), lex_symbol (by simp)]
      rfl
  rw [lex_append stops_blank after, lex_blank, lex_symbol (by simp), lex_blank, lex_symbol (by simp), closing]
  rfl

theorem lex_buildRequirements {automatic : String} (given : requirements ≠ "") (nonempty : automatic ≠ "")
    (apart : QuotesApart automatic.toList requirements.toList) :
    lex (buildRequirements automatic requirements).toList =
      joined (lex automatic.toList) (lex requirements.toList) := by
  rw [← lex_joined apart (.inl rfl), buildRequirements, if_pos given, if_pos nonempty]
  simp only [String.toList_append, List.append_assoc]
  rfl

theorem lex_addRequirements {added : String} (given : requirements ≠ "") (nonempty : added ≠ "")
    (apart : QuotesApart requirements.toList added.toList) : lex (addRequirements requirements added).toList =
      joined (lex requirements.toList) (lex added.toList) := by
  rw [← lex_joined apart (.inr rfl), addRequirements, if_neg nonempty, if_neg given]
  simp only [String.toList_append, List.append_assoc]
  rfl

theorem parseFrom_joined (nonempty : front ≠ []) (accepted : (parseFrom object [] front).bind accept = some value) :
    parseFrom object [] (joined front back) = (parseFrom object [.paren, .and, .expr value] back).bind fun stack =>
        shift object stack (.symbol ')') := by
  obtain ⟨last, rest, parsed, isReduced⟩ := accepted_stack nonempty accepted
  simp only [parseFrom] at parsed
  rw [joined, parseFrom, List.foldlM_append, parsed, Option.bind_eq_bind, Option.bind_some, List.foldlM_cons]
  simp only [shift, afterExpr, isReduced, Option.bind_eq_bind, Option.bind_some, List.foldlM_cons,
    operand, List.foldlM_append, List.foldlM_nil, parseFrom]
  congr 1
  funext stack
  exact Option.bind_fun_some _

theorem evalBool_joined {left right : Bool} (frontNonempty : front ≠ []) (backNonempty : back ≠ [])
    (frontAccepted : (parseFrom object [] front).bind accept = some left)
    (backAccepted : (parseFrom object [] back).bind accept = some right) :
    (parseFrom object [] (joined front back)).bind accept = some (left && right) := by
  obtain ⟨last, rest, parsed, isReduced⟩ := accepted_stack backNonempty backAccepted
  have inside : parseFrom object [.paren, .and, .expr left] back =
      some (.expr last :: rest ++ .paren :: [.and, .expr left]) := parseFrom_append parsed
  rw [parseFrom_joined frontNonempty frontAccepted, inside, Option.bind_some]
  simp only [List.cons_append, shift, afterExpr, reduceWith_append, isReduced, List.nil_append,
    Option.bind_some, accept, reduceWith]

/-- No `|` stands outside the parentheses, of which this many are open. -/
def noOrOutside : Nat → List Token → Bool
  | _, [] => true
  | depth, .symbol '(' :: rest => noOrOutside (depth + 1) rest
  | depth, .symbol ')' :: rest => noOrOutside (depth - 1) rest
  | depth, .symbol '|' :: rest => depth ≠ 0 && noOrOutside depth rest
  | depth, _ :: rest => noOrOutside depth rest

/-- At the bottom stands an expression that implies the value, alone or under a conjunction. -/
def Guarded (value : Bool) (stack : List Symbol) : Prop :=
  ∃ bottom : Bool, (bottom = true → value = true) ∧
    (stack = [.expr bottom] ∨ [.and, .expr bottom] <:+ stack)

theorem guarded_reduceWith
    (guarded : (stack = [] ∧ (current = true → value = true)) ∨
      ∃ bottom : Bool, (bottom = true → value = true) ∧ [.and, .expr bottom] <:+ stack) :
    Guarded value (reduceWith current stack) ∧ (reduceWith current stack).count .paren = stack.count .paren := by
  induction current, stack using reduceWith.induct with
  | case1 current rest ih =>
    obtain ⟨bottom, implies, suffix⟩ := guarded.resolve_left (by simp)
    have inside : [.and, .expr bottom] <:+ rest := by
      rcases List.suffix_cons_iff.1 suffix with same | inside
      · cases same
      · exact inside
    rw [reduceWith, List.count_cons_of_ne (by decide)]
    exact ih (.inr ⟨bottom, implies, inside⟩)
  | case2 current left rest ih =>
    obtain ⟨bottom, implies, suffix⟩ := guarded.resolve_left (by simp)
    rw [reduceWith, List.count_cons_of_ne (by decide), List.count_cons_of_ne (by simp)]
    refine ih ?_
    rcases List.suffix_cons_iff.1 suffix with same | inside
    · cases same
      refine .inl ⟨rfl, fun both => implies ?_⟩
      simp only [Bool.and_eq_true] at both
      exact both.1
    · rcases List.suffix_cons_iff.1 inside with same | inside
      · cases same
      · exact .inr ⟨bottom, implies, inside⟩
  | case3 current left rest ih =>
    obtain ⟨bottom, implies, suffix⟩ := guarded.resolve_left (by simp)
    rw [reduceWith, List.count_cons_of_ne (by decide), List.count_cons_of_ne (by simp)]
    refine ih (.inr ⟨bottom, implies, ?_⟩)
    rcases List.suffix_cons_iff.1 suffix with same | inside
    · cases same
    · rcases List.suffix_cons_iff.1 inside with same | inside
      · cases same
      · exact inside
  | case4 current rest notNot notAnd notOr =>
    have stops : reduceWith current rest = .expr current :: rest := by
      unfold reduceWith
      split
      · exact absurd rfl (notNot _)
      · exact absurd rfl (notAnd _ _)
      · exact absurd rfl (notOr _ _)
      · rfl
    rw [stops, List.count_cons_of_ne (by simp)]
    refine ⟨?_, rfl⟩
    rcases guarded with ⟨rfl, implies⟩ | ⟨bottom, implies, suffix⟩
    · exact ⟨current, implies, .inl rfl⟩
    · exact ⟨bottom, implies, .inr (suffix.trans (List.suffix_cons _ _))⟩

theorem Guarded.under {top : Symbol} (guarded : Guarded value (top :: rest))
    (notExpr : ∀ current, top ≠ .expr current) (notAnd : top ≠ .and) :
    ∃ bottom : Bool, (bottom = true → value = true) ∧ [.and, .expr bottom] <:+ rest := by
  obtain ⟨bottom, implies, same | suffix⟩ := guarded
  · cases same
    exact absurd rfl (notExpr bottom)
  · rcases List.suffix_cons_iff.1 suffix with same | inside
    · cases same
      exact absurd rfl notAnd
    · exact ⟨bottom, implies, inside⟩

theorem Guarded.bottom (guarded : Guarded value (.expr current :: rest)) :
    (rest = [] ∧ (current = true → value = true)) ∨
      ∃ bottom : Bool, (bottom = true → value = true) ∧ [.and, .expr bottom] <:+ rest := by
  obtain ⟨bottom, implies, same | suffix⟩ := guarded
  · cases same
    exact .inl ⟨rfl, implies⟩
  · rcases List.suffix_cons_iff.1 suffix with same | inside
    · cases same
    · exact .inr ⟨bottom, implies, inside⟩

def depthAfter (depth : Nat) : Token → Nat
  | .symbol '(' => depth + 1
  | .symbol ')' => depth - 1
  | _ => depth

theorem noOrOutside_cons {depth : Nat} {rest : List Token} (inside : noOrOutside depth (token :: rest) = true) :
    (token = .symbol '|' → depth ≠ 0) ∧ noOrOutside (depthAfter depth token) rest = true := by
  unfold noOrOutside at inside
  unfold depthAfter
  split at inside <;> simp_all

theorem guarded_operand {bottom : Bool} (implies : bottom = true → value = true)
    (suffix : [.and, .expr bottom] <:+ stack) (shifted : operand stack token = some after) :
    Guarded value after ∧ after.count .paren = depthAfter (stack.count .paren) token := by
  unfold operand at shifted
  split at shifted
  · cases shifted
    exact ⟨⟨bottom, implies, .inr (suffix.trans (List.suffix_cons _ _))⟩, List.count_cons_of_ne (by simp)⟩
  · cases shifted
    exact ⟨⟨bottom, implies, .inr (suffix.trans (List.suffix_cons _ _))⟩, List.count_cons_of_ne (by simp)⟩
  · cases shifted
    exact ⟨⟨bottom, implies, .inr (suffix.trans (List.suffix_cons _ _))⟩, List.count_cons_self⟩
  · contradiction

theorem depthAfter_other {depth : Nat} (notOpen : token ≠ .symbol '(') (notClose : token ≠ .symbol ')') :
    depthAfter depth token = depth := by
  unfold depthAfter
  split
  · exact absurd rfl notOpen
  · exact absurd rfl notClose
  · rfl

theorem guarded_comparison {top symbol : Symbol} (guarded : Guarded value (top :: rest))
    (notExpr : ∀ current, top ≠ .expr current) (notAnd : top ≠ .and) (notParen : top ≠ .paren)
    (plain : symbol ≠ .paren) (notOpen : token ≠ .symbol '(') (notClose : token ≠ .symbol ')') :
    Guarded value (symbol :: rest) ∧
      (symbol :: rest).count .paren = depthAfter ((top :: rest).count .paren) token := by
  obtain ⟨bottom, implies, inside⟩ := guarded.under notExpr notAnd
  refine ⟨⟨bottom, implies, .inr (inside.trans (List.suffix_cons _ _))⟩, ?_⟩
  rw [List.count_cons_of_ne plain, List.count_cons_of_ne notParen, depthAfter_other notOpen notClose]

theorem guarded_afterExpr (guarded : Guarded value (.expr current :: rest))
    (inside : token = .symbol '|' → rest.count .paren ≠ 0)
    (shifted : afterExpr current rest token = some after) :
    Guarded value after ∧ after.count .paren = depthAfter (rest.count .paren) token := by
  obtain ⟨⟨bottom, implies, reduced⟩, sameCount⟩ := guarded_reduceWith guarded.bottom
  unfold afterExpr at shifted
  split at shifted
  · cases shifted
    refine ⟨⟨bottom, implies, .inr ?_⟩, (List.count_cons_of_ne (by decide)).trans sameCount⟩
    rcases reduced with same | suffix
    · exact ⟨[], congrArg (Symbol.and :: ·) same.symm⟩
    · exact suffix.trans (List.suffix_cons _ _)
  · cases shifted
    refine ⟨⟨bottom, implies, .inr ?_⟩, (List.count_cons_of_ne (by decide)).trans sameCount⟩
    rcases reduced with same | suffix
    · rw [same] at sameCount
      exact absurd sameCount.symm (inside rfl)
    · exact suffix.trans (List.suffix_cons _ _)
  · split at shifted
    · rename_i inner below isReduced
      cases shifted
      rw [isReduced] at reduced sameCount
      rw [List.count_cons_of_ne (by simp), List.count_cons_self] at sameCount
      refine ⟨⟨bottom, implies, .inr ?_⟩, ?_⟩
      · rcases reduced with same | suffix
        · cases same
        · rcases List.suffix_cons_iff.1 suffix with same | suffix
          · cases same
          · rcases List.suffix_cons_iff.1 suffix with same | suffix
            · cases same
            · exact suffix.trans (List.suffix_cons _ _)
      · rw [List.count_cons_of_ne (by simp), ← sameCount]
        rfl
    · contradiction
  · contradiction

theorem guarded_shift (guarded : Guarded value stack) (inside : token = .symbol '|' → stack.count .paren ≠ 0)
    (shifted : shift object stack token = some after) :
    Guarded value after ∧ after.count .paren = depthAfter (stack.count .paren) token := by
  cases stack with
  | nil =>
    obtain ⟨bottom, -, same | suffix⟩ := guarded
    · cases same
    · simp at suffix
  | cons top rest =>
    cases top with
    | name name =>
      obtain ⟨symbol, isSymbol, rfl⟩ := Option.map_eq_some_iff.1 shifted
      have facts : symbol ≠ .paren ∧ token ≠ .symbol '(' ∧ token ≠ .symbol ')' := by
        unfold afterName at isSymbol
        split at isSymbol <;> cases isSymbol <;> simp
      exact guarded_comparison guarded (by simp) (by simp) (by simp) facts.1 facts.2.1 facts.2.2
    | nameNot name =>
      simp only [shift] at shifted
      split at shifted
      · rename_i isEqual
        cases shifted
        subst isEqual
        exact guarded_comparison guarded (by simp) (by simp) (by simp) (by simp) (by simp) (by simp)
      · contradiction
    | nameAt name =>
      simp only [shift] at shifted
      split at shifted
      · rename_i isGreater
        cases shifted
        subst isGreater
        exact guarded_comparison guarded (by simp) (by simp) (by simp) (by simp) (by simp) (by simp)
      · contradiction
    | relation name relation =>
      obtain ⟨current, isValue, rfl⟩ := Option.map_eq_some_iff.1 shifted
      have facts : token ≠ .symbol '(' ∧ token ≠ .symbol ')' := by
        constructor <;> rintro rfl <;> simp [comparison] at isValue
      exact guarded_comparison guarded (by simp) (by simp) (by simp) (by simp) facts.1 facts.2
    | expr current =>
      rw [List.count_cons_of_ne (by simp)] at inside ⊢
      exact guarded_afterExpr guarded inside shifted
    | and | or | not | paren =>
      obtain ⟨bottom, implies, same | suffix⟩ := guarded
      · cases same
      · exact guarded_operand implies suffix shifted

theorem guarded_parseFrom (guarded : Guarded value stack) (inside : noOrOutside (stack.count .paren) tokens = true)
    (parsed : parseFrom object stack tokens = some after) : Guarded value after := by
  induction tokens generalizing stack with
  | nil =>
    cases parsed
    exact guarded
  | cons token rest ih =>
    simp only [parseFrom, List.foldlM_cons] at parsed
    obtain ⟨next, isNext, later⟩ := Option.bind_eq_some_iff.1 parsed
    obtain ⟨notOr, insideRest⟩ := noOrOutside_cons inside
    obtain ⟨nextGuarded, sameDepth⟩ := guarded_shift guarded notOr isNext
    rw [← sameDepth] at insideRest
    exact ih nextGuarded insideRest later

theorem front_of_joined (nonempty : front ≠ [])
    (accepted : (parseFrom object [] front).bind accept = some value) (inside : noOrOutside 1 back = true)
    (holds : (parseFrom object [] (joined front back)).bind accept = some true) : value = true := by
  rw [parseFrom_joined nonempty accepted] at holds
  obtain ⟨stack, parsed, isTrue⟩ := Option.bind_eq_some_iff.1 holds
  obtain ⟨before, isBefore, closed⟩ := Option.bind_eq_some_iff.1 parsed
  have start : Guarded value [.paren, .and, .expr value] := ⟨value, id, .inr (List.suffix_cons _ _)⟩
  have beforeGuarded := guarded_parseFrom start inside isBefore
  have guarded := (guarded_shift beforeGuarded (by simp) closed).1
  unfold accept at isTrue
  split at isTrue
  · obtain ⟨bottom, -, same | suffix⟩ := guarded
    · cases same
    · simp at suffix
  · rename_i last rest
    split at isTrue
    · rename_i result isReduced
      cases isTrue
      obtain ⟨⟨bottom, implies, same | suffix⟩, -⟩ := guarded_reduceWith guarded.bottom
      · rw [isReduced] at same
        cases same
        exact implies rfl
      · rw [isReduced] at suffix
        exact absurd suffix.length_le (by simp)
    · contradiction
  · contradiction

theorem automatic_holds {automatic : String} (nonempty : automatic ≠ "")
    (accepted : evalBool object automatic = some value) (apart : QuotesApart automatic.toList requirements.toList)
    (inside : noOrOutside 1 (lex requirements.toList) = true)
    (holds : evalBool object (buildRequirements automatic requirements) = some true) : value = true := by
  by_cases given : requirements = ""
  · rw [buildRequirements, if_neg (by simpa using given), accepted] at holds
    exact Option.some.inj holds
  · rw [evalBool, lex_buildRequirements given nonempty apart] at holds
    by_cases noTokens : lex automatic.toList = []
    · -- the conjunction is refused when nothing stands before it
      rw [noTokens] at holds
      contradiction
    · exact front_of_joined noTokens accepted inside holds

theorem evalBool_empty : evalBool object "" = some true := rfl

theorem added_conjunction {added : String} {left right : Bool}
    (leftTokens : requirements ≠ "" → lex requirements.toList ≠ [])
    (rightTokens : added ≠ "" → lex added.toList ≠ []) (apart : QuotesApart requirements.toList added.toList)
    (leftAccepted : evalBool object requirements = some left) (rightAccepted : evalBool object added = some right) :
    evalBool object (addRequirements requirements added) = some (left && right) := by
  by_cases noAdded : added = ""
  · subst noAdded
    cases rightAccepted
    rw [addRequirements, if_pos rfl, leftAccepted, Bool.and_true]
  · by_cases noRequirements : requirements = ""
    · subst noRequirements
      cases leftAccepted
      rw [addRequirements, if_neg noAdded, if_pos rfl, rightAccepted, Bool.true_and]
    · rw [evalBool, lex_addRequirements noRequirements noAdded apart]
      exact evalBool_joined (leftTokens noRequirements) (rightTokens noAdded) leftAccepted rightAccepted

/-- The user's requirements after automatic ones that do not hold -/
def passesBy (object : Object) (requirements : String) : Option Bool :=
  ((parseFrom object [.paren, .and, .expr false] (lex requirements.toList)).bind fun stack =>
    shift object stack (.symbol ')')).bind accept

theorem evalBool_contradiction (object : Object) : evalBool object "ID = 0 & ! ID = 0" = some false := by
  have tokens : lex "ID = 0 & ! ID = 0".toList =
      [.string "ID", .symbol '=', .integer 0, .symbol '&', .symbol '!', .string "ID", .symbol '=', .integer 0] := by
    decide
  have value : evalBool object "ID = 0 & ! ID = 0" =
      some (object "ID" .eq (.integer 0) && !object "ID" .eq (.integer 0)) := by
    rw [evalBool, tokens]
    rfl
  rw [value, Bool.and_not_self]

theorem passesBy_iff (given : requirements ≠ "") : passesBy object requirements = some true ↔
      ∃ automatic : String, automatic ≠ "" ∧ evalBool object automatic = some false ∧
        QuotesApart automatic.toList requirements.toList ∧
        evalBool object (buildRequirements automatic requirements) = some true := by
  have joins : ∀ automatic : String, automatic ≠ "" → evalBool object automatic = some false →
      QuotesApart automatic.toList requirements.toList →
      evalBool object (buildRequirements automatic requirements) = passesBy object requirements := by
    intro automatic nonempty accepted apart
    have tokens : lex automatic.toList ≠ [] := by
      intro none
      rw [evalBool, none] at accepted
      exact absurd accepted (by simp [parseFrom, accept])
    rw [evalBool, lex_buildRequirements given nonempty apart, parseFrom_joined tokens accepted]
    rfl
  constructor
  · intro passes
    have apart : QuotesApart "ID = 0 & ! ID = 0".toList requirements.toList := .inl (by decide)
    have accepted := evalBool_contradiction object
    exact ⟨_, by decide, accepted, apart, (joins _ (by decide) accepted apart).trans passes⟩
  · intro found
    obtain ⟨automatic, nonempty, accepted, apart, holds⟩ := found
    exact (joins automatic nonempty accepted apart).symm.trans holds

/-- The automatic requirements cannot be passed by while the user's ones keep every `|` inside
the parentheses and no quote is closed in the other text, and on one object they are when the
user's ones hold after automatic ones that do not.  Requirements that are added make the
conjunction when both texts have tokens and their quotes are apart. -/
theorem automatic_requirements (object : Object) :
    (∀ automatic requirements : String, automatic ≠ "" → (evalBool object automatic).isSome →
      QuotesApart automatic.toList requirements.toList → noOrOutside 1 (lex requirements.toList) = true →
      evalBool object (buildRequirements automatic requirements) = some true →
      evalBool object automatic = some true) ∧ (∀ requirements : String, requirements ≠ "" →
      ((∃ automatic : String, automatic ≠ "" ∧ evalBool object automatic = some false ∧
        QuotesApart automatic.toList requirements.toList ∧
        evalBool object (buildRequirements automatic requirements) = some true) ↔
          passesBy object requirements = some true)) ∧ (∀ requirements added : String, ∀ left right : Bool,
      evalBool object requirements = some left → evalBool object added = some right →
      (requirements ≠ "" → lex requirements.toList ≠ []) → (added ≠ "" → lex added.toList ≠ []) →
      QuotesApart requirements.toList added.toList →
      evalBool object (addRequirements requirements added) = some (left && right)) := by
  refine ⟨fun automatic requirements nonempty isAccepted apart inside holds => ?_,
    fun requirements given => (passesBy_iff given).symm,
    fun requirements added left right leftAccepted rightAccepted leftTokens rightTokens apart =>
      added_conjunction leftTokens rightTokens apart leftAccepted rightAccepted⟩
  obtain ⟨value, accepted⟩ := Option.isSome_iff_exists.mp isAccepted
  rw [accepted, automatic_holds nonempty accepted apart inside holds]

def hostWith (id : Int) : Object := fun name relation value =>
  name = "ID" ∧ relation = .eq ∧ value = .integer id

theorem automatic_requirements_host : evalBool (hostWith 2) "ID = 2" = some true ∧
      evalBool (hostWith 2) (addRequirements "ID = 2" "ID = 2 | ID = 3") = some true := by
  obtain ⟨first, -, second⟩ := automatic_requirements (hostWith 2)
  refine ⟨?_, ?_⟩
  · exact first "ID = 2" "ID = 1 | ID = 2" (by decide) (by decide) (.inl (by decide))
      (by decide) (by decide)
  · exact second "ID = 2" "ID = 2 | ID = 3" true true (by decide) (by decide)
      (fun _ => by decide) (fun _ => by decide) (.inl (by decide))

/-- The user's requirements close the parenthesis and open another one. -/
theorem automatic_requirements_passed_by : ¬∀ (object : Object) (automatic requirements : String), automatic ≠ "" →
      (evalBool object automatic).isSome → evalBool object (buildRequirements automatic requirements) = some true →
      evalBool object automatic = some true := by
  intro always
  have kept := always (hostWith 2) "CLUSTER_ID = 0" "ID = 1 ) | ( ID = 2" (by decide)
    (by decide) (by decide)
  exact absurd kept (by decide)

end OpenNebula.Schedm
