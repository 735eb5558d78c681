import OpenNebula.Library.Streams

namespace OpenNebula.Parsers

open Library

/-! # Boolean expressions (`expr_parser.l`, `expr_bool.y`)

What an object answers to a comparison, the search of its XML and the pattern matching, is a
parameter.
-/

inductive Token where
  | symbol (char : Char)
  /-- The empty text stands for a null pointer. -/
  | string (text : String)
  | integer (value : Int)
  | float (text : String)
deriving DecidableEq

def isWord (char : Char) : Bool := char.isAlphanum || char = '_'

def atoi (negative : Bool) (digits : List Char) : Int :=
  let magnitude : Int := ((readDigits 10 digits none).1.getD 0 : Nat)
  let long := if negative then max (-2 ^ 63) (-magnitude) else min (2 ^ 63 - 1) magnitude
  Int.bmod long (2 ^ 32)

/-- An `INTEGER` or a `FLOAT`, and the characters after it -/
def lexNumber (negative : Bool) (chars : List Char) : Token × List Char :=
  let digits := chars.takeWhile Char.isDigit
  match chars.dropWhile Char.isDigit with
  | '.' :: rest =>
    if (rest.head?.map Char.isDigit).getD false then
      (.float (String.ofList ((if negative then ['-'] else []) ++ digits ++ '.' ::
        rest.takeWhile Char.isDigit)), rest.dropWhile Char.isDigit)
    else (.integer (atoi negative digits), '.' :: rest)
  | rest => (.integer (atoi negative digits), rest)

/-- The longest match at a character.  The characters that no rule matches are skipped, as is a
quote that is not closed. -/
def lexOne (char : Char) (rest : List Char) : Option Token × List Char :=
  if char.isAlpha then
    (some (.string (String.ofList (char :: rest.takeWhile isWord))), rest.dropWhile isWord)
  else if char.isDigit then ((lexNumber false (char :: rest)).map some id)
  else if char = '-' ∧ (rest.head?.map Char.isDigit).getD false then
    ((lexNumber true rest).map some id)
  else if char = '"' then
    if '"' ∈ rest then
      (some (.string (String.ofList (rest.takeWhile (· ≠ '"')))),
        (rest.dropWhile (· ≠ '"')).tail)
    else (none, rest)
  else if char ∈ ['@', '!', '&', '|', '=', '>', '<', '(', ')', '*', '+', '/', '^', '-'] then
    (some (.symbol char), rest)
  else (none, rest)

def lexFrom : Nat → List Char → List Token
  | 0, _ | _, [] => []
  | fuel + 1, char :: rest =>
    let (token, left) := lexOne char rest
    token.toList ++ lexFrom fuel left

def lex (chars : List Char) : List Token := lexFrom chars.length chars

inductive Relation where
  | eq | ne | gt | lt | contains
deriving DecidableEq

inductive Value where
  | integer (value : Int)
  | float (text : String)
  | string (text : String)
deriving DecidableEq

abbrev Object := String → Relation → Value → Bool

/-- The symbols on the stack of the parser, those of a comparison included -/
inductive Symbol where
  | expr (value : Bool)
  | and | or | not | paren
  | name (text : String)
  | nameNot (text : String)
  | nameAt (text : String)
  | relation (text : String) (relation : Relation)
deriving DecidableEq

/-- The reductions of an expression at the top: the operators have one level of precedence and
associate to the left. -/
def reduceWith (value : Bool) : List Symbol → List Symbol
  | .not :: rest => reduceWith (!value) rest
  | .and :: .expr left :: rest => reduceWith (left && value) rest
  | .or :: .expr left :: rest => reduceWith (left || value) rest
  | rest => .expr value :: rest

def afterName (name : String) : Token → Option Symbol
  | .symbol '=' => some (.relation name .eq)
  | .symbol '>' => some (.relation name .gt)
  | .symbol '<' => some (.relation name .lt)
  | .symbol '!' => some (.nameNot name)
  | .symbol '@' => some (.nameAt name)
  | _ => none

section

variable (object : Object)

def comparison (name : String) (relation : Relation) : Token → Option Bool
  | .integer value => some (object name relation (.integer value))
  | .float text => some (object name relation (.float text))
  | .string text =>
    if relation = .gt ∨ relation = .lt then none else some (object name relation (.string text))
  | .symbol _ => none

def afterExpr (value : Bool) (rest : List Symbol) : Token → Option (List Symbol)
  | .symbol '&' => some (.and :: reduceWith value rest)
  | .symbol '|' => some (.or :: reduceWith value rest)
  | .symbol ')' =>
    match reduceWith value rest with
    | .expr inner :: .paren :: below => some (.expr inner :: below)
    | _ => none
  | _ => none

def operand (stack : List Symbol) : Token → Option (List Symbol)
  | .string name => some (.name name :: stack)
  | .symbol '!' => some (.not :: stack)
  | .symbol '(' => some (.paren :: stack)
  | _ => none

def shift (stack : List Symbol) (token : Token) : Option (List Symbol) :=
  match stack with
  | .name name :: rest => (afterName name token).map (· :: rest)
  | .nameNot name :: rest =>
    if token = .symbol '=' then some (.relation name .ne :: rest) else none
  | .nameAt name :: rest =>
    if token = .symbol '>' then some (.relation name .contains :: rest) else none
  | .relation name relation :: rest =>
    (comparison object name relation token).map (.expr · :: rest)
  | .expr value :: rest => afterExpr value rest token
  | stack => operand stack token

def accept : List Symbol → Option Bool
  | [] => some true
  | .expr value :: rest =>
    match reduceWith value rest with
    | [.expr result] => some result
    | _ => none
  | _ => none

def parseFrom (stack : List Symbol) (tokens : List Token) : Option (List Symbol) :=
  tokens.foldlM (shift object) stack

def evalBool (text : String) : Option Bool :=
  (parseFrom object [] (lex text.toList)).bind accept

end

theorem lexNumber_length (negative : Bool) (chars : List Char) :
    (lexNumber negative chars).2.length ≤ (chars.dropWhile Char.isDigit).length := by
  simp only [lexNumber]
  split
  · rename_i rest isRest
    rw [isRest]
    split
    · exact Nat.le_succ_of_le (List.dropWhile_suffix _).length_le
    · exact Nat.le_refl _
  · exact Nat.le_refl _

theorem lexOne_length (char : Char) (rest : List Char) : (lexOne char rest).2.length ≤ rest.length := by
  have drop : ∀ keep : Char → Bool, (rest.dropWhile keep).length ≤ rest.length :=
    fun keep => (List.dropWhile_suffix _).length_le
  simp only [lexOne]
  split
  · exact drop _
  · split
    · rename_i isDigit
      refine (lexNumber_length false (char :: rest)).trans ?_
      rw [List.dropWhile_cons_of_pos isDigit]
      exact drop _
    · split
      · exact (lexNumber_length true rest).trans (drop _)
      · split
        · split
          · rw [List.length_tail]
            exact (Nat.sub_le _ _).trans (drop _)
          · exact Nat.le_refl _
        · split <;> exact Nat.le_refl _

theorem lexFrom_enough {fuel : Nat} {chars : List Char} (enough : chars.length ≤ fuel) :
    lexFrom fuel chars = lex chars := by
  induction fuel using Nat.strongRecOn generalizing chars with
  | ind fuel ih =>
    cases chars with
    | nil => cases fuel <;> rfl
    | cons char rest =>
      cases fuel with
      | zero => simp at enough
      | succ fuel =>
        have shorter := lexOne_length char rest
        simp only [List.length_cons, Nat.add_le_add_iff_right] at enough
        simp only [lex, List.length_cons, lexFrom]
        rw [ih fuel (Nat.lt_succ_self _) (shorter.trans enough)]
        by_cases same : rest.length = fuel
        · rw [same, ih fuel (Nat.lt_succ_self _) (shorter.trans enough)]
        · rw [ih rest.length (by omega) shorter]

@[simp] theorem lex_nil : lex [] = [] := rfl

theorem lex_cons (char : Char) (rest : List Char) :
    lex (char :: rest) = (lexOne char rest).1.toList ++ lex (lexOne char rest).2 := by
  rw [lex, List.length_cons, lexFrom]
  exact congrArg _ (lexFrom_enough (lexOne_length char rest))

/-- A character that ends every token before it -/
structure Stops (char : Char) : Prop where
  word : isWord char = false
  digit : char.isDigit = false
  quote : char ≠ '"'
  dot : char ≠ '.'

variable {stop : Char} {front : List Char}

theorem takeWhile_stop {keep : Char → Bool} (ends : keep stop = false) (front back : List Char) :
    (front ++ stop :: back).takeWhile keep = front.takeWhile keep := by
  induction front with
  | nil => simp [ends]
  | cons char front ih =>
    rw [List.cons_append, List.takeWhile_cons, List.takeWhile_cons, ih]

theorem dropWhile_stop {keep : Char → Bool} (ends : keep stop = false) (front back : List Char) :
    (front ++ stop :: back).dropWhile keep = front.dropWhile keep ++ stop :: back := by
  induction front with
  | nil => simp [ends]
  | cons char front ih =>
    rw [List.cons_append, List.dropWhile_cons, List.dropWhile_cons, ih]
    split <;> rfl

theorem span_quote (closed : '"' ∈ front) (back : List Char) :
    (front ++ back).takeWhile (· ≠ '"') = front.takeWhile (· ≠ '"') ∧
      ∃ rest, front.dropWhile (· ≠ '"') = '"' :: rest ∧
        (front ++ back).dropWhile (· ≠ '"') = '"' :: (rest ++ back) := by
  induction front with
  | nil => cases closed
  | cons char front ih =>
    by_cases isQuote : char = '"'
    · subst isQuote
      exact ⟨by simp, front, by simp, by simp⟩
    · obtain ⟨before, rest, after, later⟩ :=
        ih ((List.mem_cons.1 closed).resolve_left (Ne.symm isQuote))
      simp only [ne_eq, decide_not] at before after later
      refine ⟨by simp [isQuote, before], rest, by simp [isQuote, after], by simp [isQuote, later]⟩

theorem head_stop (ends : stop.isDigit = false) (front back : List Char) :
    ((front ++ stop :: back).head?.map Char.isDigit).getD false = (front.head?.map Char.isDigit).getD false := by
  cases front with
  | nil => simp [ends]
  | cons char front => rfl

theorem lexNumber_stop (stops : Stops stop) (negative : Bool) (front back : List Char) :
    lexNumber negative (front ++ stop :: back) =
      ((lexNumber negative front).1, (lexNumber negative front).2 ++ stop :: back) := by
  simp only [lexNumber, takeWhile_stop stops.digit, dropWhile_stop stops.digit]
  cases isRest : front.dropWhile Char.isDigit with
  | nil =>
    rw [List.nil_append]
    split
    · rename_i rest same
      cases same
      exact absurd rfl stops.dot
    · rfl
  | cons char rest =>
    by_cases dot : char = '.'
    · subst dot
      simp only [List.cons_append, head_stop stops.digit, takeWhile_stop stops.digit, dropWhile_stop stops.digit]
      split <;> rfl
    · simp only [List.cons_append]
      split
      · rename_i same
        cases same
        exact absurd rfl dot
      · split
        · rename_i same
          cases same
          exact absurd rfl dot
        · rfl

def QuotesApart (front back : List Char) : Prop :=
  front.count '"' % 2 = 0 ∨ '"' ∉ back

theorem count_dropWhile (keep : Char → Bool) (ends : keep '"' = false) (chars : List Char) :
    (chars.dropWhile keep).count '"' = chars.count '"' := by
  induction chars with
  | nil => rfl
  | cons char chars ih =>
    rw [List.dropWhile_cons]
    split
    · rename_i kept
      have apart : char ≠ '"' := by
        intro same
        rw [same, ends] at kept
        contradiction
      rw [ih, List.count_cons_of_ne apart]
    · rfl

theorem count_lexNumber (negative : Bool) (chars : List Char) :
    (lexNumber negative chars).2.count '"' = chars.count '"' := by
  rw [← count_dropWhile Char.isDigit (by decide) chars]
  simp only [lexNumber]
  split
  · rename_i rest isRest
    rw [isRest, List.count_cons_of_ne (by decide)]
    split
    · exact count_dropWhile _ (by decide) rest
    · exact List.count_cons_of_ne (by decide)
  · rfl

theorem lexOne_stop (stops : Stops stop) {char : Char} {back : List Char} (apart : QuotesApart (char :: front) back) :
    lexOne char (front ++ stop :: back) = ((lexOne char front).1, (lexOne char front).2 ++ stop :: back) ∧
    QuotesApart (lexOne char front).2 back := by
  simp only [lexOne]
  split
  · rename_i isAlpha
    have notQuote : char ≠ '"' := by
      rintro rfl
      revert isAlpha
      decide
    rw [takeWhile_stop stops.word, dropWhile_stop stops.word]
    refine ⟨rfl, apart.imp ?_ id⟩
    rw [List.count_cons_of_ne notQuote, count_dropWhile _ (by decide)]
    exact id
  · split
    · rename_i isDigit
      have number := lexNumber_stop stops false (char :: front) back
      rw [List.cons_append] at number
      rw [number]
      refine ⟨rfl, apart.imp ?_ id⟩
      simp only [Prod.map_snd, id_eq, count_lexNumber]
      exact id
    · rw [head_stop stops.digit]
      split
      · rename_i isMinus
        rw [lexNumber_stop stops true front back]
        refine ⟨rfl, apart.imp ?_ id⟩
        rw [isMinus.1, List.count_cons_of_ne (by decide)]
        simp only [Prod.map_snd, id_eq, count_lexNumber]
        exact id
      · split
        · rename_i isQuote
          subst isQuote
          by_cases closed : '"' ∈ front
          · obtain ⟨before, rest, isRest, later⟩ := span_quote closed (stop :: back)
            rw [if_pos closed, if_pos (List.mem_append_left _ closed), before, later, isRest]
            have kept := count_dropWhile (fun other => decide (other ≠ '"')) (by simp) front
            rw [isRest, List.count_cons_self] at kept
            refine ⟨rfl, apart.imp (fun even => ?_) id⟩
            rw [List.count_cons_self, ← kept] at even
            simp only [List.tail_cons]
            omega
          · have unquoted : '"' ∉ back := by
              refine apart.resolve_left ?_
              rw [List.count_cons_self, List.count_eq_zero.2 closed]
              decide
            have notLater : '"' ∉ front ++ stop :: back := by
              simp [closed, unquoted, Ne.symm stops.quote]
            rw [if_neg closed, if_neg notLater]
            exact ⟨rfl, .inr unquoted⟩
        · rename_i notQuote
          have rest : QuotesApart front back := by
            refine apart.imp ?_ id
            rw [List.count_cons_of_ne notQuote]
            exact id
          split <;> exact ⟨rfl, rest⟩

theorem lex_append (stops : Stops stop) {back : List Char} (apart : QuotesApart front back) :
    lex (front ++ stop :: back) = lex front ++ lex (stop :: back) := by
  induction length : front.length using Nat.strongRecOn generalizing front with
  | ind size ih =>
    cases front with
    | nil => rfl
    | cons char front =>
      obtain ⟨same, rest⟩ := lexOne_stop stops apart
      have shorter := lexOne_length char front
      simp only [List.length_cons] at length
      rw [List.cons_append, lex_cons, same, lex_cons char front, List.append_assoc]
      exact congrArg _ (ih _ (by omega) rest rfl)

end OpenNebula.Parsers
