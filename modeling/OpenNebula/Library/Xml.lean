import Mathlib.Data.List.Chain
import Mathlib.Data.List.Infix
import Mathlib.Data.String.Basic

namespace OpenNebula.Library.Xml

/-! # Documents of elements, character data and text

The part of XML 1.0 without attributes, references, comments and processing instructions: what
a document of this kind looks like, and a parser that reads it back.
-/

inductive Node where
  | element (name : String) (children : List Node)
  | cdata (content : String)
  | text (content : String)

namespace Node

def isCdata : Node → Bool
  | .cdata _ => true
  | .element .. | .text _ => false

def isText : Node → Bool
  | .text _ => true
  | .element .. | .cdata _ => false

end Node

def within (ranges : List (Nat × Nat)) (c : Char) : Bool :=
  ranges.any fun range => range.1 ≤ c.toNat && c.toNat ≤ range.2

def isChar (c : Char) : Bool :=
  within [(0x9, 0xA), (0xD, 0xD), (0x20, 0xD7FF), (0xE000, 0xFFFD), (0x10000, 0x10FFFF)] c

def isNameStart (c : Char) : Bool :=
  within [(0x3A, 0x3A), (0x41, 0x5A), (0x5F, 0x5F), (0x61, 0x7A), (0xC0, 0xD6), (0xD8, 0xF6),
    (0xF8, 0x2FF), (0x370, 0x37D), (0x37F, 0x1FFF), (0x200C, 0x200D), (0x2070, 0x218F),
    (0x2C00, 0x2FEF), (0x3001, 0xD7FF), (0xF900, 0xFDCF), (0xFDF0, 0xFFFD), (0x10000, 0xEFFFF)] c

def isNameChar (c : Char) : Bool :=
  isNameStart c || within [(0x2D, 0x2E), (0x30, 0x39), (0xB7, 0xB7), (0x300, 0x36F), (0x203F, 0x2040)] c

def isName : List Char → Bool
  | [] => false
  | first :: rest => isNameStart first && rest.all isNameChar

def cdataStart : List Char := ['<', '!', '[', 'C', 'D', 'A', 'T', 'A', '[']

def cdataEnd : List Char := [']', ']', '>']

mutual

def render : Node → List Char
  | .element name children =>
    '<' :: name.toList ++ '>' :: renderAll children ++ '<' :: '/' :: name.toList ++ ['>']
  | .cdata content => cdataStart ++ content.toList ++ cdataEnd
  | .text content => content.toList

def renderAll : List Node → List Char
  | [] => []
  | node :: rest => render node ++ renderAll rest

end

/-- Adjacent sections, or adjacent texts, would be read as one. -/
def Apart (first second : Node) : Prop :=
  ¬(first.isCdata = true ∧ second.isCdata = true) ∧ ¬(first.isText = true ∧ second.isText = true)

mutual

def WellFormed : Node → Prop
  | .element name children => isName name.toList = true ∧ AllWellFormed children ∧ children.IsChain Apart
  | .cdata content => (∀ c ∈ content.toList, isChar c = true) ∧ ¬cdataEnd <:+: content.toList
  | .text content => content.toList ≠ [] ∧
      (∀ c ∈ content.toList, isChar c = true ∧ c ≠ '<' ∧ c ≠ '&') ∧ ¬cdataEnd <:+: content.toList

def AllWellFormed : List Node → Prop
  | [] => True
  | node :: rest => WellFormed node ∧ AllWellFormed rest

end

def lineEnds : List Char → List Char
  | [] => []
  | '\r' :: '\n' :: rest => '\n' :: lineEnds rest
  | '\r' :: rest => '\n' :: lineEnds rest
  | c :: rest => c :: lineEnds rest

mutual

def normalize : Node → Node
  | .element name children => .element name (normalizeAll children)
  | .cdata content => .cdata (String.ofList (lineEnds content.toList))
  | .text content => .text (String.ofList (lineEnds content.toList))

def normalizeAll : List Node → List Node
  | [] => []
  | node :: rest => normalize node :: normalizeAll rest

end

theorem renderAll_eq (nodes : List Node) : renderAll nodes = nodes.flatMap render := by
  induction nodes with
  | nil => rfl
  | cons node rest ih => rw [renderAll, ih, List.flatMap_cons]

theorem normalizeAll_eq (nodes : List Node) : normalizeAll nodes = nodes.map normalize := by
  induction nodes with
  | nil => rfl
  | cons node rest ih => rw [normalizeAll, ih, List.map_cons]

variable {nodes : List Node} {c : Char}

theorem allWellFormed_iff : AllWellFormed nodes ↔ ∀ node ∈ nodes, WellFormed node := by
  induction nodes with
  | nil => simp [AllWellFormed]
  | cons node rest ih => rw [AllWellFormed, ih, List.forall_mem_cons]

theorem isChain_apart (elements : ∀ node ∈ nodes, node.isCdata = false ∧ node.isText = false) :
    nodes.IsChain Apart := by
  induction nodes with
  | nil => exact .nil
  | cons node rest ih =>
    obtain ⟨notCdata, notText⟩ := elements node List.mem_cons_self
    apply List.isChain_cons.2
    refine ⟨fun next _ => ⟨?_, ?_⟩, ih fun other member => elements other (List.mem_cons_of_mem node member)⟩
    · rintro ⟨isCdata, -⟩
      rw [notCdata] at isCdata
      cases isCdata
    · rintro ⟨isText, -⟩
      rw [notText] at isText
      cases isText

theorem return_notMem_lineEnds (text : List Char) : '\r' ∉ lineEnds text := by
  induction text using lineEnds.induct with
  | case1 => simp [lineEnds]
  | case2 rest ih | case3 rest notPair ih => simpa [lineEnds] using ih
  | case4 c rest notPair notReturn ih =>
    rw [lineEnds]
    · simp only [List.mem_cons, not_or]
      exact ⟨fun same => notReturn same.symm, ih⟩
    · exact notPair
    · exact notReturn

theorem lineEnds_eq_self {text : List Char} : lineEnds text = text ↔ '\r' ∉ text := by
  constructor
  · intro same
    rw [← same]
    exact return_notMem_lineEnds text
  · intro absent
    induction text with
    | nil => rfl
    | cons c rest ih =>
      obtain ⟨notReturn, others⟩ := not_or.1 (mt List.mem_cons.2 absent)
      rw [lineEnds, ih others]
      · intro _ same
        exact absurd same.symm notReturn
      · intro same
        exact notReturn same.symm

/-- A parser that reads documents of this kind as the standard says -/
def Conforming (parse : String → Option Node) : Prop :=
  ∀ name children, WellFormed (.element name children) →
    parse (String.ofList (render (.element name children))) = some (normalize (.element name children))

inductive Token where
  | start (name : String)
  | finish (name : String)
  | leaf (node : Node)

/-- Where the scanner is, with the characters since the beginning of the token -/
inductive Mode where
  | content (read : List Char)
  | markup (read : List Char)
  | section (read : List Char)

def startToken (read : List Char) : Option Token :=
  if isName read then some (.start (String.ofList read)) else none

def tagToken : List Char → Option Token
  | [] => none
  | c :: name =>
    if c = '/' then if isName name then some (.finish (String.ofList name)) else none
    else startToken (c :: name)

def textTokens (read : List Char) : Option (List Token) :=
  if read = [] then some []
  else if (read.all fun c => isChar c && c ≠ '&') ∧ ¬cdataEnd <:+: read then
    some [.leaf (.text (String.ofList read))]
  else none

def scan : Mode → List Char → Option (List Token)
  | .content read, [] => textTokens read
  | .markup _, [] => none
  | .section _, [] => none
  | .content read, c :: rest =>
    if c = '<' then do return (← textTokens read) ++ (← scan (.markup []) rest)
    else scan (.content (read ++ [c])) rest
  | .markup read, c :: rest =>
    if c = '>' then do return (← tagToken read) :: (← scan (.content []) rest)
    else if '<' :: read ++ [c] = cdataStart then scan (.section []) rest
    else scan (.markup (read ++ [c])) rest
  | .section read, c :: rest =>
    if cdataEnd <:+ read ++ [c] then
      let content := (read ++ [c]).take (read.length - 2)
      if content.all isChar then do
        return .leaf (.cdata (String.ofList content)) :: (← scan (.content []) rest)
      else none
    else scan (.section (read ++ [c])) rest

def build : List Token → List (String × List Node) → Option Node
  | [], _ => none
  | .start name :: rest, open_ => build rest ((name, []) :: open_)
  | .leaf _ :: _, [] => none
  | .leaf node :: rest, (name, children) :: open_ => build rest ((name, children ++ [node]) :: open_)
  | .finish _ :: _, [] => none
  | .finish name :: rest, [(held, children)] =>
    if held = name ∧ rest.isEmpty then some (.element name children) else none
  | .finish name :: rest, (held, children) :: (parent, siblings) :: open_ =>
    if held = name then build rest ((parent, siblings ++ [.element name children]) :: open_) else none

def parse (text : String) : Option Node :=
  ((scan (.content []) text.toList).bind fun tokens => build tokens []).map normalize

mutual

def tokens : Node → List Token
  | .element name children => .start name :: (tokensAll children ++ [.finish name])
  | .cdata content => [.leaf (.cdata content)]
  | .text content => [.leaf (.text content)]

def tokensAll : List Node → List Token
  | [] => []
  | node :: rest => tokens node ++ tokensAll rest

end

theorem isNameStart_apart (isStart : isNameStart c = true) : c ≠ '>' ∧ c ≠ '/' ∧ c ≠ '!' := by
  refine ⟨?_, ?_, ?_⟩
  all_goals
    rintro rfl
    revert isStart
    decide

theorem isNameChar_apart (isInside : isNameChar c = true) : c ≠ '>' := by
  rintro rfl
  revert isInside
  decide

theorem isName_apart {name : List Char} (isName : isName name = true) : ∀ c ∈ name, c ≠ '>' := by
  cases name with
  | nil => simp
  | cons first rest =>
    obtain ⟨isStart, inside⟩ := Bool.and_eq_true_iff.1 isName
    intro c member
    obtain rfl | member := List.mem_cons.1 member
    · exact (isNameStart_apart isStart).1
    · exact isNameChar_apart (List.all_eq_true.1 inside c member)

theorem scan_markup {read name : List Char} (apart : ∀ c ∈ name, c ≠ '>')
    (notSection : (read ++ name).head? ≠ some '!') (tail : List Char) : scan (.markup read) (name ++ '>' :: tail) =
      (do return (← tagToken (read ++ name)) :: (← scan (.content []) tail)) := by
  induction name generalizing read with
  | nil => rw [List.nil_append, scan, if_pos rfl, List.append_nil]
  | cons c rest ih =>
    have notStart : ¬ '<' :: read ++ [c] = cdataStart := by
      intro same
      have begins : read ++ [c] = ['!', '[', 'C', 'D', 'A', 'T', 'A', '['] := (List.cons.inj same).2
      apply notSection
      rw [List.append_cons, begins]
      rfl
    rw [List.append_cons read c rest] at notSection ⊢
    rw [List.cons_append, scan, if_neg (apart c List.mem_cons_self), if_neg notStart]
    exact ih (fun other member => apart other (List.mem_cons_of_mem c member)) notSection

theorem not_cdataEnd {read : List Char} (apart : c ≠ '>') : ¬cdataEnd <:+ read ++ [c] := by
  rintro ⟨front, same⟩
  have last := congrArg List.getLast? same
  simp [cdataEnd] at last
  exact apart last.symm

theorem scan_section {read content : List Char} (legal : (read ++ content).all isChar = true)
    (closed : ¬cdataEnd <:+: read ++ content) (tail : List Char) :
    scan (.section read) (content ++ (cdataEnd ++ tail)) =
      (do return .leaf (.cdata (String.ofList (read ++ content))) :: (← scan (.content []) tail)) := by
  induction content generalizing read with
  | nil =>
    rw [List.append_nil] at legal ⊢
    have isEnd : cdataEnd <:+ (read ++ [']'] ++ [']']) ++ ['>'] := ⟨read, by simp [cdataEnd]⟩
    have content : ((read ++ [']'] ++ [']']) ++ ['>']).take ((read ++ [']'] ++ [']']).length - 2) = read := by
      simp
    change scan (.section read) (']' :: ']' :: '>' :: tail) = _
    rw [scan, if_neg (not_cdataEnd (by decide)), scan, if_neg (not_cdataEnd (by decide)), scan, if_pos isEnd,
      content, if_pos legal]
  | cons c rest ih =>
    have notEnd : ¬cdataEnd <:+ read ++ [c] := by
      intro isEnd
      apply closed
      rw [List.append_cons]
      exact isEnd.isInfix.trans (List.prefix_append _ _).isInfix
    rw [List.cons_append, scan, if_neg notEnd]
    rw [List.append_cons read c rest] at legal closed ⊢
    exact ih legal closed

theorem scan_text {read content : List Char} (plain : ∀ c ∈ content, c ≠ '<') (tail : List Char) :
    scan (.content read) (content ++ '<' :: tail) =
      (do return (← textTokens (read ++ content)) ++ (← scan (.markup []) tail)) := by
  induction content generalizing read with
  | nil => rw [List.nil_append, scan, if_pos rfl, List.append_nil]
  | cons c rest ih =>
    rw [List.cons_append, scan, if_neg (plain c List.mem_cons_self), List.append_cons read c rest]
    exact ih fun other member => plain other (List.mem_cons_of_mem c member)

theorem scan_leaf {content : String} (wellFormed : WellFormed (.text content)) (tail : List Char) :
    scan (.content []) (content.toList ++ '<' :: tail) =
      (scan (.content []) ('<' :: tail)).map fun rest => .leaf (.text content) :: rest := by
  obtain ⟨filled, plain, closed⟩ := wellFormed
  have opened : scan (.content []) ('<' :: tail) =
      (scan (.markup []) tail).bind fun found => some ([] ++ found) := rfl
  have isText : textTokens content.toList = some [.leaf (.text content)] := by
    have legal : (content.toList.all fun c => isChar c && c ≠ '&') = true := by
      apply List.all_eq_true.2
      intro c member
      obtain ⟨isLegal, -, notReference⟩ := plain c member
      exact Bool.and_eq_true_iff.2 ⟨isLegal, decide_eq_true notReference⟩
    rw [textTokens, if_neg filled, if_pos ⟨legal, closed⟩, String.ofList_toList]
  have read := @scan_text [] content.toList (fun c member => (plain c member).2.1) tail
  rw [read, opened, List.nil_append, isText]
  cases scan (.markup []) tail with
  | none | some rest => rfl

theorem renderAll_markup (notText : ∀ node ∈ nodes.head?, node.isText = false) (tail : List Char) :
    ∃ more, renderAll nodes ++ '<' :: tail = '<' :: more := by
  cases nodes with
  | nil => exact ⟨tail, rfl⟩
  | cons node rest =>
    have notText := notText node rfl
    cases node with
    | element name children | cdata content => exact ⟨_, rfl⟩
    | text content => cases notText

theorem scan_cdata {content : List Char} (legal : content.all isChar = true)
    (closed : ¬cdataEnd <:+: content) (tail : List Char) :
    scan (.content []) (cdataStart ++ content ++ cdataEnd ++ tail) =
      (scan (.content []) tail).map fun rest => .leaf (.cdata (String.ofList content)) :: rest := by
  have opened : ∀ rest, scan (.content []) (cdataStart ++ rest) = scan (.section []) rest := by
    intro rest
    have started : scan (.content []) (cdataStart ++ rest) =
        (scan (.section []) rest).bind fun found => some ([] ++ found) := rfl
    rw [started]
    cases scan (.section []) rest with
    | none | some found => rfl
  have section_ := @scan_section [] content legal closed tail
  rw [List.append_assoc, List.append_assoc, opened, section_, List.nil_append]
  cases scan (.content []) tail with
  | none | some rest => rfl

theorem scan_tag {tag : List Char} {token : Token} (isTag : tagToken tag = some token)
    (apart : ∀ c ∈ tag, c ≠ '>') (notSection : tag.head? ≠ some '!') (tail : List Char) :
    scan (.content []) ('<' :: (tag ++ '>' :: tail)) = (scan (.content []) tail).map fun rest => token :: rest := by
  have opened : scan (.content []) ('<' :: (tag ++ '>' :: tail)) =
      (scan (.markup []) (tag ++ '>' :: tail)).bind fun found => some ([] ++ found) := rfl
  have markup := @scan_markup [] tag apart notSection tail
  rw [opened, markup, List.nil_append, isTag]
  cases scan (.content []) tail with
  | none | some rest => rfl

theorem scan_element {name : String} {children : List Node} (isName_ : isName name.toList = true)
    (inner : ∀ tail, scan (.content []) (renderAll children ++ '<' :: tail) =
      (scan (.content []) ('<' :: tail)).map fun rest => tokensAll children ++ rest) (tail : List Char) :
    scan (.content []) (render (.element name children) ++ tail) =
      (scan (.content []) tail).map fun rest => tokens (.element name children) ++ rest := by
  have notSlash : tagToken name.toList = some (.start name) := by
    cases isText : name.toList with
    | nil =>
      rw [isText] at isName_
      cases isName_
    | cons first rest =>
      rw [isText] at isName_
      have isStart := (Bool.and_eq_true_iff.1 isName_).1
      rw [tagToken, if_neg (isNameStart_apart isStart).2.1, startToken, if_pos isName_, ← isText,
        String.ofList_toList]
  have slash : tagToken ('/' :: name.toList) = some (.finish name) := by
    rw [tagToken, if_pos rfl, if_pos isName_, String.ofList_toList]
  have notSection : name.toList.head? ≠ some '!' := by
    cases isText : name.toList with
    | nil => simp
    | cons first rest =>
      rw [isText] at isName_
      have isStart := (Bool.and_eq_true_iff.1 isName_).1
      simpa using (isNameStart_apart isStart).2.2
  have apart := isName_apart isName_
  have apartSlash : ∀ c ∈ '/' :: name.toList, c ≠ '>' := by
    intro c member
    obtain rfl | member := List.mem_cons.1 member
    · decide
    · exact apart c member
  have split : render (.element name children) ++ tail =
      '<' :: (name.toList ++ '>' :: (renderAll children ++ '<' :: (('/' :: name.toList) ++ '>' :: tail))) := by
    simp [render]
  rw [split, scan_tag notSlash apart notSection, inner, scan_tag slash apartSlash (by simp)]
  cases scan (.content []) tail with
  | none => rfl
  | some rest => simp [tokens]

mutual

theorem scan_render (node : Node) (wellFormed : WellFormed node) (notText : node.isText = false) (tail : List Char) :
    scan (.content []) (render node ++ tail) = (scan (.content []) tail).map fun rest => tokens node ++ rest := by
  cases node with
  | element name children =>
    obtain ⟨isName_, inside, apart⟩ := wellFormed
    exact scan_element isName_ (scan_renderAll children inside apart) tail
  | cdata content =>
    obtain ⟨legal, closed⟩ := wellFormed
    rw [render, scan_cdata (List.all_eq_true.2 legal) closed, String.ofList_toList]
    rfl
  | text content => cases notText

theorem scan_renderAll (nodes : List Node) (wellFormed : AllWellFormed nodes) (apart : nodes.IsChain Apart)
    (tail : List Char) : scan (.content []) (renderAll nodes ++ '<' :: tail) =
      (scan (.content []) ('<' :: tail)).map fun rest => tokensAll nodes ++ rest := by
  cases nodes with
  | nil => simp [renderAll, tokensAll]
  | cons node rest =>
    obtain ⟨first, others⟩ := wellFormed
    have remaining := scan_renderAll rest others apart.tail tail
    rw [renderAll, List.append_assoc]
    cases isText : node.isText with
    | false =>
      rw [scan_render node first isText, remaining, Option.map_map]
      simp [tokensAll, Function.comp_def]
    | true =>
      have notText : ∀ next ∈ rest.head?, next.isText = false := by
        intro next isNext
        have between := (List.isChain_cons.1 apart).1 next isNext
        exact Bool.eq_false_iff.2 fun nextText => between.2 ⟨isText, nextText⟩
      obtain ⟨more, follows⟩ := renderAll_markup notText tail
      cases node with
      | text content =>
        rw [render, follows, scan_leaf first, ← follows, remaining, Option.map_map]
        rfl
      | element name children | cdata content => cases isText

end

mutual

theorem build_tokens (node : Node) (rest : List Token) (name : String) (children : List Node)
    (outer : List (String × List Node)) : build (tokens node ++ rest) ((name, children) :: outer) =
      build rest ((name, children ++ [node]) :: outer) := by
  cases node with
  | element inner nested =>
    rw [tokens, List.cons_append, List.append_assoc, build, build_tokensAll nested, List.nil_append]
    exact if_pos rfl
  | cdata content | text content => rfl

theorem build_tokensAll (nodes : List Node) (rest : List Token) (name : String) (children : List Node)
    (outer : List (String × List Node)) : build (tokensAll nodes ++ rest) ((name, children) :: outer) =
      build rest ((name, children ++ nodes) :: outer) := by
  cases nodes with
  | nil => rw [tokensAll, List.nil_append, List.append_nil]
  | cons node others =>
    rw [tokensAll, List.append_assoc, build_tokens node, build_tokensAll others, List.append_assoc]
    rfl

end

theorem conforming_parse : Conforming parse := by
  intro name children wellFormed
  have scanned := scan_render (.element name children) wellFormed rfl []
  have whole : scan (.content []) [] = some [] := rfl
  rw [List.append_nil, whole, Option.map_some, List.append_nil] at scanned
  have built : build (tokens (.element name children)) [] = some (.element name children) := by
    rw [tokens, build, build_tokensAll, List.nil_append]
    exact if_pos ⟨rfl, rfl⟩
  rw [parse, String.toList_ofList, scanned, Option.bind_some, built, Option.map_some]

end OpenNebula.Library.Xml
