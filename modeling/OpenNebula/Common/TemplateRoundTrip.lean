import OpenNebula.Common.TemplateXml

namespace OpenNebula.Common

open Library

/-! # What is stored as XML and read again

A template is read back unless a value ends the section it is in, a value has a carriage return,
or a name changes when it goes through the constructor again.
-/

theorem toNat_toUpper (c : Char) :
    c.toUpper.toNat = if 97 ≤ c.toNat ∧ c.toNat ≤ 122 then c.toNat - 32 else c.toNat := by
  have range : ('a'.val ≤ c.val ∧ c.val ≤ 'z'.val) ↔ (97 ≤ c.toNat ∧ c.toNat ≤ 122) := Iff.rfl
  unfold Char.toUpper
  split
  · rename_i isLower
    rw [if_pos (range.1 isLower)]
    have small := range.1 isLower
    change (c.val + ('A'.val - 'a'.val)).toNat = c.toNat - 32
    rw [UInt32.toNat_add]
    change (c.toNat + 4294967264) % 4294967296 = c.toNat - 32
    omega
  · rename_i notLower
    rw [if_neg (mt range.2 notLower)]

theorem toUpper_toUpper (c : Char) : c.toUpper.toUpper = c.toUpper := by
  apply Char.toNat_inj.1
  rw [toNat_toUpper c.toUpper]
  have upper := toNat_toUpper c
  split at upper
  · rw [if_neg (by omega)]
  · rw [if_neg (by omega)]

theorem isAlpha_iff (c : Char) : c.isAlpha = true ↔ (65 ≤ c.toNat ∧ c.toNat ≤ 90) ∨ (97 ≤ c.toNat ∧ c.toNat ≤ 122) := by
  have bounds : c.isAlpha =
      (decide (c.val ≥ 'A'.val ∧ c.val ≤ 'Z'.val) || (c.val ≥ 'a'.val && c.val ≤ 'z'.val)) := rfl
  simp only [bounds, Bool.or_eq_true, Bool.and_eq_true, decide_eq_true_eq]
  rfl

theorem isAlpha_toUpper (c : Char) : c.toUpper.isAlpha = c.isAlpha := by
  rw [Bool.eq_iff_iff, isAlpha_iff, isAlpha_iff, toNat_toUpper]
  split <;> omega

theorem toList_toUpper (text : String) : text.toUpper.toList = text.toList.map Char.toUpper :=
  String.toList_map

theorem attributeName_given (aname : String) :
    ((attributeName aname).toList.head?.any fun c => !(c.isAlpha || c = '_')) = false ∧
      (attributeName aname).toUpper = attributeName aname := by
  have twice : aname.toUpper.toUpper = aname.toUpper := by
    rw [← String.toList_inj, toList_toUpper, toList_toUpper, List.map_map]
    exact List.map_congr_left fun c _ => toUpper_toUpper c
  unfold attributeName
  split
  · constructor
    · rw [String.toList_append]
      rfl
    · rw [← String.toList_inj, toList_toUpper, String.toList_append, List.map_append,
        ← toList_toUpper aname.toUpper, twice]
      rfl
  · rename_i fine
    refine ⟨?_, twice⟩
    rw [toList_toUpper]
    cases isText : aname.toList with
    | nil => rfl
    | cons first rest =>
      simp only [isText, List.head?_cons, Option.any_some, Bool.or_eq_true, not_or, Bool.not_eq_true] at fine
      obtain ⟨begins, -⟩ := fine
      simp only [List.map_cons, List.head?_cons, Option.any_some, isAlpha_toUpper]
      by_cases isAlpha : first.isAlpha = true
      · simp [isAlpha]
      · have underscore : first = '_' := by simpa [isAlpha] using begins
        subst underscore
        rfl

/-- Only the names that begin with `XML` change when they are read. -/
theorem attributeName_again (aname : String) : attributeName (attributeName aname) =
      if "XML".toList <+: (attributeName aname).toList then "ONE_" ++ attributeName aname
      else attributeName aname := by
  obtain ⟨begins, upper⟩ := attributeName_given aname
  conv_lhs => rw [attributeName]
  rw [begins, Bool.false_or, upper]
  simp only [List.isPrefixOf_iff_prefix]

variable {name : String}

theorem attributeName_stable {aname : String} (given : name = attributeName aname) :
    attributeName name = name ↔ ¬"XML".toList <+: name.toList := by
  subst given
  rw [attributeName_again]
  split
  · rename_i isXml
    constructor
    · intro same
      have lengths := congrArg (fun text => text.toList.length) same
      simp at lengths
      omega
    · intro notXml
      exact absurd isXml notXml
  · rename_i notXml
    exact ⟨fun _ => notXml, fun _ => rfl⟩

theorem attributeName_read {aname : String} (given : name = attributeName aname) :
    ¬"XML".toList <+: (attributeName name).toList := by
  subst given
  rw [attributeName_again]
  split
  · rw [String.toList_append]
    rintro ⟨rest, same⟩
    simp at same
  · assumption

def Attribute.node (name : String) : Attribute → Xml.Node
  | .single value => .element name [.cdata value]
  | .vector attr => .element name (attr.sorted.map fun row => .element row.1 [.cdata row.2])

namespace Template

def document (xmlRoot : String) (tmpl : Template) : Xml.Node :=
  .element xmlRoot (tmpl.sorted.map fun row => row.2.node row.1)

end Template

theorem toList_xmlElement {content : String} {children : List Xml.Node}
    (same : content.toList = Xml.renderAll children) :
    (xmlElement name content).toList = Xml.render (.element name children) := by
  simp [xmlElement, Xml.render, same]

theorem toList_escapeXml (value : String) : (escapeXml value).toList = Xml.renderAll [.cdata value] := by
  simp [escapeXml, Xml.renderAll, Xml.render, Xml.cdataStart, Xml.cdataEnd]

theorem VectorAttribute.mem_sorted {attr : VectorAttribute} {row : Σ _ : String, String} :
    row ∈ attr.sorted ↔ row ∈ attr.entries :=
  List.mem_insertionSort _

theorem Template.mem_sorted {tmpl : Template} {row : String × Attribute} :
    row ∈ tmpl.sorted ↔ row ∈ tmpl.attributes :=
  List.mem_insertionSort _

theorem Attribute.toList_toXml {held : Attribute}
    (filled : ∀ attr, held = .vector attr → ∀ sub ∈ attr.entries, Xml.isName sub.1.toList = true) :
    (held.toXml name).toList = Xml.render (held.node name) := by
  cases held with
  | single value => exact toList_xmlElement (toList_escapeXml value)
  | vector attr =>
    apply toList_xmlElement
    rw [String.toList_join, Xml.renderAll_eq, List.flatMap_map, List.flatMap_map]
    apply List.flatMap_congr
    intro row member
    have isName := filled attr rfl row (VectorAttribute.mem_sorted.1 member)
    have notEmpty : row.1.isEmpty = false := by
      rw [Bool.eq_false_iff]
      intro isEmpty
      rw [String.isEmpty_iff.1 isEmpty] at isName
      cases isName
    rw [notEmpty]
    exact toList_xmlElement (toList_escapeXml row.2)

namespace Template

variable {tmpl : Template} {xmlRoot : String} {replaceMode : Bool}

theorem toXml_eq (storable : tmpl.Storable xmlRoot replaceMode) :
    tmpl.toXml xmlRoot = String.ofList (Xml.render (tmpl.document xmlRoot)) := by
  rw [← String.toList_inj, String.toList_ofList]
  apply toList_xmlElement
  rw [String.toList_join, Xml.renderAll_eq, List.flatMap_map, List.flatMap_map]
  apply List.flatMap_congr
  intro row member
  apply Attribute.toList_toXml
  intro attr isVector
  have stored := mem_sorted.1 member
  rw [← Prod.mk.eta (p := row), isVector] at stored
  exact (storable.vectors row.1 attr stored).2

theorem mem_values {row : String × Attribute} {value : String} (member : row ∈ tmpl.attributes)
    (inside : value ∈ row.2.values) : value ∈ tmpl.values :=
  List.mem_flatMap.2 ⟨row, member, inside⟩

theorem wellFormed_document (storable : tmpl.Storable xmlRoot replaceMode) (closed : tmpl.Closed) :
    Xml.WellFormed (tmpl.document xmlRoot) := by
  have section_ : ∀ row ∈ tmpl.attributes, ∀ value ∈ row.2.values, Xml.WellFormed (.cdata value) := by
    intro row member value inside
    have isValue := mem_values member inside
    exact ⟨List.all_eq_true.1 (storable.legal value isValue), closed value isValue⟩
  refine ⟨storable.root, ?_, ?_⟩
  · rw [Xml.allWellFormed_iff]
    intro node isNode
    obtain ⟨row, member, rfl⟩ := List.mem_map.1 isNode
    have member := mem_sorted.1 member
    have isName := storable.names row member
    obtain ⟨name, held⟩ := row
    cases held with
    | single value =>
      exact ⟨isName, ⟨section_ _ member value List.mem_cons_self, trivial⟩, List.isChain_singleton _⟩
    | vector attr =>
      refine ⟨isName, ?_, ?_⟩
      · rw [Xml.allWellFormed_iff]
        intro child isChild
        obtain ⟨sub, isSub, rfl⟩ := List.mem_map.1 isChild
        have isSub := VectorAttribute.mem_sorted.1 isSub
        have value := section_ _ member sub.2 (List.mem_map_of_mem isSub)
        exact ⟨(storable.vectors name attr member).2 sub isSub, ⟨value, trivial⟩, List.isChain_singleton _⟩
      · apply Xml.isChain_apart
        intro child isChild
        obtain ⟨sub, -, rfl⟩ := List.mem_map.1 isChild
        exact ⟨rfl, rfl⟩
  · apply Xml.isChain_apart
    intro node isNode
    obtain ⟨⟨name, held⟩, -, rfl⟩ := List.mem_map.1 isNode
    cases held with
    | single value | vector attr => exact ⟨rfl, rfl⟩

end Template

def unix (value : String) : String := String.ofList (Xml.lineEnds value.toList)

theorem unix_eq_self {value : String} : unix value = value ↔ '\r' ∉ value.toList := by
  rw [unix, ← Xml.lineEnds_eq_self, ← String.toList_inj, String.toList_ofList]

def VectorAttribute.unix (attr : VectorAttribute) : VectorAttribute :=
  attr.sorted.foldl (fun held sub => held.replace sub.1 (Common.unix sub.2)) ∅

def Attribute.unix : Attribute → Attribute
  | .single value => .single (Common.unix value)
  | .vector attr => .vector attr.unix

theorem lookup_foldl_replace {subs : List (Σ _ : String, String)} (nodup : subs.NodupKeys)
    (attr : VectorAttribute) (name : String) :
    (subs.foldl (fun held sub => held.replace sub.1 (unix sub.2)) attr).lookup name = match subs.dlookup name with
      | none => attr.lookup name
      | some value => some (unix value) := by
  induction subs generalizing attr with
  | nil => simp
  | cons sub rest ih =>
    obtain ⟨other, value⟩ := sub
    obtain ⟨absent, nodupRest⟩ := List.nodupKeys_cons.1 nodup
    rw [List.foldl_cons, ih nodupRest, VectorAttribute.replace, Map.lookup_insert_eq]
    by_cases same : name = other
    · subst same
      simp [List.dlookup_eq_none.2 absent]
    · rw [if_neg same, List.dlookup_cons_ne rest ⟨other, value⟩ same]

theorem VectorAttribute.lookup_unix (attr : VectorAttribute) (name : String) :
    attr.unix.lookup name = (attr.lookup name).map Common.unix := by
  have perm : attr.sorted.Perm attr.entries := List.perm_insertionSort _ _
  have nodup : attr.sorted.NodupKeys := (List.perm_nodupKeys perm).2 attr.nodupKeys
  rw [VectorAttribute.unix, lookup_foldl_replace nodup, List.perm_dlookup name nodup perm]
  change _ = (attr.entries.dlookup name).map Common.unix
  cases attr.entries.dlookup name with
  | none | some value => rfl

theorem Attribute.same_unix {held : Attribute} :
    Attribute.Same held held.unix ↔ ∀ value ∈ held.values, '\r' ∉ value.toList := by
  cases held with
  | single value =>
    simp only [Attribute.Same, Attribute.unix, Attribute.values, List.mem_singleton, forall_eq]
    rw [← unix_eq_self]
    exact eq_comm
  | vector attr =>
    simp only [Attribute.Same, Attribute.unix, Attribute.values, List.mem_map]
    constructor
    · rintro same value ⟨sub, member, rfl⟩
      have lookup := same sub.1
      have found := Map.mem_entries_iff.1 member
      rw [VectorAttribute.lookup_unix, found, Option.map_some] at lookup
      exact unix_eq_self.1 (Option.some.inj lookup).symm
    · intro plain name
      rw [VectorAttribute.lookup_unix]
      cases found : attr.lookup name with
      | none => rfl
      | some value =>
        have member := Map.mem_entries_iff.2 found
        rw [Option.map_some, unix_eq_self.2 (plain value ⟨_, member, rfl⟩)]

namespace Template

variable {tmpl : Template} {xmlRoot : String} {replaceMode : Bool} {parse : String → Option Xml.Node}

variable {held : Attribute} {first second : Template}

theorem read_node {name : String} (filled : ∀ attr, held = .vector attr → attr.entries ≠ []) :
    (singleXmlAtt (Xml.normalize (held.node name)) <|> vectorXmlAtt (Xml.normalize (held.node name))) =
      some (attributeName name, held.unix) := by
  cases held with
  | single value => rfl
  | vector attr =>
    have notEmpty : attr.sorted ≠ [] := by
      intro isEmpty
      apply filled attr rfl
      have perm : attr.sorted.Perm attr.entries := List.perm_insertionSort _ _
      rw [isEmpty] at perm
      exact List.nil_perm.1 perm
    have elements : Xml.normalize (Attribute.node name (.vector attr)) =
        .element name (attr.sorted.map fun row => .element row.1 [.cdata (unix row.2)]) := by
      rw [Attribute.node, Xml.normalize, Xml.normalizeAll_eq, List.map_map]
      rfl
    have unixed : attr.unix =
        (attr.sorted.map fun row => Xml.Node.element row.1 [.cdata (unix row.2)]).foldl readSub ∅ := by
      rw [List.foldl_map]
      rfl
    rw [elements, Attribute.unix, unixed]
    cases isSorted : attr.sorted with
    | nil => exact absurd isSorted notEmpty
    | cons first rest => rfl

def readRows (tmpl : Template) : List (String × Attribute) :=
  tmpl.sorted.map fun row => (attributeName row.1, row.2.unix)

theorem rebuild_document (storable : tmpl.Storable xmlRoot replaceMode) :
    rebuildAttributes replaceMode (Xml.normalize (tmpl.document xmlRoot)) =
      tmpl.readRows.foldl (setMode replaceMode) {} := by
  rw [document, Xml.normalize, Xml.normalizeAll_eq, rebuildAttributes, List.map_map, List.filterMap_map]
  have rows : tmpl.sorted.filterMap ((fun child => singleXmlAtt child <|> vectorXmlAtt child) ∘
      Xml.normalize ∘ fun row => row.2.node row.1) = tmpl.readRows := by
    rw [readRows, ← List.filterMap_eq_map]
    apply List.filterMap_congr
    intro row member
    apply read_node
    intro attr isVector
    have stored := mem_sorted.1 member
    rw [← Prod.mk.eta (p := row), isVector] at stored
    exact (storable.vectors row.1 attr stored).1
  rw [rows]

theorem fromXml_toXml (storable : tmpl.Storable xmlRoot replaceMode) (closed : tmpl.Closed)
    (conforming : Xml.Conforming parse) :
    fromXml parse replaceMode (tmpl.toXml xmlRoot) = some (tmpl.readRows.foldl (setMode replaceMode) {}) := by
  have parsed : parse (tmpl.toXml xmlRoot) = some (Xml.normalize (tmpl.document xmlRoot)) := by
    rw [toXml_eq storable]
    exact conforming _ _ (wellFormed_document storable closed)
  rw [fromXml, parsed, Option.map_some, rebuild_document storable]

theorem foldl_setMode {rows : List (String × Attribute)} (start : Template)
    (nodup : replaceMode = true → ((start.attributes ++ rows).map Prod.fst).Nodup) :
    rows.foldl (setMode replaceMode) start = ⟨start.attributes ++ rows⟩ := by
  induction rows generalizing start with
  | nil => rw [List.append_nil, List.foldl_nil]
  | cons row rest ih =>
    have added : setMode replaceMode start row = ⟨start.attributes ++ [row]⟩ := by
      unfold setMode
      split
      · rename_i replaces
        have names := nodup replaces
        rw [List.map_append, List.map_cons, List.nodup_append] at names
        have kept : start.attributes.filter (fun other => other.1 ≠ row.1) = start.attributes := by
          apply List.filter_eq_self.2
          intro other member
          have apart := names.2.2 other.1 (List.mem_map_of_mem member) row.1 List.mem_cons_self
          exact decide_eq_true apart
        rw [erase, kept, set]
      · rfl
    rw [List.foldl_cons, added, ih, List.append_assoc]
    · rfl
    · intro replaces
      have names := nodup replaces
      rwa [List.append_cons] at names

theorem mem_foldl_setMode {rows : List (String × Attribute)} {start : Template} {row : String × Attribute}
    (member : row ∈ (rows.foldl (setMode replaceMode) start).attributes) : row ∈ start.attributes ∨ row ∈ rows := by
  induction rows generalizing start with
  | nil => exact .inl member
  | cons first rest ih =>
    rcases ih member with added | inside
    · have added : row ∈ start.attributes ∨ row = first := by
        unfold setMode at added
        split at added
        · rcases List.mem_append.1 added with kept | isNew
          · exact .inl (List.mem_filter.1 kept).1
          · exact .inr (List.mem_singleton.1 isNew)
        · rcases List.mem_append.1 added with kept | isNew
          · exact .inl kept
          · exact .inr (List.mem_singleton.1 isNew)
      refine added.imp id fun isFirst => ?_
      rw [isFirst]
      exact List.mem_cons_self
    · exact .inr (List.mem_cons_of_mem first inside)

theorem filter_sorted (tmpl : Template) (name : String) :
    (tmpl.sorted.filter fun row => row.1 = name) = tmpl.attributes.filter fun row => row.1 = name := by
  have sublist : (tmpl.attributes.filter fun row => row.1 = name).Sublist tmpl.sorted := by
    apply List.sublist_insertionSort
    · apply List.Pairwise.imp_of_mem (R := fun _ _ => True)
      · intro first second inFirst inSecond _
        have isFirst := of_decide_eq_true (List.mem_filter.1 inFirst).2
        have isSecond := of_decide_eq_true (List.mem_filter.1 inSecond).2
        exact le_of_eq (isFirst.trans isSecond.symm)
      · exact List.pairwise_of_forall fun _ _ => trivial
    · exact List.filter_sublist
  have kept := sublist.filter fun row => row.1 = name
  rw [List.filter_filter] at kept
  simp only [Bool.and_self] at kept
  apply (kept.eq_of_length _).symm
  exact ((List.perm_insertionSort _ tmpl.attributes).filter _).length_eq.symm

theorem named_readRows (stable : ∀ row ∈ tmpl.attributes, attributeName row.1 = row.1) (name : String) :
    named ⟨tmpl.readRows⟩ name = (tmpl.named name).map Attribute.unix := by
  have rows : tmpl.readRows = tmpl.sorted.map fun row => (row.1, row.2.unix) := by
    apply List.map_congr_left
    intro row member
    rw [stable row (mem_sorted.1 member)]
  rw [named, rows, named, List.filter_map, List.map_map, List.map_map, ← filter_sorted]
  rfl

theorem Plain.stable (plain : tmpl.Plain) (storable : tmpl.Storable xmlRoot replaceMode) :
    ∀ row ∈ tmpl.attributes, attributeName row.1 = row.1 := by
  intro row member
  obtain ⟨aname, given⟩ := storable.given row member
  exact (attributeName_stable given).2 (plain.names row member)

theorem foldl_readRows (storable : tmpl.Storable xmlRoot replaceMode)
    (stable : ∀ row ∈ tmpl.attributes, attributeName row.1 = row.1) :
    tmpl.readRows.foldl (setMode replaceMode) {} = ⟨tmpl.readRows⟩ := by
  apply foldl_setMode
  intro replaces
  have names : tmpl.readRows.map Prod.fst = tmpl.sorted.map Prod.fst := by
    rw [readRows, List.map_map]
    apply List.map_congr_left
    intro row member
    exact stable row (mem_sorted.1 member)
  have perm : (tmpl.sorted.map Prod.fst).Perm (tmpl.attributes.map Prod.fst) := (List.perm_insertionSort _ _).map _
  rw [List.nil_append, names]
  exact perm.nodup_iff.2 (storable.replaced replaces)

theorem Plain.same_read (plain : tmpl.Plain) (storable : tmpl.Storable xmlRoot replaceMode) :
    tmpl.Same (tmpl.readRows.foldl (setMode replaceMode) {}) := by
  have stable := plain.stable storable
  rw [foldl_readRows storable stable]
  intro name
  rw [named_readRows stable, List.forall₂_map_right_iff, List.forall₂_same]
  intro held isHeld
  obtain ⟨row, member, rfl⟩ := List.mem_map.1 isHeld
  apply Attribute.same_unix.2
  intro value inside
  exact plain.lines value (mem_values (List.mem_filter.1 member).1 inside)

theorem RoundTrips.names (roundTrips : tmpl.RoundTrips parse xmlRoot replaceMode)
    (storable : tmpl.Storable xmlRoot replaceMode) (closed : tmpl.Closed) (conforming : Xml.Conforming parse) :
    ∀ row ∈ tmpl.attributes, ¬"XML".toList <+: row.1.toList := by
  intro row member isXml
  obtain ⟨loaded, isLoaded, same⟩ := roundTrips
  rw [fromXml_toXml storable closed conforming] at isLoaded
  obtain rfl := Option.some.inj isLoaded
  have lengths := (same row.1).length_eq
  have stored : row ∈ tmpl.attributes.filter fun other => other.1 = row.1 :=
    List.mem_filter.2 ⟨member, decide_eq_true rfl⟩
  have positive := List.length_pos_of_mem stored
  rw [named, named, List.length_map, List.length_map] at lengths
  rw [lengths] at positive
  obtain ⟨read, isRead⟩ := List.exists_mem_of_length_pos positive
  obtain ⟨isRead, isNamed⟩ := List.mem_filter.1 isRead
  rcases mem_foldl_setMode isRead with impossible | isRead
  · cases impossible
  · obtain ⟨before, isBefore, rfl⟩ := List.mem_map.1 isRead
    obtain ⟨aname, given⟩ := storable.given before (mem_sorted.1 isBefore)
    have isNamed : attributeName before.1 = row.1 := of_decide_eq_true isNamed
    exact attributeName_read given (isNamed ▸ isXml)

/-- A template is read back, when its values do not end their sections, exactly when no value has
a carriage return and no name begins with `XML`. -/
theorem xml_round_trip (conforming : Xml.Conforming parse) (storable : tmpl.Storable xmlRoot replaceMode)
    (closed : tmpl.Closed) : tmpl.RoundTrips parse xmlRoot replaceMode ↔ tmpl.Plain := by
  have read := fromXml_toXml storable closed conforming
  constructor
  · intro roundTrips
    have names := roundTrips.names storable closed conforming
    have stable : ∀ row ∈ tmpl.attributes, attributeName row.1 = row.1 := by
      intro row member
      obtain ⟨aname, given⟩ := storable.given row member
      exact (attributeName_stable given).mpr (names row member)
    refine ⟨?_, names⟩
    intro value isValue
    obtain ⟨loaded, isLoaded, same⟩ := roundTrips
    rw [read, foldl_readRows storable stable] at isLoaded
    obtain rfl := Option.some.inj isLoaded
    obtain ⟨row, member, inside⟩ := List.mem_flatMap.mp isValue
    -- Attributes of one name are read in their order, so each is compared with itself.
    have each := same row.1
    rw [named_readRows stable, List.forall₂_map_right_iff, List.forall₂_same] at each
    have isHeld : row.2 ∈ tmpl.named row.1 := List.mem_map_of_mem (List.mem_filter.mpr ⟨member, decide_eq_true rfl⟩)
    exact Attribute.same_unix.mp (each row.2 isHeld) value inside
  · intro plain
    exact ⟨_, read, plain.same_read storable⟩

def single? : Attribute → Option String
  | .single value => some value
  | .vector _ => none

theorem singles_eq (tmpl : Template) (name : String) : tmpl.singles name = (tmpl.named name).filterMap single? := by
  rw [singles, named, List.filterMap_map, List.filterMap_filter]
  apply List.filterMap_congr
  rintro ⟨other, held⟩ -
  cases held with
  | single value | vector attr => simp [single?]

theorem filterMap_single? {first second : List Attribute} (same : List.Forall₂ Attribute.Same first second) :
    first.filterMap single? = second.filterMap single? := by
  induction same with
  | nil => rfl
  | @cons held other rest others sameHead sameRest ih =>
    cases held with
    | single value =>
      cases other with
      | single read =>
        have sameValue : value = read := sameHead
        rw [List.filterMap_cons, List.filterMap_cons, ih, sameValue]
      | vector attr => exact sameHead.elim
    | vector attr =>
      cases other with
      | single read => exact sameHead.elim
      | vector read => rw [List.filterMap_cons, List.filterMap_cons, ih]; rfl

theorem Same.get (same : first.Same second) (name : String) : second.get name = first.get name := by
  rw [Template.get, Template.get, singles_eq, singles_eq, filterMap_single? (same name)]

theorem mem_of_forall₂ {first second : List Attribute} (same : List.Forall₂ Attribute.Same first second)
    {held : Attribute} (member : held ∈ second) : ∃ other ∈ first, Attribute.Same other held := by
  induction same with
  | nil => cases member
  | @cons other head rest others sameHead sameRest ih =>
    obtain rfl | inside := List.mem_cons.1 member
    · exact ⟨other, List.mem_cons_self, sameHead⟩
    · obtain ⟨found, isFound, sameFound⟩ := ih inside
      exact ⟨found, List.mem_cons_of_mem other isFound, sameFound⟩

theorem Same.row (same : first.Same second) {name : String} (member : (name, held) ∈ second.attributes) :
    ∃ other, (name, other) ∈ first.attributes ∧ Attribute.Same other held := by
  have isNamed : held ∈ second.named name := List.mem_map_of_mem (List.mem_filter.2 ⟨member, decide_eq_true rfl⟩)
  obtain ⟨other, isOther, sameOther⟩ := mem_of_forall₂ (same name) isNamed
  obtain ⟨row, isRow, rfl⟩ := List.mem_map.1 isOther
  obtain ⟨inside, isName⟩ := List.mem_filter.1 isRow
  obtain rfl : row.1 = name := of_decide_eq_true isName
  exact ⟨row.2, inside, sameOther⟩

theorem values_of_same {other : Attribute} (same : Attribute.Same other held) {value : String}
    (inside : value ∈ held.values) : value ∈ other.values := by
  cases other with
  | single first =>
    cases held with
    | single second =>
      have sameValue : first = second := same
      rwa [sameValue]
    | vector attr => exact same.elim
  | vector attr =>
    cases held with
    | single second => exact same.elim
    | vector read =>
      have lookups : ∀ name, attr.lookup name = read.lookup name := same
      obtain ⟨sub, isSub, rfl⟩ := List.mem_map.1 inside
      have found := Map.mem_entries_iff.1 isSub
      rw [← lookups] at found
      exact List.mem_map_of_mem (Map.mem_entries_iff.2 found)

theorem Same.values (same : first.Same second) {value : String} (inside : value ∈ second.values) :
    value ∈ first.values := by
  obtain ⟨⟨name, held⟩, member, isValue⟩ := List.mem_flatMap.1 inside
  obtain ⟨other, isOther, sameOther⟩ := same.row member
  exact mem_values isOther (values_of_same sameOther isValue)

theorem Same.storable (same : tmpl.Same second) (storable : tmpl.Storable xmlRoot replaceMode) :
    second.Storable xmlRoot replaceMode := by
  refine ⟨storable.root, ?_, ?_, ?_, fun value inside => storable.legal value (same.values inside), ?_⟩
  · rintro ⟨name, held⟩ member
    obtain ⟨other, isOther, -⟩ := same.row member
    exact storable.names (name, other) isOther
  · rintro ⟨name, held⟩ member
    obtain ⟨other, isOther, -⟩ := same.row member
    exact storable.given (name, other) isOther
  · intro name attr member
    obtain ⟨other, isOther, sameOther⟩ := same.row member
    cases other with
    | single value => exact sameOther.elim
    | vector first =>
      have lookups : ∀ sub, first.lookup sub = attr.lookup sub := sameOther
      obtain ⟨filled, names⟩ := storable.vectors name first isOther
      constructor
      · obtain ⟨sub, rest, isFirst⟩ := List.exists_cons_of_ne_nil filled
        have member : sub ∈ first.entries := by rw [isFirst]; exact List.mem_cons_self
        have found := Map.mem_entries_iff.1 member
        rw [lookups] at found
        exact List.ne_nil_of_mem (Map.mem_entries_iff.2 found)
      · intro sub isSub
        have found := Map.mem_entries_iff.1 isSub
        rw [← lookups] at found
        exact names _ (Map.mem_entries_iff.2 found)
  · intro replaces
    have once := List.nodup_iff_count_le_one.1 (storable.replaced replaces)
    apply List.nodup_iff_count_le_one.2
    intro name
    have counts : ∀ template : Template,
        (template.attributes.map Prod.fst).count name = (template.named name).length := by
      intro template
      rw [named, List.length_map, List.count, List.countP_map, List.countP_eq_length_filter]
      rfl
    rw [counts, ← (same name).length_eq, ← counts]
    exact once name

theorem Same.closed (same : tmpl.Same second) (closed : tmpl.Closed) : second.Closed :=
  fun value inside => closed value (same.values inside)

theorem Same.plain (same : tmpl.Same second) (plain : tmpl.Plain) : second.Plain := by
  refine ⟨fun value inside => plain.lines value (same.values inside), ?_⟩
  rintro ⟨name, held⟩ member
  obtain ⟨other, isOther, -⟩ := same.row member
  exact plain.names (name, other) isOther

def markup : Template :=
  ⟨[("NAME", .single "]]<&"), ("NIC", .vector (Map.insertNew "NETWORK" "</NIC>" ∅)), ("NAME", .single "")]⟩

theorem markup_storable : markup.Storable "TEMPLATE" false where
  root := by decide +kernel
  names := by decide +kernel
  given := by
    intro row member
    have stable : ∀ row ∈ markup.attributes, row.1 = attributeName row.1 := by decide +kernel
    exact ⟨row.1, stable row member⟩
  vectors := by
    intro name attr member
    simp only [markup, List.mem_cons, Prod.mk.injEq, reduceCtorEq, and_false, List.not_mem_nil, or_false,
      false_or, Attribute.vector.injEq] at member
    obtain ⟨-, rfl⟩ := member
    decide +kernel
  legal := by decide +kernel
  replaced := by simp

theorem xml_round_trip_markup : markup.RoundTrips Xml.parse "TEMPLATE" false := by
  have closed : markup.Closed := by
    unfold Closed
    decide +kernel
  have plain : markup.Plain := ⟨by decide +kernel, by decide +kernel⟩
  exact (xml_round_trip Xml.conforming_parse markup_storable closed).mpr plain

/-- A value that ends its section and brings attributes of its own -/
def injecting : Template := ⟨[("A", .single "x]]></A><B><![CDATA[y]]></B><A><![CDATA[z")]⟩

/-- One value becomes three attributes. -/
theorem xml_injection : Xml.Conforming Xml.parse ∧ injecting.Storable "TEMPLATE" false ∧
    fromXml Xml.parse false (injecting.toXml "TEMPLATE") =
      some ⟨[("A", .single "x"), ("B", .single "y"), ("A", .single "z")]⟩ ∧
    ¬injecting.RoundTrips Xml.parse "TEMPLATE" false := by
  have read : fromXml Xml.parse false (injecting.toXml "TEMPLATE") =
      some ⟨[("A", .single "x"), ("B", .single "y"), ("A", .single "z")]⟩ := by decide +kernel
  refine ⟨Xml.conforming_parse, ?_, read, ?_⟩
  · constructor
    · decide +kernel
    · decide +kernel
    · intro row member
      have stable : ∀ row ∈ injecting.attributes, row.1 = attributeName row.1 := by decide +kernel
      exact ⟨row.1, stable row member⟩
    · intro name attr member
      simp [injecting] at member
    · decide +kernel
    · simp
  · rintro ⟨loaded, isLoaded, same⟩
    rw [read] at isLoaded
    obtain rfl := Option.some.inj isLoaded
    have lengths := (same "B").length_eq
    revert lengths
    decide +kernel

end Template

end OpenNebula.Common
