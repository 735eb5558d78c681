import OpenNebula.Common.Template
import OpenNebula.Library.Xml

namespace OpenNebula.Common

open Library

/-! # Templates as XML (`Template::to_xml`, `Template::from_xml`)

Objects are stored as XML.  Values are written as sections of character data without a look at
what they contain, and attributes that are read go through the constructor again.
-/

def attributeName (aname : String) : String :=
  if (aname.toList.head?.any fun c => !(c.isAlpha || c = '_')) || "XML".toList.isPrefixOf aname.toList then
    "ONE_" ++ aname.toUpper
  else aname.toUpper

def escapeXml (value : String) : String := "<![CDATA[" ++ value ++ "]]>"

def xmlElement (name content : String) : String := "<" ++ name ++ ">" ++ content ++ "</" ++ name ++ ">"

/-- The order of a map -/
def VectorAttribute.sorted (attr : VectorAttribute) : List (Σ _ : String, String) :=
  attr.entries.insertionSort fun first second => first.1 ≤ second.1

def VectorAttribute.toXml (name : String) (attr : VectorAttribute) : String :=
  xmlElement name (String.join (attr.sorted.map fun row =>
    if row.1.isEmpty then "" else xmlElement row.1 (escapeXml row.2)))

def Attribute.toXml (name : String) : Attribute → String
  | .single value => xmlElement name (escapeXml value)
  | .vector attr => attr.toXml name

namespace Template

/-- The order of a multimap -/
def sorted (tmpl : Template) : List (String × Attribute) :=
  tmpl.attributes.insertionSort fun first second => first.1 ≤ second.1

def toXml (xmlRoot : String) (tmpl : Template) : String :=
  xmlElement xmlRoot (String.join (tmpl.sorted.map fun row => row.2.toXml row.1))

def singleXmlAtt : Xml.Node → Option (String × Attribute)
  | .element name [.text content] => some (attributeName name, .single content)
  | .element name [.cdata content] => some (attributeName name, .single content)
  | _ => none

/-- One turn of the loop of `vector_xml_att`: the first child of the element is looked at. -/
def readSub (attr : VectorAttribute) : Xml.Node → VectorAttribute
  | .element name (.text content :: _) => attr.replace name content
  | .element name (.cdata content :: _) => attr.replace name content
  | _ => attr

def isElement : Xml.Node → Bool
  | .element .. => true
  | .cdata _ | .text _ => false

def vectorXmlAtt : Xml.Node → Option (String × Attribute)
  | .element name children =>
    match children.dropWhile fun child => !isElement child with
    | [] => none
    | first :: rest => some (attributeName name, .vector ((first :: rest).foldl readSub ∅))
  | .cdata _ | .text _ => none

def setMode (replaceMode : Bool) (tmpl : Template) (row : String × Attribute) : Template :=
  if replaceMode then (tmpl.erase row.1).set row else tmpl.set row

def rebuildAttributes (replaceMode : Bool) : Xml.Node → Template
  | .element _ children =>
    (children.filterMap fun child => singleXmlAtt child <|> vectorXmlAtt child).foldl (setMode replaceMode) {}
  | .cdata _ | .text _ => {}

def fromXml (parse : String → Option Xml.Node) (replaceMode : Bool) (text : String) : Option Template :=
  (parse text).map (rebuildAttributes replaceMode)

end Template

def Attribute.Same : Attribute → Attribute → Prop
  | .single first, .single second => first = second
  | .vector first, .vector second => ∀ name, first.lookup name = second.lookup name
  | .single _, .vector _ => False
  | .vector _, .single _ => False

def Attribute.values : Attribute → List String
  | .single value => [value]
  | .vector attr => attr.entries.map Sigma.snd

namespace Template

def named (tmpl : Template) (name : String) : List Attribute :=
  (tmpl.attributes.filter fun row => row.1 = name).map Prod.snd

def Same (first second : Template) : Prop :=
  ∀ name, List.Forall₂ Attribute.Same (first.named name) (second.named name)

def values (tmpl : Template) : List String := tmpl.attributes.flatMap fun row => row.2.values

structure Storable (xmlRoot : String) (replaceMode : Bool) (tmpl : Template) : Prop where
  root : Xml.isName xmlRoot.toList = true
  names : ∀ row ∈ tmpl.attributes, Xml.isName row.1.toList = true
  given : ∀ row ∈ tmpl.attributes, ∃ aname, row.1 = attributeName aname
  vectors : ∀ name attr, (name, Attribute.vector attr) ∈ tmpl.attributes →
    attr.entries ≠ [] ∧ ∀ sub ∈ attr.entries, Xml.isName sub.1.toList = true
  legal : ∀ value ∈ tmpl.values, value.toList.all Xml.isChar = true
  replaced : replaceMode = true → (tmpl.attributes.map Prod.fst).Nodup

/-- What is read is what was stored. -/
def RoundTrips (parse : String → Option Xml.Node) (xmlRoot : String) (replaceMode : Bool) (tmpl : Template) : Prop :=
  ∃ loaded, fromXml parse replaceMode (tmpl.toXml xmlRoot) = some loaded ∧ tmpl.Same loaded

/-- Sections are written as they should be. -/
def Closed (tmpl : Template) : Prop := ∀ value ∈ tmpl.values, ¬Xml.cdataEnd <:+: value.toList

/-- No value has a carriage return, and no name begins with `XML`. -/
structure Plain (tmpl : Template) : Prop where
  lines : ∀ value ∈ tmpl.values, '\r' ∉ value.toList
  names : ∀ row ∈ tmpl.attributes, ¬"XML".toList <+: row.1.toList

end Template

end OpenNebula.Common
