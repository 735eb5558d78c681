import OpenNebula.Library.Streams
import OpenNebula.Library.Xml

namespace OpenNebula.Common

open Library

/-! # Documents by path (`ObjectXML`)

Objects are read with absolute paths.  Only the first node counts for a value, and the default
takes its place when there is none.
-/

namespace ObjectXml

def named (name : String) (nodes : List Xml.Node) : List Xml.Node :=
  nodes.filter fun node =>
    match node with
    | .element held _ => held = name
    | .cdata _ | .text _ => false

def children : Xml.Node → List Xml.Node
  | .element _ children => children
  | .cdata _ | .text _ => []

def getNodes (root : Xml.Node) : List String → List Xml.Node
  | [] => []
  | name :: path => path.foldl (fun nodes name => named name (nodes.flatMap children)) (named name [root])

mutual

def content : Xml.Node → String
  | .element _ children => contents children
  | .cdata text => text
  | .text text => text

def contents : List Xml.Node → String
  | [] => ""
  | node :: rest => content node ++ contents rest

end

section

variable (root : Xml.Node)

section

variable (path : List String)

def xpaths : List String := (getNodes root path).map content

def xpath (default_ : String) : String × Bool :=
  match xpaths root path with
  | [] => (default_, false)
  | value :: _ => (value, true)

def xpathInt (default_ : Int) : Int × Bool :=
  match xpaths root path with
  | [] => (default_, false)
  | text :: _ =>
    match extracted .int text with
    | none => (default_, false)
    | some value => (value, true)

def xpathTime (default_ : Int) : Int × Bool :=
  match xpaths root path with
  | [] => (default_, false)
  | text :: _ =>
    let (value, stream) := Stream.readLong ⟨text.toList, false⟩ 10 default_
    if stream.failed then (default_, false) else (value, true)

end

end

variable {root : Xml.Node} {path : List String}

variable {node : Xml.Node} {rest : List Xml.Node}

section

variable (found : getNodes root path = node :: rest)
include found

theorem xpath_of_node (default_ : String) :
    xpath root path default_ = (content node, true) := by
  rw [xpath, xpaths, found, List.map_cons]

theorem xpathInt_of_node {value : Int}
    (isText : content node = toString value) (low : -2 ^ 31 ≤ value) (high : value < 2 ^ 31) (default_ : Int) :
    xpathInt root path default_ = (value, true) := by
  rw [xpathInt, xpaths, found, List.map_cons, isText]
  dsimp only
  rw [extracted_toString low high]

theorem xpathTime_of_node {value : Int}
    (isText : content node = toString value) (low : -2 ^ 63 ≤ value) (high : value < 2 ^ 63) (default_ : Int) :
    xpathTime root path default_ = (value, true) := by
  rw [xpathTime, xpaths, found, List.map_cons, isText]
  dsimp only
  rw [Stream.readLong_toString low high]
  rfl

end

end ObjectXml

end OpenNebula.Common
