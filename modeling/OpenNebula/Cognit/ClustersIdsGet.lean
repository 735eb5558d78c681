import Mathlib.Data.List.Sort
import OpenNebula.Library.PyText

namespace OpenNebula.Cognit

open Library

/-! # The clusters for an application requirement

`clusters_ids_get` of the frontend, which the optimizer calls too.  A template is read back as a
dictionary of texts, where an attribute that is repeated or has attributes of its own is not a text.
-/

def strip (text : String) : String := String.ofList (PyText.strip text.toList)

def split (text : String) : List String := (text.toList.splitOn ',').map String.ofList

def parts (text : String) : List String := ((split text).map strip).filter (· ≠ "")

def isTrue (text : String) : Bool := text.toList.map Char.toLower = ['t', 'r', 'u', 'e']

inductive PyError where
  | valueError
  | typeError
  | attributeError
  | keyError
deriving DecidableEq

inductive Item where
  | text (text : String)
  | hashable
  | unhashable
deriving DecidableEq

/-- What `literal_eval` reads: a list, or a value of another type -/
inductive Literal where
  | list (items : List Item)
  | other
deriving DecidableEq

inductive EvalError where
  | malformed
  | uncaught (error : PyError)
deriving DecidableEq

structure Platform (Angle Distance : Type) where
  float : String → Option Angle
  int : String → Option Int
  literalEval : String → Except EvalError Literal
  /-- The bounds of latitude and longitude, outside of which `haversine` raises -/
  inBounds : Angle × Angle → Bool
  distance : Angle × Angle → Angle × Angle → Distance

namespace Platform

variable {Angle Distance : Type} (platform : Platform Angle Distance)

def parseGeolocation (text : String) : Option (Angle × Angle) :=
  match split text with
  | [latStr, lonStr] =>
    match platform.float (strip latStr), platform.float (strip lonStr) with
    | some lat, some lon => some (lat, lon)
    | _, _ => none
  | _ => none

def haversine (point other : Angle × Angle) : Option Distance :=
  if platform.inBounds point && platform.inBounds other then some (platform.distance point other)
  else none

end Platform

inductive Attr where
  | text (text : String)
  /-- A repeated attribute (a list) or a vector attribute (a dictionary) -/
  | nested

def get (template : List (String × Attr)) (key : String) : Attr :=
  (template.lookup key).getD (.text "")

structure Cluster where
  id : Nat
  template : List (String × Attr)

structure ClusterPool where
  clusters : List Cluster
  ids_nodup : (clusters.map Cluster.id).Nodup

inductive ProvidersArg where
  | list (items : List String)
  | text (text : String)

structure Arguments where
  geolocation : Option String
  flavour : Option String
  isConfidential : Option String
  providers : Option ProvidersArg
  targetCardinality : Option String

namespace Platform

variable {Angle Distance : Type} (platform : Platform Angle Distance)

/-- `None` is kept and makes `haversine` raise. -/
def deviceGeolocation : Option String → Except PyError (Option (Angle × Angle))
  | none => .ok none
  | some text =>
    match platform.parseGeolocation text with
    | some coords => .ok (some coords)
    | none => .error .valueError

def requestedProviders : Option ProvidersArg → Except PyError (List Item)
  | none => .ok []
  | some (.list items) => .ok (items.map .text)
  | some (.text text) =>
    if text = "" then .ok []
    else match platform.literalEval text with
      | .ok (.list items) => if Item.unhashable ∈ items then .error .typeError else .ok items
      | .ok .other => .ok []
      | .error .malformed => .ok ((parts text).map .text)
      | .error (.uncaught error) => .error error

def requestedTargetCardinality : Option String → Option Int
  | none => none
  | some text => if text = "" then none else platform.int text

/-- What the strings of the call are converted to, before the loop over the clusters -/
structure Request (Angle : Type) where
  device : Option (Angle × Angle)
  flavour : Option String
  isConfidential : Option Bool
  providers : List Item
  targetCardinality : Option Int

def request (arguments : Arguments) : Except PyError (Request Angle) := do
  let device ← platform.deviceGeolocation arguments.geolocation
  let providers ← platform.requestedProviders arguments.providers
  return { device := device
           flavour := arguments.flavour
           isConfidential := arguments.isConfidential.map isTrue
           providers := providers
           targetCardinality := platform.requestedTargetCardinality arguments.targetCardinality }

section

variable (request : Request Angle)

section

variable (template : List (String × Attr))

def flavourPasses : Except PyError Bool :=
  match get template "FLAVOURS" with
  | .nested => .error .attributeError
  | .text flavours => .ok ((parts flavours).any fun item => request.flavour = some item)

def confidentialPasses : Except PyError Bool :=
  match request.isConfidential with
  | none => .ok true
  | some requested =>
    match get template "IS_CONFIDENTIAL" with
    | .nested => .error .attributeError
    | .text mark => .ok (mark = "" || requested = isTrue mark)

def providerPasses : Except PyError Bool :=
  if request.providers = [] then .ok true
  else
    match get template "PROVIDER" with
    | .nested => .error .typeError
    | .text provider => .ok (request.providers.contains (.text provider))

def cardinalityPasses : Except PyError Bool :=
  match request.targetCardinality with
  | none => .ok true
  | some requested =>
    match get template "MAX_CAPACITY" with
    | .nested => .error .typeError
    | .text capacity =>
      if capacity = "" then .ok true
      else
        match platform.int capacity with
        | none => .ok false
        | some most => .ok (requested ≤ most)

/-- An exception of this part only skips the cluster. -/
def distanceTo : Option Distance :=
  match get template "GEOLOCATION" with
  | .nested => none
  | .text text =>
    if text = "" then none
    else do
      let coords ← platform.parseGeolocation text
      let device ← request.device
      platform.haversine device coords

end

def visit (cluster : Cluster) : Except PyError (Option (Nat × Distance)) := do
  if !(← flavourPasses request cluster.template) then return none
  if !(← confidentialPasses request cluster.template) then return none
  if !(← providerPasses request cluster.template) then return none
  if !(← platform.cardinalityPasses request cluster.template) then return none
  return (platform.distanceTo request cluster.template).map fun distance => (cluster.id, distance)

end

def clusterDistances (request : Request Angle) : List Cluster → Except PyError (List (Nat × Distance))
  | [] => .ok []
  | cluster :: rest => do
      let entry ← platform.visit request cluster
      let entries ← clusterDistances request rest
      return entry.toList ++ entries

def clustersIdsGet [LinearOrder Distance] (pool : ClusterPool) (arguments : Arguments) :
    Except PyError (List Nat) := do
  let request ← platform.request arguments
  let distances ← platform.clusterDistances request pool.clusters
  return (distances.insertionSort fun entry other => entry.2 ≤ other.2).map Prod.fst

end Platform

abbrev Document := List (String × String)

namespace Document

variable (document : Document)

def get (key : String) : Option String := document.lookup key

def require (key : String) : Except PyError String :=
  match document.get key with
  | some text => .ok text
  | none => .error .keyError

end Document

structure AppRequirements (Angle : Type) where
  id : Option String
  isConfidential : Option Bool
  providers : Option (List String)
  flavour : String
  geolocation : Option (Angle × Angle)

def boolText : Option Bool → String
  | none => "None"
  | some true => "True"
  | some false => "False"

structure Writer (Angle : Type) where
  str : Angle → String
  repr : List String → String

/-- `model_dump`, written as one text for each attribute by `cast2one` -/
def AppRequirements.document {Angle : Type} (writer : Writer Angle) (requirements : AppRequirements Angle) :
    Document :=
  [("ID", requirements.id.getD "None"), ("IS_CONFIDENTIAL", boolText requirements.isConfidential),
   ("PROVIDERS", (requirements.providers.map writer.repr).getD "None"),
   ("FLAVOUR", requirements.flavour),
   ("GEOLOCATION", match requirements.geolocation with
     | none => "None"
     | some (latitude, longitude) =>
       String.ofList ((writer.str latitude).toList ++ ',' :: (writer.str longitude).toList))]

namespace Platform

variable {Angle Distance : Type} [LinearOrder Distance] (platform : Platform Angle Distance)

def edgeClusterFrontendIds (pool : ClusterPool) (document : Document) : Except PyError (List Nat) := do
  let deviceId := document.get "ID"
  let flavour ← document.require "FLAVOUR"
  let geolocation ← document.require "GEOLOCATION"
  platform.clustersIdsGet pool
    { geolocation := some geolocation
      flavour := some flavour
      isConfidential := document.get "IS_CONFIDENTIAL"
      providers := (document.get "PROVIDERS").map .text
      targetCardinality :=
        if deviceId = none ∨ deviceId = some "" ∨ deviceId = some "None" then document.get "MAX_CAPACITY"
        else none }

def getFeasibleClustersForDevice (pool : ClusterPool) (document : Document) : Except PyError (List Nat) :=
  if document = [] then .ok []
  else
    platform.clustersIdsGet pool
      { geolocation := document.get "GEOLOCATION"
        flavour := document.get "FLAVOUR"
        isConfidential := document.get "IS_CONFIDENTIAL"
        providers := (document.get "PROVIDERS").map .text
        targetCardinality := none }

end Platform

end OpenNebula.Cognit
