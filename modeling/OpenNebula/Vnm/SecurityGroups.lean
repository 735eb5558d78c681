import OpenNebula.Vnm.Address

namespace OpenNebula.Vnm

/-! # Rules of security groups (`VNMNetwork::Rule`)

The attributes of a rule have the form that `SecurityGroup::is_valid` accepts.
-/

/-- `IPSEC` is `esp` in the commands. -/
inductive Protocol where
  | all
  | tcp
  | udp
  | icmp
  | icmpv6
  | esp
deriving DecidableEq

inductive RuleType where
  | inbound
  | outbound

inductive PortRange where
  | port (number : Nat)
  | interval (first last : Nat)
deriving DecidableEq

structure RuleHash where
  protocol : Protocol
  ruleType : RuleType
  range : Option (List PortRange) := none
  icmpType : Option Nat := none
  icmpv6Type : Option Nat := none
  ip : Option IPAddr := none
  ip6 : Option IPAddr := none
  ip6Global : Option IPAddr := none
  ip6Ula : Option IPAddr := none
  size : Option Nat := none

/-- `TYPES` -/
inductive Shape where
  | protocol
  | portrange
  | icmpType
  | icmpv6Type
  | net
  | netPortrange
  | netIcmpType
  | netIcmpv6Type

namespace RuleHash

variable (rule : RuleHash)

/-- `set_type` -/
def shape : Shape :=
  if rule.ip.isNone && rule.size.isNone then
    if rule.icmpv6Type.isSome then .icmpv6Type
    else if rule.icmpType.isSome then .icmpType
    else if rule.range.isSome then .portrange
    else .protocol
  else
    if rule.icmpv6Type.isSome then .netIcmpv6Type
    else if rule.icmpType.isSome then .netIcmpType
    else if rule.range.isSome then .netPortrange
    else .net

def netsOf (address : Option IPAddr) : Option (List Net) :=
  match address, rule.size with
  | some start, some size => toNets start size
  | _, _ => some []

def starts : List (Option IPAddr) := [rule.ip, rule.ip6Global, rule.ip6Ula, rule.ip6]

/-- `net`, unless an address is too large -/
def net : Option (List Net) := (rule.starts.mapM rule.netsOf).map List.flatten

end RuleHash

def icmpTypesExpanded (type : Nat) : Option (List Nat) :=
  if type = 3 then some [0, 1, 2, 3, 4, 5, 6, 7, 9, 10, 11, 12, 13, 14, 15]
  else if type = 5 then some [0, 1, 2, 3]
  else if type = 9 then some [0, 16]
  else if type = 11 then some [0, 1]
  else if type = 12 then some [0, 1, 2]
  else none

def icmpv6TypesExpanded (type : Nat) : Option (List Nat) :=
  if type = 1 then some [0, 1, 2, 3, 4, 5, 6, 7]
  else if type = 3 then some [0, 1]
  else if type = 4 then some [0, 1, 2, 3]
  else if type = 138 then some [0, 1, 255]
  else if type = 139 then some [0, 1, 2]
  else if type = 140 then some [0, 1, 2]
  else none

def expandedCodes (expanded : Nat → Option (List Nat)) (type : Nat) : List Nat :=
  (expanded type).getD [0]

/-- What a rule of a chain asks for, before `-j RETURN` -/
inductive Condition where
  | protocol (protocol : Protocol)
  | ports (protocol : Protocol) (range : List PortRange)
  | icmpType (type : Nat)
  | icmpv6Type (type : Nat)
  | net (protocol : Protocol) (set dir : String)
  | netPort (set dir : String)
deriving DecidableEq

/-- The commands of the driver; two of them are the same text only when they are equal. -/
inductive Command where
  | allow (family : Family) (chain : String) (condition : Condition)
  | createNet (set : String) (family : Family)
  | createNetPort (set : String) (family : Family) (maxelem : String)
  | addNet (set : String) (net : Net)
  | addPorts (set : String) (net : Net) (protocol : Protocol) (range : PortRange)
  | addCode (set : String) (net : Net) (protocol : Protocol) (type code : Nat)
  | other (program arguments : String)
deriving DecidableEq

/-- The names that the commands of a security group use -/
structure GroupVars where
  chainIn : String
  chainOut : String
  setSgIn : String
  setSgOut : String
  maxelem : String

def Family.text : Family → String
  | .inet => "inet"
  | .inet6 => "inet6"

def Protocol.text : Protocol → String
  | .all => "all"
  | .tcp => "tcp"
  | .udp => "udp"
  | .icmp => "icmp"
  | .icmpv6 => "icmpv6"
  | .esp => "esp"

namespace RuleHash

variable (rule : RuleHash) (vars : GroupVars)

def chain : String :=
  match rule.ruleType with
  | .inbound => vars.chainIn
  | .outbound => vars.chainOut

def setSg : String :=
  match rule.ruleType with
  | .inbound => vars.setSgIn
  | .outbound => vars.setSgOut

def side : String :=
  match rule.ruleType with
  | .inbound => "src"
  | .outbound => "dst"

def processProtocol : List Command :=
  (if rule.protocol ≠ .icmpv6 then [.allow .inet (rule.chain vars) (.protocol rule.protocol)] else []) ++
    if rule.protocol ≠ .icmp then [.allow .inet6 (rule.chain vars) (.protocol rule.protocol)] else []

def processPortrange (range : List PortRange) : List Command :=
  [.allow .inet (rule.chain vars) (.ports rule.protocol range),
    .allow .inet6 (rule.chain vars) (.ports rule.protocol range)]

def processIcmpType (type : Nat) : List Command := [.allow .inet (rule.chain vars) (.icmpType type)]

def processIcmpv6Type (type : Nat) : List Command := [.allow .inet6 (rule.chain vars) (.icmpv6Type type)]

def fillSets (set : Family → String) (make : Family → List Command) (fill : Net → List Command) :
    List Net → List String → List Command
  | [], _ => []
  | net :: rest, sets =>
    let family := net.address.family
    if set family ∈ sets then fill net ++ fillSets set make fill rest sets
    else make family ++ fill net ++ fillSets set make fill rest (sets ++ [set family])

def netSet (family : Family) : String :=
  rule.setSg vars ++ "-" ++ rule.protocol.text ++ "-n-" ++ family.text

def processNet (nets : List Net) : List Command :=
  fillSets (rule.netSet vars)
    (fun family => [.createNet (rule.netSet vars family) family,
      .allow family (rule.chain vars) (.net rule.protocol (rule.netSet vars family) rule.side)])
    (fun net => [.addNet (rule.netSet vars net.address.family) net]) nets []

def netPortSet (family : Family) : String := rule.setSg vars ++ "-nr-" ++ family.text

def processNetPortrange (range : List PortRange) (nets : List Net) : List Command :=
  fillSets (rule.netPortSet vars)
    (fun family => [.createNetPort (rule.netPortSet vars family) family vars.maxelem,
      .allow family (rule.chain vars) (.netPort (rule.netPortSet vars family) (rule.side ++ ",dst"))])
    (fun net => range.map (.addPorts (rule.netPortSet vars net.address.family) net rule.protocol)) nets []

def fillCodes (set : String) (family : Family) (protocol : Protocol) (type : Nat) (codes : List Nat)
    (nets : List Net) : List Command :=
  [.createNetPort set family "", .allow family (rule.chain vars) (.netPort set (rule.side ++ ",dst"))] ++
    nets.flatMap fun net => codes.map (.addCode set net protocol type)

def processNetIcmpType (type : Nat) (nets : List Net) : List Command :=
  rule.fillCodes vars (rule.setSg vars ++ "-ni") .inet .icmp type (expandedCodes icmpTypesExpanded type) nets

def processNetIcmpv6Type (type : Nat) (nets : List Net) : List Command :=
  rule.fillCodes vars (rule.setSg vars ++ "-ni6") .inet6 .icmpv6 type (expandedCodes icmpv6TypesExpanded type)
    nets

/-- `process`; an attribute that its shape needs is there. -/
def process : Option (List Command) :=
  match rule.shape with
  | .protocol => some (rule.processProtocol vars)
  | .portrange => some (rule.processPortrange vars (rule.range.getD []))
  | .icmpType => some (rule.processIcmpType vars (rule.icmpType.getD 0))
  | .icmpv6Type => some (rule.processIcmpv6Type vars (rule.icmpv6Type.getD 0))
  | .net => rule.net.map (rule.processNet vars)
  | .netPortrange => rule.net.map (rule.processNetPortrange vars (rule.range.getD []))
  | .netIcmpType => rule.net.map (rule.processNetIcmpType vars (rule.icmpType.getD 0))
  | .netIcmpv6Type => rule.net.map (rule.processNetIcmpv6Type vars (rule.icmpv6Type.getD 0))

end RuleHash

def processRules (vars : GroupVars) (rules : List RuleHash) : Option (List Command) :=
  (rules.mapM (RuleHash.process · vars)).map fun commands => commands.flatten.eraseDups

end OpenNebula.Vnm
