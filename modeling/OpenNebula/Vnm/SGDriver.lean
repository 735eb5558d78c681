import OpenNebula.Vnm.SecurityGroups

namespace OpenNebula.Vnm

/-! # The firewall of a VM (`SGDriver`, `SGIPTables`)

The groups that a NIC names are looked up in the table of rules of the driver, which the loop over
the NICs replaces when it meets a NIC without groups.
-/

structure Nic where
  nicId : String
  aliasId : Option String := none
  parentId : Option String := none
  aliasIds : Option String := none
  tap : String := ""
  mac : String := ""
  ip : Option String := none
  ip6 : Option String := none
  ip6Global : Option String := none
  ip6Link : Option String := none
  ip6Ula : Option String := none
  vrouterIp : Option String := none
  vrouterIp6 : Option String := none
  vrouterIp6Global : Option String := none
  vrouterIp6Link : Option String := none
  vrouterIp6Ula : Option String := none
  filterMacSpoofing : Option String := none
  filterIpSpoofing : Option String := none
  securityGroups : Option String := none
  ipsetMaxelem : String := ""

structure VM where
  id : String
  nics : List Nic
  nicsAlias : List Nic
  securityGroupRules : String → List RuleHash

/-- `split(',')`, which leaves out the empty strings at the end. -/
def split (text : String) : List String :=
  (((text.toList.splitOn ',').map String.ofList).reverse.dropWhile (· = "")).reverse

structure Vars where
  chain : String
  chainIn : String
  chainOut : String
  nicsAlias : List Nic

def vars (vmId : String) (nicsAlias : List Nic) (nic : Nic) : Vars :=
  let chain :=
    match nic.aliasId with
    | none => "one-" ++ vmId ++ "-" ++ nic.nicId
    | some _ => "one-" ++ vmId ++ "-" ++ nic.parentId.getD ""
  { chain
    chainIn := chain ++ "-i"
    chainOut := chain ++ "-o"
    nicsAlias :=
      match nic.aliasIds with
      | none => []
      | some aliasIds => nicsAlias.filter fun other => other.nicId ∈ split aliasIds }

def Vars.group (vars : Vars) (nic : Nic) (sgId : String) : GroupVars where
  chainIn := vars.chainIn
  chainOut := vars.chainOut
  setSgIn := vars.chain ++ "-" ++ sgId ++ "-i"
  setSgOut := vars.chain ++ "-" ++ sgId ++ "-o"
  maxelem := "maxelem " ++ nic.ipsetMaxelem

def globalChain : String := "opennebula"

def iptables (arguments : String) : Command := .other "iptables" arguments

def ip6tables (arguments : String) : Command := .other "ip6tables" arguments

def ipset (arguments : String) : Command := .other "ipset" arguments

def given (keys : List (Nic → Option String)) (nic : Nic) : List String := keys.filterMap fun key => key nic

def routedKeys : List (Nic → Option String) := [Nic.ip6, Nic.ip6Global, Nic.ip6Ula]

def spoofingAddresses (keys : List (Nic → Option String)) (nic : Nic) (nicsAlias : List Nic) : List String :=
  (keys.flatMap fun key => (nic :: nicsAlias).filterMap key).filter (· ≠ "")

def isYes (value : Option String) : Bool :=
  match value with
  | none => false
  | some text => text.toUpper = "YES"

def nicPre (bridged : Bool) (vars : Vars) (nic : Nic) : List Command :=
  let chainIn := vars.chainIn
  let chainOut := vars.chainOut
  let baseBr := "-I " ++ globalChain ++ " -m physdev --physdev-is-bridged "
  let nro := baseBr ++ " --physdev-in " ++ nic.tap ++ " -j " ++ chainOut
  let nroIn := "-I INPUT -m physdev --physdev-in " ++ nic.tap ++ " -j " ++ chainOut
  let toNic (address : String) := "-I " ++ globalChain ++ " -d " ++ address ++ " -j " ++ chainIn
  let bridge := baseBr ++ " --physdev-out " ++ nic.tap ++ " -j " ++ chainIn
  let nris := if bridged then [bridge] else ((nic :: vars.nicsAlias).flatMap (given [Nic.ip])).map toNic
  let nri6s := if bridged then [bridge] else ((nic :: vars.nicsAlias).flatMap (given routedKeys)).map toNic
  let newChains :=
    [iptables ("-N " ++ chainIn), iptables ("-N " ++ chainOut), ip6tables ("-N " ++ chainIn),
      ip6tables ("-N " ++ chainOut)]
  let jumps :=
    nris.map iptables ++ [iptables nro, iptables nroIn] ++ nri6s.map ip6tables ++
      if nri6s = [] then [] else [ip6tables nro, ip6tables nroIn]
  let discovery (chain : String) (types : List String) :=
    types.map fun type => ip6tables ("-A " ++ chain ++ " -p icmpv6 --icmpv6-type " ++ type ++ " -j RETURN")
  let macSpoofing := "-A " ++ chainOut ++ " -m mac ! --mac-source " ++ nic.mac ++ " -j DROP"
  let ipSet := vars.chain ++ "-ip-spoofing"
  let ip6Set := vars.chain ++ "-ip6-spoofing"
  let ipv4s := spoofingAddresses [Nic.ip, Nic.vrouterIp] nic vars.nicsAlias
  let ipv6s := spoofingAddresses [Nic.ip6, Nic.ip6Global, Nic.ip6Link, Nic.ip6Ula, Nic.vrouterIp6,
    Nic.vrouterIp6Global, Nic.vrouterIp6Link, Nic.vrouterIp6Ula] nic vars.nicsAlias
  let ipSpoofing :=
    [iptables ("-A " ++ chainOut ++ " -p udp --source 0.0.0.0/32 --sport 68 --destination " ++
        "255.255.255.255/32 --dport 67 -j RETURN"),
      ipset ("create " ++ ipSet ++ " hash:ip family inet")] ++
      ipv4s.map (fun ip => ipset ("add -exist " ++ ipSet ++ " " ++ ip)) ++
      [iptables ("-A " ++ chainOut ++ " -m set ! --match-set " ++ ipSet ++ " src -j DROP"),
        ipset ("create " ++ ip6Set ++ " hash:ip family inet6")] ++
      ipv6s.map (fun ip => ipset ("add -exist " ++ ip6Set ++ " " ++ ip)) ++
      [ip6tables ("-A " ++ chainOut ++ " -m set ! --match-set " ++ ip6Set ++ " src -j DROP")]
  let established (chain : String) := "-A " ++ chain ++ " -m state --state ESTABLISHED,RELATED -j RETURN"
  newChains ++ jumps ++ discovery chainIn ["134", "135", "136", "137"] ++
    discovery chainOut ["133", "135", "136"] ++
    (if isYes nic.filterMacSpoofing then [iptables macSpoofing, ip6tables macSpoofing] else []) ++
    (if isYes nic.filterIpSpoofing then ipSpoofing else []) ++
    [iptables (established chainIn), iptables (established chainOut), ip6tables (established chainIn),
      ip6tables (established chainOut)]

def nicPost (vars : Vars) : List Command :=
  [iptables ("-A " ++ vars.chainIn ++ "  -j DROP"), iptables ("-A " ++ vars.chainOut ++ " -j DROP"),
    ip6tables ("-A " ++ vars.chainIn ++ "  -j DROP"), ip6tables ("-A " ++ vars.chainOut ++ " -j DROP")]

structure Host where
  bridged : Bool
  /-- `wait_for_interface` -/
  available : String → Bool
  succeeds : Command → Bool

abbrev Table := String → List RuleHash

def emptyRules : Table := fun sgId =>
  if sgId = "0" then
    [{ protocol := .all, ruleType := .outbound }, { protocol := .all, ruleType := .inbound }]
  else []

variable (host : Host) (vm : VM)

def groupCommands (table : Table) (nic : Nic) : Option (List Command) :=
  ((split (nic.securityGroups.getD "0")).mapM fun sgId =>
    processRules ((vars vm.id vm.nicsAlias nic).group nic sgId) (table sgId)).map List.flatten

def nicCommands (table : Table) (nic : Nic) : Option (List Command) :=
  let names := vars vm.id vm.nicsAlias nic
  if host.bridged && !host.available nic.tap then none
  else
    match groupCommands vm table nic with
    | none => none
    | some groups =>
      let commands := nicPre host.bridged names nic ++ groups ++ nicPost names
      if commands.all host.succeeds then some commands else none

def tableFor (table : Table) (nic : Nic) : Table :=
  match nic.securityGroups with
  | none => emptyRules
  | some _ => table

def processNics : Table → List Nic → Option (List (List Command))
  | _, [] => some []
  | table, nic :: rest =>
    let table := tableFor table nic
    match nicCommands host vm table nic with
    | none => none
    | some commands => (processNics table rest).map (commands :: ·)

/-- The commands that set up the chains of each NIC, once `deactivate` has removed what there was.
After an error the rules of all the NICs are removed again. -/
def activate : Option (List (List Command)) := processNics host vm vm.securityGroupRules vm.nics

end OpenNebula.Vnm
