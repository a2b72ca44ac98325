import Mathlib.Logic.Function.Basic
import Capstk.Tags
import Capstk.Errors

/-!
# The STACKIT services as the SDK client sees them

The state of one project and region, and the effect of each SDK request on it. The services are
not part of the repository: what is fixed here is what the provider relies on. Lists are complete
and read-your-writes, labels and targets are stored verbatim, `404` means that the resource does
not exist, a new resource gets an ID that was never used before (`IDSource`), and the name of a
load balancer is its ID. Everything else (states, addresses, network interfaces) is whatever the
cloud makes of it: what a new resource starts with is a parameter (`Provisioning`), and what becomes
of it over time enters through `Cloud` itself and the events of a run.
-/

namespace Capstk

/-- Where new resource IDs come from. -/
structure IDSource where
  newID : Nat → String
  injective : Function.Injective newID
  nonempty : ∀ n, newID n ≠ ""

/-- The IDs `i`, `ii`, `iii`, … -/
def IDSource.unary : IDSource where
  newID n := String.ofList (List.replicate (n + 1) 'i')
  injective m n h := by simpa using congrArg (·.toList.length) h
  nonempty n h := by simpa using congrArg (·.toList.length) h

/-- `iaas.NIC` -/
structure SDKNIC where
  id : String
  ipv4 : String := ""
  ipv6 : String := ""
deriving DecidableEq, Repr

/-- `iaas.Server`, with the security groups attached to it and the user data it was created with. -/
structure SDKServer where
  id : String
  name : String
  labels : StringMap
  status : String := ""
  powerStatus : String := ""
  availabilityZone : String := ""
  networkID : String := ""
  nics : List SDKNIC := []
  securityGroups : List String := []
  userData : String := ""

/-- `iaas.Network` -/
structure SDKNetwork where
  id : String
  name : String
  labels : StringMap
  prefixes : List String := []

/-- `iaas.PublicIp`; `networkInterface` is empty while it is not attached. -/
structure SDKPublicIP where
  id : String
  labels : StringMap
  ip : String := ""
  networkInterface : String := ""

/-- What a security group rule allows: `iaas.SecurityGroupRule` without its ID. -/
structure SDKRulePayload where
  direction : String
  ipRange : String := ""
  remoteSecurityGroupID : String := ""
  portMin : Int := 0
  portMax : Int := 0
  protocol : Option String := none
deriving DecidableEq, Repr

/-- `iaas.SecurityGroupRule` -/
structure SDKRule where
  id : String
  payload : SDKRulePayload
deriving DecidableEq, Repr

/-- `iaas.SecurityGroup` -/
structure SDKSecurityGroup where
  id : String
  name : String
  description : String := ""
  labels : StringMap
  rules : List SDKRule := []

/-- `lb.Target`, as its getters show it: a name or IP that is missing is empty. -/
structure SDKTarget where
  displayName : String
  ip : String
deriving DecidableEq, Repr

/-- `lb.TargetPool` -/
structure SDKTargetPool where
  name : String
  targetPort : Int
  targets : List SDKTarget
deriving DecidableEq, Repr

/-- `lb.Listener` -/
structure SDKListener where
  displayName : String
  port : Int
  protocol : String
  targetPool : String
deriving DecidableEq, Repr

/-- `lb.LoadBalancer`. `serial` tells a load balancer from a later one of the same name; no
request returns it. -/
structure SDKLoadBalancer where
  name : String
  labels : StringMap
  serial : Nat
  externalAddress : String := ""
  privateAddress : String := ""
  listeners : List SDKListener := []
  targetPools : List SDKTargetPool := []

/-- What a new server starts with. -/
structure NewServer where
  status : String
  powerStatus : String := ""
  nics : List SDKNIC
  named : ∀ n ∈ nics, n.id ≠ ""

def NewServer.creating : NewServer := ⟨"CREATING", "", [], List.forall_mem_nil _⟩

/-- What a creation answers that the request does not say: the state and the network interfaces of
a server, the prefixes of a network that asks for none, and addresses, which the service may give at
once or later. Resources are told by their ID, load balancers by their name. -/
structure Provisioning where
  server : String → NewServer := fun _ => .creating
  prefixes : String → List String := fun _ => []
  publicIP : String → String := fun _ => ""
  externalAddress : String → String := fun _ => ""
  privateAddress : String → String := fun _ => ""

/-- The resources of one project and region. -/
structure Cloud where
  ids : IDSource
  provisioning : Provisioning := {}
  /-- How many IDs have been given out. -/
  issued : Nat := 0
  servers : List SDKServer := []
  networks : List SDKNetwork := []
  publicIPs : List SDKPublicIP := []
  securityGroups : List SDKSecurityGroup := []
  loadBalancers : List SDKLoadBalancer := []
  loadBalancerServiceEnabled : Bool := true
  zones : List String := []

/-- `iaas.BootVolume`; a field that was not set is `none`. -/
structure BootVolume where
  source : Option String := none
  size : Option Int := none
  performanceClass : Option String := none
  deleteOnTermination : Bool
deriving DecidableEq, Repr

/-- The body of a `CreateServer` request; an empty string or list is a field that was not set. The
user data stands as it was before base64. -/
structure CreateServerPayload where
  name : String
  machineType : String
  imageID : String := ""
  labels : StringMap
  networkID : String := ""
  securityGroups : List String := []
  userData : String := ""
  configDrive : Bool := false
  bootVolume : Option BootVolume := none
  keypairName : String := ""
  availabilityZone : String := ""

/-- The body of a `CreateLoadBalancer` request: one network, target pools and listeners. -/
structure CreateLoadBalancerPayload where
  name : String
  labels : StringMap
  networkID : String
  targetPools : List SDKTargetPool
  listeners : List SDKListener

namespace Cloud

/-- The effect of a request: an answer or an error, and the state after it. -/
abbrev Effect (α : Type) : Type := Cloud → Except SDKError α × Cloud

/-- The answer for an ID that no resource has. -/
def missing {α : Type} (c : Cloud) : Except SDKError α × Cloud :=
  (.error (.openAPI 404 "resource not found"), c)

/-! ### Servers -/

/-- The only way to one server is its ID: names need not be unique. -/
def getServer (id : String) : Effect SDKServer := fun c =>
  match c.servers.find? (·.id == id) with
  | some s => (.ok s, c)
  | none => c.missing

/-- The service filters by the label selector of the request. -/
def listServers (selector : StringMap) : Effect (List SDKServer) := fun c =>
  (.ok (c.servers.filter fun s => labelsContainTags s.labels selector), c)

/-- A new ID each time: two requests with the same name and labels make two servers. -/
def createServer (p : CreateServerPayload) : Effect SDKServer := fun c =>
  let id := c.ids.newID c.issued
  let start := c.provisioning.server id
  let s : SDKServer :=
    { id, name := p.name, labels := p.labels, status := start.status,
      powerStatus := start.powerStatus, nics := start.nics, availabilityZone := p.availabilityZone,
      networkID := p.networkID, securityGroups := p.securityGroups, userData := p.userData }
  (.ok s, { c with issued := c.issued + 1, servers := c.servers ++ [s] })

/-- Deleting a server also detaches the public IPs of its network interfaces. -/
def deleteServer (id : String) : Effect Unit := fun c =>
  match c.servers.find? (·.id == id) with
  | some s => (.ok (),
      { c with
        servers := c.servers.filter (·.id != id)
        publicIPs := c.publicIPs.map fun p =>
          if s.nics.any (·.id == p.networkInterface) then { p with networkInterface := "" }
          else p })
  | none => c.missing

def listServerNICs (id : String) : Effect (List SDKNIC) := fun c =>
  match c.servers.find? (·.id == id) with
  | some s => (.ok s.nics, c)
  | none => c.missing

def listAvailabilityZones : Effect (List String) := fun c => (.ok c.zones, c)

/-! ### Networks -/

def getNetwork (id : String) : Effect SDKNetwork := fun c =>
  match c.networks.find? (·.id == id) with
  | some n => (.ok n, c)
  | none => c.missing

def listNetworks (selector : StringMap) : Effect (List SDKNetwork) := fun c =>
  (.ok (c.networks.filter fun n => labelsContainTags n.labels selector), c)

/-- As with servers, neither the name nor the labels have to be new. -/
def createNetwork (name : String) (labels : StringMap) (ipv4Prefix : String) :
    Effect SDKNetwork := fun c =>
  let id := c.ids.newID c.issued
  let prefixes := if ipv4Prefix = "" then c.provisioning.prefixes id else [ipv4Prefix]
  let n : SDKNetwork := { id, name, labels, prefixes }
  (.ok n, { c with issued := c.issued + 1, networks := c.networks ++ [n] })

def deleteNetwork (id : String) : Effect Unit := fun c =>
  if c.networks.any (·.id == id) then
    (.ok (), { c with networks := c.networks.filter (·.id != id) })
  else c.missing

/-! ### Public IPs -/

def listPublicIPs (selector : StringMap) : Effect (List SDKPublicIP) := fun c =>
  (.ok (c.publicIPs.filter fun p => labelsContainTags p.labels selector), c)

/-- A new address belongs to no network interface. -/
def createPublicIP (labels : StringMap) : Effect SDKPublicIP := fun c =>
  let id := c.ids.newID c.issued
  let p : SDKPublicIP := { id, labels, ip := c.provisioning.publicIP id }
  (.ok p, { c with issued := c.issued + 1, publicIPs := c.publicIPs ++ [p] })

def getPublicIP (id : String) : Effect SDKPublicIP := fun c =>
  match c.publicIPs.find? (·.id == id) with
  | some p => (.ok p, c)
  | none => c.missing

def deletePublicIP (id : String) : Effect Unit := fun c =>
  if c.publicIPs.any (·.id == id) then
    (.ok (), { c with publicIPs := c.publicIPs.filter (·.id != id) })
  else c.missing

/-- A server without a network interface has nothing to attach the address to. -/
def addPublicIpToServer (serverID publicIPID : String) : Effect Unit := fun c =>
  match c.servers.find? (·.id == serverID), c.publicIPs.find? (·.id == publicIPID) with
  | some s, some _ =>
    match s.nics with
    | nic :: _ => (.ok (),
        { c with publicIPs := c.publicIPs.map fun p =>
          if p.id == publicIPID then { p with networkInterface := nic.id } else p })
    | [] => (.error (.openAPI 409 "server has no network interface"), c)
  | _, _ => c.missing

/-- The address is detached from whatever interface it is on. -/
def removePublicIpFromServer (serverID publicIPID : String) : Effect Unit := fun c =>
  match c.servers.find? (·.id == serverID), c.publicIPs.find? (·.id == publicIPID) with
  | some _, some _ => (.ok (),
      { c with publicIPs := c.publicIPs.map fun p =>
        if p.id == publicIPID then { p with networkInterface := "" } else p })
  | _, _ => c.missing

/-! ### Security groups -/

def listSecurityGroups (selector : StringMap) : Effect (List SDKSecurityGroup) := fun c =>
  (.ok (c.securityGroups.filter fun g => labelsContainTags g.labels selector), c)

/-- A new group has no rules. -/
def createSecurityGroup (name description : String) (labels : StringMap) :
    Effect SDKSecurityGroup := fun c =>
  let g : SDKSecurityGroup := { id := c.ids.newID c.issued, name, description, labels }
  (.ok g, { c with issued := c.issued + 1, securityGroups := c.securityGroups ++ [g] })

/-- The rules of a group go with it; servers keep its ID in their list. -/
def deleteSecurityGroup (id : String) : Effect Unit := fun c =>
  if c.securityGroups.any (·.id == id) then
    (.ok (), { c with securityGroups := c.securityGroups.filter (·.id != id) })
  else c.missing

/-- A server without a network interface has no port to attach the group to. -/
def addSecurityGroupToServer (serverID groupID : String) : Effect Unit := fun c =>
  match c.servers.find? (·.id == serverID), c.securityGroups.find? (·.id == groupID) with
  | some s, some _ =>
    if s.nics.isEmpty then c.missing
    else if s.securityGroups.contains groupID then
      (.error (.openAPI 400 "Duplicate items in the list"), c)
    else (.ok (),
      { c with servers := c.servers.map fun s =>
        if s.id == serverID then { s with securityGroups := s.securityGroups ++ [groupID] }
        else s })
  | _, _ => c.missing

/-- A group that is not attached is no error. -/
def removeSecurityGroupFromServer (serverID groupID : String) : Effect Unit := fun c =>
  match c.servers.find? (·.id == serverID), c.securityGroups.find? (·.id == groupID) with
  | some _, some _ => (.ok (),
      { c with servers := c.servers.map fun s =>
        if s.id == serverID then { s with securityGroups := s.securityGroups.filter (· != groupID) }
        else s })
  | _, _ => c.missing

def listSecurityGroupRules (groupID : String) : Effect (List SDKRule) := fun c =>
  match c.securityGroups.find? (·.id == groupID) with
  | some g => (.ok g.rules, c)
  | none => c.missing

/-- The service does not compare a new rule with those it has. -/
def createSecurityGroupRule (groupID : String) (payload : SDKRulePayload) : Effect Unit := fun c =>
  if c.securityGroups.any (·.id == groupID) then
    let rule : SDKRule := { id := c.ids.newID c.issued, payload }
    (.ok (),
      { c with
        issued := c.issued + 1
        securityGroups := c.securityGroups.map fun g =>
          if g.id == groupID then { g with rules := g.rules ++ [rule] } else g })
  else c.missing

/-- Missing are a group that does not exist and a rule the group does not have. -/
def deleteSecurityGroupRule (groupID ruleID : String) : Effect Unit := fun c =>
  match c.securityGroups.find? (·.id == groupID) with
  | some g =>
    if g.rules.any (·.id == ruleID) then
      (.ok (),
        { c with securityGroups := c.securityGroups.map fun g =>
          if g.id == groupID then { g with rules := g.rules.filter (·.id != ruleID) } else g })
    else c.missing
  | none => c.missing

/-! ### Load balancers -/

/-- Before the first load balancer of a project the service may not be enabled. -/
def listLoadBalancers : Effect (List SDKLoadBalancer) := fun c =>
  if c.loadBalancers.isEmpty && !c.loadBalancerServiceEnabled then
    (.error (.openAPI 403 "Service not enabled"), c)
  else (.ok c.loadBalancers, c)

/-- Load balancers, unlike the other resources, are told apart by their name. -/
def createLoadBalancer (p : CreateLoadBalancerPayload) : Effect SDKLoadBalancer := fun c =>
  if c.loadBalancers.any (·.name == p.name) then
    (.error (.openAPI 409 "a load balancer of that name exists"), c)
  else
    let l : SDKLoadBalancer :=
      { name := p.name, labels := p.labels, serial := c.issued,
        externalAddress := c.provisioning.externalAddress p.name,
        privateAddress := c.provisioning.privateAddress p.name, listeners := p.listeners,
        targetPools := p.targetPools }
    (.ok l,
      { c with
        issued := c.issued + 1
        loadBalancers := c.loadBalancers ++ [l]
        loadBalancerServiceEnabled := true })

def getLoadBalancer (name : String) : Effect SDKLoadBalancer := fun c =>
  match c.loadBalancers.find? (·.name == name) with
  | some l => (.ok l, c)
  | none => c.missing

def deleteLoadBalancer (name : String) : Effect Unit := fun c =>
  if c.loadBalancers.any (·.name == name) then
    (.ok (), { c with loadBalancers := c.loadBalancers.filter (·.name != name) })
  else c.missing

/-- Replace the first pool of that name. -/
def replacePool (pool : SDKTargetPool) : List SDKTargetPool → List SDKTargetPool
  | [] => []
  | p :: ps => if p.name == pool.name then pool :: ps else p :: replacePool pool ps

/-- The pool is replaced as a whole, its targets included. -/
def updateTargetPool (name : String) (pool : SDKTargetPool) : Effect Unit := fun c =>
  match c.loadBalancers.find? (·.name == name) with
  | some l =>
    if l.targetPools.any (·.name == pool.name) then
      (.ok (),
        { c with loadBalancers := c.loadBalancers.map fun l =>
          if l.name == name then { l with targetPools := replacePool pool l.targetPools } else l })
    else c.missing
  | none => c.missing

end Cloud

end Capstk
