import Capstk.Session

/-!
# The cloud client interface (`cloud/types.go`, `cloud/client.go`)

The controllers only see `Client`: a record of calls over some state `σ`. What holds for every
`Client` holds whatever the cloud answers; `sdkClient` is the one the provider runs with.
-/

namespace Capstk

open Prog

/-- An address of a server; `type` becomes that of the machine's address. -/
structure Address where
  type : String
  address : String
deriving DecidableEq, Repr

/-- `cloud.Server`; `state` and `powerStatus` are the texts of the service. -/
structure Server where
  id : String
  name : String := ""
  state : String := ""
  powerStatus : String := ""
  availabilityZone : String := ""
  addresses : List Address := []
deriving DecidableEq, Repr

/-- `cloud.Network` -/
structure Network where
  id : String
  name : String := ""
  ipv4Prefixes : List String := []
deriving DecidableEq, Repr

/-- `cloud.LoadBalancer`; the service has no IDs of its own, so `id` is the name. -/
structure LoadBalancer where
  id : String
  name : String := ""
  ip : String := ""
  dnsName : String := ""
  port : Int := 0
deriving DecidableEq, Repr

/-- `cloud.PublicIP`; without `networkInterfaceID` it is not attached to a server. -/
structure PublicIP where
  id : String
  ip : String := ""
  networkInterfaceID : String := ""
deriving DecidableEq, Repr

/-- `cloud.SecurityGroup` -/
structure SecurityGroup where
  id : String
  name : String := ""
deriving DecidableEq, Repr

/-- The parts of a bastion: a server, its public IP and the group that lets SSH in. -/
structure Bastion where
  serverID : String := ""
  serverState : String := ""
  serverPowerStatus : String := ""
  publicIPID : String := ""
  publicIP : String := ""
  securityGroupID : String := ""
deriving DecidableEq, Repr

/-- An empty `ipv4Prefix` leaves the choice to the service. -/
structure CreateNetworkInput where
  name : String
  ipv4Prefix : String := ""
  tags : StringMap

structure RootVolumeInput where
  sizeGiB : Int := 0
  performanceClass : String := ""
  deleteOnTermination : Bool := false
deriving DecidableEq, Repr

/-- What a server is created with; the tags are also what it is found by again. -/
structure CreateServerInput where
  name : String
  imageID : String := ""
  machineType : String := ""
  availabilityZone : String := ""
  sshKeyName : String := ""
  networkID : String := ""
  securityGroups : List String := []
  userData : String := ""
  tags : StringMap
  rootVolume : RootVolumeInput := {}

/-- All resources of a bastion get the same tags. -/
structure BastionInput where
  name : String := ""
  networkID : String := ""
  imageID : String := ""
  machineType : String := ""
  sshKeyName : String := ""
  allowedCIDRs : List String := []
  tags : StringMap
  rootVolume : RootVolumeInput := {}
  cloudInit : String := ""

/-- SSH to one server from the members of the bastion's security group. -/
structure NodeSSHAccessInput where
  name : String
  serverID : String
  bastionSecurityGroupID : String
  tags : StringMap

/-- One control plane machine behind the load balancer. -/
structure LoadBalancerTargetInput where
  name : String
  ip : String
deriving DecidableEq, Repr

/-- `port` is that of the listener and of the targets. -/
structure LoadBalancerInput where
  name : String
  networkID : String := ""
  tags : StringMap
  port : Int
  targets : List LoadBalancerTargetInput := []

/-- `cloud.Client` -/
structure Client (σ : Type) where
  getNetwork : String → Call σ Network
  findNetworkByTags : StringMap → Call σ Network
  listNetworksByTags : StringMap → Call σ (List Network)
  createNetwork : CreateNetworkInput → Call σ Network
  deleteNetwork : String → Call σ Unit
  getServer : String → Call σ Server
  findServerByTags : StringMap → Call σ Server
  listServersByTags : StringMap → Call σ (List Server)
  createServer : CreateServerInput → Call σ Server
  deleteServer : String → Call σ Unit
  ensureBastion : BastionInput → Call σ Bastion
  deleteBastion : BastionInput → Bastion → Call σ Unit
  ensureNodeSSHAccess : NodeSSHAccessInput → Call σ SecurityGroup
  deleteNodeSSHAccess : StringMap → Call σ Unit
  listPublicIPsByTags : StringMap → Call σ (List PublicIP)
  listSecurityGroupsByTags : StringMap → Call σ (List SecurityGroup)
  ensureAPIServerLoadBalancer : LoadBalancerInput → Call σ LoadBalancer
  listAPIServerLoadBalancersByTags : StringMap → Call σ (List LoadBalancer)
  setAPIServerLoadBalancerTargets : String → Int → List LoadBalancerTargetInput → Call σ Unit
  deleteAPIServerLoadBalancer : String → Call σ Unit
  listAvailabilityZones : Call σ (List String)

/-- A client over a part of a larger state. -/
def Client.zoom {σ τ : Type} (proj : τ → σ) (put : τ → σ → τ) (client : Client σ) : Client τ where
  getNetwork id := Prog.zoom proj put (client.getNetwork id)
  findNetworkByTags tags := Prog.zoom proj put (client.findNetworkByTags tags)
  listNetworksByTags tags := Prog.zoom proj put (client.listNetworksByTags tags)
  createNetwork input := Prog.zoom proj put (client.createNetwork input)
  deleteNetwork id := Prog.zoom proj put (client.deleteNetwork id)
  getServer id := Prog.zoom proj put (client.getServer id)
  findServerByTags tags := Prog.zoom proj put (client.findServerByTags tags)
  listServersByTags tags := Prog.zoom proj put (client.listServersByTags tags)
  createServer input := Prog.zoom proj put (client.createServer input)
  deleteServer id := Prog.zoom proj put (client.deleteServer id)
  ensureBastion input := Prog.zoom proj put (client.ensureBastion input)
  deleteBastion input bastion := Prog.zoom proj put (client.deleteBastion input bastion)
  ensureNodeSSHAccess input := Prog.zoom proj put (client.ensureNodeSSHAccess input)
  deleteNodeSSHAccess tags := Prog.zoom proj put (client.deleteNodeSSHAccess tags)
  listPublicIPsByTags tags := Prog.zoom proj put (client.listPublicIPsByTags tags)
  listSecurityGroupsByTags tags := Prog.zoom proj put (client.listSecurityGroupsByTags tags)
  ensureAPIServerLoadBalancer input := Prog.zoom proj put (client.ensureAPIServerLoadBalancer input)
  listAPIServerLoadBalancersByTags tags :=
    Prog.zoom proj put (client.listAPIServerLoadBalancersByTags tags)
  setAPIServerLoadBalancerTargets id port targets :=
    Prog.zoom proj put (client.setAPIServerLoadBalancerTargets id port targets)
  deleteAPIServerLoadBalancer id := Prog.zoom proj put (client.deleteAPIServerLoadBalancer id)
  listAvailabilityZones := Prog.zoom proj put client.listAvailabilityZones

/-- `cloud.Credentials` -/
structure Credentials where
  projectID : String
  region : String
  serviceAccountJSON : String
deriving DecidableEq, Repr

/-! ### Error handling -/

section
variable {σ α : Type}

/-- `existing, err := find()`, which is returned unless the error says that there is none; then
what `create` returns. -/
def existingOr (absent : GoError → Bool) (find create : Call σ α) : Call σ α := do
  match ← attempt find with
  | .ok existing => pure existing
  | .error err => if absent err then create else fail err

/-- `if err := call(); err != nil && !expected(err) { return err }` -/
def tolerate (expected : GoError → Bool) (call : Call σ Unit) : Call σ Unit := do
  match ← attempt call with
  | .ok _ => pure ()
  | .error err => if expected err then pure () else fail err

end

end Capstk
