import Mathlib.Data.List.Sort
import Capstk.Client

/-!
# The SDK client (`cloud/sdk_client.go`)

Every `Execute()` of the source is one `request`. Resources are found by their tags, so the same
few shapes recur: look a resource up and insist on exactly one (`single`), create it only when the
lookup says that there is none (`existingOr`), ignore an expected error of a request (`tolerate`).
-/

namespace Capstk

open Prog

namespace SDKClient

def apiserverTargetPoolName : String := "apiserver"
def apiserverListenerName : String := "apiserver"
def bootstrapTargetName : String := "capi-bootstrap-placeholder"
/-- The target of a load balancer that has no machines yet; nothing has to answer there. -/
def bootstrapTargetIP : String := "10.0.0.1"
def sshPort : Int := 22
def tcpProtocol : String := "tcp"

section shapes
variable {σ α : Type}

/-- The end of every `find...ByTags`: one match, or an error. -/
def single (one many : String) : List α → Call σ α
  | [] => fail (errorf .errNotFound ("no " ++ one ++ " matching tags"))
  | [a] => pure a
  | _ => fail (errorf .errConflict ("multiple " ++ many ++ " matching tags"))

/-- The guard of every `List...ByTags`. -/
def requireTags (tags : StringMap) (call : Call σ α) : Call σ α :=
  if tags.entries.isEmpty then fail (errorf .errInvalidInput "empty tag selector") else call

end shapes

/-! ### Servers -/

/-- The addresses of one network interface, IPv4 first; all of them are internal. -/
def nicAddresses (nic : SDKNIC) : List Address :=
  (if nic.ipv4 = "" then [] else [⟨"InternalIP", nic.ipv4⟩]) ++
    (if nic.ipv6 = "" then [] else [⟨"InternalIP", nic.ipv6⟩])

/-- A failed `ListServerNICs` leaves the addresses empty and is not reported. -/
def serverFromSDK (server : SDKServer) : Call Session Server := do
  let nics ← attempt
    (request "list server NICs" (.listServerNICs server.id) (Cloud.listServerNICs server.id))
  let addresses := match nics with
    | .ok nics => nics.flatMap nicAddresses
    | .error _ => []
  pure
    { id := server.id, name := server.name, state := server.status,
      powerStatus := server.powerStatus, availabilityZone := server.availabilityZone, addresses }

/-- `GetServer`; the addresses take a second request. -/
def getServer (id : String) : Call Session Server := do
  let server ← request "get server" (.getServer id) (Cloud.getServer id)
  serverFromSDK server

/-- The loop of `ListServersByTags` over the listed items. -/
def serversFromSDK (tags : StringMap) : List SDKServer → Call Session (List Server)
  | [] => pure []
  | server :: rest =>
    if labelsContainTags server.labels tags then do
      let s ← serverFromSDK server
      let matched ← serversFromSDK tags rest
      pure (s :: matched)
    else serversFromSDK tags rest

/-- The answer is filtered again, so that a service that ignores the selector does no harm. -/
def listServersByTags (tags : StringMap) : Call Session (List Server) :=
  requireTags tags do
    let items ← request "list servers" (.listServers tags) (Cloud.listServers tags)
    serversFromSDK tags items

def findServerByTags (tags : StringMap) : Call Session Server := do
  single "server" "servers" (← listServersByTags tags)

/-- Whether the image goes into a boot volume instead of the server. -/
def useBootVolume (v : RootVolumeInput) : Bool := decide (0 < v.sizeGiB) || v.performanceClass != ""

def bootVolume (imageID : String) (v : RootVolumeInput) : BootVolume where
  source := if imageID = "" then none else some imageID
  size := if 0 < v.sizeGiB then some v.sizeGiB else none
  performanceClass := if v.performanceClass = "" then none else some v.performanceClass
  deleteOnTermination := v.deleteOnTermination

/-- The image is given once: to the boot volume if there is one, else to the server. -/
def createServerPayload (input : CreateServerInput) : CreateServerPayload where
  name := input.name
  machineType := input.machineType
  imageID := if useBootVolume input.rootVolume then "" else input.imageID
  labels := input.tags
  networkID := input.networkID
  securityGroups := input.securityGroups
  userData := input.userData
  configDrive := input.userData != ""
  bootVolume :=
    if useBootVolume input.rootVolume then some (bootVolume input.imageID input.rootVolume)
    else none
  keypairName := input.sshKeyName
  availabilityZone := input.availabilityZone

/-- `CreateServer` looks for a server with the same tags first, so that a repeated call creates
none. -/
def createServer (input : CreateServerInput) : Call Session Server :=
  existingOr isNotFound (findServerByTags input.tags) do
    let payload := createServerPayload input
    let server ← request "create server" (.createServer payload) (Cloud.createServer payload)
    serverFromSDK server

def listAvailabilityZones : Call Session (List String) :=
  request "list availability zones" .listAvailabilityZones Cloud.listAvailabilityZones

/-- A server that is already gone is an error here; callers tolerate it. -/
def deleteServer (id : String) : Call Session Unit :=
  request "delete server" (.deleteServer id) (Cloud.deleteServer id)

/-! ### Networks -/

def networkFromSDK (n : SDKNetwork) : Network :=
  { id := n.id, name := n.name, ipv4Prefixes := n.prefixes }

def getNetwork (id : String) : Call Session Network := do
  let network ← request "get network" (.getNetwork id) (Cloud.getNetwork id)
  pure (networkFromSDK network)

def listNetworksByTags (tags : StringMap) : Call Session (List Network) :=
  requireTags tags do
    let items ← request "list networks" (.listNetworks tags) (Cloud.listNetworks tags)
    pure ((items.filter fun n => labelsContainTags n.labels tags).map networkFromSDK)

def findNetworkByTags (tags : StringMap) : Call Session Network := do
  single "network" "networks" (← listNetworksByTags tags)

/-- Without tags there is nothing to look an existing network up by. -/
def createNetwork (input : CreateNetworkInput) : Call Session Network :=
  if input.name = "" then fail (errorf .errInvalidInput "network name is required")
  else
    let create : Call Session Network := do
      let network ← request "create network" (.createNetwork input.name input.tags input.ipv4Prefix)
        (Cloud.createNetwork input.name input.tags input.ipv4Prefix)
      pure (networkFromSDK network)
    if input.tags.entries.isEmpty then create
    else existingOr isNotFound (findNetworkByTags input.tags) create

def deleteNetwork (id : String) : Call Session Unit :=
  request "delete network" (.deleteNetwork id) (Cloud.deleteNetwork id)

/-! ### Public IPs and security groups -/

/-- An address without a network interface has an empty one. -/
def publicIPFromSDK (p : SDKPublicIP) : PublicIP :=
  { id := p.id, ip := p.ip, networkInterfaceID := p.networkInterface }

def securityGroupFromSDK (g : SDKSecurityGroup) : SecurityGroup := { id := g.id, name := g.name }

def listPublicIPsByTags (tags : StringMap) : Call Session (List PublicIP) :=
  requireTags tags do
    let items ← request "list public IPs" (.listPublicIPs tags) (Cloud.listPublicIPs tags)
    pure ((items.filter fun p => labelsContainTags p.labels tags).map publicIPFromSDK)

def findPublicIPByTags (tags : StringMap) : Call Session PublicIP := do
  single "public IP" "public IPs" (← listPublicIPsByTags tags)

def getPublicIP (id : String) : Call Session PublicIP := do
  let publicIP ← request "get public IP" (.getPublicIP id) (Cloud.getPublicIP id)
  pure (publicIPFromSDK publicIP)

/-- The address with these tags, or a new one. -/
def ensurePublicIP (tags : StringMap) : Call Session PublicIP :=
  existingOr isNotFound (findPublicIPByTags tags) do
    let publicIP ← request "create public IP" (.createPublicIP tags) (Cloud.createPublicIP tags)
    pure (publicIPFromSDK publicIP)

def listSecurityGroupsByTags (tags : StringMap) : Call Session (List SecurityGroup) :=
  requireTags tags do
    let items ← request "list security groups" (.listSecurityGroups tags)
      (Cloud.listSecurityGroups tags)
    pure ((items.filter fun g => labelsContainTags g.labels tags).map securityGroupFromSDK)

def findSecurityGroupByTags (tags : StringMap) : Call Session SecurityGroup := do
  single "security group" "security groups" (← listSecurityGroupsByTags tags)

/-- The common body of `ensureBastionSecurityGroup` and `ensureNodeSSHSecurityGroup`. -/
def ensureSecurityGroup (name description : String) (tags : StringMap) :
    Call Session SecurityGroup :=
  existingOr isNotFound (findSecurityGroupByTags tags) do
    let group ← request "create security group" (.createSecurityGroup name description tags)
      (Cloud.createSecurityGroup name description tags)
    pure (securityGroupFromSDK group)

/-- The group that the bastion itself is in. -/
def ensureBastionSecurityGroup (input : BastionInput) : Call Session SecurityGroup :=
  ensureSecurityGroup (input.name ++ "-ssh") "Cluster API Provider STACKIT bastion SSH access"
    input.tags

/-- The group that the nodes are in. -/
def ensureNodeSSHSecurityGroup (input : NodeSSHAccessInput) : Call Session SecurityGroup :=
  ensureSecurityGroup input.name "Cluster API Provider STACKIT node SSH access from bastion"
    input.tags

/-- An ingress rule for TCP port 22, whatever it allows it from. -/
def isSSHRule (rule : SDKRule) : Bool :=
  rule.payload.direction == "ingress" && rule.payload.portMin == sshPort &&
    rule.payload.portMax == sshPort && rule.payload.protocol == some tcpProtocol

/-- An SSH rule for exactly this CIDR. -/
def hasSSHRule (rules : List SDKRule) (cidr : String) : Bool :=
  rules.any fun rule => rule.payload.ipRange == cidr && isSSHRule rule

/-- An SSH rule for the members of that group. -/
def hasRemoteSecurityGroupSSHRule (rules : List SDKRule) (remoteSecurityGroupID : String) : Bool :=
  rules.any fun rule =>
    rule.payload.remoteSecurityGroupID == remoteSecurityGroupID && isSSHRule rule

def listRules (groupID : String) : Call Session (List SDKRule) :=
  request "list security group rules" (.listSecurityGroupRules groupID)
    (Cloud.listSecurityGroupRules groupID)

def createRule (groupID : String) (payload : SDKRulePayload) : Call Session Unit :=
  request "create security group rule" (.createSecurityGroupRule groupID payload)
    (Cloud.createSecurityGroupRule groupID payload)

/-- A rule without an ID is skipped, one that is already gone is fine. -/
def deleteRule (groupID : String) (rule : SDKRule) : Call Session Unit :=
  if rule.id = "" then pure ()
  else tolerate isNotFound
    (request "delete security group rule" (.deleteSecurityGroupRule groupID rule.id)
      (Cloud.deleteSecurityGroupRule groupID rule.id))

/-- The loop over the allowed CIDRs; `desired` holds those already seen. -/
def allowCIDRs (groupID : String) (existingRules : List SDKRule) :
    List String → List String → Call Session (List String)
  | desired, [] => pure desired
  | desired, cidr :: cidrs =>
    if cidr = "" then fail (errorf .errInvalidInput "empty bastion allowed CIDR")
    else if desired.contains cidr then allowCIDRs groupID existingRules desired cidrs
    else if hasSSHRule existingRules cidr then
      allowCIDRs groupID existingRules (cidr :: desired) cidrs
    else do
      createRule groupID
        { direction := "ingress", ipRange := cidr, portMin := sshPort, portMax := sshPort,
          protocol := some tcpProtocol }
      allowCIDRs groupID existingRules (cidr :: desired) cidrs

/-- Afterwards the SSH rules of the group are those of `cidrs`; other rules are left alone. -/
def ensureBastionSecurityGroupRules (groupID : String) (cidrs : List String) : Call Session Unit :=
  if groupID = "" then fail (errorf .errInvalidInput "security group ID is required")
  else do
    let existingRules ← listRules groupID
    let desired ← allowCIDRs groupID existingRules [] cidrs
    -- SSH rules of CIDRs that are no longer desired are revoked
    forEach existingRules fun rule =>
      if !isSSHRule rule || desired.contains rule.payload.ipRange then pure ()
      else deleteRule groupID rule

/-- Rules for an earlier bastion group stay. -/
def ensureNodeSSHSecurityGroupRule (nodeGroupID bastionGroupID : String) : Call Session Unit :=
  if nodeGroupID = "" ∨ bastionGroupID = "" then
    fail (errorf .errInvalidInput "node and bastion security group IDs are required")
  else do
    let rules ← listRules nodeGroupID
    if hasRemoteSecurityGroupSSHRule rules bastionGroupID then pure ()
    else
      createRule nodeGroupID
        { direction := "ingress", remoteSecurityGroupID := bastionGroupID, portMin := sshPort,
          portMax := sshPort, protocol := some tcpProtocol }

/-- A group that is gone has no rules to delete. -/
def deleteSecurityGroupRules (groupID : String) : Call Session Unit := do
  match ← attempt (listRules groupID) with
  | .error err => if isNotFound err then pure () else fail err
  | .ok rules => forEach rules (deleteRule groupID)

/-- Already attached, a duplicate and "no network port yet" are all expected. -/
def addSecurityGroupToServer (serverID groupID : String) : Call Session Unit :=
  tolerate (fun err => isConflict err || isInvalidInput err || isNotFound err)
    (request "add security group to server" (.addSecurityGroupToServer serverID groupID)
      (Cloud.addSecurityGroupToServer serverID groupID))

/-- A server or a group that is gone and one that is already detached are all fine. -/
def removeSecurityGroupFromServer (serverID groupID : String) : Call Session Unit :=
  tolerate (fun err => isNotFound err || isConflict err)
    (request "remove security group from server" (.removeSecurityGroupFromServer serverID groupID)
      (Cloud.removeSecurityGroupFromServer serverID groupID))

/-- The end of `DeleteBastion` and `DeleteNodeSSHAccess`: the rules, then the group. -/
def deleteSecurityGroup (groupID : String) : Call Session Unit := do
  deleteSecurityGroupRules groupID
  tolerate isNotFound (request "delete security group" (.deleteSecurityGroup groupID)
    (Cloud.deleteSecurityGroup groupID))

/-! ### Bastion -/

/-- An address that is already attached is fine. -/
def addPublicIpToServer (serverID publicIPID : String) : Call Session Unit :=
  tolerate isConflict (request "add public IP to server" (.addPublicIpToServer serverID publicIPID)
    (Cloud.addPublicIpToServer serverID publicIPID))

/-- An address that has no network interface yet is attached and read again. -/
def attachPublicIP (serverID : String) (publicIP : PublicIP) : Call Session PublicIP :=
  if publicIP.networkInterfaceID = "" then do
    addPublicIpToServer serverID publicIP.id
    getPublicIP publicIP.id
  else pure publicIP

/-- The group with its rules, the server, the address. Each is looked up by the tags first, so that
a call that failed half-way can be repeated. -/
def ensureBastion (input : BastionInput) : Call Session Bastion :=
  if input.name = "" ∨ input.networkID = "" ∨ input.imageID = "" ∨ input.machineType = "" ∨
      input.sshKeyName = "" then
    fail (errorf .errInvalidInput
      "bastion name, network ID, image ID, machine type, and SSH key name are required")
  else if input.allowedCIDRs.isEmpty then
    fail (errorf .errInvalidInput "bastion allowed CIDRs are required")
  else if input.tags.entries.isEmpty then fail (errorf .errInvalidInput "bastion tags are required")
  else do
    let securityGroup ← ensureBastionSecurityGroup input
    ensureBastionSecurityGroupRules securityGroup.id input.allowedCIDRs
    let server ← createServer
      { name := input.name, imageID := input.imageID, machineType := input.machineType,
        sshKeyName := input.sshKeyName, networkID := input.networkID,
        securityGroups := [securityGroup.id], userData := input.cloudInit, tags := input.tags,
        rootVolume := input.rootVolume }
    -- a server found by its tags may have lost the group
    addSecurityGroupToServer server.id securityGroup.id
    let publicIP ← attachPublicIP server.id (← ensurePublicIP input.tags)
    pure
      { serverID := server.id, serverState := server.state,
        serverPowerStatus := server.powerStatus, publicIPID := publicIP.id,
        publicIP := publicIP.ip, securityGroupID := securityGroup.id }

/-- The recorded ID, or the one found by tags; empty when there is none. -/
def idOrFind (recorded : String) (find : Call Session String) : Call Session String :=
  if recorded = "" then existingOr isNotFound find (pure "") else pure recorded

def deletePublicIP (id : String) : Call Session Unit :=
  tolerate isNotFound (request "delete public IP" (.deletePublicIP id) (Cloud.deletePublicIP id))

/-- An address that is not attached is fine, as is a server that is gone. -/
def removePublicIpFromServer (serverID publicIPID : String) : Call Session Unit :=
  tolerate (fun err => isNotFound err || isConflict err)
    (request "remove public IP from server" (.removePublicIpFromServer serverID publicIPID)
      (Cloud.removePublicIpFromServer serverID publicIPID))

/-- `if cond { ... }` -/
def when' (cond : Bool) (call : Call Session Unit) : Call Session Unit :=
  if cond then call else pure ()

/-- Detach first, then delete. What is neither recorded nor found by the tags is skipped. -/
def deleteBastion (input : BastionInput) (status : Bastion) : Call Session Unit := do
  let serverID ← idOrFind status.serverID do pure (← findServerByTags input.tags).id
  let publicIPID ← idOrFind status.publicIPID do pure (← findPublicIPByTags input.tags).id
  let securityGroupID ← idOrFind status.securityGroupID do
    pure (← findSecurityGroupByTags input.tags).id
  when' (serverID != "" && publicIPID != "") (removePublicIpFromServer serverID publicIPID)
  when' (serverID != "" && securityGroupID != "")
    (removeSecurityGroupFromServer serverID securityGroupID)
  when' (serverID != "") (tolerate isNotFound (deleteServer serverID))
  when' (publicIPID != "") (deletePublicIP publicIPID)
  when' (securityGroupID != "") (deleteSecurityGroup securityGroupID)

/-! ### SSH from the bastion to the nodes -/

/-- The group is shared by the nodes of a cluster; each call attaches one server to it. -/
def ensureNodeSSHAccess (input : NodeSSHAccessInput) : Call Session SecurityGroup :=
  if input.name = "" ∨ input.serverID = "" ∨ input.bastionSecurityGroupID = "" then
    fail (errorf .errInvalidInput
      "node SSH access name, server ID, and bastion security group ID are required")
  else if input.tags.entries.isEmpty then
    fail (errorf .errInvalidInput "node SSH access tags are required")
  else do
    let securityGroup ← ensureNodeSSHSecurityGroup input
    ensureNodeSSHSecurityGroupRule securityGroup.id input.bastionSecurityGroupID
    addSecurityGroupToServer input.serverID securityGroup.id
    pure securityGroup

/-- The group is taken off every server of the cluster before it is deleted. -/
def deleteNodeSSHAccess (tags : StringMap) : Call Session Unit := do
  match ← attempt (findSecurityGroupByTags tags) with
  | .error err => if isNotFound err then pure () else fail err
  | .ok securityGroup =>
    let servers ← listServersByTags (clusterServerSelectorFromTags tags)
    forEach servers fun server => removeSecurityGroupFromServer server.id securityGroup.id
    deleteSecurityGroup securityGroup.id

/-! ### API server load balancer -/

/-- Empty if all of them are. -/
def firstNonEmpty (values : List String) : String := (values.find? (· != "")).getD ""

/-- The first listener with a port; 0 if there is none. -/
def listenerPort (listeners : List SDKListener) : Int :=
  ((listeners.map (·.port)).find? (0 < ·)).getD 0

/-- The external address goes before the private one. -/
def loadBalancerFromSDK (l : SDKLoadBalancer) : LoadBalancer :=
  { id := l.name, name := l.name, ip := firstNonEmpty [l.externalAddress, l.privateAddress],
    port := listenerPort l.listeners }

/-- The service has no selector; the list is filtered here, by the rewritten labels. -/
def listAPIServerLoadBalancersByTags (tags : StringMap) : Call Session (List LoadBalancer) :=
  requireTags tags do
    match ← attempt (request "list load balancers" .listLoadBalancers Cloud.listLoadBalancers) with
    | .error err => if isLoadBalancerServiceNotEnabled err then pure [] else fail err
    | .ok items =>
      let labels := loadBalancerLabels (← rangeOver tags)
      pure ((items.filter fun l => mapContains l.labels labels).map loadBalancerFromSDK)

def findLoadBalancerByTags (tags : StringMap) : Call Session LoadBalancer := do
  single "load balancer" "load balancers" (← listAPIServerLoadBalancersByTags tags)

def sdkTarget (t : LoadBalancerTargetInput) : SDKTarget := ⟨t.name, t.ip⟩

/-- A pool must not be empty, so a load balancer without targets starts with a placeholder. -/
def initialTargets (targets : List LoadBalancerTargetInput) : List SDKTarget :=
  if targets.isEmpty then [⟨bootstrapTargetName, bootstrapTargetIP⟩] else targets.map sdkTarget

/-- The labels of a new load balancer. -/
def newLoadBalancerLabels (tags : StringMap) : Call Session StringMap :=
  if tags.entries.isEmpty then pure ∅ else do pure (loadBalancerLabels (← rangeOver tags))

/-- One listener in front of one pool, both on the API server's port. -/
def createLoadBalancerPayload (input : LoadBalancerInput) (labels : StringMap) :
    CreateLoadBalancerPayload where
  name := input.name
  labels := labels
  networkID := input.networkID
  targetPools := [⟨apiserverTargetPoolName, input.port, initialTargets input.targets⟩]
  listeners := [⟨apiserverListenerName, input.port, "PROTOCOL_TCP", apiserverTargetPoolName⟩]

/-- A project whose load balancer service is not enabled has none yet; creating one enables it. -/
def ensureAPIServerLoadBalancer (input : LoadBalancerInput) : Call Session LoadBalancer :=
  existingOr (fun err => isNotFound err || isLoadBalancerServiceNotEnabled err)
    (findLoadBalancerByTags input.tags) do
    let labels ← newLoadBalancerLabels input.tags
    let payload := createLoadBalancerPayload input labels
    let l ← request "create load balancer" (.createLoadBalancer payload)
      (Cloud.createLoadBalancer payload)
    pure (loadBalancerFromSDK l)

def deleteAPIServerLoadBalancer (id : String) : Call Session Unit :=
  request "delete load balancer" (.deleteLoadBalancer id) (Cloud.deleteLoadBalancer id)

/-- The pool by its name; a load balancer may have others. -/
def apiServerTargetPool (l : SDKLoadBalancer) : Option SDKTargetPool :=
  l.targetPools.find? (·.name == apiserverTargetPoolName)

/-- The comparison of `sortedTargetKeys`: by name, then by IP. -/
def targetLE (a b : SDKTarget) : Prop :=
  a.displayName < b.displayName ∨ a.displayName = b.displayName ∧ a.ip ≤ b.ip

instance : DecidableRel targetLE := fun a b =>
  inferInstanceAs
    (Decidable (a.displayName < b.displayName ∨ a.displayName = b.displayName ∧ a.ip ≤ b.ip))

/-- Targets in an order that does not depend on how they were listed. -/
def sortedTargetKeys (targets : List SDKTarget) : List SDKTarget := targets.insertionSort targetLE

/-- Whether two lists hold the same targets. -/
def sameTargets (current desired : List SDKTarget) : Bool :=
  current.length == desired.length && sortedTargetKeys current == sortedTargetKeys desired

/-- A port that is not positive falls back on that of the pool. -/
def updateAPIServerTargetPool (id : String) (current : SDKTargetPool) (targets : List SDKTarget)
    (port : Int) :
    Call Session Unit :=
  let targetPort :=
    if 0 < port then port else if 0 < current.targetPort then current.targetPort else 0
  let pool : SDKTargetPool := ⟨apiserverTargetPoolName, targetPort, targets⟩
  request "update load balancer target pool" (.updateTargetPool id pool)
    (Cloud.updateTargetPool id pool)

/-- `SetAPIServerLoadBalancerTargets`; a pool that is as desired is not written. -/
def setAPIServerLoadBalancerTargets (id : String) (port : Int)
    (targets : List LoadBalancerTargetInput) :
    Call Session Unit :=
  if id = "" ∨ port ≤ 0 then
    fail (errorf .errInvalidInput "load balancer ID and target port are required")
  else if targets.isEmpty then fail (errorf .errInvalidInput "at least one target is required")
  else if targets.any fun t => t.name == "" || t.ip == "" then
    fail (errorf .errInvalidInput "target name and target IP are required")
  else do
    let desired := targets.map sdkTarget
    let l ← request "get load balancer" (.getLoadBalancer id) (Cloud.getLoadBalancer id)
    match apiServerTargetPool l with
    | none => fail (errorf .errNotFound
        ("load balancer \"" ++ id ++ "\" has no \"" ++ apiserverTargetPoolName ++ "\" target pool"))
    | some pool =>
      if pool.targetPort == port && sameTargets pool.targets desired then pure ()
      else updateAPIServerTargetPool id pool desired port

end SDKClient

/-- `SDKClient` as a `cloud.Client`. -/
def sdkClient : Client Session where
  getNetwork := SDKClient.getNetwork
  findNetworkByTags := SDKClient.findNetworkByTags
  listNetworksByTags := SDKClient.listNetworksByTags
  createNetwork := SDKClient.createNetwork
  deleteNetwork := SDKClient.deleteNetwork
  getServer := SDKClient.getServer
  findServerByTags := SDKClient.findServerByTags
  listServersByTags := SDKClient.listServersByTags
  createServer := SDKClient.createServer
  deleteServer := SDKClient.deleteServer
  ensureBastion := SDKClient.ensureBastion
  deleteBastion := SDKClient.deleteBastion
  ensureNodeSSHAccess := SDKClient.ensureNodeSSHAccess
  deleteNodeSSHAccess := SDKClient.deleteNodeSSHAccess
  listPublicIPsByTags := SDKClient.listPublicIPsByTags
  listSecurityGroupsByTags := SDKClient.listSecurityGroupsByTags
  ensureAPIServerLoadBalancer := SDKClient.ensureAPIServerLoadBalancer
  listAPIServerLoadBalancersByTags := SDKClient.listAPIServerLoadBalancersByTags
  setAPIServerLoadBalancerTargets := SDKClient.setAPIServerLoadBalancerTargets
  deleteAPIServerLoadBalancer := SDKClient.deleteAPIServerLoadBalancer
  listAvailabilityZones := SDKClient.listAvailabilityZones

end Capstk
