import Mathlib.Data.List.Sort
import Capstk.Scope

/-!
# What the controllers compute from their objects (`scope/`, `cloud/services/`, `util/`)

The inputs of the cloud calls, the tags by which a cluster's and a machine's resources are found,
the credentials, the bootstrap data and the targets of the API server load balancer.
-/

namespace Capstk

open Prog

/-! ### Credentials and bootstrap data -/

/-- An error of the API server for an object that does not exist. -/
def apiNotFoundError (detail : String) : GoError := ⟨some .apiNotFound, detail⟩

/-- `NamespacedName.String` -/
def NamespacedName.text (n : NamespacedName) : String := n.namespace' ++ "/" ++ n.name

/-- `%q` of a string without characters that need escaping. -/
def quote (s : String) : String := "\"" ++ s ++ "\""

/-- The project may stand in the spec, in the Secret or in both; if in both, they have to agree. -/
def parseCredentialsSecret (secret : DataObject) (specProjectID region : String) :
    Except GoError Credentials :=
  let sa := (secret.data.lookup "serviceaccount.json").getD ""
  let secretProjectID := (secret.data.lookup "project-id").getD ""
  let projectID := if specProjectID = "" then secretProjectID else specProjectID
  if sa = "" then
    .error (errorf .errCredentialsInvalid ("missing " ++ quote "serviceaccount.json" ++ " key"))
  else if specProjectID ≠ "" ∧ secretProjectID ≠ "" ∧ specProjectID ≠ secretProjectID then
    .error (errorf .errCredentialsInvalid ("spec.projectID " ++ quote specProjectID ++
      " does not match secret project-id " ++ quote secretProjectID))
  else if projectID = "" then
    .error (errorf .errCredentialsInvalid "no project ID in spec or secret")
  else .ok { projectID, region, serviceAccountJSON := sa }

/-- A reference without a namespace means that of the StackitCluster. -/
def credentialsSecretKey (sc : StackitCluster) : NamespacedName :=
  let ref := sc.spec.credentialsSecretRef
  ⟨if ref.namespace' = "" then sc.metadata.namespace' else ref.namespace', ref.name⟩

/-- `r.Get` of a Secret, and `cloud.Factory`; a factory that is `none` is not configured. -/
structure ClientSource (σ : Type) where
  getSecret : NamespacedName → Except GoError DataObject
  factory : Option (Credentials → Except GoError (Client σ))

/-- A client for the credentials that the StackitCluster refers to. -/
def buildCloudClient {σ : Type} (src : ClientSource σ) (sc : StackitCluster) :
    Except GoError (Client σ) :=
  match src.factory with
  | none => .error ⟨none, "CloudClientFactory is not configured"⟩
  | some factory =>
    match src.getSecret (credentialsSecretKey sc) with
    | .error err => .error (wrapf ("get credentials secret " ++ (credentialsSecretKey sc).text) err)
    | .ok secret =>
      match parseCredentialsSecret secret sc.spec.projectID sc.spec.region with
      | .error err => .error err
      | .ok creds => factory creds

/-- The one bootstrap failure that waiting does not mend. -/
def bootstrapReasonInvalid : String := "BootstrapDataInvalid"

/-- The key `value` goes before `userData`; an empty one counts as missing. -/
def extractBootstrapData (secret : DataObject) : Except GoError String :=
  let value := (secret.data.lookup "value").getD ""
  let userData := (secret.data.lookup "userData").getD ""
  if value ≠ "" then .ok value
  else if userData ≠ "" then .ok userData
  else .error ⟨some .errBootstrapDataInvalid, Sentinel.errBootstrapDataInvalid.text⟩

/-! ### Pausing -/

def pausedAnnotationReason : String := "object has the cluster.x-k8s.io/paused annotation"

/-- The message if reconciliation is paused. -/
def reconciliationPaused (cluster : Option Cluster) (m : ObjectMeta) : Option String :=
  let reasons :=
    (if (cluster.bind (·.paused)).getD false then ["Cluster spec.paused is set to true"] else []) ++
      (if m.pausedAnnotation then [pausedAnnotationReason] else [])
  if reasons.isEmpty then none else some (", ".intercalate reasons)

/-- The condition is set either way, paused or not. -/
def setPausedCondition (conditions : List Condition) (generation : Int) :
    Option String → List Condition
  | some message => setConditions conditions generation .true "Paused" message [pausedCondition]
  | none => setConditions conditions generation .false "NotPaused" "" [pausedCondition]

/-! ### Clusters -/

/-- `ClusterScope.NetworkID` -/
def StackitCluster.networkID (sc : StackitCluster) : String :=
  if sc.spec.networkID ≠ "" then sc.spec.networkID else sc.status.network.id

/-- `APIServerTags` and `NetworkTags` -/
def StackitCluster.tags (sc : StackitCluster) : StringMap :=
  clusterTags sc.metadata.name sc.metadata.namespace' sc.spec.additionalLabels

/-- The role keeps the bastion's resources apart from others of the cluster. -/
def bastionTags (sc : StackitCluster) : StringMap :=
  sc.tags.insert labelResourceRole resourceRoleBastion

/-- One group per cluster gives SSH access to all its nodes. -/
def nodeSSHAccessTags (sc : StackitCluster) : StringMap :=
  sc.tags.insert labelResourceRole resourceRoleNodeSSH

/-- A volume is deleted with its server unless the spec says otherwise. -/
def rootVolumeInput (v : StackitRootVolumeSpec) : RootVolumeInput where
  sizeGiB := v.sizeGiB
  performanceClass := v.performanceClass
  deleteOnTermination := v.deleteOnTermination.getD true

/-- The bastion is named after the cluster and lives in its network. -/
def bastionInput (sc : StackitCluster) (cloudInit : String) : BastionInput where
  name := sc.metadata.name ++ "-bastion"
  networkID := sc.networkID
  imageID := sc.spec.bastion.imageID
  machineType := sc.spec.bastion.machineType
  sshKeyName := sc.spec.bastion.sshKeyName
  allowedCIDRs := sc.spec.bastion.allowedCIDRs
  tags := bastionTags sc
  rootVolume := rootVolumeInput sc.spec.bastion.rootVolume
  cloudInit := cloudInit

/-- A managed network is always asked for the same prefix. -/
def networkInput (sc : StackitCluster) : CreateNetworkInput where
  name := sc.metadata.name ++ "-network"
  ipv4Prefix := "10.0.0.0/24"
  tags := sc.tags

/-- A network named by the spec belongs to the user and is never deleted. -/
def resolveManagedNetworkID {σ : Type} (client : Client σ) (sc : StackitCluster) : Call σ String :=
  if sc.spec.networkID ≠ "" then pure ""
  else if sc.status.network.id ≠ "" then pure sc.status.network.id
  else existingOr isNotFound (do pure (← client.findNetworkByTags sc.tags).id) (pure "")

/-! ### API server load balancer -/

def defaultAPIServerPort : Int := 6443

/-- The port does not depend on the spec. -/
def apiServerInput (sc : StackitCluster) (targets : List LoadBalancerTargetInput) :
    LoadBalancerInput where
  name := sc.metadata.name ++ "-apiserver"
  networkID := sc.networkID
  port := defaultAPIServerPort
  tags := sc.tags
  targets := targets

/-- A target that stands in until there is a control plane machine. -/
def bootstrapTarget (ip : String) : LoadBalancerTargetInput := ⟨"capi-bootstrap-placeholder", ip⟩

/-- An empty answer means that the machine has no internal address yet. -/
def firstInternalIP (addresses : List MachineAddress) : String :=
  ((addresses.find? fun a => a.type == machineInternalIP && a.address != "").map
    (·.address)).getD ""

/-- `strings.TrimRight(s, "-")` -/
def trimRightDashes (s : List Char) : List Char := (s.reverse.dropWhile (· = '-')).reverse

/-- A machine name is an RFC 1123 subdomain, hence ASCII: its length in bytes is that in characters.
`sha256Hex` is `hex.EncodeToString(sha256.Sum256(..))`. -/
def targetName (sha256Hex : String → String) (machineName : String) : String :=
  let chars := machineName.toList
  if chars.length ≤ 63 ∧ '.' ∉ chars then machineName
  else
    let suffix := '-' :: (sha256Hex machineName).toList.take 7
    let name := chars.map fun c => if c = '.' then '-' else c
    let name :=
      if 63 - suffix.length < name.length then trimRightDashes (name.take (63 - suffix.length))
      else name
    String.ofList (name ++ suffix)

/-- The loop of `APIServerTargets`; `seen` holds the IPs already used. -/
def collectTargets (sha256Hex : String → String) :
    List String → List Machine → List LoadBalancerTargetInput
  | _, [] => []
  | seen, machine :: machines =>
    let ip := firstInternalIP machine.addresses
    if ip = "" ∨ ip ∈ seen then collectTargets sha256Hex seen machines
    else
      ⟨targetName sha256Hex machine.metadata.name, ip⟩ ::
        collectTargets sha256Hex (ip :: seen) machines

/-- One target for each address, in the order of the machines' names. -/
def apiServerTargets (sha256Hex : String → String) (machines : List Machine) :
    List LoadBalancerTargetInput :=
  collectTargets sha256Hex [] (machines.insertionSort fun a b => a.metadata.name ≤ b.metadata.name)

/-- `APIServerTargets` of a list of pointers, which first drops the `nil` entries. -/
def apiServerTargetsOfPointers (sha256Hex : String → String) (machines : List (Option Machine)) :
    List LoadBalancerTargetInput :=
  apiServerTargets sha256Hex machines.reduceOption

/-- The recorded load balancer, or the one that carries the cluster's tags; empty if there is none.
-/
def resolveLoadBalancerID {σ : Type} (client : Client σ) (sc : StackitCluster) : Call σ String :=
  if sc.status.apiServerLoadBalancerID ≠ "" then pure sc.status.apiServerLoadBalancerID
  else do
    match ← client.listAPIServerLoadBalancersByTags sc.tags with
    | [] => pure ""
    | [l] => pure l.id
    | _ => fail (wrapf "multiple API server load balancers match cluster tags"
        ⟨some .errConflict, Sentinel.errConflict.text⟩)

/-! ### Machines -/

/-- `cloud.NewProviderID`; project and region are not part of it. -/
def newProviderID (serverID : String) : String := "stackit://" ++ serverID

/-- The objects a machine pass reads: `MachineScope` without the StackitMachine it works on. -/
structure MachineContext where
  cluster : Cluster
  machine : Machine
  stackitCluster : StackitCluster

namespace MachineContext
variable (ctx : MachineContext)

def tags (sm : StackitMachine) : StringMap :=
  machineTags ctx.cluster.metadata.name ctx.cluster.metadata.namespace' ctx.machine.metadata.name
    ctx.machine.metadata.uid sm.spec.additionalLabels

/-- `slices.Sort(zones); zones[0]` -/
def firstZone (zones : List String) : Option String := (zones.insertionSort (· ≤ ·)).head?

/-- The failure domain of the Machine, the zone of the spec, the first published failure domain, and
last a guess from the region. -/
def availabilityZone (sm : StackitMachine) : String :=
  if ctx.machine.failureDomain ≠ "" then ctx.machine.failureDomain
  else if sm.spec.availabilityZone ≠ "" then sm.spec.availabilityZone
  else match firstZone (ctx.stackitCluster.status.failureDomains.map (·.name)) with
    | some zone => zone
    | none =>
      if ctx.stackitCluster.spec.region ≠ "" then ctx.stackitCluster.spec.region ++ "-1" else ""

/-- `MachineScope.NetworkID` -/
def networkID (sm : StackitMachine) : String :=
  if sm.spec.networkID ≠ "" then sm.spec.networkID else ctx.stackitCluster.networkID

end MachineContext

namespace StackitMachine

def setConditions (sm : StackitMachine) (status : ConditionStatus) (reason message : String)
    (types : List String) : StackitMachine :=
  { sm with
    conditions :=
      Capstk.setConditions sm.conditions sm.metadata.generation status reason message types }

/-- The condition of the instance is set with it. -/
def setReady (sm : StackitMachine) : StackitMachine :=
  { sm with status := { sm.status with ready := true } }.setConditions .true "Available" ""
    [machineInstanceReadyCondition, machineReadyCondition]

/-- Not ready, and the reason as a false condition of each of the types. -/
def setNotReady (sm : StackitMachine) (reason message : String) (types : List String) :
    StackitMachine :=
  { sm with status := { sm.status with ready := false } }.setConditions .false reason message types

/-- Record the server. From here on the machine counts as provisioned and gets no other one. -/
def setInstance (sm : StackitMachine) (server : Server) : StackitMachine :=
  { sm with
    spec := { sm.spec with providerID := some (newProviderID server.id) }
    status := { sm.status with
      instanceID := server.id
      instanceState := server.state
      availabilityZone := server.availabilityZone
      providerID := newProviderID server.id
      provisioned := true } }

/-- The provider ID stays, as does `provisioned`. -/
def clearInstance (sm : StackitMachine) : StackitMachine :=
  { sm with
    status := { sm.status with instanceID := "", instanceState := "", availabilityZone := "" } }

end StackitMachine

end Capstk
