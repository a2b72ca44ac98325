import Capstk.Lib.Netip
import Capstk.MachineReconciler

/-!
# The StackitCluster controller (`controller/stackitcluster_*.go`)

`reconcileNormal` is `reconcileInfrastructure` (finalizer, failure domains, network, API server load
balancer) followed by the bastion; `reconcileDelete` takes everything down again in a fixed order
and drops the finalizer last.
-/

namespace Capstk

open Prog

namespace StackitCluster

/-- `SetConditions` at the generation of the object. -/
def setConditions (sc : StackitCluster) (status : ConditionStatus) (reason message : String)
    (types : List String) : StackitCluster :=
  { sc with
    conditions :=
      Capstk.setConditions sc.conditions sc.metadata.generation status reason message types }

/-- `provisioned` is set here and never taken back. -/
def setReady (sc : StackitCluster) : StackitCluster :=
  { sc with status := { sc.status with ready := true, provisioned := true } }.setConditions
    .true "Available" "" [clusterReadyCondition]

/-- `Status.Ready = false` -/
def unready (sc : StackitCluster) : StackitCluster :=
  { sc with status := { sc.status with ready := false } }

/-- Not ready, and the reason as a false condition of each of the types. -/
def setNotReady (sc : StackitCluster) (reason message : String) (types : List String) :
    StackitCluster :=
  sc.unready.setConditions .false reason message types

/-- The endpoint goes to the spec, where Cluster API reads it, and to the status. -/
def setAPIServerEndpoint (sc : StackitCluster) (endpoint : APIEndpoint) : StackitCluster :=
  { sc with
    spec := { sc.spec with controlPlaneEndpoint := endpoint }
    status := { sc.status with apiServerEndpoint := endpoint } }

/-- Record the bastion, with the hash of the cloud-init it was created with. -/
def setBastionStatus (sc : StackitCluster) (b : Bastion) (cloudInitHash : String) :
    StackitCluster :=
  { sc with status := { sc.status with bastion :=
    { serverID := b.serverID, publicIPID := b.publicIPID, publicIP := b.publicIP,
      securityGroupID := b.securityGroupID, cloudInitHash } } }

/-- Forget the bastion, its cloud-init hash included. -/
def clearBastionStatus (sc : StackitCluster) : StackitCluster :=
  { sc with status := { sc.status with bastion := {} } }

def setFailureDomains (sc : StackitCluster) (domains : List FailureDomain) : StackitCluster :=
  { sc with status := { sc.status with failureDomains := domains } }

def setNetwork (sc : StackitCluster) (network : StackitNetworkStatus) : StackitCluster :=
  { sc with status := { sc.status with network } }

def setLoadBalancerID (sc : StackitCluster) (id : String) : StackitCluster :=
  { sc with status := { sc.status with apiServerLoadBalancerID := id } }

end StackitCluster

namespace ClusterReconciler
variable {σ : Type}

/-- A part of a cluster pass. -/
abbrev Step (σ α : Type) : Type := Pass.Step StackitCluster σ α

/-- What a pass gets from outside: the API server's answers, and the hash function. The two machine
lists are those of Cluster API's `collections`: all machines of the cluster, and its active control
plane machines. -/
structure Env (σ : Type) where
  source : ClientSource σ
  getConfigMap : NamespacedName → Except GoError DataObject
  machines : Except GoError (List Machine)
  controlPlaneMachines : Except GoError (List Machine)
  sha256Hex : String → String

/-! ### Failure domains and the bootstrap target -/

/-- Every zone may hold control plane machines. -/
def failureDomain (region zone : String) : FailureDomain := ⟨zone, some true, [("region", region)]⟩

/-- What is published before the zones of the region are known. -/
def stackitFailureDomains (region : String) : List FailureDomain :=
  [region ++ "-1", region ++ "-2", region ++ "-3"].map (failureDomain region)

/-- `strings.HasSuffix(zone, "-m")` -/
def isMetroZone (zone : String) : Bool := decide (['-', 'm'] <:+ zone.toList)

/-- Metro zones are left out; the rest is sorted by name. No zone at all falls back on the default.
-/
def failureDomainsFromZones (region : String) (zones : List String) : List FailureDomain :=
  let domains := (zones.filter fun zone => !isMetroZone zone).map (failureDomain region)
  if domains.isEmpty then stackitFailureDomains region
  else domains.insertionSort fun a b => a.name ≤ b.name

/-- The tenth address of the first IPv4 prefix that has one. -/
def bootstrapTargetIP : List String → String
  | [] => "10.0.0.1"
  | prefixValue :: rest =>
    match Netip.parsePrefix prefixValue with
    | some (.v4 addr bits) =>
      let address := Netip.next^[10] (some (Netip.firstAddr addr bits))
      match address.filter (Netip.contains addr bits) with
      | some a => Netip.showIPv4 a
      | none => bootstrapTargetIP rest
    | _ => bootstrapTargetIP rest

/-! ### Failures -/

/-- Set the conditions of a failure and return its result. -/
def failWith (f : List Condition → Int → List Condition × Except GoError Result) :
    Step σ Result := do
  let sc ← Pass.getObj
  let (conditions, result) := f sc.conditions sc.metadata.generation
  Pass.setObj fun sc => { sc with conditions }
  match result with
  | .ok r => pure r
  | .error err => fail err

/-- `Status.Ready = false` and `CloudFailureResult`. -/
def cloudFailure (reason : String) (err : GoError) (returnError : Bool) (types : List String) :
    Step σ Result := do
  Pass.setObj StackitCluster.unready
  failWith fun cs g =>
    cloudFailureResult cs g reason err retryableErrorRequeueAfter returnError types

/-- The finalizer is stored before anything is created in the cloud. -/
def persistFinalizer : Step σ Unit := do
  let sc ← Pass.getObj
  if containsFinalizer sc.metadata clusterFinalizer then pure ()
  else do
    Pass.setObj fun sc => { sc with metadata := addFinalizer sc.metadata clusterFinalizer }
    match ← attempt (Pass.patchObject : Step σ Unit) with
    | .ok _ => pure ()
    | .error err => fail (wrapf "persist finalizer" err)

/-! ### Network -/

/-- The network, or the result to return without it. -/
def getUnmanagedNetwork (client : Client σ) : Step σ (Result ⊕ Network) := do
  let sc ← Pass.getObj
  match ← attempt (Pass.call (client.getNetwork sc.spec.networkID)) with
  | .error err =>
    pure (.inl (← cloudFailure "NetworkNotFound" err false
      [clusterNetworkReadyCondition, clusterReadyCondition]))
  | .ok network => do
    Pass.setObj fun sc => sc.setNetwork { id := network.id, managed := false }
    pure (.inr network)

/-- `ensureManagedNetwork` once the recorded network is known not to exist. -/
def createManagedNetwork (client : Client σ) : Step σ (Result ⊕ Network) := do
  let sc ← Pass.getObj
  match ← attempt (Pass.call (client.createNetwork (networkInput sc))) with
  | .error err =>
    pure (.inl (← cloudFailure "NetworkCreateError" err false
      [clusterNetworkReadyCondition, clusterReadyCondition]))
  | .ok network => do
    Pass.setObj fun sc => sc.setNetwork { id := network.id, managed := true }
    pure (.inr network)

/-- The recorded network if it still exists, otherwise a new one. -/
def ensureManagedNetwork (client : Client σ) : Step σ (Result ⊕ Network) := do
  let sc ← Pass.getObj
  if sc.status.network.id = "" then createManagedNetwork client
  else
    match ← attempt (Pass.call (client.getNetwork sc.status.network.id)) with
    | .ok network => do
      Pass.setObj fun sc => sc.setNetwork { id := network.id, managed := true }
      pure (.inr network)
    | .error err =>
      if isNotFound err then createManagedNetwork client
      else pure (.inl (← cloudFailure "NetworkError" err false
        [clusterNetworkReadyCondition, clusterReadyCondition]))

/-- A network named by the spec is only read; without one the provider manages its own. -/
def ensureNetwork (client : Client σ) : Step σ (Result ⊕ Network) := do
  let sc ← Pass.getObj
  if sc.spec.networkID ≠ "" then getUnmanagedNetwork client else ensureManagedNetwork client

/-! ### API server load balancer -/

/-- The end of the load balancer block, once it has an address. `wasReady` was read before the
endpoint was set. -/
def reconcileTargets (client : Client σ) (loadBalancer : LoadBalancer)
    (targets : List LoadBalancerTargetInput) : Step σ (Option Result) := do
  let sc ← Pass.getObj
  let wasReady := isStatusConditionTrue sc.conditions clusterLoadBalancerReadyCondition &&
    sc.status.apiServerEndpoint.host == loadBalancer.ip
  let markReady : Step σ (Option Result) :=
    if wasReady then pure none
    else do
      Pass.setObj fun sc =>
        sc.setConditions .true "Available" "" [clusterLoadBalancerReadyCondition]
      pure none
  Pass.setObj fun sc =>
    sc.setAPIServerEndpoint { host := loadBalancer.ip, port := defaultAPIServerPort }
  -- an empty set never overwrites a populated pool
  if targets.isEmpty then markReady
  else
    match ← attempt (Pass.call
      (client.setAPIServerLoadBalancerTargets loadBalancer.id defaultAPIServerPort targets)) with
    | .ok _ => markReady
    | .error err => do
      Pass.setObj fun sc => sc.setConditions .false "LoadBalancerTargetError" err.text
        [clusterLoadBalancerReadyCondition]
      pure (some { requeueAfter := retryableErrorRequeueAfter })

/-- The targets a new load balancer is created with. -/
def seedTargets (network : Network) (targets : List LoadBalancerTargetInput) :
    List LoadBalancerTargetInput :=
  if targets.isEmpty then [bootstrapTarget (bootstrapTargetIP network.ipv4Prefixes)] else targets

/-- Ensure the load balancer and, once it has an address, its targets; `none` goes on. -/
def reconcileLoadBalancer (env : Env σ) (client : Client σ) (network : Network) :
    Step σ (Option Result) :=
  match env.controlPlaneMachines with
  | .error err => do
    Pass.setObj fun sc => sc.setConditions .false "MachineListError" err.text
      [clusterLoadBalancerReadyCondition]
    fail (wrapf "list control plane machines" err)
  | .ok machines => do
    let targets := apiServerTargets env.sha256Hex machines
    let sc ← Pass.getObj
    match ← attempt (Pass.call
      (client.ensureAPIServerLoadBalancer (apiServerInput sc (seedTargets network targets)))) with
    | .error err =>
      pure (some (← cloudFailure "LoadBalancerError" err false
        [clusterLoadBalancerReadyCondition, clusterReadyCondition]))
    | .ok loadBalancer => do
      Pass.setObj fun sc => sc.setLoadBalancerID loadBalancer.id
      if loadBalancer.ip = "" then do
        Pass.setObj fun sc => sc.setNotReady "Provisioning"
          "waiting for API server load balancer IP address"
          [clusterLoadBalancerReadyCondition, clusterReadyCondition]
        pure (some { requeueAfter := 10 })
      else reconcileTargets client loadBalancer targets

/-- The load balancer, or the endpoint the user provides; `none` goes on. -/
def reconcileEndpoint (env : Env σ) (client : Client σ) (network : Network) :
    Step σ (Option Result) := do
  let sc ← Pass.getObj
  if sc.spec.apiServerLoadBalancerEnabled then reconcileLoadBalancer env client network
  else if sc.spec.controlPlaneEndpoint.host ≠ "" then do
    Pass.setObj fun sc =>
      { sc with status.apiServerEndpoint := sc.spec.controlPlaneEndpoint }.setConditions
        .true "Skipped" "external endpoint provided" [clusterLoadBalancerReadyCondition]
    pure none
  else do
    Pass.setObj fun sc => sc.setNotReady "EndpointMissing"
      "apiServerLoadBalancer.enabled is false and controlPlaneEndpoint is empty"
      [clusterLoadBalancerReadyCondition, clusterReadyCondition]
    pure (some {})

/-! ### Bastion -/

/-- The reason of the bastion condition when there is no bastion to wait for. -/
def bastionDisabledReason : String := "Skipped"

/-- The first thing that is wrong with the spec of an enabled bastion. -/
def validateBastionSpec (spec : StackitBastionSpec) : Option GoError :=
  if spec.imageID = "" then some (errorf .errInvalidInput "bastion.imageID is required")
  else if spec.machineType = "" then
    some (errorf .errInvalidInput "bastion.machineType is required")
  else if spec.sshKeyName = "" then some (errorf .errInvalidInput "bastion.sshKeyName is required")
  else if spec.allowedCIDRs.isEmpty then
    some (errorf .errInvalidInput "bastion.allowedCIDRs is required")
  else match spec.allowedCIDRs.find? fun cidr => (Netip.parsePrefix cidr).isNone with
    | some cidr =>
      some (errorf .errInvalidInput ("bastion.allowedCIDRs contains invalid CIDR " ++ quote cidr))
    | none => none

/-- Whether any resource is recorded; the cloud-init hash does not count. -/
def hasBastionStatus (status : StackitBastionStatus) : Bool :=
  status.serverID != "" || status.publicIPID != "" || status.publicIP != "" ||
    status.securityGroupID != ""

/-- No cloud-init has no hash, rather than that of the empty text. -/
def bastionCloudInitHash (env : Env σ) (cloudInit : String) : String :=
  if cloudInit = "" then "" else env.sha256Hex cloudInit

/-- A recorded bastion with another cloud-init than the one it should have. -/
def bastionNeedsRecreate (env : Env σ) (sc : StackitCluster) (cloudInit : String) : Bool :=
  hasBastionStatus sc.status.bastion &&
    sc.status.bastion.cloudInitHash != bastionCloudInitHash env cloudInit

/-- One of the two cases of `resolveBastionCloudInit`. -/
def cloudInitFrom (kind : String) (get : NamespacedName → Except GoError DataObject)
    (key : NamespacedName) (dataKey : String) : Except GoError String :=
  match get key with
  | .error err =>
    if isAPINotFound err then
      .error ⟨none, "bastion.cloudInitRef " ++ kind ++ " " ++ key.text ++ " not found"⟩
    else .error err
  | .ok object =>
    match object.data.lookup dataKey with
    | some value => .ok value
    | none =>
      .error ⟨none, "bastion.cloudInitRef key " ++ quote dataKey ++ " not found in " ++ kind ++
        " " ++ key.text⟩

/-- The text that `cloudInitRef` refers to, in the namespace of the StackitCluster. -/
def resolveBastionCloudInit (env : Env σ) (sc : StackitCluster) : Except GoError String :=
  match sc.spec.bastion.cloudInitRef with
  | none => .ok ""
  | some ref =>
    let key : NamespacedName := ⟨sc.metadata.namespace', ref.name⟩
    if ref.kind = "ConfigMap" then cloudInitFrom "ConfigMap" env.getConfigMap key ref.key
    else if ref.kind = "Secret" then cloudInitFrom "Secret" env.source.getSecret key ref.key
    else .error ⟨none, "bastion.cloudInitRef.kind must be ConfigMap or Secret"⟩

/-- The bastion as the status records it. -/
def recordedBastion (status : StackitBastionStatus) : Bastion where
  serverID := status.serverID
  publicIPID := status.publicIPID
  publicIP := status.publicIP
  securityGroupID := status.securityGroupID

/-- Whether the conditions say that the cleanup of a disabled bastion already ran. -/
def bastionSkipped (conditions : List Condition) : Bool :=
  match findStatusCondition conditions clusterBastionReadyCondition with
  | some c => c.reason == bastionDisabledReason
  | none => false

/-- `reconcileBastion` with the bastion disabled. -/
def disableBastion (client : Client σ) : Step σ (Result × Bool) := do
  let sc ← Pass.getObj
  if bastionSkipped sc.conditions then pure ()
  else do
    Pass.call (client.deleteNodeSSHAccess (nodeSSHAccessTags sc))
    Pass.call (client.deleteBastion (bastionInput sc "") (recordedBastion sc.status.bastion))
    Pass.setObj StackitCluster.clearBastionStatus
  Pass.setObj fun sc =>
    sc.setConditions .true bastionDisabledReason "bastion disabled" [clusterBastionReadyCondition]
  pure ({}, true)

/-- The conditions a bastion that is not usable yet sets. -/
def bastionNotReady (reason message : String) (requeueAfter : Nat) : Step σ (Result × Bool) := do
  Pass.setObj fun sc =>
    sc.setNotReady reason message [clusterBastionReadyCondition, clusterReadyCondition]
  pure ({ requeueAfter }, false)

/-- Only the deletion: the next pass finds nothing recorded and creates the bastion. -/
def recreateBastion (client : Client σ) (cloudInit : String) : Step σ (Result × Bool) := do
  let sc ← Pass.getObj
  Pass.call (tolerate isNotFound (client.deleteNodeSSHAccess (nodeSSHAccessTags sc)))
  Pass.call (tolerate isNotFound
    (client.deleteBastion (bastionInput sc cloudInit) (recordedBastion sc.status.bastion)))
  Pass.setObj StackitCluster.clearBastionStatus
  bastionNotReady "Recreating" "recreating bastion because cloudInitRef content changed"
    retryableErrorRequeueAfter

/-- The bastion is recorded before it is known to be usable. -/
def ensureBastion (env : Env σ) (client : Client σ) (cloudInit : String) :
    Step σ (Result × Bool) := do
  let sc ← Pass.getObj
  let bastion ← Pass.call (client.ensureBastion (bastionInput sc cloudInit))
  Pass.setObj fun sc => sc.setBastionStatus bastion (bastionCloudInitHash env cloudInit)
  let condition := serverStateCondition bastion.serverState bastion.serverPowerStatus
  if !condition.ready then bastionNotReady condition.reason ("bastion " ++ condition.message) 15
  else if bastion.publicIP = "" then
    bastionNotReady "Provisioning" "waiting for bastion public IP address" 10
  else do
    Pass.setObj fun sc => sc.setConditions .true "Available" "" [clusterBastionReadyCondition]
    pure ({}, true)

/-- The flag says whether the pass may go on: the bastion is usable, or there is none. -/
def reconcileBastion (env : Env σ) (client : Client σ) : Step σ (Result × Bool) := do
  let sc ← Pass.getObj
  if !sc.spec.bastion.enabled then disableBastion client
  else match validateBastionSpec sc.spec.bastion with
    | some err => bastionNotReady "InvalidBastionSpec" err.text 0
    | none =>
      match resolveBastionCloudInit env sc with
      | .error err => bastionNotReady "CloudInitRefError" err.text 0
      | .ok cloudInit =>
        if bastionNeedsRecreate env sc cloudInit then recreateBastion client cloudInit
        else ensureBastion env client cloudInit

/-! ### `reconcileNormal` -/

/-- `reconcileNormal` up to the bastion, once there is a cloud client. -/
def reconcileResources (env : Env σ) (client : Client σ) : Step σ (Option Result) := do
  Pass.setObj fun sc => sc.setConditions .true "Available" "" [clusterCredentialsReadyCondition]
  match ← attempt (Pass.call client.listAvailabilityZones) with
  | .error err =>
    pure (some (← cloudFailure "AvailabilityZonesError" err true [clusterReadyCondition]))
  | .ok zones => do
    Pass.setObj fun sc => sc.setFailureDomains (failureDomainsFromZones sc.spec.region zones)
    match ← ensureNetwork client with
    | .inl result => pure (some result)
    | .inr network => do
      Pass.setObj fun sc => sc.setConditions .true "Available" "" [clusterNetworkReadyCondition]
      reconcileEndpoint env client network

/-- The end of `reconcileNormal`. -/
def finishWithBastion (env : Env σ) (client : Client σ) : Step σ Result := do
  match ← attempt (reconcileBastion env client) with
  | .error err =>
    cloudFailure "BastionError" err false [clusterBastionReadyCondition, clusterReadyCondition]
  | .ok (result, ready) =>
    if !ready then pure result
    else do
      Pass.setObj StackitCluster.setReady
      pure {}

/-- `reconcileNormal` between the finalizer and the bastion: the result to return, or the client to
go on with. -/
def reconcileInfrastructure (env : Env σ) : Step σ (Result ⊕ Client σ) := do
  Pass.setObj fun sc => sc.setFailureDomains (stackitFailureDomains sc.spec.region)
  let sc ← Pass.getObj
  match buildCloudClient env.source sc with
  | .error err => do
    Pass.setObj StackitCluster.unready
    pure (.inl (← failWith fun cs g => credentialFailureResult cs g err credentialsRetryRequeueAfter
      [clusterCredentialsReadyCondition, clusterReadyCondition]))
  | .ok client => do
    match ← reconcileResources env client with
    | some result => pure (.inl result)
    | none => pure (.inr client)

/-- `reconcileNormal` once the finalizer is persisted. -/
def reconcileFinalized (env : Env σ) : Step σ Result := do
  match ← reconcileInfrastructure env with
  | .inl result => pure result
  | .inr client => finishWithBastion env client

def reconcileNormal (env : Env σ) : Step σ Result := do
  persistFinalizer
  reconcileFinalized env

/-! ### `reconcileDelete` -/

/-- A load balancer that is already gone counts as deleted. -/
def deleteLoadBalancer (client : Client σ) : Step σ Unit := do
  let sc ← Pass.getObj
  let id ← Pass.call (resolveLoadBalancerID client sc)
  if id = "" then pure ()
  else do
    Pass.call (tolerate isNotFound (client.deleteAPIServerLoadBalancer id))
    Pass.setObj fun sc => sc.setLoadBalancerID ""

/-- Also without a recorded bastion: the resources are then looked for by their tags. -/
def deleteBastion (client : Client σ) : Step σ Unit := do
  let sc ← Pass.getObj
  Pass.call (tolerate isNotFound (client.deleteNodeSSHAccess (nodeSSHAccessTags sc)))
  Pass.call (tolerate isNotFound
    (client.deleteBastion (bastionInput sc "") (recordedBastion sc.status.bastion)))
  if hasBastionStatus sc.status.bastion then Pass.setObj StackitCluster.clearBastionStatus
  else pure ()

/-- A network that is still in use is tried again later: the answer is then a result. -/
def deleteManagedNetwork (client : Client σ) : Step σ (Option Result) := do
  let sc ← Pass.getObj
  let id ← Pass.call (resolveManagedNetworkID client sc)
  if id = "" then pure none
  else
    match ← attempt (Pass.call (tolerate isNotFound (client.deleteNetwork id))) with
    | .ok _ => do
      Pass.setObj fun sc => sc.setNetwork {}
      pure none
    | .error err =>
      if isConflict err then do
        Pass.setObj fun sc => sc.setConditions .false "NetworkInUse" err.text
          [clusterNetworkReadyCondition]
        pure (some { requeueAfter := deleteRequeueAfter })
      else fail err

/-- Once this is patched, the API server lets the StackitCluster go. -/
def dropFinalizer : Step σ Unit :=
  Pass.setObj fun sc => { sc with metadata := removeFinalizer sc.metadata clusterFinalizer }

/-- `reconcileDelete` once there is a cloud client. -/
def deleteResources (client : Client σ) : Step σ Result := do
  deleteLoadBalancer client
  deleteBastion client
  match ← deleteManagedNetwork client with
  | some result => pure result
  | none => do
    dropFinalizer
    pure {}

/-- Nothing is deleted while Machines of the cluster are left. A missing credentials Secret
finalizes without cleanup. -/
def reconcileDelete (env : Env σ) (cluster : Cluster) : Step σ Result :=
  match env.machines with
  | .error err => fail (wrapf ("list Machines for cluster " ++ cluster.metadata.name) err)
  | .ok (_ :: _) => pure { requeueAfter := deleteRequeueAfter }
  | .ok [] => do
    let sc ← Pass.getObj
    match buildCloudClient env.source sc with
    | .error err =>
      if isAPINotFound err then do
        dropFinalizer
        pure {}
      else do
        Pass.setObj fun sc => sc.setConditions .false "CredentialsInvalid" err.text
          [clusterCredentialsReadyCondition]
        fail err
    | .ok client => deleteResources client

/-! ### `Reconcile` -/

/-- What `Reconcile` does between creating the scope and the deferred patch. -/
def reconcileScope (env : Env σ) (cluster : Cluster) : Step σ Result := do
  let sc ← Pass.getObj
  let paused := reconciliationPaused (some cluster) sc.metadata
  Pass.setObj fun sc =>
    { sc with conditions := setPausedCondition sc.conditions sc.metadata.generation paused }
  if paused.isSome then pure {}
  else if sc.metadata.deleting then reconcileDelete env cluster
  else reconcileNormal env

/-- What the API server answers at the start of a pass. -/
structure Answers where
  getStackitCluster : Option GoError := none
  getOwnerCluster : Except GoError (Option Cluster)
  newPatchHelper : Option GoError := none

/-- `Reconcile`. An object without an owner yet is left alone. -/
def reconcile (answers : Answers) (env : Env σ) : Step σ Result := do
  let stored := (← Prog.get).stored
  if ObjectMeta.gone stored.metadata then pure {}
  else match answers.getStackitCluster with
    | some err => if isAPINotFound err then pure {} else fail err
    | none =>
      match answers.getOwnerCluster with
      | .error err => fail (wrapf "get owner cluster" err)
      | .ok none => pure {}
      | .ok (some cluster) =>
        match answers.newPatchHelper with
        | some err => fail (wrapf "create cluster scope" err)
        | none => do
          Pass.setObj fun _ => stored
          Pass.withDeferredPatch (reconcileScope env cluster)

end ClusterReconciler

end Capstk
