import Capstk.Services

/-!
# The StackitMachine controller (`controller/stackitmachine_*.go`, `controller/server_state.go`)

A machine's server is the one `status.instanceID` names, otherwise the one that carries the
machine's tags. `reconcileNormal` creates it only when neither exists and none was provisioned
before; `reconcileDelete` drops the finalizer only once the cloud has confirmed that it is gone.
-/

namespace Capstk

open Prog

/-! ### Server states -/

/-- `warn` marks states that do not resolve on their own. -/
structure ServerStateInfo where
  reason : String
  description : String
  warn : Bool
deriving DecidableEq, Repr

/-- The `serverStates` table; a state it does not list is `none`. -/
def serverStates : String → Option ServerStateInfo
  | "ACTIVE" => some ⟨"InstanceActive", "server is active", false⟩
  | "BACKING-UP" => some ⟨"InstanceBusy", "server is temporarily unavailable", false⟩
  | "CREATING" => some ⟨"InstanceStarting", "server is starting", false⟩
  | "DEALLOCATED" => some ⟨"InstanceDeallocated", "server is deallocated", true⟩
  | "DEALLOCATING" => some ⟨"InstanceDeallocating", "server is being deallocated", false⟩
  | "DELETED" => some ⟨"InstanceDeleting", "server is deleted", false⟩
  | "DELETING" => some ⟨"InstanceDeleting", "server is being deleted", false⟩
  | "ERROR" => some ⟨"InstanceFailed", "server failed", true⟩
  | "INACTIVE" => some ⟨"InstanceStopped", "server is stopped", true⟩
  | "MIGRATING" => some ⟨"InstanceBusy", "server is temporarily unavailable", false⟩
  | "PAUSED" => some ⟨"InstancePaused", "server is paused", true⟩
  | "REBOOT" => some ⟨"InstanceBusy", "server is temporarily unavailable", false⟩
  | "REBOOTING" => some ⟨"InstanceBusy", "server is temporarily unavailable", false⟩
  | "REBUILD" => some ⟨"InstanceBusy", "server is temporarily unavailable", false⟩
  | "REBUILDING" => some ⟨"InstanceBusy", "server is temporarily unavailable", false⟩
  | "RESCUE" => some ⟨"InstanceInRescue", "server is in rescue mode", true⟩
  | "RESCUING" => some ⟨"InstanceEnteringRescue", "server is entering rescue mode", false⟩
  | "RESIZING" => some ⟨"InstanceBusy", "server is temporarily unavailable", false⟩
  | "RESTORING" => some ⟨"InstanceBusy", "server is temporarily unavailable", false⟩
  | "SNAPSHOTTING" => some ⟨"InstanceBusy", "server is temporarily unavailable", false⟩
  | "STARTING" => some ⟨"InstanceStarting", "server is starting", false⟩
  | "STOPPING" => some ⟨"InstanceStopping", "server is stopping", false⟩
  | "UNRESCUING" => some ⟨"InstanceLeavingRescue", "server is leaving rescue mode", false⟩
  | "UPDATING" => some ⟨"InstanceBusy", "server is temporarily unavailable", false⟩
  | _ => none

/-- What a server's state means for the condition of its machine. -/
structure ServerCondition where
  ready : Bool
  reason : String := ""
  message : String := ""
  warn : Bool := false
deriving DecidableEq, Repr

/-- A server without a state is taken to be ready; an active one is not if it has crashed or has a
power error. -/
def serverStateCondition (state powerStatus : String) : ServerCondition :=
  if state = "" then { ready := true }
  else
    let info := (serverStates state).getD ⟨"InstanceNotActive", "server is not active", false⟩
    let crashed := state = "ACTIVE" ∧ powerStatus = "CRASHED"
    let powerError := state = "ACTIVE" ∧ powerStatus = "ERROR"
    let info := if crashed then ⟨"InstanceCrashed", "server crashed", true⟩
      else if powerError then ⟨"InstancePowerError", "server power error", true⟩ else info
    let details :=
      "state " ++ state ++ (if powerStatus = "" then "" else ", power status " ++ powerStatus)
    { ready := decide (state = "ACTIVE" ∧ ¬ crashed ∧ ¬ powerError), reason := info.reason,
      message := info.description ++ " (" ++ details ++ ")", warn := info.warn }

/-! ### Parts of a pass -/

namespace MachineReconciler
variable {σ : Type}

/-- A part of a machine pass. -/
abbrev Step (σ α : Type) : Type := Pass.Step StackitMachine σ α

/-- What is wrong with the zone that the machine asks for. A cluster that publishes no failure
domains accepts any. -/
def validateMachineAvailabilityZone (ctx : MachineContext) (sm : StackitMachine) : Option String :=
  let domains := ctx.stackitCluster.status.failureDomains
  let knownAZ (zone : String) : Bool := domains.any (·.name == zone)
  let az := sm.spec.availabilityZone
  let fd := ctx.machine.failureDomain
  if domains.isEmpty then none
  else if az ≠ "" ∧ !knownAZ az then
    some ("availabilityZone " ++ quote az ++
      " is not published in StackitCluster status.failureDomains")
  else if fd ≠ "" ∧ !knownAZ fd then
    some ("machine failureDomain " ++ quote fd ++
      " is not published in StackitCluster status.failureDomains")
  else none

/-- The bootstrap data, or the reason and message of the failed condition. -/
def fetchBootstrapData (src : ClientSource σ) (machine : Machine) :
    Except (String × String) String :=
  let name := machine.dataSecretName.getD ""
  let key : NamespacedName := ⟨machine.metadata.namespace', name⟩
  if name = "" then
    .error ("BootstrapDataSecretMissing", "Machine.spec.bootstrap.dataSecretName is empty")
  else match src.getSecret key with
    | .error err =>
      if isAPINotFound err then
        .error ("BootstrapDataSecretNotFound", "bootstrap secret " ++ key.text ++ " not found")
      else .error ("BootstrapDataSecretError", err.text)
    | .ok secret =>
      match extractBootstrapData secret with
      | .error err => .error (bootstrapReasonInvalid, err.text)
      | .ok data => .ok data

/-- What the server of a machine is created with; it has the name of the StackitMachine. -/
def createServerInput (ctx : MachineContext) (sm : StackitMachine) (userData : String) :
    CreateServerInput where
  name := sm.metadata.name
  imageID := sm.spec.imageID
  machineType := sm.spec.machineType
  availabilityZone := ctx.availabilityZone sm
  sshKeyName := sm.spec.sshKeyName
  networkID := ctx.networkID sm
  securityGroups := sm.spec.securityGroups
  userData := userData
  tags := ctx.tags sm
  rootVolume := rootVolumeInput sm.spec.rootVolume

/-- The end of `ensureServer`: no server was found. One that was provisioned before is not
recreated. -/
def createMissingServer (client : Client σ) (ctx : MachineContext) (sm : StackitMachine)
    (userData : String) : Call σ Server :=
  if sm.status.provisioned then
    fail (errorf .errInstanceGone
      ("server " ++ sm.status.instanceID ++ "; the Machine must be replaced"))
  else if ctx.networkID sm = "" then
    fail (errorf .errTransient "cluster network ID is not yet available")
  else client.createServer (createServerInput ctx sm userData)

/-- Without the flag `created`, which only feeds an event. -/
def ensureServer (client : Client σ) (ctx : MachineContext) (sm : StackitMachine)
    (userData : String) : Call σ Server :=
  let byTags := existingOr isNotFound (client.findServerByTags (ctx.tags sm))
    (createMissingServer client ctx sm userData)
  if sm.status.instanceID ≠ "" then
    existingOr isNotFound (client.getServer sm.status.instanceID) byTags
  else byTags

/-- Let the bastion reach the server, if the cluster has one. -/
def reconcileBastionNodeSSHAccess (client : Client σ) (ctx : MachineContext) (server : Server) :
    Call σ Unit :=
  let sc := ctx.stackitCluster
  if !sc.spec.bastion.enabled then pure ()
  else if sc.status.bastion.securityGroupID = "" then
    fail (errorf .errTransient "bastion security group ID is empty")
  else if server.id = "" then fail (errorf .errTransient "server ID is empty")
  else do
    let _ ← client.ensureNodeSSHAccess
      { name := sc.metadata.name ++ "-node-ssh", serverID := server.id,
        bastionSecurityGroupID := sc.status.bastion.securityGroupID, tags := nodeSSHAccessTags sc }
    pure ()

/-! ### A pass -/

/-- Set the conditions of a failure and return its result. -/
def failWith (f : List Condition → Int → List Condition × Except GoError Result) :
    Step σ Result := do
  let sm ← Pass.getObj
  let (conditions, result) := f sm.conditions sm.metadata.generation
  Pass.setObj fun sm => { sm with conditions }
  match result with
  | .ok r => pure r
  | .error err => fail err

/-- The finalizer is persisted before anything is created in the cloud. -/
def persistFinalizer : Step σ Unit := do
  let sm ← Pass.getObj
  if containsFinalizer sm.metadata machineFinalizer then pure ()
  else do
    Pass.setObj fun sm => { sm with metadata := addFinalizer sm.metadata machineFinalizer }
    match ← attempt (Pass.patchObject : Step σ Unit) with
    | .ok _ => pure ()
    | .error err => fail (wrapf "persist finalizer" err)

/-- The types of the two sides have the same names. -/
def machineAddressesFromCloud (addresses : List Address) : List MachineAddress :=
  addresses.map fun a => ⟨a.type, a.address⟩

/-- `reconcileNormal` once the server is known. -/
def reconcileServer (client : Client σ) (ctx : MachineContext) (server : Server) :
    Step σ Result := do
  Pass.setObj fun sm =>
    { sm with status.addresses := machineAddressesFromCloud server.addresses }.setInstance server
  let condition := serverStateCondition server.state server.powerStatus
  if !condition.ready then do
    Pass.setObj fun sm =>
      sm.setNotReady condition.reason condition.message
        [machineInstanceReadyCondition, machineReadyCondition]
    pure { requeueAfter := 15 }
  else do
    match ← attempt (Pass.call (reconcileBastionNodeSSHAccess client ctx server)) with
    | .error err => do
      Pass.setObj fun sm => sm.setNotReady "BastionSSHAccessError" err.text [machineReadyCondition]
      failWith fun cs g => cloudFailureResult cs g "BastionSSHAccessError" err
        retryableErrorRequeueAfter true [machineReadyCondition]
    | .ok _ => do
      Pass.setObj StackitMachine.setReady
      pure {}

/-- `reconcileNormal` once there is a cloud client. -/
def reconcileInstance (client : Client σ) (ctx : MachineContext) (bootstrapData : String) :
    Step σ Result := do
  Pass.setObj fun sm => sm.setConditions .true "Available" "" [machineCredentialsReadyCondition]
  let sm ← Pass.getObj
  match ← attempt (Pass.call (ensureServer client ctx sm bootstrapData)) with
  | .ok server => reconcileServer client ctx server
  | .error err =>
    if err.wraps = some .errInstanceGone then do
      Pass.setObj fun sm =>
        sm.setNotReady "InstanceNotFound" err.text
          [machineInstanceReadyCondition, machineReadyCondition]
      pure {}
    else do
      Pass.setObj fun sm =>
        sm.setNotReady "InstanceError" err.text
          [machineInstanceReadyCondition, machineReadyCondition]
      failWith fun cs g => cloudFailureResult cs g "InstanceError" err
        retryableErrorRequeueAfter true [machineInstanceReadyCondition, machineReadyCondition]

/-- `reconcileNormal` once the cluster is ready and the availability zone is known. -/
def reconcileBootstrap (src : ClientSource σ) (ctx : MachineContext) : Step σ Result :=
  match fetchBootstrapData src ctx.machine with
  | .error (reason, message) => do
    Pass.setObj fun sm => sm.setConditions .false reason message [machineBootstrapReadyCondition]
    Pass.setObj fun sm => sm.setConditions .false reason message [machineReadyCondition]
    pure (if reason = bootstrapReasonInvalid then {}
      else { requeueAfter := retryableErrorRequeueAfter })
  | .ok bootstrapData => do
    Pass.setObj fun sm => sm.setConditions .true "Available" "" [machineBootstrapReadyCondition]
    match buildCloudClient src ctx.stackitCluster with
    | .error err =>
      failWith fun cs g => credentialFailureResult cs g err credentialsRetryRequeueAfter
        [machineCredentialsReadyCondition, machineReadyCondition]
    | .ok client => reconcileInstance client ctx bootstrapData

/-- Until the cluster is ready, the machine only waits. -/
def reconcileNormal (src : ClientSource σ) (ctx : MachineContext) : Step σ Result := do
  persistFinalizer
  let sm ← Pass.getObj
  if !ctx.stackitCluster.status.ready then do
    Pass.setObj fun sm =>
      sm.setNotReady "InfrastructureNotReady" "waiting for StackitCluster to be ready"
        [machineReadyCondition]
    pure {}
  else match validateMachineAvailabilityZone ctx sm with
    | some message => do
      Pass.setObj fun sm =>
        sm.setNotReady "InvalidFailureDomain" message
          [machineInstanceReadyCondition, machineReadyCondition]
      pure {}
    | none => reconcileBootstrap src ctx

/-- An empty answer means that the cloud has no server of this machine. -/
def resolveServerForDeletion (client : Client σ) (ctx : MachineContext) (sm : StackitMachine) :
    Call σ String :=
  if sm.status.instanceID ≠ "" then pure sm.status.instanceID
  else existingOr isNotFound (do pure (← client.findServerByTags (ctx.tags sm)).id) (pure "")

/-- Once this is patched, the API server lets the StackitMachine go. -/
def dropFinalizer : Step σ Unit :=
  Pass.setObj fun sm => { sm with metadata := removeFinalizer sm.metadata machineFinalizer }

/-- `reconcileDelete` once there is a cloud client. -/
def deleteInstance (client : Client σ) (ctx : MachineContext) : Step σ Unit := do
  let sm ← Pass.getObj
  let instanceID ← Pass.call (resolveServerForDeletion client ctx sm)
  if instanceID ≠ "" then do
    Pass.call (tolerate isNotFound (client.deleteServer instanceID))
    Pass.setObj StackitMachine.clearInstance
    dropFinalizer
  else dropFinalizer

/-- A missing credentials Secret finalizes without cleanup. For any other problem the delay that
`CredentialFailureResult` asks for is discarded; only its error is returned. -/
def reconcileDelete (src : ClientSource σ) (ctx : MachineContext) : Step σ Unit :=
  match buildCloudClient src ctx.stackitCluster with
  | .error err =>
    if isAPINotFound err then dropFinalizer
    else do
      let _ ← failWith fun cs g => credentialFailureResult cs g err credentialsRetryRequeueAfter
        [machineCredentialsReadyCondition]
      pure ()
  | .ok client => deleteInstance client ctx

/-! ### `Reconcile` -/

/-- What the API server answers during a pass. -/
structure Answers (σ : Type) where
  /-- The error of reading the StackitMachine, if any. -/
  getStackitMachine : Option GoError := none
  getOwnerMachine : Except GoError (Option Machine)
  getClusterFromMetadata : Machine → Except GoError (Option Cluster)
  getStackitCluster : NamespacedName → Except GoError StackitCluster
  newPatchHelper : Option GoError := none
  source : ClientSource σ

/-- The StackitCluster that the Cluster refers to; one that does not exist yet is no error. -/
def getStackitCluster (answers : Answers σ) (cluster : Cluster) :
    Except GoError (Option StackitCluster) :=
  let key : NamespacedName := ⟨cluster.metadata.namespace', cluster.infrastructureRef.name⟩
  if cluster.infrastructureRef.name = "" then .ok none
  else match answers.getStackitCluster key with
    | .ok sc => .ok (some sc)
    | .error err =>
      if isAPINotFound err then .ok none else .error (wrapf ("get StackitCluster " ++ key.text) err)

/-- The lookups at the start of `Reconcile`; `none` when one of the objects is not there yet. -/
def lookupContext (answers : Answers σ) : Except GoError (Option MachineContext) :=
  match answers.getOwnerMachine with
  | .error err => .error (wrapf "get owner machine" err)
  | .ok none => .ok none
  | .ok (some machine) =>
    match answers.getClusterFromMetadata machine with
    | .error err => .error (wrapf "get cluster from machine metadata" err)
    | .ok none => .ok none
    | .ok (some cluster) =>
      match getStackitCluster answers cluster with
      | .error err => .error err
      | .ok none => .ok none
      | .ok (some stackitCluster) =>
        match answers.newPatchHelper with
        | some err => .error (wrapf "create machine scope" err)
        | none => .ok (some { cluster, machine, stackitCluster })

/-- What `Reconcile` does between creating the scope and the deferred patch. -/
def reconcileScope (src : ClientSource σ) (ctx : MachineContext) : Step σ Result := do
  let sm ← Pass.getObj
  let paused := reconciliationPaused (some ctx.cluster) sm.metadata
  Pass.setObj fun sm =>
    { sm with conditions := setPausedCondition sm.conditions sm.metadata.generation paused }
  if paused.isSome then pure {}
  else if sm.metadata.deleting then do
    reconcileDelete src ctx
    pure {}
  else reconcileNormal src ctx

/-- `Reconcile`. An object whose owner or cluster is not there yet is left alone. -/
def reconcile (answers : Answers σ) : Step σ Result := do
  let stored := (← Prog.get).stored
  if ObjectMeta.gone stored.metadata then pure {}
  else match answers.getStackitMachine with
    | some err => if isAPINotFound err then pure {} else fail err
    | none =>
      match lookupContext answers with
      | .error err => fail err
      | .ok none => pure {}
      | .ok (some ctx) => do
        Pass.setObj fun _ => stored
        Pass.withDeferredPatch (reconcileScope answers.source ctx)

end MachineReconciler

end Capstk
