import Capstk.Lib.Thread
import Capstk.SdkClient
import Capstk.ClusterReconciler

/-!
# Calls, request by request

The calls by which the two controllers work on the node SSH group, as threads: other reconciles may
come in between any two of their requests. So is the call that sets the rules of the bastion's
group, which may be cut off after any request. Each of them runs as the call of the SDK client it is
named after (`run_…`) when nothing comes in between.
-/

namespace Capstk.Stepwise

open SDKClient Thread

/-- A call whose requests can be interleaved with those of others. -/
abbrev Steps (α : Type) : Type := Thread Request Session GoError α

variable {α β : Type}

def request (op : String) (req : Request) (effect : Cloud.Effect α) : Steps α :=
  .atomically req (Capstk.request op req effect)

@[simp] theorem run_request (op : String) (req : Request) (effect : Cloud.Effect α) :
    run (request op req effect) = Capstk.request op req effect := rfl

/-! ### Shapes -/

def existingOr (absent : GoError → Bool) (find create : Steps α) : Steps α := do
  match ← attempt find with
  | .ok existing => pure existing
  | .error err => if absent err then create else fail err

@[simp] theorem run_existingOr (absent : GoError → Bool) (find create : Steps α) :
    run (existingOr absent find create) = Capstk.existingOr absent (run find) (run create) := by
  rw [existingOr, run_bind, run_attempt, Capstk.existingOr]
  congr 1
  funext r
  cases r with
  | ok a => rfl
  | error e => exact run_ite _ _

def tolerate (expected : GoError → Bool) (call : Steps Unit) : Steps Unit := do
  match ← attempt call with
  | .ok _ => pure ()
  | .error err => if expected err then pure () else fail err

@[simp] theorem run_tolerate (expected : GoError → Bool) (call : Steps Unit) :
    run (tolerate expected call) = Capstk.tolerate expected (run call) := by
  rw [tolerate, run_bind, run_attempt, Capstk.tolerate]
  congr 1
  funext r
  cases r with
  | ok a => rfl
  | error e => exact run_ite _ _

def single (one many : String) : List α → Steps α
  | [] => fail (errorf .errNotFound ("no " ++ one ++ " matching tags"))
  | [a] => pure a
  | _ => fail (errorf .errConflict ("multiple " ++ many ++ " matching tags"))

@[simp] theorem run_single (one many : String) (l : List α) :
    run (single one many l) = SDKClient.single one many l := by
  match l with
  | [] => rfl
  | [a] => rfl
  | _ :: _ :: _ => rfl

def requireTags (tags : StringMap) (call : Steps α) : Steps α :=
  if tags.entries.isEmpty then fail (errorf .errInvalidInput "empty tag selector") else call

@[simp] theorem run_requireTags (tags : StringMap) (call : Steps α) :
    run (requireTags tags call) = SDKClient.requireTags tags (run call) := run_ite _ _

def when' (cond : Bool) (call : Steps Unit) : Steps Unit := if cond then call else pure ()

@[simp] theorem run_when' (cond : Bool) (call : Steps Unit) :
    run (when' cond call) = SDKClient.when' cond (run call) := run_ite _ _

/-! ### Look-ups -/

def serverFromSDK (server : SDKServer) : Steps Server := do
  let nics ← attempt
    (request "list server NICs" (.listServerNICs server.id) (Cloud.listServerNICs server.id))
  let addresses := match nics with
    | .ok nics => nics.flatMap nicAddresses
    | .error _ => []
  pure
    { id := server.id, name := server.name, state := server.status,
      powerStatus := server.powerStatus, availabilityZone := server.availabilityZone, addresses }

@[simp] theorem run_serverFromSDK (server : SDKServer) :
    run (serverFromSDK server) = SDKClient.serverFromSDK server := rfl

def serversFromSDK (tags : StringMap) : List SDKServer → Steps (List Server)
  | [] => pure []
  | server :: rest =>
    if labelsContainTags server.labels tags then do
      let s ← serverFromSDK server
      let matched ← serversFromSDK tags rest
      pure (s :: matched)
    else serversFromSDK tags rest

@[simp] theorem run_serversFromSDK (tags : StringMap) (l : List SDKServer) :
    run (serversFromSDK tags l) = SDKClient.serversFromSDK tags l := by
  induction l with
  | nil => rfl
  | cons server rest ih =>
    rw [serversFromSDK, run_ite, SDKClient.serversFromSDK]
    simp only [run_bind, run_pure, run_serverFromSDK, ih]

def listServersByTags (tags : StringMap) : Steps (List Server) :=
  requireTags tags do
    let items ← request "list servers" (.listServers tags) (Cloud.listServers tags)
    serversFromSDK tags items

@[simp] theorem run_listServersByTags (tags : StringMap) :
    run (listServersByTags tags) = SDKClient.listServersByTags tags := by
  simp only [listServersByTags, SDKClient.listServersByTags, run_requireTags, run_bind, run_request,
    run_serversFromSDK]

def findServerByTags (tags : StringMap) : Steps Server := do
  single "server" "servers" (← listServersByTags tags)

@[simp] theorem run_findServerByTags (tags : StringMap) :
    run (findServerByTags tags) = SDKClient.findServerByTags tags := by
  simp only [findServerByTags, SDKClient.findServerByTags, run_bind, run_listServersByTags,
    run_single]

def findPublicIPByTags (tags : StringMap) : Steps PublicIP := do
  single "public IP" "public IPs" (← requireTags tags do
    let items ← request "list public IPs" (.listPublicIPs tags) (Cloud.listPublicIPs tags)
    pure ((items.filter fun p => labelsContainTags p.labels tags).map publicIPFromSDK))

@[simp] theorem run_findPublicIPByTags (tags : StringMap) :
    run (findPublicIPByTags tags) = SDKClient.findPublicIPByTags tags := by
  simp only [findPublicIPByTags, SDKClient.findPublicIPByTags, listPublicIPsByTags, run_bind,
    run_requireTags, run_request, run_pure, run_single]

def findSecurityGroupByTags (tags : StringMap) : Steps SecurityGroup := do
  single "security group" "security groups" (← requireTags tags do
    let items ← request "list security groups" (.listSecurityGroups tags)
      (Cloud.listSecurityGroups tags)
    pure ((items.filter fun g => labelsContainTags g.labels tags).map securityGroupFromSDK))

@[simp] theorem run_findSecurityGroupByTags (tags : StringMap) :
    run (findSecurityGroupByTags tags) = SDKClient.findSecurityGroupByTags tags := by
  simp only [findSecurityGroupByTags, SDKClient.findSecurityGroupByTags, listSecurityGroupsByTags,
    run_bind, run_requireTags, run_request, run_pure, run_single]

/-! ### `EnsureNodeSSHAccess` -/

def ensureNodeSSHSecurityGroup (input : NodeSSHAccessInput) : Steps SecurityGroup :=
  existingOr isNotFound (findSecurityGroupByTags input.tags) do
    let group ← request "create security group"
      (.createSecurityGroup input.name "Cluster API Provider STACKIT node SSH access from bastion"
        input.tags)
      (Cloud.createSecurityGroup input.name
        "Cluster API Provider STACKIT node SSH access from bastion" input.tags)
    pure (securityGroupFromSDK group)

@[simp] theorem run_ensureNodeSSHSecurityGroup (input : NodeSSHAccessInput) :
    run (ensureNodeSSHSecurityGroup input) = SDKClient.ensureNodeSSHSecurityGroup input := by
  simp only [ensureNodeSSHSecurityGroup, SDKClient.ensureNodeSSHSecurityGroup, ensureSecurityGroup,
    run_existingOr, run_findSecurityGroupByTags, run_bind, run_request, run_pure]

def listRules (groupID : String) : Steps (List SDKRule) :=
  request "list security group rules" (.listSecurityGroupRules groupID)
    (Cloud.listSecurityGroupRules groupID)

@[simp] theorem run_listRules (groupID : String) :
    run (listRules groupID) = SDKClient.listRules groupID := rfl

def createRule (groupID : String) (payload : SDKRulePayload) : Steps Unit :=
  request "create security group rule" (.createSecurityGroupRule groupID payload)
    (Cloud.createSecurityGroupRule groupID payload)

@[simp] theorem run_createRule (groupID : String) (payload : SDKRulePayload) :
    run (createRule groupID payload) = SDKClient.createRule groupID payload := rfl

def ensureNodeSSHSecurityGroupRule (nodeGroupID bastionGroupID : String) : Steps Unit :=
  if nodeGroupID = "" ∨ bastionGroupID = "" then
    fail (errorf .errInvalidInput "node and bastion security group IDs are required")
  else do
    let rules ← listRules nodeGroupID
    if hasRemoteSecurityGroupSSHRule rules bastionGroupID then pure ()
    else
      createRule nodeGroupID
        { direction := "ingress", remoteSecurityGroupID := bastionGroupID, portMin := sshPort,
          portMax := sshPort, protocol := some tcpProtocol }

@[simp] theorem run_ensureNodeSSHSecurityGroupRule (nodeGroupID bastionGroupID : String) :
    run (ensureNodeSSHSecurityGroupRule nodeGroupID bastionGroupID) =
      SDKClient.ensureNodeSSHSecurityGroupRule nodeGroupID bastionGroupID := by
  simp only [ensureNodeSSHSecurityGroupRule, SDKClient.ensureNodeSSHSecurityGroupRule, run_ite,
    run_fail, run_bind, run_listRules, run_pure, run_createRule]

def addSecurityGroupToServer (serverID groupID : String) : Steps Unit :=
  tolerate (fun err => isConflict err || isInvalidInput err || isNotFound err)
    (request "add security group to server" (.addSecurityGroupToServer serverID groupID)
      (Cloud.addSecurityGroupToServer serverID groupID))

@[simp] theorem run_addSecurityGroupToServer (serverID groupID : String) :
    run (addSecurityGroupToServer serverID groupID) =
      SDKClient.addSecurityGroupToServer serverID groupID :=
  run_tolerate _ _

def ensureNodeSSHAccess (input : NodeSSHAccessInput) : Steps SecurityGroup :=
  if input.name = "" ∨ input.serverID = "" ∨ input.bastionSecurityGroupID = "" then
    fail (errorf .errInvalidInput
      "node SSH access name, server ID, and bastion security group ID are required")
  else if input.tags.entries.isEmpty then
    fail (errorf .errInvalidInput "node SSH access tags are required")
  else do
    let securityGroup ← ensureNodeSSHSecurityGroup input
    ensureNodeSSHSecurityGroupRule securityGroup.id input.bastionSecurityGroupID
    addSecurityGroupToServer input.serverID securityGroup.id
    pure securityGroup

@[simp] theorem run_ensureNodeSSHAccess (input : NodeSSHAccessInput) :
    run (ensureNodeSSHAccess input) = SDKClient.ensureNodeSSHAccess input := by
  simp only [ensureNodeSSHAccess, SDKClient.ensureNodeSSHAccess, run_ite, run_fail, run_bind,
    run_pure, run_ensureNodeSSHSecurityGroup, run_ensureNodeSSHSecurityGroupRule,
    run_addSecurityGroupToServer]

/-! ### `DeleteNodeSSHAccess` -/

def removeSecurityGroupFromServer (serverID groupID : String) : Steps Unit :=
  tolerate (fun err => isNotFound err || isConflict err)
    (request "remove security group from server" (.removeSecurityGroupFromServer serverID groupID)
      (Cloud.removeSecurityGroupFromServer serverID groupID))

@[simp] theorem run_removeSecurityGroupFromServer (serverID groupID : String) :
    run (removeSecurityGroupFromServer serverID groupID) =
      SDKClient.removeSecurityGroupFromServer serverID groupID :=
  run_tolerate _ _

def deleteRule (groupID : String) (rule : SDKRule) : Steps Unit :=
  if rule.id = "" then pure ()
  else tolerate isNotFound
    (request "delete security group rule" (.deleteSecurityGroupRule groupID rule.id)
      (Cloud.deleteSecurityGroupRule groupID rule.id))

@[simp] theorem run_deleteRule (groupID : String) (rule : SDKRule) :
    run (deleteRule groupID rule) = SDKClient.deleteRule groupID rule := by
  simp only [deleteRule, SDKClient.deleteRule, run_ite, run_pure, run_tolerate, run_request]

def deleteSecurityGroupRules (groupID : String) : Steps Unit := do
  match ← attempt (listRules groupID) with
  | .error err => if isNotFound err then pure () else fail err
  | .ok rules => forEach rules (deleteRule groupID)

@[simp] theorem run_deleteSecurityGroupRules (groupID : String) :
    run (deleteSecurityGroupRules groupID) = SDKClient.deleteSecurityGroupRules groupID := by
  rw [deleteSecurityGroupRules, run_bind, run_attempt, run_listRules,
    SDKClient.deleteSecurityGroupRules]
  congr 1
  funext r
  cases r with
  | ok rules => simp only [run_forEach, run_deleteRule]
  | error e => exact run_ite _ _

def deleteSecurityGroup (groupID : String) : Steps Unit := do
  deleteSecurityGroupRules groupID
  tolerate isNotFound (request "delete security group" (.deleteSecurityGroup groupID)
    (Cloud.deleteSecurityGroup groupID))

@[simp] theorem run_deleteSecurityGroup (groupID : String) :
    run (deleteSecurityGroup groupID) = SDKClient.deleteSecurityGroup groupID := by
  simp only [deleteSecurityGroup, SDKClient.deleteSecurityGroup, run_bind,
    run_deleteSecurityGroupRules, run_tolerate, run_request]

/-- `DeleteNodeSSHAccess` once the group is found. -/
def detachAndDelete (tags : StringMap) (groupID : String) : Steps Unit := do
  let servers ← listServersByTags (clusterServerSelectorFromTags tags)
  forEach servers fun server => removeSecurityGroupFromServer server.id groupID
  deleteSecurityGroup groupID

def deleteNodeSSHAccess (tags : StringMap) : Steps Unit := do
  match ← attempt (findSecurityGroupByTags tags) with
  | .error err => if isNotFound err then pure () else fail err
  | .ok securityGroup => detachAndDelete tags securityGroup.id

@[simp] theorem run_deleteNodeSSHAccess (tags : StringMap) :
    run (deleteNodeSSHAccess tags) = SDKClient.deleteNodeSSHAccess tags := by
  rw [deleteNodeSSHAccess, run_bind, run_attempt, run_findSecurityGroupByTags,
    SDKClient.deleteNodeSSHAccess]
  congr 1
  funext r
  cases r with
  | ok group =>
    simp only [detachAndDelete, run_bind, run_listServersByTags, run_forEach,
      run_removeSecurityGroupFromServer, run_deleteSecurityGroup]
  | error e => exact run_ite _ _

/-! ### `DeleteBastion` -/

def idOrFind (recorded : String) (find : Steps String) : Steps String :=
  if recorded = "" then existingOr isNotFound find (pure "") else pure recorded

@[simp] theorem run_idOrFind (recorded : String) (find : Steps String) :
    run (idOrFind recorded find) = SDKClient.idOrFind recorded (run find) := by
  simp only [idOrFind, SDKClient.idOrFind, run_ite, run_existingOr, run_pure]

def deletePublicIP (id : String) : Steps Unit :=
  tolerate isNotFound (request "delete public IP" (.deletePublicIP id) (Cloud.deletePublicIP id))

@[simp] theorem run_deletePublicIP (id : String) :
    run (deletePublicIP id) = SDKClient.deletePublicIP id := run_tolerate _ _

def removePublicIpFromServer (serverID publicIPID : String) : Steps Unit :=
  tolerate (fun err => isNotFound err || isConflict err)
    (request "remove public IP from server" (.removePublicIpFromServer serverID publicIPID)
      (Cloud.removePublicIpFromServer serverID publicIPID))

@[simp] theorem run_removePublicIpFromServer (serverID publicIPID : String) :
    run (removePublicIpFromServer serverID publicIPID) =
      SDKClient.removePublicIpFromServer serverID publicIPID :=
  run_tolerate _ _

def deleteServer (id : String) : Steps Unit :=
  request "delete server" (.deleteServer id) (Cloud.deleteServer id)

@[simp] theorem run_deleteServer (id : String) :
    run (deleteServer id) = SDKClient.deleteServer id := rfl

def deleteBastion (input : BastionInput) (status : Bastion) : Steps Unit := do
  let serverID ← idOrFind status.serverID do pure (← findServerByTags input.tags).id
  let publicIPID ← idOrFind status.publicIPID do pure (← findPublicIPByTags input.tags).id
  let securityGroupID ← idOrFind status.securityGroupID do
    pure (← findSecurityGroupByTags input.tags).id
  when' (serverID != "" && publicIPID != "") (removePublicIpFromServer serverID publicIPID)
  when' (serverID != "" && securityGroupID != "")
    (removeSecurityGroupFromServer serverID securityGroupID)
  when' (serverID != "") (tolerate isNotFound (deleteServer serverID))
  when' (publicIPID != "") (deletePublicIP publicIPID)
  when' (securityGroupID != "") (deleteSecurityGroup securityGroupID)

@[simp] theorem run_deleteBastion (input : BastionInput) (status : Bastion) :
    run (deleteBastion input status) = SDKClient.deleteBastion input status := by
  simp only [deleteBastion, SDKClient.deleteBastion, run_bind, run_idOrFind, run_findServerByTags,
    run_findPublicIPByTags, run_findSecurityGroupByTags, run_pure, run_when',
    run_removePublicIpFromServer, run_removeSecurityGroupFromServer, run_tolerate, run_deleteServer,
    run_deletePublicIP, run_deleteSecurityGroup]

/-! ### The rules of the bastion's group -/

def allowCIDRs (groupID : String) (existingRules : List SDKRule) :
    List String → List String → Steps (List String)
  | desired, [] => pure desired
  | desired, cidr :: cidrs =>
    if cidr = "" then fail (errorf .errInvalidInput "empty bastion allowed CIDR")
    else if desired.contains cidr then allowCIDRs groupID existingRules desired cidrs
    else if hasSSHRule existingRules cidr then
      allowCIDRs groupID existingRules (cidr :: desired) cidrs
    else do
      createRule groupID
        { direction := "ingress", ipRange := cidr, portMin := sshPort, portMax := sshPort,
          protocol := some tcpProtocol }
      allowCIDRs groupID existingRules (cidr :: desired) cidrs

@[simp] theorem run_allowCIDRs (groupID : String) (existingRules : List SDKRule)
    (desired cidrs : List String) :
    run (allowCIDRs groupID existingRules desired cidrs) =
      SDKClient.allowCIDRs groupID existingRules desired cidrs := by
  induction cidrs generalizing desired with
  | nil => rfl
  | cons cidr cidrs ih =>
    simp only [allowCIDRs, SDKClient.allowCIDRs, run_ite, run_fail, run_bind, run_createRule, ih]

def ensureBastionSecurityGroupRules (groupID : String) (cidrs : List String) : Steps Unit :=
  if groupID = "" then fail (errorf .errInvalidInput "security group ID is required")
  else do
    let existingRules ← listRules groupID
    let desired ← allowCIDRs groupID existingRules [] cidrs
    forEach existingRules fun rule =>
      if !isSSHRule rule || desired.contains rule.payload.ipRange then pure ()
      else deleteRule groupID rule

@[simp] theorem run_ensureBastionSecurityGroupRules (groupID : String) (cidrs : List String) :
    run (ensureBastionSecurityGroupRules groupID cidrs) =
      SDKClient.ensureBastionSecurityGroupRules groupID cidrs := by
  simp only [ensureBastionSecurityGroupRules, SDKClient.ensureBastionSecurityGroupRules, run_ite,
    run_fail, run_bind, run_listRules, run_allowCIDRs, run_forEach, run_pure, run_deleteRule]

/-! ### The two reconciles -/

/-- The requests of `reconcileBastion` with the bastion disabled and the clean-up still to be
done. -/
def disableBastion (sc : StackitCluster) : Steps Unit := do
  deleteNodeSSHAccess (nodeSSHAccessTags sc)
  deleteBastion (bastionInput sc "") (ClusterReconciler.recordedBastion sc.status.bastion)

/-- The object that `reconcileBastion` leaves once they have succeeded. -/
def disabled (sc : StackitCluster) : StackitCluster :=
  sc.clearBastionStatus.setConditions .true ClusterReconciler.bastionDisabledReason
    "bastion disabled" [clusterBastionReadyCondition]

/-- `reconcileBastion` makes these requests, and records the end of the clean-up when they
succeed. -/
theorem run_disableBastion {p : Pass StackitCluster Session}
    (h : ClusterReconciler.bastionSkipped p.obj.conditions = false) :
    ClusterReconciler.disableBastion sdkClient p =
      match run (disableBastion p.obj) p.cloud with
      | (.ok _, s) => (.ok ({}, true), { p with obj := disabled p.obj, cloud := s })
      | (.error e, s) => (.error e, { p with cloud := s }) := by
  rw [disableBastion, run_bind, run_deleteNodeSSHAccess, run_deleteBastion]
  unfold ClusterReconciler.disableBastion
  simp only [bind, Prog.andThen, Pass.getObj, Prog.get, pure, Prog.ret, h, Bool.false_eq_true,
    if_false, Pass.call, Prog.zoom, sdkClient, Pass.setObj, Prog.modify]
  rcases SDKClient.deleteNodeSSHAccess (nodeSSHAccessTags p.obj) p.cloud with ⟨e | _, s⟩
  · rfl
  · dsimp only
    rcases SDKClient.deleteBastion (bastionInput p.obj "")
      (ClusterReconciler.recordedBastion p.obj.status.bastion) s with ⟨e | _, t⟩ <;> rfl

/-- The requests of `reconcileBastionNodeSSHAccess`, for the cluster as it was read at the start. -/
def reconcileBastionNodeSSHAccess (ctx : MachineContext) (server : Server) : Steps Unit :=
  let sc := ctx.stackitCluster
  if !sc.spec.bastion.enabled then pure ()
  else if sc.status.bastion.securityGroupID = "" then
    fail (errorf .errTransient "bastion security group ID is empty")
  else if server.id = "" then fail (errorf .errTransient "server ID is empty")
  else do
    let _ ← ensureNodeSSHAccess
      { name := sc.metadata.name ++ "-node-ssh", serverID := server.id,
        bastionSecurityGroupID := sc.status.bastion.securityGroupID, tags := nodeSSHAccessTags sc }
    pure ()

theorem run_reconcileBastionNodeSSHAccess (ctx : MachineContext) (server : Server) :
    run (reconcileBastionNodeSSHAccess ctx server) =
      MachineReconciler.reconcileBastionNodeSSHAccess sdkClient ctx server := by
  simp only [reconcileBastionNodeSSHAccess, MachineReconciler.reconcileBastionNodeSSHAccess,
    run_ite, run_pure, run_fail, run_bind, run_ensureNodeSSHAccess]
  rfl

end Capstk.Stepwise
