import Capstk.Lib.StringMap
import Capstk.Errors

/-!
# Kubernetes objects (`api/v1alpha1`, and what the controllers read of core and Cluster API types)

Field names are those of the Go types. A Go `string` and a `[]byte` are both a `String`; an empty
string is an unset optional field, as in Go. Pointers are `Option`s. Of a deletion timestamp only
`IsZero` is ever read, of the annotations only the paused one.
-/

namespace Capstk

/-- `types.NamespacedName` -/
structure NamespacedName where
  (namespace' : String)
  name : String
deriving DecidableEq, Repr

/-- What the controllers read of `metav1.ObjectMeta`. -/
structure ObjectMeta where
  name : String
  (namespace' : String)
  uid : String := ""
  generation : Int := 1
  /-- `!DeletionTimestamp.IsZero()` -/
  deleting : Bool := false
  finalizers : List String := []
  labels : StringMap := ∅
  /-- `annotations.HasPaused` -/
  pausedAnnotation : Bool := false

/-- `metav1.ConditionStatus` -/
inductive ConditionStatus
  | true
  | false
  | unknown
deriving DecidableEq, Repr

/-- `metav1.Condition` without its timestamp. -/
structure Condition where
  type : String
  status : ConditionStatus
  reason : String
  message : String
  observedGeneration : Int
deriving DecidableEq, Repr

/-- `ctrl.Result`; the delay is in seconds. -/
structure Result where
  requeueAfter : Nat := 0
deriving DecidableEq, Repr

/-- `clusterv1.APIEndpoint` -/
structure APIEndpoint where
  host : String := ""
  port : Int := 0
deriving DecidableEq, Repr

/-- `clusterv1.FailureDomain` -/
structure FailureDomain where
  name : String
  controlPlane : Option Bool
  attributes : List (String × String)
deriving DecidableEq, Repr

/-- `clusterv1.MachineAddress` -/
structure MachineAddress where
  type : String
  address : String
deriving DecidableEq, Repr

def machineInternalIP : String := "InternalIP"

/-- `corev1.Secret` and `corev1.ConfigMap`: their data. -/
structure DataObject where
  data : StringMap

/-- `corev1.SecretReference` -/
structure SecretReference where
  name : String := ""
  (namespace' : String := "")
deriving DecidableEq, Repr

/-! ### Cluster API -/

/-- `clusterv1.ContractVersionedObjectReference`: the object of the provider behind a Cluster or
Machine. -/
structure InfrastructureRef where
  apiGroup : String := ""
  kind : String := ""
  name : String := ""
deriving DecidableEq, Repr

/-- `clusterv1.Cluster` -/
structure Cluster where
  metadata : ObjectMeta
  paused : Option Bool := none
  infrastructureRef : InfrastructureRef := {}

/-- `clusterv1.Machine` -/
structure Machine where
  metadata : ObjectMeta
  clusterName : String := ""
  failureDomain : String := ""
  dataSecretName : Option String := none
  infrastructureRef : InfrastructureRef := {}
  addresses : List MachineAddress := []

/-! ### StackitCluster -/

/-- While a StackitCluster carries it, the API server keeps the object. -/
def clusterFinalizer : String := "stackitcluster.infrastructure.cluster.x-k8s.io"

/-- An unset `deleteOnTermination` counts as true. -/
structure StackitRootVolumeSpec where
  sizeGiB : Int := 0
  performanceClass : String := ""
  deleteOnTermination : Option Bool := none
deriving DecidableEq, Repr

/-- The key of a ConfigMap or Secret that holds the cloud-init of the bastion. -/
structure StackitBastionCloudInitRef where
  kind : String
  name : String
  key : String
deriving DecidableEq, Repr

structure StackitBastionSpec where
  enabled : Bool := false
  imageID : String := ""
  machineType : String := ""
  sshKeyName : String := ""
  allowedCIDRs : List String := []
  rootVolume : StackitRootVolumeSpec := {}
  cloudInitRef : Option StackitBastionCloudInitRef := none
deriving DecidableEq, Repr

/-- `networkID` is `network.id`; a spec that leaves it empty gets a managed network. -/
structure StackitClusterSpec where
  projectID : String := ""
  region : String := ""
  credentialsSecretRef : SecretReference := {}
  networkID : String := ""
  apiServerLoadBalancerEnabled : Bool := false
  controlPlaneEndpoint : APIEndpoint := {}
  bastion : StackitBastionSpec := {}
  additionalLabels : StringMap := ∅

/-- What the last pass knew of the bastion; `cloudInitHash` tells when its cloud-init has changed.
-/
structure StackitBastionStatus where
  serverID : String := ""
  publicIPID : String := ""
  publicIP : String := ""
  securityGroupID : String := ""
  cloudInitHash : String := ""
deriving DecidableEq, Repr

/-- The network in use, and whether the provider created it. -/
structure StackitNetworkStatus where
  id : String := ""
  managed : Bool := false
deriving DecidableEq, Repr

/-- `StackitClusterStatus` without the conditions, which stand beside it. -/
structure StackitClusterStatus where
  ready : Bool := false
  /-- `initialization.provisioned` -/
  provisioned : Bool := false
  network : StackitNetworkStatus := {}
  apiServerEndpoint : APIEndpoint := {}
  apiServerLoadBalancerID : String := ""
  bastion : StackitBastionStatus := {}
  failureDomains : List FailureDomain := []
deriving DecidableEq, Repr

structure StackitCluster where
  metadata : ObjectMeta
  spec : StackitClusterSpec
  status : StackitClusterStatus := {}
  conditions : List Condition := []

def clusterReadyCondition : String := "Ready"
def clusterNetworkReadyCondition : String := "NetworkReady"
def clusterLoadBalancerReadyCondition : String := "LoadBalancerReady"
def clusterCredentialsReadyCondition : String := "CredentialsReady"
def clusterBastionReadyCondition : String := "BastionReady"
def pausedCondition : String := "Paused"

/-! ### StackitMachine -/

/-- While a StackitMachine carries it, the API server keeps the object. -/
def machineFinalizer : String := "stackitmachine.infrastructure.cluster.x-k8s.io"

/-- `providerID` is written by the controller, the rest by the user. -/
structure StackitMachineSpec where
  providerID : Option String := none
  imageID : String := ""
  machineType : String := ""
  availabilityZone : String := ""
  sshKeyName : String := ""
  rootVolume : StackitRootVolumeSpec := {}
  networkID : String := ""
  securityGroups : List String := []
  additionalLabels : StringMap := ∅

/-- `StackitMachineStatus` without the conditions, which stand beside it. -/
structure StackitMachineStatus where
  ready : Bool := false
  /-- `initialization.provisioned` -/
  provisioned : Bool := false
  providerID : String := ""
  instanceID : String := ""
  instanceState : String := ""
  availabilityZone : String := ""
  addresses : List MachineAddress := []
deriving DecidableEq, Repr

structure StackitMachine where
  metadata : ObjectMeta
  spec : StackitMachineSpec
  status : StackitMachineStatus := {}
  conditions : List Condition := []

def machineReadyCondition : String := "Ready"
def machineBootstrapReadyCondition : String := "BootstrapReady"
def machineCredentialsReadyCondition : String := "CredentialsReady"
def machineInstanceReadyCondition : String := "InstanceReady"

/-! ### Finalizers (`controllerutil`) -/

/-- `ContainsFinalizer` -/
def containsFinalizer (m : ObjectMeta) (finalizer : String) : Bool :=
  m.finalizers.contains finalizer

/-- `AddFinalizer` -/
def addFinalizer (m : ObjectMeta) (finalizer : String) : ObjectMeta :=
  if containsFinalizer m finalizer then m else { m with finalizers := m.finalizers ++ [finalizer] }

/-- `RemoveFinalizer` -/
def removeFinalizer (m : ObjectMeta) (finalizer : String) : ObjectMeta :=
  { m with finalizers := m.finalizers.filter (· != finalizer) }

@[simp] theorem containsFinalizer_addFinalizer (m : ObjectMeta) (f : String) :
    containsFinalizer (addFinalizer m f) f = true := by
  unfold addFinalizer
  split
  · assumption
  · simp [containsFinalizer]

@[simp] theorem containsFinalizer_removeFinalizer (m : ObjectMeta) (f : String) :
    containsFinalizer (removeFinalizer m f) f = false := by
  simp [containsFinalizer, removeFinalizer]

@[simp] theorem addFinalizer_name (m : ObjectMeta) (f : String) :
    (addFinalizer m f).name = m.name := by
  unfold addFinalizer; split <;> rfl

@[simp] theorem addFinalizer_namespace (m : ObjectMeta) (f : String) :
    (addFinalizer m f).namespace' = m.namespace' := by
  unfold addFinalizer; split <;> rfl

@[simp] theorem addFinalizer_deleting (m : ObjectMeta) (f : String) :
    (addFinalizer m f).deleting = m.deleting := by
  unfold addFinalizer; split <;> rfl

end Capstk
