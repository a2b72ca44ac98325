import Capstk.ClusterReconciler

/-!
# Which events reconcile a cluster (`controller/stackitcluster_controller.go`)

The controller watches Clusters and Machines beside its own objects. An update of a Machine passes
`machineTargetPoolChanged` first; then each of its two versions is mapped to the StackitClusters to
reconcile. Which machines belong to whose control plane is decided by Cluster API
(`MachineSelection`).
-/

namespace Capstk.ClusterReconciler

/-- `client.Object`, of the kinds that are watched. -/
inductive WatchedObject
  | cluster (cluster : Cluster)
  | machine (machine : Machine)
  | other

/-- `infrav1.GroupVersion.Group` -/
def infrastructureGroup : String := "infrastructure.cluster.x-k8s.io"

/-- The StackitCluster that a Cluster refers to, if its infrastructure is of this provider. -/
def filterForStackitClusterResources : WatchedObject → List NamespacedName
  | .cluster cluster =>
    let ref := cluster.infrastructureRef
    if ref.apiGroup ≠ infrastructureGroup ∨ ref.kind ≠ "StackitCluster" ∨ ref.name = "" then []
    else [⟨cluster.metadata.namespace', ref.name⟩]
  | _ => []

/-- The labels of a machine, as a map. -/
def labelsOf (m : Machine) : String → Option String := m.metadata.labels.lookup

/-- Cluster API's view of machines: the listing of a cluster's machines and `ControlPlaneMachines`
look at namespace and labels, `ActiveMachines` at the deletion timestamp, `IsControlPlaneMachine` at
the labels. A machine is listed for the cluster that its namespace and its label name. -/
structure MachineSelection where
  listed : Cluster → String → (String → Option String) → Bool
  controlPlaneMachines : String → (String → Option String) → Bool
  activeMachines : Bool → Bool
  isControlPlaneMachine : (String → Option String) → Bool
  listed_cluster : ∀ {cluster : Cluster} {ns : String} {labels : String → Option String},
    listed cluster ns labels = true →
    ns = cluster.metadata.namespace' ∧ labels labelClusterName = some cluster.metadata.name
  controlPlane_label : ∀ {name : String} {labels : String → Option String},
    controlPlaneMachines name labels = true →
    isControlPlaneMachine labels = true

/-- `MachineControlPlaneLabel` -/
def labelControlPlane : String := "cluster.x-k8s.io/control-plane"

/-- The selection as it is. -/
def MachineSelection.standard : MachineSelection where
  listed cluster ns labels :=
    ns == cluster.metadata.namespace' && labels labelClusterName == some cluster.metadata.name
  controlPlaneMachines name labels :=
    labels labelClusterName == some name && (labels labelControlPlane).isSome
  activeMachines deleting := !deleting
  isControlPlaneMachine labels := (labels labelControlPlane).isSome
  listed_cluster h := by simpa using h
  controlPlane_label h := (Bool.and_eq_true_iff.1 h).2

section
variable (selection : MachineSelection)

/-- `collections.GetFilteredMachinesForCluster(.., ControlPlaneMachines(cluster.Name),
ActiveMachines)`, in the order of the list. -/
def activeControlPlaneMachines (cluster : Cluster) (machines : List Machine) : List Machine :=
  machines.filter fun m =>
    selection.listed cluster m.metadata.namespace' (labelsOf m) &&
      selection.controlPlaneMachines cluster.metadata.name (labelsOf m) &&
      selection.activeMachines m.metadata.deleting

/-- The source logs an error that is neither a missing label nor a Cluster that is gone; all of them
map to nothing. -/
def loadBalancerTargetsForControlPlanes
    (getClusterFromMetadata : Machine → Except GoError Cluster) :
    WatchedObject → List NamespacedName
  | .machine machine =>
    if !selection.isControlPlaneMachine (labelsOf machine) then []
    else match getClusterFromMetadata machine with
      | .error _ => []
      | .ok cluster => filterForStackitClusterResources (.cluster cluster)
  | _ => []

end

/-- Updates that can change the targets: of the addresses, the deletion timestamp or the labels. -/
def machineTargetPoolChanged : WatchedObject → WatchedObject → Bool
  | .machine old, .machine new =>
    old.addresses != new.addresses || old.metadata.deleting != new.metadata.deleting ||
      !old.metadata.labels.eqB new.metadata.labels
  | _, _ => true

/-- `client.Object`, of the kinds a cloud-init reference can name. -/
inductive CloudInitObject
  | configMap (key : NamespacedName)
  | secret (key : NamespacedName)
  | other

/-- The switch over the type of the object. -/
def CloudInitObject.kindAndKey : CloudInitObject → Option (String × NamespacedName)
  | .configMap key => some ("ConfigMap", key)
  | .secret key => some ("Secret", key)
  | .other => none

/-- Whether the bastion of the cluster takes its cloud-init from that object. -/
def refersTo (kind name : String) (cluster : StackitCluster) : Bool :=
  match cluster.spec.bastion.cloudInitRef with
  | none => false
  | some ref => !(ref.kind != kind || ref.name != name)

/-- A failed listing is logged and maps to nothing. -/
def stackitClusterRequestsForCloudInitRef (list : String → Except GoError (List StackitCluster))
    (obj : CloudInitObject) : List NamespacedName :=
  match obj.kindAndKey with
  | none => []
  | some (kind, key) =>
    match list key.namespace' with
    | .error _ => []
    | .ok clusters =>
      (clusters.filter (refersTo kind key.name)).map fun cluster =>
        ⟨cluster.metadata.namespace', cluster.metadata.name⟩

end Capstk.ClusterReconciler
