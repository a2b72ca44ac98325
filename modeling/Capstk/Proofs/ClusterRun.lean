import Capstk.Lib.Run
import Capstk.Lib.Sha256
import Capstk.Proofs.ClusterPass

/-!
# The world of one cluster

The stored StackitCluster and the cloud, and everything that can happen to them: passes of the
controller with their failures and lost patches, a deletion request, updates of the spec, and
whatever else happens in the cloud. Which of these a run may contain is said where a run is
considered; here are the steps, and what makes the tags of a cluster's resources.
-/

namespace Capstk

open Prog

structure ClusterWorld where
  stored : StackitCluster
  cloud : Cloud

inductive ClusterAction
  /-- A pass of the controller, with what the API server answers, what becomes of its patches, how
  its requests end and in which order it ranges over maps. -/
  | reconcile (answers : ClusterReconciler.Answers) (env : ClusterReconciler.Env Session)
      (patches : List PatchOutcome) (outcomes : List Outcome) (orders : List MapOrder)
  | requestDeletion
  | updateSpec (spec : StackitClusterSpec)
  | cloudEvolves (change : Cloud → Cloud)

namespace ClusterWorld

/-- The state in which a pass starts. -/
def begin (w : ClusterWorld) (patches : List PatchOutcome) (outcomes : List Outcome)
    (orders : List MapOrder) :
    Pass StackitCluster Session :=
  { obj := w.stored, stored := w.stored, patches, cloud := { cloud := w.cloud, outcomes, orders } }

/-- What a pass leaves behind. -/
def leave (p : Pass StackitCluster Session) : ClusterWorld := ⟨p.stored, p.cloud.cloud⟩

def step (w : ClusterWorld) : ClusterAction → ClusterWorld
  | .reconcile answers env patches outcomes orders =>
    leave ((ClusterReconciler.reconcile answers env).after (w.begin patches outcomes orders))
  | .requestDeletion =>
      { w with stored := { w.stored with metadata := { w.stored.metadata with deleting := true } } }
  | .updateSpec spec => { w with stored := { w.stored with spec } }
  | .cloudEvolves change => { w with cloud := change w.cloud }

/-! A cluster to try runs on, and the passes over it. -/

/-- The cluster `c` in `ns`, before anything was done for it. -/
def sample (spec : StackitClusterSpec) : ClusterWorld :=
  ⟨{ metadata := { name := "c", namespace' := "ns" }, spec }, { ids := .unary }⟩

/-- A pass that finds the owner of the cluster and no machines. -/
def samplePass (patches : List PatchOutcome) (outcomes : List Outcome) : ClusterAction :=
  .reconcile
    { getOwnerCluster := .ok
        (some { metadata := { name := "c", namespace' := "ns" },
                infrastructureRef := { name := "c" } }) }
    { source := .connected, getConfigMap := fun _ => .error ⟨none, "not found"⟩, machines := .ok [],
      controlPlaneMachines := .ok [], sha256Hex := Sha256.hex } patches outcomes []

/-- The endpoint is the user's. -/
def sampleSpec : StackitClusterSpec where
  projectID := sampleUUID
  region := "eu01"
  credentialsSecretRef := { name := "s" }
  controlPlaneEndpoint := { host := "h", port := 6443 }

def sampleBastion : StackitBastionSpec where
  enabled := true
  imageID := sampleUUID
  machineType := "type"
  sshKeyName := "key"
  allowedCIDRs := ["10.0.0.0/8"]

end ClusterWorld

/-- What the tags of a cluster's resources are made of, and whether its network is its own. -/
structure ClusterIdentity where
  name : String
  (namespace' : String)
  labels : StringMap
  networkID : String

namespace ClusterIdentity
variable (m : ClusterIdentity)

def tags : StringMap := clusterTags m.name m.namespace' m.labels

def bastionTags : StringMap := m.tags.insert labelResourceRole resourceRoleBastion

def nodeSSHTags : StringMap := m.tags.insert labelResourceRole resourceRoleNodeSSH

def loadBalancerName : String := m.name ++ "-apiserver"

theorem loadBalancerName_ne : m.loadBalancerName ≠ "" := fun h0 => by
  simpa [loadBalancerName] using congrArg (·.toList.length) h0

def of (sc : StackitCluster) : ClusterIdentity :=
  ⟨sc.metadata.name, sc.metadata.namespace', sc.spec.additionalLabels, sc.spec.networkID⟩

@[simp] theorem of_tags (sc : StackitCluster) : (of sc).tags = sc.tags := rfl
@[simp] theorem of_bastionTags (sc : StackitCluster) :
    (of sc).bastionTags = Capstk.bastionTags sc := rfl

@[simp] theorem of_withFinalizer (sc : StackitCluster) :
    of (ClusterReconciler.withFinalizer sc) = of sc := by
  simp [of, ClusterReconciler.withFinalizer]

end ClusterIdentity

/-- Patches never change what a cluster's identity is made of, if both objects agree on it. -/
theorem ClusterIdentity.of_deliver {d : PatchOutcome} {o o' : StackitCluster}
    (h : ClusterIdentity.of o = ClusterIdentity.of o') :
    ClusterIdentity.of (Pass.deliver d o o') = ClusterIdentity.of o' := by
  simp only [of, ClusterIdentity.mk.injEq] at h ⊢
  obtain ⟨hn, hns, hl, hid⟩ := h
  unfold Pass.deliver
  split <;> split <;> first | exact ⟨rfl, rfl, rfl, rfl⟩ | exact ⟨rfl, rfl, hl, hid⟩

/-- After a patch the finalizers are those of the copy or those from before. -/
theorem finalizers_deliver (d : PatchOutcome) (o o' : StackitCluster) :
    (Pass.deliver d o o').metadata.finalizers = o.metadata.finalizers ∨
      (Pass.deliver d o o').metadata.finalizers = o'.metadata.finalizers := by
  unfold Pass.deliver
  split <;> split <;> first | exact .inl rfl | exact .inr rfl

end Capstk
