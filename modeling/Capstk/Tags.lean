import Capstk.Lib.StringMap

/-!
# Tags (`util/tags.go`, the selectors of `cloud/sdk_client.go`)

Every cloud resource carries the tags of its cluster or machine, and the provider finds its own
resources again by them: `labelsContainTags` and `mapContains` are the two selector tests.
-/

namespace Capstk

def labelClusterName : String := "cluster.x-k8s.io/cluster-name"
def labelClusterNamespace : String := "cluster.x-k8s.io/cluster-namespace"
def labelMachineName : String := "cluster.x-k8s.io/machine-name"
def labelMachineUID : String := "cluster.x-k8s.io/machine-uid"
def labelManagedBy : String := "cluster.x-k8s.io/managed-by"
def labelResourceRole : String := "cluster-api-provider-stackit/resource-role"
def managedByValue : String := "cluster-api-provider-stackit"
def resourceRoleBastion : String := "bastion"
def resourceRoleNodeSSH : String := "node-ssh"

/-- Additional labels never replace the provider's own tags. -/
def clusterTags (clusterName clusterNamespace : String) (additionalLabels : StringMap) :
    StringMap :=
  (StringMap.ofList [(labelClusterName, clusterName), (labelClusterNamespace, clusterNamespace),
    (labelManagedBy, managedByValue)]).addMissing additionalLabels

/-- The UID keeps a machine apart from a later one of the same name. -/
def machineTags (clusterName clusterNamespace machineName machineUID : String)
    (additionalLabels : StringMap) : StringMap :=
  (StringMap.ofList [(labelClusterName, clusterName), (labelClusterNamespace, clusterNamespace),
    (labelMachineName, machineName), (labelMachineUID, machineUID),
    (labelManagedBy, managedByValue)]).addMissing additionalLabels

/-- Every tag is a label with that value. -/
def labelsContainTags (labels tags : StringMap) : Bool := tags.subB labels

/-- Go's `haystack[k]` is empty for a missing key, so an empty value also matches no entry. -/
def mapContains (haystack needle : StringMap) : Bool :=
  needle.entries.all fun e => (haystack.lookup e.1).getD "" == e.2

/-- The keys by which `DeleteNodeSSHAccess` looks for the servers of a cluster. -/
def clusterServerSelectorKeys : List String :=
  [labelClusterName, labelClusterNamespace, labelManagedBy]

/-- The tags under these keys, without those that are empty. -/
def clusterServerSelectorFromTags (tags : StringMap) : StringMap :=
  clusterServerSelectorKeys.foldl (fun selector key =>
    match (tags.lookup key).getD "" with
    | "" => selector
    | value => selector.insert key value) ∅

/-- `strings.ReplaceAll(k, "/", ".")` -/
def rewriteKey (k : String) : String :=
  String.ofList (k.toList.map fun c => if c = '/' then '.' else c)

/-- The labels of a load balancer, from the entries of the tags in the order `range` yields them. -/
def loadBalancerLabels (entries : List (Sigma fun _ : String => String)) : StringMap :=
  entries.foldl (fun out e => out.insert (rewriteKey e.1) e.2) ∅

theorem labelsContainTags_iff {labels tags : StringMap} :
    labelsContainTags labels tags = true ↔ tags.Sub labels := StringMap.subB_iff

@[simp] theorem labelsContainTags_self (tags : StringMap) : labelsContainTags tags tags = true :=
  labelsContainTags_iff.2 (.refl tags)

section
variable (name namespace' : String) (extra : StringMap)

@[simp] theorem clusterTags_clusterName :
    (clusterTags name namespace' extra).lookup labelClusterName = some name :=
  StringMap.lookup_addMissing_reserved rfl

@[simp] theorem clusterTags_clusterNamespace :
    (clusterTags name namespace' extra).lookup labelClusterNamespace = some namespace' :=
  StringMap.lookup_addMissing_reserved rfl

@[simp] theorem clusterTags_managedBy :
    (clusterTags name namespace' extra).lookup labelManagedBy = some managedByValue :=
  StringMap.lookup_addMissing_reserved rfl

variable (machine uid : String)

@[simp] theorem machineTags_clusterName :
    (machineTags name namespace' machine uid extra).lookup labelClusterName = some name :=
  StringMap.lookup_addMissing_reserved rfl

@[simp] theorem machineTags_clusterNamespace :
    (machineTags name namespace' machine uid extra).lookup labelClusterNamespace =
      some namespace' :=
  StringMap.lookup_addMissing_reserved rfl

@[simp] theorem machineTags_managedBy :
    (machineTags name namespace' machine uid extra).lookup labelManagedBy = some managedByValue :=
  StringMap.lookup_addMissing_reserved rfl

@[simp] theorem machineTags_machineName :
    (machineTags name namespace' machine uid extra).lookup labelMachineName = some machine :=
  StringMap.lookup_addMissing_reserved rfl

@[simp] theorem machineTags_machineUID :
    (machineTags name namespace' machine uid extra).lookup labelMachineUID = some uid :=
  StringMap.lookup_addMissing_reserved rfl

end

end Capstk
