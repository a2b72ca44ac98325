import Capstk.Watches

/-!
# Which events reconcile a machine (`controller/stackitmachine_watches.go`)

The controller watches Machines, StackitClusters and Secrets beside its own objects. Each of them is
mapped to the StackitMachines that the Machines in question refer to. Machines come out of Cluster
API's `collections` in no particular order; the lists here are in whatever order that is.
-/

namespace Capstk.MachineReconciler

/-- `client.Object`, of the kinds that are watched. -/
inductive WatchedObject
  | machine (machine : Machine)
  | stackitCluster (stackitCluster : StackitCluster)
  | secret (key : NamespacedName)
  | other

/-- The StackitMachine that the Machine refers to, in its own namespace. -/
def stackitMachineRequestForMachine : Option Machine → List NamespacedName
  | none => []
  | some machine =>
    let ref := machine.infrastructureRef
    if ref.apiGroup ≠ ClusterReconciler.infrastructureGroup ∨ ref.kind ≠ "StackitMachine" ∨
      ref.name = "" then []
    else [⟨machine.metadata.namespace', ref.name⟩]

/-- The two variables of the loop in `stackitMachineRequestsForMachines`. -/
structure RequestLoop where
  requests : List NamespacedName := []
  seen : List NamespacedName := []

/-- `if _, ok := seen[request]; !ok { ... }` -/
def RequestLoop.add (loop : RequestLoop) (request : NamespacedName) : RequestLoop :=
  if loop.seen.contains request then loop
  else { requests := loop.requests ++ [request], seen := request :: loop.seen }

/-- The body of the loop for one Machine. -/
def RequestLoop.visit (matching : Machine → Bool) (loop : RequestLoop) (machine : Machine) :
    RequestLoop :=
  if !matching machine then loop
  else (stackitMachineRequestForMachine (some machine)).foldl RequestLoop.add loop

/-- The StackitMachines of the Machines that match, each of them once. -/
def stackitMachineRequestsForMachines (machines : List Machine) (matching : Machine → Bool) :
    List NamespacedName :=
  (machines.foldl (RequestLoop.visit matching) {}).requests

def stackitMachineRequestsForMachine : WatchedObject → List NamespacedName
  | .machine machine => stackitMachineRequestForMachine (some machine)
  | _ => []

/-- Without an owner, or if one of the look-ups fails, nothing is reconciled; an error other than
"not found" is logged. -/
def stackitMachineRequestsForStackitCluster
    (getOwnerCluster : StackitCluster → Except GoError (Option Cluster))
    (getFilteredMachinesForCluster : Cluster → Except GoError (List Machine)) :
    WatchedObject → List NamespacedName
  | .stackitCluster stackitCluster =>
    match getOwnerCluster stackitCluster with
    | .error _ => []
    | .ok none => []
    | .ok (some cluster) =>
      match getFilteredMachinesForCluster cluster with
      | .error _ => []
      | .ok machines => stackitMachineRequestsForMachines machines fun machine =>
          machine.clusterName == cluster.metadata.name
  | _ => []

/-- The Machines of the Secret's namespace that name it as their data secret. -/
def stackitMachineRequestsForBootstrapSecret (list : String → Except GoError (List Machine)) :
    WatchedObject → List NamespacedName
  | .secret key =>
    match list key.namespace' with
    | .error _ => []
    | .ok machines => stackitMachineRequestsForMachines machines fun machine =>
        machine.dataSecretName == some key.name
  | _ => []

end Capstk.MachineReconciler
