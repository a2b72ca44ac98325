import Capstk.MachineWatches

/-!
# The API server as both controllers see it

The objects that a pass can read, the events that a change of one of them causes, and what the
passes would be answered. Owner references are kept beside the objects; how they and the labels are
followed is up to Cluster API (`ClusterAPI`). Both controllers enqueue what their watches map an
event to: of an update both versions are mapped, in the state after it.
-/

namespace Capstk

/-- `client.ObjectKeyFromObject` -/
def ObjectMeta.key (m : ObjectMeta) : NamespacedName := ⟨m.namespace', m.name⟩

/-- Objects by namespace and name. -/
abbrev Objects (α : Type) : Type := AList fun _ : NamespacedName => α

namespace Objects
variable {α : Type}

/-- Create, replace or delete the object under a key. -/
def set (objects : Objects α) (key : NamespacedName) : Option α → Objects α
  | some a => objects.insert key a
  | none => objects.erase key

def list (objects : Objects α) : List α := objects.entries.map Sigma.snd

/-- `r.Get` -/
def get (objects : Objects α) (key : NamespacedName) : Except GoError α :=
  match objects.lookup key with
  | some a => .ok a
  | none => .error ⟨some .apiNotFound, key.name ++ " not found"⟩

end Objects

/-- An object and the Machine or Cluster that its owner reference names, if any. -/
structure Owned (α : Type) where
  object : α
  owner : Option String := none

/-- Everything is stored under its own namespace and name. -/
structure ApiServer where
  clusters : Objects Cluster
  machines : Objects Machine
  stackitClusters : Objects (Owned StackitCluster)
  stackitMachines : Objects (Owned StackitMachine)
  secrets : Objects DataObject
  configMaps : Objects DataObject
  clusterKey : ∀ {key cluster}, clusters.lookup key = some cluster → cluster.metadata.key = key
  machineKey : ∀ {key machine}, machines.lookup key = some machine → machine.metadata.key = key
  stackitClusterKey : ∀ {key sc}, stackitClusters.lookup key = some sc →
    sc.object.metadata.key = key

/-- A change of one object: what is stored under `key` from now on. -/
inductive ApiEvent
  | cluster (key : NamespacedName)
      (new : Option { cluster : Cluster // cluster.metadata.key = key })
  | machine (key : NamespacedName)
      (new : Option { machine : Machine // machine.metadata.key = key })
  | stackitCluster (key : NamespacedName)
      (new : Option { sc : Owned StackitCluster // sc.object.metadata.key = key })
  | stackitMachine (key : NamespacedName) (new : Option (Owned StackitMachine))
  | secret (key : NamespacedName) (new : Option DataObject)
  | configMap (key : NamespacedName) (new : Option DataObject)

namespace Objects
variable {α : Type} {objects : Objects α} {key k : NamespacedName} {new : Option α}

@[simp] theorem lookup_set : (objects.set key new).lookup key = new := by
  cases new with
  | some a => exact AList.lookup_insert objects
  | none => exact AList.lookup_erase key objects

theorem lookup_set_ne (h : k ≠ key) : (objects.set key new).lookup k = objects.lookup k := by
  cases new with
  | some a => exact AList.lookup_insert_ne h
  | none => exact AList.lookup_erase_ne h

/-- What is stored keeps its key if the new object has it. -/
theorem set_key {f : α → NamespacedName} (h : ∀ {k a}, objects.lookup k = some a → f a = k)
    (new : Option { a // f a = key }) {a : α}
    (hk : (objects.set key (new.map (·.1))).lookup k = some a) : f a = k := by
  by_cases heq : k = key
  · subst heq
    rw [lookup_set] at hk
    obtain ⟨b, -, rfl⟩ := Option.map_eq_some_iff.1 hk
    exact b.2
  · rw [lookup_set_ne heq] at hk
    exact h hk

theorem mem_list {a : α} : a ∈ objects.list ↔ ∃ k, objects.lookup k = some a := by
  simp only [list, List.mem_map, Sigma.exists, ← AList.mem_lookup_iff, Option.mem_def]
  constructor
  · rintro ⟨k, b, hk, rfl⟩
    exact ⟨k, hk⟩
  · rintro ⟨k, hk⟩
    exact ⟨k, a, hk, rfl⟩

end Objects

/-! ### Cluster API -/

/-- `clusterutil.GetOwnerMachine` or `GetOwnerCluster`: the object that the owner reference names,
in the namespace of what it owns. Of the API server only that object is read. -/
structure OwnerLookup (α : Type) where
  get : Objects α → String → Option String → Except GoError (Option α)
  found : ∀ {objects : Objects α} {ns : String} {owner : Option String} {a : α},
    get objects ns owner = .ok (some a) ↔
      ∃ name, owner = some name ∧ objects.lookup ⟨ns, name⟩ = some a
  reads : ∀ {objects objects' : Objects α} {ns : String} {owner : Option String},
    (∀ name, owner = some name → objects'.lookup ⟨ns, name⟩ = objects.lookup ⟨ns, name⟩) →
      get objects' ns owner = get objects ns owner

/-- What both controllers call of Cluster API, and what they can rely on: `GetClusterFromMetadata`
follows the label with the name of the Cluster, and `GetFilteredMachinesForCluster` leaves no
Machine out that has that label. -/
structure ClusterAPI where
  ownerMachine : OwnerLookup Machine
  ownerCluster : OwnerLookup Cluster
  getClusterFromMetadata : Objects Cluster → Machine → Except GoError Cluster
  getFilteredMachinesForCluster : Objects Machine → Cluster → List Machine
  clusterFound : ∀ {clusters : Objects Cluster} {machine : Machine} {cluster : Cluster},
    getClusterFromMetadata clusters machine = .ok cluster ↔
      ∃ name, name ≠ "" ∧ machine.metadata.labels.lookup labelClusterName = some name ∧
        clusters.lookup ⟨machine.metadata.namespace', name⟩ = some cluster
  machinesFound : ∀ {machines : Objects Machine} {machine : Machine} {cluster : Cluster},
    machine ∈ machines.list → machine.metadata.namespace' = cluster.metadata.namespace' →
      machine.metadata.labels.lookup labelClusterName = some cluster.metadata.name →
        machine ∈ getFilteredMachinesForCluster machines cluster

namespace ApiServer

/-- The store after one event: only the object under its key changes. -/
def step (s : ApiServer) : ApiEvent → ApiServer
  | .cluster key new =>
    { s with
      clusters := s.clusters.set key (new.map (·.1))
      clusterKey := Objects.set_key s.clusterKey new }
  | .machine key new =>
    { s with
      machines := s.machines.set key (new.map (·.1))
      machineKey := Objects.set_key s.machineKey new }
  | .stackitCluster key new =>
    { s with
      stackitClusters := s.stackitClusters.set key (new.map (·.1))
      stackitClusterKey :=
        Objects.set_key (f := fun sc : Owned StackitCluster => sc.object.metadata.key)
        s.stackitClusterKey new }
  | .stackitMachine key new => { s with stackitMachines := s.stackitMachines.set key new }
  | .secret key new => { s with secrets := s.secrets.set key new }
  | .configMap key new => { s with configMaps := s.configMaps.set key new }

/-! ### What the passes read -/

section answers
variable {σ : Type} (api : ClusterAPI) (s : ApiServer)
  (factory : Option (Credentials → Except GoError (Client σ)))

/-- Credentials and bootstrap data come from the stored Secrets. -/
def source : ClientSource σ where
  getSecret := s.secrets.get
  factory := factory

/-- What a pass over the StackitMachine under `key` is answered, from the stored objects. -/
def machineAnswers (key : NamespacedName) : MachineReconciler.Answers σ where
  getStackitMachine := match s.stackitMachines.get key with
    | .error err => some err
    | .ok _ => none
  getOwnerMachine :=
    api.ownerMachine.get s.machines key.namespace' ((s.stackitMachines.lookup key).bind (·.owner))
  getClusterFromMetadata machine := (api.getClusterFromMetadata s.clusters machine).map some
  getStackitCluster key := (s.stackitClusters.get key).map (·.object)
  source := s.source factory

/-- The Cluster that owns a StackitCluster, looked up in the namespace of the latter. -/
def getOwnerCluster (key : NamespacedName) (sc : Owned StackitCluster) :
    Except GoError (Option Cluster) :=
  api.ownerCluster.get s.clusters key.namespace' sc.owner

/-- What a pass over a StackitCluster of `cluster` is answered, from the stored objects. -/
def clusterEnv (selection : ClusterReconciler.MachineSelection) (sha256Hex : String → String)
    (cluster : Cluster) :
    ClusterReconciler.Env σ where
  source := s.source factory
  getConfigMap := s.configMaps.get
  machines := .ok (s.machines.list.filter fun m =>
    selection.listed cluster m.metadata.namespace' (ClusterReconciler.labelsOf m))
  controlPlaneMachines :=
    .ok (ClusterReconciler.activeControlPlaneMachines selection cluster s.machines.list)
  sha256Hex := sha256Hex

end answers

/-! ### What the watches enqueue -/

/-- The versions of an object that a change leaves or makes. -/
def versions {α : Type} (old new : Option α) : List α := old.toList ++ new.toList

open MachineReconciler in
/-- The StackitMachines that are reconciled because of an event; `s` is the state before it. -/
def machineRequests (api : ClusterAPI) (s : ApiServer) (e : ApiEvent) : List NamespacedName :=
  let s' := s.step e
  match e with
  | .machine key _ => (versions (s.machines.lookup key) (s'.machines.lookup key)).flatMap fun m =>
      stackitMachineRequestsForMachine (.machine m)
  | .stackitCluster key _ =>
    (versions (s.stackitClusters.lookup key) (s'.stackitClusters.lookup key)).flatMap fun sc =>
      stackitMachineRequestsForStackitCluster (fun _ => getOwnerCluster api s' key sc)
        (fun cluster => .ok (api.getFilteredMachinesForCluster s'.machines cluster))
        (.stackitCluster sc.object)
  | .secret key _ => stackitMachineRequestsForBootstrapSecret
      (fun ns => .ok (s'.machines.list.filter (·.metadata.namespace' == ns))) (.secret key)
  | .stackitMachine key _ => [key]
  | .cluster .. | .configMap .. => []

open ClusterReconciler in
/-- The StackitClusters that are reconciled because of an event. Updates of a Machine are filtered
first. -/
def clusterRequests (api : ClusterAPI) (selection : MachineSelection) (s : ApiServer)
    (e : ApiEvent) : List NamespacedName :=
  let s' := s.step e
  let forMachine := fun m =>
    loadBalancerTargetsForControlPlanes selection (api.getClusterFromMetadata s'.clusters)
      (.machine m)
  let list := fun ns => (.ok
    ((s'.stackitClusters.list.map (·.object)).filter (·.metadata.namespace' == ns)) :
      Except GoError _)
  match e with
  | .cluster key _ => (versions (s.clusters.lookup key) (s'.clusters.lookup key)).flatMap fun c =>
      filterForStackitClusterResources (.cluster c)
  | .machine key _ =>
    match s.machines.lookup key, s'.machines.lookup key with
    | some old, some new =>
      if machineTargetPoolChanged (.machine old) (.machine new) then [old, new].flatMap forMachine
      else []
    | old, new => (versions old new).flatMap forMachine
  | .configMap key _ => stackitClusterRequestsForCloudInitRef list (.configMap key)
  | .secret key _ => stackitClusterRequestsForCloudInitRef list (.secret key)
  | .stackitCluster key _ => [key]
  | .stackitMachine .. => []

end ApiServer

end Capstk
