import Capstk.Proofs.ClusterRun

/-!
# What a cluster pass reads and records

Every call of a cluster pass is made from what the copy records: the cluster's name and labels, and
the IDs of its network, bastion and load balancer. An invariant that survives all other writes
(`RecordInvariant`), and that every call keeps when it is made from the copy as it is then and its
answer is recorded (`RecordFrame`), is kept by a whole pass.
-/

namespace Capstk

open Prog

/-- What the calls of a pass are made from. -/
structure ClusterRecord where
  identity : ClusterIdentity
  bastionSpec : StackitBastionSpec
  network : StackitNetworkStatus
  bastion : StackitBastionStatus
  loadBalancerID : String

def ClusterRecord.of (sc : StackitCluster) : ClusterRecord where
  identity := .of sc
  bastionSpec := sc.spec.bastion
  network := sc.status.network
  bastion := sc.status.bastion
  loadBalancerID := sc.status.apiServerLoadBalancerID

namespace ClusterReconciler
variable {σ : Type} {env : Env σ} {client : Client σ} {I : Pass StackitCluster σ → Prop}
  {p : Pass StackitCluster σ}

/-- An invariant of what is recorded. -/
structure RecordInvariant (I : Pass StackitCluster σ → Prop) : Prop where
  write : ∀ {p} {sc : StackitCluster}, I p → ClusterRecord.of sc = ClusterRecord.of p.obj →
    I { p with obj := sc }
  noNetwork : ∀ {p}, I p → I { p with obj := p.obj.setNetwork {} }
  noBastion : ∀ {p}, I p → I { p with obj := p.obj.clearBastionStatus }
  noLoadBalancer : ∀ {p}, I p → I { p with obj := p.obj.setLoadBalancerID "" }
  load : ∀ {p}, I p → I { p with obj := p.stored }
  patch : ∀ {p} (o : PatchOutcome), I p →
    I { p with stored := Pass.deliver o p.obj p.stored, patches := p.patches.tail }

/-- Every call that is made from the record keeps the invariant, also when its answer is
recorded. -/
structure RecordFrame (client : Client σ) (I : Pass StackitCluster σ → Prop) : Prop where
  zones : ∀ {p}, I p → wp client.listAvailabilityZones (fun _ s => I { p with cloud := s }) p.cloud
  getNetwork : ∀ {p}, I p → wp (client.getNetwork p.obj.networkID)
    (fun r s => I { p with cloud := s } ∧
    ∀ n managed, r = .ok n →
    I { p with obj := p.obj.setNetwork { id := n.id, managed }, cloud := s }) p.cloud
  createNetwork : ∀ {p}, I p → wp (client.createNetwork (networkInput p.obj))
    (fun r s => I { p with cloud := s } ∧
    ∀ n managed, r = .ok n →
    I { p with obj := p.obj.setNetwork { id := n.id, managed }, cloud := s }) p.cloud
  loadBalancer : ∀ {p} targets, I p →
    wp (client.ensureAPIServerLoadBalancer (apiServerInput p.obj targets))
    (fun r s => I { p with cloud := s } ∧
      ∀ l, r = .ok l → I { p with obj := p.obj.setLoadBalancerID l.id, cloud := s }) p.cloud
  targets : ∀ {p} targets, I p →
    wp (client.setAPIServerLoadBalancerTargets p.obj.status.apiServerLoadBalancerID
      defaultAPIServerPort targets)
      (fun _ s => I { p with cloud := s }) p.cloud
  ensureBastion : ∀ {p} cloudInit, I p → wp (client.ensureBastion (bastionInput p.obj cloudInit))
    (fun r s => I { p with cloud := s } ∧
      ∀ b hash, r = .ok b → I { p with obj := p.obj.setBastionStatus b hash, cloud := s }) p.cloud
  deleteNodeSSHAccess : ∀ {p}, I p → wp (client.deleteNodeSSHAccess (nodeSSHAccessTags p.obj))
    (fun _ s => I { p with cloud := s }) p.cloud
  deleteBastion : ∀ {p} cloudInit, I p →
    wp (client.deleteBastion (bastionInput p.obj cloudInit) (recordedBastion p.obj.status.bastion))
      (fun _ s => I { p with cloud := s }) p.cloud
  deleteLoadBalancer : ∀ {p}, I p → wp (resolveLoadBalancerID client p.obj)
    (fun r s => I { p with cloud := s } ∧
    ∀ id, r = .ok id → id ≠ "" → wp (client.deleteAPIServerLoadBalancer id)
    (fun _ s => I { p with cloud := s }) s) p.cloud
  deleteNetwork : ∀ {p}, I p → wp (resolveManagedNetworkID client p.obj)
    (fun r s => I { p with cloud := s } ∧
    ∀ id, r = .ok id → id ≠ "" → wp (client.deleteNetwork id) (fun _ s => I { p with cloud := s })
    s) p.cloud

/-! ### Writes -/

namespace RecordInvariant

theorem setObj (h : RecordInvariant I) {f : StackitCluster → StackitCluster}
    (hf : ∀ sc, ClusterRecord.of (f sc) = ClusterRecord.of sc) : Preserves I (Pass.setObj f) :=
  fun _ hp => h.write hp (hf _)

theorem networkAnswer (h : RecordInvariant I) {managed : Bool} {reason : String}
    {r : Except GoError Network} {s : σ} (hs : I { p with cloud := s } ∧ ∀ n managed, r = .ok n →
      I { p with obj := p.obj.setNetwork { id := n.id, managed }, cloud := s }) :
    NetworkAnswer (fun _ q => I q) p managed reason r s := by
  cases r with
  | error err => exact fun _ => h.write hs.1 rfl
  | ok n => exact hs.2 n managed rfl

end RecordInvariant

theorem ClusterRecord.of_withEndpoint (lb : LoadBalancer) (sc : StackitCluster) :
    ClusterRecord.of (withEndpoint lb sc) = ClusterRecord.of sc := by
  rw [withEndpoint_eq]
  rfl

theorem wp_tolerate_state {s : σ} {expected : GoError → Bool} {x : Call σ Unit} {P : σ → Prop}
    (h : wp x (fun _ t => P t) s) :
    wp (tolerate expected x) (fun _ t => P t) s :=
  wp_tolerate_of h (fun _ _ hP _ => hP) fun _ _ hP _ => hP

theorem wp_of_preserves {α : Type} {x : Step σ α} (h : Preserves I x) (hp : I p) :
    wp x (fun _ q => I q) p := h p hp

/-! ### Up to the bastion -/

namespace RecordFrame
variable (h : RecordFrame client I) (hI : RecordInvariant I)
include h hI

theorem preserves_ensureNetwork : Preserves I (ensureNetwork client) := by
  intro p hp
  have hrecorded : p.obj.spec.networkID = "" → p.obj.status.network.id = p.obj.networkID :=
    fun hnone => by simp [StackitCluster.networkID, hnone]
  refine wp_ensureNetwork (Q := fun _ q => I q) (fun hne => ?_) (fun hnone _ => ?_)
    fun hnone s hmissing => ?_
  · rw [show p.obj.spec.networkID = p.obj.networkID by simp [StackitCluster.networkID, hne]]
    exact (h.getNetwork hp).imp fun _ _ hs => hI.networkAnswer hs
  · rw [hrecorded hnone]
    exact (h.getNetwork hp).imp fun _ _ hs _ => hI.networkAnswer hs
  · have hs : I { p with cloud := s } := hmissing.keeps hp <| by
      rw [hrecorded hnone]
      exact (h.getNetwork hp).imp fun _ _ hs => hs.1
    exact (h.createNetwork hs).imp fun _ _ ht => hI.networkAnswer ht

/-- The targets are set for the load balancer that has just been recorded. -/
theorem preserves_reconcileTargets {p : Pass StackitCluster σ} {lb : LoadBalancer}
    (targets : List LoadBalancerTargetInput) (hp : I p)
    (hlb : p.obj.status.apiServerLoadBalancerID = lb.id) :
    wp (reconcileTargets client lb targets) (fun _ q => I q) p := by
  refine wp_reconcileTargets (fun _ => hI.write hp (ClusterRecord.of_withEndpoint lb _)) fun _ => ?_
  rw [← hlb]
  refine (h.targets targets hp).imp fun r s hs => ?_
  cases r with
  | ok _ => exact hI.write hs (ClusterRecord.of_withEndpoint lb _)
  | error err => exact hI.write hs rfl

theorem preserves_reconcileLoadBalancer (network : Network) :
    Preserves I (reconcileLoadBalancer env client network) := by
  intro p hp
  refine wp_reconcileLoadBalancer (Q := fun _ q => I q) (fun _ _ => hI.write hp rfl)
    fun machines _ => (h.loadBalancer _ hp).imp fun r s ⟨hs, hr⟩ => ?_
  cases r with
  | error err => exact fun _ => hI.write hs rfl
  | ok lb =>
    have hset := hr lb rfl
    exact ⟨fun _ => hI.write hset rfl, fun _ => h.preserves_reconcileTargets hI _ hset rfl⟩

theorem preserves_reconcileEndpoint (network : Network) :
    Preserves I (reconcileEndpoint env client network) := fun p hp =>
  wp_reconcileEndpoint (Q := fun _ q => I q)
    (fun _ => h.preserves_reconcileLoadBalancer hI network p hp) (fun _ _ => hI.write hp rfl)
    fun _ _ => hI.write hp rfl

theorem preserves_reconcileResources : Preserves I (reconcileResources env client) := by
  intro p hp
  have hp₁ : I { p with obj := withCredentials p.obj } := hI.write hp rfl
  refine wp_reconcileResources (Q := fun _ q => I q) ((h.zones hp₁).imp fun r s hs => ?_)
  cases r with
  | error err => exact fun _ => hI.write hs rfl
  | ok zones =>
    rw [zonesAnswer_ok]
    refine ((h.preserves_ensureNetwork hI).wp _).imp fun r q hq => ?_
    have hq := hq (hI.write hs rfl)
    rcases r with e | result | network
    · exact hq
    · exact hq
    · exact h.preserves_reconcileEndpoint hI network _ (hI.write hq rfl)

/-! ### The bastion -/

theorem preserves_disableBastion : Preserves I (disableBastion client) := fun _ hp =>
  wp_disableBastion (Q := fun _ q => I q) (fun _ => hI.write hp rfl) fun _ =>
    wp_orError (h.deleteNodeSSHAccess hp) (fun _ _ hs =>
      wp_orError (h.deleteBastion "" hs) (fun _ _ ht => hI.write (hI.noBastion ht) rfl)
        fun _ _ ht => ht) fun _ _ hs => hs

theorem preserves_recreateBastion (cloudInit : String) :
    Preserves I (recreateBastion client cloudInit) := fun _ hp =>
  wp_recreateBastion (Q := fun _ q => I q) <|
    wp_orError (wp_tolerate_state (h.deleteNodeSSHAccess hp)) (fun _ _ hs =>
      wp_orError (wp_tolerate_state (h.deleteBastion cloudInit hs))
        (fun _ _ ht => hI.write (hI.noBastion ht) rfl) fun _ _ ht => ht) fun _ _ hs => hs

theorem preserves_ensureBastion (cloudInit : String) :
    Preserves I (ClusterReconciler.ensureBastion env client cloudInit) := by
  intro p hp
  refine wp_ensureBastion (Q := fun _ q => I q)
    (wp_orError (h.ensureBastion cloudInit hp) (fun b s hs => ?_) fun _ _ hs => hs.1)
  have hset := hs.2 b (bastionCloudInitHash env cloudInit) rfl
  exact ⟨fun _ => hI.write hset rfl, fun _ => hI.write hset rfl, fun _ _ => hI.write hset rfl⟩

theorem preserves_reconcileBastion : Preserves I (reconcileBastion env client) := fun p hp =>
  wp_reconcileBastion (Q := fun _ q => I q) (fun _ => h.preserves_disableBastion hI p hp)
    (fun _ _ _ _ => hI.write hp rfl) (fun _ _ _ => h.preserves_recreateBastion hI _ p hp)
    fun _ _ _ => h.preserves_ensureBastion hI _ p hp

theorem preserves_finishWithBastion : Preserves I (finishWithBastion env client) := by
  intro p hp
  refine wp_finishWithBastion (Q := fun _ q => I q)
    ((wp_of_preserves (h.preserves_reconcileBastion hI) hp).imp fun r q hq => ?_)
  rcases r with err | ⟨result, _ | _⟩
  · exact fun _ => hI.write hq rfl
  · exact hq
  · exact hI.write hq rfl

/-! ### Deletion -/

theorem preserves_deleteLoadBalancer :
    Preserves I (ClusterReconciler.deleteLoadBalancer client) := by
  intro p hp
  show wp _ (fun _ q => I q) p
  unfold ClusterReconciler.deleteLoadBalancer
  rw [Pass.wp_getObj_bind, Pass.wp_call_bind]
  refine (h.deleteLoadBalancer hp).imp fun r s ⟨hs, hr⟩ => ?_
  cases r with
  | error err => exact hs
  | ok id =>
    rw [next_ok]
    refine wp_ite (fun _ => hs) fun hne => ?_
    rw [Pass.wp_call_bind]
    refine (wp_tolerate_state (hr id rfl hne)).imp fun r s' hs' => ?_
    cases r with
    | error err => exact hs'
    | ok _ => exact hI.noLoadBalancer hs'

theorem preserves_deleteBastion : Preserves I (ClusterReconciler.deleteBastion client) := by
  intro p hp
  show wp _ (fun _ q => I q) p
  unfold ClusterReconciler.deleteBastion
  rw [Pass.wp_getObj_bind, Pass.wp_call_bind]
  refine (wp_tolerate_state (h.deleteNodeSSHAccess hp)).imp fun r s hs => ?_
  cases r with
  | error err => exact hs
  | ok _ =>
    rw [next_ok, Pass.wp_call_bind]
    refine (wp_tolerate_state (h.deleteBastion "" hs)).imp fun r s' hs' => ?_
    cases r with
    | error err => exact hs'
    | ok _ =>
      rw [next_ok]
      exact wp_ite (fun _ => hI.noBastion hs') fun _ => hs'

theorem preserves_deleteManagedNetwork : Preserves I (deleteManagedNetwork client) := by
  intro p hp
  show wp _ (fun _ q => I q) p
  unfold deleteManagedNetwork
  rw [Pass.wp_getObj_bind, Pass.wp_call_bind]
  refine (h.deleteNetwork hp).imp fun r s ⟨hs, hr⟩ => ?_
  cases r with
  | error err => exact hs
  | ok id =>
    rw [next_ok]
    refine wp_ite (fun _ => hs) fun hne => ?_
    rw [Pass.wp_attempt_call_bind]
    refine (wp_tolerate_state (hr id rfl hne)).imp fun r s' hs' => ?_
    cases r with
    | ok _ => exact hI.noNetwork hs'
    | error err => exact wp_ite (fun _ => hI.write hs' rfl) fun _ => hs'

theorem preserves_deleteResources : Preserves I (deleteResources client) := by
  refine .bind (.imp I) (h.preserves_deleteLoadBalancer hI) fun _ =>
    .bind (.imp I) (h.preserves_deleteBastion hI) fun _ =>
    .bind (.imp I) (h.preserves_deleteManagedNetwork hI) fun r => ?_
  cases r with
  | some result => exact .pure (.imp I) _
  | none => exact .bind (.imp I) (hI.setObj fun _ => rfl) fun _ => .pure (.imp I) _

end RecordFrame

/-! ### A pass -/

theorem preserves_persistFinalizer (hI : RecordInvariant I) :
    Preserves I (persistFinalizer : Step σ Unit) := by
  intro p hp
  have hobj : ClusterRecord.of (withFinalizer p.obj) = ClusterRecord.of p.obj := by
    simp [ClusterRecord.of, ClusterIdentity.of, withFinalizer]
  exact wp_persistFinalizer (Q := fun _ q => I q) (fun _ => hp) fun _ _ _ =>
    hI.patch _ (hI.write hp hobj)

theorem preserves_reconcileFinalized (hI : RecordInvariant I)
    (hsrc : ∀ sc client, buildCloudClient env.source sc = .ok client → RecordFrame client I) :
    Preserves I (reconcileFinalized env) := by
  intro p hp
  have hwrite : ∀ {f}, ResourceWrite f → ∀ p, I p → I { p with obj := f p.obj } := by
    intro f hf p hp
    cases hf <;> exact hI.write hp rfl
  refine wp_reconcileFinalized (Q := fun _ q => I q)
    ((via_reconcileInfrastructure (C := fun client => RecordFrame client I) (.imp I) hwrite (hsrc _)
      fun client hok => hok.preserves_reconcileResources hI).imp fun r q ⟨hq, hr⟩ => ?_)
  rcases r with e | result | client
  · exact hq hp
  · exact hq hp
  · exact (hr _ rfl client rfl).preserves_finishWithBastion hI q (hq hp)

theorem preserves_reconcileNormal (hI : RecordInvariant I)
    (hsrc : ∀ sc client, buildCloudClient env.source sc = .ok client → RecordFrame client I) :
    Preserves I (reconcileNormal env) :=
  .bind (.imp I) (preserves_persistFinalizer hI) fun _ => preserves_reconcileFinalized hI hsrc

theorem preserves_reconcileDelete (hI : RecordInvariant I)
    (hsrc : ∀ sc client, buildCloudClient env.source sc = .ok client → RecordFrame client I)
    (cluster : Cluster) :
    Preserves I (reconcileDelete env cluster) := by
  intro p hp
  exact wp_reconcileDelete (Q := fun _ q => I q) (p := p) (fun _ _ _ => hp)
    (fun _ _ _ => hI.write hp rfl) (fun _ _ _ => hI.write hp rfl) fun client hclient =>
    (hsrc p.obj client hclient).preserves_deleteResources hI p hp

/-- A whole pass, whatever the API server answers and whatever becomes of its patches. -/
theorem preserves_reconcile (hI : RecordInvariant I)
    (hsrc : ∀ sc client, buildCloudClient env.source sc = .ok client → RecordFrame client I)
    (answers : Answers) :
    Preserves I (reconcile answers env) := by
  intro p hp
  refine wp_reconcile (Q := fun _ q => I q) (fun _ _ => hp) fun cluster _ => ?_
  refine Pass.wp_withDeferredPatch ?_
  suffices h : wp (reconcileScope env cluster) (fun _ q => I q) { p with obj := p.stored } from
    h.imp fun r q hq o r' _ _ => hI.patch o hq
  have hpaused : I { p with obj := withPaused cluster p.stored } :=
    hI.write (p := { p with obj := p.stored }) (hI.load hp) rfl
  exact wp_reconcileScope (fun _ => hpaused)
    (fun _ _ => preserves_reconcileDelete hI hsrc cluster _ hpaused)
    fun _ _ => preserves_reconcileNormal hI hsrc _ hpaused

end ClusterReconciler

end Capstk
