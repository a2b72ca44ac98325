import Capstk.Proofs.ClusterFrame

/-!
# What a cluster pass writes

Every write of a pass to its copy, with what is known when it is made (`Write`): the types and
reasons of conditions, the zones and the address that the cloud answers, and that an endpoint is
published only for a load balancer. What all of them keep, a pass keeps, and so does what is patched
(`WriteInvariant`). The `Paused` condition is not among the writes: it is set once, when a pass
starts.
-/

namespace Capstk

/-- The reasons of the conditions of servers. -/
def serverStateReasons : List String :=
  ["InstanceActive", "InstanceBusy", "InstanceStarting", "InstanceDeallocated",
    "InstanceDeallocating", "InstanceDeleting",
    "InstanceFailed", "InstanceStopped", "InstancePaused", "InstanceInRescue",
    "InstanceEnteringRescue", "InstanceStopping",
    "InstanceLeavingRescue", "InstanceNotActive", "InstanceCrashed", "InstancePowerError"]

theorem serverStates_listed {state : String} {info : ServerStateInfo}
    (h : serverStates state = some info) :
    info.reason ∈ serverStateReasons := by
  unfold serverStates at h
  split at h
  all_goals first
    | cases h; decide
    | cases h

theorem serverStateCondition_listed {state powerStatus : String}
    (h : (serverStateCondition state powerStatus).ready = false) :
    (serverStateCondition state powerStatus).reason ∈ serverStateReasons := by
  unfold serverStateCondition at h ⊢
  split at h
  · cases h
  · rename_i hstate
    rw [if_neg hstate]
    dsimp only
    split
    · decide
    · split
      · decide
      · cases hinfo : serverStates state with
        | none => decide
        | some info => exact serverStates_listed hinfo

namespace ClusterReconciler

open Prog

variable {σ α : Type} {env : Env σ} {client : Client σ} {C : σ → Prop} {Z : List String → Prop}
  {H : String → Prop}
  {J K : StackitCluster → Prop} {sc sc' : StackitCluster} {p : Pass StackitCluster σ}

/-- The conditions of a cluster, the `Paused` one apart. -/
def conditionTypes : List String :=
  [clusterReadyCondition, clusterNetworkReadyCondition, clusterLoadBalancerReadyCondition,
    clusterCredentialsReadyCondition,
    clusterBastionReadyCondition]

/-- The reasons that a pass gives for a condition. -/
def reasons : List String :=
  ["Available", bastionDisabledReason, "CredentialsInvalid", "AvailabilityZonesError",
    "NetworkNotFound", "NetworkCreateError",
    "NetworkError", "NetworkInUse", "LoadBalancerTargetError", "MachineListError",
    "LoadBalancerError", "Provisioning",
    "EndpointMissing", "Recreating", "InvalidBastionSpec", "CloudInitRefError", "BastionError"] ++
    serverStateReasons

/-- One write of a pass. `Z` holds of the zones that the cloud lists and `H` of the address of the
load balancer. -/
inductive Write (Z : List String → Prop) (H : String → Prop) :
    StackitCluster → StackitCluster → Prop
  | conditions {sc : StackitCluster} (status : ConditionStatus) (reason message : String)
      (types : List String) (hreason : reason ∈ reasons)
      (htypes : ∀ t ∈ types, t ∈ conditionTypes) :
      Write Z H sc (sc.setConditions status reason message types)
  | status {sc : StackitCluster} (status : StackitClusterStatus)
      (hendpoint : status.apiServerEndpoint = sc.status.apiServerEndpoint)
      (hdomains : status.failureDomains = sc.status.failureDomains) :
      Write Z H sc { sc with status }
  | failureDomains {sc : StackitCluster} (zones : List String) (hzones : zones = [] ∨ Z zones) :
    Write Z H sc (sc.setFailureDomains (failureDomainsFromZones sc.spec.region zones))
  | endpoint {sc : StackitCluster} (ip : String)
      (henabled : sc.spec.apiServerLoadBalancerEnabled = true) (hne : ip ≠ "") (hip : H ip) :
    Write Z H sc (sc.setAPIServerEndpoint { host := ip, port := defaultAPIServerPort })
  | external {sc : StackitCluster} (hdisabled : sc.spec.apiServerLoadBalancerEnabled = false) :
    Write Z H sc { sc with
      status := { sc.status with apiServerEndpoint := sc.spec.controlPlaneEndpoint } }
  | finalizers {sc : StackitCluster} (finalizers : List String) :
    Write Z H sc { sc with metadata := { sc.metadata with finalizers } }

/-- The answers of the cloud that are recorded, in states with `C`. -/
structure Answering (C : σ → Prop) (Z : List String → Prop) (H : String → Prop)
    (client : Client σ) : Prop where
  zones : ∀ s, C s → wp client.listAvailabilityZones (fun r t => C t ∧ ∀ zones, r = .ok zones →
    Z zones) s
  getNetwork : ∀ id, Preserves C (client.getNetwork id)
  createNetwork : ∀ input, Preserves C (client.createNetwork input)
  loadBalancer : ∀ input s, C s → wp (client.ensureAPIServerLoadBalancer input)
    (fun r _ => ∀ l, r = .ok l → H l.ip) s

/-- `J` of the copy and `K` of what is stored. -/
structure WriteInvariant (Z : List String → Prop) (H : String → Prop)
    (J K : StackitCluster → Prop) : Prop where
  write : ∀ {sc sc'}, Write Z H sc sc' → J sc → J sc'
  patch : ∀ {sc stored} (o : PatchOutcome), J sc → K stored → K (Pass.deliver o sc stored)

structure Holds (C : σ → Prop) (J K : StackitCluster → Prop) (p : Pass StackitCluster σ) :
    Prop where
  obj : J p.obj
  stored : K p.stored
  cloud : C p.cloud

/-- Whatever the cloud is like. -/
abbrev Settles (J K : StackitCluster → Prop) : Pass StackitCluster σ → Prop :=
  Holds (fun _ => True) J K

theorem Holds.settles (h : Holds C J K p) : Settles J K p := ⟨h.obj, h.stored, trivial⟩

namespace WriteInvariant
variable (h : WriteInvariant Z H J K)
include h

theorem setObj {f : StackitCluster → StackitCluster} (hf : ∀ sc, Write Z H sc (f sc)) :
    Preserves (Holds C J K) (Pass.setObj f : Step σ Unit) :=
  fun _ hp => ⟨h.write (hf _) hp.obj, hp.stored, hp.cloud⟩

theorem conditions {status : ConditionStatus} {reason message : String} {types : List String}
    (hreason : reason ∈ reasons) (htypes : ∀ t ∈ types, t ∈ conditionTypes) (hsc : J sc) :
    J (sc.setConditions status reason message types) :=
  h.write (.conditions _ _ _ _ hreason htypes) hsc

theorem notReady {reason message : String} {types : List String} (hreason : reason ∈ reasons)
    (htypes : ∀ t ∈ types, t ∈ conditionTypes) (hsc : J sc) :
    J (sc.setNotReady reason message types) :=
  h.conditions hreason htypes (h.write (.status { sc.status with ready := false } rfl rfl) hsc)

theorem withEndpoint {lb : LoadBalancer} (henabled : sc.spec.apiServerLoadBalancerEnabled = true)
    (hne : lb.ip ≠ "") (hip : H lb.ip) (hsc : J sc) : J (ClusterReconciler.withEndpoint lb sc) := by
  have hend := h.write (.endpoint lb.ip henabled hne hip) hsc
  unfold ClusterReconciler.withEndpoint
  split
  · exact hend
  · exact h.conditions (by decide) (by decide) hend

end WriteInvariant

theorem holds_call {x : Call σ α} (hx : Preserves C x) :
    Preserves (Holds C J K) (Pass.call x : Step σ α) := fun p => by
  show wp (Pass.call x) (fun _ q => Holds C J K p → Holds C J K q) p
  rw [Pass.wp_call]
  exact (hx.wp p.cloud).imp fun _ _ hc hp => ⟨hp.obj, hp.stored, hc hp.cloud⟩

theorem settles_call (x : Call σ α) : Preserves (Settles J K) (Pass.call x : Step σ α) :=
  holds_call fun _ _ => trivial

/-! ### Up to the bastion -/

section resources
variable (h : WriteInvariant Z H J K)
include h

theorem holds_ensureNetwork (ha : Answering C Z H client) :
    Preserves (Holds C J K) (ensureNetwork client) := by
  have hlisted : ∀ reason ∈ networkReasons, reason ∈ reasons := by decide
  exact keeps_ensureNetwork (.imp _)
    (fun _ _ hp => ⟨h.write (.status _ rfl rfl) hp.obj, hp.stored, hp.cloud⟩)
    (fun reason hreason _ _ hp =>
      ⟨h.notReady (hlisted reason hreason) (by decide) hp.obj, hp.stored, hp.cloud⟩)
    (fun _ => holds_call (ha.getNetwork _)) fun p _ => holds_call (ha.createNetwork _) p

/-- The endpoint is that of the load balancer, which is enabled. -/
theorem holds_reconcileTargets {lb : LoadBalancer} (targets : List LoadBalancerTargetInput)
    (hp : Settles J K p) (henabled : p.obj.spec.apiServerLoadBalancerEnabled = true)
    (hne : lb.ip ≠ "") (hip : H lb.ip) :
    wp (reconcileTargets client lb targets) (fun _ q => Settles J K q) p := by
  have hmarked := h.withEndpoint henabled hne hip hp.obj
  have hend := h.write (.endpoint lb.ip henabled hne hip) hp.obj
  refine wp_reconcileTargets (fun _ => ⟨hmarked, hp.stored, trivial⟩) fun _ =>
    wp_of_forall fun r s => ?_
  cases r with
  | ok _ => exact ⟨hmarked, hp.stored, trivial⟩
  | error err => exact ⟨h.conditions (by decide) (by decide) hend, hp.stored, trivial⟩

theorem holds_reconcileLoadBalancer (ha : Answering C Z H client) (network : Network)
    (hp : Holds C J K p) (henabled : p.obj.spec.apiServerLoadBalancerEnabled = true) :
    wp (reconcileLoadBalancer env client network) (fun _ q => Settles J K q) p := by
  refine wp_reconcileLoadBalancer
    (fun _ _ => ⟨h.conditions (by decide) (by decide) hp.obj, hp.stored, trivial⟩)
    fun machines _ => (ha.loadBalancer _ _ hp.cloud).imp fun r s hr => ?_
  cases r with
  | error err => exact fun _ => ⟨h.notReady (by decide) (by decide) hp.obj, hp.stored, trivial⟩
  | ok lb =>
    have hq : Settles J K { p with obj := p.obj.setLoadBalancerID lb.id, cloud := s } :=
      ⟨h.write (.status _ rfl rfl) hp.obj, hp.stored, trivial⟩
    exact ⟨fun _ => ⟨h.notReady (by decide) (by decide) hq.obj, hq.stored, trivial⟩,
      fun hne => holds_reconcileTargets h _ hq henabled hne (hr lb rfl)⟩

theorem holds_reconcileEndpoint (ha : Answering C Z H client) (network : Network)
    (hp : Holds C J K p) :
    wp (reconcileEndpoint env client network) (fun _ q => Settles J K q) p := by
  refine wp_reconcileEndpoint (fun henabled => holds_reconcileLoadBalancer h ha network hp henabled)
    (fun hdisabled _ => ⟨h.conditions (by decide) (by decide) ?_, hp.stored, trivial⟩)
    fun _ _ => ⟨h.notReady (by decide) (by decide) hp.obj, hp.stored, trivial⟩
  exact h.write (.external hdisabled) hp.obj

theorem holds_reconcileResources (ha : Answering C Z H client) (hp : Holds C J K p) :
    wp (reconcileResources env client) (fun _ q => Settles J K q) p := by
  have hcredentials : J (withCredentials p.obj) := h.conditions (by decide) (by decide) hp.obj
  refine wp_reconcileResources ((ha.zones _ hp.cloud).imp fun r s ⟨hs, hr⟩ => ?_)
  cases r with
  | error err =>
    exact fun _ => ⟨h.notReady (by decide) (by decide) hcredentials, hp.stored, trivial⟩
  | ok zones =>
    have hdomains := h.write (.failureDomains zones (.inr (hr zones rfl))) hcredentials
    rw [zonesAnswer_ok]
    refine ((holds_ensureNetwork h ha).wp _).imp fun r q hq => ?_
    have hq := hq ⟨hdomains, hp.stored, hs⟩
    rcases r with err | result | network
    · exact hq.settles
    · exact hq.settles
    · exact holds_reconcileEndpoint h ha network
        ⟨h.conditions (by decide) (by decide) hq.obj, hq.stored, hq.cloud⟩

/-! ### The bastion -/

theorem holds_reconcileBastion : Preserves (Settles J K) (reconcileBastion env client) := by
  intro p hp
  have hfailed : ∀ s : σ, Settles J K { p with cloud := s } := fun _ =>
    ⟨hp.obj, hp.stored, trivial⟩
  have hcleared : J p.obj.clearBastionStatus := h.write (.status _ rfl rfl) hp.obj
  refine wp_reconcileBastion (Q := fun _ q => Settles J K q) (fun _ => ?disabled)
    (fun _ reason _ hrefused => ?refused) (fun cloudInit _ _ => ?recreate)
    fun cloudInit _ _ => ?ensure
  case disabled =>
    refine wp_disableBastion
      (fun _ => ⟨h.conditions (by decide) (by decide) hp.obj, hp.stored, trivial⟩) fun _ =>
      wp_orError_of_forall (fun _ s => wp_orError_of_forall (fun _ t => ?_) fun _ => hfailed)
        fun _ => hfailed
    exact ⟨h.conditions (by decide) (by decide) hcleared, hp.stored, trivial⟩
  case refused =>
    have hreason : reason ∈ reasons := by cases hrefused <;> decide
    exact ⟨h.notReady hreason (by decide) hp.obj, hp.stored, trivial⟩
  case recreate =>
    refine wp_recreateBastion (wp_orError_of_forall (fun _ s =>
      wp_orError_of_forall (fun _ t => ?_) fun _ => hfailed) fun _ => hfailed)
    exact ⟨h.notReady (by decide) (by decide) hcleared, hp.stored, trivial⟩
  case ensure =>
    refine wp_ensureBastion (wp_orError_of_forall (fun b s => ?_) fun _ => hfailed)
    have hset : J (p.obj.setBastionStatus b (bastionCloudInitHash env cloudInit)) :=
      h.write (.status _ rfl rfl) hp.obj
    refine ⟨fun hdown => ⟨h.notReady ?_ (by decide) hset, hp.stored, trivial⟩,
      fun _ => ⟨h.notReady (by decide) (by decide) hset, hp.stored, trivial⟩,
      fun _ _ => ⟨h.conditions (by decide) (by decide) hset, hp.stored, trivial⟩⟩
    exact List.mem_append_right _ (serverStateCondition_listed hdown)

theorem holds_finishWithBastion : Preserves (Settles J K) (finishWithBastion env client) := by
  intro p hp
  refine wp_finishWithBastion (Q := fun _ q => Settles J K q)
    (((holds_reconcileBastion h).wp p).imp fun r q hq => ?_)
  have hq := hq hp
  rcases r with err | ⟨result, _ | _⟩
  · exact fun _ => ⟨h.notReady (by decide) (by decide) hq.obj, hq.stored, trivial⟩
  · exact hq
  · exact ⟨h.conditions (by decide) (by decide) (h.write (.status _ rfl rfl) hq.obj), hq.stored,
      trivial⟩

/-! ### A pass -/

theorem holds_reconcileInfrastructure
    (hsrc : ∀ sc client, buildCloudClient env.source sc = .ok client → Answering C Z H client)
    (hp : Holds C J K p) : wp (reconcileInfrastructure env) (fun _ q => Settles J K q) p := by
  have hq : Holds C J K { p with obj := withStaticZones p.obj } :=
    ⟨h.write (.failureDomains [] (.inl rfl)) hp.obj, hp.stored, hp.cloud⟩
  exact wp_reconcileInfrastructure
    (fun _ _ _ => ⟨h.notReady (by decide) (by decide) hq.obj, hq.stored, trivial⟩)
    fun client hclient => holds_reconcileResources h (hsrc _ client hclient) hq

theorem holds_reconcileFinalized
    (hsrc : ∀ sc client, buildCloudClient env.source sc = .ok client → Answering C Z H client)
    (hp : Holds C J K p) : wp (reconcileFinalized env) (fun _ q => Settles J K q) p := by
  refine wp_reconcileFinalized ((holds_reconcileInfrastructure h hsrc hp).imp fun r q hq => ?_)
  rcases r with err | result | client
  · exact hq
  · exact hq
  · exact holds_finishWithBastion h q hq

theorem holds_reconcileNormal (hsrc : ∀ sc client, buildCloudClient env.source sc = .ok client →
      Answering C Z H client)
    (hp : Holds C J K p) : wp (reconcileNormal env) (fun _ q => Settles J K q) p := by
  have hpatched : containsFinalizer p.obj.metadata clusterFinalizer = false →
      Holds C J K (patchFinalizer p) := fun hnot => by
    have hobj : J (withFinalizer p.obj) := by
      rw [withFinalizer, addFinalizer, hnot, if_neg (by simp)]
      exact h.write (.finalizers _) hp.obj
    exact ⟨hobj, h.patch _ hobj hp.stored, hp.cloud⟩
  exact wp_reconcileNormal (fun _ => holds_reconcileFinalized h hsrc hp)
    (fun hnot _ _ => (hpatched hnot).settles) fun hnot _ =>
    holds_reconcileFinalized h hsrc (hpatched hnot)

theorem holds_dropFinalizer : Preserves (Settles J K) (dropFinalizer : Step σ Unit) :=
  h.setObj fun sc => .finalizers (sc.metadata.finalizers.filter (· != clusterFinalizer))

theorem holds_deleteResources : Preserves (Settles J K) (deleteResources client) := by
  refine .bind (.imp _) ?loadBalancer fun _ => .bind (.imp _) ?bastion fun _ =>
    .bind (.imp _) ?network fun r => ?_
  case loadBalancer =>
    refine .bind (.imp _) (Closed.imp _).refl fun sc => .bind (.imp _) (settles_call _) fun id =>
      .ite (.pure (.imp _) _) ?_
    exact .bind (.imp _) (settles_call _) fun _ => h.setObj fun sc => .status _ rfl rfl
  case bastion =>
    refine .bind (.imp _) (Closed.imp _).refl fun sc => .bind (.imp _) (settles_call _) fun _ =>
      .bind (.imp _) (settles_call _) fun _ => ?_
    exact .ite (h.setObj fun sc => .status _ rfl rfl) (.pure (.imp _) _)
  case network =>
    refine .bind (.imp _) (Closed.imp _).refl fun sc => .bind (.imp _) (settles_call _) fun id =>
      .ite (.pure (.imp _) _) ?_
    refine .bind (.imp _) (settles_call _).attempt fun r => ?_
    cases r with
    | ok _ => exact .bind (.imp _) (h.setObj fun sc => .status _ rfl rfl) fun _ => .pure (.imp _) _
    | error err =>
      refine .ite (.bind (.imp _) (h.setObj fun sc => .conditions _ _ _ _ (by decide) (by decide))
        fun _ => .pure (.imp _) _) ?_
      exact .fail (.imp _) err
  cases r with
  | some result => exact .pure (.imp _) _
  | none => exact .bind (.imp _) (holds_dropFinalizer h) fun _ => .pure (.imp _) _

theorem holds_reconcileDelete (cluster : Cluster) :
    Preserves (Settles J K) (reconcileDelete env cluster) := by
  intro p hp
  refine wp_reconcileDelete (Q := fun _ q => Settles J K q) (p := p) (fun _ _ _ => hp)
    (fun _ _ _ => holds_dropFinalizer h p hp) (fun err _ _ => ?_) fun _ _ =>
    holds_deleteResources h p hp
  exact h.setObj (fun sc => .conditions _ _ _ _ (by decide) (by decide)) p hp

theorem holds_reconcileScope (hsrc : ∀ sc client, buildCloudClient env.source sc = .ok client →
      Answering C Z H client)
    {cluster : Cluster} (hobj : J (withPaused cluster p.obj)) (hstored : K p.stored)
    (hcloud : C p.cloud) :
    wp (reconcileScope env cluster) (fun _ q => Settles J K q) p := by
  have hp : Holds C J K { p with obj := withPaused cluster p.obj } := ⟨hobj, hstored, hcloud⟩
  exact wp_reconcileScope (fun _ => hp.settles)
    (fun _ _ => holds_reconcileDelete h cluster _ hp.settles)
    fun _ _ => holds_reconcileNormal h hsrc hp

end resources

/-- What is stored after a pass: nothing new, or what `J` holds of, as far as the last patch
delivers it. -/
theorem wp_reconcile_stored (h : WriteInvariant Z H J K)
    (hsrc : ∀ sc client, buildCloudClient env.source sc = .ok client → Answering C Z H client)
    {answers : Answers} (hobj : ∀ cluster, answers.getOwnerCluster = .ok (some cluster) →
      J (withPaused cluster p.stored)) (hstored : K p.stored)
    (hcloud : C p.cloud) :
    wp (reconcile answers env) (fun _ q => q.stored = p.stored ∨
      ∃ sc stored o, J sc ∧ K stored ∧ q.stored = Pass.deliver o sc stored) p := by
  refine wp_reconcile (fun _ _ => .inl rfl) fun cluster hscope => ?_
  refine Pass.wp_withDeferredPatch ?_
  refine (holds_reconcileScope (p := { p with obj := p.stored }) h hsrc (hobj cluster hscope.owner)
    hstored hcloud).imp fun r q hq o r' _ _ => ?_
  exact .inr ⟨q.obj, q.stored, o, hq.obj, hq.stored, rfl⟩

end ClusterReconciler

end Capstk
