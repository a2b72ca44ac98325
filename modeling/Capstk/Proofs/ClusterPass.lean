import Capstk.Proofs.Answered
import Capstk.Proofs.ClusterFrame
import Capstk.Proofs.LoadBalancers

/-!
# What the two halves of a cluster pass leave alone

`reconcileNormal` is `reconcileResources` (zones, network, load balancer) followed by
`finishWithBastion`. The first half touches nothing that the bastion depends on (`SameBastion`), the
second nothing that the network and the load balancer depend on (`SameInfrastructure`), so that an
invariant about one of them is only ever argued for in its own half.
-/

namespace Capstk

open Prog SDKClient

/-! ### Cloud frames -/

/-- Only resources of kind `k` may have changed. -/
def SameExcept (k : Kind) (c c' : Cloud) : Prop := ∀ k', k' ≠ k → labelled k' c' = labelled k' c

theorem SameExcept.closed (k : Kind) : Closed fun s t : Session => SameExcept k s.cloud t.cloud :=
  ⟨fun _ _ _ => rfl, fun h h' k' hk => (h' k' hk).trans (h k' hk)⟩

theorem SameExcept.of_same {k : Kind} {c c' : Cloud} (h : SameResources c c') : SameExcept k c c' :=
  fun k' _ => h k'

namespace SDKClient

theorem readOnly_getNetwork (id : String) : ReadOnly (Cloud.getNetwork id) := by
  intro c; unfold Cloud.getNetwork; split <;> rfl

theorem sameResources_getNetwork (id : String) :
    Keeps (fun s t : Session => SameResources s.cloud t.cloud) (getNetwork id) :=
  .bind SameResources.closed (sameResources_read (readOnly_getNetwork id)) fun _ =>
    .pure SameResources.closed _

theorem sameResources_listAvailabilityZones :
    Keeps (fun s t : Session => SameResources s.cloud t.cloud) listAvailabilityZones :=
  sameResources_read fun _ => rfl

theorem sameExcept_createNetwork (input : CreateNetworkInput) :
    Keeps (fun s t : Session => SameExcept .network s.cloud t.cloud) (createNetwork input) := by
  have hR := SameExcept.closed .network
  have hcreate : Keeps (fun s t : Session => SameExcept .network s.cloud t.cloud)
      (do
        pure (networkFromSDK (← request "create network"
          (.createNetwork input.name input.tags input.ipv4Prefix)
          (Cloud.createNetwork input.name input.tags input.ipv4Prefix))) :
        Call Session Network) := by
    refine .bind hR (keeps_request (fun _ _ _ => rfl) fun c k' hk => ?_) fun _ => .pure hR _
    cases k' <;> first | rfl | exact absurd rfl hk
  refine .ite (.fail hR _) (.ite hcreate (keeps_existingOr hR (fun s => ?_) hcreate))
  exact .of_same (.of_eq (wp_findNetworkByTags input.tags s).1)

theorem sameExcept_ensureAPIServerLoadBalancer (input : LoadBalancerInput) :
    Keeps (fun s t : Session => SameExcept .loadBalancer s.cloud t.cloud)
      (ensureAPIServerLoadBalancer input) := fun s =>
  (wp_ensureAPIServerLoadBalancer input s).1.others

/-! ### Calls without failures -/

theorem answered_rangeOver (m : StringMap) : Preserves Answered (rangeOver m) := by
  intro s hs
  show Answered (rangeOver m s).2
  unfold rangeOver
  split <;> exact hs

theorem answered_getNetwork (id : String) : Preserves Answered (getNetwork id) :=
  .bind (Closed.imp _) preserves_answered fun _ => .pure (Closed.imp _) _

theorem answered_createNetwork (input : CreateNetworkInput) :
    Preserves Answered (createNetwork input) := by
  have hR := Closed.imp Answered
  have hcreate : Preserves Answered
      (do
        pure (networkFromSDK (← request "create network"
          (.createNetwork input.name input.tags input.ipv4Prefix)
          (Cloud.createNetwork input.name input.tags input.ipv4Prefix))) : Call Session Network) :=
    .bind hR preserves_answered fun _ => .pure hR _
  have hlist : Preserves Answered (listNetworksByTags input.tags) :=
    keeps_requireTags hR (.bind hR preserves_answered fun _ => .pure hR _)
  exact .ite (.fail hR _)
    (.ite hcreate (keeps_existingOr hR (.bind hR hlist fun l => keeps_single hR _ _ l) hcreate))

theorem answered_ensureAPIServerLoadBalancer (input : LoadBalancerInput) :
    Preserves Answered (ensureAPIServerLoadBalancer input) := by
  have hR := Closed.imp Answered
  have hlist : Preserves Answered (listAPIServerLoadBalancersByTags input.tags) := by
    refine keeps_requireTags hR (.bind hR preserves_answered.attempt fun r => ?_)
    cases r with
    | error e => exact .ite (.pure hR _) (.fail hR e)
    | ok items => exact .bind hR (answered_rangeOver _) fun _ => .pure hR _
  refine keeps_existingOr hR (.bind hR hlist fun l => keeps_single hR _ _ l)
    (.bind hR ?_ fun labels => ?_)
  · exact .ite (.pure hR _) (.bind hR (answered_rangeOver _) fun _ => .pure hR _)
  · exact .bind hR preserves_answered fun _ => .pure hR _

theorem answered_setAPIServerLoadBalancerTargets (id : String) (port : Int)
    (targets : List LoadBalancerTargetInput) :
    Preserves Answered (setAPIServerLoadBalancerTargets id port targets) := by
  have hR := Closed.imp Answered
  refine .ite (.fail hR _)
    (.ite (.fail hR _) (.ite (.fail hR _) (.bind hR preserves_answered fun l => ?_)))
  split
  · exact .fail hR _
  · exact .ite (.pure hR ()) preserves_answered

end SDKClient

/-! ### `reconcileResources` -/

/-- What the bastion depends on is the same. -/
structure SameBastion (p q : Pass StackitCluster Session) : Prop where
  stored : q.stored = p.stored
  patches : q.patches = p.patches
  metadata : q.obj.metadata = p.obj.metadata
  bastionSpec : q.obj.spec.bastion = p.obj.spec.bastion
  labels : q.obj.spec.additionalLabels = p.obj.spec.additionalLabels
  networkID : q.obj.spec.networkID = p.obj.spec.networkID
  bastionStatus : q.obj.status.bastion = p.obj.status.bastion
  condition : findStatusCondition q.obj.conditions clusterBastionReadyCondition =
    findStatusCondition p.obj.conditions clusterBastionReadyCondition
  resources : ∀ k, IsBastionKind k → labelled k q.cloud.cloud = labelled k p.cloud.cloud
  answered : Answered p.cloud → Answered q.cloud

theorem SameBastion.refl (p : Pass StackitCluster Session) : SameBastion p p :=
  ⟨rfl, rfl, rfl, rfl, rfl, rfl, rfl, rfl, fun _ _ => rfl, id⟩

theorem SameBastion.trans {p q r : Pass StackitCluster Session} (h : SameBastion p q)
    (h' : SameBastion q r) :
    SameBastion p r :=
  ⟨h'.stored.trans h.stored, h'.patches.trans h.patches, h'.metadata.trans h.metadata,
    h'.bastionSpec.trans h.bastionSpec, h'.labels.trans h.labels, h'.networkID.trans h.networkID,
    h'.bastionStatus.trans h.bastionStatus, h'.condition.trans h.condition,
    fun k hk => (h'.resources k hk).trans (h.resources k hk), fun ha => h'.answered (h.answered ha)⟩

theorem SameBastion.closed : Closed SameBastion := ⟨.refl, .trans⟩

/-- A write to the copy that the bastion does not depend on. -/
structure Unrelated (f : StackitCluster → StackitCluster) : Prop where
  metadata : ∀ o, (f o).metadata = o.metadata
  bastionSpec : ∀ o, (f o).spec.bastion = o.spec.bastion
  labels : ∀ o, (f o).spec.additionalLabels = o.spec.additionalLabels
  networkID : ∀ o, (f o).spec.networkID = o.spec.networkID
  bastionStatus : ∀ o, (f o).status.bastion = o.status.bastion
  condition : ∀ o, findStatusCondition (f o).conditions clusterBastionReadyCondition =
    findStatusCondition o.conditions clusterBastionReadyCondition

namespace Unrelated

theorem of_fields {f : StackitCluster → StackitCluster} (hm : ∀ o, (f o).metadata = o.metadata)
    (hs : ∀ o, (f o).spec.bastion = o.spec.bastion ∧
      (f o).spec.additionalLabels = o.spec.additionalLabels ∧
      (f o).spec.networkID = o.spec.networkID)
    (hb : ∀ o, (f o).status.bastion = o.status.bastion)
      (hc : ∀ o, (f o).conditions = o.conditions) : Unrelated f :=
  ⟨hm, fun o => (hs o).1, fun o => (hs o).2.1, fun o => (hs o).2.2, hb, fun o => by rw [hc]⟩

theorem setConditions {st : ConditionStatus} {reason message : String} {types : List String}
    (h : clusterBastionReadyCondition ∉ types) :
    Unrelated fun o => o.setConditions st reason message types :=
  ⟨fun _ => rfl, fun _ => rfl, fun _ => rfl, fun _ => rfl, fun _ => rfl, fun o => by
    rw [StackitCluster.setConditions, findStatusCondition_setConditions, if_neg h]⟩

theorem comp {f g : StackitCluster → StackitCluster} (hf : Unrelated f) (hg : Unrelated g) :
    Unrelated fun o => g (f o) :=
  ⟨fun o => (hg.metadata _).trans (hf.metadata o), fun o => (hg.bastionSpec _).trans
    (hf.bastionSpec o),
    fun o => (hg.labels _).trans (hf.labels o), fun o => (hg.networkID _).trans (hf.networkID o),
    fun o => (hg.bastionStatus _).trans (hf.bastionStatus o), fun o =>
    (hg.condition _).trans (hf.condition o)⟩

theorem unready : Unrelated StackitCluster.unready :=
  of_fields (fun _ => rfl) (fun _ => ⟨rfl, rfl, rfl⟩) (fun _ => rfl) fun _ => rfl

theorem setNotReady {reason message : String} {types : List String}
    (h : clusterBastionReadyCondition ∉ types) :
    Unrelated fun o => o.setNotReady reason message types := unready.comp (setConditions h)

end Unrelated

namespace ClusterReconciler

theorem sameBastion_setObj {f : StackitCluster → StackitCluster} (h : Unrelated f) :
    Keeps SameBastion (Pass.setObj f : Step Session Unit) := fun _ =>
  ⟨rfl, rfl, h.metadata _, h.bastionSpec _, h.labels _, h.networkID _, h.bastionStatus _,
    h.condition _, fun _ _ => rfl, id⟩

theorem sameBastion_call {α : Type} {x : Call Session α} {k : Kind} (hk : ¬ IsBastionKind k)
    (h : Keeps (fun s t : Session => SameExcept k s.cloud t.cloud) x)
    (hans : Preserves Answered x) :
    Keeps SameBastion (Pass.call x) := fun p =>
  ⟨rfl, rfl, rfl, rfl, rfl, rfl, rfl, rfl, fun k' hk' => h p.cloud k' fun heq => hk (heq ▸ hk'),
    hans p.cloud⟩

theorem sameBastion_read {α : Type} {x : Call Session α}
    (h : Keeps (fun s t : Session => SameResources s.cloud t.cloud) x)
    (hans : Preserves Answered x) : Keeps SameBastion (Pass.call x) :=
  sameBastion_call (k := .network) id (h.imp fun _ _ h => .of_same h) hans

theorem ResourceWrite.unrelated {f : StackitCluster → StackitCluster} (h : ResourceWrite f) :
    Unrelated f := by
  cases h with
  | condition st reason message type hbastion _ =>
    exact .setConditions (by simpa using hbastion.symm)
  | notReady reason message types hbastion _ => exact .setNotReady hbastion
  | failureDomains domains =>
    exact .of_fields (fun _ => rfl) (fun _ => ⟨rfl, rfl, rfl⟩) (fun _ => rfl) fun _ => rfl
  | endpoint endpoint =>
    exact .of_fields (fun _ => rfl) (fun _ => ⟨rfl, rfl, rfl⟩) (fun _ => rfl) fun _ => rfl
  | external =>
    refine Unrelated.comp (f := fun sc => { sc with status := { sc.status with
      apiServerEndpoint := sc.spec.controlPlaneEndpoint } }) ?_ (.setConditions (by decide))
    exact .of_fields (fun _ => rfl) (fun _ => ⟨rfl, rfl, rfl⟩) (fun _ => rfl) fun _ => rfl

theorem sameBastion_ensureNetwork : Keeps SameBastion (ensureNetwork sdkClient) :=
  keeps_ensureNetwork SameBastion.closed
    (fun n => sameBastion_setObj (f := (·.setNetwork n))
      (.of_fields (fun _ => rfl) (fun _ => ⟨rfl, rfl, rfl⟩) (fun _ => rfl) fun _ => rfl))
    (fun _ _ _ => sameBastion_setObj (.setNotReady (by decide)))
    (fun _ => sameBastion_read (sameResources_getNetwork _) (answered_getNetwork _))
    fun p _ => sameBastion_call (k := .network) id (sameExcept_createNetwork _)
      (answered_createNetwork _) p

theorem resourceFrame_sameBastion (env : Env Session) :
    ResourceFrame env sdkClient SameBastion where
  toClosed := SameBastion.closed
  write hf := sameBastion_setObj hf.unrelated
  zones := sameBastion_read sameResources_listAvailabilityZones preserves_answered
  network := sameBastion_ensureNetwork
  loadBalancer network machines _ p := by
    have hcall := sameBastion_call (k := .loadBalancer) id (sameExcept_ensureAPIServerLoadBalancer
      (apiServerInput p.obj (seedTargets network (apiServerTargets env.sha256Hex machines))))
      (answered_ensureAPIServerLoadBalancer _) p
    refine ⟨hcall, fun l _ =>
      hcall.trans (sameBastion_setObj (f := (·.setLoadBalancerID l.id)) ?_ _)⟩
    exact .of_fields (fun _ => rfl) (fun _ => ⟨rfl, rfl, rfl⟩) (fun _ => rfl) fun _ => rfl
  targets _ _ _ _ := sameBastion_read (sameResources_setAPIServerLoadBalancerTargets _ _ _)
    (answered_setAPIServerLoadBalancerTargets _ _ _)

end ClusterReconciler

/-! ### `finishWithBastion` -/

/-- Load balancers and networks are untouched, and every new resource has an ID. -/
structure InfraKept (c c' : Cloud) : Prop where
  loadBalancers : c'.loadBalancers = c.loadBalancers
  networks : labelled .network c' = labelled .network c
  named : ∀ k x, x ∈ labelled k c' → x ∈ labelled k c ∨ x.1 ≠ ""

namespace InfraKept
variable {c c' : Cloud}

theorem of_shrinks (h : Shrinks c c') (hlb : c'.loadBalancers = c.loadBalancers)
    (hnet : labelled .network c' = labelled .network c) : InfraKept c c' :=
  ⟨hlb, hnet, fun k _ hx => .inl ((h k).subset hx)⟩

theorem of_same (h : SameResources c c') (hlb : c'.loadBalancers = c.loadBalancers) :
    InfraKept c c' :=
  of_shrinks h.shrinks hlb (h .network)

theorem of_adds {α : Type} {k : Kind} {labels : StringMap} {ident : α → String}
    {effect : Cloud.Effect α} (h : Adds k labels ident effect) (hk : k ≠ .network) (c : Cloud)
    (hlb : (effect c).2.loadBalancers = c.loadBalancers) : InfraKept c (effect c).2 := by
  obtain ⟨a, c', heffect, hid, hthis, hothers⟩ := h c
  rw [heffect] at hlb ⊢
  refine ⟨hlb, hothers _ hk.symm, fun k' x hx => ?_⟩
  by_cases hkk : k' = k
  · subst hkk
    rw [hthis, List.mem_append, List.mem_singleton] at hx
    exact hx.imp id fun hx => by rw [hx]; exact hid
  · rw [hothers k' hkk] at hx
    exact .inl hx

end InfraKept

theorem bastionClosed_infraKept : BastionClosed InfraKept where
  refl c := .of_same (.of_eq rfl) rfl
  trans h h' := ⟨h'.loadBalancers.trans h.loadBalancers, h'.networks.trans h.networks,
    fun k x hx => (h'.named k x hx).elim (h.named k x) .inr⟩
  deleteServer id c := .of_shrinks ((removes_deleteServer id).shrinks c)
    (by unfold Cloud.deleteServer; split <;> rfl) ((removes_deleteServer id).others c _ (by decide))
  deletePublicIP id c := .of_shrinks ((removes_deletePublicIP id).shrinks c)
    (by unfold Cloud.deletePublicIP; split <;> rfl)
    ((removes_deletePublicIP id).others c _ (by decide))
  deleteSecurityGroup id c := .of_shrinks ((removes_deleteSecurityGroup id).shrinks c)
    (by unfold Cloud.deleteSecurityGroup; split <;> rfl)
    ((removes_deleteSecurityGroup id).others c _ (by decide))
  removePublicIpFromServer s p c := .of_same (.removePublicIpFromServer s p c)
    (by unfold Cloud.removePublicIpFromServer; split <;> rfl)
  removeSecurityGroupFromServer s g c := .of_same (.removeSecurityGroupFromServer s g c)
    (by unfold Cloud.removeSecurityGroupFromServer; split <;> rfl)
  deleteSecurityGroupRule g r c := .of_same (.deleteSecurityGroupRule g r c)
    (by unfold Cloud.deleteSecurityGroupRule; split <;> (try split) <;> rfl)
  createServer p c := .of_adds (adds_createServer p) (by decide) c rfl
  createPublicIP l c := .of_adds adds_createPublicIP (by decide) c rfl
  createSecurityGroup n d l c := .of_adds (adds_createSecurityGroup n d) (by decide) c rfl
  createSecurityGroupRule g p c := .of_same (.createSecurityGroupRule g p c)
    (by unfold Cloud.createSecurityGroupRule; split <;> rfl)
  addPublicIpToServer s p c := .of_same (.addPublicIpToServer s p c)
    (by unfold Cloud.addPublicIpToServer; split <;> (try split) <;> rfl)
  addSecurityGroupToServer s g c := .of_same (.addSecurityGroupToServer s g c)
    (by unfold Cloud.addSecurityGroupToServer; split <;> (try split) <;> (try split) <;> rfl)

/-- What the network and the load balancer depend on is the same. -/
structure SameInfrastructure (p q : Pass StackitCluster Session) : Prop where
  stored : q.stored = p.stored
  patches : q.patches = p.patches
  metadata : q.obj.metadata = p.obj.metadata
  spec : q.obj.spec = p.obj.spec
  network : q.obj.status.network = p.obj.status.network
  loadBalancerID : q.obj.status.apiServerLoadBalancerID = p.obj.status.apiServerLoadBalancerID
  cloud : InfraKept p.cloud.cloud q.cloud.cloud

theorem SameInfrastructure.closed : Closed SameInfrastructure where
  refl _ := ⟨rfl, rfl, rfl, rfl, rfl, rfl, bastionClosed_infraKept.refl _⟩
  trans h h' := ⟨h'.stored.trans h.stored, h'.patches.trans h.patches, h'.metadata.trans h.metadata,
    h'.spec.trans h.spec, h'.network.trans h.network, h'.loadBalancerID.trans h.loadBalancerID,
    bastionClosed_infraKept.trans h.cloud h'.cloud⟩

namespace ClusterReconciler

theorem sameInfrastructure_call {α : Type} {x : Call Session α}
    (h : Keeps (fun s t : Session => InfraKept s.cloud t.cloud) x) :
    Keeps SameInfrastructure (Pass.call x) := fun p =>
  ⟨rfl, rfl, rfl, rfl, rfl, rfl, h p.cloud⟩

theorem bastionFrame_sameInfrastructure : BastionFrame sdkClient SameInfrastructure where
  toClosed := SameInfrastructure.closed
  write hf p := by
    cases hf <;> exact ⟨rfl, rfl, rfl, rfl, rfl, rfl, bastionClosed_infraKept.refl _⟩
  deleteNodeSSHAccess tags :=
    have h := bastionClosed_infraKept.keeps_deleteNodeSSHAccess tags
    ⟨sameInfrastructure_call h,
      sameInfrastructure_call (keeps_tolerate bastionClosed_infraKept.closed h)⟩
  deleteBastion input bastion :=
    have h := bastionClosed_infraKept.keeps_deleteBastion input bastion
    ⟨sameInfrastructure_call h,
      sameInfrastructure_call (keeps_tolerate bastionClosed_infraKept.closed h)⟩
  ensureBastion input := sameInfrastructure_call (bastionClosed_infraKept.keeps_ensureBastion input)

/-- The second half of `reconcileNormal` leaves the network and the load balancer alone. -/
theorem sameInfrastructure_finishWithBastion (env : Env Session) :
    Keeps SameInfrastructure (finishWithBastion env sdkClient) :=
  bastionFrame_sameInfrastructure.keeps_finishWithBastion env

/-! ### `reconcileInfrastructure` -/

/-- The first half of `reconcileNormal` leaves the bastion alone. -/
theorem sameBastion_reconcileInfrastructure {env : Env Session} {p : Pass StackitCluster Session}
    (hsdk : ∀ sc, SDKSource env.source sc) :
    wp (reconcileInfrastructure env)
      (Via SameBastion p fun r _ => ∀ client, r = .inr client → client = sdkClient) p := by
  refine via_reconcileInfrastructure SameBastion.closed (resourceFrame_sameBastion env).write
    (hsdk _) ?_
  rintro client rfl
  exact (resourceFrame_sameBastion env).keeps_reconcileResources

end ClusterReconciler

end Capstk
