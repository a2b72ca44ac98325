import Capstk.Proofs.ClusterRecord
import Capstk.Proofs.Confined
import Capstk.Proofs.MachineRules
import Capstk.Proofs.NetworkTrace

/-!
# Passes among the passes of others

A pass runs while others change the project: between any two of its calls anything may happen that
new IDs and fixed labels allow (`Evolves`). What a cluster or a machine has recorded stays its own
all the same, so that each call of a pass stays within what the tenant may do (`Tidy`).
-/

namespace Capstk

open Prog SDKClient

/-- The client that makes the calls of `client` by way of `f`. -/
def Client.lift {σ τ : Type} (f : ∀ {α : Type}, Call σ α → Call τ α) (client : Client σ) :
    Client τ where
  getNetwork id := f (client.getNetwork id)
  findNetworkByTags tags := f (client.findNetworkByTags tags)
  listNetworksByTags tags := f (client.listNetworksByTags tags)
  createNetwork input := f (client.createNetwork input)
  deleteNetwork id := f (client.deleteNetwork id)
  getServer id := f (client.getServer id)
  findServerByTags tags := f (client.findServerByTags tags)
  listServersByTags tags := f (client.listServersByTags tags)
  createServer input := f (client.createServer input)
  deleteServer id := f (client.deleteServer id)
  ensureBastion input := f (client.ensureBastion input)
  deleteBastion input bastion := f (client.deleteBastion input bastion)
  ensureNodeSSHAccess input := f (client.ensureNodeSSHAccess input)
  deleteNodeSSHAccess tags := f (client.deleteNodeSSHAccess tags)
  listPublicIPsByTags tags := f (client.listPublicIPsByTags tags)
  listSecurityGroupsByTags tags := f (client.listSecurityGroupsByTags tags)
  ensureAPIServerLoadBalancer input := f (client.ensureAPIServerLoadBalancer input)
  listAPIServerLoadBalancersByTags tags := f (client.listAPIServerLoadBalancersByTags tags)
  setAPIServerLoadBalancerTargets id port targets :=
    f (client.setAPIServerLoadBalancerTargets id port targets)
  deleteAPIServerLoadBalancer id := f (client.deleteAPIServerLoadBalancer id)
  listAvailabilityZones := f client.listAvailabilityZones

/-- The same client in a project that others change between its calls. -/
def Client.amid (client : Client Session) : Client (Amid Session) := client.lift Prog.amid

variable {t : Tenant} {rule : SDKRulePayload → Prop} {c c' c₀ : Cloud} {α : Type}

/-! ### The invariant of a pass -/

/-- Every call so far was one of the tenant's, and `Rec` holds for both copies of the object. -/
structure Tidy {Obj : Type} (t : Tenant) (rule : SDKRulePayload → Prop) (Rec : Cloud → Obj → Prop)
    (c₀ : Cloud) (p : Pass Obj (Amid Session)) : Prop where
  ok : p.cloud.Ok (fun s u => Evolves s.cloud u.cloud) fun s u => Within t rule s.cloud u.cloud
  since : Evolves c₀ p.cloud.state.cloud
  sound : Sound p.cloud.state.cloud
  obj : Rec p.cloud.state.cloud p.obj
  stored : Rec p.cloud.state.cloud p.stored

section tidy
variable {Obj : Type} {Rec : Cloud → Obj → Prop} {p : Pass Obj (Amid Session)}

theorem Tidy.write (h : Tidy t rule Rec c₀ p) {o : Obj} (ho : Rec p.cloud.state.cloud o) :
    Tidy t rule Rec c₀ { p with obj := o } := ⟨h.ok, h.since, h.sound, ho, h.stored⟩

/-- The rule for a call of the client: it has to stay within what the tenant may do in any project
that the present one may have become. -/
theorem Tidy.call {x : Call Session α} {P : α → Cloud → Prop} (h : Tidy t rule Rec c₀ p)
    (hRec : ∀ o, Stable fun c => Rec c o)
    (hx : ∀ s : Session, Evolves p.cloud.state.cloud s.cloud → Sound s.cloud → Rec s.cloud p.obj →
      wp x (Via (fun s u : Session => Within t rule s.cloud u.cloud) s fun a u => P a u.cloud) s) :
    wp (amid x) (fun r s => Tidy t rule Rec c₀ { p with cloud := s } ∧ ∀ a, r = .ok a →
      P a s.state.cloud) p.cloud := by
  let Inv (s : Session) : Prop :=
    Evolves p.cloud.state.cloud s.cloud ∧ Sound s.cloud ∧ Rec s.cloud p.obj ∧ Rec s.cloud p.stored
  have hstable : ∀ s u : Session, Evolves s.cloud u.cloud → Inv s → Inv u :=
    fun s u he ⟨h₁, h₂, h₃, h₄⟩ =>
    ⟨h₁.trans he, he.sound h₂, hRec _ _ _ he h₃, hRec _ _ _ he h₄⟩
  have hcall : ∀ s, Inv s →
      wp x (fun r u => Within t rule s.cloud u.cloud ∧ Inv u ∧ ∀ a, r = .ok a → P a u.cloud) s := by
    intro s hs
    refine (hx s hs.1 hs.2.1 hs.2.2.1).imp fun r u ⟨hu, hr⟩ =>
      ⟨hu, hstable s u (Within.evolves hu) hs, hr⟩
  refine (wp_amid_of h.ok hstable ⟨.refl _, h.sound, h.obj, h.stored⟩ hcall).imp
    fun r s ⟨hok, ⟨h₁, h₂, h₃, h₄⟩, hr⟩ => ?_
  exact ⟨⟨hok, h.since.trans h₁, h₂, h₃, h₄⟩, hr⟩

theorem Tidy.call' {x : Call Session α} (h : Tidy t rule Rec c₀ p)
    (hRec : ∀ o, Stable fun c => Rec c o)
    (hx : ∀ s : Session, Evolves p.cloud.state.cloud s.cloud → Sound s.cloud → Rec s.cloud p.obj →
      wp x (fun _ u => Within t rule s.cloud u.cloud) s) :
    wp (amid x) (fun _ s => Tidy t rule Rec c₀ { p with cloud := s }) p.cloud := by
  refine (h.call (P := fun _ _ => True) hRec fun s he hs ho => ?_).imp fun _ _ hu => hu.1
  exact (hx s he hs ho).imp fun _ _ hu => ⟨hu, fun _ _ => trivial⟩

end tidy

/-! ### Clusters -/

/-- The cluster `m` is the tenant `t`. -/
structure Tenant.Is (t : Tenant) (m : ClusterIdentity) : Prop where
  name : m.name = t.infrastructure
  (namespace' : m.namespace' = t.namespace')
  consistent : ConsistentRewrites m.tags

namespace Tenant.Is
variable {m : ClusterIdentity} (h : t.Is m)
include h

theorem owns_tags : t.owns m.tags = true := by
  rw [Tenant.owns_iff, ClusterIdentity.tags, clusterTags_clusterNamespace, clusterTags_clusterName,
    h.name, h.namespace']
  exact ⟨rfl, .inr rfl⟩

theorem owns_role (role : String) : t.owns (m.tags.insert labelResourceRole role) = true := by
  have howns := Tenant.owns_iff.1 h.owns_tags
  rw [Tenant.owns_iff, AList.lookup_insert_ne (by decide), AList.lookup_insert_ne (by decide)]
  exact howns

theorem balancerTags : BalancerTags t m.tags := by
  refine ⟨h.consistent, ?_, clusterTags_managedBy _ _ _⟩
  rw [ClusterIdentity.tags, clusterTags_clusterName, h.name]

end Tenant.Is

/-- What the object records is the tenant's. -/
structure Records (t : Tenant) (rule : SDKRulePayload → Prop) (m : ClusterIdentity) (c : Cloud)
    (sc : StackitCluster) : Prop where
  identity : ClusterIdentity.of sc = m
  network : m.networkID = "" → KnownIfSet t .network sc.status.network.id c
  bastion : BastionKnownIfSet t (ClusterReconciler.recordedBastion sc.status.bastion) c
  loadBalancer : sc.status.apiServerLoadBalancerID ≠ "" → sc.status.apiServerLoadBalancerID =
    t.balancer
  cidrs : ∀ cidr ∈ sc.spec.bastion.allowedCIDRs, rule (sshRule cidr)

namespace Records
variable {m : ClusterIdentity} {sc sc' : StackitCluster}

theorem stable (sc : StackitCluster) : Stable fun c => Records t rule m c sc := fun _ _ he h =>
  ⟨h.identity, fun h0 => (h.network h0).evolves (by decide) he,
    ⟨h.bastion.server.evolves (by decide) he, h.bastion.publicIP.evolves (by decide) he,
      h.bastion.securityGroup.evolves (by decide) he⟩, h.loadBalancer, h.cidrs⟩

theorem congr (h : Records t rule m c sc) (heq : ClusterRecord.of sc' = ClusterRecord.of sc) :
    Records t rule m c sc' := by
  simp only [ClusterRecord.of, ClusterRecord.mk.injEq] at heq
  obtain ⟨hid, hspec, hnetwork, hbastion, hlb⟩ := heq
  refine ⟨hid.trans h.identity, ?_, ?_, ?_, ?_⟩
  · rw [hnetwork]; exact h.network
  · rw [hbastion]; exact h.bastion
  · rw [hlb]; exact h.loadBalancer
  · rw [hspec]; exact h.cidrs

theorem setNetwork (h : Records t rule m c sc) {n : StackitNetworkStatus}
    (hn : m.networkID = "" → KnownIfSet t .network n.id c) :
    Records t rule m c (sc.setNetwork n) := ⟨h.identity, hn, h.bastion, h.loadBalancer, h.cidrs⟩

theorem setBastion (h : Records t rule m c sc) {b : StackitBastionStatus}
    (hb : BastionKnownIfSet t (ClusterReconciler.recordedBastion b) c) :
    Records t rule m c { sc with status := { sc.status with bastion := b } } :=
  ⟨h.identity, h.network, hb, h.loadBalancer, h.cidrs⟩

theorem setLoadBalancerID (h : Records t rule m c sc) {id : String}
    (hid : id ≠ "" → id = t.balancer) :
    Records t rule m c (sc.setLoadBalancerID id) := ⟨h.identity, h.network, h.bastion, hid, h.cidrs⟩

theorem noBastion : BastionKnownIfSet t {} c :=
  ⟨fun h => absurd rfl h, fun h => absurd rfl h, fun h => absurd rfl h⟩

theorem deliver (h : Records t rule m c sc) (h' : Records t rule m c sc') (d : PatchOutcome) :
    Records t rule m c (Pass.deliver d sc sc') := by
  have hid :=
    (ClusterIdentity.of_deliver (d := d) (h.identity.trans h'.identity.symm)).trans h'.identity
  refine ⟨hid, ?_, ?_, ?_, ?_⟩ <;> unfold Pass.deliver <;> split <;> split
  all_goals first
    | exact h.network | exact h'.network | exact h.bastion | exact h'.bastion
    | exact h.loadBalancer | exact h'.loadBalancer | exact h.cidrs | exact h'.cidrs

end Records

namespace ClusterReconciler
variable {m : ClusterIdentity}

theorem recordInvariant_tidy : RecordInvariant (Tidy t rule (Records t rule m) c₀) where
  write h heq := h.write (h.obj.congr heq)
  noNetwork h := h.write (h.obj.setNetwork fun _ hne => absurd rfl hne)
  noBastion h := h.write (h.obj.setBastion Records.noBastion)
  noLoadBalancer h := h.write (h.obj.setLoadBalancerID fun hne => absurd rfl hne)
  load h := h.write h.stored
  patch o h := ⟨h.ok, h.since, h.sound, h.obj, h.obj.deliver h.stored o⟩

theorem tidy_resolveLoadBalancerID {p : Pass StackitCluster (Amid Session)} (hm : t.Is m)
    (h : Tidy t rule (Records t rule m) c₀ p) :
    wp (resolveLoadBalancerID sdkClient.amid p.obj) (fun r s =>
      Tidy t rule (Records t rule m) c₀ { p with cloud := s } ∧ ∀ id, r = .ok id → id ≠ "" →
        wp (sdkClient.amid.deleteAPIServerLoadBalancer id)
          (fun _ s => Tidy t rule (Records t rule m) c₀ { p with cloud := s }) s) p.cloud := by
  have htags : p.obj.tags = m.tags := congrArg ClusterIdentity.tags h.obj.identity
  have hdelete : ∀ {s : Amid Session} {id : String},
      Tidy t rule (Records t rule m) c₀ { p with cloud := s } → id = t.balancer →
      wp (sdkClient.amid.deleteAPIServerLoadBalancer id)
        (fun _ s => Tidy t rule (Records t rule m) c₀ { p with cloud := s }) s := fun hs hid =>
    hs.call' Records.stable fun _ _ _ _ => within_deleteAPIServerLoadBalancer hid
  have hlist : wp (sdkClient.amid.listAPIServerLoadBalancersByTags p.obj.tags) (fun r s =>
      Tidy t rule (Records t rule m) c₀ { p with cloud := s } ∧
        ∀ out, r = .ok out → ∀ l ∈ out, l.id = t.balancer) p.cloud :=
    h.call (P := fun (out : List LoadBalancer) _ => ∀ l ∈ out, l.id = t.balancer) Records.stable
      fun s _ hs _ => (wp_listAPIServerLoadBalancersByTags_own (htags ▸ hm.balancerTags)
        hs.balancers).imp fun r u hu => ⟨.of_eq hu.1, hu.2⟩
  refine wp_resolveLoadBalancerID (fun hne => ⟨h, fun id hid _ => ?_⟩) hlist
    (fun s hs => ⟨hs.1, fun id hid hne => absurd (by cases hid; rfl) hne⟩)
    (fun l s hs => ⟨hs.1, fun id hid _ => ?_⟩)
    (fun _ _ _ s hs _ => ⟨hs.1, fun id hid => by cases hid⟩)
    fun e s hs => ⟨hs.1, fun id hid => by cases hid⟩
  · cases hid
    exact hdelete h (h.obj.loadBalancer hne)
  · cases hid
    exact hdelete hs.1 (hs.2 [l] rfl l List.mem_cons_self)

theorem tidy_resolveManagedNetworkID {p : Pass StackitCluster (Amid Session)} (hm : t.Is m)
    (h : Tidy t rule (Records t rule m) c₀ p) :
    wp (resolveManagedNetworkID sdkClient.amid p.obj) (fun r s =>
      Tidy t rule (Records t rule m) c₀ { p with cloud := s } ∧ ∀ id, r = .ok id → id ≠ "" →
        wp (sdkClient.amid.deleteNetwork id)
          (fun _ s => Tidy t rule (Records t rule m) c₀ { p with cloud := s }) s) p.cloud := by
  have htags : p.obj.tags = m.tags := congrArg ClusterIdentity.tags h.obj.identity
  have hspec : p.obj.spec.networkID = m.networkID :=
    congrArg ClusterIdentity.networkID h.obj.identity
  have hdelete : ∀ {s : Amid Session} {id : String},
      Tidy t rule (Records t rule m) c₀ { p with cloud := s } → t.Known .network id s.state.cloud →
      wp (sdkClient.amid.deleteNetwork id)
        (fun _ s => Tidy t rule (Records t rule m) c₀ { p with cloud := s }) s := fun hs hid =>
    hs.call' Records.stable fun _ he _ _ => within_deleteNetwork (hid.evolves (by decide) he)
  have hfind : wp (sdkClient.amid.findNetworkByTags p.obj.tags) (fun r s =>
      Tidy t rule (Records t rule m) c₀ { p with cloud := s } ∧
        ∀ n, r = .ok n → t.Known .network n.id s.state.cloud) p.cloud :=
    h.call (P := fun (n : Network) c => t.Known .network n.id c) Records.stable fun s _ hs _ =>
      within_find (wp_findNetworkByTags p.obj.tags s) (by decide) (htags ▸ hm.owns_tags) hs
  refine wp_resolveManagedNetworkID
    (fun _ => ⟨h, fun id hid hne => absurd (by cases hid; rfl) hne⟩)
    (fun h0 hne => ⟨h, fun id hid _ => ?_⟩) hfind (fun _ n s hs => ⟨hs.1, fun id hid _ => ?_⟩)
    (fun e s hs _ => ⟨hs.1, fun id hid hne => absurd (by cases hid; rfl) hne⟩)
    fun e s hs _ => ⟨hs.1, fun id hid => by cases hid⟩
  · cases hid
    exact hdelete h (h.obj.network (hspec ▸ h0) hne)
  · cases hid
    exact hdelete hs.1 (hs.2 n rfl)

theorem recordFrame_tidy (hm : t.Is m) :
    RecordFrame sdkClient.amid (Tidy t rule (Records t rule m) c₀) where
  zones h := h.call' Records.stable fun s _ _ _ => within_read (fun _ => rfl) s
  getNetwork {p} h := by
    refine (h.call (P := fun n _ => n.id = p.obj.networkID) Records.stable fun s _ _ _ => ?_).imp
      fun r s hu => ⟨hu.1, fun n managed hn => hu.1.write ?_⟩
    · have hread : Keeps (fun s u : Session => Within t rule s.cloud u.cloud)
          (SDKClient.getNetwork p.obj.networkID) :=
        .bind (within_closed t rule) (within_read (readOnly_getNetwork _)) fun _ =>
          .pure (within_closed t rule) _
      exact (hread.wp s).and (wp_getNetwork_id p.obj.networkID s)
    · refine hu.1.obj.setNetwork fun h0 => ?_
      have hid : n.id = p.obj.status.network.id := by
        have hspec : p.obj.spec.networkID = m.networkID :=
          congrArg ClusterIdentity.networkID h.obj.identity
        rw [hu.2 n hn, StackitCluster.networkID, hspec, h0]
        rfl
      show KnownIfSet t .network n.id _
      rw [hid]
      exact hu.1.obj.network h0
  createNetwork {p} h := by
    have htags : (networkInput p.obj).tags = m.tags := congrArg ClusterIdentity.tags h.obj.identity
    refine (h.call (P := fun n c => t.Known .network n.id c) Records.stable fun s _ hs _ =>
      within_createNetwork (htags ▸ hm.owns_tags) hs).imp fun r s hu =>
        ⟨hu.1, fun n managed hn => hu.1.write ?_⟩
    exact hu.1.obj.setNetwork fun _ _ => hu.2 n hn
  loadBalancer {p} targets h := by
    have htags : (apiServerInput p.obj targets).tags = m.tags :=
      congrArg ClusterIdentity.tags h.obj.identity
    have hname : (apiServerInput p.obj targets).name = t.balancer := by
      have hobj : p.obj.metadata.name = m.name := congrArg ClusterIdentity.name h.obj.identity
      show p.obj.metadata.name ++ "-apiserver" = _
      rw [hobj, hm.name]
      rfl
    refine (h.call (P := fun l _ => l.id = t.balancer) Records.stable fun s _ hs _ =>
      within_ensureAPIServerLoadBalancer (htags ▸ hm.balancerTags) hname hs).imp
        fun r s hu => ⟨hu.1, fun l hl => hu.1.write ?_⟩
    exact hu.1.obj.setLoadBalancerID fun _ => hu.2 l hl
  targets targets h := h.call' Records.stable fun s _ _ ho =>
    within_setAPIServerLoadBalancerTargets defaultAPIServerPort targets ho.loadBalancer s
  ensureBastion {p} cloudInit h := by
    have htags : (bastionInput p.obj cloudInit).tags = m.bastionTags :=
      congrArg ClusterIdentity.bastionTags h.obj.identity
    refine (h.call (P := fun b c => BastionKnown t b c) Records.stable fun s _ hs ho =>
      within_ensureBastion (htags ▸ hm.owns_role _) ho.cidrs hs).imp fun r s hu =>
        ⟨hu.1, fun b hash hb => hu.1.write ?_⟩
    have hknown := hu.2 b hb
    exact hu.1.obj.setBastion ⟨fun _ => hknown.server, fun _ => hknown.publicIP, fun _ =>
      hknown.securityGroup⟩
  deleteNodeSSHAccess {p} h := by
    have htags : nodeSSHAccessTags p.obj = m.nodeSSHTags :=
      congrArg ClusterIdentity.nodeSSHTags h.obj.identity
    exact h.call' Records.stable fun s _ hs _ =>
      within_deleteNodeSSHAccess (htags ▸ hm.owns_role _) hs
  deleteBastion {p} cloudInit h := by
    have htags : (bastionInput p.obj cloudInit).tags = m.bastionTags :=
      congrArg ClusterIdentity.bastionTags h.obj.identity
    exact h.call' Records.stable fun s _ hs ho => within_deleteBastion (htags ▸ hm.owns_role _)
      ho.bastion hs
  deleteLoadBalancer h := tidy_resolveLoadBalancerID hm h
  deleteNetwork h := tidy_resolveManagedNetworkID hm h

/-- A cluster pass of the tenant. -/
theorem tidy_reconcile {env : Env (Amid Session)} (hm : t.Is m)
    (hsrc : ∀ sc client, buildCloudClient env.source sc = .ok client → client = sdkClient.amid)
    (answers : Answers) :
    Preserves (Tidy t rule (Records t rule m) c₀) (reconcile answers env) :=
  preserves_reconcile recordInvariant_tidy
    (fun sc client h => hsrc sc client h ▸ recordFrame_tidy hm) answers

end ClusterReconciler

/-! ### Machines -/

/-- The machine of the context belongs to the tenant. -/
structure Tenant.Has (t : Tenant) (ctx : MachineContext) : Prop where
  name : ctx.cluster.metadata.name = t.cluster
  (namespace' : ctx.cluster.metadata.namespace' = t.namespace')
  infrastructure : ctx.stackitCluster.metadata.name = t.infrastructure
  infrastructureNamespace : ctx.stackitCluster.metadata.namespace' = t.namespace'

namespace Tenant.Has
variable {ctx : MachineContext} (h : t.Has ctx)
include h

theorem owns_tags (sm : StackitMachine) : t.owns (ctx.tags sm) = true := by
  rw [Tenant.owns_iff, MachineContext.tags, machineTags_clusterNamespace, machineTags_clusterName,
    h.name, h.namespace']
  exact ⟨rfl, .inl rfl⟩

theorem owns_nodeSSHAccessTags : t.owns (nodeSSHAccessTags ctx.stackitCluster) = true := by
  rw [Tenant.owns_iff, nodeSSHAccessTags, AList.lookup_insert_ne (by decide),
    AList.lookup_insert_ne (by decide), StackitCluster.tags, clusterTags_clusterNamespace,
    clusterTags_clusterName, h.infrastructure, h.infrastructureNamespace]
  exact ⟨rfl, .inr rfl⟩

end Tenant.Has

/-- The server that the object records is the tenant's. -/
def RecordsServer (t : Tenant) (c : Cloud) (sm : StackitMachine) : Prop :=
  KnownIfSet t .server sm.status.instanceID c

theorem RecordsServer.stable (sm : StackitMachine) : Stable fun c => RecordsServer t c sm :=
  fun _ _ he h =>
  KnownIfSet.evolves h (by decide) he

theorem RecordsServer.deliver {sm sm' : StackitMachine} (h : RecordsServer t c sm)
    (h' : RecordsServer t c sm') (d : PatchOutcome) :
    RecordsServer t c (Pass.deliver d sm sm') := by
  unfold Pass.deliver
  split <;> split <;> first | exact h | exact h'

namespace MachineReconciler
variable {ctx : MachineContext} {p : Pass StackitMachine (Amid Session)}

theorem tidy_write (h : Tidy t rule (RecordsServer t) c₀ p) {sm : StackitMachine}
    (hsm : sm.status.instanceID = p.obj.status.instanceID) :
    Tidy t rule (RecordsServer t) c₀ { p with obj := sm } := by
  refine h.write ?_
  unfold RecordsServer
  rw [hsm]
  exact h.obj

theorem tidy_findServerByTags (hctx : t.Has ctx) (h : Tidy t rule (RecordsServer t) c₀ p) :
    wp (sdkClient.amid.findServerByTags (ctx.tags p.obj))
      (fun r s => Tidy t rule (RecordsServer t) c₀ { p with cloud := s } ∧
        ∀ a, r = .ok a → t.Known .server a.id s.state.cloud) p.cloud :=
  h.call RecordsServer.stable fun s _ hs _ =>
    within_find (wp_findServerByTags _ s) (by decide) (hctx.owns_tags p.obj) hs

theorem tidy_findServer (hctx : t.Has ctx) (h : Tidy t rule (RecordsServer t) c₀ p) :
    wp (findServer sdkClient.amid ctx p.obj)
      (fun r s => Tidy t rule (RecordsServer t) c₀ { p with cloud := s } ∧
        ∀ a, r = .ok a → t.Known .server a.id s.state.cloud) p.cloud := by
  unfold findServer
  refine wp_ite (fun hne => ?_) fun _ => tidy_findServerByTags hctx h
  refine wp_existingOr_of (h.call (P := fun a c => t.Known .server a.id c) RecordsServer.stable
    fun s _ _ ho => ?_)
    (fun a u hu => hu) (fun e u hu _ => tidy_findServerByTags hctx hu.1) fun e u hu _ =>
    ⟨hu.1, fun a ha => by cases ha⟩
  refine (SDKClient.wp_getServer p.obj.status.instanceID s).imp fun r u ⟨hu, hr⟩ =>
    ⟨.of_eq hu, fun a ha => ?_⟩
  subst ha
  rw [hu, hr.1]
  exact ho hne

theorem tidy_ensureServer (hctx : t.Has ctx) (data : String)
    (h : Tidy t rule (RecordsServer t) c₀ p) :
    wp (ensureServer sdkClient.amid ctx p.obj data)
      (fun r s => Tidy t rule (RecordsServer t) c₀ { p with cloud := s } ∧
        ∀ a, r = .ok a → t.Known .server a.id s.state.cloud) p.cloud := by
  rw [ensureServer_eq]
  refine wp_existingOr_of (tidy_findServer hctx h) (fun a u hu => hu) (fun e u hu _ => ?_)
    fun e u hu _ => ⟨hu.1, fun a ha => by cases ha⟩
  exact wp_createMissingServer (fun _ _ => ⟨hu.1, fun a ha => by cases ha⟩)
    (fun _ _ => ⟨hu.1, fun a ha => by cases ha⟩) fun _ _ =>
    hu.1.call RecordsServer.stable fun s _ hs _ => within_createServer (hctx.owns_tags p.obj) hs

theorem tidy_nodeSSHAccess {server : Server} (hctx : t.Has ctx) (hrule : ∀ g, rule (nodeRule g))
    (h : Tidy t rule (RecordsServer t) c₀ p)
    (hserver : t.Known .server server.id p.cloud.state.cloud) :
    wp (reconcileBastionNodeSSHAccess sdkClient.amid ctx server)
      (fun _ s => Tidy t rule (RecordsServer t) c₀ { p with cloud := s }) p.cloud := by
  unfold reconcileBastionNodeSSHAccess
  refine wp_ite (fun _ => h) fun _ => wp_ite (fun _ => h) fun _ => wp_ite (fun _ => h) fun _ => ?_
  rw [wp_bind]
  refine (h.call' RecordsServer.stable fun s he hs _ => within_ensureNodeSSHAccess
    hctx.owns_nodeSSHAccessTags (hrule _)
    (hserver.evolves (by decide) he) hs).imp fun r s hs => ?_
  cases r with
  | error e => exact hs
  | ok g => exact hs

theorem tidy_reconcileServer {server : Server} (hctx : t.Has ctx) (hrule : ∀ g, rule (nodeRule g))
    (h : Tidy t rule (RecordsServer t) c₀ p)
    (hserver : t.Known .server server.id p.cloud.state.cloud) :
    wp (reconcileServer sdkClient.amid ctx server)
      (fun _ q => Tidy t rule (RecordsServer t) c₀ q) p := by
  have hset : Tidy t rule (RecordsServer t) c₀ { p with obj := recorded server p.obj } :=
    h.write fun _ => hserver
  have haccess := tidy_nodeSSHAccess (p := { p with obj := recorded server p.obj }) hctx hrule hset
    hserver
  exact wp_reconcileServer (fun _ => tidy_write hset rfl) (fun _ => haccess)
    (fun _ hs => tidy_write hs rfl) fun _ _ hs _ => tidy_write hs rfl

theorem tidy_reconcileInstance (hctx : t.Has ctx) (hrule : ∀ g, rule (nodeRule g)) (data : String)
    (h : Tidy t rule (RecordsServer t) c₀ p) :
    wp (reconcileInstance sdkClient.amid ctx data)
      (fun _ q => Tidy t rule (RecordsServer t) c₀ q) p := by
  have hset : Tidy t rule (RecordsServer t) c₀ { p with obj := withCredentials p.obj } :=
    tidy_write h rfl
  have hensure := tidy_ensureServer (p := { p with obj := withCredentials p.obj }) hctx data hset
  exact wp_reconcileInstance hensure
    (fun server _ hs => tidy_reconcileServer hctx hrule hs.1 (hs.2 server rfl))
    (fun _ _ hs _ => tidy_write hs.1 rfl) fun _ _ hs _ _ => tidy_write hs.1 rfl

theorem tidy_reconcileNormal {src : ClientSource (Amid Session)} (hctx : t.Has ctx)
    (hrule : ∀ g, rule (nodeRule g))
    (hsrc : ∀ client, buildCloudClient src ctx.stackitCluster = .ok client →
      client = sdkClient.amid) (h : Tidy t rule (RecordsServer t) c₀ p) :
    wp (reconcileNormal src ctx) (fun _ q => Tidy t rule (RecordsServer t) c₀ q) p := by
  have hrest : ∀ q, Tidy t rule (RecordsServer t) c₀ q →
      Proceeds src ctx (fun _ q => Tidy t rule (RecordsServer t) c₀ q) q := by
    intro q hq
    refine ⟨fun _ => tidy_write hq rfl, fun _ _ _ => tidy_write hq rfl, fun _ _ => ?_⟩
    refine wp_reconcileBootstrap (fun _ _ _ => tidy_write hq rfl)
      (fun _ _ _ _ _ => tidy_write hq rfl) fun data client _ hclient => ?_
    rw [hsrc client hclient]
    exact tidy_reconcileInstance hctx hrule data (tidy_write hq rfl)
  have hobj : RecordsServer t p.cloud.state.cloud (withFinalizer p.obj) := h.obj
  have hadded : Tidy t rule (RecordsServer t) c₀ (patchFinalizer p) :=
    ⟨h.ok, h.since, h.sound, hobj, hobj.deliver h.stored _⟩
  exact wp_reconcileNormal (fun _ => hrest p h) (fun _ _ _ => hadded) fun _ _ => hrest _ hadded

theorem tidy_deleteInstance (hctx : t.Has ctx) (h : Tidy t rule (RecordsServer t) c₀ p) :
    wp (deleteInstance sdkClient.amid ctx) (fun _ q => Tidy t rule (RecordsServer t) c₀ q) p := by
  have hresolve : wp (resolveServerForDeletion sdkClient.amid ctx p.obj) (fun r s =>
      Tidy t rule (RecordsServer t) c₀ { p with cloud := s } ∧ ∀ id, r = .ok id → id ≠ "" →
        t.Known .server id s.state.cloud)
      p.cloud := by
    refine wp_resolveServerForDeletion
      (fun hne => ⟨h, fun id hid _ => by cases hid; exact h.obj hne⟩)
      (fun _ => tidy_findServerByTags hctx h)
      (fun _ a s hu => ⟨hu.1, fun id hid _ => by cases hid; exact hu.2 a rfl⟩)
      (fun _ e s hu _ => ⟨hu.1, fun id hid hne => absurd (by cases hid; rfl) hne⟩)
      fun e s hu _ => ⟨hu.1, fun id hid => by cases hid⟩
  refine wp_deleteInstance (wp_orError hresolve
    (fun id s ⟨hs, hr⟩ => ⟨fun hne => ?_, fun _ => tidy_write hs rfl⟩) fun _ _ hs => hs.1)
  exact wp_orError (ClusterReconciler.wp_tolerate_state (hs.call' RecordsServer.stable
    fun s he _ _ => within_deleteServer ((hr id rfl hne).evolves (by decide) he)))
    (fun _ _ hs' => hs'.write fun hset => absurd rfl hset) fun _ _ hs' => hs'

/-- A machine pass of the tenant. -/
theorem tidy_reconcile {answers : Answers (Amid Session)} (hrule : ∀ g, rule (nodeRule g))
    (hctx : ∀ ctx, lookupContext answers = .ok (some ctx) → t.Has ctx ∧
      ∀ client, buildCloudClient answers.source ctx.stackitCluster = .ok client →
      client = sdkClient.amid) :
    Preserves (Tidy t rule (RecordsServer t) c₀) (reconcile answers) := by
  intro p h
  refine wp_reconcile (Q := fun _ q => Tidy t rule (RecordsServer t) c₀ q) (p := p)
    (fun _ _ => h) fun ctx hscope => Pass.wp_withDeferredPatch ?_
  obtain ⟨hhas, hsrc⟩ := hctx ctx hscope.owners
  have hpaused : Tidy t rule (RecordsServer t) c₀ { p with obj := withPaused ctx p.stored } :=
    h.write h.stored
  have hbody : wp (reconcileScope answers.source ctx)
      (fun _ q => Tidy t rule (RecordsServer t) c₀ q) { p with obj := p.stored } := by
    refine wp_reconcileScope (fun _ => hpaused) (fun _ _ => ?_)
      fun _ _ => tidy_reconcileNormal hhas hrule hsrc hpaused
    refine wp_reconcileDelete (fun _ _ _ => tidy_write hpaused rfl)
      (fun _ _ _ => tidy_write hpaused rfl) fun client hclient => ?_
    rw [hsrc client hclient]
    exact tidy_deleteInstance hhas hpaused
  exact hbody.imp fun _ q hq o _ _ _ =>
    ⟨hq.ok, hq.since, hq.sound, hq.obj, hq.obj.deliver hq.stored o⟩

end MachineReconciler

end Capstk
