import Capstk.Proofs.BastionPass

/-!
# What the deletion of a cluster does

`reconcileDelete` drops the finalizer once the load balancer, the bastion, the groups and the
managed network are gone, as far as it can tell: an ID in the status is deleted without looking, and
"not found" counts as success. `DeleteStep` says everything it can do; of the resources all are gone
if no ID in the status is outdated (`IDsCurrent`), and of the bastion's if the status names all of
them.
-/

namespace Capstk

open Prog SDKClient ClusterReconciler

variable {m : ClusterIdentity} {c c' : Cloud} {p q : Pass StackitCluster Session}

/-! ### What every pass keeps -/

/-- Of the stored object and of the copy: what the tags are made of, and the ID of the load
balancer. -/
structure Kept (m : ClusterIdentity) (sc : StackitCluster) : Prop where
  identity : ClusterIdentity.of sc = m
  loadBalancerID : sc.status.apiServerLoadBalancerID = "" ∨ sc.status.apiServerLoadBalancerID =
    m.loadBalancerName

theorem Kept.deliver {o o' : StackitCluster} (h : Kept m o) (h' : Kept m o') (d : PatchOutcome) :
    Kept m (Pass.deliver d o o') := by
  refine ⟨(ClusterIdentity.of_deliver (h.identity.trans h'.identity.symm)).trans h'.identity, ?_⟩
  unfold Pass.deliver
  split <;> split <;> first | exact h.loadBalancerID | exact h'.loadBalancerID

theorem Kept.congr {o o' : StackitCluster} (h : Kept m o)
    (hid : ClusterIdentity.of o' = ClusterIdentity.of o)
    (hlb : o'.status.apiServerLoadBalancerID = o.status.apiServerLoadBalancerID) : Kept m o' :=
  ⟨hid.trans h.identity, hlb ▸ h.loadBalancerID⟩

/-- Of the cloud: the cluster's resources have IDs, a cluster with a network of the user's has no
network of its own, and all its load balancers have the name it gives them. -/
structure CloudKept (m : ClusterIdentity) (c : Cloud) : Prop where
  bastionNamed : ∀ k, "" ∉ tagged k m.bastionTags c
  networkNamed : "" ∉ tagged .network m.tags c
  network : m.networkID ≠ "" → tagged .network m.tags c = []
  loadBalancer : ∀ name ∈ taggedLBs m.tags c, name = m.loadBalancerName

/-- The invariant of a pass. -/
structure Steady (m : ClusterIdentity) (p : Pass StackitCluster Session) : Prop where
  obj : Kept m p.obj
  stored : Kept m p.stored
  cloud : CloudKept m p.cloud.cloud

theorem mem_taggedLBs {T : StringMap} {name : String} :
    name ∈ taggedLBs T c ↔ ∃ labels, (name, labels) ∈ labelled .loadBalancer c ∧
    lbCarries T labels = true := by
  simp [taggedLBs]

/-- A resource of the cluster that a pass may create. -/
def MayCreate (m : ClusterIdentity) (k : Kind) (x : String × StringMap) : Prop :=
  x.1 ≠ "" ∧ (k = .network → m.networkID = "") ∧ (k = .loadBalancer → x.1 = m.loadBalancerName)

theorem CloudKept.of_new (h : CloudKept m c)
    (hnew : ∀ k x, x ∈ labelled k c' → x ∈ labelled k c ∨ MayCreate m k x) : CloudKept m c' := by
  have hnamed : ∀ {k T}, "" ∉ tagged k T c → "" ∉ tagged k T c' := by
    intro k T hc hmem
    obtain ⟨labels, hx, hT⟩ := mem_tagged.1 hmem
    rcases hnew k _ hx with hold | ⟨hne, -⟩
    · exact hc (mem_tagged.2 ⟨labels, hold, hT⟩)
    · exact hne rfl
  refine ⟨fun k => hnamed (h.bastionNamed k), hnamed h.networkNamed, fun hne => ?_,
    fun name hname => ?_⟩
  · refine List.eq_nil_iff_forall_not_mem.2 fun id hid => ?_
    obtain ⟨labels, hx, hT⟩ := mem_tagged.1 hid
    rcases hnew _ _ hx with hold | ⟨-, hnet, -⟩
    · have : id ∈ tagged .network m.tags c := mem_tagged.2 ⟨labels, hold, hT⟩
      simp [h.network hne] at this
    · exact hne (hnet rfl)
  · obtain ⟨labels, hx, hT⟩ := mem_taggedLBs.1 hname
    rcases hnew _ _ hx with hold | ⟨-, -, hlb⟩
    · exact h.loadBalancer name (mem_taggedLBs.2 ⟨labels, hold, hT⟩)
    · exact hlb rfl

theorem CloudKept.shrinks (h : CloudKept m c) (hs : Shrinks c c') : CloudKept m c' :=
  h.of_new fun k _ hx => .inl ((hs k).subset hx)

/-! ### `reconcileDelete` -/

/-- No ID in the status is outdated. -/
structure IDsCurrent (sc : StackitCluster) (c : Cloud) : Prop where
  bastion : BastionCurrent (recordedBastion sc.status.bastion) (bastionTags sc) c
  network : Current sc.status.network.id (tagged .network sc.tags c)

/-- What is left of a cluster after a complete clean-up: nothing. -/
structure ClusterGone (m : ClusterIdentity) (c : Cloud) : Prop where
  loadBalancer : taggedLBs m.tags c = []
  nodeSSH : tagged .securityGroup m.nodeSSHTags c = []
  bastion : BastionGone m.bastionTags c
  network : tagged .network m.tags c = []

/-- A part of a deletion: resources go, and the status forgets them. -/
structure Deleting (p q : Pass StackitCluster Session) : Prop where
  cloud : Shrinks p.cloud.cloud q.cloud.cloud
  stored : q.stored = p.stored
  patches : q.patches = p.patches
  metadata : q.obj.metadata = p.obj.metadata
  spec : q.obj.spec = p.obj.spec
  loadBalancerID : q.obj.status.apiServerLoadBalancerID = p.obj.status.apiServerLoadBalancerID ∨
    q.obj.status.apiServerLoadBalancerID = ""
  bastion : q.obj.status.bastion = p.obj.status.bastion ∨ q.obj.status.bastion = {}
  network : q.obj.status.network = p.obj.status.network ∨ q.obj.status.network = {}
  names : ∀ B, BastionNames (recordedBastion p.obj.status.bastion) B p.cloud.cloud →
    BastionNames (recordedBastion q.obj.status.bastion) B q.cloud.cloud

namespace Deleting

theorem or_trans {α : Type} {x y z cleared : α} (h : y = x ∨ y = cleared)
    (h' : z = y ∨ z = cleared) :
    z = x ∨ z = cleared := h'.elim (fun hz => hz ▸ h) .inr

theorem refl (p : Pass StackitCluster Session) : Deleting p p :=
  ⟨.refl _, rfl, rfl, rfl, rfl, .inl rfl, .inl rfl, .inl rfl, fun _ h => h⟩

theorem trans {r : Pass StackitCluster Session} (h : Deleting p q) (h' : Deleting q r) :
    Deleting p r :=
  ⟨h.cloud.trans h'.cloud, h'.stored.trans h.stored, h'.patches.trans h.patches,
    h'.metadata.trans h.metadata,
    h'.spec.trans h.spec, or_trans h.loadBalancerID h'.loadBalancerID,
    or_trans h.bastion h'.bastion,
    or_trans h.network h'.network, fun B hB => h'.names B (h.names B hB)⟩

theorem closed : Closed Deleting := ⟨refl, trans⟩

theorem of_shrinks (hcloud : Shrinks p.cloud.cloud q.cloud.cloud) (hstored : q.stored = p.stored)
    (hpatches : q.patches = p.patches) (hmeta : q.obj.metadata = p.obj.metadata)
    (hspec : q.obj.spec = p.obj.spec)
    (hlb : q.obj.status.apiServerLoadBalancerID = p.obj.status.apiServerLoadBalancerID ∨
      q.obj.status.apiServerLoadBalancerID = "")
    (hbastion : q.obj.status.bastion = p.obj.status.bastion)
    (hnetwork : q.obj.status.network = p.obj.status.network ∨ q.obj.status.network = {}) :
      Deleting p q :=
  ⟨hcloud, hstored, hpatches, hmeta, hspec, hlb, .inl hbastion, hnetwork, fun _ h =>
    hbastion ▸ h.shrinks hcloud⟩

theorem of_call {s : Session} (h : Shrinks p.cloud.cloud s.cloud) :
    Deleting p { p with cloud := s } :=
  of_shrinks h rfl rfl rfl rfl (.inl rfl) rfl (.inl rfl)

theorem identity (h : Deleting p q) : ClusterIdentity.of q.obj = ClusterIdentity.of p.obj := by
  simp only [ClusterIdentity.of, h.metadata, h.spec]

theorem steady (h : Deleting p q) (hp : Steady m p) : Steady m q := by
  refine ⟨⟨h.identity.trans hp.obj.identity, ?_⟩, h.stored ▸ hp.stored, hp.cloud.shrinks h.cloud⟩
  rcases h.loadBalancerID with heq | heq
  · rw [heq]; exact hp.obj.loadBalancerID
  · exact .inl heq

theorem idsCurrent (h : Deleting p q) (hp : IDsCurrent p.obj p.cloud.cloud) :
    IDsCurrent q.obj q.cloud.cloud := by
  have htags : q.obj.tags = p.obj.tags := congrArg ClusterIdentity.tags h.identity
  have hbtags : bastionTags q.obj = bastionTags p.obj :=
    congrArg ClusterIdentity.bastionTags h.identity
  refine ⟨?_, ?_⟩
  · rw [hbtags]
    rcases h.bastion with heq | heq <;> rw [heq]
    · exact hp.bastion.shrinks h.cloud
    · exact ⟨fun h0 => absurd rfl h0, fun h0 => absurd rfl h0, fun h0 => absurd rfl h0⟩
  · rw [htags]
    rcases h.network with heq | heq <;> rw [heq]
    · exact hp.network.sublist (h.cloud.tagged _ _)
    · exact fun h0 => absurd rfl h0

end Deleting

namespace ClusterReconciler

/-- The load balancer to delete is the only one of the cluster. -/
theorem wp_resolveLoadBalancerID_names :
    wp (resolveLoadBalancerID sdkClient p.obj) (fun r s => s.cloud = p.cloud.cloud ∧
    ∀ id, r = .ok id → ∀ m, DistinctRewrites m.tags → Steady m p →
    Names id (taggedLBs m.tags p.cloud.cloud)) p.cloud := by
  have htags : ∀ {m : ClusterIdentity}, Steady m p → p.obj.tags = m.tags :=
    fun h => congrArg ClusterIdentity.tags h.obj.identity
  refine wp_resolveLoadBalancerID (fun hid => ⟨rfl, fun id heq m _ h => ?_⟩)
    (wp_listAPIServerLoadBalancersByTags p.obj.tags p.cloud)
    (fun t ⟨hc, hr⟩ => ⟨hc, fun id hid m hT h => ?_⟩)
    (fun l t ⟨hc, hr⟩ => ⟨hc, fun id hid m hT h => ?_⟩)
    (fun _ _ _ t ⟨hc, _⟩ _ => ⟨hc, fun id hid => by cases hid⟩)
    fun e t ⟨hc, _⟩ => ⟨hc, fun id hid => by cases hid⟩
  · cases heq
    have hname := h.obj.loadBalancerID.resolve_left hid
    exact ⟨fun x hx => (h.cloud.loadBalancer x hx).trans hname.symm, fun h0 => absurd h0 hid⟩
  · cases hid
    have hnone : [] = taggedLBs m.tags p.cloud.cloud := htags h ▸ hr (htags h ▸ hT)
    rw [← hnone]
    exact ⟨fun x hx => by simp at hx, fun _ => rfl⟩
  · cases hid
    have hone : [l.id] = taggedLBs m.tags p.cloud.cloud := htags h ▸ hr (htags h ▸ hT)
    have hl : l.id = m.loadBalancerName := h.cloud.loadBalancer _ (by rw [← hone]; simp)
    rw [← hone]
    exact ⟨fun x hx => by simpa using hx, fun h0 => absurd (hl.symm.trans h0)
      m.loadBalancerName_ne⟩

theorem wp_deleting_call {α : Type} {x : Call Session α} {P : α → Session → Prop}
    (h : wp x (Cleans p.cloud P) p.cloud) :
    wp (Pass.call x) (Via Deleting p fun a q => P a q.cloud) p := by
  rw [Pass.wp_call]
  exact h.imp fun r s ⟨hshrinks, hr⟩ => ⟨.of_call hshrinks, hr⟩

theorem wp_deleteLoadBalancer : wp (deleteLoadBalancer sdkClient) (Via Deleting p fun _ q =>
    ∀ m, DistinctRewrites m.tags → Steady m p → taggedLBs m.tags q.cloud.cloud = []) p := by
  have hR := Deleting.closed
  unfold deleteLoadBalancer
  rw [Pass.wp_getObj_bind]
  refine wp_via_bind hR
    (wp_deleting_call (P := fun id s => ∀ m, DistinctRewrites m.tags → Steady m p →
    Names id (taggedLBs m.tags s.cloud)) ?_) fun id q _ hnames => ?_
  · refine wp_resolveLoadBalancerID_names.imp fun r s ⟨hc, hr⟩ =>
      ⟨.of_eq hc, fun id hid m hT h => ?_⟩
    show Names id (taggedLBs m.tags s.cloud)
    rw [hc]
    exact hr id hid m hT h
  refine wp_ite (fun hid => wp_via_pure hR fun m hT h => (hnames m hT h).empty hid) fun _ => ?_
  refine wp_via_bind hR
    (wp_deleting_call (P := fun _ s => ∀ m, DistinctRewrites m.tags → Steady m p →
    taggedLBs m.tags s.cloud = []) ?_) fun _ q' _ hgone => ?_
  · refine (wp_deleteTolerant (removes_deleteLoadBalancer id) q.cloud).imp fun r t hr =>
      hr.imp fun _ hshrinks hgone m hT h => ?_
    refine List.eq_nil_iff_forall_not_mem.2 fun x hx => ?_
    have hxid : x = id := (hnames m hT h).only x ((hshrinks.taggedLBs _).subset hx)
    obtain ⟨labels, hmem, -⟩ := mem_taggedLBs.1 hx
    exact hgone labels (hxid ▸ hmem)
  · exact .ok (.of_shrinks (.refl _) rfl rfl rfl rfl (.inr rfl) rfl (.inl rfl)) hgone

theorem wp_deleteBastion : wp (deleteBastion sdkClient) (Via Deleting p fun _ q =>
    tagged .securityGroup (nodeSSHAccessTags p.obj) q.cloud.cloud = [] ∧
      ∀ B, Cleanable B p → BastionGone B q.cloud.cloud) p := by
  unfold deleteBastion
  rw [Pass.wp_getObj_bind, Pass.wp_call_bind]
  refine (wp_tolerate_cleans (neverNotFound_deleteNodeSSHAccess _)
    (wp_deleteNodeSSHAccess _ p.cloud)).imp
    fun r s ⟨hs, hssh⟩ => ?_
  cases r with
  | error e => rw [next_error]; exact .error (.of_call hs)
  | ok _ =>
    rw [next_ok, Pass.wp_call_bind]
    refine (wp_tolerate_cleans (neverNotFound_deleteBastion (bastionInput p.obj "") _)
      (wp_deleteBastion_cleanable hs)).imp
      fun r t ⟨ht, hgone⟩ => ?_
    cases r with
    | error e => rw [next_error]; exact .error (.of_call (hs.trans ht))
    | ok _ =>
      have hgone' : ∀ B, Cleanable B p → BastionGone B t.cloud := hgone () rfl
      have hssh' : tagged .securityGroup (nodeSSHAccessTags p.obj) t.cloud = [] :=
        ht.tagged_nil (hssh () rfl)
      rw [next_ok]
      refine wp_ite (fun _ => ?_) fun _ => .ok (.of_call (hs.trans ht)) ⟨hssh', hgone'⟩
      exact .ok ⟨hs.trans ht, rfl, rfl, rfl, rfl, .inl rfl, .inr rfl, .inl rfl, fun B hB =>
        (hgone' B (cleanable_names hB)).names _⟩ ⟨hssh', hgone'⟩

/-- The network to delete is the only one of the cluster; a network of the user's is not deleted. -/
theorem wp_resolveManagedNetworkID_names : wp (resolveManagedNetworkID sdkClient p.obj)
      (Cleans p.cloud fun id s =>
    ∀ m, Steady m p → IDsCurrent p.obj p.cloud.cloud → Names id (tagged .network m.tags s.cloud))
      p.cloud := by
  have hR := Shrinks.closed
  unfold resolveManagedNetworkID
  refine wp_ite (fun hne => wp_via_pure hR fun m h _ => ?_) fun _ => ?_
  · have hnetworkID : p.obj.spec.networkID = m.networkID :=
      congrArg ClusterIdentity.networkID h.obj.identity
    rw [h.cloud.network (hnetworkID ▸ hne)]
    exact ⟨fun x hx => by simp at hx, fun _ => rfl⟩
  -- what is left is `idOrFind`, with the cases the other way round
  rw [ite_not]
  refine (wp_idOrFind (wp_findNetworkByTags p.obj.tags p.cloud)).imp fun r t hr =>
    hr.imp fun id _ hnames m h hcur => ?_
  have htags : p.obj.tags = m.tags := congrArg ClusterIdentity.tags h.obj.identity
  exact htags ▸ hnames hcur.network (htags ▸ h.cloud.networkNamed)

/-- Unless the network is still in use, it is gone. -/
theorem wp_deleteManagedNetwork : wp (deleteManagedNetwork sdkClient) (Via Deleting p fun r q =>
    r = none → ∀ m, Steady m p → IDsCurrent p.obj p.cloud.cloud →
      tagged .network m.tags q.cloud.cloud = []) p := by
  have hR := Deleting.closed
  unfold deleteManagedNetwork
  rw [Pass.wp_getObj_bind]
  refine wp_via_bind hR (wp_deleting_call wp_resolveManagedNetworkID_names) fun id q _ hnames => ?_
  refine wp_ite (fun hid => wp_via_pure hR fun _ m h hcur => (hnames m h hcur).empty hid) fun _ =>
    ?_
  rw [Pass.wp_attempt_call_bind]
  refine (wp_deleteTolerant (removes_deleteNetwork id) q.cloud).imp fun r s ⟨hshrinks, hr⟩ => ?_
  cases r with
  | ok _ =>
    refine .ok (.of_shrinks hshrinks rfl rfl rfl rfl (.inl rfl) rfl (.inr rfl)) fun _ m h hcur => ?_
    refine List.eq_nil_iff_forall_not_mem.2 fun x hx => ?_
    have hxid : x = id := (hnames m h hcur).only x ((hshrinks.tagged _ _).subset hx)
    exact not_mem_tagged (hr () rfl) (hxid ▸ hx)
  | error err =>
    refine wp_ite (fun _ => ?_) fun _ => .error (.of_call hshrinks)
    exact .ok (.of_shrinks hshrinks rfl rfl rfl rfl (.inl rfl) rfl (.inl rfl)) fun h0 => by cases h0

/-- All that a pass over a cluster that is being deleted can do: take resources away, and drop the
finalizer in the end. -/
inductive DeleteStep (p q : Pass StackitCluster Session) : Prop
  | kept (h : Deleting p q)
  | finished (mid : Pass StackitCluster Session) (h : Deleting p mid)
      (drop : q =
        { mid with
          obj := { mid.obj with metadata := removeFinalizer mid.obj.metadata clusterFinalizer } })
      (gone : ∀ m, DistinctRewrites m.tags → Steady m p → IDsCurrent p.obj p.cloud.cloud →
        ClusterGone m q.cloud.cloud)
      (bastion : ∀ B, BastionNames (recordedBastion p.obj.status.bastion) B p.cloud.cloud →
        BastionGone B q.cloud.cloud)

theorem wp_deleteStep_bind {α β : Type} {x : Step Session α} {f : α → Step Session β}
    {P : α → Pass StackitCluster Session → Prop} (hpq : Deleting p q)
    (hx : wp x (Via Deleting q P) q)
    (hf : ∀ a r, Deleting q r → P a r → wp (f a) (fun _ t => DeleteStep p t) r) :
    wp (x >>= f) (fun _ t => DeleteStep p t) q := by
  rw [wp_bind]
  refine hx.imp fun r t ⟨hqt, hr⟩ => ?_
  cases r with
  | error e => exact .kept (hpq.trans hqt)
  | ok a => exact hf a t hqt (hr a rfl)

theorem wp_deleteResources : wp (deleteResources sdkClient) (fun _ q => DeleteStep p q) p := by
  refine wp_deleteStep_bind (.refl p) wp_deleteLoadBalancer fun _ q₁ h₁ hlb => ?_
  refine wp_deleteStep_bind h₁ wp_deleteBastion fun _ q₂ h₂ ⟨hssh, hbastion⟩ => ?_
  refine wp_deleteStep_bind (h₁.trans h₂) wp_deleteManagedNetwork fun r q₃ h₃ hnet => ?_
  have hall := (h₁.trans h₂).trans h₃
  cases r with
  | some result => exact .kept hall
  | none =>
    refine .finished q₃ hall rfl (fun m hT h hcur => ?_) fun B hB => ?_
    · have hs₁ := h₁.steady h
      have hcur₁ := h₁.idsCurrent hcur
      have hbtags : bastionTags q₁.obj = m.bastionTags :=
        congrArg ClusterIdentity.bastionTags hs₁.obj.identity
      have hsshtags : nodeSSHAccessTags q₁.obj = m.nodeSSHTags :=
        congrArg ClusterIdentity.nodeSSHTags hs₁.obj.identity
      have hclean : Cleanable m.bastionTags q₁ :=
        hbtags ▸ cleanable_current hcur₁.bastion fun k _ =>
        hbtags ▸ hs₁.cloud.bastionNamed k
      exact ⟨(h₂.cloud.trans h₃.cloud).taggedLBs_nil (hlb m hT h),
        h₃.cloud.tagged_nil (hsshtags ▸ hssh),
        (hbastion _ hclean).shrinks h₃.cloud, hnet rfl m (h₂.steady hs₁) (h₂.idsCurrent hcur₁)⟩
    · exact (hbastion B (cleanable_names (h₁.names B hB))).shrinks h₃.cloud

/-- Without its credentials Secret the cluster is given up: the finalizer goes, the resources
stay. -/
def givenUp (p : Pass StackitCluster Session) : Pass StackitCluster Session :=
  { p with obj := { p.obj with metadata := removeFinalizer p.obj.metadata clusterFinalizer } }

theorem wp_reconcileDelete_cases {env : Env Session} {cluster : Cluster}
    (hsdk : SDKSource env.source p.obj) :
    wp (reconcileDelete env cluster)
      (fun _ q => DeleteStep p q ∨ ¬ SourceOk env.source p.obj ∧ q = givenUp p) p := by
  refine wp_reconcileDelete (fun _ _ _ => .inl (.kept (.refl p)))
    (fun err hbuild hmissing => .inr ⟨fun hsrc => ?_, rfl⟩) (fun _ _ _ => ?_)
    fun client hclient => ?_
  · cases hmissing.symm.trans (hsrc.not_isAPINotFound hbuild)
  · exact .inl (.kept (.of_shrinks (.refl _) rfl rfl rfl rfl (.inl rfl) rfl (.inl rfl)))
  · rw [hsdk client hclient]
    exact wp_deleteResources.imp fun _ _ hq => .inl hq

/-- The deletion, as long as the credentials Secret exists. -/
theorem deleteStep_reconcileDelete {env : Env Session} {cluster : Cluster}
    (hsrc : SourceOk env.source p.obj) :
    wp (reconcileDelete env cluster) (fun _ q => DeleteStep p q) p :=
  (wp_reconcileDelete_cases hsrc.sdk).imp fun _ _ hq => hq.resolve_right fun h => h.1 hsrc

end ClusterReconciler

/-- A pass over a cluster that is being deleted, from one stored state to the next. -/
theorem ClusterWorld.deleteStep {w : ClusterWorld} {env : Env Session} (answers : Answers)
    (patches : List PatchOutcome) (outcomes : List Outcome) (orders : List MapOrder)
    (hdel : w.stored.metadata.deleting = true) (hsrc : SourceOk env.source w.stored) :
    let w' := w.step (.reconcile answers env patches outcomes orders)
    w' = w ∨ ∃ p q : Pass StackitCluster Session, Alike p.obj w.stored ∧
    p.obj.metadata = w.stored.metadata ∧
      p.stored = w.stored ∧ p.patches = patches ∧ p.cloud.cloud = w.cloud ∧ DeleteStep p q ∧
      w' = ⟨Pass.deliver (q.patches.headD {}) q.obj q.stored, q.cloud.cloud⟩ := by
  set P : ClusterWorld → Prop := fun w' => w' = w ∨ ∃ p q : Pass StackitCluster Session,
    Alike p.obj w.stored ∧
    p.obj.metadata = w.stored.metadata ∧ p.stored = w.stored ∧ p.patches = patches ∧
    p.cloud.cloud = w.cloud ∧
    DeleteStep p q ∧ w' = ⟨Pass.deliver (q.patches.headD {}) q.obj q.stored, q.cloud.cloud⟩
  show wp (reconcile answers env) (fun _ q => P (leave q)) (w.begin patches outcomes orders)
  refine wp_reconcile (fun _ _ => .inl rfl) fun cluster _ => Pass.wp_withDeferredPatch ?_
  have hobj : Alike (withPaused cluster w.stored) w.stored := (Alike.refl _).withPaused cluster
  set p : Pass StackitCluster Session :=
    { w.begin patches outcomes orders with obj := withPaused cluster w.stored }
  have hstep : ∀ q, DeleteStep p q → ∀ o : PatchOutcome, o = q.patches.headD {} →
      P ⟨Pass.deliver o q.obj q.stored, q.cloud.cloud⟩ := fun q hq o ho =>
    .inr ⟨p, q, hobj, rfl, rfl, rfl, rfl, hq, by rw [ho]⟩
  refine wp_reconcileScope (fun _ o _ ho _ => hstep p (.kept (.refl p)) o ho) (fun _ _ => ?_)
    fun _ hnot => ?_
  · have hsrc' : SourceOk env.source p.obj := hsrc.congr rfl
    exact (deleteStep_reconcileDelete hsrc').imp fun _ q hq o _ ho _ => hstep q hq o ho
  · rw [show w.stored.metadata.deleting = false from hnot] at hdel
    cases hdel

end Capstk
