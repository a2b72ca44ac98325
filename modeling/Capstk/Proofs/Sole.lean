import Capstk.Proofs.ClusterCleanup
import Capstk.Proofs.Creations

/-!
# At most one of each

A pass looks the resources of its cluster up by their tags before it makes one, and a look-up that
finds two of them is an error for good. It never finds two: in every run, with whatever fails in it,
at most one resource of each kind carries the tags of the cluster (`Sole`). The bastion's group and
the group of the nodes are told apart by their role.
-/

namespace Capstk

open Prog SDKClient

variable {m : ClusterIdentity} {c c' : Cloud} {p q : Pass StackitCluster Session}

/-- At most one resource of each kind carries the tags of the cluster. -/
structure Sole (m : ClusterIdentity) (c : Cloud) : Prop where
  bastion : ∀ k, IsBastionKind k → (tagged k m.bastionTags c).length ≤ 1
  nodeSSH : (tagged .securityGroup m.nodeSSHTags c).length ≤ 1
  network : (tagged .network m.tags c).length ≤ 1
  loadBalancer : (taggedLBs m.tags c).length ≤ 1

namespace Sole

theorem shrinks (h : Sole m c) (hc : Shrinks c c') : Sole m c' :=
  ⟨fun k hk => (hc.tagged k _).length_le.trans (h.bastion k hk), (hc.tagged _ _).length_le.trans
    h.nodeSSH,
    (hc.tagged _ _).length_le.trans h.network, (hc.taggedLBs _).length_le.trans h.loadBalancer⟩

theorem taggedLBs_congr {T : StringMap} (h : labelled .loadBalancer c' = labelled .loadBalancer c) :
    taggedLBs T c' = taggedLBs T c := by
  rw [taggedLBs, h]
  rfl

/-- What is made for a bastion is not taken for the group of the nodes. -/
theorem bastionTags_not_nodeSSH (m : ClusterIdentity) :
    labelsContainTags m.bastionTags m.nodeSSHTags = false := by
  rw [Bool.eq_false_iff]
  intro h
  have hrole :=
    labelsContainTags_iff.1 h labelResourceRole resourceRoleNodeSSH (AList.lookup_insert _)
  rw [ClusterIdentity.bastionTags, AList.lookup_insert] at hrole
  exact absurd (Option.some.inj hrole) (by decide)

theorem addsFirst (h : Sole m c) (hadds : AddsFirst IsBastionKind m.bastionTags c c') :
    Sole m c' := by
  have hsame : ∀ k, ¬ IsBastionKind k → labelled k c' = labelled k c := fun k hk =>
    (hadds k).resolve_right fun hnew => hk hnew.1
  refine ⟨fun k hk => ?_, ?_, ?_, ?_⟩
  · rcases hadds k with hsame | ⟨-, hnone, id, -, hnew⟩
    · rw [tagged, hsame]
      exact h.bastion k hk
    · rw [tagged_append hnew, hnone]
      simp
  · rcases hadds .securityGroup with hsame | ⟨-, -, id, -, hnew⟩
    · rw [tagged, hsame]
      exact h.nodeSSH
    · rw [tagged_append hnew, bastionTags_not_nodeSSH]
      simpa using h.nodeSSH
  · rw [tagged, hsame .network id]
    exact h.network
  · rw [taggedLBs_congr (hsame .loadBalancer id)]
    exact h.loadBalancer

theorem network_ensured (h : Sole m c) (hens : Ensured .network m.tags c c') : Sole m c' := by
  refine ⟨fun k hk => ?_, ?_, ?_, ?_⟩
  · have hne : k ≠ .network := fun h0 => by rw [h0] at hk; exact hk
    rw [tagged, hens.others k hne]
    exact h.bastion k hk
  · rw [tagged, hens.others .securityGroup (by decide)]
    exact h.nodeSSH
  · rcases hens.this with hsame | ⟨hnone, id, -, hnew⟩
    · rw [tagged, hsame]
      exact h.network
    · rw [tagged_append hnew, hnone]
      simp
  · rw [taggedLBs_congr (hens.others .loadBalancer (by decide))]
    exact h.loadBalancer

end Sole

/-! ### The load balancer -/

namespace SDKClient

theorem taggedLBs_createLoadBalancer (T : StringMap) (payload : CreateLoadBalancerPayload)
    (c : Cloud) :
    (taggedLBs T (Cloud.createLoadBalancer payload c).2).length ≤ (taggedLBs T c).length + 1 := by
  unfold Cloud.createLoadBalancer
  split
  · exact Nat.le_succ _
  · simp only [taggedLBs, labelled, List.map_append, List.filter_append, List.length_map,
      List.length_append]
    exact Nat.add_le_add_left (List.length_filter_le _ _) _

theorem wp_ensureAPIServerLoadBalancer_sole (input : LoadBalancerInput)
    (hT : DistinctRewrites input.tags) (s : Session)
    (hone : (taggedLBs input.tags s.cloud).length ≤ 1) :
    wp (ensureAPIServerLoadBalancer input)
      (fun _ t => (taggedLBs input.tags t.cloud).length ≤ 1) s := by
  have hfind : wp (findLoadBalancerByTags input.tags) (fun r t => t.cloud = s.cloud ∧
      ∀ e, r = .error e →
        (isNotFound e || isLoadBalancerServiceNotEnabled e) = true →
        taggedLBs input.tags s.cloud = []) s := by
    unfold findLoadBalancerByTags
    rw [wp_bind]
    refine (wp_listAPIServerLoadBalancersByTags input.tags s).imp fun r t ⟨hc, hr⟩ => ?_
    cases r with
    | error e =>
      refine ⟨hc, fun e' he' habsent => ?_⟩
      cases he'
      rw [hr.1, hr.2] at habsent
      cases habsent
    | ok out =>
      rw [next_ok]
      refine wp_single (fun hnil => ⟨hc, fun _ _ _ => ?_⟩) (fun a _ => ⟨hc, fun e he => nomatch he⟩)
        fun _ => ⟨hc, fun e he habsent => ?_⟩
      · rw [← hr hT, hnil]
        rfl
      · cases he
        exact absurd habsent (by decide)
  have hsame : ∀ {t : Session}, t.cloud = s.cloud → (taggedLBs input.tags t.cloud).length ≤ 1 :=
    fun h => h ▸ hone
  refine wp_existingOr_of hfind (fun l t ht => hsame ht.1) (fun e t ⟨hc, hnone⟩ habsent => ?_)
    fun e t ht _ => hsame ht.1
  rw [wp_bind]
  refine ((sameCloud_newLoadBalancerLabels input.tags).wp t).imp fun r u hu => ?_
  cases r with
  | error e' => exact hsame (hu.trans hc)
  | ok labels =>
    rw [next_ok, wp_bind]
    refine wp_request fun r' c v hr' hv => ?_
    have hv' : (taggedLBs input.tags v.cloud).length ≤ 1 := by
      rcases hr'.cloud_cases with rfl | rfl
      · exact hsame (hv.cloud.trans (hu.trans hc))
      · have hlength :=
          taggedLBs_createLoadBalancer input.tags (createLoadBalancerPayload input labels) u.cloud
        rw [hu, hc, hnone e rfl habsent] at hlength
        rw [hv.cloud, hu, hc]
        exact hlength
    cases r' with
    | error _ => exact hv'
    | ok _ => exact hv'

end SDKClient

/-! ### Passes -/

/-- The invariant of a pass with `Sole`. -/
structure Definite (m : ClusterIdentity) (p : Pass StackitCluster Session) : Prop where
  steady : Steady m p
  sole : Sole m p.cloud.cloud

namespace ClusterReconciler
variable {env : Env Session} {cluster : Cluster}

theorem sole_createNetwork (hid : ClusterIdentity.of p.obj = m) (h : Sole m p.cloud.cloud) :
    wp (SDKClient.createNetwork (networkInput p.obj)) (fun _ t => Sole m t.cloud) p.cloud := by
  subst hid
  have htags : (networkInput p.obj).tags.entries.isEmpty = false :=
    StringMap.isEmpty_entries_of_lookup (clusterTags_managedBy _ _ _)
  exact (wp_createNetwork (networkInput p.obj) htags p.cloud).imp fun _ _ hens =>
    h.network_ensured hens

theorem definite_ensureNetwork : Preserves (Definite m) (ensureNetwork sdkClient) :=
  keeps_ensureNetwork (Closed.imp (Definite m))
    (fun _ _ h => ⟨⟨h.steady.obj.congr rfl rfl, h.steady.stored, h.steady.cloud⟩, h.sole⟩)
    (fun _ _ _ _ h => ⟨⟨h.steady.obj.congr rfl rfl, h.steady.stored, h.steady.cloud⟩, h.sole⟩)
    (fun id p h => ⟨steady_read (sameResources_getNetwork id) p h.steady,
      h.sole.shrinks (sameResources_getNetwork id p.cloud).shrinks⟩)
    fun _ hnone h => ⟨steady_createNetwork hnone h.steady,
      sole_createNetwork h.steady.obj.identity h.sole⟩

theorem sole_loadBalancer {targets : List LoadBalancerTargetInput} (hT : DistinctRewrites m.tags)
    (hid : ClusterIdentity.of p.obj = m) (h : Sole m p.cloud.cloud) :
    wp (SDKClient.ensureAPIServerLoadBalancer (apiServerInput p.obj targets))
      (fun _ t => Sole m t.cloud) p.cloud := by
  subst hid
  refine ((wp_ensureAPIServerLoadBalancer _ p.cloud).and
    (wp_ensureAPIServerLoadBalancer_sole (apiServerInput p.obj targets) hT p.cloud
      h.loadBalancer)).imp fun r t ⟨⟨hens, _⟩, hone⟩ => ?_
  have hsame : ∀ {k T}, k ≠ .loadBalancer → tagged k T t.cloud = tagged k T p.cloud.cloud :=
    fun hk => by
    rw [tagged, hens.others _ hk]
    rfl
  refine ⟨fun k hk => ?_, ?_, ?_, hone⟩
  · rw [hsame fun h0 => by rw [h0] at hk; exact hk]
    exact h.bastion k hk
  · rw [hsame (by decide)]
    exact h.nodeSSH
  · rw [hsame (by decide)]
    exact h.network

theorem resourceFrame_definite (hT : DistinctRewrites m.tags) (env : Env Session) :
    ResourceFrame env sdkClient fun p q => Definite m p → Definite m q where
  toClosed := Closed.imp (Definite m)
  write hf p h := ⟨(resourceFrame_steady hT env).write hf p h.steady, h.sole⟩
  zones p h :=
    ⟨(resourceFrame_steady hT env).zones p h.steady,
    h.sole.shrinks (sameResources_listAvailabilityZones p.cloud).shrinks⟩
  network := definite_ensureNetwork
  loadBalancer network machines hmachines p := by
    set input :=
      apiServerInput p.obj (seedTargets network (apiServerTargets env.sha256Hex machines))
    have hsole :
        wp (Pass.call (sdkClient.ensureAPIServerLoadBalancer input) : Step Session LoadBalancer)
          (fun _ q => Definite m p → Sole m q.cloud.cloud) p :=
          fun h => sole_loadBalancer hT h.steady.obj.identity h.sole
    refine (((resourceFrame_steady hT env).loadBalancer network machines hmachines p).and hsole).imp
      fun r q ⟨⟨hq, hset⟩, hsole⟩ => ?_
    exact ⟨fun h => ⟨hq h.steady, hsole h⟩, fun l hl h => ⟨hset l hl h.steady, hsole h⟩⟩
  targets id machines hmachines hne p h :=
    ⟨(resourceFrame_steady hT env).targets id machines hmachines hne p h.steady,
    h.sole.shrinks (sameResources_setAPIServerLoadBalancerTargets _ _ _ p.cloud).shrinks⟩

theorem BastionStep.sole (h : BastionStep p q) (hid : ClusterIdentity.of p.obj = m)
    (hp : Sole m p.cloud.cloud) :
    Sole m q.cloud.cloud := by
  subst hid
  cases h with
  | untouched status cloud skipped => exact cloud ▸ hp
  | cleanupFailed status cloud skipped => exact hp.shrinks cloud
  | cleaned status cloud gone skipped => exact hp.shrinks cloud
  | ensureFailed enabled status cloud skipped => exact hp.addsFirst cloud.adds
  | ensured enabled b status cloud current skipped => exact hp.addsFirst cloud

theorem definite_finishWithBastion (env : Env Session) :
    Preserves (Definite m) (finishWithBastion env sdkClient) := fun p h =>
  ⟨steady_finishWithBastion env p h.steady, (bastionStep_finishWithBastion env : wp _ _ p).sole
    h.steady.obj.identity h.sole⟩

theorem definite_reconcileInfrastructure (hT : DistinctRewrites m.tags) (h : Definite m p)
    (hsdk : ∀ sc, SDKSource env.source sc) :
    wp (reconcileInfrastructure env) (fun _ q => Definite m q) p := by
  have hframe := resourceFrame_definite hT env
  refine (via_reconcileInfrastructure (Closed.imp (Definite m)) (fun hf q => hframe.write hf q)
    (hsdk _) fun client hclient => hclient ▸ hframe.keeps_reconcileResources).imp ?_
  exact fun _ _ hq => hq.1 h

theorem definite_reconcileFinalized (hT : DistinctRewrites m.tags) (h : Definite m p)
    (hsdk : ∀ sc, SDKSource env.source sc) :
    wp (reconcileFinalized env) (fun _ q => Definite m q) p := by
  refine wp_reconcileFinalized (((definite_reconcileInfrastructure hT h hsdk).and
    (sameBastion_reconcileInfrastructure hsdk)).imp ?_)
  rintro r q ⟨hq, -, hclient⟩
  rcases r with e | result | client
  · exact hq
  · exact hq
  · obtain rfl := hclient _ rfl client rfl
    exact definite_finishWithBastion env q hq

theorem definite_reconcileNormal (hT : DistinctRewrites m.tags) (h : Definite m p)
    (hsdk : ∀ sc, SDKSource env.source sc) :
    wp (reconcileNormal env) (fun _ q => Definite m q) p := by
  have hobj : Kept m (withFinalizer p.obj) := h.steady.obj.congr (by simp) rfl
  have h' : Definite m (patchFinalizer p) :=
    ⟨⟨hobj, hobj.deliver h.steady.stored _, h.steady.cloud⟩, h.sole⟩
  exact wp_reconcileNormal (fun _ => definite_reconcileFinalized hT h hsdk) (fun _ _ _ => h')
    fun _ _ => definite_reconcileFinalized hT h' hsdk

theorem DeleteStep.definite (h : DeleteStep p q) (hp : Definite m p) : Definite m q := by
  cases h with
  | kept h => exact ⟨h.steady hp.steady, hp.sole.shrinks h.cloud⟩
  | finished mid h drop gone bastion =>
    subst drop
    have hmid := h.steady hp.steady
    exact ⟨⟨hmid.obj.congr rfl rfl, hmid.stored, hmid.cloud⟩, hp.sole.shrinks h.cloud⟩

theorem definite_reconcileScope (hT : DistinctRewrites m.tags) (h : Definite m p)
    (hsdk : ∀ sc, SDKSource env.source sc) :
    wp (reconcileScope env cluster) (fun _ q => Definite m q) p := by
  have h' : Definite m { p with obj := withPaused cluster p.obj } :=
    ⟨⟨h.steady.obj.congr rfl rfl, h.steady.stored, h.steady.cloud⟩, h.sole⟩
  refine wp_reconcileScope (fun _ => h') (fun _ _ => ?_)
    fun _ _ => definite_reconcileNormal hT h' hsdk
  refine (wp_reconcileDelete_cases (p := { p with obj := withPaused cluster p.obj }) (hsdk _)).imp
    ?_
  rintro _ q (hq | ⟨-, rfl⟩)
  · exact hq.definite h'
  · exact ⟨⟨h'.steady.obj.congr rfl rfl, h'.steady.stored, h'.steady.cloud⟩, h'.sole⟩

end ClusterReconciler

/-! ### Runs -/

namespace ClusterWorld
variable {w : ClusterWorld} {as : List ClusterAction}

/-- The environment leaves the cluster's resources alone, and there is one group for its nodes at
most. -/
def Tended (m : ClusterIdentity) (w : ClusterWorld) : ClusterAction → Prop
  | .cloudEvolves change =>
    NoneAppears m w.cloud (change w.cloud) ∧
      (tagged .securityGroup m.nodeSSHTags (change w.cloud)).length ≤ 1
  | a => Undisturbed m w a

/-- The invariant between the passes, with `Sole`. -/
structure Definite (m : ClusterIdentity) (w : ClusterWorld) : Prop where
  accounted : Accounted m w
  sole : Sole m w.cloud

theorem Definite.reconcile {answers : ClusterReconciler.Answers}
    {env : ClusterReconciler.Env Session} {patches : List PatchOutcome} {outcomes : List Outcome}
    {orders : List MapOrder} (hT : DistinctRewrites m.tags) (h : Definite m w)
    (hsdk : ∀ sc, SDKSource env.source sc) :
    Definite m (w.step (.reconcile answers env patches outcomes orders)) := by
  have hstart : Capstk.Definite m (w.begin patches outcomes orders) :=
    ⟨⟨h.accounted.stored, h.accounted.stored, h.accounted.cloud⟩, h.sole⟩
  show wp (ClusterReconciler.reconcile answers env) (fun _ q => Definite m (leave q))
    (w.begin patches outcomes orders)
  refine ClusterReconciler.wp_reconcile (fun _ _ => h) fun cluster _ => Pass.wp_withDeferredPatch ?_
  refine (ClusterReconciler.definite_reconcileScope hT hstart hsdk).imp fun r q hq o _ _ _ => ?_
  exact ⟨⟨hq.steady.obj.deliver hq.steady.stored o, hq.steady.cloud⟩, hq.sole⟩

theorem Definite.step {a : ClusterAction} (hT : DistinctRewrites m.tags) (h : Definite m w)
    (ha : Tended m w a) :
    Definite m (w.step a) := by
  cases a with
  | reconcile answers env patches outcomes orders => exact h.reconcile hT ha
  | requestDeletion => exact ⟨⟨h.accounted.stored.congr rfl rfl, h.accounted.cloud⟩, h.sole⟩
  | updateSpec spec =>
    refine ⟨⟨h.accounted.stored.congr ?_ rfl, h.accounted.cloud⟩, h.sole⟩
    simp only [ClusterIdentity.of, ClusterWorld.step, ha.1, ha.2]
  | cloudEvolves change =>
    obtain ⟨hnone, hnodes⟩ := ha
    refine ⟨⟨h.accounted.stored, h.accounted.cloud.noneAppears hnone⟩, ?_⟩
    exact ⟨fun k hk => (hnone.bastion k).length_le.trans (h.sole.bastion k hk), hnodes,
      hnone.network.length_le.trans h.sole.network, hnone.loadBalancer.length_le.trans
      h.sole.loadBalancer⟩

theorem Untouched.definite (h : w.Untouched)
    (hnodes : tagged .securityGroup (nodeSSHAccessTags w.stored) w.cloud = []) :
    Definite (ClusterIdentity.of w.stored) w := by
  have hnil : ∀ {l : List String}, l = [] → l.length ≤ 1 := fun h => by rw [h]; exact Nat.zero_le 1
  exact ⟨h.accounted, fun k _ => hnil (h.bastion k), hnil hnodes, hnil h.network,
    hnil h.loadBalancer⟩

theorem definite_run (hT : DistinctRewrites m.tags) (h : Definite m w)
    (has : Runs.Meets step (Tended m) w as) :
    Definite m (Runs.run step w as) := has.inv h fun _ _ h ha => h.step hT ha

end ClusterWorld

end Capstk
