import Capstk.Proofs.ClusterDelete

/-!
# What the deletion of a cluster leaves behind

Nothing, if no ID in the status is outdated when the deletion runs (`IDsCurrent`). For the load
balancer this is always so, since its ID is its name; what every pass keeps (`Steady`) is that, and
that the cluster's resources can be told from others.
-/

namespace Capstk

open Prog SDKClient

variable {m : ClusterIdentity} {c c' : Cloud} {p : Pass StackitCluster Session}

theorem CloudKept.infraKept (h : CloudKept m c) (hi : InfraKept c c') : CloudKept m c' := by
  refine h.of_new fun k x hx => ?_
  have hlb : labelled .loadBalancer c' = labelled .loadBalancer c := by
    simp only [labelled, hi.loadBalancers]
  cases k with
  | network => rw [hi.networks] at hx; exact .inl hx
  | loadBalancer => rw [hlb] at hx; exact .inl hx
  | server => exact (hi.named _ x hx).imp id fun hne => ⟨hne, by simp, by simp⟩
  | publicIP => exact (hi.named _ x hx).imp id fun hne => ⟨hne, by simp, by simp⟩
  | securityGroup => exact (hi.named _ x hx).imp id fun hne => ⟨hne, by simp, by simp⟩

theorem CloudKept.loadBalancerEnsured (h : CloudKept m c)
    (hl : LoadBalancerEnsured m.loadBalancerName c c') :
    CloudKept m c' := by
  refine h.of_new fun k x hx => ?_
  by_cases hk : k = .loadBalancer
  · subst hk
    refine (hl.this x hx).imp id fun hx => ⟨?_, by simp, fun _ => hx⟩
    rw [hx]; exact m.loadBalancerName_ne
  · rw [hl.others k hk] at hx
    exact .inl hx

/-! ### `reconcileNormal` -/

namespace SDKClient

theorem named_createNetwork (input : CreateNetworkInput) :
    Keeps (fun s t : Session => ∀ x ∈ labelled .network t.cloud, x ∈ labelled .network s.cloud ∨
      x.1 ≠ "")
      (createNetwork input) := by
  have hR : Closed fun s t : Session => ∀ x ∈ labelled .network t.cloud,
      x ∈ labelled .network s.cloud ∨ x.1 ≠ "" :=
    ⟨fun _ _ hx => .inl hx, fun h h' x hx => (h' x hx).elim (h x) .inr⟩
  have hcreate :
      Keeps (fun s t : Session => ∀ x ∈ labelled .network t.cloud, x ∈ labelled .network s.cloud ∨
      x.1 ≠ "")
        (do
          pure (networkFromSDK (← request "create network"
            (.createNetwork input.name input.tags input.ipv4Prefix)
            (Cloud.createNetwork input.name input.tags input.ipv4Prefix))) :
          Call Session Network) := by
    refine .bind hR
      (keeps_request (R := fun c c' => ∀ x ∈ labelled .network c', x ∈ labelled .network c ∨
      x.1 ≠ "")
      (fun _ _ hx => .inl hx) fun c x hx => ?_) fun _ => .pure hR _
    obtain ⟨a, c', heffect, hid, hthis, -⟩ :=
      adds_createNetwork (T := input.tags) input.name input.ipv4Prefix c
    rw [heffect, hthis, List.mem_append, List.mem_singleton] at hx
    exact hx.imp id fun hx => by rw [hx]; exact hid
  refine .ite (.fail hR _) (.ite hcreate (keeps_existingOr hR (fun s x hx => ?_) hcreate))
  rw [(wp_findNetworkByTags input.tags s).1] at hx
  exact .inl hx

end SDKClient

namespace ClusterReconciler

theorem steady_read {α : Type} {x : Call Session α}
    (h : Keeps (fun s t : Session => SameResources s.cloud t.cloud) x) :
    Preserves (Steady m) (Pass.call x) := fun p hp =>
  ⟨hp.obj, hp.stored, hp.cloud.shrinks (h p.cloud).shrinks⟩

theorem steady_createNetwork (hnone : p.obj.spec.networkID = "") :
    wp (Pass.call (sdkClient.createNetwork (networkInput p.obj)))
      (fun _ q => Steady m p → Steady m q) p := by
  have hnet : Steady m p → m.networkID = "" := fun h => by
    rw [← h.obj.identity]
    exact hnone
  refine fun h => ⟨h.obj, h.stored, h.cloud.of_new fun k x hx => ?_⟩
  by_cases hkind : k = .network
  · subst hkind
    exact (named_createNetwork (networkInput p.obj) p.cloud x hx).imp id fun hne =>
      ⟨hne, fun _ => hnet h, by simp⟩
  · exact .inl (by rw [← sameExcept_createNetwork (networkInput p.obj) p.cloud k hkind]; exact hx)

theorem steady_ensureNetwork : Preserves (Steady m) (ensureNetwork sdkClient) :=
  keeps_ensureNetwork (Closed.imp (Steady m))
    (fun _ _ h => ⟨h.obj.congr rfl rfl, h.stored, h.cloud⟩)
    (fun _ _ _ _ h => ⟨h.obj.congr rfl rfl, h.stored, h.cloud⟩)
    (fun _ => steady_read (sameResources_getNetwork _)) fun _ hnone => steady_createNetwork hnone

theorem resourceFrame_steady (hT : DistinctRewrites m.tags) (env : Env Session) :
    ResourceFrame env sdkClient fun p q => Steady m p → Steady m q where
  toClosed := Closed.imp (Steady m)
  write hf p h := by cases hf <;> exact ⟨h.obj.congr rfl rfl, h.stored, h.cloud⟩
  zones := steady_read sameResources_listAvailabilityZones
  network := steady_ensureNetwork
  loadBalancer network machines _ p := by
    set input :=
      apiServerInput p.obj (seedTargets network (apiServerTargets env.sha256Hex machines))
      with hinput
    rw [Pass.wp_call]
    refine (wp_ensureAPIServerLoadBalancer input p.cloud).imp fun r s ⟨hensured, hok⟩ => ?_
    have hcloud : Steady m p → CloudKept m s.cloud := fun h => by
      have hname : input.name = m.loadBalancerName := by rw [← h.obj.identity]; rfl
      exact h.cloud.loadBalancerEnsured (hname ▸ hensured)
    refine ⟨fun h => ⟨h.obj, h.stored, hcloud h⟩, fun lb hlb h =>
      ⟨⟨h.obj.identity, .inr ?_⟩, h.stored, hcloud h⟩⟩
    -- the load balancer was found by the cluster's tags, or created with its name
    have htags : input.tags = m.tags := by rw [← h.obj.identity]; rfl
    rcases hok lb hlb (htags ▸ hT) with hmem | heq
    · exact h.cloud.loadBalancer _ (htags ▸ hmem)
    · rw [← h.obj.identity]; exact heq
  targets _ _ _ _ := steady_read (sameResources_setAPIServerLoadBalancerTargets _ _ _)

theorem steady_finishWithBastion (env : Env Session) :
    Preserves (Steady m) (finishWithBastion env sdkClient) := by
  refine (sameInfrastructure_finishWithBastion env).preserves fun p q hpq h =>
    ⟨h.obj.congr ?_ hpq.loadBalancerID, ?_, ?_⟩
  · simp only [ClusterIdentity.of, hpq.metadata, hpq.spec]
  · rw [hpq.stored]; exact h.stored
  · exact h.cloud.infraKept hpq.cloud

end ClusterReconciler

/-! ### `reconcileDelete` -/

/-- What a pass over a cluster that is being deleted guarantees: the invariant, and if it drops the
finalizer, then nothing is left. -/
structure Finishing (m : ClusterIdentity) (p q : Pass StackitCluster Session) : Prop where
  steady : Steady m q
  stored : q.stored = p.stored
  finalizer : q.obj.metadata = p.obj.metadata ∨ ClusterGone m q.cloud.cloud

namespace ClusterReconciler

theorem DeleteStep.steady {q : Pass StackitCluster Session} (hstep : DeleteStep p q)
    (h : Steady m p) :
    Steady m q := by
  cases hstep with
  | kept hpq => exact hpq.steady h
  | finished mid hmid drop gone _ =>
    subst drop
    have hs := hmid.steady h
    exact ⟨hs.obj.congr rfl rfl, hs.stored, hs.cloud⟩

theorem DeleteStep.finishing {q : Pass StackitCluster Session} (hstep : DeleteStep p q)
    (hT : DistinctRewrites m.tags) (h : Steady m p) (hcur : IDsCurrent p.obj p.cloud.cloud) :
    Finishing m p q := by
  have hs := hstep.steady h
  cases hstep with
  | kept hpq => exact ⟨hs, hpq.stored, .inl hpq.metadata⟩
  | finished mid hmid drop gone _ =>
    subst drop
    exact ⟨hs, hmid.stored, .inr (gone m hT h hcur)⟩

/-! ### `Reconcile` -/

theorem finishing_reconcileFinalized {env : Env Session} (hT : DistinctRewrites m.tags)
    (h : Steady m p) (hsdk : ∀ sc, SDKSource env.source sc) :
    wp (reconcileFinalized env) (fun _ q => Finishing m p q) p := by
  have hR : Closed fun p q : Pass StackitCluster Session =>
      (Steady m p → Steady m q) ∧ q.stored = p.stored ∧ q.obj.metadata = p.obj.metadata :=
    (Closed.imp _).and
      ((Closed.ofEq Pass.stored).and (Closed.ofEq fun p : Pass StackitCluster Session =>
      p.obj.metadata))
  have hfirst : Keeps (fun p q => (Steady m p → Steady m q) ∧ q.stored = p.stored ∧
      q.obj.metadata = p.obj.metadata)
        (reconcileResources env sdkClient) := fun q =>
    have hsame := (resourceFrame_sameBastion env).keeps_reconcileResources q
    ⟨(resourceFrame_steady hT env).keeps_reconcileResources q, hsame.stored, hsame.metadata⟩
  have hsecond : Keeps (fun p q => (Steady m p → Steady m q) ∧ q.stored = p.stored ∧
      q.obj.metadata = p.obj.metadata)
        (finishWithBastion env sdkClient) := fun q =>
    have hsame := sameInfrastructure_finishWithBastion env q
    ⟨steady_finishWithBastion env q, hsame.stored, hsame.metadata⟩
  refine (wp_via_bind hR (Q := fun _ _ => True) (via_reconcileInfrastructure hR
    (fun hf q => ⟨(resourceFrame_steady hT env).write hf q, rfl, hf.unrelated.metadata _⟩)
    (hsdk _) fun client hclient => hclient ▸ hfirst) fun r q _ hclient => ?_).imp
    fun _ q ⟨⟨hsteady, hstored, hmeta⟩, _⟩ => ⟨hsteady h, hstored, .inl hmeta⟩
  cases r with
  | inl result => exact wp_via_pure hR trivial
  | inr client =>
    rw [hclient client rfl]
    exact hsecond.via

/-- What a pass over a cluster that is not being deleted guarantees: the invariant, and if the
cluster has the finalizer, that it stays. -/
def Guarded (m : ClusterIdentity) (p q : Pass StackitCluster Session) : Prop :=
  Steady m q ∧ (containsFinalizer p.obj.metadata clusterFinalizer = true → Finishing m p q)

theorem guarded_reconcileNormal {env : Env Session} (hT : DistinctRewrites m.tags) (h : Steady m p)
    (hsdk : ∀ sc, SDKSource env.source sc) :
    wp (reconcileNormal env) (fun _ q => Guarded m p q) p := by
  have hobj : Kept m (withFinalizer p.obj) := h.obj.congr (by simp) rfl
  have h' : Steady m (patchFinalizer p) := ⟨hobj, hobj.deliver h.stored _, h.cloud⟩
  have hfree : containsFinalizer p.obj.metadata clusterFinalizer = false → ∀ q, Steady m q →
      Guarded m p q :=
    fun hnot q hq => ⟨hq, fun hhas => by rw [hnot] at hhas; cases hhas⟩
  refine wp_reconcileNormal (fun _ => ?_) (fun hnot _ _ => hfree hnot _ h')
    fun hnot _ => ?_
  · exact (finishing_reconcileFinalized hT h hsdk).imp fun _ q hq => ⟨hq.steady, fun _ => hq⟩
  · exact (finishing_reconcileFinalized hT h' hsdk).imp fun _ q hq => hfree hnot q hq.steady

/-- Any pass keeps the invariant. If the credentials Secret exists and a deletion starts from no
outdated ID, the finalizer only goes with everything else. -/
theorem guarded_reconcileScope {env : Env Session} {cluster : Cluster}
    (hT : DistinctRewrites m.tags) (h : Steady m p) (hsdk : ∀ sc, SDKSource env.source sc) :
    wp (reconcileScope env cluster) (fun _ q => Steady m q ∧ (SourceOk env.source p.obj →
      (p.obj.metadata.deleting = true → IDsCurrent p.obj p.cloud.cloud) →
      containsFinalizer p.obj.metadata clusterFinalizer = true → Finishing m p q)) p := by
  have h' : Steady m { p with obj := withPaused cluster p.obj } :=
    ⟨h.obj.congr rfl rfl, h.stored, h.cloud⟩
  refine wp_reconcileScope (fun _ => ⟨h', fun _ _ _ => ⟨h', rfl, .inl rfl⟩⟩) (fun _ hdel => ?_)
    fun _ _ => ?_
  · refine (wp_reconcileDelete_cases (p := { p with obj := withPaused cluster p.obj }) (hsdk _)).imp
      ?_
    rintro _ q (hq | ⟨hmissing, rfl⟩)
    · refine ⟨hq.steady h', fun _ hcur _ => ?_⟩
      have hfin := hq.finishing hT h' ⟨(hcur hdel).bastion, (hcur hdel).network⟩
      exact ⟨hfin.steady, hfin.stored, hfin.finalizer⟩
    · exact ⟨⟨h'.obj.congr rfl rfl, h'.stored, h'.cloud⟩, fun hsrc =>
        (hmissing (hsrc.congr rfl)).elim⟩
  · exact (guarded_reconcileNormal hT h' hsdk).imp fun _ q hq =>
      ⟨hq.1, fun _ _ hhas => ⟨hq.1, (hq.2 hhas).stored, (hq.2 hhas).finalizer⟩⟩

end ClusterReconciler

/-! ### Runs -/

/-- Nobody else makes or renames resources of the cluster. -/
structure NoneAppears (m : ClusterIdentity) (c c' : Cloud) : Prop where
  bastion : ∀ k, (tagged k m.bastionTags c').Sublist (tagged k m.bastionTags c)
  network : (tagged .network m.tags c').Sublist (tagged .network m.tags c)
  loadBalancer : (taggedLBs m.tags c').Sublist (taggedLBs m.tags c)

theorem NoneAppears.of_shrinks (h : Shrinks c c') : NoneAppears m c c' :=
  ⟨fun k => h.tagged k _, h.tagged _ _, h.taggedLBs _⟩

theorem CloudKept.noneAppears (h : CloudKept m c) (hnone : NoneAppears m c c') :
    CloudKept m c' where
  bastionNamed k hk := h.bastionNamed k ((hnone.bastion k).subset hk)
  networkNamed hmem := h.networkNamed (hnone.network.subset hmem)
  network hne := List.sublist_nil.1 (h.network hne ▸ hnone.network)
  loadBalancer name hname := h.loadBalancer name (hnone.loadBalancer.subset hname)

namespace ClusterWorld
variable {w : ClusterWorld}

/-- The invariant between the passes. -/
structure Accounted (m : ClusterIdentity) (w : ClusterWorld) : Prop where
  stored : Kept m w.stored
  cloud : CloudKept m w.cloud

/-- A pass keeps the invariant, and takes the finalizer away only with everything else if the
credentials Secret exists and a deletion starts from no outdated ID. -/
theorem Accounted.reconcile {answers : ClusterReconciler.Answers}
    {env : ClusterReconciler.Env Session} {patches : List PatchOutcome} {outcomes : List Outcome}
    {orders : List MapOrder} (hT : DistinctRewrites m.tags) (h : Accounted m w)
    (hsdk : ∀ sc, SDKSource env.source sc) :
    let w' := w.step (.reconcile answers env patches outcomes orders)
    Accounted m w' ∧ (SourceOk env.source w.stored →
      (w.stored.metadata.deleting = true → IDsCurrent w.stored w.cloud) →
      containsFinalizer w.stored.metadata clusterFinalizer = true →
      containsFinalizer w'.stored.metadata clusterFinalizer = false → ClusterGone m w'.cloud) := by
  set p := w.begin patches outcomes orders with hp
  have hstart : Steady m p := ⟨h.stored, h.stored, h.cloud⟩
  show wp (ClusterReconciler.reconcile answers env) (fun _ q => Accounted m (leave q) ∧
    (SourceOk env.source w.stored →
      (w.stored.metadata.deleting = true → IDsCurrent w.stored w.cloud) →
      containsFinalizer w.stored.metadata clusterFinalizer = true →
      containsFinalizer (leave q).stored.metadata clusterFinalizer = false →
      ClusterGone m (leave q).cloud)) p
  refine ClusterReconciler.wp_reconcile (fun _ _ => ⟨h, fun _ _ hhas hnot => ?_⟩)
    fun cluster _ => ?_
  · rw [show (leave p).stored = w.stored from rfl, hhas] at hnot
    cases hnot
  refine Pass.wp_withDeferredPatch ((ClusterReconciler.guarded_reconcileScope hT hstart hsdk).imp
    fun r q hq o r' _ _ => ?_)
  refine ⟨⟨hq.1.obj.deliver hq.1.stored o, hq.1.cloud⟩, fun hsrc hcur hhas hnot => ?_⟩
  obtain ⟨-, hstored, hmeta | hgone⟩ := hq.2 hsrc hcur hhas
  · exfalso
    have hsame : (Pass.deliver o q.obj q.stored).metadata.finalizers =
        w.stored.metadata.finalizers := by
      rcases finalizers_deliver o q.obj q.stored with heq | heq
      · rw [heq, hmeta]; rfl
      · rw [heq, hstored]; rfl
    have hnot' : containsFinalizer (Pass.deliver o q.obj q.stored).metadata clusterFinalizer =
        false := hnot
    rw [containsFinalizer, hsame] at hnot'
    rw [containsFinalizer, hnot'] at hhas
    cases hhas
  · exact hgone

/-- What the environment keeps to: passes get the SDK client, if any, updates leave the labels and
the network alone, and only the provider makes resources for the cluster. -/
def Undisturbed (m : ClusterIdentity) (w : ClusterWorld) : ClusterAction → Prop
  | .reconcile _ env _ _ _ => ∀ sc, SDKSource env.source sc
  | .requestDeletion => True
  | .updateSpec spec =>
    spec.additionalLabels = w.stored.spec.additionalLabels ∧
      spec.networkID = w.stored.spec.networkID
  | .cloudEvolves change => NoneAppears m w.cloud (change w.cloud)

/-- A pass finds the credentials Secret. -/
def FindsSecret (w : ClusterWorld) : ClusterAction → Prop
  | .reconcile _ env _ _ _ => SourceOk env.source w.stored
  | _ => True

/-- No pass over a cluster that is being deleted starts with an outdated ID in the status. -/
def DeletesCurrent (w : ClusterWorld) : ClusterAction → Prop
  | .reconcile .. => w.stored.metadata.deleting = true → IDsCurrent w.stored w.cloud
  | _ => True

/-- The finalizer goes with this action. -/
def Finalizes (w : ClusterWorld) (a : ClusterAction) : Prop :=
  containsFinalizer w.stored.metadata clusterFinalizer = true ∧
    containsFinalizer (w.step a).stored.metadata clusterFinalizer = false

instance (w : ClusterWorld) (a : ClusterAction) : Decidable (w.Finalizes a) :=
  inferInstanceAs (Decidable (_ ∧ _))

theorem Accounted.step {a : ClusterAction} (hT : DistinctRewrites m.tags) (h : Accounted m w)
    (ha : Undisturbed m w a) : Accounted m (w.step a) ∧
      (FindsSecret w a → DeletesCurrent w a → w.Finalizes a → ClusterGone m (w.step a).cloud) := by
  have hkeeps : ∀ w' : ClusterWorld, w'.stored.metadata.finalizers = w.stored.metadata.finalizers →
      ¬ (containsFinalizer w.stored.metadata clusterFinalizer = true ∧
        containsFinalizer w'.stored.metadata clusterFinalizer = false) := by
    rintro w' heq ⟨hhas, hnot⟩
    rw [containsFinalizer, heq] at hnot
    rw [containsFinalizer, hnot] at hhas
    cases hhas
  cases a with
  | reconcile answers env patches outcomes orders =>
    obtain ⟨hinv, hgone⟩ := h.reconcile hT ha
    exact ⟨hinv, fun hsecret hcur hfin => hgone hsecret hcur hfin.1 hfin.2⟩
  | requestDeletion =>
    exact ⟨⟨h.stored.congr rfl rfl, h.cloud⟩, fun _ _ hfin => absurd hfin (hkeeps _ rfl)⟩
  | updateSpec spec =>
    refine ⟨⟨h.stored.congr ?_ rfl, h.cloud⟩, fun _ _ hfin => absurd hfin (hkeeps _ rfl)⟩
    simp only [ClusterIdentity.of, ClusterWorld.step, ha.1, ha.2]
  | cloudEvolves change =>
    exact ⟨⟨h.stored, h.cloud.noneAppears ha⟩, fun _ _ hfin => absurd hfin (hkeeps _ rfl)⟩

/-- Nothing has been made for the cluster yet. -/
structure Untouched (w : ClusterWorld) : Prop where
  loadBalancerID : w.stored.status.apiServerLoadBalancerID = ""
  loadBalancer : taggedLBs w.stored.tags w.cloud = []
  bastion : ∀ k, tagged k (bastionTags w.stored) w.cloud = []
  network : tagged .network w.stored.tags w.cloud = []

theorem Untouched.accounted (h : w.Untouched) : Accounted (ClusterIdentity.of w.stored) w := by
  refine ⟨⟨rfl, .inl h.loadBalancerID⟩, fun k => ?_, ?_, fun _ => h.network, fun name hname => ?_⟩
  · rw [ClusterIdentity.of_bastionTags, h.bastion k]; simp
  · rw [ClusterIdentity.of_tags, h.network]; simp
  · rw [ClusterIdentity.of_tags, h.loadBalancer] at hname
    simp at hname

/-- **Finalization leaves nothing behind**, unless the last pass starts from an outdated ID: when
the finalizer goes, in whatever history, while the credentials Secret exists, no resource of the
cluster exists. -/
theorem finalization_leaves_nothing {as : List ClusterAction} (h₀ : w.Untouched)
    (hT : DistinctRewrites w.stored.tags)
    (has : Runs.Meets step (Undisturbed (ClusterIdentity.of w.stored)) w as) :
    let w' := Runs.run step w as
    ∀ a, Undisturbed (ClusterIdentity.of w.stored) w' a → FindsSecret w' a → DeletesCurrent w' a →
      w'.Finalizes a → ClusterGone (ClusterIdentity.of w.stored) (w'.step a).cloud := by
  intro w' a ha hsecret hcur hfin
  have hT' : DistinctRewrites (ClusterIdentity.of w.stored).tags := hT
  have hw' : Accounted (ClusterIdentity.of w.stored) w' :=
    has.inv h₀.accounted fun _ _ hi ha => (hi.step hT' ha).1
  exact (hw'.step hT' ha).2 hsecret hcur hfin

/-- A cluster with a bastion is made and deleted. -/
theorem finalization_leaves_nothing_bastion :
    let w₀ := sample { sampleSpec with bastion := sampleBastion }
    let w := Runs.run step w₀ [samplePass [] [], .requestDeletion]
    (tagged .server (bastionTags w₀.stored) w.cloud = ["iiii"] ∧ w.Finalizes (samplePass [] [])) ∧
      ClusterGone (ClusterIdentity.of w₀.stored) (w.step (samplePass [] [])).cloud := by
  intro w₀ w
  have hfin : w.Finalizes (samplePass [] []) := by decide +kernel
  have hcur : DeletesCurrent w (samplePass [] []) := fun _ =>
    ⟨⟨by decide +kernel, by decide +kernel, by decide +kernel⟩, by decide +kernel⟩
  have hsdk : ∀ sc, SDKSource .connected sc := (SourceOk.connected w₀.stored).sdkAny
  have hrun : Runs.Meets step (Undisturbed (ClusterIdentity.of w₀.stored)) w₀
      [samplePass [] [], .requestDeletion] :=
    ⟨hsdk, trivial, trivial⟩
  refine ⟨⟨by decide +kernel, hfin⟩, ?_⟩
  exact finalization_leaves_nothing (w := w₀) ⟨rfl, rfl, fun k => by cases k <;> rfl, rfl⟩
    (by decide) hrun _ hsdk
    (SourceOk.connected _) hcur hfin

/-- The history that leaves a network behind: the recorded network is deleted by someone else, its
replacement is created in a request that is never answered, and the deletion looks for the recorded
one only. -/
def networkReplaced : List ClusterAction :=
  [samplePass [] [], .cloudEvolves fun c => (Cloud.deleteNetwork "i" c).2,
    samplePass [] [.answered, .answered, .answered, .failedAfter .timeout], .requestDeletion]

theorem finalization_leaves_network :
    let w₀ := sample sampleSpec
    let w := Runs.run step w₀ networkReplaced
    w₀.Untouched ∧ DistinctRewrites w₀.stored.tags ∧
      Runs.Meets step
        (fun w a => Undisturbed (ClusterIdentity.of w₀.stored) w a ∧ FindsSecret w a) w₀
        (networkReplaced ++ [samplePass [] []]) ∧
      w.stored.status.network.id = "i" ∧ w.Finalizes (samplePass [] []) ∧
      tagged .network w₀.stored.tags (w.step (samplePass [] [])).cloud = ["ii"] := by
  intro w₀ w
  have hsdk : ∀ sc, SDKSource .connected sc := (SourceOk.connected w₀.stored).sdkAny
  refine ⟨⟨rfl, rfl, fun k => by cases k <;> rfl, rfl⟩, by decide, ?_, by decide +kernel,
    by decide +kernel,
    by decide +kernel⟩
  exact ⟨⟨hsdk, .connected _⟩, ⟨.of_shrinks ((removes_deleteNetwork "i").shrinks _), trivial⟩,
    ⟨hsdk, .connected _⟩, ⟨trivial, trivial⟩, ⟨hsdk, .connected _⟩, trivial⟩

end ClusterWorld

end Capstk
