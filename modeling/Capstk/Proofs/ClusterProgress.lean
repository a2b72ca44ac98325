import Capstk.Proofs.ClusterAnswered

/-!
# Clusters get ready

What is left to do for a cluster is at most three steps (`work`): a load balancer to make, a bastion
to delete and to make again. A pass that is given all it needs makes the cluster ready, or leaves
less to do, or finds something that is not up yet (`Progresses`). `clusters_get_ready` counts the
passes that find everything up.
-/

namespace Capstk

open Prog SDKClient

variable {m : ClusterIdentity} {c c' : Cloud} {hash : String} {o o' : StackitCluster}

theorem SameBastion.tags {p q : Pass StackitCluster Session} (h : SameBastion p q) :
    q.obj.tags = p.obj.tags := by
  rw [StackitCluster.tags, StackitCluster.tags, h.metadata, h.labels]

namespace ClusterReconciler
variable {env : Env Session} {p : Pass StackitCluster Session}

def balancerWork (o : StackitCluster) (c : Cloud) : Nat :=
  if o.spec.apiServerLoadBalancerEnabled && (loadBalancersOf o.tags c).isEmpty then 1 else 0

/-- What is left to do for the cluster. -/
def work (hash : String) (o : StackitCluster) (c : Cloud) : Nat :=
  balancerWork o c + bastionWork hash o c

/-- What there is of the load balancer and the bastion is up. -/
def up (o : StackitCluster) (c : Cloud) : Bool :=
  (loadBalancersOf o.tags c).all (·.ip != "") && bastionUp o c

theorem balancerWork_le : balancerWork o c ≤ 1 := by
  unfold balancerWork
  split <;> decide

theorem bastionWork_le : bastionWork hash o c ≤ 2 := by
  unfold bastionWork
  split
  · decide
  · split
    · decide
    · split <;> decide

theorem work_le : work hash o c ≤ 3 := Nat.add_le_add balancerWork_le bastionWork_le

theorem balancerWork_there (h : loadBalancersOf o.tags c ≠ []) : balancerWork o c = 0 := by
  rw [balancerWork, List.isEmpty_eq_false_iff.2 h, Bool.and_false]
  rfl

theorem balancerWork_settled (h : EndpointSettled env o c) : balancerWork o c = 0 := by
  unfold EndpointSettled at h
  split at h
  · obtain ⟨machines, l, h⟩ := h
    exact balancerWork_there (by rw [h.this]; simp)
  · rename_i hdisabled
    rw [balancerWork, eq_false_of_ne_true hdisabled]
    rfl

/-- How a pass goes on. -/
inductive Progresses (hash : String) (o : StackitCluster) (c : Cloud) (o' : StackitCluster)
    (c' : Cloud) : Prop
  | ready (isReady : o'.status.ready = true) (done : work hash o' c' = 0)
  | advanced (less : work hash o' c' < work hash o c)
  | pending (down : up o c = false) (kept : work hash o' c' ≤ work hash o c)

theorem bastionTags_congr (htags : o'.tags = o.tags) : bastionTags o' = bastionTags o := by
  rw [bastionTags, bastionTags, htags]

theorem bastionWork_congr (htags : o'.tags = o.tags) (hspec : o'.spec.bastion = o.spec.bastion)
    (hstatus : o'.status.bastion = o.status.bastion)
    (hc : ∀ k, IsBastionKind k → labelled k c' = labelled k c) :
    bastionWork hash o' c' = bastionWork hash o c := by
  have hkept : ∀ {k T}, IsBastionKind k → tagged k T c' = tagged k T c :=
    fun hk => by rw [tagged, tagged, hc _ hk]
  rw [bastionWork, bastionWork, bastionTags_congr htags, hspec, hstatus,
    hkept (k := .server) trivial, hkept (k := .publicIP) trivial]

theorem bastionUp_congr (htags : o'.tags = o.tags) (hservers : c'.servers = c.servers)
    (hips : c'.publicIPs = c.publicIPs) :
    bastionUp o' c' = bastionUp o c := by
  rw [bastionUp, bastionUp, bastionTags_congr htags, serversOf_congr hservers, publicIPsOf, hips]
  rfl

theorem work_congr (h : SameRequest o o') (hstatus : o'.status.bastion = o.status.bastion) :
    work hash o' c = work hash o c := by
  have hbastion : bastionWork hash o' c = bastionWork hash o c :=
    bastionWork_congr h.tags (by rw [h.spec]) hstatus fun _ _ => rfl
  rw [work, work, hbastion, balancerWork, balancerWork, h.tags, h.spec]

theorem up_congr (h : SameRequest o o') : up o' c = up o c := by
  rw [up, up, bastionUp_congr h.tags rfl rfl, h.tags]

theorem Progresses.congr {o₁ o₂ : StackitCluster} (h : Progresses hash o c o' c')
    (hfrom : SameRequest o o₁) (hfrom' : o₁.status.bastion = o.status.bastion)
    (hto : SameRequest o' o₂) (hto' : o₂.status = o'.status) :
    Progresses hash o₁ c o₂ c' := by
  have hbefore : work hash o₁ c = work hash o c := work_congr hfrom hfrom'
  have hafter : work hash o₂ c' = work hash o' c' := work_congr hto (by rw [hto'])
  cases h with
  | ready isReady done => exact .ready (by rw [hto', isReady]) (hafter.trans done)
  | advanced less => exact .advanced (by rw [hbefore, hafter]; exact less)
  | pending down kept =>
    exact .pending ((up_congr hfrom).trans down) (by rw [hbefore, hafter]; exact kept)

theorem Progresses.le (h : Progresses hash o c o' c') : work hash o' c' ≤ work hash o c := by
  cases h with
  | ready _ done => omega
  | advanced less => omega
  | pending _ kept => exact kept

theorem Progresses.of_up (h : Progresses hash o c o' c') (hup : up o c = true) :
    o'.status.ready = true ∧ work hash o' c' = 0 ∨ work hash o' c' < work hash o c := by
  cases h with
  | ready isReady done => exact .inl ⟨isReady, done⟩
  | advanced less => exact .inr less
  | pending down _ =>
    rw [hup] at down
    cases down

theorem bastionWork_of_same {q : Pass StackitCluster Session} (h : SameBastion p q) :
    bastionWork hash q.obj q.cloud.cloud = bastionWork hash p.obj p.cloud.cloud :=
  bastionWork_congr h.tags h.bastionSpec h.bastionStatus h.resources

theorem Progresses.of_waits {q : Pass StackitCluster Session} (hsame : SameBastion p q)
    (henabled : p.obj.spec.apiServerLoadBalancerEnabled = true)
    (h : Waits p.obj.tags p.cloud.cloud q.cloud.cloud) :
    Progresses hash p.obj p.cloud.cloud q.obj q.cloud.cloud := by
  have hbastion : bastionWork hash q.obj q.cloud.cloud = bastionWork hash p.obj p.cloud.cloud :=
    bastionWork_of_same hsame
  cases h with
  | made before after =>
    have hafter : balancerWork q.obj q.cloud.cloud = 0 :=
      balancerWork_there (by rw [hsame.tags]; exact after)
    have hbefore : balancerWork p.obj p.cloud.cloud = 1 := by
      rw [balancerWork, henabled, before]
      rfl
    refine .advanced ?_
    rw [work, work, hbastion, hafter, hbefore]
    omega
  | unaddressed l this address same =>
    have hafter : balancerWork q.obj q.cloud.cloud = 0 :=
      balancerWork_there (by rw [hsame.tags, same]; simp)
    refine .pending ?_ ?_
    · rw [up, this]
      simp [address]
    · rw [work, work, hbastion, hafter]
      omega

theorem Progresses.of_bastionGoes {q₁ q : Pass StackitCluster Session} {ready : Bool}
    (hsame : SameBastion p q₁) (honly : OnlyInfra p.cloud.cloud q₁.cloud.cloud)
    (hendpoint : EndpointSettled env q₁.obj q₁.cloud.cloud) (hinfra : SameInfrastructure q₁ q)
    (h : BastionGoes hash q₁.obj q₁.cloud.cloud ready q.obj q.cloud.cloud)
    (hready : ready = true → q.obj.status.ready = true) :
    Progresses hash p.obj p.cloud.cloud q.obj q.cloud.cloud := by
  have hbefore : bastionWork hash q₁.obj q₁.cloud.cloud = bastionWork hash p.obj p.cloud.cloud :=
    bastionWork_of_same hsame
  have hbalancer : balancerWork q.obj q.cloud.cloud = 0 := by
    rw [← balancerWork_settled hendpoint, balancerWork, balancerWork, StackitCluster.tags,
      StackitCluster.tags, hinfra.spec, hinfra.metadata, loadBalancersOf, loadBalancersOf,
      hinfra.cloud.loadBalancers]
  cases h with
  | ready done => exact .ready (hready rfl) (by rw [work, hbalancer, done])
  | advanced less =>
    refine .advanced ?_
    rw [work, work, hbalancer, ← hbefore]
    omega
  | pending down done =>
    refine .pending ?_ (by rw [work, hbalancer, done]; exact Nat.zero_le _)
    have hdown : bastionUp p.obj p.cloud.cloud = false := by
      rw [← down]
      exact (bastionUp_congr hsame.tags (by rw [honly.frame]) (by rw [honly.frame])).symm
    rw [up, hdown, Bool.and_false]

theorem wp_reconcileFinalized_progresses (hs : Answered p.cloud) (hT : DistinctRewrites m.tags)
    (h : Definite m p) (hsrc : SourceOk env.source p.obj)
    (hclient : buildCloudClient env.source p.obj = .ok sdkClient)
    (hp : Provided hash env p.obj p.cloud.cloud) :
    wp (reconcileFinalized env) (fun _ q => q.stored = p.stored ∧ q.patches = p.patches ∧
      Progresses hash p.obj p.cloud.cloud q.obj q.cloud.cloud) p := by
  have hid : ClusterIdentity.of p.obj = m := h.steady.obj.identity
  have hT' : DistinctRewrites p.obj.tags := by
    subst hid
    exact hT
  have hone : Sole (.of p.obj) p.cloud.cloud := by
    rw [hid]
    exact h.sole
  have hnames : ∀ name ∈ taggedLBs p.obj.tags p.cloud.cloud,
      name = p.obj.metadata.name ++ "-apiserver" := by
    subst hid
    exact h.steady.cloud.loadBalancer
  have hgoes := wp_reconcileInfrastructure_goes hs hT' hone hclient hnames hp
  refine wp_reconcileFinalized
    (((hgoes.and (sameBastion_reconcileInfrastructure hsrc.sdkAny)).and
      ((reconcileInfrastructure_settles hsrc.sdk hs hp.networks hT').and
        (definite_reconcileInfrastructure hT h hsrc.sdkAny))).imp ?_)
  rintro r q₁ ⟨⟨hgoes, hsame, -⟩, hsettles, h₁⟩
  rcases hgoes with ⟨client, rfl⟩ | ⟨⟨result, rfl⟩, henabled, hwaits⟩
  · obtain ⟨rfl, -, hs₁, honly, hsettled⟩ := hsettles client rfl
    have hid₁ : ClusterIdentity.of q₁.obj = m := h₁.steady.obj.identity
    subst hid₁
    have hbastion : BastionProvided hash env q₁.obj q₁.cloud.cloud :=
      hp.bastion.congr hsame.bastionSpec (by rw [hsame.metadata]) (by rw [honly.frame])
    rw [infrastructureEnd_inr]
    refine ((wp_finishWithBastion_goes hs₁ h₁.sole (fun k _ => h₁.steady.cloud.bastionNamed k)
      hsettled.network.named
      hbastion).and ((sameInfrastructure_finishWithBastion env).wp q₁)).imp ?_
    rintro r q ⟨⟨ready, hgoes, hready⟩, hinfra⟩
    exact ⟨hinfra.stored.trans hsame.stored, hinfra.patches.trans hsame.patches,
      .of_bastionGoes hsame honly hsettled.endpoint hinfra hgoes hready⟩
  · exact ⟨hsame.stored, hsame.patches, .of_waits hsame henabled hwaits⟩

/-- The finalizer is there, or the patch for it is applied. -/
theorem wp_reconcileNormal_applied
    {Q : Except GoError Result → Pass StackitCluster Session → Prop} (hpatches : p.patches = [])
    (h : ∀ stored, stored = p.stored ∨ stored = Pass.deliver {} (withFinalizer p.obj) p.stored →
      wp (reconcileFinalized env) Q
        { p with obj := withFinalizer p.obj, stored, patches := [] }) :
    wp (reconcileNormal env) Q p := by
  obtain ⟨obj, stored, patches, cloud⟩ := p
  obtain rfl : patches = [] := hpatches
  refine wp_reconcileNormal (fun hhas => ?_) (fun _ hfailed => by cases hfailed)
    fun _ _ => h _ (.inr rfl)
  have hsame : withFinalizer obj = obj := by
    rw [withFinalizer, addFinalizer]
    exact congrArg (fun metadata => { obj with metadata }) (if_pos hhas)
  have hq := h stored (.inl rfl)
  rw [hsame] at hq
  exact hq

variable (hash) in
theorem wp_reconcileNormal_progresses (hpatches : p.patches = []) (hs : Answered p.cloud)
    (hT : DistinctRewrites m.tags) (h : Definite m p) (hsrc : SourceOk env.source p.obj)
    (hclient : buildCloudClient env.source p.obj = .ok sdkClient)
    (hp : Provided hash env p.obj p.cloud.cloud) :
    wp (reconcileNormal env)
      (fun _ q => q.patches = [] ∧ q.stored.metadata.deleting = p.stored.metadata.deleting ∧
        Definite m q ∧
        Progresses hash p.obj p.cloud.cloud q.obj q.cloud.cloud) p := by
  have hkept : Kept m (withFinalizer p.obj) := h.steady.obj.congr (by simp) rfl
  have hrequest : SameRequest p.obj (withFinalizer p.obj) :=
    ⟨rfl, by simp [withFinalizer], by simp [withFinalizer]⟩
  have hclient' : buildCloudClient env.source (withFinalizer p.obj) = .ok sdkClient := by
    rw [← hclient, buildCloudClient, buildCloudClient, credentialsSecretKey_withFinalizer]
    rfl
  refine wp_reconcileNormal_applied hpatches fun stored hstored => ?_
  have hstored' : Kept m stored ∧ stored.metadata.deleting = p.stored.metadata.deleting := by
    rcases hstored with rfl | rfl
    · exact ⟨h.steady.stored, rfl⟩
    · exact ⟨hkept.deliver h.steady.stored {}, rfl⟩
  have hdef : Definite m { p with obj := withFinalizer p.obj, stored, patches := [] } :=
    ⟨⟨hkept, hstored'.1, h.steady.cloud⟩, h.sole⟩
  have hsrc' : SourceOk env.source (withFinalizer p.obj) := hsrc.congr (by simp)
  refine ((wp_reconcileFinalized_progresses
    (p := { p with obj := withFinalizer p.obj, stored, patches := [] }) hs hT hdef hsrc'
    hclient' (hp.congr hrequest)).and (definite_reconcileFinalized hT hdef hsrc.sdkAny)).imp ?_
  rintro r q ⟨⟨hq, hnone, hprogress⟩, hdef'⟩
  refine ⟨hnone, by rw [hq]; exact hstored'.2, hdef', ?_⟩
  exact hprogress.congr ⟨rfl, hrequest.name.symm, hrequest.namespace'.symm⟩ rfl ⟨rfl, rfl, rfl⟩ rfl

end ClusterReconciler

namespace ClusterWorld
variable {w : ClusterWorld} {as bs : List ClusterAction} {answers : ClusterReconciler.Answers}
  {env : ClusterReconciler.Env Session} {cluster : Cluster}

open ClusterReconciler in
theorem Attended.pass (orders : List MapOrder) (hT : DistinctRewrites m.tags) (h : Definite m w)
    (hp : Attended w answers env cluster) (hneeds : Provided hash env w.stored w.cloud)
    (halive : w.stored.metadata.deleting = false) :
    wp (reconcile answers env) (fun _ q => q.stored.metadata.deleting = false ∧
      Progresses hash w.stored w.cloud q.stored q.cloud.cloud) (w.begin [] [] orders) := by
  have hgone : ObjectMeta.gone w.stored.metadata = false := by
    rw [ObjectMeta.gone, halive, Bool.false_and]
  have hpaused : reconciliationPaused (some cluster) (w.begin [] [] orders).stored.metadata =
      none := hp.unpaused
  have halive' : (w.begin [] [] orders).stored.metadata.deleting = false := halive
  refine wp_reconcile_applied hgone hp.object hp.owner hp.helper ?_
  refine wp_reconcileScope (fun hbad => absurd hpaused hbad)
    (fun _ hdel => by cases halive'.symm.trans hdel) fun _ _ => ?_
  refine (wp_reconcileNormal_progresses hash ?patches ?answered hT ?definite ?source ?client
    ?needs).imp ?_
  case patches => exact rfl
  case answered => exact rfl
  case definite =>
    exact ⟨⟨h.accounted.stored.congr rfl rfl, h.accounted.stored, h.accounted.cloud⟩, h.sole⟩
  case source => exact hp.source.congr rfl
  case client => exact hp.client
  case needs => exact hneeds.congr ⟨rfl, rfl, rfl⟩
  rintro r q ⟨hpatches, hdel, hdef, hprogress⟩
  have hid : ClusterIdentity.of q.stored = ClusterIdentity.of q.obj :=
    hdef.steady.stored.identity.trans hdef.steady.obj.identity.symm
  refine ⟨hpatches, hdel.trans halive, hprogress.congr ⟨rfl, rfl, rfl⟩ rfl ⟨rfl, ?_, ?_⟩ rfl⟩
  · exact congrArg ClusterIdentity.name hid
  · exact congrArg ClusterIdentity.namespace' hid

/-- The load balancer and the bastion stay where they are. -/
structure Stay (m : ClusterIdentity) (c c' : Cloud) : Prop where
  loadBalancer : taggedLBs m.tags c' = taggedLBs m.tags c
  bastion : ∀ k, IsBastionKind k → tagged k m.bastionTags c' = tagged k m.bastionTags c

open ClusterReconciler in
theorem Stay.work_eq (h : Stay (.of o) c c') : work hash o c' = work hash o c := by
  have hserver : tagged .server (bastionTags o) c' = tagged .server (bastionTags o) c :=
    h.bastion .server trivial
  have hip : tagged .publicIP (bastionTags o) c' = tagged .publicIP (bastionTags o) c :=
    h.bastion .publicIP trivial
  have hbalancer : (loadBalancersOf o.tags c').isEmpty = (loadBalancersOf o.tags c).isEmpty := by
    have hlbs : taggedLBs o.tags c' = taggedLBs o.tags c := h.loadBalancer
    rw [← map_loadBalancersOf, ← map_loadBalancersOf] at hlbs
    rw [← List.isEmpty_map, hlbs, List.isEmpty_map]
  rw [work, work, balancerWork, balancerWork, bastionWork, bastionWork, hserver, hip, hbalancer]

/-- What happens while the spec stays as it is and nothing fails: passes that are given all they
need, and changes of the cloud that take nothing away. -/
def Favourable (hash : String) (m : ClusterIdentity) (w : ClusterWorld) : ClusterAction → Prop
  | .reconcile answers env patches outcomes _ => (patches = [] ∧ outcomes = []) ∧
    (∃ cluster, Attended w answers env cluster) ∧
    ClusterReconciler.Provided hash env w.stored w.cloud
  | .cloudEvolves change => Tended m w (.cloudEvolves change) ∧ Stay m w.cloud (change w.cloud)
  | .requestDeletion | .updateSpec _ => False

/-- A pass that finds everything up. -/
def passUp (w : ClusterWorld) : ClusterAction → Bool
  | .reconcile .. => ClusterReconciler.up w.stored w.cloud
  | .requestDeletion | .updateSpec _ | .cloudEvolves _ => false

/-- The invariant of a cluster that is not being deleted. -/
structure Alive (m : ClusterIdentity) (w : ClusterWorld) : Prop extends Definite m w where
  alive : w.stored.metadata.deleting = false

open ClusterReconciler in
theorem Alive.step {a : ClusterAction} (hT : DistinctRewrites m.tags) (h : Alive m w)
    (ha : Favourable hash m w a) :
    Alive m (w.step a) ∧ work hash (w.step a).stored (w.step a).cloud ≤ work hash w.stored w.cloud ∧
    (passUp w a = true → work hash (w.step a).stored (w.step a).cloud ≤ work hash w.stored
      w.cloud - 1) := by
  cases a with
  | requestDeletion => exact ha.elim
  | updateSpec spec => exact ha.elim
  | cloudEvolves change =>
    have hid := h.accounted.stored.identity
    subst hid
    exact ⟨⟨h.toDefinite.step hT ha.1, h.alive⟩, ha.2.work_eq.le, fun hpass => by cases hpass⟩
  | reconcile answers env patches outcomes orders =>
    obtain ⟨⟨rfl, rfl⟩, ⟨cluster, hp⟩, hneeds⟩ := ha
    have hpass := hp.pass orders hT h.toDefinite hneeds h.alive
    set w₁ := w.step (.reconcile answers env [] [] orders)
    have hprogress : Progresses hash w.stored w.cloud w₁.stored w₁.cloud := hpass.2
    refine ⟨⟨h.toDefinite.step hT hp.source.sdkAny, hpass.1⟩, hprogress.le, fun hup => ?_⟩
    rcases hprogress.of_up hup with ⟨-, hdone⟩ | hless
    · omega
    · omega

def sampleBastionSpec : StackitClusterSpec := { sampleSpec with bastion := sampleBastion }

/-- What the passes of `samplePass` need for the bastion `sampleBastion`. -/
def SampleNeeds (w : ClusterWorld) : Prop :=
  (reconciliationPaused (some sampleOwner) w.stored.metadata = none ∧
    w.stored.spec.projectID = sampleUUID) ∧
  (w.stored.spec.networkID = "" ∧ ∀ n ∈ w.cloud.networks, n.id ≠ "") ∧
  (w.stored.spec.apiServerLoadBalancerEnabled = false ∧
    w.stored.spec.controlPlaneEndpoint.host ≠ "" ∧
    w.cloud.loadBalancers.isEmpty = true) ∧
  w.stored.spec.bastion = sampleBastion ∧ (w.cloud.publicIPs.map (·.id)).Nodup

instance (w : ClusterWorld) : Decidable (SampleNeeds w) := by
  unfold SampleNeeds
  infer_instance

theorem sample_favourable (h : SampleNeeds w) :
    Favourable "" m w (.reconcile sampleFound sampleEnv [] [] []) := by
  obtain ⟨⟨hpaused, hproject⟩, ⟨hmanaged, hnetworks⟩, ⟨hexternal, hhost, hnone⟩, hbastion, hips⟩ :=
    h
  refine ⟨⟨rfl, rfl⟩, ⟨sampleOwner, sample_attended hpaused hproject⟩, hnetworks, fun hne =>
    absurd hmanaged hne, ?_, ?_⟩
  · refine ⟨fun _ => hhost, fun henabled => ?_, fun l hl => ?_⟩
    · rw [hexternal] at henabled
      cases henabled
    · rw [List.isEmpty_iff.1 hnone] at hl
      cases hl
  · refine ⟨fun _ => ?_, fun _ => ⟨"", ?_, rfl⟩, hips⟩
    · rw [hbastion]
      decide
    · rw [ClusterReconciler.resolveBastionCloudInit, hbastion]
      rfl

/-- Every server comes up, and every address is assigned. -/
def bringUp (c : Cloud) : Cloud :=
  { c with
    servers := c.servers.map fun x => { x with status := "ACTIVE" }
    publicIPs := c.publicIPs.map fun x => { x with ip := "192.0.2.1" } }

theorem labelled_bringUp (k : Kind) (c : Cloud) : labelled k (bringUp c) = labelled k c := by
  cases k <;> simp [labelled, bringUp, Function.comp_def]

theorem bringUp_favourable (hnodes : (tagged .securityGroup m.nodeSSHTags w.cloud).length ≤ 1) :
    Favourable hash m w (.cloudEvolves bringUp) := by
  have htagged : ∀ k T, tagged k T (bringUp w.cloud) = tagged k T w.cloud := fun k T => by
    rw [tagged, tagged, labelled_bringUp]
  have hshrinks : Shrinks w.cloud (bringUp w.cloud) := fun k => by
    rw [labelled_bringUp]
  refine ⟨⟨.of_shrinks hshrinks, ?_⟩, rfl, fun k _ => htagged k _⟩
  rw [htagged]
  exact hnodes

/-- The server of the bastion is made by a request that is never answered, and the status is
lost. -/
def lostServer : ClusterAction :=
  samplePass [{}, { status := .failed }] (List.replicate 8 .answered ++ [.failedAfter .timeout])

/-- The bastion gets its address, comes up and is seen. -/
def sampleComesUp : List ClusterAction :=
  [samplePass [] [], .cloudEvolves bringUp, samplePass [] [], samplePass [] [], samplePass [] []]

end ClusterWorld

end Capstk
