import Capstk.Lib.Sha256
import Capstk.Proofs.BastionDisabled
import Capstk.Proofs.Retry
import Capstk.Proofs.SetReady

/-!
# What a ready cluster has

`SetReady` is reached with an endpoint, a network and failure domains, and no later write of a pass
takes one of them away without taking `ready` with it. All of them are part of the status, which is
patched as a whole, so this survives lost patches. Of the client only the network calls matter: a
network that they answer with has an ID.
-/

namespace Capstk

open Prog

/-- What machines rely on once the cluster is ready; `N` is what is known of the IDs of networks. -/
structure StackitClusterStatus.Usable (N : String → Prop) (st : StackitClusterStatus) : Prop where
  endpoint : st.apiServerEndpoint.host ≠ ""
  network : N st.network.id
  failureDomains : st.failureDomains ≠ []

/-- The published zones are no metro zones. -/
def StackitClusterStatus.NoMetro (st : StackitClusterStatus) : Prop :=
  ∀ d ∈ st.failureDomains, ClusterReconciler.isMetroZone d.name = false

/-- What holds of a cluster at any time, also while it is being deleted. -/
structure StackitClusterStatus.Published (st : StackitClusterStatus) : Prop where
  zones : st.NoMetro
  ready : st.ready = true → st.failureDomains ≠ []

/-- The invariant of a cluster that is not being deleted. -/
structure StackitClusterStatus.Sound (N : String → Prop) (st : StackitClusterStatus) : Prop where
  zones : st.NoMetro
  ready : st.ready = true → st.Usable N

namespace ClusterReconciler
variable {σ : Type} {env : Env σ} {client : Client σ} {p : Pass StackitCluster σ}

/-! ### Failure domains -/

theorem stackitFailureDomains_ne_nil (region : String) : stackitFailureDomains region ≠ [] := by
  simp [stackitFailureDomains]

theorem isMetroZone_append (region : String) {c : Char} (hc : c ≠ 'm') :
    isMetroZone (region ++ String.ofList ['-', c]) = false := by
  simp only [isMetroZone, decide_eq_false_iff_not, String.toList_append, String.toList_ofList]
  rintro ⟨front, hfront⟩
  have hlast := congrArg List.getLast? hfront
  simp at hlast
  exact hc hlast.symm

theorem noMetro_stackitFailureDomains (region : String) :
    ∀ d ∈ stackitFailureDomains region, isMetroZone d.name = false := by
  intro d hd
  simp only [stackitFailureDomains, List.map_cons, List.map_nil, List.mem_cons, List.not_mem_nil,
    or_false] at hd
  rcases hd with rfl | rfl | rfl
  · exact isMetroZone_append region (c := '1') (by decide)
  · exact isMetroZone_append region (c := '2') (by decide)
  · exact isMetroZone_append region (c := '3') (by decide)

theorem failureDomainsFromZones_ne_nil (region : String) (zones : List String) :
    failureDomainsFromZones region zones ≠ [] := by
  unfold failureDomainsFromZones
  dsimp only
  split
  · exact stackitFailureDomains_ne_nil region
  · rename_i hne
    intro hnil
    have hlen := congrArg List.length hnil
    rw [List.length_insertionSort] at hlen
    exact hne (by simpa using hlen)

theorem noMetro_failureDomainsFromZones (region : String) (zones : List String) :
    ∀ d ∈ failureDomainsFromZones region zones, isMetroZone d.name = false := by
  unfold failureDomainsFromZones
  dsimp only
  split
  · exact noMetro_stackitFailureDomains region
  · intro d hd
    rw [(List.perm_insertionSort _ _).mem_iff] at hd
    obtain ⟨zone, hzone, rfl⟩ := List.mem_map.1 hd
    have hkept := (List.mem_filter.1 hzone).2
    show isMetroZone zone = false
    simpa using hkept

end ClusterReconciler

namespace StackitClusterStatus.Sound
variable {N : String → Prop} {st : StackitClusterStatus}

theorem unready (h : st.Sound N) : Sound N { st with ready := false } :=
  ⟨h.zones, fun hr => by cases hr⟩

theorem setNetwork (h : st.Sound N) {n : StackitNetworkStatus} (hn : N n.id) :
    Sound N { st with network := n } :=
  ⟨h.zones, fun hr => ⟨(h.ready hr).endpoint, hn, (h.ready hr).failureDomains⟩⟩

theorem setFailureDomains (h : st.Sound N) {domains : List FailureDomain} (hne : domains ≠ [])
    (hzones : ∀ d ∈ domains, ClusterReconciler.isMetroZone d.name = false) :
    Sound N { st with failureDomains := domains } :=
  ⟨hzones, fun hr => ⟨(h.ready hr).endpoint, (h.ready hr).network, hne⟩⟩

end StackitClusterStatus.Sound

namespace ClusterReconciler
variable {σ : Type} {env : Env σ} {client : Client σ} {p : Pass StackitCluster σ}
  {N : String → Prop} {I : σ → Prop}

/-- The client answers with networks whose IDs are in `N`, as long as `I` holds of the state behind
it. -/
structure NamesNetworks (N : String → Prop) (I : σ → Prop) (client : Client σ) : Prop where
  zones : Preserves I client.listAvailabilityZones
  get : ∀ id s, I s → wp (client.getNetwork id) (fun r t => I t ∧ ∀ n, r = .ok n → N n.id) s
  create : ∀ input s, I s → wp (client.createNetwork input) (fun r _ => ∀ n, r = .ok n → N n.id) s

theorem NamesNetworks.any (client : Client σ) :
    NamesNetworks (fun _ => True) (fun _ => True) client :=
  ⟨fun _ _ => trivial, fun _ _ _ => ⟨trivial, fun _ _ => trivial⟩, fun _ _ _ _ _ => trivial⟩

/-! ### The network -/

/-- The state after `ensureNetwork`. -/
structure Networked (N : String → Prop) (r : Except GoError (Result ⊕ Network))
    (q : Pass StackitCluster σ) : Prop where
  sound : q.obj.status.Sound N
  failureDomains : q.obj.status.failureDomains ≠ []
  network : ∀ n, r = .ok (.inr n) → N q.obj.status.network.id

theorem wp_ensureNetwork_networked (hc : NamesNetworks N I client) (hI : I p.cloud)
    (hs : p.obj.status.Sound N) (hfd : p.obj.status.failureDomains ≠ []) :
    wp (ensureNetwork client) (Networked N) p := by
  have hend : ∀ {managed reason r s}, (∀ n, r = .ok n → N n.id) →
      NetworkAnswer (Networked N) p managed reason r s := by
    rintro managed reason (err | n) s hn
    · exact fun r => ⟨hs.unready, hfd, fun n hr => absurd hr (map_inl_ne r n)⟩
    · exact ⟨hs.setNetwork (hn n rfl), hfd, fun _ _ => hn n rfl⟩
  refine wp_ensureNetwork (fun _ => (hc.get _ _ hI).imp fun _ _ h => hend h.2)
    (fun _ _ => (hc.get _ _ hI).imp fun _ _ h _ => hend h.2) fun _ s hmissing => ?_
  have hIs : I s := hmissing.keeps hI ((hc.get _ _ hI).imp fun _ _ h => h.1)
  exact (hc.create _ _ hIs).imp fun _ _ h => hend h

/-! ### The endpoint -/

/-- The state after `reconcileEndpoint`: a pass that goes on has all a ready cluster needs. -/
structure Prepared (N : String → Prop) (r : Except GoError (Option Result))
    (q : Pass StackitCluster σ) : Prop where
  sound : q.obj.status.Sound N
  usable : r = .ok none → q.obj.status.Usable N

theorem Prepared.stop {r : Except GoError (Option Result)} (hs : p.obj.status.Sound N)
    (hr : r ≠ .ok none) : Prepared N r p :=
  ⟨hs, fun h => absurd h hr⟩

theorem Prepared.go {r : Except GoError (Option Result)} (hz : p.obj.status.NoMetro)
    (hu : p.obj.status.Usable N) : Prepared N r p :=
  ⟨⟨hz, fun _ => hu⟩, fun _ => hu⟩

theorem wp_reconcileTargets_prepared (hs : p.obj.status.Sound N) (hnet : N p.obj.status.network.id)
    (hfd : p.obj.status.failureDomains ≠ []) {lb : LoadBalancer} (hip : lb.ip ≠ "")
    (targets : List LoadBalancerTargetInput) :
    wp (reconcileTargets client lb targets) (Prepared N) p := by
  -- the endpoint is set in any case, and the rest of the status stays
  have hend : ∀ (r : Except GoError (Option Result)) (q : Pass StackitCluster σ),
      q.obj.status = { p.obj.status with
        apiServerEndpoint := { host := lb.ip, port := defaultAPIServerPort } } →
      Prepared N r q := by
    intro r q hq
    refine .go ?_ ⟨?_, ?_, ?_⟩
    · rw [hq]; exact hs.zones
    · rw [hq]; exact hip
    · rw [hq]; exact hnet
    · rw [hq]; exact hfd
  have hstatus := congrArg StackitCluster.status (withEndpoint_eq lb p.obj)
  refine wp_reconcileTargets (fun _ => hend _ _ hstatus) fun _ => wp_of_forall fun r s => ?_
  cases r with
  | ok _ => exact hend _ _ hstatus
  | error err => exact hend _ _ rfl

theorem wp_reconcileEndpoint_prepared (hs : p.obj.status.Sound N) (hnet : N p.obj.status.network.id)
    (hfd : p.obj.status.failureDomains ≠ []) (network : Network) :
    wp (reconcileEndpoint env client network) (Prepared N) p := by
  refine wp_reconcileEndpoint (fun _ => ?_) (fun _ hhost => .go hs.zones ⟨hhost, hnet, hfd⟩)
    fun _ _ => .stop hs.unready (by simp)
  refine wp_reconcileLoadBalancer (fun _ _ => .stop hs (by simp)) fun machines _ =>
    wp_of_forall fun r s => ?_
  cases r with
  | error err => exact fun r => .stop hs.unready (map_some_ne r)
  | ok lb =>
    set q : Pass StackitCluster σ := { p with obj := p.obj.setLoadBalancerID lb.id, cloud := s }
    have hs' : q.obj.status.Sound N := ⟨hs.zones, fun hr => ⟨(hs.ready hr).endpoint, hnet, hfd⟩⟩
    exact ⟨fun _ => .stop hs'.unready (by simp), fun hip =>
      wp_reconcileTargets_prepared (p := q) hs' hnet hfd hip _⟩

theorem wp_reconcileResources_prepared (hc : NamesNetworks N I client) (hI : I p.cloud)
    (hs : p.obj.status.Sound N) :
    wp (reconcileResources env client) (Prepared N) p := by
  have hzones : wp client.listAvailabilityZones (fun _ t => I t) p.cloud := hc.zones p.cloud hI
  refine wp_reconcileResources (hzones.imp fun r s hIs => ?_)
  cases r with
  | error err => exact fun r => .stop hs.unready (map_some_ne r)
  | ok zones =>
    have hne := failureDomainsFromZones_ne_nil p.obj.spec.region zones
    have hs' := hs.setFailureDomains hne (noMetro_failureDomainsFromZones _ _)
    rw [zonesAnswer_ok]
    refine wp.imp (wp_ensureNetwork_networked hc hIs hs' hne) fun r q hq => ?_
    rcases r with e | result | network
    · exact .stop hq.sound (by simp)
    · exact .stop hq.sound (by simp)
    · set q' : Pass StackitCluster σ := { q with
        obj := q.obj.setConditions .true "Available" "" [clusterNetworkReadyCondition] }
      exact wp_reconcileEndpoint_prepared (p := q') hq.sound (hq.network network rfl)
        hq.failureDomains network

/-! ### `reconcileNormal` -/

/-- The network calls of every client that the source hands out answer with IDs. -/
def Named (N : String → Prop) (I : σ → Prop) (src : ClientSource σ) : Prop :=
  ∀ sc client, buildCloudClient src sc = .ok client → NamesNetworks N I client

/-- A pass goes on to the bastion with all a ready cluster needs. -/
theorem wp_reconcileInfrastructure_sound (hsrc : Named N I env.source) (hI : I p.cloud)
    (hs : p.obj.status.Sound N) :
    wp (reconcileInfrastructure env)
      (fun r q => q.obj.status.Sound N ∧ ∀ client, r = .ok (.inr client) →
        q.obj.status.Usable N) p := by
  have hs' : (withStaticZones p.obj).status.Sound N :=
    hs.setFailureDomains (stackitFailureDomains_ne_nil _) (noMetro_stackitFailureDomains _)
  refine wp_reconcileInfrastructure
    (fun _ _ r => ⟨hs'.unready, fun client hr => absurd hr (map_inl_ne r client)⟩)
    fun client hbuilt => ?_
  refine wp.imp (wp_reconcileResources_prepared (hsrc _ client hbuilt) hI hs') fun r q hq => ?_
  exact ⟨hq.sound, fun _ hr => hq.usable (map_handOn_eq.1 hr).1⟩

theorem bastionFrame_usable (client : Client σ) : BastionFrame client fun p q =>
    p.obj.status.NoMetro ∧ p.obj.status.Usable N → q.obj.status.NoMetro ∧
      q.obj.status.Usable N where
  toClosed := Closed.imp _
  write hf p h := by
    cases hf with
    | condition st reason message => exact h
    | notReady reason message => exact ⟨h.1, h.2.endpoint, h.2.network, h.2.failureDomains⟩
    | status b hash => exact ⟨h.1, h.2.endpoint, h.2.network, h.2.failureDomains⟩
    | cleared => exact ⟨h.1, h.2.endpoint, h.2.network, h.2.failureDomains⟩
    | ready => exact ⟨h.1, h.2.endpoint, h.2.network, h.2.failureDomains⟩
  deleteNodeSSHAccess _ := ⟨fun _ h => h, fun _ h => h⟩
  deleteBastion _ _ := ⟨fun _ h => h, fun _ h => h⟩
  ensureBastion _ := fun _ h => h

theorem wp_reconcileFinalized_sound (hsrc : Named N I env.source) (hI : I p.cloud)
    (hs : p.obj.status.Sound N) :
    wp (reconcileFinalized env) (fun _ q => q.obj.status.Sound N) p := by
  refine wp_reconcileFinalized
    ((wp_reconcileInfrastructure_sound hsrc hI hs).imp fun r q hq => ?_)
  rcases r with e | result | client
  · exact hq.1
  · exact hq.1
  · have hend :=
      (bastionFrame_usable client).keeps_finishWithBastion env q ⟨hq.1.zones, hq.2 client rfl⟩
    exact ⟨hend.1, fun _ => hend.2⟩

/-! ### The object between passes -/

theorem unpatched_reconcileFinalized : Keeps Unpatched (reconcileFinalized env) := by
  have hR := Unpatched.closed (O := StackitCluster) (σ := σ)
  have hresources : ∀ client, ResourceFrame env client Unpatched := fun client =>
    { toClosed := hR
      write := fun _ _ => ⟨rfl, rfl⟩
      zones := unpatched_call _
      network := keeps_ensureNetwork hR (fun _ _ => ⟨rfl, rfl⟩) (fun _ _ _ _ => ⟨rfl, rfl⟩)
        (fun _ => unpatched_call _) fun p _ => unpatched_call _ p
      loadBalancer := fun _ _ _ _ => ⟨⟨rfl, rfl⟩, fun _ _ => ⟨rfl, rfl⟩⟩
      targets := fun _ _ _ _ => unpatched_call _ }
  have hbastion : ∀ client : Client σ, BastionFrame client Unpatched := fun client =>
    { toClosed := hR
      write := fun _ _ => ⟨rfl, rfl⟩
      deleteNodeSSHAccess := fun _ => ⟨unpatched_call _, unpatched_call _⟩
      deleteBastion := fun _ _ => ⟨unpatched_call _, unpatched_call _⟩
      ensureBastion := fun _ => unpatched_call _ }
  exact keeps_reconcileFinalized (C := fun _ => True) hR (fun _ _ _ => trivial)
    (fun client _ => hresources client) (fun _ _ => ⟨rfl, rfl⟩) fun client _ => hbastion client

/-- The invariant of the status, of a cluster that is live or being deleted. -/
structure StatusOk (N : String → Prop) (live : Prop) (st : StackitClusterStatus) : Prop where
  published : st.Published
  sound : live → st.Sound N

theorem StatusOk.of_sound {live : Prop} {st : StackitClusterStatus} (h : st.Sound N) :
    StatusOk N live st :=
  ⟨⟨h.zones, fun hr => (h.ready hr).failureDomains⟩, fun _ => h⟩

theorem StatusOk.deliver {live : Prop} {o o' : StackitCluster} (h : StatusOk N live o.status)
    (h' : StatusOk N live o'.status) (d : PatchOutcome) :
    StatusOk N live (Pass.deliver d o o').status := by
  unfold Pass.deliver
  split <;> split <;> assumption

theorem published_deleteWrite {f : StackitCluster → StackitCluster} (hf : DeleteWrite f)
    (p : Pass StackitCluster σ) (h : p.obj.status.Published) : (f p.obj).status.Published := by
  cases hf with
  | condition reason message type hready => exact h
  | loadBalancer => exact ⟨h.zones, h.ready⟩
  | bastion => exact ⟨h.zones, h.ready⟩
  | finalizer => exact h

theorem deleteFrame_published (client : Client σ) : DeleteFrame client fun p q =>
    p.obj.status.Published → q.obj.status.Published where
  toClosed := Closed.imp _
  write := published_deleteWrite
  resolveLoadBalancerID _ := fun _ h => h
  deleteLoadBalancer _ := fun _ h => h
  deleteNodeSSHAccess _ := fun _ h => h
  deleteBastion _ _ := fun _ h => h
  network :=
    keeps_deleteManagedNetwork (Closed.imp _) (fun _ _ h => ⟨h.zones, h.ready⟩) (fun _ _ h => h)
    (fun _ _ h => h) fun _ _ h => h

theorem published_reconcileDelete (cluster : Cluster) :
    Preserves (fun p : Pass StackitCluster σ => p.obj.status.Published)
      (reconcileDelete env cluster) :=
  keeps_reconcileDelete (C := fun _ => True) (Closed.imp _) published_deleteWrite
    (fun _ _ _ => trivial)
    (fun client _ => deleteFrame_published client) cluster

/-- One pass keeps the invariant of the stored object, whatever fails and whichever patches are
lost. -/
theorem wp_reconcile_statusOk (answers : Answers) (hsrc : Named N I env.source) (hI : I p.cloud)
    (hp : StatusOk N (p.stored.metadata.deleting = false) p.stored.status) :
    wp (reconcile answers env) (fun _ q => q.stored.metadata.deleting = p.stored.metadata.deleting ∧
      StatusOk N (p.stored.metadata.deleting = false) q.stored.status) p := by
  set live := p.stored.metadata.deleting = false with hlive
  refine wp_reconcile (fun _ _ => ⟨rfl, hp⟩) fun cluster _ => Pass.wp_withDeferredPatch ?_
  have hend :
      wp (reconcileScope env cluster)
      (fun _ q => q.stored.metadata.deleting = p.stored.metadata.deleting ∧
        StatusOk N live q.stored.status ∧ StatusOk N live q.obj.status) { p with obj :=
          p.stored } := by
    refine wp_reconcileScope (fun _ => ⟨rfl, hp, hp⟩) (fun _ hdeleting => ?delete)
      fun _ hnot => ?normal
    case delete =>
      set q₀ : Pass StackitCluster σ := { p with obj := withPaused cluster p.stored } with hq₀
      have hobj : wp (reconcileDelete env cluster) (fun _ q => q.obj.status.Published) q₀ :=
        published_reconcileDelete cluster q₀ hp.published
      refine ((finished_reconcileDelete env cluster q₀).and hobj).imp fun r q hq => ?_
      obtain ⟨⟨⟨hstored, -⟩, -⟩, hobj⟩ := hq
      rw [hstored]
      refine ⟨rfl, hp, hobj, fun hl => ?_⟩
      rw [hlive, hdeleting] at hl
      cases hl
    case normal =>
      have hrest : ∀ q : Pass StackitCluster σ, q.cloud = p.cloud → q.obj.status = p.stored.status →
          q.stored.metadata.deleting = p.stored.metadata.deleting →
          StatusOk N live q.stored.status →
          wp (reconcileFinalized env)
          (fun _ q => q.stored.metadata.deleting = p.stored.metadata.deleting ∧
            StatusOk N live q.stored.status ∧ StatusOk N live q.obj.status) q := by
        intro q hcloud hobj hdel hstored
        have hsound :=
          wp_reconcileFinalized_sound (p := q) hsrc (hcloud ▸ hI) (hobj ▸ hp.sound hnot)
        have hstill : wp (reconcileFinalized env) (fun _ q' => Unpatched q q') q :=
          unpatched_reconcileFinalized q
        refine (hsound.and hstill).imp fun r q' hq' => ?_
        rw [hq'.2.1]
        exact ⟨hdel, hstored, .of_sound hq'.1⟩
      set q₀ : Pass StackitCluster σ := { p with obj := withPaused cluster p.stored } with hq₀
      have hdel : (patchFinalizer q₀).stored.metadata.deleting = p.stored.metadata.deleting :=
        deleting_deliver _ (withFinalizer q₀.obj) p.stored
      have hst : StatusOk N live (patchFinalizer q₀).stored.status :=
        StatusOk.deliver (o := withFinalizer q₀.obj) hp hp _
      exact wp_reconcileNormal (fun _ => hrest q₀ rfl rfl rfl hp) (fun _ _ _ => ⟨hdel, hst, hp⟩)
        fun _ _ => hrest _ rfl rfl hdel hst
  refine hend.imp fun r q hq o r' _ _ => ?_
  exact ⟨(deleting_deliver o q.obj q.stored).trans hq.1, hq.2.2.deliver hq.2.1 o⟩

/-! ### Runs -/

/-- What can happen to the stored object: a pass, over whatever the cloud has become by then, a
deletion request, and any other edit of its metadata and spec. -/
inductive ObjectAction (σ : Type)
  | reconcile (answers : Answers) (env : Env σ) (patches : List PatchOutcome) (cloud : σ)
  | requestDeletion
  | edit (metadata : ObjectMeta) (spec : StackitClusterSpec)

def objectStep (sc : StackitCluster) : ObjectAction σ → StackitCluster
  | .reconcile answers env patches cloud =>
    ((reconcile answers env).after { obj := sc, stored := sc, patches, cloud }).stored
  | .requestDeletion => { sc with metadata := { sc.metadata with deleting := true } }
  | .edit metadata spec =>
    { sc with metadata := { metadata with deleting := sc.metadata.deleting }, spec }

/-- The networks the cloud answers with have IDs. -/
def Answerable (N : String → Prop) (I : σ → Prop) (_ : StackitCluster) : ObjectAction σ → Prop
  | .reconcile _ env _ cloud => Named N I env.source ∧ I cloud
  | .requestDeletion => True
  | .edit _ _ => True

/-- The invariant of the stored object, along every run from its creation. -/
theorem statusOk_of_run {sc : StackitCluster} (hnew : sc.status = {})
    {actions : List (ObjectAction σ)} (h : Runs.Meets objectStep (Answerable N I) sc actions) :
    let sc' := Runs.run objectStep sc actions
    StatusOk N (sc'.metadata.deleting = false) sc'.status := by
  refine h.inv (I := fun sc => StatusOk N (sc.metadata.deleting = false) sc.status) ?_
    fun sc a hsc ha => ?_
  · rw [hnew]
    exact .of_sound ⟨fun d hd => (by cases hd), fun hr => (by cases hr)⟩
  · cases a with
    | reconcile answers env patches cloud =>
      obtain ⟨hdel, hst⟩ := wp_iff.1 (wp_reconcile_statusOk answers
        (p := { obj := sc, stored := sc, patches, cloud }) ha.1 ha.2 hsc)
      show StatusOk N (((reconcile answers env).after _).stored.metadata.deleting = false) _
      rw [hdel]
      exact hst
    | requestDeletion => exact ⟨hsc.published, fun hlive => (by cases hlive)⟩
    | edit metadata spec => exact hsc

theorem published_of_run {sc : StackitCluster} (hnew : sc.status = {})
    (actions : List (ObjectAction σ)) :
    (Runs.run objectStep sc actions).status.Published := by
  have hany : ∀ (sc : StackitCluster) (a : ObjectAction σ),
      Answerable (fun _ => True) (fun _ => True) sc a := by
    intro sc a
    cases a with
    | reconcile answers env patches cloud => exact ⟨fun _ client _ => .any client, trivial⟩
    | requestDeletion => trivial
    | edit metadata spec => trivial
  exact (statusOk_of_run hnew (Runs.meets_of_forall hany sc actions)).published

theorem networkID_ne_empty {sc : StackitCluster} (h : sc.status.network.id ≠ "") :
    sc.networkID ≠ "" := by
  unfold StackitCluster.networkID
  split
  · assumption
  · exact h

/-! ### The SDK client -/

/-- Every network has an ID. -/
def NetworksNamed (s : Session) : Prop := ∀ n ∈ s.cloud.networks, n.id ≠ ""

theorem NetworksNamed.tagged {T : StringMap} {s : Session} {id : String} (hs : NetworksNamed s)
    (hid : id ∈ tagged .network T s.cloud) : id ≠ "" := by
  obtain ⟨labels, hmem, _⟩ := mem_tagged.1 hid
  obtain ⟨n, hn, heq⟩ := List.mem_map.1 hmem
  cases heq
  exact hs n hn

theorem namesNetworks_sdkClient : NamesNetworks (· ≠ "") NetworksNamed sdkClient where
  zones s hs := by
    show wp SDKClient.listAvailabilityZones (fun _ t => NetworksNamed t) s
    refine wp_request fun r c t hr ht => ?_
    rw [NetworksNamed, ht.cloud, hr.cloud_eq fun _ => rfl]
    exact hs
  get id s hs := by
    show wp (SDKClient.getNetwork id) _ s
    unfold SDKClient.getNetwork
    rw [wp_bind]
    have hread : ReadOnly (Cloud.getNetwork id) :=
      fun c => by unfold Cloud.getNetwork; split <;> rfl
    refine wp_request fun r c t hr ht => ?_
    have hkept : NetworksNamed t := by
      rw [NetworksNamed, ht.cloud, hr.cloud_eq hread]
      exact hs
    cases r with
    | error e => exact ⟨hkept, fun n h => by cases h⟩
    | ok network =>
      refine ⟨hkept, fun n hn => ?_⟩
      cases hn
      have hfound := hr.ok
      unfold Cloud.getNetwork at hfound
      split at hfound
      · rename_i found hfind
        cases hfound
        exact hs _ (List.mem_of_find?_eq_some hfind)
      · cases hfound
  create input s hs := by
    show wp (SDKClient.createNetwork input) _ s
    have hcreate : ∀ s : Session, wp (do
        let network ← request "create network"
          (.createNetwork input.name input.tags input.ipv4Prefix)
          (Cloud.createNetwork input.name input.tags input.ipv4Prefix)
        pure (SDKClient.networkFromSDK network) : Call Session Network) (fun r _ => ∀ n, r = .ok n →
          n.id ≠ "") s := by
      intro s
      rw [wp_bind]
      refine wp_request fun r c t hr ht => ?_
      cases r with
      | error e => exact fun n h => by cases h
      | ok network =>
        intro n hn
        cases hn
        have hmade := hr.ok
        cases hmade
        exact s.cloud.ids.nonempty _
    unfold SDKClient.createNetwork
    refine wp_ite (fun _ n h => by cases h) fun _ => wp_ite (fun _ => hcreate s) fun _ => ?_
    refine wp_existingOr_of (SDKClient.wp_findNetworkByTags input.tags s)
      (fun network t ⟨_, hone⟩ n hn => ?_)
      (fun _ t _ _ => hcreate t) fun _ _ _ _ n h => by cases h
    cases hn
    exact hs.tagged (hone ▸ List.mem_singleton_self network.id)

theorem named_connected : Named (· ≠ "") NetworksNamed ClientSource.connected := by
  intro sc client h
  rw [(SourceOk.connected sc).client h]
  exact namesNetworks_sdkClient

/-- **Ready clusters are usable.** After every run of passes with any failures and lost patches, a
cluster that is ready and not being deleted has an endpoint, a network and failure domains; and a
pass that reaches `SetReady` leaves all four conditions true. -/
theorem ready_cluster_usable {sc : StackitCluster} (hnew : sc.status = {})
    {actions : List (ObjectAction σ)}
    (h : Runs.Meets objectStep (Answerable (· ≠ "") I) sc actions) :
    let sc' := Runs.run objectStep sc actions
    (sc'.metadata.deleting = false → sc'.status.ready = true →
      sc'.status.apiServerEndpoint.host ≠ "" ∧ sc'.networkID ≠ "" ∧
      sc'.status.failureDomains ≠ []) ∧
    ∀ (env : Env σ) (p : Pass StackitCluster σ), reachesSetReady env p = true →
      ∀ t ∈ [clusterCredentialsReadyCondition, clusterNetworkReadyCondition,
        clusterLoadBalancerReadyCondition,
        clusterBastionReadyCondition],
      isStatusConditionTrue ((reconcileNormal env).after p).obj.conditions t = true := by
  intro sc'
  have hok := statusOk_of_run hnew h
  refine ⟨fun hlive hready => ?_, fun env p hreach t ht => ?_⟩
  · have husable := (hok.sound hlive).ready hready
    exact ⟨husable.endpoint, networkID_ne_empty husable.network, husable.failureDomains⟩
  · have hconds := conditions_of_reachesSetReady hreach
    simp only [List.mem_cons, List.not_mem_nil, or_false] at ht
    rcases ht with rfl | rfl | rfl | rfl
    · exact hconds.1.credentials
    · exact hconds.1.network
    · exact hconds.1.loadBalancer
    · exact hconds.2

/-- What the API server and the cloud answer in the sample passes. -/
abbrev sampleAnswers : Answers :=
  { getOwnerCluster := .ok (some { metadata := { name := "c", namespace' := "ns" } }) }

abbrev sampleEnv : Env Session where
  source := .connected
  getConfigMap _ := .error ⟨none, "not found"⟩
  machines := .ok []
  controlPlaneMachines := .ok []
  sha256Hex := Sha256.hex

abbrev sampleSession : Session := { cloud := { ids := .unary } }

/-- A first pass that loses its status, and a second one. -/
abbrev sampleActions : List (ObjectAction Session) :=
  [.reconcile sampleAnswers sampleEnv [{}, { status := .failed }] sampleSession,
    .reconcile sampleAnswers sampleEnv [] sampleSession]

abbrev sampleCluster : StackitCluster := (ClusterWorld.sample ClusterWorld.sampleSpec).stored

/-- The first pass over a cluster reaches `SetReady` and loses its status; the second makes the
cluster ready. -/
theorem ready_cluster_usable_secondPass :
    (reachesSetReady sampleEnv
      { obj := sampleCluster, stored := sampleCluster, cloud := sampleSession } = true ∧
      (Runs.run objectStep sampleCluster (sampleActions.take 1)).status.ready = false) ∧
    (Runs.run objectStep sampleCluster sampleActions).status.ready = true ∧
      (Runs.run objectStep sampleCluster sampleActions).status.apiServerEndpoint.host ≠ "" ∧
      (Runs.run objectStep sampleCluster sampleActions).networkID ≠ "" ∧
      (Runs.run objectStep sampleCluster sampleActions).status.failureDomains ≠ [] := by
  have hnamed : Named (· ≠ "") NetworksNamed sampleEnv.source ∧ NetworksNamed sampleSession :=
    ⟨named_connected, fun n hn => (by cases hn)⟩
  have hmeets : Runs.Meets objectStep (Answerable (· ≠ "") NetworksNamed)
      sampleCluster sampleActions := by
    simp only [Runs.Meets, Answerable]
    exact ⟨hnamed, hnamed, trivial⟩
  have hready : (Runs.run objectStep sampleCluster sampleActions).status.ready = true := by
    decide +kernel
  refine ⟨⟨by decide +kernel, by decide +kernel⟩, hready, ?_⟩
  exact (ready_cluster_usable rfl hmeets).1 (by decide +kernel) hready

end ClusterReconciler

end Capstk
