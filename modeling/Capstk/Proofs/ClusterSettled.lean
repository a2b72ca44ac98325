import Capstk.Proofs.ClusterFixpoint

/-!
# What a cluster pass that reached `SetReady` leaves

Every step of the pass either stops it or leaves its part of `Settled` behind: the network, the load
balancer or the endpoint of the user, and the bastion. A load balancer, a server or an address that
was only just created is not usable yet, so a pass that got to the end has found them.
-/

namespace Capstk

open Prog SDKClient

variable {c c' c'' : Cloud} {s : Session}

/-- The networks, the load balancers and the zones are the same. -/
structure SameInfra (c c' : Cloud) : Prop where
  networks : c'.networks = c.networks
  loadBalancers : c'.loadBalancers = c.loadBalancers
  zones : c'.zones = c.zones

theorem SameInfra.refl (c : Cloud) : SameInfra c c := ⟨rfl, rfl, rfl⟩

theorem SameInfra.trans (h : SameInfra c c') (h' : SameInfra c' c'') : SameInfra c c'' :=
  ⟨h'.networks.trans h.networks, h'.loadBalancers.trans h.loadBalancers, h'.zones.trans h.zones⟩

/-- Nothing that is done about a bastion touches them. -/
theorem bastionClosed_sameInfra : BastionClosed SameInfra where
  refl := .refl
  trans := .trans
  deleteServer id c := by unfold Cloud.deleteServer; split <;> exact ⟨rfl, rfl, rfl⟩
  deletePublicIP id c := by unfold Cloud.deletePublicIP; split <;> exact ⟨rfl, rfl, rfl⟩
  deleteSecurityGroup id c := by unfold Cloud.deleteSecurityGroup; split <;> exact ⟨rfl, rfl, rfl⟩
  removePublicIpFromServer s p c := by
    unfold Cloud.removePublicIpFromServer; split <;> exact ⟨rfl, rfl, rfl⟩
  removeSecurityGroupFromServer s g c := by
    unfold Cloud.removeSecurityGroupFromServer; split <;> exact ⟨rfl, rfl, rfl⟩
  deleteSecurityGroupRule g r c := by
    rw [(OnlyRules.deleteSecurityGroupRule g r c).frame]
    exact ⟨rfl, rfl, rfl⟩
  createServer p c := ⟨rfl, rfl, rfl⟩
  createPublicIP l c := ⟨rfl, rfl, rfl⟩
  createSecurityGroup n d l c := ⟨rfl, rfl, rfl⟩
  createSecurityGroupRule g p c := by
    rw [(OnlyRules.createSecurityGroupRule g p c).frame]
    exact ⟨rfl, rfl, rfl⟩
  addPublicIpToServer s p c := by
    rcases addPublicIpToServer_cases s p c with ⟨e, heffect⟩ | ⟨nicID, heffect, -⟩
    · rw [heffect]
      exact .refl c
    · rw [heffect]
      exact ⟨rfl, rfl, rfl⟩
  addSecurityGroupToServer s g c := by
    rw [add_frame]
    exact ⟨rfl, rfl, rfl⟩

/-- Nothing has changed but the networks and the load balancers. -/
structure OnlyInfra (c c' : Cloud) : Prop where
  issues : Issues c c'
  frame : c' = { c with
    networks := c'.networks
    loadBalancers := c'.loadBalancers
    loadBalancerServiceEnabled := c'.loadBalancerServiceEnabled
    issued := c'.issued }

theorem OnlyInfra.of_steps (h : OnlyNetworks c c') (h' : OnlyBalancers c' c'') :
    OnlyInfra c c'' := by
  refine ⟨h.issues.trans h'.issues, ?_⟩
  rw [h'.frame, h.frame]

theorem BastionIDs.onlyInfra (h : BastionIDs c) (hc : OnlyInfra c c') : BastionIDs c' := by
  refine ⟨h.publicIPs.sublist hc.issues ?_, fun g => (h.rules g).congr hc.issues ?_, ?_⟩
  · rw [hc.frame]
    exact .refl _
  · rw [hc.frame]
    rfl
  · rw [hc.frame]
    exact h.interfaces

namespace ClusterReconciler
variable {env : Env Session} {o : StackitCluster} {p : Pass StackitCluster Session}

/-! ### The network -/

theorem networkSettled_managed {c : Cloud} {id : String} (hspec : o.spec.networkID = "")
    (hne : id ≠ "") (hthere : NetworkThere id c) : NetworkSettled (o.setNetwork ⟨id, true⟩) c := by
  have hid : (o.setNetwork ⟨id, true⟩).networkID = id := if_neg (not_not.2 hspec)
  refine ⟨?_, ?_, ?_⟩
  · rw [hid]
    exact hne
  · rw [hid]
    exact hthere
  · rw [hid]
    show (⟨id, true⟩ : StackitNetworkStatus) = ⟨id, o.spec.networkID == ""⟩
    rw [hspec]
    rfl

theorem networkSettled_unmanaged {c : Cloud} (hspec : o.spec.networkID ≠ "")
    (hthere : NetworkThere o.spec.networkID c) :
    NetworkSettled (o.setNetwork ⟨o.spec.networkID, false⟩) c := by
  have hid : (o.setNetwork ⟨o.spec.networkID, false⟩).networkID = o.spec.networkID := if_pos hspec
  refine ⟨?_, ?_, ?_⟩
  · rw [hid]
    exact hspec
  · rw [hid]
    exact hthere
  · rw [hid]
    show (⟨o.spec.networkID, false⟩ : StackitNetworkStatus) =
      ⟨o.spec.networkID, o.spec.networkID == ""⟩
    simp [hspec]

/-- A network step that goes on has recorded a network that exists. -/
def SettlesNetwork (p : Pass StackitCluster Session) (r : Except GoError (Result ⊕ Network))
    (q : Pass StackitCluster Session) : Prop :=
  ∀ n, r = .ok (.inr n) → ∃ net t, q = { p with obj := p.obj.setNetwork net, cloud := t } ∧
    Answered t ∧
    OnlyNetworks p.cloud.cloud t.cloud ∧ NetworkSettled (p.obj.setNetwork net) t.cloud

theorem settlesNetwork_failure {q : Pass StackitCluster Session} (r : Except GoError Result) :
    SettlesNetwork p (r.map .inl) q := fun n hr => absurd hr (map_inl_ne r n)

theorem ensureNetwork_settles (hs : Answered p.cloud)
    (hnamed : ∀ n ∈ p.cloud.cloud.networks, n.id ≠ "") :
    wp (ensureNetwork sdkClient) (SettlesNetwork p) p := by
  have hsame : ∀ {t : Session}, Stays p.cloud t → OnlyNetworks p.cloud.cloud t.cloud := fun ht => by
    rw [ht.cloud]
    exact .refl _
  refine wp_ensureNetwork (fun hunmanaged => ?unmanaged) (fun hspec hrecorded => ?recorded)
    fun hspec t hmissing => ?created
  case unmanaged =>
    refine (wp_getNetwork_there _ hs).imp fun r t ⟨ht, hr⟩ => ?_
    cases r with
    | error err => exact settlesNetwork_failure
    | ok network =>
      obtain ⟨hid, hthere⟩ := hr network rfl
      rintro n -
      refine ⟨⟨network.id, false⟩, t, rfl, ht.answered, hsame ht, ?_⟩
      rw [hid]
      exact networkSettled_unmanaged hunmanaged (ht.cloud ▸ hthere)
  case recorded =>
    refine (wp_getNetwork_there _ hs).imp fun r t ⟨ht, hr⟩ _ => ?_
    cases r with
    | error err => exact settlesNetwork_failure
    | ok network =>
      obtain ⟨hid, hthere⟩ := hr network rfl
      rintro n -
      refine ⟨⟨network.id, true⟩, t, rfl, ht.answered, hsame ht, ?_⟩
      rw [hid]
      exact networkSettled_managed hspec hrecorded (ht.cloud ▸ hthere)
  case created =>
    have ht : Stays p.cloud t :=
      hmissing.keeps (.refl hs) ((wp_getNetwork_there _ hs).imp fun _ _ ht => ht.1)
    refine (createNetwork_leaves ht.answered (by rw [ht.cloud]; exact hnamed)).imp fun r u hr => ?_
    cases r with
    | error err => exact settlesNetwork_failure
    | ok network =>
      obtain ⟨hne, hthere, honly⟩ := hr.2 network rfl
      rw [ht.cloud] at honly
      rintro n -
      exact ⟨_, u, rfl, hr.1 ht.answered, honly, networkSettled_managed hspec hne hthere⟩

/-! ### The endpoint -/

/-- What the endpoint step may write. -/
structure EndpointFrame (o o' : StackitCluster) : Prop where
  obj : o' = { o with
    spec := { o.spec with controlPlaneEndpoint := o'.spec.controlPlaneEndpoint }
    status := { o.status with apiServerEndpoint := o'.status.apiServerEndpoint,
                              apiServerLoadBalancerID := o'.status.apiServerLoadBalancerID }
    conditions := o'.conditions }
  conditions : ∀ t, t ≠ clusterLoadBalancerReadyCondition →
    findStatusCondition o'.conditions t = findStatusCondition o.conditions t

theorem findStatusCondition_other {cs : List Condition} {g : Int} {st : ConditionStatus}
    {reason message t t' : String} (h : t ≠ t') :
    findStatusCondition (setConditions cs g st reason message [t']) t = findStatusCondition cs t :=
  (findStatusCondition_setConditions ..).trans (if_neg (by simpa using h))

/-- The endpoint is written, the pool holds the targets, and the condition is true. -/
def TargetsSettled (l : LoadBalancer) (targets : List LoadBalancerTargetInput)
    (p q : Pass StackitCluster Session) : Prop :=
  ∃ cs t,
    q = { p with obj := { p.obj.setAPIServerEndpoint ⟨l.ip, defaultAPIServerPort⟩ with
      conditions := cs }, cloud := t } ∧
      Answered t ∧ OnlyPools p.cloud.cloud t.cloud ∧
      (targets = [] ∨ TargetsHeld l.id defaultAPIServerPort targets t.cloud) ∧
      isStatusConditionTrue cs clusterLoadBalancerReadyCondition = true ∧
      ∀ t, t ≠ clusterLoadBalancerReadyCondition → findStatusCondition cs t = findStatusCondition
      p.obj.conditions t

theorem targetsSettled_withEndpoint {l : LoadBalancer} {targets : List LoadBalancerTargetInput}
    {t : Session} (ht : Answered t) (honly : OnlyPools p.cloud.cloud t.cloud)
    (htargets : targets = [] ∨ TargetsHeld l.id defaultAPIServerPort targets t.cloud) :
    TargetsSettled l targets p { p with obj := withEndpoint l p.obj, cloud := t } := by
  unfold withEndpoint
  split
  · rename_i hwas
    exact ⟨p.obj.conditions, t, rfl, ht, honly, htargets, (Bool.and_eq_true_iff.1 hwas).1,
      fun _ _ => rfl⟩
  · refine ⟨_, t, rfl, ht, honly, htargets, ?_, fun t' ht' => findStatusCondition_other ht'⟩
    exact (isStatusConditionTrue_setConditions ..).trans (if_pos (by decide))

theorem reconcileTargets_settles (hs : Answered p.cloud) (l : LoadBalancer)
    (targets : List LoadBalancerTargetInput) :
    wp (reconcileTargets sdkClient l targets)
      (fun r q => r = .ok none → TargetsSettled l targets p q) p := by
  refine wp_reconcileTargets
    (fun hnone _ => targetsSettled_withEndpoint hs (.refl _) (.inl hnone)) fun _ =>
    (setAPIServerLoadBalancerTargets_leaves hs).imp fun r t hr => ?_
  cases r with
  | error err => exact fun h => by cases h
  | ok a =>
    obtain ⟨hheld, honly⟩ := hr.2 a rfl
    exact fun _ => targetsSettled_withEndpoint (hr.1 hs) honly (.inr hheld)

theorem reconcileEndpoint_settles (hs : Answered p.cloud) (hT : DistinctRewrites p.obj.tags)
    (network : Network) :
    wp (reconcileEndpoint env sdkClient network)
      (fun r q => r = .ok none → ∃ o' t, q = { p with obj := o', cloud := t } ∧
        Answered t ∧ OnlyBalancers p.cloud.cloud t.cloud ∧ EndpointFrame p.obj o' ∧
        EndpointSettled env o' t.cloud) p := by
  refine wp_reconcileEndpoint (fun henabled => ?enabled) (fun hdisabled hhost _ => ?external)
    fun _ _ h => by cases h
  case enabled =>
    refine wp_reconcileLoadBalancer (fun _ _ h => by cases h) fun machines hmachines =>
      (ensureAPIServerLoadBalancer_leaves hs hT).imp fun r t hr => ?_
    cases r with
    | error err => exact fun r h => absurd h (map_some_ne r)
    | ok l =>
      refine ⟨fun _ h => (by cases h), fun haddress => ?_⟩
      obtain ⟨htagged, hthis, hbalancers⟩ := hr.2 l rfl
      set q : Pass StackitCluster Session :=
        { p with obj := p.obj.setLoadBalancerID l.id, cloud := t } with hq
      refine (reconcileTargets_settles (p := q) (hr.1 hs) l _).imp fun r q' hr hnone => ?_
      obtain ⟨cs, u, rfl, hu, honly, htargets, hcondition, hothers⟩ := hr hnone
      refine ⟨_, u, rfl, hu, hbalancers.trans honly.onlyBalancers, ⟨rfl, hothers⟩,
        .loadBalancer henabled
        ⟨hmachines, hT, htagged, ?_, haddress, rfl, rfl, rfl, hcondition, htargets⟩⟩
      exact honly.loadBalancersOf.trans hthis
  case external =>
    exact ⟨_, p.cloud, rfl, hs, .refl _, ⟨rfl, fun t ht => findStatusCondition_other ht⟩,
      .external (by simp [withExternalEndpoint, StackitCluster.setConditions, hdisabled])
        ⟨hhost, rfl, says_setConditions _ (by simp)⟩⟩

/-! ### Everything but the bastion -/

structure InfraSettled (env : Env Session) (o : StackitCluster) (c : Cloud) : Prop where
  client : buildCloudClient env.source o = .ok sdkClient
  zones : o.status.failureDomains = failureDomainsFromZones o.spec.region c.zones
  network : NetworkSettled o c
  endpoint : EndpointSettled env o c
  credentialsSay : Says o.conditions clusterCredentialsReadyCondition .true "Available" ""
  networkSays : Says o.conditions clusterNetworkReadyCondition .true "Available" ""

theorem Says.of_find {cs cs' : List Condition} {t reason message : String} {st : ConditionStatus}
    (h : Says cs t st reason message)
    (hfind : findStatusCondition cs' t = findStatusCondition cs t) :
    Says cs' t st reason message := by
  obtain ⟨g, hg⟩ := h
  exact ⟨g, hfind.trans hg⟩

theorem NetworkSettled.congr {o' : StackitCluster} (h : NetworkSettled o c)
    (hid : o'.networkID = o.networkID) (hspec : o'.spec.networkID = o.spec.networkID)
    (hstatus : o'.status.network = o.status.network) (hc : c'.networks = c.networks) :
    NetworkSettled o' c' := by
  refine ⟨by rw [hid]; exact h.named, ?_, by rw [hid, hspec, hstatus]; exact h.status⟩
  rw [hid, NetworkThere, hc]
  exact h.there

theorem reconcileResources_settles (hclient : buildCloudClient env.source p.obj = .ok sdkClient)
    (hs : Answered p.cloud) (hnamed : ∀ n ∈ p.cloud.cloud.networks, n.id ≠ "")
    (hT : DistinctRewrites p.obj.tags) :
    wp (reconcileResources env sdkClient) (fun r q => r = .ok none →
      q.obj.metadata = p.obj.metadata ∧ Answered q.cloud ∧
        OnlyInfra p.cloud.cloud q.cloud.cloud ∧ InfraSettled env q.obj q.cloud.cloud) p := by
  refine wp_reconcileResources (repeats_listAvailabilityZones.wp hs rfl fun t ht => ?_)
  rw [zonesAnswer_ok]
  set q₁ : Pass StackitCluster Session := { p with
    obj := (withCredentials p.obj).setFailureDomains
      (failureDomainsFromZones p.obj.spec.region p.cloud.cloud.zones)
    cloud := t } with hq₁
  refine (ensureNetwork_settles (p := q₁) ht.answered (by rw [hq₁, ht.cloud]; exact hnamed)).imp
    fun r q₂ hr => ?_
  rcases r with e | result | network
  · exact fun h => by cases h
  · exact fun h => by cases h
  obtain ⟨net, u, rfl, hu, honly, hnetwork⟩ := hr network rfl
  rw [networkEnd_inr]
  set q₃ : Pass StackitCluster Session := { q₁ with
    obj := (q₁.obj.setNetwork net).setConditions .true "Available" ""
      [clusterNetworkReadyCondition]
    cloud := u } with hq₃
  refine (reconcileEndpoint_settles (p := q₃) hu hT network).imp fun r q₄ hr hnone => ?_
  obtain ⟨o', v, rfl, hv, hpools, hframe, hendpoint⟩ := hr hnone
  have honly' : OnlyInfra p.cloud.cloud v.cloud := by
    rw [← ht.cloud]
    exact .of_steps honly hpools
  have hzones : v.cloud.zones = p.cloud.cloud.zones := by rw [honly'.frame]
  have hnetworks : v.cloud.networks = u.cloud.networks := by rw [hpools.frame]
  have hmeta : o'.metadata = p.obj.metadata := by rw [hframe.obj]; rfl
  refine ⟨hmeta, hv, honly', ⟨?_, ?_, ?_, hendpoint, ?_, ?_⟩⟩
  · show buildCloudClient env.source o' = .ok sdkClient
    rw [hframe.obj]
    exact hclient
  · show o'.status.failureDomains = failureDomainsFromZones o'.spec.region v.cloud.zones
    rw [hframe.obj, hzones]
    rfl
  · show NetworkSettled o' v.cloud
    refine hnetwork.congr ?_ ?_ ?_ hnetworks
    · rw [hframe.obj]
      rfl
    · rw [hframe.obj]
      rfl
    · rw [hframe.obj]
      rfl
  · refine Says.of_find ?_ (hframe.conditions _ (by decide))
    exact (says_setConditions _ (by simp)).setConditions (by decide)
  · exact Says.of_find (says_setConditions _ (by simp)) (hframe.conditions _ (by decide))

theorem reconcileInfrastructure_settles (hsource : SDKSource env.source p.obj)
    (hs : Answered p.cloud) (hnamed : ∀ n ∈ p.cloud.cloud.networks, n.id ≠ "")
    (hT : DistinctRewrites p.obj.tags) :
    wp (reconcileInfrastructure env)
      (fun r q => ∀ client, r = .ok (.inr client) → client = sdkClient ∧
        q.obj.metadata = p.obj.metadata ∧ Answered q.cloud ∧ OnlyInfra p.cloud.cloud q.cloud.cloud ∧
        InfraSettled env q.obj q.cloud.cloud) p := by
  refine wp_reconcileInfrastructure (fun _ _ r client hr => absurd hr (map_inl_ne r client))
    fun client hclient => ?_
  obtain rfl := hsource client hclient
  refine wp.imp (reconcileResources_settles hclient hs hnamed hT) fun r q hq client hr => ?_
  obtain ⟨hnone, rfl⟩ := map_handOn_eq.1 hr
  exact ⟨rfl, hq hnone⟩

/-! ### The end of the pass -/

/-- The object with what the end of a pass writes. -/
def finished (o : StackitCluster) (b : StackitBastionStatus) (cs : List Condition) :
    StackitCluster :=
  { o with status := { o.status with bastion := b, ready := true, provisioned := true },
           conditions := cs }

theorem TargetsHeld.congr {id : String} {port : Int} {targets : List LoadBalancerTargetInput}
    (h : TargetsHeld id port targets c) (hc : c'.loadBalancers = c.loadBalancers) :
    TargetsHeld id port targets c' := by
  refine ⟨h.input, h.nonempty, h.named, ?_⟩
  rw [hc]
  exact h.held

theorem InfraSettled.finished {b : StackitBastionStatus} {cs : List Condition}
    (h : InfraSettled env o c) (hc : SameInfra c c')
    (hcs : ∀ t, t ≠ clusterBastionReadyCondition → t ≠ clusterReadyCondition →
      findStatusCondition cs t = findStatusCondition o.conditions t) :
    InfraSettled env (ClusterReconciler.finished o b cs) c' := by
  refine ⟨h.client, ?_, h.network.congr rfl rfl rfl hc.networks, ?_, ?_, ?_⟩
  · rw [hc.zones]
    exact h.zones
  · have hendpoint := h.endpoint
    unfold EndpointSettled at hendpoint
    split at hendpoint
    · rename_i henabled
      obtain ⟨machines, l, hl⟩ := hendpoint
      have hbalanced : LoadBalancerSettled env (ClusterReconciler.finished o b cs) c'
          machines l := by
        refine ⟨hl.listed, hl.tags, hl.tagged, ?_, hl.address, hl.id, hl.specEndpoint,
          hl.endpoint, ?_,
          hl.targets.imp_right fun ht => TargetsHeld.congr ht hc.loadBalancers⟩
        · rw [loadBalancersOf, hc.loadBalancers]
          exact hl.this
        · exact (isStatusConditionTrue_congr (hcs _ (by decide) (by decide))).trans hl.condition
      exact .loadBalancer henabled hbalanced
    · rename_i hdisabled
      exact .external hdisabled ⟨hendpoint.host, hendpoint.endpoint,
        Says.of_find hendpoint.condition (hcs _ (by decide) (by decide))⟩
  · exact Says.of_find h.credentialsSay (hcs _ (by decide) (by decide))
  · exact Says.of_find h.networkSays (hcs _ (by decide) (by decide))

/-- The object with the bastion skipped. -/
def bastionDropped (o : StackitCluster) (b : StackitBastionStatus) : StackitCluster :=
  { o with status := { o.status with bastion := b } }.setConditions .true bastionDisabledReason
    "bastion disabled"
    [clusterBastionReadyCondition]

theorem disableBastion_settles : wp (disableBastion sdkClient) (fun r q => ∀ a, r = .ok a → ∃ b t,
    q = { p with obj := bastionDropped p.obj b, cloud := t } ∧ SameInfra p.cloud.cloud t.cloud)
      p := by
  refine wp_disableBastion (fun _ a _ => ⟨p.obj.status.bastion, p.cloud, rfl, .refl _⟩) fun _ => ?_
  refine wp_orError ((bastionClosed_sameInfra.keeps_deleteNodeSSHAccess _).wp _) (fun _ t ht => ?_)
    fun _ _ _ _ h => by cases h
  exact wp_orError ((bastionClosed_sameInfra.keeps_deleteBastion _ _).wp _)
    (fun _ u hu _ _ => ⟨{}, u, rfl, ht.trans hu⟩) fun _ _ _ _ h => by cases h

/-- The bastion step: what it leaves, and that it only writes the bastion's status and condition. -/
theorem reconcileBastion_settles {q : Pass StackitCluster Session} {result : Result}
    (hs : Answered p.cloud) (hids : BastionIDs p.cloud.cloud)
    (hrun : reconcileBastion env sdkClient p = (.ok (result, true), q))
    (hlog : ∀ x ∈ q.cloud.log, x.isRefusedAddress = false) :
    ∃ b cs, q.obj.setReady = finished p.obj b cs ∧ SameInfra p.cloud.cloud q.cloud.cloud ∧
      (∀ t, t ≠ clusterBastionReadyCondition → t ≠ clusterReadyCondition →
        findStatusCondition cs t = findStatusCondition p.obj.conditions t) ∧
      Says cs clusterReadyCondition .true "Available" "" ∧
        BastionSettled env (finished p.obj b cs) q.cloud.cloud := by
  by_cases henabled : p.obj.spec.bastion.enabled = true
  · obtain ⟨cloudInit, b, t, h, rfl⟩ := reconcileBastion_ready henabled hrun
    have hensured : SDKClient.ensureBastion (bastionInput p.obj cloudInit) p.cloud = (.ok b, t) :=
      h.ensured
    have hcidrs : "" ∉ (bastionInput p.obj cloudInit).allowedCIDRs := allowedCIDRs_of_valid h.valid
    have hrepeats := (ensureBastion_leaves hs hids hcidrs).of_run hensured b rfl hlog
    have hinfra :=
      ((bastionClosed_sameInfra.keeps_ensureBastion (bastionInput p.obj cloudInit)).wp
      p.cloud).of_run hensured
    refine ⟨_, _, rfl, hinfra, fun t ht ht' => ?_, says_setConditions _ (by simp), ?_⟩
    · exact (findStatusCondition_other ht').trans (findStatusCondition_other ht)
    · unfold BastionSettled
      refine if_pos henabled ▸ ?_
      refine ⟨cloudInit, b, h.valid, h.resolved, hrepeats, h.running, h.address, rfl, ?_⟩
      exact (says_setConditions _ (by simp)).setConditions (by decide)
  · have hdisabled : wp (reconcileBastion env sdkClient) (fun r q => ∀ a, r = .ok a → ∃ b t,
        q = { p with obj := bastionDropped p.obj b, cloud := t } ∧ SameInfra p.cloud.cloud t.cloud)
        p :=
      wp_reconcileBastion_disabled (by simpa using henabled) disableBastion_settles
    obtain ⟨b, t, rfl, hinfra⟩ := hdisabled.of_run hrun _ rfl
    refine ⟨b, _, rfl, hinfra, fun t ht ht' => ?_, says_setConditions _ (by simp), ?_⟩
    · exact (findStatusCondition_other ht').trans (findStatusCondition_other ht)
    · unfold BastionSettled
      refine if_neg henabled ▸ ?_
      exact (says_setConditions _ (by simp)).setConditions (by decide)

/-- A pass that reached `SetReady` without a failure leaves everything settled. -/
theorem settled_of_reachesSetReady (hready : reachesSetReady env p = true)
    (hsource : SDKSource env.source p.obj) (hs : Answered p.cloud) (hids : BastionIDs p.cloud.cloud)
    (hnamed : ∀ n ∈ p.cloud.cloud.networks, n.id ≠ "") (hT : DistinctRewrites p.obj.tags)
    (hlog : ∀ x ∈ ((reconcileNormal env).after p).cloud.log, x.isRefusedAddress = false) :
    Settled env ((reconcileNormal env).after p).obj ((reconcileNormal env).after p).cloud.cloud :=
  by
  obtain ⟨p₁, p₂, p₃, client, result, hfinalizer, hinfra, hbastion, hq⟩ :=
    reachesSetReady_cases hready
  rw [hq] at hlog ⊢
  obtain ⟨hcloud, hobj⟩ := (wp_persistFinalizer_obj (p := p)).of_run hfinalizer () rfl
  have hsource₁ : SDKSource env.source p₁.obj := hobj ▸ sdkSource_withFinalizer hsource
  have htags : p₁.obj.tags = p.obj.tags := hobj ▸ tags_withFinalizer p.obj
  obtain ⟨rfl, hmeta, hs₂, honly, hsettled⟩ :=
    (reconcileInfrastructure_settles hsource₁ (hcloud ▸ hs) (hcloud ▸ hnamed)
    (htags ▸ hT)).of_run hinfra client rfl
  have hids₂ : BastionIDs p₂.cloud.cloud := BastionIDs.onlyInfra (hcloud ▸ hids) honly
  obtain ⟨b, cs, hend, hsame, hothers, hsaid, hheld⟩ :=
    reconcileBastion_settles hs₂ hids₂ hbastion hlog
  have hdone := hsettled.finished (b := b) hsame hothers
  show Settled env p₃.obj.setReady p₃.cloud.cloud
  rw [hend]
  refine ⟨?_, hdone.client, hdone.zones, hdone.network, hdone.endpoint, hheld, rfl, rfl,
    hdone.credentialsSay,
    hdone.networkSays, hsaid⟩
  show containsFinalizer p₂.obj.metadata clusterFinalizer = true
  rw [hmeta, hobj]
  exact containsFinalizer_addFinalizer _ _

end ClusterReconciler

end Capstk
