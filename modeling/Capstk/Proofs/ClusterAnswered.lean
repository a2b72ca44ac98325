import Capstk.Proofs.ClusterFinish
import Capstk.Proofs.ClusterSettled

/-!
# A pass over a cluster whose requests are answered

Without failures, and given what it needs (`Provided`), a pass stops on its way to the bastion only
where the load balancer has no address yet (`Waits`). What is left to do for the bastion then gets
less, or it is ready (`BastionGoes`).
-/

namespace Capstk

open Prog SDKClient

variable {c c' : Cloud} {s : Session} {T : StringMap}

namespace SDKClient

/-! ### Networks -/

theorem wp_getNetwork_answered (id : String) (hs : Answered s) :
    wp (getNetwork id) (fun r t => FoundOrNone r t ∧ t.cloud = s.cloud) s := by
  cases hfind : s.cloud.networks.find? (·.id == id) with
  | some n =>
    exact (repeats_getNetwork hfind).wp hs rfl fun t ht =>
      ⟨⟨ht.answered, fun e he => nomatch he⟩, ht.cloud⟩
  | none =>
    have heffect : Cloud.getNetwork id s.cloud = s.cloud.missing := by rw [Cloud.getNetwork, hfind]
    unfold getNetwork
    rw [wp_bind]
    refine wp_answered hs fun t ht hc => ?_
    rw [perform, heffect] at hc ⊢
    refine ⟨⟨ht, fun e he => ?_⟩, hc⟩
    cases he
    rfl

theorem wp_createNetwork_answered {input : CreateNetworkInput} (hs : Answered s)
    (hname : input.name ≠ "") (hT : input.tags.entries.isEmpty = false)
    (hone : (tagged .network input.tags s.cloud).length ≤ 1) :
    wp (createNetwork input) (Succeeds fun _ _ => True) s := by
  refine wp_ite (fun h0 => absurd h0 hname) fun _ => wp_ite (fun h0 => absurd h0 (by simp [hT]))
    fun _ => ?_
  refine wp_existingOr_answered (wp_findNetworkByTags_answered hs hT hone) fun t ht => ?_
  exact wp_succeeds_create (adds_createNetwork _ _) ht fun _ _ hu => wp_succeeds_pure hu trivial

/-! ### Load balancers -/

theorem map_loadBalancersOf : (loadBalancersOf T c).map (·.id) = taggedLBs T c := by
  simp [loadBalancersOf, taggedLBs, labelled, List.filter_map, Function.comp_def,
    loadBalancerFromSDK]

theorem length_loadBalancersOf : (loadBalancersOf T c).length = (taggedLBs T c).length := by
  rw [← map_loadBalancersOf, List.length_map]

theorem wp_findLoadBalancerByTags_answered (hs : Answered s) (hT : DistinctRewrites T)
    (htags : T.entries.isEmpty = false) (hone : (loadBalancersOf T s.cloud).length ≤ 1) :
    wp (findLoadBalancerByTags T)
      (fun r t => Stays s t ∧ (∀ l, r = .ok l → loadBalancersOf T s.cloud = [l]) ∧
        ∀ e, r = .error e → isNotFound e = true ∧ loadBalancersOf T s.cloud = []) s := by
  unfold findLoadBalancerByTags
  rw [wp_bind]
  refine ((repeats_listLoadBalancers hT).requireTags htags).wp hs rfl fun t ht => ?_
  rw [next_ok]
  refine wp_single (fun hnil => ⟨ht, fun _ => (nomatch ·), fun e he => ?_⟩)
    (fun l hl => ⟨ht, fun l' hl' => ?_, fun _ => (nomatch ·)⟩) fun hmany => by omega
  · cases he
    exact ⟨by simp, hnil⟩
  · cases hl'
    exact hl

/-- The load balancer of that name is there and has the pool of the API server. -/
def PoolThere (name : String) (c : Cloud) : Prop :=
  ∃ x, c.loadBalancers.find? (·.name == name) = some x ∧ (apiServerTargetPool x).isSome = true

/-- The load balancer is found, or it is made, with an address or without. -/
inductive BalancerAnswered (input : LoadBalancerInput) (l : LoadBalancer) (c c' : Cloud) : Prop
  | found (this : loadBalancersOf input.tags c = [l]) (same : c' = c)
  | made (before : loadBalancersOf input.tags c = []) (after : loadBalancersOf input.tags c' = [l])
    (name : l.id = input.name) (pool : PoolThere l.id c')

theorem poolThere_createLoadBalancer {input : LoadBalancerInput} {labels : StringMap}
    {l : SDKLoadBalancer}
    (h : Cloud.createLoadBalancer (createLoadBalancerPayload input labels) c = (.ok l, c')) :
    PoolThere l.name c' := by
  unfold Cloud.createLoadBalancer at h
  split at h
  · cases h
  · rename_i hfree
    obtain ⟨hl, hc⟩ := Prod.mk.inj h
    replace hl := Except.ok.inj hl
    have hname : l.name = (createLoadBalancerPayload input labels).name := by rw [← hl]
    have hnone : c.loadBalancers.find? (·.name == l.name) = none := by
      rw [hname]
      simpa using hfree
    refine ⟨l, ?_, by rw [← hl]; rfl⟩
    rw [← hc, hl, List.find?_append, hnone, Option.none_or]
    exact List.find?_cons_of_pos (beq_self_eq_true l.name)

theorem wp_ensureAPIServerLoadBalancer_succeeds {input : LoadBalancerInput} (hs : Answered s)
    (hT : DistinctRewrites input.tags) (htags : input.tags.entries.isEmpty = false)
    (hone : (loadBalancersOf input.tags s.cloud).length ≤ 1)
    (hname : loadBalancersOf input.tags s.cloud = [] → ∀ l ∈ s.cloud.loadBalancers,
      l.name ≠ input.name) :
    wp (ensureAPIServerLoadBalancer input)
      (Succeeds fun l t => BalancerAnswered input l s.cloud t.cloud) s := by
  refine wp_existingOr_of (wp_findLoadBalancerByTags_answered hs hT htags hone)
    (fun l t h => ⟨h.1.answered, l, rfl, .found (h.2.1 l rfl) h.1.cloud⟩) (fun e t h _ => ?made)
    fun e t h hnot => ?other
  case other =>
    rw [(h.2.2 e rfl).1] at hnot
    cases hnot
  case made =>
    obtain ⟨ht, -, hnone⟩ := h
    have hnil := (hnone e rfl).2
    rw [wp_bind]
    refine (wp_newLoadBalancerLabels_stays ht.answered hT htags).imp ?_
    rintro r u ⟨hu, labels, rfl, hcarries⟩
    have hc : u.cloud = s.cloud := hu.cloud.trans ht.cloud
    have hfree :
        ¬ (s.cloud.loadBalancers.any (·.name == (createLoadBalancerPayload input labels).name)) =
        true := by
      rw [List.any_eq_true]
      rintro ⟨l, hl, heq⟩
      exact hname hnil l hl (beq_iff_eq.1 heq)
    obtain ⟨l, c', hcreate, hlname⟩ : ∃ l c',
      Cloud.createLoadBalancer (createLoadBalancerPayload input labels) s.cloud =
        (.ok l, c') ∧ l.name = input.name := by
      rw [Cloud.createLoadBalancer, if_neg hfree]
      exact ⟨_, _, rfl, rfl⟩
    rw [next_ok]
    refine wp_answered_bind hu.answered (hc ▸ hcreate) fun v hv hcv => ?_
    subst hcv
    refine wp_succeeds_pure hv (.made hnil ?_ hlname (poolThere_createLoadBalancer hcreate))
    exact (loadBalancersOf_createLoadBalancer hcarries hnil hcreate).1

theorem wp_setAPIServerLoadBalancerTargets_succeeds {id : String} {port : Int}
    {targets : List LoadBalancerTargetInput} {l : SDKLoadBalancer} (hs : Answered s)
    (hinput : ¬ (id = "" ∨ port ≤ 0)) (hne : ¬ targets.isEmpty = true)
    (hnamed : ∀ t ∈ targets, t.name ≠ "" ∧ t.ip ≠ "")
    (hl : s.cloud.loadBalancers.find? (·.name == id) = some l)
    (hpool : (apiServerTargetPool l).isSome = true) :
    wp (setAPIServerLoadBalancerTargets id port targets) (Succeeds fun _ _ => True) s := by
  have hvalid : ¬ (targets.any fun t => t.name == "" || t.ip == "") = true := by
    rw [List.any_eq_true]
    rintro ⟨t, ht, hempty⟩
    obtain ⟨hname, hip⟩ := hnamed t ht
    simp [hname, hip] at hempty
  obtain ⟨pool, hpool⟩ := Option.isSome_iff_exists.1 hpool
  have hpoolName : (pool.name == apiserverTargetPoolName) = true :=
    List.find?_some (p := fun x : SDKTargetPool => x.name == apiserverTargetPoolName) hpool
  have hany : l.targetPools.any (·.name == apiserverTargetPoolName) = true :=
    List.any_eq_true.2 ⟨pool, List.mem_of_find?_eq_some hpool, hpoolName⟩
  rw [setAPIServerLoadBalancerTargets, if_neg hinput, if_neg hne, if_neg hvalid]
  refine wp_answered_bind hs (by rw [Cloud.getLoadBalancer, hl]) fun t ht hc => ?_
  rw [hpool]
  refine wp_ite (fun _ => wp_succeeds_pure ht trivial) fun _ => wp_succeeds_request ht ?_
  refine ⟨(), ?_, ?updated⟩
  case updated =>
    rw [Cloud.updateTargetPool, hc, hl]
    exact if_pos hany

/-! ### The bastion -/

theorem map_serversOf : (serversOf T c).map (·.id) = tagged .server T c := by
  simp [serversOf, serverOf, tagged, labelled, List.filter_map, Function.comp_def]

theorem map_publicIPsOf : (publicIPsOf T c).map (·.id) = tagged .publicIP T c := by
  simp [publicIPsOf, publicIPFromSDK, tagged, labelled, List.filter_map, Function.comp_def]

theorem wp_attachPublicIP_ip {serverID : String} {ip : PublicIP} (hs : Answered s)
    (hids : ∀ p ∈ s.cloud.publicIPs, p.id = ip.id → p.ip = ip.ip) :
    wp (attachPublicIP serverID ip) (fun r _ => ∀ ip', r = .ok ip' → ip'.ip = ip.ip) s := by
  refine wp_ite (fun _ => ?detached) fun _ ip' h => by cases h; rfl
  rw [wp_bind]
  have hadd : wp (addPublicIpToServer serverID ip.id) (fun _ t => Answered t ∧
      ∀ p ∈ t.cloud.publicIPs, p.id = ip.id → p.ip = ip.ip) s := by
    refine wp_tolerate_of (wp_answered hs fun t ht hc => ⟨ht, ?_⟩) (fun _ t h _ => h) fun _ t h _ =>
      h
    rw [hc, perform_cloud]
    rcases addPublicIpToServer_cases serverID ip.id s.cloud with ⟨e, heffect⟩ | ⟨nicID, heffect, -⟩
    · rw [heffect]
      exact hids
    · rw [heffect]
      intro p hp hid
      obtain ⟨p', hp', rfl⟩ := List.mem_map.1 hp
      unfold withInterface at hid ⊢
      split at hid <;> split <;> exact hids p' hp' hid
  refine hadd.imp ?_
  rintro r t ⟨ht, hids'⟩
  cases r with
  | error e =>
    intro ip' h
    cases h
  | ok _ =>
    rw [next_ok]
    unfold getPublicIP
    rw [wp_bind]
    refine wp_answered ht fun u _ _ => ?_
    rw [perform, Cloud.getPublicIP]
    cases hfind : t.cloud.publicIPs.find? (·.id == ip.id) with
    | none =>
      intro ip' h
      cases h
    | some p =>
      intro ip' h
      cases h
      exact hids' p (List.mem_of_find?_eq_some hfind) (by simpa using List.find?_some hfind)

theorem ensureBastionSecurityGroupRules_only {g : String} {cidrs : List String} (hs : Answered s)
    (hpresent : Present .securityGroup g s.cloud) (hcidrs : "" ∉ cidrs) :
    wp (ensureBastionSecurityGroupRules g cidrs)
      (Leaves s fun _ t => OnlyRules s.cloud t.cloud) s := by
  by_cases hne : g = ""
  · rw [ensureBastionSecurityGroupRules, if_pos hne]
    exact wp_via_fail closed_answered _
  have honly :=
    (keeps_ensureBastionSecurityGroupRules OnlyRules.closed (OnlyRules.createSecurityGroupRule g)
    (OnlyRules.deleteSecurityGroupRule g) cidrs).wp s
  refine ((wp_ensureBastionSecurityGroupRules_answered hs hne hpresent hcidrs).and honly).imp ?_
  rintro r t ⟨⟨ht, a, rfl, -⟩, honly⟩
  exact .ok ht honly

theorem wp_ensureBastion_found {input : BastionInput} {a : Server} {ip : PublicIP} (hs : Answered s)
    (hcidrs : "" ∉ input.allowedCIDRs) (hids : (s.cloud.publicIPs.map (·.id)).Nodup)
    (hserver : serversOf input.tags s.cloud = [a]) (hip : publicIPsOf input.tags s.cloud = [ip]) :
    wp (ensureBastion input) (fun r _ => ∀ b, r = .ok b →
      b.serverState = a.state ∧ b.serverPowerStatus = a.powerStatus ∧ b.publicIP = ip.ip) s := by
  unfold ensureBastion
  refine wp_ite (fun _ b hb => nomatch hb) fun _ => wp_ite (fun _ b hb => nomatch hb) fun _ =>
    wp_ite (fun _ b hb => nomatch hb) fun htags => ?_
  have hT : input.tags.entries.isEmpty = false := by simpa using htags
  refine wp_leaves_bind hs (ensureSecurityGroup_leaves _ _ hs) (fun _ _ b hb => nomatch hb)
    fun g s₁ hs₁ h₁ => ?_
  obtain ⟨x, hx⟩ := find_of_groupsOf h₁.this
  refine wp_leaves_bind hs₁ (ensureBastionSecurityGroupRules_only hs₁ (present_of_find hx) hcidrs)
    (fun _ _ b hb => nomatch hb) fun _ s₂ hs₂ h₂ => ?_
  have hservers₂ : s₂.cloud.servers = s.cloud.servers := by rw [h₂.frame, h₁.frame]
  have hips₂ : s₂.cloud.publicIPs = s.cloud.publicIPs := by rw [h₂.frame, h₁.frame]
  rw [wp_bind]
  refine (repeats_createServer hT ((serversOf_congr hservers₂).trans hserver)).wp hs₂ rfl
    fun s₃ hs₃ => ?_
  rw [next_ok]
  refine wp_leaves_bind hs₃.answered (addSecurityGroupToServer_leaves hs₃.answered)
    (fun _ _ b hb => nomatch hb)
    fun _ s₄ hs₄ h₄ => ?_
  have hips₄ : s₄.cloud.publicIPs = s.cloud.publicIPs := by rw [h₄, add_frame, hs₃.cloud, hips₂]
  have hip₄ : publicIPsOf input.tags s₄.cloud = [ip] := by
    rw [publicIPsOf, hips₄]
    exact hip
  rw [wp_bind]
  refine (repeats_ensurePublicIP hT hip₄).wp hs₄ rfl fun s₅ hs₅ => ?_
  rw [next_ok, wp_bind]
  have hsame : ∀ p ∈ s₅.cloud.publicIPs, p.id = ip.id → p.ip = ip.ip := by
    obtain ⟨x, hx, rfl⟩ :=
      List.mem_map.1 (hip ▸ List.mem_singleton_self ip : ip ∈ publicIPsOf input.tags s.cloud)
    rw [hs₅.cloud, hips₄]
    intro p hp hid
    rw [List.inj_on_of_nodup_map hids hp (List.mem_filter.1 hx).1 hid]
    rfl
  refine (wp_attachPublicIP_ip hs₅.answered hsame).imp fun r t hr => ?_
  cases r with
  | error e => exact fun b hb => nomatch hb
  | ok ip' =>
    intro b hb
    cases hb
    exact ⟨rfl, rfl, hr ip' rfl⟩

end SDKClient

namespace ClusterReconciler
variable {env : Env Session} {p : Pass StackitCluster Session} {hash : String}
  {o o' : StackitCluster}

/-! ### What a pass needs -/

theorem targetName_ne_empty {sha256Hex : String → String} {name : String} (h : name ≠ "") :
    targetName sha256Hex name ≠ "" := by
  unfold targetName
  dsimp only
  split
  · exact h
  · intro h0
    have hlist := congrArg String.toList h0
    simp at hlist

theorem collectTargets_named {sha256Hex : String → String} {machines : List Machine}
    (h : ∀ m ∈ machines, m.metadata.name ≠ "") :
    ∀ seen, ∀ t ∈ collectTargets sha256Hex seen machines, t.name ≠ "" ∧ t.ip ≠ "" := by
  induction machines with
  | nil => intro seen t ht; cases ht
  | cons m machines ih =>
    intro seen t ht
    have hrest := ih fun m' hm' => h m' (List.mem_cons_of_mem _ hm')
    unfold collectTargets at ht
    dsimp only at ht
    split at ht
    · exact hrest _ t ht
    · rename_i hnew
      rcases List.mem_cons.1 ht with rfl | ht
      · exact ⟨targetName_ne_empty (h m List.mem_cons_self), fun h0 => hnew (.inl h0)⟩
      · exact hrest _ t ht

/-- What the endpoint needs: the user's endpoint, or machines with names, and that every load
balancer of the name is the cluster's own. -/
structure EndpointProvided (env : Env Session) (o : StackitCluster) (c : Cloud) : Prop where
  external : o.spec.apiServerLoadBalancerEnabled = false → o.spec.controlPlaneEndpoint.host ≠ ""
  machines : o.spec.apiServerLoadBalancerEnabled = true → ∃ machines, env.controlPlaneMachines =
    .ok machines ∧
    ∀ m ∈ machines, m.metadata.name ≠ ""
  balancer : ∀ l ∈ c.loadBalancers, l.name = o.metadata.name ++ "-apiserver" →
    lbCarries o.tags l.labels = true ∧ (apiServerTargetPool l).isSome = true

theorem EndpointProvided.pool {l : LoadBalancer} (h : EndpointProvided env o c)
    (hnames : ∀ name ∈ taggedLBs o.tags c, name = o.metadata.name ++ "-apiserver")
    (hl : loadBalancersOf o.tags c = [l]) :
    l.id = o.metadata.name ++ "-apiserver" ∧ PoolThere l.id c := by
  have hmem : l.id ∈ taggedLBs o.tags c := by
    rw [← map_loadBalancersOf, hl]
    exact List.mem_singleton_self _
  obtain ⟨labels, hlabels, -⟩ := mem_taggedLBs.1 hmem
  obtain ⟨x, hx⟩ := find_of_present ⟨labels, hlabels⟩
  have hname := hnames l.id hmem
  have hid : x.name = l.id := by simpa using List.find?_some hx
  exact ⟨hname, x, hx, (h.balancer x (List.mem_of_find?_eq_some hx) (hid.trans hname)).2⟩

/-- What the bastion needs. `hash` is that of its cloud-init. -/
structure BastionProvided (hash : String) (env : Env Session) (o : StackitCluster) (c : Cloud) :
    Prop where
  valid : o.spec.bastion.enabled = true → validateBastionSpec o.spec.bastion = none
  cloudInit : o.spec.bastion.enabled = true →
    ∃ cloudInit, resolveBastionCloudInit env o = .ok cloudInit ∧
    bastionCloudInitHash env cloudInit = hash
  addresses : (c.publicIPs.map (·.id)).Nodup

/-- All that a pass needs besides its objects and credentials. -/
structure Provided (hash : String) (env : Env Session) (o : StackitCluster) (c : Cloud) : Prop where
  networks : ∀ n ∈ c.networks, n.id ≠ ""
  network : o.spec.networkID ≠ "" → NetworkThere o.spec.networkID c
  endpoint : EndpointProvided env o c
  bastion : BastionProvided hash env o c

/-- The spec and the name are all that matters of the object. -/
structure SameRequest (o o' : StackitCluster) : Prop where
  spec : o'.spec = o.spec
  name : o'.metadata.name = o.metadata.name
  (namespace' : o'.metadata.namespace' = o.metadata.namespace')

theorem SameRequest.tags (h : SameRequest o o') : o'.tags = o.tags := by
  rw [StackitCluster.tags, StackitCluster.tags, h.spec, h.name, h.namespace']

theorem EndpointProvided.congr (h : EndpointProvided env o c) (ho : SameRequest o o')
    (hc : c'.loadBalancers = c.loadBalancers) :
    EndpointProvided env o' c' := by
  refine ⟨?_, ?_, ?_⟩
  · rw [ho.spec]
    exact h.external
  · rw [ho.spec]
    exact h.machines
  · rw [ho.tags, ho.name, hc]
    exact h.balancer

theorem BastionProvided.congr (h : BastionProvided hash env o c)
    (hspec : o'.spec.bastion = o.spec.bastion)
    (hnamespace : o'.metadata.namespace' = o.metadata.namespace')
    (hc : c'.publicIPs = c.publicIPs) :
    BastionProvided hash env o' c' := by
  have hresolve : resolveBastionCloudInit env o' = resolveBastionCloudInit env o := by
    rw [resolveBastionCloudInit, resolveBastionCloudInit, hspec, hnamespace]
  refine ⟨?_, ?_, ?_⟩
  · rw [hspec]
    exact h.valid
  · rw [hspec, hresolve]
    exact h.cloudInit
  · rw [hc]
    exact h.addresses

theorem Provided.congr (h : Provided hash env o c) (ho : SameRequest o o') :
    Provided hash env o' c :=
  ⟨h.networks, ho.spec ▸ h.network, h.endpoint.congr ho rfl, h.bastion.congr (by rw [ho.spec])
    ho.namespace' rfl⟩

/-! ### The network -/

theorem wp_createNetwork_goes {s : Session} (hs : Answered s)
    (hone : (tagged .network o.tags s.cloud).length ≤ 1) :
    wp (SDKClient.createNetwork (networkInput o)) (fun r _ => ∃ n, r = .ok n) s := by
  have hname : (networkInput o).name ≠ "" := fun h0 => by
    have hlist := congrArg String.toList h0
    simp [networkInput] at hlist
  refine (wp_createNetwork_answered hs hname o.tags_nonempty hone).imp ?_
  rintro r t ⟨-, n, hn, -⟩
  exact ⟨n, hn⟩

theorem wp_ensureNetwork_goes (hs : Answered p.cloud)
    (hthere : p.obj.spec.networkID ≠ "" → NetworkThere p.obj.spec.networkID p.cloud.cloud)
    (hone : (tagged .network p.obj.tags p.cloud.cloud).length ≤ 1) :
    wp (ensureNetwork sdkClient) (fun r _ => ∃ n, r = .ok (.inr n)) p := by
  refine wp_ensureNetwork (fun hunmanaged => ?unmanaged) (fun _ _ => ?recorded)
    fun _ t hmissing => ?created
  case unmanaged =>
    obtain ⟨x, hx⟩ := hthere hunmanaged
    exact (repeats_getNetwork hx).wp hs rfl fun t _ => ⟨_, rfl⟩
  case recorded =>
    refine (wp_getNetwork_answered p.obj.status.network.id hs).imp ?_
    rintro r t ⟨⟨ht, hr⟩, hc⟩ hfound
    cases r with
    | ok n => exact ⟨n, rfl⟩
    | error e => simp [hr e rfl] at hfound
  case created =>
    have ht : Answered t ∧ t.cloud = p.cloud.cloud :=
      hmissing.keeps (I := fun t => Answered t ∧ t.cloud = p.cloud.cloud) ⟨hs, rfl⟩
        ((wp_getNetwork_answered p.obj.status.network.id hs).imp fun _ _ h => ⟨h.1.1, h.2⟩)
    refine (wp_createNetwork_goes ht.1 (by rw [ht.2]; exact hone)).imp ?_
    rintro r u ⟨n, rfl⟩
    exact ⟨n, rfl⟩

/-! ### The endpoint -/

/-- Why a pass stops on its way to the bastion: the load balancer was made only now, or has no
address yet. -/
inductive Waits (T : StringMap) (c c' : Cloud) : Prop
  | made (before : loadBalancersOf T c = []) (after : loadBalancersOf T c' ≠ [])
  | unaddressed (l : LoadBalancer) (this : loadBalancersOf T c = [l]) (address : l.ip = "")
      (same : loadBalancersOf T c' = [l])

theorem wp_reconcileTargets_goes {l : LoadBalancer} {targets : List LoadBalancerTargetInput}
    (h : targets ≠ [] →
      wp (SDKClient.setAPIServerLoadBalancerTargets l.id defaultAPIServerPort targets)
      (Succeeds fun _ _ => True) p.cloud) :
    wp (reconcileTargets sdkClient l targets) (fun r _ => r = .ok none) p := by
  refine wp_reconcileTargets (fun _ => rfl) fun hne => (h hne).imp ?_
  rintro r t ⟨-, _, rfl, -⟩
  exact rfl

theorem wp_reconcileEndpoint_goes (network : Network) (hs : Answered p.cloud)
    (hT : DistinctRewrites p.obj.tags) (hone : (taggedLBs p.obj.tags p.cloud.cloud).length ≤ 1)
    (hnames : ∀ name ∈ taggedLBs p.obj.tags p.cloud.cloud, name = p.obj.metadata.name ++
      "-apiserver")
    (hp : EndpointProvided env p.obj p.cloud.cloud) :
    wp (reconcileEndpoint env sdkClient network) (fun r q => r = .ok none ∨
      (∃ result, r = .ok (some result)) ∧ p.obj.spec.apiServerLoadBalancerEnabled = true ∧
        Waits p.obj.tags p.cloud.cloud q.cloud.cloud) p := by
  refine wp_reconcileEndpoint (fun henabled => ?_) (fun _ _ => .inl rfl)
    fun hdisabled hhost => absurd hhost (hp.external hdisabled)
  obtain ⟨machines, hmachines, hnamed⟩ := hp.machines henabled
  have hfree : loadBalancersOf p.obj.tags p.cloud.cloud = [] → ∀ l ∈ p.cloud.cloud.loadBalancers,
      l.name ≠ p.obj.metadata.name ++ "-apiserver" := by
    intro hnil l hl hname
    have hmem : l.name ∈ taggedLBs p.obj.tags p.cloud.cloud := mem_taggedLBs.2
      ⟨l.labels, List.mem_map_of_mem hl, (hp.balancer l hl hname).1⟩
    rw [← map_loadBalancersOf, hnil] at hmem
    cases hmem
  refine wp_reconcileLoadBalancer (fun err herr => ?_) fun machines' hmachines' => ?_
  · rw [hmachines] at herr
    cases herr
  obtain rfl : machines = machines' := Except.ok.inj (hmachines.symm.trans hmachines')
  refine (wp_ensureAPIServerLoadBalancer_succeeds hs hT p.obj.tags_nonempty
    (length_loadBalancersOf.trans_le hone) hfree).imp ?_
  rintro r t ⟨ht, l, rfl, hl⟩
  refine ⟨fun hip => .inr ⟨⟨_, rfl⟩, henabled, ?_⟩, fun hip => ?_⟩
  · cases hl with
    | found this same => exact .unaddressed l this hip (same ▸ this)
    | made before after _ _ =>
      have hthere : loadBalancersOf p.obj.tags t.cloud ≠ [] :=
        fun h0 => by cases after.symm.trans h0
      exact .made before hthere
  · obtain ⟨hid, x, hx, hpool⟩ : l.id = p.obj.metadata.name ++ "-apiserver" ∧
      PoolThere l.id t.cloud := by
      cases hl with
      | found this same => exact same ▸ hp.pool hnames this
      | made _ _ name pool => exact ⟨name, pool⟩
    have hne' : l.id ≠ "" := fun h0 => by
      have hlist := congrArg String.toList (hid.symm.trans h0)
      simp at hlist
    refine (wp_reconcileTargets_goes fun hne => ?_).imp fun r q hr => .inl hr
    exact wp_setAPIServerLoadBalancerTargets_succeeds ht (by simp [hne', defaultAPIServerPort])
      (by simpa using hne)
      (collectTargets_named (fun m hm => hnamed m ((List.mem_insertionSort _).1 hm)) []) hx hpool

/-! ### Everything but the bastion -/

theorem Waits.congr {c₁ : Cloud} (h : Waits T c c') (hc : c.loadBalancers = c₁.loadBalancers) :
    Waits T c₁ c' := by
  have hlbs : loadBalancersOf T c = loadBalancersOf T c₁ := by rw [loadBalancersOf, hc]; rfl
  cases h with
  | made before after => exact .made (hlbs ▸ before) after
  | unaddressed l this address same => exact .unaddressed l (hlbs ▸ this) address same

theorem wp_reconcileResources_goes (hs : Answered p.cloud) (hT : DistinctRewrites p.obj.tags)
    (hone : Sole (.of p.obj) p.cloud.cloud)
    (hnames : ∀ name ∈ taggedLBs p.obj.tags p.cloud.cloud, name = p.obj.metadata.name ++
      "-apiserver")
    (hp : Provided hash env p.obj p.cloud.cloud) :
    wp (reconcileResources env sdkClient) (fun r q => r = .ok none ∨
      (∃ result, r = .ok (some result)) ∧ p.obj.spec.apiServerLoadBalancerEnabled = true ∧
        Waits p.obj.tags p.cloud.cloud q.cloud.cloud) p := by
  refine wp_reconcileResources (repeats_listAvailabilityZones.wp hs rfl fun t ht => ?_)
  rw [zonesAnswer_ok]
  set q₁ : Pass StackitCluster Session := { p with
    obj := (withCredentials p.obj).setFailureDomains
      (failureDomainsFromZones p.obj.spec.region p.cloud.cloud.zones)
    cloud := t }
  have hc : t.cloud = p.cloud.cloud := ht.cloud
  have hnetwork : wp (ensureNetwork sdkClient) (fun r _ => ∃ n, r = .ok (.inr n)) q₁ :=
    wp_ensureNetwork_goes ht.answered (fun hne => hc ▸ hp.network hne) (hc ▸ hone.network)
  refine (hnetwork.and (ensureNetwork_settles (p := q₁) ht.answered (hc ▸ hp.networks))).imp ?_
  rintro r q₂ ⟨⟨network, rfl⟩, hsettles⟩
  obtain ⟨net, u, rfl, hu, honly, -⟩ := hsettles network rfl
  have hlbs : u.cloud.loadBalancers = p.cloud.cloud.loadBalancers := by
    rw [honly.frame]
    show t.cloud.loadBalancers = _
    rw [hc]
  have htagged : taggedLBs p.obj.tags u.cloud = taggedLBs p.obj.tags p.cloud.cloud := by
    rw [taggedLBs, taggedLBs, labelled, labelled, hlbs]
  rw [networkEnd_inr]
  refine (wp_reconcileEndpoint_goes network ?answered ?tags ?one ?names ?provided).imp ?_
  case answered => exact hu
  case tags => exact hT
  case one => exact htagged ▸ hone.loadBalancer
  case names => exact fun name hname => hnames name (htagged ▸ hname)
  case provided => exact hp.endpoint.congr ⟨rfl, rfl, rfl⟩ hlbs
  rintro r q (hgoes | ⟨hresult, henabled, hwaits⟩)
  · exact .inl hgoes
  · exact .inr ⟨hresult, henabled, hwaits.congr hlbs⟩

theorem wp_reconcileInfrastructure_goes (hs : Answered p.cloud) (hT : DistinctRewrites p.obj.tags)
    (hone : Sole (.of p.obj) p.cloud.cloud)
    (hclient : buildCloudClient env.source p.obj = .ok sdkClient)
    (hnames : ∀ name ∈ taggedLBs p.obj.tags p.cloud.cloud, name = p.obj.metadata.name ++
      "-apiserver")
    (hp : Provided hash env p.obj p.cloud.cloud) :
    wp (reconcileInfrastructure env) (fun r q => (∃ client, r = .ok (.inr client)) ∨
      (∃ result, r = .ok (.inl result)) ∧ p.obj.spec.apiServerLoadBalancerEnabled = true ∧
        Waits p.obj.tags p.cloud.cloud q.cloud.cloud) p := by
  have hp' : Provided hash env (withStaticZones p.obj) p.cloud.cloud := hp.congr ⟨rfl, rfl, rfl⟩
  refine wp_reconcileInfrastructure_client hclient (wp.imp (wp_reconcileResources_goes
    (p := { p with obj := withStaticZones p.obj }) hs hT hone hnames hp') ?_)
  rintro r q (rfl | ⟨⟨result, rfl⟩, henabled, hwaits⟩)
  · exact .inl ⟨_, rfl⟩
  · exact .inr ⟨⟨result, rfl⟩, henabled, hwaits⟩

/-! ### The bastion -/

/-- What is left to do for the bastion: to delete it and make it again, or to make it. `hash` is
that of its cloud-init. -/
def bastionWork (hash : String) (o : StackitCluster) (c : Cloud) : Nat :=
  if !o.spec.bastion.enabled then 0
  else if hasBastionStatus o.status.bastion && o.status.bastion.cloudInitHash != hash then 2
  else if (tagged .server (bastionTags o) c).isEmpty ||
    (tagged .publicIP (bastionTags o) c).isEmpty then 1
  else 0

/-- What there is of the bastion is up. -/
def bastionUp (o : StackitCluster) (c : Cloud) : Bool :=
  (serversOf (bastionTags o) c).all (fun a => (serverStateCondition a.state a.powerStatus).ready) &&
    (publicIPsOf (bastionTags o) c).all (·.ip != "")

/-- There is a server and an address for the bastion. -/
def BastionThere (o : StackitCluster) (c : Cloud) : Prop :=
  tagged .server (bastionTags o) c ≠ [] ∧ tagged .publicIP (bastionTags o) c ≠ []

/-- What `ensureBastion` wants of a bastion. -/
def Serves (b : Bastion) : Prop :=
  (serverStateCondition b.serverState b.serverPowerStatus).ready = true ∧ b.publicIP ≠ ""

/-- How `reconcileBastion` ends if its requests are answered: the bastion is ready and nothing is
left to do for it, or there is less to do, or it is not up. -/
inductive BastionGoes (hash : String) (o : StackitCluster) (c : Cloud) :
    Bool → StackitCluster → Cloud → Prop
  | ready {o' : StackitCluster} {c' : Cloud} (done : bastionWork hash o' c' = 0) :
      BastionGoes hash o c true o' c'
  | advanced {o' : StackitCluster} {c' : Cloud}
      (less : bastionWork hash o' c' < bastionWork hash o c) :
      BastionGoes hash o c false o' c'
  | pending {o' : StackitCluster} {c' : Cloud} (down : bastionUp o c = false)
      (done : bastionWork hash o' c' = 0) :
      BastionGoes hash o c false o' c'

theorem bastionWork_disabled (h : o.spec.bastion.enabled = false) : bastionWork hash o c = 0 := by
  rw [bastionWork, h]
  rfl

theorem bastionWork_cleared (h : hasBastionStatus o.status.bastion = false) :
    bastionWork hash o c ≤ 1 := by
  rw [bastionWork, h]
  split
  · decide
  · rw [if_neg (by simp)]
    split <;> decide

theorem bastionWork_pos (hon : o.spec.bastion.enabled = true) (h : ¬ BastionThere o c) :
    0 < bastionWork hash o c := by
  have hmissing :
      ((tagged .server (bastionTags o) c).isEmpty || (tagged .publicIP (bastionTags o) c).isEmpty) =
      true := by
    rw [Bool.or_eq_true, List.isEmpty_iff, List.isEmpty_iff]
    unfold BastionThere at h
    tauto
  rw [bastionWork, hon, hmissing, if_neg (by decide), if_pos rfl]
  split <;> decide

theorem bastionWork_ensured {b : Bastion} (h : BastionIs b (bastionTags o) c)
    (hstatus : o.status.bastion.cloudInitHash = hash) :
    bastionWork hash o c = 0 := by
  rw [bastionWork, h.server, h.publicIP, hstatus]
  simp

/-- A bastion that is not usable after `ensureBastion` was not all there before, or was not up. -/
theorem BastionGoes.of_ensured {b : Bastion} (hon : o.spec.bastion.enabled = true)
    (hthis : BastionIs b (bastionTags o') c') (hstatus : o'.status.bastion.cloudInitHash = hash)
    (hfound : BastionThere o c → bastionUp o c = true → Serves b) (hnot : ¬ Serves b) :
    BastionGoes hash o c false o' c' := by
  have hdone : bastionWork hash o' c' = 0 := bastionWork_ensured hthis hstatus
  by_cases hthere : BastionThere o c
  · refine .pending ?_ hdone
    rw [← Bool.not_eq_true]
    exact fun hup => hnot (hfound hthere hup)
  · refine .advanced ?_
    rw [hdone]
    exact bastionWork_pos hon hthere

theorem bastionTags_nonempty (o : StackitCluster) : (bastionTags o).entries.isEmpty = false :=
  StringMap.isEmpty_entries_of_lookup (AList.lookup_insert _)

theorem wp_deleteNodeSSHAccess_sole (hs : Answered p.cloud)
    (hone : Sole (.of p.obj) p.cloud.cloud) :
    wp (SDKClient.deleteNodeSSHAccess (nodeSSHAccessTags p.obj))
      (Succeeds fun _ t => Shrinks p.cloud.cloud t.cloud) p.cloud :=
  wp_succeeds_and (wp_deleteNodeSSHAccess_answered hs (Stepwise.nodeSSHAccessTags_nonempty p.obj)
    (Stepwise.nodeSSHSelector_nonempty p.obj)
    hone.nodeSSH) (SDKClient.wp_deleteNodeSSHAccess _ p.cloud) fun _ _ h => h.1

theorem wp_orError_answered {α β : Type} {x : Call Session α} {P : α → Session → Prop} {s : Session}
    {Q : Except GoError β → Pass StackitCluster Session → Prop} {next : α → Session → Prop}
    (h : wp x (Succeeds P) s) (hnext : ∀ a t, Answered t → P a t → next a t) :
    wp x (OrError Q p next) s := by
  refine h.imp ?_
  rintro r t ⟨ht, a, rfl, ha⟩
  exact hnext a t ht ha

theorem wp_disableBastion_goes (hs : Answered p.cloud) (hone : Sole (.of p.obj) p.cloud.cloud)
    (hoff : p.obj.spec.bastion.enabled = false) :
    wp (disableBastion sdkClient)
      (fun r q => ∃ x, r = .ok x ∧ BastionGoes hash p.obj p.cloud.cloud x.2 q.obj q.cloud.cloud)
      p := by
  refine wp_disableBastion (fun _ => ⟨_, rfl, .ready (bastionWork_disabled hoff)⟩) fun _ => ?_
  refine wp_orError_answered (wp_deleteNodeSSHAccess_sole hs hone) fun _ t ht hshrinks => ?_
  refine wp_orError_answered (SDKClient.wp_deleteBastion_answered ht (bastionTags_nonempty p.obj)
    (hone.shrinks hshrinks).bastion) fun _ u _ _ => ?_
  exact ⟨_, rfl, .ready (bastionWork_disabled hoff)⟩

theorem wp_recreateBastion_goes {cloudInit : String} (hs : Answered p.cloud)
    (hone : Sole (.of p.obj) p.cloud.cloud) (hwork : bastionWork hash p.obj p.cloud.cloud = 2) :
    wp (recreateBastion sdkClient cloudInit)
      (fun r q => ∃ x, r = .ok x ∧ BastionGoes hash p.obj p.cloud.cloud x.2 q.obj q.cloud.cloud)
      p := by
  refine wp_recreateBastion (wp_orError_answered
    (wp_tolerate_answered (wp_deleteNodeSSHAccess_sole hs hone)) fun _ t ht hshrinks => ?_)
  refine wp_orError_answered
    (wp_tolerate_answered (SDKClient.wp_deleteBastion_answered ht (bastionTags_nonempty p.obj)
    (hone.shrinks hshrinks).bastion)) fun _ u _ _ => ?_
  refine ⟨_, rfl, .advanced ?_⟩
  rw [hwork]
  exact Nat.lt_succ_of_le (bastionWork_cleared rfl)

theorem completeInput_of_valid {cloudInit : String}
    (hvalid : validateBastionSpec o.spec.bastion = none) (hnetwork : o.networkID ≠ "") :
    CompleteInput (bastionInput o cloudInit) := by
  have hname : o.metadata.name ++ "-bastion" ≠ "" := fun h0 => by
    have hlist := congrArg String.toList h0
    simp at hlist
  unfold validateBastionSpec at hvalid
  split at hvalid
  · cases hvalid
  split at hvalid
  · cases hvalid
  split at hvalid
  · cases hvalid
  split at hvalid
  · cases hvalid
  rename_i himage hmachine hkey hcidrs
  refine ⟨?_, hcidrs, by simp [bastionInput, bastionTags_nonempty]⟩
  rintro (h | h | h | h | h)
  · exact hname h
  · exact hnetwork h
  · exact himage h
  · exact hmachine h
  · exact hkey h

theorem eq_singleton_of_map {α : Type} {f : α → String} {l : List α} (hne : l.map f ≠ [])
    (hle : (l.map f).length ≤ 1) :
    ∃ a, l = [a] := by
  rw [List.length_map] at hle
  exact List.length_eq_one_iff.1
    (Nat.le_antisymm hle (List.length_pos_iff.2 fun h => hne (by rw [h]; rfl)))

/-- A bastion that is there and up is reported so. -/
theorem wp_ensureBastion_up {cloudInit : String} (hs : Answered p.cloud)
    (hone : Sole (.of p.obj) p.cloud.cloud) (hcidrs : "" ∉ p.obj.spec.bastion.allowedCIDRs)
    (hids : (p.cloud.cloud.publicIPs.map (·.id)).Nodup) (hthere : BastionThere p.obj p.cloud.cloud)
    (hup : bastionUp p.obj p.cloud.cloud = true) :
    wp (SDKClient.ensureBastion (bastionInput p.obj cloudInit))
      (fun r _ => ∀ b, r = .ok b → Serves b) p.cloud := by
  obtain ⟨a, ha⟩ :=
    eq_singleton_of_map (map_serversOf ▸ hthere.1) (map_serversOf ▸ hone.bastion .server trivial)
  obtain ⟨ip, hip⟩ :=
    eq_singleton_of_map (map_publicIPsOf ▸ hthere.2)
    (map_publicIPsOf ▸ hone.bastion .publicIP trivial)
  rw [bastionUp, Bool.and_eq_true, ha, hip] at hup
  have hfound : wp (SDKClient.ensureBastion (bastionInput p.obj cloudInit))
    (fun r _ => ∀ b, r = .ok b →
      b.serverState = a.state ∧ b.serverPowerStatus = a.powerStatus ∧ b.publicIP = ip.ip) p.cloud :=
    wp_ensureBastion_found hs hcidrs hids ha hip
  refine hfound.imp fun r t h b hb => ?_
  obtain ⟨hstate, hpower, haddress⟩ := h b hb
  rw [Serves, hstate, hpower, haddress]
  exact ⟨by simpa using hup.1, by simpa using hup.2⟩

theorem wp_ensureBastion_goes {cloudInit : String} (hs : Answered p.cloud)
    (hone : Sole (.of p.obj) p.cloud.cloud)
    (hnamed : ∀ k, IsBastionKind k → "" ∉ tagged k (bastionTags p.obj) p.cloud.cloud)
    (hids : (p.cloud.cloud.publicIPs.map (·.id)).Nodup) (hnetwork : p.obj.networkID ≠ "")
    (hon : p.obj.spec.bastion.enabled = true)
    (hvalid : validateBastionSpec p.obj.spec.bastion = none)
    (hhash : bastionCloudInitHash env cloudInit = hash) :
    wp (ensureBastion env sdkClient cloudInit)
      (fun r q => ∃ x, r = .ok x ∧ BastionGoes hash p.obj p.cloud.cloud x.2 q.obj q.cloud.cloud)
      p := by
  have hcidrs := allowedCIDRs_of_valid hvalid
  have hserves : wp (SDKClient.ensureBastion (bastionInput p.obj cloudInit))
      (fun r _ => BastionThere p.obj p.cloud.cloud →
        bastionUp p.obj p.cloud.cloud = true → ∀ b, r = .ok b → Serves b) p.cloud :=
    fun hthere hup => wp_ensureBastion_up hs hone hcidrs hids hthere hup
  have hcall : wp (SDKClient.ensureBastion (bastionInput p.obj cloudInit)) (Succeeds fun b t =>
      BastionIs b (bastionTags p.obj) t.cloud ∧
        (BastionThere p.obj p.cloud.cloud → bastionUp p.obj p.cloud.cloud = true → Serves b))
        p.cloud := by
    refine wp_succeeds_and (wp_ensureBastion_succeeds hs (completeInput_of_valid hvalid hnetwork)
      hcidrs hone.bastion hnamed)
      ((SDKClient.wp_ensureBastion (bastionInput p.obj cloudInit) p.cloud).and hserves) fun b t h =>
      ?_
    exact ⟨h.1.2 b rfl, fun hthere hup => h.2 hthere hup b rfl⟩
  refine wp_ensureBastion (wp_orError_answered hcall fun b t ht ⟨hthis, hfound⟩ => ?_)
  refine ⟨fun hdown => ?_, fun hip => ?_, fun _ _ => ?_⟩
  · exact ⟨_, rfl, .of_ensured hon hthis hhash hfound fun h => by simp [h.1] at hdown⟩
  · exact ⟨_, rfl, .of_ensured hon hthis hhash hfound fun h => h.2 hip⟩
  · exact ⟨_, rfl, .ready (bastionWork_ensured hthis hhash)⟩

theorem wp_reconcileBastion_goes (hs : Answered p.cloud) (hone : Sole (.of p.obj) p.cloud.cloud)
    (hnamed : ∀ k, IsBastionKind k → "" ∉ tagged k (bastionTags p.obj) p.cloud.cloud)
    (hnetwork : p.obj.networkID ≠ "") (hp : BastionProvided hash env p.obj p.cloud.cloud) :
    wp (reconcileBastion env sdkClient)
      (fun r q => ∃ x, r = .ok x ∧ BastionGoes hash p.obj p.cloud.cloud x.2 q.obj q.cloud.cloud)
      p := by
  cases hon : p.obj.spec.bastion.enabled with
  | false => exact wp_reconcileBastion_disabled hon (wp_disableBastion_goes hs hone hon)
  | true =>
    obtain ⟨cloudInit, hcloudInit, hhash⟩ := hp.cloudInit hon
    refine wp_reconcileBastion_wanted ⟨hon, hp.valid hon, hcloudInit⟩
      (fun hrecreate => wp_recreateBastion_goes hs hone ?_) fun _ =>
      wp_ensureBastion_goes hs hone hnamed hp.addresses hnetwork hon (hp.valid hon) hhash
    rw [bastionNeedsRecreate, hhash] at hrecreate
    rw [bastionWork, hon, hrecreate]
    rfl

/-- The end of the pass: the cluster is ready if its bastion is. -/
theorem wp_finishWithBastion_goes (hs : Answered p.cloud) (hone : Sole (.of p.obj) p.cloud.cloud)
    (hnamed : ∀ k, IsBastionKind k → "" ∉ tagged k (bastionTags p.obj) p.cloud.cloud)
    (hnetwork : p.obj.networkID ≠ "") (hp : BastionProvided hash env p.obj p.cloud.cloud) :
    wp (finishWithBastion env sdkClient)
      (fun _ q => ∃ ready, BastionGoes hash p.obj p.cloud.cloud ready q.obj q.cloud.cloud ∧
        (ready = true → q.obj.status.ready = true)) p := by
  refine wp_finishWithBastion ((wp_reconcileBastion_goes hs hone hnamed hnetwork hp).imp ?_)
  rintro r q ⟨⟨result, ready⟩, rfl, hgoes⟩
  cases ready with
  | false => exact ⟨false, hgoes, fun h => by cases h⟩
  | true =>
    cases hgoes with
    | ready done => exact ⟨true, .ready done, fun _ => rfl⟩

end ClusterReconciler

end Capstk
