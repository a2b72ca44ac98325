import Capstk.Proofs.BastionFixpoint
import Capstk.Proofs.TargetPools
import Capstk.Proofs.SetReady

/-!
# A cluster pass after a pass that reached `SetReady`

`Settled env o c` collects what such a pass leaves in the object and in the cloud. A pass that
starts from there finds everything in place (`Settled.reconcileNormal`); conditions are written
again, but with the content they have.
-/

namespace Capstk

open Prog SDKClient

variable {c c' : Cloud} {T : StringMap} {s : Session}

/-! ### Networks -/

/-- Nothing has changed but the networks. -/
structure OnlyNetworks (c c' : Cloud) : Prop where
  issues : Issues c c'
  frame : c' = { c with networks := c'.networks, issued := c'.issued }

theorem OnlyNetworks.refl (c : Cloud) : OnlyNetworks c c := ⟨.refl c, rfl⟩

/-- The network of that ID exists. -/
def NetworkThere (id : String) (c : Cloud) : Prop := ∃ n, c.networks.find? (·.id == id) = some n

theorem NetworkThere.repeats {id : String} (h : NetworkThere id c) :
    ∃ n, Repeats c (getNetwork id) n ∧ n.id = id := by
  obtain ⟨x, hx⟩ := h
  exact ⟨_, repeats_getNetwork hx, by simpa [networkFromSDK] using List.find?_some hx⟩

theorem wp_getNetwork_there (id : String) (hs : Answered s) :
    wp (getNetwork id)
      (fun r t => Stays s t ∧ ∀ n, r = .ok n → n.id = id ∧ NetworkThere id s.cloud) s := by
  cases hfind : s.cloud.networks.find? (·.id == id) with
  | some n =>
    have hid : n.id = id := by simpa using List.find?_some hfind
    refine (repeats_getNetwork hfind).wp hs rfl fun t ht => ⟨ht, ?_⟩
    rintro _ ⟨⟩
    exact ⟨hid, n, hfind⟩
  | none =>
    have heffect : Cloud.getNetwork id s.cloud = s.cloud.missing := by rw [Cloud.getNetwork, hfind]
    refine (wp_missing_bind rfl heffect hs).imp fun r t h => ⟨h.1, ?_⟩
    obtain ⟨-, e, rfl⟩ := h
    rintro n ⟨⟩

theorem createNetwork_leaves {input : CreateNetworkInput} (hs : Answered s)
    (hnamed : ∀ n ∈ s.cloud.networks, n.id ≠ "") :
    wp (createNetwork input)
    (Leaves s fun n t => n.id ≠ "" ∧ NetworkThere n.id t.cloud ∧ OnlyNetworks s.cloud t.cloud) s :=
  by
  have hcreate : ∀ t : Session, Answered t → t.cloud = s.cloud →
      wp (do
        let network ← request "create network"
          (.createNetwork input.name input.tags input.ipv4Prefix)
          (Cloud.createNetwork input.name input.tags input.ipv4Prefix)
        pure (networkFromSDK network) : Call Session Network)
        (Leaves s fun n t => n.id ≠ "" ∧ NetworkThere n.id t.cloud ∧ OnlyNetworks s.cloud t.cloud)
          t := by
    intro t ht hc
    refine wp_answered_bind ht rfl fun u hu hcu => ?_
    rw [hc] at hcu ⊢
    rw [wp_pure]
    refine .ok hu ⟨s.cloud.ids.nonempty _, ?_, ?_⟩
    · rw [hcu]
      refine Option.isSome_iff_exists.1
        (List.find?_isSome.2 ⟨_, List.mem_append_right _ (List.mem_singleton_self _), ?_⟩)
      exact beq_self_eq_true _
    · rw [hcu]
      exact ⟨⟨rfl, Nat.le_succ _⟩, rfl⟩
  refine wp_ite (fun _ => wp_via_fail closed_answered _) fun _ =>
    wp_ite (fun _ => hcreate s hs rfl) fun _ => ?_
  refine wp_existingOr ((wp_lookup repeats_listNetworks hs rfl).imp fun r t hr => ?_)
  obtain ⟨ht, hr⟩ := hr
  cases r with
  | ok n =>
    obtain ⟨x, hx, hn⟩ :=
      List.mem_map.1 (hr.2 ▸ List.mem_singleton_self n : n ∈ networksOf input.tags s.cloud)
    have hmem := (List.mem_filter.1 hx).1
    subst hn
    refine .ok ht.answered ?_
    rw [ht.cloud]
    refine ⟨hnamed x hmem, ?_, .refl _⟩
    exact Option.isSome_iff_exists.1 (List.find?_isSome.2 ⟨x, hmem, beq_self_eq_true _⟩)
  | error e =>
    dsimp only
    split
    · exact hcreate t ht.answered ht.cloud
    · exact .error ht.answered

/-! ### Load balancers -/

/-- Nothing has changed but the load balancers. -/
structure OnlyBalancers (c c' : Cloud) : Prop where
  issues : Issues c c'
  frame : c' = { c with
    loadBalancers := c'.loadBalancers
    loadBalancerServiceEnabled := c'.loadBalancerServiceEnabled
    issued := c'.issued }

theorem OnlyBalancers.refl (c : Cloud) : OnlyBalancers c c := ⟨.refl c, rfl⟩

theorem OnlyBalancers.trans {c'' : Cloud} (h : OnlyBalancers c c') (h' : OnlyBalancers c' c'') :
    OnlyBalancers c c'' := by
  refine ⟨h.issues.trans h'.issues, ?_⟩
  rw [h'.frame, h.frame]

/-- The load balancer is the only one with its tags, whether it was there or has been made. -/
structure BalancerEnsured (T : StringMap) (l : LoadBalancer) (c c' : Cloud) : Prop where
  tags : T.entries.isEmpty = false
  this : loadBalancersOf T c' = [l]
  only : OnlyBalancers c c'

theorem loadBalancersOf_createLoadBalancer {c' : Cloud} {p : CreateLoadBalancerPayload}
    {l : SDKLoadBalancer} (hcarries : lbCarries T p.labels = true)
    (hnone : loadBalancersOf T c = []) (h : Cloud.createLoadBalancer p c = (.ok l, c')) :
    loadBalancersOf T c' = [loadBalancerFromSDK l] ∧ OnlyBalancers c c' := by
  rw [Cloud.createLoadBalancer] at h
  split at h
  · cases h
  · cases h
    refine ⟨?_, ⟨rfl, Nat.le_succ _⟩, rfl⟩
    rw [loadBalancersOf, List.filter_append, List.map_append, ← loadBalancersOf, hnone]
    simp [hcarries]

theorem ensureAPIServerLoadBalancer_leaves {input : LoadBalancerInput} (hs : Answered s)
    (hT : DistinctRewrites input.tags) :
    wp (ensureAPIServerLoadBalancer input)
      (Leaves s fun l t => BalancerEnsured input.tags l s.cloud t.cloud) s := by
  refine wp_existingOr ((wp_lookup (repeats_listLoadBalancers hT) hs rfl).imp fun r t hr => ?_)
  obtain ⟨ht, hr⟩ := hr
  cases r with
  | ok l =>
    refine .ok ht.answered ?_
    rw [ht.cloud]
    exact ⟨hr.1, hr.2, .refl _⟩
  | error e =>
    dsimp only
    split
    · rename_i hmissing
      obtain ⟨htags, hnone⟩ := hr (by simpa using hmissing)
      rw [wp_bind]
      refine (wp_newLoadBalancerLabels_stays ht.answered hT htags).imp fun r u hu => ?_
      obtain ⟨hu, labels, rfl, hcarries⟩ := hu
      have hc : u.cloud = s.cloud := hu.cloud.trans ht.cloud
      rw [next_ok, wp_bind]
      refine wp_answered hu.answered fun v hv hcv => ?_
      rw [perform] at hcv ⊢
      rw [hc] at hcv ⊢
      cases hcreate : Cloud.createLoadBalancer (createLoadBalancerPayload input labels) s.cloud with
      | mk r c' =>
        rw [hcreate] at hcv
        cases r with
        | error e =>
          rw [next_error]
          exact .error hv
        | ok l =>
          have hmade := loadBalancersOf_createLoadBalancer hcarries hnone hcreate
          rw [next_ok, wp_pure]
          exact .ok hv ⟨htags, hcv ▸ hmade.1, hcv ▸ hmade.2⟩
    · exact .error ht.answered

theorem repeats_ensureAPIServerLoadBalancer {input : LoadBalancerInput} {l : LoadBalancer}
    (hT : DistinctRewrites input.tags) (htags : input.tags.entries.isEmpty = false)
    (h : loadBalancersOf input.tags c = [l]) :
    Repeats c (ensureAPIServerLoadBalancer input) l :=
  (repeats_lookup (repeats_listLoadBalancers hT) htags h).existingOr

/-- Nothing has changed but the target pools. -/
structure OnlyPools (c c' : Cloud) : Prop where
  heads : c'.loadBalancers.map (fun l => (loadBalancerFromSDK l, l.labels)) =
    c.loadBalancers.map fun l => (loadBalancerFromSDK l, l.labels)
  frame : c' = { c with loadBalancers := c'.loadBalancers }

theorem OnlyPools.refl (c : Cloud) : OnlyPools c c := ⟨rfl, rfl⟩

theorem OnlyPools.onlyBalancers (h : OnlyPools c c') : OnlyBalancers c c' := by
  refine ⟨⟨?_, ?_⟩, ?_⟩
  · rw [h.frame]
  · rw [h.frame]
  · rw [h.frame]

theorem OnlyPools.loadBalancersOf (h : OnlyPools c c') :
    loadBalancersOf T c' = loadBalancersOf T c := by
  have hheads : ∀ c : Cloud, SDKClient.loadBalancersOf T c =
      ((c.loadBalancers.map fun l => (loadBalancerFromSDK l, l.labels)).filter fun x =>
        lbCarries T x.2).map Prod.fst := fun c => by
    simp [SDKClient.loadBalancersOf, List.filter_map, Function.comp_def]
  rw [hheads, h.heads, ← hheads]

theorem onlyPools_withPool (name : String) (pool : SDKTargetPool) (c : Cloud) :
    OnlyPools c { c with loadBalancers := c.loadBalancers.map (withPool name pool) } := by
  refine ⟨?_, rfl⟩
  rw [List.map_map]
  refine List.map_congr_left fun l _ => ?_
  rw [Function.comp_apply, withPool]
  split <;> rfl

/-- The pool of the load balancer is the one that is asked for. -/
structure TargetsHeld (id : String) (port : Int) (targets : List LoadBalancerTargetInput)
    (c : Cloud) : Prop where
  input : ¬ (id = "" ∨ port ≤ 0)
  nonempty : ¬ targets.isEmpty = true
  named : ¬ (targets.any fun t => t.name == "" || t.ip == "") = true
  held : ∃ l pool, c.loadBalancers.find? (·.name == id) = some l ∧
    apiServerTargetPool l = some pool ∧
    (pool.targetPort == port && sameTargets pool.targets (targets.map sdkTarget)) = true

theorem sameTargets_refl (ts : List SDKTarget) : sameTargets ts ts = true := by simp [sameTargets]

theorem setAPIServerLoadBalancerTargets_leaves {id : String} {port : Int}
    {targets : List LoadBalancerTargetInput} (hs : Answered s) :
    wp (setAPIServerLoadBalancerTargets id port targets)
      (Leaves s fun _ t => TargetsHeld id port targets t.cloud ∧ OnlyPools s.cloud t.cloud) s := by
  refine (((answered_setAPIServerLoadBalancerTargets id port targets).wp s).and
    (setAPIServerLoadBalancerTargets_cases id port targets s)).imp fun r t ⟨hanswered, h⟩ => ?_
  replace hanswered := hanswered hs
  cases h with
  | refused e t _ _ => exact .error hanswered
  | kept hvalid l pool t hl hpool hport hperm hc _ =>
    refine .ok hanswered ?_
    rw [hc]
    refine ⟨⟨hvalid.input, hvalid.nonempty, hvalid.named, l, pool, hl, hpool, ?_⟩, .refl _⟩
    rw [hport, sameTargets_iff.2 hperm, beq_self_eq_true, Bool.and_self]
  | updated hvalid l old r t hl hold _ hsettled _ =>
    refine ⟨fun _ => hanswered, fun a ha => ?_⟩
    subst ha
    obtain ⟨l', hl', hpool'⟩ := pool_of_updated rfl hsettled.ok
    obtain ⟨-, -, -, -, hc⟩ := of_updateTargetPool_ok hsettled.ok
    refine ⟨⟨hvalid.input, hvalid.nonempty, hvalid.named, l', _, hl', hpool', ?_⟩, ?_⟩
    · simp [desiredPool, sameTargets_refl]
    · rw [hc]
      exact onlyPools_withPool _ _ _

theorem repeats_setAPIServerLoadBalancerTargets {id : String} {port : Int}
    {targets : List LoadBalancerTargetInput} (h : TargetsHeld id port targets c) :
    Repeats c (setAPIServerLoadBalancerTargets id port targets) () := by
  obtain ⟨l, pool, hl, hpool, hsame⟩ := h.held
  rw [setAPIServerLoadBalancerTargets, if_neg h.input, if_neg h.nonempty, if_neg h.named]
  refine .bind (repeats_request rfl (a := l) ?_) ?_
  · rw [Cloud.getLoadBalancer, hl]
  · rw [hpool]
    dsimp only
    rw [if_pos hsame]
    exact .pure ()

/-! ### Conditions up to the generation they observed -/

section conditions
variable {cs cs' : List Condition} {t : String} {st : ConditionStatus} {reason message : String}

/-- A condition without the generation it observed. -/
def Condition.content (x : Condition) : Condition := { x with observedGeneration := 0 }

/-- The condition of this type says this. -/
def Says (cs : List Condition) (t : String) (st : ConditionStatus) (reason message : String) :
    Prop :=
  ∃ g, findStatusCondition cs t = some ⟨t, st, reason, message, g⟩

theorem find_content (h : cs.map Condition.content = cs'.map Condition.content) (t : String) :
    (findStatusCondition cs t).map Condition.content = (findStatusCondition cs' t).map
      Condition.content := by
  have hfind : ∀ cs : List Condition, (findStatusCondition cs t).map Condition.content =
      (cs.map Condition.content).find? (·.type == t) := fun cs => by
    rw [List.find?_map]
    rfl
  rw [hfind, hfind, h]

theorem Says.congr (h : Says cs t st reason message)
    (hcs : cs.map Condition.content = cs'.map Condition.content) :
    Says cs' t st reason message := by
  obtain ⟨g, hg⟩ := h
  have hfind := find_content hcs t
  rw [hg, Option.map_some, eq_comm, Option.map_eq_some_iff] at hfind
  obtain ⟨x, hx, hcontent⟩ := hfind
  refine ⟨x.observedGeneration, hx.trans ?_⟩
  obtain ⟨⟩ := x
  cases hcontent
  rfl

theorem isStatusConditionTrue_content (hcs : cs.map Condition.content = cs'.map Condition.content)
    (t : String) :
    isStatusConditionTrue cs t = isStatusConditionTrue cs' t := by
  have hmap : ∀ cs, isStatusConditionTrue cs t =
      ((findStatusCondition cs t).map Condition.content).any (·.status == .true) := by
    intro cs
    rw [isStatusConditionTrue]
    cases findStatusCondition cs t with
    | none => rfl
    | some x => rfl
  rw [hmap, hmap, find_content hcs t]

theorem says_setConditions {types : List String} (g : Int) (h : t ∈ types) :
    Says (setConditions cs g st reason message types) t st reason message :=
  ⟨g, (findStatusCondition_setConditions ..).trans (if_pos h)⟩

theorem Says.setConditions {types : List String} {st' : ConditionStatus} {reason' message' : String}
    {g : Int} (h : Says cs t st reason message) (ht : t ∉ types) :
    Says (setConditions cs g st' reason' message' types) t st reason message := by
  obtain ⟨g', hg'⟩ := h
  exact ⟨g', (findStatusCondition_setConditions ..).trans ((if_neg ht).trans hg')⟩

theorem content_setStatusCondition {old new : Condition}
    (h : findStatusCondition cs new.type = some old) (hsame : old.content = new.content) :
    (setStatusCondition cs new).map Condition.content = cs.map Condition.content := by
  induction cs with
  | nil => cases h
  | cons x cs ih =>
    rw [setStatusCondition]
    by_cases hx : (x.type == new.type) = true
    · rw [findStatusCondition, List.find?_cons, hx] at h
      cases h
      rw [if_pos hx, List.map_cons, List.map_cons, hsame]
    · rw [findStatusCondition, List.find?_cons, Bool.eq_false_iff.2 hx] at h
      rw [if_neg hx, List.map_cons, List.map_cons, ih h]

theorem content_setConditions {types : List String} (g : Int)
    (h : ∀ t ∈ types, Says cs t st reason message) :
    (setConditions cs g st reason message types).map Condition.content = cs.map Condition.content :=
  by
  induction types generalizing cs with
  | nil => rfl
  | cons t types ih =>
    obtain ⟨g', hg'⟩ := h t List.mem_cons_self
    have hfirst : (setStatusCondition cs ⟨t, st, reason, message, g⟩).map Condition.content =
        cs.map Condition.content :=
      content_setStatusCondition hg' rfl
    have hrest : ∀ t' ∈ types,
        Says (setStatusCondition cs ⟨t, st, reason, message, g⟩) t' st reason message :=
      fun t' ht' => (h t' (List.mem_cons_of_mem _ ht')).congr hfirst.symm
    exact (ih hrest).trans hfirst

end conditions

/-! ### Passes over a cloud in which everything is in place -/

section pass
variable {Obj α β : Type} {p : Pass Obj Session} {Q : Except GoError β → Pass Obj Session → Prop}
  {a : α}

/-- The pass has changed nothing: its object is still `obs`, with conditions of the content of
`cs₀`, and the cloud is that of `s`. -/
structure Idle (obs : List Condition → Obj) (cs₀ : List Condition) (s : Session)
    (q : Pass Obj Session) : Prop where
  obj : ∃ cs, q.obj = obs cs ∧ cs.map Condition.content = cs₀.map Condition.content
  cloud : Stays s q.cloud

namespace Idle
variable {obs : List Condition → Obj} {cs₀ : List Condition} {q : Pass Obj Session}

theorem call (h : Idle obs cs₀ s q) {t : Session} (ht : Stays q.cloud t) :
    Idle obs cs₀ s { q with cloud := t } :=
  ⟨h.obj, h.cloud.trans ht⟩

theorem write {f : Obj → Obj} (h : Idle obs cs₀ s q) (hf : ∀ cs, f (obs cs) = obs cs) :
    Idle obs cs₀ s { q with obj := f q.obj } := by
  obtain ⟨cs, hobj, hcs⟩ := h.obj
  exact ⟨⟨cs, (congrArg f hobj).trans (hf cs), hcs⟩, h.cloud⟩

/-- Conditions are written that say what they said. -/
theorem condition {f : Obj → Obj} {g : Int} {st : ConditionStatus} {reason message : String}
    {types : List String} (h : Idle obs cs₀ s q)
    (hf : ∀ cs, f (obs cs) = obs (setConditions cs g st reason message types))
    (hsaid : ∀ t ∈ types, Says cs₀ t st reason message) :
    Idle obs cs₀ s { q with obj := f q.obj } := by
  obtain ⟨cs, hobj, hcs⟩ := h.obj
  refine ⟨⟨_, (congrArg f hobj).trans (hf cs), ?_⟩, h.cloud⟩
  exact (content_setConditions g fun t ht => (hsaid t ht).congr hcs.symm).trans hcs

end Idle

end pass

namespace ClusterReconciler

/-- The object as a later pass may find it: with another generation, and these conditions. -/
def observedAt (o : StackitCluster) (g : Int) (cs : List Condition) : StackitCluster :=
  { o with metadata := { o.metadata with generation := g }, conditions := cs }

abbrev Unchanged (o : StackitCluster) (g : Int) (s : Session) (q : Pass StackitCluster Session) :
    Prop :=
  Idle (observedAt o g) o.conditions s q

namespace Unchanged
variable {o : StackitCluster} {g : Int} {q : Pass StackitCluster Session}

theorem obj_eq (h : Unchanged o g s q) : q.obj = observedAt o g q.obj.conditions := by
  obtain ⟨cs, hobj, -⟩ := h.obj
  rw [hobj]
  rfl

theorem conditions (h : Unchanged o g s q) :
    q.obj.conditions.map Condition.content = o.conditions.map Condition.content := by
  obtain ⟨cs, hobj, hcs⟩ := h.obj
  rw [hobj]
  exact hcs

theorem spec (h : Unchanged o g s q) : q.obj.spec = o.spec := by
  rw [h.obj_eq]
  rfl

theorem status (h : Unchanged o g s q) : q.obj.status = o.status := by
  rw [h.obj_eq]
  rfl

theorem setConditions {st : ConditionStatus} {reason message : String} {types : List String}
    (h : Unchanged o g s q) (hsaid : ∀ t ∈ types, Says o.conditions t st reason message) :
    Unchanged o g s { q with obj := q.obj.setConditions st reason message types } :=
  h.condition (f := (·.setConditions st reason message types)) (fun _ => rfl) hsaid

end Unchanged

/-! ### What a pass that reached `SetReady` leaves -/

structure NetworkSettled (o : StackitCluster) (c : Cloud) : Prop where
  named : o.networkID ≠ ""
  there : NetworkThere o.networkID c
  status : o.status.network = ⟨o.networkID, o.spec.networkID == ""⟩

structure LoadBalancerSettled (env : Env Session) (o : StackitCluster) (c : Cloud)
    (machines : List Machine) (l : LoadBalancer) : Prop where
  listed : env.controlPlaneMachines = .ok machines
  tags : DistinctRewrites o.tags
  tagged : o.tags.entries.isEmpty = false
  this : loadBalancersOf o.tags c = [l]
  address : l.ip ≠ ""
  id : o.status.apiServerLoadBalancerID = l.id
  specEndpoint : o.spec.controlPlaneEndpoint = ⟨l.ip, defaultAPIServerPort⟩
  endpoint : o.status.apiServerEndpoint = ⟨l.ip, defaultAPIServerPort⟩
  condition : isStatusConditionTrue o.conditions clusterLoadBalancerReadyCondition = true
  targets : apiServerTargets env.sha256Hex machines = [] ∨
    TargetsHeld l.id defaultAPIServerPort (apiServerTargets env.sha256Hex machines) c

structure ExternalSettled (o : StackitCluster) : Prop where
  host : o.spec.controlPlaneEndpoint.host ≠ ""
  endpoint : o.status.apiServerEndpoint = o.spec.controlPlaneEndpoint
  condition : Says o.conditions clusterLoadBalancerReadyCondition .true "Skipped"
    "external endpoint provided"

def EndpointSettled (env : Env Session) (o : StackitCluster) (c : Cloud) : Prop :=
  if o.spec.apiServerLoadBalancerEnabled then ∃ machines l, LoadBalancerSettled env o c machines l
  else ExternalSettled o

theorem EndpointSettled.loadBalancer {env : Env Session} {o : StackitCluster}
    {machines : List Machine} {l : LoadBalancer}
    (henabled : o.spec.apiServerLoadBalancerEnabled = true)
    (h : LoadBalancerSettled env o c machines l) :
    EndpointSettled env o c := by
  rw [EndpointSettled, if_pos henabled]
  exact ⟨machines, l, h⟩

theorem EndpointSettled.external {env : Env Session} {o : StackitCluster}
    (hdisabled : ¬ o.spec.apiServerLoadBalancerEnabled = true) (h : ExternalSettled o) :
    EndpointSettled env o c := by
  rw [EndpointSettled, if_neg hdisabled]
  exact h

structure BastionHeld (env : Env Session) (o : StackitCluster) (c : Cloud) (cloudInit : String)
    (b : Bastion) : Prop where
  valid : validateBastionSpec o.spec.bastion = none
  resolved : resolveBastionCloudInit env o = .ok cloudInit
  repeats : Repeats c (SDKClient.ensureBastion (bastionInput o cloudInit)) b
  running : (serverStateCondition b.serverState b.serverPowerStatus).ready = true
  address : b.publicIP ≠ ""
  status : o.status.bastion =
    ⟨b.serverID, b.publicIPID, b.publicIP, b.securityGroupID, bastionCloudInitHash env cloudInit⟩
  condition : Says o.conditions clusterBastionReadyCondition .true "Available" ""

def BastionSettled (env : Env Session) (o : StackitCluster) (c : Cloud) : Prop :=
  if o.spec.bastion.enabled then ∃ cloudInit b, BastionHeld env o c cloudInit b
  else Says o.conditions clusterBastionReadyCondition .true bastionDisabledReason "bastion disabled"

structure Settled (env : Env Session) (o : StackitCluster) (c : Cloud) : Prop where
  finalizer : containsFinalizer o.metadata clusterFinalizer = true
  client : buildCloudClient env.source o = .ok sdkClient
  zones : o.status.failureDomains = failureDomainsFromZones o.spec.region c.zones
  network : NetworkSettled o c
  endpoint : EndpointSettled env o c
  bastion : BastionSettled env o c
  ready : o.status.ready = true
  provisioned : o.status.provisioned = true
  credentialsSay : Says o.conditions clusterCredentialsReadyCondition .true "Available" ""
  networkSays : Says o.conditions clusterNetworkReadyCondition .true "Available" ""
  readySays : Says o.conditions clusterReadyCondition .true "Available" ""

/-! ### The next pass -/

section again
variable {env : Env Session} {o : StackitCluster} {g : Int} {q : Pass StackitCluster Session}

theorem again_ensureNetwork (h : NetworkSettled o s.cloud) (hq : Unchanged o g s q) :
    wp (ensureNetwork sdkClient) (fun r q' => (∃ n, r = .ok (.inr n)) ∧ Unchanged o g s q') q := by
  obtain ⟨n, hn, hid⟩ := h.there.repeats
  have hset : ∀ net cs, o.status.network = net → (observedAt o g cs).setNetwork net = observedAt o
      g cs := by
    rintro net cs rfl
    rfl
  -- the network is found under its ID and recorded as it was
  have hfound : ∀ {managed reason t}, managed = (o.spec.networkID == "") → Stays q.cloud t →
      NetworkAnswer (fun r q' => (∃ n, r = .ok (.inr n)) ∧ Unchanged o g s q') q managed reason
        (.ok n) t := by
    rintro _ reason t rfl ht
    refine ⟨⟨n, rfl⟩, (hq.call ht).write (f := (StackitCluster.setNetwork · _)) fun cs =>
      hset _ cs ?_⟩
    rw [h.status, hid]
  have hrecorded : q.obj.spec.networkID = "" → q.obj.status.network.id = o.networkID := by
    rw [hq.spec, hq.status]
    exact fun hspec => (if_neg (not_not.2 hspec)).symm
  refine wp_ensureNetwork (fun hne => ?unmanaged) (fun hspec _ => ?recorded)
    fun hspec t hmissing => ?missing
  case unmanaged =>
    rw [hq.spec] at hne ⊢
    rw [← show o.networkID = o.spec.networkID from if_pos hne]
    exact hn.wp hq.cloud.answered hq.cloud.cloud fun t ht => hfound (by simpa using hne) ht
  case recorded =>
    rw [hrecorded hspec]
    rw [hq.spec] at hspec
    exact hn.wp hq.cloud.answered hq.cloud.cloud fun t ht _ => hfound (by simpa using hspec) ht
  case missing =>
    cases hmissing with
    | unrecorded hnone => exact absurd ((hrecorded hspec).symm.trans hnone) h.named
    | gone hget =>
      rw [hrecorded hspec] at hget
      have hok : wp (SDKClient.getNetwork o.networkID) (fun r _ => r = .ok n) q.cloud :=
        hn.wp hq.cloud.answered hq.cloud.cloud fun _ _ => rfl
      cases hok.of_run hget

theorem again_reconcileTargets {machines : List Machine} {l : LoadBalancer}
    (h : LoadBalancerSettled env o s.cloud machines l) (hq : Unchanged o g s q) :
    wp (reconcileTargets sdkClient l (apiServerTargets env.sha256Hex machines))
      (fun r q' => r = .ok none ∧ Unchanged o g s q') q := by
  have hwas : (isStatusConditionTrue q.obj.conditions clusterLoadBalancerReadyCondition &&
      q.obj.status.apiServerEndpoint.host == l.ip) = true := by
    rw [isStatusConditionTrue_content hq.conditions, h.condition, hq.status, h.endpoint]
    simp
  have hwritten : Unchanged o g s { q with obj := withEndpoint l q.obj } := by
    rw [withEndpoint, if_pos hwas]
    refine hq.write (f := (StackitCluster.setAPIServerEndpoint · _)) fun cs => ?_
    rw [StackitCluster.setAPIServerEndpoint, ← h.specEndpoint]
    nth_rewrite 2 [h.specEndpoint]
    rw [← h.endpoint]
    rfl
  refine wp_reconcileTargets (fun _ => ⟨rfl, hwritten⟩) fun hne => ?_
  exact (repeats_setAPIServerLoadBalancerTargets (h.targets.resolve_left hne)).wp
    hq.cloud.answered hq.cloud.cloud fun t ht => ⟨rfl, hwritten.call ht⟩

theorem again_reconcileEndpoint (h : EndpointSettled env o s.cloud) (hq : Unchanged o g s q)
    (network : Network) :
    wp (reconcileEndpoint env sdkClient network)
      (fun r q' => r = .ok none ∧ Unchanged o g s q') q := by
  have hexternal : q.obj.spec.apiServerLoadBalancerEnabled = false → ExternalSettled o := by
    intro hoff
    rw [hq.spec] at hoff
    rwa [EndpointSettled, if_neg (by simp [hoff])] at h
  refine wp_reconcileEndpoint (fun henabled => ?enabled) (fun hoff _ => ?external)
    fun hoff hhost => absurd (hq.spec ▸ hhost) (hexternal hoff).host
  case enabled =>
    rw [hq.spec] at henabled
    rw [EndpointSettled, if_pos henabled] at h
    obtain ⟨machines, l, h⟩ := h
    have htags : q.obj.tags = o.tags := by rw [hq.obj_eq]; rfl
    have hensured : ∀ targets,
        Repeats s.cloud (ensureAPIServerLoadBalancer (apiServerInput q.obj targets)) l := by
      intro targets
      have hinput : (apiServerInput q.obj targets).tags = o.tags := htags
      refine repeats_ensureAPIServerLoadBalancer ?_ ?_ ?_
      · rw [hinput]
        exact h.tags
      · rw [hinput]
        exact h.tagged
      · rw [hinput]
        exact h.this
    refine wp_reconcileLoadBalancer (fun err herr => ?_) fun machines' hmachines => ?_
    · rw [h.listed] at herr
      cases herr
    obtain rfl : machines = machines' := Except.ok.inj (h.listed.symm.trans hmachines)
    refine (hensured _).wp hq.cloud.answered hq.cloud.cloud fun t ht =>
      ⟨fun hip => absurd hip h.address, fun _ => again_reconcileTargets h ?_⟩
    refine (hq.call ht).write (f := (·.setLoadBalancerID l.id)) fun cs => ?_
    rw [StackitCluster.setLoadBalancerID, ← h.id]
    rfl
  case external =>
    have h := hexternal hoff
    have hwritten : Unchanged o g s { q with obj := { q.obj with
        status := { q.obj.status with apiServerEndpoint := q.obj.spec.controlPlaneEndpoint } } } :=
      hq.write
        (f := fun sc =>
        { sc with status := { sc.status with apiServerEndpoint := sc.spec.controlPlaneEndpoint } })
        fun cs => by
          have hendpoint : (observedAt o g cs).spec.controlPlaneEndpoint =
              (observedAt o g cs).status.apiServerEndpoint :=
            h.endpoint.symm
          rw [hendpoint]
    exact ⟨rfl, Unchanged.setConditions hwritten (by simpa using h.condition)⟩

theorem again_reconcileBastion (h : BastionSettled env o s.cloud) (hq : Unchanged o g s q) :
    wp (reconcileBastion env sdkClient)
      (fun r q' => (∃ result, r = .ok (result, true)) ∧ Unchanged o g s q') q := by
  unfold BastionSettled at h
  split at h
  · rename_i henabled
    obtain ⟨cloudInit, b, h⟩ := h
    have hwanted : BastionWanted env q.obj cloudInit := by
      rw [hq.obj_eq]
      exact ⟨henabled, h.valid, h.resolved⟩
    have hcurrent : bastionNeedsRecreate env q.obj cloudInit = false := by
      rw [bastionNeedsRecreate, hq.status, h.status]
      simp
    have hinput : bastionInput q.obj cloudInit = bastionInput o cloudInit := by
      rw [hq.obj_eq]
      rfl
    refine wp_reconcileBastion_wanted hwanted (fun hnot => by simp [hcurrent] at hnot) fun _ =>
      wp_ensureBastion ?_
    rw [hinput]
    refine h.repeats.wp hq.cloud.answered hq.cloud.cloud fun t ht => ?_
    have hwritten : Unchanged o g s
        { q with obj := q.obj.setBastionStatus b (bastionCloudInitHash env cloudInit),
                 cloud := t } := by
      refine (hq.call ht).write (f := (StackitCluster.setBastionStatus · b _)) fun cs => ?_
      rw [StackitCluster.setBastionStatus, ← h.status]
      rfl
    refine ⟨fun hdown => ?_, fun hip => absurd hip h.address, fun _ _ =>
      ⟨⟨_, rfl⟩, Unchanged.setConditions hwritten (by simpa using h.condition)⟩⟩
    simp [h.running] at hdown
  · rename_i hdisabled
    have hoff : q.obj.spec.bastion.enabled = false := by
      rw [hq.spec]
      simpa using hdisabled
    have hskipped : bastionSkipped q.obj.conditions = true := by
      obtain ⟨g', hg'⟩ := h.congr hq.conditions.symm
      rw [bastionSkipped, hg']
      exact beq_self_eq_true _
    refine wp_reconcileBastion_disabled hoff (wp_disableBastion (fun _ => ?_) fun hnot => ?_)
    · exact ⟨⟨_, rfl⟩, hq.setConditions (by simpa using h)⟩
    · simp [hskipped] at hnot

/-- The failure domains are overwritten and read again. -/
theorem again_reconcileInfrastructure (h : Settled env o s.cloud) (hq : Unchanged o g s q) :
    wp (reconcileInfrastructure env)
      (fun r q' => r = .ok (.inr sdkClient) ∧ Unchanged o g s q') q := by
  have hclient : buildCloudClient env.source q.obj = .ok sdkClient := by
    rw [hq.obj_eq]
    exact h.client
  have hcredentials : Unchanged o g s { q with obj := withCredentials q.obj } :=
    hq.setConditions (by simpa using h.credentialsSay)
  refine wp_reconcileInfrastructure_client hclient (wp_reconcileResources
    (repeats_listAvailabilityZones.wp hq.cloud.answered hq.cloud.cloud fun t ht => ?_))
  have hwritten := (hcredentials.call ht).write
    (f := fun sc => sc.setFailureDomains (failureDomainsFromZones sc.spec.region s.cloud.zones))
    fun cs => by
      show ({ observedAt o g cs with status := { o.status with
        failureDomains := failureDomainsFromZones o.spec.region s.cloud.zones } } :
          StackitCluster) = observedAt o g cs
      rw [← h.zones]
      rfl
  rw [zonesAnswer_ok]
  refine (again_ensureNetwork h.network hwritten).imp fun r q₁ hr => ?_
  obtain ⟨⟨n, rfl⟩, hq₁⟩ := hr
  rw [networkEnd_inr]
  refine (again_reconcileEndpoint h.endpoint
    (Unchanged.setConditions hq₁ (by simpa using h.networkSays)) n).imp fun r q₂ hr => ?_
  obtain ⟨rfl, hq₂⟩ := hr
  exact ⟨rfl, hq₂⟩

theorem Settled.reconcileNormal (h : Settled env o s.cloud) (hq : Unchanged o g s q) :
    wp (reconcileNormal env) (fun r q' => r = .ok {} ∧ Unchanged o g s q') q := by
  have hfinalizer : containsFinalizer q.obj.metadata clusterFinalizer = true := by
    rw [hq.obj_eq]
    exact h.finalizer
  refine wp_reconcileNormal (fun _ => wp_reconcileFinalized ?_)
    (fun hnot => by simp [hfinalizer] at hnot) fun hnot => by simp [hfinalizer] at hnot
  refine (again_reconcileInfrastructure h hq).imp fun r q₁ hr => ?_
  obtain ⟨rfl, hq₁⟩ := hr
  rw [infrastructureEnd_inr]
  refine wp_finishWithBastion ((again_reconcileBastion h.bastion hq₁).imp fun r q₂ hr => ?_)
  obtain ⟨⟨result, rfl⟩, hq₂⟩ := hr
  have hwritten :=
    hq₂.write
    (f := fun sc => { sc with status := { sc.status with ready := true, provisioned := true } })
    fun cs => by
      show ({ observedAt o g cs with
        status := { o.status with ready := true, provisioned := true } } : StackitCluster) = _
      rw [← h.ready]
      nth_rewrite 2 [h.ready]
      rw [← h.provisioned]
      rfl
  exact ⟨rfl, Unchanged.setConditions hwritten (by simpa using h.readySays)⟩

end again

end ClusterReconciler

end Capstk
