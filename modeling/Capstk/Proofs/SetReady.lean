import Capstk.Proofs.Readiness

/-!
# Passes that reach `SetReady`

A pass gets to `SetReady` past three writes of conditions: the credentials and the network are
marked when they are there, the load balancer's condition is only written if it was not true already
for its address, and the bastion's condition is the last write of `reconcileBastion`. Nothing after
them takes one back. Of the cloud client nothing is assumed; what may be known of its answers is a
parameter.
-/

namespace Capstk

theorem StackitCluster.find_setConditions (sc : StackitCluster) (st : ConditionStatus)
    (reason message : String) (types : List String) (t : String) :
    findStatusCondition (sc.setConditions st reason message types).conditions t =
      if t ∈ types then some ⟨t, st, reason, message, sc.metadata.generation⟩
      else findStatusCondition sc.conditions t :=
  findStatusCondition_setConditions ..

namespace ClusterReconciler

open Prog

variable {σ : Type} {env : Env σ} {client : Client σ} {p : Pass StackitCluster σ}

/-- The conditions that are true before the bastion is looked at. -/
structure Marked (cs : List Condition) : Prop where
  credentials : isStatusConditionTrue cs clusterCredentialsReadyCondition = true
  network : isStatusConditionTrue cs clusterNetworkReadyCondition = true
  loadBalancer : isStatusConditionTrue cs clusterLoadBalancerReadyCondition = true

theorem wp_ensureNetwork_obj :
    wp (ensureNetwork client)
      (fun r q => ∀ n, r = .ok (.inr n) → ∃ st, q.obj = p.obj.setNetwork st) p := by
  have hend : ∀ {managed reason r s}, NetworkAnswer (fun r q => ∀ n, r = .ok (.inr n) →
      ∃ st, q.obj = p.obj.setNetwork st) p managed reason r s := by
    rintro managed reason (err | n) s
    · exact fun r n hr => absurd hr (map_inl_ne r n)
    · exact fun _ _ => ⟨_, rfl⟩
  exact wp_ensureNetwork (fun _ => wp_of_forall fun _ _ => hend)
    (fun _ _ => wp_of_forall fun _ _ _ => hend) fun _ _ _ => wp_of_forall fun _ _ => hend

/-! ### The condition of the load balancer -/

/-- What a pass over `sc` leaves as the condition of the load balancer: it writes the condition,
except if that was true already for the address of the load balancer. `P` is what is known of the
load balancer. -/
inductive LoadBalancerMark (P : LoadBalancer → Prop) (sc : StackitCluster)
    (condition : Option Condition) : Prop
  | kept (lb : LoadBalancer) (known : P lb) (enabled : sc.spec.apiServerLoadBalancerEnabled = true)
    (ready : isStatusConditionTrue sc.conditions clusterLoadBalancerReadyCondition = true)
    (host : sc.status.apiServerEndpoint.host = lb.ip)
    (same : condition = findStatusCondition sc.conditions clusterLoadBalancerReadyCondition)
  | written (reason message : String)
    (why : sc.spec.apiServerLoadBalancerEnabled = true → ∃ lb, P lb ∧
      ¬ (isStatusConditionTrue sc.conditions clusterLoadBalancerReadyCondition = true ∧
        sc.status.apiServerEndpoint.host = lb.ip))
    (new : condition = some ⟨clusterLoadBalancerReadyCondition, .true, reason, message,
      sc.metadata.generation⟩)

theorem LoadBalancerMark.congr {P : LoadBalancer → Prop} {sc sc₁ : StackitCluster}
    {o : Option Condition} (h : LoadBalancerMark P sc₁ o) (hspec : sc₁.spec = sc.spec)
    (hgen : sc₁.metadata.generation = sc.metadata.generation)
    (hendpoint : sc₁.status.apiServerEndpoint = sc.status.apiServerEndpoint)
    (hfind : findStatusCondition sc₁.conditions clusterLoadBalancerReadyCondition =
      findStatusCondition sc.conditions clusterLoadBalancerReadyCondition) :
      LoadBalancerMark P sc o := by
  have htrue := isStatusConditionTrue_congr hfind
  cases h with
  | kept lb known enabled ready host same =>
    exact .kept lb known (hspec ▸ enabled) (htrue ▸ ready) (hendpoint ▸ host) (same.trans hfind)
  | written reason message why new =>
    rw [hspec, htrue, hendpoint] at why
    exact .written reason message why (hgen ▸ new)

theorem wp_reconcileTargets_obj (lb : LoadBalancer) (targets : List LoadBalancerTargetInput) :
    wp (reconcileTargets client lb targets)
      (fun r q => r = .ok none → q.obj = withEndpoint lb p.obj) p := by
  refine wp_reconcileTargets (fun _ _ => rfl) fun _ => wp_of_forall fun r s => ?_
  cases r with
  | ok _ => exact fun _ => rfl
  | error err => exact fun h => by cases h

/-- What `reconcileEndpoint` does to the conditions if the pass goes on. -/
structure EndpointMarks (P : LoadBalancer → Prop) (sc sc' : StackitCluster) : Prop where
  generation : sc'.metadata.generation = sc.metadata.generation
  others : ∀ t, t ≠ clusterLoadBalancerReadyCondition →
    findStatusCondition sc'.conditions t = findStatusCondition sc.conditions t
  loadBalancer :
    LoadBalancerMark P sc (findStatusCondition sc'.conditions clusterLoadBalancerReadyCondition)

theorem endpointMarks_withEndpoint {P : LoadBalancer → Prop} {sc : StackitCluster}
    {lb : LoadBalancer} (henabled : sc.spec.apiServerLoadBalancerEnabled = true) (hlb : P lb) :
    EndpointMarks P sc (withEndpoint lb sc) := by
  unfold withEndpoint
  split
  · rename_i hwas
    rw [Bool.and_eq_true, beq_iff_eq] at hwas
    exact ⟨rfl, fun t _ => rfl, .kept lb hlb henabled hwas.1 hwas.2 rfl⟩
  · rename_i hwas
    rw [Bool.and_eq_true, beq_iff_eq] at hwas
    refine ⟨rfl, fun t ht => ?_, .written "Available" "" (fun _ => ⟨lb, hlb, hwas⟩) ?_⟩
    · rw [StackitCluster.find_setConditions, if_neg (by simpa using ht)]
      rfl
    · rw [StackitCluster.find_setConditions, if_pos (by simp)]
      rfl

theorem wp_reconcileEndpoint_marks {P : LoadBalancer → Prop} (network : Network)
    (hlb : ∀ input : LoadBalancerInput, input.tags = p.obj.tags →
      input.name = p.obj.metadata.name ++ "-apiserver" →
      wp (client.ensureAPIServerLoadBalancer input) (fun r _ => ∀ l, r = .ok l → l.ip ≠ "" → P l)
      p.cloud) :
    wp (reconcileEndpoint env client network)
      (fun r q => r = .ok none → EndpointMarks P p.obj q.obj) p := by
  refine wp_reconcileEndpoint (fun henabled => ?enabled) (fun hdisabled _ _ => ?external)
    fun _ _ h => by cases h
  case enabled =>
    refine wp_reconcileLoadBalancer (fun _ _ h => by cases h) fun machines _ =>
      (hlb _ rfl rfl).imp fun r s hr => ?_
    cases r with
    | error err => exact fun r h => absurd h (map_some_ne r)
    | ok lb =>
      refine ⟨fun _ h => (by cases h), fun haddress => ?_⟩
      refine (wp_reconcileTargets_obj lb _).imp fun r q hq hnone => ?_
      have hmarks : EndpointMarks P (p.obj.setLoadBalancerID lb.id) q.obj :=
        hq hnone ▸ endpointMarks_withEndpoint henabled (hr lb rfl haddress)
      exact ⟨hmarks.generation, hmarks.others, hmarks.loadBalancer.congr rfl rfl rfl rfl⟩
  case external =>
    refine ⟨rfl, fun t ht => ?_, .written "Skipped" "external endpoint provided"
      (fun h => by rw [hdisabled] at h; cases h) ?_⟩
    · exact (StackitCluster.find_setConditions ..).trans (if_neg (by simpa using ht))
    · exact (StackitCluster.find_setConditions ..).trans (if_pos (by simp))

/-! ### Up to the bastion -/

/-- What is known of the calls before the bastion: those before the load balancer keep `K`, after
which a load balancer with an address is in `P`. -/
structure Known (client : Client σ) (K : σ → σ → Prop) (T : StringMap) (name : String)
    (P : LoadBalancer → Prop) (s : σ) : Prop where
  closed : Closed K
  zones : Keeps K client.listAvailabilityZones
  getNetwork : ∀ id, Keeps K (client.getNetwork id)
  createNetwork : ∀ input, Keeps K (client.createNetwork input)
  loadBalancer : ∀ t, K s t → ∀ input : LoadBalancerInput, input.tags = T →
    input.name = name ++ "-apiserver" →
    wp (client.ensureAPIServerLoadBalancer input) (fun r _ => ∀ l, r = .ok l → l.ip ≠ "" → P l) t

/-- What a pass over `sc` that goes on to the bastion has done to the conditions. -/
structure Marks (P : LoadBalancer → Prop) (sc sc' : StackitCluster) : Prop where
  generation : sc'.metadata.generation = sc.metadata.generation
  credentials : findStatusCondition sc'.conditions clusterCredentialsReadyCondition =
    some ⟨clusterCredentialsReadyCondition, .true, "Available", "", sc.metadata.generation⟩
  network : findStatusCondition sc'.conditions clusterNetworkReadyCondition =
    some ⟨clusterNetworkReadyCondition, .true, "Available", "", sc.metadata.generation⟩
  loadBalancer :
    LoadBalancerMark P sc (findStatusCondition sc'.conditions clusterLoadBalancerReadyCondition)

theorem wp_reconcileResources_marks {K : σ → σ → Prop} {P : LoadBalancer → Prop}
    (h : Known client K p.obj.tags p.obj.metadata.name P p.cloud) :
    wp (reconcileResources env client) (fun r q => r = .ok none → Marks P p.obj q.obj) p := by
  have hR : Closed fun p q : Pass StackitCluster σ => K p.cloud q.cloud :=
    ⟨fun p => h.closed.refl p.cloud, fun h₁ h₂ => h.closed.trans h₁ h₂⟩
  have hnetwork : Keeps (fun p q : Pass StackitCluster σ => K p.cloud q.cloud)
      (ensureNetwork client) :=
    keeps_ensureNetwork hR (fun _ p => h.closed.refl p.cloud)
      (fun _ _ _ p => h.closed.refl p.cloud) (fun id p => h.getNetwork id p.cloud) fun p _ =>
      h.createNetwork _ p.cloud
  refine wp_reconcileResources ((h.zones.wp p.cloud).imp fun r s hs => ?_)
  cases r with
  | error err => exact fun r h => absurd h (map_some_ne r)
  | ok zones =>
    rw [zonesAnswer_ok]
    refine ((hnetwork.wp _).and wp_ensureNetwork_obj).imp fun r q ⟨hq, hobj⟩ => ?_
    rcases r with e | result | network
    · exact fun h => by cases h
    · exact fun h => by cases h
    obtain ⟨st, hobj⟩ := hobj network rfl
    rw [networkEnd_inr]
    -- before the load balancer only the other conditions, the zones and the network were written
    refine (wp_reconcileEndpoint_marks (P := P) network fun input htags hname => ?_).imp
      fun r q' hq' hnone => ?_
    · refine h.loadBalancer _ (h.closed.trans hs hq) input (htags.trans ?_) (hname.trans ?_)
      · rw [hobj]
        rfl
      · rw [hobj]
        rfl
    · obtain ⟨hgen, hothers, hmark⟩ := hq' hnone
      set sc₁ := q.obj.setConditions .true "Available" "" [clusterNetworkReadyCondition] with hsc₁
      have hgen₁ : sc₁.metadata.generation = p.obj.metadata.generation := by rw [hsc₁, hobj]; rfl
      have hfind : ∀ t, t ≠ clusterNetworkReadyCondition → t ≠ clusterCredentialsReadyCondition →
          findStatusCondition sc₁.conditions t = findStatusCondition p.obj.conditions t := by
        intro t hn hc
        rw [hsc₁, StackitCluster.find_setConditions, if_neg (by simpa using hn), hobj]
        exact (StackitCluster.find_setConditions ..).trans (if_neg (by simpa using hc))
      refine ⟨hgen.trans hgen₁, ?_, ?_, hmark.congr ?_ hgen₁ ?_ (hfind _ (by decide) (by decide))⟩
      · rw [hothers _ (by decide), hsc₁, StackitCluster.find_setConditions,
          if_neg (by decide), hobj]
        exact (StackitCluster.find_setConditions ..).trans (if_pos (by decide))
      · rw [hothers _ (by decide), hsc₁, StackitCluster.find_setConditions,
          if_pos (by decide), hobj]
        rfl
      · rw [hsc₁, hobj]
        rfl
      · rw [hsc₁, hobj]
        rfl

theorem wp_reconcileInfrastructure_marks {K : σ → σ → Prop} {P : LoadBalancer → Prop}
    (h : ∀ client, buildCloudClient env.source
      (p.obj.setFailureDomains (stackitFailureDomains p.obj.spec.region)) =
      .ok client → Known client K p.obj.tags p.obj.metadata.name P p.cloud) :
    wp (reconcileInfrastructure env)
      (fun r q => ∀ client, r = .ok (.inr client) → Marks P p.obj q.obj) p := by
  refine wp_reconcileInfrastructure (fun _ _ r client hr => absurd hr (map_inl_ne r client))
    fun client hbuilt => ?_
  refine wp.imp (wp_reconcileResources_marks (h client hbuilt)) fun r q hq client' hr => ?_
  obtain ⟨hgen, hcredentials, hnetwork, hmark⟩ := hq (map_handOn_eq.1 hr).1
  exact ⟨hgen, hcredentials, hnetwork, hmark.congr rfl rfl rfl rfl⟩

/-! ### The bastion -/

theorem bastionFrame_conditions (client : Client σ) :
    BastionFrame client fun p q : Pass StackitCluster σ =>
    q.obj.metadata = p.obj.metadata ∧
      ∀ t, t ∉ [clusterBastionReadyCondition, clusterReadyCondition] →
      findStatusCondition q.obj.conditions t = findStatusCondition p.obj.conditions t where
  refl p := ⟨rfl, fun _ _ => rfl⟩
  trans h h' := ⟨h'.1.trans h.1, fun t ht => (h'.2 t ht).trans (h.2 t ht)⟩
  write hf p := by
    cases hf with
    | condition st reason message =>
      exact ⟨rfl, fun t ht => (StackitCluster.find_setConditions ..).trans (if_neg (by simp_all))⟩
    | notReady reason message =>
      exact ⟨rfl, fun t ht => (StackitCluster.find_setConditions ..).trans (if_neg ht)⟩
    | status b hash => exact ⟨rfl, fun _ _ => rfl⟩
    | cleared => exact ⟨rfl, fun _ _ => rfl⟩
    | ready =>
      exact ⟨rfl, fun t ht => (StackitCluster.find_setConditions ..).trans (if_neg (by simp_all))⟩
  deleteNodeSSHAccess _ := ⟨fun _ => ⟨rfl, fun _ _ => rfl⟩, fun _ => ⟨rfl, fun _ _ => rfl⟩⟩
  deleteBastion _ _ := ⟨fun _ => ⟨rfl, fun _ _ => rfl⟩, fun _ => ⟨rfl, fun _ _ => rfl⟩⟩
  ensureBastion _ := fun _ => ⟨rfl, fun _ _ => rfl⟩


/-- The bastion's condition was written with what the object says of its generation. -/
def BastionMarked (sc : StackitCluster) : Prop :=
  ∃ reason message, findStatusCondition sc.conditions clusterBastionReadyCondition =
    some ⟨clusterBastionReadyCondition, .true, reason, message, sc.metadata.generation⟩

theorem wp_reconcileBastion_condition :
    wp (reconcileBastion env client) (fun r q => ∀ result, r = .ok (result, true) →
    BastionMarked q.obj) p := by
  have hset : ∀ (sc : StackitCluster) (reason message : String),
      BastionMarked (sc.setConditions .true reason message [clusterBastionReadyCondition]) :=
    fun _ reason message =>
      ⟨reason, message, (StackitCluster.find_setConditions ..).trans (if_pos (by decide))⟩
  have hfail : ∀ (e : GoError) (s : σ) (result : Result),
      (.error e : Except GoError (Result × Bool)) = .ok (result, true) → BastionMarked p.obj :=
    fun _ _ _ h => by cases h
  refine wp_reconcileBastion (fun _ => ?disabled) (fun _ _ _ _ _ h => by cases h)
    (fun _ _ _ => ?recreate) fun _ _ _ => ?ensure
  case disabled =>
    exact wp_disableBastion (fun _ _ _ => hset _ _ _) fun _ => wp_orError_of_forall (fun _ _ =>
      wp_orError_of_forall (fun _ _ _ _ => hset _ _ _) hfail) hfail
  case recreate =>
    exact wp_recreateBastion (wp_orError_of_forall (fun _ _ =>
      wp_orError_of_forall (fun _ _ _ h => by cases h) hfail) hfail)
  case ensure =>
    refine wp_ensureBastion (wp_orError_of_forall (fun b s => ?_) hfail)
    exact ⟨fun _ _ h => (by cases h), fun _ _ h => (by cases h), fun _ _ _ _ => hset _ _ _⟩

/-- Whether `reconcileNormal` reaches `SetReady`. -/
def reachesSetReady (env : Env σ) (p : Pass StackitCluster σ) : Bool :=
  match persistFinalizer p with
  | (.ok _, p₁) =>
    match reconcileInfrastructure env p₁ with
    | (.ok (.inr client), p₂) =>
      match reconcileBastion env client p₂ with
      | (.ok (_, ready), _) => ready
      | _ => false
    | _ => false
  | _ => false

theorem reachesSetReady_cases (h : reachesSetReady env p = true) : ∃ p₁ p₂ p₃ client result,
    persistFinalizer p = (.ok (), p₁) ∧ reconcileInfrastructure env p₁ = (.ok (.inr client), p₂) ∧
      reconcileBastion env client p₂ = (.ok (result, true), p₃) ∧
      (reconcileNormal env).after p = { p₃ with obj := p₃.obj.setReady } := by
  unfold reachesSetReady at h
  split at h
  · rename_i p₁ hfin
    split at h
    · rename_i client p₂ hinfra
      split at h
      · rename_i result ready p₃ hbastion
        subst h
        refine ⟨p₁, p₂, p₃, client, result, hfin, hinfra, hbastion, ?_⟩
        have hend :
            wp (reconcileNormal env) (fun _ q => q = { p₃ with obj := p₃.obj.setReady }) p := by
          refine wp_reconcileNormal_of_run hfin (wp_reconcileFinalized (wp_of_run hinfra ?_))
          exact infrastructureEnd_inr.2 (wp_finishWithBastion (wp_of_run hbastion rfl))
        exact hend
      · cases h
    · cases h
  · cases h

/-- A pass over `sc` that reached `SetReady` has written every condition, that of the load balancer
apart. -/
structure ReadyMarks (P : LoadBalancer → Prop) (sc sc' : StackitCluster) :
    Prop extends Marks P sc sc' where
  bastion : BastionMarked sc'
  ready : findStatusCondition sc'.conditions clusterReadyCondition =
    some ⟨clusterReadyCondition, .true, "Available", "", sc.metadata.generation⟩

theorem wp_persistFinalizer_obj : wp (persistFinalizer : Step σ Unit) (fun r q => ∀ a, r = .ok a →
    q.cloud = p.cloud ∧ q.obj = withFinalizer p.obj) p := by
  refine wp_persistFinalizer (fun h _ _ => ⟨rfl, ?_⟩) fun _ _ _ _ _ => ⟨rfl, rfl⟩
  rw [withFinalizer, addFinalizer, if_pos h]

theorem generation_withFinalizer (sc : StackitCluster) :
    (withFinalizer sc).metadata.generation = sc.metadata.generation := by
  unfold withFinalizer addFinalizer
  split <;> rfl

theorem tags_withFinalizer (sc : StackitCluster) : (withFinalizer sc).tags = sc.tags := by
  unfold withFinalizer addFinalizer
  split <;> rfl

theorem name_withFinalizer (sc : StackitCluster) :
    (withFinalizer sc).metadata.name = sc.metadata.name := by
  unfold withFinalizer addFinalizer
  split <;> rfl

theorem sdkSource_withFinalizer {src : ClientSource Session} {sc : StackitCluster}
    (h : SDKSource src sc) :
    SDKSource src (withFinalizer sc) := by
  intro client hclient
  refine h client ?_
  rw [← hclient, buildCloudClient, buildCloudClient, credentialsSecretKey_withFinalizer]
  rfl

theorem readyMarks_of_reachesSetReady {K : σ → σ → Prop} {P : LoadBalancer → Prop}
    (h : ∀ client, buildCloudClient env.source
      ((withFinalizer p.obj).setFailureDomains (stackitFailureDomains p.obj.spec.region)) = .ok
      client →
      Known client K p.obj.tags p.obj.metadata.name P p.cloud) (hreach :
      reachesSetReady env p = true) :
    ReadyMarks P p.obj ((reconcileNormal env).after p).obj := by
  obtain ⟨p₁, p₂, p₃, client, result, hfin, hinfra, hbastion, hq⟩ := reachesSetReady_cases hreach
  obtain ⟨hcloud, hobj⟩ := wp_persistFinalizer_obj.of_run hfin () rfl
  have hmarks : Marks P p₁.obj p₂.obj := by
    refine (wp_reconcileInfrastructure_marks (K := K) ?_).of_run hinfra client rfl
    rw [hobj, hcloud, tags_withFinalizer, name_withFinalizer]
    exact h
  have hgen₁ : p₁.obj.metadata.generation = p.obj.metadata.generation :=
    hobj ▸ generation_withFinalizer p.obj
  obtain ⟨hgen, hcredentials, hnetwork, hmark⟩ := hmarks
  rw [hgen₁] at hgen hcredentials hnetwork
  obtain ⟨hmeta, hothers⟩ : p₃.obj.metadata = p₂.obj.metadata ∧ _ :=
    ((bastionFrame_conditions client).keeps_reconcileBastion env |>.wp p₂).of_run hbastion
  obtain ⟨reason, message, hbastion⟩ := wp_reconcileBastion_condition.of_run hbastion result rfl
  have hgen₃ : p₃.obj.metadata.generation = p.obj.metadata.generation :=
    (congrArg _ hmeta).trans hgen
  have hkept : ∀ t, t ∉ [clusterBastionReadyCondition, clusterReadyCondition] →
      findStatusCondition p₃.obj.setReady.conditions t = findStatusCondition
      p₂.obj.conditions t := by
    intro t ht
    refine ((StackitCluster.find_setConditions ..).trans (if_neg (by simp_all))).trans
      (hothers t ht)
  rw [hq]
  refine ⟨⟨hgen₃, ?_, ?_, ?_⟩, ⟨reason, message, ?_⟩, ?_⟩
  · rw [hkept _ (by decide)]
    exact hcredentials
  · rw [hkept _ (by decide)]
    exact hnetwork
  · rw [hkept _ (by decide)]
    exact hmark.congr (by rw [hobj]; rfl) hgen₁ (by rw [hobj]; rfl) (by rw [hobj]; rfl)
  · exact ((StackitCluster.find_setConditions ..).trans (if_neg (by decide))).trans hbastion
  · rw [← hgen₃]
    exact (StackitCluster.find_setConditions ..).trans (if_pos (by decide))

/-- Whatever the client: the conditions are true. -/
theorem conditions_of_reachesSetReady (h : reachesSetReady env p = true) :
    let q := (reconcileNormal env).after p
    Marked q.obj.conditions ∧ isStatusConditionTrue q.obj.conditions clusterBastionReadyCondition =
    true := by
  have hnothing : ∀ client : Client σ,
      Known client (fun _ _ => True) p.obj.tags p.obj.metadata.name (fun _ => True)
      p.cloud := fun _ =>
    ⟨⟨fun _ => trivial, fun _ _ => trivial⟩, fun _ => trivial, fun _ _ => trivial,
      fun _ _ => trivial,
      fun _ _ _ _ _ _ _ _ => trivial⟩
  have htrue : ∀ {cs : List Condition} {t reason message : String} {g : Int},
      findStatusCondition cs t = some ⟨t, .true, reason, message, g⟩ →
      isStatusConditionTrue cs t = true :=
    fun h => by rw [isStatusConditionTrue, h]; rfl
  have hmarks := readyMarks_of_reachesSetReady (fun client _ => hnothing client) h
  obtain ⟨reason, message, hbastion⟩ := hmarks.bastion
  refine ⟨⟨htrue hmarks.credentials, htrue hmarks.network, ?_⟩, htrue hbastion⟩
  rcases hmarks.loadBalancer with ⟨_, -, -, ready, -, same⟩ | ⟨_, _, -, new⟩
  · rw [isStatusConditionTrue_congr same]
    exact ready
  · exact htrue new

end ClusterReconciler

end Capstk
