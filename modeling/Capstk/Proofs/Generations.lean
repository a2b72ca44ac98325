import Capstk.Proofs.Fixpoint

/-!
# Conditions and the generation they observed

A pass that reaches `SetReady` writes every condition of its reconciler with the generation of the
object, with one exception: the condition of a cluster's load balancer stays as it is if it was true
already and the endpoint in the status is the address of the load balancer. It then still carries
the generation of the pass that wrote it.
-/

namespace Capstk

open Prog

/-- There is a condition of this type, and it observed this generation. -/
def Observes (conditions : List Condition) (generation : Int) (conditionType : String) : Prop :=
  ∃ c, findStatusCondition conditions conditionType = some c ∧ c.observedGeneration = generation

instance (conditions : List Condition) (generation : Int) (conditionType : String) :
    Decidable (Observes conditions generation conditionType) :=
  decidable_of_iff
    ((findStatusCondition conditions conditionType).any (·.observedGeneration == generation) =
    true) <| by
    simp [Observes, Option.any_eq_true]

def clusterConditionTypes : List String :=
  [clusterReadyCondition, clusterNetworkReadyCondition, clusterLoadBalancerReadyCondition,
    clusterCredentialsReadyCondition, clusterBastionReadyCondition]

def machineConditionTypes : List String :=
  [machineReadyCondition, machineBootstrapReadyCondition, machineCredentialsReadyCondition,
    machineInstanceReadyCondition]

/-! ### Machines -/

namespace MachineReconciler
variable {σ : Type} {src : ClientSource σ} {ctx : MachineContext} {p : Pass StackitMachine σ}

theorem wp_persistFinalizer_generation : wp (persistFinalizer : Step σ Unit) (fun _ q =>
    q.obj.metadata.generation = p.obj.metadata.generation) p := by
  have hadded : (addFinalizer p.obj.metadata machineFinalizer).generation =
      p.obj.metadata.generation := by
    unfold addFinalizer
    split <;> rfl
  exact wp_persistFinalizer (fun _ => rfl) fun _ _ _ => hadded

theorem observes_of_reachesSetReady (h : reachesSetReady src ctx p = true) :
    ∀ t ∈ machineConditionTypes,
    Observes ((reconcileNormal src ctx).after p).obj.conditions p.obj.metadata.generation t := by
  obtain ⟨p₁, data, client, server, s, t, hreached⟩ := reachesSetReady_cases h
  have hgen := wp_persistFinalizer_generation.of_run hreached.persisted
  intro t ht
  rw [hreached.after, ← hgen]
  exact ⟨_, find_finished p₁.obj t (by simp [machineConditionTypes] at ht ⊢; tauto), rfl⟩

end MachineReconciler

/-! ### The load balancer a pass finds -/

namespace SDKClient

/-- The load balancers that the tags select, in the order of the next `range` over the tags. -/
def selected (T : StringMap) (s : Session) : List LoadBalancer :=
  (s.cloud.loadBalancers.filter fun x =>
    mapContains x.labels (loadBalancerLabels (nextRange T s.orders))).map
    loadBalancerFromSDK

/-- The address of a load balancer that is made under this name now. -/
def newAddress (name : String) (c : Cloud) : String :=
  firstNonEmpty [c.provisioning.externalAddress name, c.provisioning.privateAddress name]

/-- The addresses that the next `EnsureAPIServerLoadBalancer` may answer with: those of the load
balancers that the tags select, or, if there is none, that of a new one. -/
def answeredAddresses (T : StringMap) (name : String) (s : Session) : List String :=
  if (selected T s).isEmpty then [newAddress name s.cloud] else (selected T s).map (·.ip)

theorem wp_findLoadBalancerByTags_selected (T : StringMap) (s : Session) :
    wp (findLoadBalancerByTags T) (fun r t => t.cloud = s.cloud ∧ match r with
      | .ok l => selected T s = [l]
      | .error e => (isNotFound e || isLoadBalancerServiceNotEnabled e) = true →
          selected T s = []) s := by
  unfold findLoadBalancerByTags
  rw [wp_bind]
  refine (wp_listAPIServerLoadBalancersByTags_next T s).imp fun r t ⟨hc, hr⟩ => ?_
  cases r with
  | error e =>
    refine ⟨hc, fun h => ?_⟩
    rw [hr.1, hr.2] at h
    cases h
  | ok out =>
    rw [next_ok]
    refine wp_single (fun hnone => ⟨hc, fun _ => hr.symm.trans hnone⟩)
      (fun l hl => ⟨hc, hr.symm.trans hl⟩) fun _ =>
      ⟨hc, fun h => ?_⟩
    rw [isNotFound_errorf, isLoadBalancerServiceNotEnabled_of_not rfl] at h
    cases h

theorem wp_ensureAPIServerLoadBalancer_address (input : LoadBalancerInput) (s : Session) :
    wp (ensureAPIServerLoadBalancer input) (fun r _ => ∀ l, r = .ok l →
      answeredAddresses input.tags input.name s = [l.ip]) s := by
  refine wp_existingOr_of (wp_findLoadBalancerByTags_selected input.tags s)
    (fun l t hr l' hl' => ?found)
    (fun e t hr hmissing => ?created) fun _ _ _ _ _ h => by cases h
  case found =>
    cases hl'
    rw [answeredAddresses, hr.2]
    rfl
  case created =>
    have hnone : selected input.tags s = [] := hr.2 hmissing
    rw [wp_bind]
    refine ((sameCloud_newLoadBalancerLabels input.tags).wp t).imp fun r u hu => ?_
    cases r with
    | error e => exact fun _ h => by cases h
    | ok labels =>
      rw [next_ok, wp_bind]
      refine wp_request fun r c v hsettled _ => ?_
      cases r with
      | error e => exact fun _ h => by cases h
      | ok l =>
        have hok := hsettled.ok
        unfold Cloud.createLoadBalancer at hok
        split at hok
        · cases hok
        · cases hok
          rw [next_ok, wp_pure]
          intro l hl
          cases hl
          rw [answeredAddresses, hnone, hu, hr.1]
          rfl

/-- The load balancers, the order of the next `range` and the answers to come are as before. -/
def SameSelection (s t : Session) : Prop :=
  (t.cloud.loadBalancers = s.cloud.loadBalancers ∧ t.cloud.provisioning = s.cloud.provisioning) ∧
    t.orders = s.orders

theorem SameSelection.closed : Closed SameSelection :=
  ((Closed.ofEq fun s : Session => s.cloud.loadBalancers).and
    (Closed.ofEq fun s : Session => s.cloud.provisioning)).and (Closed.ofEq Session.orders)

theorem sameSelection_request {α : Type} {op : String} {req : Request} {effect : Cloud.Effect α}
    (h : ∀ c, (effect c).2.loadBalancers = c.loadBalancers ∧
      (effect c).2.provisioning = c.provisioning) :
    Keeps SameSelection (request op req effect) := fun s =>
  ⟨keeps_request (R := fun c c' => c'.loadBalancers = c.loadBalancers ∧
    c'.provisioning = c.provisioning)
    (fun _ => ⟨rfl, rfl⟩) h s, rfl⟩

theorem known_sdkClient (T : StringMap) (name : String) (s : Session) :
    ClusterReconciler.Known sdkClient SameSelection T name
      (fun l => answeredAddresses T (name ++ "-apiserver") s = [l.ip]) s := by
  have hR := SameSelection.closed
  refine ⟨hR, sameSelection_request fun _ => ⟨rfl, rfl⟩, fun id => ?get, fun input => ?create,
    fun t ht input htags hname => ?find⟩
  case get =>
    exact .bind hR
      (sameSelection_request fun c => by rw [readOnly_getNetwork id c]; exact ⟨rfl, rfl⟩) fun _ =>
      .pure hR _
  case create =>
    have hcreate : Keeps SameSelection (do
        pure (networkFromSDK
          (← request "create network" (.createNetwork input.name input.tags input.ipv4Prefix)
          (Cloud.createNetwork input.name input.tags input.ipv4Prefix)))) :=
      .bind hR (sameSelection_request fun _ => ⟨rfl, rfl⟩) fun _ => .pure hR _
    have hlist : Keeps SameSelection (listNetworksByTags input.tags) :=
      keeps_requireTags hR (.bind hR (sameSelection_request fun _ => ⟨rfl, rfl⟩) fun _ =>
        .pure hR _)
    exact .ite (.fail hR _)
      (.ite hcreate (keeps_existingOr hR (.bind hR hlist fun l => keeps_single hR _ _ l) hcreate))
  case find =>
    have hselected : selected T t = selected T s := by rw [selected, selected, ht.1.1, ht.2]
    have hsame : answeredAddresses T (name ++ "-apiserver") t = answeredAddresses T
        (name ++ "-apiserver") s := by
      rw [answeredAddresses, answeredAddresses, hselected, newAddress, newAddress, ht.1.2]
    rw [← hsame, ← htags, ← hname]
    exact (wp_ensureAPIServerLoadBalancer_address input t).imp fun _ _ h l hl _ => h l hl

end SDKClient

/-! ### Clusters -/

/-- The condition of the load balancer is true, but not for this generation, and the endpoint in the
status is an address that the look-up of the load balancer may answer with. -/
def OutdatedLoadBalancer (sc : StackitCluster) (s : Session) : Prop :=
  sc.spec.apiServerLoadBalancerEnabled = true ∧
    (∃ c, findStatusCondition sc.conditions clusterLoadBalancerReadyCondition = some c ∧
      c.status = .true ∧
      c.observedGeneration ≠ sc.metadata.generation) ∧
    sc.status.apiServerEndpoint.host ∈ SDKClient.answeredAddresses sc.tags
      (sc.metadata.name ++ "-apiserver") s

theorem isStatusConditionTrue_iff {cs : List Condition} {t : String} :
    isStatusConditionTrue cs t = true ↔ ∃ c, findStatusCondition cs t = some c ∧
    c.status = .true := by
  unfold isStatusConditionTrue
  cases findStatusCondition cs t with
  | none => simp
  | some c => simp

namespace ClusterReconciler
variable {env : Env Session} {p : Pass StackitCluster Session}

theorem observes_of_find {cs : List Condition} {t reason message : String}
    {st : ConditionStatus} {g : Int}
    (h : findStatusCondition cs t = some ⟨t, st, reason, message, g⟩) : Observes cs g t :=
  ⟨_, h, rfl⟩

theorem observes_loadBalancer_iff {sc sc' : StackitCluster} {s : Session}
    (h : LoadBalancerMark
      (fun l => SDKClient.answeredAddresses sc.tags (sc.metadata.name ++ "-apiserver") s = [l.ip])
      sc
      (findStatusCondition sc'.conditions clusterLoadBalancerReadyCondition)) :
    Observes sc'.conditions sc.metadata.generation clusterLoadBalancerReadyCondition ↔
      ¬ OutdatedLoadBalancer sc s := by
  rcases h with ⟨lb, hlb, henabled, hready, hhost, hsame⟩ | ⟨reason, message, hwhy, hnew⟩
  · unfold Observes OutdatedLoadBalancer
    rw [hsame]
    constructor
    · rintro ⟨c, hc, hgen⟩ ⟨-, ⟨c', hc', -, hother⟩, -⟩
      obtain rfl : c = c' := Option.some.inj (hc.symm.trans hc')
      exact hother hgen
    · intro hcurrent
      obtain ⟨c, hc, htrue⟩ := isStatusConditionTrue_iff.1 hready
      refine ⟨c, hc, ?_⟩
      by_contra hother
      exact hcurrent ⟨henabled, ⟨c, hc, htrue, hother⟩, by simp [hlb, hhost]⟩
  · refine iff_of_true (observes_of_find hnew) ?_
    rintro ⟨henabled, ⟨c, hc, hready, -⟩, hhost⟩
    obtain ⟨lb, hlb, hnot⟩ := hwhy henabled
    rw [hlb, List.mem_singleton] at hhost
    exact hnot ⟨isStatusConditionTrue_iff.2 ⟨c, hc, hready⟩, hhost⟩

theorem observes_iff_of_reachesSetReady (hsource : SDKSource env.source p.obj)
    (hreach : reachesSetReady env p = true) :
    (∀ t ∈ clusterConditionTypes,
      Observes ((reconcileNormal env).after p).obj.conditions p.obj.metadata.generation t) ↔
    ¬ OutdatedLoadBalancer p.obj p.cloud := by
  have hmarks : ReadyMarks
      (fun l => SDKClient.answeredAddresses p.obj.tags (p.obj.metadata.name ++ "-apiserver")
        p.cloud = [l.ip]) p.obj
      ((reconcileNormal env).after p).obj := by
    refine readyMarks_of_reachesSetReady (K := SDKClient.SameSelection)
      (fun client hclient => ?_) hreach
    obtain rfl := sdkSource_withFinalizer hsource client hclient
    exact SDKClient.known_sdkClient p.obj.tags p.obj.metadata.name p.cloud
  have hlb := observes_loadBalancer_iff hmarks.loadBalancer
  obtain ⟨reason, message, hbastion⟩ := hmarks.bastion
  rw [hmarks.generation] at hbastion
  constructor
  · intro h
    exact hlb.1 (h _ (by simp [clusterConditionTypes]))
  · intro h t ht
    simp only [clusterConditionTypes, List.mem_cons, List.not_mem_nil, or_false] at ht
    rcases ht with rfl | rfl | rfl | rfl | rfl
    · exact observes_of_find hmarks.ready
    · exact observes_of_find hmarks.network
    · exact hlb.2 h
    · exact observes_of_find hmarks.credentials
    · exact observes_of_find hbastion

end ClusterReconciler

/-- A pass that reaches `SetReady` leaves every condition with the generation it started from: for a
machine always, for a cluster unless the condition of its load balancer was true for an earlier
generation and the address is still the same. -/
theorem observed_generation_iff (env : ClusterReconciler.Env Session)
    (p : Pass StackitCluster Session) (hsource : SDKSource env.source p.obj)
    (hreach : ClusterReconciler.reachesSetReady env p = true) :
    ((∀ t ∈ clusterConditionTypes,
      Observes ((ClusterReconciler.reconcileNormal env).after p).obj.conditions
      p.obj.metadata.generation t) ↔
      ¬ OutdatedLoadBalancer p.obj p.cloud) ∧
    ∀ (σ : Type) (src : ClientSource σ) (ctx : MachineContext) (m : Pass StackitMachine σ),
      MachineReconciler.reachesSetReady src ctx m = true →
      ∀ t ∈ machineConditionTypes,
        Observes ((MachineReconciler.reconcileNormal src ctx).after m).obj.conditions
        m.obj.metadata.generation t :=
  ⟨ClusterReconciler.observes_iff_of_reachesSetReady hsource hreach,
    fun _ _ _ _ => MachineReconciler.observes_of_reachesSetReady⟩

/-- A cluster that was never reconciled, with a load balancer that is there and has an address. -/
abbrev servedPass : Pass StackitCluster Session :=
  let sc : StackitCluster :=
    { metadata := { name := "c", namespace' := "ns" }
      spec := { ClusterWorld.sampleSpec with apiServerLoadBalancerEnabled := true } }
  let loadBalancer : SDKLoadBalancer :=
    { name := "c-apiserver", labels := loadBalancerLabels sc.tags.entries, serial := 0,
      externalAddress := "192.0.2.1" }
  { obj := sc, stored := sc,
    cloud := { cloud := { ids := .unary, loadBalancers := [loadBalancer] } } }

/-- The second pass, after a change of the spec, leaves the condition of the load balancer at the
first generation. -/
theorem observed_generation_outdated :
    let q := (ClusterReconciler.reconcileNormal ClusterReconciler.reportedEnv).after servedPass
    let p := ClusterReconciler.nextPass q 2
    ClusterReconciler.reachesSetReady ClusterReconciler.reportedEnv p = true ∧
    p.obj.metadata.generation = 2 ∧
      ¬ ∀ t ∈ clusterConditionTypes,
        Observes ((ClusterReconciler.reconcileNormal ClusterReconciler.reportedEnv).after
          p).obj.conditions 2 t := by
  decide +kernel

/-- The first pass writes all of them, and so does that of a machine. -/
theorem observed_generation_iff_first :
    (∀ t ∈ clusterConditionTypes, Observes
      ((ClusterReconciler.reconcileNormal ClusterReconciler.reportedEnv).after
        servedPass).obj.conditions 1 t) ∧
    ∀ t ∈ machineConditionTypes,
      Observes ((MachineReconciler.reconcileNormal .connected nodeContext).after
        nodePass).obj.conditions 1 t := by
  obtain ⟨hcluster, hmachine⟩ :=
    observed_generation_iff ClusterReconciler.reportedEnv servedPass (SourceOk.connected _).sdk
    (by decide +kernel)
  refine ⟨hcluster.2 ?_, hmachine Session .connected nodeContext nodePass (by decide +kernel)⟩
  rintro ⟨-, ⟨c, hc, -⟩, -⟩
  cases hc

end Capstk
