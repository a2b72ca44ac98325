import Capstk.ClusterReconciler
import Capstk.Proofs.Pass
import Capstk.Proofs.Requests

/-!
# The rules of a cluster pass

The walk through the branches of `reconcileNormal`, once for each of its parts: a postcondition `Q`
of a part holds if it holds of what every branch returns and writes. Where a branch depends on what
the cloud answers, the rule asks for a weakest precondition of the call, and a predicate on the
answer says what becomes of it (`NetworkAnswer`, `LoadBalancerAnswer`, `ZonesAnswer`). A failure
that ends the pass may return an error or a result, so `Q` is asked for both.
-/

namespace Capstk.ClusterReconciler

open Prog

variable {σ : Type} {env : Env σ} {client : Client σ} {p : Pass StackitCluster σ}

/-! ### Failures -/

theorem map_some_ne (r : Except GoError Result) : r.map some ≠ .ok none := by
  cases r <;> simp [Except.map]

theorem map_inl_ne {α : Type} (r : Except GoError Result) (a : α) :
    r.map Sum.inl ≠ .ok (Sum.inr a) := by
  cases r <;> simp [Except.map]

theorem wp_failWith {f : List Condition → Int → List Condition × Except GoError Result}
    {Q : Except GoError Result → Pass StackitCluster σ → Prop}
    (h : Q (f p.obj.conditions p.obj.metadata.generation).2
      { p with
        obj := { p.obj with conditions := (f p.obj.conditions p.obj.metadata.generation).1 } }) :
    wp (failWith f) Q p := by
  unfold failWith
  rw [Pass.wp_getObj_bind]
  rcases hf : f p.obj.conditions p.obj.metadata.generation with ⟨conditions, result⟩
  rw [hf] at h
  cases result <;> exact h

theorem wp_failWith_map {α : Type} {g : Result → α}
    {f : List Condition → Int → List Condition × Except GoError Result}
    {Q : Except GoError α → Pass StackitCluster σ → Prop}
    (h : ∀ r : Except GoError Result, Q (r.map g) { p with
      obj := { p.obj with conditions := (f p.obj.conditions p.obj.metadata.generation).1 } }) :
    wp (do pure (g (← failWith f)) : Step σ α) Q p := by
  rw [wp_bind]
  exact wp_failWith (next_pure (h _))

/-- A failure marks the cluster not ready, whatever it returns. -/
theorem wp_cloudFailure {reason : String} {err : GoError} {returnError : Bool} {types : List String}
    {Q : Except GoError Result → Pass StackitCluster σ → Prop}
    (h : ∀ r, Q r { p with obj := p.obj.setNotReady reason err.text types }) :
    wp (cloudFailure reason err returnError types) Q p := by
  unfold cloudFailure
  rw [Pass.wp_setObj_bind]
  exact wp_failWith (h _)

theorem wp_cloudFailure_map {α : Type} {f : Result → α} {reason : String} {err : GoError}
    {returnError : Bool} {types : List String}
    {Q : Except GoError α → Pass StackitCluster σ → Prop}
    (h : ∀ r : Except GoError Result, Q (r.map f) { p with
      obj := p.obj.setNotReady reason err.text types }) :
    wp (do pure (f (← cloudFailure reason err returnError types)) : Step σ α) Q p := by
  rw [wp_bind]
  exact wp_cloudFailure fun r => next_pure (h r)

/-! ### The network -/

section network
variable {Q : Except GoError (Result ⊕ Network) → Pass StackitCluster σ → Prop}

/-- The network is recorded, or the cluster is marked for the error. -/
def NetworkAnswer (Q : Except GoError (Result ⊕ Network) → Pass StackitCluster σ → Prop)
    (p : Pass StackitCluster σ) (managed : Bool) (reason : String) :
    Except GoError Network → σ → Prop
  | .ok n, s =>
    Q (.ok (.inr n)) { p with obj := p.obj.setNetwork { id := n.id, managed }, cloud := s }
  | .error err, s => ∀ r : Except GoError Result, Q (r.map .inl) { p with
      obj := p.obj.setNotReady reason err.text [clusterNetworkReadyCondition, clusterReadyCondition]
      cloud := s }

/-- Why a managed network is created, and in which state: none is recorded, or the one that is
recorded is gone. -/
inductive NetworkMissing (client : Client σ) (sc : StackitCluster) (s : σ) : σ → Prop
  | unrecorded (h : sc.status.network.id = "") : NetworkMissing client sc s s
  | gone {err : GoError} {t : σ} (hget : client.getNetwork sc.status.network.id s = (.error err, t))
      (hnotFound : isNotFound err = true) : NetworkMissing client sc s t

theorem NetworkMissing.keeps {I : σ → Prop} {sc : StackitCluster} {s t : σ}
    (h : NetworkMissing client sc s t) (hs : I s)
    (hget : wp (client.getNetwork sc.status.network.id) (fun _ t => I t) s) : I t := by
  cases h with
  | unrecorded => exact hs
  | gone hrun => exact hget.of_run hrun

theorem wp_createManagedNetwork
    (h : wp (client.createNetwork (networkInput p.obj))
      (NetworkAnswer Q p true "NetworkCreateError") p.cloud) :
    wp (createManagedNetwork client) Q p := by
  unfold createManagedNetwork
  rw [Pass.wp_getObj_bind, Pass.wp_attempt_call_bind]
  refine h.imp fun r s hr => ?_
  cases r with
  | error err => exact wp_cloudFailure_map hr
  | ok n => exact hr

theorem wp_ensureNetwork
    (hunmanaged : p.obj.spec.networkID ≠ "" → wp (client.getNetwork p.obj.spec.networkID)
      (NetworkAnswer Q p false "NetworkNotFound") p.cloud)
    (hrecorded : p.obj.spec.networkID = "" → p.obj.status.network.id ≠ "" →
      wp (client.getNetwork p.obj.status.network.id)
        (fun r s => (∀ err, r = .error err → isNotFound err = false) →
          NetworkAnswer Q p true "NetworkError" r s) p.cloud)
    (hcreate : p.obj.spec.networkID = "" → ∀ s, NetworkMissing client p.obj p.cloud s →
      wp (client.createNetwork (networkInput p.obj))
        (NetworkAnswer Q p true "NetworkCreateError") s) :
    wp (ensureNetwork client) Q p := by
  unfold ensureNetwork
  rw [Pass.wp_getObj_bind]
  refine wp_ite (fun hne => ?unmanaged) fun heq => ?managed
  case unmanaged =>
    unfold getUnmanagedNetwork
    rw [Pass.wp_getObj_bind, Pass.wp_attempt_call_bind]
    refine (hunmanaged hne).imp fun r s hr => ?_
    cases r with
    | error err => exact wp_cloudFailure_map hr
    | ok n => exact hr
  case managed =>
    have heq : p.obj.spec.networkID = "" := not_not.1 heq
    unfold ensureManagedNetwork
    rw [Pass.wp_getObj_bind]
    refine wp_ite (fun hnone => wp_createManagedNetwork (hcreate heq _ (.unrecorded hnone)))
      fun hrec => ?_
    rw [Pass.wp_attempt_call_bind]
    rcases hget : client.getNetwork p.obj.status.network.id p.cloud with ⟨err | n, s⟩
    · refine wp_of_run hget (wp_ite (fun hnotFound => ?_) fun hfound => ?_)
      · exact wp_createManagedNetwork (hcreate heq s (.gone hget hnotFound))
      · refine wp_cloudFailure_map ((hrecorded heq hrec).of_run hget ?_)
        rintro _ ⟨⟩
        simpa using hfound
    · refine wp_of_run hget ((hrecorded heq hrec).of_run hget ?_)
      rintro _ ⟨⟩

end network

/-! ### The endpoint -/

section endpoint
variable {Q : Except GoError (Option Result) → Pass StackitCluster σ → Prop}

/-- The copy with the endpoint of a load balancer that has its targets. The condition is not written
if it was true already for this address. -/
def withEndpoint (lb : LoadBalancer) (sc : StackitCluster) : StackitCluster :=
  if isStatusConditionTrue sc.conditions clusterLoadBalancerReadyCondition &&
      sc.status.apiServerEndpoint.host == lb.ip then
    sc.setAPIServerEndpoint { host := lb.ip, port := defaultAPIServerPort }
  else (sc.setAPIServerEndpoint { host := lb.ip, port := defaultAPIServerPort }).setConditions
    .true "Available" "" [clusterLoadBalancerReadyCondition]

theorem withEndpoint_eq (lb : LoadBalancer) (sc : StackitCluster) : withEndpoint lb sc =
    { sc.setAPIServerEndpoint { host := lb.ip, port := defaultAPIServerPort } with
      conditions := (withEndpoint lb sc).conditions } := by
  unfold withEndpoint
  split <;> rfl

/-- The copy with the endpoint that the user provides. -/
def withExternalEndpoint (sc : StackitCluster) : StackitCluster :=
  { sc with status.apiServerEndpoint := sc.spec.controlPlaneEndpoint }.setConditions
    .true "Skipped" "external endpoint provided" [clusterLoadBalancerReadyCondition]

/-- The endpoint is written in any case. -/
def TargetsAnswer (Q : Except GoError (Option Result) → Pass StackitCluster σ → Prop)
    (p : Pass StackitCluster σ) (lb : LoadBalancer) : Except GoError Unit → σ → Prop
  | .ok _, s => Q (.ok none) { p with obj := withEndpoint lb p.obj, cloud := s }
  | .error err, s => Q (.ok (some { requeueAfter := retryableErrorRequeueAfter })) { p with
      obj := (p.obj.setAPIServerEndpoint
        { host := lb.ip, port := defaultAPIServerPort }).setConditions
        .false "LoadBalancerTargetError" err.text [clusterLoadBalancerReadyCondition]
      cloud := s }

theorem wp_reconcileTargets {lb : LoadBalancer} {targets : List LoadBalancerTargetInput}
    (hnone : targets = [] → Q (.ok none) { p with obj := withEndpoint lb p.obj })
    (hset : targets ≠ [] →
      wp (client.setAPIServerLoadBalancerTargets lb.id defaultAPIServerPort targets)
        (TargetsAnswer Q p lb) p.cloud) :
    wp (reconcileTargets client lb targets) Q p := by
  have hmark : ∀ s, Q (.ok none) { p with obj := withEndpoint lb p.obj, cloud := s } →
      wp (if isStatusConditionTrue p.obj.conditions clusterLoadBalancerReadyCondition &&
          p.obj.status.apiServerEndpoint.host == lb.ip then pure none
        else do
          Pass.setObj fun sc =>
            sc.setConditions .true "Available" "" [clusterLoadBalancerReadyCondition]
          pure none : Step σ (Option Result)) Q
        { p with
          obj := p.obj.setAPIServerEndpoint { host := lb.ip, port := defaultAPIServerPort }
          cloud := s } := by
    intro s hs
    rw [withEndpoint] at hs
    refine wp_ite (fun hwas => ?_) fun hwas => ?_
    · rwa [if_pos hwas] at hs
    · rwa [if_neg hwas] at hs
  unfold reconcileTargets
  rw [Pass.wp_getObj_bind, Pass.wp_setObj_bind]
  refine wp_ite (fun hempty => hmark _ (hnone (by simpa using hempty))) fun hne => ?_
  rw [Pass.wp_attempt_call_bind]
  refine (hset (by simpa using hne)).imp fun r s hr => ?_
  cases r with
  | ok _ => exact hmark s hr
  | error err => exact hr

/-- The load balancer is recorded, and its targets are set once it has an address. -/
def LoadBalancerAnswer (client : Client σ)
    (Q : Except GoError (Option Result) → Pass StackitCluster σ → Prop)
    (p : Pass StackitCluster σ) (targets : List LoadBalancerTargetInput) :
    Except GoError LoadBalancer → σ → Prop
  | .ok lb, s =>
    (lb.ip = "" → Q (.ok (some { requeueAfter := 10 })) { p with
      obj := (p.obj.setLoadBalancerID lb.id).setNotReady "Provisioning"
        "waiting for API server load balancer IP address"
        [clusterLoadBalancerReadyCondition, clusterReadyCondition]
      cloud := s }) ∧
    (lb.ip ≠ "" → wp (reconcileTargets client lb targets) Q
      { p with obj := p.obj.setLoadBalancerID lb.id, cloud := s })
  | .error err, s => ∀ r : Except GoError Result, Q (r.map some) { p with
      obj := p.obj.setNotReady "LoadBalancerError" err.text
        [clusterLoadBalancerReadyCondition, clusterReadyCondition]
      cloud := s }

theorem wp_reconcileLoadBalancer {network : Network}
    (hunlisted : ∀ err, env.controlPlaneMachines = .error err →
      Q (.error (wrapf "list control plane machines" err)) { p with
        obj := p.obj.setConditions .false "MachineListError" err.text
          [clusterLoadBalancerReadyCondition] })
    (hlisted : ∀ machines, env.controlPlaneMachines = .ok machines →
      wp (client.ensureAPIServerLoadBalancer
          (apiServerInput p.obj (seedTargets network (apiServerTargets env.sha256Hex machines))))
        (LoadBalancerAnswer client Q p (apiServerTargets env.sha256Hex machines)) p.cloud) :
    wp (reconcileLoadBalancer env client network) Q p := by
  unfold reconcileLoadBalancer
  split
  · rename_i err herr
    exact hunlisted err herr
  · rename_i machines hmachines
    rw [Pass.wp_getObj_bind, Pass.wp_attempt_call_bind]
    refine (hlisted machines hmachines).imp fun r s hr => ?_
    cases r with
    | error err => exact wp_cloudFailure_map hr
    | ok lb =>
      rw [Pass.wp_setObj_bind]
      exact wp_ite hr.1 hr.2

theorem wp_reconcileEndpoint {network : Network}
    (henabled : p.obj.spec.apiServerLoadBalancerEnabled = true →
      wp (reconcileLoadBalancer env client network) Q p)
    (hexternal : p.obj.spec.apiServerLoadBalancerEnabled = false →
      p.obj.spec.controlPlaneEndpoint.host ≠ "" →
      Q (.ok none) { p with obj := withExternalEndpoint p.obj })
    (hmissing : p.obj.spec.apiServerLoadBalancerEnabled = false →
      p.obj.spec.controlPlaneEndpoint.host = "" →
      Q (.ok (some {})) { p with
        obj := p.obj.setNotReady "EndpointMissing"
          "apiServerLoadBalancer.enabled is false and controlPlaneEndpoint is empty"
          [clusterLoadBalancerReadyCondition, clusterReadyCondition] }) :
    wp (reconcileEndpoint env client network) Q p := by
  unfold reconcileEndpoint
  rw [Pass.wp_getObj_bind]
  refine wp_ite henabled fun hoff => ?_
  have hoff : p.obj.spec.apiServerLoadBalancerEnabled = false := by simpa using hoff
  exact wp_ite (hexternal hoff) fun hhost => hmissing hoff (not_not.1 hhost)

end endpoint

/-! ### Up to the bastion -/

section resources
variable {Q : Except GoError (Option Result) → Pass StackitCluster σ → Prop}

/-- With a network the pass goes on to the endpoint. -/
def NetworkEnd (env : Env σ) (client : Client σ)
    (Q : Except GoError (Option Result) → Pass StackitCluster σ → Prop) :
    Except GoError (Result ⊕ Network) → Pass StackitCluster σ → Prop
  | .ok (.inr network), q => wp (reconcileEndpoint env client network) Q { q with
      obj := q.obj.setConditions .true "Available" "" [clusterNetworkReadyCondition] }
  | .ok (.inl result), q => Q (.ok (some result)) q
  | .error e, q => Q (.error e) q

@[simp] theorem networkEnd_inr {network : Network} :
    NetworkEnd env client Q (.ok (.inr network)) p ↔
      wp (reconcileEndpoint env client network) Q { p with
        obj := p.obj.setConditions .true "Available" "" [clusterNetworkReadyCondition] } :=
  Iff.rfl

/-- The zones are published, and the pass goes on to the network. -/
def ZonesAnswer (env : Env σ) (client : Client σ)
    (Q : Except GoError (Option Result) → Pass StackitCluster σ → Prop)
    (p : Pass StackitCluster σ) : Except GoError (List String) → σ → Prop
  | .ok zones, s => wp (ensureNetwork client) (NetworkEnd env client Q) { p with
      obj := p.obj.setFailureDomains (failureDomainsFromZones p.obj.spec.region zones)
      cloud := s }
  | .error err, s => ∀ r : Except GoError Result, Q (r.map some) { p with
      obj := p.obj.setNotReady "AvailabilityZonesError" err.text [clusterReadyCondition]
      cloud := s }

@[simp] theorem zonesAnswer_ok {zones : List String} {s : σ} :
    ZonesAnswer env client Q p (.ok zones) s ↔
      wp (ensureNetwork client) (NetworkEnd env client Q) { p with
        obj := p.obj.setFailureDomains (failureDomainsFromZones p.obj.spec.region zones)
        cloud := s } :=
  Iff.rfl

/-- The copy once the credentials have been found good. -/
def withCredentials (sc : StackitCluster) : StackitCluster :=
  sc.setConditions .true "Available" "" [clusterCredentialsReadyCondition]

theorem wp_reconcileResources
    (h : wp client.listAvailabilityZones
      (ZonesAnswer env client Q { p with obj := withCredentials p.obj }) p.cloud) :
    wp (reconcileResources env client) Q p := by
  unfold reconcileResources
  rw [Pass.wp_setObj_bind, Pass.wp_attempt_call_bind]
  refine h.imp fun r s hr => ?_
  cases r with
  | error err => exact wp_cloudFailure_map hr
  | ok zones =>
    rw [Pass.wp_setObj_bind, wp_bind]
    refine (zonesAnswer_ok.1 hr).imp fun r q hq => ?_
    rcases r with e | result | network <;> exact hq

/-- What is returned for the end of `reconcileResources`. -/
def handOn (client : Client σ) : Option Result → Result ⊕ Client σ
  | some result => .inl result
  | none => .inr client

theorem map_handOn_eq {client' : Client σ} {r : Except GoError (Option Result)} :
    r.map (handOn client) = .ok (.inr client') ↔ r = .ok none ∧ client = client' := by
  rcases r with e | ⟨⟩ | result <;> simp [Except.map, handOn]

/-- The copy with the zones that are guessed from the region. -/
def withStaticZones (sc : StackitCluster) : StackitCluster :=
  sc.setFailureDomains (stackitFailureDomains sc.spec.region)

theorem wp_reconcileInfrastructure
    {Q : Except GoError (Result ⊕ Client σ) → Pass StackitCluster σ → Prop}
    (hfailed : ∀ err, buildCloudClient env.source p.obj = .error err →
      ∀ r : Except GoError Result, Q (r.map .inl) { p with
        obj := (withStaticZones p.obj).setNotReady "CredentialsInvalid" err.text
          [clusterCredentialsReadyCondition, clusterReadyCondition] })
    (hclient : ∀ client, buildCloudClient env.source p.obj = .ok client →
      wp (reconcileResources env client) (fun r q => Q (r.map (handOn client)) q)
        { p with obj := withStaticZones p.obj }) :
    wp (reconcileInfrastructure env) Q p := by
  unfold reconcileInfrastructure
  rw [Pass.wp_setObj_bind, Pass.wp_getObj_bind]
  split
  · rename_i err herr
    rw [Pass.wp_setObj_bind]
    exact wp_failWith_map (hfailed err herr)
  · rename_i client hbuilt
    rw [wp_bind]
    refine (hclient client hbuilt).imp fun r q hq => ?_
    rcases r with e | ⟨⟩ | result <;> exact hq

theorem wp_reconcileInfrastructure_client
    {Q : Except GoError (Result ⊕ Client σ) → Pass StackitCluster σ → Prop}
    (hclient : buildCloudClient env.source p.obj = .ok client)
    (h : wp (reconcileResources env client) (fun r q => Q (r.map (handOn client)) q)
      { p with obj := withStaticZones p.obj }) :
    wp (reconcileInfrastructure env) Q p := by
  refine wp_reconcileInfrastructure (fun err herr => ?_) fun client' hclient' => ?_
  · rw [hclient] at herr
    cases herr
  · rw [hclient] at hclient'
    cases hclient'
    exact h

end resources

/-! ### The bastion -/

section bastion
variable {Q : Except GoError (Result × Bool) → Pass StackitCluster σ → Prop}

/-- The copy with the bastion marked as disabled. -/
def skipBastion (sc : StackitCluster) : StackitCluster :=
  sc.setConditions .true bastionDisabledReason "bastion disabled" [clusterBastionReadyCondition]

/-- The copy of a bastion that is not usable yet. -/
def bastionNotReadyObj (sc : StackitCluster) (reason message : String) : StackitCluster :=
  sc.setNotReady reason message [clusterBastionReadyCondition, clusterReadyCondition]

theorem wp_disableBastion
    (hskipped : bastionSkipped p.obj.conditions = true →
      Q (.ok ({}, true)) { p with obj := skipBastion p.obj })
    (hclean : bastionSkipped p.obj.conditions = false →
      wp (client.deleteNodeSSHAccess (nodeSSHAccessTags p.obj)) (OrError Q p fun _ s =>
        wp (client.deleteBastion (bastionInput p.obj "") (recordedBastion p.obj.status.bastion))
          (OrError Q p fun _ s => Q (.ok ({}, true)) { p with
            obj := skipBastion p.obj.clearBastionStatus, cloud := s }) s) p.cloud) :
    wp (disableBastion client) Q p := by
  unfold disableBastion
  rw [Pass.wp_getObj_bind]
  refine wp_ite hskipped fun hnot => wp_call_orError ?_
  exact wp_orError (hclean (by simpa using hnot))
    (fun _ s hs => wp_call_orError (p := { p with cloud := s }) hs) fun _ _ hs => hs

theorem wp_recreateBastion {cloudInit : String}
    (h : wp (tolerate isNotFound (client.deleteNodeSSHAccess (nodeSSHAccessTags p.obj)))
      (OrError Q p fun _ s => wp (tolerate isNotFound
        (client.deleteBastion (bastionInput p.obj cloudInit)
          (recordedBastion p.obj.status.bastion)))
        (OrError Q p fun _ s => Q (.ok ({ requeueAfter := retryableErrorRequeueAfter }, false))
          { p with
            obj := bastionNotReadyObj p.obj.clearBastionStatus "Recreating"
              "recreating bastion because cloudInitRef content changed"
            cloud := s }) s) p.cloud) :
    wp (recreateBastion client cloudInit) Q p := by
  unfold recreateBastion
  rw [Pass.wp_getObj_bind]
  exact wp_call_orError (wp_orError h
    (fun _ s hs => wp_call_orError (p := { p with cloud := s }) hs) fun _ _ hs => hs)

/-- The bastion is recorded, and is ready once its server is and has an address. -/
structure BastionFound (Q : Except GoError (Result × Bool) → Pass StackitCluster σ → Prop)
    (p : Pass StackitCluster σ) (b : Bastion) (hash : String) (s : σ) : Prop where
  down : (serverStateCondition b.serverState b.serverPowerStatus).ready = false →
    Q (.ok ({ requeueAfter := 15 }, false)) { p with
      obj := bastionNotReadyObj (p.obj.setBastionStatus b hash)
        (serverStateCondition b.serverState b.serverPowerStatus).reason
        ("bastion " ++ (serverStateCondition b.serverState b.serverPowerStatus).message)
      cloud := s }
  unaddressed : b.publicIP = "" → Q (.ok ({ requeueAfter := 10 }, false)) { p with
    obj := bastionNotReadyObj (p.obj.setBastionStatus b hash) "Provisioning"
      "waiting for bastion public IP address"
    cloud := s }
  ready : (serverStateCondition b.serverState b.serverPowerStatus).ready = true →
    b.publicIP ≠ "" → Q (.ok ({}, true)) { p with
      obj := (p.obj.setBastionStatus b hash).setConditions .true "Available" ""
        [clusterBastionReadyCondition]
      cloud := s }

theorem wp_ensureBastion {cloudInit : String}
    (h : wp (client.ensureBastion (bastionInput p.obj cloudInit))
      (OrError Q p fun b s => BastionFound Q p b (bastionCloudInitHash env cloudInit) s) p.cloud) :
    wp (ensureBastion env client cloudInit) Q p := by
  unfold ensureBastion
  rw [Pass.wp_getObj_bind]
  refine wp_call_orError (wp_orError h (fun b s hfound => ?_) fun _ _ hs => hs)
  have hfound : BastionFound Q p b (bastionCloudInitHash env cloudInit) s := hfound
  refine wp_ite (fun hnot => hfound.down (by simpa using hnot)) fun hup => ?_
  exact wp_ite hfound.unaddressed fun hip => hfound.ready (by simpa using hup) hip

/-- The bastion is to exist, with this cloud-init. -/
structure BastionWanted (env : Env σ) (sc : StackitCluster) (cloudInit : String) : Prop where
  enabled : sc.spec.bastion.enabled = true
  valid : validateBastionSpec sc.spec.bastion = none
  resolved : resolveBastionCloudInit env sc = .ok cloudInit

/-- Why nothing is done for a bastion that is enabled. -/
inductive BastionRefused (env : Env σ) (sc : StackitCluster) : String → String → Prop
  | spec {err : GoError} (h : validateBastionSpec sc.spec.bastion = some err) :
    BastionRefused env sc "InvalidBastionSpec" err.text
  | cloudInit {err : GoError} (h : resolveBastionCloudInit env sc = .error err) :
    BastionRefused env sc "CloudInitRefError" err.text

theorem wp_reconcileBastion
    (hdisabled : p.obj.spec.bastion.enabled = false → wp (disableBastion client) Q p)
    (hrefused : p.obj.spec.bastion.enabled = true → ∀ reason message,
      BastionRefused env p.obj reason message → Q (.ok ({ requeueAfter := 0 }, false)) { p with
        obj := bastionNotReadyObj p.obj reason message })
    (hrecreate : ∀ cloudInit, BastionWanted env p.obj cloudInit →
      bastionNeedsRecreate env p.obj cloudInit = true → wp (recreateBastion client cloudInit) Q p)
    (hensure : ∀ cloudInit, BastionWanted env p.obj cloudInit →
      bastionNeedsRecreate env p.obj cloudInit = false →
      wp (ensureBastion env client cloudInit) Q p) :
    wp (reconcileBastion env client) Q p := by
  unfold reconcileBastion
  rw [Pass.wp_getObj_bind]
  refine wp_ite (fun hoff => hdisabled (by simpa using hoff)) fun hon => ?_
  have hon : p.obj.spec.bastion.enabled = true := by simpa using hon
  split
  · exact hrefused hon _ _ (.spec ‹_›)
  split
  · exact hrefused hon _ _ (.cloudInit ‹_›)
  · rename_i hvalid _ cloudInit hresolved
    exact wp_ite (hrecreate cloudInit ⟨hon, hvalid, hresolved⟩) fun hnot =>
      hensure cloudInit ⟨hon, hvalid, hresolved⟩ (by simpa using hnot)

theorem wp_reconcileBastion_disabled (hoff : p.obj.spec.bastion.enabled = false)
    (h : wp (disableBastion client) Q p) : wp (reconcileBastion env client) Q p :=
  wp_reconcileBastion (fun _ => h) (fun hon => by simp [hoff] at hon)
    (fun _ hwanted => by simp [hwanted.enabled] at hoff)
    fun _ hwanted => by simp [hwanted.enabled] at hoff

theorem wp_reconcileBastion_wanted {cloudInit : String} (h : BastionWanted env p.obj cloudInit)
    (hrecreate : bastionNeedsRecreate env p.obj cloudInit = true →
      wp (recreateBastion client cloudInit) Q p)
    (hensure : bastionNeedsRecreate env p.obj cloudInit = false →
      wp (ensureBastion env client cloudInit) Q p) :
    wp (reconcileBastion env client) Q p := by
  have hsame : ∀ {cloudInit'}, BastionWanted env p.obj cloudInit' → cloudInit = cloudInit' :=
    fun h' => Except.ok.inj (h.resolved.symm.trans h'.resolved)
  refine wp_reconcileBastion (fun hoff => by simp [h.enabled] at hoff) (fun _ _ _ hrefused => ?_)
    (fun _ h' => hsame h' ▸ hrecreate) fun _ h' => hsame h' ▸ hensure
  cases hrefused with
  | spec hinvalid => simp [h.valid] at hinvalid
  | cloudInit herr => simp [h.resolved] at herr

end bastion

/-! ### The whole pass -/

section pass
variable {Q : Except GoError Result → Pass StackitCluster σ → Prop}

/-- A bastion that is ready makes the cluster ready. -/
def BastionEnd (Q : Except GoError Result → Pass StackitCluster σ → Prop) :
    Except GoError (Result × Bool) → Pass StackitCluster σ → Prop
  | .ok (_, true), q => Q (.ok {}) { q with obj := q.obj.setReady }
  | .ok (result, false), q => Q (.ok result) q
  | .error err, q => ∀ r, Q r { q with
      obj := q.obj.setNotReady "BastionError" err.text
        [clusterBastionReadyCondition, clusterReadyCondition] }

theorem wp_finishWithBastion (h : wp (reconcileBastion env client) (BastionEnd Q) p) :
    wp (finishWithBastion env client) Q p := by
  unfold finishWithBastion
  rw [wp_attempt_bind]
  refine h.imp fun r q hq => ?_
  rcases r with err | ⟨result, ready⟩
  · exact wp_cloudFailure hq
  · cases ready <;> exact hq

/-- With a client the pass goes on to the bastion. -/
def InfrastructureEnd (env : Env σ) (Q : Except GoError Result → Pass StackitCluster σ → Prop) :
    Except GoError (Result ⊕ Client σ) → Pass StackitCluster σ → Prop
  | .ok (.inr client), q => wp (finishWithBastion env client) Q q
  | .ok (.inl result), q => Q (.ok result) q
  | .error e, q => Q (.error e) q

@[simp] theorem infrastructureEnd_inr :
    InfrastructureEnd env Q (.ok (.inr client)) p ↔ wp (finishWithBastion env client) Q p := Iff.rfl

theorem wp_reconcileFinalized (h : wp (reconcileInfrastructure env) (InfrastructureEnd env Q) p) :
    wp (reconcileFinalized env) Q p := by
  unfold reconcileFinalized
  rw [wp_bind]
  refine h.imp fun r q hq => ?_
  rcases r with e | result | client <;> exact hq

/-- The copy with the finalizer. -/
def withFinalizer (sc : StackitCluster) : StackitCluster :=
  { sc with metadata := addFinalizer sc.metadata clusterFinalizer }

@[simp] theorem credentialsSecretKey_withFinalizer (sc : StackitCluster) :
    credentialsSecretKey (withFinalizer sc) = credentialsSecretKey sc := by
  simp [credentialsSecretKey, withFinalizer]

/-- The state once the copy has been given the finalizer and patched. -/
def patchFinalizer (p : Pass StackitCluster σ) : Pass StackitCluster σ :=
  { p with
    obj := withFinalizer p.obj
    stored := Pass.deliver (p.patches.headD {}) (withFinalizer p.obj) p.stored
    patches := p.patches.tail }

theorem wp_persistFinalizer {Q : Except GoError Unit → Pass StackitCluster σ → Prop}
    (hhas : containsFinalizer p.obj.metadata clusterFinalizer = true → Q (.ok ()) p)
    (hadd : containsFinalizer p.obj.metadata clusterFinalizer = false → ∀ r,
      (r = .ok () ↔ (p.patches.headD {}).succeeds = true) → Q r (patchFinalizer p)) :
    wp persistFinalizer Q p := by
  unfold persistFinalizer
  rw [Pass.wp_getObj_bind]
  refine wp_ite hhas fun hnot => ?_
  rw [Pass.wp_setObj_bind, wp_attempt_bind]
  refine Pass.wp_patchObject fun o ho => ?_
  subst ho
  have hnew := hadd (by simpa using hnot)
  cases hs : (p.patches.headD {}).succeeds with
  | true => exact hnew (.ok ()) (iff_of_true rfl hs)
  | false => exact hnew (.error _) (iff_of_false (by simp) (ne_true_of_eq_false hs))

theorem wp_reconcileNormal
    (hhas : containsFinalizer p.obj.metadata clusterFinalizer = true →
      wp (reconcileFinalized env) Q p)
    (hfailed : containsFinalizer p.obj.metadata clusterFinalizer = false →
      (p.patches.headD {}).succeeds = false → ∀ err, Q (.error err) (patchFinalizer p))
    (hadded : containsFinalizer p.obj.metadata clusterFinalizer = false →
      (p.patches.headD {}).succeeds = true → wp (reconcileFinalized env) Q (patchFinalizer p)) :
    wp (reconcileNormal env) Q p := by
  unfold reconcileNormal
  rw [wp_bind]
  refine wp_persistFinalizer hhas fun hnot r hr => ?_
  cases r with
  | error err =>
    refine hfailed hnot (eq_false_of_ne_true fun hs => ?_) err
    cases hr.2 hs
  | ok _ => exact hadded hnot (hr.1 rfl)

theorem wp_reconcileNormal_of_run {q : Pass StackitCluster σ}
    (hfinalizer : persistFinalizer p = (.ok (), q)) (h : wp (reconcileFinalized env) Q q) :
    wp (reconcileNormal env) Q p := by
  unfold reconcileNormal
  rw [wp_bind]
  exact wp_of_run hfinalizer h

end pass

/-! ### `reconcileDelete` -/

section resolve
variable {sc : StackitCluster} {s : σ} {Q : Except GoError String → σ → Prop}

/-- A recorded ID is taken without asking the cloud for it. -/
theorem wp_resolveLoadBalancerID {P : Except GoError (List LoadBalancer) → σ → Prop}
    (hrecorded : sc.status.apiServerLoadBalancerID ≠ "" →
      Q (.ok sc.status.apiServerLoadBalancerID) s)
    (hlist : wp (client.listAPIServerLoadBalancersByTags sc.tags) P s)
    (hnone : ∀ t, P (.ok []) t → Q (.ok "") t)
    (hone : ∀ l t, P (.ok [l]) t → Q (.ok l.id) t)
    (hmany : ∀ l l' ls t, P (.ok (l :: l' :: ls)) t → ∀ e, Q (.error e) t)
    (hfailed : ∀ e t, P (.error e) t → Q (.error e) t) :
    wp (resolveLoadBalancerID client sc) Q s := by
  unfold resolveLoadBalancerID
  refine wp_ite hrecorded fun _ => ?_
  rw [wp_bind]
  refine hlist.imp fun r t hr => ?_
  match r, hr with
  | .error e, hr => exact hfailed e t hr
  | .ok [], hr => exact hnone t hr
  | .ok [l], hr => exact hone l t hr
  | .ok (l :: l' :: ls), hr => exact hmany l l' ls t hr _

/-- A network of the user's is not the provider's to delete. -/
theorem wp_resolveManagedNetworkID {P : Except GoError Network → σ → Prop}
    (huser : sc.spec.networkID ≠ "" → Q (.ok "") s)
    (hrecorded : sc.spec.networkID = "" → sc.status.network.id ≠ "" →
      Q (.ok sc.status.network.id) s)
    (hfind : wp (client.findNetworkByTags sc.tags) P s)
    (hfound : sc.spec.networkID = "" → ∀ n t, P (.ok n) t → Q (.ok n.id) t)
    (hnone : ∀ e t, P (.error e) t → isNotFound e = true → Q (.ok "") t)
    (hfailed : ∀ e t, P (.error e) t → isNotFound e = false → Q (.error e) t) :
    wp (resolveManagedNetworkID client sc) Q s := by
  unfold resolveManagedNetworkID
  refine wp_ite huser fun hown => wp_ite (hrecorded (not_ne_iff.1 hown)) fun _ => ?_
  exact wp_foundID_of hfind (hfound (not_ne_iff.1 hown)) hnone hfailed

end resolve

/-- The copy without the finalizer. -/
def withoutFinalizer (sc : StackitCluster) : StackitCluster :=
  { sc with metadata := removeFinalizer sc.metadata clusterFinalizer }

/-- Nothing is deleted while there are machines, or it is not known whether there are any. -/
theorem wp_reconcileDelete {cluster : Cluster}
    {Q : Except GoError Result → Pass StackitCluster σ → Prop}
    (hwaits : env.machines ≠ .ok [] → ∀ r, (∀ res, r = .ok res → 0 < res.requeueAfter) → Q r p)
    (hmissing : ∀ err, buildCloudClient env.source p.obj = .error err → isAPINotFound err = true →
      Q (.ok {}) { p with obj := withoutFinalizer p.obj })
    (hfailed : ∀ err, buildCloudClient env.source p.obj = .error err → isAPINotFound err = false →
      Q (.error err) { p with
        obj := p.obj.setConditions .false "CredentialsInvalid" err.text
          [clusterCredentialsReadyCondition] })
    (hclient : ∀ client, buildCloudClient env.source p.obj = .ok client →
      wp (deleteResources client) Q p) :
    wp (reconcileDelete env cluster) Q p := by
  unfold reconcileDelete
  split
  · rename_i err hmachines
    refine hwaits (fun hnone => ?_) _ fun res hres => by cases hres
    cases hmachines.symm.trans hnone
  · rename_i machine machines hmachines
    refine hwaits (fun hnone => ?_) _ fun res hres => ?_
    · cases hmachines.symm.trans hnone
    · cases hres
      exact Nat.zero_lt_succ 4
  · rw [Pass.wp_getObj_bind]
    split
    · rename_i err hbuild
      exact wp_ite (hmissing err hbuild) fun hnot => hfailed err hbuild (by simpa using hnot)
    · rename_i client hbuild
      exact hclient client hbuild

/-! ### `Reconcile` -/

/-- The pass gets to create its scope. -/
structure Scoped (answers : Answers) (sc : StackitCluster) (cluster : Cluster) : Prop where
  there : ObjectMeta.gone sc.metadata = false
  read : answers.getStackitCluster = none
  owner : answers.getOwnerCluster = .ok (some cluster)
  helper : answers.newPatchHelper = none

/-- A pass ends before it has a scope, or it is the body of `Reconcile` and the deferred patch. -/
theorem wp_reconcile {answers : Answers} {Q : Except GoError Result → Pass StackitCluster σ → Prop}
    (hidle : (∀ cluster, ¬ Scoped answers p.stored cluster) → ∀ r, Q r p)
    (hpass : ∀ cluster, Scoped answers p.stored cluster →
      wp (Pass.withDeferredPatch (reconcileScope env cluster)) Q { p with obj := p.stored }) :
    wp (reconcile answers env) Q p := by
  unfold reconcile
  rw [wp_bind, wp_get, next_ok]
  refine wp_ite (fun hgone => hidle (fun _ h => ?_) _) fun hthere => ?_
  · cases hgone.symm.trans h.there
  split
  · rename_i err hread
    have hno : ∀ cluster, ¬ Scoped answers p.stored cluster :=
      fun _ h => by cases hread.symm.trans h.read
    exact wp_ite (fun _ => hidle hno _) fun _ => hidle hno _
  rename_i hread
  split
  · rename_i err howner
    exact hidle (fun _ h => by cases howner.symm.trans h.owner) _
  · rename_i howner
    exact hidle (fun _ h => by cases howner.symm.trans h.owner) _
  rename_i cluster howner
  split
  · rename_i err hhelper
    exact hidle (fun _ h => by cases hhelper.symm.trans h.helper) _
  · rename_i hhelper
    exact hpass cluster ⟨by simpa using hthere, hread, howner, hhelper⟩

/-- The copy with the `Paused` condition of the pass. -/
def withPaused (cluster : Cluster) (sc : StackitCluster) : StackitCluster :=
  { sc with
    conditions := setPausedCondition sc.conditions sc.metadata.generation
      (reconciliationPaused (some cluster) sc.metadata) }

theorem wp_reconcileScope {cluster : Cluster}
    {Q : Except GoError Result → Pass StackitCluster σ → Prop}
    (hpaused : reconciliationPaused (some cluster) p.obj.metadata ≠ none →
      Q (.ok {}) { p with obj := withPaused cluster p.obj })
    (hdelete : reconciliationPaused (some cluster) p.obj.metadata = none →
      p.obj.metadata.deleting = true →
      wp (reconcileDelete env cluster) Q { p with obj := withPaused cluster p.obj })
    (hnormal : reconciliationPaused (some cluster) p.obj.metadata = none →
      p.obj.metadata.deleting = false →
      wp (reconcileNormal env) Q { p with obj := withPaused cluster p.obj }) :
    wp (reconcileScope env cluster) Q p := by
  unfold reconcileScope
  rw [Pass.wp_getObj_bind, Pass.wp_setObj_bind]
  refine wp_ite (fun h => hpaused (Option.isSome_iff_ne_none.1 h)) fun hnone => ?_
  have hnone := Option.not_isSome_iff_eq_none.1 hnone
  exact wp_ite (hdelete hnone) fun hnot => hnormal hnone (by simpa using hnot)

end Capstk.ClusterReconciler
