import Capstk.Lib.Sha256
import Capstk.Proofs.ClusterRun
import Capstk.Proofs.Retry

/-!
# The control plane endpoint

Every pass sets the endpoint to the address that the load balancer has at that moment: its external
address, or the private one as long as there is no external one. Two addresses that arrive at
different times therefore give two endpoints, if a pass runs in between. The endpoint is stable in
every run in which no external address arrives after a pass has set another one.
-/

namespace Capstk

open Prog

/-! ### Observing the load balancer -/

/-- The state behind a client, and the load balancers `EnsureAPIServerLoadBalancer` answered
with. -/
structure Observed (σ : Type) where
  state : σ
  answered : List LoadBalancer := []

namespace Observed
variable {σ α : Type}

def lift (x : Call σ α) : Call (Observed σ) α :=
  zoom Observed.state (fun t s => { t with state := s }) x

def ensureAPIServerLoadBalancer (client : Client σ) (input : LoadBalancerInput) :
    Call (Observed σ) LoadBalancer := do
  let loadBalancer ← lift (client.ensureAPIServerLoadBalancer input)
  modify fun t => { t with answered := t.answered ++ [loadBalancer] }
  pure loadBalancer

end Observed

variable {σ : Type}

def Client.observing (client : Client σ) : Client (Observed σ) :=
  { client.zoom Observed.state fun t s => { t with state := s } with
    ensureAPIServerLoadBalancer := Observed.ensureAPIServerLoadBalancer client }

namespace ClusterReconciler
variable {env : Env (Observed σ)} {client : Client σ} {p₀ p q : Pass StackitCluster (Observed σ)}

/-- Nothing was observed, and the spec is the same. -/
structure Quiet (p q : Pass StackitCluster (Observed σ)) : Prop where
  answered : q.cloud.answered = p.cloud.answered
  spec : q.obj.spec = p.obj.spec

theorem Quiet.closed : Closed (Quiet (σ := σ)) :=
  ⟨fun _ => ⟨rfl, rfl⟩, fun h h' => ⟨h'.answered.trans h.answered, h'.spec.trans h.spec⟩⟩

/-- What a pass does to the endpoint: nothing, or it sees a load balancer and takes its address, if
it has one. -/
def SetsEndpoint (p q : Pass StackitCluster (Observed σ)) : Prop :=
  Quiet p q ∨ ∃ lb, q.cloud.answered = p.cloud.answered ++ [lb] ∧
    q.obj.spec.controlPlaneEndpoint = if lb.ip = "" then p.obj.spec.controlPlaneEndpoint
    else ⟨lb.ip, defaultAPIServerPort⟩

theorem SetsEndpoint.before (h' : SetsEndpoint p q) (h : Quiet p₀ p) : SetsEndpoint p₀ q := by
  rcases h' with hquiet | ⟨lb, hans, hend⟩
  · exact .inl (Quiet.closed.trans h hquiet)
  · exact .inr ⟨lb, hans.trans (by rw [h.answered]), hend.trans (by rw [h.spec])⟩

theorem SetsEndpoint.after (h : SetsEndpoint p₀ p) (h' : Quiet p q) : SetsEndpoint p₀ q := by
  rcases h with hquiet | ⟨lb, hans, hend⟩
  · exact .inl (Quiet.closed.trans hquiet h')
  · exact .inr ⟨lb, h'.answered.trans hans, (by rw [h'.spec, hend])⟩

theorem quiet_ensureNetwork : Keeps Quiet (ensureNetwork client.observing) :=
  keeps_ensureNetwork Quiet.closed (fun _ _ => ⟨rfl, rfl⟩) (fun _ _ _ _ => ⟨rfl, rfl⟩)
    (fun _ _ => ⟨rfl, rfl⟩) fun _ _ => ⟨rfl, rfl⟩

theorem wp_reconcileTargets_endpoint (lb : LoadBalancer) (targets : List LoadBalancerTargetInput) :
    wp (reconcileTargets client.observing lb targets)
      (fun _ q => q.cloud.answered = p.cloud.answered ∧
        q.obj.spec.controlPlaneEndpoint = ⟨lb.ip, defaultAPIServerPort⟩) p := by
  have hspec : (withEndpoint lb p.obj).spec.controlPlaneEndpoint =
      ⟨lb.ip, defaultAPIServerPort⟩ := by
    rw [withEndpoint_eq]
    rfl
  refine wp_reconcileTargets (fun _ => ⟨rfl, hspec⟩) fun _ => ?_
  have hcall :
      wp (client.observing.setAPIServerLoadBalancerTargets lb.id defaultAPIServerPort targets)
        (fun _ s => s.answered = p.cloud.answered) p.cloud := rfl
  refine hcall.imp fun r s hs => ?_
  cases r with
  | ok _ => exact ⟨hs, hspec⟩
  | error err => exact ⟨hs, rfl⟩

theorem wp_ensureAPIServerLoadBalancer_answered (input : LoadBalancerInput) (t : Observed σ) :
    wp (Observed.ensureAPIServerLoadBalancer client input) (fun r s => match r with
      | .error _ => s.answered = t.answered
      | .ok lb => s.answered = t.answered ++ [lb]) t := by
  unfold Observed.ensureAPIServerLoadBalancer Observed.lift
  rw [wp_bind, wp_zoom]
  refine wp_of_forall fun r s => ?_
  cases r with
  | error err => exact rfl
  | ok lb => exact rfl

theorem wp_reconcileEndpoint_endpoint (network : Network) :
    wp (reconcileEndpoint env client.observing network) (fun _ q => SetsEndpoint p q) p := by
  refine wp_reconcileEndpoint (fun _ => ?_) (fun _ _ => .inl ⟨rfl, rfl⟩) fun _ _ => .inl ⟨rfl, rfl⟩
  refine wp_reconcileLoadBalancer (fun _ _ => .inl ⟨rfl, rfl⟩) fun machines _ => ?_
  refine (wp_ensureAPIServerLoadBalancer_answered _ p.cloud).imp fun r s hs => ?_
  cases r with
  | error err => exact fun _ => .inl ⟨hs, rfl⟩
  | ok lb =>
    refine ⟨fun hip => .inr ⟨lb, hs, (if_pos hip).symm⟩, fun hip => ?_⟩
    exact (wp_reconcileTargets_endpoint lb _).imp fun _ q hq =>
      .inr ⟨lb, hq.1.trans hs, hq.2.trans (if_neg hip).symm⟩

theorem wp_reconcileResources_endpoint :
    wp (reconcileResources env client.observing) (fun _ q => SetsEndpoint p q) p := by
  have hzones : wp client.observing.listAvailabilityZones
      (fun _ s => s.answered = p.cloud.answered) p.cloud := rfl
  refine wp_reconcileResources (hzones.imp fun r s hs => ?_)
  cases r with
  | error err => exact fun _ => .inl ⟨hs, rfl⟩
  | ok zones =>
    rw [zonesAnswer_ok]
    refine (quiet_ensureNetwork.wp _).imp fun r q hq => ?_
    have hpq : Quiet p q := ⟨hq.answered.trans hs, hq.spec⟩
    rcases r with e | result | network
    · exact .inl hpq
    · exact .inl hpq
    · rw [networkEnd_inr]
      exact (wp_reconcileEndpoint_endpoint network).imp fun _ t ht =>
        ht.before ⟨hpq.answered, hpq.spec⟩

theorem wp_reconcileInfrastructure_endpoint {src : ClientSource σ}
    (hsrc : env.source = src.map Client.observing) :
    wp (reconcileInfrastructure env) (fun _ q => SetsEndpoint p q) p := by
  refine wp_reconcileInfrastructure (fun _ _ _ => .inl ⟨rfl, rfl⟩) fun client hclient => ?_
  rw [hsrc] at hclient
  obtain ⟨client, rfl⟩ := exists_of_buildCloudClient_map hclient
  exact wp_reconcileResources_endpoint.imp fun _ _ hq => hq.before ⟨rfl, rfl⟩

theorem bastionFrame_quiet (client : Client σ) : BastionFrame client.observing Quiet where
  toClosed := Quiet.closed
  write hf p := by
    cases hf with
    | condition st reason message => exact ⟨rfl, rfl⟩
    | notReady reason message => exact ⟨rfl, rfl⟩
    | status b hash => exact ⟨rfl, rfl⟩
    | cleared => exact ⟨rfl, rfl⟩
    | ready => exact ⟨rfl, rfl⟩
  deleteNodeSSHAccess _ :=
    ⟨fun _ => ⟨rfl, rfl⟩, fun p =>
    ⟨keeps_tolerate (Closed.ofEq Observed.answered) (fun _ => rfl) p.cloud, rfl⟩⟩
  deleteBastion _ _ :=
    ⟨fun _ => ⟨rfl, rfl⟩, fun p =>
    ⟨keeps_tolerate (Closed.ofEq Observed.answered) (fun _ => rfl) p.cloud, rfl⟩⟩
  ensureBastion _ := fun _ => ⟨rfl, rfl⟩

theorem wp_reconcileFinalized_endpoint {src : ClientSource σ}
    (hsrc : env.source = src.map Client.observing) :
    wp (reconcileFinalized env) (fun _ q => SetsEndpoint p q) p := by
  have hclient : wp (reconcileInfrastructure env)
      (Via (fun _ _ => True) p fun r _ => ∀ client, r = .inr client → ∃ client₀ : Client σ,
        client = client₀.observing) p :=
    via_reconcileInfrastructure ⟨fun _ => trivial, fun _ _ => trivial⟩ (fun _ _ => trivial)
      (fun client h => exists_of_buildCloudClient_map (hsrc ▸ h)) fun _ _ _ => trivial
  refine wp_reconcileFinalized
    (((wp_reconcileInfrastructure_endpoint hsrc).and hclient).imp fun r t ht => ?_)
  rcases r with e | result | client
  · exact ht.1
  · exact ht.1
  · obtain ⟨client₀, rfl⟩ := ht.2.2 _ rfl client rfl
    exact ht.1.after ((bastionFrame_quiet client₀).keeps_finishWithBastion env t)

theorem wp_reconcileNormal_endpoint {src : ClientSource σ}
    (hsrc : env.source = src.map Client.observing) :
    wp (reconcileNormal env) (fun _ q => SetsEndpoint p q) p :=
  wp_reconcileNormal (fun _ => wp_reconcileFinalized_endpoint hsrc) (fun _ _ _ => .inl ⟨rfl, rfl⟩)
    fun _ _ => (wp_reconcileFinalized_endpoint hsrc).imp fun _ _ hq => hq.before ⟨rfl, rfl⟩

theorem quiet_deleteWrite {f : StackitCluster → StackitCluster} (hf : DeleteWrite f)
    (p : Pass StackitCluster (Observed σ)) :
    Quiet p { p with obj := f p.obj } := by
  cases hf with
  | condition reason message type hready => exact ⟨rfl, rfl⟩
  | loadBalancer => exact ⟨rfl, rfl⟩
  | bastion => exact ⟨rfl, rfl⟩
  | finalizer => exact ⟨rfl, rfl⟩

theorem deleteFrame_quiet (client : Client σ) : DeleteFrame client.observing Quiet := by
  have hR := Closed.ofEq (Observed.answered (σ := σ))
  have hcall : ∀ {α : Type} {x : Call (Observed σ) α},
      Keeps (fun s t => t.answered = s.answered) x →
        Keeps Quiet (Pass.call x : Step (Observed σ) α) := fun h p => ⟨h p.cloud, rfl⟩
  have hlift : ∀ {α : Type} (x : Call σ α), Keeps (fun s t => t.answered = s.answered)
      (Observed.lift x) := fun _ _ => rfl
  have hresolve : ∀ sc, Keeps (fun s t => t.answered = s.answered)
      (resolveLoadBalancerID client.observing sc) := fun sc => by
    refine .ite (.pure hR _) (.bind hR (hlift _) fun l => ?_)
    split
    · exact .pure hR _
    · exact .pure hR _
    · exact .fail hR _
  have hnetwork : ∀ sc, Keeps (fun s t => t.answered = s.answered)
      (resolveManagedNetworkID client.observing sc) := fun sc =>
    .ite (.pure hR _)
      (.ite (.pure hR _) (keeps_existingOr hR (.bind hR (hlift _) fun _ => .pure hR _)
      (.pure hR _)))
  exact
    { toClosed := Quiet.closed
      write := quiet_deleteWrite
      resolveLoadBalancerID := fun sc => hcall (hresolve sc)
      deleteLoadBalancer :=
        fun id => hcall (keeps_tolerate hR (hlift (client.deleteAPIServerLoadBalancer id)))
      deleteNodeSSHAccess :=
        fun tags => hcall (keeps_tolerate hR (hlift (client.deleteNodeSSHAccess tags)))
      deleteBastion :=
        fun input bastion => hcall (keeps_tolerate hR (hlift (client.deleteBastion input bastion)))
      network :=
        keeps_deleteManagedNetwork Quiet.closed (fun _ _ => ⟨rfl, rfl⟩) (fun _ _ => ⟨rfl, rfl⟩)
        (fun sc => hcall (hnetwork sc)) fun id =>
        hcall (keeps_tolerate hR (hlift (client.deleteNetwork id))) }

theorem wp_reconcile_endpoint (src : ClientSource σ) (hsrc : env.source = src.map Client.observing)
    (answers : Answers) (hobj : p.obj = p.stored) :
    wp (reconcile answers env) (fun _ q => SetsEndpoint p q) p := by
  refine wp_reconcile (fun _ _ => .inl ⟨rfl, rfl⟩) fun cluster _ => Pass.wp_withDeferredPatch ?_
  have hquiet : Quiet p { p with obj := withPaused cluster p.stored } := ⟨rfl, by rw [hobj]; rfl⟩
  have hscope : wp (reconcileScope env cluster) (fun _ q => SetsEndpoint p q) { p with
      obj := p.stored } := by
    refine wp_reconcileScope (fun _ => .inl hquiet) (fun _ _ => ?_) fun _ _ => ?_
    · have hdelete :
          wp (reconcileDelete env cluster)
          (fun _ q => Quiet { p with obj := withPaused cluster p.stored } q)
            { p with obj := withPaused cluster p.stored } :=
        keeps_reconcileDelete (C := fun client => ∃ client₀ : Client σ, client = client₀.observing)
          Quiet.closed
          quiet_deleteWrite (fun _ _ h => exists_of_buildCloudClient_map (hsrc ▸ h))
          (by rintro _ ⟨client₀, rfl⟩; exact deleteFrame_quiet client₀) cluster _
      exact hdelete.imp fun _ q hq => .inl (Quiet.closed.trans hquiet hq)
    · exact (wp_reconcileNormal_endpoint hsrc).imp fun _ q hq => hq.before hquiet
  exact hscope.imp fun r q hq o r' _ _ => hq.after ⟨rfl, rfl⟩

end ClusterReconciler

/-! ### Runs -/

/-- The stored cluster, the one load balancer that its passes see, and the hosts they have set. -/
structure EndpointWorld where
  stored : StackitCluster
  loadBalancer : SDKLoadBalancer
  set : List String := []

inductive EndpointAction (σ : Type)
  /-- A pass, over whatever the cloud has become by then. -/
  | reconcile (answers : ClusterReconciler.Answers) (env : ClusterReconciler.Env σ)
      (patches : List PatchOutcome) (cloud : σ)
  /-- The load balancer has these addresses from now on. -/
  | fill (externalAddress privateAddress : String)
  | edit (metadata : ObjectMeta) (spec : StackitClusterSpec)

namespace EndpointWorld
variable {w : EndpointWorld}

def pass (w : EndpointWorld) (answers : ClusterReconciler.Answers) (env : ClusterReconciler.Env σ)
    (patches : List PatchOutcome) (cloud : σ) : Pass StackitCluster (Observed σ) :=
  (ClusterReconciler.reconcile answers
    { source := env.source.map Client.observing, getConfigMap := env.getConfigMap,
      machines := env.machines,
      controlPlaneMachines := env.controlPlaneMachines, sha256Hex := env.sha256Hex }).after
    { obj := w.stored, stored := w.stored, patches, cloud := { state := cloud } }

/-- The host a pass has set in its copy of the object, if it has seen an address. -/
def hostsSet (q : Pass StackitCluster (Observed σ)) : List String :=
  if q.cloud.answered.any fun lb => lb.ip != "" then [q.obj.spec.controlPlaneEndpoint.host] else []

def step (w : EndpointWorld) : EndpointAction σ → EndpointWorld
  | .reconcile answers env patches cloud =>
    let q := w.pass answers env patches cloud
    { w with stored := q.stored, set := w.set ++ hostsSet q }
  | .fill externalAddress privateAddress =>
    { w with loadBalancer := { w.loadBalancer with externalAddress, privateAddress } }
  | .edit metadata spec => { w with stored := { w.stored with metadata, spec } }

/-- The passes see one and the same load balancer, and an address that it has stays. -/
def OneLoadBalancer (w : EndpointWorld) : EndpointAction σ → Prop
  | .reconcile answers env patches cloud =>
    ∀ lb ∈ (w.pass answers env patches cloud).cloud.answered, lb = SDKClient.loadBalancerFromSDK
      w.loadBalancer
  | .fill externalAddress privateAddress =>
    (w.loadBalancer.externalAddress ≠ "" → externalAddress = w.loadBalancer.externalAddress) ∧
      (w.loadBalancer.privateAddress ≠ "" → privateAddress = w.loadBalancer.privateAddress)
  | .edit _ _ => True

instance (w : EndpointWorld) : (a : EndpointAction σ) → Decidable (w.OneLoadBalancer a)
  | .reconcile answers env patches cloud => inferInstanceAs
      (Decidable (∀ lb ∈ (w.pass answers env patches cloud).cloud.answered,
        lb = SDKClient.loadBalancerFromSDK w.loadBalancer))
  | .fill externalAddress privateAddress => inferInstanceAs
      (Decidable
        ((w.loadBalancer.externalAddress ≠ "" → externalAddress = w.loadBalancer.externalAddress) ∧
        (w.loadBalancer.privateAddress ≠ "" → privateAddress = w.loadBalancer.privateAddress)))
  | .edit _ _ => .isTrue trivial

/-- No external address arrives after a pass has set another one. -/
def Timely (w : EndpointWorld) : EndpointAction σ → Prop
  | .reconcile _ _ _ _ => True
  | .fill externalAddress _ => externalAddress = "" ∨ ∀ host ∈ w.set, host = externalAddress
  | .edit _ _ => True

instance (w : EndpointWorld) : (a : EndpointAction σ) → Decidable (w.Timely a)
  | .reconcile _ _ _ _ => .isTrue trivial
  | .fill externalAddress _ =>
      inferInstanceAs (Decidable (externalAddress = "" ∨ ∀ host ∈ w.set, host = externalAddress))
  | .edit _ _ => .isTrue trivial

/-- The invariant: every host that was set is the address that the load balancer has. -/
def Current (w : EndpointWorld) : Prop :=
  ∀ host ∈ w.set, host ≠ "" ∧ host = (SDKClient.loadBalancerFromSDK w.loadBalancer).ip

theorem ip_loadBalancerFromSDK (l : SDKLoadBalancer) : (SDKClient.loadBalancerFromSDK l).ip =
    if l.externalAddress = "" then l.privateAddress else l.externalAddress := by
  unfold SDKClient.loadBalancerFromSDK SDKClient.firstNonEmpty
  by_cases he : l.externalAddress = ""
  · by_cases hp : l.privateAddress = "" <;> simp [he, hp]
  · simp [he]

theorem Current.fill {externalAddress privateAddress : String} (h : w.Current)
    (hone : w.OneLoadBalancer (σ := σ) (.fill externalAddress privateAddress))
    (htimely : w.Timely (σ := σ) (.fill externalAddress privateAddress)) :
    (w.step (σ := σ) (.fill externalAddress privateAddress)).Current := by
  intro host hhost
  obtain ⟨hne, hip⟩ := h host hhost
  refine ⟨hne, ?_⟩
  rw [ip_loadBalancerFromSDK] at hip ⊢
  show host = if externalAddress = "" then privateAddress else externalAddress
  by_cases hexternal : w.loadBalancer.externalAddress = ""
  · -- the private address was set; it stays, and the external one does not come late
    rw [if_pos hexternal] at hip
    have hprivate := hone.2 (hip ▸ hne)
    rcases htimely with hnone | hsame
    · rw [if_pos hnone, hprivate]
      exact hip
    · have hhost' := hsame host hhost
      rw [if_neg (hhost' ▸ hne)]
      exact hhost'
  · rw [if_neg hexternal] at hip
    rw [hone.1 hexternal, if_neg hexternal]
    exact hip

theorem Current.reconcile {answers : ClusterReconciler.Answers} {env : ClusterReconciler.Env σ}
    {patches : List PatchOutcome} {cloud : σ} (h : w.Current)
    (hone : w.OneLoadBalancer (.reconcile answers env patches cloud)) :
    (w.step (.reconcile answers env patches cloud)).Current := by
  intro host hhost
  rcases List.mem_append.1 hhost with hold | hnew
  · exact h host hold
  set q := w.pass answers env patches cloud with hq
  have hsets : ClusterReconciler.SetsEndpoint
      { obj := w.stored, stored := w.stored, patches, cloud := { state := cloud } } q :=
    ClusterReconciler.wp_reconcile_endpoint env.source rfl answers rfl
  unfold hostsSet at hnew
  rcases hsets with hquiet | ⟨lb, hans, hend⟩
  · rw [hquiet.answered] at hnew
    cases hnew
  · have hanswered : q.cloud.answered = [lb] := hans
    have hlb : lb = SDKClient.loadBalancerFromSDK w.loadBalancer := by
      refine hone lb ?_
      rw [← hq, hanswered]
      exact List.mem_singleton_self lb
    rw [hanswered] at hnew
    by_cases hip : lb.ip = ""
    · simp [hip] at hnew
    · rw [if_neg hip] at hend
      simp only [List.any_cons, List.any_nil, Bool.or_false, bne_iff_ne, ne_eq, hip,
        not_false_eq_true, if_true, List.mem_singleton, hend] at hnew
      rw [hnew]
      exact ⟨hip, congrArg LoadBalancer.ip hlb⟩

/-- **The endpoint is stable** in every run in which the external address does not arrive after a
pass has set another one: all passes set the same host. -/
theorem endpoint_stable (hnew : w.set = []) {actions : List (EndpointAction σ)}
    (h : Runs.Meets step (fun w a => w.OneLoadBalancer a ∧ w.Timely a) w actions) :
    ∀ host ∈ (Runs.run step w actions).set, ∀ host' ∈ (Runs.run step w actions).set,
    host' = host := by
  have hcurrent : (Runs.run step w actions).Current := by
    refine h.inv (I := Current) (fun host hhost => ?_) fun w a hw ha => ?_
    · rw [hnew] at hhost
      cases hhost
    · cases a with
      | reconcile answers env patches cloud => exact hw.reconcile ha.1
      | fill externalAddress privateAddress => exact hw.fill ha.1 ha.2
      | edit metadata spec => exact hw
  intro host hhost host' hhost'
  rw [(hcurrent host hhost).2, (hcurrent host' hhost').2]

/-! A cluster whose load balancer exists and has no address yet. -/

def sampleSpec : StackitClusterSpec :=
  { ClusterWorld.sampleSpec with apiServerLoadBalancerEnabled := true, controlPlaneEndpoint := {} }

/-- The cloud once the first pass has created the load balancer, with the addresses it has by
then. -/
def sampleCloud (externalAddress privateAddress : String) : Session :=
  let made := (ClusterWorld.step (.sample sampleSpec) (ClusterWorld.samplePass [] [])).cloud
  { cloud := { made with
    loadBalancers := made.loadBalancers.map fun l => { l with externalAddress, privateAddress } } }

def samplePass (externalAddress privateAddress : String) : EndpointAction Session :=
  .reconcile { getOwnerCluster := .ok (some { metadata := { name := "c", namespace' := "ns" } }) }
    { source := .connected, getConfigMap := fun _ => .error ⟨none, "not found"⟩, machines := .ok [],
      controlPlaneMachines := .ok [], sha256Hex :=
        Sha256.hex } [] (sampleCloud externalAddress privateAddress)

def sampleWorld : EndpointWorld where
  stored := (ClusterWorld.sample sampleSpec).stored
  loadBalancer :=
    { name := "c-apiserver", labels := ∅, serial := 0,
      listeners := [⟨"apiserver", 6443, "PROTOCOL_TCP", "apiserver"⟩] }

/-- The external address arrives first. -/
def timelyRun : List (EndpointAction Session) :=
  [samplePass "" "", .fill "192.0.2.1" "", samplePass "192.0.2.1" "", .fill "192.0.2.1" "10.0.0.9",
    samplePass "192.0.2.1" "10.0.0.9"]

theorem endpoint_stable_timely :
    (Runs.run step sampleWorld timelyRun).set = ["192.0.2.1", "192.0.2.1"] ∧
      ∀ host ∈ (Runs.run step sampleWorld timelyRun).set,
      ∀ host' ∈ (Runs.run step sampleWorld timelyRun).set, host' = host :=
  ⟨by decide +kernel, endpoint_stable rfl (by decide +kernel)⟩

/-- The private address arrives first, and a pass runs before the external one does. -/
def lateRun : List (EndpointAction Session) :=
  [samplePass "" "", .fill "" "10.0.0.9", samplePass "" "10.0.0.9", .fill "192.0.2.1" "10.0.0.9",
    samplePass "192.0.2.1" "10.0.0.9"]

theorem endpoint_changes :
    Runs.Meets step OneLoadBalancer sampleWorld lateRun ∧
      (Runs.run step sampleWorld (lateRun.take 3)).stored.spec.controlPlaneEndpoint.host =
      "10.0.0.9" ∧
      (Runs.run step sampleWorld lateRun).stored.spec.controlPlaneEndpoint.host = "192.0.2.1" ∧
      (Runs.run step sampleWorld lateRun).set = ["10.0.0.9", "192.0.2.1"] := by
  decide +kernel

end EndpointWorld

end Capstk
