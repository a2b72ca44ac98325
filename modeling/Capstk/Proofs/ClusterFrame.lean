import Capstk.Proofs.ClusterRules

/-!
# What a cluster pass can do

The parts of a pass as rules for an arbitrary relation `R` between the states of a pass: which
writes to the copy and which calls of the client each part makes (`ResourceFrame`, `BastionFrame`,
`DeleteFrame`), and that a relation that all of them keep is kept by the part. An invariant of the
controller is then argued for at its writes and calls only.
-/

namespace Capstk.ClusterReconciler

open Prog

variable {σ : Type} {env : Env σ} {client : Client σ} {p : Pass StackitCluster σ}
  {R : Pass StackitCluster σ → Pass StackitCluster σ → Prop}

/-! ### Up to the bastion -/

/-- The writes to the copy before the bastion, those of the network and the load balancer's ID
apart. -/
inductive ResourceWrite : (StackitCluster → StackitCluster) → Prop
  | condition (st : ConditionStatus) (reason message type : String)
      (hbastion : type ≠ clusterBastionReadyCondition)
      (hready : type ≠ clusterReadyCondition) :
      ResourceWrite fun sc => sc.setConditions st reason message [type]
  | notReady (reason message : String) (types : List String)
      (hbastion : clusterBastionReadyCondition ∉ types)
      (hready : clusterReadyCondition ∈ types) :
      ResourceWrite fun sc => sc.setNotReady reason message types
  | failureDomains (domains : StackitCluster → List FailureDomain) :
    ResourceWrite fun sc => sc.setFailureDomains (domains sc)
  | endpoint (endpoint : APIEndpoint) : ResourceWrite fun sc => sc.setAPIServerEndpoint endpoint
  | external : ResourceWrite withExternalEndpoint

/-- Every write and every call before the bastion keeps `R`. -/
structure ResourceFrame (env : Env σ) (client : Client σ)
    (R : Pass StackitCluster σ → Pass StackitCluster σ → Prop) :
    Prop extends Closed R where
  write : ∀ {f}, ResourceWrite f → ∀ p, R p { p with obj := f p.obj }
  zones : Keeps R (Pass.call client.listAvailabilityZones)
  network : Keeps R (ensureNetwork client)
  loadBalancer : ∀ network machines, env.controlPlaneMachines = .ok machines → ∀ p :
    Pass StackitCluster σ,
    wp (Pass.call (client.ensureAPIServerLoadBalancer
        (apiServerInput p.obj (seedTargets network (apiServerTargets env.sha256Hex machines)))))
      (fun r q => R p q ∧ ∀ l, r = .ok l → R p { q with obj := q.obj.setLoadBalancerID l.id }) p
  targets : ∀ id machines, env.controlPlaneMachines = .ok machines →
    apiServerTargets env.sha256Hex machines ≠ [] →
    Keeps R (Pass.call (client.setAPIServerLoadBalancerTargets id defaultAPIServerPort
      (apiServerTargets env.sha256Hex machines)))

theorem keeps_orError {α β : Type} (hR : Closed R) {x : Call σ α} (hx : Keeps R (Pass.call x))
    {s : σ} {next : α → σ → Prop} (hs : R p { p with cloud := s })
    (h : ∀ a t, R p { p with cloud := t } → next a t) :
    wp x (OrError (fun (_ : Except GoError β) q => R p q) p next) s := by
  have hcall : wp x (fun _ t => R { p with cloud := s } { p with cloud := t }) s :=
    hx { p with cloud := s }
  exact wp_orError hcall (fun a t ht => h a t (hR.trans hs ht)) fun _ _ ht => hR.trans hs ht

namespace ResourceFrame

theorem withEndpoint (h : ResourceFrame env client R) (lb : LoadBalancer)
    (p : Pass StackitCluster σ) :
    R p { p with obj := ClusterReconciler.withEndpoint lb p.obj } := by
  have hend := h.write (.endpoint { host := lb.ip, port := defaultAPIServerPort }) p
  unfold ClusterReconciler.withEndpoint
  split
  · exact hend
  · exact h.trans hend (h.write (.condition _ _ _ _ (by decide) (by decide)) _)

theorem keeps_reconcileTargets (h : ResourceFrame env client R) (lb : LoadBalancer)
    {machines : List Machine} (hmachines : env.controlPlaneMachines = .ok machines) :
    Keeps R (reconcileTargets client lb (apiServerTargets env.sha256Hex machines)) := fun p => by
  refine wp_reconcileTargets (Q := fun _ q => R p q) (fun _ => h.withEndpoint lb p) fun hne => ?_
  have hcall : wp _ (fun _ s => R p { p with cloud := s }) p.cloud :=
    h.targets lb.id machines hmachines hne p
  refine hcall.imp fun r s hs => ?_
  cases r with
  | ok _ => exact h.trans hs (h.withEndpoint lb _)
  | error err =>
    exact h.trans hs (h.trans (h.write (.endpoint _) _)
      (h.write (.condition _ _ _ _ (by decide) (by decide)) _))

theorem keeps_reconcileLoadBalancer (h : ResourceFrame env client R) (network : Network) :
    Keeps R (reconcileLoadBalancer env client network) := fun p => by
  refine wp_reconcileLoadBalancer (Q := fun _ q => R p q)
    (fun err _ => h.write (.condition _ _ _ _ (by decide) (by decide)) p)
    fun machines hmachines => ?_
  have hcall := h.loadBalancer network machines hmachines p
  rw [Pass.wp_call] at hcall
  refine hcall.imp fun r s ⟨hs, hset⟩ => ?_
  cases r with
  | error err => exact fun _ => h.trans hs (h.write (.notReady _ _ _ (by decide) (by decide)) _)
  | ok lb =>
    have hq := hset lb rfl
    exact ⟨fun _ => h.trans hq (h.write (.notReady _ _ _ (by decide) (by decide)) _),
      fun _ => h.trans hq (h.keeps_reconcileTargets lb hmachines _)⟩

theorem keeps_reconcileEndpoint (h : ResourceFrame env client R) (network : Network) :
    Keeps R (reconcileEndpoint env client network) := fun p =>
  wp_reconcileEndpoint (Q := fun _ q => R p q)
    (fun _ => h.keeps_reconcileLoadBalancer network p) (fun _ _ => h.write .external p)
    fun _ _ => h.write (.notReady _ _ _ (by decide) (by decide)) p

theorem keeps_reconcileResources (h : ResourceFrame env client R) :
    Keeps R (reconcileResources env client) := fun p => by
  set p₁ : Pass StackitCluster σ := { p with obj := withCredentials p.obj }
  have hp₁ : R p p₁ := h.write (.condition _ _ _ _ (by decide) (by decide)) p
  have hzones : wp client.listAvailabilityZones (fun _ s => R p₁ { p₁ with cloud := s }) p₁.cloud :=
    h.zones p₁
  refine wp_reconcileResources (Q := fun _ q => R p q) (hzones.imp fun r s hs => ?_)
  have hs := h.trans hp₁ hs
  cases r with
  | error err => exact fun _ => h.trans hs (h.write (.notReady _ _ _ (by decide) (by decide)) _)
  | ok zones =>
    have hq := h.trans hs
      (h.write (.failureDomains fun sc => failureDomainsFromZones sc.spec.region zones) _)
    rw [zonesAnswer_ok]
    refine (h.network.wp _).imp fun r q hr => ?_
    have hr := h.trans hq hr
    rcases r with e | result | network
    · exact hr
    · exact hr
    · exact h.trans hr (h.trans (h.write (.condition _ _ _ _ (by decide) (by decide)) q)
        (h.keeps_reconcileEndpoint network _))

end ResourceFrame

/-- `reconcileInfrastructure` keeps `R` if the frame holds for every client in `C`, and every client
the pass can get is; a pass that goes on does so with such a client. -/
theorem via_reconcileInfrastructure {C : Client σ → Prop} (hR : Closed R)
    (hwrite : ∀ {f}, ResourceWrite f → ∀ p, R p { p with obj := f p.obj })
    (hclient : ∀ client, buildCloudClient env.source p.obj = .ok client → C client)
    (hresources : ∀ client, C client → Keeps R (reconcileResources env client)) :
    wp (reconcileInfrastructure env) (Via R p fun r _ => ∀ client, r = .inr client →
      C client) p := by
  have hzones : R p { p with obj := withStaticZones p.obj } :=
    hwrite (.failureDomains fun sc => stackitFailureDomains sc.spec.region) p
  refine wp_reconcileInfrastructure (fun err _ r => ⟨?_, ?_⟩) fun client hbuilt => ?_
  · exact hR.trans hzones (hwrite (.notReady _ _ _ (by decide) (by decide)) _)
  · rintro _ hr client rfl
    exact absurd hr (map_inl_ne r client)
  · refine ((hresources client (hclient client hbuilt)).wp _).imp fun r q hq =>
      ⟨hR.trans hzones hq, ?_⟩
    rintro _ hr client' rfl
    obtain ⟨-, rfl⟩ := map_handOn_eq.1 hr
    exact hclient client hbuilt

/-! ### The network -/

/-- The reasons for a cluster without its network. -/
def networkReasons : List String := ["NetworkNotFound", "NetworkCreateError", "NetworkError"]

theorem keeps_ensureNetwork (hR : Closed R) (hset : ∀ n p, R p { p with obj := p.obj.setNetwork n })
    (hfailed : ∀ reason ∈ networkReasons, ∀ message p, R p { p with
      obj := p.obj.setNotReady reason message
        [clusterNetworkReadyCondition, clusterReadyCondition] })
    (hget : ∀ id, Keeps R (Pass.call (client.getNetwork id)))
    (hcreate : ∀ p, p.obj.spec.networkID = "" →
      wp (Pass.call (client.createNetwork (networkInput p.obj))) (fun _ q => R p q) p) :
    Keeps R (ensureNetwork client) := fun p => by
  have hget' : ∀ id, wp (client.getNetwork id) (fun _ s => R p { p with cloud := s }) p.cloud :=
    fun id => hget id p
  have hend : ∀ {managed reason r s}, reason ∈ networkReasons → R p { p with cloud := s } →
      NetworkAnswer (fun _ q => R p q) p managed reason r s := by
    rintro managed reason (err | n) s hreason hs
    · exact fun _ => hR.trans hs (hfailed _ hreason _ _)
    · exact hR.trans hs (hset _ _)
  refine wp_ensureNetwork (fun _ => (hget' _).imp fun r s hs => hend (by decide) hs)
    (fun _ _ => (hget' _).imp fun r s hs _ => hend (by decide) hs) fun hnone s hmissing => ?_
  have hs : R p { p with cloud := s } := hmissing.keeps (hR.refl p) (hget' _)
  have hcall : wp (client.createNetwork (networkInput p.obj))
      (fun _ t => R { p with cloud := s } { p with cloud := t }) s :=
    hcreate { p with cloud := s } hnone
  exact hcall.imp fun r t ht => hend (by decide) (hR.trans hs ht)

/-! ### The bastion -/

/-- The writes to the copy from the bastion on. -/
inductive BastionWrite : (StackitCluster → StackitCluster) → Prop
  | condition (st : ConditionStatus) (reason message : String) :
    BastionWrite fun sc => sc.setConditions st reason message [clusterBastionReadyCondition]
  | notReady (reason message : String) :
    BastionWrite fun sc =>
    sc.setNotReady reason message [clusterBastionReadyCondition, clusterReadyCondition]
  | status (b : Bastion) (cloudInitHash : String) :
      BastionWrite fun sc => sc.setBastionStatus b cloudInitHash
  | cleared : BastionWrite StackitCluster.clearBastionStatus
  | ready : BastionWrite StackitCluster.setReady

/-- Every write and every call from the bastion on keeps `R`. -/
structure BastionFrame (client : Client σ)
    (R : Pass StackitCluster σ → Pass StackitCluster σ → Prop) : Prop extends Closed R where
  write : ∀ {f}, BastionWrite f → ∀ p, R p { p with obj := f p.obj }
  deleteNodeSSHAccess : ∀ tags, Keeps R (Pass.call (client.deleteNodeSSHAccess tags)) ∧
    Keeps R (Pass.call (tolerate isNotFound (client.deleteNodeSSHAccess tags)))
  deleteBastion : ∀ input bastion, Keeps R (Pass.call (client.deleteBastion input bastion)) ∧
    Keeps R (Pass.call (tolerate isNotFound (client.deleteBastion input bastion)))
  ensureBastion : ∀ input, Keeps R (Pass.call (client.ensureBastion input))

namespace BastionFrame

theorem keeps_disableBastion (h : BastionFrame client R) : Keeps R (disableBastion client) :=
  fun p =>
  wp_disableBastion (Q := fun _ q => R p q) (fun _ => h.write (.condition _ _ _) p) fun _ =>
    keeps_orError h.toClosed (h.deleteNodeSSHAccess _).1 (h.refl p) fun _ _ hs =>
      keeps_orError h.toClosed (h.deleteBastion _ _).1 hs fun _ _ ht =>
        h.trans ht (h.trans (h.write .cleared _) (h.write (.condition _ _ _) _))

theorem keeps_recreateBastion (h : BastionFrame client R) (cloudInit : String) :
    Keeps R (recreateBastion client cloudInit) := fun p =>
  wp_recreateBastion (Q := fun _ q => R p q) <|
    keeps_orError h.toClosed (h.deleteNodeSSHAccess _).2 (h.refl p) fun _ _ hs =>
      keeps_orError h.toClosed (h.deleteBastion _ _).2 hs fun _ _ ht =>
        h.trans ht (h.trans (h.write .cleared _) (h.write (.notReady _ _) _))

theorem keeps_ensureBastion (h : BastionFrame client R) (env : Env σ) (cloudInit : String) :
    Keeps R (ClusterReconciler.ensureBastion env client cloudInit) := fun p => by
  refine wp_ensureBastion (Q := fun _ q => R p q) ?_
  refine keeps_orError h.toClosed (h.ensureBastion _) (h.refl p) fun b s hs => ?_
  have hset := h.trans hs (h.write (.status b (bastionCloudInitHash env cloudInit)) _)
  exact ⟨fun _ => h.trans hset (h.write (.notReady _ _) _),
    fun _ => h.trans hset (h.write (.notReady _ _) _),
    fun _ _ => h.trans hset (h.write (.condition _ _ _) _)⟩

theorem keeps_reconcileBastion (h : BastionFrame client R) (env : Env σ) :
    Keeps R (reconcileBastion env client) := fun p =>
  wp_reconcileBastion (Q := fun _ q => R p q) (fun _ => h.keeps_disableBastion p)
    (fun _ _ _ _ => h.write (.notReady _ _) p)
    (fun cloudInit _ _ => h.keeps_recreateBastion cloudInit p)
    fun cloudInit _ _ => h.keeps_ensureBastion env cloudInit p

theorem keeps_finishWithBastion (h : BastionFrame client R) (env : Env σ) :
    Keeps R (finishWithBastion env client) := fun p => by
  refine wp_finishWithBastion (Q := fun _ q => R p q) ?_
  refine ((h.keeps_reconcileBastion env).wp p).imp fun r q hq => ?_
  rcases r with err | ⟨result, _ | _⟩
  · exact fun _ => h.trans hq (h.write (.notReady _ _) q)
  · exact hq
  · exact h.trans hq (h.write .ready q)

end BastionFrame

/-! ### `reconcileNormal` -/

/-- The resources and the bastion, with a client in `C`. -/
theorem keeps_reconcileFinalized {C : Client σ → Prop} (hR : Closed R)
    (hsrc : ∀ sc client, buildCloudClient env.source sc = .ok client → C client)
    (hresources : ∀ client, C client → ResourceFrame env client R)
    (hwrite : ∀ {f}, ResourceWrite f → ∀ p, R p { p with obj := f p.obj })
    (hbastion : ∀ client, C client → BastionFrame client R) :
    Keeps R (reconcileFinalized env) := fun p => by
  refine wp_reconcileFinalized (Q := fun _ q => R p q) ?_
  refine (via_reconcileInfrastructure hR hwrite (hsrc _) fun client hok =>
    (hresources client hok).keeps_reconcileResources).imp fun r q ⟨hq, hr⟩ => ?_
  rcases r with e | result | client
  · exact hq
  · exact hq
  · exact hR.trans hq ((hbastion client (hr _ rfl client rfl)).keeps_finishWithBastion env q)

theorem keeps_reconcileNormal {C : Client σ → Prop} (hR : Closed R)
    (hfinalizer : Keeps R persistFinalizer)
    (hsrc : ∀ sc client, buildCloudClient env.source sc = .ok client → C client)
    (hresources : ∀ client, C client → ResourceFrame env client R)
    (hwrite : ∀ {f}, ResourceWrite f → ∀ p, R p { p with obj := f p.obj })
    (hbastion : ∀ client, C client → BastionFrame client R) : Keeps R (reconcileNormal env) :=
  .bind hR hfinalizer fun _ => keeps_reconcileFinalized hR hsrc hresources hwrite hbastion

/-! ### `reconcileDelete` -/

/-- The writes to the copy of a cluster that is being deleted. -/
inductive DeleteWrite : (StackitCluster → StackitCluster) → Prop
  | condition (reason message type : String) (hready : type ≠ clusterReadyCondition) :
    DeleteWrite fun sc => sc.setConditions .false reason message [type]
  | loadBalancer : DeleteWrite fun sc => sc.setLoadBalancerID ""
  | bastion : DeleteWrite StackitCluster.clearBastionStatus
  | finalizer :
      DeleteWrite fun sc => { sc with metadata := removeFinalizer sc.metadata clusterFinalizer }

/-- Every write and every call of a deletion keeps `R`. -/
structure DeleteFrame (client : Client σ)
    (R : Pass StackitCluster σ → Pass StackitCluster σ → Prop) : Prop extends Closed R where
  write : ∀ {f}, DeleteWrite f → ∀ p, R p { p with obj := f p.obj }
  resolveLoadBalancerID : ∀ sc, Keeps R (Pass.call (resolveLoadBalancerID client sc))
  deleteLoadBalancer : ∀ id,
    Keeps R (Pass.call (tolerate isNotFound (client.deleteAPIServerLoadBalancer id)))
  deleteNodeSSHAccess : ∀ tags,
    Keeps R (Pass.call (tolerate isNotFound (client.deleteNodeSSHAccess tags)))
  deleteBastion : ∀ input bastion,
    Keeps R (Pass.call (tolerate isNotFound (client.deleteBastion input bastion)))
  network : Keeps R (deleteManagedNetwork client)

theorem keeps_deleteManagedNetwork (hR : Closed R)
    (hset : ∀ n p, R p { p with obj := p.obj.setNetwork n })
    (hinUse : ∀ message p, R p { p with
      obj := p.obj.setConditions .false "NetworkInUse" message [clusterNetworkReadyCondition] })
    (hresolve : ∀ sc, Keeps R (Pass.call (resolveManagedNetworkID client sc)))
    (hdelete : ∀ id, Keeps R (Pass.call (tolerate isNotFound (client.deleteNetwork id)))) :
    Keeps R (deleteManagedNetwork client) := by
  refine .bind hR hR.refl fun sc => .bind hR (hresolve sc) fun id => .ite (.pure hR _) ?_
  refine .bind hR (hdelete id).attempt fun r => ?_
  cases r with
  | ok _ => exact .bind hR (hset _) fun _ => .pure hR _
  | error err => exact .ite (.bind hR (hinUse _) fun _ => .pure hR _) (.fail hR err)

theorem DeleteFrame.keeps_deleteResources (h : DeleteFrame client R) :
    Keeps R (deleteResources client) := by
  have hR := h.toClosed
  have hset : ∀ {f : StackitCluster → StackitCluster}, DeleteWrite f →
      Keeps R (Pass.setObj f : Step σ Unit) := h.write
  refine .bind hR ?loadBalancer fun _ => .bind hR ?bastion fun _ => .bind hR h.network fun r => ?_
  case loadBalancer =>
    exact .bind hR hR.refl fun sc => .bind hR (h.resolveLoadBalancerID sc) fun id =>
      .ite (.pure hR ())
      (.bind hR (h.deleteLoadBalancer id) fun _ => hset .loadBalancer)
  case bastion =>
    exact .bind hR hR.refl fun sc => .bind hR (h.deleteNodeSSHAccess _) fun _ =>
      .bind hR (h.deleteBastion _ _) fun _ =>
      .ite (hset .bastion) (.pure hR ())
  cases r with
  | some result => exact .pure hR _
  | none => exact .bind hR (hset .finalizer) fun _ => .pure hR _

theorem keeps_reconcileDelete {C : Client σ → Prop} (hR : Closed R)
    (hwrite : ∀ {f}, DeleteWrite f → ∀ p, R p { p with obj := f p.obj })
    (hsrc : ∀ sc client, buildCloudClient env.source sc = .ok client → C client)
    (hdelete : ∀ client, C client → DeleteFrame client R) (cluster : Cluster) :
    Keeps R (reconcileDelete env cluster) := by
  intro p
  exact wp_reconcileDelete (Q := fun _ q => R p q) (p := p) (fun _ _ _ => hR.refl p)
    (fun _ _ _ => hwrite .finalizer p)
    (fun _ _ _ => hwrite (.condition _ _ _ (by decide)) p) fun client hclient =>
    (hdelete client (hsrc p.obj client hclient)).keeps_deleteResources p

end Capstk.ClusterReconciler
