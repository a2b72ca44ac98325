import Capstk.Proofs.ClusterWrites
import Capstk.Proofs.Generations
import Capstk.Proofs.Schema
import Capstk.Proofs.Webhook

/-!
# What a cluster pass writes is accepted

The API server runs the defaulting webhook before the validating one, on every update. A
StackitCluster that has been through both and that its schema accepts stays one that they accept,
whatever a pass makes of it and whichever of its patches land: of the spec a pass changes nothing
but the endpoint, and that only for a load balancer, so there is nothing left to default; its
conditions keep to their types and reasons; the failure domains are those of the cloud's zones, or
of the region. So no patch of the controller is ever refused.
-/

namespace Capstk

open Prog Schema Webhook

variable {rules : NameRules} {sc₀ sc sc' : StackitCluster}

/-- What the webhooks leave as it is and accept, and so does the schema, up to the length of
messages. -/
structure Acceptable (rules : NameRules) (sc : StackitCluster) : Prop where
  defaulted : defaultStackitCluster sc = sc
  spec : validateStackitClusterSpec rules sc.spec "spec" = []
  schema : Tolerable (Schema.stackitCluster sc)
  generation : 0 ≤ sc.metadata.generation

theorem pattern_of_validateRequiredPattern {value path detail : String} {pattern : String → Bool}
    (h : validateRequiredPattern value pattern path detail = []) : pattern value = true := by
  unfold validateRequiredPattern at h
  split at h
  · cases h
  · simpa using h

theorem Acceptable.region (h : Acceptable rules sc) : regionPattern sc.spec.region = true := by
  have hspec := h.spec
  simp only [validateStackitClusterSpec, List.append_eq_nil_iff] at hspec
  exact pattern_of_validateRequiredPattern hspec.1.1.1.1.1.2

/-- An address that can be published. -/
def HostFits (ip : String) : Prop := ip.length ≤ 512

/-- A spec of which only the endpoint is new, and that only for a load balancer. -/
structure SpecWritten (spec₀ spec : StackitClusterSpec) : Prop where
  rest : spec = { spec₀ with controlPlaneEndpoint := spec.controlPlaneEndpoint }
  endpoint : spec.controlPlaneEndpoint = spec₀.controlPlaneEndpoint ∨
    spec₀.apiServerLoadBalancerEnabled = true ∧ spec.controlPlaneEndpoint.host ≠ ""
  fits : EndpointFits spec.controlPlaneEndpoint

structure StatusFits (status : StackitClusterStatus) : Prop where
  endpoint : EndpointFits status.apiServerEndpoint
  domains : DomainsFit status.failureDomains

/-- What a pass over `sc₀` may make of it. -/
structure WrittenOver (sc₀ sc : StackitCluster) : Prop where
  generation : sc.metadata.generation = sc₀.metadata.generation
  spec : SpecWritten sc₀.spec sc.spec
  status : StatusFits sc.status
  conditions : ConditionsFit sc.conditions

theorem tolerable_stackitCluster : Tolerable (Schema.stackitCluster sc) ↔
    Tolerable (clusterSpec sc.spec) ∧ StatusFits sc.status ∧ ConditionsFit sc.conditions := by
  rw [Schema.stackitCluster, tolerable_append, tolerable_append, tolerable_append,
    tolerable_endpoint, tolerable_failureDomains, tolerable_conditions]
  constructor
  · rintro ⟨⟨⟨hspec, hendpoint⟩, hdomains⟩, hconditions⟩
    exact ⟨hspec, ⟨hendpoint, hdomains⟩, hconditions⟩
  · rintro ⟨hspec, hstatus, hconditions⟩
    exact ⟨⟨⟨hspec, hstatus.endpoint⟩, hstatus.domains⟩, hconditions⟩

theorem tolerable_clusterSpec_endpoint {spec : StackitClusterSpec}
    (h : Tolerable (clusterSpec spec)) {e : APIEndpoint} (he : EndpointFits e)
    (hhost : e = spec.controlPlaneEndpoint ∨ spec.apiServerLoadBalancerEnabled = true ∧
      e.host ≠ "") :
    Tolerable (clusterSpec { spec with controlPlaneEndpoint := e }) := by
  simp only [clusterSpec, tolerable_append, tolerable_endpoint, tolerable_violated, reduceCtorEq,
    or_false] at h ⊢
  obtain ⟨⟨⟨⟨⟨⟨hrest, -⟩, hbastion⟩, hlabels⟩, hsecret⟩, hendpoint⟩, hrequired⟩ := h
  refine ⟨⟨⟨⟨⟨⟨hrest, he⟩, hbastion⟩, hlabels⟩, hsecret⟩, ?_⟩, hrequired⟩
  rcases hhost with rfl | ⟨henabled, -⟩
  · exact hendpoint
  · simp [henabled]

theorem validateStackitClusterSpec_endpoint {spec : StackitClusterSpec} {path : String}
    (h : validateStackitClusterSpec rules spec path = []) {e : APIEndpoint}
    (hhost : e = spec.controlPlaneEndpoint ∨ spec.apiServerLoadBalancerEnabled = true ∧
      e.host ≠ "") :
    validateStackitClusterSpec rules { spec with controlPlaneEndpoint := e } path = [] := by
  rcases hhost with rfl | ⟨henabled, -⟩
  · exact h
  · simp only [validateStackitClusterSpec, List.append_eq_nil_iff, check_eq_nil] at h ⊢
    obtain ⟨⟨⟨⟨hrest, -⟩, hnetwork⟩, hbastion⟩, hlabels⟩ := h
    exact ⟨⟨⟨⟨hrest, by simp [henabled]⟩, hnetwork⟩, hbastion⟩, hlabels⟩

theorem defaultClusterSpec_endpoint (spec : StackitClusterSpec) (e : APIEndpoint) :
    defaultClusterSpec { spec with controlPlaneEndpoint := e } =
      { defaultClusterSpec spec with controlPlaneEndpoint := e } := by
  unfold defaultClusterSpec
  dsimp only
  split <;> rfl

theorem defaultStackitCluster_eq_iff :
    defaultStackitCluster sc = sc ↔ defaultClusterSpec sc.spec = sc.spec :=
  ⟨fun h => congrArg StackitCluster.spec h, fun h => congrArg (fun spec => { sc with spec }) h⟩

/-- Each part of what is delivered is of one of the two objects. -/
theorem deliver_parts (d : PatchOutcome) (sc sc' : StackitCluster) :
    ((Pass.deliver d sc sc').spec = sc.spec ∨ (Pass.deliver d sc sc').spec = sc'.spec) ∧
    ((Pass.deliver d sc sc').status = sc.status ∨ (Pass.deliver d sc sc').status = sc'.status) ∧
    ((Pass.deliver d sc sc').conditions = sc.conditions ∨ (Pass.deliver d sc sc').conditions =
      sc'.conditions) ∧
    (Pass.deliver d sc sc').metadata.generation = sc'.metadata.generation := by
  unfold Pass.deliver
  refine ⟨?_, ?_, ?_, ?_⟩
  all_goals split <;> split <;> first | exact .inl rfl | exact .inr rfl | rfl

namespace WrittenOver

theorem refl (h : Acceptable rules sc) : WrittenOver sc sc := by
  obtain ⟨hspec, hstatus, hconditions⟩ := tolerable_stackitCluster.1 h.schema
  refine ⟨rfl, ⟨rfl, .inl rfl, ?_⟩, hstatus, hconditions⟩
  simp only [clusterSpec, tolerable_append, tolerable_endpoint] at hspec
  exact hspec.1.1.1.1.1.2

theorem acceptable (h : WrittenOver sc₀ sc) (h₀ : Acceptable rules sc₀) : Acceptable rules sc := by
  obtain ⟨hspec, -⟩ := tolerable_stackitCluster.1 h₀.schema
  refine ⟨?_, ?_, tolerable_stackitCluster.2 ⟨?_, h.status, h.conditions⟩,
    h.generation ▸ h₀.generation⟩
  · rw [defaultStackitCluster_eq_iff, h.spec.rest, defaultClusterSpec_endpoint,
      defaultStackitCluster_eq_iff.1 h₀.defaulted]
  · rw [h.spec.rest]
    exact validateStackitClusterSpec_endpoint h₀.spec h.spec.endpoint
  · rw [h.spec.rest]
    exact tolerable_clusterSpec_endpoint hspec h.spec.fits h.spec.endpoint

theorem admits (h : WrittenOver sc₀ sc) (h₀ : Acceptable rules sc₀) :
    admitsClusterUpdate rules sc₀ sc = true := by
  have hupdate : validateStackitClusterSpecUpdate sc₀ sc = [] := by
    rw [validateStackitClusterSpecUpdate, h.spec.rest]
    simp [immutable]
  rw [admitsClusterUpdate, (h.acceptable h₀).spec, hupdate]
  rfl

theorem deliver (h : WrittenOver sc₀ sc) (h' : WrittenOver sc₀ sc') (d : PatchOutcome) :
    WrittenOver sc₀ (Pass.deliver d sc sc') := by
  obtain ⟨hspec, hstatus, hconditions, hgeneration⟩ := deliver_parts d sc sc'
  refine ⟨hgeneration.trans h'.generation, ?_, ?_, ?_⟩
  · rcases hspec with heq | heq
    · exact heq ▸ h.spec
    · exact heq ▸ h'.spec
  · rcases hstatus with heq | heq
    · exact heq ▸ h.status
    · exact heq ▸ h'.status
  · rcases hconditions with heq | heq
    · exact heq ▸ h.conditions
    · exact heq ▸ h'.conditions

theorem setConditions (h : WrittenOver sc₀ sc) (h₀ : Acceptable rules sc₀)
    {status : ConditionStatus} {reason message : String} {types : List String}
    (hreason : reasonFits reason = true) (htypes : ∀ t ∈ types, typeFits t = true) :
    WrittenOver sc₀ (sc.setConditions status reason message types) :=
  ⟨h.generation, h.spec, h.status, h.conditions.setConditions (h.generation ▸ h₀.generation)
    hreason htypes⟩

end WrittenOver

namespace ClusterReconciler

theorem typeFits_conditionTypes : ∀ t ∈ conditionTypes, typeFits t = true := by decide

theorem reasonFits_reasons : ∀ reason ∈ reasons, reasonFits reason = true := by decide

theorem writtenOver_paused (h : WrittenOver sc₀ sc) (h₀ : Acceptable rules sc₀)
    (cluster : Cluster) :
    WrittenOver sc₀ (withPaused cluster sc) := by
  refine ⟨h.generation, h.spec, h.status, ?_⟩
  have hgeneration : 0 ≤ sc.metadata.generation := h.generation ▸ h₀.generation
  show ConditionsFit (setPausedCondition _ _ _)
  cases reconciliationPaused (some cluster) sc.metadata with
  | none => exact h.conditions.setConditions hgeneration (by decide) (by decide)
  | some message => exact h.conditions.setConditions hgeneration (by decide) (by decide)

theorem writtenOver_write (h : WrittenOver sc₀ sc) (h₀ : Acceptable rules sc₀)
    (hw : Write ZonesFit HostFits sc sc') :
    WrittenOver sc₀ sc' := by
  have henabled : sc.spec.apiServerLoadBalancerEnabled = sc₀.spec.apiServerLoadBalancerEnabled := by
    rw [h.spec.rest]
  cases hw with
  | conditions status reason message types hreason htypes =>
    exact h.setConditions h₀ (reasonFits_reasons reason hreason) fun t ht =>
      typeFits_conditionTypes t (htypes t ht)
  | status status hendpoint hdomains =>
    exact ⟨h.generation, h.spec, ⟨hendpoint ▸ h.status.endpoint, hdomains ▸ h.status.domains⟩,
      h.conditions⟩
  | failureDomains zones hzones =>
    have hregion : regionPattern sc.spec.region = true := by
      rw [h.spec.rest]
      exact h₀.region
    exact ⟨h.generation, h.spec,
      ⟨h.status.endpoint, domainsFit_failureDomainsFromZones hregion hzones⟩, h.conditions⟩
  | endpoint ip hlb hne hip =>
    have hport : (defaultAPIServerPort ≠ 0 → 1 ≤ defaultAPIServerPort) ∧
        defaultAPIServerPort ≤ 65535 := by decide
    have hfits : EndpointFits { host := ip, port := defaultAPIServerPort } := ⟨hip, hport⟩
    have hrest := congrArg (fun spec : StackitClusterSpec =>
      { spec with controlPlaneEndpoint := { host := ip, port := defaultAPIServerPort } })
        h.spec.rest
    exact ⟨h.generation, ⟨hrest, .inr ⟨henabled ▸ hlb, hne⟩, hfits⟩, ⟨hfits, h.status.domains⟩,
      h.conditions⟩
  | external hdisabled =>
    exact ⟨h.generation, h.spec, ⟨h.spec.fits, h.status.domains⟩, h.conditions⟩
  | finalizers finalizers => exact ⟨h.generation, h.spec, h.status, h.conditions⟩

/-- A pass over an object that is accepted leaves one that is accepted, as an update of it. -/
theorem wp_reconcile_writtenOver {σ : Type} {env : Env σ} {answers : Answers}
    {p : Pass StackitCluster σ} {C : σ → Prop} (h₀ : Acceptable rules p.stored) (hcloud : C p.cloud)
    (hsrc : ∀ sc client, buildCloudClient env.source sc = .ok client →
      Answering C ZonesFit HostFits client) :
    wp (reconcile answers env) (fun _ q => WrittenOver p.stored q.stored) p := by
  have hinv : WriteInvariant ZonesFit HostFits (WrittenOver p.stored) (WrittenOver p.stored) :=
    ⟨fun hw h => writtenOver_write h h₀ hw, fun o h h' => h.deliver h' o⟩
  have hrefl := WrittenOver.refl h₀
  refine (wp_reconcile_stored hinv hsrc (fun cluster _ => writtenOver_paused hrefl h₀ cluster) hrefl
    hcloud).imp
    fun r q hq => ?_
  rcases hq with heq | ⟨sc, stored, o, hsc, hstored, heq⟩
  · exact heq ▸ hrefl
  · exact heq ▸ hsc.deliver hstored o

end ClusterReconciler

/-! ### The cloud -/

/-- Its zones and the addresses of its load balancers, also of those still to be made, can be
published. -/
structure CloudFits (c : Cloud) : Prop where
  zones : ZonesFit c.zones
  addresses : ∀ l ∈ c.loadBalancers, HostFits l.externalAddress ∧ HostFits l.privateAddress
  newAddresses : ∀ name, HostFits (c.provisioning.externalAddress name) ∧
    HostFits (c.provisioning.privateAddress name)

theorem CloudFits.closed : Closed fun s t : Session => CloudFits s.cloud → CloudFits t.cloud :=
  .imp fun s : Session => CloudFits s.cloud

theorem cloudFits_request {α : Type} {op : String} {req : Request} {effect : Cloud.Effect α}
    (h : ∀ c, (effect c).2.zones = c.zones ∧ (effect c).2.loadBalancers = c.loadBalancers ∧
      (effect c).2.provisioning = c.provisioning) :
    Preserves (fun s : Session => CloudFits s.cloud) (request op req effect) :=
  keeps_request (R := fun c c' => CloudFits c → CloudFits c') (fun _ h => h) fun c hc =>
    ⟨(h c).1 ▸ hc.zones, (h c).2.1 ▸ hc.addresses, (h c).2.2 ▸ hc.newAddresses⟩

theorem hostFits_firstNonEmpty {external internal : String}
    (h : HostFits external ∧ HostFits internal) :
    HostFits (SDKClient.firstNonEmpty [external, internal]) := by
  unfold SDKClient.firstNonEmpty
  cases hfind : [external, internal].find? (· != "") with
  | none => exact Nat.zero_le _
  | some address =>
    have hmem := List.mem_of_find?_eq_some hfind
    simp only [List.mem_cons, List.not_mem_nil, or_false] at hmem
    rcases hmem with rfl | rfl
    · exact h.1
    · exact h.2

/-- What the cloud answers can be published if what it has can be. -/
theorem answering_sdkClient :
    ClusterReconciler.Answering (fun s : Session => CloudFits s.cloud) ZonesFit HostFits
      sdkClient where
  zones s hs := by
    refine wp_request fun r c t hr ht => ?_
    have hc : c = s.cloud := hr.cloud_eq fun _ => rfl
    refine ⟨by rw [ht.cloud, hc]; exact hs, fun zones hzones => ?_⟩
    subst hzones
    cases hr.ok
    exact hs.zones
  getNetwork id := by
    refine .bind CloudFits.closed (cloudFits_request fun c => ?_) fun _ => .pure CloudFits.closed _
    unfold Cloud.getNetwork
    split <;> exact ⟨rfl, rfl, rfl⟩
  createNetwork input := by
    have hcreate : Preserves (fun s : Session => CloudFits s.cloud) (do
        let network ← request "create network"
          (.createNetwork input.name input.tags input.ipv4Prefix)
          (Cloud.createNetwork input.name input.tags input.ipv4Prefix)
        pure (SDKClient.networkFromSDK network) : Call Session Network) :=
      .bind CloudFits.closed (cloudFits_request fun _ => ⟨rfl, rfl, rfl⟩) fun _ =>
        .pure CloudFits.closed _
    have hfind : Preserves (fun s : Session => CloudFits s.cloud)
        (SDKClient.findNetworkByTags input.tags) := by
      refine .bind CloudFits.closed (keeps_requireTags CloudFits.closed ?_) fun _ =>
        keeps_single CloudFits.closed _ _ _
      exact .bind CloudFits.closed (cloudFits_request fun _ => ⟨rfl, rfl, rfl⟩) fun _ =>
        .pure CloudFits.closed _
    exact .ite (.fail CloudFits.closed _)
      (.ite hcreate (keeps_existingOr CloudFits.closed hfind hcreate))
  loadBalancer input s hs := by
    refine (SDKClient.wp_ensureAPIServerLoadBalancer_address input s).imp fun r t hr l hl => ?_
    have hmem : l.ip ∈ SDKClient.answeredAddresses input.tags input.name s := by
      rw [hr l hl]
      exact List.mem_singleton.2 rfl
    unfold SDKClient.answeredAddresses at hmem
    split at hmem
    · rw [List.mem_singleton.1 hmem]
      exact hostFits_firstNonEmpty (hs.newAddresses input.name)
    · obtain ⟨a, ha, hip⟩ := List.mem_map.1 hmem
      obtain ⟨x, hx, rfl⟩ := List.mem_map.1 ha
      rw [← hip]
      exact hostFits_firstNonEmpty (hs.addresses x (List.mem_of_mem_filter hx))

namespace ClusterWorld
variable {w : ClusterWorld} {as : List ClusterAction}

/-- A pass finds zones and addresses that can be published. Users submit any spec; what is stored is
what the defaulting webhook makes of it, if the validating one and the schema accept that. -/
def Orderly (rules : NameRules) (w : ClusterWorld) : ClusterAction → Prop
  | .reconcile _ env _ _ _ => (∀ sc, SDKSource env.source sc) ∧ CloudFits w.cloud
  | .updateSpec spec => (∃ submitted, spec = defaultClusterSpec submitted) ∧
    admitsClusterUpdate rules w.stored { w.stored with spec } = true ∧ Tolerable (clusterSpec spec)
  | .requestDeletion | .cloudEvolves _ => True

/-- What the controller or a user writes is stored as it is: the defaulting webhook changes nothing
of it, and the validating one and the schema accept it as an update of what was stored. -/
structure Accepted (rules : NameRules) (w : ClusterWorld) (a : ClusterAction) : Prop where
  defaulted : defaultStackitCluster (w.step a).stored = (w.step a).stored
  admitted : admitsClusterUpdate rules w.stored (w.step a).stored = true
  schema : Tolerable (Schema.stackitCluster (w.step a).stored)

theorem admitsClusterUpdate_same (h : Acceptable rules sc₀) (hspec : sc.spec = sc₀.spec) :
    admitsClusterUpdate rules sc₀ sc = true := by
  rw [admitsClusterUpdate, hspec, h.spec, validateStackitClusterSpecUpdate, hspec]
  simp [immutable]

theorem accepted_step {a : ClusterAction} (h : Acceptable rules w.stored) (ha : Orderly rules w a) :
    Acceptable rules (w.step a).stored ∧ Accepted rules w a := by
  have hspecs := tolerable_stackitCluster.1 h.schema
  have hdefaulted : defaultClusterSpec w.stored.spec = w.stored.spec :=
    defaultStackitCluster_eq_iff.1 h.defaulted
  cases a with
  | reconcile answers env patches outcomes orders =>
    have hwritten :
        WrittenOver w.stored (w.step (.reconcile answers env patches outcomes orders)).stored :=
      ClusterReconciler.wp_reconcile_writtenOver (p := w.begin patches outcomes orders) h ha.2
        fun sc client hclient => by
        rw [ha.1 sc client hclient]
        exact answering_sdkClient
    have hnext := hwritten.acceptable h
    exact ⟨hnext, hnext.defaulted, hwritten.admits h, hnext.schema⟩
  | requestDeletion =>
    have hnext : Acceptable rules (w.step .requestDeletion).stored :=
      ⟨defaultStackitCluster_eq_iff.2 hdefaulted, h.spec, h.schema, h.generation⟩
    exact ⟨hnext, hnext.defaulted, admitsClusterUpdate_same h rfl, hnext.schema⟩
  | updateSpec spec =>
    obtain ⟨⟨submitted, rfl⟩, hadmits, hspec⟩ := ha
    have hvalid : validateStackitClusterSpec rules (defaultClusterSpec submitted) "spec" = [] := by
      have hempty := hadmits
      rw [admitsClusterUpdate, List.isEmpty_iff, List.append_eq_nil_iff] at hempty
      exact hempty.1
    have hnext : Acceptable rules (w.step (.updateSpec (defaultClusterSpec submitted))).stored :=
      ⟨defaultStackitCluster_eq_iff.2 (defaultClusterSpec_idem submitted), hvalid,
        tolerable_stackitCluster.2 ⟨hspec, hspecs.2⟩, h.generation⟩
    exact ⟨hnext, hnext.defaulted, hadmits, hnext.schema⟩
  | cloudEvolves change => exact ⟨h, h.defaulted, admitsClusterUpdate_same h rfl, h.schema⟩

/-- **No write of the cluster controller is refused.** From an object that the webhooks have
defaulted and accepted, over any run of passes, with whatever fails in them and whichever patches
land, and of updates that users may make: the defaulting webhook has nothing to do on what becomes
of the object, the validating one admits it as an update of what was stored, and the schema finds no
fault but the length of a message. -/
theorem cluster_writes_accepted (h : Acceptable rules w.stored)
    (has : Runs.Meets step (Orderly rules) w as) :
    Runs.Meets step (Accepted rules) w as :=
  has.of_inv (I := fun w => Acceptable rules w.stored) h fun _ _ h ha => accepted_step h ha

/-- A bastion as a user submits it; the webhook adds what becomes of its volume. -/
def submittedSpec : StackitClusterSpec :=
  { sampleSpec with bastion := { sampleBastion with rootVolume := { sizeGiB := 20 } } }

/-- A pass whose status is lost, a user who wants a bastion, and a pass that creates one. -/
theorem cluster_writes_accepted_bastion :
    let as :=
      [samplePass [{ status := .failed }] [], .updateSpec (defaultClusterSpec submittedSpec),
        samplePass [] []]
    defaultClusterSpec submittedSpec ≠ submittedSpec ∧ Runs.Meets step (Accepted .kubernetes)
    (sample sampleSpec) as := by
  intro as
  have hfits : ∀ c : Cloud, c.zones = [] ∧ c.loadBalancers.length = 0 ∧ c.provisioning = {} →
      CloudFits c := by
    rintro c ⟨hzones, hlbs, hanswers⟩
    refine ⟨hzones ▸ ⟨by simp, .nil⟩, fun l hl => ?_, fun name => ?_⟩
    · rw [List.length_eq_zero_iff.1 hlbs] at hl
      cases hl
    · rw [hanswers]
      exact ⟨Nat.zero_le _, Nat.zero_le _⟩
  have hsrc : ∀ sc, SDKSource ClientSource.connected sc := fun sc => (SourceOk.connected sc).sdk
  have hspec : Tolerable (clusterSpec (defaultClusterSpec submittedSpec)) :=
    (by decide +kernel : ∀ v ∈ clusterSpec (defaultClusterSpec submittedSpec),
      v.rule = .maxLength 32768)
  have hchanged : (defaultClusterSpec submittedSpec).bastion ≠ submittedSpec.bastion := by
    decide +kernel
  refine ⟨fun h => hchanged (congrArg _ h), ?_⟩
  refine cluster_writes_accepted ⟨rfl, by decide +kernel, ?_, by decide⟩
    ⟨⟨hsrc, hfits _ ⟨by decide +kernel, by decide +kernel, rfl⟩⟩,
      ⟨⟨_, rfl⟩, by decide +kernel, hspec⟩,
      ⟨hsrc, hfits _ ⟨by decide +kernel, by decide +kernel, rfl⟩⟩, trivial⟩
  exact (by decide +kernel : ∀ v ∈ Schema.stackitCluster (sample sampleSpec).stored,
    v.rule = .maxLength 32768)

end ClusterWorld

end Capstk
