import Mathlib.Logic.Function.Basic
import Capstk.Lib.Sha256
import Capstk.Proofs.Tenancy

/-!
# A project with many clusters

The StackitClusters and StackitMachines of many tenants share one project. Their passes run among
each other: between any two calls of a pass the project may change in every way in which other
passes can change it. Every call that any of the controllers ever makes stays with its own tenant.
-/

namespace Capstk

open Prog SDKClient

/-- A call of the client, and for whom it was made. -/
structure ProjectCall (ι : Type) where
  tenant : ι
  before : Cloud
  after : Cloud

/-- The cloud, the stored objects of the clusters `ι` and the machines `κ`, and the calls so far. -/
structure Project (ι κ : Type) where
  cloud : Cloud
  clusters : ι → StackitCluster
  machines : κ → StackitMachine
  calls : List (ProjectCall ι) := []

inductive ProjectAction (ι κ : Type)
  /-- A pass over a cluster, with what happens between its calls. -/
  | reconcileCluster (i : ι) (answers : ClusterReconciler.Answers)
      (env : ClusterReconciler.Env Session)
      (patches : List PatchOutcome) (outcomes : List Outcome) (orders : List MapOrder)
      (moves : List (Cloud → Cloud))
  /-- A pass over a machine of a cluster. -/
  | reconcileMachine (k : κ) (answers : MachineReconciler.Answers Session)
      (patches : List PatchOutcome) (outcomes : List Outcome) (orders : List MapOrder)
      (moves : List (Cloud → Cloud))
  | deleteCluster (i : ι)
  | deleteMachine (k : κ)
  | updateCluster (i : ι) (spec : StackitClusterSpec)
  | updateMachine (k : κ) (spec : StackitMachineSpec)
  | cloudEvolves (change : Cloud → Cloud)

/-- The same answers for a pass among others. -/
def ClusterReconciler.Env.amid (env : Env Session) : Env (Amid Session) where
  source := env.source.map Client.amid
  getConfigMap := env.getConfigMap
  machines := env.machines
  controlPlaneMachines := env.controlPlaneMachines
  sha256Hex := env.sha256Hex

def MachineReconciler.Answers.amid (answers : Answers Session) : Answers (Amid Session) where
  getStackitMachine := answers.getStackitMachine
  getOwnerMachine := answers.getOwnerMachine
  getClusterFromMetadata := answers.getClusterFromMetadata
  getStackitCluster := answers.getStackitCluster
  newPatchHelper := answers.newPatchHelper
  source := answers.source.map Client.amid

namespace Project
variable {ι κ : Type} [DecidableEq ι] [DecidableEq κ]

/-- The project as a pass finds it. -/
def enter (w : Project ι κ) (outcomes : List Outcome) (orders : List MapOrder)
    (moves : List (Cloud → Cloud)) : Amid Session where
  state := { cloud := w.cloud, outcomes, orders }
  moves := moves.map fun f s => { s with cloud := f s.cloud }

/-- The calls of a pass. -/
def callsOf (i : ι) (s : Amid Session) : List (ProjectCall ι) :=
  s.calls.map fun c => ⟨i, c.1.cloud, c.2.cloud⟩

/-- `owner k` is the cluster of the machine `k`. -/
def step (owner : κ → ι) (w : Project ι κ) : ProjectAction ι κ → Project ι κ
  | .reconcileCluster i answers env patches outcomes orders moves =>
    let p := (ClusterReconciler.reconcile answers env.amid).after
      { obj := w.clusters i, stored := w.clusters i, patches,
        cloud := w.enter outcomes orders moves }
    { w with cloud := p.cloud.state.cloud, clusters := Function.update w.clusters i p.stored,
             calls := w.calls ++ callsOf i p.cloud }
  | .reconcileMachine k answers patches outcomes orders moves =>
    let p := (MachineReconciler.reconcile answers.amid).after
      { obj := w.machines k, stored := w.machines k, patches,
        cloud := w.enter outcomes orders moves }
    { w with
      cloud := p.cloud.state.cloud
      machines := Function.update w.machines k p.stored
      calls := w.calls ++ callsOf (owner k) p.cloud }
  | .deleteCluster i =>
    let sc := w.clusters i
    { w with
      clusters := Function.update w.clusters i { sc with metadata.deleting := true } }
  | .deleteMachine k =>
    let sm := w.machines k
    { w with
      machines := Function.update w.machines k { sm with metadata.deleting := true } }
  | .updateCluster i spec =>
    { w with clusters := Function.update w.clusters i { w.clusters i with spec } }
  | .updateMachine k spec =>
    { w with machines := Function.update w.machines k { w.machines k with spec } }
  | .cloudEvolves change => { w with cloud := change w.cloud }

end Project

/-- A rule that lets SSH in, from one of the CIDRs or from a security group. -/
def SSHRule (cidrs : List String) (payload : SDKRulePayload) : Prop :=
  (∃ cidr ∈ cidrs, payload = sshRule cidr) ∨ ∃ groupID, payload = nodeRule groupID

section tenants
variable {ι κ : Type} (tenants : ι → Tenant) (owner : κ → ι) (cidrs : ι → List String)

/-- What a cluster's object records is the tenant's. -/
structure Registered (t : Tenant) (cidrs : List String) (c : Cloud) (sc : StackitCluster) :
    Prop where
  is : t.Is (.of sc)
  records : Records t (SSHRule cidrs) (.of sc) c sc

namespace Project

/-- What the environment keeps to: the passes get the SDK client and the objects of their tenant,
updates leave the network alone and keep to labels that survive the rewriting for load balancers,
and whatever else happens gives out new IDs and changes no labels. -/
def Admissible (w : Project ι κ) : ProjectAction ι κ → Prop
  | .reconcileCluster _ _ env _ _ _ moves => (∀ f ∈ moves, ∀ c, Evolves c (f c)) ∧
      ∀ sc, SDKSource env.source sc
  | .reconcileMachine k answers _ _ _ moves => (∀ f ∈ moves, ∀ c, Evolves c (f c)) ∧
      ∀ ctx, MachineReconciler.lookupContext answers = .ok (some ctx) →
        (tenants (owner k)).Has ctx ∧ SDKSource answers.source ctx.stackitCluster
  | .updateCluster i spec => spec.networkID = (w.clusters i).spec.networkID ∧
      ConsistentRewrites { w.clusters i with spec }.tags ∧ ∀ cidr ∈ spec.bastion.allowedCIDRs,
      cidr ∈ cidrs i
  | .cloudEvolves change => Evolves w.cloud (change w.cloud)
  | .deleteCluster _ | .deleteMachine _ | .updateMachine _ _ => True

/-- What is recorded is right, and every call so far was one its tenant may make. -/
structure Orderly (w : Project ι κ) : Prop where
  sound : Sound w.cloud
  clusters : ∀ i, Registered (tenants i) (cidrs i) w.cloud (w.clusters i)
  machines : ∀ k, RecordsServer (tenants (owner k)) w.cloud (w.machines k)
  calls : ∀ call ∈ w.calls, Within (tenants call.tenant) (SSHRule (cidrs call.tenant)) call.before
    call.after

end Project

end tenants

variable {ι κ : Type} {tenants : ι → Tenant} {owner : κ → ι} {cidrs : ι → List String}
  {w : Project ι κ} {c c' : Cloud}

/-! ### The client of a pass -/

theorem buildCloudClient_map {σ τ : Type} (f : Client σ → Client τ) (src : ClientSource σ)
    (sc : StackitCluster) :
    buildCloudClient (src.map f) sc = (buildCloudClient src sc).map f := by
  unfold buildCloudClient ClientSource.map
  cases src.factory with
  | none => rfl
  | some factory =>
    dsimp only [Option.map_some]
    cases src.getSecret (credentialsSecretKey sc) with
    | error err => rfl
    | ok secret =>
      dsimp only
      cases parseCredentialsSecret secret sc.spec.projectID sc.spec.region <;> rfl

theorem SDKSource.amid {src : ClientSource Session} {sc : StackitCluster} (h : SDKSource src sc)
    {client : Client (Amid Session)}
    (hclient : buildCloudClient (src.map Client.amid) sc = .ok client) :
    client = sdkClient.amid := by
  rw [buildCloudClient_map] at hclient
  cases hbuilt : buildCloudClient src sc with
  | error e => rw [hbuilt] at hclient; cases hclient
  | ok client₀ =>
    rw [hbuilt] at hclient
    cases hclient
    rw [h client₀ hbuilt]

/-! ### Steps -/

theorem Registered.evolves {t : Tenant} {cidrs : List String} {sc : StackitCluster}
    (h : Registered t cidrs c sc) (he : Evolves c c') : Registered t cidrs c' sc :=
  ⟨h.is, Records.stable sc _ _ he h.records⟩

namespace Project

theorem tidy_enter {Obj : Type} {t : Tenant} {rule : SDKRulePayload → Prop}
    {Rec : Cloud → Obj → Prop} {o : Obj} (hs : Sound w.cloud) (ho : Rec w.cloud o)
    {moves : List (Cloud → Cloud)} (hmoves : ∀ f ∈ moves, ∀ c, Evolves c (f c))
    (patches : List PatchOutcome) (outcomes : List Outcome) (orders : List MapOrder) :
    Tidy t rule Rec w.cloud
      { obj := o, stored := o, patches, cloud := w.enter outcomes orders moves } := by
  refine ⟨⟨fun f hf s => ?_, fun c hc => ?_⟩, .refl _, hs, ho, ho⟩
  · obtain ⟨g, hg, rfl⟩ := List.mem_map.1 hf
    exact hmoves g hg s.cloud
  · cases hc

namespace Orderly

theorem calls_append (h : w.Orderly tenants owner cidrs) {i : ι} {s : Amid Session}
    (hs : ∀ x ∈ s.calls, Within (tenants i) (SSHRule (cidrs i)) x.1.cloud x.2.cloud) :
    ∀ call ∈ w.calls ++ callsOf i s, Within (tenants call.tenant)
      (SSHRule (cidrs call.tenant)) call.before call.after := by
  intro call hcall
  rcases List.mem_append.1 hcall with hcall | hcall
  · exact h.calls call hcall
  · obtain ⟨x, hx, rfl⟩ := List.mem_map.1 hcall
    exact hs x hx

theorem setCluster [DecidableEq ι] (h : w.Orderly tenants owner cidrs) {i : ι} {sc : StackitCluster}
    {calls : List (ProjectCall ι)} (he : Evolves w.cloud c)
    (hsc : Registered (tenants i) (cidrs i) c sc)
    (hcalls : ∀ call ∈ calls, Within (tenants call.tenant) (SSHRule (cidrs call.tenant)) call.before
      call.after) :
    Orderly tenants owner cidrs { w with
      cloud := c, clusters := Function.update w.clusters i sc, calls } := by
  refine ⟨he.sound h.sound, fun j => ?_, fun k => RecordsServer.stable _ _ _ he (h.machines k),
    hcalls⟩
  show Registered _ _ _ (Function.update w.clusters i sc j)
  by_cases hj : j = i
  · subst hj
    rw [Function.update_self]
    exact hsc
  · rw [Function.update_of_ne hj]
    exact (h.clusters j).evolves he

theorem setMachine [DecidableEq κ] (h : w.Orderly tenants owner cidrs) {k : κ} {sm : StackitMachine}
    {calls : List (ProjectCall ι)} (he : Evolves w.cloud c)
    (hsm : RecordsServer (tenants (owner k)) c sm)
    (hcalls : ∀ call ∈ calls, Within (tenants call.tenant) (SSHRule (cidrs call.tenant)) call.before
      call.after) :
    Orderly tenants owner cidrs { w with
      cloud := c, machines := Function.update w.machines k sm, calls } := by
  refine ⟨he.sound h.sound, fun j => (h.clusters j).evolves he, fun k' => ?_, hcalls⟩
  show RecordsServer _ _ (Function.update w.machines k sm k')
  by_cases hk : k' = k
  · subst hk
    rw [Function.update_self]
    exact hsm
  · rw [Function.update_of_ne hk]
    exact RecordsServer.stable _ _ _ he (h.machines k')

variable [DecidableEq ι] [DecidableEq κ]

theorem step (h : w.Orderly tenants owner cidrs) {a : ProjectAction ι κ}
    (ha : w.Admissible tenants owner cidrs a) :
    (w.step owner a).Orderly tenants owner cidrs := by
  cases a with
  | reconcileCluster i answers env patches outcomes orders moves =>
    obtain ⟨hmoves, hsrc⟩ := ha
    have hi := h.clusters i
    have hpass :
        Preserves
        (Tidy (tenants i) (SSHRule (cidrs i))
        (Records (tenants i) (SSHRule (cidrs i)) (.of (w.clusters i))) w.cloud)
          (ClusterReconciler.reconcile answers env.amid) :=
      ClusterReconciler.tidy_reconcile hi.is (fun sc client hclient => (hsrc sc).amid hclient)
        answers
    have hq := hpass _ (tidy_enter h.sound hi.records hmoves patches outcomes orders)
    have hid := hq.stored.identity
    exact h.setCluster hq.since ⟨hid ▸ hi.is, hid ▸ hq.stored⟩ (h.calls_append hq.ok.calls)
  | reconcileMachine k answers patches outcomes orders moves =>
    obtain ⟨hmoves, hctx⟩ := ha
    have hpass :
        Preserves
        (Tidy (tenants (owner k)) (SSHRule (cidrs (owner k))) (RecordsServer (tenants (owner k)))
        w.cloud)
          (MachineReconciler.reconcile answers.amid) :=
      MachineReconciler.tidy_reconcile (fun g => .inr ⟨g, rfl⟩) fun ctx hlookup =>
        ⟨(hctx ctx hlookup).1, fun client hclient => (hctx ctx hlookup).2.amid hclient⟩
    have hq := hpass _ (tidy_enter h.sound (h.machines k) hmoves patches outcomes orders)
    exact h.setMachine hq.since hq.stored (h.calls_append hq.ok.calls)
  | deleteCluster i =>
    have hi := h.clusters i
    exact h.setCluster (.refl _) ⟨hi.is, hi.records.congr rfl⟩ h.calls
  | deleteMachine k => exact h.setMachine (.refl _) (h.machines k) h.calls
  | updateCluster i spec =>
    obtain ⟨hnetwork, hconsistent, hcidrs⟩ := ha
    have hi := h.clusters i
    refine h.setCluster (.refl _) ⟨⟨hi.is.name, hi.is.namespace', hconsistent⟩,
      ⟨rfl, fun h0 => ?_, ?_, ?_, ?_⟩⟩ h.calls
    · exact hi.records.network (hnetwork.symm.trans h0)
    · exact hi.records.bastion
    · exact hi.records.loadBalancer
    · exact fun cidr hcidr => .inl ⟨cidr, hcidrs cidr hcidr, rfl⟩
  | updateMachine k spec => exact h.setMachine (.refl _) (h.machines k) h.calls
  | cloudEvolves change =>
    exact ⟨ha.sound h.sound, fun j => (h.clusters j).evolves ha, fun k => RecordsServer.stable _ _ _
      ha (h.machines k), h.calls⟩

end Orderly

/-- **Tenants stay apart.** In a project that clusters with no label and no load balancer name in
common and their machines share, whatever their passes do while others work in the project, however
their requests end and whatever patches get lost: every call that a controller ever makes changes
the project by requests about the resources of its own tenant alone, opens no port but SSH to the
CIDRs the user listed or to a security group, and leaves the resources of every other tenant as they
are, up to what a public IP is attached to. It is also one of the changes that every other pass is
prepared for. -/
theorem tenants_stay_apart [DecidableEq ι] [DecidableEq κ] {as : List (ProjectAction ι κ)}
    (hapart : ∀ i j, i ≠ j → (tenants i).Apart (tenants j)) (h₀ : w.Orderly tenants owner cidrs)
    (has : Runs.Meets (Project.step owner) (Admissible tenants owner cidrs) w as) :
    ∀ call ∈ (Runs.run (Project.step owner) w as).calls,
      Within (tenants call.tenant) (SSHRule (cidrs call.tenant)) call.before call.after ∧
      Evolves call.before call.after ∧
      ∀ j, j ≠ call.tenant → Untouched (tenants j) call.before call.after := by
  have h : (Runs.run (Project.step owner) w as).Orderly tenants owner cidrs :=
    has.inv h₀ fun _ _ h ha => h.step ha
  intro call hcall
  have hwithin := h.calls call hcall
  exact ⟨hwithin, hwithin.evolves, fun j hj => hwithin.untouched (hapart _ _ (Ne.symm hj))⟩

/-- Two clusters in one namespace, and a machine that does nothing. -/
def sampleTenants : Bool → Tenant
  | true => ⟨"ns", "c", "c", by decide⟩
  | false => ⟨"ns", "d", "d", by decide⟩

def sample : Project Bool Unit where
  cloud := { ids := .unary }
  clusters i :=
    { metadata := { name := (sampleTenants i).infrastructure, namespace' := "ns" },
      spec := ClusterWorld.sampleSpec }
  machines _ := { metadata := { name := "m", namespace' := "ns" }, spec := {} }

/-- A pass before whose first call somebody else creates a network. -/
def samplePass (i : Bool) : ProjectAction Bool Unit :=
  .reconcileCluster i
    { getOwnerCluster := .ok
        (some { metadata := { name := (sampleTenants i).cluster, namespace' := "ns" } }) }
    { source := .connected, getConfigMap := fun _ => .error ⟨none, "not found"⟩, machines := .ok [],
      controlPlaneMachines := .ok [], sha256Hex :=
        Sha256.hex } [] [] [] [fun c => (Cloud.createNetwork "n" ∅ "" c).2]

theorem sample_orderly : sample.Orderly sampleTenants (fun _ => true) fun _ => [] := by
  refine ⟨⟨fun k hk => ?_, fun x hx => by cases hx⟩, fun i =>
    ⟨?_, rfl, fun _ hne => absurd rfl hne, Records.noBastion, ?_, ?_⟩,
    fun k hne => absurd rfl hne, fun call hcall => by cases hcall⟩
  · cases k <;> exact ⟨.nil, fun x hx => by cases hx⟩
  · cases i <;> exact ⟨rfl, rfl, by decide⟩
  · exact fun hne => absurd rfl hne
  · exact fun cidr hcidr => by cases hcidr

theorem tenants_stay_apart_sample :
    0 < (Runs.run (Project.step fun _ => true) sample
      [samplePass true, samplePass false]).calls.length ∧
    ∀ call ∈ (Runs.run (Project.step fun _ => true) sample
      [samplePass true, samplePass false]).calls,
      Within (sampleTenants call.tenant) (SSHRule []) call.before call.after ∧
      Evolves call.before call.after ∧
      ∀ j, j ≠ call.tenant → Untouched (sampleTenants j) call.before call.after := by
  refine ⟨by decide, tenants_stay_apart (fun i j hij => ?_) sample_orderly ?_⟩
  · cases i <;> cases j <;> first | exact absurd rfl hij | decide
  · have hmoves : ∀ f ∈ [fun c => (Cloud.createNetwork "n" ∅ "" c).2], ∀ c, Evolves c (f c) :=
      fun f hf c => by
      rw [List.mem_singleton.1 hf]
      exact evolves_createNetwork "n" "" ∅ c
    exact ⟨⟨hmoves, fun sc => (SourceOk.connected sc).sdk⟩,
      ⟨hmoves, fun sc => (SourceOk.connected sc).sdk⟩, trivial⟩

end Project

end Capstk
