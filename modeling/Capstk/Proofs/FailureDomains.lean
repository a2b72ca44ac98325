import Capstk.Proofs.ClusterUsable
import Capstk.Proofs.MachineRun

/-!
# Failure domains

The cluster controller publishes zones, the machine controller places servers in them. A machine
pass that creates a server has seen a ready cluster, so the list it validates against is not empty
and the escape for an empty list is never taken. The list is written twice in a pass of the cluster
controller; a pass that fails between the two writes leaves the first one, which does not come from
the cloud.
-/

namespace Capstk

open Prog

/-! ### The zone of a machine -/

namespace MachineContext
variable {ctx : MachineContext} {sm : StackitMachine}

theorem firstZone_spec {zones : List String} {zone : String} (h : firstZone zones = some zone) :
    zone ∈ zones ∧ ∀ z ∈ zones, zone ≤ z := by
  unfold firstZone at h
  have hsorted : (zones.insertionSort (· ≤ ·)).Pairwise (· ≤ ·) := List.pairwise_insertionSort _ _
  have hmem : ∀ z, z ∈ zones.insertionSort (· ≤ ·) ↔ z ∈ zones :=
    fun z => (List.perm_insertionSort _ _).mem_iff
  rcases hl : zones.insertionSort (· ≤ ·) with _ | ⟨z₀, rest⟩
  · rw [hl] at h
    cases h
  · rw [hl] at h hsorted
    cases h
    refine ⟨(hmem zone).1 (by rw [hl]; exact List.mem_cons_self), fun z hz => ?_⟩
    rcases List.mem_cons.1 (hl ▸ (hmem z).2 hz) with rfl | hz
    · exact String.le_refl _
    · exact (List.pairwise_cons.1 hsorted).1 z hz

theorem firstZone_isSome {zones : List String} (h : zones ≠ []) :
    ∃ zone, firstZone zones = some zone := by
  rcases hl : zones.insertionSort (· ≤ ·) with _ | ⟨zone, rest⟩
  · have hlen := List.length_insertionSort (r := (· ≤ ·)) zones
    rw [hl] at hlen
    exact absurd (List.length_eq_zero_iff.1 hlen.symm) h
  · exact ⟨zone, by rw [firstZone, hl]; rfl⟩

theorem validate_eq_none (hdomains : ctx.stackitCluster.status.failureDomains ≠ [])
    (h : MachineReconciler.validateMachineAvailabilityZone ctx sm = none) :
    (sm.spec.availabilityZone ≠ "" → ∃ d ∈ ctx.stackitCluster.status.failureDomains,
      d.name = sm.spec.availabilityZone) ∧
      (ctx.machine.failureDomain ≠ "" → ∃ d ∈ ctx.stackitCluster.status.failureDomains,
        d.name = ctx.machine.failureDomain) := by
  unfold MachineReconciler.validateMachineAvailabilityZone at h
  dsimp only at h
  rw [if_neg (by simpa using hdomains)] at h
  split_ifs at h with haz hfd
  refine ⟨fun hne => ?_, fun hne => ?_⟩
  · have hknown := fun hk => haz ⟨hne, hk⟩
    simpa using hknown
  · have hknown := fun hk => hfd ⟨hne, hk⟩
    simpa using hknown

/-- A zone that passes the validation against a list that is not empty is on the list. -/
theorem availabilityZone_published (hdomains : ctx.stackitCluster.status.failureDomains ≠ [])
    (hvalid : MachineReconciler.validateMachineAvailabilityZone ctx sm = none) :
    (∃ d ∈ ctx.stackitCluster.status.failureDomains, d.name = ctx.availabilityZone sm) ∧
      (ctx.machine.failureDomain = "" → sm.spec.availabilityZone = "" →
        ∀ d ∈ ctx.stackitCluster.status.failureDomains, ctx.availabilityZone sm ≤ d.name) := by
  obtain ⟨hknownAZ, hknownFD⟩ := validate_eq_none hdomains hvalid
  by_cases hfd : ctx.machine.failureDomain = ""
  · by_cases haz : sm.spec.availabilityZone = ""
    · -- neither is set: the least name
      have hnames : ctx.stackitCluster.status.failureDomains.map (·.name) ≠ [] := by
        simpa using hdomains
      obtain ⟨zone, hzone⟩ := firstZone_isSome hnames
      have heq : ctx.availabilityZone sm = zone := by simp [availabilityZone, hfd, haz, hzone]
      obtain ⟨hmem, hleast⟩ := firstZone_spec hzone
      rw [heq]
      exact ⟨List.mem_map.1 hmem, fun _ _ d hd => hleast d.name (List.mem_map_of_mem hd)⟩
    · have heq : ctx.availabilityZone sm = sm.spec.availabilityZone := by
        simp [availabilityZone, hfd, haz]
      rw [heq]
      exact ⟨hknownAZ haz, fun _ hnone => absurd hnone haz⟩
  · have heq : ctx.availabilityZone sm = ctx.machine.failureDomain := by
      simp [availabilityZone, hfd]
    rw [heq]
    exact ⟨hknownFD hfd, fun hnone => absurd hnone hfd⟩

end MachineContext

/-! ### Recording the servers that are asked for -/

/-- The state behind a client, and the inputs `CreateServer` was called with. -/
structure Recorded (σ : Type) where
  state : σ
  created : List CreateServerInput := []

namespace Recorded
variable {σ α : Type}

def lift (x : Call σ α) : Call (Recorded σ) α :=
  zoom Recorded.state (fun t s => { t with state := s }) x

def createServer (client : Client σ) (input : CreateServerInput) : Call (Recorded σ) Server := do
  modify fun t => { t with created := t.created ++ [input] }
  lift (client.createServer input)

/-- Every new entry of the record is in `P`. -/
def Grows (P : CreateServerInput → Prop) (s t : Recorded σ) : Prop :=
  ∀ input ∈ t.created, input ∈ s.created ∨ P input

theorem Grows.closed (P : CreateServerInput → Prop) : Closed (Grows (σ := σ) P) where
  refl _ _ h := .inl h
  trans h h' input hinput := by
    rcases h' input hinput with hold | hP
    · exact h input hold
    · exact .inr hP

end Recorded

variable {σ : Type}

/-- The client, with a record of the servers it is asked for. -/
def Client.recording (client : Client σ) : Client (Recorded σ) :=
  { client.zoom Recorded.state fun t s => { t with state := s } with
    createServer := Recorded.createServer client }

namespace MachineReconciler
variable {P : CreateServerInput → Prop} {ctx : MachineContext} {src : ClientSource σ}
  {client : Client σ}

def Answers.recording (answers : Answers σ) : Answers (Recorded σ) :=
  { getStackitMachine := answers.getStackitMachine, getOwnerMachine := answers.getOwnerMachine
    getClusterFromMetadata := answers.getClusterFromMetadata, getStackitCluster :=
      answers.getStackitCluster
    newPatchHelper := answers.newPatchHelper, source := answers.source.map Client.recording }

/-- The record of a pass, whatever it does to the object. -/
abbrev RecordGrows (P : CreateServerInput → Prop) (p q : Pass StackitMachine (Recorded σ)) : Prop :=
  Recorded.Grows P p.cloud q.cloud

theorem grows_ensureServer {sm : StackitMachine} {data : String}
    (hP : P (createServerInput ctx sm data)) :
    Keeps (Recorded.Grows P) (ensureServer client.recording ctx sm data) := by
  have hR := Recorded.Grows.closed (σ := σ) P
  have hlift : ∀ {α : Type} (x : Call σ α), Keeps (Recorded.Grows P) (Recorded.lift x) :=
    fun x s input h => .inl h
  have hcreate : Keeps (Recorded.Grows P) (createMissingServer client.recording ctx sm data) := by
    refine .ite (.fail hR _)
      (.ite (.fail hR _) (.bind hR (fun s input hinput => ?_) fun _ => hlift _))
    rcases List.mem_append.1 hinput with hold | hnew
    · exact .inl hold
    · rw [List.mem_singleton.1 hnew]
      exact .inr hP
  have htags :
      Keeps (Recorded.Grows P)
      (existingOr isNotFound (client.recording.findServerByTags (ctx.tags sm))
        (createMissingServer client.recording ctx sm data)) := keeps_existingOr hR (hlift _) hcreate
  exact .ite (keeps_existingOr hR (hlift (client.getServer sm.status.instanceID)) htags) htags

theorem recordGrows_nodeSSHAccess (server : Server) :
    Keeps (Recorded.Grows P) (reconcileBastionNodeSSHAccess client.recording ctx server) := by
  have hR := Recorded.Grows.closed (σ := σ) P
  refine .ite (.pure hR ())
    (.ite (.fail hR _) (.ite (.fail hR _) (.bind hR ?_ fun _ => .pure hR ())))
  exact fun s input h => .inl h

theorem recordGrows_reconcileInstance {data : String} {p : Pass StackitMachine (Recorded σ)}
    (hP : ∀ sm : StackitMachine, sm.spec = p.obj.spec → P (createServerInput ctx sm data)) :
    wp (reconcileInstance client.recording ctx data) (fun _ q => RecordGrows P p q) p := by
  have hR := Recorded.Grows.closed (σ := σ) P
  refine wp_reconcileInstance ((grows_ensureServer (hP _ rfl)).wp p.cloud) (fun server s hs => ?_)
    (fun _ _ hs _ => hs) fun _ _ hs _ _ => hs
  exact wp_reconcileServer (fun _ => hs) (fun _ => (recordGrows_nodeSSHAccess server).wp s)
    (fun _ ht => hR.trans hs ht) fun _ _ ht _ => hR.trans hs ht

theorem recordGrows_reconcileDelete {p : Pass StackitMachine (Recorded σ)} :
    wp (reconcileDelete (src.map Client.recording) ctx) (fun _ q => RecordGrows P p q) p := by
  have hR := Recorded.Grows.closed (σ := σ) P
  refine wp_reconcileDelete (fun _ _ _ => hR.refl _) (fun _ _ _ => hR.refl _)
    fun client hclient => ?_
  obtain ⟨client₀, rfl⟩ := exists_of_buildCloudClient_map hclient
  have hresolve : Keeps (Recorded.Grows P)
      (resolveServerForDeletion client₀.recording ctx p.obj) := by
    refine .ite (.pure hR _) (keeps_existingOr hR (.bind hR ?_ fun _ => .pure hR _) (.pure hR _))
    exact fun s input h => .inl h
  have hdelete : ∀ id, Keeps (Recorded.Grows P)
      (tolerate isNotFound (client₀.recording.deleteServer id)) :=
    fun id => keeps_tolerate hR fun s input h => .inl h
  refine wp_deleteInstance (wp_orError (hresolve.wp p.cloud)
    (fun id s hs => ⟨fun _ => ?_, fun _ => hs⟩) fun _ _ hs => hs)
  exact wp_orError ((hdelete id).wp s) (fun _ _ ht => hR.trans hs ht) fun _ _ ht => hR.trans hs ht

/-- The inputs a pass can call `CreateServer` with: the cluster it has read is ready, and the zone
valid. -/
structure Placed (ctx : MachineContext) (sm : StackitMachine) (input : CreateServerInput) :
    Prop where
  ready : ctx.stackitCluster.status.ready = true
  zone : input.availabilityZone = ctx.availabilityZone sm
  valid : validateMachineAvailabilityZone ctx sm = none

theorem wp_reconcile_created (answers : Answers σ) {p : Pass StackitMachine (Recorded σ)}
    (hempty : p.cloud.created = []) :
    wp (reconcile answers.recording) (fun _ q => ∀ input ∈ q.cloud.created,
      ∃ ctx, lookupContext answers = .ok (some ctx) ∧ Placed ctx p.stored input) p := by
  refine wp_reconcile (fun _ _ input h => ?_) fun ctx hscope => Pass.wp_withDeferredPatch ?_
  · rw [hempty] at h
    cases h
  -- the record only grows by inputs that are placed
  have hend : wp (reconcileScope answers.recording.source ctx)
      (fun _ q => RecordGrows (Placed ctx p.stored) p q) { p with obj := p.stored } := by
    refine wp_reconcileScope (fun _ input h => .inl h) (fun _ _ => recordGrows_reconcileDelete)
      fun _ _ => ?_
    refine wp_reconcileNormal_waiting (fun r q hq input h => .inl (hq.cloud ▸ h))
      fun client data q hclient hq hready hvalid => ?_
    obtain ⟨client₀, rfl⟩ := exists_of_buildCloudClient_map hclient
    have hcloud : q.cloud = p.cloud := hq.cloud
    refine (recordGrows_reconcileInstance fun sm hspec => ?_).imp fun r q' h => by
      rw [RecordGrows, ← hcloud]; exact h
    have hsame : q.obj.spec = p.stored.spec := hq.spec
    have hsm : sm.spec = p.stored.spec := hspec.trans hsame
    refine ⟨hready, ?_, ?_⟩
    · show ctx.availabilityZone sm = ctx.availabilityZone p.stored
      unfold MachineContext.availabilityZone
      rw [hsm]
    · rw [← hvalid]
      unfold validateMachineAvailabilityZone
      rw [hsame]
  refine hend.imp fun r q hq d r' _ _ input hinput => ?_
  rcases hq input hinput with hold | hplaced
  · rw [hempty] at hold
    cases hold
  · exact ⟨ctx, hscope.owners, hplaced⟩

/-- **Machines are placed in published zones.** A machine pass that reads a cluster as any run of
the cluster controller has left it asks for servers in published zones only, none of them a metro
zone; and in the least one if neither the Machine nor the StackitMachine names a zone. -/
theorem machines_in_published_zones {τ : Type} (answers : Answers τ) (sm : StackitMachine)
    (patches : List PatchOutcome) (cloud : τ)
    (hread : ∀ ctx, lookupContext answers = .ok (some ctx) → ∃ (sc : StackitCluster)
      (actions : List (ClusterReconciler.ObjectAction σ)), sc.status = {} ∧
      ctx.stackitCluster = Runs.run ClusterReconciler.objectStep sc actions) :
    let q :=
      (reconcile answers.recording).after
      { obj := sm, stored := sm, patches, cloud := { state := cloud } }
    ∀ input ∈ q.cloud.created, ∃ ctx, lookupContext answers = .ok (some ctx) ∧
      (∃ d ∈ ctx.stackitCluster.status.failureDomains, d.name = input.availabilityZone) ∧
      ClusterReconciler.isMetroZone input.availabilityZone = false ∧
      (ctx.machine.failureDomain = "" → sm.spec.availabilityZone = "" →
        ∀ d ∈ ctx.stackitCluster.status.failureDomains, input.availabilityZone ≤ d.name) := by
  intro q input hinput
  obtain ⟨ctx, hctx, hplaced⟩ := wp_iff.1 (wp_reconcile_created answers
    (p := { obj := sm, stored := sm, patches, cloud := { state := cloud } }) rfl) input hinput
  obtain ⟨sc, actions, hnew, hrun⟩ := hread ctx hctx
  have hpublished : ctx.stackitCluster.status.Published := by
    rw [hrun]
    exact ClusterReconciler.published_of_run hnew actions
  have hzone :=
    MachineContext.availabilityZone_published (hpublished.ready hplaced.ready) hplaced.valid
  rw [← hplaced.zone] at hzone
  refine ⟨ctx, hctx, hzone.1, ?_, hzone.2⟩
  obtain ⟨d, hd, hname⟩ := hzone.1
  rw [← hname]
  exact hpublished.zones d hd

/-- A cluster that was reconciled once, with a metro zone among the zones of the region. -/
def placingCluster : StackitCluster :=
  Runs.run ClusterReconciler.objectStep ClusterReconciler.sampleCluster
    [.reconcile ClusterReconciler.sampleAnswers ClusterReconciler.sampleEnv []
      { cloud := { ids := .unary, zones := ["eu01-m", "eu01-2", "eu01-1"] } }]

def placingAnswers : Answers Session :=
  { MachineWorld.sampleAnswers with getStackitCluster := fun _ => .ok placingCluster }

def placingPass : Pass StackitMachine (Recorded Session) :=
  (reconcile placingAnswers.recording).after
    { obj := MachineWorld.sampleWorld.stored, stored := MachineWorld.sampleWorld.stored,
      cloud := { state := { cloud := { ids := .unary } } } }

/-- The machine names no zone; its server is asked for in `eu01-1`. -/
theorem machines_in_published_zones_least :
    placingPass.cloud.created.map (·.availabilityZone) = ["eu01-1"] ∧
    ∀ input ∈ placingPass.cloud.created, ∃ d ∈ placingCluster.status.failureDomains,
    d.name = input.availabilityZone := by
  refine ⟨by decide +kernel, fun input hinput => ?_⟩
  have hread : ∀ ctx, lookupContext placingAnswers = .ok (some ctx) →
      ctx.stackitCluster = placingCluster := by
    intro ctx hctx
    cases hctx
    rfl
  obtain ⟨ctx, hctx, hzone, -⟩ :=
    machines_in_published_zones (σ := Session) placingAnswers MachineWorld.sampleWorld.stored []
    { cloud := { ids := .unary } }
    (fun ctx hctx => ⟨ClusterReconciler.sampleCluster, _, rfl, hread ctx hctx⟩) input hinput
  rw [hread ctx hctx] at hzone
  exact hzone

end MachineReconciler

/-! ### Passes that fail before they know the zones -/

namespace ClusterReconciler
variable {env : Env σ} {p : Pass StackitCluster σ}

/-- Whether `reconcileNormal` fails in `BuildCloudClient` or `ListAvailabilityZones`. -/
def failsBeforeZones (env : Env σ) (p : Pass StackitCluster σ) : Bool :=
  match persistFinalizer p with
  | (.ok _, p₁) =>
    match buildCloudClient env.source p₁.obj with
    | .error _ => true
    | .ok client => (client.listAvailabilityZones p₁.cloud).1.toOption.isNone
  | (.error _, _) => false

/-- The pass `q` over `p` has ended where the zones could not be asked for: that call was the last
one, and the list is the static one. -/
structure EndedBeforeZones (env : Env σ) (p p₁ q : Pass StackitCluster σ) : Prop where
  persisted : persistFinalizer p = (.ok (), p₁)
  call : (∃ err, buildCloudClient env.source p₁.obj = .error err) ∧ q.cloud = p₁.cloud ∨
    ∃ client err, buildCloudClient env.source p₁.obj = .ok client ∧
      client.listAvailabilityZones p₁.cloud = (.error err, q.cloud)
  domains : q.obj.status.failureDomains = stackitFailureDomains p₁.obj.spec.region

theorem failsBeforeZones_cases (h : failsBeforeZones env p = true) :
    ∃ p₁, EndedBeforeZones env p p₁ ((reconcileNormal env).after p) := by
  unfold failsBeforeZones at h
  split at h
  case h_2 => cases h
  rename_i p₁ hfin
  refine ⟨p₁, ?_⟩
  show wp (reconcileNormal env) (fun _ q => EndedBeforeZones env p p₁ q) p
  refine wp_reconcileNormal_of_run hfin (wp_reconcileFinalized ?_)
  refine wp_reconcileInfrastructure (fun err hbuild r => ?noClient) fun client hbuild => ?client
  case noClient =>
    cases r <;> exact ⟨hfin, .inl ⟨⟨err, hbuild⟩, rfl⟩, rfl⟩
  case client =>
    rw [hbuild] at h
    dsimp only at h
    rcases hlist : client.listAvailabilityZones p₁.cloud with ⟨err | zones, s⟩
    · refine wp_reconcileResources (wp_of_run hlist fun r => ?_)
      cases r <;> exact ⟨hfin, .inr ⟨client, err, hbuild, hlist⟩, rfl⟩
    · rw [hlist] at h
      cases h

theorem failureDomains_of_failsBeforeZones (h : failsBeforeZones env p = true) :
    ((reconcileNormal env).after p).obj.status.failureDomains = stackitFailureDomains
      p.obj.spec.region := by
  obtain ⟨p₁, hended⟩ := failsBeforeZones_cases h
  have hspec : p₁.obj.spec = p.obj.spec :=
    (wp_persistFinalizer (Q := fun _ q => q.obj.spec = p.obj.spec) (fun _ => rfl)
      fun _ _ _ => rfl).of_run hended.persisted
  rw [hended.domains, hspec]

/-- Apart from metro zones, the region has the three zones that are guessed, or none. -/
def ZonesGuessed (region : String) (zones : List String) : Prop :=
  let ordinary := zones.filter fun zone => !isMetroZone zone
  ordinary = [] ∨ ordinary.Perm [region ++ "-1", region ++ "-2", region ++ "-3"]

theorem append_le_append {a b : String} (region : String) (h : a ≤ b) :
    region ++ a ≤ region ++ b := by
  have h' : ¬ b < a := h
  show ¬ region ++ b < region ++ a
  rw [String.lt_iff] at h' ⊢
  rw [String.toList_append, String.toList_append]
  exact List.append_left_le h'

theorem guessed_pairwise (region : String) :
    [region ++ "-1", region ++ "-2", region ++ "-3"].Pairwise (· ≤ ·) := by
  have hle : ∀ {a b : String}, a ≤ b → region ++ a ≤ region ++ b := append_le_append region
  simp only [List.pairwise_cons, List.mem_cons, List.not_mem_nil, or_false, forall_eq_or_imp,
    forall_eq, false_imp_iff, implies_true, List.Pairwise.nil, and_true]
  exact ⟨⟨hle (by decide), hle (by decide)⟩, hle (by decide)⟩

theorem failureDomainsFromZones_eq_static_iff {region region' : String} {zones : List String} :
    failureDomainsFromZones region zones = stackitFailureDomains region' ↔
      region' = region ∧ ZonesGuessed region zones := by
  set ordinary := zones.filter fun zone => !isMetroZone zone with hordinary
  -- the attributes tell the regions apart
  have hregion : ∀ {zones : List String}, zones ≠ [] →
      zones.map (failureDomain region) = stackitFailureDomains region' → region' = region := by
    intro zones hne h
    obtain ⟨zone, rest, rfl⟩ := List.exists_cons_of_ne_nil hne
    simp [stackitFailureDomains, failureDomain] at h
    exact h.1.2.symm
  by_cases hnone : ordinary = []
  · have hstatic : failureDomainsFromZones region zones = stackitFailureDomains region := by
      simp [failureDomainsFromZones, ← hordinary, hnone]
    rw [hstatic]
    refine ⟨fun h => ⟨hregion (by simp) h, .inl hnone⟩, ?_⟩
    rintro ⟨rfl, -⟩
    rfl
  · have hsorted : failureDomainsFromZones region zones =
        (ordinary.insertionSort (· ≤ ·)).map (failureDomain region) := by
      rw [List.map_insertionSort (r := (· ≤ ·))
        (s := fun a b : FailureDomain => a.name ≤ b.name) _ _ fun _ _ _ _ => Iff.rfl]
      simp [failureDomainsFromZones, ← hordinary, hnone]
    have hperm := List.perm_insertionSort (· ≤ ·) ordinary
    rw [hsorted]
    constructor
    · intro h
      obtain rfl := hregion (fun h0 => hnone (List.perm_nil.1 (h0 ▸ hperm).symm)) h
      have hinj : Function.Injective (failureDomain region') :=
        fun _ _ h => congrArg FailureDomain.name h
      exact ⟨rfl, .inr (List.map_injective_iff.2 hinj h ▸ hperm.symm)⟩
    · rintro ⟨rfl, hguessed⟩
      have hthree := hguessed.resolve_left hnone
      rw [(hperm.trans hthree).eq_of_pairwise' (List.pairwise_insertionSort _ _)
        (guessed_pairwise region')]
      rfl

/-- **A failed pass keeps the discovered zones** exactly if the region is still the same and has,
apart from metro zones, the three that are guessed or none: the first write of a pass replaces the
published list before it is known whether the cloud can be asked. -/
theorem discovered_zones_kept_iff (env : Env σ) (p : Pass StackitCluster σ) (region : String)
    (zones : List String)
    (hpublished : p.obj.status.failureDomains = failureDomainsFromZones region zones)
    (hfails : failsBeforeZones env p = true) :
    ((reconcileNormal env).after p).obj.status.failureDomains = p.obj.status.failureDomains ↔
      p.obj.spec.region = region ∧ ZonesGuessed region zones := by
  rw [failureDomains_of_failsBeforeZones hfails, hpublished, eq_comm]
  exact failureDomainsFromZones_eq_static_iff

/-- The region has the zones that are guessed. -/
theorem discovered_zones_kept_static :
    let sc : StackitCluster := { sampleCluster with
      status :=
        { failureDomains := failureDomainsFromZones "eu01" ["eu01-m", "eu01-3", "eu01-1",
        "eu01-2"] } }
    let p : Pass StackitCluster Session :=
      { obj := sc, stored := sc,
        cloud := { cloud := { ids := .unary }, outcomes := [.failedBefore .timeout] } }
    ((reconcileNormal sampleEnv).after p).obj.status.failureDomains = sc.status.failureDomains := by
  intro sc p
  exact (discovered_zones_kept_iff sampleEnv p "eu01" ["eu01-m", "eu01-3", "eu01-1", "eu01-2"] rfl
    (by decide +kernel)).2
    ⟨rfl, .inr (by decide)⟩

/-- The region has two zones, `eu01-1` and `eu01-4`. The second pass cannot list them, and publishes
`eu01-2` and `eu01-3`. -/
theorem discovered_zones_replaced :
    let cloud : Cloud := { ids := .unary, zones := ["eu01-1", "eu01-4"] }
    let first : ObjectAction Session := .reconcile sampleAnswers sampleEnv [] { cloud }
    let second : ObjectAction Session :=
      .reconcile sampleAnswers sampleEnv [] { cloud, outcomes := [.failedBefore .timeout] }
    (Runs.run objectStep sampleCluster [first]).status.failureDomains = failureDomainsFromZones
    "eu01" cloud.zones ∧
      (Runs.run objectStep sampleCluster [first]).status.failureDomains.map (·.name) =
      ["eu01-1", "eu01-4"] ∧
      (Runs.run objectStep sampleCluster [first, second]).status.failureDomains.map (·.name) =
        ["eu01-1", "eu01-2", "eu01-3"] := by
  intro cloud first second
  refine ⟨by decide +kernel, by decide +kernel, by decide +kernel⟩

end ClusterReconciler

end Capstk
