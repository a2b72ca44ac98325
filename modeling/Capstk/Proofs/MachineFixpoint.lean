import Capstk.Proofs.ClusterSettled
import Capstk.Proofs.MachineReadiness

/-!
# A pass over a machine that is ready

The first pass may have found the server by its tags; the second finds it under the ID that the
first one has recorded. Node SSH access is ensured again, and finds its group, its rule and its
attachment.
-/

namespace Capstk

open Prog SDKClient

variable {c : Cloud} {s : Session}

/-! ### Looking up a server -/

theorem wp_getServer_shown (id : String) (hs : Answered s) :
    wp (getServer id) (fun r t => Stays s t ∧ ∀ a, r = .ok a → Shown a s.cloud) s := by
  cases hfind : s.cloud.servers.find? (·.id == id) with
  | some x =>
    have hid : x.id = id := by simpa using List.find?_some hfind
    refine (repeats_getServer hfind).wp hs rfl fun t ht => ⟨ht, ?_⟩
    rintro _ ⟨⟩
    refine ⟨x, ?_, rfl⟩
    rw [serverOf, hid]
    exact hfind
  | none =>
    have heffect : Cloud.getServer id s.cloud = s.cloud.missing := by rw [Cloud.getServer, hfind]
    refine (wp_missing_bind rfl heffect hs).imp fun r t h => ⟨h.1, ?_⟩
    obtain ⟨-, e, rfl⟩ := h
    rintro a ⟨⟩

theorem shown_of_serversOf {T : StringMap} {a : Server} (hids : UniqueIDs .server c)
    (h : serversOf T c = [a]) : Shown a c := by
  have hnodup : (c.servers.map (·.id)).Nodup := by
    simpa [labelled, List.map_map, Function.comp_def] using hids.nodup
  have hmem : a ∈ serversOf T c := by simp [h]
  obtain ⟨x, hx, rfl⟩ := List.mem_map.1 hmem
  have hxc : x ∈ c.servers := (List.mem_filter.1 hx).1
  obtain ⟨y, hy⟩ := Option.isSome_iff_exists.1
    (List.find?_isSome (p := fun z : SDKServer => z.id == x.id).2 ⟨x, hxc, beq_self_eq_true _⟩)
  have hid : y.id = x.id := by simpa using List.find?_some hy
  obtain rfl : y = x := List.inj_on_of_nodup_map hnodup (List.mem_of_find?_eq_some hy) hxc hid
  exact ⟨y, hy, rfl⟩

theorem Shown.named {a : Server} (h : Shown a c) (hnamed : ∀ x ∈ c.servers, x.id ≠ "") :
    a.id ≠ "" := by
  obtain ⟨x, hx, rfl⟩ := h
  exact hnamed x (List.mem_of_find?_eq_some hx)

namespace MachineReconciler
variable {src : ClientSource Session} {ctx : MachineContext} {p q : Pass StackitMachine Session}
  {o : StackitMachine}
  {server : Server} {g : Int}

/-! ### The steps of the first pass -/

/-- The server is what a look-up of its ID will show. -/
def Reported (a : Server) (c : Cloud) : Prop := Shown a c ∧ a.id ≠ ""

theorem createMissingServer_leaves {data : String} {t : Session} (hids : UniqueIDs .server s.cloud)
    (hnamed : ∀ x ∈ s.cloud.servers, x.id ≠ "") (ht : Answered t) (hc : t.cloud = s.cloud) :
    wp (createMissingServer sdkClient ctx o data) (Leaves s fun a u => Reported a u.cloud) t := by
  refine wp_createMissingServer (fun _ _ => .error ht) (fun _ _ => .error ht) fun _ _ => ?_
  refine (createServer_leaves ht).imp fun r u hr => ⟨fun _ => hr.1 ht, fun a ha => ?_⟩
  have hensured := hr.2 a ha
  rw [hc] at hensured
  have hshown : Shown a u.cloud :=
    shown_of_serversOf ((hensured.keepsUnique .server).unique hids) hensured.this
  exact ⟨hshown, hshown.named (hensured.named hnamed)⟩

theorem findServer_shows (hs : Answered s) (hids : UniqueIDs .server s.cloud) :
    wp (findServer sdkClient ctx o)
      (fun r t => (Answered t ∧ t.cloud = s.cloud) ∧ ∀ a, r = .ok a → Shown a s.cloud) s := by
  have hbyTags : ∀ t, Answered t → t.cloud = s.cloud → wp (findServerByTags (ctx.tags o))
      (fun r t => (Answered t ∧ t.cloud = s.cloud) ∧ ∀ a, r = .ok a → Shown a s.cloud) t := by
    intro t ht hc
    refine (wp_lookup repeats_listServers ht hc).imp fun r u hr => ?_
    refine ⟨⟨hr.1.answered, hr.1.cloud.trans hc⟩, fun a ha => ?_⟩
    subst ha
    exact shown_of_serversOf hids hr.2.2
  unfold findServer
  refine wp_ite (fun _ => ?_) fun _ => hbyTags s hs rfl
  exact wp_existingOr_of (wp_getServer_shown o.status.instanceID hs)
    (fun a t h => ⟨⟨h.1.answered, h.1.cloud⟩, h.2⟩)
    (fun e t h _ => hbyTags t h.1.answered h.1.cloud)
    fun e t h _ => ⟨⟨h.1.answered, h.1.cloud⟩, h.2⟩

theorem ensureServer_leaves {data : String} (hs : Answered s) (hids : UniqueIDs .server s.cloud)
    (hnamed : ∀ x ∈ s.cloud.servers, x.id ≠ "") :
    wp (ensureServer sdkClient ctx o data) (Leaves s fun a t => Reported a t.cloud) s := by
  rw [ensureServer_eq]
  refine wp_existingOr_of (findServer_shows hs hids) (fun a t h => .ok h.1.1 ?_)
    (fun e t h _ => createMissingServer_leaves hids hnamed h.1.1 h.1.2) fun e t h _ => .error h.1.1
  have hshown := h.2 a rfl
  rw [h.1.2]
  exact ⟨hshown, hshown.named hnamed⟩

theorem reconcileBastionNodeSSHAccess_leaves (hs : Answered s) :
    wp (reconcileBastionNodeSSHAccess sdkClient ctx server) (Leaves s fun _ t =>
      Repeats t.cloud (reconcileBastionNodeSSHAccess sdkClient ctx server) () ∧
        ∀ a, Shown a s.cloud → Shown a t.cloud) s := by
  have hR := closed_answered
  unfold reconcileBastionNodeSSHAccess
  by_cases hoff : (!ctx.stackitCluster.spec.bastion.enabled) = true
  · rw [if_pos hoff]
    exact wp_via_pure hR ⟨.pure (), fun _ h => h⟩
  rw [if_neg hoff]
  refine wp_ite (fun _ => wp_via_fail hR _) fun hgroup =>
    wp_ite (fun _ => wp_via_fail hR _) fun hserver => ?_
  rw [if_neg hgroup, if_neg hserver]
  refine wp_via_bind hR (ensureNodeSSHAccess_leaves hs) fun g t ht h => ?_
  rw [wp_pure]
  exact Leaves.ok (ht hs) ⟨h.1.bind (.pure ()), h.2⟩

/-! ### Reaching `SetReady` -/

section reached
variable {σ : Type} {src : ClientSource σ} {p : Pass StackitMachine σ}

/-- Whether `reconcileNormal` gets to `SetReady`: none of the earlier exits is taken. -/
def reachesSetReady (src : ClientSource σ) (ctx : MachineContext) (p : Pass StackitMachine σ) :
    Bool :=
  match persistFinalizer p, fetchBootstrapData src ctx.machine,
    buildCloudClient src ctx.stackitCluster with
  | (.ok _, p₁), .ok data, .ok client =>
    ctx.stackitCluster.status.ready && (validateMachineAvailabilityZone ctx p₁.obj).isNone &&
      match ensureServer client ctx p₁.obj data p₁.cloud with
      | (.ok server, s) =>
        (serverStateCondition server.state server.powerStatus).ready &&
          match reconcileBastionNodeSSHAccess client ctx server s with
          | (.ok _, _) => true
          | _ => false
      | _ => false
  | _, _, _ => false

/-- The steps of a pass that gets to `SetReady`. -/
structure Reached (src : ClientSource σ) (ctx : MachineContext) (p p₁ : Pass StackitMachine σ)
    (data : String) (client : Client σ) (server : Server) (s t : σ) : Prop where
  persisted : persistFinalizer p = (.ok (), p₁)
  cluster : ctx.stackitCluster.status.ready = true
  zone : validateMachineAvailabilityZone ctx p₁.obj = none
  bootstrap : fetchBootstrapData src ctx.machine = .ok data
  built : buildCloudClient src ctx.stackitCluster = .ok client
  ensured : ensureServer client ctx p₁.obj data p₁.cloud = (.ok server, s)
  running : (serverStateCondition server.state server.powerStatus).ready = true
  access : reconcileBastionNodeSSHAccess client ctx server s = (.ok (), t)

theorem reachesSetReady_cases (h : reachesSetReady src ctx p = true) :
    ∃ p₁ data client server s t, Reached src ctx p p₁ data client server s t := by
  unfold reachesSetReady at h
  split at h
  · rename_i p₁ data client hpersisted hdata hclient
    rw [Bool.and_eq_true, Bool.and_eq_true, Option.isNone_iff_eq_none] at h
    obtain ⟨⟨hcluster, hzone⟩, h⟩ := h
    split at h
    · rename_i server s hserver
      rw [Bool.and_eq_true] at h
      obtain ⟨hrunning, h⟩ := h
      split at h
      · rename_i t haccess
        exact ⟨p₁, data, client, server, s, t, hpersisted, hcluster, hzone, hdata, hclient, hserver,
          hrunning, haccess⟩
      · cases h
    · cases h
  · cases h

/-- The object at the end of such a pass. -/
def finished (server : Server) (sm : StackitMachine) : StackitMachine :=
  let available (sm : StackitMachine) (t : String) := sm.setConditions .true "Available" "" [t]
  (recorded server
    (available (available sm machineBootstrapReadyCondition)
    machineCredentialsReadyCondition)).setReady

theorem Reached.after {p₁ : Pass StackitMachine σ} {data : String} {client : Client σ} {s t : σ}
    (h : Reached src ctx p p₁ data client server s t) :
    (reconcileNormal src ctx).after p = { p₁ with obj := finished server p₁.obj, cloud := t } := by
  have hend :
      wp (reconcileNormal src ctx)
      (fun _ q => q = { p₁ with obj := finished server p₁.obj, cloud := t }) p := by
    refine wp_reconcileNormal_of_persist (P := fun r q => r = .ok () ∧ q = p₁)
      (wp_of_run h.persisted ⟨rfl, rfl⟩) (fun _ _ hq => by cases hq.1) ?_
    rintro q ⟨-, rfl⟩
    refine .of_placed h.cluster h.zone (wp_reconcileBootstrap_provided h.bootstrap h.built ?_)
    refine wp_reconcileInstance (P := fun r u => r = .ok server ∧ u = s)
      (wp_of_run h.ensured ⟨rfl, rfl⟩) ?_ (fun _ _ hr => by cases hr.1) fun _ _ hr => by cases hr.1
    rintro server' u ⟨hr, rfl⟩
    cases hr
    refine wp_reconcileServer (P := fun r u => r = .ok () ∧ u = t) (fun hdown => ?_)
      (fun _ => wp_of_run h.access ⟨rfl, rfl⟩) (fun u hu => ?_) fun _ _ hr => by cases hr.1
    · cases h.running.symm.trans hdown
    · rw [hu.2]
      rfl
  exact hend

end reached

/-! ### What such a pass leaves, and the next one -/

/-- Everything the machine needs is there and recorded. -/
structure Settled (src : ClientSource Session) (ctx : MachineContext) (o : StackitMachine)
    (c : Cloud) (server : Server) :
    Prop where
  finalizer : containsFinalizer o.metadata machineFinalizer = true
  cluster : ctx.stackitCluster.status.ready = true
  zone : validateMachineAvailabilityZone ctx o = none
  bootstrap : ∃ data, fetchBootstrapData src ctx.machine = .ok data
  client : buildCloudClient src ctx.stackitCluster = .ok sdkClient
  named : server.id ≠ ""
  shown : Shown server c
  running : (serverStateCondition server.state server.powerStatus).ready = true
  access : Repeats c (reconcileBastionNodeSSHAccess sdkClient ctx server) ()
  instanceID : o.status.instanceID = server.id
  record : recorded server o = o
  ready : o.status.ready = true
  available : ∀ t ∈ [machineBootstrapReadyCondition, machineCredentialsReadyCondition,
    machineInstanceReadyCondition,
    machineReadyCondition], Says o.conditions t .true "Available" ""

theorem find_finished (o : StackitMachine) :
    ∀ t ∈ [machineBootstrapReadyCondition, machineCredentialsReadyCondition,
      machineInstanceReadyCondition,
      machineReadyCondition], findStatusCondition (finished server o).conditions t =
        some ⟨t, .true, "Available", "", o.metadata.generation⟩ := by
  have hset : ∀ (o : StackitMachine) (types : List String) (t : String),
      findStatusCondition (o.setConditions .true "Available" "" types).conditions t =
        if t ∈ types then some ⟨t, .true, "Available", "", o.metadata.generation⟩
        else findStatusCondition o.conditions t := fun _ _ _ => findStatusCondition_setConditions ..
  intro t ht
  rw [finished, StackitMachine.setReady, hset]
  simp only [List.mem_cons, List.not_mem_nil, or_false] at ht
  rcases ht with rfl | rfl | rfl | rfl
  · rw [if_neg (by decide)]
    exact (hset ..).trans ((if_neg (by decide)).trans ((hset ..).trans (if_pos (by decide))))
  · rw [if_neg (by decide)]
    exact (hset ..).trans (if_pos (by decide))
  · exact if_pos (by decide)
  · exact if_pos (by decide)

theorem wp_persistFinalizer_has : wp (persistFinalizer : Step Session Unit) (fun _ q =>
    q.cloud = p.cloud ∧ containsFinalizer q.obj.metadata machineFinalizer = true) p :=
  wp_persistFinalizer (fun hf => ⟨rfl, hf⟩) fun _ _ _ =>
    ⟨rfl, containsFinalizer_addFinalizer p.obj.metadata machineFinalizer⟩

theorem settled_of_reachesSetReady (hready : reachesSetReady src ctx p = true)
    (hsource : SDKSource src ctx.stackitCluster) (hs : Answered p.cloud)
    (hids : UniqueIDs .server p.cloud.cloud) (hnamed : ∀ x ∈ p.cloud.cloud.servers, x.id ≠ "") :
    ∃ server, Settled src ctx ((reconcileNormal src ctx).after p).obj
      ((reconcileNormal src ctx).after p).cloud.cloud server := by
  obtain ⟨p₁, data, client, server, s, t, h⟩ := reachesSetReady_cases hready
  obtain rfl := hsource client h.built
  obtain ⟨hcloud, hfinalizer⟩ := (wp_persistFinalizer_has (p := p)).of_run h.persisted
  have hs₁ : Answered p₁.cloud := hcloud ▸ hs
  obtain ⟨hanswered, hserver⟩ :=
    (ensureServer_leaves (o := p₁.obj) hs₁ (hcloud ▸ hids) (hcloud ▸ hnamed)).of_run h.ensured
  obtain ⟨hshown, hid⟩ := hserver server rfl
  obtain ⟨haccess, hkept⟩ :=
    ((reconcileBastionNodeSSHAccess_leaves (hanswered hs₁)).of_run h.access).2 () rfl
  rw [h.after]
  exact ⟨server, hfinalizer, h.cluster, h.zone, ⟨data, h.bootstrap⟩, h.built, hid,
    hkept server hshown, h.running, haccess,
    rfl, rfl, rfl, fun t ht => ⟨_, find_finished _ t ht⟩⟩

/-- The object as a later pass may find it: with another generation, and these conditions. -/
def observedAt (o : StackitMachine) (g : Int) (cs : List Condition) : StackitMachine :=
  { o with metadata := { o.metadata with generation := g }, conditions := cs }

abbrev Unchanged (o : StackitMachine) (g : Int) (s : Session) (q : Pass StackitMachine Session) :
    Prop :=
  Idle (observedAt o g) o.conditions s q

theorem Unchanged.setConditions {types : List String} (h : Unchanged o g s q)
    (hsaid : ∀ t ∈ types, Says o.conditions t .true "Available" "") :
    Unchanged o g s { q with obj := q.obj.setConditions .true "Available" "" types } :=
  h.condition (f := (·.setConditions .true "Available" "" types)) (fun _ => rfl) hsaid

theorem Settled.reconcileNormal (h : Settled src ctx o s.cloud server) (hq : Unchanged o g s q) :
    wp (reconcileNormal src ctx) (fun r q' => r = .ok {} ∧ Unchanged o g s q') q := by
  obtain ⟨cs, hobj, -⟩ := hq.obj
  obtain ⟨data, hdata⟩ := h.bootstrap
  have hfinalizer : containsFinalizer q.obj.metadata machineFinalizer = true := by
    rw [hobj]
    exact h.finalizer
  have hzone : validateMachineAvailabilityZone ctx q.obj = none := by
    rw [hobj]
    exact h.zone
  have hinstance : q.obj.status.instanceID = server.id := by
    rw [hobj]
    exact h.instanceID
  have hprovided : Unchanged o g s { q with obj := withCredentials (withBootstrapData q.obj) } :=
    Unchanged.setConditions (Unchanged.setConditions hq fun t ht =>
      h.available t (by simp at ht; simp [ht]))
      fun t ht => h.available t (by simp at ht; simp [ht])
  have hfound : ∀ sm : StackitMachine, sm.status.instanceID = server.id →
      Repeats s.cloud (ensureServer sdkClient ctx sm data) server := by
    intro sm hsm
    unfold ensureServer
    rw [hsm, if_pos h.named]
    exact h.shown.repeats_getServer.existingOr
  refine wp_reconcileNormal (fun _ => ?_) (fun hnot => by cases hfinalizer.symm.trans hnot)
    fun hnot => by cases hfinalizer.symm.trans hnot
  refine .of_placed h.cluster hzone (wp_reconcileBootstrap_provided hdata h.client ?_)
  refine wp_reconcileInstance
    (hfound _ hinstance q.cloud hprovided.cloud.answered hprovided.cloud.cloud) ?_
    (fun _ _ hr => by cases hr.1) fun _ _ hr => by cases hr.1
  rintro server' t ⟨hserver, ht⟩
  cases hserver
  have hrecorded := (hprovided.call ht).write (f := recorded server) fun cs =>
    congrArg (observedAt · g cs) h.record
  refine wp_reconcileServer (fun hdown => by cases h.running.symm.trans hdown)
    (fun _ => h.access t hrecorded.cloud.answered hrecorded.cloud.cloud) (fun u hu => ?_)
    fun _ _ hr => by cases hr.1
  have hready :=
    (hrecorded.call hu.2).write
    (f := fun sm => { sm with status := { sm.status with ready := true } }) fun cs => by
    show ({ observedAt o g cs with status := { o.status with ready := true } } : StackitMachine) = _
    rw [← h.ready]
    rfl
  exact ⟨rfl, Unchanged.setConditions hready fun t ht =>
    h.available t (by simp at ht; rcases ht with rfl | rfl <;> simp)⟩

end MachineReconciler

end Capstk
