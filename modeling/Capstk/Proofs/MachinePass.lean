import Capstk.Proofs.MachineRules
import Capstk.Proofs.Servers

/-!
# One pass over a machine

The status of a StackitMachine is an unreliable record of its server: any patch may be lost and any
request may take effect without an answer. What survives is a relation between the object and the
servers that carry the machine's tags (`ObjOk`): if there is one, the finalizer is set, and if the
status names one, the machine counts as provisioned and no other server carries the tags. Finalizers
and status are patched separately, so the relation is stated such that each half survives alone;
it holds for the copy a pass works on and for the stored object (`Safe`).
-/

namespace Capstk

open Prog

/-- What an object says about the servers `ids` that carry its tags. -/
structure ObjOk (ids : List String) (labels : StringMap) (o : StackitMachine) : Prop where
  finalizer : ids ≠ [] → containsFinalizer o.metadata machineFinalizer = true
  recorded : o.status.instanceID ≠ "" → o.status.provisioned = true ∧ ∀ id ∈ ids,
    id = o.status.instanceID
  labels : o.spec.additionalLabels = labels

namespace ObjOk
variable {ids ids' : List String} {L : StringMap} {o o' : StackitMachine}

/-- The relation reads only the finalizers, the labels and two fields of the status. -/
theorem congr (h : ObjOk ids L o) (hf : o'.metadata.finalizers = o.metadata.finalizers)
    (hl : o'.spec.additionalLabels = o.spec.additionalLabels)
    (hi : o'.status.instanceID = o.status.instanceID)
    (hp : o'.status.provisioned = o.status.provisioned) :
    ObjOk ids L o' := by
  refine ⟨fun hne => ?_, fun hne => ?_, hl.trans h.labels⟩
  · have := h.finalizer hne
    simpa only [containsFinalizer, hf] using this
  · rw [hi] at hne ⊢
    rw [hp]
    exact h.recorded hne

theorem subset (h : ObjOk ids L o) (hsub : ∀ id ∈ ids', id ∈ ids) : ObjOk ids' L o := by
  refine ⟨fun hne => h.finalizer fun hnil => hne ?_, fun hne => ?_, h.labels⟩
  · exact List.eq_nil_iff_forall_not_mem.2 fun id hid => by simpa [hnil] using hsub id hid
  · exact ⟨(h.recorded hne).1, fun id hid => (h.recorded hne).2 id (hsub id hid)⟩

theorem create (h : ObjOk ids L o) (hf : containsFinalizer o.metadata machineFinalizer = true)
    (hi : o.status.instanceID = "") : ObjOk ids' L o :=
  ⟨fun _ => hf, fun hne => absurd hi hne, h.labels⟩

/-- A patch delivers the finalizers and the status separately, and each half carries its part. -/
theorem deliver (h : ObjOk ids L o) (h' : ObjOk ids L o') (d : PatchOutcome) :
    ObjOk ids L (Pass.deliver d o o') := by
  have hm : ∀ {x : StackitMachine}, ObjOk ids L x →
      ObjOk ids L (if d.main.lands then Patchable.copyMain o x else x) := by
    intro x hx; split
    · exact ⟨h.finalizer, hx.recorded, h.labels⟩
    · exact hx
  have hs : ∀ {x : StackitMachine}, ObjOk ids L x →
      ObjOk ids L (if d.status.lands then Patchable.copyStatus o x else x) := by
    intro x hx; split
    · exact ⟨hx.finalizer, h.recorded, hx.labels⟩
    · exact hx
  exact hs (hm h')

end ObjOk

/-- The invariant of a pass. -/
structure Safe (T L : StringMap) (p : Pass StackitMachine Session) : Prop where
  single : (taggedIDs T p.cloud.cloud).length ≤ 1
  named : "" ∉ taggedIDs T p.cloud.cloud
  obj : ObjOk (taggedIDs T p.cloud.cloud) L p.obj
  stored : ObjOk (taggedIDs T p.cloud.cloud) L p.stored

/-- Before a server may be created: the finalizer is persisted, and the stored status names the
server the copy names. -/
structure Ready (T L : StringMap) (p : Pass StackitMachine Session) : Prop extends Safe T L p where
  objFinalizer : containsFinalizer p.obj.metadata machineFinalizer = true
  storedFinalizer : containsFinalizer p.stored.metadata machineFinalizer = true
  sameInstance : p.stored.status.instanceID = p.obj.status.instanceID

variable {T L : StringMap} {p : Pass StackitMachine Session}

/-- A write to the copy that touches none of the fields `ObjOk` reads. -/
structure Neutral (f : StackitMachine → StackitMachine) : Prop where
  finalizers : ∀ o, (f o).metadata.finalizers = o.metadata.finalizers
  labels : ∀ o, (f o).spec.additionalLabels = o.spec.additionalLabels
  instanceID : ∀ o, (f o).status.instanceID = o.status.instanceID
  provisioned : ∀ o, (f o).status.provisioned = o.status.provisioned

theorem Safe.setObj (h : Safe T L p) {f : StackitMachine → StackitMachine} (hf : Neutral f) :
    Safe T L { p with obj := f p.obj } :=
  ⟨h.single, h.named, h.obj.congr (hf.finalizers _) (hf.labels _) (hf.instanceID _)
    (hf.provisioned _), h.stored⟩

theorem Ready.setObj (h : Ready T L p) {f : StackitMachine → StackitMachine} (hf : Neutral f) :
    Ready T L { p with obj := f p.obj } := by
  refine ⟨h.toSafe.setObj hf, ?_, h.storedFinalizer, h.sameInstance.trans (hf.instanceID _).symm⟩
  have := h.objFinalizer
  simpa only [containsFinalizer, hf.finalizers] using this

/-- The cloud changed, but not the servers with the tags. -/
theorem Safe.sameIDs (h : Safe T L p) {s : Session}
    (hs : taggedIDs T s.cloud = taggedIDs T p.cloud.cloud) :
    Safe T L { p with cloud := s } :=
  ⟨by rw [hs]; exact h.single, by rw [hs]; exact h.named, by rw [hs]; exact h.obj,
    by rw [hs]; exact h.stored⟩

theorem Safe.shrinks (h : Safe T L p) {s : Session} (hs : Shrinks p.cloud.cloud s.cloud) :
    Safe T L { p with cloud := s } := by
  have hsub := hs.tagged .server T
  exact ⟨hsub.length_le.trans h.single, fun hid => h.named (hsub.subset hid),
    h.obj.subset hsub.subset,
    h.stored.subset hsub.subset⟩

/-- Creating the first server of a machine keeps the pass safe: the finalizer is persisted, and
neither the copy nor the stored object names a server. -/
theorem Ready.created (h : Ready T L p) (hprov : p.obj.status.provisioned = false) {s : Session}
    (hc : SDKClient.CreatedAtMostOne T p.cloud.cloud s.cloud) : Safe T L { p with cloud := s } := by
  rcases hc with hsame | ⟨-, id, hid, hids⟩
  · exact h.toSafe.sameIDs hsame
  · have hobj : p.obj.status.instanceID = "" := by
      by_contra hne
      simp [(h.obj.recorded hne).1] at hprov
    refine ⟨?_, ?_, h.obj.create h.objFinalizer hobj,
      h.stored.create h.storedFinalizer (h.sameInstance.trans hobj)⟩
    · show (taggedIDs T s.cloud).length ≤ 1
      rw [hids]; simp
    · show "" ∉ taggedIDs T s.cloud
      rw [hids]; simpa using hid.symm

/-- Once a server is known to be the machine's, recording it keeps the pass safe. -/
theorem Safe.setInstance (h : Safe T L p)
    (hf : containsFinalizer p.obj.metadata machineFinalizer = true) {server : Server}
    (hids : ∀ id ∈ taggedIDs T p.cloud.cloud, id = server.id) :
    Safe T L { p with obj := p.obj.setInstance server } :=
  ⟨h.single, h.named, ⟨fun _ => hf, fun _ => ⟨rfl, hids⟩, h.obj.labels⟩, h.stored⟩

/-- At the start of a pass the copy agrees with the stored object. -/
structure Started (T L : StringMap) (p : Pass StackitMachine Session) :
    Prop extends Safe T L p where
  sameFinalizers : p.stored.metadata.finalizers = p.obj.metadata.finalizers
  sameInstance : p.stored.status.instanceID = p.obj.status.instanceID

theorem Started.setObj (h : Started T L p) {f : StackitMachine → StackitMachine} (hf : Neutral f) :
    Started T L { p with obj := f p.obj } :=
  ⟨h.toSafe.setObj hf, h.sameFinalizers.trans (hf.finalizers _).symm,
    h.sameInstance.trans (hf.instanceID _).symm⟩

/-! ### Neutral writes -/

namespace Neutral

theorem setConditions (st : ConditionStatus) (reason message : String) (types : List String) :
    Neutral fun o => o.setConditions st reason message types :=
  ⟨fun _ => rfl, fun _ => rfl, fun _ => rfl, fun _ => rfl⟩

theorem setNotReady (reason message : String) (types : List String) :
    Neutral fun o => o.setNotReady reason message types :=
  ⟨fun _ => rfl, fun _ => rfl, fun _ => rfl, fun _ => rfl⟩

theorem setReady : Neutral StackitMachine.setReady :=
  ⟨fun _ => rfl, fun _ => rfl, fun _ => rfl, fun _ => rfl⟩

theorem conditions (f : StackitMachine → List Condition) :
    Neutral fun o => { o with conditions := f o } :=
  ⟨fun _ => rfl, fun _ => rfl, fun _ => rfl, fun _ => rfl⟩

theorem cloudFailed (reason message : String) (types : List String) :
    Neutral (MachineReconciler.cloudFailed · reason message types) :=
  ⟨fun _ => rfl, fun _ => rfl, fun _ => rfl, fun _ => rfl⟩

end Neutral

namespace MachineReconciler

/-! ### `ensureServer` -/

/-- The recorded server or the only one with the tags; "not found" means that there is neither. -/
theorem wp_findServer (ctx : MachineContext) (sm : StackitMachine) (s : Session) :
    wp (findServer sdkClient ctx sm) (fun r t => t.cloud = s.cloud ∧
      match r with
      | .ok a => a.id = sm.status.instanceID ∧ a.id ≠ "" ∧ Present .server a.id s.cloud ∨
          taggedIDs (ctx.tags sm) s.cloud = [a.id]
      | .error e => isNotFound e = true → taggedIDs (ctx.tags sm) s.cloud = [] ∧
          (sm.status.instanceID ≠ "" → ¬ Present .server sm.status.instanceID s.cloud)) s := by
  unfold findServer
  refine wp_ite (fun hne => ?_) fun h0 => ?_
  · refine wp_existingOr_of (SDKClient.wp_getServer sm.status.instanceID s)
      (fun a t ⟨hc, hid, hpresent⟩ => ?_)
      (fun e t ⟨hc, hr⟩ hnf => ?_) fun e t ⟨hc, _⟩ hnf => ⟨hc, fun h => absurd h (by simp [hnf])⟩
    · exact ⟨hc, .inl ⟨hid, hid ▸ hne, hid ▸ hpresent⟩⟩
    · refine (SDKClient.wp_findServerByTags (ctx.tags sm) t).imp fun r' t' ⟨hc', hr'⟩ => ?_
      rw [hc] at hc' hr'
      cases r' with
      | ok a => exact ⟨hc', .inr hr'⟩
      | error e' => exact ⟨hc', fun hnf' => ⟨hr' hnf', fun _ => hr hnf⟩⟩
  · refine (SDKClient.wp_findServerByTags (ctx.tags sm) s).imp fun r t ⟨hc, hr⟩ => ?_
    cases r with
    | ok a => exact ⟨hc, .inr hr⟩
    | error e => exact ⟨hc, fun hnf => ⟨hr hnf, fun hne => absurd hne h0⟩⟩

/-- `ensureServer` answers with what the look-up finds, and creates the first server with the tags
only if it finds none and none was provisioned before. -/
theorem wp_ensureServer (ctx : MachineContext) (sm : StackitMachine) (data : String) (s : Session) :
    wp (ensureServer sdkClient ctx sm data) (fun r t =>
      (t.cloud = s.cloud ∨ sm.status.provisioned = false ∧
        (sm.status.instanceID ≠ "" → ¬ Present .server sm.status.instanceID s.cloud) ∧
        taggedIDs (ctx.tags sm) s.cloud = [] ∧ Ensured .server (ctx.tags sm) s.cloud t.cloud) ∧
      ∀ a, r = .ok a → taggedIDs (ctx.tags sm) t.cloud = [a.id] ∨
        a.id = sm.status.instanceID ∧ a.id ≠ "" ∧ t.cloud = s.cloud) s := by
  rw [ensureServer_eq]
  refine wp_existingOr_of (wp_findServer ctx sm s) (fun a t ⟨hc, hr⟩ => ⟨.inl hc, fun a' ha' => ?_⟩)
    (fun e t ⟨hc, hr⟩ hnf => ?_) fun e t ⟨hc, _⟩ _ => ⟨.inl hc, fun a ha => by cases ha⟩
  · cases ha'
    rcases hr with ⟨hid, hne, -⟩ | hone
    · exact .inr ⟨hid, hne, hc⟩
    · rw [hc]
      exact .inl hone
  · obtain ⟨hnone, hgone⟩ := hr hnf
    refine wp_createMissingServer (fun _ _ => ⟨.inl hc, fun a ha => by cases ha⟩)
      (fun _ _ => ⟨.inl hc, fun a ha => by cases ha⟩) fun hprov _ => ?_
    refine (SDKClient.wp_createServer (createServerInput ctx sm data) t).imp
      fun r' t' ⟨hcreated, hok⟩ => ?_
    rw [hc] at hcreated
    exact ⟨.inr ⟨hprov, hgone, hnone, hcreated⟩, fun a ha => .inl (hok a ha)⟩

/-! ### `reconcileNormal` -/

theorem sameServers_nodeSSHAccess (ctx : MachineContext) (server : Server) :
    Keeps (fun s t : Session => SameServers s.cloud t.cloud)
      (reconcileBastionNodeSSHAccess sdkClient ctx server) := by
  have hR := SameServers.closed
  refine .ite (.pure hR ()) (.ite (.fail hR _) (.ite (.fail hR _) ?_))
  exact .bind hR (SDKClient.sameServers_ensureNodeSSHAccess _) fun _ => .pure hR ()

/-- The pass after the copy has been told its server: from here on nothing is created. -/
theorem safe_reconcileServer (ctx : MachineContext) (server : Server)
    (h : Safe T L { p with obj := p.obj.setInstance server }) :
    wp (reconcileServer sdkClient ctx server) (fun _ q => Safe T L q) p := by
  have h' : Safe T L { p with obj := recorded server p.obj } :=
    ⟨h.single, h.named, h.obj.congr rfl rfl rfl rfl, h.stored⟩
  have hsafe : ∀ s : Session, SameServers p.cloud.cloud s.cloud →
      Safe T L { p with obj := recorded server p.obj, cloud := s } :=
    fun s hs => h'.sameIDs (hs.taggedIDs_eq T)
  exact wp_reconcileServer (fun _ => h'.setObj (Neutral.setNotReady _ _ _))
    (fun _ => (sameServers_nodeSSHAccess ctx server).wp _)
    (fun s hs => (hsafe s hs).setObj Neutral.setReady)
    fun _ s hs _ => (hsafe s hs).setObj (Neutral.cloudFailed _ _ _)

theorem safe_reconcileInstance {ctx : MachineContext}
    (hT : ∀ sm, sm.spec.additionalLabels = L → ctx.tags sm = T) (data : String) (h : Ready T L p) :
    wp (reconcileInstance sdkClient ctx data) (fun _ q => Safe T L q) p := by
  have hready : Ready T L { p with obj := withCredentials p.obj } :=
    h.setObj (Neutral.setConditions _ _ _ _)
  have htags := hT _ hready.obj.labels
  have hensure : wp (ensureServer sdkClient ctx (withCredentials p.obj) data) (fun r s =>
      Safe T L { p with obj := withCredentials p.obj, cloud := s } ∧
      ∀ a, r = .ok a → taggedIDs T s.cloud = [a.id] ∨
        a.id = p.obj.status.instanceID ∧ a.id ≠ "" ∧ s.cloud = p.cloud.cloud) p.cloud := by
    refine (wp_ensureServer ctx _ data _).imp fun r s ⟨hcloud, hok⟩ => ?_
    rw [htags] at hcloud hok
    refine ⟨?_, hok⟩
    rcases hcloud with hsame | ⟨hprov, -, -, hcreated⟩
    · exact hready.toSafe.sameIDs (by rw [hsame])
    · exact hready.created hprov (.of_ensured hcreated)
  refine wp_reconcileInstance hensure (fun server s ⟨hsafe, hok⟩ => ?_)
    (fun _ _ ⟨hsafe, _⟩ _ => hsafe.setObj (Neutral.setNotReady _ _ _))
    fun _ _ ⟨hsafe, _⟩ _ _ => hsafe.setObj (Neutral.cloudFailed _ _ _)
  refine safe_reconcileServer ctx server (hsafe.setInstance hready.objFinalizer fun id hid => ?_)
  change id ∈ taggedIDs T s.cloud at hid
  rcases hok server rfl with hone | ⟨heq, hne, hsame⟩
  · rw [hone] at hid
    simpa using hid
  · rw [hsame] at hid
    rw [heq] at hne ⊢
    exact (hready.obj.recorded hne).2 id hid

theorem safe_reconcileBootstrap {ctx : MachineContext} {src : ClientSource Session}
    (hT : ∀ sm, sm.spec.additionalLabels = L → ctx.tags sm = T)
    (hsrc : SourceOk src ctx.stackitCluster) (h : Ready T L p) :
    wp (reconcileBootstrap src ctx) (fun _ q => Safe T L q) p := by
  have hready : Ready T L { p with obj := withBootstrapData p.obj } :=
    h.setObj (Neutral.setConditions _ _ _ _)
  refine wp_reconcileBootstrap
    (fun _ _ _ =>
      (h.toSafe.setObj (Neutral.setConditions _ _ _ _)).setObj (Neutral.setConditions _ _ _ _))
    (fun _ _ _ _ _ => hready.toSafe.setObj (Neutral.setConditions _ _ _ _))
    fun data client _ hclient => ?_
  rw [hsrc.client hclient]
  exact safe_reconcileInstance hT data hready

theorem deliver_instanceID (d : PatchOutcome) {o o' : StackitMachine}
    (h : o'.status.instanceID = o.status.instanceID) :
    (Pass.deliver d o o').status.instanceID = o.status.instanceID := by
  unfold Pass.deliver
  split <;> split <;> first | rfl | exact h

theorem deliver_finalizers {d : PatchOutcome} (hd : d.succeeds = true) (o o' : StackitMachine) :
    (Pass.deliver d o o').metadata.finalizers = o.metadata.finalizers := by
  simp only [PatchOutcome.succeeds, Bool.and_eq_true, beq_iff_eq] at hd
  obtain ⟨hm, hs⟩ := hd
  simp only [Pass.deliver, hm, hs, Delivery.lands, if_true]
  rfl

/-- The finalizer is on the object, or the next patch puts it there. -/
def FinalizerPersists {σ : Type} (p : Pass StackitMachine σ) : Prop :=
  containsFinalizer p.obj.metadata machineFinalizer = true ∨ (p.patches.headD {}).succeeds = true

/-- The rule for `persistFinalizer`: it ends without an error exactly if the finalizer is persisted,
and changes nothing else of the copy. -/
theorem wp_persistFinalizer_iff {σ : Type} {p : Pass StackitMachine σ}
    {Q : Except GoError Unit → Pass StackitMachine σ → Prop}
    (h : ∀ r q, (r = .ok () ↔ FinalizerPersists p) → q.cloud = p.cloud →
      (∃ m, q.obj = { p.obj with metadata := m }) → (p.patches = [] → q.patches = []) → Q r q) :
    wp persistFinalizer Q p := by
  refine wp_persistFinalizer
    (fun hhas => h _ _ (iff_of_true rfl (.inl hhas)) rfl ⟨_, rfl⟩ id) fun hnot r hr => ?_
  refine h _ _ (hr.trans ⟨.inr, fun hp => ?_⟩) rfl ⟨_, rfl⟩ fun hnil => ?_
  · exact hp.resolve_left (ne_true_of_eq_false hnot)
  · show p.patches.tail = []
    rw [hnil]
    rfl

/-- After `persistFinalizer` succeeds a server may be created. -/
theorem ready_persistFinalizer (h : Started T L p) :
    wp persistFinalizer (fun r q => Safe T L q ∧ (r = .ok () → Ready T L q)) p := by
  have hadded : containsFinalizer (withFinalizer p.obj).metadata machineFinalizer = true :=
    containsFinalizer_addFinalizer _ _
  have hobj : ObjOk (taggedIDs T p.cloud.cloud) L (withFinalizer p.obj) :=
    ⟨fun _ => hadded, h.obj.recorded, h.obj.labels⟩
  have hsafe : Safe T L (patchFinalizer p) :=
    ⟨h.single, h.named, hobj, hobj.deliver h.stored _⟩
  refine wp_persistFinalizer
    (fun hf => ⟨h.toSafe, fun _ => ⟨h.toSafe, hf, ?_, h.sameInstance⟩⟩) fun _ r hr =>
    ⟨hsafe, fun hok => ⟨hsafe, hadded, ?_, deliver_instanceID _ h.sameInstance⟩⟩
  · rw [containsFinalizer, h.sameFinalizers]
    exact hf
  · rw [patchFinalizer, containsFinalizer, deliver_finalizers (hr.1 hok)]
    exact hadded

theorem safe_reconcileNormal {ctx : MachineContext} {src : ClientSource Session}
    (hT : ∀ sm, sm.spec.additionalLabels = L → ctx.tags sm = T)
    (hsrc : SourceOk src ctx.stackitCluster) (h : Started T L p) :
    wp (reconcileNormal src ctx) (fun _ q => Safe T L q) p := by
  refine wp_reconcileNormal_of_persist (ready_persistFinalizer h) (fun _ _ hq => hq.1)
    fun q ⟨hsafe, hready⟩ => ?_
  exact ⟨fun _ => hsafe.setObj (Neutral.setNotReady _ _ _),
    fun _ _ _ => hsafe.setObj (Neutral.setNotReady _ _ _),
    fun _ _ => safe_reconcileBootstrap hT hsrc (hready rfl)⟩

/-! ### The way to the server -/

/-- The pass has not come to the server yet: the cloud is as it was, and of the object at most the
finalizers, the conditions and `ready` have changed. -/
structure Waiting {σ : Type} (p q : Pass StackitMachine σ) : Prop where
  cloud : q.cloud = p.cloud
  spec : q.obj.spec = p.obj.spec
  status : { q.obj.status with ready := false } = { p.obj.status with ready := false }

namespace Waiting
variable {σ : Type} {p q : Pass StackitMachine σ}

theorem refl : Waiting p p := ⟨rfl, rfl, rfl⟩

theorem instanceID (h : Waiting p q) : q.obj.status.instanceID = p.obj.status.instanceID := by
  have hstatus := congrArg StackitMachineStatus.instanceID h.status
  exact hstatus

theorem provisioned (h : Waiting p q) : q.obj.status.provisioned = p.obj.status.provisioned := by
  have hstatus := congrArg StackitMachineStatus.provisioned h.status
  exact hstatus

theorem addresses (h : Waiting p q) : q.obj.status.addresses = p.obj.status.addresses := by
  have hstatus := congrArg StackitMachineStatus.addresses h.status
  exact hstatus

theorem tags (h : Waiting p q) (ctx : MachineContext) : ctx.tags q.obj = ctx.tags p.obj := by
  rw [MachineContext.tags, h.spec, MachineContext.tags]

theorem setObj (h : Waiting p q) {o : StackitMachine} (hspec : o.spec = q.obj.spec)
    (hstatus : { o.status with ready := false } = { q.obj.status with ready := false }) :
    Waiting p { q with obj := o } :=
  ⟨h.cloud, hspec.trans h.spec, hstatus.trans h.status⟩

end Waiting

/-- It stops on the way, or comes to `reconcileInstance`, with a cluster that is ready and a zone
that is valid. -/
theorem wp_reconcileNormal_waiting {σ : Type} {src : ClientSource σ} {ctx : MachineContext}
    {p : Pass StackitMachine σ} {Q : Except GoError Result → Pass StackitMachine σ → Prop}
    (hstop : ∀ r q, Waiting p q → Q r q)
    (hinstance : ∀ client data q, buildCloudClient src ctx.stackitCluster = .ok client →
      Waiting p q →
      ctx.stackitCluster.status.ready = true → validateMachineAvailabilityZone ctx q.obj = none →
      wp (reconcileInstance client ctx data) Q q) : wp (reconcileNormal src ctx) Q p := by
  have hrest : ∀ q, Waiting p q → Proceeds src ctx Q q := fun q hq =>
    ⟨fun _ => hstop _ _ (hq.setObj rfl rfl), fun _ _ _ => hstop _ _ (hq.setObj rfl rfl),
      fun hready hzone => wp_reconcileBootstrap (fun _ _ _ => hstop _ _ (hq.setObj rfl rfl))
        (fun _ _ _ _ _ => hstop _ _ (hq.setObj rfl rfl)) fun data client _ hclient =>
        hinstance client data _ hclient (hq.setObj rfl rfl) hready hzone⟩
  have hadded : Waiting p (patchFinalizer p) := ⟨rfl, rfl, rfl⟩
  exact wp_reconcileNormal (fun _ => hrest p .refl)
    (fun _ _ _ => hstop _ _ hadded) fun _ _ => hrest _ hadded

theorem Waiting.sameServers {p q : Pass StackitMachine Session} (h : Waiting p q) :
    SameServers p.cloud.cloud q.cloud.cloud := by
  rw [SameServers, h.cloud]

theorem sameServers_reconcileServer (ctx : MachineContext) (server : Server) :
    Keeps (fun p q : Pass StackitMachine Session => SameServers p.cloud.cloud q.cloud.cloud)
      (reconcileServer sdkClient ctx server) := by
  intro p
  exact wp_reconcileServer (Q := fun _ q => SameServers p.cloud.cloud q.cloud.cloud) (p := p)
    (fun _ => rfl) (fun _ => (sameServers_nodeSSHAccess ctx server).wp _) (fun _ hs => hs)
    fun _ _ hs _ => hs

theorem wp_reconcileNormal_provided {σ : Type} {src : ClientSource σ} {ctx : MachineContext}
    {p : Pass StackitMachine σ} {client : Client σ} {data : String}
    {Q : Except GoError Result → Pass StackitMachine σ → Prop} (hfin : FinalizerPersists p)
    (hcluster : ctx.stackitCluster.status.ready = true)
    (hzone : validateMachineAvailabilityZone ctx p.obj = none)
    (hdata : fetchBootstrapData src ctx.machine = .ok data)
    (hclient : buildCloudClient src ctx.stackitCluster = .ok client)
    (h : ∀ q, q.cloud = p.cloud → q.obj.spec = p.obj.spec → q.obj.status = p.obj.status →
      (p.patches = [] → q.patches = []) → wp (reconcileInstance client ctx data) Q q) :
    wp (reconcileNormal src ctx) Q p := by
  have hrest : ∀ q : Pass StackitMachine σ, q.cloud = p.cloud →
      (∃ m, q.obj = { p.obj with metadata := m }) → (p.patches = [] → q.patches = []) →
      Proceeds src ctx Q q := by
    rintro q hcloud ⟨m, hobj⟩ hpatches
    have hzone' : validateMachineAvailabilityZone ctx q.obj = none := by
      rw [hobj]
      exact hzone
    have hspec : q.obj.spec = p.obj.spec := by rw [hobj]
    have hstatus : q.obj.status = p.obj.status := by rw [hobj]
    exact .of_placed hcluster hzone' (wp_reconcileBootstrap_provided hdata hclient
      (h _ hcloud hspec hstatus hpatches))
  refine wp_reconcileNormal_of_persist
    (P := fun r q => (r = .ok () ↔ FinalizerPersists p) ∧ Proceeds src ctx Q q)
    (wp_persistFinalizer_iff fun r q hr hcloud hobj hpatches => ⟨hr, hrest q hcloud hobj hpatches⟩)
    (fun err q hq => ?_) fun q hq => hq.2
  cases hq.1.2 hfin

/-- What a pass may do to the servers: nothing, or create the first one with the machine's tags, if
none was provisioned before and the recorded one does not exist. -/
theorem wp_reconcileNormal_servers {src : ClientSource Session} {ctx : MachineContext}
    {p : Pass StackitMachine Session} (hsrc : SDKSource src ctx.stackitCluster) :
    wp (reconcileNormal src ctx) (fun _ q => SameServers p.cloud.cloud q.cloud.cloud ∨
      (p.obj.status.provisioned = false ∧
        (p.obj.status.instanceID ≠ "" → ¬ Present .server p.obj.status.instanceID p.cloud.cloud) ∧
        taggedIDs (ctx.tags p.obj) p.cloud.cloud = []) ∧
      ∃ id, id ≠ "" ∧ labelled .server q.cloud.cloud = labelled .server
        p.cloud.cloud ++ [(id, ctx.tags p.obj)]) p := by
  refine wp_reconcileNormal_waiting (fun r q hq => .inl hq.sameServers)
    fun client data q hclient hq _ _ => ?_
  rw [hsrc client hclient]
  have htags : ctx.tags (withCredentials q.obj) = ctx.tags p.obj := hq.tags ctx
  have hid : (withCredentials q.obj).status.instanceID = p.obj.status.instanceID := hq.instanceID
  have hprov : (withCredentials q.obj).status.provisioned = p.obj.status.provisioned :=
    hq.provisioned
  -- the rest of the pass leaves the servers alone
  have hensure : wp (ensureServer sdkClient ctx (withCredentials q.obj) data) (fun _ s =>
      ∀ c : Cloud, SameServers s.cloud c → SameServers p.cloud.cloud c ∨
      (p.obj.status.provisioned = false ∧
        (p.obj.status.instanceID ≠ "" → ¬ Present .server p.obj.status.instanceID p.cloud.cloud) ∧
        taggedIDs (ctx.tags p.obj) p.cloud.cloud = []) ∧
      ∃ id, id ≠ "" ∧ labelled .server c = labelled .server p.cloud.cloud ++
        [(id, ctx.tags p.obj)]) q.cloud := by
    refine (wp_ensureServer ctx (withCredentials q.obj) data q.cloud).imp
      fun r s ⟨hcloud, _⟩ c hc => ?_
    rw [hq.cloud, htags, hid, hprov] at hcloud
    rcases hcloud with hsame | ⟨hnew, hgone, hnone, hensured⟩
    · exact .inl (by rw [← hsame]; exact hc)
    · rcases hensured.this with hsame | ⟨-, id, hne, hadded⟩
      · exact .inl (hc.trans hsame)
      · exact .inr ⟨⟨hnew, hgone, hnone⟩, id, hne, hc.trans hadded⟩
  exact wp_reconcileInstance hensure
    (fun server s hs => ((sameServers_reconcileServer ctx server).wp _).imp fun _ q' h => hs _ h)
    (fun _ _ hs _ => hs _ rfl) fun _ _ hs _ _ => hs _ rfl

/-! ### `reconcileDelete` -/

theorem safe_dropFinalizer (h : Safe T L p) (hids : taggedIDs T p.cloud.cloud = []) :
    wp dropFinalizer (fun _ q => Safe T L q) p :=
  ⟨h.single, h.named, ⟨fun hne => absurd hids hne, h.obj.recorded, h.obj.labels⟩, h.stored⟩

/-- The server a deletion is to remove: the recorded one, else the only one with the tags. The ID is
empty if there is neither. -/
inductive ResolvesTo (ctx : MachineContext) (sm : StackitMachine) (c : Cloud) : String → Prop
  | recorded (hne : sm.status.instanceID ≠ "") : ResolvesTo ctx sm c sm.status.instanceID
  | tagged {id : String} (h0 : sm.status.instanceID = "")
      (hone : taggedIDs (ctx.tags sm) c = [id]) : ResolvesTo ctx sm c id
  | nothing (h0 : sm.status.instanceID = "") (hnone : taggedIDs (ctx.tags sm) c = []) :
      ResolvesTo ctx sm c ""

theorem wp_resolveServerForDeletion_resolvesTo (ctx : MachineContext) (sm : StackitMachine)
    (s : Session) :
    wp (resolveServerForDeletion sdkClient ctx sm) (fun r t => t.cloud = s.cloud ∧
      ∀ id, r = .ok id → ResolvesTo ctx sm s.cloud id) s := by
  refine wp_resolveServerForDeletion (fun hne => ⟨rfl, fun id hid => ?_⟩)
    (fun _ => SDKClient.wp_findServerByTags (ctx.tags sm) s)
    (fun h0 a t ⟨hc, hone⟩ => ⟨hc, fun id hid => ?_⟩)
    (fun h0 e t ⟨hc, hnone⟩ hnf => ⟨hc, fun id hid => ?_⟩)
    fun e t ⟨hc, _⟩ _ => ⟨hc, fun id hid => by cases hid⟩
  · cases hid
    exact .recorded hne
  · cases hid
    exact .tagged h0 hone
  · cases hid
    exact .nothing h0 (hnone hnf)

/-- The server to delete is the only one with the machine's tags; an empty ID means that there is
none. -/
theorem names_of_resolvesTo {ctx : MachineContext} {id : String} (h : Safe T L p)
    (htags : ctx.tags p.obj = T) (hid : ResolvesTo ctx p.obj p.cloud.cloud id) :
    (∀ x ∈ taggedIDs T p.cloud.cloud, x = id) ∧ (id = "" → taggedIDs T p.cloud.cloud = []) := by
  subst htags
  cases hid with
  | recorded hne => exact ⟨(h.obj.recorded hne).2, fun h0 => absurd h0 hne⟩
  | tagged _ hone =>
    refine ⟨fun x hx => ?_, fun h0 => absurd ?_ h.named⟩
    · rw [hone] at hx
      exact List.mem_singleton.1 hx
    · rw [hone, h0]
      exact List.mem_singleton.2 rfl
  | nothing _ hnone =>
    refine ⟨fun x hx => ?_, fun _ => hnone⟩
    rw [hnone] at hx
    cases hx

theorem safe_deleteInstance {ctx : MachineContext}
    (hT : ∀ sm, sm.spec.additionalLabels = L → ctx.tags sm = T) (h : Safe T L p) :
    wp (deleteInstance sdkClient ctx) (fun _ q => Safe T L q) p := by
  have hsame : ∀ s : Session, s.cloud = p.cloud.cloud → Safe T L { p with cloud := s } :=
    fun s hc => h.sameIDs (by rw [hc])
  refine wp_deleteInstance (wp_orError (wp_resolveServerForDeletion_resolvesTo ctx p.obj p.cloud)
    (fun id s ⟨hc, hr⟩ => ?_) fun _ s ⟨hc, _⟩ => hsame s hc)
  obtain ⟨honly, hnone⟩ := names_of_resolvesTo h (hT _ h.obj.labels) (hr id rfl)
  refine ⟨fun _ => ?_, fun hid => safe_dropFinalizer (hsame s hc) ?_⟩
  · refine wp_tolerate_of (wp_remove (removes_deleteServer id) s)
      (fun r' t ⟨hshrinks, hgone⟩ hnf => ?_)
      fun e t ⟨hshrinks, _⟩ _ => h.shrinks (hc ▸ hshrinks)
    -- the deletion is confirmed, so no server carries the tags
    rw [hc] at hshrinks
    have hsafe' : Safe T L { p with cloud := t } := h.shrinks hshrinks
    have hempty : taggedIDs T t.cloud = [] := by
      refine List.eq_nil_iff_forall_not_mem.2 fun x hx => ?_
      have hxid : x = id := honly x ((hshrinks.tagged .server T).subset hx)
      exact not_mem_tagged (hgone hnf) (hxid ▸ hx)
    exact ⟨hsafe'.single, hsafe'.named,
      ⟨fun hne => absurd hempty hne, fun hne => absurd rfl hne, hsafe'.obj.labels⟩, hsafe'.stored⟩
  · show taggedIDs T s.cloud = []
    rw [hc]
    exact hnone hid

theorem safe_reconcileDelete {ctx : MachineContext} {src : ClientSource Session}
    (hT : ∀ sm, sm.spec.additionalLabels = L → ctx.tags sm = T)
    (hsrc : SourceOk src ctx.stackitCluster) (h : Safe T L p) :
    wp (reconcileDelete src ctx) (fun _ q => Safe T L q) p := by
  refine wp_reconcileDelete (fun err hbuild hmissing => ?_)
    (fun _ _ _ => h.setObj (Neutral.setConditions _ _ _ _)) fun client hclient => ?_
  · rw [hsrc.not_isAPINotFound hbuild] at hmissing
    cases hmissing
  · rw [hsrc.client hclient]
    exact safe_deleteInstance hT h

/-! ### `Reconcile` -/

theorem safe_reconcileScope {ctx : MachineContext} {src : ClientSource Session}
    (hT : ∀ sm, sm.spec.additionalLabels = L → ctx.tags sm = T)
    (hsrc : SourceOk src ctx.stackitCluster) (h : Started T L p) :
    wp (reconcileScope src ctx) (fun _ q => Safe T L q) p := by
  have hstarted : Started T L { p with obj := withPaused ctx p.obj } :=
    h.setObj (Neutral.conditions _)
  exact wp_reconcileScope (fun _ => hstarted.toSafe)
    (fun _ _ => safe_reconcileDelete hT hsrc hstarted.toSafe)
    fun _ _ => safe_reconcileNormal hT hsrc hstarted

/-- What a pass needs to know of the objects it looks up: they give the tags `T`, and the source of
the cloud client is sound. -/
def ContextOk (T L : StringMap) (answers : Answers Session) : Prop :=
  ∀ ctx, lookupContext answers = .ok (some ctx) →
    (∀ sm, sm.spec.additionalLabels = L → ctx.tags sm = T) ∧
    SourceOk answers.source ctx.stackitCluster

/-- A whole pass: whatever fails in it and whichever of its patches are lost, the stored object and
the cloud stay consistent. -/
theorem safe_reconcile {answers : Answers Session} (hctx : ContextOk T L answers)
    (h : Safe T L p) : wp (reconcile answers) (fun _ q => Safe T L q) p := by
  refine wp_reconcile (fun _ _ => h) fun ctx hscope => Pass.wp_withDeferredPatch ?_
  obtain ⟨hT, hsrc⟩ := hctx ctx hscope.owners
  have hstarted : Started T L { p with obj := p.stored } :=
    ⟨⟨h.single, h.named, h.stored, h.stored⟩, rfl, rfl⟩
  refine (safe_reconcileScope hT hsrc hstarted).imp fun r q hq d _ _ _ => ?_
  exact ⟨hq.single, hq.named, hq.obj, hq.obj.deliver hq.stored d⟩

end MachineReconciler

end Capstk
