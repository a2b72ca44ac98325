import Capstk.Proofs.Answered
import Capstk.Proofs.MachineRun

/-!
# What identifies a machine's server

The controller writes `spec.providerID` and never reads it. In both paths the server is the one that
`status.instanceID` names, or the one with the machine's tags, which hold the UID of the Machine. So
a StackitMachine that is re-created from its spec under a new Machine has lost its server: the next
pass creates another one, and a deletion drops the finalizer while the old one runs on.
-/

namespace Capstk

open Prog

variable {T : StringMap} {s : Session} {c : Cloud} {ctx : MachineContext} {sm : StackitMachine}
  {id : String}

theorem MachineContext.tags_nonempty (ctx : MachineContext) (sm : StackitMachine) :
    (ctx.tags sm).entries.isEmpty = false :=
  StringMap.isEmpty_entries_of_lookup (machineTags_clusterName ..)

/-- The deletion of the server was requested, and was answered or reported that there is none. -/
def LogEntry.Deletes (id : String) (x : LogEntry) : Prop :=
  x.request = .deleteServer id ∧ ∀ e, x.error = some e → isNotFound e = true

namespace MachineReconciler

/-! ### Deletions -/

theorem reads_resolveServerForDeletion (ctx : MachineContext) (sm : StackitMachine) :
    Keeps Reads (resolveServerForDeletion sdkClient ctx sm) := by
  have hR := Reads.closed
  refine .ite (.pure hR _) (keeps_existingOr hR (.bind hR ?_ fun _ => .pure hR _) (.pure hR _))
  exact SDKClient.reads_findServerByTags (ctx.tags sm)

/-- A deletion that drops the finalizer has deleted the server it is to remove, if there is one. -/
def Deleted (ctx : MachineContext) (p q : Pass StackitMachine Session) : Prop :=
  ∃ id, ResolvesTo ctx p.obj p.cloud.cloud id ∧
    (id ≠ "" → ∃ new, q.cloud.log = p.cloud.log ++ new ∧ ∃ x ∈ new, x.Deletes id)

theorem wp_deleteInstance_log {p : Pass StackitMachine Session} :
    wp (deleteInstance sdkClient ctx)
      (fun _ q => q.obj.metadata = p.obj.metadata ∨ Deleted ctx p q) p := by
  refine wp_deleteInstance (wp_orError
    ((wp_resolveServerForDeletion_resolvesTo ctx p.obj p.cloud).and
      ((reads_resolveServerForDeletion ctx p.obj).wp p.cloud))
    (fun id t ⟨⟨_, hr⟩, new, hnew, _⟩ =>
      ⟨fun _ => ?_, fun h0 => .inr ⟨id, hr id rfl, fun hne => absurd h0 hne⟩⟩)
    fun _ _ _ => .inl rfl)
  have hlogged : wp (SDKClient.deleteServer id)
      (fun r u => u.log = t.log ++ [⟨.deleteServer id, errorOf r⟩]) t :=
    wp_request fun _ _ _ _ hu => hu.log
  refine wp_tolerate_of hlogged (fun r' u hu hnf => .inr ⟨id, hr id rfl, fun _ => ?_⟩)
    fun _ _ _ _ => .inl rfl
  have hlog : u.log = p.cloud.log ++ (new ++ [⟨.deleteServer id, errorOf r'⟩]) := by
    rw [hu, hnew, List.append_assoc]
  refine ⟨_, hlog, _, List.mem_append_right _ (List.mem_singleton.2 rfl), rfl, fun e he => ?_⟩
  cases r' with
  | ok _ => cases he
  | error e' =>
    cases he
    exact hnf e rfl

theorem wp_reconcileDelete_log {src : ClientSource Session} {p : Pass StackitMachine Session}
    (hsrc : SourceOk src ctx.stackitCluster) :
    wp (reconcileDelete src ctx) (fun _ q => q.obj.metadata = p.obj.metadata ∨ Deleted ctx p q) p :=
  by
  refine wp_reconcileDelete (fun err hbuild hmissing => ?_) (fun _ _ _ => .inl rfl)
    fun client hclient => ?_
  · cases hmissing.symm.trans (hsrc.not_isAPINotFound hbuild)
  · rw [hsrc.client hclient]
    exact wp_deleteInstance_log

/-! ### Without failures -/

theorem find?_of_not_present (h : ¬ Present .server id c) :
    c.servers.find? (·.id == id) = none := by
  rw [List.find?_eq_none]
  intro x hx hid
  exact h ⟨x.labels, List.mem_map.2 ⟨x, hx, by rw [← beq_iff_eq.1 hid]⟩⟩

theorem wp_findServerByTags_none (hs : Answered s) (hT : T.entries.isEmpty = false)
    (hnone : taggedIDs T s.cloud = []) :
    wp (SDKClient.findServerByTags T) (fun r t => (Answered t ∧ t.cloud = s.cloud) ∧
      ∃ e, r = .error e ∧ isNotFound e = true) s := by
  have hone : (tagged .server T s.cloud).length ≤ 1 := by
    rw [show tagged .server T s.cloud = [] from hnone]
    exact Nat.zero_le 1
  refine ((SDKClient.wp_findServerByTags_answered hs hT hone).and
    (SDKClient.wp_findServerByTags T s)).imp ?_
  rintro r t ⟨⟨ht, hr⟩, hc, hfound⟩
  cases r with
  | ok a =>
    have hone' : taggedIDs T s.cloud = [a.id] := hfound
    rw [hnone] at hone'
    cases hone'
  | error e => exact ⟨⟨ht, hc⟩, e, rfl, hr e rfl⟩

theorem wp_findServer_none (hs : Answered s) (hnone : taggedIDs (ctx.tags sm) s.cloud = [])
    (hgone : sm.status.instanceID ≠ "" → ¬ Present .server sm.status.instanceID s.cloud) :
    wp (findServer sdkClient ctx sm) (fun r t => (Answered t ∧ t.cloud = s.cloud) ∧
      ∃ e, r = .error e ∧ isNotFound e = true) s := by
  unfold findServer
  refine wp_ite (fun hne => wp_existingOr ?_) fun _ =>
    wp_findServerByTags_none hs (ctx.tags_nonempty sm) hnone
  have hmissing : wp (SDKClient.getServer sm.status.instanceID)
      (fun r t => (Answered t ∧ t.cloud = s.cloud) ∧
        ∃ e, r = .error e ∧ isNotFound e = true) s := by
    unfold SDKClient.getServer
    rw [wp_bind]
    refine wp_answered hs fun t ht hc => ?_
    rw [perform, Cloud.getServer, find?_of_not_present (hgone hne)] at hc ⊢
    exact ⟨⟨ht, hc⟩, _, rfl, rfl⟩
  refine hmissing.imp ?_
  rintro r t ⟨⟨ht, hc⟩, e, rfl, hnf⟩
  show if isNotFound e = true then _ else _
  rw [if_pos hnf, ← hc]
  exact wp_findServerByTags_none ht (ctx.tags_nonempty sm) (by rw [hc]; exact hnone)

/-- Such a machine gets a new server, unless one was provisioned before. -/
theorem wp_ensureServer_creates {data : String} (hs : Answered s)
    (hnone : taggedIDs (ctx.tags sm) s.cloud = [])
    (hgone : sm.status.instanceID ≠ "" → ¬ Present .server sm.status.instanceID s.cloud)
    (hprov : sm.status.provisioned = false) (hnetwork : ctx.networkID sm ≠ "") :
    wp (ensureServer sdkClient ctx sm data)
      (fun r t => ∃ a, r = .ok a ∧ taggedIDs (ctx.tags sm) t.cloud = [a.id]) s := by
  rw [ensureServer_eq]
  refine wp_existingOr ((wp_findServer_none hs hnone hgone).imp ?_)
  rintro r t ⟨⟨ht, hc⟩, e, rfl, hnf⟩
  show if isNotFound e = true then _ else _
  rw [if_pos hnf]
  refine wp_createMissingServer (fun hbad => ?_) (fun h0 => absurd h0 hnetwork) fun _ _ => ?_
  · rw [hprov] at hbad
    cases hbad
  have hone : (tagged .server (ctx.tags sm) t.cloud).length ≤ 1 := by
    rw [hc, show tagged .server (ctx.tags sm) s.cloud = [] from hnone]
    exact Nat.zero_le 1
  have hanswered : wp (SDKClient.createServer (createServerInput ctx sm data))
      (Succeeds fun _ _ => True) t :=
    SDKClient.wp_createServer_answered ht (ctx.tags_nonempty sm) hone
  refine (hanswered.and (SDKClient.wp_createServer (createServerInput ctx sm data) t)).imp ?_
  rintro r' u ⟨⟨_, a, rfl, _⟩, _, hok⟩
  exact ⟨a, rfl, hok a rfl⟩

theorem wp_resolve_other (hs : Answered s) (hid : sm.status.instanceID ≠ id)
    (htagged : sm.status.instanceID = "" → taggedIDs (ctx.tags sm) s.cloud ≠ [id] ∧
      (taggedIDs (ctx.tags sm) s.cloud).length ≤ 1)
    (hne : id ≠ "") :
    wp (resolveServerForDeletion sdkClient ctx sm) (fun r t => (Answered t ∧ Reads s t) ∧
      ∃ id', r = .ok id' ∧ id' ≠ id) s := by
  refine wp_resolveServerForDeletion (fun _ => ⟨⟨hs, Reads.closed.refl s⟩, _, rfl, hid⟩)
    (fun h0 => ((SDKClient.wp_findServerByTags_answered hs (ctx.tags_nonempty sm)
      (htagged h0).2).and (SDKClient.wp_findServerByTags (ctx.tags sm) s)).and
      ((SDKClient.reads_findServerByTags (ctx.tags sm)).wp s)) ?_ ?_ ?_
  · rintro h0 a t ⟨⟨⟨ht, -⟩, -, hfound⟩, hreads⟩
    refine ⟨⟨ht, hreads⟩, a.id, rfl, fun heq => (htagged h0).1 ?_⟩
    rw [← heq]
    exact hfound
  · rintro - e t ⟨⟨⟨ht, -⟩, -⟩, hreads⟩ -
    exact ⟨⟨ht, hreads⟩, "", rfl, hne.symm⟩
  · rintro e t ⟨⟨⟨-, hr⟩, -⟩, -⟩ hnf
    rw [hr e rfl] at hnf
    cases hnf

theorem wp_deleteInstance_other {p : Pass StackitMachine Session} (hs : Answered p.cloud)
    (hid : p.obj.status.instanceID ≠ id)
    (htagged : p.obj.status.instanceID = "" → taggedIDs (ctx.tags p.obj) p.cloud.cloud ≠ [id] ∧
      (taggedIDs (ctx.tags p.obj) p.cloud.cloud).length ≤ 1) (hne : id ≠ "") :
    wp (deleteInstance sdkClient ctx)
      (fun _ q => containsFinalizer q.obj.metadata machineFinalizer = false ∧
      Logs (fun x => x.request ≠ .deleteServer id) p.cloud q.cloud) p := by
  have hreads : ∀ {s t : Session}, Reads s t → Logs (fun x => x.request ≠ .deleteServer id) s
      t := fun h =>
    h.mono fun x hx heq => by rw [heq] at hx; cases hx
  have hgone : ∀ o : StackitMachine,
      containsFinalizer (withoutFinalizer o).metadata machineFinalizer = false :=
    fun _ => containsFinalizer_removeFinalizer _ _
  refine wp_deleteInstance (wp_orError (wp_resolve_other hs hid htagged hne) ?_ ?_)
  · rintro id' t ⟨⟨ht, hread⟩, _, hr, hother⟩
    cases hr
    refine ⟨fun _ => ?_, fun _ => ⟨hgone _, hreads hread⟩⟩
    have hdelete : wp (tolerate isNotFound (SDKClient.deleteServer id'))
        (Succeeds fun _ _ => True) t := by
      refine wp_succeeds_tolerate ht fun e he => ?_
      unfold Cloud.deleteServer at he
      split at he <;> cases he
      rfl
    have hlog : Keeps (Logs fun x => x.request ≠ .deleteServer id)
        (tolerate isNotFound (SDKClient.deleteServer id')) := by
      refine keeps_tolerate (Logs.closed _) (logs_request fun _ heq => hother ?_)
      injection heq
    refine wp_orError (hdelete.and (hlog.wp t)) (fun _ u hu => ⟨hgone _, ?_⟩) ?_
    · exact (hreads hread).trans hu.2
    · rintro e u ⟨⟨-, _, hr, -⟩, -⟩
      cases hr
  · rintro e t ⟨-, _, hr, -⟩
    cases hr

/-! ### The identity -/

/-- The server `id` of the machine is safe whatever fails: no pass creates another one, and no
deletion drops the finalizer before the deletion of `id` was answered or reported that there is
none. -/
structure Authoritative (m : MachineIdentity) (sm : StackitMachine) (id : String) (c : Cloud) :
    Prop where
  normal : ∀ (src : ClientSource Session) (ctx : MachineContext) (p : Pass StackitMachine Session),
    m.Owns ctx →
    SourceOk src ctx.stackitCluster → p.obj = sm → p.cloud.cloud = c →
    SameServers c ((reconcileNormal src ctx).after p).cloud.cloud
  delete : containsFinalizer sm.metadata machineFinalizer = true →
    ∀ (src : ClientSource Session) (ctx : MachineContext) (p : Pass StackitMachine Session),
    m.Owns ctx →
    SourceOk src ctx.stackitCluster → p.obj = sm → p.cloud.cloud = c →
    containsFinalizer ((reconcileDelete src ctx).after p).obj.metadata machineFinalizer = false →
    ∃ x ∈ ((reconcileDelete src ctx).after p).cloud.log.drop p.cloud.log.length, x.Deletes id

/-- `reconcileNormal` knows that there is a server. -/
def ServerKnown (T : StringMap) (sm : StackitMachine) (c : Cloud) : Prop :=
  sm.status.provisioned = true ∨ sm.status.instanceID ≠ "" ∧
    Present .server sm.status.instanceID c ∨ taggedIDs T c ≠ []

/-- `reconcileDelete` takes `id` for the server, or cannot tell. -/
def DeletionKnows (T : StringMap) (sm : StackitMachine) (id : String) (c : Cloud) : Prop :=
  sm.status.instanceID = id ∨ sm.status.instanceID = "" ∧
    (taggedIDs T c = [id] ∨ 1 < (taggedIDs T c).length)

theorem ResolvesTo.eq {id' : String} (h : ResolvesTo ctx sm c id')
    (hknows : DeletionKnows (ctx.tags sm) sm id c) (hne : id ≠ "") : id' = id := by
  cases h with
  | recorded hset =>
    rcases hknows with h | ⟨h0, -⟩
    · exact h
    · exact absurd h0 hset
  | tagged h0 hone =>
    rcases hknows with h | ⟨-, h | h⟩
    · exact absurd (h ▸ h0) hne
    · exact List.singleton_inj.1 (hone.symm.trans h)
    · simp [hone] at h
  | nothing h0 hnone =>
    rcases hknows with h | ⟨-, h | h⟩
    · exact absurd (h ▸ h0) hne
    · simp [hnone] at h
    · simp [hnone] at h

/-- The objects of a machine, with all that a pass waits for. -/
def readyContext (m : MachineIdentity) : MachineContext where
  cluster :=
    { metadata := { name := m.clusterName, namespace' := m.clusterNamespace },
      infrastructureRef := { name := "c" } }
  machine :=
    { metadata := { name := m.machineName, namespace' := "ns", uid := m.machineUID },
      dataSecretName := some "b" }
  stackitCluster :=
    { metadata := { name := "c", namespace' := "ns" }, spec := {},
      status := { ready := true, network := { id := "n" } } }

/-- If the server is not known, a pass without failures creates one. -/
theorem not_sameServers {m : MachineIdentity}
    (hunknown : ¬ ServerKnown (m.tags sm.spec.additionalLabels) sm c) :
    let p : Pass StackitMachine Session := { obj := sm, stored := sm, cloud := { cloud := c } }
    ¬ SameServers c ((reconcileNormal .connected (readyContext m)).after p).cloud.cloud := by
  intro p
  obtain ⟨hprov, hgone, hnone⟩ : sm.status.provisioned = false ∧
      (sm.status.instanceID ≠ "" → ¬ Present .server sm.status.instanceID c) ∧
      taggedIDs (m.tags sm.spec.additionalLabels) c = [] := by
    simpa [ServerKnown] using hunknown
  have hnetwork : ∀ o : StackitMachine, (readyContext m).networkID o ≠ "" := by
    intro o
    unfold MachineContext.networkID
    split
    · assumption
    · show "n" ≠ ""
      decide
  refine (show wp (reconcileNormal .connected (readyContext m))
    (fun _ q => ¬ SameServers c q.cloud.cloud) p from ?_)
  refine wp_reconcileNormal_provided (.inr rfl) rfl rfl rfl rfl fun q hcloud hspec hstatus _ => ?_
  have hcreated : ∀ o : StackitMachine, o.spec = sm.spec → o.status = sm.status →
      wp (ensureServer sdkClient (readyContext m) o "data") (fun r t => ∃ a, r = .ok a ∧
        taggedIDs (m.tags sm.spec.additionalLabels) t.cloud = [a.id]) q.cloud := by
    intro o hspec hstatus
    rw [hcloud, ← hspec]
    rw [← hspec] at hnone
    rw [← hstatus] at hgone hprov
    exact wp_ensureServer_creates (by rfl) hnone hgone hprov (hnetwork o)
  refine wp_reconcileInstance (hcreated _ hspec hstatus) ?_ ?_ ?_
  · rintro server t ⟨a, ha, htagged⟩
    cases ha
    refine ((sameServers_reconcileServer _ server).wp _).imp fun r' q hq hsame => ?_
    have hsame' : SameServers c t.cloud := hq.symm.trans hsame
    rw [hsame'.taggedIDs_eq, hnone] at htagged
    cases htagged
  · rintro err t ⟨_, hr, -⟩
    cases hr
  · rintro err t ⟨_, hr, -⟩
    cases hr

/-- If the deletion would not take `id` for the server, one without failures drops the finalizer. -/
theorem not_deleted {m : MachineIdentity} (hne : id ≠ "")
    (hunknown : ¬ DeletionKnows (m.tags sm.spec.additionalLabels) sm id c) :
    let p : Pass StackitMachine Session := { obj := sm, stored := sm, cloud := { cloud := c } }
    let q := (reconcileDelete .connected (readyContext m)).after p
    containsFinalizer q.obj.metadata machineFinalizer = false ∧
    ¬ ∃ x ∈ q.cloud.log.drop p.cloud.log.length, x.Deletes id := by
  intro p q
  obtain ⟨hother, htagged⟩ : sm.status.instanceID ≠ id ∧ (sm.status.instanceID = "" →
      taggedIDs (m.tags sm.spec.additionalLabels) c ≠ [id] ∧
      (taggedIDs (m.tags sm.spec.additionalLabels) c).length ≤ 1) := by
    simpa [DeletionKnows, not_or, Nat.not_lt] using hunknown
  have hdone : wp (reconcileDelete .connected (readyContext m)) (fun _ q =>
      containsFinalizer q.obj.metadata machineFinalizer = false ∧
        Logs (fun x => x.request ≠ .deleteServer id) p.cloud q.cloud) p :=
    wp_reconcileDelete_provided rfl (wp_deleteInstance_other (by rfl) hother htagged hne)
  obtain ⟨hfin, new, hnew, hlog⟩ := hdone
  refine ⟨hfin, ?_⟩
  rintro ⟨x, hx, hdeletes⟩
  change x ∈ ((reconcileDelete .connected (readyContext m)) p).2.cloud.log.drop p.cloud.log.length
    at hx
  rw [hnew, List.drop_left] at hx
  exact hlog x hx hdeletes.1

/-- **The provider ID does not identify the server.** Of a machine whose `spec.providerID` names the
existing server `id`, passes and deletions look after that server exactly if it is known otherwise:
to `reconcileNormal` by `provisioned`, the recorded ID or the tags, to `reconcileDelete`, as long as
it has the finalizer, by the recorded ID or, if there is none, by the tags. -/
theorem authoritative_iff {m : MachineIdentity} {sm : StackitMachine} {id : String} {c : Cloud}
    (_hspec : sm.spec.providerID = some (newProviderID id)) (hne : id ≠ "")
    (_hpresent : Present .server id c) :
    Authoritative m sm id c ↔ ServerKnown (m.tags sm.spec.additionalLabels) sm c ∧
      (containsFinalizer sm.metadata machineFinalizer = true →
        DeletionKnows (m.tags sm.spec.additionalLabels) sm id c) := by
  constructor
  · intro h
    refine ⟨by_contra fun hunknown => ?_, fun hfin => by_contra fun hunknown => ?_⟩
    · exact not_sameServers hunknown
        (h.normal .connected (readyContext m) _ ⟨rfl, rfl, rfl, rfl⟩ (.connected _) rfl rfl)
    · obtain ⟨hdropped, hnot⟩ := not_deleted hne hunknown
      exact hnot (h.delete hfin .connected (readyContext m) _ ⟨rfl, rfl, rfl, rfl⟩ (.connected _)
        rfl rfl hdropped)
  · rintro ⟨hknown, hdeletes⟩
    refine ⟨fun src ctx p howns hsrc hobj hcloud => ?_,
      fun hfin src ctx p howns hsrc hobj hcloud hdropped => ?_⟩
    · have hpass := wp_reconcileNormal_servers (p := p) hsrc.sdk
      rw [howns.tags, hobj, hcloud] at hpass
      rcases hpass with hsame | ⟨⟨hprov, hgone, hnone⟩, -⟩
      · exact hsame
      · rcases hknown with h | ⟨hset, hthere⟩ | h
        · rw [hprov] at h
          cases h
        · exact absurd hthere (hgone hset)
        · exact absurd hnone h
    · rcases wp_reconcileDelete_log (p := p) hsrc with hkept | ⟨id', hid', hlog⟩
      · change containsFinalizer (reconcileDelete src ctx p).2.obj.metadata machineFinalizer = false
          at hdropped
        rw [hkept, hobj, hfin] at hdropped
        cases hdropped
      · rw [hobj, hcloud] at hid'
        rw [← howns.tags] at hdeletes
        obtain rfl := hid'.eq (hdeletes hfin) hne
        obtain ⟨new, hnew, x, hx, hdel⟩ := hlog hne
        refine ⟨x, ?_, hdel⟩
        change x ∈ (reconcileDelete src ctx p).2.cloud.log.drop p.cloud.log.length
        rw [hnew, List.drop_left]
        exact hx

/-- A machine whose spec names the server `i`, and the cloud in which that server was made for the
Machine with the given UID. -/
def sampleOwner (status : StackitMachineStatus) : StackitMachine where
  metadata := { name := "m", namespace' := "ns", finalizers := [machineFinalizer] }
  spec := { providerID := some (newProviderID "i") }
  status := status

def sampleCloud (uid : String) : Cloud where
  ids := .unary
  issued := 1
  servers := [{ id := "i", name := "m", labels := machineTags "c" "ns" "m" uid ∅ }]

/-- With the recorded ID the server is safe, also under a new Machine. -/
theorem authoritative_recorded :
    Authoritative ⟨"c", "ns", "m", "new"⟩ (sampleOwner { instanceID := "i", provisioned := true })
      "i" (sampleCloud "old") :=
  (authoritative_iff rfl (by decide) ⟨_, List.mem_singleton.2 rfl⟩).2 ⟨.inl rfl, fun _ => .inl rfl⟩

/-- The object was re-created from its spec under a Machine with a new UID: a pass makes a second
server, and a deletion drops the finalizer while the server of the provider ID exists. -/
theorem providerID_ignored :
    let p : Pass StackitMachine Session :=
      { obj := sampleOwner {}, stored := sampleOwner {}, cloud := { cloud := sampleCloud "old" } }
    let ctx := readyContext ⟨"c", "ns", "m", "new"⟩
    let created := (reconcileNormal .connected ctx).after p
    let deleted := (reconcileDelete .connected ctx).after p
    created.cloud.cloud.servers.map (·.id) = ["i", "ii"] ∧
      containsFinalizer deleted.obj.metadata machineFinalizer = false ∧
      deleted.cloud.cloud.servers.map (·.id) = ["i"] := by
  intro p ctx created deleted
  refine ⟨by decide +kernel, by decide +kernel, by decide +kernel⟩

end MachineReconciler

end Capstk
