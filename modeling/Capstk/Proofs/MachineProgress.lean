import Capstk.Proofs.MachineFixpoint
import Capstk.Proofs.ProviderID
import Capstk.Proofs.NodeSSHRace

/-!
# A machine gets its server and gets ready

Failed requests and lost patches delay a machine, they never strand it. A server that the object
says was provisioned exists (`ServerBacked`), as long as nobody deletes it behind the controller's
back, so that the pass never gives up on it; and a pass in which every request is answered and every
patch applied goes all the way: to a recorded server, and to `Ready` once that server runs. Deleting
the machine takes one such pass.
-/

namespace Capstk

open Prog SDKClient

variable {T L : StringMap} {s : Session} {c c' : Cloud} {id : String} {o o' : StackitMachine}

/-! ### Calls without failures -/

namespace SDKClient

theorem wp_getServer_answered (hs : Answered s) : wp (getServer id) FoundOrNone s := by
  unfold getServer
  rw [wp_bind]
  refine wp_answered hs fun t ht _ => ?_
  rw [perform, Cloud.getServer]
  cases s.cloud.servers.find? (·.id == id) with
  | none => exact ⟨ht, fun e he => by cases he; rfl⟩
  | some x =>
    have hserver : wp (serverFromSDK x) FoundOrNone t :=
      (wp_serverFromSDK_answered x ht).imp fun r u hr => by
      obtain ⟨hu, a, rfl, -⟩ := hr
      exact ⟨hu, fun e he => by cases he⟩
    exact hserver

theorem wp_ensureNodeSSHSecurityGroupRule_answered {nodeID bastionID : String} (hs : Answered s)
    (hnode : nodeID ≠ "") (hbastion : bastionID ≠ "")
    (hgroup : Present .securityGroup nodeID s.cloud) :
    wp (ensureNodeSSHSecurityGroupRule nodeID bastionID) (Succeeds fun _ _ => True) s := by
  refine wp_ite (fun h0 => absurd h0 (not_or.2 ⟨hnode, hbastion⟩)) fun _ => ?_
  obtain ⟨g, hg⟩ := find_of_present hgroup
  rw [wp_bind]
  refine (repeats_listRules hg).wp hs rfl fun t ht => ?_
  rw [next_ok]
  refine wp_ite (fun _ => wp_succeeds_pure ht.answered trivial) fun _ => ?_
  refine (wp_createRule_answered ht.answered (ht.cloud ▸ hgroup)).imp ?_
  rintro r u ⟨hu, a, rfl, -⟩
  exact ⟨hu, a, rfl, trivial⟩

theorem wp_ensureNodeSSHAccess_answered {input : NodeSSHAccessInput} (hs : Answered s)
    (hname : input.name ≠ "") (hserver : input.serverID ≠ "")
    (hbastion : input.bastionSecurityGroupID ≠ "") (hT : input.tags.entries.isEmpty = false)
    (hone : (tagged .securityGroup input.tags s.cloud).length ≤ 1)
    (hnamed : "" ∉ tagged .securityGroup input.tags s.cloud) :
    wp (ensureNodeSSHAccess input) (Succeeds fun _ _ => True) s := by
  unfold ensureNodeSSHAccess
  rw [if_neg (by simp [hname, hserver, hbastion]), if_neg (by simp [hT])]
  refine wp_succeeds_bind (P := fun g t => g.id ≠ "" ∧ Present .securityGroup g.id t.cloud)
    (wp_succeeds_and (wp_ensureSecurityGroup_answered _ _ hs hT hone)
      (wp_ensureSecurityGroup _ _ _ s) fun g t h => ?_)
    fun g t ht hg => ?_
  · have htagged := h.2 g rfl
    exact ⟨fun h0 => h.1.named hnamed (by rw [htagged, h0]; exact List.mem_singleton.2 rfl),
      present_of_tagged htagged⟩
  · refine wp_succeeds_bind (wp_ensureNodeSSHSecurityGroupRule_answered ht hg.1 hbastion hg.2)
      fun _ u hu _ => ?_
    exact wp_succeeds_bind (wp_addSecurityGroupToServer_answered hu) fun _ v hv _ =>
      wp_succeeds_pure hv trivial

end SDKClient

/-- If there is a bastion, its group is recorded, and there is at most one group for the nodes. -/
def NodeAccessPossible (sc : StackitCluster) (c : Cloud) : Prop :=
  sc.spec.bastion.enabled = true → sc.status.bastion.securityGroupID ≠ "" ∧
    (tagged .securityGroup (nodeSSHAccessTags sc) c).length ≤ 1 ∧
    "" ∉ tagged .securityGroup (nodeSSHAccessTags sc) c

theorem NodeAccessPossible.congr {sc : StackitCluster} (h : NodeAccessPossible sc c)
    (hc : labelled .securityGroup c' = labelled .securityGroup c) : NodeAccessPossible sc c' := by
  rw [NodeAccessPossible, tagged, hc]
  exact h

/-! ### A record that is good -/

/-- A server that the object says was provisioned exists, and it is `id` if one is known already. -/
structure ServerBacked (id : String) (c : Cloud) (o : StackitMachine) : Prop where
  present : o.status.provisioned = true → o.status.instanceID ≠ "" ∧
    Present .server o.status.instanceID c
  same : id ≠ "" → o.status.instanceID = id

/-- No server is lost. -/
def KeepsServers (c c' : Cloud) : Prop := ∀ id, Present .server id c → Present .server id c'

theorem KeepsServers.of_same (h : SameServers c c') : KeepsServers c c' := fun _ hid => hid.same h

theorem status_deliver (d : PatchOutcome) (o o' : StackitMachine) :
    (Pass.deliver d o o').status = if d.status.lands then o.status else o'.status := by
  unfold Pass.deliver
  split <;> split <;> rfl

theorem alive_deliver (d : PatchOutcome) (o o' : StackitMachine) :
    (Pass.deliver d o o').metadata.deleting = o'.metadata.deleting := by
  unfold Pass.deliver
  split <;> split <;> rfl

namespace ServerBacked

theorem congr (h : ServerBacked id c o) (hi : o'.status.instanceID = o.status.instanceID)
    (hp : o'.status.provisioned = o.status.provisioned) : ServerBacked id c o' := by
  refine ⟨fun hprov => ?_, fun hne => hi.trans (h.same hne)⟩
  rw [hi]
  exact h.present (hp.symm.trans hprov)

theorem keeps (h : ServerBacked id c o) (hc : KeepsServers c c') : ServerBacked id c' o :=
  ⟨fun hprov => ⟨(h.present hprov).1, hc _ (h.present hprov).2⟩, h.same⟩

theorem deliver (h : ServerBacked id c o) (h' : ServerBacked id c o') (d : PatchOutcome) :
    ServerBacked id c (Pass.deliver d o o') := by
  have hstatus := status_deliver d o o'
  split at hstatus
  · exact h.congr (by rw [hstatus]) (by rw [hstatus])
  · exact h'.congr (by rw [hstatus]) (by rw [hstatus])

end ServerBacked

/-- What holds during a pass over a machine that is not being deleted. -/
structure Backs (id : String) (p : Pass StackitMachine Session) : Prop where
  obj : ServerBacked id p.cloud.cloud p.obj
  stored : ServerBacked id p.cloud.cloud p.stored
  alive : p.stored.metadata.deleting = false

section
variable {p : Pass StackitMachine Session}

theorem Backs.setObj (h : Backs id p) {f : StackitMachine → StackitMachine} (hf : Neutral f) :
    Backs id { p with obj := f p.obj } :=
  ⟨h.obj.congr (hf.instanceID _) (hf.provisioned _), h.stored, h.alive⟩

theorem Backs.keeps (h : Backs id p) {t : Session} (hc : KeepsServers p.cloud.cloud t.cloud) :
    Backs id { p with cloud := t } :=
  ⟨h.obj.keeps hc, h.stored.keeps hc, h.alive⟩

theorem Backs.patched (h : Backs id p) (d : PatchOutcome) (patches : List PatchOutcome) :
    Backs id { p with stored := Pass.deliver d p.obj p.stored, patches } :=
  ⟨h.obj, h.obj.deliver h.stored d, (alive_deliver d p.obj p.stored).trans h.alive⟩

end

namespace MachineReconciler
variable {src : ClientSource Session} {ctx : MachineContext} {p : Pass StackitMachine Session}
  {data : String}

theorem backs_patchFinalizer (h : Backs id p) : Backs id (patchFinalizer p) :=
  Backs.patched (p := { p with obj := withFinalizer p.obj })
    ⟨h.obj.congr rfl rfl, h.stored, h.alive⟩ _ _

/-- Whatever its requests come to, `ensureServer` answers with a server that exists, and with the
one that is known already. -/
theorem wp_ensureServer_backed (hnamed : "" ∉ taggedIDs (ctx.tags o) s.cloud)
    (hrecorded : o.status.instanceID ≠ "" → o.status.provisioned = true ∧
      ∀ x ∈ taggedIDs (ctx.tags o) s.cloud, x = o.status.instanceID) (hb :
      ServerBacked id s.cloud o) :
    wp (ensureServer sdkClient ctx o data) (fun r t => KeepsServers s.cloud t.cloud ∧
      ∀ a, r = .ok a → a.id ≠ "" ∧ Present .server a.id t.cloud ∧ (id ≠ "" → a.id = id)) s := by
  refine (wp_ensureServer ctx o data s).imp fun r t ⟨hcloud, hok⟩ => ?_
  have hmem : ∀ {x : String}, taggedIDs (ctx.tags o) t.cloud = [x] →
      x ∈ taggedIDs (ctx.tags o) t.cloud := fun h => by
    rw [h]
    exact List.mem_singleton.2 rfl
  refine ⟨?_, fun a ha => ?_⟩
  · rcases hcloud with hsame | ⟨-, -, -, hensured⟩
    · rw [hsame]
      exact fun _ h => h
    · rcases hensured.this with hsame | ⟨-, new, -, hadded⟩
      · exact .of_same hsame
      · rintro x ⟨labels, hx⟩
        exact ⟨labels, by rw [hadded]; exact List.mem_append_left _ hx⟩
  · rcases hok a ha with hone | ⟨heq, hne, hsame⟩
    · refine ⟨fun h0 => ?_, present_of_tagged hone, fun hid => ?_⟩
      · rw [h0] at hone
        rcases hcloud with hsame | ⟨-, -, -, hensured⟩
        · exact hnamed (hsame ▸ hmem hone)
        · exact hensured.named hnamed (hmem hone)
      · have hinstance := hb.same hid
        obtain ⟨hprov, honly⟩ := hrecorded (hinstance ▸ hid)
        rcases hcloud with hsame | ⟨hnew, -⟩
        · exact (honly a.id (hsame ▸ hmem hone)).trans hinstance
        · rw [hprov] at hnew
          cases hnew
    · rw [heq] at hne ⊢
      refine ⟨hne, ?_, hb.same⟩
      rw [hsame]
      exact (hb.present (hrecorded hne).1).2

theorem backs_reconcileServer {server : Server} (h : Backs id p) (hne : server.id ≠ "")
    (hpresent : Present .server server.id p.cloud.cloud) (hid : id ≠ "" → server.id = id) :
    wp (reconcileServer sdkClient ctx server) (fun _ q => Backs id q) p := by
  have h' : Backs id { p with obj := recorded server p.obj } :=
    ⟨⟨fun _ => ⟨hne, hpresent⟩, hid⟩, h.stored, h.alive⟩
  have hkept : ∀ t : Session, SameServers p.cloud.cloud t.cloud →
      Backs id { p with obj := recorded server p.obj, cloud := t } :=
    fun t ht => h'.keeps (.of_same ht)
  exact wp_reconcileServer (fun _ => h'.setObj (Neutral.setNotReady _ _ _))
    (fun _ => (sameServers_nodeSSHAccess ctx server).wp _)
    (fun t ht => (hkept t ht).setObj Neutral.setReady)
    fun _ t ht _ => (hkept t ht).setObj (Neutral.cloudFailed _ _ _)

theorem backs_reconcileInstance (hT : ∀ sm, sm.spec.additionalLabels = L → ctx.tags sm = T)
    (h : Safe T L p) (hb : Backs id p) :
    wp (reconcileInstance sdkClient ctx data) (fun _ q => Backs id q) p := by
  have hset := Neutral.setConditions .true "Available" "" [machineCredentialsReadyCondition]
  have h' : Safe T L { p with obj := withCredentials p.obj } := h.setObj hset
  have hb' : Backs id { p with obj := withCredentials p.obj } := hb.setObj hset
  have htags := hT _ h'.obj.labels
  refine wp_reconcileInstance (wp_ensureServer_backed (by rw [htags]; exact h'.named)
    (by rw [htags]; exact h'.obj.recorded) hb'.obj) (fun server t ⟨hkeeps, hok⟩ => ?_)
    (fun _ _ ⟨hkeeps, _⟩ _ => (hb'.keeps hkeeps).setObj (Neutral.setNotReady _ _ _))
    fun _ _ ⟨hkeeps, _⟩ _ _ => (hb'.keeps hkeeps).setObj (Neutral.cloudFailed _ _ _)
  obtain ⟨hne, hpresent, hid⟩ := hok server rfl
  exact backs_reconcileServer (hb'.keeps hkeeps) hne hpresent hid

theorem backs_reconcileNormal (hT : ∀ sm, sm.spec.additionalLabels = L → ctx.tags sm = T)
    (hsrc : SourceOk src ctx.stackitCluster) (h : Started T L p) (hb : Backs id p) :
    wp (reconcileNormal src ctx) (fun _ q => Backs id q) p := by
  refine wp_reconcileNormal_of_persist
    ((ready_persistFinalizer h).and
      (wp_persistFinalizer (Q := fun _ q => Backs id q) (fun _ => hb)
        fun _ _ _ => backs_patchFinalizer hb))
    (fun _ _ hq => hq.2) fun q ⟨⟨hsafe, _⟩, hq⟩ => ?_
  have hset := Neutral.setConditions .true "Available" "" [machineBootstrapReadyCondition]
  have hwrite : ∀ {q : Pass StackitMachine Session} status reason message types, Backs id q →
      Backs id { q with obj := q.obj.setConditions status reason message types } :=
    fun status reason message types hq =>
      hq.setObj (Neutral.setConditions status reason message types)
  refine ⟨fun _ => hq.setObj (Neutral.setNotReady _ _ _),
    fun _ _ _ => hq.setObj (Neutral.setNotReady _ _ _), fun _ _ => ?_⟩
  refine wp_reconcileBootstrap
    (fun _ _ _ => hwrite _ _ _ _ (hwrite _ _ _ _ hq))
    (fun _ _ _ _ _ => hwrite _ _ _ _ (hq.setObj hset))
    fun _ client _ hclient => ?_
  rw [hsrc.client hclient]
  exact backs_reconcileInstance hT (hsafe.setObj hset) (hq.setObj hset)

/-- A whole pass over a machine that is not being deleted, whatever fails in it. -/
theorem backs_reconcile {answers : Answers Session} (hctx : ContextOk T L answers) (h : Safe T L p)
    (hb : Backs id p) :
    wp (reconcile answers) (fun _ q => Backs id q) p := by
  refine wp_reconcile (fun _ _ => hb) fun ctx hscope => Pass.wp_withDeferredPatch ?_
  obtain ⟨hT, hsrc⟩ := hctx ctx hscope.owners
  have hstarted : Started T L { p with obj := withPaused ctx p.stored } :=
    ⟨⟨h.single, h.named, h.stored.congr rfl rfl rfl rfl, h.stored⟩, rfl, rfl⟩
  have hb₀ : Backs id { p with obj := withPaused ctx p.stored } :=
    ⟨hb.stored.congr rfl rfl, hb.stored, hb.alive⟩
  refine wp_reconcileScope (fun _ d _ _ _ => hb₀.patched d _) (fun _ hdel => ?_) fun _ _ => ?_
  · cases hdel.symm.trans hb.alive
  · exact (backs_reconcileNormal hT hsrc hstarted hb₀).imp fun _ q hq d _ _ _ => hq.patched d _

/-! ### A pass without failures -/

theorem wp_reconcile_applied {answers : Answers Session}
    {Q : Except GoError Result → Pass StackitMachine Session → Prop}
    (hgone : ObjectMeta.gone p.stored.metadata = false) (hget : answers.getStackitMachine = none)
    (hlookup : lookupContext answers = .ok (some ctx))
    (h : wp (reconcileScope answers.source ctx) (fun r q => q.patches = [] ∧
      Q r { q with stored := Pass.deliver {} q.obj q.stored, patches := [] }) { p with obj :=
  p.stored }) :
    wp (reconcile answers) Q p := by
  refine wp_reconcile (fun hno _ => absurd ⟨hgone, hget, hlookup⟩ (hno ctx)) fun ctx' hscope => ?_
  cases hscope.owners.symm.trans hlookup
  refine Pass.wp_withDeferredPatch (h.imp fun r q ⟨hpatches, hq⟩ d r' hd hr' => ?_)
  rw [hpatches] at hd ⊢
  subst hd
  rcases hr' with ⟨rfl, -⟩ | ⟨-, hfailed⟩
  · exact hq
  · cases hfailed

/-- The state of a server that makes its machine ready. -/
def Running (server : Server) : Prop :=
  (serverStateCondition server.state server.powerStatus).ready = true

/-- The object names the server. -/
structure NamesServer (server : Server) (o : StackitMachine) : Prop where
  instanceID : o.status.instanceID = server.id
  providerID : o.spec.providerID = some (newProviderID server.id)

/-- What a pass over a machine comes to that gets a server `server`. -/
structure Got (server : Server) (r : Except GoError Result) (q : Pass StackitMachine Session) :
    Prop where
  names : NamesServer server q.obj
  patches : q.patches = []
  ready : Running server → r = .ok {} ∧ q.obj.status.ready = true ∧
    isStatusConditionTrue q.obj.conditions machineReadyCondition = true

theorem wp_reconcileServer_answered {server : Server} (hpatches : p.patches = [])
    (haccess : wp (reconcileBastionNodeSSHAccess sdkClient ctx server) (Succeeds fun _ _ => True)
      p.cloud) :
    wp (reconcileServer sdkClient ctx server)
      (fun r q => Got server r q ∧ SameServers p.cloud.cloud q.cloud.cloud) p := by
  refine wp_reconcileServer
    (fun hdown => ⟨⟨⟨rfl, rfl⟩, hpatches, fun hruns => by cases hdown.symm.trans hruns⟩, rfl⟩)
    (fun _ => haccess.and ((sameServers_nodeSSHAccess ctx server).wp _))
    (fun u hu => ⟨⟨⟨rfl, rfl⟩, hpatches, fun _ => ⟨rfl, rfl, ?_⟩⟩, hu.2⟩) ?_
  · exact (StackitMachine.ReadyAgrees.setReady (o := recorded server p.obj)).symm
  · rintro err u ⟨⟨-, _, hr, -⟩, -⟩
    cases hr

/-- A pass that is given everything gets to the server that `ensureServer` answers with. -/
theorem wp_reconcileNormal_answered {P : Server → Session → Prop} (hpatches : p.patches = [])
    (hcluster : ctx.stackitCluster.status.ready = true)
    (hzone : validateMachineAvailabilityZone ctx p.obj = none)
    (hdata : fetchBootstrapData src ctx.machine = .ok data)
    (hclient : buildCloudClient src ctx.stackitCluster = .ok sdkClient)
    (hensure : ∀ sm : StackitMachine, sm.spec = p.obj.spec → sm.status = p.obj.status →
      wp (ensureServer sdkClient ctx sm data) (Succeeds P) p.cloud)
    (haccess : ∀ server t, Answered t → P server t →
      wp (reconcileBastionNodeSSHAccess sdkClient ctx server) (Succeeds fun _ _ => True) t) :
    wp (reconcileNormal src ctx)
      (fun r q => ∃ server t, P server t ∧ Got server r q ∧ SameServers t.cloud q.cloud.cloud) p :=
  by
  refine wp_reconcileNormal_provided (.inr (by rw [hpatches]; rfl)) hcluster hzone hdata hclient
    fun q hcloud hspec hstatus hpatches' => ?_
  refine wp_reconcileInstance (P := Succeeds P) ?_ ?_ ?_ ?_
  · rw [hcloud]
    exact hensure _ hspec hstatus
  · rintro server t ⟨ht, a, ha, hP⟩
    cases ha
    refine wp.imp (wp_reconcileServer_answered ?_ (haccess server t ht hP)) fun r' q' hq' => ?_
    · exact hpatches' hpatches
    · exact ⟨server, t, hP, hq'⟩
  · rintro err t ⟨-, _, hr, -⟩
    cases hr
  · rintro err t ⟨-, _, hr, -⟩
    cases hr

theorem wp_nodeSSHAccess_answered {server : Server} (hs : Answered s) (hne : server.id ≠ "")
    (h : NodeAccessPossible ctx.stackitCluster s.cloud) :
    wp (reconcileBastionNodeSSHAccess sdkClient ctx server) (Succeeds fun _ _ => True) s := by
  unfold reconcileBastionNodeSSHAccess
  refine wp_ite (fun _ => wp_succeeds_pure hs trivial) fun hon => ?_
  obtain ⟨hgroup, hone, hnamed⟩ := h (by simpa using hon)
  refine wp_ite (fun h0 => absurd h0 hgroup) fun _ => wp_ite (fun h0 => absurd h0 hne) fun _ => ?_
  have hname : ctx.stackitCluster.metadata.name ++ "-node-ssh" ≠ "" := by simp
  exact wp_succeeds_bind
    (wp_ensureNodeSSHAccess_answered hs hname hne hgroup
      (Stepwise.nodeSSHAccessTags_nonempty ctx.stackitCluster) hone hnamed)
    fun _ t ht _ => wp_succeeds_pure ht trivial

theorem wp_findServer_answered (hs : Answered s)
    (hone : (taggedIDs (ctx.tags o) s.cloud).length ≤ 1) :
    wp (findServer sdkClient ctx o) FoundOrNone s := by
  have hbyTags : ∀ t, Answered t → t.cloud = s.cloud →
      wp (findServerByTags (ctx.tags o)) FoundOrNone t := fun t ht hc =>
    wp_findServerByTags_answered ht (ctx.tags_nonempty o) (by rw [hc]; exact hone)
  unfold findServer
  refine wp_ite (fun _ => ?_) fun _ => hbyTags s hs rfl
  refine wp_existingOr_of ((wp_getServer_answered hs).and (wp_getServer o.status.instanceID s))
    (fun a t ⟨⟨ht, _⟩, _⟩ => ⟨ht, fun e he => by cases he⟩)
    (fun e t ⟨⟨ht, _⟩, hc, _⟩ _ => hbyTags t ht hc) ?_
  rintro e t ⟨⟨-, hr⟩, -⟩ hnf
  rw [hr e rfl] at hnf
  cases hnf

theorem wp_ensureServer_answered (hs : Answered s)
    (hone : (taggedIDs (ctx.tags o) s.cloud).length ≤ 1) (hb : ServerBacked id s.cloud o)
    (hnetwork : ctx.networkID o ≠ "") :
    wp (ensureServer sdkClient ctx o data) (Succeeds fun _ _ => True) s := by
  rw [ensureServer_eq]
  refine wp_existingOr_of ((wp_findServer_answered hs hone).and (wp_findServer ctx o s))
    (fun a t ⟨⟨ht, _⟩, _⟩ => ⟨ht, a, rfl, trivial⟩) ?_ ?_
  · rintro e t ⟨⟨ht, -⟩, hc, hr⟩ hnf
    obtain ⟨-, hgone⟩ := hr hnf
    refine wp_createMissingServer (fun hprov => ?_) (fun h0 => absurd h0 hnetwork) fun _ _ => ?_
    · obtain ⟨hne, hpresent⟩ := hb.present hprov
      exact absurd hpresent (hgone hne)
    · exact wp_createServer_answered ht (ctx.tags_nonempty o) (by rw [hc]; exact hone)
  · rintro e t ⟨⟨-, hr⟩, -⟩ hnf
    rw [hr e rfl] at hnf
    cases hnf

theorem wp_resolveServerForDeletion_answered (hs : Answered s)
    (hone : (taggedIDs (ctx.tags o) s.cloud).length ≤ 1) :
    wp (resolveServerForDeletion sdkClient ctx o)
      (Succeeds fun id _ => o.status.instanceID ≠ "" → id = o.status.instanceID) s := by
  refine wp_resolveServerForDeletion (fun _ => wp_succeeds_pure hs fun _ => rfl)
    (fun _ => wp_findServerByTags_answered hs (ctx.tags_nonempty o) hone)
    (fun h0 a t ht => ⟨ht.1, _, rfl, fun hne => absurd h0 hne⟩)
    (fun h0 e t ht _ => ⟨ht.1, _, rfl, fun hne => absurd h0 hne⟩) fun e t ht hnf => ?_
  rw [ht.2 e rfl] at hnf
  cases hnf

theorem wp_deleteServer_answered (hs : Answered s) :
    wp (tolerate isNotFound (deleteServer id))
      (Succeeds fun _ t => ¬ Present .server id t.cloud) s := by
  have hdone : wp (tolerate isNotFound (deleteServer id)) (Succeeds fun _ _ => True) s := by
    refine wp_succeeds_tolerate hs fun e he => ?_
    unfold Cloud.deleteServer at he
    split at he <;> cases he
    rfl
  have hremoved : wp (tolerate isNotFound (deleteServer id))
      (fun r t => r = .ok () → ∀ labels, (id, labels) ∉ labelled .server t.cloud) s :=
    wp_tolerate_of (wp_remove (removes_deleteServer id) s) (fun r t ⟨_, hgone⟩ hnf _ => hgone hnf)
      fun e t _ _ he => by cases he
  refine wp_succeeds_and hdone hremoved fun _ t hgone => ?_
  rintro ⟨labels, hx⟩
  exact hgone rfl labels hx

theorem wp_deleteInstance_answered (hs : Answered p.cloud)
    (hone : (taggedIDs (ctx.tags p.obj) p.cloud.cloud).length ≤ 1) :
    wp (deleteInstance sdkClient ctx)
      (fun r q => r = .ok () ∧ q.patches = p.patches ∧ q.stored = p.stored ∧
        q.obj.metadata = removeFinalizer p.obj.metadata machineFinalizer ∧
        (p.obj.status.instanceID ≠ "" → ¬ Present .server p.obj.status.instanceID q.cloud.cloud))
        p := by
  refine wp_deleteInstance (wp_orError (wp_resolveServerForDeletion_answered hs hone) ?_ ?_)
  · rintro id t ⟨ht, id', hr, hid⟩
    cases hr
    refine ⟨fun _ => ?_, fun h0 => ⟨rfl, rfl, rfl, rfl, fun hne => ?_⟩⟩
    · refine wp_orError (wp_deleteServer_answered ht) ?_ ?_
      · rintro _ u ⟨-, _, -, hgone⟩
        exact ⟨rfl, rfl, rfl, rfl, fun hne => hid hne ▸ hgone⟩
      · rintro err u ⟨-, _, hr, -⟩
        cases hr
    · exact absurd ((hid hne).symm.trans h0) hne
  · rintro err t ⟨-, _, hr, -⟩
    cases hr

theorem wp_ensureServer_shown (hs : Answered s) :
    wp (ensureServer sdkClient ctx o data)
      (fun r _ => ∀ a, Shown a s.cloud → a.id ≠ "" → o.status.instanceID = a.id → r = .ok a) s := by
  intro a ha hne hid
  have hfound : Repeats s.cloud (ensureServer sdkClient ctx o data) a := by
    unfold ensureServer
    rw [hid, if_pos hne]
    exact ha.repeats_getServer.existingOr
  exact (hfound s hs rfl).1

end MachineReconciler

/-! ### Runs -/

namespace MachineWorld
variable {m : MachineIdentity} {w : MachineWorld} {answers : MachineReconciler.Answers Session}
  {ctx : MachineContext}
  {orders : List MapOrder}

open MachineReconciler in
/-- A pass gets to work: it finds the objects and the credentials, and nothing is paused. -/
structure Attended (m : MachineIdentity) (w : MachineWorld)
    (answers : MachineReconciler.Answers Session) (ctx : MachineContext) :
    Prop where
  object : answers.getStackitMachine = none
  context : lookupContext answers = .ok (some ctx)
  owns : m.Owns ctx
  unpaused : reconciliationPaused (some ctx.cluster) w.stored.metadata = none
  source : SourceOk answers.source ctx.stackitCluster
  client : buildCloudClient answers.source ctx.stackitCluster = .ok sdkClient

open MachineReconciler in
/-- It is given all it needs for a server as well: a cluster that is ready, the bootstrap data, a
network. -/
structure Provided (m : MachineIdentity) (w : MachineWorld)
    (answers : MachineReconciler.Answers Session) (ctx : MachineContext) :
    Prop extends Attended m w answers ctx where
  cluster : ctx.stackitCluster.status.ready = true
  zone : validateMachineAvailabilityZone ctx w.stored = none
  bootstrap : ∃ data, fetchBootstrapData answers.source ctx.machine = .ok data
  network : ctx.networkID w.stored ≠ ""
  access : NodeAccessPossible ctx.stackitCluster w.cloud

/-- Nobody deletes the machine or a server. -/
def Undisturbed (w : MachineWorld) : MachineAction → Prop
  | .requestDeletion | .serverDeleted _ => False
  | .cloudEvolves change => KeepsServers w.cloud (change w.cloud)
  | .reconcile .. | .editSpec _ => True

/-- The machine is not being deleted, and what it says of its server is true. -/
structure Alive (m : MachineIdentity) (L : StringMap) (id : String) (w : MachineWorld) :
    Prop extends
    Consistent (m.tags L) L w where
  alive : w.stored.metadata.deleting = false
  backed : ServerBacked id w.cloud w.stored

theorem contextOk_of_admissible {patches : List PatchOutcome} {outcomes : List Outcome}
    (ha : Admissible m w (.reconcile answers patches outcomes orders)) :
    MachineReconciler.ContextOk (m.tags L) L answers := by
  intro ctx hlookup
  obtain ⟨howns, hsrc⟩ := ha ctx hlookup
  exact ⟨fun sm hsm => by rw [howns.tags, hsm], hsrc⟩

theorem Alive.step (h : Alive m L id w) {a : MachineAction}
    (ha : Admissible m w a ∧ Undisturbed w a) : Alive m L id (w.step a) := by
  suffices hkept : (w.step a).stored.metadata.deleting = false ∧
    ServerBacked id (w.step a).cloud (w.step a).stored from
    ⟨h.toConsistent.step ha.1, hkept.1, hkept.2⟩
  cases a with
  | reconcile answers patches outcomes orders =>
    have hpass :=
      MachineReconciler.backs_reconcile (p := w.begin patches outcomes orders)
      (contextOk_of_admissible ha.1)
      (h.toConsistent.begin patches outcomes orders) ⟨h.backed, h.backed, h.alive⟩
    exact ⟨hpass.alive, hpass.stored⟩
  | requestDeletion => exact ha.2.elim
  | serverDeleted id => exact ha.2.elim
  | editSpec edit => exact ⟨h.alive, h.backed.congr rfl rfl⟩
  | cloudEvolves change => exact ⟨h.alive, h.backed.keeps ha.2⟩

theorem Attended.admissible (h : Attended m w answers ctx) :
    Admissible m w (.reconcile answers [] [] orders) := by
  intro ctx' hlookup
  rw [h.context] at hlookup
  cases hlookup
  exact ⟨h.owns, h.source⟩

/-- What `ensureServer` comes to when all requests are answered. -/
structure Obtained (w : MachineWorld) (server : Server) (t : Session) : Prop where
  named : server.id ≠ ""
  present : Present .server server.id t.cloud
  groups : labelled .securityGroup t.cloud = labelled .securityGroup w.cloud
  shown : ∀ a, Shown a w.cloud → a.id ≠ "" → w.stored.status.instanceID = a.id → server = a

open MachineReconciler in
theorem Alive.ensureServer (h : Alive m L id w) (hp : Provided m w answers ctx)
    {sm : StackitMachine} (data : String) (hspec : sm.spec = w.stored.spec)
    (hstatus : sm.status = w.stored.status) :
    wp (ensureServer sdkClient ctx sm data) (Succeeds (Obtained w))
      (w.begin [] [] orders).cloud := by
  have hs : Answered (w.begin [] [] orders).cloud := rfl
  have htags : ctx.tags sm = m.tags L := by rw [hp.owns.tags, hspec, h.stored.labels]
  have hone : (taggedIDs (ctx.tags sm) w.cloud).length ≤ 1 := by
    rw [htags]
    exact h.single
  have hbacked : ServerBacked id w.cloud sm := h.backed.congr (by rw [hstatus]) (by rw [hstatus])
  have hnetwork : ctx.networkID sm ≠ "" := by
    rw [MachineContext.networkID, hspec]
    exact hp.network
  have hanswer : wp (MachineReconciler.ensureServer sdkClient ctx sm data) _
      (w.begin [] [] orders).cloud :=
    wp_ensureServer_backed (by rw [htags]; exact h.named)
      (by rw [htags, hstatus]; exact h.stored.recorded) hbacked
  refine wp_succeeds_and (wp_ensureServer_answered hs hone hbacked hnetwork)
    (hanswer.and ((wp_ensureServer ctx sm data _).and (wp_ensureServer_shown hs)))
    fun a t ⟨hserver, hcloud, hshown⟩ => ?_
  obtain ⟨hne, hpresent, -⟩ := hserver.2 a rfl
  refine ⟨hne, hpresent, ?_, fun b hb hbne hid => ?_⟩
  · rcases hcloud.1 with hsame | ⟨-, -, -, hensured⟩
    · rw [hsame]
      rfl
    · exact hensured.others .securityGroup (by decide)
  · have heq := hshown b hb hbne (by rw [hstatus]; exact hid)
    cases heq
    rfl

open MachineReconciler in
/-- One pass that is given all it needs: the machine has a server and names it, and is ready if the
server runs. -/
theorem Alive.pass (h : Alive m L id w) (orders : List MapOrder) (hp : Provided m w answers ctx) :
    wp (reconcile answers)
      (fun r q => ∃ server, server.id ≠ "" ∧ Present .server server.id q.cloud.cloud ∧
        (∀ a, Shown a w.cloud → a.id ≠ "" → w.stored.status.instanceID = a.id → server = a) ∧
        NamesServer server q.stored ∧
        (Running server → r = .ok {} ∧ q.stored.status.ready = true ∧
          isStatusConditionTrue q.stored.conditions machineReadyCondition = true))
          (w.begin [] [] orders) := by
  obtain ⟨data, hdata⟩ := hp.bootstrap
  have hgone : ObjectMeta.gone w.stored.metadata = false := by
    rw [ObjectMeta.gone, h.alive, Bool.false_and]
  have hpaused : reconciliationPaused (some ctx.cluster) (w.begin [] [] orders).stored.metadata =
      none := hp.unpaused
  have halive : (w.begin [] [] orders).stored.metadata.deleting = false := h.alive
  refine wp_reconcile_applied hgone hp.object hp.context ?_
  refine wp_reconcileScope (fun hbad => absurd hpaused hbad)
    (fun _ hdel => by cases halive.symm.trans hdel) fun _ _ => ?_
  refine (wp_reconcileNormal_answered (P := Obtained w) rfl hp.cluster hp.zone hdata hp.client
    (fun sm hspec hstatus => ?_)
    fun server t ht hP => ?_).imp ?_
  · exact h.ensureServer hp data hspec hstatus
  · exact wp_nodeSSHAccess_answered ht hP.named (hp.access.congr hP.groups)
  · rintro r q ⟨server, t, hP, hgot, hsame⟩
    exact ⟨hgot.patches, server, hP.named, hP.present.same hsame, hP.shown,
      ⟨hgot.names.instanceID, hgot.names.providerID⟩, hgot.ready⟩

/-- **Machines get ready.** Whatever became of the passes so far, and as long as nobody deletes the
machine or a server, one pass that is given all it needs leaves the machine with a server; from then
on, whatever else happens, the machine stays with this server, and the first such pass that finds it
running makes the machine ready. -/
theorem machines_get_ready {as : List MachineAction} (orders : List MapOrder)
    (h₀ : w.Unprovisioned m) (hnew : w.stored.status.provisioned = false)
    (halive : w.stored.metadata.deleting = false)
    (has : Runs.Meets step (fun w a => Admissible m w a ∧ Undisturbed w a) w as)
    (hp : Provided m (Runs.run step w as) answers ctx) :
    let w₁ := (Runs.run step w as).step (.reconcile answers [] [] orders)
    let id := w₁.stored.status.instanceID
    (id ≠ "" ∧ Present .server id w₁.cloud ∧ w₁.stored.spec.providerID = some (newProviderID id)) ∧
    ∀ bs, Runs.Meets step (fun w a => Admissible m w a ∧ Undisturbed w a) w₁ bs →
      let w₂ := Runs.run step w₁ bs
      w₂.stored.status.instanceID = id ∧
      ∀ server answers' ctx' orders', Shown server w₂.cloud → server.id = id →
      MachineReconciler.Running server →
        Provided m w₂ answers' ctx' →
        let w₃ := w₂.step (.reconcile answers' [] [] orders')
        w₃.stored.status.instanceID = id ∧ w₃.stored.status.ready = true ∧
        isStatusConditionTrue w₃.stored.conditions machineReadyCondition = true := by
  intro w₁ id
  have hstart : Alive m w.stored.spec.additionalLabels "" w := by
    refine ⟨h₀.consistent, halive, fun hprov => ?_, fun hne => absurd rfl hne⟩
    rw [hnew] at hprov
    cases hprov
  have hw : Alive m w.stored.spec.additionalLabels "" (Runs.run step w as) :=
    has.inv hstart fun _ _ h ha => h.step ha
  obtain ⟨a, hne, hpresent, -, hnames, -⟩ := hw.pass orders hp
  have hid : id = a.id := hnames.instanceID
  have hw₁ : Alive m w.stored.spec.additionalLabels id w₁ := by
    have hstep := hw.step (a := .reconcile answers [] [] orders) ⟨hp.admissible, trivial⟩
    exact ⟨hstep.toConsistent, hstep.alive, hstep.backed.present, fun _ => rfl⟩
  refine ⟨⟨hid ▸ hne, hid ▸ hpresent, hid ▸ hnames.providerID⟩, fun bs hbs => ?_⟩
  intro w₂
  have hw₂ : Alive m w.stored.spec.additionalLabels id w₂ := hbs.inv hw₁ fun _ _ h ha => h.step ha
  have hsame : w₂.stored.status.instanceID = id := hw₂.backed.same (hid ▸ hne)
  refine ⟨hsame, fun server answers' ctx' orders' hshown hserver hruns hp' => ?_⟩
  obtain ⟨b, -, -, hb, hnames', hready⟩ := hw₂.pass orders' hp'
  obtain rfl := hb server hshown (hserver ▸ hid ▸ hne) (hsame.trans hserver.symm)
  exact ⟨hnames'.instanceID.trans hserver, (hready hruns).2⟩

/-- What `sampleAnswers` come to. -/
def sampleContext : MachineContext where
  cluster :=
    { metadata := { name := "c", namespace' := "ns" }, infrastructureRef := { name := "c" } }
  machine :=
    { metadata := { name := "m", namespace' := "ns", uid := "u" }, dataSecretName := some "b" }
  stackitCluster :=
    { metadata := { name := "c", namespace' := "ns" }, spec := {},
      status := { ready := true, network := { id := "n" } } }

theorem sample_attended
    (h : reconciliationPaused (some sampleContext.cluster) w.stored.metadata = none) :
    Attended sampleIdentity w sampleAnswers sampleContext :=
  ⟨rfl, rfl, ⟨rfl, rfl, rfl, rfl⟩, h, .connected _, rfl⟩

theorem sample_provided
    (h : reconciliationPaused (some sampleContext.cluster) w.stored.metadata = none) :
    Provided sampleIdentity w sampleAnswers sampleContext := by
  refine ⟨sample_attended h, rfl, rfl, ⟨_, rfl⟩, ?_, fun hon => by cases hon⟩
  unfold MachineContext.networkID
  split
  · assumption
  · decide

/-- Every server comes up. -/
def startServers (c : Cloud) : Cloud :=
  { c with servers := c.servers.map fun x => { x with status := "ACTIVE" } }

theorem sameServers_startServers (c : Cloud) : SameServers c (startServers c) :=
  SameResources.of_servers (f := fun x => { x with status := "ACTIVE" })
    (fun _ => ⟨rfl, rfl⟩) .server

/-- The request that creates the server times out, and the patch of the status is lost. -/
def lostAnswer : MachineAction :=
  .reconcile sampleAnswers [{}, { status := .failed }] [.answered, .answered, .failedAfter .timeout]
    []

/-- What the next pass leaves. -/
def sampleFound : MachineWorld :=
  (Runs.run step sampleWorld [lostAnswer]).step (.reconcile sampleAnswers [] [] [])

/-- The server of the first pass is found and recorded by the second, and the machine is ready once
it is up. -/
theorem machines_get_ready_lostAnswer :
    (sampleFound.stored.status.instanceID = "i" ∧ sampleFound.stored.status.ready = false) ∧
    ((Runs.run step sampleFound [.cloudEvolves startServers]).step
      (.reconcile sampleAnswers [] [] [])).stored.status.ready = true := by
  have hcreate : Runs.Meets step (fun w a => Admissible sampleIdentity w a ∧ Undisturbed w a)
      sampleWorld [lostAnswer] :=
    ⟨⟨sampleAnswers_admissible _ _ _, trivial⟩, trivial⟩
  have hstart : ∀ v, Runs.Meets step (fun w a => Admissible sampleIdentity w a ∧ Undisturbed w a) v
      [.cloudEvolves startServers] :=
    fun v =>
      ⟨⟨by rw [Admissible, (sameServers_startServers v.cloud).taggedIDs_eq],
      .of_same (sameServers_startServers v.cloud)⟩, trivial⟩
  have hready :=
    (machines_get_ready [] ⟨rfl, rfl⟩ rfl rfl hcreate (sample_provided (by decide))).2 _ (hstart _)
  have hshown : Shown { id := "i", name := "m", state := "ACTIVE" }
      (Runs.run step sampleFound [.cloudEvolves startServers]).cloud :=
    Option.map_eq_some_iff.1 (by decide)
  refine ⟨⟨by decide, by decide⟩, ?_⟩
  exact (hready.2 _ sampleAnswers sampleContext [] hshown (by decide) rfl
    (sample_provided (by decide))).2.1

/-! ### Deletion -/

open MachineReconciler in
theorem Attended.deleting_pass (orders : List MapOrder) (h : Consistent (m.tags L) L w)
    (hp : Attended m w answers ctx) (hdel : w.stored.metadata.deleting = true)
    (hgone : ObjectMeta.gone w.stored.metadata = false) :
    wp (reconcile answers) (fun r q => r = .ok {} ∧
      q.stored.metadata = removeFinalizer w.stored.metadata machineFinalizer ∧
      (w.stored.status.instanceID ≠ "" → ¬ Present .server w.stored.status.instanceID
        q.cloud.cloud)) (w.begin [] [] orders) := by
  have hpaused : reconciliationPaused (some ctx.cluster) (w.begin [] [] orders).stored.metadata =
      none := hp.unpaused
  have hdel' : (w.begin [] [] orders).stored.metadata.deleting = true := hdel
  have hone : (taggedIDs (ctx.tags w.stored) w.cloud).length ≤ 1 := by
    rw [hp.owns.tags, h.stored.labels]
    exact h.single
  refine wp_reconcile_applied hgone hp.object hp.context ?_
  refine wp_reconcileScope (fun hbad => absurd hpaused hbad) (fun _ _ => ?_)
    fun _ halive => by cases halive.symm.trans hdel'
  refine wp_reconcileDelete_provided hp.client
    (wp.imp (wp_deleteInstance_answered (by rfl) hone) ?_)
  rintro r q ⟨rfl, hpatches, hstored, hmeta, hrecorded⟩
  refine ⟨hpatches, rfl, ?_, hrecorded⟩
  show { q.stored.metadata with finalizers := q.obj.metadata.finalizers } = _
  rw [hstored, hmeta]
  rfl

end MachineWorld

end Capstk
