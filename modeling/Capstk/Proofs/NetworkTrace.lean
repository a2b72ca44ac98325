import Capstk.Lib.Sha256
import Capstk.Webhook
import Capstk.Proofs.ClusterRun
import Capstk.Proofs.Webhook

/-!
# Which networks are deleted

A client that notes down which networks `CreateNetwork` returned and which `DeleteNetwork` was asked
for, together with the cloud at that moment; otherwise it is the SDK client. Run with it, the
controller only ever asks to delete a network that it was given before or that carries the cluster's
tags, and none at all if the spec names one.
-/

namespace Capstk

open Prog

inductive NetworkCall
  | created (id : String)
  | deleteRequested (id : String) (cloud : Cloud)

def NetworkCall.name : NetworkCall → String
  | .created id => "created " ++ id
  | .deleteRequested id _ => "deleted " ++ id

/-- A session and the calls about networks so far. -/
structure Traced where
  session : Session
  calls : List NetworkCall := []

namespace Traced
variable {α : Type}

/-- A call that is not noted down. -/
def lift (x : Call Session α) : Call Traced α :=
  zoom Traced.session (fun t s => { t with session := s }) x

def note (f : Traced → NetworkCall) : Call Traced Unit :=
  modify fun t => { t with calls := t.calls ++ [f t] }

def createNetwork (client : Client Session) (input : CreateNetworkInput) : Call Traced Network := do
  let network ← lift (client.createNetwork input)
  note fun _ => .created network.id
  pure network

def deleteNetwork (client : Client Session) (id : String) : Call Traced Unit := do
  note fun t => .deleteRequested id t.session.cloud
  lift (client.deleteNetwork id)

/-- The client that notes down what it does to networks. -/
def client (client : Client Session) : Client Traced where
  getNetwork id := lift (client.getNetwork id)
  findNetworkByTags tags := lift (client.findNetworkByTags tags)
  listNetworksByTags tags := lift (client.listNetworksByTags tags)
  createNetwork := createNetwork client
  deleteNetwork := deleteNetwork client
  getServer id := lift (client.getServer id)
  findServerByTags tags := lift (client.findServerByTags tags)
  listServersByTags tags := lift (client.listServersByTags tags)
  createServer input := lift (client.createServer input)
  deleteServer id := lift (client.deleteServer id)
  ensureBastion input := lift (client.ensureBastion input)
  deleteBastion input bastion := lift (client.deleteBastion input bastion)
  ensureNodeSSHAccess input := lift (client.ensureNodeSSHAccess input)
  deleteNodeSSHAccess tags := lift (client.deleteNodeSSHAccess tags)
  listPublicIPsByTags tags := lift (client.listPublicIPsByTags tags)
  listSecurityGroupsByTags tags := lift (client.listSecurityGroupsByTags tags)
  ensureAPIServerLoadBalancer input := lift (client.ensureAPIServerLoadBalancer input)
  listAPIServerLoadBalancersByTags tags := lift (client.listAPIServerLoadBalancersByTags tags)
  setAPIServerLoadBalancerTargets id port targets :=
    lift (client.setAPIServerLoadBalancerTargets id port targets)
  deleteAPIServerLoadBalancer id := lift (client.deleteAPIServerLoadBalancer id)
  listAvailabilityZones := lift client.listAvailabilityZones

end Traced

/-! ### Justified deletions -/

variable {m : ClusterIdentity} {calls calls' calls'' : List NetworkCall}

/-- What a pass over the cluster `m` may add to the calls: creations, and deletions of networks that
were created before or carry the cluster's tags, unless the spec names the network. -/
inductive Justified (m : ClusterIdentity) (calls : List NetworkCall) : List NetworkCall → Prop
  | refl : Justified m calls calls
  | created {calls' : List NetworkCall} (id : String) (h : Justified m calls calls') :
      Justified m calls (calls' ++ [.created id])
  | deleted {calls' : List NetworkCall} {id : String} {cloud : Cloud} (h : Justified m calls calls')
      (hid : m.networkID = "")
      (hmade : .created id ∈ calls' ∨ id ∈ tagged .network m.tags cloud) :
      Justified m calls (calls' ++ [.deleteRequested id cloud])

namespace Justified

theorem trans (h : Justified m calls calls') (h' : Justified m calls' calls'') :
    Justified m calls calls'' := by
  induction h' with
  | refl => exact h
  | created id _ ih => exact ih.created id
  | deleted _ hid hmade ih => exact ih.deleted hid hmade

theorem mem (h : Justified m calls calls') {x : NetworkCall} (hx : x ∈ calls) : x ∈ calls' := by
  induction h with
  | refl => exact hx
  | created id _ ih => exact List.mem_append_left _ ih
  | deleted _ _ _ ih => exact List.mem_append_left _ ih

theorem mem_delete (h : Justified m calls calls') (hid : m.networkID ≠ "") {id : String}
    {cloud : Cloud} (hx : .deleteRequested id cloud ∈ calls') :
    .deleteRequested id cloud ∈ calls := by
  induction h with
  | refl => exact hx
  | created id' _ ih =>
    rcases List.mem_append.1 hx with hx | hx
    · exact ih hx
    · cases List.mem_singleton.1 hx
  | deleted _ h0 _ _ => exact absurd h0 hid

theorem reason (h : Justified m calls calls') {before after : List NetworkCall} {id : String}
    {cloud : Cloud} (heq : calls' = before ++ .deleteRequested id cloud :: after)
    (hlen : calls.length ≤ before.length) :
    .created id ∈ before ∨ id ∈ tagged .network m.tags cloud := by
  induction h generalizing after with
  | refl =>
    rw [heq, List.length_append, List.length_cons] at hlen
    omega
  | @created mid id' h ih =>
    -- the last call is no deletion, so the deletion is among those before
    rcases List.eq_nil_or_concat after with rfl | ⟨after, y, rfl⟩
    · have hlast := List.append_inj_right' heq rfl
      injection hlast with hlast _
      cases hlast
    · rw [List.concat_eq_append, ← List.cons_append, ← List.append_assoc] at heq
      exact ih (List.append_inj_left' heq rfl)
  | @deleted mid id' cloud' h hid hmade ih =>
    rcases List.eq_nil_or_concat after with rfl | ⟨after, y, rfl⟩
    · have hlast := List.append_inj_right' heq rfl
      have hmid := List.append_inj_left' heq rfl
      injection hlast with hlast _
      injection hlast with hid' hcloud
      rw [← hmid, ← hid', ← hcloud]
      exact hmade
    · rw [List.concat_eq_append, ← List.cons_append, ← List.append_assoc] at heq
      exact ih (List.append_inj_left' heq rfl)

end Justified

/-! ### A pass -/

/-- The cluster is `m`, and a recorded network was created, unless the spec names it. -/
structure NetworkOk (m : ClusterIdentity) (calls : List NetworkCall) (o : StackitCluster) :
    Prop where
  identity : ClusterIdentity.of o = m
  created : m.networkID = "" → o.status.network.id ≠ "" → .created o.status.network.id ∈ calls

namespace NetworkOk
variable {o o' : StackitCluster}

theorem congr (h : NetworkOk m calls o) (hid : ClusterIdentity.of o' = ClusterIdentity.of o)
    (hn : o'.status.network = o.status.network) : NetworkOk m calls o' :=
  ⟨hid.trans h.identity, by rw [hn]; exact h.created⟩

theorem mono (h : NetworkOk m calls o) (hcalls : Justified m calls calls') : NetworkOk m calls' o :=
  ⟨h.identity, fun h0 hne => hcalls.mem (h.created h0 hne)⟩

/-- The status is delivered as a whole or not at all. -/
theorem deliver (h : NetworkOk m calls o) (h' : NetworkOk m calls o') (d : PatchOutcome) :
    NetworkOk m calls (Pass.deliver d o o') := by
  refine ⟨(ClusterIdentity.of_deliver (h.identity.trans h'.identity.symm)).trans h'.identity, ?_⟩
  unfold Pass.deliver
  split <;> split <;> first | exact h.created | exact h'.created

end NetworkOk

/-- The invariant of a pass. -/
structure NetworkInv (m : ClusterIdentity) (p : Pass StackitCluster Traced) : Prop where
  obj : NetworkOk m p.cloud.calls p.obj
  stored : NetworkOk m p.cloud.calls p.stored

/-- From the invariant on, the invariant is kept and every deletion is justified. -/
def NetworkStep (m : ClusterIdentity) (p q : Pass StackitCluster Traced) : Prop :=
  NetworkInv m p → NetworkInv m q ∧ Justified m p.cloud.calls q.cloud.calls

theorem NetworkStep.closed (m : ClusterIdentity) : Closed (NetworkStep m) where
  refl _ h := ⟨h, .refl⟩
  trans h h' hs := by
    obtain ⟨ht, hst⟩ := h hs
    obtain ⟨hu, htu⟩ := h' ht
    exact ⟨hu, hst.trans htu⟩

namespace ClusterReconciler
variable {α : Type} {env : Env Traced}

theorem networkStep_lift (x : Call Session α) :
    Keeps (NetworkStep m) (Pass.call (Traced.lift x) : Step Traced α) := fun _ h =>
  ⟨⟨h.obj, h.stored⟩, .refl⟩

theorem networkStep_tolerate (expected : GoError → Bool) (x : Call Session Unit) :
    Keeps (NetworkStep m) (Pass.call (tolerate expected (Traced.lift x)) : Step Traced Unit) := by
  have hcalls : Keeps (fun t u : Traced => u.calls = t.calls) (tolerate expected (Traced.lift x)) :=
    keeps_tolerate (Closed.ofEq Traced.calls) fun _ => rfl
  intro p h
  have heq : ((tolerate expected (Traced.lift x)) p.cloud).2.calls = p.cloud.calls := hcalls p.cloud
  refine ⟨⟨?_, ?_⟩, ?_⟩
  · show NetworkOk m ((tolerate expected (Traced.lift x)) p.cloud).2.calls p.obj
    rw [heq]
    exact h.obj
  · show NetworkOk m ((tolerate expected (Traced.lift x)) p.cloud).2.calls p.stored
    rw [heq]
    exact h.stored
  · show Justified m p.cloud.calls ((tolerate expected (Traced.lift x)) p.cloud).2.calls
    rw [heq]
    exact .refl

theorem networkStep_persistFinalizer :
    Keeps (NetworkStep m) (persistFinalizer : Step Traced Unit) := by
  intro p
  refine wp_persistFinalizer (Q := fun _ q => NetworkStep m p q) (fun _ h => ⟨h, .refl⟩)
    fun _ _ _ h => ?_
  have hobj : NetworkOk m p.cloud.calls (withFinalizer p.obj) :=
    h.obj.congr (ClusterIdentity.of_withFinalizer _) rfl
  exact ⟨⟨hobj, hobj.deliver h.stored _⟩, .refl⟩

/-! ### Networks -/

theorem wp_getNetwork_id (id : String) (s : Session) :
    wp (sdkClient.getNetwork id) (fun r _ => ∀ n, r = .ok n → n.id = id) s := by
  show wp (SDKClient.getNetwork id) _ s
  unfold SDKClient.getNetwork
  rw [wp_bind]
  refine wp_request fun r c t hr _ => ?_
  cases r with
  | error e => exact fun n hn => by cases hn
  | ok network =>
    intro n hn
    cases hn
    have hok := hr.ok
    unfold Cloud.getNetwork at hok
    split at hok
    · rename_i found hfind
      cases hok
      exact beq_iff_eq.1 (List.find?_some (p := fun n : SDKNetwork => n.id == id) hfind)
    · cases hok

/-- A network that is created is noted down before it is recorded. -/
theorem wp_createNetwork_traced (input : CreateNetworkInput) (s : Traced) :
    wp ((Traced.client sdkClient).createNetwork input) (fun r t => match r with
      | .error _ => t.calls = s.calls
      | .ok n => t.calls = s.calls ++ [.created n.id]) s := by
  show wp (Traced.createNetwork sdkClient input) _ s
  unfold Traced.createNetwork Traced.lift
  rw [wp_bind, wp_zoom]
  refine wp_of_forall fun r t => ?_
  cases r <;> exact rfl

theorem wp_getNetwork_traced (id : String) (s : Traced) :
    wp ((Traced.client sdkClient).getNetwork id)
      (fun r t => t.calls = s.calls ∧ ∀ n, r = .ok n → n.id = id) s := by
  show wp (Traced.lift (sdkClient.getNetwork id)) _ s
  unfold Traced.lift
  rw [wp_zoom]
  exact (wp_getNetwork_id id s.session).imp fun _ _ hr => ⟨rfl, hr⟩

theorem networkStep_ensureNetwork :
    Keeps (NetworkStep m) (ensureNetwork (Traced.client sdkClient)) := by
  intro p h
  have hspec : p.obj.spec.networkID = m.networkID :=
    congrArg ClusterIdentity.networkID h.obj.identity
  have hfail : ∀ reason message types {s : Traced}, s.calls = p.cloud.calls →
      NetworkInv m { p with obj := p.obj.setNotReady reason message types, cloud := s } ∧
        Justified m p.cloud.calls s.calls := fun _ _ _ s hs =>
    ⟨⟨hs ▸ h.obj.congr rfl rfl, hs ▸ h.stored⟩, hs ▸ .refl⟩
  refine wp_ensureNetwork
    (Q := fun _ q => NetworkInv m q ∧ Justified m p.cloud.calls q.cloud.calls)
    (fun hne => ?unmanaged) (fun _ hne => ?recorded) fun _ s hmissing => ?created
  case unmanaged =>
    refine (wp_getNetwork_traced _ p.cloud).imp fun r s ⟨hs, _⟩ => ?_
    cases r with
    | error err => exact fun _ => hfail _ _ _ hs
    | ok network =>
      exact ⟨⟨⟨h.obj.identity, fun h0 _ => absurd (hspec.trans h0) hne⟩, hs ▸ h.stored⟩,
        hs ▸ .refl⟩
  case recorded =>
    refine (wp_getNetwork_traced _ p.cloud).imp fun r s ⟨hs, hr⟩ _ => ?_
    cases r with
    | error err => exact fun _ => hfail _ _ _ hs
    | ok network =>
      refine ⟨⟨⟨h.obj.identity, fun h0 _ => ?_⟩, hs ▸ h.stored⟩, hs ▸ .refl⟩
      show .created network.id ∈ s.calls
      rw [hr network rfl, hs]
      exact h.obj.created h0 hne
  case created =>
    have hs : s.calls = p.cloud.calls :=
      hmissing.keeps (I := fun s => s.calls = p.cloud.calls) rfl
        ((wp_getNetwork_traced _ p.cloud).imp fun _ _ ht => ht.1)
    refine (wp_createNetwork_traced _ s).imp fun r t ht => ?_
    cases r with
    | error err => exact fun _ => hfail _ _ _ (ht.trans hs)
    | ok network =>
      have hcalls : t.calls = p.cloud.calls ++ [.created network.id] := by rw [ht, hs]
      have hnew : Justified m p.cloud.calls t.calls := hcalls ▸ .created _ .refl
      refine ⟨⟨⟨h.obj.identity, fun _ _ => ?_⟩, h.stored.mono hnew⟩, hnew⟩
      show .created network.id ∈ t.calls
      simp [hcalls]

/-! ### The rest of a pass -/

theorem networkStep_resourceWrite {f : StackitCluster → StackitCluster} (hf : ResourceWrite f)
    (p : Pass StackitCluster Traced) :
    NetworkStep m p { p with obj := f p.obj } := fun h => by
  refine ⟨⟨?_, h.stored⟩, .refl⟩
  cases hf <;> exact h.obj.congr rfl rfl

theorem resourceFrame_networkStep (env : Env Traced) :
    ResourceFrame env (Traced.client sdkClient) (NetworkStep m) where
  toClosed := NetworkStep.closed m
  write := networkStep_resourceWrite
  zones := networkStep_lift _
  network := networkStep_ensureNetwork
  loadBalancer _ _ _ p := by
    refine ((networkStep_lift _).wp p).imp fun r q hpq => ⟨hpq, fun l _ h => ?_⟩
    obtain ⟨hq, hcalls⟩ := hpq h
    exact ⟨⟨hq.obj.congr rfl rfl, hq.stored⟩, hcalls⟩
  targets _ _ _ _ := networkStep_lift _

theorem bastionFrame_networkStep : BastionFrame (Traced.client sdkClient) (NetworkStep m) where
  toClosed := NetworkStep.closed m
  write hf p h := by
    refine ⟨⟨?_, h.stored⟩, .refl⟩
    cases hf <;> exact h.obj.congr rfl rfl
  deleteNodeSSHAccess _ := ⟨networkStep_lift _, networkStep_tolerate _ _⟩
  deleteBastion _ _ := ⟨networkStep_lift _, networkStep_tolerate _ _⟩
  ensureBastion _ := networkStep_lift _

/-- The client of every pass is the one that takes notes. -/
def TracedSource (src : ClientSource Traced) : Prop :=
  ∀ sc client, buildCloudClient src sc = .ok client → client = Traced.client sdkClient

theorem networkStep_reconcileNormal (hsrc : TracedSource env.source) :
    Keeps (NetworkStep m) (reconcileNormal env) := by
  refine keeps_reconcileNormal (NetworkStep.closed m) networkStep_persistFinalizer hsrc ?_
    networkStep_resourceWrite ?_
  · rintro client rfl
    exact resourceFrame_networkStep env
  · rintro client rfl
    exact bastionFrame_networkStep

/-! ### Deletion -/

/-- The network to delete was created before, or carries the cluster's tags. -/
theorem wp_resolveManagedNetworkID_traced {p : Pass StackitCluster Traced} (h : NetworkInv m p) :
    wp (resolveManagedNetworkID (Traced.client sdkClient) p.obj)
      (fun r t => t.calls = p.cloud.calls ∧
        ∀ id, r = .ok id → id ≠ "" → m.networkID = "" ∧
          (.created id ∈ p.cloud.calls ∨ id ∈ tagged .network m.tags t.session.cloud)) p.cloud := by
  have hspec : p.obj.spec.networkID = m.networkID :=
    congrArg ClusterIdentity.networkID h.obj.identity
  have htags : p.obj.tags = m.tags := by rw [← h.obj.identity, ClusterIdentity.of_tags]
  have hfind : wp ((Traced.client sdkClient).findNetworkByTags p.obj.tags) (fun r t =>
      t.calls = p.cloud.calls ∧ ∀ n, r = .ok n →
        n.id ∈ tagged .network m.tags t.session.cloud) p.cloud := by
    show wp (Traced.lift (sdkClient.findNetworkByTags p.obj.tags)) _ p.cloud
    unfold Traced.lift
    rw [wp_zoom, htags]
    refine (SDKClient.wp_findNetworkByTags m.tags p.cloud.session).imp fun r s ⟨hc, hr⟩ =>
      ⟨rfl, fun n hn => ?_⟩
    subst hn
    have hone : tagged .network m.tags p.cloud.session.cloud = [n.id] := hr
    show n.id ∈ tagged .network m.tags s.cloud
    rw [hc, hone]
    exact List.mem_singleton.2 rfl
  refine wp_resolveManagedNetworkID (fun _ => ⟨rfl, fun id hid hne => ?_⟩)
    (fun h0 hrec => ⟨rfl, fun id hid _ => ?_⟩) hfind
    (fun h0 n t ht => ⟨ht.1, fun id hid _ => ?_⟩)
    (fun e t ht _ => ⟨ht.1, fun id hid hne => ?_⟩)
    fun e t ht _ => ⟨ht.1, fun id hid => by cases hid⟩
  · cases hid
    exact absurd rfl hne
  · cases hid
    exact ⟨hspec ▸ h0, .inl (h.obj.created (hspec ▸ h0) hrec)⟩
  · cases hid
    exact ⟨hspec ▸ h0, .inr (ht.2 n rfl)⟩
  · cases hid
    exact absurd rfl hne

theorem networkStep_deleteManagedNetwork :
    Keeps (NetworkStep m) (deleteManagedNetwork (Traced.client sdkClient)) := by
  intro p h
  show wp (deleteManagedNetwork (Traced.client sdkClient)) (fun _ q => NetworkInv m q ∧
    Justified m p.cloud.calls q.cloud.calls) p
  unfold deleteManagedNetwork
  rw [Pass.wp_getObj_bind, Pass.wp_call_bind]
  refine (wp_resolveManagedNetworkID_traced h).imp fun r t ⟨hcalls, hr⟩ => ?_
  have hsame : NetworkInv m { p with cloud := t } ∧ Justified m p.cloud.calls t.calls :=
    ⟨⟨hcalls ▸ h.obj, hcalls ▸ h.stored⟩, hcalls ▸ .refl⟩
  cases r with
  | error e => exact hsame
  | ok id =>
    rw [next_ok]
    refine wp_ite (fun _ => hsame) fun hne => ?_
    obtain ⟨h0, hmade⟩ := hr id rfl hne
    rw [Pass.wp_attempt_call_bind]
    have hnew : Justified m p.cloud.calls (t.calls ++ [.deleteRequested id t.session.cloud]) :=
      hsame.2.deleted h0 (hcalls ▸ hmade)
    have hdelete : wp (tolerate isNotFound ((Traced.client sdkClient).deleteNetwork id))
        (fun _ u => u.calls = t.calls ++ [.deleteRequested id t.session.cloud]) t := by
      have hnoted : wp (Traced.deleteNetwork sdkClient id)
          (fun _ u => u.calls = t.calls ++ [.deleteRequested id t.session.cloud]) t := by
        unfold Traced.deleteNetwork Traced.note Traced.lift
        rw [wp_bind, wp_modify, next_ok, wp_zoom]
        exact (rfl : _ = _)
      exact wp_tolerate_of hnoted (fun _ _ h _ => h) fun _ _ h _ => h
    refine hdelete.imp fun r' u hu => ?_
    have hend : ∀ o : StackitCluster, NetworkOk m u.calls o →
        NetworkInv m { p with obj := o, cloud := u } ∧ Justified m p.cloud.calls u.calls :=
          fun o ho =>
      ⟨⟨ho, hu ▸ h.stored.mono hnew⟩, hu ▸ hnew⟩
    have hobj : NetworkOk m u.calls p.obj := hu ▸ h.obj.mono hnew
    cases r' with
    | ok _ => exact hend _ ⟨h.obj.identity, fun _ hne' => absurd rfl hne'⟩
    | error e => exact wp_ite (fun _ => hend _ (hobj.congr rfl rfl)) fun _ => hend _ hobj

theorem networkStep_resolveLoadBalancerID (sc : StackitCluster) :
    Keeps (NetworkStep m)
      (Pass.call (resolveLoadBalancerID (Traced.client sdkClient) sc) : Step Traced String) := by
  intro p h
  have hcalls : Keeps (fun t u : Traced => u.calls = t.calls)
      (resolveLoadBalancerID (Traced.client sdkClient) sc) := by
    have hQ := Closed.ofEq Traced.calls
    refine .ite (.pure hQ _) (.bind hQ (fun _ => rfl) fun l => ?_)
    split
    · exact .pure hQ _
    · exact .pure hQ _
    · exact .fail hQ _
  have heq : (resolveLoadBalancerID (Traced.client sdkClient) sc p.cloud).2.calls = p.cloud.calls :=
    hcalls p.cloud
  refine ⟨⟨heq.symm ▸ h.obj, heq.symm ▸ h.stored⟩, ?_⟩
  show Justified m p.cloud.calls
    (resolveLoadBalancerID (Traced.client sdkClient) sc p.cloud).2.calls
  rw [heq]
  exact .refl

theorem networkStep_deleteWrite {f : StackitCluster → StackitCluster} (hf : DeleteWrite f)
    (p : Pass StackitCluster Traced) :
    NetworkStep m p { p with obj := f p.obj } := fun h => by
  refine ⟨⟨?_, h.stored⟩, .refl⟩
  cases hf <;> exact h.obj.congr rfl rfl

theorem networkStep_reconcileDelete (hsrc : TracedSource env.source) (cluster : Cluster) :
    Keeps (NetworkStep m) (reconcileDelete env cluster) := by
  refine keeps_reconcileDelete (NetworkStep.closed m) networkStep_deleteWrite hsrc ?_ cluster
  rintro client rfl
  exact
    { NetworkStep.closed m with
      write := networkStep_deleteWrite
      resolveLoadBalancerID := networkStep_resolveLoadBalancerID
      deleteLoadBalancer := fun _ => networkStep_tolerate _ _
      deleteNodeSSHAccess := fun _ => networkStep_tolerate _ _
      deleteBastion := fun _ _ => networkStep_tolerate _ _
      network := networkStep_deleteManagedNetwork }

/-- A whole pass. -/
theorem networkStep_reconcile (hsrc : TracedSource env.source) (answers : Answers)
    {p : Pass StackitCluster Traced} (h : NetworkOk m p.cloud.calls p.stored) :
    wp (reconcile answers env)
      (fun _ q => NetworkOk m q.cloud.calls q.stored ∧ Justified m p.cloud.calls q.cloud.calls) p :=
  by
  refine wp_reconcile (fun _ _ => ⟨h, .refl⟩) fun cluster _ => Pass.wp_withDeferredPatch ?_
  have hstart : NetworkInv m { p with obj := withPaused cluster p.stored } := ⟨h.congr rfl rfl, h⟩
  have hscope : wp (reconcileScope env cluster)
      (fun _ q => NetworkInv m q ∧ Justified m p.cloud.calls q.cloud.calls) { p with
        obj := p.stored } :=
    wp_reconcileScope (fun _ => ⟨hstart, .refl⟩)
      (fun _ _ => networkStep_reconcileDelete hsrc cluster _ hstart)
      fun _ _ => networkStep_reconcileNormal hsrc _ hstart
  exact hscope.imp fun r q ⟨hq, hcalls⟩ d _ _ _ => ⟨hq.obj.deliver hq.stored d, hcalls⟩

end ClusterReconciler

/-! ### A run -/

structure TracedWorld where
  stored : StackitCluster
  cloud : Cloud
  calls : List NetworkCall := []

inductive TracedAction
  | reconcile (answers : ClusterReconciler.Answers) (env : ClusterReconciler.Env Traced)
      (patches : List PatchOutcome) (outcomes : List Outcome) (orders : List MapOrder)
  | requestDeletion
  | updateSpec (spec : StackitClusterSpec)
  | cloudEvolves (change : Cloud → Cloud)

namespace TracedWorld
variable {w : TracedWorld} {rules : NameRules}

/-- The state in which a pass starts. -/
def begin (w : TracedWorld) (patches : List PatchOutcome) (outcomes : List Outcome)
    (orders : List MapOrder) :
    Pass StackitCluster Traced :=
  { obj := w.stored, stored := w.stored, patches,
    cloud := { session := { cloud := w.cloud, outcomes, orders }, calls := w.calls } }

def step (w : TracedWorld) : TracedAction → TracedWorld
  | .reconcile answers env patches outcomes orders =>
    let q := (ClusterReconciler.reconcile answers env).after (w.begin patches outcomes orders)
    ⟨q.stored, q.cloud.session.cloud, q.cloud.calls⟩
  | .requestDeletion =>
    { w with stored := { w.stored with metadata := { w.stored.metadata with deleting := true } } }
  | .updateSpec spec => { w with stored := { w.stored with spec } }
  | .cloudEvolves change => { w with cloud := change w.cloud }

/-- Passes take notes, and the webhook admits every update. -/
def Admitted (rules : NameRules) (w : TracedWorld) : TracedAction → Prop
  | .reconcile _ env _ _ _ => ClusterReconciler.TracedSource env.source
  | .updateSpec spec => Webhook.admitsClusterUpdate rules w.stored { w.stored with spec } = true
  | .requestDeletion | .cloudEvolves _ => True

/-- A StackitCluster as it is created: admitted by the webhook, without a status. -/
structure Created (rules : NameRules) (w : TracedWorld) : Prop where
  admitted : Webhook.validateStackitClusterSpec rules w.stored.spec "spec" = []
  status : w.stored.status = {}
  calls : w.calls = []

/-- What holds between the passes: the record of the network is right, and only a cluster with a
network of its own has asked for deletions. -/
structure Sound (w : TracedWorld) : Prop where
  recorded : NetworkOk (.of w.stored) w.calls w.stored
  managed : w.stored.spec.networkID ≠ "" → ∀ id c, .deleteRequested id c ∉ w.calls

theorem networkID_of_admitted {old new : StackitCluster}
    (h : Webhook.admitsClusterUpdate rules old new = true) :
    new.spec.networkID = old.spec.networkID := by
  simp only [Webhook.admitsClusterUpdate, List.isEmpty_iff,
    Webhook.validateStackitClusterSpecUpdate, Webhook.immutable, List.append_eq_nil_iff,
    Webhook.check_eq_nil] at h
  have hid := h.2.1.1.1.2
  exact (by simpa using hid : old.spec.networkID = new.spec.networkID).symm

/-- One step keeps the record sound, adds only justified deletions, and does not touch the network
ID of the spec. -/
theorem Sound.step (h : w.Sound) {a : TracedAction} (ha : Admitted rules w a) :
    (w.step a).Sound ∧ Justified (.of w.stored) w.calls (w.step a).calls ∧
      (w.step a).stored.spec.networkID = w.stored.spec.networkID := by
  cases a with
  | reconcile answers env patches outcomes orders =>
    obtain ⟨hrec, hcalls⟩ :=
      ClusterReconciler.networkStep_reconcile ha answers (p := w.begin patches outcomes orders)
      h.recorded
    have hidentity :
        ClusterIdentity.of (w.step (.reconcile answers env patches outcomes orders)).stored =
        .of w.stored :=
      hrec.identity
    have hid := congrArg ClusterIdentity.networkID hidentity
    refine ⟨⟨?_, fun hne id c hmem => ?_⟩, hcalls, hid⟩
    · rw [hidentity]
      exact hrec
    · have hne' : w.stored.spec.networkID ≠ "" := fun h0 => hne (Eq.trans hid h0)
      exact h.managed hne' id c (hcalls.mem_delete hne' hmem)
  | requestDeletion => exact ⟨⟨⟨rfl, h.recorded.created⟩, h.managed⟩, .refl, rfl⟩
  | updateSpec spec =>
    have hid : spec.networkID = w.stored.spec.networkID := networkID_of_admitted ha
    refine ⟨⟨⟨rfl, fun h0 => h.recorded.created (Eq.trans hid.symm h0)⟩, fun hne =>
      h.managed fun h0 => hne ?_⟩, .refl, hid⟩
    exact Eq.trans hid h0
  | cloudEvolves change => exact ⟨⟨⟨rfl, h.recorded.created⟩, h.managed⟩, .refl, rfl⟩

theorem Created.sound (h : w.Created rules) : w.Sound := by
  refine ⟨⟨rfl, fun _ hne => ?_⟩, fun _ id c hmem => ?_⟩
  · rw [h.status] at hne
    exact absurd rfl hne
  · rw [h.calls] at hmem
    cases hmem

theorem Sound.run (h : w.Sound) {as : List TracedAction}
    (has : Runs.Meets TracedWorld.step (Admitted rules) w as) :
    (Runs.run TracedWorld.step w as).Sound :=
  has.inv h fun _ _ hs ha => (hs.step ha).1

theorem Sound.networkID (h : w.Sound) {as : List TracedAction}
    (has : Runs.Meets TracedWorld.step (Admitted rules) w as) :
    (Runs.run TracedWorld.step w as).stored.spec.networkID = w.stored.spec.networkID := by
  induction as generalizing w with
  | nil => rfl
  | cons a as ih => exact (ih (h.step has.1).1 has.2).trans (h.step has.1).2.2

/-- **A bring-your-own network is never deleted.** In every run from the creation of a cluster
on, each network that a pass asks to delete was returned by an earlier `CreateNetwork` or carries
the cluster's tags at that moment; and if the spec ever names a network, no deletion is ever
asked for. -/
theorem own_network_never_deleted {as : List TracedAction} (h₀ : w.Created rules)
    (has : Runs.Meets step (Admitted rules) w as) :
    (∀ bs a cs, as = bs ++ a :: cs →
      let v := Runs.run step w bs
      ∀ before id c after, (v.step a).calls = before ++ .deleteRequested id c :: after →
      v.calls.length ≤ before.length →
        .created id ∈ before ∨ id ∈ tagged .network v.stored.tags c) ∧
    ∀ bs cs, as = bs ++ cs → (Runs.run step w bs).stored.spec.networkID ≠ "" →
      ∀ id c, .deleteRequested id c ∉ (Runs.run step w as).calls := by
  refine ⟨?_, ?_⟩
  · rintro bs a cs rfl v before id c after hcalls hlen
    obtain ⟨hbs, ha, -⟩ := (Runs.meets_append _).1 has
    have hstep := ((h₀.sound.run hbs).step ha).2.1
    exact hstep.reason hcalls hlen
  · rintro bs cs rfl hne
    obtain ⟨hbs, hcs⟩ := (Runs.meets_append _).1 has
    refine (h₀.sound.run has).managed ?_
    rw [Runs.run_append, (h₀.sound.run hbs).networkID hcs]
    exact hne

/-- A source that always hands out the client that takes notes. -/
def tracedSource : ClientSource Traced where
  getSecret := ClientSource.connected.getSecret
  factory := some fun _ => .ok (Traced.client sdkClient)

theorem tracedSource_traced : ClusterReconciler.TracedSource tracedSource := by
  intro sc client h
  unfold buildCloudClient tracedSource at h
  dsimp only [ClientSource.connected] at h
  split at h
  · cases h
  · cases h
    rfl

def sampleTraced : TracedWorld :=
  ⟨(ClusterWorld.sample ClusterWorld.sampleSpec).stored, { ids := .unary }, []⟩

/-- A pass that finds the owner of the cluster and no machines. -/
def tracedPass (patches : List PatchOutcome) : TracedAction :=
  .reconcile
    { getOwnerCluster := .ok
        (some { metadata := { name := "c", namespace' := "ns" },
                infrastructureRef := { name := "c" } }) }
    { source := tracedSource, getConfigMap := fun _ => .error ⟨none, "not found"⟩,
      machines := .ok [],
      controlPlaneMachines := .ok [], sha256Hex := Sha256.hex } patches [] []

/-- The status with the network is lost, and the network is found by its tags when the cluster is
deleted. -/
theorem own_network_never_deleted_lostStatus :
    let as := [tracedPass [{}, { status := .failed }], .requestDeletion]
    let w := Runs.run step sampleTraced as
    w.stored.status.network.id = "" ∧
      (w.step (tracedPass [])).calls.map NetworkCall.name = ["created i", "deleted i"] ∧
      ∀ before id c after, (w.step (tracedPass [])).calls = before ++ .deleteRequested id
      c :: after →
        w.calls.length ≤ before.length → .created id ∈ before ∨
        id ∈ tagged .network w.stored.tags c := by
  intro as w
  have hcreated : sampleTraced.Created .kubernetes := ⟨by decide +kernel, rfl, rfl⟩
  have hrun : Runs.Meets step (Admitted .kubernetes) sampleTraced (as ++ [tracedPass []]) :=
    ⟨tracedSource_traced, trivial, tracedSource_traced, trivial⟩
  refine ⟨by decide +kernel, by decide +kernel, ?_⟩
  exact (own_network_never_deleted hcreated hrun).1 as (tracedPass []) [] rfl

end TracedWorld

end Capstk
