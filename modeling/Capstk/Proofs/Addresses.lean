import Capstk.Lib.Sha256
import Capstk.Proofs.MachineRun

/-!
# Addresses and network interfaces that cannot be listed

`serverFromSDK` turns a failed `ListServerNICs` into an empty list of addresses, and
`reconcileNormal` writes whatever it gets to the status. The addresses of a machine are then gone,
and nothing brings the controller back, if the server is up otherwise. There is nothing to lose if
there were none, and a server that is not up yet is looked at again.
-/

namespace Capstk

open Prog

/-- A `ListServerNICs` request that failed. -/
def LogEntry.NICsFailed (x : LogEntry) : Prop :=
  (∃ id, x.request = .listServerNICs id) ∧ x.error ≠ none

/-- No `ListServerNICs` request between `s` and `t` failed. -/
abbrev NICsListed : Session → Session → Prop := Logs fun x => ¬ x.NICsFailed

theorem nicsListed_request {α : Type} {op : String} {req : Request} {effect : Cloud.Effect α}
    (h : ∀ id, req ≠ .listServerNICs id) : Keeps NICsListed (request op req effect) :=
  logs_request fun _ ⟨⟨id, hid⟩, _⟩ => h id hid

namespace SDKClient

/-- Of a server whose network interfaces cannot be listed no address is known. -/
theorem wp_serverFromSDK_addresses (server : SDKServer) (s : Session) :
    wp (serverFromSDK server) (fun r t => ∀ a, r = .ok a → NICsListed s t ∨ a.addresses = []) s :=
  by
  unfold serverFromSDK
  rw [wp_attempt_bind]
  refine wp_request fun r c t _ ht a ha => ?_
  cases ha
  cases r with
  | error e => exact .inr rfl
  | ok nics =>
    refine .inl ⟨[⟨_, none⟩], ht.log, fun x hx hfailed => ?_⟩
    rw [List.mem_singleton.1 hx] at hfailed
    exact hfailed.2 rfl

theorem wp_getServer_addresses (id : String) (s : Session) :
    wp (getServer id) (fun r t => match r with
      | .ok a => NICsListed s t ∨ a.addresses = []
      | .error _ => NICsListed s t) s := by
  unfold getServer
  rw [wp_bind]
  refine ((nicsListed_request (fun _ h => by cases h)).wp s).imp fun r t ht => ?_
  cases r with
  | error e => exact ht
  | ok server =>
    rw [next_ok]
    refine ((wp_serverFromSDK_addresses server t).and (wp_serverFromSDK server t)).imp ?_
    rintro r' u ⟨hr', -, a, rfl, -⟩
    exact (hr' a rfl).imp (Logs.trans ht) fun h => h

theorem wp_serversFromSDK_addresses (T : StringMap) (l : List SDKServer) (s : Session) :
    wp (serversFromSDK T l)
      (fun r t => ∀ out, r = .ok out → NICsListed s t ∨ ∃ a ∈ out, a.addresses = []) s := by
  induction l generalizing s with
  | nil => exact fun out _ => .inl (Logs.refl _ s)
  | cons x l ih =>
    unfold serversFromSDK
    refine wp_ite (fun _ => ?_) fun _ => ih s
    rw [wp_bind]
    refine ((wp_serverFromSDK_addresses x s).and (wp_serverFromSDK x s)).imp ?_
    rintro r t ⟨hr, -, a, rfl, -⟩
    rw [next_ok, wp_bind]
    refine ((ih t).and (wp_serversFromSDK T l t)).imp ?_
    rintro r' u ⟨hr', -, rest, rfl, -⟩ out hout
    cases hout
    rcases hr a rfl with ht | ha
    · rcases hr' rest rfl with hu | ⟨b, hb, haddr⟩
      · exact .inl (ht.trans hu)
      · exact .inr ⟨b, by simp [hb], haddr⟩
    · exact .inr ⟨a, by simp, ha⟩

theorem wp_findServerByTags_addresses (T : StringMap) (s : Session) :
    wp (findServerByTags T) (fun r t => ∀ a, r = .ok a → NICsListed s t ∨ a.addresses = []) s := by
  unfold findServerByTags listServersByTags
  rw [wp_bind]
  refine wp_requireTags (fun _ a ha => by cases ha) ?_
  rw [wp_bind]
  refine ((nicsListed_request (fun _ h => by cases h)).wp s).imp fun r t ht => ?_
  cases r with
  | error e => exact fun a ha => by cases ha
  | ok items =>
    rw [next_ok]
    refine (wp_serversFromSDK_addresses T items t).imp fun r' u hr' => ?_
    cases r' with
    | error e => exact fun a ha => by cases ha
    | ok out =>
      rw [next_ok]
      refine wp_single (fun _ a ha => by cases ha) (fun b hb a ha => ?_) fun _ a ha => by cases ha
      cases ha
      rcases hr' out rfl with hu | ⟨b', hb', haddr⟩
      · exact .inl (ht.trans hu)
      · rw [hb, List.mem_singleton] at hb'
        exact .inr (hb' ▸ haddr)

/-- The server is reported in the state it has in the cloud. -/
def Describes (x : SDKServer) (a : Server) : Prop :=
  a.state = x.status ∧ a.powerStatus = x.powerStatus

theorem wp_serverFromSDK_describes (x : SDKServer) (s : Session) :
    wp (serverFromSDK x) (fun r _ => ∀ a, r = .ok a → Describes x a) s := by
  unfold serverFromSDK
  rw [wp_attempt_bind]
  refine wp_request fun r c t _ _ a ha => ?_
  cases ha
  exact ⟨rfl, rfl⟩

theorem wp_getServer_describes (id : String) (s : Session) : wp (getServer id)
      (fun r _ => ∀ a, r = .ok a → ∃ x ∈ s.cloud.servers, x.id = id ∧ Describes x a) s := by
  refine wp_bind_ok (P := fun x _ => x ∈ s.cloud.servers ∧ x.id = id)
    (wp_request fun r c t hr _ x hx => ?_) fun x t hx => ?_
  · subst hx
    have hget := hr.ok
    rw [Cloud.getServer] at hget
    split at hget
    · rename_i y hfind
      cases hget
      exact ⟨List.mem_of_find?_eq_some hfind, by simpa using List.find?_some hfind⟩
    · cases hget
  · exact (wp_serverFromSDK_describes x t).imp fun r u hr a ha => ⟨x, hx.1, hx.2, hr a ha⟩

theorem wp_serversFromSDK_describes (T : StringMap) (l : List SDKServer) (s : Session) :
    wp (serversFromSDK T l) (fun r _ => ∀ out, r = .ok out →
      ∀ a ∈ out, ∃ x ∈ l, labelsContainTags x.labels T = true ∧ Describes x a) s := by
  induction l generalizing s with
  | nil =>
    rintro out ⟨⟩ a ha
    cases ha
  | cons x l ih =>
    have hrest : ∀ a : Server, (∃ y ∈ l, labelsContainTags y.labels T = true ∧ Describes y a) →
        ∃ y ∈ x :: l, labelsContainTags y.labels T = true ∧ Describes y a :=
      fun a ⟨y, hy, h⟩ => ⟨y, List.mem_cons_of_mem x hy, h⟩
    unfold serversFromSDK
    refine wp_ite (fun hT => ?_) fun _ => (ih s).imp fun r t hr out hout a ha =>
      hrest a (hr out hout a ha)
    refine wp_bind_ok (wp_serverFromSDK_describes x s) fun b t hb =>
      wp_bind_ok (ih t) fun rest u hr => ?_
    rintro out ⟨⟩ a ha
    rcases List.mem_cons.1 ha with rfl | ha
    · exact ⟨x, List.mem_cons_self, hT, hb⟩
    · exact hrest a (hr a ha)

theorem wp_findServerByTags_describes (T : StringMap) (s : Session) : wp (findServerByTags T)
      (fun r _ => ∀ a, r = .ok a → ∃ x ∈ s.cloud.servers, labelsContainTags x.labels T = true ∧
        Describes x a) s := by
  refine wp_bind_ok (P := fun out _ => ∀ a ∈ out, ∃ x ∈ s.cloud.servers,
    labelsContainTags x.labels T = true ∧ Describes x a)
    (wp_requireTags (fun _ _ h => by cases h) ?_) fun out t hout => ?_
  · refine wp_bind_ok (P := fun l _ => ∀ x ∈ l, x ∈ s.cloud.servers)
      (wp_request fun r c t hr _ l hl x hx => ?_) fun l t hl => ?_
    · subst hl
      obtain ⟨hlist, -⟩ := Prod.mk.inj hr.ok
      cases hlist
      exact (List.mem_filter.1 hx).1
    · refine (wp_serversFromSDK_describes T l t).imp fun r u hr out hout a ha => ?_
      obtain ⟨x, hx, h⟩ := hr out hout a ha
      exact ⟨x, hl x hx, h⟩
  · refine wp_single (fun _ a ha => by cases ha) (fun b hb a ha => ?_) fun _ a ha => by cases ha
    cases ha
    exact hout b (hb ▸ List.mem_singleton_self b)

theorem nicsListed_ensureNodeSSHAccess (input : NodeSSHAccessInput) :
    Keeps NICsListed (ensureNodeSSHAccess input) := by
  have hR := Logs.closed fun x => ¬ x.NICsFailed
  have hreq : ∀ {α : Type} {op : String} {req : Request} {effect : Cloud.Effect α},
      (∀ id, req ≠ .listServerNICs id) →
        Keeps NICsListed (request op req effect) := fun h => nicsListed_request h
  refine .ite (.fail hR _)
    (.ite (.fail hR _) (.bind hR (keeps_existingOr hR ?_ ?_) fun g => .bind hR ?_ fun _ => ?_))
  · refine .bind hR
      (keeps_requireTags hR (.bind hR (hreq fun _ h => by cases h) fun _ => .pure hR _)) fun l => ?_
    exact keeps_single hR _ _ l
  · exact .bind hR (hreq fun _ h => by cases h) fun _ => .pure hR _
  · refine .ite (.fail hR _) (.bind hR (hreq fun _ h => by cases h) fun rules =>
      .ite (.pure hR ()) ?_)
    exact hreq fun _ h => by cases h
  · exact .bind hR (keeps_tolerate hR (hreq fun _ h => by cases h)) fun _ => .pure hR g

end SDKClient

/-! ### A pass -/

/-- The outcome brings the controller back: an error, or a delay. -/
def ComesBack (r : Except GoError Result) : Prop := ∀ res, r = .ok res → 0 < res.requeueAfter

namespace MachineReconciler

theorem wp_findServer_addresses (ctx : MachineContext) (sm : StackitMachine) (s : Session) :
    wp (findServer sdkClient ctx sm)
      (fun r t => ∀ a, r = .ok a → NICsListed s t ∨ a.addresses = []) s := by
  unfold findServer
  refine wp_ite (fun _ => ?_) fun _ => SDKClient.wp_findServerByTags_addresses (ctx.tags sm) s
  refine wp_existingOr_of (SDKClient.wp_getServer_addresses sm.status.instanceID s)
    (fun a t hr a' ha' => ?_)
    (fun e t hr _ => ?_) fun e t _ _ a ha => by cases ha
  · cases ha'
    exact hr
  · refine (SDKClient.wp_findServerByTags_addresses (ctx.tags sm) t).imp fun r' u hr' a ha => ?_
    exact (hr' a ha).imp (Logs.trans hr) fun h => h

theorem nicsListed_nodeSSHAccess (ctx : MachineContext) (server : Server) :
    Keeps NICsListed (reconcileBastionNodeSSHAccess sdkClient ctx server) := by
  have hR := Logs.closed fun x => ¬ x.NICsFailed
  refine .ite (.pure hR ()) (.ite (.fail hR _) (.ite (.fail hR _) ?_))
  exact .bind hR (SDKClient.nicsListed_ensureNodeSSHAccess _) fun _ => .pure hR ()

/-- The server is that of the machine: the recorded one, or one with its tags. -/
def IsServerOf (ctx : MachineContext) (sm : StackitMachine) (x : SDKServer) : Prop :=
  sm.status.instanceID ≠ "" ∧ x.id = sm.status.instanceID ∨
    labelsContainTags x.labels (ctx.tags sm) = true

/-- The machine has a server. -/
def Backed (ctx : MachineContext) (sm : StackitMachine) (c : Cloud) : Prop :=
  ∃ x ∈ c.servers, IsServerOf ctx sm x

/-- No server of the machine is up. -/
def Down (ctx : MachineContext) (sm : StackitMachine) (c : Cloud) : Prop :=
  ∀ x ∈ c.servers, IsServerOf ctx sm x → (serverStateCondition x.status x.powerStatus).ready = false

theorem wp_findServer_describes (ctx : MachineContext) (sm : StackitMachine) (s : Session) :
    wp (findServer sdkClient ctx sm)
      (fun r _ => ∀ a, r = .ok a → ∃ x ∈ s.cloud.servers, IsServerOf ctx sm x ∧
        SDKClient.Describes x a) s := by
  have hbyTags : ∀ t : Session, t.cloud = s.cloud → wp (SDKClient.findServerByTags (ctx.tags sm))
      (fun r _ => ∀ a, r = .ok a → ∃ x ∈ s.cloud.servers, IsServerOf ctx sm x ∧
        SDKClient.Describes x a) t := by
    intro t hc
    refine (SDKClient.wp_findServerByTags_describes (ctx.tags sm) t).imp fun r _ hr a ha => ?_
    obtain ⟨x, hx, hT, h⟩ := hr a ha
    exact ⟨x, hc ▸ hx, .inr hT, h⟩
  unfold findServer
  refine wp_ite (fun hne => ?_) fun _ => hbyTags s rfl
  refine wp_existingOr_of
    ((SDKClient.wp_getServer sm.status.instanceID s).and
      (SDKClient.wp_getServer_describes sm.status.instanceID s))
    (fun a t hr b hb => ?_) (fun e t hr _ => hbyTags t hr.1.1) fun e t _ _ a ha => by cases ha
  cases hb
  obtain ⟨x, hx, hid, h⟩ := hr.2 a rfl
  exact ⟨x, hx, .inl ⟨hne, hid⟩, h⟩

/-- Once the server is known: it decides the addresses, and the controller comes back unless the
server is ready. -/
theorem wp_reconcileServer_addresses (ctx : MachineContext) (server : Server)
    (p : Pass StackitMachine Session) :
    wp (reconcileServer sdkClient ctx server) (fun r q => NICsListed p.cloud q.cloud ∧
      q.obj.status.addresses = machineAddressesFromCloud server.addresses ∧
      ((serverStateCondition server.state server.powerStatus).ready = false → ComesBack r)) p := by
  refine wp_reconcileServer (fun _ => ⟨Logs.refl _ _, rfl, fun _ res h => ?_⟩)
    (fun hup => ((nicsListed_nodeSSHAccess ctx server).wp _).imp fun _ _ hlog => And.intro hup hlog)
    (fun s hs => ⟨hs.2, rfl, fun h => ?_⟩) fun _ s hs _ => ⟨hs.2, rfl, fun h => ?_⟩
  · cases h
    exact Nat.zero_lt_succ 14
  · cases h.symm.trans hs.1
  · cases h.symm.trans hs.1

theorem findServer_congr {sm sm' : StackitMachine} {ctx : MachineContext}
    (htags : ctx.tags sm' = ctx.tags sm) (hid : sm'.status.instanceID = sm.status.instanceID)
    (client : Client Session) :
    findServer client ctx sm' = findServer client ctx sm := by
  unfold findServer
  rw [htags, hid]

theorem ensureServer_backed {ctx : MachineContext} {sm : StackitMachine} {s t : Session}
    {r : Except GoError Server} (h : Backed ctx sm s.cloud)
    (hfind : findServer sdkClient ctx sm s = (r, t)) (data : String) :
    ensureServer sdkClient ctx sm data s = (r, t) := by
  have hspec := (wp_findServer ctx sm s).of_run hfind
  rw [ensureServer_eq]
  simp only [existingOr, attempt, bind, andThen, hfind]
  cases r with
  | ok a => rfl
  | error e =>
    have hnf : ¬ isNotFound e = true := fun hnf => by
      obtain ⟨hnone, hgone⟩ := hspec.2 hnf
      obtain ⟨x, hx, ⟨hne, hid⟩ | hT⟩ := h
      · exact hgone hne
          ⟨x.labels, hid ▸ List.mem_map_of_mem (f := fun x : SDKServer => (x.id, x.labels)) hx⟩
      · have hmem : x.id ∈ taggedIDs (ctx.tags sm) s.cloud :=
          mem_tagged.2 ⟨x.labels, List.mem_map_of_mem hx, hT⟩
        rw [hnone] at hmem
        cases hmem
    simp only [hnf]
    rfl

/-- A machine with an address, whose server is up; the second request of the pass lists its network
interfaces. -/
def sampleStart (status : String) (outcomes : List Outcome) : Pass StackitMachine Session where
  obj :=
    { metadata := { name := "m", namespace' := "ns", finalizers := [machineFinalizer] }
      spec := {}
      status :=
        { instanceID := "i", provisioned := true, addresses := [⟨"InternalIP", "10.0.0.5"⟩] } }
  stored := { metadata := { name := "m", namespace' := "ns" }, spec := {} }
  cloud :=
    { cloud :=
        { ids := .unary
          servers :=
            [{ id := "i", name := "m", labels := ∅, status, nics := [⟨"nic", "10.0.0.5", ""⟩] }] }
      outcomes }

def sampleContext : MachineContext where
  cluster :=
    { metadata := { name := "c", namespace' := "ns" }, infrastructureRef := { name := "c" } }
  machine :=
    { metadata := { name := "m", namespace' := "ns", uid := "u" }, dataSecretName := some "b" }
  stackitCluster :=
    { metadata := { name := "c", namespace' := "ns" }, spec := {},
      status := { ready := true, network := { id := "n" } } }

theorem sampleStart_backed (status : String) (outcomes : List Outcome) :
    Backed sampleContext (sampleStart status outcomes).obj
      (sampleStart status outcomes).cloud.cloud :=
  ⟨_, List.mem_singleton_self _, .inl ⟨show "i" ≠ "" by decide, rfl⟩⟩

end MachineReconciler

end Capstk
