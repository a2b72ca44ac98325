import Capstk.Proofs.Resources

/-!
# Servers by tag

`taggedIDs T c` are the IDs of the servers that carry the tags `T`. Each server call of the SDK
client is specified by what it does to them and by what its answer says about them.
-/

namespace Capstk

open Prog

/-- The IDs of the servers that carry the tags `T`. -/
abbrev taggedIDs (T : StringMap) (c : Cloud) : List String := tagged .server T c

/-- The ID and the labels of every server are the same. -/
def SameServers (c c' : Cloud) : Prop := labelled .server c' = labelled .server c

namespace SameServers

theorem closed : Closed fun s t : Session => SameServers s.cloud t.cloud :=
  Closed.ofEq fun s : Session => labelled .server s.cloud

theorem of_same {c c' : Cloud} (h : SameResources c c') : SameServers c c' := h .server

theorem taggedIDs_eq {c c' : Cloud} (h : SameServers c c') (T : StringMap) :
    taggedIDs T c' = taggedIDs T c := by
  rw [taggedIDs, tagged, h]; rfl

end SameServers

/-! ### Effects -/

section
variable {T : StringMap}

theorem adds_createServer (p : CreateServerPayload) :
    Adds .server p.labels SDKServer.id (Cloud.createServer p) := by
  refine fun c => ⟨_, _, rfl, c.ids.nonempty _, by simp [labelled], fun k' hk => ?_⟩
  cases k' <;> first | rfl | exact absurd rfl hk

theorem taggedIDs_deleteServer (id : String) (c : Cloud) :
    taggedIDs T (Cloud.deleteServer id c).2 = (taggedIDs T c).filter (· != id) :=
  tagged_filter ((removes_deleteServer id).this c)

theorem not_present_of_missing {c : Cloud} {id : String} (h : c.servers.find? (·.id == id) = none) :
    ¬ Present .server id c := by
  rintro ⟨labels, hx⟩
  obtain ⟨s, hs, heq⟩ := List.mem_map.1 hx
  cases heq
  simpa using List.find?_eq_none.1 h s hs

theorem readOnly_getServer (id : String) : ReadOnly (Cloud.getServer id) := by
  intro c; unfold Cloud.getServer; split <;> rfl

theorem readOnly_listServers (sel : StringMap) : ReadOnly (Cloud.listServers sel) := fun _ => rfl

theorem readOnly_listServerNICs (id : String) : ReadOnly (Cloud.listServerNICs id) := by
  intro c; unfold Cloud.listServerNICs; split <;> rfl

end

/-! ### Calls -/

namespace SDKClient

theorem wp_serverFromSDK (server : SDKServer) (s : Session) :
    wp (serverFromSDK server)
      (fun r t => t.cloud = s.cloud ∧ ∃ a, r = .ok a ∧ a.id = server.id) s := by
  unfold serverFromSDK
  rw [wp_attempt_bind]
  refine wp_request fun r c t hr ht => ?_
  exact ⟨ht.cloud.trans (hr.cloud_eq (readOnly_listServerNICs _)), _, rfl, rfl⟩

theorem wp_serversFromSDK (T : StringMap) (l : List SDKServer) (s : Session) :
    wp (serversFromSDK T l) (fun r t => t.cloud = s.cloud ∧ ∃ out, r = .ok out ∧
      out.map (·.id) = (l.filter fun x => labelsContainTags x.labels T).map (·.id)) s := by
  induction l generalizing s with
  | nil => exact ⟨rfl, [], rfl, rfl⟩
  | cons x l ih =>
    unfold serversFromSDK
    by_cases hx : labelsContainTags x.labels T = true
    · rw [if_pos hx, wp_bind]
      refine (wp_serverFromSDK x s).imp fun r t ⟨hc, a, ha, hid⟩ => ?_
      subst ha
      rw [next_ok, wp_bind]
      refine (ih t).imp fun r' t' ⟨hc', out, hout, hids⟩ => ?_
      subst hout
      exact ⟨hc'.trans hc, a :: out, rfl, by simp [hx, hid, hids]⟩
    · rw [if_neg hx]
      refine (ih s).imp fun r t ⟨hc, out, hout, hids⟩ => ⟨hc, out, hout, by simp [hx, hids]⟩

theorem wp_listServersByTags (T : StringMap) (s : Session) :
    wp (listServersByTags T) (fun r t => t.cloud = s.cloud ∧
      match r with
      | .ok out => out.map (·.id) = taggedIDs T s.cloud
      | .error e => isNotFound e = false) s := by
  unfold listServersByTags
  refine wp_requireTags (fun _ => ⟨rfl, rfl⟩) ?_
  rw [wp_bind]
  refine wp_request fun r c t hr ht => ?_
  have hc : t.cloud = s.cloud := ht.cloud.trans (hr.cloud_eq (readOnly_listServers T))
  cases r with
  | error e =>
    refine ⟨hc, ?_⟩
    by_contra hnf
    obtain ⟨e', -, he'⟩ := hr.notFound (by simpa using hnf)
    simp [Cloud.listServers] at he'
  | ok items =>
    have hitems : items = s.cloud.servers.filter fun x => labelsContainTags x.labels T := by
      have := hr.ok; simp only [Cloud.listServers, Prod.mk.injEq, Except.ok.injEq]
        at this; exact this.1.symm
    rw [next_ok]
    refine (wp_serversFromSDK T items t).imp fun r' t' ⟨hc', out, hout, hids⟩ => ?_
    subst hout
    refine ⟨hc'.trans hc, ?_⟩
    show out.map (·.id) = taggedIDs T s.cloud
    have htagged :
        taggedIDs T s.cloud = (s.cloud.servers.filter fun x => labelsContainTags x.labels T).map
        (·.id) :=
      tagged_eq rfl
    rw [hids, hitems, List.filter_filter, htagged]; simp

/-- A server found by tags carries them; "not found" means that there is none. -/
theorem wp_findServerByTags (T : StringMap) (s : Session) :
    wp (findServerByTags T) (Found .server T Server.id s) s := by
  unfold findServerByTags
  rw [wp_bind]
  refine (wp_listServersByTags T s).imp fun r t ⟨hc, hr⟩ => ?_
  cases r with
  | error e => exact ⟨hc, fun hnf => by simp_all⟩
  | ok out => exact wp_single_found hc hr

/-- A server is found by its ID exactly if it exists. -/
theorem wp_getServer (id : String) (s : Session) :
    wp (getServer id) (fun r t => t.cloud = s.cloud ∧
      match r with
      | .ok a => a.id = id ∧ Present .server id s.cloud
      | .error e => isNotFound e = true → ¬ Present .server id s.cloud) s := by
  unfold getServer
  rw [wp_bind]
  refine wp_request fun r c t hr ht => ?_
  have hc : t.cloud = s.cloud := ht.cloud.trans (hr.cloud_eq (readOnly_getServer id))
  cases r with
  | error e =>
    refine ⟨hc, fun hnf => ?_⟩
    obtain ⟨e', -, he'⟩ := hr.notFound hnf
    refine not_present_of_missing ?_
    unfold Cloud.getServer at he'
    split at he'
    · simp at he'
    · assumption
  | ok server =>
    have hserver : server.id = id ∧ Present .server id s.cloud := by
      have h := hr.ok
      unfold Cloud.getServer at h
      split at h
      · rename_i x hx
        cases h
        have hid : server.id = id := by simpa using List.find?_some hx
        exact ⟨hid, server.labels,
          List.mem_map.2 ⟨server, List.mem_of_find?_eq_some hx, by rw [hid]⟩⟩
      · simp [Cloud.missing] at h
    rw [next_ok]
    refine (wp_serverFromSDK server t).imp fun r' t' ⟨hc', a, ha, haid⟩ => ?_
    subst ha
    exact ⟨hc'.trans hc, haid.trans hserver.1, hserver.2⟩

/-! ### Requests of the look-ups -/

theorem reads_serverFromSDK (server : SDKServer) : Keeps Reads (serverFromSDK server) :=
  .bind Reads.closed (Keeps.attempt (reads_request rfl)) fun _ => .pure Reads.closed _

theorem reads_serversFromSDK (T : StringMap) (l : List SDKServer) :
    Keeps Reads (serversFromSDK T l) := by
  have hR := Reads.closed
  induction l with
  | nil => exact .pure hR []
  | cons x l ih =>
    unfold serversFromSDK
    exact .ite (.bind hR (reads_serverFromSDK x) fun _ => .bind hR ih fun _ => .pure hR _) ih

theorem reads_listServersByTags (T : StringMap) : Keeps Reads (listServersByTags T) :=
  keeps_requireTags Reads.closed (.bind Reads.closed (reads_request rfl) fun items =>
    reads_serversFromSDK T items)

theorem reads_findServerByTags (T : StringMap) : Keeps Reads (findServerByTags T) :=
  .bind Reads.closed (reads_listServersByTags T) fun l => keeps_single Reads.closed _ _ l

/-! ### Creating a server -/

/-- `c'` is `c` with at most one new server, which carries `T`; there was none before it. -/
def CreatedAtMostOne (T : StringMap) (c c' : Cloud) : Prop :=
  taggedIDs T c' = taggedIDs T c ∨ (taggedIDs T c = [] ∧ ∃ id, id ≠ "" ∧ taggedIDs T c' = [id])

theorem CreatedAtMostOne.of_ensured {T : StringMap} {c c' : Cloud} (h : Ensured .server T c c') :
    CreatedAtMostOne T c c' := by
  rcases h.this with hsame | ⟨hnone, id, hid, hnew⟩
  · exact .inl (SameServers.taggedIDs_eq hsame T)
  · refine .inr ⟨hnone, id, hid, ?_⟩
    rw [taggedIDs, tagged_append hnew, hnone]; simp

/-- `CreateServer` creates a server only if none carries its tags, and answers with the one that
does. -/
theorem wp_createServer (input : CreateServerInput) (s : Session) :
    wp (createServer input) (fun r t => Ensured .server input.tags s.cloud t.cloud ∧
      ∀ a, r = .ok a → taggedIDs input.tags t.cloud = [a.id]) s :=
  wp_ensure (adds_createServer (createServerPayload input)) (wp_findServerByTags input.tags s)
    wp_serverFromSDK

/-! ### Calls that leave the servers alone -/

theorem sameServers_read {α : Type} {op : String} {req : Request} {effect : Cloud.Effect α}
    (h : ReadOnly effect) : Keeps (fun s t : Session => SameServers s.cloud t.cloud)
      (request op req effect) :=
  keeps_request (fun _ => rfl) fun c => by rw [h c]; rfl

theorem sameServers_findSecurityGroupByTags (T : StringMap) :
    Keeps (fun s t : Session => SameServers s.cloud t.cloud) (findSecurityGroupByTags T) := by
  refine .bind SameServers.closed (keeps_requireTags SameServers.closed ?_) fun l =>
    keeps_single SameServers.closed _ _ l
  exact .bind SameServers.closed (sameServers_read fun _ => rfl) fun _ => .pure SameServers.closed _

theorem sameServers_ensureSecurityGroup (name description : String) (T : StringMap) :
    Keeps (fun s t : Session => SameServers s.cloud t.cloud)
      (ensureSecurityGroup name description T) := by
  refine keeps_existingOr SameServers.closed (sameServers_findSecurityGroupByTags T) ?_
  exact .bind SameServers.closed (keeps_request (fun _ => rfl) fun c => rfl) fun _ =>
    .pure SameServers.closed _

theorem sameServers_ensureNodeSSHAccess (input : NodeSSHAccessInput) :
    Keeps (fun s t : Session => SameServers s.cloud t.cloud) (ensureNodeSSHAccess input) := by
  have hR := SameServers.closed
  have hsame : ∀ {α : Type} {x : Call Session α},
      Keeps (fun s t : Session => SameResources s.cloud t.cloud) x →
        Keeps (fun s t : Session => SameServers s.cloud t.cloud) x :=
        fun h => h.imp fun _ _ h => .of_same h
  refine .ite (.fail hR _) (.ite (.fail hR _) ?_)
  refine .bind hR (sameServers_ensureSecurityGroup _ _ _) fun g => .bind hR ?_ fun _ =>
    .bind hR (hsame (sameResources_addSecurityGroupToServer _ _)) fun _ => .pure hR g
  refine .ite (.fail hR _) (.bind hR (hsame (sameResources_listRules _)) fun rules => ?_)
  exact .ite (.pure hR ()) (hsame (sameResources_createRule _ _))

end SDKClient

end Capstk
