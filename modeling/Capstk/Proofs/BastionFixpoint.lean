import Capstk.Proofs.Repeats
import Capstk.Proofs.BastionRules
import Capstk.Proofs.BastionAttachment

/-!
# `EnsureBastion` and `EnsureNodeSSHAccess` a second time

Each part of the two calls comes with two lemmas: what it leaves behind when it succeeds
(`…_leaves`), and that over such a cloud it repeats its answer (`repeats_…`). A part only changes
the resources of its own kind, so what the parts before it have left is still there at the end.
-/

namespace Capstk

open Prog SDKClient

variable {c c' c'' : Cloud} {T : StringMap} {s : Session} {g : String} {cidrs : List String}

/-- A result leaves `P` behind, and no failure is coming that was not coming before. -/
abbrev Leaves {α : Type} (s : Session) (P : α → Session → Prop) :
    Except GoError α → Session → Prop :=
  Via (fun s t : Session => Answered s → Answered t) s P

theorem closed_answered : Closed fun s t : Session => Answered s → Answered t := .imp Answered

theorem Leaves.ok {α : Type} {P : α → Session → Prop} {a : α} {t : Session} (ht : Answered t)
    (h : P a t) :
    Leaves s P (.ok a) t := Via.ok (fun _ => ht) h

theorem Leaves.error {α : Type} {P : α → Session → Prop} {e : GoError} {t : Session}
    (ht : Answered t) :
    Leaves (α := α) s P (.error e) t := Via.error fun _ => ht

theorem wp_leaves_bind {α β : Type} {x : Call Session α} {f : α → Call Session β}
    {P : α → Session → Prop} {Q : Except GoError β → Session → Prop} (hs : Answered s)
    (hx : wp x (Leaves s P) s) (he : ∀ e t, Q (.error e) t)
    (hf : ∀ a t, Answered t → P a t → wp (f a) Q t) : wp (x >>= f) Q s := by
  rw [wp_bind]
  refine hx.imp fun r t hr => ?_
  cases r with
  | error e => exact he e t
  | ok a => exact hf a t (hr.1 hs) (hr.2 a rfl)

/-! ### Security groups -/

structure GroupEnsured (T : StringMap) (g : SecurityGroup) (c c' : Cloud) : Prop where
  tags : T.entries.isEmpty = false
  this : groupsOf T c' = [g]
  rules : ∀ id, rulesOf id c' = rulesOf id c
  issues : Issues c c'
  frame : c' = { c with securityGroups := c'.securityGroups, issued := c'.issued }

theorem rulesOf_createSecurityGroup (name description id : String) (c : Cloud) :
    rulesOf id (Cloud.createSecurityGroup name description T c).2 = rulesOf id c := by
  rw [rulesOf, rulesOf, Cloud.createSecurityGroup, List.find?_append]
  cases c.securityGroups.find? (·.id == id) with
  | some x => rfl
  | none =>
    rw [Option.none_or, List.find?_singleton]
    split <;> rfl

theorem ensureSecurityGroup_leaves (name description : String) (hs : Answered s) :
    wp (ensureSecurityGroup name description T)
      (Leaves s fun g t => GroupEnsured T g s.cloud t.cloud) s := by
  refine wp_existingOr ((wp_lookup repeats_listGroups hs rfl).imp fun r t hr => ?_)
  obtain ⟨ht, hr⟩ := hr
  cases r with
  | ok g =>
    refine .ok ht.answered ?_
    rw [ht.cloud]
    exact ⟨hr.1, hr.2, fun _ => rfl, .refl _, rfl⟩
  | error e =>
    dsimp only
    split
    · rename_i hnone
      obtain ⟨hT, hnone⟩ := hr (.inl hnone)
      refine wp_answered_bind ht.answered rfl fun u hu hc => ?_
      rw [ht.cloud] at hc ⊢
      rw [wp_pure]
      refine .ok hu ?_
      rw [hc]
      refine ⟨hT, ?_, fun id => rulesOf_createSecurityGroup name description id _,
        ⟨rfl, Nat.le_succ _⟩, rfl⟩
      show groupsOf T (Cloud.createSecurityGroup name description T s.cloud).2 = _
      rw [groupsOf, Cloud.createSecurityGroup, List.filter_append, List.map_append,
        ← groupsOf, hnone]
      simp
    · exact .error ht.answered

theorem repeats_ensureSecurityGroup (name description : String) {g : SecurityGroup}
    (hT : T.entries.isEmpty = false) (h : groupsOf T c = [g]) :
    Repeats c (ensureSecurityGroup name description T) g :=
  (repeats_lookup repeats_listGroups hT h).existingOr

theorem find_of_groupsOf {g : SecurityGroup} (h : groupsOf T c = [g]) :
    ∃ x, c.securityGroups.find? (·.id == g.id) = some x := by
  obtain ⟨x, hx, hg⟩ := List.mem_map.1 (h ▸ List.mem_singleton_self g : g ∈ groupsOf T c)
  refine Option.isSome_iff_exists.1 (List.find?_isSome.2 ⟨x, (List.mem_filter.1 hx).1, ?_⟩)
  rw [← hg]
  exact beq_self_eq_true _

/-! ### Rules -/

/-- Nothing has changed but the rules of groups. -/
structure OnlyRules (c c' : Cloud) : Prop where
  heads : c'.securityGroups.map (fun x => (securityGroupFromSDK x, x.labels)) =
    c.securityGroups.map fun x => (securityGroupFromSDK x, x.labels)
  issues : Issues c c'
  frame : c' = { c with securityGroups := c'.securityGroups, issued := c'.issued }

namespace OnlyRules

theorem refl (c : Cloud) : OnlyRules c c := ⟨rfl, .refl c, rfl⟩

theorem trans (h : OnlyRules c c') (h' : OnlyRules c' c'') : OnlyRules c c'' := by
  refine ⟨h'.heads.trans h.heads, h.issues.trans h'.issues, ?_⟩
  rw [h'.frame, h.frame]

theorem closed : Closed fun s t : Session => OnlyRules s.cloud t.cloud :=
  ⟨fun s => refl s.cloud, trans⟩

theorem groupsOf (h : OnlyRules c c') : groupsOf T c' = groupsOf T c := by
  have hheads : ∀ c : Cloud, SDKClient.groupsOf T c =
      ((c.securityGroups.map fun x => (securityGroupFromSDK x, x.labels)).filter
        fun x => labelsContainTags x.2 T).map Prod.fst := fun c => by
    simp [SDKClient.groupsOf, List.filter_map, Function.comp_def]
  rw [hheads, h.heads, ← hheads]

theorem of_withRules {f : List SDKRule → List SDKRule} {n : Nat} (hn : c.issued ≤ n) :
    OnlyRules c { c with securityGroups := withRules g f c, issued := n } := by
  refine ⟨?_, ⟨rfl, hn⟩, rfl⟩
  rw [withRules, List.map_map]
  refine List.map_congr_left fun x _ => ?_
  rw [Function.comp_apply]
  split <;> rfl

theorem createSecurityGroupRule (g : String) (p : SDKRulePayload) (c : Cloud) :
    OnlyRules c (Cloud.createSecurityGroupRule g p c).2 := by
  unfold Cloud.createSecurityGroupRule
  split
  · exact of_withRules (f := (· ++ [⟨c.ids.newID c.issued, p⟩])) (Nat.le_succ _)
  · exact refl c

theorem deleteSecurityGroupRule (g r : String) (c : Cloud) :
    OnlyRules c (Cloud.deleteSecurityGroupRule g r c).2 := by
  unfold Cloud.deleteSecurityGroupRule
  split
  · split
    · exact of_withRules (f := (·.filter (·.id != r))) (Nat.le_refl _)
    · exact refl c
  · exact refl c

end OnlyRules

/-- Port 22 is open from exactly these ranges. -/
structure RulesEnsured (g : String) (cidrs : List String) (c : Cloud) : Prop where
  group : g ≠ ""
  named : "" ∉ cidrs
  ranges : ∀ x, x ∈ openRanges (rulesOf g c) ↔ x ∈ cidrs

theorem ensureBastionSecurityGroupRules_leaves (hs : Answered s)
    (hdistinct : DistinctRules g s.cloud) (hpresent : Present .securityGroup g s.cloud)
    (hcidrs : "" ∉ cidrs) :
    wp (ensureBastionSecurityGroupRules g cidrs)
      (Leaves s fun _ t => RulesEnsured g cidrs t.cloud ∧ OnlyRules s.cloud t.cloud) s := by
  by_cases hne : g = ""
  · rw [ensureBastionSecurityGroupRules, if_pos hne]
    exact wp_via_fail closed_answered _
  have hanswered := wp_ensureBastionSecurityGroupRules_answered hs hne hpresent hcidrs
  have honly :=
    (keeps_ensureBastionSecurityGroupRules OnlyRules.closed (OnlyRules.createSecurityGroupRule g)
    (OnlyRules.deleteSecurityGroupRule g) cidrs).wp s
  have hconverged : wp (ensureBastionSecurityGroupRules g cidrs) (fun r t => ∀ a, r = .ok a →
      OnTheWay g cidrs s.cloud t.cloud ∧ Converged g cidrs s t) s := by
    rw [← Stepwise.run_ensureBastionSecurityGroupRules]
    exact (Stepwise.always_ensureBastionSecurityGroupRules hdistinct).run
  refine ((hanswered.and honly).and hconverged).imp fun r t h => ?_
  obtain ⟨⟨⟨ht, a, rfl, -⟩, honly⟩, hconverged⟩ := h
  exact .ok ht ⟨⟨hne, hcidrs, fun x => (hconverged a rfl).2.mem_openRanges⟩, honly⟩

theorem repeats_listRules {x : SDKSecurityGroup} (h : c.securityGroups.find? (·.id == g) = some x) :
    Repeats c (listRules g) (rulesOf g c) := by
  refine repeats_request rfl ?_
  rw [Cloud.listSecurityGroupRules, rulesOf, h]
  rfl

theorem repeats_allowCIDRs {rules : List SDKRule} (desired : List String) (hcidrs : "" ∉ cidrs)
    (h : ∀ x ∈ cidrs, hasSSHRule rules x = true) :
    ∃ d, Repeats c (allowCIDRs g rules desired cidrs) d ∧ ∀ x, x ∈ d ↔ x ∈ desired ∨ x ∈ cidrs := by
  induction cidrs generalizing desired with
  | nil => exact ⟨desired, .pure desired, by simp⟩
  | cons cidr cidrs ih =>
    obtain ⟨hcidr, hrest⟩ : ¬ "" = cidr ∧ "" ∉ cidrs := by simpa using hcidrs
    have hhas : ∀ x ∈ cidrs, hasSSHRule rules x = true :=
      fun x hx => h x (List.mem_cons_of_mem _ hx)
    rw [allowCIDRs, if_neg (Ne.symm hcidr)]
    by_cases hseen : desired.contains cidr = true
    · obtain ⟨d, hd, hmem⟩ := ih desired hrest hhas
      rw [if_pos hseen]
      refine ⟨d, hd, fun x => ?_⟩
      have hx : x = cidr → x ∈ desired := fun hx => hx ▸ List.contains_iff_mem.1 hseen
      rw [hmem, List.mem_cons]
      tauto
    · obtain ⟨d, hd, hmem⟩ := ih (cidr :: desired) hrest hhas
      rw [if_neg hseen, if_pos (h cidr List.mem_cons_self)]
      refine ⟨d, hd, fun x => ?_⟩
      rw [hmem, List.mem_cons, List.mem_cons]
      tauto

theorem repeats_ensureBastionSecurityGroupRules {x : SDKSecurityGroup}
    (hx : c.securityGroups.find? (·.id == g) = some x) (h : RulesEnsured g cidrs c) :
    Repeats c (ensureBastionSecurityGroupRules g cidrs) () := by
  rw [ensureBastionSecurityGroupRules, if_neg h.group]
  obtain ⟨d, hd, hmem⟩ := repeats_allowCIDRs (c := c) (g := g) [] h.named fun x hx =>
    hasSSHRule_iff.2 ((h.ranges x).2 hx)
  refine .bind (repeats_listRules hx) (.bind hd (.forEach fun rule hrule => ?_))
  have hkept : (!isSSHRule rule || d.contains rule.payload.ipRange) = true := by
    cases hssh : isSSHRule rule with
    | false => rfl
    | true =>
      have hrange := (h.ranges _).1 (mem_openRanges.2 ⟨rule, hrule, hssh, rfl⟩)
      simpa [hmem] using hrange
  rw [if_pos hkept]
  exact .pure ()

/-! ### Servers -/

/-- The server with these tags, found or made. -/
structure ServerEnsured (T : StringMap) (a : Server) (c c' : Cloud) : Prop where
  tags : T.entries.isEmpty = false
  this : serversOf T c' = [a]
  made : c' = c ∨ ∃ p, c' = (Cloud.createServer p c).2

namespace ServerEnsured
variable {a : Server}

theorem keepsUnique (h : ServerEnsured T a c c') (k : Kind) : KeepsUnique k c c' := by
  rcases h.made with rfl | ⟨p, rfl⟩
  · exact .refl k c'
  · exact keepsUnique_createServer k p c

theorem frame (h : ServerEnsured T a c c') :
    c' = { c with servers := c'.servers, issued := c'.issued } := by
  rcases h.made with rfl | ⟨p, rfl⟩ <;> rfl

theorem interfaces (h : ServerEnsured T a c c') (hc : ∀ x ∈ c.servers, ∀ n ∈ x.nics, n.id ≠ "") :
    ∀ x ∈ c'.servers, ∀ n ∈ x.nics, n.id ≠ "" := by
  rcases h.made with rfl | ⟨p, rfl⟩
  · exact hc
  · intro x hx
    rcases List.mem_append.1 hx with hx | hx
    · exact hc x hx
    · rw [List.mem_singleton.1 hx]
      exact (c.provisioning.server _).named

theorem named (h : ServerEnsured T a c c') (hc : ∀ x ∈ c.servers, x.id ≠ "") :
    ∀ x ∈ c'.servers, x.id ≠ "" := by
  rcases h.made with rfl | ⟨p, rfl⟩
  · exact hc
  · intro x hx
    rcases List.mem_append.1 hx with hx | hx
    · exact hc x hx
    · rw [List.mem_singleton.1 hx]
      exact c.ids.nonempty _

end ServerEnsured

/-- The answer of `CreateServer` is what later look-ups will find, whatever state and interfaces the
server starts with. -/
theorem createServer_leaves {input : CreateServerInput} (hs : Answered s) :
    wp (createServer input) (Leaves s fun a t => ServerEnsured input.tags a s.cloud t.cloud) s := by
  refine wp_existingOr ((wp_lookup repeats_listServers hs rfl).imp fun r t hr => ?_)
  obtain ⟨ht, hr⟩ := hr
  cases r with
  | ok a =>
    refine .ok ht.answered ?_
    rw [ht.cloud]
    exact ⟨hr.1, hr.2, .inl rfl⟩
  | error e =>
    dsimp only
    split
    · rename_i hnone
      obtain ⟨hT, hnone⟩ := hr (.inl hnone)
      refine wp_answered_bind ht.answered rfl fun u hu hc => ?_
      rw [ht.cloud] at hc ⊢
      refine (repeats_serverFromSDK _).wp hu rfl fun v hv => ?_
      refine .ok hv.answered ⟨hT, ?_, .inr ⟨createServerPayload input, hv.cloud.trans hc⟩⟩
      have hold : s.cloud.servers.filter (fun x => labelsContainTags x.labels input.tags) = [] :=
        List.map_eq_nil_iff.1 hnone
      rw [hv.cloud, serversOf]
      conv_lhs => rw [show u.cloud.servers = s.cloud.servers ++ _ from congrArg Cloud.servers hc]
      rw [List.filter_append, hold, List.nil_append]
      simp [createServerPayload]
    · exact .error ht.answered

theorem repeats_createServer {input : CreateServerInput} {a : Server}
    (hT : input.tags.entries.isEmpty = false) (h : serversOf input.tags c = [a]) :
    Repeats c (createServer input) a :=
  (repeats_lookup repeats_listServers hT h).existingOr

/-! ### Attached groups -/

section attached
variable {serverID groupID : String}

theorem serverOf_withGroup (c : Cloud) (x : SDKServer) :
    serverOf c (withGroup serverID groupID x) = serverOf c x := by
  unfold withGroup
  split <;> rfl

theorem groupAttached_add (serverID groupID : String) (c : Cloud) :
    GroupAttached serverID groupID (Cloud.addSecurityGroupToServer serverID groupID c).2 := by
  rcases addSecurityGroupToServer_cases serverID groupID c with ⟨hc, h⟩ | hc
  · rw [hc]
    exact h
  · rw [hc]
    intro x y hx _
    rw [find_withGroup, Option.map_eq_some_iff] at hx
    obtain ⟨x', hx', rfl⟩ := hx
    refine .inr ?_
    rw [withGroup, if_pos (List.find?_some (p := fun x : SDKServer => x.id == serverID) hx')]
    exact List.mem_append_right _ (List.mem_singleton_self _)

theorem serverOf_add (serverID groupID : String) (c : Cloud) (x : SDKServer) :
    serverOf (Cloud.addSecurityGroupToServer serverID groupID c).2 x = serverOf c x := by
  rcases addSecurityGroupToServer_cases serverID groupID c with ⟨hc, -⟩ | hc
  · rw [hc]
  · rw [hc, serverOf, serverOf, find_withGroup]
    cases c.servers.find? (·.id == x.id) with
    | none => rfl
    | some y =>
      simp only [Option.map_some, Option.getD_some, (withGroup_head y).2.2]

theorem serversOf_add :
    serversOf T (Cloud.addSecurityGroupToServer serverID groupID c).2 = serversOf T c := by
  rw [serversOf, funext fun x => serverOf_add serverID groupID c x, serversOf]
  rcases addSecurityGroupToServer_cases serverID groupID c with ⟨hc, -⟩ | hc
  · rw [hc]
  · rw [hc, List.filter_map, List.map_map]
    simp only [Function.comp_def, (withGroup_head _).2.1, serverOf_withGroup]

theorem perform_cloud {α : Type} {op : String} {effect : Cloud.Effect α} (c : Cloud) :
    (perform op effect c).2 = (effect c).2 := settle_cloud .answered c

theorem addSecurityGroupToServer_leaves (hs : Answered s) :
    wp (addSecurityGroupToServer serverID groupID)
    (Leaves s fun _ t => t.cloud = (Cloud.addSecurityGroupToServer serverID groupID s.cloud).2) s :=
  by
  have hrequest :
      wp (request "add security group to server" (.addSecurityGroupToServer serverID groupID)
        (Cloud.addSecurityGroupToServer serverID groupID))
        (fun _ t => Answered t ∧
          t.cloud = (Cloud.addSecurityGroupToServer serverID groupID s.cloud).2) s :=
    wp_answered hs fun t ht hc => ⟨ht, hc.trans (perform_cloud ..)⟩
  exact wp_tolerate_of hrequest (fun _ t ⟨ht, hc⟩ _ => .ok ht hc) fun _ t ⟨ht, _⟩ _ => .error ht

theorem repeats_addSecurityGroupToServer (h : GroupAttached serverID groupID c) :
    Repeats c (addSecurityGroupToServer serverID groupID) () := by
  rintro s hs rfl
  have hrefused : ∃ e, Cloud.addSecurityGroupToServer serverID groupID s.cloud =
      (.error e, s.cloud) ∧
        (isConflict (classifySDKError "add security group to server" e) ||
          isInvalidInput (classifySDKError "add security group to server" e) ||
          isNotFound (classifySDKError "add security group to server" e)) = true := by
    rw [Cloud.addSecurityGroupToServer]
    split
    · rename_i x y hx hy
      split
      · exact ⟨_, rfl, rfl⟩
      · rename_i hnics
        have hmem := (h x y hx hy).resolve_left (by simpa using hnics)
        rw [if_pos (by simpa using hmem)]
        exact ⟨_, rfl, rfl⟩
    · exact ⟨_, rfl, rfl⟩
  obtain ⟨e, heffect, he⟩ := hrefused
  refine wp_tolerate (wp_harmless rfl (by rw [heffect]) hs fun t ht => ?_)
  rw [perform, heffect]
  dsimp only
  rw [if_pos he]
  exact ⟨rfl, ht⟩

end attached

/-! ### Public addresses -/

section address
variable {serverID publicIPID nicID : String} {ip : PublicIP} {p : SDKPublicIP}

def withInterface (publicIPID nicID : String) (p : SDKPublicIP) : SDKPublicIP :=
  if p.id == publicIPID then { p with networkInterface := nicID } else p

theorem find_withInterface (l : List SDKPublicIP) :
    (l.map (withInterface publicIPID nicID)).find? (·.id == publicIPID) =
    (l.find? (·.id == publicIPID)).map (withInterface publicIPID nicID) := by
  rw [List.find?_map]
  congr 2
  funext p
  rw [Function.comp_apply, withInterface]
  split <;> rfl

theorem publicIPFromSDK_withInterface (hp : publicIPFromSDK p = ip) :
    publicIPFromSDK (withInterface ip.id nicID p) = { ip with networkInterfaceID := nicID } := by
  have hid : (p.id == ip.id) = true := by
    rw [← hp]
    exact beq_self_eq_true _
  rw [withInterface, if_pos hid, ← hp]
  rfl

/-- The address is attached to an interface of the server, or the request is refused. -/
theorem addPublicIpToServer_cases (serverID publicIPID : String) (c : Cloud) :
    (∃ e, Cloud.addPublicIpToServer serverID publicIPID c = (.error e, c)) ∨
      ∃ nicID, Cloud.addPublicIpToServer serverID publicIPID c =
          (.ok (), { c with publicIPs := c.publicIPs.map (withInterface publicIPID nicID) }) ∧
        ∃ x ∈ c.servers, ∃ n ∈ x.nics, n.id = nicID := by
  rw [Cloud.addPublicIpToServer]
  split
  · rename_i x _ hx _
    split
    · rename_i nic rest hnics
      exact .inr ⟨nic.id, rfl, x, List.mem_of_find?_eq_some hx, nic,
        by rw [hnics]; exact List.mem_cons_self, rfl⟩
    · exact .inl ⟨_, rfl⟩
  · exact .inl ⟨_, rfl⟩

theorem publicIPsOf_withInterface (h : publicIPsOf T c = [ip]) :
    publicIPsOf T { c with publicIPs := c.publicIPs.map (withInterface ip.id nicID) } =
      [{ ip with networkInterfaceID := nicID }] := by
  have hlabels : ∀ p, (withInterface ip.id nicID p).labels = p.labels := fun p => by
    unfold withInterface
    split <;> rfl
  obtain ⟨p, hp, hip⟩ := List.map_eq_singleton_iff.1 h
  rw [publicIPsOf, List.filter_map]
  simp only [Function.comp_def, hlabels, hp]
  rw [List.map_singleton, List.map_singleton, publicIPFromSDK_withInterface hip]

/-- The address with these tags, found or made. -/
structure AddressEnsured (T : StringMap) (ip : PublicIP) (c c' : Cloud) : Prop where
  tags : T.entries.isEmpty = false
  this : publicIPsOf T c' = [ip]
  made : c' = c ∨ ∃ L, c' = (Cloud.createPublicIP L c).2

namespace AddressEnsured

theorem frame (h : AddressEnsured T ip c c') :
    c' = { c with publicIPs := c'.publicIPs, issued := c'.issued } := by
  rcases h.made with rfl | ⟨L, rfl⟩ <;> rfl

theorem find (h : AddressEnsured T ip c c') (hids : UniqueIDs .publicIP c) :
    ∃ p, c'.publicIPs.find? (·.id == ip.id) = some p ∧ publicIPFromSDK p = ip := by
  have hids' : UniqueIDs .publicIP c' := by
    rcases h.made with rfl | ⟨L, rfl⟩
    · exact hids
    · exact (keepsUnique_createPublicIP .publicIP L c).unique hids
  obtain ⟨p, hp, rfl⟩ :=
    List.mem_map.1 (h.this ▸ List.mem_singleton_self ip : ip ∈ publicIPsOf T c')
  exact ⟨p, find_publicIP hids' (List.mem_filter.1 hp).1, rfl⟩

end AddressEnsured

theorem ensurePublicIP_leaves (hs : Answered s) :
    wp (ensurePublicIP T) (Leaves s fun ip t => AddressEnsured T ip s.cloud t.cloud) s := by
  refine wp_existingOr ((wp_lookup repeats_listPublicIPs hs rfl).imp fun r t hr => ?_)
  obtain ⟨ht, hr⟩ := hr
  cases r with
  | ok ip =>
    refine .ok ht.answered ?_
    rw [ht.cloud]
    exact ⟨hr.1, hr.2, .inl rfl⟩
  | error e =>
    dsimp only
    split
    · rename_i hnone
      obtain ⟨hT, hnone⟩ := hr (.inl hnone)
      refine wp_answered_bind ht.answered rfl fun u hu hc => ?_
      rw [ht.cloud] at hc ⊢
      rw [wp_pure]
      refine .ok hu ⟨hT, ?_, .inr ⟨T, hc⟩⟩
      rw [publicIPsOf,
        show u.cloud.publicIPs = s.cloud.publicIPs ++ _ from congrArg Cloud.publicIPs hc,
        List.filter_append, List.map_append, ← publicIPsOf, hnone]
      simp
    · exact .error ht.answered

theorem repeats_ensurePublicIP (hT : T.entries.isEmpty = false) (h : publicIPsOf T c = [ip]) :
    Repeats c (ensurePublicIP T) ip := (repeats_lookup repeats_listPublicIPs hT h).existingOr

/-- A request to attach a public address that was refused. -/
def LogEntry.isRefusedAddress (x : LogEntry) : Bool :=
  match x.request with
  | .addPublicIpToServer _ _ => x.error.isSome
  | _ => false

/-- The attachment of a public address. -/
structure AddressAttached (ip ip' : PublicIP) (c c' : Cloud) : Prop where
  interface : ip'.networkInterfaceID ≠ ""
  this : ∀ T, publicIPsOf T c = [ip] → publicIPsOf T c' = [ip']

theorem repeats_getPublicIP (h : c.publicIPs.find? (·.id == publicIPID) = some p) :
    Repeats c (getPublicIP publicIPID) (publicIPFromSDK p) := by
  refine .bind (repeats_request rfl ?_) (.pure _)
  rw [Cloud.getPublicIP, h]

theorem wp_addPublicIp_logged {publicIPID : String} (hs : Answered s) :
    wp (request "add public IP to server" (.addPublicIpToServer serverID publicIPID)
      (Cloud.addPublicIpToServer serverID publicIPID)) (fun r t => Answered t ∧
        t.cloud = (Cloud.addPublicIpToServer serverID publicIPID s.cloud).2 ∧
        r = (perform "add public IP to server" (Cloud.addPublicIpToServer serverID publicIPID)
          s.cloud).1 ∧
        ⟨.addPublicIpToServer serverID publicIPID, errorOf r⟩ ∈ t.log) s := by
  have hanswered : wp (request "add public IP to server" (.addPublicIpToServer serverID publicIPID)
      (Cloud.addPublicIpToServer serverID publicIPID)) (fun r t => Answered t ∧
        t.cloud = (Cloud.addPublicIpToServer serverID publicIPID s.cloud).2 ∧
        r = (perform "add public IP to server" (Cloud.addPublicIpToServer serverID publicIPID)
          s.cloud).1) s :=
    wp_answered hs fun t ht hc => ⟨ht, hc.trans (perform_cloud _), rfl⟩
  refine (hanswered.and (wp_request fun r _ t _ hi => hi.log)).imp fun r t h => ?_
  obtain ⟨⟨ht, hc, hr⟩, hlog⟩ := h
  exact ⟨ht, hc, hr, hlog ▸ List.mem_append_right _ (List.mem_singleton_self _)⟩

theorem attachPublicIP_leaves (hs : Answered s)
    (hfind : s.cloud.publicIPs.find? (·.id == ip.id) = some p) (hp : publicIPFromSDK p = ip)
    (hnics : ∀ x ∈ s.cloud.servers, ∀ n ∈ x.nics, n.id ≠ "") :
    wp (attachPublicIP serverID ip) (Leaves s fun ip' t => ip'.ip = ip.ip ∧
      t.cloud = { s.cloud with publicIPs := t.cloud.publicIPs } ∧
      ((∀ x ∈ t.log, x.isRefusedAddress = false) → AddressAttached ip ip' s.cloud t.cloud)) s := by
  refine wp_ite (fun _ => ?detached) fun hne => ?attached
  case attached =>
    rw [wp_pure]
    exact .ok hs ⟨rfl, rfl, fun _ => ⟨hne, fun _ h => h⟩⟩
  rw [wp_bind]
  refine wp_tolerate ((wp_addPublicIp_logged hs).imp fun r t h => ?_)
  obtain ⟨ht, hc, hr, hlogged⟩ := h
  rcases addPublicIpToServer_cases serverID ip.id s.cloud
    with ⟨e, heffect⟩ | ⟨nicID, heffect, x, hx, n, hn, hid⟩
  · rw [perform, heffect] at hr
    rw [heffect] at hc
    subst hr
    dsimp only
    split
    · rw [next_ok]
      refine (repeats_getPublicIP (p := p) (by rw [hc, hfind])).wp ht rfl fun u hu => ?_
      refine .ok hu.answered ⟨by rw [hp], by rw [hu.cloud, hc], fun hfine => ?_⟩
      obtain ⟨new, hnew, -⟩ := hu.log
      have hrefused := hfine _ (hnew ▸ List.mem_append_left _ hlogged)
      cases hrefused
    · rw [next_error]
      exact .error ht
  · rw [perform, heffect] at hr
    rw [heffect] at hc
    subst hr
    have hfind' : t.cloud.publicIPs.find? (·.id == ip.id) = some (withInterface ip.id nicID p) := by
      rw [hc, find_withInterface, hfind]
      rfl
    rw [next_ok]
    refine (repeats_getPublicIP hfind').wp ht rfl fun u hu => ?_
    rw [publicIPFromSDK_withInterface hp]
    refine .ok hu.answered
      ⟨rfl, by rw [hu.cloud, hc], fun _ => ⟨hid ▸ hnics x hx n hn, fun T hT => ?_⟩⟩
    rw [hu.cloud, hc]
    exact publicIPsOf_withInterface hT

theorem repeats_attachPublicIP (h : ip.networkInterfaceID ≠ "") :
    Repeats c (attachPublicIP serverID ip) ip := by
  rw [attachPublicIP, if_neg h]
  exact .pure ip

end address

/-! ### `EnsureBastion` -/

/-- What is relied on of the IDs in the cloud: they are there and tell apart what they name. -/
structure BastionIDs (c : Cloud) : Prop where
  publicIPs : UniqueIDs .publicIP c
  rules : ∀ g, DistinctRules g c
  interfaces : ∀ x ∈ c.servers, ∀ n ∈ x.nics, n.id ≠ ""

theorem DistinctRules.congr (h : DistinctRules g c) (hi : Issues c c')
    (hr : rulesOf g c' = rulesOf g c) : DistinctRules g c' := by
  refine ⟨?_, ?_, ?_⟩
  · rw [hr]
    exact h.nodup
  · rw [hr]
    exact h.nonempty
  · rw [hr]
    exact fun r hmem => (h.used r hmem).issues hi

theorem present_of_find {x : SDKSecurityGroup} (h : c.securityGroups.find? (·.id == g) = some x) :
    Present .securityGroup g c := by
  have hid : x.id = g := by simpa using List.find?_some h
  exact ⟨x.labels, List.mem_map.2 ⟨x, List.mem_of_find?_eq_some h, by rw [hid]⟩⟩

theorem issues_addSecurityGroupToServer (serverID groupID : String) (c : Cloud) :
    Issues c (Cloud.addSecurityGroupToServer serverID groupID c).2 := by
  rcases addSecurityGroupToServer_cases serverID groupID c with ⟨hc, -⟩ | hc
  · rw [hc]
    exact .refl c
  · rw [hc]
    exact ⟨rfl, Nat.le_refl _⟩

theorem interfaces_add {serverID groupID : String} (h : ∀ x ∈ c.servers, ∀ n ∈ x.nics, n.id ≠ "") :
    ∀ x ∈ (Cloud.addSecurityGroupToServer serverID groupID c).2.servers, ∀ n ∈ x.nics,
    n.id ≠ "" := by
  rcases addSecurityGroupToServer_cases serverID groupID c with ⟨hc, -⟩ | hc
  · rw [hc]
    exact h
  · rw [hc]
    intro x hx n hn
    obtain ⟨y, hy, rfl⟩ := List.mem_map.1 hx
    rw [(withGroup_head y).2.2] at hn
    exact h y hy n hn

theorem add_frame (serverID groupID : String) (c : Cloud) :
    (Cloud.addSecurityGroupToServer serverID groupID c).2 =
    { c with servers := (Cloud.addSecurityGroupToServer serverID groupID c).2.servers } := by
  rcases addSecurityGroupToServer_cases serverID groupID c with ⟨hc, -⟩ | hc
  · rw [hc]
  · rw [hc]

theorem serversOf_congr (h : c'.servers = c.servers) : serversOf T c' = serversOf T c := by
  have hview : serverOf c' = serverOf c := by
    funext x
    rw [serverOf, serverOf, h]
  rw [serversOf, serversOf, h, hview]

theorem GroupAttached.congr {serverID groupID : String} (h : GroupAttached serverID groupID c)
    (hservers : c'.servers = c.servers) (hgroups : c'.securityGroups = c.securityGroups) :
    GroupAttached serverID groupID c' := by
  rw [GroupAttached, hservers, hgroups]
  exact h

/-- Everything that `EnsureBastion` asks for is there. -/
structure BastionComplete (input : BastionInput) (group : SecurityGroup) (server : Server)
    (ip : PublicIP) (c : Cloud) : Prop where
  tags : input.tags.entries.isEmpty = false
  onlyGroup : groupsOf input.tags c = [group]
  rules : RulesEnsured group.id input.allowedCIDRs c
  onlyServer : serversOf input.tags c = [server]
  attached : GroupAttached server.id group.id c
  onlyAddress : publicIPsOf input.tags c = [ip]
  interface : ip.networkInterfaceID ≠ ""

theorem repeats_ensureBastion {input : BastionInput} {group : SecurityGroup} {server : Server}
    {ip : PublicIP}
    (hinput : ¬ (input.name = "" ∨ input.networkID = "" ∨ input.imageID = "" ∨
      input.machineType = "" ∨ input.sshKeyName = ""))
    (hallowed : ¬ input.allowedCIDRs.isEmpty = true)
    (h : BastionComplete input group server ip c) :
    Repeats c (ensureBastion input)
      { serverID := server.id, serverState := server.state,
        serverPowerStatus := server.powerStatus, publicIPID := ip.id, publicIP := ip.ip,
        securityGroupID := group.id } := by
  obtain ⟨y, hy⟩ := find_of_groupsOf h.onlyGroup
  rw [ensureBastion, if_neg hinput, if_neg hallowed, if_neg (by rw [h.tags]; simp)]
  refine .bind (repeats_ensureSecurityGroup _ _ h.tags h.onlyGroup)
    (.bind (repeats_ensureBastionSecurityGroupRules hy h.rules) ?_)
  refine .bind (repeats_createServer h.tags h.onlyServer)
    (.bind (repeats_addSecurityGroupToServer h.attached) ?_)
  exact .bind (repeats_ensurePublicIP h.tags h.onlyAddress)
    (.bind (repeats_attachPublicIP h.interface) (.pure _))

/-- A bastion with an address whose attachment was not refused is found as it is by the next
call. -/
theorem ensureBastion_leaves {input : BastionInput} (hs : Answered s) (hids : BastionIDs s.cloud)
    (hcidrs : "" ∉ input.allowedCIDRs) :
    wp (ensureBastion input)
      (fun r t => ∀ b, r = .ok b → (∀ x ∈ t.log, x.isRefusedAddress = false) →
        Repeats t.cloud (ensureBastion input) b) s := by
  unfold ensureBastion
  refine wp_ite (fun _ b hb => by cases hb) fun hinput =>
    wp_ite (fun _ b hb => by cases hb) fun hallowed =>
    wp_ite (fun _ b hb => by cases hb) fun htags => ?_
  refine wp_leaves_bind hs (ensureSecurityGroup_leaves _ _ hs) (fun _ _ b hb => by cases hb)
    fun g s₁ hs₁ h₁ => ?_
  obtain ⟨x, hx⟩ := find_of_groupsOf h₁.this
  have hdistinct := (hids.rules g.id).congr h₁.issues (h₁.rules g.id)
  refine wp_leaves_bind hs₁
    (ensureBastionSecurityGroupRules_leaves hs₁ hdistinct (present_of_find hx) hcidrs)
    (fun _ _ b hb => by cases hb) fun _ s₂ hs₂ h₂ => ?_
  obtain ⟨hrules, honly⟩ := h₂
  refine wp_leaves_bind hs₂ (createServer_leaves hs₂) (fun _ _ b hb => by cases hb)
    fun a s₃ hs₃ h₃ => ?_
  refine wp_leaves_bind hs₃ (addSecurityGroupToServer_leaves hs₃) (fun _ _ b hb => by cases hb)
    fun _ s₄ hs₄ h₄ => ?_
  -- the cloud is that of `s₂` with the server, if it was not there, and the group attached to it
  have hissues : Issues s.cloud s₄.cloud := by
    rw [h₄]
    exact ((h₁.issues.trans honly.issues).trans (h₃.keepsUnique .publicIP).issues).trans
      (issues_addSecurityGroupToServer _ _ _)
  have hframe₄ := h₄.trans (add_frame _ _ _)
  have hservers₂ : s₂.cloud.servers = s.cloud.servers := by rw [honly.frame, h₁.frame]
  have hips₄ : s₄.cloud.publicIPs = s.cloud.publicIPs := by
    rw [hframe₄, h₃.frame, honly.frame, h₁.frame]
  have hgroups₄ : s₄.cloud.securityGroups = s₂.cloud.securityGroups := by rw [hframe₄, h₃.frame]
  have hunique : UniqueIDs .publicIP s₄.cloud :=
    hids.publicIPs.sublist hissues (by simp only [labelled, hips₄]; exact .refl _)
  refine wp_leaves_bind hs₄ (ensurePublicIP_leaves hs₄) (fun _ _ b hb => by cases hb)
    fun ip s₅ hs₅ h₅ => ?_
  obtain ⟨p, hp, hip⟩ := h₅.find hunique
  have hservers₅ : s₅.cloud.servers = s₄.cloud.servers := by rw [h₅.frame]
  have hnics : ∀ x ∈ s₅.cloud.servers, ∀ n ∈ x.nics, n.id ≠ "" := by
    rw [hservers₅, h₄]
    exact interfaces_add (h₃.interfaces (by rw [hservers₂]; exact hids.interfaces))
  refine wp_leaves_bind hs₅ (attachPublicIP_leaves hs₅ hp hip hnics) (fun _ _ b hb => by cases hb)
    fun ip' t ht h₆ => ?_
  obtain ⟨-, hframe₆, hattached⟩ := h₆
  rintro b ⟨⟩ hfine
  obtain ⟨hinterface, hthis⟩ := hattached hfine
  have hservers : t.cloud.servers = s₄.cloud.servers := by rw [hframe₆, hservers₅]
  have hgroups : t.cloud.securityGroups = s₂.cloud.securityGroups := by
    rw [hframe₆, h₅.frame, hgroups₄]
  have hgroup : groupsOf input.tags t.cloud = [g] := by
    rw [groupsOf, hgroups]
    exact honly.groupsOf.trans h₁.this
  have hranges : RulesEnsured g.id input.allowedCIDRs t.cloud := by
    refine ⟨hrules.group, hrules.named, ?_⟩
    rw [rulesOf, hgroups]
    exact hrules.ranges
  have hserver : serversOf input.tags t.cloud = [a] := by
    rw [serversOf_congr hservers, h₄, serversOf_add]
    exact h₃.this
  have hdone : GroupAttached a.id g.id t.cloud := by
    refine GroupAttached.congr (c := s₄.cloud) ?_ hservers (hgroups.trans hgroups₄.symm)
    rw [h₄]
    exact groupAttached_add _ _ _
  exact repeats_ensureBastion hinput hallowed
    ⟨h₁.tags, hgroup, hranges, hserver, hdone, hthis _ h₅.this, hinterface⟩

/-! ### `EnsureNodeSSHAccess` -/

section node
variable {nodeID bastionID : String} {x : SDKSecurityGroup}

/-- The rule that opens TCP port 22 for a group. -/
def nodeRule (bastionID : String) : SDKRulePayload :=
  { direction := "ingress", remoteSecurityGroupID := bastionID, portMin := sshPort,
    portMax := sshPort,
    protocol := some tcpProtocol }

/-- The nodes can be reached from the bastion. -/
structure NodeRuleEnsured (nodeID bastionID : String) (c : Cloud) : Prop where
  node : nodeID ≠ ""
  bastion : bastionID ≠ ""
  this : hasRemoteSecurityGroupSSHRule (rulesOf nodeID c) bastionID = true

theorem ensureNodeSSHSecurityGroupRule_leaves (hs : Answered s)
    (hx : s.cloud.securityGroups.find? (·.id == nodeID) = some x) :
    wp (ensureNodeSSHSecurityGroupRule nodeID bastionID)
      (Leaves s fun _ t => NodeRuleEnsured nodeID bastionID t.cloud ∧
        OnlyRules s.cloud t.cloud) s := by
  refine wp_ite (fun _ => wp_via_fail closed_answered _) fun hne => ?_
  obtain ⟨hnode, hbastion⟩ := not_or.1 hne
  rw [wp_bind]
  refine (repeats_listRules hx).wp hs rfl fun t ht => ?_
  rw [next_ok]
  refine wp_ite (fun hhas => ?_) fun _ => wp_answered ht.answered fun u hu hc => ?_
  · rw [wp_pure, ← ht.cloud]
    refine .ok ht.answered ⟨⟨hnode, hbastion, ?_⟩, .refl _⟩
    rw [ht.cloud]
    exact hhas
  · rw [perform_cloud, ht.cloud] at hc
    rw [ht.cloud, perform]
    have honly := OnlyRules.createSecurityGroupRule nodeID (nodeRule bastionID) s.cloud
    rcases createSecurityGroupRule_cases nodeID (nodeRule bastionID) s.cloud
      with ⟨e, heffect⟩ | ⟨c', heffect, hadds⟩
    · rw [nodeRule] at heffect
      rw [heffect]
      exact .error hu
    · rw [nodeRule] at heffect honly
      rw [heffect] at hc honly ⊢
      refine .ok hu ?_
      rw [hc]
      refine ⟨⟨hnode, hbastion, ?_⟩, honly⟩
      rw [hadds.rules, hasRemoteSecurityGroupSSHRule, List.any_append]
      simp [isSSHRule, nodeRule]

theorem repeats_ensureNodeSSHSecurityGroupRule
    (hx : c.securityGroups.find? (·.id == nodeID) = some x)
    (h : NodeRuleEnsured nodeID bastionID c) :
    Repeats c (ensureNodeSSHSecurityGroupRule nodeID bastionID) () := by
  rw [ensureNodeSSHSecurityGroupRule, if_neg (not_or.2 ⟨h.node, h.bastion⟩)]
  refine .bind (repeats_listRules hx) ?_
  rw [if_pos h.this]
  exact .pure ()

/-- The server is shown like this when it is looked up by its ID. -/
def Shown (server : Server) (c : Cloud) : Prop :=
  ∃ x, c.servers.find? (·.id == server.id) = some x ∧ serverOf c x = server

theorem Shown.repeats_getServer {server : Server} (h : Shown server c) :
    Repeats c (getServer server.id) server := by
  obtain ⟨x, hx, hserver⟩ := h
  have hget := SDKClient.repeats_getServer hx
  rw [hserver] at hget
  exact hget

theorem Shown.congr {server : Server} (h : Shown server c) (hservers : c'.servers = c.servers) :
    Shown server c' := by
  obtain ⟨x, hx, hserver⟩ := h
  refine ⟨x, by rw [hservers, hx], ?_⟩
  rw [← hserver, serverOf, serverOf, hservers]

theorem Shown.add {server : Server} (h : Shown server c) (serverID groupID : String) :
    Shown server (Cloud.addSecurityGroupToServer serverID groupID c).2 := by
  obtain ⟨x, hx, hserver⟩ := h
  have hsame := serverOf_add serverID groupID c
  rcases addSecurityGroupToServer_cases serverID groupID c with ⟨hc, -⟩ | hc
  · rw [hc]
    exact ⟨x, hx, hserver⟩
  · refine ⟨withGroup serverID groupID x, ?_, ?_⟩
    · rw [hc, find_withGroup, hx]
      rfl
    · rw [serverOf_withGroup, hsame, hserver]

theorem ensureNodeSSHAccess_leaves {input : NodeSSHAccessInput} (hs : Answered s) :
    wp (ensureNodeSSHAccess input)
      (Leaves s fun g t => Repeats t.cloud (ensureNodeSSHAccess input) g ∧
        ∀ server, Shown server s.cloud → Shown server t.cloud) s := by
  have hR := closed_answered
  unfold ensureNodeSSHAccess
  refine wp_ite (fun _ => wp_via_fail hR _) fun hinput =>
    wp_ite (fun _ => wp_via_fail hR _) fun htags => ?_
  rw [if_neg hinput, if_neg htags]
  refine wp_via_bind hR (ensureSecurityGroup_leaves _ _ hs) fun g s₁ hs₁ h₁ => ?_
  obtain ⟨x, hx⟩ := find_of_groupsOf h₁.this
  refine wp_via_bind hR (ensureNodeSSHSecurityGroupRule_leaves (hs₁ hs) hx) fun _ s₂ hs₂ h₂ => ?_
  obtain ⟨hrule, honly⟩ := h₂
  refine wp_via_bind hR (addSecurityGroupToServer_leaves (hs₂ (hs₁ hs))) fun _ t ht h₃ => ?_
  rw [wp_pure]
  refine Leaves.ok (ht (hs₂ (hs₁ hs))) ⟨?_, fun server hserver => ?_⟩
  · have hgroups : t.cloud.securityGroups = s₂.cloud.securityGroups := by rw [h₃, add_frame]
    have hgroup : groupsOf input.tags t.cloud = [g] := by
      rw [groupsOf, hgroups]
      exact honly.groupsOf.trans h₁.this
    have hrule' : NodeRuleEnsured g.id input.bastionSecurityGroupID t.cloud := by
      refine ⟨hrule.node, hrule.bastion, ?_⟩
      rw [rulesOf, hgroups]
      exact hrule.this
    have hdone : GroupAttached input.serverID g.id t.cloud := by
      rw [h₃]
      exact groupAttached_add _ _ _
    obtain ⟨y, hy⟩ := find_of_groupsOf hgroup
    refine .bind (repeats_ensureSecurityGroup _ _ h₁.tags hgroup)
      (.bind (repeats_ensureNodeSSHSecurityGroupRule hy hrule') ?_)
    exact .bind (repeats_addSecurityGroupToServer hdone) (.pure g)
  · rw [h₃]
    refine Shown.add (hserver.congr ?_) _ _
    rw [honly.frame, h₁.frame]

end node

end Capstk
