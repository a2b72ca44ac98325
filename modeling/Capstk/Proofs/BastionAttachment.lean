import Capstk.Lib.Sha256
import Capstk.Proofs.BastionPass
import Capstk.Proofs.Freshness

/-!
# Whether the bastion's public address is attached

`EnsureBastion` attaches the address it has found or created unless that one has a network interface
already, whoever's it is, and takes a conflict for "already attached". So what it reports does not
say that the address is on the server. It is if no request is refused with a conflict by mistake and
what is there of the bastion fits together (`Attachable`): its server has an interface, and an
address that has one has it on that server.
-/

namespace Capstk

open Prog SDKClient

variable {c c' : Cloud} {s t : Session} {T : StringMap}
  {serverID publicIPID groupID : String} {p : SDKPublicIP}

/-- The server has a network interface of that ID. -/
def onServer (serverID nicID : String) (c : Cloud) : Bool :=
  nicID != "" && (c.servers.find? (·.id == serverID)).any fun x => x.nics.any (·.id == nicID)

/-- The public address is attached to a network interface of the server. -/
def attached (serverID publicIPID : String) (c : Cloud) : Bool :=
  (c.publicIPs.find? (·.id == publicIPID)).any fun p => onServer serverID p.networkInterface c

/-- A request is answered with a conflict although nothing was done. -/
def Outcome.conflicts : Outcome → Bool
  | .failedBefore f =>
    match f.error with
    | .openAPI 409 _ => true
    | _ => false
  | .answered | .failedAfter _ => false

theorem Outcome.conflicts_of_isConflict {f : Failure} {op : String}
    (h : isConflict (classifySDKError op f.error) = true) :
    (Outcome.failedBefore f).conflicts = true := by
  unfold classifySDKError at h
  unfold Outcome.conflicts
  dsimp only at h ⊢
  split at h <;> simp_all [isConflict, errorf]

/-- What carries the tags of the bastion fits together: the server has an interface, or one that is
made will have one, and an address that is attached is attached to the server. -/
structure Attachable (T : StringMap) (c : Cloud) : Prop where
  interfaces : ∀ x ∈ c.servers, labelsContainTags x.labels T = true → x.nics ≠ []
  newInterfaces : tagged .server T c = [] → ∀ id, (c.provisioning.server id).nics ≠ []
  addresses : ∀ p ∈ c.publicIPs, labelsContainTags p.labels T = true → p.networkInterface ≠ "" →
    ∃ x ∈ c.servers, labelsContainTags x.labels T = true ∧ ∃ n ∈ x.nics, n.id = p.networkInterface

/-- The IDs that tell servers, addresses and interfaces apart. -/
structure AttachmentIDs (c : Cloud) : Prop where
  servers : UniqueIDs .server c
  publicIPs : UniqueIDs .publicIP c
  interfaces : ∀ x ∈ c.servers, ∀ n ∈ x.nics, n.id ≠ ""

/-! ### The attachment -/

theorem attached_of_find (h : c.publicIPs.find? (·.id == publicIPID) = some p) :
    attached serverID publicIPID c = onServer serverID p.networkInterface c := by
  rw [attached, h]
  rfl

theorem attached_add {x : SDKServer} (h : c.publicIPs.find? (·.id == publicIPID) = some p)
    (hserver : c.servers.find? (·.id == serverID) = some x) (hne : x.nics ≠ [])
    (hnamed : ∀ n ∈ x.nics, n.id ≠ "") :
    attached serverID publicIPID (Cloud.addPublicIpToServer serverID publicIPID c).2 = true := by
  obtain ⟨nic, rest, hnics⟩ := List.exists_cons_of_ne_nil hne
  have hnic : nic.id ≠ "" := hnamed nic (by simp [hnics])
  rw [Cloud.addPublicIpToServer, h, hserver]
  simp only [hnics]
  set move : SDKPublicIP → SDKPublicIP := fun p =>
    if p.id == publicIPID then { p with networkInterface := nic.id } else p with hmove
  have hid : ((fun p : SDKPublicIP => p.id == publicIPID) ∘ move) = (·.id == publicIPID) := by
    funext p
    rw [Function.comp_apply, hmove]
    dsimp only
    split <;> rfl
  have hp : (p.id == publicIPID) = true :=
    List.find?_some (p := fun p : SDKPublicIP => p.id == publicIPID) h
  have hfind : (c.publicIPs.map move).find? (·.id == publicIPID) = some (move p) := by
    rw [List.find?_map, hid, h]
    rfl
  have hmoved : (move p).networkInterface = nic.id := by
    rw [hmove]
    dsimp only
    rw [if_pos hp]
  rw [attached, hfind, Option.any_some, hmoved]
  simp [onServer, hserver, hnics, hnic]

/-- The request takes effect, or it fails for a reason that is not tolerated. -/
theorem wp_addPublicIpToServer_attached {x : SDKServer}
    (hconflicts : ∀ o ∈ s.outcomes, o.conflicts = false)
    (h : s.cloud.publicIPs.find? (·.id == publicIPID) = some p)
    (hserver : s.cloud.servers.find? (·.id == serverID) = some x) (hne : x.nics ≠ [])
    (hnamed : ∀ n ∈ x.nics, n.id ≠ "") :
    wp (addPublicIpToServer serverID publicIPID)
      (fun r t => r = .ok () → attached serverID publicIPID t.cloud = true) s := by
  have hadded := attached_add h hserver hne hnamed
  have hrequest : wp (request "add public IP to server" (.addPublicIpToServer serverID publicIPID)
      (Cloud.addPublicIpToServer serverID publicIPID))
      (fun r t => (∃ e, r = .error e ∧ isConflict e = false) ∨
        attached serverID publicIPID t.cloud = true) s := by
    have hhead : (s.outcomes.headD .answered).conflicts = false := by
      cases ho : s.outcomes with
      | nil => rfl
      | cons o rest => exact hconflicts o (by simp [ho])
    rw [wp_iff, after, request_cloud]
    cases ho : s.outcomes.headD .answered with
    | answered => exact .inr hadded
    | failedAfter f => exact .inr hadded
    | failedBefore f =>
      refine .inl ⟨classifySDKError "add public IP to server" f.error, ?_, ?_⟩
      · show (settle _ _ (s.outcomes.headD .answered) s.cloud).1 = _
        rw [ho]
        rfl
      · rw [ho] at hhead
        exact Bool.eq_false_iff.2 fun hc => by
          rw [Outcome.conflicts_of_isConflict hc] at hhead
          cases hhead
  refine wp_tolerate_of hrequest (fun r t hr htolerated _ => ?_) fun e t _ _ h => by cases h
  rcases hr with ⟨e, rfl, hnot⟩ | hattached
  · rw [htolerated e rfl] at hnot
    cases hnot
  · exact hattached

/-- The address of the server: it has none yet, or it is on one of its interfaces. -/
theorem wp_attachPublicIP_attached {x : SDKServer} {ip : PublicIP}
    (hconflicts : ∀ o ∈ s.outcomes, o.conflicts = false)
    (h : s.cloud.publicIPs.find? (·.id == ip.id) = some p) (hip : publicIPFromSDK p = ip)
    (hserver : s.cloud.servers.find? (·.id == serverID) = some x) (hne : x.nics ≠ [])
    (hnamed : ∀ n ∈ x.nics, n.id ≠ "")
    (hon : p.networkInterface ≠ "" → ∃ n ∈ x.nics, n.id = p.networkInterface) :
    wp (attachPublicIP serverID ip)
      (fun r t => ∀ ip', r = .ok ip' → attached serverID ip'.id t.cloud = true) s := by
  have hinterface : p.networkInterface = ip.networkInterfaceID := by
    rw [← hip]
    rfl
  refine wp_ite (fun hfree => ?_) fun hheld => ?_
  · rw [wp_bind]
    refine (wp_addPublicIpToServer_attached hconflicts h hserver hne hnamed).imp fun r t hr => ?_
    cases r with
    | error e => exact fun _ hip' => by cases hip'
    | ok _ =>
      rw [next_ok, getPublicIP, wp_bind]
      refine wp_request fun r' c u hr' hu => ?_
      cases r' with
      | error e => exact fun _ hip' => by cases hip'
      | ok p' =>
        rintro _ ⟨⟩
        have hid : p'.id = ip.id := by
          have heffect := hr'.ok
          rw [Cloud.getPublicIP] at heffect
          split at heffect
          · rename_i p'' hfind
            cases heffect
            simpa using List.find?_some hfind
          · cases heffect
        show attached serverID p'.id u.cloud = true
        rw [hid, hu.cloud, hr'.cloud_eq (readOnly_getPublicIP _)]
        exact hr rfl
  · rw [wp_pure]
    rintro _ ⟨⟩
    obtain ⟨n, hn, hid⟩ := hon (by rw [hinterface]; exact hheld)
    rw [attached_of_find h, onServer, hserver, hinterface]
    simp only [Option.any_some, Bool.and_eq_true, bne_iff_ne, List.any_eq_true, beq_iff_eq]
    exact ⟨hheld, n, hn, hid.trans hinterface⟩

/-! ### Before the address -/

/-- Some outcomes have been used up, and `R` relates the clouds. -/
def Spends (R : Cloud → Cloud → Prop) (s t : Session) : Prop :=
  t.outcomes <:+ s.outcomes ∧ R s.cloud t.cloud

section
variable {R : Cloud → Cloud → Prop}

theorem Spends.closed (hrefl : ∀ c, R c c) (htrans : ∀ {c c' c''}, R c c' → R c' c'' → R c c'') :
    Closed (Spends R) :=
  ⟨fun _ => ⟨List.suffix_rfl, hrefl _⟩, fun h h' => ⟨h'.1.trans h.1, htrans h.2 h'.2⟩⟩

theorem spends_request {α : Type} {op : String} {req : Request} {effect : Cloud.Effect α}
    (hrefl : ∀ c, R c c) (h : ∀ c, R c (effect c).2) : Keeps (Spends R) (request op req effect) :=
  fun s => ⟨List.tail_suffix _, keeps_request hrefl h s⟩

theorem spends_read {α : Type} {op : String} {req : Request} {effect : Cloud.Effect α}
    (hrefl : ∀ c, R c c) (h : ∀ c, (effect c).2 = c) : Keeps (Spends R) (request op req effect) :=
  spends_request hrefl fun c => by rw [h]; exact hrefl c

end

/-- Nothing but security groups has changed. -/
structure OnlyGroups (c c' : Cloud) : Prop where
  servers : c'.servers = c.servers
  publicIPs : c'.publicIPs = c.publicIPs
  provisioning : c'.provisioning = c.provisioning
  issues : Issues c c'

namespace OnlyGroups

theorem refl (c : Cloud) : OnlyGroups c c := ⟨rfl, rfl, rfl, .refl c⟩

theorem closed : Closed (Spends OnlyGroups) :=
  Spends.closed refl fun h h' => ⟨h'.servers.trans h.servers, h'.publicIPs.trans h.publicIPs,
    h'.provisioning.trans h.provisioning, h.issues.trans h'.issues⟩

theorem createSecurityGroupRule (g : String) (p : SDKRulePayload) (c : Cloud) :
    OnlyGroups c (Cloud.createSecurityGroupRule g p c).2 := by
  unfold Cloud.createSecurityGroupRule
  split
  · exact ⟨rfl, rfl, rfl, rfl, Nat.le_succ _⟩
  · exact refl c

theorem deleteSecurityGroupRule (g r : String) (c : Cloud) :
    OnlyGroups c (Cloud.deleteSecurityGroupRule g r c).2 := by
  unfold Cloud.deleteSecurityGroupRule
  split
  · split
    · exact ⟨rfl, rfl, rfl, rfl, Nat.le_refl _⟩
    · exact refl c
  · exact refl c

end OnlyGroups

theorem onlyGroups_ensureSecurityGroup (name description : String) (T : StringMap) :
    Keeps (Spends OnlyGroups) (ensureSecurityGroup name description T) := by
  have hR := OnlyGroups.closed
  have hlist : Keeps (Spends OnlyGroups) (listSecurityGroupsByTags T) :=
    keeps_requireTags hR (.bind hR (spends_read OnlyGroups.refl fun _ => rfl) fun _ => .pure hR _)
  exact keeps_existingOr hR (.bind hR hlist fun l => keeps_single hR _ _ l)
    (.bind hR (spends_request OnlyGroups.refl fun _ => ⟨rfl, rfl, rfl, rfl, Nat.le_succ _⟩)
      fun _ => .pure hR _)

theorem onlyGroups_ensureBastionSecurityGroupRules (g : String) (cidrs : List String) :
    Keeps (Spends OnlyGroups) (ensureBastionSecurityGroupRules g cidrs) := by
  have hR := OnlyGroups.closed
  refine keeps_rules hR (spends_read OnlyGroups.refl (readOnly_listSecurityGroupRules g))
    (fun p => spends_request OnlyGroups.refl (OnlyGroups.createSecurityGroupRule g p))
    (fun r => .ite (.pure hR ()) (keeps_tolerate hR ?_)) cidrs
  exact spends_request OnlyGroups.refl (OnlyGroups.deleteSecurityGroupRule g r.id)

/-- The public addresses are as before. -/
def SameAddresses (c c' : Cloud) : Prop := c'.publicIPs = c.publicIPs

theorem SameAddresses.closed : Closed (Spends SameAddresses) :=
  Spends.closed (fun _ => rfl) fun h h' => h'.trans h

theorem sameAddresses_serverFromSDK (server : SDKServer) :
    Keeps (Spends SameAddresses) (serverFromSDK server) := by
  have hR := SameAddresses.closed
  exact .bind hR (Keeps.attempt (spends_read (fun _ => rfl) (readOnly_listServerNICs server.id)))
    fun _ => .pure hR _

theorem sameAddresses_serversFromSDK (T : StringMap) (l : List SDKServer) :
    Keeps (Spends SameAddresses) (serversFromSDK T l) := by
  have hR := SameAddresses.closed
  induction l with
  | nil => exact .pure hR []
  | cons x l ih =>
    unfold serversFromSDK
    exact .ite (.bind hR (sameAddresses_serverFromSDK x) fun _ => .bind hR ih fun _ => .pure hR _)
      ih

theorem sameAddresses_createServer (input : CreateServerInput) :
    Keeps (Spends SameAddresses) (createServer input) := by
  have hR := SameAddresses.closed
  have hlist : Keeps (Spends SameAddresses) (listServersByTags input.tags) :=
    keeps_requireTags hR (.bind hR (spends_read (fun _ => rfl) fun _ => rfl)
      fun l => sameAddresses_serversFromSDK _ l)
  exact keeps_existingOr hR (.bind hR hlist fun l => keeps_single hR _ _ l)
    (.bind hR (spends_request (fun _ => rfl) fun _ => rfl) fun x => sameAddresses_serverFromSDK x)

/-! ### The server -/

/-- A server with interfaces, among them those of the addresses with the tags that are attached. -/
structure HoldsAddresses (T : StringMap) (ips : List SDKPublicIP) (x : SDKServer) : Prop where
  interface : x.nics ≠ []
  named : ∀ n ∈ x.nics, n.id ≠ ""
  addresses : ∀ p ∈ ips, labelsContainTags p.labels T = true → p.networkInterface ≠ "" →
    ∃ n ∈ x.nics, n.id = p.networkInterface

theorem HoldsAddresses.congr {ips : List SDKPublicIP} {x x' : SDKServer}
    (h : HoldsAddresses T ips x) (hnics : x'.nics = x.nics) : HoldsAddresses T ips x' := by
  refine ⟨?_, ?_, ?_⟩ <;> rw [hnics]
  · exact h.interface
  · exact h.named
  · exact h.addresses

theorem find_server {x : SDKServer} (h : UniqueIDs .server c) (hx : x ∈ c.servers) :
    c.servers.find? (·.id == x.id) = some x := by
  cases hfind : c.servers.find? (·.id == x.id) with
  | none => exact absurd (List.find?_eq_none.1 hfind x hx) (by simp)
  | some y =>
    have hid : y.id = x.id := by simpa using List.find?_some hfind
    have hnodup : (c.servers.map (·.id)).Nodup := by
      simpa [labelled, Function.comp_def] using h.nodup
    rw [List.inj_on_of_nodup_map hnodup (List.mem_of_find?_eq_some hfind) hx hid]

theorem mem_tagged_server {x : SDKServer} (hx : x ∈ c.servers)
    (hT : labelsContainTags x.labels T = true) : x.id ∈ tagged .server T c :=
  mem_tagged.2 ⟨x.labels, List.mem_map_of_mem hx, hT⟩

namespace Attachable

theorem congr (h : Attachable T c) (hsame : OnlyGroups c c') : Attachable T c' := by
  have htagged : tagged .server T c' = tagged .server T c := by
    rw [tagged, labelled, hsame.servers]
    rfl
  refine ⟨?_, ?_, ?_⟩
  · rw [hsame.servers]
    exact h.interfaces
  · rw [hsame.provisioning, htagged]
    exact h.newInterfaces
  · rw [hsame.servers, hsame.publicIPs]
    exact h.addresses

theorem holds {x : SDKServer} (h : Attachable T c) (hids : UniqueIDs .server c)
    (hx : x ∈ c.servers) (hnamed : ∀ n ∈ x.nics, n.id ≠ "")
    (hT : labelsContainTags x.labels T = true) (hone : tagged .server T c = [x.id]) :
    HoldsAddresses T c.publicIPs x := by
  refine ⟨h.interfaces x hx hT, hnamed, fun p hp hpT hne => ?_⟩
  obtain ⟨y, hy, hyT, n, hn, hid⟩ := h.addresses p hp hpT hne
  have hmem := mem_tagged_server hy hyT
  rw [hone, List.mem_singleton] at hmem
  have hyx : some y = some x := by rw [← find_server hids hy, hmem, find_server hids hx]
  cases hyx
  exact ⟨n, hn, hid⟩

theorem holds_new {x : SDKServer} {id : String} (h : Attachable T c)
    (hnone : tagged .server T c = []) (hnics : x.nics = (c.provisioning.server id).nics) :
    HoldsAddresses T c.publicIPs x := by
  refine ⟨?_, ?_, fun p hp hpT hne => ?_⟩
  · rw [hnics]
    exact h.newInterfaces hnone id
  · rw [hnics]
    exact (c.provisioning.server id).named
  · obtain ⟨y, hy, hyT, -⟩ := h.addresses p hp hpT hne
    have hmem := mem_tagged_server hy hyT
    rw [hnone] at hmem
    cases hmem

end Attachable

/-- The server of that ID is such a one. -/
def ServerHolds (T : StringMap) (ips : List SDKPublicIP) (id : String) (c : Cloud) : Prop :=
  ∃ x, c.servers.find? (·.id == id) = some x ∧ HoldsAddresses T ips x

theorem wp_createServer_holds {input : CreateServerInput} (h : Attachable input.tags s.cloud)
    (hids : UniqueIDs .server s.cloud) (hnamed : ∀ x ∈ s.cloud.servers, ∀ n ∈ x.nics, n.id ≠ "") :
    wp (createServer input)
      (fun r t => ∀ a, r = .ok a → ServerHolds input.tags s.cloud.publicIPs a.id t.cloud) s := by
  refine wp_existingOr_of (wp_findServerByTags input.tags s) (fun a t hr b hb => ?found)
    (fun e t hr hnf => ?made) fun _ _ _ _ _ hb => by cases hb
  case found =>
    cases hb
    obtain ⟨hc, hone⟩ := hr
    have hmem : a.id ∈ tagged .server input.tags s.cloud :=
      (show tagged .server input.tags s.cloud = [a.id] from hone) ▸ List.mem_singleton_self _
    obtain ⟨labels, hlabelled, hT⟩ := mem_tagged.1 hmem
    obtain ⟨x, hx, hpair⟩ := List.mem_map.1 hlabelled
    obtain ⟨hid, rfl⟩ := Prod.mk.inj hpair
    refine ⟨x, ?_, h.holds hids hx (hnamed x hx) hT (by rw [hid]; exact hone)⟩
    rw [hc, ← hid]
    exact find_server hids hx
  case made =>
    have hnone : tagged .server input.tags s.cloud = [] := hr.2 hnf
    refine wp_bind_ok (P := fun x t => x.nics = (s.cloud.provisioning.server x.id).nics ∧
      t.cloud.servers.find? (·.id == x.id) = some x) ?_ fun x t hx => ?_
    · refine wp_request fun r c u hsettled hu x hx => ?_
      subst hx
      have hok := hsettled.ok
      rw [hr.1] at hok
      obtain ⟨hx, hcu⟩ := Prod.mk.inj hok
      cases hx
      have hfresh : s.cloud.servers.find? (·.id == s.cloud.ids.newID s.cloud.issued) = none := by
        refine List.find?_eq_none.2 fun y hy heq => ?_
        have hused :=
          hids.used _ (List.mem_map_of_mem (f := fun x : SDKServer => (x.id, x.labels)) hy)
        exact hused _ (Nat.le_refl _) (beq_iff_eq.1 heq)
      refine ⟨rfl, ?_⟩
      rw [hu.cloud, ← hcu, List.find?_append, hfresh, Option.none_or]
      exact List.find?_cons_of_pos (by simp)
    · refine (wp_serverFromSDK x t).imp fun r v hv => ?_
      obtain ⟨hcv, a, rfl, hid⟩ := hv
      rintro _ ⟨⟩
      refine ⟨x, ?_, h.holds_new hnone hx.1⟩
      rw [hcv, hid]
      exact hx.2

def withGroup (serverID groupID : String) (x : SDKServer) : SDKServer :=
  if x.id == serverID then { x with securityGroups := x.securityGroups ++ [groupID] } else x

theorem withGroup_head (x : SDKServer) :
    (withGroup serverID groupID x).id = x.id ∧ (withGroup serverID groupID x).labels = x.labels ∧
      (withGroup serverID groupID x).nics = x.nics := by
  unfold withGroup
  split <;> exact ⟨rfl, rfl, rfl⟩

/-- There is nothing to attach: no such server or group, no interface, or it is attached already. -/
def GroupAttached (serverID groupID : String) (c : Cloud) : Prop :=
  ∀ x y, c.servers.find? (·.id == serverID) = some x →
    c.securityGroups.find? (·.id == groupID) = some y → x.nics = [] ∨ groupID ∈ x.securityGroups

theorem find_withGroup (id : String) (l : List SDKServer) :
    (l.map (withGroup serverID groupID)).find? (·.id == id) =
    (l.find? (·.id == id)).map (withGroup serverID groupID) := by
  rw [List.find?_map]
  congr 2
  funext x
  rw [Function.comp_apply, (withGroup_head x).1]

theorem addSecurityGroupToServer_cases (serverID groupID : String) (c : Cloud) :
    (Cloud.addSecurityGroupToServer serverID groupID c).2 = c ∧ GroupAttached serverID groupID c ∨
      (Cloud.addSecurityGroupToServer serverID groupID c).2 =
        { c with servers := c.servers.map (withGroup serverID groupID) } := by
  rw [Cloud.addSecurityGroupToServer]
  split
  · rename_i x y hx hy
    split
    · rename_i hnics
      refine .inl ⟨rfl, fun x' y' hx' _ => .inl ?_⟩
      rw [hx] at hx'
      cases hx'
      simpa using hnics
    · split
      · rename_i hmem
        refine .inl ⟨rfl, fun x' y' hx' _ => .inr ?_⟩
        rw [hx] at hx'
        cases hx'
        simpa using hmem
      · exact .inr rfl
  · rename_i hnone
    exact .inl ⟨rfl, fun x y hx hy => absurd hy (hnone x y hx)⟩

theorem spends_addSecurityGroupToServer (T : StringMap) (ips : List SDKPublicIP) (id : String) :
    Keeps (Spends fun c c' => SameAddresses c c' ∧
      (ServerHolds T ips id c → ServerHolds T ips id c'))
      (addSecurityGroupToServer serverID groupID) := by
  have hrefl : ∀ c, SameAddresses c c ∧ (ServerHolds T ips id c → ServerHolds T ips id c) :=
    fun _ => ⟨rfl, fun h => h⟩
  refine keeps_tolerate (Spends.closed hrefl fun h h' => ⟨h'.1.trans h.1, fun hs => h'.2 (h.2 hs)⟩)
    (spends_request hrefl fun c => ?_)
  rcases addSecurityGroupToServer_cases serverID groupID c with ⟨heffect, -⟩ | heffect
  · rw [heffect]
    exact hrefl c
  · rw [heffect]
    refine ⟨rfl, fun ⟨x, hx, hholds⟩ =>
      ⟨withGroup serverID groupID x, ?_, hholds.congr (withGroup_head x).2.2⟩⟩
    rw [find_withGroup, hx]
    rfl

/-! ### The address -/

theorem find_publicIP (h : UniqueIDs .publicIP c) (hp : p ∈ c.publicIPs) :
    c.publicIPs.find? (·.id == p.id) = some p := by
  cases hfind : c.publicIPs.find? (·.id == p.id) with
  | none => exact absurd (List.find?_eq_none.1 hfind p hp) (by simp)
  | some q =>
    have hid : q.id = p.id := by simpa using List.find?_some hfind
    have hnodup : (c.publicIPs.map (·.id)).Nodup := by
      simpa [labelled, Function.comp_def] using h.nodup
    rw [List.inj_on_of_nodup_map hnodup (List.mem_of_find?_eq_some hfind) hp hid]

/-- The address is one of the cloud's, and if it is attached then it was there before. -/
def Addressed (T : StringMap) (ips : List SDKPublicIP) (ip : PublicIP) (c : Cloud) : Prop :=
  ∃ p ∈ c.publicIPs, publicIPFromSDK p = ip ∧
    (p.networkInterface ≠ "" → p ∈ ips ∧ labelsContainTags p.labels T = true)

theorem wp_ensurePublicIP_address (T : StringMap) (s : Session) : wp (ensurePublicIP T)
      (fun r t => ∀ ip, r = .ok ip → Addressed T s.cloud.publicIPs ip t.cloud) s := by
  refine wp_existingOr_of
    (wp_find_record Cloud.publicIPs SDKPublicIP.labels publicIPFromSDK (fun _ => rfl) s)
    (fun a t hr b hb => ?found) (fun e t hr _ => ?made) fun _ _ _ _ _ hb => by cases hb
  case found =>
    cases hb
    obtain ⟨p, hp, hpresent⟩ := hr.2 a rfl
    have hmem : p ∈ s.cloud.publicIPs ∧ labelsContainTags p.labels T = true :=
      List.mem_filter.1 (hp ▸ List.mem_singleton_self p)
    refine ⟨p, ?_, hpresent, fun _ => hmem⟩
    rw [hr.1]
    exact hmem.1
  case made =>
    refine wp_bind_ok (P := fun p t => p ∈ t.cloud.publicIPs ∧ p.networkInterface = "")
      (wp_request fun r c u hsettled hu x hx => ?_) fun p t hp => ?_
    · subst hx
      obtain ⟨hx, hcu⟩ := Prod.mk.inj hsettled.ok
      cases hx
      refine ⟨?_, rfl⟩
      rw [hu.cloud, ← hcu]
      exact List.mem_append_right _ (List.mem_singleton_self _)
    · rintro _ ⟨⟩
      exact ⟨p, hp.1, rfl, fun hne => absurd hp.2 hne⟩

theorem spends_ensurePublicIP (T : StringMap) :
    Keeps (Spends fun c c' => c'.servers = c.servers) (ensurePublicIP T) := by
  have hrefl : ∀ c : Cloud, c.servers = c.servers := fun _ => rfl
  have hR : Closed (Spends fun c c' => c'.servers = c.servers) :=
    Spends.closed hrefl fun h h' => h'.trans h
  have hlist : Keeps (Spends fun c c' => c'.servers = c.servers) (listPublicIPsByTags T) :=
    keeps_requireTags hR (.bind hR (spends_read hrefl fun _ => rfl) fun _ => .pure hR _)
  exact keeps_existingOr hR (.bind hR hlist fun l => keeps_single hR _ _ l)
    (.bind hR (spends_request hrefl fun _ => rfl) fun _ => .pure hR _)

/-! ### `EnsureBastion` -/

/-- What is there when the address is about to be attached. -/
structure BastionPrepared (T : StringMap) (s : Session) (b : PreparedBastion) (t : Session) :
    Prop where
  outcomes : t.outcomes <:+ s.outcomes
  server : ServerHolds T s.cloud.publicIPs b.server.id t.cloud
  address : Addressed T s.cloud.publicIPs b.publicIP t.cloud

theorem wp_prepareBastion {input : BastionInput} (h : Attachable input.tags s.cloud)
    (hids : AttachmentIDs s.cloud) :
    wp (prepareBastion input) (fun r t => ∀ b, r = .ok b → BastionPrepared input.tags s b t) s := by
  refine wp_ite (fun _ _ hb => by cases hb) fun _ => wp_ite (fun _ _ hb => by cases hb) fun _ =>
    wp_ite (fun _ _ hb => by cases hb) fun _ => ?_
  -- the security group
  refine wp_bind_ok (((onlyGroups_ensureSecurityGroup _ _ _).wp s).imp fun _ _ h _ _ => h)
    fun g s₁ h₁ => ?_
  refine wp_bind_ok (((onlyGroups_ensureBastionSecurityGroupRules _ _).wp s₁).imp fun _ _ h _ _ =>
    h)
    fun _ s₂ h₂ => ?_
  obtain ⟨hspent, hgroups⟩ := OnlyGroups.closed.trans h₁ h₂
  -- the server
  have hunique : UniqueIDs .server s₂.cloud := hids.servers.sublist hgroups.issues (by
    rw [labelled, labelled, hgroups.servers])
  have hnamed : ∀ x ∈ s₂.cloud.servers, ∀ n ∈ x.nics, n.id ≠ "" := by
    rw [hgroups.servers]
    exact hids.interfaces
  refine wp_bind_ok (P := fun a s₃ => Spends SameAddresses s₂ s₃ ∧
      ServerHolds input.tags s₂.cloud.publicIPs a.id s₃.cloud)
    (((sameAddresses_createServer _).wp s₂).and
      (wp_createServer_holds (h.congr hgroups) hunique hnamed)
      |>.imp fun _ _ h a ha => ⟨h.1, h.2 a ha⟩) fun a s₃ h₃ => ?_
  obtain ⟨h₃, hholds₃⟩ := h₃
  refine wp_bind_ok
    (((spends_addSecurityGroupToServer input.tags s₂.cloud.publicIPs a.id).wp s₃).imp
    fun _ _ h _ _ => h) fun _ s₄ h₄ => ?_
  -- the address
  refine wp_bind_ok (P := fun ip s₅ => (Spends fun c c' => c'.servers = c.servers) s₄ s₅ ∧
      Addressed input.tags s₄.cloud.publicIPs ip s₅.cloud)
    (((spends_ensurePublicIP _).wp s₄).and (wp_ensurePublicIP_address _ s₄)
      |>.imp fun _ _ h ip hip => ⟨h.1, h.2 ip hip⟩) fun ip s₅ h₅ => ?_
  obtain ⟨h₅, haddress⟩ := h₅
  have hips₂ : s₂.cloud.publicIPs = s.cloud.publicIPs := hgroups.publicIPs
  have hips₄ : s₄.cloud.publicIPs = s.cloud.publicIPs := (h₄.2.1.trans h₃.2).trans hips₂
  rw [wp_pure]
  rintro _ ⟨⟩
  refine ⟨h₅.1.trans (h₄.1.trans (h₃.1.trans hspent)), ?_, ?_⟩
  · obtain ⟨x, hx, hholds⟩ := h₄.2.2 hholds₃
    refine ⟨x, ?_, hips₂ ▸ hholds⟩
    rw [h₅.2]
    exact hx
  · exact hips₄ ▸ haddress

theorem wp_ensureBastion_attached {input : BastionInput} (h : Attachable input.tags s.cloud)
    (hids : AttachmentIDs s.cloud) (hconflicts : ∀ o ∈ s.outcomes, o.conflicts = false) :
    wp (ensureBastion input)
      (fun r t => ∀ b, r = .ok b → attached b.serverID b.publicIPID t.cloud = true) s := by
  rw [ensureBastion_eq]
  have hkeeps :=
    (bastionClosed_keepsUnique .publicIP).withAny.keeps_prepareBastion input fun _ _ _ => trivial
  refine wp_bind_ok (P := fun b t => BastionPrepared input.tags s b t ∧ UniqueIDs .publicIP t.cloud)
    ((wp_prepareBastion h hids).and (hkeeps.wp s)
      |>.imp fun _ _ h b hb => ⟨h.1 b hb, h.2.unique hids.publicIPs⟩) fun b t hb => ?_
  obtain ⟨hprepared, hunique⟩ := hb
  obtain ⟨x, hx, hholds⟩ := hprepared.server
  obtain ⟨p, hp, hip, hbefore⟩ := hprepared.address
  have hfind : t.cloud.publicIPs.find? (·.id == b.publicIP.id) = some p := by
    rw [← hip]
    exact find_publicIP hunique hp
  have hattach := wp_attachPublicIP_attached
    (fun o ho => hconflicts o (hprepared.outcomes.subset ho)) hfind hip hx hholds.interface
    hholds.named
    fun hne => hholds.addresses p (hbefore hne).1 (hbefore hne).2 hne
  exact wp_bind_ok hattach fun ip u hu _ hb => by cases hb; exact hu

/-! ### `reconcileBastion` -/

namespace ClusterReconciler
variable {σ : Type} {env : Env σ} {client : Client σ}

/-- What has gone well when an enabled bastion is ready, with the bastion `b` that `EnsureBastion`
returned. -/
structure BastionEnsured (env : Env σ) (client : Client σ) (p : Pass StackitCluster σ)
    (cloudInit : String) (b : Bastion) (s : σ) : Prop where
  valid : validateBastionSpec p.obj.spec.bastion = none
  resolved : resolveBastionCloudInit env p.obj = .ok cloudInit
  current : bastionNeedsRecreate env p.obj cloudInit = false
  ensured : client.ensureBastion (bastionInput p.obj cloudInit) p.cloud = (.ok b, s)
  running : (serverStateCondition b.serverState b.serverPowerStatus).ready = true
  address : b.publicIP ≠ ""

/-- The object with such a bastion recorded. -/
def withBastion (env : Env σ) (cloudInit : String) (b : Bastion) (sc : StackitCluster) :
    StackitCluster :=
  (sc.setBastionStatus b (bastionCloudInitHash env cloudInit)).setConditions .true "Available" ""
    [clusterBastionReadyCondition]

/-- An enabled bastion is ready after `EnsureBastion` only. -/
theorem reconcileBastion_ready {p q : Pass StackitCluster σ} {result : Result}
    (henabled : p.obj.spec.bastion.enabled = true)
    (hrun : reconcileBastion env client p = (.ok (result, true), q)) :
    ∃ cloudInit b s, BastionEnsured env client p cloudInit b s ∧
      q = { p with obj := withBastion env cloudInit b p.obj, cloud := s } := by
  have hwp : wp (reconcileBastion env client) (fun r q => ∀ result, r = .ok (result, true) →
      ∃ cloudInit b s, BastionEnsured env client p cloudInit b s ∧
        q = { p with obj := withBastion env cloudInit b p.obj, cloud := s }) p := by
    refine wp_reconcileBastion (fun hoff => by simp [henabled] at hoff)
      (fun _ _ _ _ _ h => by cases h) (fun _ _ _ => ?recreate) fun cloudInit hwanted hcurrent =>
      ?ensure
    case recreate =>
      exact wp_recreateBastion (wp_orError_of_forall (fun _ _ => wp_orError_of_forall
        (fun _ _ _ h => by cases h) fun _ _ _ h => by cases h) fun _ _ _ h => by cases h)
    case ensure =>
      refine wp_ensureBastion ?_
      rcases hensured : client.ensureBastion (bastionInput p.obj cloudInit) p.cloud with ⟨_ | b, s⟩
      · exact wp_of_run hensured fun _ h => by cases h
      · exact wp_of_run hensured ⟨fun _ _ h => (by cases h), fun _ _ h => (by cases h),
          fun hready haddress _ _ => ⟨cloudInit, b, s, ⟨hwanted.valid, hwanted.resolved, hcurrent,
            hensured, hready, haddress⟩, rfl⟩⟩
  exact hwp.of_run hrun result rfl

def reportedCluster : StackitCluster where
  metadata := { name := "c", namespace' := "ns" }
  spec := { bastion := ClusterWorld.sampleBastion }
  status := { network := { id := "n" } }

def reportedCloud : Cloud where
  ids := .unary
  servers :=
    [{ id := "b", name := "c-bastion", labels := bastionTags reportedCluster, status := "ACTIVE",
       powerStatus := "RUNNING",
       nics := [{ id := "nic" }] }]
  publicIPs := [{ id := "p", labels := bastionTags reportedCluster, ip := "203.0.113.7" }]

theorem attachmentIDs_reportedCloud : AttachmentIDs reportedCloud := by
  refine ⟨⟨by decide +kernel, fun x hx => .of_head rfl ?_⟩,
    ⟨by decide +kernel, fun x hx => .of_head rfl ?_⟩, ?_⟩
  · obtain rfl : x = ("b", bastionTags reportedCluster) := by
      simpa [reportedCloud, labelled] using hx
    decide
  · obtain rfl : x = ("p", bastionTags reportedCluster) := by
      simpa [reportedCloud, labelled] using hx
    decide
  · decide +kernel

theorem attachable_reportedCloud : Attachable (bastionTags reportedCluster) reportedCloud := by
  refine ⟨?_, fun hnone => ?_, ?_⟩
  · decide +kernel
  · have hone : tagged .server (bastionTags reportedCluster) reportedCloud = ["b"] := by
      decide +kernel
    rw [hone] at hnone
    cases hnone
  · intro p hp _ hne
    obtain rfl := List.mem_singleton.1 hp
    exact absurd rfl hne

/-- A pass over it that meets these outcomes. -/
abbrev reportedPass (outcomes : List Outcome) : Pass StackitCluster Session where
  obj := reportedCluster
  stored := reportedCluster
  cloud := { cloud := reportedCloud, outcomes }

abbrev reportedEnv : Env Session where
  source := .connected
  getConfigMap _ := .error ⟨none, "not found"⟩
  machines := .ok []
  controlPlaneMachines := .ok []
  sha256Hex := Sha256.hex

/-- A conflict with something else. -/
def conflict : Failure := ⟨.openAPI 409 "another operation is in progress", fun _ => ⟨rfl, rfl⟩⟩

/-- The request to attach the address, the ninth one, is refused with a conflict. -/
abbrev conflictOutcomes : List Outcome := List.replicate 8 .answered ++ [.failedBefore conflict]

end ClusterReconciler

end Capstk
