import Capstk.Cleanup
import Capstk.Proofs.Freshness
import Capstk.Proofs.LoadBalancers

/-!
# What `CleanupByTags` takes away

Each kind of resource is selected in its own way (`selects`): servers and networks by the tags, and
servers, public IPs and security groups once more by the tags with the role of a bastion, load
balancers by the rewritten tags. A successful clean-up takes away what is selected and leaves every
other resource as it is (`Swept`). That is "everything that carries the tags, and nothing else"
exactly if selecting and carrying are the same for every resource there is (`Fits`).
-/

namespace Capstk

open Prog SDKClient

variable {k : Kind} {T : StringMap} {c c' c'' : Cloud} {id : String} {s : Session}
  {hit : Kind → String → Prop}

/-! ### Spared resources -/

/-- A server in `hit` has the address on one of its network interfaces. -/
def AttachedToHit (hit : Kind → String → Prop) (c : Cloud) (p : SDKPublicIP) : Prop :=
  ∃ x ∈ c.servers, hit .server x.id ∧ x.nics.any (·.id == p.networkInterface) = true

/-- Every resource that is not in `hit` is as it was, but for addresses that a server in `hit`
had. -/
structure Spares (hit : Kind → String → Prop) (c c' : Cloud) : Prop where
  servers : ∀ x ∈ c.servers, ¬ hit .server x.id → x ∈ c'.servers
  networks : ∀ x ∈ c.networks, ¬ hit .network x.id → x ∈ c'.networks
  securityGroups : ∀ x ∈ c.securityGroups, ¬ hit .securityGroup x.id → x ∈ c'.securityGroups
  loadBalancers : ∀ x ∈ c.loadBalancers, ¬ hit .loadBalancer x.name → x ∈ c'.loadBalancers
  publicIPs : ∀ x ∈ c.publicIPs, ¬ hit .publicIP x.id → x ∈ c'.publicIPs ∨
    AttachedToHit hit c x ∧ { x with networkInterface := "" } ∈ c'.publicIPs
  nics : ∀ x ∈ c'.servers, ∃ x₀ ∈ c.servers, x₀.id = x.id ∧ x₀.nics = x.nics

namespace Spares

theorem refl (c : Cloud) : Spares hit c c where
  servers _ hx _ := hx
  networks _ hx _ := hx
  securityGroups _ hx _ := hx
  loadBalancers _ hx _ := hx
  publicIPs _ hx _ := .inl hx
  nics x hx := ⟨x, hx, rfl, rfl⟩

theorem trans (h : Spares hit c c') (h' : Spares hit c' c'') : Spares hit c c'' where
  servers x hx hn := h'.servers x (h.servers x hx hn) hn
  networks x hx hn := h'.networks x (h.networks x hx hn) hn
  securityGroups x hx hn := h'.securityGroups x (h.securityGroups x hx hn) hn
  loadBalancers x hx hn := h'.loadBalancers x (h.loadBalancers x hx hn) hn
  publicIPs x hx hn := by
    rcases h.publicIPs x hx hn with hx' | ⟨hat, hx'⟩
    · refine (h'.publicIPs x hx' hn).imp id fun ⟨hat, hx''⟩ => ⟨?_, hx''⟩
      obtain ⟨y, hy, hyhit, hynic⟩ := hat
      obtain ⟨y₀, hy₀, hid, hnics⟩ := h.nics y hy
      exact ⟨y₀, hy₀, hid ▸ hyhit, hnics ▸ hynic⟩
    · -- an address without an interface has none to lose
      exact .inr ⟨hat, (h'.publicIPs _ hx' hn).elim id fun h => h.2⟩
  nics x hx := by
    obtain ⟨y, hy, hid, hnics⟩ := h'.nics x hx
    obtain ⟨z, hz, hid', hnics'⟩ := h.nics y hy
    exact ⟨z, hz, hid'.trans hid, hnics'.trans hnics⟩

theorem ne {x : String} (hn : ¬ hit k x) (hid : hit k id) : x ≠ id := fun h => hn (h ▸ hid)

theorem of_others (hs : c'.servers = c.servers) (hp : c'.publicIPs = c.publicIPs)
    (hn : ∀ x ∈ c.networks, ¬ hit .network x.id → x ∈ c'.networks)
    (hg : ∀ x ∈ c.securityGroups, ¬ hit .securityGroup x.id → x ∈ c'.securityGroups)
    (hl : ∀ x ∈ c.loadBalancers, ¬ hit .loadBalancer x.name → x ∈ c'.loadBalancers) :
    Spares hit c c' where
  servers _ hx _ := hs ▸ hx
  networks := hn
  securityGroups := hg
  loadBalancers := hl
  publicIPs _ hx _ := .inl (hp ▸ hx)
  nics x hx := ⟨x, hs ▸ hx, rfl, rfl⟩

theorem deleteNetwork (hid : hit .network id) (c : Cloud) :
    Spares hit c (Cloud.deleteNetwork id c).2 := by
  unfold Cloud.deleteNetwork
  split
  · refine of_others rfl rfl (fun _ hx hn => List.mem_filter.2 ⟨hx, by simpa using ne hn hid⟩)
      (fun _ hx _ => hx) fun _ hx _ => hx
  · exact refl c

theorem deleteLoadBalancer (hid : hit .loadBalancer id) (c : Cloud) :
    Spares hit c (Cloud.deleteLoadBalancer id c).2 := by
  unfold Cloud.deleteLoadBalancer
  split
  · refine of_others rfl rfl (fun _ hx _ => hx) (fun _ hx _ => hx) fun _ hx hn =>
      List.mem_filter.2 ⟨hx, by simpa using ne hn hid⟩
  · exact refl c

theorem deleteSecurityGroup (hid : hit .securityGroup id) (c : Cloud) :
    Spares hit c (Cloud.deleteSecurityGroup id c).2 := by
  unfold Cloud.deleteSecurityGroup
  split
  · refine of_others rfl rfl (fun _ hx _ => hx)
      (fun _ hx hn => List.mem_filter.2 ⟨hx, by simpa using ne hn hid⟩) fun _ hx _ => hx
  · exact refl c

theorem deleteSecurityGroupRule (ruleID : String) (hid : hit .securityGroup id) (c : Cloud) :
    Spares hit c (Cloud.deleteSecurityGroupRule id ruleID c).2 := by
  unfold Cloud.deleteSecurityGroupRule
  split
  · split
    · refine of_others rfl rfl (fun _ hx _ => hx) (fun x hx hn => List.mem_map.2 ⟨x, hx, ?_⟩)
        fun _ hx _ => hx
      rw [if_neg (by simpa using ne hn hid)]
    · exact refl c
  · exact refl c

theorem deletePublicIP (hid : hit .publicIP id) (c : Cloud) :
    Spares hit c (Cloud.deletePublicIP id c).2 := by
  unfold Cloud.deletePublicIP
  split
  · refine { refl c with
      publicIPs := fun _ hx hn => .inl (List.mem_filter.2 ⟨hx, by simpa using ne hn hid⟩) }
  · exact refl c

theorem removePublicIpFromServer (serverID : String) (hid : hit .publicIP id) (c : Cloud) :
    Spares hit c (Cloud.removePublicIpFromServer serverID id c).2 := by
  unfold Cloud.removePublicIpFromServer
  split
  · refine { refl c with publicIPs := fun x hx hn => .inl (List.mem_map.2 ⟨x, hx, ?_⟩) }
    rw [if_neg (by simpa using ne hn hid)]
  · exact refl c

theorem removeSecurityGroupFromServer (groupID : String) (hid : hit .server id) (c : Cloud) :
    Spares hit c (Cloud.removeSecurityGroupFromServer id groupID c).2 := by
  unfold Cloud.removeSecurityGroupFromServer
  split
  · refine { refl c with
      servers := fun x hx hn => List.mem_map.2 ⟨x, hx, ?_⟩, nics := fun x hx => ?_ }
    · rw [if_neg (by simpa using ne hn hid)]
    · obtain ⟨y, hy, rfl⟩ := List.mem_map.1 hx
      exact ⟨y, hy, by split <;> rfl, by split <;> rfl⟩
  · exact refl c

theorem deleteServer (hid : hit .server id) (c : Cloud) :
    Spares hit c (Cloud.deleteServer id c).2 := by
  unfold Cloud.deleteServer
  split
  case h_2 => exact refl c
  case h_1 server hserver =>
    refine { refl c with publicIPs := fun x hx _ => ?_,
                         servers := fun _ hx hn => List.mem_filter.2 ⟨hx, by simpa using ne hn hid⟩
                         nics := fun x hx => ⟨x, (List.mem_filter.1 hx).1, rfl, rfl⟩ }
    by_cases hnic : server.nics.any (·.id == x.networkInterface) = true
    · have hthis : server.id = id := by simpa using List.find?_some hserver
      refine .inr ⟨⟨server, List.mem_of_find?_eq_some hserver, hthis ▸ hid, hnic⟩,
        List.mem_map.2 ⟨x, hx, ?_⟩⟩
      rw [if_pos hnic]
    · exact .inl (List.mem_map.2 ⟨x, hx, by rw [if_neg hnic]⟩)

theorem labelled (h : Spares hit c c') {x : String × StringMap} (hx : x ∈ labelled k c)
    (hn : ¬ hit k x.1) :
    x ∈ Capstk.labelled k c' := by
  cases k with
  | server =>
    obtain ⟨y, hy, rfl⟩ := List.mem_map.1 hx
    exact List.mem_map.2 ⟨y, h.servers y hy hn, rfl⟩
  | network =>
    obtain ⟨y, hy, rfl⟩ := List.mem_map.1 hx
    exact List.mem_map.2 ⟨y, h.networks y hy hn, rfl⟩
  | securityGroup =>
    obtain ⟨y, hy, rfl⟩ := List.mem_map.1 hx
    exact List.mem_map.2 ⟨y, h.securityGroups y hy hn, rfl⟩
  | loadBalancer =>
    obtain ⟨y, hy, rfl⟩ := List.mem_map.1 hx
    exact List.mem_map.2 ⟨y, h.loadBalancers y hy hn, rfl⟩
  | publicIP =>
    obtain ⟨y, hy, rfl⟩ := List.mem_map.1 hx
    rcases h.publicIPs y hy hn with hy' | ⟨-, hy'⟩
    · exact List.mem_map.2 ⟨y, hy', rfl⟩
    · exact List.mem_map.2 ⟨_, hy', rfl⟩

end Spares

theorem cleanupClosedOn_spares (hit : Kind → String → Prop) : CleanupClosedOn hit (Spares hit) where
  refl := .refl
  trans := .trans
  deleteServer _ h := .deleteServer h
  deletePublicIP _ h := .deletePublicIP h
  deleteSecurityGroup _ h := .deleteSecurityGroup h
  removePublicIpFromServer s _ h := .removePublicIpFromServer s h
  removeSecurityGroupFromServer _ g h := .removeSecurityGroupFromServer g h
  deleteSecurityGroupRule _ r h := .deleteSecurityGroupRule r h

/-! ### Released addresses -/

/-- No address is on one of these network interfaces. -/
def Released (nics : List SDKNIC) (c : Cloud) : Prop :=
  ∀ p ∈ c.publicIPs, nics.any (·.id == p.networkInterface) = true → p.networkInterface = ""

/-- No address has got a new interface, and the interfaces of a server that has gone hold none. -/
structure Releases (c c' : Cloud) : Prop where
  addresses : ∀ p ∈ c'.publicIPs, p.networkInterface = "" ∨ ∃ q ∈ c.publicIPs,
    q.networkInterface = p.networkInterface
  servers : ∀ id x, c.servers.find? (·.id == id) = some x →
    (∃ y, c'.servers.find? (·.id == id) = some y ∧ y.nics = x.nics) ∨ Released x.nics c'

namespace Releases

theorem refl (c : Cloud) : Releases c c :=
  ⟨fun p hp => .inr ⟨p, hp, rfl⟩, fun _ x hx => .inl ⟨x, hx, rfl⟩⟩

theorem trans (h : Releases c c') (h' : Releases c' c'') : Releases c c'' where
  addresses p hp := by
    rcases h'.addresses p hp with h0 | ⟨q, hq, heq⟩
    · exact .inl h0
    · rw [← heq]; exact h.addresses q hq
  servers id x hx := by
    rcases h.servers id x hx with ⟨y, hy, hnics⟩ | hreleased
    · rw [← hnics]
      exact h'.servers id y hy
    · refine .inr fun p hp hnic => ?_
      rcases h'.addresses p hp with h0 | ⟨q, hq, heq⟩
      · exact h0
      · rw [← heq] at hnic ⊢
        exact hreleased q hq hnic

theorem of_servers (hs : c'.servers = c.servers)
    (hp : ∀ p ∈ c'.publicIPs, p.networkInterface = "" ∨ ∃ q ∈ c.publicIPs,
      q.networkInterface = p.networkInterface) :
    Releases c c' := ⟨hp, fun _ x hx => .inl ⟨x, hs ▸ hx, rfl⟩⟩

theorem of_same (hs : c'.servers = c.servers) (hp : c'.publicIPs = c.publicIPs) : Releases c c' :=
  of_servers hs fun p h => .inr ⟨p, hp ▸ h, rfl⟩

theorem deleteNetwork (id : String) (c : Cloud) : Releases c (Cloud.deleteNetwork id c).2 := by
  unfold Cloud.deleteNetwork
  split <;> exact of_same rfl rfl

theorem deleteLoadBalancer (id : String) (c : Cloud) :
    Releases c (Cloud.deleteLoadBalancer id c).2 := by
  unfold Cloud.deleteLoadBalancer
  split <;> exact of_same rfl rfl

theorem deleteSecurityGroup (id : String) (c : Cloud) :
    Releases c (Cloud.deleteSecurityGroup id c).2 := by
  unfold Cloud.deleteSecurityGroup
  split <;> exact of_same rfl rfl

theorem deleteSecurityGroupRule (id ruleID : String) (c : Cloud) :
    Releases c (Cloud.deleteSecurityGroupRule id ruleID c).2 := by
  unfold Cloud.deleteSecurityGroupRule
  split
  · split <;> exact of_same rfl rfl
  · exact refl c

theorem deletePublicIP (id : String) (c : Cloud) : Releases c (Cloud.deletePublicIP id c).2 := by
  unfold Cloud.deletePublicIP
  split
  · exact of_servers rfl fun p hp => .inr ⟨p, (List.mem_filter.1 hp).1, rfl⟩
  · exact refl c

theorem removePublicIpFromServer (serverID id : String) (c : Cloud) :
    Releases c (Cloud.removePublicIpFromServer serverID id c).2 := by
  unfold Cloud.removePublicIpFromServer
  split
  · refine of_servers rfl fun p hp => ?_
    obtain ⟨q, hq, rfl⟩ := List.mem_map.1 hp
    split
    · exact .inl rfl
    · exact .inr ⟨q, hq, rfl⟩
  · exact refl c

theorem removeSecurityGroupFromServer (id groupID : String) (c : Cloud) :
    Releases c (Cloud.removeSecurityGroupFromServer id groupID c).2 := by
  unfold Cloud.removeSecurityGroupFromServer
  split
  · refine ⟨fun p hp => .inr ⟨p, hp, rfl⟩, fun id' x hx => .inl ?_⟩
    have hid : (fun y : SDKServer => y.id == id') ∘ (fun y : SDKServer =>
        if y.id == id then { y with securityGroups := y.securityGroups.filter (· != groupID) }
        else y) =
        fun y => y.id == id' := by
      funext y
      simp only [Function.comp]
      split <;> rfl
    refine ⟨_, by rw [List.find?_map, hid, hx]; rfl, ?_⟩
    dsimp only
    split <;> rfl
  · exact refl c

theorem deleteServer (id : String) (c : Cloud) : Releases c (Cloud.deleteServer id c).2 := by
  unfold Cloud.deleteServer
  split
  case h_2 => exact refl c
  case h_1 server hserver =>
    refine ⟨fun p hp => ?_, fun id' x hx => ?_⟩
    · obtain ⟨q, hq, rfl⟩ := List.mem_map.1 hp
      split
      · exact .inl rfl
      · exact .inr ⟨q, hq, rfl⟩
    · by_cases hid : id' = id
      · refine .inr fun p hp hnic => ?_
        rw [hid, hserver, Option.some.injEq] at hx
        obtain ⟨q, hq, rfl⟩ := List.mem_map.1 hp
        split
        · rfl
        · rename_i hq'
          rw [if_neg hq', ← hx] at hnic
          exact absurd hnic hq'
      · refine .inl ⟨x, ?_, rfl⟩
        rw [List.find?_filter, ← hx]
        refine congrArg (List.find? · c.servers) (funext fun y => ?_)
        by_cases hy : y.id = id'
        · simp [hy, hid]
        · simp [hy]

end Releases

theorem cleanupClosed_releases : CleanupClosed Releases where
  refl := .refl
  trans := .trans
  deleteServer := .deleteServer
  deletePublicIP := .deletePublicIP
  deleteSecurityGroup := .deleteSecurityGroup
  removePublicIpFromServer := .removePublicIpFromServer
  removeSecurityGroupFromServer := .removeSecurityGroupFromServer
  deleteSecurityGroupRule := .deleteSecurityGroupRule

/-! ### Calls without `range` -/

namespace RequestClosed
variable {R : Session → Session → Prop}

theorem keeps_listServersByTags (h : RequestClosed R) (T : StringMap) :
    Keeps R (listServersByTags T) := by
  have hR := h.toClosed
  refine keeps_requireTags hR (.bind hR (h.request _ _ _) fun items => ?_)
  induction items with
  | nil => exact .pure hR []
  | cons x l ih =>
    unfold serversFromSDK
    refine .ite (.bind hR ?_ fun _ => .bind hR ih fun _ => .pure hR _) ih
    exact .bind hR (Keeps.attempt (h.request _ _ _)) fun _ => .pure hR _

theorem keeps_idOrFind (h : RequestClosed R) {β : Type} {ident : β → String} {find : Call Session β}
    (hfind : Keeps R find) (recorded : String) :
    Keeps R (idOrFind recorded (do pure (ident (← find)))) := by
  have hR := h.toClosed
  exact .ite (keeps_existingOr hR (.bind hR hfind fun _ => .pure hR _) (.pure hR ""))
    (.pure hR recorded)

theorem keeps_deleteBastion (h : RequestClosed R) (input : BastionInput) (status : Bastion) :
    Keeps R (deleteBastion input status) := by
  have hR := h.toClosed
  have htolerate :
      ∀ {op : String} {req : Request} {effect : Cloud.Effect Unit} (expected : GoError → Bool),
        Keeps R (tolerate expected (Capstk.request op req effect)) :=
        fun expected => keeps_tolerate hR (h.request _ _ _)
  have hwhen : ∀ {x : Call Session Unit} (b : Bool), Keeps R x → Keeps R (when' b x) :=
    fun b hx => .ite hx (.pure hR ())
  refine .bind hR (h.keeps_idOrFind ?_ _) fun serverID =>
    .bind hR (h.keeps_idOrFind ?_ _) fun publicIPID =>
    .bind hR (h.keeps_idOrFind ?_ _) fun groupID => .bind hR (hwhen _ (htolerate _)) fun _ =>
    .bind hR (hwhen _ (htolerate _)) fun _ => .bind hR (hwhen _ (htolerate _)) fun _ =>
    .bind hR (hwhen _ (htolerate _)) fun _ =>
      hwhen _ (.bind hR (.bind hR (Keeps.attempt (h.request _ _ _)) fun r => ?_)
      fun _ => htolerate _)
  · exact .bind hR (h.keeps_listServersByTags _) fun l => keeps_single hR _ _ l
  · exact .bind hR (keeps_requireTags hR (.bind hR (h.request _ _ _) fun _ => .pure hR _)) fun l =>
      keeps_single hR _ _ l
  · exact .bind hR (keeps_requireTags hR (.bind hR (h.request _ _ _) fun _ => .pure hR _)) fun l =>
      keeps_single hR _ _ l
  · cases r with
    | error e => exact .ite (.pure hR ()) (.fail hR e)
    | ok rules => exact .forEach hR fun rule _ => .ite (.pure hR ()) (htolerate _)

end RequestClosed

/-! ### Collected errors -/

section collect
variable {σ β : Type} {R : σ → σ → Prop} {s : σ}

/-- The call answers with the errors it met, and `P` holds if there was none. -/
def Collects (R : σ → σ → Prop) (s : σ) (P : σ → Prop) (r : Except GoError (List String)) (t : σ) :
    Prop :=
  R s t ∧ ∃ errs, r = .ok errs ∧ (errs = [] → P t)

/-- What a deletion guarantees if it was answered, or refused because there was nothing to
delete. -/
def Deletes (R : σ → σ → Prop) (s : σ) (P : σ → Prop) (r : Except GoError Unit) (t : σ) : Prop :=
  R s t ∧ ((∀ e, r = .error e → isNotFound e = true) → P t)

theorem wp_collectError {P : σ → Prop} {call : Call σ Unit} {what : String}
    (h : wp call (Deletes R s P) s) :
    wp (collectError what call) (Collects R s P) s := by
  unfold collectError
  rw [wp_attempt_bind]
  refine h.imp fun r t ⟨hR, hr⟩ => ?_
  cases r with
  | ok _ => exact ⟨hR, [], rfl, fun _ => hr fun e he => by cases he⟩
  | error e =>
    refine wp_ite (fun hnf => ⟨hR, [], rfl, fun _ => hr fun e' he' => ?_⟩) fun _ =>
      ⟨hR, _, rfl, fun h => by cases h⟩
    cases he'
    exact hnf

theorem wp_collectErrors (hR : Closed R) {P : β → σ → Prop} {f : β → Call σ (List String)}
    {l : List β} (hkeep : ∀ b s t, R s t → P b s → P b t)
    (hf : ∀ b ∈ l, ∀ s, wp (f b) (Collects R s (P b)) s) (s : σ) :
    wp (collectErrors l f) (Collects R s fun t => ∀ b ∈ l, P b t) s := by
  induction l generalizing s with
  | nil => exact ⟨hR.refl s, [], rfl, fun _ b hb => by cases hb⟩
  | cons b bs ih =>
    unfold collectErrors
    rw [wp_bind]
    refine (hf b (by simp) s).imp ?_
    rintro r t ⟨hst, errs, rfl, hb⟩
    rw [next_ok, wp_bind]
    refine (ih (fun b' hb' => hf b' (by simp [hb'])) t).imp ?_
    rintro r' u ⟨htu, rest, rfl, hbs⟩
    refine ⟨hR.trans hst htu, errs ++ rest, rfl, fun hnil b' hb' => ?_⟩
    obtain ⟨h₁, h₂⟩ := List.append_eq_nil_iff.1 hnil
    rcases List.mem_cons.1 hb' with rfl | hb'
    · exact hkeep _ t u htu (hb h₁)
    · exact hbs h₂ b' hb'

theorem wp_deleteListed (hR : Closed R) {P : String → σ → Prop} {kind : String}
    {list : Call σ (List β)} {ident : β → String} {delete : String → Call σ Unit}
    {ids : List String} (hkeep : ∀ id s t, R s t → P id s → P id t)
    (hlist : wp list (Via R s fun items _ => items.map ident = ids) s)
    (hdelete : ∀ id ∈ ids, ∀ s, wp (delete id) (Deletes R s (P id)) s) :
    wp (deleteListed kind list ident delete) (Collects R s fun t => ∀ id ∈ ids, P id t) s := by
  unfold deleteListed
  rw [wp_attempt_bind]
  refine hlist.imp fun r t ⟨hst, hr⟩ => ?_
  cases r with
  | error e => exact ⟨hst, [e.text], rfl, fun h => by cases h⟩
  | ok items =>
    obtain rfl := hr items rfl
    refine (wp_collectErrors hR (P := fun b => P (ident b)) (fun b => hkeep (ident b))
      (fun b hb u => wp_collectError (hdelete (ident b) (List.mem_map_of_mem hb) u)) t).imp ?_
    rintro r' u ⟨htu, errs, rfl, hall⟩
    refine ⟨hR.trans hst htu, errs, rfl, fun hnil id hid => ?_⟩
    obtain ⟨b, hb, rfl⟩ := List.mem_map.1 hid
    exact hall hnil b hb

end collect

/-! ### The whole clean-up -/

/-- The labels by which the clean-up selects resources of each kind, load balancers by
`selector`. -/
def selects (T selector : StringMap) : Kind → StringMap → Bool
  | .server, L => labelsContainTags L T || labelsContainTags L (cleanupBastionTags T)
  | .network, L => labelsContainTags L T
  | .publicIP, L | .securityGroup, L => labelsContainTags L (cleanupBastionTags T)
  | .loadBalancer, L => mapContains L selector

/-- The selector of load balancers when the coming `range`s use these orders. -/
def lbSelector (T : StringMap) (orders : List MapOrder) : StringMap :=
  loadBalancerLabels (nextRange T orders)

/-- The IDs of the selected resources. -/
def Selected (p : Kind → StringMap → Bool) (c : Cloud) (k : Kind) (id : String) : Prop :=
  ∃ L, (id, L) ∈ labelled k c ∧ p k L = true

/-- Nothing has come, nothing but what is in `hit` was touched, and servers have released their
addresses. -/
structure Sweeping (hit : Kind → String → Prop) (c c' : Cloud) : Prop where
  shrinks : Shrinks c c'
  spares : Spares hit c c'
  releases : Releases c c'

namespace Sweeping

theorem closed : Closed fun s t : Session => Sweeping hit s.cloud t.cloud :=
  ⟨fun _ => ⟨.refl _, .refl _, .refl _⟩,
    fun h h' =>
    ⟨h.shrinks.trans h'.shrinks, h.spares.trans h'.spares, h.releases.trans h'.releases⟩⟩

theorem of_eq (h : c' = c) : Sweeping hit c c' := by subst h; exact ⟨.refl _, .refl _, .refl _⟩

theorem gone {s t : Session} (h : Sweeping hit s.cloud t.cloud)
    (hid : ∀ L, (id, L) ∉ labelled k s.cloud) :
    ∀ L, (id, L) ∉ labelled k t.cloud := fun L hL => hid L ((h.shrinks k).subset hL)

theorem wp_remove {op : String} {req : Request} {effect : Cloud.Effect Unit}
    (h : Removes k id effect) (hspares : ∀ c, Spares hit c (effect c).2)
    (hreleases : ∀ c, Releases c (effect c).2) (s : Session) :
    wp (request op req effect)
      (Deletes (fun s t : Session => Sweeping hit s.cloud t.cloud) s fun t =>
        ∀ L, (id, L) ∉ labelled k t.cloud) s :=
  ((Capstk.wp_remove h s).and
    ((keeps_request .refl hspares).wp s |>.and ((keeps_request .refl hreleases).wp s))).imp
    fun _ _ ⟨⟨hshrinks, hgone⟩, hspares, hreleases⟩ => ⟨⟨hshrinks, hspares, hreleases⟩, hgone⟩

theorem via_list {α : Type} {x : Call Session α} {P : α → Prop}
    (h : wp x (fun r t => t.cloud = s.cloud ∧ ∀ a, r = .ok a → P a) s) :
    wp x (Via (fun s t : Session => Sweeping hit s.cloud t.cloud) s fun a _ => P a) s :=
  h.imp fun _ _ ⟨hc, hr⟩ => ⟨of_eq hc, hr⟩

end Sweeping

/-- The selected resources have gone, the others are as they were. -/
structure Swept (p : Kind → StringMap → Bool) (c c' : Cloud) :
    Prop extends Sweeping (Selected p c) c c' where
  gone : ∀ k, ∀ x ∈ labelled k c', p k x.2 = false

/-- Every resource has an ID of its own. -/
structure DistinctIDs (c : Cloud) : Prop where
  nodup : ∀ k, ((labelled k c).map Prod.fst).Nodup
  nonempty : ∀ k, ∀ x ∈ labelled k c, x.1 ≠ ""

theorem tagged_nil_iff :
    tagged k T c = [] ↔ ∀ x ∈ labelled k c, labelsContainTags x.2 T = false := by
  simp [tagged]

theorem wp_deleteBastion_sweeping (hids : DistinctIDs s.cloud) (selector : StringMap) :
    wp (deleteBastion { tags := cleanupBastionTags T } {})
      (Deletes (fun s t : Session => Sweeping (Selected (selects T selector) s.cloud) s.cloud
        t.cloud ∧ t.orders = s.orders) s
        fun t => BastionGone (cleanupBastionTags T) t.cloud) s := by
  have hnamed : ∀ k, IsBastionKind k → "" ∉ tagged k (cleanupBastionTags T) s.cloud :=
    fun k _ h0 => by
    obtain ⟨L, hL, -⟩ := mem_tagged.1 h0
    exact hids.nonempty k _ hL rfl
  have hcurrent : BastionCurrent {} (cleanupBastionTags T) s.cloud :=
    ⟨fun h => absurd rfl h, fun h => absurd rfl h, fun h => absurd rfl h⟩
  have hselected : ∀ k, IsBastionKind k → ∀ id ∈ tagged k (cleanupBastionTags T) s.cloud,
      Selected (selects T selector) s.cloud k id := fun k hk id hid => by
    obtain ⟨L, hL, hmatch⟩ := mem_tagged.1 hid
    exact ⟨L, hL, IsBastionKind.cases (P := (selects T selector · L = true))
      (by simp [selects, hmatch]) hmatch hmatch k hk⟩
  have hspares : wp (deleteBastion { tags := cleanupBastionTags T } {})
      (fun _ t => Spares (Selected (selects T selector) s.cloud) s.cloud t.cloud) s :=
    (cleanupClosedOn_spares (Selected (selects T selector) s.cloud)).wp_deleteBastion
    (points_idOrFind (wp_findServerByTags _) (fun h => absurd rfl h) (hselected _ trivial))
    (points_idOrFind (wp_findPublicIPByTags _) (fun h => absurd rfl h) (hselected _ trivial))
    (points_idOrFind (wp_findSecurityGroupByTags _) (fun h => absurd rfl h) (hselected _ trivial))
  refine ((wp_deleteBastion (s := s) hcurrent hnamed).and
    (hspares.and ((cleanupClosed_releases.keeps_deleteBastion _ _).wp s |>.and
    ((requestClosed_orders.keeps_deleteBastion _ _).wp s |>.and
      ((neverNotFound_deleteBastion _ _).wp s))))).imp ?_
  rintro r t ⟨⟨hshrinks, hgone⟩, hspares, hreleases, horders, hnf⟩
  refine ⟨⟨⟨hshrinks, hspares, hreleases⟩, horders⟩, fun hfound => ?_⟩
  cases r with
  | ok a => exact hgone a rfl
  | error e => simp [hnf e rfl] at hfound

/-- The IDs of a kind whose labels satisfy `q`. -/
def matching (q : StringMap → Bool) (k : Kind) (c : Cloud) : List String :=
  ((labelled k c).filter fun x => q x.2).map Prod.fst

theorem mem_matching {q : StringMap → Bool} : id ∈ matching q k c ↔ ∃ L, (id, L) ∈ labelled k c ∧
    q L = true := by
  simp [matching]

theorem wp_listNetworksByTags (T : StringMap) (s : Session) :
    wp (listNetworksByTags T) (fun r t => t.cloud = s.cloud ∧
      ∀ out, r = .ok out → out.map (·.id) = matching (labelsContainTags · T) .network s.cloud)
      s := by
  refine wp_requireTags (fun _ => ⟨rfl, fun _ h => by cases h⟩) ?_
  rw [wp_bind]
  refine wp_request fun r c t hr ht => ?_
  have hc : t.cloud = s.cloud := ht.cloud.trans (hr.cloud_eq fun _ => rfl)
  cases r with
  | error e => exact ⟨hc, fun _ h => by cases h⟩
  | ok items =>
    have hitems := hr.ok
    refine ⟨hc, fun out hout => ?_⟩
    cases hout
    cases hitems
    simp [matching, labelled, List.filter_map, Function.comp_def, networkFromSDK]

/-- One list-and-delete loop: afterwards no resource is left that it listed. -/
theorem wp_deleteListed_sweeping {β : Type} {p : Kind → StringMap → Bool} {q : StringMap → Bool}
    {kind : String} {list : Call Session (List β)} {ident : β → String}
    {delete : String → Call Session Unit} {c : Cloud} (hq : ∀ L, q L = true → p k L = true)
    (hs : Sweeping (Selected p c) c s.cloud)
    (hlist : wp list (fun r t => t.cloud = s.cloud ∧ ∀ out, r = .ok out →
      out.map ident = matching q k s.cloud) s)
    (hdelete : ∀ id, Selected p c k id → ∀ u, wp (delete id)
      (Deletes (fun s t : Session => Sweeping (Selected p c) s.cloud t.cloud) u fun t => ∀ L,
        (id, L) ∉ labelled k t.cloud) u) :
    wp (deleteListed kind list ident delete)
      (Collects (fun s t : Session => Sweeping (Selected p c) s.cloud t.cloud) s
      fun t => ∀ x ∈ labelled k t.cloud, q x.2 = false) s := by
  refine (wp_deleteListed Sweeping.closed (P := fun id t => ∀ L, (id, L) ∉ labelled k t.cloud)
    (fun _ _ _ h => h.gone)
    (Sweeping.via_list hlist) fun id hid u => hdelete id ?_ u).imp fun r t ⟨hst, errs, hr, hgone⟩ =>
    ⟨hst, errs, hr, ?_⟩
  · obtain ⟨L, hL, hqL⟩ := mem_matching.1 hid
    exact ⟨L, (hs.shrinks k).subset hL, hq L hqL⟩
  · intro hnil x hx
    by_contra hqx
    have hmem : x.1 ∈ matching q k s.cloud :=
      mem_matching.2 ⟨x.2, (hst.shrinks k).subset hx, by simpa using hqx⟩
    exact hgone hnil x.1 hmem x.2 hx

theorem wp_cleanupByTags (hids : DistinctIDs s.cloud) :
    wp (cleanupByTags sdkClient T)
      (fun r t => r = .ok () → Swept (selects T (lbSelector T s.orders)) s.cloud t.cloud) s := by
  have hR : Closed fun s' t : Session =>
      Sweeping (Selected (selects T (lbSelector T s.orders)) s.cloud) s'.cloud t.cloud :=
    Sweeping.closed
  unfold cleanupByTags
  refine wp_ite (fun _ h => by cases h) fun _ => ?_
  rw [wp_bind]
  refine (wp_collectError (wp_deleteBastion_sweeping hids (lbSelector T s.orders))).imp ?_
  rintro r s₁ ⟨⟨h₁, horders⟩, errs₁, rfl, hbastion⟩
  rw [next_ok, wp_bind]
  have hlbs : wp (sdkClient.listAPIServerLoadBalancersByTags T) (fun r t => t.cloud = s₁.cloud ∧
      ∀ out, r = .ok out →
        out.map LoadBalancer.id = matching (mapContains · (lbSelector T s.orders)) .loadBalancer
        s₁.cloud) s₁ := by
    refine (wp_listAPIServerLoadBalancersByTags_next T s₁).imp fun r t h =>
      ⟨h.1, fun out hout => ?_⟩
    subst hout
    rw [show out = _ from h.2, horders]
    simp [matching, labelled, List.filter_map, Function.comp_def, loadBalancerFromSDK, lbSelector]
  refine (wp_deleteListed_sweeping (fun _ h => h) h₁ hlbs fun id hid =>
    Sweeping.wp_remove (removes_deleteLoadBalancer id) (.deleteLoadBalancer hid)
      (.deleteLoadBalancer id)).imp ?_
  rintro r s₂ ⟨h₁₂, errs₂, rfl, hgone₂⟩
  have h₂ := hR.trans (s := s) h₁ h₁₂
  rw [next_ok, wp_bind]
  have hservers : wp (sdkClient.listServersByTags T) (fun r t => t.cloud = s₂.cloud ∧
      ∀ out, r = .ok out →
        out.map Server.id = matching (labelsContainTags · T) .server s₂.cloud) s₂ := by
    refine (wp_listServersByTags T s₂).imp fun r t h => ⟨h.1, fun out hout => ?_⟩
    subst hout
    exact h.2
  refine (wp_deleteListed_sweeping (fun L h => by simp [selects, h]) h₂ hservers fun id hid =>
    Sweeping.wp_remove (removes_deleteServer id) (.deleteServer hid) (.deleteServer id)).imp ?_
  rintro r s₃ ⟨h₂₃, errs₃, rfl, hgone₃⟩
  have h₃ := hR.trans (s := s) h₂ h₂₃
  rw [next_ok, wp_bind]
  refine (wp_deleteListed_sweeping (fun _ h => h) h₃ (wp_listNetworksByTags T s₃) fun id hid =>
    Sweeping.wp_remove (removes_deleteNetwork id) (.deleteNetwork hid) (.deleteNetwork id)).imp ?_
  rintro r s₄ ⟨h₃₄, errs₄, rfl, hgone₄⟩
  have h₄ := hR.trans (s := s) h₃ h₃₄
  rw [next_ok]
  refine wp_ite (fun hempty _ => ?_) fun _ h => by cases h
  -- nothing failed: what each part has taken away stays away
  obtain ⟨hnil₁, hnil₂, hnil₃, hnil₄⟩ : errs₁ = [] ∧ errs₂ = [] ∧ errs₃ = [] ∧ errs₄ = [] := by
    simpa using hempty
  have h₁₄ := hR.trans h₁₂ (hR.trans h₂₃ h₃₄)
  have hbastion₄ := (hbastion hnil₁).shrinks h₁₄.shrinks
  have hlb₄ : ∀ x ∈ labelled .loadBalancer s₄.cloud, mapContains x.2 (lbSelector T s.orders) =
      false := fun x hx =>
    hgone₂ hnil₂ x (((hR.trans h₂₃ h₃₄).shrinks .loadBalancer).subset hx)
  have hserver₄ : ∀ x ∈ labelled .server s₄.cloud, labelsContainTags x.2 T = false := fun x hx =>
    hgone₃ hnil₃ x ((h₃₄.shrinks .server).subset hx)
  refine { h₄ with gone := fun k x hx => ?_ }
  cases k with
  | server => simp [selects, hserver₄ x hx, tagged_nil_iff.1 hbastion₄.server x hx]
  | network => exact hgone₄ hnil₄ x hx
  | publicIP => exact tagged_nil_iff.1 hbastion₄.publicIP x hx
  | securityGroup => exact tagged_nil_iff.1 hbastion₄.securityGroup x hx
  | loadBalancer => exact hlb₄ x hx

/-! ### Complete and exact -/

/-- The resource carries the tags, a load balancer with `/` rewritten to `.` in their keys. -/
def carries (T : StringMap) : Kind → StringMap → Bool
  | .loadBalancer, L => T.entries.all fun e => L.lookup (rewriteKey e.1) == some e.2
  | _, L => labelsContainTags L T

/-- Nothing carries the tags. -/
def Complete (T : StringMap) (c : Cloud) : Prop := ∀ k, ∀ x ∈ labelled k c, carries T k x.2 = false

/-- What does not carry the tags is unchanged. -/
structure Exact (T : StringMap) (c c' : Cloud) : Prop where
  servers : ∀ x ∈ c.servers, carries T .server x.labels = false → x ∈ c'.servers
  networks : ∀ x ∈ c.networks, carries T .network x.labels = false → x ∈ c'.networks
  publicIPs : ∀ x ∈ c.publicIPs, carries T .publicIP x.labels = false → x ∈ c'.publicIPs
  securityGroups : ∀ x ∈ c.securityGroups, carries T .securityGroup x.labels = false →
    x ∈ c'.securityGroups
  loadBalancers : ∀ x ∈ c.loadBalancers, carries T .loadBalancer x.labels = false →
    x ∈ c'.loadBalancers

/-- The clean-up selects exactly what carries the tags: no public IP or security group has a role
other than the bastion's, no load balancer is mistaken for one with the tags; and no address of
others is on a server that goes. -/
structure Fits (T selector : StringMap) (c : Cloud) : Prop where
  selects : ∀ k, ∀ x ∈ labelled k c, selects T selector k x.2 = carries T k x.2
  addresses : ∀ p ∈ c.publicIPs, carries T .publicIP p.labels = false → ∀ x ∈ c.servers,
    carries T .server x.labels = true → x.nics.any (·.id == p.networkInterface) = true →
    p.networkInterface = ""

theorem Exact.labelled (h : Exact T c c') {x : String × StringMap} (hx : x ∈ labelled k c)
    (hno : carries T k x.2 = false) :
    x ∈ labelled k c' := by
  cases k with
  | server =>
    obtain ⟨y, hy, rfl⟩ := List.mem_map.1 hx
    exact List.mem_map.2 ⟨y, h.servers y hy hno, rfl⟩
  | network =>
    obtain ⟨y, hy, rfl⟩ := List.mem_map.1 hx
    exact List.mem_map.2 ⟨y, h.networks y hy hno, rfl⟩
  | publicIP =>
    obtain ⟨y, hy, rfl⟩ := List.mem_map.1 hx
    exact List.mem_map.2 ⟨y, h.publicIPs y hy hno, rfl⟩
  | securityGroup =>
    obtain ⟨y, hy, rfl⟩ := List.mem_map.1 hx
    exact List.mem_map.2 ⟨y, h.securityGroups y hy hno, rfl⟩
  | loadBalancer =>
    obtain ⟨y, hy, rfl⟩ := List.mem_map.1 hx
    exact List.mem_map.2 ⟨y, h.loadBalancers y hy hno, rfl⟩

theorem DistinctIDs.eq (h : DistinctIDs c) {x y : String × StringMap} (hx : x ∈ labelled k c)
    (hy : y ∈ labelled k c) (hid : x.1 = y.1) : x = y :=
  List.inj_on_of_nodup_map (h.nodup k) hx hy hid

theorem DistinctIDs.find_server (h : DistinctIDs c) {x : SDKServer} (hx : x ∈ c.servers) :
    c.servers.find? (·.id == x.id) = some x := by
  obtain ⟨y, hy⟩ : ∃ y, c.servers.find? (·.id == x.id) = some y :=
    Option.isSome_iff_exists.1 (List.find?_isSome.2 ⟨x, hx, by simp⟩)
  have hid : y.id = x.id := by simpa using List.find?_some hy
  have hnodup : (c.servers.map SDKServer.id).Nodup := by
    simpa [labelled, Function.comp_def] using h.nodup .server
  rw [hy, List.inj_on_of_nodup_map hnodup (List.mem_of_find?_eq_some hy) hx hid]

section
variable {p : Kind → StringMap → Bool} {selector : StringMap}

theorem DistinctIDs.not_selected (h : DistinctIDs c) {L : StringMap} (hx : (id, L) ∈ labelled k c)
    (hno : p k L = false) :
    ¬ Selected p c k id := by
  rintro ⟨L', hL', hp⟩
  obtain rfl : L' = L := congrArg Prod.snd (h.eq hL' hx rfl)
  rw [hno] at hp
  cases hp

theorem Swept.exact (h : Swept (selects T selector) c c') (hids : DistinctIDs c)
    (hfits : Fits T selector c) : Exact T c c' := by
  have hspared : ∀ {k : Kind} {id : String} {L : StringMap}, (id, L) ∈ labelled k c →
      carries T k L = false →
        ¬ Selected (selects T selector) c k id := fun {k id L} hx hno =>
    hids.not_selected hx ((hfits.selects k (id, L) hx).trans hno)
  refine ⟨fun x hx hno => ?_, fun x hx hno => ?_, fun x hx hno => ?_, fun x hx hno => ?_,
    fun x hx hno => ?_⟩
  · exact h.spares.servers x hx (hspared (List.mem_map.2 ⟨x, hx, rfl⟩) hno)
  · exact h.spares.networks x hx (hspared (List.mem_map.2 ⟨x, hx, rfl⟩) hno)
  · rcases h.spares.publicIPs x hx (hspared (List.mem_map.2 ⟨x, hx, rfl⟩) hno)
      with hx' | ⟨⟨y, hy, hsel, hnic⟩, hx'⟩
    · exact hx'
    · -- the server of this address was selected, so it carries the tags and has no address of
      -- others
      have hmem : (y.id, y.labels) ∈ labelled .server c := List.mem_map_of_mem hy
      have hyes : carries T .server y.labels = true := by
        by_contra hno'
        exact hspared hmem (by simpa using hno') hsel
      have h0 : x.networkInterface = "" := hfits.addresses x hx hno y hy hyes hnic
      rwa [show x = { x with networkInterface := "" } by rw [← h0]]
  · exact h.spares.securityGroups x hx (hspared (List.mem_map.2 ⟨x, hx, rfl⟩) hno)
  · exact h.spares.loadBalancers x hx (hspared (List.mem_map.2 ⟨x, hx, rfl⟩) hno)

/-- A selected server has gone and has released its addresses. -/
theorem Swept.released (h : Swept p c c') (hids : DistinctIDs c) {x : SDKServer}
    (hx : x ∈ c.servers) (hsel : p .server x.labels = true) : Released x.nics c' := by
  refine (h.releases.servers x.id x (hids.find_server hx)).resolve_left ?_
  rintro ⟨y, hy, -⟩
  have hid : y.id = x.id := by simpa using List.find?_some hy
  have hy' : (y.id, y.labels) ∈ labelled .server c' :=
    List.mem_map_of_mem (List.mem_of_find?_eq_some hy)
  have heq := hids.eq ((h.shrinks .server).subset hy') (List.mem_map_of_mem hx) hid
  have hlabels : y.labels = x.labels := congrArg Prod.snd heq
  have hno := h.gone .server _ hy'
  rw [show (y.id, y.labels).2 = x.labels from hlabels, hsel] at hno
  cases hno

theorem Swept.fits (h : Swept (selects T selector) c c') (hids : DistinctIDs c)
    (hcomplete : Complete T c') (hexact : Exact T c c') : Fits T selector c := by
  have hselects : ∀ k, ∀ x ∈ labelled k c, selects T selector k x.2 = carries T k x.2 := by
    intro k x hx
    cases hsel : selects T selector k x.2 with
    | false => exact (hcomplete k x (h.spares.labelled hx (hids.not_selected hx hsel))).symm
    | true =>
      by_contra hno
      have hstill := hexact.labelled hx (by simpa using Ne.symm hno)
      rw [h.gone k x hstill] at hsel
      cases hsel
  refine ⟨hselects, fun p hp hno x hx hyes hnic => ?_⟩
  have hsel : selects T selector .server x.labels = true := by
    rw [hselects .server _ (List.mem_map_of_mem hx)]; exact hyes
  exact h.released hids hx hsel p (hexact.publicIPs p hp hno) hnic

/-- **The clean-up by tags is complete and exact** exactly if it selects what carries the tags. -/
theorem cleanup_complete_and_exact_iff (T : StringMap) (s : Session) (hids : DistinctIDs s.cloud)
    (hok : (cleanupByTags sdkClient T).outcome s = .ok ()) :
    (Complete T ((cleanupByTags sdkClient T).after s).cloud ∧
      Exact T s.cloud ((cleanupByTags sdkClient T).after s).cloud) ↔
      Fits T (lbSelector T s.orders) s.cloud := by
  have hswept := wp_iff.1 (wp_cleanupByTags (T := T) hids) hok
  constructor
  · rintro ⟨hcomplete, hexact⟩
    exact hswept.fits hids hcomplete hexact
  · intro hfits
    refine ⟨fun k x hx => ?_, hswept.exact hids hfits⟩
    rw [← hfits.selects k x ((hswept.shrinks k).subset hx)]
    exact hswept.gone k x hx

end

/-! ### Two clusters -/

namespace SweepExample

def tags : StringMap := clusterTags "c" "ns" ∅

def bastionTags : StringMap := cleanupBastionTags tags

/-- The cluster `c` with a bastion, one node and a load balancer, and resources of others. -/
def twoClusters : Session :=
  { cloud :=
      { ids := .unary
        servers :=
          [{ id := "bastion", name := "c-bastion", labels := bastionTags,
             nics := [⟨"b0", "10.0.0.2", ""⟩] },
          { id := "node", name := "m", labels := machineTags "c" "ns" "m" "uid" ∅,
            nics := [⟨"n0", "10.0.0.3", ""⟩] },
          { id := "other", name := "m", labels := machineTags "d" "ns" "m" "uid2" ∅,
            nics := [⟨"o0", "10.1.0.3", ""⟩] }]
        networks :=
          [{ id := "net", name := "c", labels := tags },
          { id := "net2", name := "d", labels := clusterTags "d" "ns" ∅ }]
        publicIPs :=
          [{ id := "ip", labels := bastionTags, ip := "192.0.2.1", networkInterface := "b0" },
          { id := "ip2", labels := ∅, ip := "192.0.2.2", networkInterface := "o0" }]
        securityGroups :=
          [{ id := "ssh", name := "c-bastion-ssh", labels := bastionTags },
          { id := "web", name := "web", labels := ∅ }]
        loadBalancers := [{ name := "c", labels := loadBalancerLabels tags.entries, serial := 0 },
          { name := "d", labels := loadBalancerLabels (clusterTags "d" "ns" ∅).entries,
            serial := 1 }] } }

theorem distinctIDs_twoClusters : DistinctIDs twoClusters.cloud := by
  refine ⟨fun k => ?_, fun k => ?_⟩
  · cases k <;> decide +kernel
  · cases k <;> decide +kernel

theorem cleanup_complete_and_exact_twoClusters :
    (cleanupByTags sdkClient tags).outcome twoClusters = .ok () ∧
      Complete tags ((cleanupByTags sdkClient tags).after twoClusters).cloud ∧
      Exact tags twoClusters.cloud ((cleanupByTags sdkClient tags).after twoClusters).cloud := by
  have hok : (cleanupByTags sdkClient tags).outcome twoClusters = .ok () := by decide +kernel
  refine ⟨hok, (cleanup_complete_and_exact_iff tags twoClusters distinctIDs_twoClusters hok).2
    ⟨fun k => ?_, ?_⟩⟩
  · cases k <;> decide +kernel
  · decide +kernel

/-- What the provider itself makes of an empty project: a bastion, a node and SSH access to it. -/
def provisioned : Session :=
  Prog.after (do
    let b ← ensureBastion
      { name := "c-bastion", networkID := "net", imageID := "image", machineType := "c1.1",
        sshKeyName := "key",
        allowedCIDRs := ["192.0.2.0/24"], tags := bastionTags }
    let node ← createServer
      { name := "m", imageID := "image", machineType := "c1.1", networkID := "net",
        tags := machineTags "c" "ns" "m" "uid" ∅ }
    ensureNodeSSHAccess
      { name := "c-node-ssh", serverID := node.id, bastionSecurityGroupID := b.securityGroupID,
        tags := nodeSSHAccessTags { metadata := { name := "c", namespace' := "ns" }, spec := {} } })
    { cloud := { ids := .unary } : Session }

/-- The clean-up succeeds and leaves the security group of the node SSH access behind. -/
theorem cleanup_leaves_nodeSSH :
    DistinctIDs provisioned.cloud ∧ (cleanupByTags sdkClient tags).outcome provisioned = .ok () ∧
      ¬ (Complete tags ((cleanupByTags sdkClient tags).after provisioned).cloud ∧
        Exact tags provisioned.cloud ((cleanupByTags sdkClient tags).after provisioned).cloud) := by
  refine ⟨⟨fun k => ?_, fun k => ?_⟩, by decide +kernel, fun ⟨hcomplete, _⟩ => ?_⟩
  · cases k <;> decide +kernel
  · cases k <;> decide +kernel
  · have hleft :
        ¬ ∀ x ∈ labelled .securityGroup ((cleanupByTags sdkClient tags).after provisioned).cloud,
          carries tags .securityGroup x.2 = false := by decide +kernel
    exact hleft (hcomplete .securityGroup)

end SweepExample

end Capstk
