import Capstk.Proofs.Authority
import Capstk.Proofs.NodeSSH
import Capstk.Proofs.BastionFixpoint

/-!
# Every call stays with its tenant

Each call of the SDK client issues requests that its tenant may issue, if the tags it is given are
the tenant's and the tenant knows the IDs it is given; the IDs it answers with are then known as
well.
-/

namespace Capstk

open Prog SDKClient

variable {t : Tenant} {rule : SDKRulePayload → Prop} {k : Kind} {T : StringMap} {c c' : Cloud}
  {id : String} {s : Session}
  {α β : Type}

theorem within_closed (t : Tenant) (rule : SDKRulePayload → Prop) :
    Closed fun s u : Session => Within t rule s.cloud u.cloud :=
  ⟨fun s => .refl s.cloud, fun h h' => h.trans h'⟩

theorem Within.of_eq (h : c' = c) : Within t rule c c' := by
  rw [h]
  exact .refl c

theorem within_request {op : String} {req : Request} {effect : Cloud.Effect α}
    (heffect : ∀ c, (effect c).2 = req.apply c) (h : t.May rule s.cloud req) :
    wp (request op req effect) (fun _ u => Within t rule s.cloud u.cloud) s := by
  refine wp_request fun r c u hr hu => ?_
  rw [hu.cloud]
  rcases hr.cloud_cases with rfl | rfl
  · exact .refl _
  · rw [heffect]
    exact .single h

theorem within_read {op : String} {req : Request} {effect : Cloud.Effect α} (h : ReadOnly effect) :
    Keeps (fun s u : Session => Within t rule s.cloud u.cloud) (request op req effect) := fun s =>
  wp_request (Q := fun _ u => Within t rule s.cloud u.cloud) fun _ _ _ hr hu =>
    .of_eq (hu.cloud.trans (hr.cloud_eq h))

/-- As long as `P` holds, the requests are those of the tenant. -/
def Confined (t : Tenant) (rule : SDKRulePayload → Prop) (P : Cloud → Prop) (s u : Session) :
    Prop :=
  P s.cloud → Within t rule s.cloud u.cloud

/-- Everything that happens keeps `P`. -/
def Stable (P : Cloud → Prop) : Prop := ∀ c c', Evolves c c' → P c → P c'

theorem stable_known (hk : k ≠ .loadBalancer) : Stable (t.Known k id) :=
  fun _ _ he h => h.evolves hk he

theorem Stable.and {P P' : Cloud → Prop} (h : Stable P) (h' : Stable P') :
    Stable fun c => P c ∧ P' c :=
  fun c c' he hc => ⟨h c c' he hc.1, h' c c' he hc.2⟩

section confined
variable {P : Cloud → Prop}

theorem confined_closed (hP : Stable P) : Closed (Confined t rule P) :=
  ⟨fun _ _ => .refl _, fun h h' hs => (h hs).trans (h' (hP _ _ (h hs).evolves hs))⟩

theorem known_closed (t : Tenant) (rule : SDKRulePayload → Prop) (hk : k ≠ .loadBalancer)
    (id : String) :
    Closed (Confined t rule (t.Known k id)) := confined_closed (stable_known hk)

theorem confined_request {op : String} {req : Request} {effect : Cloud.Effect α}
    (heffect : ∀ c, (effect c).2 = req.apply c) (h : ∀ c, P c → t.May rule c req) :
    Keeps (Confined t rule P) (request op req effect) := fun s hs =>
  within_request heffect (h s.cloud hs)

theorem confined_read {op : String} {req : Request} {effect : Cloud.Effect α}
    (h : ReadOnly effect) :
    Keeps (Confined t rule P) (request op req effect) := (within_read h).imp fun _ _ hu _ => hu

end confined

namespace SDKClient

/-! ### Look-ups and creations -/

/-- What is found by the tags of a tenant is known. -/
theorem within_find {ident : α → String} {find : Call Session α}
    (hfind : wp find (Found k T ident s) s) (hk : k ≠ .loadBalancer) (hT : t.owns T = true)
    (hs : Sound s.cloud) :
    wp find (Via (fun s u : Session => Within t rule s.cloud u.cloud) s fun a u =>
      t.Known k (ident a) u.cloud) s := by
  refine hfind.imp fun r u ⟨hu, hr⟩ => ⟨.of_eq hu, fun a ha => ?_⟩
  subst ha
  refine t.known_of_mem (hu ▸ hs) hk hT ?_
  rw [hu, hr]
  exact List.mem_singleton.2 rfl

/-- Look a resource up and create it if there is none: the answer is known. -/
theorem within_ensure {ident : α → String} {ident' : β → String} {effect : Cloud.Effect α}
    {op : String} {req : Request} {find : Call Session β} {finish : α → Call Session β}
    (hadd : Adds k T ident effect) (hfind : wp find (Found k T ident' s) s)
    (hfinish : ∀ a u, wp (finish a) (fun r v => v.cloud = u.cloud ∧ ∃ b, r = .ok b ∧
      ident' b = ident a) u)
    (heffect : ∀ c, (effect c).2 = req.apply c) (hmay : ∀ c, t.May rule c req)
    (hk : k ≠ .loadBalancer) (hT : t.owns T = true) (hs : Sound s.cloud) :
    wp (existingOr isNotFound find (do finish (← request op req effect)))
      (Via (fun s u : Session => Within t rule s.cloud u.cloud) s fun b u =>
        t.Known k (ident' b) u.cloud) s := by
  have hwithin : wp (existingOr isNotFound find (do finish (← request op req effect)))
      (fun _ u => Within t rule s.cloud u.cloud) s := by
    refine wp_existingOr_of hfind (fun b u h => .of_eq h.1) (fun e u h _ => ?_) fun e u h _ =>
      .of_eq h.1
    rw [wp_bind]
    refine (within_request heffect (hmay u.cloud)).imp fun r v hv => ?_
    rw [h.1] at hv
    cases r with
    | error e => exact hv
    | ok a => exact (hfinish a v).imp fun r w ⟨hw, _⟩ => hw ▸ hv
  refine (hwithin.and (wp_ensure hadd hfind hfinish)).imp fun r u ⟨hu, _, hr⟩ =>
    ⟨hu, fun b hb => ?_⟩
  refine t.known_of_mem (hu.evolves.sound hs) hk hT ?_
  rw [hr b hb]
  exact List.mem_singleton.2 rfl

theorem within_createServer {input : CreateServerInput} (hT : t.owns input.tags = true)
    (hs : Sound s.cloud) :
    wp (createServer input) (Via (fun s u : Session => Within t rule s.cloud u.cloud) s fun a u =>
      t.Known .server a.id u.cloud) s :=
  within_ensure (adds_createServer (createServerPayload input)) (wp_findServerByTags input.tags s)
    wp_serverFromSDK
    (fun _ => rfl) (fun _ => hT) (by decide) hT hs

theorem within_ensurePublicIP (hT : t.owns T = true) (hs : Sound s.cloud) :
    wp (ensurePublicIP T) (Via (fun s u : Session => Within t rule s.cloud u.cloud) s fun p u =>
      t.Known .publicIP p.id u.cloud) s :=
  within_ensure adds_createPublicIP (wp_findPublicIPByTags T s) (fun _ _ => ⟨rfl, _, rfl, rfl⟩)
    (fun _ => rfl) (fun _ => hT)
    (by decide) hT hs

theorem within_ensureSecurityGroup (name description : String) (hT : t.owns T = true)
    (hs : Sound s.cloud) :
    wp (ensureSecurityGroup name description T)
      (Via (fun s u : Session => Within t rule s.cloud u.cloud) s fun g u =>
        t.Known .securityGroup g.id u.cloud) s :=
  within_ensure (adds_createSecurityGroup name description) (wp_findSecurityGroupByTags T s)
    (fun _ _ => ⟨rfl, _, rfl, rfl⟩) (fun _ => rfl) (fun _ => hT) (by decide) hT hs

theorem within_createNetwork {input : CreateNetworkInput} (hT : t.owns input.tags = true)
    (hs : Sound s.cloud) :
    wp (createNetwork input) (Via (fun s u : Session => Within t rule s.cloud u.cloud) s fun n u =>
      t.Known .network n.id u.cloud) s := by
  unfold createNetwork
  refine wp_ite (fun _ => wp_via_fail (within_closed t rule) _) fun _ => ?_
  rw [if_neg (by simp [Tenant.tags_nonempty hT])]
  exact within_ensure (adds_createNetwork input.name input.ipv4Prefix)
    (wp_findNetworkByTags input.tags s)
    (fun _ _ => ⟨rfl, _, rfl, rfl⟩) (fun _ => rfl) (fun _ => hT) (by decide) hT hs

/-! ### Rules -/

section rules
variable {groupID : String}

theorem confined_createRule {payload : SDKRulePayload} (hrule : rule payload) :
    Keeps (Confined t rule (t.Known .securityGroup groupID)) (createRule groupID payload) :=
  confined_request (fun _ => rfl) fun _ hc => ⟨hc.holds, hrule⟩

theorem confined_deleteRule (r : SDKRule) :
    Keeps (Confined t rule (t.Known .securityGroup groupID)) (deleteRule groupID r) := by
  have hR := known_closed t rule (k := .securityGroup) (by decide) groupID
  exact .ite (.pure hR ())
    (keeps_tolerate hR (confined_request (fun _ => rfl) fun _ hc => hc.holds))

theorem confined_listRules {P : Cloud → Prop} : Keeps (Confined t rule P) (listRules groupID) :=
  confined_read (readOnly_listSecurityGroupRules groupID)

theorem confined_allowCIDRs {cidrs : List String} (hrule : ∀ cidr ∈ cidrs, rule (sshRule cidr))
    (existing : List SDKRule) (desired : List String) :
    Keeps (Confined t rule (t.Known .securityGroup groupID))
      (allowCIDRs groupID existing desired cidrs) := by
  have hR := known_closed t rule (k := .securityGroup) (by decide) groupID
  induction cidrs generalizing desired with
  | nil => exact .pure hR desired
  | cons cidr cidrs ih =>
    have hrest := ih fun x hx => hrule x (List.mem_cons_of_mem _ hx)
    unfold allowCIDRs
    refine .ite (.fail hR _) (.ite (hrest _) (.ite (hrest _) ?_))
    exact .bind hR (confined_createRule (hrule cidr List.mem_cons_self)) fun _ => hrest _

theorem confined_ensureBastionSecurityGroupRules {cidrs : List String}
    (hrule : ∀ cidr ∈ cidrs, rule (sshRule cidr)) :
    Keeps (Confined t rule (t.Known .securityGroup groupID))
      (ensureBastionSecurityGroupRules groupID cidrs) := by
  have hR := known_closed t rule (k := .securityGroup) (by decide) groupID
  refine .ite (.fail hR _) (.bind hR confined_listRules fun rules =>
    .bind hR (confined_allowCIDRs hrule _ _) fun desired => ?_)
  exact .forEach hR fun r _ => .ite (.pure hR ()) (confined_deleteRule r)

theorem confined_ensureNodeSSHSecurityGroupRule {bastionGroupID : String}
    (hrule : rule (nodeRule bastionGroupID)) :
    Keeps (Confined t rule (t.Known .securityGroup groupID))
      (ensureNodeSSHSecurityGroupRule groupID bastionGroupID) := by
  have hR := known_closed t rule (k := .securityGroup) (by decide) groupID
  exact .ite (.fail hR _) (.bind hR confined_listRules fun rules =>
    .ite (.pure hR ()) (confined_createRule hrule))

theorem confined_addSecurityGroupToServer (serverID groupID : String) :
    Keeps (Confined t rule (t.Known .server serverID))
      (addSecurityGroupToServer serverID groupID) :=
  keeps_tolerate (confined_closed (stable_known (by decide)))
    (confined_request (fun _ => rfl) fun _ hc => hc.holds)

theorem confined_attachPublicIP (serverID : String) (p : PublicIP) :
    Keeps (Confined t rule (t.Known .publicIP p.id)) (attachPublicIP serverID p) := by
  have hR := known_closed t rule (k := .publicIP) (by decide) p.id
  refine .ite (.bind hR (keeps_tolerate hR (confined_request (fun _ => rfl) fun _ hc => hc.holds))
    fun _ => ?_) (.pure hR _)
  exact .bind hR (confined_read (readOnly_getPublicIP p.id)) fun _ => .pure hR _

end rules

/-! ### Bastion and node access -/

/-- The tenant knows the resources of the bastion. -/
structure BastionKnown (t : Tenant) (b : Bastion) (c : Cloud) : Prop where
  server : t.Known .server b.serverID c
  publicIP : t.Known .publicIP b.publicIPID c
  securityGroup : t.Known .securityGroup b.securityGroupID c

theorem within_ensureBastion {input : BastionInput} (hT : t.owns input.tags = true)
    (hrule : ∀ cidr ∈ input.allowedCIDRs, rule (sshRule cidr)) (hs : Sound s.cloud) :
    wp (ensureBastion input)
    (Via (fun s u : Session => Within t rule s.cloud u.cloud) s fun b u => BastionKnown t b u.cloud)
      s := by
  have hR := within_closed t rule
  -- a call that is confined by what is known here
  have hcall : ∀ {α : Type} {x : Call Session α} {P : Cloud → Prop} {v : Session},
      Keeps (Confined t rule P) x → P v.cloud →
        wp x (Via (fun s u : Session => Within t rule s.cloud u.cloud) v fun _ u =>
          Evolves v.cloud u.cloud) v :=
    fun h hP => (h.wp _).imp fun _ u hu => ⟨hu hP, fun _ _ => (hu hP).evolves⟩
  have hvia : ∀ {α : Type} {x : Call Session α} {P : α → Session → Prop} {v : Session},
      wp x (Via (fun s u : Session => Within t rule s.cloud u.cloud) v P) v →
      wp x (Via (fun s u : Session => Within t rule s.cloud u.cloud) v fun a u => P a u ∧
        Evolves v.cloud u.cloud) v :=
    fun h => h.imp fun r u hu => hu.imp fun a hw ha => ⟨ha, hw.evolves⟩
  unfold ensureBastion
  refine wp_ite (fun _ => wp_via_fail hR _) fun _ => wp_ite (fun _ => wp_via_fail hR _) fun _ =>
    wp_ite (fun _ => wp_via_fail hR _) fun _ => ?_
  refine wp_via_bind hR (hvia (within_ensureSecurityGroup _ _ hT hs)) fun g s₁ _ h₁ => ?_
  obtain ⟨hg, he₁⟩ := h₁
  refine wp_via_bind hR (hcall (confined_ensureBastionSecurityGroupRules hrule) hg)
    fun _ s₂ _ he₂ => ?_
  have hs₂ : Sound s₂.cloud := he₂.sound (he₁.sound hs)
  refine wp_via_bind hR (hvia (within_createServer hT hs₂)) fun a s₃ _ h₃ => ?_
  obtain ⟨ha, he₃⟩ := h₃
  refine wp_via_bind hR (hcall (confined_addSecurityGroupToServer a.id g.id) ha) fun _ s₄ _ he₄ =>
    ?_
  refine wp_via_bind hR (hvia (within_ensurePublicIP hT (he₄.sound (he₃.sound hs₂))))
    fun p s₅ _ h₅ => ?_
  obtain ⟨hp, he₅⟩ := h₅
  have hattach :
      wp (attachPublicIP a.id p)
      (Via (fun s u : Session => Within t rule s.cloud u.cloud) s₅ fun q u =>
        q.id = p.id ∧ Evolves s₅.cloud u.cloud) s₅ := by
    refine ((hcall (confined_attachPublicIP a.id p) hp).and (wp_attachPublicIP a.id p s₅)).imp ?_
    exact fun r u ⟨hu, hq⟩ => ⟨hu.1, fun q hr => ⟨hq.2 q hr, hu.2 q hr⟩⟩
  refine wp_via_bind hR hattach fun q s₆ _ h₆ => wp_via_pure hR ⟨?_, ?_, ?_⟩
  · exact ha.evolves (by decide) (he₄.trans (he₅.trans h₆.2))
  · show t.Known .publicIP q.id s₆.cloud
    rw [h₆.1]
    exact hp.evolves (by decide) h₆.2
  · exact hg.evolves (by decide) (he₂.trans (he₃.trans (he₄.trans (he₅.trans h₆.2))))

theorem cleanupClosedOn_within (t : Tenant) (rule : SDKRulePayload → Prop) (c₀ : Cloud) :
    CleanupClosedOn (fun k id => k ≠ .loadBalancer ∧ t.Known k id c₀) fun c c' => Evolves c₀ c →
    Within t rule c c' where
  refl c _ := .refl c
  trans h h' he := (h he).trans (h' (he.trans (h he).evolves))
  deleteServer id h _ he := .single (a := Request.deleteServer id) (h.2.evolves h.1 he).holds
  deletePublicIP id h _ he := .single (a := Request.deletePublicIP id) (h.2.evolves h.1 he).holds
  deleteSecurityGroup id h _ he :=
    .single (a := Request.deleteSecurityGroup id) (h.2.evolves h.1 he).holds
  removePublicIpFromServer s p h _ he :=
    .single (a := Request.removePublicIpFromServer s p) (h.2.evolves h.1 he).holds
  removeSecurityGroupFromServer s g h _ he :=
    .single (a := Request.removeSecurityGroupFromServer s g) (h.2.evolves h.1 he).holds
  deleteSecurityGroupRule g r h _ he :=
    .single (a := Request.deleteSecurityGroupRule g r) (h.2.evolves h.1 he).holds

/-- The ID is empty, or the tenant knows it. -/
def KnownIfSet (t : Tenant) (k : Kind) (id : String) (c : Cloud) : Prop := id ≠ "" → t.Known k id c

theorem KnownIfSet.evolves (h : KnownIfSet t k id c) (hk : k ≠ .loadBalancer) (he : Evolves c c') :
    KnownIfSet t k id c' :=
  fun hne => (h hne).evolves hk he

structure BastionKnownIfSet (t : Tenant) (b : Bastion) (c : Cloud) : Prop where
  server : KnownIfSet t .server b.serverID c
  publicIP : KnownIfSet t .publicIP b.publicIPID c
  securityGroup : KnownIfSet t .securityGroup b.securityGroupID c

theorem within_deleteBastion {input : BastionInput} {status : Bastion}
    (hT : t.owns input.tags = true) (hstatus : BastionKnownIfSet t status s.cloud)
    (hs : Sound s.cloud) :
    wp (deleteBastion input status) (fun _ u => Within t rule s.cloud u.cloud) s := by
  have hknown : ∀ {k}, k ≠ .loadBalancer → ∀ id ∈ tagged k input.tags s.cloud, k ≠ .loadBalancer ∧
      t.Known k id s.cloud :=
    fun hk id hid => ⟨hk, t.known_of_mem hs hk hT hid⟩
  refine ((cleanupClosedOn_within t rule s.cloud).wp_deleteBastion
    (points_idOrFind (wp_findServerByTags _) (fun hne => ⟨by decide, hstatus.server hne⟩)
      (hknown (by decide)))
    (points_idOrFind (wp_findPublicIPByTags _) (fun hne => ⟨by decide, hstatus.publicIP hne⟩)
      (hknown (by decide)))
    (points_idOrFind (wp_findSecurityGroupByTags _)
      (fun hne => ⟨by decide, hstatus.securityGroup hne⟩)
      (hknown (by decide)))).imp fun r u hu => hu (.refl _)

theorem within_ensureNodeSSHAccess {input : NodeSSHAccessInput} (hT : t.owns input.tags = true)
    (hrule : rule (nodeRule input.bastionSecurityGroupID))
    (hserver : t.Known .server input.serverID s.cloud) (hs : Sound s.cloud) :
    wp (ensureNodeSSHAccess input) (fun _ u => Within t rule s.cloud u.cloud) s := by
  have hR := within_closed t rule
  refine wp.imp (Q := Via (fun s u : Session => Within t rule s.cloud u.cloud) s fun _ _ => True) ?_
    fun r u h => h.1
  unfold ensureNodeSSHAccess
  refine wp_ite (fun _ => wp_via_fail hR _) fun _ => wp_ite (fun _ => wp_via_fail hR _) fun _ => ?_
  refine wp_via_bind hR (within_ensureSecurityGroup _ _ hT hs) fun g s₁ h₁ hg => ?_
  refine wp_via_bind hR (P := fun _ u => Within t rule s₁.cloud u.cloud)
    (((confined_ensureNodeSSHSecurityGroupRule hrule).wp s₁).imp fun _ u hu =>
      ⟨hu hg, fun _ _ => hu hg⟩) fun _ s₂ _ h₂ => ?_
  have hserver₂ : t.Known .server input.serverID s₂.cloud :=
    hserver.evolves (by decide) (Within.evolves (h₁.trans h₂))
  refine wp_via_bind hR (P := fun _ _ => True)
    (((confined_addSecurityGroupToServer _ g.id).wp s₂).imp fun _ u hu =>
      ⟨hu hserver₂, fun _ _ => trivial⟩) fun _ s₃ _ _ => ?_
  exact wp_via_pure hR trivial

/-- The servers that `DeleteNodeSSHAccess` looks for are the tenant's. -/
theorem owns_clusterServerSelector (hT : t.owns T = true) :
    t.owns (clusterServerSelectorFromTags T) = true := by
  have hself := clusterServerSelector_sub_iff.1 (.refl (clusterServerSelectorFromTags T))
  have hkey : ∀ {key v}, key ∈ clusterServerSelectorKeys → v ≠ "" → T.lookup key = some v →
      (clusterServerSelectorFromTags T).lookup key = some v := fun hmem hne hv => by
    have h := hself _ hmem
    rw [hv, Option.getD_some] at h
    exact h.resolve_left hne
  obtain ⟨hns, hname⟩ := Tenant.owns_iff.1 hT
  refine Tenant.owns_iff.2 ⟨hkey (by decide) t.named.1 hns, ?_⟩
  exact hname.imp (hkey (by decide) t.named.2.1) (hkey (by decide) t.named.2.2)

theorem within_deleteNodeSSHAccess (hT : t.owns T = true) (hs : Sound s.cloud) :
    wp (deleteNodeSSHAccess T) (fun _ u => Within t rule s.cloud u.cloud) s := by
  have hon := cleanupClosedOn_within t rule s.cloud
  have hR := hon.closed
  unfold deleteNodeSSHAccess
  rw [wp_attempt_bind]
  refine (wp_findSecurityGroupByTags T s).imp fun r u ⟨hu, hr⟩ => ?_
  cases r with
  | error e => exact wp_ite (fun _ => .of_eq hu) fun _ => .of_eq hu
  | ok g =>
    have hg : t.Known .securityGroup g.id s.cloud :=
      t.known_of_mem hs (by decide) hT (by rw [hr]; exact List.mem_singleton.2 rfl)
    dsimp only
    rw [wp_bind]
    refine (wp_listServersByTags _ u).imp fun r v ⟨hv, hlist⟩ => ?_
    have hc : v.cloud = s.cloud := hv.trans hu
    cases r with
    | error e => exact .of_eq hc
    | ok servers =>
      have hids : servers.map (·.id) = tagged .server (clusterServerSelectorFromTags T) u.cloud :=
        hlist
      have hservers : ∀ a ∈ servers, t.Known .server a.id s.cloud := fun a ha => by
        refine t.known_of_mem hs (by decide) (owns_clusterServerSelector hT) ?_
        rw [← hu, ← hids]
        exact List.mem_map_of_mem ha
      rw [next_ok]
      refine ((Keeps.bind hR (.forEach hR fun a ha => ?_) fun _ => hon.keeps_deleteSecurityGroup
        ⟨by decide, hg⟩).wp v).imp
        fun r w hw => ?_
      · exact keeps_tolerate hR
          (keeps_request (R := fun c c' => Evolves s.cloud c → Within t rule c c') hon.refl
          (hon.removeSecurityGroupFromServer a.id g.id ⟨by decide, hservers a ha⟩))
      · rw [← hc]
        exact hw (hc ▸ .refl _)

theorem within_deleteServer (hid : t.Known .server id s.cloud) :
    wp (deleteServer id) (fun _ u => Within t rule s.cloud u.cloud) s :=
  within_request (fun _ => rfl) hid.holds

theorem within_deleteNetwork (hid : t.Known .network id s.cloud) :
    wp (deleteNetwork id) (fun _ u => Within t rule s.cloud u.cloud) s :=
  within_request (fun _ => rfl) hid.holds

/-! ### Load balancers -/

/-- What the load balancer of a tenant is looked for by. -/
structure BalancerTags (t : Tenant) (T : StringMap) : Prop where
  consistent : ConsistentRewrites T
  name : T.lookup labelClusterName = some t.infrastructure
  managed : T.lookup labelManagedBy = some managedByValue

theorem lookup_of_mapContains {labels needle : StringMap} {key v : String}
    (h : mapContains labels needle = true) (hv : needle.lookup key = some v) (hne : v ≠ "") :
    labels.lookup key = some v := by
  have hentry := List.all_eq_true.1 h _ (StringMap.mem_entries_iff.2 hv)
  rw [beq_iff_eq] at hentry
  cases hl : labels.lookup key with
  | none => rw [hl] at hentry; exact absurd hentry.symm hne
  | some w => rw [hl] at hentry; exact congrArg some hentry

/-- A load balancer that is found by the tags of a cluster is its own. -/
theorem BalancerTags.eq_balancer {l : Entries} {labels : StringMap} {name : String}
    (h : BalancerTags t T) (hl : l.Perm T.entries)
    (hlabels : mapContains labels (loadBalancerLabels l) = true)
    (hname : NamedAfterCluster name labels) : name = t.balancer :=
  hname t.infrastructure (lookup_of_mapContains hlabels (h.consistent.lookup hl h.name) t.named.2.2)
    (lookup_of_mapContains hlabels (h.consistent.lookup hl h.managed) (by decide))

theorem wp_listAPIServerLoadBalancersByTags_own (hT : BalancerTags t T)
    (hs : BalancersNamed s.cloud) :
    wp (listAPIServerLoadBalancersByTags T)
      (fun r u => u.cloud = s.cloud ∧ ∀ out, r = .ok out → ∀ l ∈ out,
        l.id = t.balancer) s := by
  refine (wp_listAPIServerLoadBalancersByTags_matches T s).imp fun r u ⟨hu, hr⟩ =>
    ⟨hu, fun out hout => ?_⟩
  subst hout
  obtain ⟨order, horder, rfl⟩ := hr
  intro l hl
  obtain ⟨x, hx, rfl⟩ := List.mem_map.1 hl
  obtain ⟨hx, hlabels⟩ := List.mem_filter.1 hx
  exact hT.eq_balancer horder hlabels (hs _ (List.mem_map_of_mem hx))

theorem wp_findLoadBalancerByTags_own (hT : BalancerTags t T) (hs : BalancersNamed s.cloud) :
    wp (findLoadBalancerByTags T)
      (fun r u => u.cloud = s.cloud ∧ ∀ l, r = .ok l → l.id = t.balancer) s := by
  unfold findLoadBalancerByTags
  rw [wp_bind]
  refine (wp_listAPIServerLoadBalancersByTags_own hT hs).imp fun r u ⟨hu, hr⟩ => ?_
  cases r with
  | error e => exact ⟨hu, fun l hl => by cases hl⟩
  | ok out =>
    rw [next_ok]
    refine wp_single (fun _ => ⟨hu, fun l hl => by cases hl⟩) (fun a h => ⟨hu, fun l hl => ?_⟩)
      fun _ => ⟨hu, fun l hl => by cases hl⟩
    cases hl
    exact hr out rfl a (by rw [h]; exact List.mem_singleton.2 rfl)

theorem BalancerTags.namedAfterCluster {l : Entries} (h : BalancerTags t T)
    (hl : l.Perm T.entries) :
    NamedAfterCluster t.balancer (loadBalancerLabels l) := by
  intro cluster hcluster _
  rw [h.consistent.lookup hl h.name, Option.some.injEq] at hcluster
  rw [← hcluster]
  rfl

theorem within_ensureAPIServerLoadBalancer {input : LoadBalancerInput}
    (hT : BalancerTags t input.tags) (hname : input.name = t.balancer) (hs : Sound s.cloud) :
    wp (ensureAPIServerLoadBalancer input)
      (Via (fun s u : Session => Within t rule s.cloud u.cloud) s fun l _ =>
        l.id = t.balancer) s := by
  refine wp_existingOr_of (wp_findLoadBalancerByTags_own hT hs.balancers)
    (fun l u ⟨hu, hr⟩ => ⟨.of_eq hu, fun b hb => ?_⟩)
    (fun e u ⟨hu, _⟩ _ => ?_) fun e u ⟨hu, _⟩ _ => ⟨.of_eq hu, fun b hb => by cases hb⟩
  · cases hb
    exact hr l rfl
  rw [wp_bind]
  refine (wp_newLoadBalancerLabels input.tags u).imp fun r v ⟨hv, l, hl, hr⟩ => ?_
  subst hr
  have hc : v.cloud = s.cloud := hv.trans hu
  have hmay :
      t.May rule v.cloud
      (.createLoadBalancer (createLoadBalancerPayload input (loadBalancerLabels l))) := by
    refine ⟨hname, ?_⟩
    show NamedAfterCluster input.name (loadBalancerLabels l)
    rw [hname]
    exact hT.namedAfterCluster hl
  rw [next_ok, wp_bind]
  refine ((within_request (fun _ => rfl) hmay).and
    (wp_request (Q := fun r _ => ∀ a, r = .ok a → a.name = input.name)
    fun r c w hr hw a ha => ?_)).imp fun r w ⟨hw, hr⟩ => ?_
  · subst ha
    have hok := hr.ok
    unfold Cloud.createLoadBalancer at hok
    split at hok
    · cases hok
    · cases hok; rfl
  · rw [hc] at hw
    cases r with
    | error e => exact ⟨hw, fun b hb => by cases hb⟩
    | ok a =>
      refine ⟨hw, fun b hb => ?_⟩
      cases hb
      exact (hr a rfl).trans hname

theorem within_deleteAPIServerLoadBalancer (hid : id = t.balancer) :
    wp (deleteAPIServerLoadBalancer id) (fun _ u => Within t rule s.cloud u.cloud) s :=
  within_request (fun _ => rfl) hid

theorem within_setAPIServerLoadBalancerTargets (port : Int) (targets : List LoadBalancerTargetInput)
    (hid : id ≠ "" → id = t.balancer) :
    Keeps (fun s u : Session => Within t rule s.cloud u.cloud)
      (setAPIServerLoadBalancerTargets id port targets) := by
  have hR := within_closed t rule
  by_cases h0 : id = ""
  · unfold setAPIServerLoadBalancerTargets
    rw [if_pos (.inl h0)]
    exact .fail hR _
  refine .ite (.fail hR _) (.ite (.fail hR _) (.ite (.fail hR _) ?_))
  refine .bind hR (within_read (readOnly_getLoadBalancer id)) fun l => ?_
  split
  · exact .fail hR _
  · exact .ite (.pure hR ()) fun s => within_request (fun _ => rfl) (hid h0)

end SDKClient

end Capstk
