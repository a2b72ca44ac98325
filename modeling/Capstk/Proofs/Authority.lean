import Capstk.Lib.Interference
import Capstk.Proofs.Freshness
import Capstk.Proofs.LoadBalancerLabels

/-!
# Whose resources a request is about

Many clusters share one project. A `Tenant` is one of them: the names that its resources carry in
their labels. `May` says which requests it may issue: create what carries its labels, and change or
delete what does. What a tenant may do leaves every other tenant's resources exactly as they are
(`Untouched`), and an ID that a tenant knows stays its own whatever anybody does (`Evolves`),
because labels never change and IDs are never used twice.
-/

namespace Capstk

open Prog SDKClient

/-- What a request does to the cloud when it takes effect. -/
def Request.apply (c : Cloud) : Request → Cloud
  | .createServer payload => (Cloud.createServer payload c).2
  | .deleteServer id => (Cloud.deleteServer id c).2
  | .createNetwork name labels ipv4Prefix => (Cloud.createNetwork name labels ipv4Prefix c).2
  | .deleteNetwork id => (Cloud.deleteNetwork id c).2
  | .createPublicIP labels => (Cloud.createPublicIP labels c).2
  | .deletePublicIP id => (Cloud.deletePublicIP id c).2
  | .addPublicIpToServer serverID publicIPID => (Cloud.addPublicIpToServer serverID publicIPID c).2
  | .removePublicIpFromServer serverID publicIPID =>
      (Cloud.removePublicIpFromServer serverID publicIPID c).2
  | .createSecurityGroup name description labels =>
      (Cloud.createSecurityGroup name description labels c).2
  | .deleteSecurityGroup id => (Cloud.deleteSecurityGroup id c).2
  | .addSecurityGroupToServer serverID groupID =>
      (Cloud.addSecurityGroupToServer serverID groupID c).2
  | .removeSecurityGroupFromServer serverID groupID =>
      (Cloud.removeSecurityGroupFromServer serverID groupID c).2
  | .createSecurityGroupRule groupID payload => (Cloud.createSecurityGroupRule groupID payload c).2
  | .deleteSecurityGroupRule groupID ruleID => (Cloud.deleteSecurityGroupRule groupID ruleID c).2
  | .createLoadBalancer payload => (Cloud.createLoadBalancer payload c).2
  | .deleteLoadBalancer name => (Cloud.deleteLoadBalancer name c).2
  | .updateTargetPool name pool => (Cloud.updateTargetPool name pool c).2
  | .getServer _ | .listServers _ | .listServerNICs _ | .listAvailabilityZones | .getNetwork
      _ | .listNetworks _
  | .listPublicIPs _ | .getPublicIP _ | .listSecurityGroups _ | .listSecurityGroupRules
      _ | .listLoadBalancers
  | .getLoadBalancer _ => c

/-! ### Tenants -/

/-- A cluster of a project: a Cluster and its StackitCluster, which may have another name. -/
structure Tenant where
  (namespace' : String)
  cluster : String
  infrastructure : String
  named : namespace' ≠ "" ∧ cluster ≠ "" ∧ infrastructure ≠ ""
deriving DecidableEq

namespace Tenant
variable (t : Tenant)

/-- The labels are those of a resource of the cluster. -/
def owns (labels : StringMap) : Bool :=
  labels.lookup labelClusterNamespace == some t.namespace' &&
    (labels.lookup labelClusterName == some t.cluster || labels.lookup labelClusterName ==
      some t.infrastructure)

/-- The name of its API server load balancer. -/
def balancer : String := t.infrastructure ++ "-apiserver"

/-- Every resource with that ID is the tenant's. -/
def Holds (k : Kind) (id : String) (c : Cloud) : Prop :=
  ∀ labels, (id, labels) ∈ labelled k c → t.owns labels = true

/-- The ID has been given out, and what it names is the tenant's. -/
structure Known (k : Kind) (id : String) (c : Cloud) : Prop where
  used : Used id c
  holds : t.Holds k id c

/-- The two tenants have no label and no load balancer name in common. -/
structure Apart (t u : Tenant) : Prop where
  labels : t.namespace' ≠ u.namespace' ∨ t.cluster ≠ u.cluster ∧ t.cluster ≠ u.infrastructure ∧
    t.infrastructure ≠ u.cluster
  balancer : t.infrastructure ≠ u.infrastructure

instance (t u : Tenant) : Decidable (Apart t u) :=
  decidable_of_iff
    ((t.namespace' ≠ u.namespace' ∨ t.cluster ≠ u.cluster ∧ t.cluster ≠ u.infrastructure ∧
    t.infrastructure ≠ u.cluster) ∧ t.infrastructure ≠ u.infrastructure)
    ⟨fun h => ⟨h.1, h.2⟩, fun h => ⟨h.labels, h.balancer⟩⟩

variable {t} {u : Tenant} {T labels : StringMap}

theorem owns_iff : t.owns labels = true ↔ labels.lookup labelClusterNamespace = some t.namespace' ∧
    (labels.lookup labelClusterName = some t.cluster ∨
      labels.lookup labelClusterName = some t.infrastructure) := by
  simp [owns]

theorem owns_of_contains (hT : t.owns T = true) (h : labelsContainTags labels T = true) :
    t.owns labels = true := by
  have hsub := labelsContainTags_iff.1 h
  obtain ⟨hns, hname⟩ := owns_iff.1 hT
  exact owns_iff.2 ⟨hsub _ _ hns, hname.imp (hsub _ _) (hsub _ _)⟩

theorem tags_nonempty (hT : t.owns T = true) : T.entries.isEmpty = false :=
  StringMap.isEmpty_entries_of_lookup (owns_iff.1 hT).1

theorem Apart.not_owns (h : Apart t u) (ht : t.owns labels = true) : u.owns labels = false := by
  rw [Bool.eq_false_iff]
  intro hu
  obtain ⟨hns, hname⟩ := owns_iff.1 ht
  obtain ⟨hns', hname'⟩ := owns_iff.1 hu
  rw [hns, Option.some.injEq] at hns'
  rcases h.labels with hne | ⟨h₁, h₂, h₃⟩
  · exact hne hns'
  · rcases hname with hn | hn <;> rw [hn, Option.some.injEq, Option.some.injEq] at hname' <;>
      rcases hname' with heq | heq
    · exact h₁ heq
    · exact h₂ heq
    · exact h₃ heq
    · exact h.balancer heq

theorem Apart.balancer_ne (h : Apart t u) : t.balancer ≠ u.balancer :=
  fun heq => h.balancer (by simpa [Tenant.balancer] using heq)

end Tenant

/-! ### What a tenant may do -/

/-- A load balancer that the labels say is managed by the provider has the name it gives them. -/
def NamedAfterCluster (name : String) (labels : StringMap) : Prop :=
  ∀ cluster, labels.lookup (rewriteKey labelClusterName) = some cluster →
    labels.lookup (rewriteKey labelManagedBy) = some managedByValue → name = cluster ++ "-apiserver"

/-- The requests of a tenant: those about its own resources. New rules of its security groups are in
`rule`. -/
def Tenant.May (t : Tenant) (rule : SDKRulePayload → Prop) (c : Cloud) : Request → Prop
  | .createServer payload => t.owns payload.labels = true
  | .createNetwork _ labels _ | .createPublicIP labels | .createSecurityGroup _ _ labels =>
      t.owns labels = true
  | .deleteServer id | .addSecurityGroupToServer id _ | .removeSecurityGroupFromServer id _ =>
      t.Holds .server id c
  | .deleteNetwork id => t.Holds .network id c
  | .deletePublicIP id | .addPublicIpToServer _ id | .removePublicIpFromServer _ id =>
      t.Holds .publicIP id c
  | .deleteSecurityGroup id | .deleteSecurityGroupRule id _ => t.Holds .securityGroup id c
  | .createSecurityGroupRule id payload => t.Holds .securityGroup id c ∧ rule payload
  | .createLoadBalancer payload => payload.name = t.balancer ∧
      NamedAfterCluster payload.name payload.labels
  | .deleteLoadBalancer name | .updateTargetPool name _ => name = t.balancer
  | .getServer _ | .listServers _ | .listServerNICs _ | .listAvailabilityZones | .getNetwork
      _ | .listNetworks _
  | .listPublicIPs _ | .getPublicIP _ | .listSecurityGroups _ | .listSecurityGroupRules
      _ | .listLoadBalancers
  | .getLoadBalancer _ => True

/-- Requests of the tenant lead from `c` to `c'`. -/
abbrev Within (t : Tenant) (rule : SDKRulePayload → Prop) (c c' : Cloud) : Prop :=
  Runs.Obeys Request.apply (t.May rule) c c'

/-! ### What anybody may do -/

/-- Every load balancer of the provider has the name it gives them. -/
def BalancersNamed (c : Cloud) : Prop := ∀ x ∈ labelled .loadBalancer c, NamedAfterCluster x.1 x.2

/-- IDs are unique, and load balancers are named as the provider names them. -/
structure Sound (c : Cloud) : Prop where
  unique : ∀ k, k ≠ .loadBalancer → UniqueIDs k c
  balancers : BalancersNamed c

/-- What may happen in the project at large: new resources have new IDs, and no resource changes its
labels. -/
structure Evolves (c c' : Cloud) : Prop where
  issues : Issues c c'
  old : ∀ k, k ≠ .loadBalancer → ∀ x ∈ labelled k c', x ∈ labelled k c ∨ ¬ Used x.1 c
  sound : Sound c → Sound c'

variable {t u : Tenant} {rule : SDKRulePayload → Prop} {k : Kind} {T : StringMap} {c c' c'' : Cloud}
  {id : String}

namespace Evolves

theorem refl (c : Cloud) : Evolves c c := ⟨.refl c, fun _ _ _ hx => .inl hx, fun h => h⟩

theorem trans (h : Evolves c c') (h' : Evolves c' c'') : Evolves c c'' := by
  refine ⟨h.issues.trans h'.issues, fun k hk x hx => ?_, fun hs => h'.sound (h.sound hs)⟩
  rcases h'.old k hk x hx with hx' | hnew
  · exact h.old k hk x hx'
  · exact .inr fun hu => hnew (hu.issues h.issues)

theorem of_step (hi : Issues c c')
    (hk : ∀ k, k ≠ .loadBalancer → (labelled k c').Sublist (labelled k c) ∨
      c'.issued = c.issued + 1 ∧ ∃ L, labelled k c' = labelled k c ++ [(c.ids.newID c.issued, L)])
    (hlb : BalancersNamed c → BalancersNamed c') : Evolves c c' := by
  refine ⟨hi, fun k hne x hx => ?_, fun hs => ⟨fun k hne => ?_, hlb hs.balancers⟩⟩
  · rcases hk k hne with hsub | ⟨-, L, hnew⟩
    · exact .inl (hsub.subset hx)
    · rw [hnew, List.mem_append, List.mem_singleton] at hx
      refine hx.imp id fun heq hu => ?_
      exact hu c.issued (Nat.le_refl _) (by rw [heq])
  · rcases hk k hne with hsub | ⟨hissued, L, hnew⟩
    · exact (hs.unique k hne).sublist hi hsub
    · exact (hs.unique k hne).append hi.ids hissued hnew

theorem of_shrinks (hi : Issues c c') (hs : Shrinks c c') : Evolves c c' :=
  of_step hi (fun k _ => .inl (hs k)) fun hlb x hx => hlb x ((hs _).subset hx)

theorem of_append {L : StringMap} (k' : Kind) (hne : k' ≠ .loadBalancer) (hids : c'.ids = c.ids)
    (hissued : c'.issued = c.issued + 1)
    (hnew : labelled k' c' = labelled k' c ++ [(c.ids.newID c.issued, L)])
    (hothers : ∀ k, k ≠ k' → labelled k c' = labelled k c) : Evolves c c' := by
  refine of_step ⟨hids, by omega⟩ (fun k _ => ?_) fun hlb x hx => hlb x (hothers _ hne.symm ▸ hx)
  by_cases hk : k = k'
  · subst hk
    exact .inr ⟨hissued, L, hnew⟩
  · exact .inl (by rw [hothers k hk])

end Evolves

/-- What a tenant knows stays its own. -/
theorem Tenant.Known.evolves (h : t.Known k id c) (hk : k ≠ .loadBalancer) (he : Evolves c c') :
    t.Known k id c' := by
  refine ⟨h.used.issues he.issues, fun labels hx => ?_⟩
  rcases he.old k hk _ hx with hold | hnew
  · exact h.holds labels hold
  · exact absurd h.used hnew

theorem Tenant.known_of_mem (hs : Sound c) (hk : k ≠ .loadBalancer) (hT : t.owns T = true)
    (hid : id ∈ tagged k T c) :
    t.Known k id c := by
  obtain ⟨labels, hx, hlabels⟩ := mem_tagged.1 hid
  refine ⟨(hs.unique k hk).used _ hx, fun labels' hx' => ?_⟩
  cases (hs.unique k hk).eq hx hx' rfl
  exact owns_of_contains hT hlabels

/-! ### Requests -/

theorem evolves_createNetwork (name ipv4Prefix : String) (labels : StringMap) (c : Cloud) :
    Evolves c (Cloud.createNetwork name labels ipv4Prefix c).2 := by
  refine .of_append .network (L := labels) (by decide) rfl rfl
    (by simp [Cloud.createNetwork, labelled]) fun k hk => ?_
  cases k <;> first | rfl | exact absurd rfl hk

theorem evolves_createServer (p : CreateServerPayload) (c : Cloud) :
    Evolves c (Cloud.createServer p c).2 := by
  refine .of_append .server (L := p.labels) (by decide) rfl rfl
    (by simp [Cloud.createServer, labelled]) fun k hk => ?_
  cases k <;> first | rfl | exact absurd rfl hk

theorem evolves_createPublicIP (labels : StringMap) (c : Cloud) :
    Evolves c (Cloud.createPublicIP labels c).2 := by
  refine .of_append .publicIP (L := labels) (by decide) rfl rfl
    (by simp [Cloud.createPublicIP, labelled]) fun k hk => ?_
  cases k <;> first | rfl | exact absurd rfl hk

theorem evolves_createSecurityGroup (name description : String) (labels : StringMap) (c : Cloud) :
    Evolves c (Cloud.createSecurityGroup name description labels c).2 := by
  refine .of_append .securityGroup (L := labels) (by decide) rfl rfl
    (by simp [Cloud.createSecurityGroup, labelled]) fun k hk => ?_
  cases k <;> first | rfl | exact absurd rfl hk

theorem evolves_createLoadBalancer {p : CreateLoadBalancerPayload}
    (hp : NamedAfterCluster p.name p.labels) (c : Cloud) :
    Evolves c (Cloud.createLoadBalancer p c).2 := by
  unfold Cloud.createLoadBalancer
  split
  · exact .refl c
  · refine .of_step ⟨rfl, Nat.le_succ _⟩ (fun k hk => .inl ?_) fun hlb x hx => ?_
    · cases k <;> first | exact .refl _ | exact absurd rfl hk
    · rw [labelled, List.map_append, List.mem_append, List.map_singleton, List.mem_singleton] at hx
      rcases hx with hx | rfl
      · exact hlb x hx
      · exact hp

/-- Whatever a tenant may do may happen. -/
theorem Tenant.May.evolves {req : Request} (h : t.May rule c req) : Evolves c (req.apply c) := by
  have hissues : ∀ {c'}, KeepsUnique .server c c' → Issues c c' := fun h => h.issues
  have hb := bastionClosed_keepsUnique .server
  cases req with
  | createServer p => exact evolves_createServer p c
  | createNetwork name labels pre => exact evolves_createNetwork name pre labels c
  | createPublicIP labels => exact evolves_createPublicIP labels c
  | createSecurityGroup name description labels =>
    exact evolves_createSecurityGroup name description labels c
  | createLoadBalancer p => exact evolves_createLoadBalancer h.2 c
  | deleteServer id =>
    exact .of_shrinks (hb.deleteServer id c).issues ((removes_deleteServer id).shrinks c)
  | deleteNetwork id =>
    refine .of_shrinks ?_ ((removes_deleteNetwork id).shrinks c)
    show Issues c (Cloud.deleteNetwork id c).2
    unfold Cloud.deleteNetwork
    split <;> exact ⟨rfl, Nat.le_refl _⟩
  | deletePublicIP id =>
    exact .of_shrinks (hb.deletePublicIP id c).issues ((removes_deletePublicIP id).shrinks c)
  | addPublicIpToServer s p =>
    exact .of_shrinks (hb.addPublicIpToServer s p c).issues
      (SameResources.addPublicIpToServer s p c).shrinks
  | removePublicIpFromServer s p =>
    exact .of_shrinks (hb.removePublicIpFromServer s p c).issues
      (SameResources.removePublicIpFromServer s p c).shrinks
  | deleteSecurityGroup id =>
    exact .of_shrinks (hb.deleteSecurityGroup id c).issues
      ((removes_deleteSecurityGroup id).shrinks c)
  | addSecurityGroupToServer s g =>
    exact .of_shrinks (hb.addSecurityGroupToServer s g c).issues
      (SameResources.addSecurityGroupToServer s g c).shrinks
  | removeSecurityGroupFromServer s g =>
    exact .of_shrinks (hb.removeSecurityGroupFromServer s g c).issues
      (SameResources.removeSecurityGroupFromServer s g c).shrinks
  | createSecurityGroupRule g p =>
    exact .of_shrinks (hb.createSecurityGroupRule g p c).issues
      (SameResources.createSecurityGroupRule g p c).shrinks
  | deleteSecurityGroupRule g r =>
    exact .of_shrinks (hb.deleteSecurityGroupRule g r c).issues
      (SameResources.deleteSecurityGroupRule g r c).shrinks
  | deleteLoadBalancer name =>
    refine .of_shrinks ?_ ((removes_deleteLoadBalancer name).shrinks c)
    show Issues c (Cloud.deleteLoadBalancer name c).2
    unfold Cloud.deleteLoadBalancer
    split <;> exact ⟨rfl, Nat.le_refl _⟩
  | updateTargetPool name pool =>
    refine .of_shrinks ?_ (sameResources_updateTargetPool name pool c).shrinks
    show Issues c (Cloud.updateTargetPool name pool c).2
    unfold Cloud.updateTargetPool
    split
    · split <;> exact ⟨rfl, Nat.le_refl _⟩
    · exact .refl c
  | _ => exact .refl c

theorem Within.evolves (h : Within t rule c c') : Evolves c c' :=
  h.rel .refl .trans fun _ _ ha => ha.evolves

/-! ### What the others see of it -/

/-- The resources of the tenant `u` are the same. Of a public IP, what it is attached to may have
changed: deleting a server detaches the addresses of its interfaces. -/
structure Untouched (u : Tenant) (c c' : Cloud) : Prop where
  servers : (c'.servers.filter fun s => u.owns s.labels) = c.servers.filter fun s => u.owns s.labels
  networks : (c'.networks.filter fun n => u.owns n.labels) = c.networks.filter fun n =>
    u.owns n.labels
  securityGroups : (c'.securityGroups.filter fun g => u.owns g.labels) = c.securityGroups.filter
    fun g => u.owns g.labels
  publicIPs : ((c'.publicIPs.filter fun p => u.owns p.labels).map fun p => (p.id, p.labels, p.ip)) =
    (c.publicIPs.filter fun p => u.owns p.labels).map fun p => (p.id, p.labels, p.ip)
  loadBalancers : (c'.loadBalancers.filter fun l => l.name == u.balancer) = c.loadBalancers.filter
    fun l => l.name == u.balancer

namespace Untouched

theorem refl (u : Tenant) (c : Cloud) : Untouched u c c := ⟨rfl, rfl, rfl, rfl, rfl⟩

theorem trans (h : Untouched u c c') (h' : Untouched u c' c'') : Untouched u c c'' :=
  ⟨h'.servers.trans h.servers, h'.networks.trans h.networks,
    h'.securityGroups.trans h.securityGroups,
    h'.publicIPs.trans h.publicIPs, h'.loadBalancers.trans h.loadBalancers⟩

end Untouched

section lists
variable {α : Type} {l : List α} {p : α → Bool} {ident : α → String}

theorem filter_filter_ne (h : ∀ x ∈ l, ident x = id → p x = false) :
    (l.filter (ident · != id)).filter p = l.filter p := by
  rw [List.filter_filter]
  refine List.filter_congr fun x hx => ?_
  cases hp : p x with
  | false => rfl
  | true =>
    have hne : ident x ≠ id := fun heq => by rw [h x hx heq] at hp; cases hp
    simpa using hne

theorem filter_map_ite {f : α → α} (hf : ∀ x, p (f x) = p x)
    (h : ∀ x ∈ l, ident x = id → p x = false) :
    (l.map fun x => if ident x == id then f x else x).filter p = l.filter p := by
  induction l with
  | nil => rfl
  | cons x l ih =>
    have hrest := ih fun y hy => h y (List.mem_cons_of_mem _ hy)
    have hhead : p (if ident x == id then f x else x) = p x := by
      split
      · exact hf x
      · rfl
    rw [List.map_cons, List.filter_cons, List.filter_cons, hhead, hrest]
    cases hpx : p x with
    | false => rfl
    | true =>
      have hne : (ident x == id) = false := by
        rw [beq_eq_false_iff_ne]
        intro heq
        rw [h x List.mem_cons_self heq] at hpx
        cases hpx
      simp [hne]

theorem filter_append_singleton {x : α} (h : p x = false) :
    (l ++ [x]).filter p = l.filter p := by simp [h]

end lists

/-- What a tenant holds no other tenant sees. -/
theorem Tenant.Holds.not_owns {α : Type} {l : List α} {ident : α → String} {labels : α → StringMap}
    (h : t.Holds k id c) (hlist : labelled k c = l.map fun x => (ident x, labels x))
    (hapart : t.Apart u) :
    ∀ x ∈ l, ident x = id → u.owns (labels x) = false := by
  rintro x hx rfl
  exact hapart.not_owns (h _ (by rw [hlist]; exact List.mem_map_of_mem hx))

theorem untouched_publicIPs {f : SDKPublicIP → SDKPublicIP}
    (hf : ∀ p, (f p).id = p.id ∧ (f p).labels = p.labels ∧ (f p).ip = p.ip) (u : Tenant)
    (l : List SDKPublicIP) :
    (((l.map f).filter fun p => u.owns p.labels).map fun p => (p.id, p.labels, p.ip)) =
      (l.filter fun p => u.owns p.labels).map fun p => (p.id, p.labels, p.ip) := by
  rw [List.filter_map, List.map_map]
  have hfilter : ((fun p : SDKPublicIP => u.owns p.labels) ∘ f) = fun p => u.owns p.labels := by
    funext p
    simp [hf p]
  rw [hfilter]
  exact List.map_congr_left fun p _ => by simp [hf p]

/-- What one tenant may do no other tenant notices. -/
theorem Tenant.May.untouched {req : Request} (h : t.May rule c req) (hapart : t.Apart u) :
    Untouched u c (req.apply c) := by
  have hservers : ∀ {id}, t.Holds .server id c → ∀ s ∈ c.servers, s.id = id →
      u.owns s.labels = false :=
    fun h => h.not_owns rfl hapart
  have hgroups : ∀ {id}, t.Holds .securityGroup id c → ∀ g ∈ c.securityGroups, g.id = id →
      u.owns g.labels = false :=
    fun h => h.not_owns rfl hapart
  have hips : ∀ {id}, t.Holds .publicIP id c → ∀ p ∈ c.publicIPs, p.id = id →
      u.owns p.labels = false :=
    fun h => h.not_owns rfl hapart
  have hlb : ∀ {name}, name = t.balancer → ∀ l ∈ c.loadBalancers, l.name = name →
      (l.name == u.balancer) = false := by
    rintro _ rfl l - hl
    rw [hl]
    exact beq_eq_false_iff_ne.2 hapart.balancer_ne
  cases req with
  | createServer p => exact ⟨filter_append_singleton (hapart.not_owns h), rfl, rfl, rfl, rfl⟩
  | createNetwork name labels pre =>
    exact ⟨rfl, filter_append_singleton (hapart.not_owns h), rfl, rfl, rfl⟩
  | createPublicIP labels =>
    refine ⟨rfl, rfl, rfl, congrArg _ (filter_append_singleton (hapart.not_owns h)), rfl⟩
  | createSecurityGroup name description labels =>
    exact ⟨rfl, rfl, filter_append_singleton (hapart.not_owns h), rfl, rfl⟩
  | createLoadBalancer p =>
    show Untouched u c (Cloud.createLoadBalancer p c).2
    unfold Cloud.createLoadBalancer
    split
    · exact .refl u c
    · refine ⟨rfl, rfl, rfl, rfl, filter_append_singleton ?_⟩
      show (p.name == u.balancer) = false
      rw [h.1]
      exact beq_eq_false_iff_ne.2 hapart.balancer_ne
  | deleteServer id =>
    show Untouched u c (Cloud.deleteServer id c).2
    unfold Cloud.deleteServer
    split
    · refine ⟨filter_filter_ne (hservers h), rfl, rfl, untouched_publicIPs (fun p => ?_) u _, rfl⟩
      split <;> exact ⟨rfl, rfl, rfl⟩
    · exact .refl u c
  | deleteNetwork id =>
    show Untouched u c (Cloud.deleteNetwork id c).2
    unfold Cloud.deleteNetwork
    split
    · have hnetworks : ∀ n ∈ c.networks, n.id = id → u.owns n.labels = false :=
        h.not_owns rfl hapart
      exact ⟨rfl, filter_filter_ne hnetworks, rfl, rfl, rfl⟩
    · exact .refl u c
  | deletePublicIP id =>
    show Untouched u c (Cloud.deletePublicIP id c).2
    unfold Cloud.deletePublicIP
    split
    · exact ⟨rfl, rfl, rfl, congrArg _ (filter_filter_ne (hips h)), rfl⟩
    · exact .refl u c
  | addPublicIpToServer s p =>
    show Untouched u c (Cloud.addPublicIpToServer s p c).2
    unfold Cloud.addPublicIpToServer
    split
    · split
      · refine ⟨rfl, rfl, rfl, untouched_publicIPs (fun p => ?_) u _, rfl⟩
        split <;> exact ⟨rfl, rfl, rfl⟩
      · exact .refl u c
    · exact .refl u c
  | removePublicIpFromServer s p =>
    show Untouched u c (Cloud.removePublicIpFromServer s p c).2
    unfold Cloud.removePublicIpFromServer
    split
    · refine ⟨rfl, rfl, rfl, untouched_publicIPs (fun p => ?_) u _, rfl⟩
      split <;> exact ⟨rfl, rfl, rfl⟩
    · exact .refl u c
  | deleteSecurityGroup id =>
    show Untouched u c (Cloud.deleteSecurityGroup id c).2
    unfold Cloud.deleteSecurityGroup
    split
    · exact ⟨rfl, rfl, filter_filter_ne (hgroups h), rfl, rfl⟩
    · exact .refl u c
  | addSecurityGroupToServer s g =>
    show Untouched u c (Cloud.addSecurityGroupToServer s g c).2
    unfold Cloud.addSecurityGroupToServer
    split
    · split
      · exact .refl u c
      · split
        · exact .refl u c
        · exact ⟨filter_map_ite (fun _ => rfl) (hservers h), rfl, rfl, rfl, rfl⟩
    · exact .refl u c
  | removeSecurityGroupFromServer s g =>
    show Untouched u c (Cloud.removeSecurityGroupFromServer s g c).2
    unfold Cloud.removeSecurityGroupFromServer
    split
    · exact ⟨filter_map_ite (fun _ => rfl) (hservers h), rfl, rfl, rfl, rfl⟩
    · exact .refl u c
  | createSecurityGroupRule g p =>
    show Untouched u c (Cloud.createSecurityGroupRule g p c).2
    unfold Cloud.createSecurityGroupRule
    split
    · exact ⟨rfl, rfl, filter_map_ite (fun _ => rfl) (hgroups h.1), rfl, rfl⟩
    · exact .refl u c
  | deleteSecurityGroupRule g r =>
    show Untouched u c (Cloud.deleteSecurityGroupRule g r c).2
    unfold Cloud.deleteSecurityGroupRule
    split
    · split
      · exact ⟨rfl, rfl, filter_map_ite (fun _ => rfl) (hgroups h), rfl, rfl⟩
      · exact .refl u c
    · exact .refl u c
  | deleteLoadBalancer name =>
    show Untouched u c (Cloud.deleteLoadBalancer name c).2
    unfold Cloud.deleteLoadBalancer
    split
    · exact ⟨rfl, rfl, rfl, rfl, filter_filter_ne (hlb h)⟩
    · exact .refl u c
  | updateTargetPool name pool =>
    show Untouched u c (Cloud.updateTargetPool name pool c).2
    unfold Cloud.updateTargetPool
    split
    · split
      · exact ⟨rfl, rfl, rfl, rfl, filter_map_ite (fun _ => rfl) (hlb h)⟩
      · exact .refl u c
    · exact .refl u c
  | _ => exact .refl u c

theorem Within.untouched (h : Within t rule c c') (hapart : t.Apart u) : Untouched u c c' :=
  h.rel (Untouched.refl u) Untouched.trans fun _ _ ha => ha.untouched hapart

end Capstk
