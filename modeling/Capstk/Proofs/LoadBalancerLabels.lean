import Capstk.Services
import Capstk.Webhook
import Capstk.Proofs.LoadBalancers

/-!
# The identity of a cluster in the labels of its load balancer

`ClusterTags` protects its reserved keys before `loadBalancerLabels` rewrites `/` to `.`, so a user
label may still end up under the key of a reserved one. The labels then depend on the order in which
the tags are visited. They do not exactly if all tags whose keys become equal have the same value
(`ConsistentRewrites`), and then the labels identify the cluster.
-/

namespace Capstk

open Prog SDKClient

/-- The entries of a map in some order. -/
abbrev Entries : Type := List (Sigma fun _ : String => String)

/-- Tags whose rewritten keys are equal have the same value. -/
def ConsistentRewrites (T : StringMap) : Prop :=
  ∀ e ∈ T.entries, ∀ e' ∈ T.entries, rewriteKey e.1 = rewriteKey e'.1 → e.2 = e'.2

instance (T : StringMap) : Decidable (ConsistentRewrites T) :=
  inferInstanceAs
    (Decidable (∀ e ∈ T.entries, ∀ e' ∈ T.entries, rewriteKey e.1 = rewriteKey e'.1 → e.2 = e'.2))

variable {T T' : StringMap} {l l' : Entries}

/-! ### Where a label comes from -/

/-- The loop of `loadBalancerLabels`: a label was there before or is that of some tag. -/
theorem lookup_foldl_labels (m : StringMap) {k v : String}
    (h : (l.foldl (fun out e => out.insert (rewriteKey e.1) e.2) m).lookup k = some v) :
    m.lookup k = some v ∨ ∃ e ∈ l, rewriteKey e.1 = k ∧ e.2 = v := by
  induction l generalizing m with
  | nil => exact .inl h
  | cons e l ih =>
    rcases ih _ h with hm | ⟨e', he', hk, hv⟩
    · by_cases hk : rewriteKey e.1 = k
      · subst hk
        rw [AList.lookup_insert, Option.some.injEq] at hm
        exact .inr ⟨e, by simp, rfl, hm⟩
      · rw [AList.lookup_insert_ne (Ne.symm hk)] at hm
        exact .inl hm
    · exact .inr ⟨e', by simp [he'], hk, hv⟩

theorem exists_of_label {k v : String} (h : (loadBalancerLabels l).lookup k = some v) :
    ∃ e ∈ l, rewriteKey e.1 = k ∧ e.2 = v := by
  rcases lookup_foldl_labels ∅ h with hm | he
  · simp at hm
  · exact he

theorem lookup_labels_snoc (e : Sigma fun _ : String => String) :
    (loadBalancerLabels (l ++ [e])).lookup (rewriteKey e.1) = some e.2 := by
  rw [loadBalancerLabels, List.foldl_append]
  exact AList.lookup_insert _

theorem mem_foldl_labels (m : StringMap) {k : String} (h : k ∈ m) :
    k ∈ l.foldl (fun out e => out.insert (rewriteKey e.1) e.2) m := by
  induction l generalizing m with
  | nil => exact h
  | cons e l ih => exact ih _ ((AList.mem_insert m).2 (.inr h))

/-- No tag is lost altogether. -/
theorem label_of_mem {e : Sigma fun _ : String => String} (he : e ∈ l) :
    ∃ v, (loadBalancerLabels l).lookup (rewriteKey e.1) = some v := by
  obtain ⟨before, after, rfl⟩ := List.append_of_mem he
  refine Option.isSome_iff_exists.1 (AList.lookup_isSome.2 ?_)
  rw [loadBalancerLabels, List.foldl_append, List.foldl_cons]
  exact mem_foldl_labels _ ((AList.mem_insert _).2 (.inl rfl))

theorem exists_perm_snoc {e : Sigma fun _ : String => String} (he : e ∈ T.entries) :
    ∃ l : Entries, (l ++ [e]).Perm T.entries :=
  ⟨T.entries.erase e, List.perm_append_comm.trans (List.perm_cons_erase he).symm⟩

namespace ConsistentRewrites

/-- Every tag keeps its value, in whichever order the tags are visited. -/
theorem lookup (h : ConsistentRewrites T) (hl : l.Perm T.entries) {k v : String}
    (hk : T.lookup k = some v) :
    (loadBalancerLabels l).lookup (rewriteKey k) = some v := by
  have hmem : (⟨k, v⟩ : Sigma fun _ : String => String) ∈ T.entries :=
    StringMap.mem_entries_iff.2 hk
  obtain ⟨w, hw⟩ := label_of_mem (hl.mem_iff.2 hmem)
  obtain ⟨e, he, hke, hv⟩ := exists_of_label hw
  rw [hw, ← hv, h e (hl.mem_iff.1 he) _ hmem hke]

theorem mapContains (h : ConsistentRewrites T) (hl : l.Perm T.entries) (hl' : l'.Perm T.entries) :
    mapContains (loadBalancerLabels l) (loadBalancerLabels l') = true := by
  rw [Capstk.mapContains, List.all_eq_true]
  rintro ⟨k, v⟩ he
  obtain ⟨⟨k', v'⟩, he', rfl, rfl⟩ := exists_of_label (StringMap.mem_entries_iff.1 he)
  have hk' : T.lookup k' = some v' := StringMap.mem_entries_iff.1 (hl'.mem_iff.1 he')
  simp [h.lookup hl hk']

theorem not_mapContains (h : ConsistentRewrites T) (h' : ConsistentRewrites T')
    (hl : l.Perm T.entries) (hl' : l'.Perm T'.entries) {k v v' : String} (hk : T.lookup k = some v)
    (hk' : T'.lookup k = some v') (hv : v ≠ v') :
    Capstk.mapContains (loadBalancerLabels l) (loadBalancerLabels l') = false := by
  have hentry := StringMap.mem_entries_iff.2 (h'.lookup hl' hk')
  rw [Capstk.mapContains, List.all_eq_false]
  refine ⟨_, hentry, ?_⟩
  simp [h.lookup hl hk, hv]

end ConsistentRewrites

/-! ### Creation and look-up -/

/-- The load balancer was given the labels of `T`. -/
def LabelledWith (T : StringMap) (lb : SDKLoadBalancer) : Prop :=
  ∃ l : Entries, l.Perm T.entries ∧ lb.labels = loadBalancerLabels l

theorem wp_newLoadBalancerLabels (T : StringMap) (s : Session) :
    wp (newLoadBalancerLabels T) (fun r t => t.cloud = s.cloud ∧
      ∃ l : Entries, l.Perm T.entries ∧ r = .ok (loadBalancerLabels l)) s := by
  unfold newLoadBalancerLabels
  refine wp_ite (fun hempty => ⟨rfl, [], ?_, rfl⟩) fun _ => ?_
  · rw [List.isEmpty_iff.1 hempty]
  rw [wp_bind]
  refine (wp_rangeOver T s).imp fun r t ⟨hc, l, hr, hl⟩ => ?_
  subst hr
  exact ⟨hc, l, hl, rfl⟩

theorem labelledWith_created (input : LoadBalancerInput) (s : Session) :
    wp (ensureAPIServerLoadBalancer input) (fun _ t =>
      ∀ lb ∈ t.cloud.loadBalancers, lb ∉ s.cloud.loadBalancers → LabelledWith input.tags lb) s := by
  have hkept : ∀ {t : Session}, t.cloud = s.cloud → ∀ lb ∈ t.cloud.loadBalancers,
      lb ∉ s.cloud.loadBalancers →
        LabelledWith input.tags lb := fun hc lb hlb hnew => absurd (hc ▸ hlb) hnew
  refine wp_existingOr_of (wp_findLoadBalancerByTags input.tags s) (fun _ t ⟨hc, _⟩ => hkept hc)
    (fun _ t ⟨hc, _⟩ _ => ?_)
    fun _ t ⟨hc, _⟩ _ => hkept hc
  rw [wp_bind]
  refine (wp_newLoadBalancerLabels input.tags t).imp fun r' u ⟨hu, l, hl, hr'⟩ => ?_
  subst hr'
  rw [next_ok, wp_bind]
  refine wp_request fun r'' c v hr'' hv => ?_
  have hcreated : ∀ lb ∈ v.cloud.loadBalancers, lb ∉ s.cloud.loadBalancers →
      LabelledWith input.tags lb := by
    rw [hv.cloud]
    rcases hr''.cloud_cases with rfl | rfl
    · exact hkept (hu.trans hc)
    · unfold Cloud.createLoadBalancer
      split
      · exact hkept (hu.trans hc)
      · intro lb hlb hnew
        rw [hu, hc] at hlb
        rcases List.mem_append.1 hlb with hlb | hlb
        · exact absurd hlb hnew
        · rw [List.mem_singleton.1 hlb]
          exact ⟨l, hl, rfl⟩
  cases r'' <;> exact hcreated

theorem logs_listAPIServerLoadBalancersByTags (T : StringMap) :
    Keeps (Logs (·.request = .listLoadBalancers)) (listAPIServerLoadBalancersByTags T) := by
  have hR := Logs.closed (·.request = .listLoadBalancers)
  refine keeps_requireTags hR (.bind hR (Keeps.attempt (logs_request fun _ => rfl)) fun r => ?_)
  cases r with
  | error e => exact .ite (.pure hR _) (.fail hR e)
  | ok items => exact .bind hR (logs_rangeOver T) fun _ => .pure hR _

/-- The call has only listed load balancers and changed nothing. -/
def OnlyListed (s t : Session) : Prop :=
  t.cloud = s.cloud ∧ Logs (·.request = .listLoadBalancers) s t

/-- As long as one load balancer matches, none is created. -/
theorem onlyListed_of_matched {input : LoadBalancerInput} {u : Session} {lb : SDKLoadBalancer}
    (hlb : lb ∈ u.cloud.loadBalancers)
    (hmatch : ∀ l : Entries, l.Perm input.tags.entries →
      mapContains lb.labels (loadBalancerLabels l) = true) :
    wp (ensureAPIServerLoadBalancer input) (fun _ t => OnlyListed u t) u := by
  refine wp_existingOr ?_
  unfold findLoadBalancerByTags
  rw [wp_bind]
  refine ((wp_listAPIServerLoadBalancersByTags_matches input.tags u).and
    ((logs_listAPIServerLoadBalancersByTags input.tags).wp u)).imp fun r t ⟨⟨hc, hr⟩, hlog⟩ => ?_
  cases r with
  | error e =>
    rw [next_error]
    show if (isNotFound e || isLoadBalancerServiceNotEnabled e) = true then _ else _
    rw [hr.1, hr.2]
    exact ⟨hc, hlog⟩
  | ok out =>
    obtain ⟨l, hl, rfl⟩ := hr
    rw [next_ok]
    refine wp_single (fun hnone => ?_) (fun _ _ => ⟨hc, hlog⟩) fun _ => ?_
    · have hmem : lb ∈ u.cloud.loadBalancers.filter fun x =>
          mapContains x.labels (loadBalancerLabels l) :=
        List.mem_filter.2 ⟨hlb, hmatch l hl⟩
      rw [List.map_eq_nil_iff.1 hnone] at hmem
      cases hmem
    · show if (isNotFound _ || isLoadBalancerServiceNotEnabled _) = true then _ else _
      rw [isNotFound_errorf, isLoadBalancerServiceNotEnabled_of_not rfl]
      exact ⟨hc, hlog⟩

/-! ### Identity -/

/-- A load balancer that a call of `EnsureAPIServerLoadBalancer` with the tags `T` created. -/
def CreatedWith (T : StringMap) (lb : SDKLoadBalancer) : Prop :=
  ∃ (input : LoadBalancerInput) (s : Session), input.tags = T ∧
    lb ∈ ((ensureAPIServerLoadBalancer input).after s).cloud.loadBalancers ∧
    lb ∉ s.cloud.loadBalancers

theorem CreatedWith.labelledWith {lb : SDKLoadBalancer} (h : CreatedWith T lb) :
    LabelledWith T lb := by
  obtain ⟨input, s, rfl, hlb, hnew⟩ := h
  exact labelledWith_created input s lb hlb hnew

/-- The labels do not depend on the order in which the tags are visited. -/
def OrderFree (T : StringMap) : Prop :=
  ∀ l l' : Entries, l.Perm T.entries → l'.Perm T.entries →
    ∀ k, (loadBalancerLabels l).lookup k = (loadBalancerLabels l').lookup k

theorem orderFree_iff : OrderFree T ↔ ConsistentRewrites T := by
  constructor
  · intro h e he e' he' hk
    obtain ⟨l, hl⟩ := exists_perm_snoc he
    obtain ⟨l', hl'⟩ := exists_perm_snoc he'
    have hsame := h _ _ hl hl' (rewriteKey e.1)
    rw [lookup_labels_snoc, hk, lookup_labels_snoc] at hsame
    exact Option.some.inj hsame
  · intro h
    -- a label of one order is a label of every other
    have hsub : ∀ {l l' : Entries}, l.Perm T.entries → l'.Perm T.entries → ∀ {k v : String},
        (loadBalancerLabels l).lookup k = some v → (loadBalancerLabels l').lookup k = some v := by
      intro l l' hl hl' k v hk
      obtain ⟨⟨k', v'⟩, he, rfl, rfl⟩ := exists_of_label hk
      exact h.lookup hl' (StringMap.mem_entries_iff.1 (hl.mem_iff.1 he))
    intro l l' hl hl' k
    refine Option.ext fun v => ⟨fun hv => hsub hl hl' hv, fun hv => hsub hl' hl hv⟩

/-- The labels of the cluster's load balancer carry its identity in every order, do not depend on
the order, and let every look-up with the same tags find the load balancer again. -/
structure Identified (sc : StackitCluster) : Prop where
  clusterName : ∀ l : Entries, l.Perm sc.tags.entries →
    (loadBalancerLabels l).lookup (rewriteKey labelClusterName) = some sc.metadata.name
  clusterNamespace : ∀ l : Entries, l.Perm sc.tags.entries →
    (loadBalancerLabels l).lookup (rewriteKey labelClusterNamespace) = some sc.metadata.namespace'
  managedBy : ∀ l : Entries, l.Perm sc.tags.entries →
    (loadBalancerLabels l).lookup (rewriteKey labelManagedBy) = some managedByValue
  orderFree : OrderFree sc.tags
  found : ∀ lb, CreatedWith sc.tags lb → ∀ u : Session, lb ∈ u.cloud.loadBalancers →
    wp (listAPIServerLoadBalancersByTags sc.tags) (fun r _ => ∀ out, r = .ok out →
      loadBalancerFromSDK lb ∈ out) u
  notCreatedAgain : ∀ lb, CreatedWith sc.tags lb → ∀ u : Session, lb ∈ u.cloud.loadBalancers →
    ∀ input : LoadBalancerInput, input.tags = sc.tags → wp (ensureAPIServerLoadBalancer input)
    (fun _ t => OnlyListed u t) u

theorem identified_iff {sc : StackitCluster} : Identified sc ↔ ConsistentRewrites sc.tags := by
  refine ⟨fun h => orderFree_iff.1 h.orderFree, fun h => ?_⟩
  have hmatch : ∀ {lb}, CreatedWith sc.tags lb → ∀ l : Entries, l.Perm sc.tags.entries →
      mapContains lb.labels (loadBalancerLabels l) = true := by
    intro lb hlb l hl
    obtain ⟨l', hl', hlabels⟩ := hlb.labelledWith
    rw [hlabels]
    exact h.mapContains hl' hl
  refine ⟨fun l hl => h.lookup hl (by simp [StackitCluster.tags]), fun l hl =>
    h.lookup hl (by simp [StackitCluster.tags]),
    fun l hl => h.lookup hl (by simp [StackitCluster.tags]), orderFree_iff.2 h, fun lb hlb u hu =>
    ?_, ?_⟩
  · refine (wp_listAPIServerLoadBalancersByTags_matches sc.tags u).imp fun r t ⟨_, hr⟩ out hout =>
      ?_
    subst hout
    obtain ⟨l, hl, rfl⟩ := hr
    exact List.mem_map.2 ⟨lb, List.mem_filter.2 ⟨hu, hmatch hlb l hl⟩, rfl⟩
  · intro lb hlb u hu input hinput
    exact onlyListed_of_matched hu (hinput ▸ hmatch hlb)

/-- No look-up with the tags of `sc'` answers with a load balancer of `sc`. -/
def NotMistaken (sc sc' : StackitCluster) : Prop :=
  ∀ lb, CreatedWith sc.tags lb → ∀ u : Session, lb ∈ u.cloud.loadBalancers →
    (u.cloud.loadBalancers.map (·.name)).Nodup →
    wp (listAPIServerLoadBalancersByTags sc'.tags) (fun r _ => ∀ out, r = .ok out →
      loadBalancerFromSDK lb ∉ out) u

theorem notMistaken {sc sc' : StackitCluster} (h : ConsistentRewrites sc.tags)
    (h' : ConsistentRewrites sc'.tags)
    (hne : (sc.metadata.namespace', sc.metadata.name) ≠
      (sc'.metadata.namespace', sc'.metadata.name)) :
    NotMistaken sc sc' := by
  intro lb hlb u hu hnames
  obtain ⟨l', hl', hlabels⟩ := hlb.labelledWith
  have hunmatched : ∀ l : Entries, l.Perm sc'.tags.entries →
      mapContains lb.labels (loadBalancerLabels l) = false := by
    intro l hl
    rw [hlabels]
    by_cases hname : sc.metadata.name = sc'.metadata.name
    · have hns : sc.metadata.namespace' ≠ sc'.metadata.namespace' :=
        fun hns => hne (by rw [hname, hns])
      exact h.not_mapContains h' hl' hl (clusterTags_clusterNamespace ..)
        (clusterTags_clusterNamespace ..) hns
    · exact h.not_mapContains h' hl' hl (clusterTags_clusterName ..) (clusterTags_clusterName ..)
        hname
  refine (wp_listAPIServerLoadBalancersByTags_matches sc'.tags u).imp
    fun r t ⟨_, hr⟩ out hout hmem => ?_
  subst hout
  obtain ⟨l, hl, rfl⟩ := hr
  obtain ⟨lb', hlb', hsame⟩ := List.mem_map.1 hmem
  obtain ⟨hin, hmatch⟩ := List.mem_filter.1 hlb'
  have hname : lb'.name = lb.name := congrArg (·.id) hsame
  rw [List.inj_on_of_nodup_map hnames hin hu hname, hunmatched l hl] at hmatch
  cases hmatch

/-- **Load balancer labels keep cluster identity** exactly for clusters whose tags keep one value
under every rewritten key. -/
theorem labels_identify_iff (sc sc' : StackitCluster)
    (hne : (sc.metadata.namespace', sc.metadata.name) ≠
      (sc'.metadata.namespace', sc'.metadata.name)) :
    (Identified sc ∧ Identified sc' ∧ NotMistaken sc sc' ∧ NotMistaken sc' sc) ↔
      ConsistentRewrites sc.tags ∧ ConsistentRewrites sc'.tags := by
  constructor
  · rintro ⟨hsc, hsc', -, -⟩
    exact ⟨identified_iff.1 hsc, identified_iff.1 hsc'⟩
  · rintro ⟨hsc, hsc'⟩
    exact ⟨identified_iff.2 hsc, identified_iff.2 hsc', notMistaken hsc hsc' hne,
      notMistaken hsc' hsc hne.symm⟩

/-- Two clusters in one namespace, one of them with a label of its own. -/
theorem labels_identify_sample :
    let labels := StringMap.ofList [("example.org/team", "a")]
    let sc : StackitCluster :=
      { metadata := { name := "c", namespace' := "ns" }, spec := { additionalLabels := labels } }
    let sc' : StackitCluster := { metadata := { name := "d", namespace' := "ns" }, spec := {} }
    (ConsistentRewrites sc.tags ∧ ConsistentRewrites sc'.tags) ∧ Identified sc ∧
    NotMistaken sc sc' := by
  intro labels sc sc'
  have htags : ConsistentRewrites sc.tags ∧ ConsistentRewrites sc'.tags := by decide +kernel
  have hsound := (labels_identify_iff sc sc' (by decide)).2 htags
  exact ⟨htags, hsound.1, hsound.2.2.1⟩

/-- Visit the entries from the last to the first. -/
def MapOrder.backwards : MapOrder := ⟨List.reverse, List.reverse_perm⟩

/-- The admitted label `cluster.x-k8s.io.cluster-name: x` of the cluster `c` becomes the key of its
name. Created in one order, the load balancer is labelled as that of the cluster `x`: in another
order the cluster does not find it and asks for a second one, while the cluster `x` takes it for
its own. -/
theorem labels_mistaken :
    let labels := StringMap.ofList [("cluster.x-k8s.io.cluster-name", "x")]
    let sc : StackitCluster :=
      { metadata := { name := "c", namespace' := "ns" }, spec := { additionalLabels := labels } }
    let sc' : StackitCluster := { metadata := { name := "x", namespace' := "ns" }, spec := {} }
    let s : Session := { cloud := { ids := .unary }, orders := [.backwards, .backwards] }
    let u : Session :=
      { cloud := ((ensureAPIServerLoadBalancer (apiServerInput sc [])).after s).cloud }
    Webhook.validateAdditionalLabels .kubernetes labels "spec.additionalLabels" = [] ∧
      u.cloud.loadBalancers.map (·.labels.lookup (rewriteKey labelClusterName)) = [some "x"] ∧
      (((ensureAPIServerLoadBalancer (apiServerInput sc [])).after u).log.filterMap fun x =>
        match x.request with
        | .createLoadBalancer payload => some payload.name
        | _ => none) = ["c-apiserver"] ∧
      (listAPIServerLoadBalancersByTags sc.tags).outcome u = .ok [] ∧
      (listAPIServerLoadBalancersByTags sc'.tags).outcome u =
        .ok (u.cloud.loadBalancers.map loadBalancerFromSDK) := by
  decide +kernel

end Capstk
