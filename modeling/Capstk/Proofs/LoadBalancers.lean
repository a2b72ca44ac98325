import Capstk.Proofs.Resources

/-!
# Load balancers by tag

A load balancer carries the cluster's tags with every `/` of a key rewritten to `.`. Two tags whose
keys become equal overwrite each other in the order `range` happens to use, when the load balancer
is created and again when it is looked up; only if all rewritten keys are distinct
(`DistinctRewrites`) does a look-up find what was created (`mapContains_of_perm`).
-/

namespace Capstk

open Prog

/-- No two tags get the same key when `/` is rewritten to `.`. -/
def DistinctRewrites (T : StringMap) : Prop := (T.entries.map fun e => rewriteKey e.1).Nodup

instance (T : StringMap) : Decidable (DistinctRewrites T) := List.nodupDecidable _

/-- The labels carry the rewritten tags. -/
def lbCarries (T labels : StringMap) : Bool :=
  T.entries.all fun e => (labels.lookup (rewriteKey e.1)).getD "" == e.2

theorem mapContains_foldl (labels : StringMap) (l : List (Sigma fun _ : String => String))
    (m : StringMap) (hnodup : (l.map fun e => rewriteKey e.1).Nodup)
    (hnew : ∀ e ∈ l, rewriteKey e.1 ∉ m) :
    mapContains labels (l.foldl (fun out e => out.insert (rewriteKey e.1) e.2) m) =
      (l.all (fun e => (labels.lookup (rewriteKey e.1)).getD "" == e.2) && mapContains labels m) :=
  by
  induction l generalizing m with
  | nil => simp
  | cons e l ih =>
    obtain ⟨hfirst, hnodup⟩ := List.nodup_cons.1 hnodup
    rw [List.foldl_cons, ih _ hnodup]
    · have he : rewriteKey e.1 ∉ m := hnew e (by simp)
      simp only [mapContains, AList.entries_insert_of_notMem he, List.all_cons]
      rw [← Bool.and_assoc, Bool.and_comm (l.all _)]
    · intro e' he' hmem
      rcases (AList.mem_insert m).1 hmem with heq | hmem
      · exact hfirst (List.mem_map.2 ⟨e', he', heq⟩)
      · exact hnew e' (by simp [he']) hmem

/-- With distinct rewritten keys the order of the entries does not matter. -/
theorem mapContains_of_perm {T : StringMap} (hT : DistinctRewrites T)
    {l : List (Sigma fun _ : String => String)} (hl : l.Perm T.entries) (labels : StringMap) :
    mapContains labels (loadBalancerLabels l) = lbCarries T labels := by
  have hnodup : (l.map fun e => rewriteKey e.1).Nodup := (hl.map _).nodup_iff.2 hT
  rw [loadBalancerLabels, mapContains_foldl labels l ∅ hnodup fun _ _ => AList.notMem_empty _,
    hl.all_eq]
  simp [mapContains, lbCarries]

/-- The names of the load balancers that carry the tags `T`. -/
def taggedLBs (T : StringMap) (c : Cloud) : List String :=
  ((labelled .loadBalancer c).filter fun x => lbCarries T x.2).map Prod.fst

theorem Shrinks.taggedLBs {c c' : Cloud} (h : Shrinks c c') (T : StringMap) :
    (taggedLBs T c').Sublist (Capstk.taggedLBs T c) := ((h .loadBalancer).filter _).map _

theorem Shrinks.taggedLBs_nil {c c' : Cloud} {T : StringMap} (h : Shrinks c c')
    (hnil : Capstk.taggedLBs T c = []) :
    Capstk.taggedLBs T c' = [] := List.sublist_nil.1 (hnil ▸ h.taggedLBs T)

namespace SDKClient

/-- The entries of `m` as the next `range` over it yields them. -/
def nextRange (m : StringMap) : List MapOrder → List (Sigma fun _ : String => String)
  | [] => m.entries
  | o :: _ => o.arrange m.entries

theorem nextRange_perm (m : StringMap) (orders : List MapOrder) :
    (nextRange m orders).Perm m.entries := by
  cases orders with
  | nil => exact .refl _
  | cons o os => exact o.perm _

theorem wp_rangeOver_next (m : StringMap) (s : Session) :
    wp (rangeOver m) (fun r t => t.cloud = s.cloud ∧ r = .ok (nextRange m s.orders)) s := by
  show (rangeOver m s).2.cloud = s.cloud ∧ (rangeOver m s).1 = _
  unfold rangeOver
  cases s.orders with
  | nil => exact ⟨rfl, rfl⟩
  | cons o os => exact ⟨rfl, rfl⟩

theorem wp_rangeOver (m : StringMap) (s : Session) :
    wp (rangeOver m) (fun r t => t.cloud = s.cloud ∧ ∃ l, r = .ok l ∧ l.Perm m.entries) s :=
  (wp_rangeOver_next m s).imp fun _ _ ⟨hc, hr⟩ => ⟨hc, _, hr, nextRange_perm m s.orders⟩

theorem readOnly_listLoadBalancers : ReadOnly Cloud.listLoadBalancers := by
  intro c; unfold Cloud.listLoadBalancers; split <;> rfl

/-- A failed request that reports "service not enabled" was refused by the cloud itself. -/
theorem settled_notEnabled {α : Type} {op : String} {effect : Cloud.Effect α} {c c' : Cloud}
    {e : GoError} (h : Settled op effect c (.error e) c')
    (hne : isLoadBalancerServiceNotEnabled e = true) :
    ∃ e', effect c = (.error e', c') := by
  cases h with
  | refused e' _ h => exact ⟨e', h⟩
  | failedBefore f => simp [(f.honest op).2] at hne
  | failedAfter f => simp [(f.honest op).2] at hne

/-- The list of load balancers by tags changes nothing; its answer are those that match the
selector, which is made from the tags in the order of the next `range`. -/
theorem wp_listAPIServerLoadBalancersByTags_next (T : StringMap) (s : Session) :
    wp (listAPIServerLoadBalancersByTags T) (fun r t => t.cloud = s.cloud ∧
      match r with
      | .ok out => out = (s.cloud.loadBalancers.filter fun x =>
          mapContains x.labels (loadBalancerLabels (nextRange T s.orders))).map loadBalancerFromSDK
      | .error e => isNotFound e = false ∧ isLoadBalancerServiceNotEnabled e = false) s := by
  refine wp_requireTags (fun _ => ⟨rfl, rfl, isLoadBalancerServiceNotEnabled_of_not rfl⟩) ?_
  rw [wp_attempt_bind]
  refine wp_request fun r c t hr ht => ?_
  have hc : t.cloud = s.cloud := ht.cloud.trans (hr.cloud_eq readOnly_listLoadBalancers)
  cases r with
  | error e =>
    refine wp_ite (fun hne => ⟨hc, ?_⟩) fun hne => ⟨hc, ?_, by simpa using hne⟩
    · -- the service is only disabled while there is no load balancer
      obtain ⟨e', he'⟩ := settled_notEnabled hr hne
      unfold Cloud.listLoadBalancers at he'
      split at he'
      · rename_i hempty
        have hnone : s.cloud.loadBalancers = [] := by simp at hempty; exact hempty.1
        show [] = _
        simp [hnone]
      · simp at he'
    · by_contra hnf
      obtain ⟨e', rfl, he'⟩ := hr.notFound (by simpa using hnf)
      unfold Cloud.listLoadBalancers at he'
      split at he'
      · cases he'; exact hnf rfl
      · simp at he'
  | ok items =>
    have hitems : items = s.cloud.loadBalancers := by
      have hok := hr.ok
      unfold Cloud.listLoadBalancers at hok
      split at hok
      · simp at hok
      · simp at hok; exact hok.1.symm
    show wp (rangeOver T >>= _) _ t
    rw [wp_bind]
    refine (wp_rangeOver_next T t).imp fun r' u ⟨hu, hl⟩ => ?_
    subst hl
    refine ⟨hu.trans hc, ?_⟩
    show _ = _
    rw [hitems, ht.orders]

theorem wp_listAPIServerLoadBalancersByTags_matches (T : StringMap) (s : Session) :
    wp (listAPIServerLoadBalancersByTags T) (fun r t => t.cloud = s.cloud ∧
      match r with
      | .ok out => ∃ l, l.Perm T.entries ∧
        out = (s.cloud.loadBalancers.filter fun x =>
          mapContains x.labels (loadBalancerLabels l)).map loadBalancerFromSDK
      | .error e => isNotFound e = false ∧ isLoadBalancerServiceNotEnabled e = false) s := by
  refine (wp_listAPIServerLoadBalancersByTags_next T s).imp fun r t ⟨hc, hr⟩ => ⟨hc, ?_⟩
  cases r with
  | error e => exact hr
  | ok out => exact ⟨_, nextRange_perm T s.orders, hr⟩

/-- If the rewritten keys are distinct the answer is complete. -/
theorem wp_listAPIServerLoadBalancersByTags (T : StringMap) (s : Session) :
    wp (listAPIServerLoadBalancersByTags T) (fun r t => t.cloud = s.cloud ∧
      match r with
      | .ok out => DistinctRewrites T → out.map (·.id) = taggedLBs T s.cloud
      | .error e => isNotFound e = false ∧ isLoadBalancerServiceNotEnabled e = false) s := by
  refine (wp_listAPIServerLoadBalancersByTags_matches T s).imp fun r t ⟨hc, hr⟩ => ⟨hc, ?_⟩
  cases r with
  | error e => exact hr
  | ok out =>
    obtain ⟨l, hperm, rfl⟩ := hr
    intro hT
    simp [taggedLBs, labelled, mapContains_of_perm hT hperm, List.filter_map, Function.comp_def,
      loadBalancerFromSDK]

theorem wp_findLoadBalancerByTags (T : StringMap) (s : Session) :
    wp (findLoadBalancerByTags T) (fun r t => t.cloud = s.cloud ∧
      ∀ l, r = .ok l → DistinctRewrites T → taggedLBs T s.cloud = [l.id]) s := by
  unfold findLoadBalancerByTags
  rw [wp_bind]
  refine (wp_listAPIServerLoadBalancersByTags T s).imp fun r t ⟨hc, hr⟩ => ?_
  cases r with
  | error e => exact ⟨hc, fun l hl => by cases hl⟩
  | ok out =>
    rw [next_ok]
    refine wp_single (fun _ => ⟨hc, fun l hl => by cases hl⟩) (fun a h => ⟨hc, fun l hl hT => ?_⟩)
      fun _ => ⟨hc, fun l hl => by cases hl⟩
    cases hl
    rw [← hr hT, h]; rfl

/-- What `EnsureAPIServerLoadBalancer` may add: a load balancer of the given name. -/
structure LoadBalancerEnsured (name : String) (c c' : Cloud) : Prop where
  others : ∀ k, k ≠ .loadBalancer → labelled k c' = labelled k c
  this : ∀ x ∈ labelled .loadBalancer c', x ∈ labelled .loadBalancer c ∨ x.1 = name

theorem LoadBalancerEnsured.of_eq {name : String} {c c' : Cloud} (h : c' = c) :
    LoadBalancerEnsured name c c' := by
  subst h; exact ⟨fun _ _ => rfl, fun _ hx => .inl hx⟩

theorem loadBalancerEnsured_create (p : CreateLoadBalancerPayload) (c : Cloud) :
    LoadBalancerEnsured p.name c (Cloud.createLoadBalancer p c).2 := by
  unfold Cloud.createLoadBalancer
  split
  · exact .of_eq rfl
  · refine ⟨fun k hk => ?_, fun x hx => ?_⟩
    · cases k <;> first | rfl | exact absurd rfl hk
    · simp only [labelled, List.map_append, List.mem_append] at hx
      exact hx.imp id fun hx => by simp at hx; rw [hx]

theorem sameCloud_newLoadBalancerLabels (T : StringMap) :
    Keeps (fun s t : Session => t.cloud = s.cloud) (newLoadBalancerLabels T) := by
  have hR : Closed fun s t : Session => t.cloud = s.cloud := Closed.ofEq Session.cloud
  exact .ite (.pure hR ∅) (.bind hR (fun s => (wp_rangeOver T s).1) fun _ => .pure hR _)

theorem wp_ensureAPIServerLoadBalancer (input : LoadBalancerInput) (s : Session) :
    wp (ensureAPIServerLoadBalancer input)
      (fun r t => LoadBalancerEnsured input.name s.cloud t.cloud ∧
        ∀ l, r = .ok l → DistinctRewrites input.tags → l.id ∈ taggedLBs input.tags s.cloud ∨
        l.id = input.name) s := by
  refine wp_existingOr_of (wp_findLoadBalancerByTags input.tags s)
    (fun l t ⟨hc, hr⟩ => ⟨.of_eq hc, fun l' hl' hT => .inl ?found⟩) (fun e t ⟨hc, _⟩ _ => ?created)
    fun e t ⟨hc, _⟩ _ => ⟨.of_eq hc, fun l hl => by cases hl⟩
  case found =>
    cases hl'
    rw [hr l rfl hT]; simp
  case created =>
    rw [wp_bind]
    refine ((sameCloud_newLoadBalancerLabels input.tags).wp t).imp fun r' u hu => ?_
    cases r' with
    | error e' => exact ⟨.of_eq (hu.trans hc), fun l hl => by cases hl⟩
    | ok labels =>
      rw [next_ok, wp_bind]
      refine wp_request fun r'' c v hr'' hv => ?_
      have hensured : LoadBalancerEnsured input.name s.cloud v.cloud := by
        rw [hv.cloud, ← hc, ← hu]
        rcases hr''.cloud_cases with rfl | rfl
        · exact .of_eq rfl
        · exact loadBalancerEnsured_create (createLoadBalancerPayload input labels) _
      cases r'' with
      | error e'' => exact ⟨hensured, fun l hl => by cases hl⟩
      | ok l =>
        refine ⟨hensured, fun l' hl' _ => .inr ?_⟩
        cases hl'
        have hok := hr''.ok
        unfold Cloud.createLoadBalancer at hok
        split at hok
        · simp at hok
        · cases hok; rfl

/-! ### Targets -/

theorem readOnly_getLoadBalancer (name : String) : ReadOnly (Cloud.getLoadBalancer name) := by
  intro c; unfold Cloud.getLoadBalancer; split <;> rfl

theorem sameResources_updateTargetPool (name : String) (pool : SDKTargetPool) (c : Cloud) :
    SameResources c (Cloud.updateTargetPool name pool c).2 := by
  unfold Cloud.updateTargetPool
  split
  · split
    · exact .of_loadBalancers fun l => by split <;> exact ⟨rfl, rfl⟩
    · exact .of_eq rfl
  · exact .of_eq rfl

theorem sameResources_setAPIServerLoadBalancerTargets (id : String) (port : Int)
    (targets : List LoadBalancerTargetInput) :
    Keeps (fun s t : Session => SameResources s.cloud t.cloud)
      (setAPIServerLoadBalancerTargets id port targets) := by
  have hR := SameResources.closed
  refine .ite (.fail hR _) (.ite (.fail hR _) (.ite (.fail hR _) ?_))
  refine .bind hR (sameResources_read (readOnly_getLoadBalancer id)) fun l => ?_
  split
  · exact .fail hR _
  · exact .ite (.pure hR ()) (sameResources_request (sameResources_updateTargetPool _ _))

end SDKClient

end Capstk
