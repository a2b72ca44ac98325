import Capstk.Proofs.Requests

/-!
# Resources by kind

`labelled k c` are the IDs and labels of the resources of kind `k`, `tagged k T c` the IDs of those
that carry the tags `T`. All that the proofs about clean-up and uniqueness need of a request is what
it does to `labelled`: nothing (`SameResources`), take one away (`Removes`) or add one (`Adds`).
-/

namespace Capstk

open Prog

inductive Kind
  | server
  | network
  | publicIP
  | securityGroup
  | loadBalancer
deriving DecidableEq, Repr

/-- The ID and the labels of every resource of a kind. -/
def labelled : Kind → Cloud → List (String × StringMap)
  | .server, c => c.servers.map fun s => (s.id, s.labels)
  | .network, c => c.networks.map fun n => (n.id, n.labels)
  | .publicIP, c => c.publicIPs.map fun p => (p.id, p.labels)
  | .securityGroup, c => c.securityGroups.map fun g => (g.id, g.labels)
  | .loadBalancer, c => c.loadBalancers.map fun l => (l.name, l.labels)

/-- The IDs of the resources of a kind that carry the tags `T`. -/
def tagged (k : Kind) (T : StringMap) (c : Cloud) : List String :=
  ((labelled k c).filter fun x => labelsContainTags x.2 T).map Prod.fst

variable {k : Kind} {T T' : StringMap} {c c' : Cloud} {id : String}

theorem mem_tagged : id ∈ tagged k T c ↔ ∃ labels, (id, labels) ∈ labelled k c ∧
    labelsContainTags labels T = true := by
  simp [tagged]

theorem tagged_eq {α : Type} {list : List α} {ident : α → String} {labels : α → StringMap}
    (h : labelled k c = list.map fun x => (ident x, labels x)) :
    tagged k T c = (list.filter fun x => labelsContainTags (labels x) T).map ident := by
  simp [tagged, h, List.filter_map, Function.comp_def]

theorem tagged_append {x : String × StringMap} (h : labelled k c' = labelled k c ++ [x]) :
    tagged k T c' = tagged k T c ++ if labelsContainTags x.2 T then [x.1] else [] := by
  rw [tagged, tagged, h, List.filter_append, List.map_append]
  by_cases hx : labelsContainTags x.2 T = true <;> simp [hx]

theorem tagged_filter (h : labelled k c' = (labelled k c).filter (·.1 != id)) :
    tagged k T c' = (tagged k T c).filter (· != id) := by
  simp only [tagged, h, List.filter_filter, List.filter_map, Function.comp_def, Bool.and_comm]

/-! ### Presence -/

/-- There is a resource of kind `k` with that ID. -/
def Present (k : Kind) (id : String) (c : Cloud) : Prop := ∃ labels, (id, labels) ∈ labelled k c

theorem Present.same {id : String} (h : Present k id c) (hs : labelled k c' = labelled k c) :
    Present k id c' := by
  rw [Present, hs]; exact h

theorem present_of_tagged {id : String} (h : tagged k T c = [id]) : Present k id c := by
  obtain ⟨labels, hx, -⟩ := mem_tagged.1 (show id ∈ tagged k T c by rw [h]; simp)
  exact ⟨labels, hx⟩

/-! ### No new resources -/

/-- Resources may have gone, none has come. -/
def Shrinks (c c' : Cloud) : Prop := ∀ k, (labelled k c').Sublist (labelled k c)

namespace Shrinks

theorem refl (c : Cloud) : Shrinks c c := fun _ => .refl _

theorem trans {c'' : Cloud} (h : Shrinks c c') (h' : Shrinks c' c'') : Shrinks c c'' :=
  fun k => (h' k).trans (h k)

theorem closed : Closed fun s t : Session => Shrinks s.cloud t.cloud :=
  ⟨fun s => refl s.cloud, fun h h' => h.trans h'⟩

theorem of_same (h : ∀ k, labelled k c' = labelled k c) : Shrinks c c' := fun k => by rw [h k]

theorem of_eq (h : c' = c) : Shrinks c c' := of_same fun k => by rw [h]

theorem tagged (h : Shrinks c c') (k : Kind) (T : StringMap) :
    (tagged k T c').Sublist (tagged k T c) :=
  ((h k).filter _).map _

theorem tagged_nil (h : Shrinks c c') (hnil : Capstk.tagged k T c = []) :
    Capstk.tagged k T c' = [] :=
  List.sublist_nil.1 (hnil ▸ h.tagged k T)

end Shrinks

/-! ### Deletions -/

/-- `effect` takes away the resource `id` of kind `k`, and nothing else. -/
structure Removes (k : Kind) (id : String) (effect : Cloud.Effect Unit) : Prop where
  this : ∀ c, labelled k (effect c).2 = (labelled k c).filter (·.1 != id)
  others : ∀ c k', k' ≠ k → labelled k' (effect c).2 = labelled k' c

theorem Removes.shrinks {effect : Cloud.Effect Unit} (h : Removes k id effect) (c : Cloud) :
    Shrinks c (effect c).2 := by
  intro k'
  by_cases hk : k' = k
  · subst hk
    rw [h.this]; exact List.filter_sublist
  · rw [h.others c k' hk]

/-- Whatever becomes of a deletion, no resource appears; and if it is answered, or the answer is
"not found", the resource does not exist. -/
theorem wp_remove {effect : Cloud.Effect Unit} (h : Removes k id effect) {op : String}
    {req : Request} (s : Session) :
    wp (request op req effect) (fun r t => Shrinks s.cloud t.cloud ∧
      ((∀ e, r = .error e → isNotFound e = true) → ∀ labels, (id, labels) ∉ labelled k t.cloud))
      s := by
  refine wp_request fun r c t hr ht => ?_
  rw [ht.cloud]
  refine ⟨?_, fun hnf labels => ?_⟩
  · rcases hr.cloud_cases with rfl | rfl
    · exact .refl _
    · exact h.shrinks _
  · have hc : c = (effect s.cloud).2 := by
      cases r with
      | ok a => rw [hr.ok]
      | error e =>
        obtain ⟨e', -, he'⟩ := hr.notFound (hnf e rfl)
        rw [he']
    rw [hc, h.this s.cloud]
    simp

theorem not_mem_tagged (h : ∀ labels, (id, labels) ∉ labelled k c) : id ∉ tagged k T c := fun hid =>
  let ⟨labels, hx, _⟩ := mem_tagged.1 hid
  h labels hx

theorem filter_ne_of_not_any {α : Type} {l : List α} {ident : α → String} {labels : α → StringMap}
    (h : l.any (ident · == id) = false) :
    (l.map fun x => (ident x, labels x)) = (l.map fun x => (ident x, labels x)).filter
      (·.1 != id) := by
  refine (List.filter_eq_self.2 fun y hy => ?_).symm
  obtain ⟨x, hx, rfl⟩ := List.mem_map.1 hy
  simpa using List.any_eq_false.1 h x hx

theorem removes_deleteServer (id : String) : Removes .server id (Cloud.deleteServer id) := by
  refine ⟨fun c => ?_, fun c k' hk => ?_⟩ <;> unfold Cloud.deleteServer <;> split
  · simp [labelled, List.filter_map, Function.comp_def]
  · rename_i hnone
    refine filter_ne_of_not_any (List.any_eq_false.2 fun x hx => ?_)
    exact List.find?_eq_none.1 hnone x hx
  · cases k' with
    | server => exact absurd rfl hk
    | publicIP =>
      simp only [labelled, List.map_map]
      exact List.map_congr_left fun p _ => by simp only [Function.comp]; split <;> rfl
    | _ => rfl
  · rfl

theorem removes_of_filter {effect : Cloud.Effect Unit} {present : Cloud → Bool}
    {remove : Cloud → Cloud}
    (heffect : ∀ c, effect c = if present c then (.ok (), remove c) else c.missing)
    (habsent : ∀ c, present c = false → labelled k c = (labelled k c).filter (·.1 != id))
    (hthis : ∀ c, labelled k (remove c) = (labelled k c).filter (·.1 != id))
    (hothers : ∀ c k', k' ≠ k → labelled k' (remove c) = labelled k' c) : Removes k id effect := by
  refine ⟨fun c => ?_, fun c k' hk => ?_⟩ <;> rw [heffect] <;> cases hp : present c
  · exact habsent c hp
  · exact hthis c
  · rfl
  · exact hothers c k' hk

theorem removes_deleteNetwork (id : String) : Removes .network id (Cloud.deleteNetwork id) := by
  refine removes_of_filter (fun c => rfl) (fun c => filter_ne_of_not_any) (fun c => ?_)
    fun c k' hk => ?_
  · simp [labelled, List.filter_map, Function.comp_def]
  · cases k' <;> first | rfl | exact absurd rfl hk

theorem removes_deletePublicIP (id : String) : Removes .publicIP id (Cloud.deletePublicIP id) := by
  refine removes_of_filter (fun c => rfl) (fun c => filter_ne_of_not_any) (fun c => ?_)
    fun c k' hk => ?_
  · simp [labelled, List.filter_map, Function.comp_def]
  · cases k' <;> first | rfl | exact absurd rfl hk

theorem removes_deleteSecurityGroup (id : String) :
    Removes .securityGroup id (Cloud.deleteSecurityGroup id) := by
  refine removes_of_filter (fun c => rfl) (fun c => filter_ne_of_not_any) (fun c => ?_)
    fun c k' hk => ?_
  · simp [labelled, List.filter_map, Function.comp_def]
  · cases k' <;> first | rfl | exact absurd rfl hk

theorem removes_deleteLoadBalancer (name : String) :
    Removes .loadBalancer name (Cloud.deleteLoadBalancer name) := by
  refine removes_of_filter (fun c => rfl) (fun c => filter_ne_of_not_any) (fun c => ?_)
    fun c k' hk => ?_
  · simp [labelled, List.filter_map, Function.comp_def]
  · cases k' <;> first | rfl | exact absurd rfl hk

/-! ### Requests that neither add nor remove -/

/-- Every resource keeps its ID and its labels. -/
def SameResources (c c' : Cloud) : Prop := ∀ k, labelled k c' = labelled k c

namespace SameResources

theorem closed : Closed fun s t : Session => SameResources s.cloud t.cloud :=
  ⟨fun _ _ => rfl, fun h h' k => (h' k).trans (h k)⟩

theorem shrinks (h : SameResources c c') : Shrinks c c' := .of_same h

theorem of_eq (h : c' = c) : SameResources c c' := fun k => by rw [h]

theorem of_servers {f : SDKServer → SDKServer}
    (hf : ∀ s, (f s).id = s.id ∧ (f s).labels = s.labels) :
    SameResources c { c with servers := c.servers.map f } := by
  rintro (_ | _ | _ | _ | _) <;> first | rfl | skip
  simp only [labelled, List.map_map]
  exact List.map_congr_left fun s _ => by simp [hf s]

theorem of_publicIPs {f : SDKPublicIP → SDKPublicIP}
    (hf : ∀ s, (f s).id = s.id ∧ (f s).labels = s.labels) :
    SameResources c { c with publicIPs := c.publicIPs.map f } := by
  rintro (_ | _ | _ | _ | _) <;> first | rfl | skip
  simp only [labelled, List.map_map]
  exact List.map_congr_left fun s _ => by simp [hf s]

theorem of_securityGroups {n : Nat} {f : SDKSecurityGroup → SDKSecurityGroup}
    (hf : ∀ s, (f s).id = s.id ∧ (f s).labels = s.labels) :
    SameResources c { c with issued := n, securityGroups := c.securityGroups.map f } := by
  rintro (_ | _ | _ | _ | _) <;> first | rfl | skip
  simp only [labelled, List.map_map]
  exact List.map_congr_left fun s _ => by simp [hf s]

theorem of_loadBalancers {f : SDKLoadBalancer → SDKLoadBalancer}
    (hf : ∀ s, (f s).name = s.name ∧ (f s).labels = s.labels) :
    SameResources c { c with loadBalancers := c.loadBalancers.map f } := by
  rintro (_ | _ | _ | _ | _) <;> first | rfl | skip
  simp only [labelled, List.map_map]
  exact List.map_congr_left fun s _ => by simp [hf s]

end SameResources

theorem sameResources_request {α : Type} {op : String} {req : Request} {effect : Cloud.Effect α}
    (h : ∀ c, SameResources c (effect c).2) :
    Keeps (fun s t : Session => SameResources s.cloud t.cloud) (request op req effect) :=
  keeps_request (fun _ _ => rfl) h

theorem sameResources_read {α : Type} {op : String} {req : Request} {effect : Cloud.Effect α}
    (h : ReadOnly effect) :
    Keeps (fun s t : Session => SameResources s.cloud t.cloud) (request op req effect) :=
  sameResources_request fun c => .of_eq (h c)

namespace SameResources
variable (serverID groupID publicIPID ruleID : String) (payload : SDKRulePayload) (c : Cloud)

theorem addSecurityGroupToServer :
    SameResources c (Cloud.addSecurityGroupToServer serverID groupID c).2 := by
  unfold Cloud.addSecurityGroupToServer
  split
  · split
    · exact of_eq rfl
    · split
      · exact of_eq rfl
      · exact of_servers fun s => by split <;> exact ⟨rfl, rfl⟩
  · exact of_eq rfl

theorem removeSecurityGroupFromServer :
    SameResources c (Cloud.removeSecurityGroupFromServer serverID groupID c).2 := by
  unfold Cloud.removeSecurityGroupFromServer
  split
  · exact of_servers fun s => by split <;> exact ⟨rfl, rfl⟩
  · exact of_eq rfl

theorem addPublicIpToServer :
    SameResources c (Cloud.addPublicIpToServer serverID publicIPID c).2 := by
  unfold Cloud.addPublicIpToServer
  split
  · split
    · exact of_publicIPs fun s => by split <;> exact ⟨rfl, rfl⟩
    · exact of_eq rfl
  · exact of_eq rfl

theorem removePublicIpFromServer :
    SameResources c (Cloud.removePublicIpFromServer serverID publicIPID c).2 := by
  unfold Cloud.removePublicIpFromServer
  split
  · exact of_publicIPs fun s => by split <;> exact ⟨rfl, rfl⟩
  · exact of_eq rfl

theorem createSecurityGroupRule :
    SameResources c (Cloud.createSecurityGroupRule groupID payload c).2 := by
  unfold Cloud.createSecurityGroupRule
  split
  · exact of_securityGroups fun s => by split <;> exact ⟨rfl, rfl⟩
  · exact of_eq rfl

theorem deleteSecurityGroupRule :
    SameResources c (Cloud.deleteSecurityGroupRule groupID ruleID c).2 := by
  unfold Cloud.deleteSecurityGroupRule
  split
  · split
    · exact of_securityGroups (n := c.issued) fun s => by split <;> exact ⟨rfl, rfl⟩
    · exact of_eq rfl
  · exact of_eq rfl

end SameResources

namespace SDKClient

theorem sameResources_addSecurityGroupToServer (serverID groupID : String) :
    Keeps (fun s t : Session => SameResources s.cloud t.cloud)
      (addSecurityGroupToServer serverID groupID) :=
  keeps_tolerate SameResources.closed
    (sameResources_request (.addSecurityGroupToServer serverID groupID))

theorem sameResources_removeSecurityGroupFromServer (serverID groupID : String) :
    Keeps (fun s t : Session => SameResources s.cloud t.cloud)
      (removeSecurityGroupFromServer serverID groupID) :=
  keeps_tolerate SameResources.closed
    (sameResources_request (.removeSecurityGroupFromServer serverID groupID))

theorem sameResources_addPublicIpToServer (serverID publicIPID : String) :
    Keeps (fun s t : Session => SameResources s.cloud t.cloud)
      (addPublicIpToServer serverID publicIPID) :=
  keeps_tolerate SameResources.closed
    (sameResources_request (.addPublicIpToServer serverID publicIPID))

theorem sameResources_removePublicIpFromServer (serverID publicIPID : String) :
    Keeps (fun s t : Session => SameResources s.cloud t.cloud)
      (removePublicIpFromServer serverID publicIPID) :=
  keeps_tolerate SameResources.closed
    (sameResources_request (.removePublicIpFromServer serverID publicIPID))

theorem readOnly_listSecurityGroupRules (id : String) :
    ReadOnly (Cloud.listSecurityGroupRules id) := by
  intro c; unfold Cloud.listSecurityGroupRules; split <;> rfl

theorem sameResources_listRules (id : String) :
    Keeps (fun s t : Session => SameResources s.cloud t.cloud) (listRules id) :=
  sameResources_read (readOnly_listSecurityGroupRules id)

theorem sameResources_createRule (id : String) (p : SDKRulePayload) :
    Keeps (fun s t : Session => SameResources s.cloud t.cloud) (createRule id p) :=
  sameResources_request (.createSecurityGroupRule id p)

theorem sameResources_deleteRule (id : String) (rule : SDKRule) :
    Keeps (fun s t : Session => SameResources s.cloud t.cloud) (deleteRule id rule) :=
  .ite (.pure SameResources.closed ())
    (keeps_tolerate SameResources.closed
      (sameResources_request (.deleteSecurityGroupRule id rule.id)))

theorem sameResources_deleteSecurityGroupRules (id : String) :
    Keeps (fun s t : Session => SameResources s.cloud t.cloud) (deleteSecurityGroupRules id) := by
  have hR := SameResources.closed
  refine .bind hR (sameResources_listRules id).attempt fun r => ?_
  cases r with
  | error e => exact .ite (.pure hR ()) (.fail hR e)
  | ok rules => exact .forEach hR fun rule _ => sameResources_deleteRule id rule

end SDKClient

/-! ### Look-ups -/

/-- What a look-up by tags says: the one resource that carries them, or that there is none. -/
def Found {β : Type} (k : Kind) (T : StringMap) (ident : β → String) (s : Session)
    (r : Except GoError β) (t : Session) : Prop :=
  t.cloud = s.cloud ∧ match r with
    | .ok b => tagged k T s.cloud = [ident b]
    | .error e => isNotFound e = true → tagged k T s.cloud = []

theorem wp_single_found {β : Type} {ident : β → String} {one many : String} {l : List β}
    {s t : Session} (hc : t.cloud = s.cloud) (hl : l.map ident = tagged k T s.cloud) :
    wp (SDKClient.single one many l) (Found k T ident s) t := by
  refine wp_single (fun h => ⟨hc, fun _ => ?_⟩) (fun a h => ⟨hc, ?_⟩) fun _ => ⟨hc, fun hnf => ?_⟩
  · rw [← hl, h]; rfl
  · show tagged k T s.cloud = [ident a]
    rw [← hl, h]; rfl
  · simp at hnf

theorem wp_foundID {β : Type} {ident : β → String} {find : Call Session β} {s : Session}
    (hfind : wp find (Found k T ident s) s) :
    wp (existingOr isNotFound (do pure (ident (← find))) (pure "")) (fun r t => t.cloud = s.cloud ∧
      ∀ id, r = .ok id → tagged k T s.cloud = [id] ∨ id = "" ∧ tagged k T s.cloud = []) s := by
  refine wp_foundID_of hfind (fun b t ⟨hc, hone⟩ => ⟨hc, fun id hid => ?_⟩)
    (fun e t ⟨hc, hnone⟩ hnf => ⟨hc, fun id hid => ?_⟩) fun e t ⟨hc, _⟩ _ =>
    ⟨hc, fun id hid => by cases hid⟩
  · cases hid
    exact .inl hone
  · cases hid
    exact .inr ⟨rfl, hnone hnf⟩

theorem wp_find {α β : Type} {op : String} {req : Request} {one many : String}
    {effect : Cloud.Effect (List α)} (list : Cloud → List α) (labels : α → StringMap)
    (present : α → β) (ident : β → String)
    (heffect : ∀ c, effect c = (.ok ((list c).filter fun x => labelsContainTags (labels x) T), c))
    (hk : ∀ c, labelled k c = (list c).map fun x => (ident (present x), labels x)) (s : Session) :
    wp (do SDKClient.single one many (← SDKClient.requireTags T do
        let items ← request op req effect
        pure ((items.filter fun x => labelsContainTags (labels x) T).map present)))
      (Found k T ident s) s := by
  rw [wp_bind]
  refine wp_requireTags (fun _ => ⟨rfl, fun h => by simp at h⟩) ?_
  rw [wp_bind]
  refine wp_request fun r c t hr ht => ?_
  have hc : t.cloud = s.cloud := ht.cloud.trans (hr.cloud_eq fun c => by rw [heffect])
  cases r with
  | error e =>
    refine ⟨hc, fun hnf => ?_⟩
    obtain ⟨e', -, he'⟩ := hr.notFound hnf
    simp [heffect] at he'
  | ok items =>
    have hitems := hr.ok
    rw [heffect] at hitems
    refine wp_single_found hc ?_
    rw [tagged_eq (hk s.cloud)]
    cases hitems
    simp [List.filter_filter, Function.comp_def]

theorem wp_find_record {α β : Type} {op : String} {req : Request} {one many : String}
    {effect : Cloud.Effect (List α)} (list : Cloud → List α) (labels : α → StringMap)
    (present : α → β)
    (heffect : ∀ c, effect c = (.ok ((list c).filter fun x => labelsContainTags (labels x) T), c))
    (s : Session) :
    wp (do SDKClient.single one many (← SDKClient.requireTags T do
        let items ← request op req effect
        pure ((items.filter fun x => labelsContainTags (labels x) T).map present)))
      (fun r t => t.cloud = s.cloud ∧ ∀ b, r = .ok b →
        ∃ x, (list s.cloud).filter (fun x => labelsContainTags (labels x) T) = [x] ∧
        present x = b) s := by
  rw [wp_bind]
  refine wp_requireTags (fun _ => ⟨rfl, fun _ h => by cases h⟩) ?_
  rw [wp_bind]
  refine wp_request fun r c t hr ht => ?_
  have hc : t.cloud = s.cloud := ht.cloud.trans (hr.cloud_eq fun c => by rw [heffect])
  cases r with
  | error e => exact ⟨hc, fun _ h => by cases h⟩
  | ok items =>
    have hitems := hr.ok
    rw [heffect] at hitems
    cases hitems
    rw [next_ok, wp_pure, next_ok]
    refine wp_single (fun _ => ⟨hc, fun _ h => by cases h⟩) (fun b hb => ⟨hc, fun _ h => ?_⟩)
      fun _ => ⟨hc, fun _ h => by cases h⟩
    cases h
    simp only [List.filter_filter, Bool.and_self] at hb
    obtain ⟨x, hx, rfl⟩ := List.map_eq_singleton_iff.1 hb
    exact ⟨x, hx, rfl⟩

/-! ### Creations -/

/-- `effect` adds a resource of kind `k` with the given labels and an ID, and nothing else. -/
def Adds {α : Type} (k : Kind) (labels : StringMap) (ident : α → String) (effect : Cloud.Effect α) :
    Prop :=
  ∀ c, ∃ a c', effect c = (.ok a, c') ∧ ident a ≠ "" ∧
    labelled k c' = labelled k c ++ [(ident a, labels)] ∧
    ∀ k', k' ≠ k → labelled k' c' = labelled k' c

/-- Nothing happened, or the first resource of kind `k` with the tags `T` was created. -/
structure Ensured (k : Kind) (T : StringMap) (c c' : Cloud) : Prop where
  others : ∀ k', k' ≠ k → labelled k' c' = labelled k' c
  this : labelled k c' = labelled k c ∨ tagged k T c = [] ∧ ∃ id, id ≠ "" ∧
    labelled k c' = labelled k c ++ [(id, T)]

/-- Of the kinds in `ks`, at most the first resource with the tags `T` was created. -/
def AddsFirst (ks : Kind → Prop) (T : StringMap) (c c' : Cloud) : Prop :=
  ∀ k, labelled k c' = labelled k c ∨
    ks k ∧ tagged k T c = [] ∧ ∃ id, id ≠ "" ∧ labelled k c' = labelled k c ++ [(id, T)]

theorem Ensured.addsFirst {ks : Kind → Prop} (h : Ensured k T c c') (hk : ks k) :
    AddsFirst ks T c c' := by
  intro k'
  by_cases hkk : k' = k
  · subst hkk
    exact h.this.imp id fun h => ⟨hk, h⟩
  · exact .inl (h.others k' hkk)

namespace AddsFirst
variable {ks : Kind → Prop}

theorem of_same (h : SameResources c c') : AddsFirst ks T c c' := fun k => .inl (h k)

theorem trans {c'' : Cloud} (h : AddsFirst ks T c c') (h' : AddsFirst ks T c' c'') :
    AddsFirst ks T c c'' := by
  intro k
  rcases h k, h' k with ⟨h₁ | ⟨hk, hnone, id, hid, h₁⟩, h₂ | ⟨hk', hnone', id', hid', h₂⟩⟩
  · exact .inl (h₂.trans h₁)
  · rw [h₁] at h₂
    rw [tagged, h₁] at hnone'
    exact .inr ⟨hk', hnone', id', hid', h₂⟩
  · exact .inr ⟨hk, hnone, id, hid, h₂.trans h₁⟩
  · rw [tagged_append h₁, hnone] at hnone'
    simp at hnone'

theorem closed : Closed fun s t : Session => AddsFirst ks T s.cloud t.cloud :=
  ⟨fun _ => of_same fun _ => rfl, fun h h' => h.trans h'⟩

theorem mono {ks' : Kind → Prop} (h : AddsFirst ks T c c') (hks : ∀ k, ks k → ks' k) :
    AddsFirst ks' T c c' :=
  fun k => (h k).imp id fun ⟨hk, h⟩ => ⟨hks k hk, h⟩

theorem mem (h : AddsFirst ks T c c') {x : String × StringMap} (hx : x ∈ labelled k c') :
    x ∈ labelled k c ∨ ks k ∧ x.1 ≠ "" ∧ x.2 = T := by
  rcases h k with hsame | ⟨hk, -, id, hid, hnew⟩
  · rw [hsame] at hx; exact .inl hx
  · rw [hnew, List.mem_append, List.mem_singleton] at hx
    rcases hx with hx | rfl
    · exact .inl hx
    · exact .inr ⟨hk, hid, rfl⟩

end AddsFirst

theorem Ensured.refl (k : Kind) (T : StringMap) (c : Cloud) : Ensured k T c c :=
  ⟨fun _ _ => rfl, .inl rfl⟩

theorem Ensured.named (h : Ensured k T c c') (hc : "" ∉ tagged k T c) : "" ∉ tagged k T c' := by
  rcases h.this with hsame | ⟨hnone, id, hid, hnew⟩
  · rw [tagged, hsame]; exact hc
  · rw [tagged_append hnew, hnone]
    simpa using hid.symm

/-- Look a resource up and create it if there is none: whatever fails, at most the first resource
with the tags is created, and an answer is the only one that carries them. -/
theorem wp_ensure {α β : Type} {ident : α → String} {ident' : β → String} {effect : Cloud.Effect α}
    {op : String} {req : Request} {find : Call Session β} {finish : α → Call Session β}
    {s : Session} (hadd : Adds k T ident effect) (hfind : wp find (Found k T ident' s) s)
    (hfinish : ∀ a t, wp (finish a) (fun r t' => t'.cloud = t.cloud ∧ ∃ b, r = .ok b ∧
      ident' b = ident a) t) :
    wp (existingOr isNotFound find (do finish (← request op req effect)))
      (fun r t => Ensured k T s.cloud t.cloud ∧ ∀ b, r = .ok b → tagged k T t.cloud = [ident' b])
      s := by
  have hsame : ∀ {t : Session}, t.cloud = s.cloud → Ensured k T s.cloud t.cloud :=
    fun hc => by rw [hc]; exact .refl k T _
  refine wp_existingOr_of hfind (fun b t ⟨hc, hone⟩ => ⟨hsame hc, fun b' hb' => ?_⟩)
    (fun e t ⟨hc, hr⟩ hnf => ?_)
    fun e t ⟨hc, _⟩ _ => ⟨hsame hc, fun b hb => by cases hb⟩
  · cases hb'
    rw [hc]; exact hone
  · obtain ⟨a, c', heffect, hid, hthis, hothers⟩ := hadd t.cloud
    have hnone : tagged k T t.cloud = [] := by rw [hc]; exact hr hnf
    have hcreated : Ensured k T s.cloud c' := by
      rw [hc] at hthis hothers
      exact ⟨hothers, .inr ⟨hr hnf, _, hid, hthis⟩⟩
    rw [wp_bind]
    refine wp_request fun r' d t' hr' ht' => ?_
    cases r' with
    | error e' =>
      refine ⟨?_, fun b hb => by cases hb⟩
      rw [ht'.cloud]
      rcases hr'.cloud_cases with rfl | rfl
      · exact hsame hc
      · rw [heffect]; exact hcreated
    | ok a' =>
      have hok := hr'.ok
      rw [heffect] at hok
      cases hok
      rw [next_ok]
      refine (hfinish a t').imp fun r'' t'' ⟨hc'', b, hb, hbid⟩ => ?_
      subst hb
      rw [hc'', ht'.cloud]
      refine ⟨hcreated, fun b' hb' => ?_⟩
      cases hb'
      rw [tagged_append hthis, hnone, hbid]; simp

end Capstk
