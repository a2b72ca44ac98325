import Capstk.Proofs.Bastion

/-!
# IDs are never used twice

A new resource gets the next ID of the `IDSource`. So as long as the IDs of a kind are distinct and
none of those still to come is in use (`UniqueIDs`), this stays so, and an ID names one resource.
-/

namespace Capstk

open Prog

variable {k : Kind} {T L : StringMap} {c c' c'' : Cloud} {id : String}

/-- IDs are given out one after the other. -/
structure Issues (c c' : Cloud) : Prop where
  ids : c'.ids = c.ids
  issued : c.issued ≤ c'.issued

namespace Issues

theorem refl (c : Cloud) : Issues c c := ⟨rfl, Nat.le_refl _⟩

theorem trans (h : Issues c c') (h' : Issues c' c'') : Issues c c'' :=
  ⟨h'.ids.trans h.ids, h.issued.trans h'.issued⟩

end Issues

/-- The ID has been given out, or is none of the source's. -/
def Used (id : String) (c : Cloud) : Prop := ∀ n, c.issued ≤ n → id ≠ c.ids.newID n

theorem Used.issues (h : Used id c) (hi : Issues c c') : Used id c' := by
  intro n hn
  rw [hi.ids]
  exact h n (hi.issued.trans hn)

/-- The unary source gives out no ID that begins otherwise. -/
theorem Used.of_head (hids : c.ids = .unary) (h : id.toList.head? ≠ some 'i') : Used id c := by
  intro n _ hid
  rw [hid, hids] at h
  simp [IDSource.unary, List.replicate_succ] at h

/-- The IDs of a kind are distinct, and none of those still to be given out is in use. -/
structure UniqueIDs (k : Kind) (c : Cloud) : Prop where
  nodup : ((labelled k c).map Prod.fst).Nodup
  used : ∀ x ∈ labelled k c, Used x.1 c

namespace UniqueIDs

theorem sublist (h : UniqueIDs k c) (hi : Issues c c')
    (hsub : (labelled k c').Sublist (labelled k c)) :
    UniqueIDs k c' := by
  refine ⟨h.nodup.sublist (hsub.map Prod.fst), fun x hx => ?_⟩
  exact (h.used x (hsub.subset hx)).issues hi

theorem append (h : UniqueIDs k c) (hids : c'.ids = c.ids) (hissued : c'.issued = c.issued + 1)
    (hnew : labelled k c' = labelled k c ++ [(c.ids.newID c.issued, L)]) : UniqueIDs k c' := by
  have hi : Issues c c' := ⟨hids, by omega⟩
  refine ⟨?_, fun x hx => ?_⟩
  · rw [hnew, List.map_append, List.nodup_append]
    refine ⟨h.nodup, by simp, fun a ha b hb => ?_⟩
    obtain ⟨x, hx, rfl⟩ := List.mem_map.1 ha
    obtain rfl : b = c.ids.newID c.issued := by simpa using hb
    exact h.used x hx c.issued (Nat.le_refl _)
  · rw [hnew, List.mem_append, List.mem_singleton] at hx
    rcases hx with hx | rfl
    · exact (h.used x hx).issues hi
    · intro n hn heq
      rw [hids] at heq
      have hn' : c.issued = n := c.ids.injective heq
      omega

theorem eq (h : UniqueIDs k c) {x y : String × StringMap} (hx : x ∈ labelled k c)
    (hy : y ∈ labelled k c) (hid : x.1 = y.1) : x = y := List.inj_on_of_nodup_map h.nodup hx hy hid

theorem not_mem_tagged (h : UniqueIDs k c) (hx : (id, L) ∈ labelled k c)
    (hL : labelsContainTags L T = false) :
    id ∉ tagged k T c := by
  intro hid
  obtain ⟨L', hx', hL'⟩ := mem_tagged.1 hid
  obtain rfl : L = L' := congrArg Prod.snd (h.eq hx hx' rfl)
  rw [hL] at hL'
  cases hL'

end UniqueIDs

/-- A step that gives out IDs in order and keeps those of a kind distinct. -/
structure KeepsUnique (k : Kind) (c c' : Cloud) : Prop where
  issues : Issues c c'
  unique : UniqueIDs k c → UniqueIDs k c'

namespace KeepsUnique

theorem refl (k : Kind) (c : Cloud) : KeepsUnique k c c := ⟨.refl c, fun h => h⟩

theorem trans (h : KeepsUnique k c c') (h' : KeepsUnique k c' c'') : KeepsUnique k c c'' :=
  ⟨h.issues.trans h'.issues, fun hu => h'.unique (h.unique hu)⟩

theorem of_shrinks (hi : Issues c c') (hs : Shrinks c c') : KeepsUnique k c c' :=
  ⟨hi, fun h => h.sublist hi (hs k)⟩

theorem of_append (k' : Kind) (hids : c'.ids = c.ids) (hissued : c'.issued = c.issued + 1)
    (hnew : labelled k' c' = labelled k' c ++ [(c.ids.newID c.issued, L)])
    (hothers : ∀ k, k ≠ k' → labelled k c' = labelled k c) : KeepsUnique k c c' := by
  have hi : Issues c c' := ⟨hids, by omega⟩
  refine ⟨hi, fun h => ?_⟩
  by_cases hk : k = k'
  · subst hk
    exact h.append hids hissued hnew
  · exact h.sublist hi (by rw [hothers k hk])

end KeepsUnique

/-! ### Requests -/

theorem keepsUnique_createServer (k : Kind) (p : CreateServerPayload) (c : Cloud) :
    KeepsUnique k c (Cloud.createServer p c).2 := by
  refine .of_append .server (L := p.labels) rfl rfl (by simp [Cloud.createServer, labelled])
    fun k hk => ?_
  cases k <;> first | rfl | exact absurd rfl hk

theorem keepsUnique_createPublicIP (k : Kind) (L : StringMap) (c : Cloud) :
    KeepsUnique k c (Cloud.createPublicIP L c).2 := by
  refine .of_append .publicIP (L := L) rfl rfl (by simp [Cloud.createPublicIP, labelled])
    fun k hk => ?_
  cases k <;> first | rfl | exact absurd rfl hk

theorem keepsUnique_createSecurityGroup (k : Kind) (name description : String) (L : StringMap)
    (c : Cloud) :
    KeepsUnique k c (Cloud.createSecurityGroup name description L c).2 := by
  refine .of_append .securityGroup (L := L) rfl rfl (by simp [Cloud.createSecurityGroup, labelled])
    fun k hk => ?_
  cases k <;> first | rfl | exact absurd rfl hk

theorem issues_createSecurityGroupRule (groupID : String) (p : SDKRulePayload) (c : Cloud) :
    Issues c (Cloud.createSecurityGroupRule groupID p c).2 := by
  unfold Cloud.createSecurityGroupRule
  split
  · exact ⟨rfl, Nat.le_succ _⟩
  · exact .refl c

namespace SDKClient

theorem cleanupClosed_issues : CleanupClosed Issues where
  refl := .refl
  trans := .trans
  deleteServer id c := by unfold Cloud.deleteServer; split <;> exact ⟨rfl, Nat.le_refl _⟩
  deletePublicIP id c := by unfold Cloud.deletePublicIP; split <;> exact ⟨rfl, Nat.le_refl _⟩
  deleteSecurityGroup id c := by
    unfold Cloud.deleteSecurityGroup; split <;> exact ⟨rfl, Nat.le_refl _⟩
  removePublicIpFromServer s p c := by
    unfold Cloud.removePublicIpFromServer; split <;> exact ⟨rfl, Nat.le_refl _⟩
  removeSecurityGroupFromServer s g c := by
    unfold Cloud.removeSecurityGroupFromServer; split <;> exact ⟨rfl, Nat.le_refl _⟩
  deleteSecurityGroupRule g r c := by
    unfold Cloud.deleteSecurityGroupRule
    split
    · split <;> exact ⟨rfl, Nat.le_refl _⟩
    · exact .refl c

/-- Whatever is done about a bastion, IDs stay unique. -/
theorem bastionClosed_keepsUnique (k : Kind) : BastionClosed (KeepsUnique k) where
  refl := .refl k
  trans := .trans
  deleteServer id c :=
    .of_shrinks (cleanupClosed_issues.deleteServer id c) (cleanupClosed_shrinks.deleteServer id c)
  deletePublicIP id c :=
    .of_shrinks (cleanupClosed_issues.deletePublicIP id c)
    (cleanupClosed_shrinks.deletePublicIP id c)
  deleteSecurityGroup id c :=
    .of_shrinks (cleanupClosed_issues.deleteSecurityGroup id c)
      (cleanupClosed_shrinks.deleteSecurityGroup id c)
  removePublicIpFromServer s p c :=
    .of_shrinks (cleanupClosed_issues.removePublicIpFromServer s p c)
      (cleanupClosed_shrinks.removePublicIpFromServer s p c)
  removeSecurityGroupFromServer s g c :=
    .of_shrinks (cleanupClosed_issues.removeSecurityGroupFromServer s g c)
    (cleanupClosed_shrinks.removeSecurityGroupFromServer s g c)
  deleteSecurityGroupRule g r c :=
    .of_shrinks (cleanupClosed_issues.deleteSecurityGroupRule g r c)
      (cleanupClosed_shrinks.deleteSecurityGroupRule g r c)
  createServer := keepsUnique_createServer k
  createPublicIP := keepsUnique_createPublicIP k
  createSecurityGroup := keepsUnique_createSecurityGroup k
  createSecurityGroupRule g p c :=
    .of_shrinks (issues_createSecurityGroupRule g p c)
      (SameResources.createSecurityGroupRule g p c).shrinks
  addPublicIpToServer s p c := by
    refine .of_shrinks ?_ (SameResources.addPublicIpToServer s p c).shrinks
    unfold Cloud.addPublicIpToServer
    split
    · split <;> exact ⟨rfl, Nat.le_refl _⟩
    · exact .refl c
  addSecurityGroupToServer s g c := by
    refine .of_shrinks ?_ (SameResources.addSecurityGroupToServer s g c).shrinks
    unfold Cloud.addSecurityGroupToServer
    split
    · split
      · exact .refl c
      · split <;> exact ⟨rfl, Nat.le_refl _⟩
    · exact .refl c

end SDKClient

end Capstk
