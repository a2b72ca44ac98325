import Capstk.Lib.Sha256
import Capstk.Proofs.NodeSSH
import Capstk.Proofs.NodeSSHRace
import Capstk.Proofs.Repeats
import Capstk.Proofs.Sole

/-!
# The deletion of a cluster finishes

A deletion looks its resources up by tags where the status knows no ID, and an ambiguous look-up
would stop it for good. It never is, since at most one resource of each kind is ever made for a
cluster (`Sole`). So one pass whose requests are answered takes everything away and drops the
finalizer, whatever happened before.
-/

namespace Capstk

open Prog SDKClient

variable {m : ClusterIdentity} {c c' : Cloud} {s : Session} {T : StringMap}

namespace SDKClient

theorem wp_when_answered {b : Bool} {x : Call Session Unit} (hs : Answered s)
    (hx : ∀ t, Answered t → wp x (Succeeds fun _ _ => True) t) :
    wp (when' b x) (Succeeds fun _ _ => True) s :=
  wp_ite (fun _ => hx s hs) fun _ => wp_succeeds_pure hs trivial

theorem wp_deleteSecurityGroup_answered (id : String) (hs : Answered s) :
    wp (deleteSecurityGroup id) (Succeeds fun _ _ => True) s :=
  wp_succeeds_bind (wp_deleteSecurityGroupRules_answered hs) fun _ _ ht _ =>
    (onlyMissing_ite : OnlyMissing (Cloud.deleteSecurityGroup id)).succeeds (fun _ h => h) ht

theorem wp_forEach_answered {β : Type} {l : List β} {f : β → Call Session Unit}
    (hf : ∀ b t, Answered t → wp (f b) (Succeeds fun _ _ => True) t) (hs : Answered s) :
    wp (forEach l f) (Succeeds fun _ _ => True) s := by
  induction l generalizing s with
  | nil => exact wp_succeeds_pure hs trivial
  | cons b bs ih => exact wp_succeeds_bind (hf b s hs) fun _ _ ht _ => ih ht

theorem wp_idOrFind_answered {β : Type} {k : Kind} {recorded : String} {ident : β → String}
    {find : Call Session β} (hs : Answered s) (hfind : wp find FoundOrNone s)
    (hsame : wp find (Found k T ident s) s) :
    wp (idOrFind recorded (do pure (ident (← find))))
      (Succeeds fun _ t => t.cloud = s.cloud) s := by
  refine wp_ite (fun _ => ?_) fun _ => wp_succeeds_pure hs rfl
  refine wp_foundID_of (hfind.and hsame) (fun a t h => ⟨h.1.1, _, rfl, h.2.1⟩)
    (fun e t h _ => ⟨h.1.1, _, rfl, h.2.1⟩) fun e t h hnot => ?_
  rw [h.1.2 e rfl] at hnot
  cases hnot

theorem wp_findPublicIPByTags_answered (hs : Answered s) (hT : T.entries.isEmpty = false)
    (hone : (tagged .publicIP T s.cloud).length ≤ 1) : wp (findPublicIPByTags T) FoundOrNone s :=
  wp_find_answered Cloud.publicIPs SDKPublicIP.labels publicIPFromSDK PublicIP.id (fun _ => rfl)
    (fun _ => rfl) hs hT hone

theorem wp_findSecurityGroupByTags_answered (hs : Answered s) (hT : T.entries.isEmpty = false)
    (hone : (tagged .securityGroup T s.cloud).length ≤ 1) :
    wp (findSecurityGroupByTags T) FoundOrNone s :=
  wp_find_answered Cloud.securityGroups SDKSecurityGroup.labels securityGroupFromSDK
    SecurityGroup.id (fun _ => rfl)
    (fun _ => rfl) hs hT hone

theorem wp_findNetworkByTags_answered (hs : Answered s) (hT : T.entries.isEmpty = false)
    (hone : (tagged .network T s.cloud).length ≤ 1) : wp (findNetworkByTags T) FoundOrNone s :=
  wp_find_answered Cloud.networks SDKNetwork.labels networkFromSDK Network.id (fun _ => rfl)
    (fun _ => rfl) hs hT hone

theorem wp_deleteBastion_answered {input : BastionInput} {status : Bastion} (hs : Answered s)
    (hT : input.tags.entries.isEmpty = false)
    (hone : ∀ k, IsBastionKind k → (tagged k input.tags s.cloud).length ≤ 1) :
    wp (deleteBastion input status) (Succeeds fun _ _ => True) s := by
  have hexpected : ∀ e, isNotFound e = true → (isNotFound e || isConflict e) = true :=
    fun e h => by rw [h]; rfl
  unfold deleteBastion
  refine wp_succeeds_bind
    (wp_idOrFind_answered hs (wp_findServerByTags_answered hs hT (hone .server trivial))
    (wp_findServerByTags _ s)) fun serverID s₁ h₁ hc₁ => ?_
  refine wp_succeeds_bind
    (wp_idOrFind_answered h₁ (wp_findPublicIPByTags_answered h₁ hT (hc₁ ▸ hone .publicIP trivial))
    (wp_findPublicIPByTags _ s₁)) fun publicIPID s₂ h₂ hc₂ => ?_
  refine wp_succeeds_bind (wp_idOrFind_answered h₂ (wp_findSecurityGroupByTags_answered h₂ hT
    (hc₂.trans hc₁ ▸ hone .securityGroup trivial)) (wp_findSecurityGroupByTags _ s₂))
    fun securityGroupID s₃ h₃ _ => ?_
  refine wp_succeeds_bind (wp_when_answered h₃ fun t ht =>
    (onlyMissing_removePublicIpFromServer _ _).succeeds hexpected ht) fun _ s₄ h₄ _ => ?_
  refine wp_succeeds_bind (wp_when_answered h₄ fun t ht =>
    (onlyMissing_removeSecurityGroupFromServer _ _).succeeds hexpected ht) fun _ s₅ h₅ _ => ?_
  refine wp_succeeds_bind (wp_when_answered h₅ fun t ht => (onlyMissing_deleteServer _).succeeds
    (fun _ h => h) ht) fun _ s₆ h₆ _ => ?_
  refine wp_succeeds_bind (wp_when_answered h₆ fun t ht =>
    (onlyMissing_ite : OnlyMissing (Cloud.deletePublicIP _)).succeeds (fun _ h => h) ht)
      fun _ s₇ h₇ _ => ?_
  exact wp_when_answered h₇ fun t ht => wp_deleteSecurityGroup_answered _ ht

theorem wp_deleteNodeSSHAccess_answered (hs : Answered s) (hT : T.entries.isEmpty = false)
    (hselector : (clusterServerSelectorFromTags T).entries.isEmpty = false)
    (hone : (tagged .securityGroup T s.cloud).length ≤ 1) :
    wp (deleteNodeSSHAccess T) (Succeeds fun _ _ => True) s := by
  have hexpected : ∀ e, isNotFound e = true → (isNotFound e || isConflict e) = true :=
    fun e h => by rw [h]; rfl
  unfold deleteNodeSSHAccess
  rw [wp_attempt_bind]
  refine (wp_findSecurityGroupByTags_answered hs hT hone).imp fun r t ⟨ht, hr⟩ => ?_
  cases r with
  | error e =>
    exact wp_ite (fun _ => wp_succeeds_pure ht trivial) fun hnot => absurd (hr e rfl) hnot
  | ok group =>
    refine wp_succeeds_bind (wp_listServersByTags_answered ht hselector) fun servers u hu _ => ?_
    refine wp_succeeds_bind (wp_forEach_answered (fun server v hv =>
      (onlyMissing_removeSecurityGroupFromServer server.id _).succeeds hexpected hv) hu)
        fun _ v hv _ => ?_
    exact wp_deleteSecurityGroup_answered _ hv

end SDKClient

/-! ### The deletion of a cluster -/

theorem StackitCluster.tags_nonempty (sc : StackitCluster) : sc.tags.entries.isEmpty = false :=
  StringMap.isEmpty_entries_of_lookup (clusterTags_managedBy _ _ _)

namespace ClusterReconciler
variable {p : Pass StackitCluster Session} {sc : StackitCluster}

theorem wp_resolveLoadBalancerID_answered (hs : Answered s) (hT : DistinctRewrites sc.tags)
    (hone : (taggedLBs sc.tags s.cloud).length ≤ 1) :
    wp (resolveLoadBalancerID sdkClient sc) (Succeeds fun _ _ => True) s := by
  have hlength : (loadBalancersOf sc.tags s.cloud).length ≤ 1 := by
    simpa [loadBalancersOf, taggedLBs, labelled, List.filter_map, Function.comp_def] using hone
  have hlist : wp (sdkClient.listAPIServerLoadBalancersByTags sc.tags)
      (Succeeds fun lbs _ => lbs.length ≤ 1) s :=
    ((repeats_listLoadBalancers hT).requireTags sc.tags_nonempty).wp hs rfl fun t ht =>
      ⟨ht.answered, _, rfl, hlength⟩
  refine wp_resolveLoadBalancerID (fun _ => wp_succeeds_pure hs trivial) hlist
    (fun t ht => ⟨ht.1, _, rfl, trivial⟩) (fun l t ht => ⟨ht.1, _, rfl, trivial⟩) ?_ ?_
  · rintro l l' ls t ⟨-, lbs, hlbs, hle⟩ e
    cases hlbs
    simp at hle
  · rintro e t ⟨-, _, he, -⟩
    cases he

theorem wp_resolveManagedNetworkID_answered (hs : Answered s)
    (hone : (tagged .network sc.tags s.cloud).length ≤ 1) :
    wp (resolveManagedNetworkID sdkClient sc) (Succeeds fun _ _ => True) s := by
  refine wp_resolveManagedNetworkID (fun _ => wp_succeeds_pure hs trivial)
    (fun _ _ => wp_succeeds_pure hs trivial)
    (wp_findNetworkByTags_answered hs sc.tags_nonempty hone)
    (fun _ n t ht => ⟨ht.1, _, rfl, trivial⟩) (fun e t ht _ => ⟨ht.1, _, rfl, trivial⟩)
    fun e t ht hnf => ?_
  rw [ht.2 e rfl] at hnf
  cases hnf

theorem wp_call_answered {α β : Type} {x : Call Session α} {f : α → Step Session β}
    {P : α → Session → Prop} {Q : Except GoError β → Pass StackitCluster Session → Prop}
    (hx : wp x (Succeeds P) p.cloud)
    (hf : ∀ a t, Answered t → P a t → wp (f a) Q { p with cloud := t }) :
    wp (Pass.call x >>= f) Q p := by
  rw [Pass.wp_call_bind]
  refine hx.imp fun r t ⟨ht, a, hr, ha⟩ => ?_
  subst hr
  exact hf a t ht ha

theorem wp_deleteLoadBalancer_answered (hs : Answered p.cloud) (hT : DistinctRewrites p.obj.tags)
    (hone : (taggedLBs p.obj.tags p.cloud.cloud).length ≤ 1) :
    wp (deleteLoadBalancer sdkClient) (fun r q => Answered q.cloud ∧ r = .ok ()) p := by
  unfold deleteLoadBalancer
  rw [Pass.wp_getObj_bind]
  refine wp_call_answered (wp_resolveLoadBalancerID_answered hs hT hone) fun id t ht _ => ?_
  refine wp_ite (fun _ => ⟨ht, rfl⟩) fun _ => ?_
  refine wp_call_answered ((onlyMissing_ite : OnlyMissing (Cloud.deleteLoadBalancer id)).succeeds
    (fun _ h => h) ht) ?_
  exact fun _ u hu _ => ⟨hu, rfl⟩

theorem wp_tolerate_answered {expected : GoError → Bool} {x : Call Session Unit}
    {P : Session → Prop} (hx : wp x (Succeeds fun _ => P) s) :
    wp (tolerate expected x) (Succeeds fun _ => P) s := by
  refine wp_tolerate_of hx (fun r t ⟨ht, _, _, hP⟩ _ => ⟨ht, (), rfl, hP⟩)
    fun e t ⟨_, a, hr, _⟩ _ => ?_
  cases hr

theorem wp_deleteBastion_answered (hs : Answered p.cloud) (hone : Sole (.of p.obj) p.cloud.cloud) :
    wp (deleteBastion sdkClient) (fun r q => Answered q.cloud ∧ r = .ok ()) p := by
  unfold deleteBastion
  rw [Pass.wp_getObj_bind]
  have hssh : wp (SDKClient.deleteNodeSSHAccess (nodeSSHAccessTags p.obj))
      (Succeeds fun _ t => Shrinks p.cloud.cloud t.cloud) p.cloud :=
    wp_succeeds_and (wp_deleteNodeSSHAccess_answered hs (Stepwise.nodeSSHAccessTags_nonempty p.obj)
      (Stepwise.nodeSSHSelector_nonempty p.obj)
      hone.nodeSSH) (SDKClient.wp_deleteNodeSSHAccess _ p.cloud) fun _ _ h => h.1
  refine wp_call_answered (wp_tolerate_answered hssh) fun _ t ht hshrinks => ?_
  have htags : (bastionTags p.obj).entries.isEmpty = false :=
    StringMap.isEmpty_entries_of_lookup (AList.lookup_insert _)
  refine wp_call_answered (wp_tolerate_answered (SDKClient.wp_deleteBastion_answered ht htags
    (hone.shrinks hshrinks).bastion)) fun _ u hu _ => ?_
  exact wp_ite (fun _ => ⟨hu, rfl⟩) fun _ => ⟨hu, rfl⟩

theorem wp_deleteManagedNetwork_answered (hs : Answered p.cloud)
    (hone : (tagged .network p.obj.tags p.cloud.cloud).length ≤ 1) :
    wp (deleteManagedNetwork sdkClient) (fun r q => Answered q.cloud ∧ r = .ok none) p := by
  unfold deleteManagedNetwork
  rw [Pass.wp_getObj_bind]
  refine wp_call_answered (wp_resolveManagedNetworkID_answered hs hone) fun id t ht _ => ?_
  refine wp_ite (fun _ => ⟨ht, rfl⟩) fun _ => ?_
  rw [Pass.wp_attempt_call_bind]
  refine ((onlyMissing_ite : OnlyMissing (Cloud.deleteNetwork id)).succeeds (fun _ h => h) ht).imp
    ?_
  rintro r u ⟨hu, _, rfl, -⟩
  exact ⟨hu, rfl⟩

/-- Without failures a deletion goes through. -/
theorem wp_deleteResources_answered (hs : Answered p.cloud) (hT : DistinctRewrites p.obj.tags)
    (hone : Sole (.of p.obj) p.cloud.cloud) :
    wp (deleteResources sdkClient)
      (fun r q => r = .ok {} ∧ q.stored = p.stored ∧ q.patches = p.patches ∧
        q.obj.metadata = removeFinalizer p.obj.metadata clusterFinalizer) p := by
  unfold deleteResources
  rw [wp_bind]
  refine ((wp_deleteLoadBalancer_answered hs hT hone.loadBalancer).and wp_deleteLoadBalancer).imp ?_
  rintro r q₁ ⟨⟨h₁, rfl⟩, hq₁, -⟩
  have hone₁ : Sole (.of q₁.obj) q₁.cloud.cloud := hq₁.identity ▸ hone.shrinks hq₁.cloud
  rw [next_ok, wp_bind]
  refine ((wp_deleteBastion_answered h₁ hone₁).and wp_deleteBastion).imp ?_
  rintro r q₂ ⟨⟨h₂, rfl⟩, hq₂, -⟩
  have hone₂ : Sole (.of q₂.obj) q₂.cloud.cloud := hq₂.identity ▸ hone₁.shrinks hq₂.cloud
  rw [next_ok, wp_bind]
  refine ((wp_deleteManagedNetwork_answered h₂ hone₂.network).and wp_deleteManagedNetwork).imp ?_
  rintro r q₃ ⟨⟨h₃, rfl⟩, hq₃, -⟩
  have hall := (hq₁.trans hq₂).trans hq₃
  exact ⟨rfl, hall.stored, hall.patches, by rw [← hall.metadata]; rfl⟩

theorem wp_reconcileDelete_answered {env : Env Session} {cluster : Cluster} (hs : Answered p.cloud)
    (hT : DistinctRewrites p.obj.tags) (hone : Sole (.of p.obj) p.cloud.cloud)
    (hmachines : env.machines = .ok [])
    (hclient : buildCloudClient env.source p.obj = .ok sdkClient) :
    wp (reconcileDelete env cluster)
      (fun r q => r = .ok {} ∧ q.stored = p.stored ∧ q.patches = p.patches ∧
        q.obj.metadata = removeFinalizer p.obj.metadata clusterFinalizer) p := by
  refine wp_reconcileDelete (fun hsome => absurd hmachines hsome) (fun _ hbad => ?_)
    (fun _ hbad => ?_) fun client hclient' => ?_
  · cases hclient.symm.trans hbad
  · cases hclient.symm.trans hbad
  · cases hclient.symm.trans hclient'
    exact wp_deleteResources_answered hs hT hone

/-- A pass that finds its objects and whose patches are applied. -/
theorem wp_reconcile_applied {answers : Answers} {env : Env Session} {cluster : Cluster}
    {Q : Except GoError Result → Pass StackitCluster Session → Prop}
    (hgone : ObjectMeta.gone p.stored.metadata = false) (hobject : answers.getStackitCluster = none)
    (howner : answers.getOwnerCluster = .ok (some cluster))
    (hhelper : answers.newPatchHelper = none)
    (h : wp (reconcileScope env cluster) (fun r q => q.patches = [] ∧
      Q r { q with stored := Pass.deliver {} q.obj q.stored, patches := q.patches.tail })
      { p with obj := p.stored }) :
    wp (reconcile answers env) Q p := by
  refine wp_reconcile
    (fun hno _ => absurd ⟨hgone, hobject, howner, hhelper⟩ (hno cluster)) fun cluster' hscope => ?_
  cases hscope.owner.symm.trans howner
  refine Pass.wp_withDeferredPatch (h.imp ?_)
  rintro r q ⟨hpatches, hQ⟩ o r' ho hr'
  have happlied : o = {} := by rw [ho, hpatches]; rfl
  subst happlied
  rcases hr' with ⟨rfl, -⟩ | ⟨-, hfailed⟩
  · exact hQ
  · cases hfailed

end ClusterReconciler

/-! ### Runs -/

namespace ClusterWorld
variable {w : ClusterWorld} {as : List ClusterAction} {answers : ClusterReconciler.Answers}
  {env : ClusterReconciler.Env Session}
  {cluster : Cluster}

/-- A pass gets to work: it finds the objects and the credentials, and nothing is paused. -/
structure Attended (w : ClusterWorld) (answers : ClusterReconciler.Answers)
    (env : ClusterReconciler.Env Session) (cluster : Cluster) :
    Prop where
  object : answers.getStackitCluster = none
  owner : answers.getOwnerCluster = .ok (some cluster)
  helper : answers.newPatchHelper = none
  unpaused : reconciliationPaused (some cluster) w.stored.metadata = none
  source : SourceOk env.source w.stored
  client : buildCloudClient env.source w.stored = .ok sdkClient

open ClusterReconciler in
theorem Attended.deleting_pass (orders : List MapOrder) (hT : DistinctRewrites m.tags)
    (h : Definite m w) (hp : Attended w answers env cluster) (hmachines : env.machines = .ok [])
    (hdel : w.stored.metadata.deleting = true) (hgone : ObjectMeta.gone w.stored.metadata = false) :
    wp (reconcile answers env) (fun r q => r = .ok {} ∧
      q.stored.metadata = removeFinalizer w.stored.metadata clusterFinalizer)
      (w.begin [] [] orders) := by
  have hid := h.accounted.stored.identity
  subst hid
  have hpaused : reconciliationPaused (some cluster) (w.begin [] [] orders).stored.metadata =
      none := hp.unpaused
  have hdel' : (w.begin [] [] orders).stored.metadata.deleting = true := hdel
  refine wp_reconcile_applied hgone hp.object hp.owner hp.helper ?_
  refine wp_reconcileScope (fun hbad => absurd hpaused hbad) (fun _ _ => ?_)
    fun _ halive => by cases halive.symm.trans hdel'
  refine (wp_reconcileDelete_answered ?_ ?_ ?_ hmachines ?_).imp ?_
  · exact rfl
  · exact hT
  · exact h.sole
  · exact hp.client
  rintro r q ⟨rfl, hstored, hpatches, hmeta⟩
  refine ⟨hpatches, rfl, ?_⟩
  show { q.stored.metadata with finalizers := q.obj.metadata.finalizers } = _
  rw [hstored, hmeta]
  rfl

def sampleOwner : Cluster :=
  { metadata := { name := "c", namespace' := "ns" }, infrastructureRef := { name := "c" } }

def sampleFound : ClusterReconciler.Answers := { getOwnerCluster := .ok (some sampleOwner) }

def sampleEnv : ClusterReconciler.Env Session where
  source := .connected
  getConfigMap _ := .error ⟨none, "not found"⟩
  machines := .ok []
  controlPlaneMachines := .ok []
  sha256Hex := Sha256.hex

theorem sample_attended (hpaused : reconciliationPaused (some sampleOwner) w.stored.metadata = none)
    (hproject : w.stored.spec.projectID = sampleUUID) :
    Attended w sampleFound sampleEnv sampleOwner := by
  refine ⟨rfl, rfl, rfl, hpaused, .connected _, ?_⟩
  unfold buildCloudClient parseCredentialsSecret
  simp only [hproject]
  rfl

end ClusterWorld

end Capstk
