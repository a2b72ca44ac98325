import Capstk.Proofs.ClusterDelete
import Capstk.Webhook

/-!
# One bastion for a cluster

The bastion of a cluster is found by all of its tags, and the additional labels are among them. The
base tags (`bastionBaseTags`) are those that never change; a resource that carries them was created
for the cluster, whatever its labels were then. As long as no request fails and no patch is lost the
status names all of them (`Single`), unless a pass looks for a bastion by other tags than it was
created with (`TagsSettled`).
-/

namespace Capstk

open Prog SDKClient ClusterReconciler

variable {B T : StringMap} {c c' : Cloud} {p q : Pass StackitCluster Session}

/-! ### Base tags -/

/-- The tags of a bastion that do not depend on the additional labels. -/
def bastionBaseTags (sc : StackitCluster) : StringMap :=
  (clusterTags sc.metadata.name sc.metadata.namespace' ∅).insert labelResourceRole
    resourceRoleBastion

theorem clusterTags_empty_sub (name namespace' : String) (labels : StringMap) :
    (clusterTags name namespace' ∅).Sub (clusterTags name namespace' labels) := by
  intro k v hk
  rw [clusterTags, StringMap.lookup_addMissing, AList.lookup_empty, Option.or_none] at hk
  exact StringMap.Sub.addMissing k v hk

theorem bastionBaseTags_sub (sc : StackitCluster) : (bastionBaseTags sc).Sub (bastionTags sc) :=
  (clusterTags_empty_sub _ _ _).insert _ _

theorem tagged_sub (h : B.Sub T) (k : Kind) (c : Cloud) :
    (tagged k T c).Sublist (tagged k B c) := by
  refine (List.monotone_filter_right _ fun x hx => ?_).map _
  exact labelsContainTags_iff.2 (h.trans (labelsContainTags_iff.1 hx))

/-- Every bastion resource that carries the tags `B` carries the tags `T`. -/
def TagsSettled (B T : StringMap) (c : Cloud) : Prop :=
  ∀ k, IsBastionKind k → ∀ x ∈ labelled k c, labelsContainTags x.2 B = true →
    labelsContainTags x.2 T = true

namespace TagsSettled

theorem of_same (h : TagsSettled B T c) (hs : ∀ k, IsBastionKind k → labelled k c' = labelled k c) :
    TagsSettled B T c' :=
  fun k hk x hx => h k hk x (hs k hk ▸ hx)

theorem addsFirst (h : TagsSettled B T c) (hadds : AddsFirst IsBastionKind T c c') :
    TagsSettled B T c' := by
  intro k hk x hx hB
  rcases hadds.mem hx with hold | ⟨-, -, hnew⟩
  · exact h k hk x hold hB
  · rw [hnew]; exact labelsContainTags_self T

theorem tagged_eq (h : TagsSettled B T c) (hsub : B.Sub T) {k : Kind} (hk : IsBastionKind k) :
    tagged k B c = tagged k T c := by
  refine congrArg (List.map Prod.fst) (List.filter_congr fun x hx => ?_)
  rw [Bool.eq_iff_iff]
  exact ⟨h k hk x hx, fun hT => labelsContainTags_iff.2 (hsub.trans (labelsContainTags_iff.1 hT))⟩

end TagsSettled

/-! ### One bastion, and the status names it -/

structure OneBastion (B : StringMap) (status : StackitBastionStatus) (c : Cloud) : Prop where
  names : BastionNames (recordedBastion status) B c
  one : ∀ k, IsBastionKind k → (tagged k B c).length ≤ 1

namespace OneBastion
variable {status : StackitBastionStatus}

theorem shrinks (h : OneBastion B status c) (hs : Shrinks c c') : OneBastion B status c' :=
  ⟨h.names.shrinks hs, fun k hk => (hs.tagged k B).length_le.trans (h.one k hk)⟩

theorem sublist (h : OneBastion B status c)
    (hs : ∀ k, IsBastionKind k → (tagged k B c').Sublist (tagged k B c)) : OneBastion B status c' :=
  ⟨⟨h.names.server.sublist (hs _ trivial), h.names.publicIP.sublist (hs _ trivial),
    h.names.securityGroup.sublist (hs _ trivial)⟩, fun k hk =>
    (hs k hk).length_le.trans (h.one k hk)⟩

theorem of_same (h : OneBastion B status c)
    (hs : ∀ k, IsBastionKind k → labelled k c' = labelled k c) :
    OneBastion B status c' := h.sublist fun k hk => by rw [tagged, hs k hk]; exact .refl _

theorem of_gone (h : BastionGone B c) (status : StackitBastionStatus) : OneBastion B status c := by
  refine ⟨h.names _, fun k hk => ?_⟩
  rw [h.nil k hk]; simp

theorem named (h : OneBastion B status c) : ∀ k, IsBastionKind k → "" ∉ tagged k B c := by
  have hnames : ∀ {id : String} {ids : List String}, Names id ids → "" ∉ ids := fun hn hmem => by
    rw [hn.empty (hn.only _ hmem).symm] at hmem
    simp at hmem
  exact IsBastionKind.cases (hnames h.names.server) (hnames h.names.publicIP)
    (hnames h.names.securityGroup)

/-- `EnsureBastion` finds the bastion that is there, or makes the first one. -/
theorem ensured {b : Bastion} (h : OneBastion B status c) (hsub : B.Sub T)
    (hset : TagsSettled B T c) (hadds : AddsFirst IsBastionKind T c c') (his : BastionIs b T c')
    {status' : StackitBastionStatus}
    (hstatus : recordedBastion status' = { b with serverState := "", serverPowerStatus := "" }) :
    OneBastion B status' c' := by
  have heq : ∀ k, IsBastionKind k → tagged k B c' = tagged k T c' :=
    fun k hk => (hset.addsFirst hadds).tagged_eq hsub hk
  have hone : ∀ {k : Kind} {id : String}, IsBastionKind k → tagged k T c' = [id] →
      Names id (tagged k B c') := by
    intro k id hk hid
    rw [heq k hk, hid]
    refine ⟨fun x hx => by simpa using hx, fun h0 => absurd ?_ (h.named k hk)⟩
    -- a new resource has an ID, so one without was there before
    obtain ⟨labels, hx, hT⟩ := mem_tagged.1 (show "" ∈ tagged k T c' by rw [hid, h0]; simp)
    rcases hadds.mem hx with hold | ⟨-, hne, -⟩
    · exact (tagged_sub hsub k c).subset (mem_tagged.2 ⟨labels, hold, hT⟩)
    · exact absurd rfl hne
  refine ⟨hstatus ▸ ⟨hone trivial his.server, hone trivial his.publicIP,
    hone trivial his.securityGroup⟩, fun k hk => ?_⟩
  rw [heq k hk]
  revert k hk
  refine IsBastionKind.cases ?_ ?_ ?_
  · rw [his.server]; simp
  · rw [his.publicIP]; simp
  · rw [his.securityGroup]; simp

theorem normalStep (h : OneBastion B p.obj.status.bastion p.cloud.cloud)
    (hsub : B.Sub (bastionTags p.obj)) (hans : Answered p.cloud)
    (hset : p.obj.spec.bastion.enabled = true → TagsSettled B (bastionTags p.obj) p.cloud.cloud)
    (hstep : NormalStep p q) :
    OneBastion B q.obj.status.bastion q.cloud.cloud := by
  cases hstep with
  | stopped hsame => rw [hsame.bastionStatus]; exact h.of_same hsame.resources
  | reached mid first second kept =>
    have hmid : OneBastion B mid.obj.status.bastion mid.cloud.cloud :=
      first.bastionStatus ▸ h.of_same first.resources
    have hsub' : B.Sub (bastionTags mid.obj) := (Alike.of_same first).tags ▸ hsub
    cases second with
    | untouched status cloud skipped => rw [status, cloud]; exact hmid
    | cleanupFailed status cloud skipped => rw [status]; exact hmid.shrinks cloud
    | cleaned status cloud gone skipped => exact .of_gone (gone B (cleanable_names hmid.names)) _
    | ensureFailed enabled status cloud skipped =>
      rw [status, cloud.answered (first.answered hans)
        (fun k hk => (tagged_sub hsub' k _).length_le.trans (hmid.one k hk))
        fun k hk hmem => hmid.named k hk ((tagged_sub hsub' k _).subset hmem)]
      exact hmid
    | ensured enabled b status cloud current skipped =>
      have hset' : TagsSettled B (bastionTags mid.obj) mid.cloud.cloud := by
        rw [(Alike.of_same first).tags]
        exact (hset (first.bastionSpec ▸ enabled)).of_same first.resources
      exact hmid.ensured hsub' hset' cloud current status

end OneBastion

/-! ### Runs -/

/-- When all three patches are applied, the stored object is the copy. -/
theorem deliver_applied (o o' : StackitCluster) :
    Pass.deliver {} o o' = { o with
      metadata := { o'.metadata with finalizers := o.metadata.finalizers } } := rfl

namespace ClusterWorld
variable {w : ClusterWorld}

/-- The invariant: one bastion at most, and none without the finalizer. -/
structure Unique (B : StringMap) (w : ClusterWorld) : Prop where
  base : bastionBaseTags w.stored = B
  one : OneBastion B w.stored.status.bastion w.cloud
  finalizer : containsFinalizer w.stored.metadata clusterFinalizer = false → BastionGone B w.cloud

variable {answers : Answers} {env : Env Session} {orders : List MapOrder}

theorem Unique.reconcileNormal (h : Unique B w) (hdel : w.stored.metadata.deleting = false)
    (hsrc : SourceOk env.source w.stored)
    (hset : w.stored.spec.bastion.enabled = true → TagsSettled B (bastionTags w.stored) w.cloud) :
    Unique B (w.step (.reconcile answers env [] [] orders)) := by
  cases passStep answers [] [] orders hdel hsrc with
  | idle heq => rw [heq]; exact h
  | ran p q o hobj hstored hcloud hout hpatches hfin hstep ho hstored' hcloud' =>
    have hkept := hstep.stored_patches
    have ho' : o = {} := by rw [ho, hkept.2, List.subset_nil.1 hpatches]; rfl
    have hw' : (w.step (.reconcile answers env [] [] orders)).stored =
        { q.obj with
          metadata := { q.stored.metadata with finalizers := q.obj.metadata.finalizers } } := by
      rw [hstored', ho', deliver_applied]
    refine ⟨?_, ?_, fun hnot => ?_⟩
    · rw [← h.base, hw', bastionBaseTags, bastionBaseTags, hkept.1, hstored.name,
        hstored.namespace']
    · rw [hw', hcloud']
      have hsub : B.Sub (bastionTags p.obj) := by
        rw [hobj.tags, ← h.base]; exact bastionBaseTags_sub _
      have hp : OneBastion B p.obj.status.bastion p.cloud.cloud := by
        rw [hobj.bastionStatus, hcloud]; exact h.one
      refine hp.normalStep hsub hout (fun hen => ?_) hstep
      rw [hobj.tags, hcloud]
      exact hset (hobj.bastionSpec ▸ hen)
    · rw [hw', containsFinalizer, hstep.metadata] at hnot
      rcases hfin with hhas | ⟨hmeta, hsame⟩
      · rw [containsFinalizer, hnot] at hhas
        cases hhas
      · rw [hmeta] at hnot
        rw [hcloud']
        exact (hcloud ▸ h.finalizer hnot).of_same hsame.resources

theorem Unique.reconcileDelete (h : Unique B w) (hdel : w.stored.metadata.deleting = true)
    (hsrc : SourceOk env.source w.stored) :
    Unique B (w.step (.reconcile answers env [] [] orders)) := by
  rcases deleteStep answers [] [] orders hdel hsrc
    with heq | ⟨p, q, hobj, hmeta, hstored, hpatches, hcloud, hstep, hw'⟩
  · rw [heq]; exact h
  have hp : OneBastion B p.obj.status.bastion p.cloud.cloud := by
    rw [hobj.bastionStatus, hcloud]; exact h.one
  rw [hw']
  cases hstep with
  | kept hpq =>
    rw [hpq.patches, hpatches]
    refine ⟨?_,
      ⟨hpq.names B hp.names, fun k hk => (hpq.cloud.tagged k B).length_le.trans (hp.one k hk)⟩,
      fun hnot => ?_⟩
    · rw [← h.base]
      show bastionBaseTags (Pass.deliver {} q.obj q.stored) = _
      rw [deliver_applied, bastionBaseTags, hpq.stored, hstored]; rfl
    · have hnot' : containsFinalizer q.obj.metadata clusterFinalizer = false := hnot
      rw [hpq.metadata, hmeta] at hnot'
      exact (hcloud ▸ h.finalizer hnot').shrinks hpq.cloud
  | finished mid hmid drop gone bastion =>
    have hgone : BastionGone B q.cloud.cloud := bastion B hp.names
    have hq : q.patches = [] ∧ q.stored = w.stored := by
      rw [drop]; exact ⟨hmid.patches.trans hpatches, hmid.stored.trans hstored⟩
    rw [hq.1]
    refine ⟨?_, .of_gone hgone _, fun _ => hgone⟩
    rw [← h.base]
    show bastionBaseTags (Pass.deliver {} q.obj q.stored) = _
    rw [deliver_applied, bastionBaseTags, hq.2]; rfl

/-- What happens: reconciles without failures and lost patches, updates that `ValidateUpdate`
admits, and nobody else makes bastions for the cluster. -/
def Admitted (rules : NameRules) (B : StringMap) (w : ClusterWorld) : ClusterAction → Prop
  | .reconcile _ env patches outcomes _ => SourceOk env.source w.stored ∧ patches = [] ∧
      outcomes = []
  | .requestDeletion => True
  | .updateSpec spec => Webhook.admitsClusterUpdate rules w.stored { w.stored with spec } = true
  | .cloudEvolves change => ∀ k, IsBastionKind k →
      (tagged k B (change w.cloud)).Sublist (tagged k B w.cloud)

/-- A pass with the bastion enabled starts with every bastion resource of the cluster carrying the
tags it now has. -/
def FindsByTags (B : StringMap) (w : ClusterWorld) : ClusterAction → Prop
  | .reconcile .. => w.stored.metadata.deleting = false → w.stored.spec.bastion.enabled = true →
    TagsSettled B (bastionTags w.stored) w.cloud
  | _ => True

theorem Unique.step {rules : NameRules} {a : ClusterAction} (h : Unique B w)
    (ha : Admitted rules B w a) (hset : FindsByTags B w a) : Unique B (w.step a) := by
  cases a with
  | reconcile answers env patches outcomes orders =>
    obtain ⟨hsrc, rfl, rfl⟩ := ha
    cases hdel : w.stored.metadata.deleting with
    | false => exact h.reconcileNormal hdel hsrc (hset hdel)
    | true => exact h.reconcileDelete hdel hsrc
  | requestDeletion => exact ⟨h.base, h.one, h.finalizer⟩
  | updateSpec spec => exact ⟨h.base, h.one, h.finalizer⟩
  | cloudEvolves change =>
    exact ⟨h.base, h.one.sublist ha, fun hnot => (h.finalizer hnot).sublist ha⟩

/-- **One bastion**, in every run in which it is found by the tags it has: at most one server,
public IP and security group, and none once the finalizer is gone. -/
theorem bastion_stays_unique {rules : NameRules} {as : List ClusterAction}
    (h₀ : BastionGone (bastionBaseTags w.stored) w.cloud)
    (has : Runs.Meets step (fun w' a => Admitted rules (bastionBaseTags w.stored) w' a ∧
      FindsByTags (bastionBaseTags w.stored) w' a) w as) :
    let w' := Runs.run step w as
    (∀ k, IsBastionKind k → (tagged k (bastionBaseTags w.stored) w'.cloud).length ≤ 1) ∧
      (containsFinalizer w'.stored.metadata clusterFinalizer = false →
        BastionGone (bastionBaseTags w.stored) w'.cloud) := by
  have hw' : Unique (bastionBaseTags w.stored) (Runs.run step w as) :=
    has.inv ⟨rfl, .of_gone h₀ _, fun _ => h₀⟩ fun _ _ hi ha => hi.step ha.1 ha.2
  exact ⟨hw'.one.one, hw'.finalizer⟩

/-- A bastion is made, found again, and deleted with its cluster. -/
theorem bastion_stays_unique_deleted :
    let w₀ := sample { sampleSpec with bastion := sampleBastion }
    let w :=
      Runs.run step w₀ [samplePass [] [], samplePass [] [], .requestDeletion, samplePass [] []]
    tagged .server (bastionBaseTags w₀.stored)
    (Runs.run step w₀ [samplePass [] [], samplePass [] []]).cloud = ["iiii"] ∧
      containsFinalizer w.stored.metadata clusterFinalizer = false ∧
      BastionGone (bastionBaseTags w₀.stored) w.cloud := by
  intro w₀ w
  have hfin : containsFinalizer w.stored.metadata clusterFinalizer = false := by decide +kernel
  have hrun : Runs.Meets step (fun w' a => Admitted .kubernetes (bastionBaseTags w₀.stored) w' a ∧
      FindsByTags (bastionBaseTags w₀.stored) w' a) w₀ [samplePass [] [], samplePass [] [],
      .requestDeletion, samplePass [] []] := by
    refine ⟨⟨⟨.connected _, rfl, rfl⟩, fun _ _ => ?_⟩, ⟨⟨.connected _, rfl, rfl⟩, fun _ _ => ?_⟩,
      ⟨trivial, trivial⟩,
      ⟨⟨.connected _, rfl, rfl⟩, fun hdel => absurd hdel (by decide +kernel)⟩, trivial⟩
    · exact IsBastionKind.cases (by decide) (by decide) (by decide)
    · exact IsBastionKind.cases (by decide +kernel) (by decide +kernel) (by decide +kernel)
  exact ⟨by decide +kernel, hfin, (bastion_stays_unique ⟨rfl, rfl, rfl⟩ hrun).2 hfin⟩

/-- A label is added while there is a bastion: the webhook admits it, the next pass does not find
the bastion and makes another one, and the deletion of the cluster takes away only that one. -/
theorem bastion_made_twice :
    let w₀ := sample { sampleSpec with bastion := sampleBastion }
    let relabel : ClusterAction :=
      .updateSpec { sampleSpec with
        bastion := sampleBastion, additionalLabels := StringMap.ofList [("team", "a")] }
    let as := [samplePass [] [], relabel, samplePass [] []]
    let w := Runs.run step w₀ as
    let w' := Runs.run step w [.requestDeletion, samplePass [] []]
    BastionGone (bastionBaseTags w₀.stored) w₀.cloud ∧
      Runs.Meets step (Admitted .kubernetes (bastionBaseTags w₀.stored)) w₀
      (as ++ [.requestDeletion, samplePass [] []]) ∧
      (tagged .server (bastionBaseTags w₀.stored) w.cloud).length = 2 ∧
      containsFinalizer w'.stored.metadata clusterFinalizer = false ∧
      tagged .server (bastionBaseTags w₀.stored) w'.cloud = ["iiii"] := by
  intro w₀ relabel as w w'
  refine ⟨⟨rfl, rfl, rfl⟩, ?_, by decide +kernel, by decide +kernel, by decide +kernel⟩
  exact ⟨⟨.connected _, rfl, rfl⟩, (by decide +kernel : Webhook.admitsClusterUpdate _ _ _ = true),
    ⟨.connected _, rfl, rfl⟩, trivial,
    ⟨.connected _, rfl, rfl⟩, trivial⟩

end ClusterWorld

end Capstk
