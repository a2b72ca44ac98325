import Capstk.Proofs.BastionPass

/-!
# A disabled bastion is gone

The clean-up of a disabled bastion runs once; that it ran is remembered in the reason of the
`BastionReady` condition. The memory is right as long as a pass that makes a bastion while the
stored condition still says that there is none gets its own condition stored, and the clean-up is
complete as long as it starts from recorded IDs that are current (`KeepsTrack`).
-/

namespace Capstk

open Prog SDKClient ClusterReconciler

variable {T : StringMap} {c c' : Cloud} {p q : Pass StackitCluster Session}

theorem conditions_deliver (d : PatchOutcome) (o o' : StackitCluster) :
    (Pass.deliver d o o').conditions = if d.status.lands then o.conditions else o'.conditions := by
  unfold Pass.deliver
  split <;> split <;> rfl

theorem deleting_deliver (d : PatchOutcome) (o o' : StackitCluster) :
    (Pass.deliver d o o').metadata.deleting = o'.metadata.deleting := by
  unfold Pass.deliver
  split <;> split <;> rfl

namespace ClusterWorld
variable {w : ClusterWorld}

/-- The invariant: where the stored condition says that the bastion is cleaned up, it is. -/
structure Remembers (T : StringMap) (w : ClusterWorld) : Prop where
  deleting : w.stored.metadata.deleting = false
  tags : bastionTags w.stored = T
  named : ∀ k, IsBastionKind k → "" ∉ tagged k T w.cloud
  skipped : bastionSkipped w.stored.conditions = true → BastionGone T w.cloud

/-- A pass that may make a bastion although the stored condition says that there is none gets its
status stored, and a clean-up does not start from outdated IDs. -/
def KeepsTrack (w : ClusterWorld) : ClusterAction → Prop
  | .reconcile _ _ patches _ _ =>
    (w.stored.spec.bastion.enabled = true → bastionSkipped w.stored.conditions = true →
      ∀ o ∈ patches, o.status.lands = true) ∧
    (w.stored.spec.bastion.enabled = false → bastionSkipped w.stored.conditions = false →
      BastionCurrent (recordedBastion w.stored.status.bastion) (bastionTags w.stored) w.cloud)
  | _ => True

theorem named_normalStep (h : NormalStep p q)
    (hp : ∀ k, IsBastionKind k → "" ∉ tagged k T p.cloud.cloud) :
    ∀ k, IsBastionKind k → "" ∉ tagged k T q.cloud.cloud := by
  intro k hk hmem
  obtain ⟨labels, hx, hT⟩ := mem_tagged.1 hmem
  have hbefore : ("", labels) ∈ labelled k p.cloud.cloud := by
    cases h with
    | stopped h => rw [h.resources k hk] at hx; exact hx
    | reached mid first second kept =>
      rw [← first.resources k hk]
      exact (kept.cloud.named k _ hx).resolve_right fun hne => hne rfl
  exact hp k hk (mem_tagged.2 ⟨labels, hbefore, hT⟩)

theorem Remembers.cleanable (h : Remembers T w) {mid : Pass StackitCluster Session}
    (hmid : Alike mid.obj w.stored) (hsame : SameBastion p mid) (hcloud : p.cloud.cloud = w.cloud)
    (hcur : BastionCurrent (recordedBastion w.stored.status.bastion) (bastionTags w.stored)
      w.cloud) : Cleanable T mid := by
  have hkept : ∀ k, IsBastionKind k → tagged k T mid.cloud.cloud = tagged k T w.cloud :=
    fun k hk => by
    rw [tagged, hsame.resources k hk, hcloud]; rfl
  have htags : bastionTags mid.obj = T := hmid.tags.trans h.tags
  rw [← htags]
  refine cleanable_current ?_ fun k hk => ?_
  · rw [h.tags] at hcur
    rw [htags, hmid.bastionStatus]
    exact ⟨hkept .server trivial ▸ hcur.server, hkept .publicIP trivial ▸ hcur.publicIP,
      hkept .securityGroup trivial ▸ hcur.securityGroup⟩
  · rw [htags, hkept k hk]
    exact h.named k hk

/-- A pass over `w` from `p` to `q`: if the stored condition afterwards says that the bastion is
cleaned up, it is. `o` is what became of the last patch. -/
theorem Remembers.gone {patches : List PatchOutcome} {o : PatchOutcome} (h : Remembers T w)
    (hon : w.stored.spec.bastion.enabled = true → bastionSkipped w.stored.conditions = true →
      ∀ o ∈ patches, o.status.lands = true)
    (hoff : w.stored.spec.bastion.enabled = false → bastionSkipped w.stored.conditions = false →
      BastionCurrent (recordedBastion w.stored.status.bastion) (bastionTags w.stored) w.cloud)
    (hobj : Alike p.obj w.stored) (hstored : Alike p.stored w.stored)
      (hcloud : p.cloud.cloud = w.cloud)
    (hpatches : p.patches ⊆ patches) (hstep : NormalStep p q) (ho : o = q.patches.headD {})
    (hskipped : bastionSkipped (Pass.deliver o q.obj q.stored).conditions = true) :
      BastionGone T q.cloud.cloud := by
  have hbefore : bastionSkipped w.stored.conditions = true → BastionGone T p.cloud.cloud :=
    fun hsk => hcloud ▸ h.skipped hsk
  have hq := hstep.stored_patches
  rw [conditions_deliver, hq.1] at hskipped
  have hlost : o.status.lands = false → bastionSkipped w.stored.conditions = true := fun hl => by
    rw [hl] at hskipped
    exact hstored.skipped ▸ hskipped
  have hlanded : o.status.lands = true → bastionSkipped q.obj.conditions = true := fun hl => by
    rw [hl] at hskipped
    exact hskipped
  cases hstep with
  | stopped hsame =>
    refine (hbefore ?_).of_same hsame.resources
    cases hl : o.status.lands with
    | false => exact hlost hl
    | true => rw [← hobj.skipped, ← (Alike.of_same hsame).skipped]; exact hlanded hl
  | reached mid first second kept =>
    have hmid := (Alike.of_same first).trans hobj
    have hgone : bastionSkipped w.stored.conditions = true →
        BastionGone T mid.cloud.cloud := fun hsk =>
      (hbefore hsk).of_same first.resources
    -- a pass that makes a bastion does not lose its status
    have henabled : mid.obj.spec.bastion.enabled = true → bastionSkipped q.obj.conditions = false →
        False := by
      intro hen hnot
      cases hl : o.status.lands with
      | true => rw [hlanded hl] at hnot; cases hnot
      | false =>
        have hall := hon (hmid.bastionSpec ▸ hen) (hlost hl)
        have hlands : (q.patches.headD {}).status.lands = true := by
          rw [hq.2]
          cases hp : p.patches with
          | nil => rfl
          | cons o' os => exact hall o' (hpatches (by rw [hp]; exact List.mem_cons_self))
        rw [ho, hlands] at hl
        cases hl
    cases second with
    | untouched status cloud skipped =>
      rw [cloud]
      cases hl : o.status.lands with
      | false => exact hgone (hlost hl)
      | true => exact hgone (hmid.skipped ▸ (skipped (hlanded hl)).1)
    | cleanupFailed status cloud skipped =>
      cases hl : o.status.lands with
      | false => exact (hgone (hlost hl)).shrinks cloud
      | true => rw [hlanded hl] at skipped; cases skipped
    | cleaned status cloud gone skipped =>
      cases hl : o.status.lands with
      | false => exact (hgone (hlost hl)).shrinks cloud
      | true =>
        obtain ⟨hnot, hdisabled⟩ := skipped (hlanded hl)
        exact gone T
          (h.cleanable hmid first hcloud
          (hoff (hmid.bastionSpec ▸ hdisabled) (hmid.skipped ▸ hnot)))
    | ensureFailed enabled status cloud skipped => exact (henabled enabled skipped).elim
    | ensured enabled bastion status cloud current skipped => exact (henabled enabled skipped).elim

/-! ### Runs -/

/-- What the environment keeps to: the cluster is not deleted, updates leave the labels alone, and
bastions come only from the provider. -/
def Toggles (T : StringMap) (w : ClusterWorld) : ClusterAction → Prop
  | .reconcile _ env _ _ _ => SourceOk env.source w.stored
  | .requestDeletion => False
  | .updateSpec spec => spec.additionalLabels = w.stored.spec.additionalLabels
  | .cloudEvolves change => ∀ k, IsBastionKind k →
      (tagged k T (change w.cloud)).Sublist (tagged k T w.cloud)

theorem Remembers.step {a : ClusterAction} (h : Remembers T w) (ha : Toggles T w a)
    (hk : KeepsTrack w a) :
    Remembers T (w.step a) := by
  cases a with
  | reconcile answers env patches outcomes orders =>
    cases passStep answers patches outcomes orders h.deleting ha with
    | idle heq => rw [heq]; exact h
    | ran p q o hobj hstored hcloud _ hpatches _ hstep ho hstored' hcloud' =>
      have hkept := hstep.stored_patches
      have hid : ClusterIdentity.of q.obj = ClusterIdentity.of q.stored := by
        rw [hstep.identity, hkept.1, hobj.identity, hstored.identity]
      refine ⟨?_, ?_, ?_, fun hskipped => ?_⟩
      · rw [hstored', deleting_deliver, hkept.1, hstored.deleting]; exact h.deleting
      · rw [hstored', ← ClusterIdentity.of_bastionTags, ClusterIdentity.of_deliver hid, hkept.1,
          hstored.identity]
        exact h.tags
      · rw [hcloud']
        exact named_normalStep hstep (hcloud ▸ h.named)
      · rw [hstored'] at hskipped
        rw [hcloud']
        exact h.gone hk.1 hk.2 hobj hstored hcloud hpatches hstep ho hskipped
  | requestDeletion => exact ha.elim
  | updateSpec spec =>
    refine ⟨h.deleting, ?_, h.named, h.skipped⟩
    rw [← h.tags]
    simp only [ClusterWorld.step, bastionTags, StackitCluster.tags, show spec.additionalLabels =
      _ from ha]
  | cloudEvolves change =>
    refine ⟨h.deleting, h.tags, fun k hkind hmem => h.named k hkind ((ha k hkind).subset hmem),
      fun hskipped => ?_⟩
    exact (h.skipped hskipped).sublist ha

/-- Where a pass enters `reconcileBastion`, if it gets there. -/
def entersBastion (w : ClusterWorld) :
    ClusterAction → Option (Env Session × Client Session × Pass StackitCluster Session)
  | .reconcile answers env patches outcomes orders =>
    match answers.getStackitCluster, answers.getOwnerCluster, answers.newPatchHelper with
    | none, .ok (some cluster), none =>
      if ObjectMeta.gone
        w.stored.metadata || (reconciliationPaused (some cluster) w.stored.metadata).isSome ||
          w.stored.metadata.deleting then none
      else
        match (do persistFinalizer; reconcileInfrastructure env)
          { w.begin patches outcomes orders with obj := withPaused cluster w.stored } with
        | (.ok (.inr client), mid) => some (env, client, mid)
        | _ => none
    | _, _, _ => none
  | _ => none

/-- A run of `reconcileBastion` in a pass: whether the bastion was enabled, whether it was reported
as ready, and the cloud afterwards. -/
structure BastionReport where
  enabled : Bool
  ready : Bool
  cloud : Cloud

def bastionReport (w : ClusterWorld) (a : ClusterAction) : Option BastionReport :=
  match w.entersBastion a with
  | none => none
  | some (env, client, mid) =>
    match reconcileBastion env client mid with
    | (.ok (_, ready), q) => some ⟨mid.obj.spec.bastion.enabled, ready, q.cloud.cloud⟩
    | (.error _, _) => none

section
variable {a : ClusterAction} {env : Env Session} {client : Client Session}
  {mid : Pass StackitCluster Session}

theorem of_entersBastion (h : w.entersBastion a = some (env, client, mid)) :
    ∃ answers cluster patches outcomes orders, a = .reconcile answers env patches outcomes orders ∧
      (answers.getStackitCluster = none ∧ answers.getOwnerCluster = .ok (some cluster) ∧
        answers.newPatchHelper = none) ∧
      (ObjectMeta.gone w.stored.metadata = false ∧
        (reconciliationPaused (some cluster) w.stored.metadata).isSome = false ∧
        w.stored.metadata.deleting = false) ∧
      (do persistFinalizer; reconcileInfrastructure env : Step Session (Result ⊕ Client Session))
        { w.begin patches outcomes orders with obj := withPaused cluster w.stored } =
        (.ok (.inr client), mid) := by
  cases a with
  | reconcile answers env' patches outcomes orders =>
    simp only [entersBastion] at h
    split at h
    · rename_i cluster h₁ h₂ h₃
      split at h
      · cases h
      · rename_i hgo
        split at h
        · rename_i client' mid' hrun
          cases h
          simp only [Bool.or_eq_true, not_or, Bool.not_eq_true] at hgo
          exact ⟨answers, cluster, patches, outcomes, orders, rfl, ⟨h₁, h₂, h₃⟩,
            ⟨hgo.1.1, hgo.1.2, hgo.2⟩, hrun⟩
        · cases h
    · cases h
  | requestDeletion => cases h
  | updateSpec spec => cases h
  | cloudEvolves change => cases h

/-- The pass that enters `reconcileBastion` in `mid` goes on from there to its patch. -/
theorem step_of_entersBastion (h : w.entersBastion a = some (env, client, mid)) :
    w.step a = leave
    ((Pass.patchObject : Step Session Unit).after ((finishWithBastion env client).after mid)) := by
  obtain ⟨answers, cluster, patches, outcomes, orders, rfl, ⟨h₁, h₂, h₃⟩, ⟨hgone, hpaused, hdel⟩,
    hrun⟩ := of_entersBastion h
  set p : Pass StackitCluster Session :=
    { w.begin patches outcomes orders with obj := withPaused cluster w.stored }
  have hnormal :
      wp (reconcileNormal env) (fun _ q => q = (finishWithBastion env client).after mid) p := by
    refine (wp_bind_assoc _ _ _).2 ?_
    rw [wp, hrun]
    exact (rfl : (finishWithBastion env client mid).2 = _)
  show wp (reconcile answers env) (fun _ q => leave q = _) (w.begin patches outcomes orders)
  refine wp_reconcile (fun hno _ => absurd ⟨hgone, h₁, h₂, h₃⟩ (hno cluster))
    fun cluster' hscope => Pass.wp_withDeferredPatch ?_
  cases hscope.owner.symm.trans h₂
  refine wp_reconcileScope (fun hbad => ?_) (fun _ hbad => by cases hdel.symm.trans hbad)
    fun _ _ => ?_
  · exact absurd (Option.isSome_iff_ne_none.2 hbad) (ne_true_of_eq_false hpaused)
  refine hnormal.imp fun r q hq o r' ho _ => ?_
  rw [← hq, ho]
  rfl

/-- A pass comes to the bastion with the SDK client and with nothing changed that concerns it. -/
theorem sameBastion_of_entersBastion {T : StringMap} (ha : Toggles T w a)
    (h : w.entersBastion a = some (env, client, mid)) :
    client = sdkClient ∧ ∃ p : Pass StackitCluster Session, Alike p.obj w.stored ∧
    p.cloud.cloud = w.cloud ∧ SameBastion p mid := by
  obtain ⟨answers, cluster, patches, outcomes, orders, rfl, -, -, hrun⟩ := of_entersBastion h
  set p : Pass StackitCluster Session :=
    { w.begin patches outcomes orders with obj := withPaused cluster w.stored }
  have hobj : Alike p.obj w.stored := (Alike.refl _).withPaused cluster
  have hwp :
      wp (do persistFinalizer; reconcileInfrastructure env : Step Session (Result ⊕ Client Session))
        (fun r q => ∀ client, r = .ok (.inr client) → client = sdkClient ∧
          ∃ p : Pass StackitCluster Session,
          Alike p.obj w.stored ∧ p.cloud.cloud = w.cloud ∧ SameBastion p q) p := by
    have hsecond : ∀ q : Pass StackitCluster Session, Alike q.obj w.stored →
        q.cloud.cloud = w.cloud →
          SourceOk env.source q.obj →
          wp (reconcileInfrastructure env) (fun r q => ∀ client, r = .ok (.inr client) →
            client = sdkClient ∧ ∃ p : Pass StackitCluster Session, Alike p.obj w.stored ∧
            p.cloud.cloud = w.cloud ∧
              SameBastion p q) q := fun q hq hc hsrc =>
      (sameBastion_reconcileInfrastructure hsrc.sdkAny).imp fun r q' ⟨hsame, hclient⟩ client hr =>
        ⟨hclient _ hr client rfl, q, hq, hc, hsame⟩
    rw [wp_bind]
    refine wp_persistFinalizer (fun _ => hsecond p hobj rfl (ha.congr rfl)) fun _ r _ => ?_
    cases r with
    | error e => exact fun client h => by cases h
    | ok _ =>
      exact hsecond _ hobj.withFinalizer rfl (ha.congr (credentialsSecretKey_withFinalizer _))
  exact hwp.of_run hrun client rfl

end

/-- **Disabled means gone**, in every run that keeps track: after every run of `reconcileBastion`
with the bastion disabled that reports it as ready, no bastion resource carries the cluster's
tags. -/
theorem disabled_bastion_gone {as : List ClusterAction} (hdel : w.stored.metadata.deleting = false)
    (hgone : BastionGone (bastionTags w.stored) w.cloud)
    (has : Runs.Meets step (fun w' a => Toggles (bastionTags w.stored) w' a ∧ KeepsTrack w' a) w
      as) :
    let w' := Runs.run step w as
    ∀ a, Toggles (bastionTags w.stored) w' a → KeepsTrack w' a →
    ∀ report, w'.bastionReport a = some report →
      report.enabled = false → report.ready = true →
      BastionGone (bastionTags w.stored) report.cloud := by
  intro w' a ha hk report hreport hdisabled _
  set T := bastionTags w.stored with hT
  have h₀ : Remembers T w := by
    refine ⟨hdel, rfl, fun k hk => ?_, fun _ => hgone⟩
    rw [hgone.nil k hk]; simp
  have hw' : Remembers T w' := has.inv h₀ fun _ _ hi ha => hi.step ha.1 ha.2
  unfold bastionReport at hreport
  split at hreport
  · cases hreport
  rename_i env client mid henters
  obtain ⟨rfl, p, hobj, hcloud, hsame⟩ := sameBastion_of_entersBastion ha henters
  have hmid : Alike mid.obj w'.stored := (Alike.of_same hsame).trans hobj
  split at hreport
  · rename_i result ready q hrun
    cases hreport
    have hoff : w'.stored.spec.bastion.enabled = false := hmid.bastionSpec ▸ hdisabled
    have hwp : wp (reconcileBastion env sdkClient) (fun r q => (∃ x, r = .ok x) →
        BastionGone T q.cloud.cloud) mid := by
      refine wp_reconcileBastion_disabled hdisabled
        (wp_disableBastion_cleans (fun hskip _ => ?_) (fun e s _ ⟨x, hx⟩ => by cases hx)
        fun s hnot hs hclean _ => ?_)
      · exact (hcloud ▸ hw'.skipped (hmid.skipped ▸ hskip)).of_same hsame.resources
      · obtain ⟨answers, cluster, patches, outcomes, orders, rfl, -⟩ := of_entersBastion henters
        exact hclean T (hw'.cleanable hmid hsame hcloud (hk.2 hoff (hmid.skipped ▸ hnot)))
    exact hwp.of_run hrun ⟨_, rfl⟩
  · cases hreport

/-- The bastion is made, and disabled. -/
theorem disabled_bastion_gone_toggled :
    let w₀ := sample { sampleSpec with bastion := sampleBastion }
    let w := Runs.run step w₀ [samplePass [] [], .updateSpec sampleSpec]
    tagged .server (bastionTags w₀.stored) w.cloud = ["iiii"] ∧
      ∃ report, w.bastionReport (samplePass [] []) = some report ∧
      (report.enabled = false ∧ report.ready = true) ∧
        BastionGone (bastionTags w₀.stored) report.cloud := by
  intro w₀ w
  have hcur : KeepsTrack w (samplePass [] []) := ⟨fun h => absurd h (by decide +kernel), fun _ _ =>
    ⟨by decide +kernel, by decide +kernel, by decide +kernel⟩⟩
  have hflags :
      ((w.bastionReport (samplePass [] [])).map fun report => (report.enabled, report.ready)) =
        some (false, true) := by decide +kernel
  obtain ⟨report, hreport, hvalues⟩ := Option.map_eq_some_iff.1 hflags
  obtain ⟨henabled, hready⟩ := Prod.mk.injEq .. ▸ hvalues
  refine ⟨by decide +kernel, report, hreport, ⟨henabled, hready⟩, ?_⟩
  have hconnected : SourceOk .connected w.stored := .connected _
  have hrun : Runs.Meets step (fun w' a => Toggles (bastionTags w₀.stored) w' a ∧ KeepsTrack w' a)
      w₀
        [samplePass [] [], .updateSpec sampleSpec] :=
    ⟨⟨.connected _, fun _ hsk => absurd hsk (by decide), fun hoff => absurd hoff (by decide)⟩,
      ⟨AList.ext (by decide +kernel), trivial⟩, trivial⟩
  exact disabled_bastion_gone rfl ⟨rfl, rfl, rfl⟩ hrun (samplePass [] []) hconnected hcur report
    hreport henabled hready

/-- A pass that makes a bastion loses its status: the stored object still says that the bastion is
cleaned up, and the next pass with the bastion disabled believes it. -/
theorem disabled_bastion_remains :
    let w₀ := sample sampleSpec
    let enable : ClusterAction := .updateSpec { sampleSpec with bastion := sampleBastion }
    let as :=
      [samplePass [] [], enable, samplePass [{ status := .failed }] [], .updateSpec sampleSpec]
    let w := Runs.run step w₀ as
    w₀.stored.metadata.deleting = false ∧ BastionGone (bastionTags w₀.stored) w₀.cloud ∧
      Runs.Meets step (Toggles (bastionTags w₀.stored)) w₀ (as ++ [samplePass [] []]) ∧
      ((w.bastionReport (samplePass [] [])).map fun report =>
        (report.enabled, report.ready, tagged .server (bastionTags w₀.stored) report.cloud)) =
          some (false, true, ["iiii"]) := by
  intro w₀ enable as w
  refine ⟨rfl, ⟨rfl, rfl, rfl⟩, ?_, by decide +kernel⟩
  exact ⟨.connected _, AList.ext (by decide +kernel), .connected _, AList.ext (by decide +kernel),
    .connected _, trivial⟩

end ClusterWorld

end Capstk
