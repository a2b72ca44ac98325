import Capstk.Proofs.Answered
import Capstk.Proofs.ClusterRun

/-!
# What a pass does to the bastion

`BastionStep` says everything the second half of `reconcileNormal` can do to the bastion's status,
to the condition that remembers a finished clean-up (`bastionSkipped`) and to the resources. Whether
a clean-up takes everything away depends on the recorded IDs (`Cleanable`).
-/

namespace Capstk

open Prog SDKClient

variable {p q : Pass StackitCluster Session}

namespace ClusterReconciler

/-! ### The condition -/

theorem bastionSkipped_setConditions (cs : List Condition) (g : Int) (st : ConditionStatus)
    (reason message : String) (types : List String) :
    bastionSkipped (setConditions cs g st reason message types) =
      if clusterBastionReadyCondition ∈ types then reason == bastionDisabledReason
      else bastionSkipped cs := by
  unfold bastionSkipped
  rw [findStatusCondition_setConditions]
  by_cases h : clusterBastionReadyCondition ∈ types
  · rw [if_pos h, if_pos h]
  · rw [if_neg h, if_neg h]

theorem bastionSkipped_congr {cs cs' : List Condition}
    (h : findStatusCondition cs' clusterBastionReadyCondition =
    findStatusCondition cs clusterBastionReadyCondition) :
    bastionSkipped cs' = bastionSkipped cs := by
  rw [bastionSkipped, h]; rfl

theorem serverStates_reason {state : String} {info : ServerStateInfo}
    (h : serverStates state = some info) :
    info.reason ≠ bastionDisabledReason := by
  unfold serverStates at h
  split at h <;> cases h <;> decide

/-- The state of a server is never reported as a finished clean-up. -/
theorem serverStateCondition_reason (state powerStatus : String) :
    (serverStateCondition state powerStatus).reason ≠ bastionDisabledReason := by
  unfold serverStateCondition
  split
  · decide
  dsimp only
  split
  · decide
  split
  · decide
  cases h : serverStates state with
  | none => decide
  | some info => exact serverStates_reason h

/-! ### Clean-up -/

/-- From here on, deleting the bastion by what the status records takes away all that carries
`B`. -/
def Cleanable (B : StringMap) (p : Pass StackitCluster Session) : Prop :=
  ∀ (cloudInit : String) (s : Session), Shrinks p.cloud.cloud s.cloud →
    wp (SDKClient.deleteBastion (bastionInput p.obj cloudInit)
      (recordedBastion p.obj.status.bastion))
      (Cleans s fun _ t => BastionGone B t.cloud) s

theorem cleanable_current
    (hcur : BastionCurrent (recordedBastion p.obj.status.bastion) (bastionTags p.obj) p.cloud.cloud)
    (hnamed : ∀ k, IsBastionKind k → "" ∉ tagged k (bastionTags p.obj) p.cloud.cloud) :
    Cleanable (bastionTags p.obj) p := fun _ _ hs =>
  SDKClient.wp_deleteBastion (hcur.shrinks hs) fun k hkind hk =>
    hnamed k hkind ((hs.tagged k _).subset hk)

theorem cleanable_names {B : StringMap}
    (h : BastionNames (recordedBastion p.obj.status.bastion) B p.cloud.cloud) :
    Cleanable B p := fun _ _ hs => wp_deleteBastion_names (h.shrinks hs)

theorem wp_deleteBastion_cleanable {cloudInit : String} {s : Session}
    (hs : Shrinks p.cloud.cloud s.cloud) :
    wp (SDKClient.deleteBastion (bastionInput p.obj cloudInit)
      (recordedBastion p.obj.status.bastion))
      (Cleans s fun _ t => ∀ B, Cleanable B p → BastionGone B t.cloud) s :=
  ⟨cleanupClosed_shrinks.keeps_deleteBastion _ _ s, fun a ha _ hB => (hB cloudInit s hs).2 a ha⟩

theorem wp_disableBastion_cleans
    {Q : Except GoError (Result × Bool) → Pass StackitCluster Session → Prop}
    (hskip : bastionSkipped p.obj.conditions = true →
      Q (.ok ({}, true)) { p with obj := skipBastion p.obj })
    (hfail : ∀ e s, Shrinks p.cloud.cloud s.cloud → Q (.error e) { p with cloud := s })
    (hdone : ∀ s, bastionSkipped p.obj.conditions = false → Shrinks p.cloud.cloud s.cloud →
      (∀ B, Cleanable B p → BastionGone B s.cloud) →
      Q (.ok ({}, true)) { p with obj := skipBastion p.obj.clearBastionStatus, cloud := s }) :
    wp (disableBastion sdkClient) Q p := by
  refine wp_disableBastion hskip fun hnot => ?_
  refine wp_orError (SDKClient.wp_deleteNodeSSHAccess _ p.cloud) (fun _ s ⟨hs, _⟩ => ?_)
    fun e s ⟨hs, _⟩ => hfail e s hs
  exact wp_orError (wp_deleteBastion_cleanable hs)
    (fun _ t ⟨ht, hgone⟩ => hdone t hnot (hs.trans ht) (hgone () rfl))
    fun e t ⟨ht, _⟩ => hfail e t (hs.trans ht)

theorem bastionSkipped_notReady {reason : String} (h : reason ≠ bastionDisabledReason)
    (sc : StackitCluster) (message : String) :
    bastionSkipped (bastionNotReadyObj sc reason message).conditions = false := by
  show bastionSkipped (setConditions _ _ _ _ _ _) = false
  rw [bastionSkipped_setConditions, if_pos (by simp)]
  simpa using h

theorem wp_recreateBastion_cleans {cloudInit : String}
    {Q : Except GoError (Result × Bool) → Pass StackitCluster Session → Prop}
    (hfail : ∀ e s, Shrinks p.cloud.cloud s.cloud → Q (.error e) { p with cloud := s })
    (hdone : ∀ s result message, Shrinks p.cloud.cloud s.cloud →
      (∀ B, Cleanable B p → BastionGone B s.cloud) →
      Q (.ok (result, false)) { p with
        obj := bastionNotReadyObj p.obj.clearBastionStatus "Recreating" message, cloud := s }) :
    wp (recreateBastion sdkClient cloudInit) Q p := by
  have hssh := wp_tolerate_cleans (neverNotFound_deleteNodeSSHAccess (nodeSSHAccessTags p.obj))
    (SDKClient.wp_deleteNodeSSHAccess _ p.cloud)
  refine wp_recreateBastion (wp_orError hssh (fun _ s ⟨hs, _⟩ => ?_) fun e s ⟨hs, _⟩ =>
    hfail e s hs)
  have hbastion := wp_tolerate_cleans
    (neverNotFound_deleteBastion (bastionInput p.obj cloudInit) _) (wp_deleteBastion_cleanable hs)
  exact wp_orError hbastion
    (fun _ t ⟨ht, hgone⟩ => hdone t _ _ (hs.trans ht) (hgone () rfl))
    fun e t ⟨ht, _⟩ => hfail e t (hs.trans ht)

/-! ### `EnsureBastion` -/

/-- What a failed `EnsureBastion` leaves: at most first resources, and without failures nothing. -/
structure EnsureFailed (p : Pass StackitCluster Session) (c : Cloud) : Prop where
  adds : AddsFirst IsBastionKind (bastionTags p.obj) p.cloud.cloud c
  answered : Answered p.cloud →
    (∀ k, IsBastionKind k → (tagged k (bastionTags p.obj) p.cloud.cloud).length ≤ 1) →
    (∀ k, IsBastionKind k → "" ∉ tagged k (bastionTags p.obj) p.cloud.cloud) → c = p.cloud.cloud

theorem wp_ensureBastion_adds {env : Env Session} {cloudInit : String}
    (hcidrs : "" ∉ p.obj.spec.bastion.allowedCIDRs)
    {Q : Except GoError (Result × Bool) → Pass StackitCluster Session → Prop}
    (hfail : ∀ e s, EnsureFailed p s.cloud → Q (.error e) { p with cloud := s })
    (hdone : ∀ r b s o, AddsFirst IsBastionKind (bastionTags p.obj) p.cloud.cloud s.cloud →
      BastionIs b (bastionTags p.obj) s.cloud →
      recordedBastion o.status.bastion = { b with serverState := "", serverPowerStatus := "" } →
      bastionSkipped o.conditions = false → Q (.ok r) { p with obj := o, cloud := s }) :
    wp (ensureBastion env sdkClient cloudInit) Q p := by
  have hanswered : wp (SDKClient.ensureBastion (bastionInput p.obj cloudInit))
      (fun r t => Answered p.cloud →
        (∀ k, IsBastionKind k → (tagged k (bastionTags p.obj) p.cloud.cloud).length ≤ 1) →
        (∀ k, IsBastionKind k → "" ∉ tagged k (bastionTags p.obj) p.cloud.cloud) →
        ∀ e, r = .error e → t.cloud = p.cloud.cloud) p.cloud :=
    fun hans hone hnamed => wp_ensureBastion_answered hans hcidrs hone hnamed
  refine wp_ensureBastion (wp_orError
    ((SDKClient.wp_ensureBastion (bastionInput p.obj cloudInit) p.cloud).and hanswered)
    (fun b s ⟨⟨hs, hr⟩, _⟩ => ?_) fun e s ⟨⟨hs, _⟩, hans⟩ =>
    hfail e s ⟨hs, fun h₁ h₂ h₃ => hans h₁ h₂ h₃ e rfl⟩)
  constructor
  case down =>
    exact fun _ => hdone _ b s _ hs (hr b rfl) rfl
      (bastionSkipped_notReady (serverStateCondition_reason _ _) _ _)
  case unaddressed =>
    exact fun _ => hdone _ b s _ hs (hr b rfl) rfl (bastionSkipped_notReady (by decide) _ _)
  case ready =>
    refine fun _ _ => hdone _ b s _ hs (hr b rfl) rfl ?_
    show bastionSkipped (setConditions _ _ _ _ _ _) = false
    rw [bastionSkipped_setConditions]
    rfl

/-- The check of the spec rules out an empty CIDR. -/
theorem allowedCIDRs_of_valid {spec : StackitBastionSpec} (h : validateBastionSpec spec = none) :
    "" ∉ spec.allowedCIDRs := by
  intro hmem
  unfold validateBastionSpec at h
  split at h
  · cases h
  split at h
  · cases h
  split at h
  · cases h
  split at h
  · cases h
  split at h
  · cases h
  · rename_i hnone
    have := List.find?_eq_none.1 hnone "" hmem
    exact this rfl

/-! ### `reconcileBastion` -/

/-- All that the second half of a pass can do to the bastion. -/
inductive BastionStep (p q : Pass StackitCluster Session) : Prop
  | untouched (status : q.obj.status.bastion = p.obj.status.bastion)
      (cloud : q.cloud.cloud = p.cloud.cloud)
      (skipped : bastionSkipped q.obj.conditions = true →
        bastionSkipped p.obj.conditions = true ∧ p.obj.spec.bastion.enabled = false)
  | cleanupFailed (status : q.obj.status.bastion = p.obj.status.bastion)
      (cloud : Shrinks p.cloud.cloud q.cloud.cloud)
      (skipped : bastionSkipped q.obj.conditions = false)
  | cleaned (status : q.obj.status.bastion = {}) (cloud : Shrinks p.cloud.cloud q.cloud.cloud)
      (gone : ∀ B, Cleanable B p → BastionGone B q.cloud.cloud)
      (skipped : bastionSkipped q.obj.conditions = true →
        bastionSkipped p.obj.conditions = false ∧ p.obj.spec.bastion.enabled = false)
  | ensureFailed (enabled : p.obj.spec.bastion.enabled = true)
      (status : q.obj.status.bastion = p.obj.status.bastion)
      (cloud : EnsureFailed p q.cloud.cloud) (skipped : bastionSkipped q.obj.conditions = false)
  | ensured (enabled : p.obj.spec.bastion.enabled = true) (b : Bastion)
      (status : recordedBastion q.obj.status.bastion =
        { b with serverState := "", serverPowerStatus := "" })
      (cloud : AddsFirst IsBastionKind (bastionTags p.obj) p.cloud.cloud q.cloud.cloud)
      (current : BastionIs b (bastionTags p.obj) q.cloud.cloud)
      (skipped : bastionSkipped q.obj.conditions = false)

/-- `BastionStep` only looks at these three. -/
theorem BastionStep.congr {q' : Pass StackitCluster Session} (h : BastionStep p q)
    (hstatus : q'.obj.status.bastion = q.obj.status.bastion)
    (hcloud : q'.cloud.cloud = q.cloud.cloud)
    (hskipped : bastionSkipped q'.obj.conditions = bastionSkipped q.obj.conditions) :
    BastionStep p q' := by
  cases h with
  | untouched status cloud skipped =>
    exact .untouched (hstatus.trans status) (hcloud.trans cloud) (hskipped ▸ skipped)
  | cleanupFailed status cloud skipped =>
    exact .cleanupFailed (hstatus.trans status) (hcloud ▸ cloud) (hskipped.trans skipped)
  | cleaned status cloud gone skipped =>
    exact .cleaned (hstatus.trans status) (hcloud ▸ cloud) (hcloud ▸ gone) (hskipped ▸ skipped)
  | ensureFailed enabled status cloud skipped =>
    exact .ensureFailed enabled (hstatus.trans status) (hcloud ▸ cloud) (hskipped.trans skipped)
  | ensured enabled b status cloud current skipped =>
    exact .ensured enabled b (hstatus ▸ status) (hcloud ▸ cloud) (hcloud ▸ current)
      (hskipped.trans skipped)

/-- What is left when `reconcileBastion` fails. -/
def BastionFailed (p q : Pass StackitCluster Session) : Prop :=
  q.obj = p.obj ∧ (Shrinks p.cloud.cloud q.cloud.cloud ∨
    p.obj.spec.bastion.enabled = true ∧ EnsureFailed p q.cloud.cloud)

/-- The two ways `reconcileBastion` can end. -/
inductive Reconciled (p : Pass StackitCluster Session) :
    Except GoError (Result × Bool) → Pass StackitCluster Session → Prop
  | ok {x : Result × Bool} {q : Pass StackitCluster Session} (h : BastionStep p q) :
      Reconciled p (.ok x) q
  | error {e : GoError} {q : Pass StackitCluster Session} (h : BastionFailed p q) :
      Reconciled p (.error e) q

theorem reconciled_reconcileBastion (env : Env Session) :
    wp (reconcileBastion env sdkClient) (Reconciled p) p := by
  apply wp_reconcileBastion
  case hdisabled =>
    intro hoff
    exact wp_disableBastion_cleans (fun hskip => .ok (.untouched rfl rfl fun _ => ⟨hskip, hoff⟩))
      (fun e s hs => .error ⟨rfl, .inl hs⟩) fun s hnot hs hgone =>
      .ok (.cleaned rfl hs hgone fun _ => ⟨hnot, hoff⟩)
  case hrefused =>
    intro _ reason message hrefused
    have hreason : reason ≠ bastionDisabledReason := by cases hrefused <;> decide
    exact .ok (.untouched rfl rfl fun hskipped => absurd hskipped
      (by simp [bastionSkipped_notReady hreason]))
  case hrecreate =>
    intro cloudInit _ _
    refine wp_recreateBastion_cleans (fun e s hs => .error ⟨rfl, .inl hs⟩)
      fun s result message hs hgone => .ok (.cleaned rfl hs hgone fun hskipped => ?_)
    have hreason : "Recreating" ≠ bastionDisabledReason := by decide
    exact absurd hskipped (by simp [bastionSkipped_notReady hreason])
  case hensure =>
    intro cloudInit hwanted _
    exact wp_ensureBastion_adds (allowedCIDRs_of_valid hwanted.valid)
      (fun e s hs => .error ⟨rfl, .inr ⟨hwanted.enabled, hs⟩⟩)
      fun r b s o hs hb hstatus hskipped =>
      .ok (.ensured hwanted.enabled b hstatus hs hb hskipped)

theorem bastionStep_finishWithBastion (env : Env Session) :
    wp (finishWithBastion env sdkClient) (fun _ q => BastionStep p q) p := by
  refine wp_finishWithBastion ((reconciled_reconcileBastion env).imp fun r q hq => ?_)
  cases hq with
  | @ok x _ h =>
    obtain ⟨result, ready | ready⟩ := x
    · exact h
    · refine h.congr rfl rfl ?_
      show bastionSkipped (setConditions _ _ _ _ _ _) = _
      rw [bastionSkipped_setConditions, if_neg (by decide)]
  | @error e _ h =>
    obtain ⟨hobj, hcloud⟩ := h
    have hskipped : bastionSkipped (bastionNotReadyObj q.obj "BastionError" e.text).conditions =
        false := bastionSkipped_notReady (by decide) _ _
    have hstatus : q.obj.status.bastion = p.obj.status.bastion := by rw [hobj]
    rcases hcloud with hs | ⟨hon, hs⟩
    · exact fun _ => .cleanupFailed hstatus hs hskipped
    · exact fun _ => .ensureFailed hon hstatus hs hskipped

/-! ### `reconcileNormal` -/

/-- A pass stops before the bastion, or it gets there (`mid`) and goes through with it. -/
inductive NormalStep (p q : Pass StackitCluster Session) : Prop
  | stopped (h : SameBastion p q)
  | reached (mid : Pass StackitCluster Session) (first : SameBastion p mid)
      (second : BastionStep mid q)
      (kept : SameInfrastructure mid q)

theorem NormalStep.stored_patches (h : NormalStep p q) :
    q.stored = p.stored ∧ q.patches = p.patches := by
  cases h with
  | stopped h => exact ⟨h.stored, h.patches⟩
  | reached mid first second kept =>
    exact ⟨kept.stored.trans first.stored, kept.patches.trans first.patches⟩

theorem NormalStep.metadata (h : NormalStep p q) : q.obj.metadata = p.obj.metadata := by
  cases h with
  | stopped h => exact h.metadata
  | reached mid first second kept => exact kept.metadata.trans first.metadata

theorem normalStep_reconcileFinalized {env : Env Session} (hsrc : SourceOk env.source p.obj) :
    wp (reconcileFinalized env) (fun _ q => NormalStep p q) p := by
  refine wp_reconcileFinalized ((sameBastion_reconcileInfrastructure hsrc.sdkAny).imp
    fun r mid ⟨hmid, hclient⟩ => ?_)
  match r, hclient with
  | .error e, _ => exact .stopped hmid
  | .ok (.inl result), _ => exact .stopped hmid
  | .ok (.inr client), hclient =>
    rw [infrastructureEnd_inr, hclient _ rfl client rfl]
    exact ((bastionStep_finishWithBastion env).and
      ((sameInfrastructure_finishWithBastion env).wp mid)).imp
      fun _ q ⟨hstep, hkept⟩ => .reached mid hmid hstep hkept

/-- What the bastion depends on is the same in both objects. -/
structure Alike (o o' : StackitCluster) : Prop where
  name : o.metadata.name = o'.metadata.name
  (namespace' : o.metadata.namespace' = o'.metadata.namespace')
  deleting : o.metadata.deleting = o'.metadata.deleting
  labels : o.spec.additionalLabels = o'.spec.additionalLabels
  networkID : o.spec.networkID = o'.spec.networkID
  bastionSpec : o.spec.bastion = o'.spec.bastion
  bastionStatus : o.status.bastion = o'.status.bastion
  skipped : bastionSkipped o.conditions = bastionSkipped o'.conditions

namespace Alike
variable {o o' x : StackitCluster}

theorem refl (o : StackitCluster) : Alike o o := ⟨rfl, rfl, rfl, rfl, rfl, rfl, rfl, rfl⟩

theorem trans (h : Alike o o') (h' : Alike o' x) : Alike o x :=
  ⟨h.name.trans h'.name, h.namespace'.trans h'.namespace', h.deleting.trans h'.deleting,
    h.labels.trans h'.labels,
    h.networkID.trans h'.networkID, h.bastionSpec.trans h'.bastionSpec,
    h.bastionStatus.trans h'.bastionStatus,
    h.skipped.trans h'.skipped⟩

theorem identity (h : Alike o o') : ClusterIdentity.of o = ClusterIdentity.of o' := by
  simp only [ClusterIdentity.of, h.name, h.namespace', h.labels, h.networkID]

theorem tags (h : Alike o o') : bastionTags o = bastionTags o' :=
  congrArg ClusterIdentity.bastionTags h.identity

theorem deliver (h : Alike o x) (h' : Alike o' x) (d : PatchOutcome) :
    Alike (Pass.deliver d o o') x := by
  obtain ⟨-, -, -, hl, hid, hs, hst, hsk⟩ := h
  obtain ⟨hn', hns', hd', hl', hid', hs', hst', hsk'⟩ := h'
  unfold Pass.deliver
  split <;> split <;> constructor <;> assumption

theorem withFinalizer (h : Alike o x) : Alike (withFinalizer o) x := by
  refine ⟨?_, ?_, ?_, h.labels, h.networkID, h.bastionSpec, h.bastionStatus, h.skipped⟩
  · simpa [ClusterReconciler.withFinalizer] using h.name
  · simpa [ClusterReconciler.withFinalizer] using h.namespace'
  · simpa [ClusterReconciler.withFinalizer] using h.deleting

theorem withPaused (h : Alike o x) (cluster : Cluster) : Alike (withPaused cluster o) x := by
  refine ⟨h.name, h.namespace', h.deleting, h.labels, h.networkID, h.bastionSpec,
    h.bastionStatus, ?_⟩
  rw [← h.skipped]
  show bastionSkipped (setPausedCondition _ _ _) = _
  unfold setPausedCondition
  split <;> rw [bastionSkipped_setConditions, if_neg (by decide)]

end Alike

theorem Alike.of_same (h : SameBastion p q) : Alike q.obj p.obj :=
  ⟨by rw [h.metadata], by rw [h.metadata], by rw [h.metadata], h.labels, h.networkID, h.bastionSpec,
    h.bastionStatus,
    bastionSkipped_congr h.condition⟩

theorem NormalStep.identity (h : NormalStep p q) :
    ClusterIdentity.of q.obj = ClusterIdentity.of p.obj := by
  cases h with
  | stopped h => exact (Alike.of_same h).identity
  | reached mid first second kept =>
    rw [← (Alike.of_same first).identity]
    simp only [ClusterIdentity.of, kept.metadata, kept.spec]

/-- A pass over a cluster that is not being deleted, from one stored state to the next. -/
inductive PassStep (w w' : ClusterWorld) (patches : List PatchOutcome) (outcomes : List Outcome) :
    Prop
  | idle (h : w' = w)
  | ran (p q : Pass StackitCluster Session) (o : PatchOutcome) (obj : Alike p.obj w.stored)
      (stored : Alike p.stored w.stored)
      (cloud : p.cloud.cloud = w.cloud) (outcomes : p.cloud.outcomes = outcomes)
      (patches : p.patches ⊆ patches)
      (finalizer : containsFinalizer p.obj.metadata clusterFinalizer = true ∨
        p.obj.metadata = w.stored.metadata ∧ SameBastion p q)
      (step : NormalStep p q) (patch : o = q.patches.headD {})
        (stored' : w'.stored = Pass.deliver o q.obj q.stored)
      (cloud' : w'.cloud = q.cloud.cloud)

theorem normalStep_reconcileNormal {env : Env Session} {x : StackitCluster}
    (hsrc : SourceOk env.source p.obj) (hobj : Alike p.obj x) (hstored : Alike p.stored x) :
    wp (reconcileNormal env) (fun _ q => ∃ p₁ : Pass StackitCluster Session, Alike p₁.obj x ∧
      Alike p₁.stored x ∧
      p₁.cloud = p.cloud ∧ p₁.patches ⊆ p.patches ∧
      containsFinalizer p₁.obj.metadata clusterFinalizer = true ∧
      NormalStep p₁ q) p := by
  have hobj' : Alike (patchFinalizer p).obj x := hobj.withFinalizer
  have hstored' : Alike (patchFinalizer p).stored x := hobj'.deliver hstored _
  have hpatches : (patchFinalizer p).patches ⊆ p.patches := (List.tail_sublist _).subset
  have hhas' : containsFinalizer (patchFinalizer p).obj.metadata clusterFinalizer = true :=
    containsFinalizer_addFinalizer _ _
  have hsrc' : SourceOk env.source (patchFinalizer p).obj :=
    hsrc.congr (credentialsSecretKey_withFinalizer _)
  refine wp_reconcileNormal (fun hhas => ?_) (fun _ _ _ => ?_) fun _ _ => ?_
  · exact (normalStep_reconcileFinalized hsrc).imp fun _ q hq =>
      ⟨p, hobj, hstored, rfl, List.Subset.refl _, hhas, hq⟩
  · exact ⟨_, hobj', hstored', rfl, hpatches, hhas', .stopped (.refl _)⟩
  · exact (normalStep_reconcileFinalized hsrc').imp fun _ q hq =>
      ⟨_, hobj', hstored', rfl, hpatches, hhas', hq⟩

end ClusterReconciler

open ClusterReconciler in
theorem ClusterWorld.passStep {w : ClusterWorld} {env : Env Session} (answers : Answers)
    (patches : List PatchOutcome) (outcomes : List Outcome) (orders : List MapOrder)
    (hdel : w.stored.metadata.deleting = false) (hsrc : SourceOk env.source w.stored) :
    PassStep w (w.step (.reconcile answers env patches outcomes orders)) patches outcomes := by
  show wp (reconcile answers env) (fun _ q => PassStep w (leave q) patches outcomes)
    (w.begin patches outcomes orders)
  refine wp_reconcile (fun _ _ => .idle rfl) fun cluster _ => Pass.wp_withDeferredPatch ?_
  have hobj : Alike (withPaused cluster w.stored) w.stored := (Alike.refl _).withPaused cluster
  refine wp_reconcileScope (fun _ o r ho _ => ?_) (fun _ hdel' => ?_) fun _ _ => ?_
  · exact .ran _ _ o hobj (.refl _) rfl rfl (List.Subset.refl _) (.inr ⟨rfl, .refl _⟩)
      (.stopped (.refl _)) ho rfl rfl
  · rw [show w.stored.metadata.deleting = true from hdel'] at hdel
    cases hdel
  · refine (normalStep_reconcileNormal (hsrc.congr rfl) hobj (.refl _)).imp fun r q hq o r' ho _ =>
      ?_
    obtain ⟨p₁, hobj₁, hstored₁, hcloud₁, hpatches₁, hhas, hstep⟩ := hq
    exact .ran p₁ q o hobj₁ hstored₁ (by rw [hcloud₁]; rfl) (by rw [hcloud₁]; rfl) hpatches₁
      (.inl hhas) hstep ho rfl rfl

end Capstk
