import Capstk.Proofs.ClusterRun
import Capstk.Proofs.MachineRun

/-!
# Deletions and their retries

A pass over an object that is being deleted either drops the finalizer, or it must be called again:
it returns an error or asks for a delay. The cluster controller always does. The machine controller
discards the delay that `CredentialFailureResult` asks for, so a pass that cannot use the
credentials ends without an error and without a delay. Nothing is assumed of the cloud client.
-/

namespace Capstk

open Prog

/-- If the finalizer is still there, the outcome brings the controller back: an error, or a
delay. -/
def Retried (finalizer : String) (m : ObjectMeta) (r : Except GoError Result) : Prop :=
  containsFinalizer m finalizer = true → ∀ res, r = .ok res → 0 < res.requeueAfter

/-- The stored object and the coming patches are still those from before. -/
def Unpatched {O σ : Type} (p q : Pass O σ) : Prop := q.stored = p.stored ∧ q.patches = p.patches

theorem Unpatched.closed {O σ : Type} : Closed (Unpatched (O := O) (σ := σ)) :=
  ⟨fun _ => ⟨rfl, rfl⟩, fun h h' => ⟨h'.1.trans h.1, h'.2.trans h.2⟩⟩

theorem unpatched_call {O σ α : Type} (x : Call σ α) :
    Keeps Unpatched (Pass.call x : Pass.Step O σ α) :=
  fun _ => ⟨rfl, rfl⟩

theorem unpatched_setObj {O σ : Type} (f : O → O) :
    Keeps Unpatched (Pass.setObj f : Pass.Step O σ Unit) :=
  fun _ => ⟨rfl, rfl⟩

theorem unpatched_getObj {O σ : Type} : Keeps Unpatched (Pass.getObj : Pass.Step O σ O) :=
  fun _ => ⟨rfl, rfl⟩

/-! ### The cluster controller -/

namespace ClusterReconciler
variable {σ : Type}

/-- How the body of a deletion may end without an error. -/
def Finished (r : Result) (q : Pass StackitCluster σ) : Prop :=
  0 < r.requeueAfter ∨ containsFinalizer q.obj.metadata clusterFinalizer = false

theorem finished_dropFinalizer (p : Pass StackitCluster σ) :
    wp (do dropFinalizer; pure {} : Step σ Result) (Via Unpatched p Finished) p := by
  refine wp_via_bind (P := fun _ q => containsFinalizer q.obj.metadata clusterFinalizer = false)
    Unpatched.closed ?_
    fun _ q _ hq => wp_via_pure Unpatched.closed (.inr hq)
  exact .ok ⟨rfl, rfl⟩ (containsFinalizer_removeFinalizer _ _)

theorem finished_deleteManagedNetwork (client : Client σ) (p : Pass StackitCluster σ) :
    wp (deleteManagedNetwork client)
      (Via Unpatched p fun r _ => ∀ res, r = some res → 0 < res.requeueAfter) p := by
  have hR := Unpatched.closed (O := StackitCluster) (σ := σ)
  refine wp_via_bind hR unpatched_getObj.via fun sc p₁ _ _ =>
    wp_via_bind hR (unpatched_call _).via fun id p₂ _ _ => ?_
  refine wp_ite (fun _ => wp_via_pure hR fun res h => by cases h) fun _ => ?_
  refine wp_via_bind hR (unpatched_call _).attempt.via fun r p₃ _ _ => ?_
  cases r with
  | ok _ =>
    exact wp_via_bind hR (unpatched_setObj _).via fun _ p₄ _ _ => wp_via_pure hR fun res h => by
      cases h
  | error err =>
    refine wp_ite (fun _ => ?_) fun _ => wp_via_fail hR err
    refine wp_via_bind hR (unpatched_setObj _).via fun _ p₄ _ _ => wp_via_pure hR fun res h => ?_
    cases h
    exact Nat.zero_lt_succ 4

theorem finished_reconcileDelete (env : Env σ) (cluster : Cluster) (p : Pass StackitCluster σ) :
    wp (reconcileDelete env cluster) (Via Unpatched p Finished) p := by
  have hR := Unpatched.closed (O := StackitCluster) (σ := σ)
  refine wp_reconcileDelete (fun _ r hr => ⟨hR.refl p, fun res hres => .inl (hr res hres)⟩)
    (fun _ _ _ => finished_dropFinalizer p) (fun _ _ _ => .error ⟨rfl, rfl⟩) fun client _ => ?_
  have hlb : Keeps Unpatched (deleteLoadBalancer client) :=
    .bind hR unpatched_getObj fun sc => .bind hR (unpatched_call _) fun id => .ite (.pure hR ())
      (.bind hR (unpatched_call _) fun _ => unpatched_setObj _)
  have hbastion : Keeps Unpatched (deleteBastion client) :=
    .bind hR unpatched_getObj fun sc => .bind hR (unpatched_call _) fun _ =>
      .bind hR (unpatched_call _) fun _ => .ite (unpatched_setObj _) (.pure hR ())
  refine wp_via_bind hR hlb.via fun _ p₂ _ _ => wp_via_bind hR hbastion.via fun _ p₃ _ _ => ?_
  refine wp_via_bind hR (finished_deleteManagedNetwork client p₃) fun r p₄ _ hr => ?_
  cases r with
  | some res => exact wp_via_pure hR (.inl (hr res rfl))
  | none => exact finished_dropFinalizer p₄

theorem deliver_succeeds {d : PatchOutcome} (hd : d.succeeds = true) (o o' : StackitCluster) :
    (Pass.deliver d o o').metadata.finalizers = o.metadata.finalizers := by
  simp only [PatchOutcome.succeeds, Bool.and_eq_true, beq_iff_eq] at hd
  obtain ⟨hm, hs⟩ := hd
  simp only [Pass.deliver, hm, hs, Delivery.lands, if_true]
  rfl

/-- The object is being deleted and not paused, and its owner resolves. -/
structure Deletes (answers : Answers) (sc : StackitCluster) (cluster : Cluster) : Prop where
  deleting : sc.metadata.deleting = true
  notPaused : reconciliationPaused (some cluster) sc.metadata = none
  read : answers.getStackitCluster = none
  owner : answers.getOwnerCluster = .ok (some cluster)

/-- Every deletion pass of the cluster controller drops the finalizer or comes back. -/
theorem retried_reconcile {answers : Answers} {env : Env σ} {cluster : Cluster}
    {p : Pass StackitCluster σ} (h : Deletes answers p.stored cluster) :
    wp (reconcile answers env) (fun r q => Retried clusterFinalizer q.stored.metadata r) p := by
  unfold reconcile
  rw [wp_bind, wp_get, next_ok]
  refine wp_ite (fun hgone hfin => ?gone) fun _ => ?_
  case gone =>
    change containsFinalizer p.stored.metadata clusterFinalizer = true at hfin
    simp only [ObjectMeta.gone, Bool.and_eq_true, List.isEmpty_iff] at hgone
    simp [containsFinalizer, hgone.2] at hfin
  simp only [h.read, h.owner]
  split
  · exact fun _ res hres => by cases hres
  rw [Pass.wp_setObj_bind]
  refine Pass.wp_withDeferredPatch ?_
  refine wp_reconcileScope (fun hpaused => absurd h.notPaused hpaused) (fun _ _ => ?_)
    fun _ halive => by cases halive.symm.trans h.deleting
  refine (finished_reconcileDelete env cluster _).imp ?_
  rintro r q ⟨_, hr⟩ o r' _ hr' hfin res hres
  rcases hr' with ⟨rfl, hs⟩ | ⟨rfl, -⟩
  · -- the patch was applied: the stored finalizers are those of the copy
    rcases hr res hres with hpos | hgone
    · exact hpos
    · rw [containsFinalizer, deliver_succeeds (hs res hres)] at hfin
      rw [containsFinalizer] at hgone
      rw [hgone] at hfin
      cases hfin
  · cases hres

end ClusterReconciler

/-! ### The machine controller -/

namespace MachineReconciler
variable {σ : Type}

/-- The errors for which `CredentialFailureResult` asks for a delay instead of returning them. -/
def waitsForCredentials (err : GoError) : Bool :=
  isUnauthorized err || isInvalidInput err || err.wraps == some .errCredentialsInvalid

/-- The credentials cannot be used, and not because the Secret is missing. -/
def CredentialsStuck (src : ClientSource σ) (sc : StackitCluster) : Prop :=
  ∃ err, buildCloudClient src sc = .error err ∧ waitsForCredentials err = true

theorem waits_not_isAPINotFound {err : GoError} (h : waitsForCredentials err = true) :
    isAPINotFound err = false := by
  obtain ⟨wraps, text⟩ := err
  rcases wraps with _ | s
  · rfl
  · cases s <;> first | rfl | cases h

/-- How the body of a deletion ends: with the finalizer dropped, with an error, or stuck. -/
theorem wp_reconcileDelete_stuck (src : ClientSource σ) (ctx : MachineContext)
    (p : Pass StackitMachine σ) :
    wp (reconcileDelete src ctx) (fun r q => Unpatched p q ∧
      (CredentialsStuck src ctx.stackitCluster → r = .ok () ∧ q.obj.metadata = p.obj.metadata) ∧
      (¬ CredentialsStuck src ctx.stackitCluster → r = .ok () →
        containsFinalizer q.obj.metadata machineFinalizer = false)) p := by
  have hdropped : ∀ o : StackitMachine,
      containsFinalizer (withoutFinalizer o).metadata machineFinalizer = false :=
    fun _ => containsFinalizer_removeFinalizer _ _
  refine wp_reconcileDelete
    (fun err herr hmissing => ⟨⟨rfl, rfl⟩, fun ⟨err', herr', hw⟩ => ?_, fun _ _ => hdropped _⟩)
    (fun err herr _ => ⟨⟨rfl, rfl⟩, fun ⟨err', herr', hw⟩ => ?_, fun hnot hr => ?_⟩)
    fun client hclient => ?_
  · cases herr.symm.trans herr'
    rw [waits_not_isAPINotFound hw] at hmissing
    cases hmissing
  · cases herr.symm.trans herr'
    exact ⟨if_pos hw, rfl⟩
  · split at hr
    · exact absurd ⟨err, herr, ‹_›⟩ hnot
    · cases hr
  · have hnot : ¬ CredentialsStuck src ctx.stackitCluster :=
      fun ⟨err, herr, _⟩ => by cases hclient.symm.trans herr
    have hbody : wp (deleteInstance client ctx) (fun r q => Unpatched p q ∧
        (r = .ok () → containsFinalizer q.obj.metadata machineFinalizer = false)) p := by
      refine wp_deleteInstance (wp_orError_of_forall (fun id s => ⟨fun _ => ?_, fun _ => ?_⟩)
        fun _ _ => ⟨⟨rfl, rfl⟩, fun hr => by cases hr⟩)
      · exact wp_orError_of_forall (fun _ _ => ⟨⟨rfl, rfl⟩, fun _ => hdropped _⟩)
          fun _ _ => ⟨⟨rfl, rfl⟩, fun hr => by cases hr⟩
      · exact ⟨⟨rfl, rfl⟩, fun _ => hdropped _⟩
    exact hbody.imp fun r q hq => ⟨hq.1, fun h => absurd h hnot, fun _ => hq.2⟩

/-- The object is being deleted and not paused, and its owners resolve. -/
structure Deletes (answers : Answers σ) (sm : StackitMachine) (ctx : MachineContext) : Prop where
  deleting : sm.metadata.deleting = true
  notPaused : reconciliationPaused (some ctx.cluster) sm.metadata = none
  read : answers.getStackitMachine = none
  owners : lookupContext answers = .ok (some ctx)

/-- A deletion pass of the machine controller comes back unless the credentials are stuck, the
object has the finalizer and the patch is applied. -/
theorem retried_reconcile_iff {answers : Answers σ} {ctx : MachineContext}
    {p : Pass StackitMachine σ} (h : Deletes answers p.stored ctx) :
    wp (reconcile answers) (fun r q => Retried machineFinalizer q.stored.metadata r ↔
      ¬ (CredentialsStuck answers.source ctx.stackitCluster ∧
        containsFinalizer p.stored.metadata machineFinalizer = true ∧
        (p.patches.headD {}).succeeds = true)) p := by
  refine wp_reconcile (fun hno r => ?gone) fun ctx' hscope => Pass.wp_withDeferredPatch ?_
  case gone =>
    have hnone : ¬ containsFinalizer p.stored.metadata machineFinalizer = true := fun hfin => by
      refine hno ctx ⟨?_, h.read, h.owners⟩
      have hmem : machineFinalizer ∈ p.stored.metadata.finalizers := by
        simpa [containsFinalizer] using hfin
      rw [ObjectMeta.gone, Bool.and_eq_false_iff]
      exact .inr (List.isEmpty_eq_false_iff_exists_mem.2 ⟨_, hmem⟩)
    exact ⟨fun _ hbad => hnone hbad.2.1, fun _ hfin => absurd hfin hnone⟩
  cases hscope.owners.symm.trans h.owners
  refine wp_reconcileScope (fun hpaused => absurd h.notPaused hpaused) (fun _ _ => ?_)
    fun _ halive => (by cases halive.symm.trans h.deleting)
  refine (wp_reconcileDelete_stuck answers.source ctx _).imp ?_
  rintro r q ⟨⟨hstored, hpatches⟩, hstuck, hdone⟩ o r' ho hr'
  cases r with
  | error err =>
    have hne : ∀ res, r' ≠ .ok res := by
      rcases hr' with ⟨rfl, -⟩ | ⟨rfl, -⟩ <;> exact fun res hres => by cases hres
    refine ⟨fun _ hbad => ?_, fun _ _ res hres => absurd hres (hne res)⟩
    cases (hstuck hbad.1).1
  | ok _ =>
    change q.patches = p.patches at hpatches
    rw [hpatches] at ho ⊢
    subst ho
    rcases hr' with ⟨rfl, hs⟩ | ⟨rfl, hs⟩
    · have happlied := hs {} rfl
      rw [Retried, containsFinalizer, deliver_finalizers happlied]
      by_cases hcred : CredentialsStuck answers.source ctx.stackitCluster
      · rw [(hstuck hcred).2]
        refine ⟨fun hr hbad => ?_, fun hr hfin => absurd ⟨hcred, hfin, happlied⟩ hr⟩
        exact absurd (hr hbad.2.1 {} rfl) (Nat.lt_irrefl 0)
      · refine ⟨fun _ hbad => hcred hbad.1, fun _ hfin => ?_⟩
        have hgone := hdone hcred rfl
        rw [containsFinalizer] at hgone
        rw [hgone] at hfin
        cases hfin
    · refine ⟨fun _ hbad => ?_, fun _ _ res hres => by cases hres⟩
      rw [hbad.2.2] at hs
      cases hs

end MachineReconciler

/-! ### Both controllers -/

/-- **Deletion keeps retrying.** A pass over an object that is being deleted, not paused and whose
owners resolve drops the finalizer or comes back, whatever the API server and the cloud answer:
always for a cluster; for a machine unless the credentials are unusable for another reason than a
missing Secret, while the object has the finalizer and the patch is applied. -/
theorem deletion_keeps_retrying {σ : Type} (cloud : σ) (patches : List PatchOutcome) :
    (∀ (answers : ClusterReconciler.Answers) (env : ClusterReconciler.Env σ) (cluster :
      Cluster) (sc : StackitCluster),
      ClusterReconciler.Deletes answers sc cluster →
      let pass :=
        ClusterReconciler.reconcile answers env { obj := sc, stored := sc, patches, cloud }
      Retried clusterFinalizer pass.2.stored.metadata pass.1) ∧
    ∀ (answers : MachineReconciler.Answers σ) (ctx : MachineContext) (sm : StackitMachine),
      MachineReconciler.Deletes answers sm ctx →
      let pass := MachineReconciler.reconcile answers { obj := sm, stored := sm, patches, cloud }
      (Retried machineFinalizer pass.2.stored.metadata pass.1 ↔
        ¬ (MachineReconciler.CredentialsStuck answers.source ctx.stackitCluster ∧
          containsFinalizer sm.metadata machineFinalizer = true ∧
          (patches.headD {}).succeeds = true)) := by
  refine ⟨fun answers env cluster sc h => ?_, fun answers ctx sm h => ?_⟩
  · exact ClusterReconciler.retried_reconcile (p := { obj := sc, stored := sc, patches, cloud }) h
  · exact MachineReconciler.retried_reconcile_iff (p := { obj := sm, stored := sm, patches, cloud })
      h

namespace MachineReconciler

def deletedMachine : StackitMachine :=
  { metadata :=
      { name := "m", namespace' := "ns", deleting := true, finalizers := [machineFinalizer] }
    spec := {} }

/-- The server cannot be looked up: the finalizer stays and the error is returned. -/
theorem deletion_keeps_retrying_failure :
    let cloud : Session := { cloud := { ids := .unary }, outcomes := [.failedBefore .timeout] }
    let pass := reconcile MachineWorld.sampleAnswers
      { obj := deletedMachine, stored := deletedMachine, cloud }
    containsFinalizer pass.2.stored.metadata machineFinalizer = true ∧
      Retried machineFinalizer pass.2.stored.metadata pass.1 := by
  intro cloud pass
  refine ⟨by decide +kernel, ((deletion_keeps_retrying cloud []).2 _ _ _ ⟨rfl, rfl, rfl, rfl⟩).2 ?_⟩
  rintro ⟨⟨err, herr, -⟩, -⟩
  cases herr

/-- The Secret is there but has no service account key: the pass ends without an error and without a
delay, and the finalizer stays. -/
theorem deletion_stops_retrying :
    let answers : Answers Session :=
      { MachineWorld.sampleAnswers with
        source := { getSecret := fun _ => .ok ⟨∅⟩, factory := some fun _ => .ok sdkClient } }
    let cloud : Session := { cloud := { ids := .unary } }
    let pass := reconcile answers { obj := deletedMachine, stored := deletedMachine, cloud }
    (∃ ctx, Deletes answers deletedMachine ctx) ∧ pass.1 = .ok {} ∧
      containsFinalizer pass.2.stored.metadata machineFinalizer = true := by
  intro answers cloud pass
  exact ⟨⟨_, rfl, rfl, rfl, rfl⟩, rfl, by decide +kernel⟩

end MachineReconciler

end Capstk
