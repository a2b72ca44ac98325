import Capstk.Proofs.MachineRun
import Capstk.Proofs.Readiness

/-!
# `status.ready` and the `Ready` condition of a machine

Unlike the cluster's, two exits of a machine pass write only one of the two: without the bootstrap
data or without a cloud client the condition becomes false and `status.ready` stays what it was. A
machine that was ready is then torn between the two; every other exit leaves them in agreement.
-/

namespace Capstk

open Prog

/-- `status.ready` is true exactly when the `Ready` condition is. -/
def StackitMachine.ReadyAgrees (sm : StackitMachine) : Prop :=
  sm.status.ready = isStatusConditionTrue sm.conditions machineReadyCondition

instance (sm : StackitMachine) : Decidable sm.ReadyAgrees := inferInstanceAs (Decidable (_ = _))

namespace StackitMachine.ReadyAgrees
variable {o o' : StackitMachine} {reason message : String} {types : List String}

theorem congr (h : o.ReadyAgrees) (hr : o'.status.ready = o.status.ready)
    (hc : findStatusCondition o'.conditions machineReadyCondition = findStatusCondition o.conditions
      machineReadyCondition) :
    o'.ReadyAgrees := by
  rw [ReadyAgrees, hr, isStatusConditionTrue_congr hc]
  exact h

theorem setPausedCondition (h : o.ReadyAgrees) (g : Int) (paused : Option String) :
    ({ o with conditions := Capstk.setPausedCondition o.conditions g paused } :
      StackitMachine).ReadyAgrees := by
  refine h.congr rfl ?_
  cases paused <;>
    · rw [Capstk.setPausedCondition, findStatusCondition_setConditions, if_neg (by decide)]

theorem condition_false_iff (ht : machineReadyCondition ∈ types) (g : Int) :
    ({ o with conditions := Capstk.setConditions o.conditions g .false reason message types } :
      StackitMachine).ReadyAgrees ↔
      o.status.ready = false := by
  show o.status.ready = isStatusConditionTrue (Capstk.setConditions _ _ _ _ _ _)
    machineReadyCondition ↔ _
  rw [isStatusConditionTrue_setConditions, if_pos ht]
  exact Iff.rfl

theorem setNotReady (ht : machineReadyCondition ∈ types) :
    (o.setNotReady reason message types).ReadyAgrees :=
  (condition_false_iff ht _).2 rfl

theorem cloudFailed (ht : machineReadyCondition ∈ types) :
    (MachineReconciler.cloudFailed o reason message types).ReadyAgrees :=
  (condition_false_iff ht _).2 rfl

theorem setReady : o.setReady.ReadyAgrees := by
  show true = isStatusConditionTrue (Capstk.setConditions _ _ _ _ _ _) machineReadyCondition
  rw [isStatusConditionTrue_setConditions, if_pos (by simp)]
  rfl

end StackitMachine.ReadyAgrees

namespace MachineReconciler
variable {σ : Type} {src : ClientSource σ} {ctx : MachineContext} {p : Pass StackitMachine σ}

/-- Whether the exits that only write the condition are taken: there are no bootstrap data, or no
client for the credentials. -/
def Unprovided (src : ClientSource σ) (ctx : MachineContext) : Prop :=
  (∃ e, fetchBootstrapData src ctx.machine = .error e) ∨
    ∃ e, buildCloudClient src ctx.stackitCluster = .error e

theorem wp_reconcileServer_ready (client : Client σ) (server : Server) :
    wp (reconcileServer client ctx server)
      (fun _ q => q.obj.ReadyAgrees ∧ q.patches = p.patches) p := by
  exact wp_reconcileServer (P := fun _ _ => True) (fun _ => ⟨.setNotReady (by decide), rfl⟩)
    (fun _ => trivial) (fun _ _ => ⟨.setReady, rfl⟩) fun _ _ _ _ =>
    ⟨.cloudFailed (by decide), rfl⟩

theorem wp_reconcileInstance_ready (client : Client σ) (data : String) :
    wp (reconcileInstance client ctx data)
      (fun _ q => q.obj.ReadyAgrees ∧ q.patches = p.patches) p := by
  exact wp_reconcileInstance (P := fun _ _ => True) trivial
    (fun server _ _ => wp_reconcileServer_ready client server)
    (fun _ _ _ _ => ⟨.setNotReady (by decide), rfl⟩) fun _ _ _ _ _ =>
    ⟨.cloudFailed (by decide), rfl⟩

theorem wp_reconcileBootstrap_ready :
    wp (reconcileBootstrap src ctx) (fun _ q =>
      (q.obj.ReadyAgrees ↔ ¬ (Unprovided src ctx ∧ p.obj.status.ready = true)) ∧
        q.patches = p.patches) p := by
  -- an exit that only writes the condition
  have htorn : Unprovided src ctx →
      (p.obj.status.ready = false ↔ ¬ (Unprovided src ctx ∧ p.obj.status.ready = true)) :=
        fun h => by
    simp [h]
  refine wp_reconcileBootstrap (fun reason message hfetch => ?_) (fun data err _ hclient _ => ?_)
    fun data client hfetch hclient => ?_
  · refine ⟨Iff.trans ?_ (htorn (.inl ⟨_, hfetch⟩)), rfl⟩
    exact StackitMachine.ReadyAgrees.condition_false_iff (by decide) _
  · refine ⟨Iff.trans ?_ (htorn (.inr ⟨_, hclient⟩)), rfl⟩
    exact StackitMachine.ReadyAgrees.condition_false_iff (by decide) _
  · have hprovided : ¬ Unprovided src ctx := by
      rintro (⟨e, he⟩ | ⟨e, he⟩)
      · cases hfetch.symm.trans he
      · cases hclient.symm.trans he
    refine (wp_reconcileInstance_ready client data).imp fun _ _ h => ⟨?_, h.2⟩
    exact ⟨fun _ hbad => hprovided hbad.1, fun _ => h.1⟩

/-- A pass gets as far as the bootstrap data with a machine that was ready, and then cannot go
on. -/
structure Torn (src : ClientSource σ) (ctx : MachineContext) (p : Pass StackitMachine σ) :
    Prop where
  finalizer : FinalizerPersists p
  cluster : ctx.stackitCluster.status.ready = true
  zone : validateMachineAvailabilityZone ctx p.obj = none
  unprovided : Unprovided src ctx
  ready : p.obj.status.ready = true

theorem wp_reconcileNormal_ready (h : p.obj.ReadyAgrees) :
    wp (reconcileNormal src ctx) (fun _ q =>
      (q.obj.ReadyAgrees ↔ ¬ Torn src ctx p) ∧ (p.patches = [] → q.patches = [])) p := by
  have hkept : ∀ {o : StackitMachine}, o.ReadyAgrees → ¬ Torn src ctx p →
      (o.ReadyAgrees ↔ ¬ Torn src ctx p) :=
    fun ho hnot => ⟨fun _ => hnot, fun _ => ho⟩
  refine wp_reconcileNormal_of_persist
    (P := fun r q => (r = .ok () ↔ FinalizerPersists p) ∧
      (∃ m, q.obj = { p.obj with metadata := m }) ∧ (p.patches = [] → q.patches = []))
    (wp_persistFinalizer_iff fun r q hr _ hobj hpatches => ⟨hr, hobj, hpatches⟩) ?_ ?_
  · rintro err q ⟨hr, ⟨m, hobj⟩, hpatches⟩
    refine ⟨hkept (by rw [hobj]; exact h) fun htorn => ?_, hpatches⟩
    cases hr.2 htorn.finalizer
  · rintro q ⟨hr, ⟨m, hobj⟩, hpatches⟩
    have hzone : validateMachineAvailabilityZone ctx q.obj = validateMachineAvailabilityZone ctx
        p.obj := by rw [hobj]; rfl
    refine ⟨fun hnot => ⟨hkept (.setNotReady (by decide)) fun htorn => ?_, hpatches⟩,
      fun _ message hbad => ⟨hkept (.setNotReady (by decide)) fun htorn => ?_, hpatches⟩,
      fun hready hgood => ?_⟩
    · cases hnot.symm.trans htorn.cluster
    · cases htorn.zone.symm.trans (hzone.symm.trans hbad)
    · refine wp_reconcileBootstrap_ready.imp fun _ q' hq' =>
        ⟨hq'.1.trans (not_congr ⟨fun hbad => ?_, fun htorn => ?_⟩), fun hnil => ?_⟩
      · have hstatus : p.obj.status.ready = true := by rw [← hbad.2, hobj]
        exact ⟨hr.1 rfl, hready, hzone.symm.trans hgood, hbad.1, hstatus⟩
      · exact ⟨htorn.unprovided, by rw [hobj]; exact htorn.ready⟩
      · rw [hq'.2]
        exact hpatches hnil

/-- A deletion touches neither. -/
theorem agrees_reconcileDelete (h : p.obj.ReadyAgrees) :
    wp (reconcileDelete src ctx) (fun _ q => q.obj.ReadyAgrees ∧ q.patches = p.patches) p := by
  have hset : ∀ {o : StackitMachine} {s : σ}, o.status.ready = p.obj.status.ready →
      o.conditions = p.obj.conditions →
      ({ p with obj := o, cloud := s } : Pass StackitMachine σ).obj.ReadyAgrees ∧
        ({ p with obj := o, cloud := s } : Pass StackitMachine σ).patches = p.patches :=
    fun hready hcs =>
      ⟨h.congr hready (congrArg (findStatusCondition · machineReadyCondition) hcs), rfl⟩
  refine wp_reconcileDelete (fun _ _ _ => hset rfl rfl) (fun _ _ _ => ⟨h.congr rfl ?_, rfl⟩)
    fun client _ => wp_deleteInstance
      (wp_orError_of_forall (fun id s => ?_) fun _ _ => hset rfl rfl)
  · exact (findStatusCondition_setConditions _ _ _ _ _ _ _).trans (if_neg (by decide))
  · exact ⟨fun _ => wp_orError_of_forall (fun _ _ => hset rfl rfl) fun _ _ => hset rfl rfl,
      fun _ => hset rfl rfl⟩

/-- The pass resolves its owners, and is neither paused nor a deletion. -/
structure Normal (answers : Answers σ) (sm : StackitMachine) (ctx : MachineContext) : Prop where
  kept : sm.metadata.deleting = false
  notPaused : reconciliationPaused (some ctx.cluster) sm.metadata = none
  read : answers.getStackitMachine = none
  owners : lookupContext answers = .ok (some ctx)

theorem wp_reconcileScope_ready {sm : StackitMachine} {answers : Answers σ} (hobj : p.obj = sm)
    (h : sm.ReadyAgrees) (hread : answers.getStackitMachine = none)
    (hctx : lookupContext answers = .ok (some ctx)) :
    wp (reconcileScope answers.source ctx) (fun _ q =>
      (q.obj.ReadyAgrees ↔ ¬ ∃ ctx, Normal answers sm ctx ∧ Torn answers.source ctx p) ∧
        (p.patches = [] → q.patches = [])) p := by
  subst hobj
  have hsame : ∀ ctx', Normal answers p.obj ctx' → ctx' = ctx := fun ctx' hn => by
    have howners := hn.owners
    rw [hctx] at howners
    cases howners
    rfl
  have hpaused : (withPaused ctx p.obj).ReadyAgrees :=
    h.setPausedCondition p.obj.metadata.generation
      (reconciliationPaused (some ctx.cluster) p.obj.metadata)
  refine wp_reconcileScope (fun hp => ⟨⟨fun _ hbad => ?_, fun _ => hpaused⟩, id⟩)
    (fun _ hdel => ?_) fun hp hdel => ?_
  · obtain ⟨ctx', hn, -⟩ := hbad
    exact hp (hsame ctx' hn ▸ hn.notPaused)
  · refine (agrees_reconcileDelete (p := { p with obj := withPaused ctx p.obj }) hpaused).imp
      fun r q hq => ⟨⟨fun _ hbad => ?_, fun _ => hq.1⟩, fun hnil => hq.2.trans hnil⟩
    obtain ⟨ctx', hn, -⟩ := hbad
    cases hdel.symm.trans hn.kept
  · refine (wp_reconcileNormal_ready hpaused).imp fun r q hq =>
      ⟨hq.1.trans (not_congr ⟨fun ht => ?_, fun hbad => ?_⟩), hq.2⟩
    · exact ⟨ctx, ⟨hdel, hp, hread, hctx⟩, ht.finalizer, ht.cluster, ht.zone, ht.unprovided,
        ht.ready⟩
    · obtain ⟨ctx', hn, ht⟩ := hbad
      rw [hsame ctx' hn] at ht
      exact ⟨ht.finalizer, ht.cluster, ht.zone, ht.unprovided, ht.ready⟩

/-- **Readiness of a machine is consistent** after every pass, except one that comes as far as the
bootstrap data with a machine that was ready and then gets no bootstrap data or no cloud client. The
stored object is the one the pass leaves if no patch is lost. -/
theorem machine_readiness_iff (answers : Answers σ) (sm : StackitMachine)
    (patches : List PatchOutcome) (cloud : σ) (h : sm.ReadyAgrees) :
    let p : Pass StackitMachine σ := { obj := sm, stored := sm, patches, cloud }
    let q := (reconcile answers).after p
    (q.obj.ReadyAgrees ↔ ¬ ∃ ctx, Normal answers sm ctx ∧ Torn answers.source ctx p) ∧
      (patches = [] → (q.stored.ReadyAgrees ↔ q.obj.ReadyAgrees)) := by
  intro p q
  refine (?_ : wp (reconcile answers) (fun _ q =>
    (q.obj.ReadyAgrees ↔ ¬ ∃ ctx, Normal answers sm ctx ∧ Torn answers.source ctx p) ∧
      (patches = [] → (q.stored.ReadyAgrees ↔ q.obj.ReadyAgrees))) p)
  refine wp_reconcile (fun hno _ => ⟨⟨fun _ hbad => ?_, fun _ => h⟩, fun _ => Iff.rfl⟩)
    fun ctx hscope => Pass.wp_withDeferredPatch ?_
  · obtain ⟨ctx, hn, -⟩ := hbad
    have hthere : ObjectMeta.gone sm.metadata = false := by
      rw [ObjectMeta.gone, hn.kept, Bool.false_and]
    exact hno ctx ⟨hthere, hn.read, hn.owners⟩
  · refine (wp_reconcileScope_ready rfl h hscope.read hscope.owners).imp
      fun r q hq o r' ho _ => ⟨hq.1, fun hnil => ?_⟩
    -- the last patch is applied as a whole
    have happlied : o = {} := by rw [ho, hq.2 hnil]; rfl
    rw [happlied]
    exact Iff.rfl

/-- A machine that is ready, with the server `s`. -/
def readyMachine : StackitMachine where
  metadata := { name := "m", namespace' := "ns", finalizers := [machineFinalizer] }
  spec := {}
  status := { ready := true, provisioned := true, instanceID := "s" }
  conditions := [⟨machineReadyCondition, .true, "Available", "", 1⟩]

def readyCloud : Session where
  cloud :=
    { ids := .unary, servers := [{ id := "s", name := "m", labels := ∅, status := "ERROR" }] }

/-- The server has failed: both are false afterwards. -/
theorem machine_readiness_failedServer :
    let q := (reconcile MachineWorld.sampleAnswers).after
      { obj := readyMachine, stored := readyMachine, patches := [], cloud := readyCloud }
    q.obj.status.ready = false ∧ q.obj.ReadyAgrees ∧ q.stored.ReadyAgrees := by
  intro q
  have h := machine_readiness_iff MachineWorld.sampleAnswers readyMachine [] readyCloud (by decide)
  have hobj : q.obj.ReadyAgrees := by
    refine h.1.2 ?_
    rintro ⟨ctx, hn, ht⟩
    cases hn.owners
    rcases ht.unprovided with ⟨e, he⟩ | ⟨e, he⟩
    · cases he
    · cases he
  exact ⟨by decide +kernel, hobj, (h.2 rfl).2 hobj⟩

/-- The bootstrap Secret of a machine that is ready has been deleted: the condition is false then,
and `status.ready` still true. -/
theorem machine_readiness_lost :
    let answers : Answers Session :=
      { MachineWorld.sampleAnswers with
        source := { ClientSource.connected with
          getSecret := fun _ => .error (apiNotFoundError "gone") } }
    let q := (reconcile answers).after
      { obj := readyMachine, stored := readyMachine, patches := [], cloud := readyCloud }
    readyMachine.ReadyAgrees ∧ q.stored.status.ready = true ∧
      isStatusConditionTrue q.stored.conditions machineReadyCondition = false ∧
      ¬ q.obj.ReadyAgrees := by
  intro answers q
  refine ⟨by decide, by decide +kernel, by decide +kernel, by decide +kernel⟩

end MachineReconciler

end Capstk
