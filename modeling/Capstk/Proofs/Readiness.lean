import Capstk.Lib.Sha256
import Capstk.Proofs.ClusterRun

/-!
# `status.ready` and the `Ready` condition of a cluster

The two are written by separate statements. Every write of a pass either touches neither of them, or
it writes both (`setReady`, `setNotReady` and `cloudFailure` with `Ready` among their conditions).
Nothing is assumed of the cloud client or of what the API server answers. Conditions and status are
patched separately, so the stored object stays consistent as long as both patches of a delivery land
or both are lost.
-/

namespace Capstk

open Prog

/-- `status.ready` is true exactly when the `Ready` condition is. -/
def StackitCluster.ReadyAgrees (sc : StackitCluster) : Prop :=
  sc.status.ready = isStatusConditionTrue sc.conditions clusterReadyCondition

instance (sc : StackitCluster) : Decidable sc.ReadyAgrees := inferInstanceAs (Decidable (_ = _))

theorem isStatusConditionTrue_congr {cs cs' : List Condition} {t : String}
    (h : findStatusCondition cs' t = findStatusCondition cs t) :
    isStatusConditionTrue cs' t = isStatusConditionTrue cs t := by
  rw [isStatusConditionTrue, isStatusConditionTrue, h]

theorem isStatusConditionTrue_setConditions (cs : List Condition) (g : Int) (st : ConditionStatus)
    (reason message : String) (types : List String) (t : String) :
    isStatusConditionTrue (setConditions cs g st reason message types) t =
      if t ∈ types then st == .true else isStatusConditionTrue cs t := by
  unfold isStatusConditionTrue
  rw [findStatusCondition_setConditions]
  by_cases h : t ∈ types <;> simp [h]

namespace StackitCluster.ReadyAgrees
variable {o o' : StackitCluster}

theorem congr (h : o.ReadyAgrees) (hr : o'.status.ready = o.status.ready)
    (hc : findStatusCondition o'.conditions clusterReadyCondition = findStatusCondition o.conditions
      clusterReadyCondition) :
    o'.ReadyAgrees := by
  rw [ReadyAgrees, hr, isStatusConditionTrue_congr hc]
  exact h

theorem setConditions (h : o.ReadyAgrees) {st : ConditionStatus} {reason message : String}
    {types : List String} (ht : clusterReadyCondition ∉ types) :
    (o.setConditions st reason message types).ReadyAgrees := by
  refine h.congr rfl ?_
  rw [StackitCluster.setConditions, findStatusCondition_setConditions, if_neg ht]

theorem setNotReady {reason message : String} {types : List String}
    (ht : clusterReadyCondition ∈ types) :
    (o.setNotReady reason message types).ReadyAgrees := by
  rw [ReadyAgrees, StackitCluster.setNotReady, StackitCluster.setConditions,
    isStatusConditionTrue_setConditions, if_pos ht]
  rfl

theorem setReady : o.setReady.ReadyAgrees := by
  rw [ReadyAgrees, StackitCluster.setReady, StackitCluster.setConditions,
    isStatusConditionTrue_setConditions, if_pos (by simp)]
  rfl

theorem setPausedCondition (h : o.ReadyAgrees) (g : Int) (paused : Option String) :
    ({ o with conditions := Capstk.setPausedCondition o.conditions g paused } :
      StackitCluster).ReadyAgrees := by
  refine h.congr rfl ?_
  cases paused <;>
    · rw [Capstk.setPausedCondition, findStatusCondition_setConditions, if_neg (by decide)]

/-- Conditions and status arrive together or not at all. -/
theorem deliver (h : o.ReadyAgrees) (h' : o'.ReadyAgrees) (d : PatchOutcome) :
    (Pass.deliver d o o').ReadyAgrees := by
  unfold Pass.deliver
  split <;> split
  · exact h
  · exact h'
  · exact h
  · exact h'

end StackitCluster.ReadyAgrees

/-- The invariant of a pass. -/
structure Agrees {σ : Type} (p : Pass StackitCluster σ) : Prop where
  obj : p.obj.ReadyAgrees
  stored : p.stored.ReadyAgrees

namespace Agrees
variable {σ : Type} {p : Pass StackitCluster σ}

theorem setObj (h : Agrees p) {o : StackitCluster} (ho : o.ReadyAgrees) :
    Agrees { p with obj := o } :=
  ⟨ho, h.stored⟩

theorem patched (h : Agrees p) (d : PatchOutcome) (patches : List PatchOutcome) :
    Agrees { p with stored := Pass.deliver d p.obj p.stored, patches } :=
  ⟨h.obj, h.obj.deliver h.stored d⟩

end Agrees

namespace ClusterReconciler
variable {σ : Type} {env : Env σ} {client : Client σ}

/-! ### Primitives -/

theorem agrees_call {α : Type} (x : Call σ α) : Preserves Agrees (Pass.call x : Step σ α) :=
  fun _ h =>
  ⟨h.obj, h.stored⟩

theorem agrees_persistFinalizer : Preserves Agrees (persistFinalizer : Step σ Unit) := by
  intro p h
  refine wp_persistFinalizer (Q := fun _ q => Agrees q) (fun _ => h) fun _ _ _ => ?_
  have hobj : Agrees { p with obj := withFinalizer p.obj } := h.setObj (h.obj.congr rfl rfl)
  exact hobj.patched _ _

/-! ### `reconcileNormal` -/

theorem agrees_resourceWrite {f : StackitCluster → StackitCluster} (hf : ResourceWrite f)
    (p : Pass StackitCluster σ) (h : Agrees p) : Agrees { p with obj := f p.obj } := by
  refine h.setObj ?_
  cases hf with
  | condition st reason message type _ hready =>
    exact h.obj.setConditions (by simpa using hready.symm)
  | notReady reason message types _ hready => exact .setNotReady hready
  | failureDomains domains => exact h.obj.congr rfl rfl
  | endpoint endpoint => exact h.obj.congr rfl rfl
  | external =>
    have hstatus : ({ p.obj with status := { p.obj.status with
        apiServerEndpoint := p.obj.spec.controlPlaneEndpoint } } : StackitCluster).ReadyAgrees :=
          h.obj.congr rfl rfl
    exact hstatus.setConditions (by decide)

/-- A failed update of the targets keeps both: it is scoped to the load balancer. -/
theorem resourceFrame_agrees (env : Env σ) (client : Client σ) :
    ResourceFrame env client fun p q => Agrees p → Agrees q where
  toClosed := Closed.imp Agrees
  write := agrees_resourceWrite
  zones := agrees_call _
  network := keeps_ensureNetwork (Closed.imp Agrees) (fun _ _ h => h.setObj (h.obj.congr rfl rfl))
    (fun _ _ _ _ h => h.setObj (.setNotReady (by decide))) (fun _ => agrees_call _) fun p _ =>
    agrees_call _ p
  loadBalancer _ _ _ p := ⟨agrees_call _ p, fun _ _ h => ⟨h.obj.congr rfl rfl, h.stored⟩⟩
  targets _ _ _ _ := agrees_call _

theorem bastionFrame_agrees (client : Client σ) :
    BastionFrame client fun p q => Agrees p → Agrees q where
  toClosed := Closed.imp Agrees
  write hf p h := by
    refine h.setObj ?_
    cases hf with
    | condition st reason message => exact h.obj.setConditions (by decide)
    | notReady reason message => exact .setNotReady (by decide)
    | status b hash => exact h.obj.congr rfl rfl
    | cleared => exact h.obj.congr rfl rfl
    | ready => exact .setReady
  deleteNodeSSHAccess _ := ⟨agrees_call _, agrees_call _⟩
  deleteBastion _ _ := ⟨agrees_call _, agrees_call _⟩
  ensureBastion _ := agrees_call _

theorem agrees_reconcileNormal : Preserves Agrees (reconcileNormal env) :=
  keeps_reconcileNormal (C := fun _ => True) (Closed.imp _) agrees_persistFinalizer
    (fun _ _ _ => trivial)
    (fun client _ => resourceFrame_agrees env client) agrees_resourceWrite fun client _ =>
    bastionFrame_agrees client

/-! ### `reconcileDelete` -/

theorem agrees_deleteWrite {f : StackitCluster → StackitCluster} (hf : DeleteWrite f)
    (p : Pass StackitCluster σ) (h : Agrees p) : Agrees { p with obj := f p.obj } := by
  refine h.setObj ?_
  cases hf with
  | condition reason message type hready => exact h.obj.setConditions (by simpa using hready.symm)
  | loadBalancer => exact h.obj.congr rfl rfl
  | bastion => exact h.obj.congr rfl rfl
  | finalizer => exact h.obj.congr rfl rfl

theorem deleteFrame_agrees (client : Client σ) :
    DeleteFrame client fun p q => Agrees p → Agrees q where
  toClosed := Closed.imp Agrees
  write := agrees_deleteWrite
  resolveLoadBalancerID _ := agrees_call _
  deleteLoadBalancer _ := agrees_call _
  deleteNodeSSHAccess _ := agrees_call _
  deleteBastion _ _ := agrees_call _
  network := keeps_deleteManagedNetwork (Closed.imp _) (fun _ _ h => h.setObj (h.obj.congr rfl rfl))
    (fun _ _ h => h.setObj (h.obj.setConditions (by decide))) (fun _ => agrees_call _) fun _ =>
    agrees_call _

/-- A deletion touches neither. -/
theorem agrees_reconcileDelete (cluster : Cluster) :
    Preserves Agrees (reconcileDelete env cluster) :=
  keeps_reconcileDelete (C := fun _ => True) (Closed.imp _) agrees_deleteWrite
    (fun _ _ _ => trivial)
    (fun client _ => deleteFrame_agrees client) cluster

/-! ### `Reconcile` -/

theorem agrees_reconcile (answers : Answers) {p : Pass StackitCluster σ} (h : Agrees p)
    (hstored : p.stored.ReadyAgrees) : wp (reconcile answers env) (fun _ q => Agrees q) p := by
  refine wp_reconcile (fun _ _ => h) fun cluster _ => Pass.wp_withDeferredPatch ?_
  have hpaused : Agrees { p with obj := withPaused cluster p.stored } :=
    h.setObj (hstored.setPausedCondition _ _)
  have hend : wp (reconcileScope env cluster) (fun _ q => Agrees q) { p with obj := p.stored } :=
    wp_reconcileScope (fun _ => hpaused) (fun _ _ => agrees_reconcileDelete cluster _ hpaused)
      fun _ _ => agrees_reconcileNormal _ hpaused
  exact hend.imp fun r q hq o r' _ _ => hq.patched o _

/-- **Readiness is consistent.** Whatever the cloud client and the API server answer and wherever a
pass ends, the object it leaves has `status.ready` true exactly when its `Ready` condition is true,
and so has the stored object, whichever patches are lost. -/
theorem readiness_stays_consistent (answers : Answers) (env : Env σ) (sc : StackitCluster)
    (patches : List PatchOutcome) (cloud : σ) (hsc : sc.ReadyAgrees) :
    let q := (reconcile answers env).after { obj := sc, stored := sc, patches, cloud }
    q.obj.ReadyAgrees ∧ q.stored.ReadyAgrees := by
  intro q
  have h : Agrees q := agrees_reconcile answers ⟨hsc, hsc⟩ hsc
  exact ⟨h.obj, h.stored⟩

/-- The first pass over a cluster becomes ready; its last status is lost. -/
theorem readiness_stays_consistent_lostPatch :
    let lost : PatchOutcome := { status := .failed }
    let sc := (ClusterWorld.sample ClusterWorld.sampleSpec).stored
    let answers : Answers :=
      { getOwnerCluster := .ok (some { metadata := { name := "c", namespace' := "ns" } }) }
    let env : Env Session :=
      { source := .connected, getConfigMap := fun _ => .error ⟨none, "not found"⟩,
        machines := .ok [],
        controlPlaneMachines := .ok [], sha256Hex := Sha256.hex }
    let q := (reconcile answers env).after
      { obj := sc, stored := sc, patches := [{}, lost], cloud := { cloud := { ids := .unary } } }
    (q.obj.status.ready = true ∧ q.stored.status.ready = false) ∧
      q.obj.ReadyAgrees ∧ q.stored.ReadyAgrees := by
  intro lost sc answers env q
  have h := readiness_stays_consistent answers env sc [{}, lost] { cloud := { ids := .unary } }
    (by decide)
  exact ⟨⟨by decide +kernel, by decide +kernel⟩, h⟩

end ClusterReconciler

end Capstk
