import Capstk.Webhook
import Capstk.Proofs.MachineRun
import Capstk.Proofs.Roles
import Capstk.Proofs.Webhook

/-!
# Labels and the selector of a machine

A machine finds its server by its current labels, the server carries those it was created with. The
webhook freezes the labels once `status.instanceID` is set; until then an edit may leave a server
behind that the machine no longer finds. Apart from such edits the selector stays valid.
-/

namespace Capstk

open Prog

namespace MachineIdentity
variable {m : MachineIdentity} {L L' : StringMap} {c c' : Cloud}

/-- The servers made for this machine, whatever its labels were at the time. -/
def servers (m : MachineIdentity) (c : Cloud) : List (String × StringMap) :=
  (labelled .server c).filter fun x => labelsContainTags x.2 (m.tags ∅)

/-- Every server of the machine carries the tags with the labels `L`. -/
def Carried (m : MachineIdentity) (L : StringMap) (c : Cloud) : Prop :=
  ∀ x ∈ m.servers c, labelsContainTags x.2 (m.tags L) = true

theorem tags_contain_base : labelsContainTags (m.tags L) (m.tags ∅) = true := by
  rw [labelsContainTags_iff, MachineIdentity.tags, MachineIdentity.tags, machineTags_sub_iff]
  refine ⟨⟨by simp, by simp, by simp, by simp, by simp⟩, fun k v _ hv => ?_⟩
  rw [AList.lookup_empty] at hv
  cases hv

/-- What the selector finds of the servers it is meant for. -/
theorem Carried.servers_nil (h : m.Carried L c) (hnone : taggedIDs (m.tags L) c = []) :
    m.servers c = [] := by
  refine List.eq_nil_iff_forall_not_mem.2 fun x hx => ?_
  have hmem : x.1 ∈ taggedIDs (m.tags L) c := mem_tagged.2 ⟨x.2, (List.mem_filter.1 hx).1, h x hx⟩
  rw [hnone] at hmem
  cases hmem

theorem Carried.sublist (h : m.Carried L c) (hsub : (m.servers c').Sublist (m.servers c)) :
    m.Carried L c' :=
  fun x hx => h x (hsub.subset hx)

theorem servers_append {id : String}
    (h : labelled .server c' = labelled .server c ++ [(id, m.tags L)]) :
    m.servers c' = m.servers c ++ [(id, m.tags L)] := by
  rw [servers, h, List.filter_append, servers]
  simp [tags_contain_base]

theorem servers_sublist (h : (labelled .server c').Sublist (labelled .server c)) :
    (m.servers c').Sublist (m.servers c) :=
  h.filter _

/-- Labels that the webhook considers equal give the same selector. -/
theorem Carried.sameLabels (h : m.Carried L c) (hL : Webhook.sameLabels L L' = true) :
    m.Carried L' c := by
  obtain ⟨hsub, hsub'⟩ := Bool.and_eq_true_iff.1 hL
  intro x hx
  have hx' := h x hx
  rw [labelsContainTags_iff, MachineIdentity.tags, machineTags_sub_iff] at hx' ⊢
  exact ⟨hx'.1, fun k v hk hv => hx'.2 k v hk (StringMap.subB_iff.1 hsub' k v hv)⟩

end MachineIdentity

/-- The webhook freezes the labels of a machine whose server is recorded. -/
theorem Webhook.sameLabels_of_admitted {rules : NameRules} {old new : StackitMachine}
    (h : admitsMachineUpdate rules old new = true) (hid : old.status.instanceID ≠ "") :
    sameLabels old.spec.additionalLabels new.spec.additionalLabels = true := by
  simp only [admitsMachineUpdate, List.isEmpty_iff, validateStackitMachineSpecUpdate,
    List.append_eq_nil_iff, check_eq_nil] at h
  have hlabels := h.2.2
  simpa [hid] using hlabels

/-! ### A pass -/

namespace MachineReconciler

/-- The labels of the copy and of the stored object. -/
structure Labels {σ : Type} (L : StringMap) (p : Pass StackitMachine σ) : Prop where
  obj : p.obj.spec.additionalLabels = L
  stored : p.stored.spec.additionalLabels = L

section labels
variable {σ : Type} {L : StringMap}

theorem Labels.write {p : Pass StackitMachine σ} (h : Labels L p) {o : StackitMachine} {t : σ}
    (ho : o.spec.additionalLabels = p.obj.spec.additionalLabels) :
    Labels L { p with obj := o, cloud := t } := ⟨ho.trans h.obj, h.stored⟩

theorem Labels.deliver {p : Pass StackitMachine σ} (h : Labels L p) (d : PatchOutcome)
    (patches : List PatchOutcome) :
    Labels L { p with stored := Pass.deliver d p.obj p.stored, patches } := by
  refine ⟨h.obj, ?_⟩
  show (Pass.deliver d p.obj p.stored).spec.additionalLabels = L
  unfold Pass.deliver
  split <;> split <;> first | exact h.stored | exact h.obj

theorem labels_reconcileNormal {p : Pass StackitMachine σ} (src : ClientSource σ)
    (ctx : MachineContext) (h : Labels L p) :
    wp (reconcileNormal src ctx) (fun _ q => Labels L q) p := by
  have hserver : ∀ {q : Pass StackitMachine σ} client server, Labels L q →
      wp (reconcileServer client ctx server) (fun _ q => Labels L q) q := fun client server hq =>
    wp_reconcileServer (P := fun _ _ => True) (fun _ => hq.write rfl) (fun _ => trivial)
      (fun _ _ => hq.write rfl) fun _ _ _ _ => hq.write rfl
  have hinstance : ∀ {q : Pass StackitMachine σ} client data, Labels L q →
      wp (reconcileInstance client ctx data) (fun _ q => Labels L q) q := fun client data hq =>
    wp_reconcileInstance (P := fun _ _ => True) trivial
      (fun server _ _ => hserver client server (hq.write rfl)) (fun _ _ _ _ => hq.write rfl)
      fun _ _ _ _ _ => hq.write rfl
  have hrest : ∀ q : Pass StackitMachine σ, Labels L q →
      Proceeds src ctx (fun _ q => Labels L q) q := fun q hq =>
    ⟨fun _ => hq.write rfl, fun _ _ _ => hq.write rfl, fun _ _ => wp_reconcileBootstrap
      (fun _ _ _ => hq.write rfl) (fun _ _ _ _ _ => hq.write rfl) fun data client _ _ =>
      hinstance client data (hq.write rfl)⟩
  have hadded : Labels L (patchFinalizer p) :=
    Labels.deliver (h.write (o := withFinalizer p.obj) (t := p.cloud) rfl) _ _
  exact wp_reconcileNormal (fun _ => hrest p h) (fun _ _ _ => hadded) fun _ _ => hrest _ hadded

theorem labels_reconcileDelete {p : Pass StackitMachine σ} (src : ClientSource σ)
    (ctx : MachineContext) (h : Labels L p) :
    wp (reconcileDelete src ctx) (fun _ q => Labels L q) p :=
  wp_reconcileDelete (fun _ _ _ => h.write rfl) (fun _ _ _ => h.write rfl) fun _ _ =>
    wp_deleteInstance (wp_orError_of_forall
      (fun _ _ => ⟨fun _ => wp_orError_of_forall (fun _ _ => h.write rfl) fun _ _ => h.write rfl,
        fun _ => h.write rfl⟩) fun _ _ => h.write rfl)

/-- No pass changes the labels of the stored object. -/
theorem labels_reconcile (answers : Answers σ) (p : Pass StackitMachine σ)
    (h : p.stored.spec.additionalLabels = L) :
    wp (reconcile answers) (fun _ q => q.stored.spec.additionalLabels = L) p := by
  refine wp_reconcile (fun _ _ => h) fun ctx _ => Pass.wp_withDeferredPatch ?_
  have hpaused : Labels L { p with obj := withPaused ctx p.stored } := ⟨h, h⟩
  have hscope : wp (reconcileScope answers.source ctx) (fun _ q => Labels L q)
      { p with obj := p.stored } :=
    wp_reconcileScope (fun _ => hpaused) (fun _ _ => labels_reconcileDelete _ ctx hpaused)
      fun _ _ => labels_reconcileNormal _ ctx hpaused
  exact hscope.imp fun _ q hq d _ _ _ => (hq.deliver d []).stored

end labels

/-- What a pass may do to the servers: take some away, or create one with the tags `T` if there is
none. -/
def ServersKept (T : StringMap) (c c' : Cloud) : Prop :=
  (labelled .server c').Sublist (labelled .server c) ∨
    taggedIDs T c = [] ∧ ∃ id, labelled .server c' = labelled .server c ++ [(id, T)]

theorem shrinks_reconcileDelete {src : ClientSource Session} {ctx : MachineContext}
    {p : Pass StackitMachine Session} (hsrc : SDKSource src ctx.stackitCluster) :
    wp (reconcileDelete src ctx) (fun _ q => Shrinks p.cloud.cloud q.cloud.cloud) p := by
  refine wp_reconcileDelete (fun _ _ _ => .refl _) (fun _ _ _ => .refl _) fun client hclient => ?_
  rw [hsrc client hclient]
  refine wp_deleteInstance (wp_orError (wp_resolveServerForDeletion_resolvesTo ctx p.obj p.cloud)
    (fun id s ⟨hs, _⟩ => ⟨fun _ => ?_, fun _ => .of_eq hs⟩) fun _ _ ⟨hs, _⟩ => .of_eq hs)
  have hdelete : Keeps (fun s t : Session => Shrinks s.cloud t.cloud)
      (tolerate isNotFound (sdkClient.deleteServer id)) :=
    keeps_tolerate Shrinks.closed fun s => (wp_remove (removes_deleteServer id) s).1
  exact wp_orError (hdelete.wp s) (fun _ _ ht => hs ▸ ht) fun _ _ ht => hs ▸ ht

/-- A whole pass, with the tags that the stored object gives. -/
theorem wp_reconcile_servers {answers : Answers Session} {p : Pass StackitMachine Session}
    {T : StringMap} (hctx : ∀ ctx, lookupContext answers = .ok (some ctx) →
      ctx.tags p.stored = T ∧ SDKSource answers.source ctx.stackitCluster) :
    wp (reconcile answers) (fun _ q => ServersKept T p.cloud.cloud q.cloud.cloud) p := by
  have hsame : ServersKept T p.cloud.cloud p.cloud.cloud := .inl (.refl _)
  refine wp_reconcile (fun _ _ => hsame) fun ctx hscope => Pass.wp_withDeferredPatch ?_
  obtain ⟨htags, hsrc⟩ := hctx ctx hscope.owners
  refine wp_reconcileScope (fun _ _ _ _ _ => hsame) (fun _ _ => ?_) fun _ _ => ?_
  · exact (shrinks_reconcileDelete hsrc).imp fun _ q hq _ _ _ _ => .inl (hq .server)
  · refine (wp_reconcileNormal_servers hsrc).imp fun _ q hq _ _ _ _ => ?_
    change SameServers p.cloud.cloud q.cloud.cloud ∨ _ at hq
    rcases hq with hsame | ⟨⟨-, -, hnone⟩, id, -, hnew⟩
    · exact .inl (by rw [show labelled .server q.cloud.cloud = _ from hsame])
    · have htags' : ctx.tags (withPaused ctx p.stored) = T := htags
      rw [htags'] at hnone hnew
      exact .inr ⟨hnone, id, hnew⟩

end MachineReconciler

/-! ### A run -/

namespace MachineWorld
variable {m : MachineIdentity} {w : MachineWorld} {rules : NameRules}

/-- What the environment keeps to while the spec is edited: passes see the objects of this machine,
the webhook admits every edit, and no server of this machine comes from elsewhere. -/
def EditsAdmitted (rules : NameRules) (m : MachineIdentity) (w : MachineWorld) :
    MachineAction → Prop
  | .reconcile answers _ _ _ => ∀ ctx, MachineReconciler.lookupContext answers = .ok (some ctx) →
      m.Owns ctx ∧ SDKSource answers.source ctx.stackitCluster
  | .editSpec edit => Webhook.admitsMachineUpdate rules w.stored { w.stored with
      spec := edit w.stored.spec } = true
  | .cloudEvolves change => (m.servers (change w.cloud)).Sublist (m.servers w.cloud)
  | .requestDeletion | .serverDeleted _ => True

/-- While no server is recorded, the labels may only become such as the existing servers carry. -/
def EditsCovered (m : MachineIdentity) (w : MachineWorld) : MachineAction → Prop
  | .editSpec edit => w.stored.status.instanceID = "" →
      m.Carried (edit w.stored.spec).additionalLabels w.cloud
  | _ => True

/-- The machine has at most one server, and its selector finds it. -/
structure SelectorValid (m : MachineIdentity) (w : MachineWorld) : Prop where
  carried : m.Carried w.stored.spec.additionalLabels w.cloud
  single : (m.servers w.cloud).length ≤ 1

theorem SelectorValid.sublist (h : w.SelectorValid m) {w' : MachineWorld}
    (hlabels : w'.stored.spec.additionalLabels = w.stored.spec.additionalLabels)
    (hsub : (m.servers w'.cloud).Sublist (m.servers w.cloud)) : w'.SelectorValid m :=
  ⟨hlabels ▸ h.carried.sublist hsub, hsub.length_le.trans h.single⟩

theorem SelectorValid.step (h : w.SelectorValid m) {a : MachineAction}
    (ha : EditsAdmitted rules m w a) (hcov : EditsCovered m w a) : (w.step a).SelectorValid m := by
  cases a with
  | reconcile answers patches outcomes orders =>
    have hlabels := MachineReconciler.labels_reconcile answers (w.begin patches outcomes orders) rfl
    have hservers := MachineReconciler.wp_reconcile_servers (p := w.begin patches outcomes orders)
      fun ctx hlookup => ⟨(ha ctx hlookup).1.tags w.stored, (ha ctx hlookup).2⟩
    rcases hservers with hsub | ⟨hnone, id, hnew⟩
    · exact h.sublist hlabels (MachineIdentity.servers_sublist hsub)
    · have hnil : m.servers w.cloud = [] := h.carried.servers_nil hnone
      have hone : m.servers (w.step (.reconcile answers patches outcomes orders)).cloud =
          [(id, m.tags w.stored.spec.additionalLabels)] := by
        have happend := MachineIdentity.servers_append hnew
        change m.servers _ = m.servers w.cloud ++ _ at happend
        rw [hnil] at happend
        exact happend
      refine ⟨fun x hx => ?_, by rw [hone]; exact Nat.le_refl 1⟩
      rw [hone, List.mem_singleton] at hx
      have hlabels' :
          (w.step (.reconcile answers patches outcomes orders)).stored.spec.additionalLabels =
            w.stored.spec.additionalLabels := hlabels
      rw [hx, hlabels', labelsContainTags_iff]
      exact StringMap.Sub.refl _
  | editSpec edit =>
    refine ⟨?_, h.single⟩
    by_cases hid : w.stored.status.instanceID = ""
    · exact hcov hid
    · exact h.carried.sameLabels (Webhook.sameLabels_of_admitted ha hid)
  | requestDeletion => exact ⟨h.carried, h.single⟩
  | serverDeleted id =>
    exact h.sublist rfl
      (MachineIdentity.servers_sublist ((removes_deleteServer id).shrinks w.cloud .server))
  | cloudEvolves change => exact h.sublist rfl ha

/-- **The selector stays valid.** Start without a server of the machine, and let every edit of the
labels in a state without a recorded server stay within what the servers carry. Then at any time
every server made for the machine is found by its current tags, and there is at most one. -/
theorem selector_stays_valid {as : List MachineAction} (h₀ : m.servers w.cloud = [])
    (has : Runs.Meets step (EditsAdmitted rules m) w as)
    (hcov : Runs.Meets step (EditsCovered m) w as) :
    (Runs.run step w as).SelectorValid m := by
  have hstart : w.SelectorValid m := by
    refine ⟨fun x hx => ?_, by rw [h₀]; exact Nat.zero_le 1⟩
    rw [h₀] at hx
    cases hx
  exact (has.and hcov).inv hstart fun _ _ h ha => h.step ha.1 ha.2

/-! A machine whose server was created but not recorded, and whose labels are edited then. -/

/-- A valid machine with one label. -/
def labelledWorld : MachineWorld where
  stored :=
    { metadata := { name := "m", namespace' := "ns" }
      spec :=
        { imageID := sampleUUID
          machineType := "c1.2"
          additionalLabels := StringMap.ofList [("env", "dev")] } }
  cloud := { ids := .unary }

/-- A pass in which the finalizer is patched and the status is not. -/
def unrecordedPass : MachineAction := .reconcile sampleAnswers [{}, { status := .failed }] [] []

def relabel (labels : StringMap) : MachineAction :=
  .editSpec fun spec => { spec with additionalLabels := labels }

theorem sampleAnswers_editsAdmitted (w : MachineWorld) (patches : List PatchOutcome) :
    EditsAdmitted rules sampleIdentity w (.reconcile sampleAnswers patches [] []) := by
  intro ctx hctx
  cases hctx
  exact ⟨⟨rfl, rfl, rfl, rfl⟩, (SourceOk.connected _).sdk⟩

/-- The label is removed: the server is found again and recorded. -/
theorem selector_stays_valid_removed :
    let as := [unrecordedPass, relabel ∅, .reconcile sampleAnswers [] [] []]
    (Runs.run step labelledWorld as).stored.status.instanceID = "i" ∧
      (Runs.run step labelledWorld as).SelectorValid sampleIdentity := by
  intro as
  have hadmitted : Runs.Meets step (EditsAdmitted .kubernetes sampleIdentity) labelledWorld as := by
    refine ⟨sampleAnswers_editsAdmitted _ _, ?_, sampleAnswers_editsAdmitted _ _, trivial⟩
    show Webhook.admitsMachineUpdate _ _ _ = true
    decide +kernel
  have hcovered : Runs.Meets step (EditsCovered sampleIdentity) labelledWorld as :=
    ⟨trivial, fun _ x hx => (List.mem_filter.1 hx).2, trivial, trivial⟩
  exact ⟨by decide +kernel, selector_stays_valid rfl hadmitted hcovered⟩

/-- The label is changed, which the webhook admits since no server is recorded: the next pass does
not find the server and creates a second one. -/
theorem selector_lost :
    let as := [unrecordedPass, relabel (StringMap.ofList [("env", "prod")])]
    let w := Runs.run step labelledWorld as
    let w' := w.step (.reconcile sampleAnswers [] [] [])
    sampleIdentity.servers labelledWorld.cloud = [] ∧
      Runs.Meets step (EditsAdmitted .kubernetes sampleIdentity) labelledWorld as ∧
      (sampleIdentity.servers w.cloud).map Prod.fst = ["i"] ∧
      taggedIDs (sampleIdentity.tags w.stored.spec.additionalLabels) w.cloud = [] ∧
      (sampleIdentity.servers w'.cloud).map Prod.fst = ["i", "ii"] := by
  intro as w w'
  refine ⟨rfl, ⟨sampleAnswers_editsAdmitted _ _, ?_, trivial⟩, by decide +kernel, by decide +kernel,
    by decide +kernel⟩
  show Webhook.admitsMachineUpdate _ _ _ = true
  decide +kernel

end MachineWorld

end Capstk
