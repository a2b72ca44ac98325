import Capstk.Lib.Run
import Capstk.Proofs.MachinePass

/-!
# One machine, any history

The world of one StackitMachine is the stored object and the cloud. A run interleaves passes of the
controller, whose failures and lost patches are part of the action, with a deletion request, edits
of the spec that leave the labels alone, servers deleted behind the controller's back, and whatever
else happens in the cloud as long as nobody else makes a server with this machine's tags. The
controller crashing in a pass is one of these passes: every request after the crash fails before it
takes effect.
-/

namespace Capstk

open Prog

/-- What the tags of a machine's server are made of, apart from the labels. -/
structure MachineIdentity where
  clusterName : String
  clusterNamespace : String
  machineName : String
  machineUID : String

namespace MachineIdentity

def tags (m : MachineIdentity) (labels : StringMap) : StringMap :=
  machineTags m.clusterName m.clusterNamespace m.machineName m.machineUID labels

/-- The objects a pass looks up are those of this machine. -/
structure Owns (m : MachineIdentity) (ctx : MachineContext) : Prop where
  clusterName : ctx.cluster.metadata.name = m.clusterName
  clusterNamespace : ctx.cluster.metadata.namespace' = m.clusterNamespace
  machineName : ctx.machine.metadata.name = m.machineName
  machineUID : ctx.machine.metadata.uid = m.machineUID

theorem Owns.tags {m : MachineIdentity} {ctx : MachineContext} (h : m.Owns ctx)
    (sm : StackitMachine) :
    ctx.tags sm = m.tags sm.spec.additionalLabels := by
  rw [MachineContext.tags, h.clusterName, h.clusterNamespace, h.machineName, h.machineUID,
    MachineIdentity.tags]

end MachineIdentity

structure MachineWorld where
  stored : StackitMachine
  cloud : Cloud

inductive MachineAction
  /-- A pass of the controller, with what the API server answers, what becomes of its patches, how
  its requests end and in which order it ranges over maps. -/
  | reconcile (answers : MachineReconciler.Answers Session) (patches : List PatchOutcome)
      (outcomes : List Outcome) (orders : List MapOrder)
  | requestDeletion
  | editSpec (edit : StackitMachineSpec → StackitMachineSpec)
  | serverDeleted (id : String)
  | cloudEvolves (change : Cloud → Cloud)

namespace MachineWorld

/-- The state in which a pass starts. -/
def begin (w : MachineWorld) (patches : List PatchOutcome) (outcomes : List Outcome)
    (orders : List MapOrder) :
    Pass StackitMachine Session :=
  { obj := w.stored, stored := w.stored, patches, cloud := { cloud := w.cloud, outcomes, orders } }

/-- What a pass leaves behind. -/
def leave (p : Pass StackitMachine Session) : MachineWorld := ⟨p.stored, p.cloud.cloud⟩

def step (w : MachineWorld) : MachineAction → MachineWorld
  | .reconcile answers patches outcomes orders =>
    leave ((MachineReconciler.reconcile answers).after (w.begin patches outcomes orders))
  | .requestDeletion =>
      { w with stored := { w.stored with metadata := { w.stored.metadata with deleting := true } } }
  | .editSpec edit => { w with stored := { w.stored with spec := edit w.stored.spec } }
  | .serverDeleted id => { w with cloud := (Cloud.deleteServer id w.cloud).2 }
  | .cloudEvolves change => { w with cloud := change w.cloud }

/-- What the environment keeps to: passes see the objects of this machine and its credentials
Secret, edits leave the labels alone, and no server with the machine's tags comes from elsewhere. -/
def Admissible (m : MachineIdentity) (w : MachineWorld) : MachineAction → Prop
  | .reconcile answers _ _ _ => ∀ ctx, MachineReconciler.lookupContext answers = .ok (some ctx) →
      m.Owns ctx ∧ SourceOk answers.source ctx.stackitCluster
  | .editSpec edit => (edit w.stored.spec).additionalLabels = w.stored.spec.additionalLabels
  | .cloudEvolves change =>
    let T := m.tags w.stored.spec.additionalLabels
    (taggedIDs T (change w.cloud)).Sublist (taggedIDs T w.cloud)
  | .requestDeletion | .serverDeleted _ => True

/-- `Safe` between the passes. -/
structure Consistent (T L : StringMap) (w : MachineWorld) : Prop where
  single : (taggedIDs T w.cloud).length ≤ 1
  named : "" ∉ taggedIDs T w.cloud
  stored : ObjOk (taggedIDs T w.cloud) L w.stored

variable {m : MachineIdentity} {L T : StringMap} {w : MachineWorld}

theorem Consistent.begin (h : Consistent T L w) (patches : List PatchOutcome)
    (outcomes : List Outcome) (orders : List MapOrder) :
    Safe T L (w.begin patches outcomes orders) :=
  ⟨h.single, h.named, h.stored, h.stored⟩

theorem Consistent.leave {p : Pass StackitMachine Session} (h : Safe T L p) :
    Consistent T L (leave p) :=
  ⟨h.single, h.named, h.stored⟩

theorem Consistent.sublist (h : Consistent T L w) {c : Cloud}
    (hsub : (taggedIDs T c).Sublist (taggedIDs T w.cloud)) :
    Consistent T L { w with cloud := c } :=
  ⟨hsub.length_le.trans h.single, fun hid => h.named (hsub.subset hid), h.stored.subset hsub.subset⟩

theorem Consistent.step (h : Consistent (m.tags L) L w) {a : MachineAction}
    (ha : Admissible m w a) :
    Consistent (m.tags L) L (w.step a) := by
  cases a with
  | reconcile answers patches outcomes orders =>
    have hctx : MachineReconciler.ContextOk (m.tags L) L answers := by
      intro ctx hlookup
      obtain ⟨howns, hsrc⟩ := ha ctx hlookup
      exact ⟨fun sm hsm => by rw [howns.tags, hsm], hsrc⟩
    exact .leave (MachineReconciler.safe_reconcile hctx (h.begin patches outcomes orders))
  | requestDeletion => exact ⟨h.single, h.named, h.stored.congr rfl rfl rfl rfl⟩
  | editSpec edit => exact ⟨h.single, h.named, h.stored.congr rfl ha rfl rfl⟩
  | serverDeleted id =>
    refine h.sublist ?_
    rw [taggedIDs_deleteServer]
    exact List.filter_sublist
  | cloudEvolves change =>
    simp only [Admissible, h.stored.labels] at ha
    exact h.sublist ha

/-- Nothing has been provisioned yet: no server carries the tags and the status names none. -/
structure Unprovisioned (m : MachineIdentity) (w : MachineWorld) : Prop where
  noServer : taggedIDs (m.tags w.stored.spec.additionalLabels) w.cloud = []
  noInstance : w.stored.status.instanceID = ""

theorem Unprovisioned.consistent (h : w.Unprovisioned m) :
    Consistent (m.tags w.stored.spec.additionalLabels) w.stored.spec.additionalLabels w := by
  refine ⟨by rw [h.noServer]; simp, by rw [h.noServer]; simp, ?_⟩
  exact ⟨fun hne => absurd h.noServer hne, fun hne => absurd h.noInstance hne, rfl⟩

/-- **One server, no leak.** In every state that any history of a machine can reach, at most one
server carries its tags; while there is one, the stored object has the finalizer; and the step that
removes the finalizer leaves no server behind. -/
theorem one_server_no_leak {as : List MachineAction} (h₀ : w.Unprovisioned m)
    (has : Runs.Meets step (Admissible m) w as) :
    let T := m.tags w.stored.spec.additionalLabels
    let w' := Runs.run step w as
    (taggedIDs T w'.cloud).length ≤ 1 ∧
    (taggedIDs T w'.cloud ≠ [] → containsFinalizer w'.stored.metadata machineFinalizer = true) ∧
    ∀ a, Admissible m w' a → containsFinalizer w'.stored.metadata machineFinalizer = true →
      containsFinalizer (w'.step a).stored.metadata machineFinalizer = false →
      taggedIDs T (w'.step a).cloud = [] := by
  intro T w'
  have hw' : Consistent T w.stored.spec.additionalLabels w' :=
    has.inv h₀.consistent fun _ _ hi ha => hi.step ha
  refine ⟨hw'.single, hw'.stored.finalizer, fun a ha _ hgone => ?_⟩
  by_contra hne
  have hkept := (hw'.step ha).stored.finalizer hne
  rw [hgone] at hkept
  cases hkept

/-! A machine whose server was created without an answer, and that is deleted afterwards. -/

def sampleIdentity : MachineIdentity := ⟨"c", "ns", "m", "u"⟩

def sampleAnswers : MachineReconciler.Answers Session where
  getOwnerMachine :=
    .ok (some { metadata := { name := "m", namespace' := "ns", uid := "u" },
                dataSecretName := some "b" })
  getClusterFromMetadata _ :=
    .ok (some { metadata := { name := "c", namespace' := "ns" },
                infrastructureRef := { name := "c" } })
  getStackitCluster _ := .ok
    { metadata := { name := "c", namespace' := "ns" }, spec := {},
      status := { ready := true, network := { id := "n" } } }
  source := .connected

def sampleWorld : MachineWorld :=
  ⟨{ metadata := { name := "m", namespace' := "ns" }, spec := {} }, { ids := .unary }⟩

theorem sampleAnswers_admissible (w : MachineWorld) (patches : List PatchOutcome)
    (outcomes : List Outcome) :
    Admissible sampleIdentity w (.reconcile sampleAnswers patches outcomes []) := by
  intro ctx hctx
  cases hctx
  exact ⟨⟨rfl, rfl, rfl, rfl⟩, .connected _⟩

/-- The request that creates the server times out although it takes effect, and no status patch
arrives: the stored object has the finalizer and knows nothing of the server that exists. The
deletion finds it by its tags. -/
theorem one_server_no_leak_lostAnswer :
    let lost : PatchOutcome := { status := .failed }
    let create : MachineAction :=
      .reconcile sampleAnswers [{}, lost] [.answered, .answered, .failedAfter .timeout] []
    let T := sampleIdentity.tags ∅
    let w := Runs.run step sampleWorld [create, .requestDeletion]
    let w' := w.step (.reconcile sampleAnswers [] [] [])
    (taggedIDs T w.cloud = ["i"] ∧ w.stored.status.instanceID = "" ∧
      containsFinalizer w'.stored.metadata machineFinalizer = false) ∧
      taggedIDs T w'.cloud = [] := by
  intro lost create T w w'
  have hrun : Runs.Meets step (Admissible sampleIdentity) sampleWorld [create, .requestDeletion] :=
    ⟨sampleAnswers_admissible _ _ _, trivial, trivial⟩
  have hsafe := one_server_no_leak ⟨rfl, rfl⟩ hrun
  refine ⟨⟨by decide, by decide, by decide⟩, ?_⟩
  exact hsafe.2.2 _ (sampleAnswers_admissible _ _ _) (by decide) (by decide)

end MachineWorld

end Capstk
