import Capstk.Conditions
import Capstk.Client

/-!
# Scopes and one reconcile pass (`scope/`, the patch helper of Cluster API)

A pass works on a copy of its object (`obj`) and writes it back with `patchObject`. The patch
helper sends two requests: metadata and spec, then the status. The conditions travel with the
status, since the objects have no condition setters that would have them patched on their own.
Either request may be lost, or take effect without the controller learning of it (`Delivery`); the
next pass starts from what is `stored`.
-/

namespace Capstk

open Prog

/-- An object that is being deleted and has no finalizer left no longer exists. -/
def ObjectMeta.gone (m : ObjectMeta) : Bool := m.deleting && m.finalizers.isEmpty

/-- What becomes of one patch request. -/
inductive Delivery
  | applied
  | failed
  | unacknowledged
deriving DecidableEq, Repr

/-- Whether the patch takes effect. -/
def Delivery.lands : Delivery → Bool
  | applied | unacknowledged => true
  | failed => false

/-- What becomes of the two requests of one `patchObject`. -/
structure PatchOutcome where
  main : Delivery := .applied
  status : Delivery := .applied
deriving DecidableEq, Repr

/-- The controller learns that both requests took effect. -/
def PatchOutcome.succeeds (p : PatchOutcome) : Bool :=
  p.main == .applied && p.status == .applied

/-- The two parts of an object that are patched on their own; each function copies its part of the
first object into the second. -/
class Patchable (Obj : Type) where
  copyMain : Obj → Obj → Obj
  copyStatus : Obj → Obj → Obj

instance : Patchable StackitMachine where
  copyMain src dst :=
    { dst with
      metadata := { dst.metadata with finalizers := src.metadata.finalizers }
      spec := src.spec }
  copyStatus src dst := { dst with status := src.status, conditions := src.conditions }

instance : Patchable StackitCluster where
  copyMain src dst :=
    { dst with
      metadata := { dst.metadata with finalizers := src.metadata.finalizers }
      spec := src.spec }
  copyStatus src dst := { dst with status := src.status, conditions := src.conditions }

/-- The state of a pass: the object it works on, the one the API server holds, what becomes of the
coming patches, and the state behind the cloud client. -/
structure Pass (Obj σ : Type) where
  obj : Obj
  stored : Obj
  patches : List PatchOutcome := []
  cloud : σ

namespace Pass
variable {Obj σ α : Type}

/-- A part of the controller. -/
abbrev Step (Obj σ α : Type) : Type := Prog (Pass Obj σ) GoError α

/-- Call the cloud client. -/
def call (x : Call σ α) : Step Obj σ α := zoom Pass.cloud (fun p c => { p with cloud := c }) x

def getObj : Step Obj σ Obj := do pure (← Prog.get).obj

/-- Write to the copy of the object. -/
def setObj (f : Obj → Obj) : Step Obj σ Unit := Prog.modify fun p => { p with obj := f p.obj }

/-- The text of a failed patch does not matter: it is only returned. -/
def patchFailed : GoError := ⟨none, "patch failed"⟩

section
variable [Patchable Obj]

/-- What the API server holds after the patches of `o` that land. -/
def deliver (o : PatchOutcome) (obj stored : Obj) : Obj :=
  let s := if o.main.lands then Patchable.copyMain obj stored else stored
  if o.status.lands then Patchable.copyStatus obj s else s

/-- `scope.PatchObject` -/
def patchObject : Step Obj σ Unit := fun p =>
  let o := p.patches.headD {}
  (if o.succeeds then .ok () else .error patchFailed,
    { p with stored := deliver o p.obj p.stored, patches := p.patches.tail })

/-- The deferred patch at the end of `Reconcile`; its error only counts if there is no other. -/
def withDeferredPatch (body : Step Obj σ α) : Step Obj σ α := do
  let r ← attempt body
  let patched ← attempt (patchObject : Step Obj σ Unit)
  match r, patched with
  | .error err, _ => fail err
  | .ok _, .error patchErr => fail patchErr
  | .ok a, .ok _ => pure a

end

end Pass

end Capstk
