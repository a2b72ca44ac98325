import Capstk.Services
import Capstk.SdkClient

/-!
# Rules for the parts of a pass

`wp` through the primitives of `Pass`: reading and writing the copy of the object, calling the cloud
client, and the patches. `SourceOk` is what a run is told about the client a pass gets.
-/

namespace Capstk

open Prog

/-- The credentials Secret exists (reading it may fail for another reason), and the factory makes
the SDK client or fails with an error of its own. -/
structure SourceOk (src : ClientSource Session) (sc : StackitCluster) : Prop where
  secret : ∀ err, src.getSecret (credentialsSecretKey sc) = .error err → isAPINotFound err = false
  factory : ∀ factory creds, src.factory = some factory →
    factory creds = .ok sdkClient ∨ ∃ err, factory creds = .error err ∧ isAPINotFound err = false

/-- Every client that the source hands out is the SDK client. -/
def SDKSource (src : ClientSource Session) (sc : StackitCluster) : Prop :=
  ∀ client, buildCloudClient src sc = .ok client → client = sdkClient

namespace SourceOk
variable {src : ClientSource Session} {sc : StackitCluster}

theorem congr (h : SourceOk src sc) {sc' : StackitCluster}
    (hkey : credentialsSecretKey sc' = credentialsSecretKey sc) :
    SourceOk src sc' := ⟨hkey ▸ h.secret, h.factory⟩

theorem sdkAny (h : SourceOk src sc) (sc' : StackitCluster) : SDKSource src sc' := by
  intro client hb
  unfold buildCloudClient at hb
  split at hb
  · cases hb
  · rename_i factory hfactory
    split at hb
    · cases hb
    · split at hb
      · cases hb
      · rename_i creds _
        rcases h.factory factory creds hfactory with hok | ⟨err, herr, -⟩
        · rw [hok] at hb; cases hb; rfl
        · rw [herr] at hb; cases hb

theorem parseCredentialsSecret_error {secret : DataObject} {projectID region : String}
    {err : GoError} (h : parseCredentialsSecret secret projectID region = .error err) :
    isAPINotFound err = false := by
  unfold parseCredentialsSecret at h
  dsimp only at h
  split_ifs at h <;> cases h <;> simp

theorem sdk (h : SourceOk src sc) : SDKSource src sc := h.sdkAny sc

theorem client (h : SourceOk src sc) {client : Client Session}
    (hb : buildCloudClient src sc = .ok client) : client = sdkClient := h.sdk client hb

theorem not_isAPINotFound (h : SourceOk src sc) {err : GoError}
    (hb : buildCloudClient src sc = .error err) :
    isAPINotFound err = false := by
  unfold buildCloudClient at hb
  split at hb
  · cases hb; rfl
  · rename_i factory hfactory
    split at hb
    · rename_i err' herr'
      cases hb
      exact h.secret err' herr'
    · split at hb
      · rename_i hparse
        cases hb
        exact parseCredentialsSecret_error hparse
      · rename_i creds _
        rcases h.factory factory creds hfactory with hok | ⟨err', herr', hnf⟩
        · rw [hok] at hb; cases hb
        · rw [herr'] at hb; cases hb; exact hnf

end SourceOk

/-- The same source, with every client wrapped by `f`. -/
def ClientSource.map {σ τ : Type} (f : Client σ → Client τ) (src : ClientSource σ) :
    ClientSource τ where
  getSecret := src.getSecret
  factory := src.factory.map fun factory creds => (factory creds).map f

theorem exists_of_buildCloudClient_map {σ τ : Type} {f : Client σ → Client τ} {src : ClientSource σ}
    {sc : StackitCluster} {client : Client τ} (h : buildCloudClient (src.map f) sc = .ok client) :
    ∃ client₀, client = f client₀ := by
  unfold buildCloudClient at h
  split at h
  · cases h
  · rename_i factory hfactory
    obtain ⟨factory₀, -, rfl⟩ := Option.map_eq_some_iff.1 hfactory
    split at h
    · cases h
    · split at h
      · cases h
      · rename_i creds _
        dsimp only at h
        rcases hmade : factory₀ creds with e | client₀
        · rw [hmade] at h
          cases h
        · rw [hmade] at h
          cases h
          exact ⟨client₀, rfl⟩

def sampleUUID : String := "00000000-0000-0000-0000-000000000000"

/-- A source that always hands out the SDK client: the Secret is there and complete. -/
def ClientSource.connected : ClientSource Session where
  getSecret _ :=
    .ok ⟨StringMap.ofList [("serviceaccount.json", "key"), ("project-id", sampleUUID),
    ("value", "data")]⟩
  factory := some fun _ => .ok sdkClient

theorem SourceOk.connected (sc : StackitCluster) : SourceOk .connected sc where
  secret _ h := by cases h
  factory _ _ h := by cases h; exact .inl rfl

end Capstk

namespace Capstk.Pass

open Prog

variable {Obj σ α β : Type} {p : Pass Obj σ}

section
variable {Q : Except GoError β → Pass Obj σ → Prop}

@[simp] theorem wp_getObj_bind {f : Obj → Step Obj σ β} :
    wp (getObj >>= f) Q p ↔ wp (f p.obj) Q p := Iff.rfl

@[simp] theorem wp_setObj_bind {g : Obj → Obj} {f : Unit → Step Obj σ β} :
    wp (setObj g >>= f) Q p ↔ wp (f ()) Q { p with obj := g p.obj } := Iff.rfl

@[simp] theorem wp_setObj {g : Obj → Obj} {Q : Except GoError Unit → Pass Obj σ → Prop} :
    wp (setObj g) Q p ↔ Q (.ok ()) { p with obj := g p.obj } := Iff.rfl

theorem wp_call {x : Call σ α} {Q : Except GoError α → Pass Obj σ → Prop} :
    wp (call x) Q p ↔ wp x (fun r s => Q r { p with cloud := s }) p.cloud := Iff.rfl

theorem wp_attempt_call_bind {x : Call σ α} {f : Except GoError α → Step Obj σ β} :
    wp (attempt (call x) >>= f) Q p ↔ wp x (fun r s => wp (f r) Q { p with cloud := s }) p.cloud :=
  by
  rw [wp_attempt_bind]; exact Iff.rfl

theorem wp_call_bind {x : Call σ α} {f : α → Step Obj σ β} :
    wp (call x >>= f) Q p ↔ wp x (fun r s => Next f Q r { p with cloud := s }) p.cloud := by
  rw [wp_bind]; exact Iff.rfl

end

section
variable [Patchable Obj]

/-- A patch delivers some of its parts, and reports success if all of them were applied. -/
theorem wp_patchObject {Q : Except GoError Unit → Pass Obj σ → Prop}
    (h : ∀ o : PatchOutcome, o = p.patches.headD {} →
      Q (if o.succeeds then .ok () else .error patchFailed)
      { p with stored := deliver o p.obj p.stored, patches := p.patches.tail }) :
    wp patchObject Q p := h (p.patches.headD {}) rfl

/-- The deferred patch: the outcome of the pass is that of its body, or the error of the patch. -/
theorem wp_withDeferredPatch {body : Step Obj σ α} {Q : Except GoError α → Pass Obj σ → Prop}
    (h : wp body (fun r q => ∀ (o : PatchOutcome) r', o = q.patches.headD {} →
      (r' = r ∧ (∀ a, r = .ok a → o.succeeds = true) ∨ r' = .error patchFailed ∧
        o.succeeds = false) →
      Q r' { q with stored := deliver o q.obj q.stored, patches := q.patches.tail }) p) :
    wp (withDeferredPatch body) Q p := by
  unfold withDeferredPatch
  rw [wp_attempt_bind]
  refine h.imp fun r q hq => ?_
  rw [wp_attempt_bind]
  refine wp_patchObject fun o ho => ?_
  cases r with
  | error err => exact hq o _ ho (.inl ⟨rfl, fun a ha => by cases ha⟩)
  | ok a =>
    cases hs : o.succeeds with
    | true => exact hq o _ ho (.inl ⟨rfl, fun _ _ => hs⟩)
    | false => exact hq o _ ho (.inr ⟨rfl, hs⟩)

end

end Capstk.Pass

namespace Capstk

open Prog

/-! ### A request and what follows it -/

section
variable {Obj σ α β : Type} {p : Pass Obj σ} {Q : Except GoError β → Pass Obj σ → Prop}
  {x : Call σ α} {next : α → σ → Prop} {s : σ}

/-- An answer is handed on, an error ends the step. -/
def OrError (Q : Except GoError β → Pass Obj σ → Prop) (p : Pass Obj σ) (next : α → σ → Prop) :
    Except GoError α → σ → Prop
  | .ok a, s => next a s
  | .error e, s => Q (.error e) { p with cloud := s }

theorem wp_orError {P : Except GoError α → σ → Prop} (h : wp x P s)
    (hok : ∀ a t, P (.ok a) t → next a t)
    (herror : ∀ e t, P (.error e) t → Q (.error e) { p with cloud := t }) :
    wp x (OrError Q p next) s := by
  refine h.imp fun r t hr => ?_
  cases r with
  | ok a => exact hok a t hr
  | error e => exact herror e t hr

theorem wp_orError_of_forall (hok : ∀ a t, next a t)
    (herror : ∀ e t, Q (.error e) { p with cloud := t }) : wp x (OrError Q p next) s :=
  wp_orError (P := fun _ _ => True) trivial (fun a t _ => hok a t) fun e t _ => herror e t

theorem wp_call_orError {f : α → Pass.Step Obj σ β}
    (h : wp x (OrError Q p fun a s => wp (f a) Q { p with cloud := s }) p.cloud) :
    wp (Pass.call x >>= f) Q p := by
  rw [Pass.wp_call_bind]
  refine h.imp fun r s hr => ?_
  cases r <;> exact hr

end

end Capstk
