import Capstk.MachineReconciler
import Capstk.Proofs.Pass
import Capstk.Proofs.Requests

/-!
# The rules of a machine pass

The walk through `Reconcile` and `reconcileNormal`, once for each of their parts, as it is done for
clusters: a postcondition `Q` of a part holds if it holds of what every branch returns and writes.
-/

namespace Capstk.MachineReconciler

open Prog

variable {σ : Type} {src : ClientSource σ} {ctx : MachineContext} {client : Client σ}
  {p : Pass StackitMachine σ} {Q : Except GoError Result → Pass StackitMachine σ → Prop}

theorem wp_failWith {f : List Condition → Int → List Condition × Except GoError Result}
    (h : Q (f p.obj.conditions p.obj.metadata.generation).2 { p with
      obj := { p.obj with conditions := (f p.obj.conditions p.obj.metadata.generation).1 } }) :
    wp (failWith f) Q p := by
  unfold failWith
  rw [Pass.wp_getObj_bind]
  rcases hf : f p.obj.conditions p.obj.metadata.generation with ⟨conditions, result⟩
  rw [hf] at h
  cases result <;> exact h

/-! ### The calls of the cloud client -/

section calls
variable {sm : StackitMachine} {data : String} {s : σ}

/-- The look-up in `ensureServer`: by the recorded ID, then by tags. -/
def findServer (client : Client σ) (ctx : MachineContext) (sm : StackitMachine) :
    Call σ Server :=
  let byTags := client.findServerByTags (ctx.tags sm)
  if sm.status.instanceID ≠ "" then
    existingOr isNotFound (client.getServer sm.status.instanceID) byTags
  else byTags

theorem ensureServer_eq (client : Client σ) (ctx : MachineContext) (sm : StackitMachine)
    (data : String) :
    ensureServer client ctx sm data =
      existingOr isNotFound (findServer client ctx sm)
      (createMissingServer client ctx sm data) := by
  unfold ensureServer findServer
  split
  · exact existingOr_existingOr ..
  · rfl

theorem wp_createMissingServer {Q : Except GoError Server → σ → Prop}
    (hgone : sm.status.provisioned = true → ∀ e, Q (.error e) s)
    (hnetwork : ctx.networkID sm = "" → ∀ e, Q (.error e) s)
    (hcreate : sm.status.provisioned = false → ctx.networkID sm ≠ "" →
      wp (client.createServer (createServerInput ctx sm data)) Q s) :
    wp (createMissingServer client ctx sm data) Q s := by
  unfold createMissingServer
  refine wp_ite (fun hprov => hgone hprov _) fun hprov => ?_
  exact wp_ite (fun h0 => hnetwork h0 _) fun hne => hcreate (by simpa using hprov) hne

/-- A recorded ID is taken without asking the cloud for it. -/
theorem wp_resolveServerForDeletion {P : Except GoError Server → σ → Prop}
    {Q : Except GoError String → σ → Prop}
    (hrecorded : sm.status.instanceID ≠ "" → Q (.ok sm.status.instanceID) s)
    (hfind : sm.status.instanceID = "" → wp (client.findServerByTags (ctx.tags sm)) P s)
    (hfound : sm.status.instanceID = "" → ∀ a t, P (.ok a) t → Q (.ok a.id) t)
    (hnone : sm.status.instanceID = "" → ∀ e t, P (.error e) t → isNotFound e = true →
      Q (.ok "") t)
    (hfailed : ∀ e t, P (.error e) t → isNotFound e = false → Q (.error e) t) :
    wp (resolveServerForDeletion client ctx sm) Q s := by
  unfold resolveServerForDeletion
  refine wp_ite hrecorded fun hempty => ?_
  have h0 := not_ne_iff.1 hempty
  exact wp_foundID_of (hfind h0) (hfound h0) (hnone h0) hfailed

end calls

/-! ### The server -/

/-- What `reconcileServer` writes first. -/
def recorded (server : Server) (sm : StackitMachine) : StackitMachine :=
  { sm with status.addresses := machineAddressesFromCloud server.addresses }.setInstance server

/-- The copy after a failed request; its conditions are written twice. -/
def cloudFailed (sm : StackitMachine) (reason message : String) (types : List String) :
    StackitMachine :=
  (sm.setNotReady reason message types).setConditions .false reason message types

/-- With the access to its node the machine is ready. -/
theorem wp_reconcileServer {server : Server} {P : Except GoError Unit → σ → Prop}
    (hdown : (serverStateCondition server.state server.powerStatus).ready = false →
      Q (.ok { requeueAfter := 15 }) { p with
        obj := (recorded server p.obj).setNotReady
          (serverStateCondition server.state server.powerStatus).reason
          (serverStateCondition server.state server.powerStatus).message
          [machineInstanceReadyCondition, machineReadyCondition] })
    (haccess : (serverStateCondition server.state server.powerStatus).ready = true →
      wp (reconcileBastionNodeSSHAccess client ctx server) P p.cloud)
    (hready : ∀ s, P (.ok ()) s →
      Q (.ok {}) { p with obj := (recorded server p.obj).setReady, cloud := s })
    (hfailed : ∀ err s, P (.error err) s → ∀ r, Q r { p with
      obj := cloudFailed (recorded server p.obj) "BastionSSHAccessError" err.text
        [machineReadyCondition]
      cloud := s }) :
    wp (reconcileServer client ctx server) Q p := by
  unfold reconcileServer
  rw [Pass.wp_setObj_bind]
  refine wp_ite (fun hnot => hdown (by simpa using hnot)) fun hup => ?_
  rw [Pass.wp_attempt_call_bind]
  refine (haccess (by simpa using hup)).imp fun r s hr => ?_
  cases r with
  | ok _ => exact hready s hr
  | error err =>
    rw [Pass.wp_setObj_bind]
    exact wp_failWith (hfailed err s hr _)

/-- The copy once the credentials have been found good. -/
def withCredentials (sm : StackitMachine) : StackitMachine :=
  sm.setConditions .true "Available" "" [machineCredentialsReadyCondition]

/-- If the server that was provisioned is gone, nothing is retried. -/
theorem wp_reconcileInstance {data : String} {P : Except GoError Server → σ → Prop}
    (hensure : wp (ensureServer client ctx (withCredentials p.obj) data) P p.cloud)
    (hserver : ∀ server s, P (.ok server) s → wp (reconcileServer client ctx server) Q
      { p with obj := withCredentials p.obj, cloud := s })
    (hgone : ∀ err s, P (.error err) s → err.wraps = some .errInstanceGone → Q (.ok {}) { p with
      obj := (withCredentials p.obj).setNotReady "InstanceNotFound" err.text
        [machineInstanceReadyCondition, machineReadyCondition]
      cloud := s })
    (hfailed : ∀ err s, P (.error err) s → err.wraps ≠ some .errInstanceGone → ∀ r, Q r { p with
      obj := cloudFailed (withCredentials p.obj) "InstanceError" err.text
        [machineInstanceReadyCondition, machineReadyCondition]
      cloud := s }) :
    wp (reconcileInstance client ctx data) Q p := by
  unfold reconcileInstance
  rw [Pass.wp_setObj_bind, Pass.wp_getObj_bind, Pass.wp_attempt_call_bind]
  refine hensure.imp fun r s hr => ?_
  cases r with
  | ok server => exact hserver server s hr
  | error err =>
    refine wp_ite (hgone err s hr) fun hnot => ?_
    rw [Pass.wp_setObj_bind]
    exact wp_failWith (hfailed err s hr hnot _)

/-! ### Up to the server -/

/-- The copy once the bootstrap data have been read. -/
def withBootstrapData (sm : StackitMachine) : StackitMachine :=
  sm.setConditions .true "Available" "" [machineBootstrapReadyCondition]

theorem wp_reconcileBootstrap
    (hmissing : ∀ reason message, fetchBootstrapData src ctx.machine = .error (reason, message) →
      Q (.ok (if reason = bootstrapReasonInvalid then {}
        else { requeueAfter := retryableErrorRequeueAfter })) { p with
        obj := (p.obj.setConditions .false reason message
          [machineBootstrapReadyCondition]).setConditions .false reason message
          [machineReadyCondition] })
    (hfailed : ∀ data err, fetchBootstrapData src ctx.machine = .ok data →
      buildCloudClient src ctx.stackitCluster = .error err → ∀ r, Q r { p with
        obj := (withBootstrapData p.obj).setConditions .false "CredentialsInvalid" err.text
          [machineCredentialsReadyCondition, machineReadyCondition] })
    (hclient : ∀ data client, fetchBootstrapData src ctx.machine = .ok data →
      buildCloudClient src ctx.stackitCluster = .ok client →
      wp (reconcileInstance client ctx data) Q { p with obj := withBootstrapData p.obj }) :
    wp (reconcileBootstrap src ctx) Q p := by
  unfold reconcileBootstrap
  split
  · rename_i reason message hdata
    exact hmissing reason message hdata
  · rename_i data hdata
    rw [Pass.wp_setObj_bind]
    split
    · rename_i err hbuild
      exact wp_failWith (hfailed data err hdata hbuild _)
    · rename_i client hbuild
      exact hclient data client hdata hbuild

theorem wp_reconcileBootstrap_provided {data : String}
    (hdata : fetchBootstrapData src ctx.machine = .ok data)
    (hclient : buildCloudClient src ctx.stackitCluster = .ok client)
    (h : wp (reconcileInstance client ctx data) Q { p with obj := withBootstrapData p.obj }) :
    wp (reconcileBootstrap src ctx) Q p := by
  refine wp_reconcileBootstrap (fun _ _ hbad => ?_) (fun _ _ _ hbad => ?_)
    fun data' client' hdata' hclient' => ?_
  · rw [hdata] at hbad
    cases hbad
  · rw [hclient] at hbad
    cases hbad
  · cases hdata.symm.trans hdata'
    cases hclient.symm.trans hclient'
    exact h

/-- The copy with the finalizer. -/
def withFinalizer (sm : StackitMachine) : StackitMachine :=
  { sm with metadata := addFinalizer sm.metadata machineFinalizer }

/-- The state once the copy has been given the finalizer and patched. -/
def patchFinalizer (p : Pass StackitMachine σ) : Pass StackitMachine σ :=
  { p with
    obj := withFinalizer p.obj
    stored := Pass.deliver (p.patches.headD {}) (withFinalizer p.obj) p.stored
    patches := p.patches.tail }

theorem wp_persistFinalizer {Q : Except GoError Unit → Pass StackitMachine σ → Prop}
    (hhas : containsFinalizer p.obj.metadata machineFinalizer = true → Q (.ok ()) p)
    (hadd : containsFinalizer p.obj.metadata machineFinalizer = false → ∀ r,
      (r = .ok () ↔ (p.patches.headD {}).succeeds = true) → Q r (patchFinalizer p)) :
    wp persistFinalizer Q p := by
  unfold persistFinalizer
  rw [Pass.wp_getObj_bind]
  refine wp_ite hhas fun hnot => ?_
  rw [Pass.wp_setObj_bind, wp_attempt_bind]
  refine Pass.wp_patchObject fun o ho => ?_
  subst ho
  have hnew := hadd (by simpa using hnot)
  cases hs : (p.patches.headD {}).succeeds with
  | true => exact hnew (.ok ()) (iff_of_true rfl hs)
  | false => exact hnew (.error _) (iff_of_false (by simp) (ne_true_of_eq_false hs))

/-- Past the finalizer the machine waits for its cluster and for a zone of it. -/
structure Proceeds (src : ClientSource σ) (ctx : MachineContext)
    (Q : Except GoError Result → Pass StackitMachine σ → Prop) (p : Pass StackitMachine σ) :
    Prop where
  unready : ctx.stackitCluster.status.ready = false → Q (.ok {}) { p with
    obj := p.obj.setNotReady "InfrastructureNotReady" "waiting for StackitCluster to be ready"
      [machineReadyCondition] }
  misplaced : ctx.stackitCluster.status.ready = true → ∀ message,
    validateMachineAvailabilityZone ctx p.obj = some message → Q (.ok {}) { p with
      obj := p.obj.setNotReady "InvalidFailureDomain" message
        [machineInstanceReadyCondition, machineReadyCondition] }
  placed : ctx.stackitCluster.status.ready = true →
    validateMachineAvailabilityZone ctx p.obj = none → wp (reconcileBootstrap src ctx) Q p

theorem Proceeds.of_placed (hready : ctx.stackitCluster.status.ready = true)
    (hzone : validateMachineAvailabilityZone ctx p.obj = none)
    (h : wp (reconcileBootstrap src ctx) Q p) : Proceeds src ctx Q p := by
  refine ⟨fun hnot => ?_, fun _ message hbad => ?_, fun _ _ => h⟩
  · rw [hready] at hnot
    cases hnot
  · rw [hzone] at hbad
    cases hbad

theorem wp_reconcileNormal_of_persist {P : Except GoError Unit → Pass StackitMachine σ → Prop}
    (hpersist : wp persistFinalizer P p) (hfailed : ∀ err q, P (.error err) q → Q (.error err) q)
    (hpersisted : ∀ q, P (.ok ()) q → Proceeds src ctx Q q) :
    wp (reconcileNormal src ctx) Q p := by
  unfold reconcileNormal
  rw [wp_bind]
  refine hpersist.imp fun r q hr => ?_
  cases r with
  | error err => exact hfailed err q hr
  | ok _ =>
    have hq := hpersisted q hr
    rw [next_ok, Pass.wp_getObj_bind]
    refine wp_ite (fun hnot => hq.unready (by simpa using hnot)) fun hready => ?_
    have hready : ctx.stackitCluster.status.ready = true := by simpa using hready
    split
    · exact hq.misplaced hready _ ‹_›
    · exact hq.placed hready ‹_›

theorem wp_reconcileNormal
    (hhas : containsFinalizer p.obj.metadata machineFinalizer = true → Proceeds src ctx Q p)
    (hfailed : containsFinalizer p.obj.metadata machineFinalizer = false →
      (p.patches.headD {}).succeeds = false → ∀ err, Q (.error err) (patchFinalizer p))
    (hadded : containsFinalizer p.obj.metadata machineFinalizer = false →
      (p.patches.headD {}).succeeds = true → Proceeds src ctx Q (patchFinalizer p)) :
    wp (reconcileNormal src ctx) Q p := by
  refine wp_reconcileNormal_of_persist
    (P := fun r q => (∀ err, r = .error err → Q (.error err) q) ∧
      (r = .ok () → Proceeds src ctx Q q))
    (wp_persistFinalizer (fun h => ⟨fun err hr => (by cases hr), fun _ => hhas h⟩)
      fun hnot r hr => ?_)
    (fun err q hq => hq.1 err rfl) fun q hq => hq.2 rfl
  refine ⟨fun err herr => hfailed hnot (eq_false_of_ne_true fun hs => ?_) err, fun hok =>
    hadded hnot (hr.1 hok)⟩
  cases herr.symm.trans (hr.2 hs)

/-! ### A deletion -/

section delete
variable {Q : Except GoError Unit → Pass StackitMachine σ → Prop}

/-- The copy without the finalizer. -/
def withoutFinalizer (sm : StackitMachine) : StackitMachine :=
  { sm with metadata := removeFinalizer sm.metadata machineFinalizer }

theorem wp_deleteInstance
    (h : wp (resolveServerForDeletion client ctx p.obj) (OrError Q p fun id s =>
      (id ≠ "" → wp (tolerate isNotFound (client.deleteServer id)) (OrError Q p fun _ s =>
        Q (.ok ()) { p with obj := withoutFinalizer p.obj.clearInstance, cloud := s }) s) ∧
      (id = "" → Q (.ok ()) { p with obj := withoutFinalizer p.obj, cloud := s })) p.cloud) :
    wp (deleteInstance client ctx) Q p := by
  unfold deleteInstance
  rw [Pass.wp_getObj_bind]
  refine wp_call_orError (wp_orError h (fun id s ⟨hdelete, hnone⟩ => ?_) fun _ _ hs => hs)
  refine wp_ite (fun hne => ?_) fun h0 => hnone (not_ne_iff.1 h0)
  exact wp_call_orError (p := { p with cloud := s }) (hdelete hne)

theorem wp_reconcileDelete
    (hmissing : ∀ err, buildCloudClient src ctx.stackitCluster = .error err →
      isAPINotFound err = true → Q (.ok ()) { p with obj := withoutFinalizer p.obj })
    (hfailed : ∀ err, buildCloudClient src ctx.stackitCluster = .error err →
      isAPINotFound err = false →
      Q (if isUnauthorized err || isInvalidInput err || err.wraps == some .errCredentialsInvalid
        then .ok () else .error err) { p with
        obj := p.obj.setConditions .false "CredentialsInvalid" err.text
          [machineCredentialsReadyCondition] })
    (hclient : ∀ client, buildCloudClient src ctx.stackitCluster = .ok client →
      wp (deleteInstance client ctx) Q p) :
    wp (reconcileDelete src ctx) Q p := by
  unfold reconcileDelete
  split
  · rename_i err hbuild
    refine wp_ite (hmissing err hbuild) fun hnot => ?_
    have hend := hfailed err hbuild (by simpa using hnot)
    rw [wp_bind]
    refine wp_failWith ?_
    unfold credentialFailureResult
    split at hend
    · rw [if_pos ‹_›]
      exact hend
    · rw [if_neg ‹_›]
      exact hend
  · rename_i client hbuild
    exact hclient client hbuild

theorem wp_reconcileDelete_provided
    (hclient : buildCloudClient src ctx.stackitCluster = .ok client)
    (h : wp (deleteInstance client ctx) Q p) : wp (reconcileDelete src ctx) Q p := by
  refine wp_reconcileDelete (fun _ hbad => ?_) (fun _ hbad => ?_) fun client' hclient' => ?_
  · cases hclient.symm.trans hbad
  · cases hclient.symm.trans hbad
  · cases hclient.symm.trans hclient'
    exact h

end delete

/-! ### `Reconcile` -/

/-- The copy with the `Paused` condition of the pass. -/
def withPaused (ctx : MachineContext) (sm : StackitMachine) : StackitMachine :=
  { sm with
    conditions := setPausedCondition sm.conditions sm.metadata.generation
      (reconciliationPaused (some ctx.cluster) sm.metadata) }

theorem wp_reconcileScope
    (hpaused : reconciliationPaused (some ctx.cluster) p.obj.metadata ≠ none →
      Q (.ok {}) { p with obj := withPaused ctx p.obj })
    (hdelete : reconciliationPaused (some ctx.cluster) p.obj.metadata = none →
      p.obj.metadata.deleting = true →
      wp (reconcileDelete src ctx) (fun r q => Q (r.map fun _ => {}) q)
        { p with obj := withPaused ctx p.obj })
    (hnormal : reconciliationPaused (some ctx.cluster) p.obj.metadata = none →
      p.obj.metadata.deleting = false →
      wp (reconcileNormal src ctx) Q { p with obj := withPaused ctx p.obj }) :
    wp (reconcileScope src ctx) Q p := by
  unfold reconcileScope
  rw [Pass.wp_getObj_bind, Pass.wp_setObj_bind]
  refine wp_ite (fun h => hpaused (Option.isSome_iff_ne_none.1 h)) fun hnone => ?_
  have hnone := Option.not_isSome_iff_eq_none.1 hnone
  refine wp_ite (fun hdeleting => ?_) fun halive => hnormal hnone (by simpa using halive)
  rw [wp_bind]
  refine (hdelete hnone hdeleting).imp fun r q hq => ?_
  cases r <;> exact hq

/-- The pass gets to create its scope. -/
structure Scoped (answers : Answers σ) (sm : StackitMachine) (ctx : MachineContext) : Prop where
  there : ObjectMeta.gone sm.metadata = false
  read : answers.getStackitMachine = none
  owners : lookupContext answers = .ok (some ctx)

/-- The pass ends before it has a scope, or it works on a copy of the stored object and patches it
in the end. -/
theorem wp_reconcile {answers : Answers σ}
    (hidle : (∀ ctx, ¬ Scoped answers p.stored ctx) → ∀ r, Q r p)
    (hpass : ∀ ctx, Scoped answers p.stored ctx →
      wp (Pass.withDeferredPatch (reconcileScope answers.source ctx)) Q
        { p with obj := p.stored }) :
    wp (reconcile answers) Q p := by
  unfold reconcile
  rw [wp_bind, wp_get, next_ok]
  refine wp_ite (fun hgone => hidle (fun ctx h => ?_) _) fun hthere => ?_
  · cases hgone.symm.trans h.there
  split
  · rename_i err hread
    have hno : ∀ ctx, ¬ Scoped answers p.stored ctx := fun ctx h => by cases hread.symm.trans h.read
    exact wp_ite (fun _ => hidle hno _) fun _ => hidle hno _
  rename_i hread
  split
  · rename_i err hlookup
    exact hidle (fun ctx h => by cases hlookup.symm.trans h.owners) _
  · rename_i hlookup
    exact hidle (fun ctx h => by cases hlookup.symm.trans h.owners) _
  · rename_i ctx hlookup
    exact hpass ctx ⟨by simpa using hthere, hread, hlookup⟩

end Capstk.MachineReconciler
