import Capstk.Proofs.ClusterWrites
import Capstk.Proofs.MachineReadiness
import Capstk.Proofs.Schema
import Capstk.Proofs.Webhook

/-!
# What a machine pass writes is accepted

Of the spec a pass writes `providerID` and nothing else, and the webhook refuses to have it changed
once it is set. It is not: the ID that was written names the one server with the machine's tags
(`Bound`), and a pass never takes another one while that server exists. The addresses that are
published are those of network interfaces, and conditions keep to their types and reasons.
-/

namespace Capstk

open Prog Schema Webhook

variable {rules : NameRules} {sm₀ sm sm' : StackitMachine} {T : StringMap} {c c₀ c' : Cloud}
  {id : String}

/-! ### Servers that can be published -/

structure AddressFits (address : MachineAddress) : Prop where
  length : 1 ≤ address.address.length ∧ address.address.length ≤ 256
  type : address.type ∈ machineAddressTypes

theorem tolerable_addresses {l : List MachineAddress} :
    Tolerable (Schema.addresses l) ↔ ∀ a ∈ l, AddressFits a := by
  refine tolerable_items fun path a => ?_
  simp only [tolerable_append, tolerable_length, tolerable_violated, Nat.reduceEqDiff, reduceCtorEq,
    or_false, Bool.not_eq_false', List.contains_iff_mem]
  exact ⟨fun h => ⟨h.1, h.2⟩, fun h => ⟨h.length, h.type⟩⟩

/-- The addresses of a network interface can be published. -/
def NICFits (nic : SDKNIC) : Prop := nic.ipv4.length ≤ 256 ∧ nic.ipv6.length ≤ 256

instance (nic : SDKNIC) : Decidable (NICFits nic) :=
  inferInstanceAs (Decidable (nic.ipv4.length ≤ 256 ∧ nic.ipv6.length ≤ 256))

/-- So can those of every network interface that is there, or that a new server gets. -/
structure NICsFit (c : Cloud) : Prop where
  servers : ∀ server ∈ c.servers, ∀ nic ∈ server.nics, NICFits nic
  newServers : ∀ id, ∀ nic ∈ (c.provisioning.server id).nics, NICFits nic

def ServerFits (server : Server) : Prop :=
  ∀ a ∈ MachineReconciler.machineAddressesFromCloud server.addresses, AddressFits a

theorem length_pos_of_ne {s : String} (h : s ≠ "") : 1 ≤ s.length := by
  rw [Nat.one_le_iff_ne_zero]
  exact fun h0 => h (String.length_eq_zero_iff.1 h0)

theorem addressFits_nic {nic : SDKNIC} (h : NICFits nic) :
    ∀ a ∈ SDKClient.nicAddresses nic, AddressFits ⟨a.type, a.address⟩ := by
  have htype : "InternalIP" ∈ machineAddressTypes := by decide
  intro a ha
  rcases List.mem_append.1 ha with ha | ha
  · split at ha
    · cases ha
    · rename_i hne
      rw [List.mem_singleton.1 ha]
      exact ⟨⟨length_pos_of_ne hne, h.1⟩, htype⟩
  · split at ha
    · cases ha
    · rename_i hne
      rw [List.mem_singleton.1 ha]
      exact ⟨⟨length_pos_of_ne hne, h.2⟩, htype⟩

/-- A call that answers with servers of the cloud, all of which can be published. -/
def Publishes {α : Type} (P : α → Prop) (x : Call Session α) : Prop :=
  ∀ s, NICsFit s.cloud → wp x (fun r t => NICsFit t.cloud ∧ ∀ a, r = .ok a → P a) s

namespace Publishes
variable {α β : Type} {P : α → Prop} {Q : β → Prop}

theorem bind {x : Call Session α} {f : α → Call Session β} (hx : Publishes P x)
    (hf : ∀ a, P a → Publishes Q (f a)) :
    Publishes Q (x >>= f) := by
  intro s hs
  rw [wp_bind]
  refine (hx s hs).imp fun r t ⟨ht, hr⟩ => ?_
  cases r with
  | error e => exact ⟨ht, fun _ h => by cases h⟩
  | ok a => exact hf a (hr a rfl) t ht

theorem pure {a : α} (h : P a) : Publishes P (pure a : Call Session α) :=
  fun s hs => ⟨hs, fun b hb => by cases hb; exact h⟩

theorem fail {e : GoError} : Publishes P (fail e : Call Session α) :=
  fun s hs => ⟨hs, fun b hb => by cases hb⟩

theorem ite {d : Prop} [Decidable d] {x y : Call Session α} (hx : Publishes P x)
    (hy : Publishes P y) :
    Publishes P (if d then x else y) := fun s hs => wp_ite (fun _ => hx s hs) fun _ => hy s hs

theorem existingOr {absent : GoError → Bool} {find create : Call Session α}
    (hfind : Publishes P find) (hcreate : Publishes P create) :
    Publishes P (existingOr absent find create) := fun s hs =>
  wp_existingOr_of (hfind s hs) (fun a t ⟨ht, hr⟩ => ⟨ht, fun b hb => by cases hb; exact hr a rfl⟩)
    (fun e t ⟨ht, _⟩ _ => hcreate t ht) fun e t ⟨ht, _⟩ _ => ⟨ht, fun b hb => by cases hb⟩

theorem request {op : String} {req : Request} {effect : Cloud.Effect α}
    (heffect : ∀ c, NICsFit c → NICsFit (effect c).2)
    (hanswer : ∀ c a, NICsFit c → (effect c).1 = .ok a → P a) :
    Publishes P (request op req effect) := by
  intro s hs
  refine wp_request fun r c t hr ht => ?_
  refine ⟨?_, fun a ha => ?_⟩
  · rw [ht.cloud]
    rcases hr.cloud_cases with rfl | rfl
    · exact hs
    · exact heffect _ hs
  · subst ha
    exact hanswer s.cloud a hs (by rw [hr.ok])

theorem single {one many : String} {l : List α} (h : ∀ a ∈ l, P a) :
    Publishes P (SDKClient.single one many l) := by
  intro s hs
  refine wp_single (fun _ => ⟨hs, fun _ h => by cases h⟩) (fun a ha => ⟨hs, fun b hb => ?_⟩)
    fun _ => ⟨hs, fun _ h => by cases h⟩
  cases hb
  exact h a (by rw [ha]; exact List.mem_singleton.2 rfl)

end Publishes

theorem publishes_serverFromSDK (server : SDKServer) :
    Publishes ServerFits (SDKClient.serverFromSDK server) := by
  intro s hs
  unfold SDKClient.serverFromSDK
  rw [wp_attempt_bind]
  have hnics : Publishes (fun nics : List SDKNIC => ∀ nic ∈ nics, NICFits nic)
      (request "list server NICs" (.listServerNICs server.id) (Cloud.listServerNICs server.id)) :=
        by
    refine .request (fun c hc => ?_) fun c nics hc hnics => ?_
    · unfold Cloud.listServerNICs
      split <;> exact hc
    · unfold Cloud.listServerNICs at hnics
      split at hnics
      · rename_i x hfind
        cases hnics
        exact hc.servers x (List.mem_of_find?_eq_some hfind)
      · cases hnics
  refine (hnics s hs).imp fun r t ⟨ht, hr⟩ => ⟨ht, fun a ha => ?_⟩
  cases ha
  cases r with
  | error e => exact fun a ha => by cases ha
  | ok nics =>
    intro a ha
    obtain ⟨address, haddress, rfl⟩ := List.mem_map.1 ha
    obtain ⟨nic, hnic, haddress⟩ := List.mem_flatMap.1 haddress
    exact addressFits_nic (hr nics rfl nic hnic) address haddress

theorem publishes_serversFromSDK (T : StringMap) (l : List SDKServer) :
    Publishes (fun out : List Server => ∀ a ∈ out, ServerFits a)
      (SDKClient.serversFromSDK T l) := by
  induction l with
  | nil => exact .pure fun _ h => by cases h
  | cons server l ih =>
    refine .ite (.bind (publishes_serverFromSDK server) fun a ha => .bind ih fun out hout =>
      .pure ?_) ih
    exact List.forall_mem_cons.2 ⟨ha, hout⟩

theorem publishes_findServerByTags (T : StringMap) :
    Publishes ServerFits (SDKClient.findServerByTags T) := by
  have hlist : Publishes (fun out : List Server => ∀ a ∈ out, ServerFits a)
      (SDKClient.listServersByTags T) :=
    .ite .fail (.bind (P := fun _ => True) (.request (fun _ hc => hc) fun _ _ _ _ => trivial)
      fun l _ => publishes_serversFromSDK T l)
  exact .bind hlist fun l hl => .single hl

theorem publishes_getServer (id : String) : Publishes ServerFits (SDKClient.getServer id) := by
  refine .bind (P := fun _ => True) (.request (fun c hc => ?_) fun _ _ _ _ => trivial)
    fun server _ => publishes_serverFromSDK server
  unfold Cloud.getServer
  split <;> exact hc

theorem publishes_createServer (input : CreateServerInput) :
    Publishes ServerFits (SDKClient.createServer input) := by
  refine .existingOr (publishes_findServerByTags _) ?_
  refine .bind (P := fun _ => True) (.request (fun c hc => ?_) fun _ _ _ _ => trivial)
    fun server _ => publishes_serverFromSDK server
  refine ⟨fun server hserver => ?_, hc.newServers⟩
  rcases List.mem_append.1 hserver with hold | hnew
  · exact hc.servers server hold
  · rw [List.mem_singleton.1 hnew]
    exact hc.newServers _

theorem publishes_ensureServer (ctx : MachineContext) (sm : StackitMachine) (data : String) :
    Publishes ServerFits (MachineReconciler.ensureServer sdkClient ctx sm data) := by
  have hcreate :
      Publishes ServerFits (MachineReconciler.createMissingServer sdkClient ctx sm data) :=
    .ite .fail (.ite .fail (publishes_createServer _))
  have htags :
      Publishes ServerFits (existingOr isNotFound (sdkClient.findServerByTags (ctx.tags sm))
        (MachineReconciler.createMissingServer sdkClient ctx sm data)) := .existingOr
      (publishes_findServerByTags _) hcreate
  exact .ite (.existingOr (publishes_getServer _) htags) htags

/-! ### What a pass makes of the object -/

namespace MachineReconciler

/-- The conditions of a machine, the `Paused` one apart. -/
def conditionTypes : List String :=
  [machineReadyCondition, machineBootstrapReadyCondition, machineCredentialsReadyCondition,
    machineInstanceReadyCondition]

/-- The reasons that a pass gives for a condition. -/
def reasons : List String :=
  ["Available", "CredentialsInvalid", "InfrastructureNotReady", "InvalidFailureDomain",
    "InstanceNotFound", "InstanceError",
    "BastionSSHAccessError", "BootstrapDataSecretMissing", "BootstrapDataSecretNotFound",
    "BootstrapDataSecretError",
    bootstrapReasonInvalid] ++ serverStateReasons

theorem typeFits_conditionTypes : ∀ t ∈ conditionTypes, typeFits t = true := by decide

theorem reasonFits_reasons : ∀ reason ∈ reasons, reasonFits reason = true := by decide

theorem fetchBootstrapData_reason {σ : Type} {src : ClientSource σ} {machine : Machine}
    {reason message : String} (h : fetchBootstrapData src machine = .error (reason, message)) :
    reason ∈ reasons := by
  unfold fetchBootstrapData at h
  dsimp only at h
  split at h
  · cases h
    decide
  · split at h
    · split at h
      · cases h
        decide
      · cases h
        decide
    · split at h
      · cases h
        decide
      · cases h

end MachineReconciler

/-- What the webhooks leave as it is and accept, and so does the schema, up to the length of
messages. -/
structure MachineAcceptable (rules : NameRules) (sm : StackitMachine) : Prop where
  defaulted : defaultStackitMachine sm = sm
  spec : validateStackitMachineSpec rules sm.spec "spec" true = []
  schema : Tolerable (Schema.stackitMachine sm)
  generation : 0 ≤ sm.metadata.generation

/-- What a pass over `sm₀` may make of it, whatever the provider ID is. -/
structure MachineWrittenOver (sm₀ sm : StackitMachine) : Prop where
  generation : sm.metadata.generation = sm₀.metadata.generation
  deleting : sm.metadata.deleting = sm₀.metadata.deleting
  spec : sm.spec = { sm₀.spec with providerID := sm.spec.providerID }
  kept : sm₀.spec.providerID.isSome = true → sm.spec.providerID.isSome = true
  addresses : ∀ a ∈ sm.status.addresses, AddressFits a
  conditions : ConditionsFit sm.conditions

theorem tolerable_stackitMachine : Tolerable (Schema.stackitMachine sm) ↔
    Tolerable (machineSpec sm.spec) ∧ (∀ a ∈ sm.status.addresses, AddressFits a) ∧
    ConditionsFit sm.conditions := by
  rw [Schema.stackitMachine, tolerable_append, tolerable_append, tolerable_addresses,
    tolerable_conditions, and_assoc]

theorem machine_deliver_parts (d : PatchOutcome) (sm sm' : StackitMachine) :
    ((Pass.deliver d sm sm').spec = sm.spec ∨ (Pass.deliver d sm sm').spec = sm'.spec) ∧
    ((Pass.deliver d sm sm').status = sm.status ∨ (Pass.deliver d sm sm').status = sm'.status) ∧
    ((Pass.deliver d sm sm').conditions = sm.conditions ∨ (Pass.deliver d sm sm').conditions =
      sm'.conditions) ∧
    (Pass.deliver d sm sm').metadata.generation = sm'.metadata.generation ∧
    (Pass.deliver d sm sm').metadata.deleting = sm'.metadata.deleting := by
  unfold Pass.deliver
  refine ⟨?_, ?_, ?_, ?_, ?_⟩
  all_goals split <;> split <;> first | exact .inl rfl | exact .inr rfl | rfl

namespace MachineWrittenOver

theorem refl (h : MachineAcceptable rules sm) : MachineWrittenOver sm sm := by
  obtain ⟨-, haddresses, hconditions⟩ := tolerable_stackitMachine.1 h.schema
  exact ⟨rfl, rfl, rfl, id, haddresses, hconditions⟩

theorem labels (h : MachineWrittenOver sm₀ sm) :
    sm.spec.additionalLabels = sm₀.spec.additionalLabels := by rw [h.spec]

theorem deliver (h : MachineWrittenOver sm₀ sm) (h' : MachineWrittenOver sm₀ sm')
    (d : PatchOutcome) :
    MachineWrittenOver sm₀ (Pass.deliver d sm sm') := by
  obtain ⟨hspec, hstatus, hconditions, hgeneration, hdeleting⟩ := machine_deliver_parts d sm sm'
  refine ⟨hgeneration.trans h'.generation, hdeleting.trans h'.deleting, ?_, ?_, ?_, ?_⟩
  · rcases hspec with heq | heq
    · exact heq ▸ h.spec
    · exact heq ▸ h'.spec
  · rcases hspec with heq | heq
    · exact heq ▸ h.kept
    · exact heq ▸ h'.kept
  · rcases hstatus with heq | heq
    · exact heq ▸ h.addresses
    · exact heq ▸ h'.addresses
  · rcases hconditions with heq | heq
    · exact heq ▸ h.conditions
    · exact heq ▸ h'.conditions

theorem setConditions (h : MachineWrittenOver sm₀ sm) (h₀ : MachineAcceptable rules sm₀)
    {status : ConditionStatus} {reason message : String} {types : List String}
    (hreason : reason ∈ MachineReconciler.reasons)
    (htypes : ∀ t ∈ types, t ∈ MachineReconciler.conditionTypes) :
    MachineWrittenOver sm₀ (sm.setConditions status reason message types) :=
  ⟨h.generation, h.deleting, h.spec, h.kept, h.addresses,
    h.conditions.setConditions (h.generation ▸ h₀.generation)
    (MachineReconciler.reasonFits_reasons reason hreason) fun t ht =>
    MachineReconciler.typeFits_conditionTypes t (htypes t ht)⟩

theorem setPaused (h : MachineWrittenOver sm₀ sm) (h₀ : MachineAcceptable rules sm₀)
    (paused : Option String) :
    MachineWrittenOver sm₀ { sm with
      conditions := setPausedCondition sm.conditions sm.metadata.generation paused } := by
  refine ⟨h.generation, h.deleting, h.spec, h.kept, h.addresses, ?_⟩
  have hgeneration := h.generation ▸ h₀.generation
  cases paused with
  | none => exact h.conditions.setConditions hgeneration (by decide) (by decide)
  | some message => exact h.conditions.setConditions hgeneration (by decide) (by decide)

theorem setReadiness (h : MachineWrittenOver sm₀ sm) (ready : Bool) :
    MachineWrittenOver sm₀ { sm with status := { sm.status with ready } } :=
  ⟨h.generation, h.deleting, h.spec, h.kept, h.addresses, h.conditions⟩

theorem setInstance (h : MachineWrittenOver sm₀ sm) {server : Server}
    (hserver : ServerFits server) :
    MachineWrittenOver sm₀ ({ sm with status := { sm.status with
      addresses := MachineReconciler.machineAddressesFromCloud server.addresses } }.setInstance
        server) := by
  have hspec :=
    congrArg
    (fun spec : StackitMachineSpec => { spec with providerID := some (newProviderID server.id) })
    h.spec
  exact ⟨h.generation, h.deleting, hspec, fun _ => rfl, hserver, h.conditions⟩

theorem setFinalizers (h : MachineWrittenOver sm₀ sm) (finalizers : List String) :
    MachineWrittenOver sm₀ { sm with metadata := { sm.metadata with finalizers } } :=
  ⟨h.generation, h.deleting, h.spec, h.kept, h.addresses, h.conditions⟩

end MachineWrittenOver

/-! ### The provider ID -/

/-- What the object says of its server is true: it is the one with the tags. -/
structure Bound (T : StringMap) (c : Cloud) (sm : StackitMachine) : Prop where
  recorded : sm.status.instanceID ≠ "" → taggedIDs T c = [sm.status.instanceID]
  provider : ∀ providerID, sm.spec.providerID = some providerID →
    ∃ id, providerID = newProviderID id ∧ taggedIDs T c = [id]

namespace Bound

theorem congr (h : Bound T c sm) (hid : sm'.status.instanceID = sm.status.instanceID)
    (hprovider : sm'.spec.providerID = sm.spec.providerID) : Bound T c sm' :=
  ⟨by rw [hid]; exact h.recorded, by rw [hprovider]; exact h.provider⟩

theorem sameIDs (h : Bound T c sm) (hc : taggedIDs T c' = taggedIDs T c) : Bound T c' sm :=
  ⟨by rw [hc]; exact h.recorded, by rw [hc]; exact h.provider⟩

theorem of_none (h : Bound T c sm) (hnone : taggedIDs T c = []) : Bound T c' sm := by
  refine ⟨fun hne => ?_, fun providerID hid => ?_⟩
  · have hone := h.recorded hne
    rw [hnone] at hone
    cases hone
  · obtain ⟨id, -, hone⟩ := h.provider providerID hid
    rw [hnone] at hone
    cases hone

theorem deliver (h : Bound T c sm) (h' : Bound T c sm') (d : PatchOutcome) :
    Bound T c (Pass.deliver d sm sm') := by
  obtain ⟨hspec, hstatus, -⟩ := machine_deliver_parts d sm sm'
  refine ⟨?_, ?_⟩
  · rcases hstatus with heq | heq
    · exact heq ▸ h.recorded
    · exact heq ▸ h'.recorded
  · rcases hspec with heq | heq
    · exact heq ▸ h.provider
    · exact heq ▸ h'.provider

end Bound

/-- What holds during a pass over a machine that is not being deleted; `sm₀` and `c₀` are what it
starts from. -/
structure Fine (T : StringMap) (c₀ : Cloud) (sm₀ : StackitMachine)
    (p : Pass StackitMachine Session) : Prop where
  obj : MachineWrittenOver sm₀ p.obj
  stored : MachineWrittenOver sm₀ p.stored
  objBound : Bound T p.cloud.cloud p.obj
  storedBound : Bound T p.cloud.cloud p.stored
  kept : taggedIDs T c₀ ≠ [] → taggedIDs T p.cloud.cloud = taggedIDs T c₀

namespace Fine
variable {p : Pass StackitMachine Session}

theorem set (h : Fine T c₀ sm₀ p) (hsm : MachineWrittenOver sm₀ sm)
    (hid : sm.status.instanceID = p.obj.status.instanceID)
    (hprovider : sm.spec.providerID = p.obj.spec.providerID) : Fine T c₀ sm₀ { p with obj := sm } :=
  ⟨hsm, h.stored, h.objBound.congr hid hprovider, h.storedBound, h.kept⟩

theorem setConditions (h : Fine T c₀ sm₀ p) (h₀ : MachineAcceptable rules sm₀)
    {status : ConditionStatus} {reason message : String} {types : List String}
    (hreason : reason ∈ MachineReconciler.reasons)
    (htypes : ∀ t ∈ types, t ∈ MachineReconciler.conditionTypes) :
    Fine T c₀ sm₀ { p with obj := p.obj.setConditions status reason message types } :=
  h.set (h.obj.setConditions h₀ hreason htypes) rfl rfl

theorem setNotReady (h : Fine T c₀ sm₀ p) (h₀ : MachineAcceptable rules sm₀)
    {reason message : String} {types : List String} (hreason : reason ∈ MachineReconciler.reasons)
    (htypes : ∀ t ∈ types, t ∈ MachineReconciler.conditionTypes) :
    Fine T c₀ sm₀ { p with obj := p.obj.setNotReady reason message types } :=
  h.set ((h.obj.setReadiness false).setConditions h₀ hreason htypes) rfl rfl

theorem cloudFailed (h : Fine T c₀ sm₀ p) (h₀ : MachineAcceptable rules sm₀)
    {reason message : String} {types : List String} (hreason : reason ∈ MachineReconciler.reasons)
    (htypes : ∀ t ∈ types, t ∈ MachineReconciler.conditionTypes) :
    Fine T c₀ sm₀ { p with obj := MachineReconciler.cloudFailed p.obj reason message types } :=
  (h.setNotReady h₀ hreason htypes).setConditions h₀ hreason htypes

theorem sameIDs (h : Fine T c₀ sm₀ p) {t : Session}
    (ht : taggedIDs T t.cloud = taggedIDs T p.cloud.cloud) :
    Fine T c₀ sm₀ { p with cloud := t } :=
  ⟨h.obj, h.stored, h.objBound.sameIDs ht, h.storedBound.sameIDs ht, fun hne =>
    ht.trans (h.kept hne)⟩

theorem patched (h : Fine T c₀ sm₀ p) (d : PatchOutcome) (patches : List PatchOutcome) :
    Fine T c₀ sm₀ { p with stored := Pass.deliver d p.obj p.stored, patches } :=
  ⟨h.obj, h.obj.deliver h.stored d, h.objBound, h.objBound.deliver h.storedBound d, h.kept⟩

end Fine

namespace MachineReconciler
variable {src : ClientSource Session} {ctx : MachineContext} {p : Pass StackitMachine Session}
  {data : String}

theorem fine_reconcileServer {server : Server} (h : Fine T c₀ sm₀ p)
    (h₀ : MachineAcceptable rules sm₀) (hserver : ServerFits server)
    (hone : taggedIDs T p.cloud.cloud = [server.id]) :
    wp (reconcileServer sdkClient ctx server) (fun _ q => Fine T c₀ sm₀ q) p := by
  have hset : Fine T c₀ sm₀ { p with obj := recorded server p.obj } :=
    ⟨h.obj.setInstance hserver, h.stored,
      ⟨fun _ => hone, fun _ hid => ⟨server.id, (Option.some.inj hid).symm, hone⟩⟩,
      h.storedBound, h.kept⟩
  have hq : ∀ t : Session, SameServers p.cloud.cloud t.cloud →
      Fine T c₀ sm₀ { p with obj := recorded server p.obj, cloud := t } :=
    fun t ht => hset.sameIDs (ht.taggedIDs_eq T)
  refine wp_reconcileServer (fun hdown => ?_)
    (fun _ => (sameServers_nodeSSHAccess ctx server).wp _) (fun t ht => ?_)
    fun _ t ht _ => (hq t ht).cloudFailed h₀ (by decide) (by decide)
  · exact hset.setNotReady h₀ (List.mem_append_right _ (serverStateCondition_listed hdown))
      (by decide)
  · exact (hq t ht).set (((hq t ht).obj.setReadiness true).setConditions h₀ (by decide) (by decide))
      rfl rfl

/-- The server is the one with the tags; it is created only if there is none. -/
theorem wp_ensureServer_bound {sm : StackitMachine} {s : Session} (htags : ctx.tags sm = T)
    (hb : Bound T s.cloud sm) :
    wp (ensureServer sdkClient ctx sm data) (fun r t =>
      (taggedIDs T t.cloud = taggedIDs T s.cloud ∨ taggedIDs T s.cloud = []) ∧
      ∀ a, r = .ok a → taggedIDs T t.cloud = [a.id]) s := by
  refine (wp_ensureServer ctx sm data s).imp fun r t ⟨hcloud, hok⟩ => ?_
  rw [htags] at hcloud hok
  refine ⟨?_, fun a ha => ?_⟩
  · rcases hcloud with hsame | ⟨-, -, hnone, -⟩
    · exact .inl (by rw [hsame])
    · exact .inr hnone
  · rcases hok a ha with hone | ⟨hid, hne, hsame⟩
    · exact hone
    · rw [hsame, hid]
      exact hb.recorded (hid ▸ hne)

theorem fine_reconcileInstance (hT : ∀ sm, sm.spec.additionalLabels = sm₀.spec.additionalLabels →
      ctx.tags sm = T)
    (h : Fine T c₀ sm₀ p) (h₀ : MachineAcceptable rules sm₀) (hnics : NICsFit p.cloud.cloud) :
    wp (reconcileInstance sdkClient ctx data) (fun _ q => Fine T c₀ sm₀ q) p := by
  have hset : Fine T c₀ sm₀ { p with obj := withCredentials p.obj } :=
    h.setConditions h₀ (by decide) (by decide)
  have hensure : wp (ensureServer sdkClient ctx (withCredentials p.obj) data) (fun r t =>
      Fine T c₀ sm₀ { p with obj := withCredentials p.obj, cloud := t } ∧
      ∀ a, r = .ok a → taggedIDs T t.cloud = [a.id] ∧ ServerFits a) p.cloud := by
    refine ((wp_ensureServer_bound (hT _ hset.obj.labels) hset.objBound).and
      (publishes_ensureServer ctx _ data _ hnics)).imp fun r t ⟨⟨hids, hone⟩, _, hfits⟩ => ?_
    refine ⟨?_, fun a ha => ⟨hone a ha, hfits a ha⟩⟩
    rcases hids with hsame | hnone
    · exact hset.sameIDs hsame
    · refine ⟨hset.obj, hset.stored, hset.objBound.of_none hnone, hset.storedBound.of_none hnone,
        fun hne => ?_⟩
      exact absurd ((hset.kept hne).symm.trans hnone) hne
  refine wp_reconcileInstance hensure (fun server t ⟨hq, hserver⟩ => ?_)
    (fun _ _ hq _ => hq.1.setNotReady h₀ (by decide) (by decide))
    fun _ _ hq _ _ => hq.1.cloudFailed h₀ (by decide) (by decide)
  obtain ⟨hone, hfits⟩ := hserver server rfl
  exact fine_reconcileServer hq h₀ hfits hone

theorem fine_patchFinalizer (h : Fine T c₀ sm₀ p)
    (hnot : containsFinalizer p.obj.metadata machineFinalizer = false) :
    Fine T c₀ sm₀ (patchFinalizer p) := by
  have hobj : Fine T c₀ sm₀ { p with obj := withFinalizer p.obj } := by
    refine h.set ?_ rfl rfl
    rw [withFinalizer, addFinalizer, if_neg (ne_true_of_eq_false hnot)]
    exact h.obj.setFinalizers _
  exact hobj.patched _ _

theorem fine_reconcileNormal (hT : ∀ sm, sm.spec.additionalLabels = sm₀.spec.additionalLabels →
      ctx.tags sm = T)
    (hsrc : SDKSource src ctx.stackitCluster) (h : Fine T c₀ sm₀ p)
    (h₀ : MachineAcceptable rules sm₀) (hnics : NICsFit p.cloud.cloud) :
    wp (reconcileNormal src ctx) (fun _ q => Fine T c₀ sm₀ q) p := by
  have hrest : ∀ q, Fine T c₀ sm₀ q → q.cloud = p.cloud →
      Proceeds src ctx (fun _ q => Fine T c₀ sm₀ q) q := by
    intro q hq hcloud
    have hset : Fine T c₀ sm₀ { q with obj := withBootstrapData q.obj } :=
      hq.setConditions h₀ (by decide) (by decide)
    refine ⟨fun _ => hq.setNotReady h₀ (by decide) (by decide),
      fun _ _ _ => hq.setNotReady h₀ (by decide) (by decide), fun _ _ => ?_⟩
    refine wp_reconcileBootstrap (fun _ _ hdata => ?_)
      (fun _ _ _ _ _ => hset.setConditions h₀ (by decide) (by decide)) fun _ client _ hclient => ?_
    · have hreason := fetchBootstrapData_reason hdata
      exact (hq.setConditions h₀ hreason (by decide)).setConditions h₀ hreason (by decide)
    · rw [hsrc client hclient]
      exact fine_reconcileInstance hT hset h₀ (hcloud ▸ hnics)
  exact wp_reconcileNormal (fun _ => hrest p h rfl) (fun hnot _ _ => fine_patchFinalizer h hnot)
    fun hnot _ => hrest _ (fine_patchFinalizer h hnot) rfl

/-- A deletion writes conditions, clears the status and drops the finalizer. -/
theorem written_reconcileDelete (h₀ : MachineAcceptable rules sm₀) {p : Pass StackitMachine Session}
    (h : MachineWrittenOver sm₀ p.obj ∧ p.obj.spec = sm₀.spec) :
    wp (reconcileDelete src ctx)
      (fun _ q => (MachineWrittenOver sm₀ q.obj ∧ q.obj.spec = sm₀.spec) ∧ q.stored = p.stored) p :=
  by
  have hcleared : MachineWrittenOver sm₀ p.obj.clearInstance :=
    ⟨h.1.generation, h.1.deleting, h.1.spec, h.1.kept, h.1.addresses, h.1.conditions⟩
  refine wp_reconcileDelete (fun _ _ _ => ⟨⟨h.1.setFinalizers _, h.2⟩, rfl⟩)
    (fun _ _ _ => ⟨⟨h.1.setConditions h₀ (by decide) (by decide), h.2⟩, rfl⟩) fun client _ => ?_
  refine wp_deleteInstance (wp_orError_of_forall (fun id s => ⟨fun _ => ?_, fun _ => ?_⟩)
    fun _ _ => ⟨h, rfl⟩)
  · exact wp_orError_of_forall (fun _ _ => ⟨⟨hcleared.setFinalizers _, h.2⟩, rfl⟩)
      fun _ _ => ⟨h, rfl⟩
  · exact ⟨⟨h.1.setFinalizers _, h.2⟩, rfl⟩

theorem written_reconcileScope (h₀ : MachineAcceptable rules sm₀)
    (hdel : p.obj.metadata.deleting = true)
    (h : MachineWrittenOver sm₀ p.obj ∧ p.obj.spec = sm₀.spec) :
    wp (reconcileScope src ctx) (fun _ q => (MachineWrittenOver sm₀ q.obj ∧ q.obj.spec = sm₀.spec) ∧
      q.stored = p.stored) p := by
  have hset : MachineWrittenOver sm₀ (withPaused ctx p.obj) ∧
      (withPaused ctx p.obj).spec = sm₀.spec :=
    ⟨h.1.setPaused h₀ (reconciliationPaused (some ctx.cluster) p.obj.metadata), h.2⟩
  refine wp_reconcileScope (fun _ => ⟨hset, rfl⟩) (fun _ _ => written_reconcileDelete h₀ hset)
    fun _ halive => ?_
  cases hdel.symm.trans halive

theorem fine_reconcileScope (hT : ∀ sm, sm.spec.additionalLabels = sm₀.spec.additionalLabels →
      ctx.tags sm = T)
    (hsrc : SDKSource src ctx.stackitCluster) (h : Fine T c₀ sm₀ p)
    (h₀ : MachineAcceptable rules sm₀) (hnics : NICsFit p.cloud.cloud)
    (hdel : p.obj.metadata.deleting = false) :
    wp (reconcileScope src ctx) (fun _ q => Fine T c₀ sm₀ q) p := by
  have hset : Fine T c₀ sm₀ { p with obj := withPaused ctx p.obj } :=
    h.set (h.obj.setPaused h₀ (reconciliationPaused (some ctx.cluster) p.obj.metadata)) rfl rfl
  refine wp_reconcileScope (fun _ => hset) (fun _ hyes => ?_) fun _ _ =>
    fine_reconcileNormal hT hsrc hset h₀ hnics
  cases hdel.symm.trans hyes

/-- A whole pass, whatever fails in it and whichever patches land. -/
theorem wp_reconcile_machineWritten {answers : Answers Session}
    (h₀ : MachineAcceptable rules p.stored) (hctx : ∀ ctx, lookupContext answers = .ok (some ctx) →
      (∀ sm, sm.spec.additionalLabels = p.stored.spec.additionalLabels → ctx.tags sm = T) ∧
      SDKSource answers.source ctx.stackitCluster)
    (hnics : NICsFit p.cloud.cloud)
      (hbound : p.stored.metadata.deleting = false → Bound T p.cloud.cloud p.stored) :
    wp (reconcile answers) (fun _ q => MachineWrittenOver p.stored q.stored ∧
      (p.stored.metadata.deleting = true → q.stored.spec = p.stored.spec) ∧
      (p.stored.metadata.deleting = false → Bound T q.cloud.cloud q.stored ∧
        (taggedIDs T p.cloud.cloud ≠ [] → taggedIDs T q.cloud.cloud = taggedIDs T p.cloud.cloud)))
        p := by
  have hrefl := MachineWrittenOver.refl h₀
  refine wp_reconcile (fun _ _ => ⟨hrefl, fun _ => rfl, fun hdel => ⟨hbound hdel, fun _ => rfl⟩⟩)
    fun ctx hscope => Pass.wp_withDeferredPatch ?_
  obtain ⟨hT, hsrc⟩ := hctx ctx hscope.owners
  cases hdel : p.stored.metadata.deleting with
  | true =>
    refine (written_reconcileScope h₀ hdel ⟨hrefl, rfl⟩).imp
      fun r q ⟨⟨hobj, hspec⟩, hstored⟩ d _ _ _ => ?_
    refine ⟨hobj.deliver (hstored ▸ hrefl) d, fun _ => ?_, (nomatch ·)⟩
    exact (machine_deliver_parts d q.obj q.stored).1.elim (·.trans hspec)
      (·.trans (congrArg StackitMachine.spec hstored))
  | false =>
    have hfine : Fine T p.cloud.cloud p.stored { p with obj := p.stored } :=
      ⟨hrefl, hrefl, hbound hdel, hbound hdel, fun _ => rfl⟩
    refine (fine_reconcileScope hT hsrc hfine h₀ hnics hdel).imp fun r q hq d _ _ _ => ?_
    exact ⟨(hq.patched d []).stored, (nomatch ·), fun _ => ⟨(hq.patched d []).storedBound, hq.kept⟩⟩

end MachineReconciler

/-! ### The webhook's view of it -/

theorem isProviderID_newProviderID {id : String} (hne : id ≠ "") (hslash : '/' ∉ id.toList) :
    isProviderID (newProviderID id) = true := by
  have hid : id.toList ≠ [] := fun h => hne (String.toList_eq_nil_iff.1 h)
  simp [isProviderID, newProviderID, hid, hslash]

theorem validateStackitMachineSpec_provider {spec : StackitMachineSpec} {path : String}
    {providerID : Option String} (h : validateStackitMachineSpec rules spec path true = [])
    (hid : ∀ id, providerID = some id → isProviderID id = true) :
    validateStackitMachineSpec rules { spec with providerID } path true = [] := by
  simp only [validateStackitMachineSpec, List.append_eq_nil_iff] at h ⊢
  have hprovider : validateProviderID providerID (path ++ ".providerID") true = [] := by
    cases providerID with
    | none => rfl
    | some id => simp [validateProviderID, hid id rfl]
  tauto

theorem MachineAcceptable.provider (h : MachineAcceptable rules sm) {id : String}
    (hid : sm.spec.providerID = some id) :
    isProviderID id = true := by
  have hspec := h.spec
  simp only [validateStackitMachineSpec, List.append_eq_nil_iff, hid] at hspec
  simpa [validateProviderID] using hspec.1.1.1.1.1.1.1.1

theorem MachineAcceptable.admits (h : MachineAcceptable rules sm₀) (hspec : sm.spec = sm₀.spec) :
    admitsMachineUpdate rules sm₀ sm = true := by
  rw [admitsMachineUpdate, hspec, h.spec, validateStackitMachineSpecUpdate, hspec,
    sameVMFields_self, sameLabels_self]
  cases sm₀.spec.providerID <;> simp

theorem defaultMachineSpec_provider (spec : StackitMachineSpec) (providerID : Option String) :
    defaultMachineSpec { spec with providerID } = { defaultMachineSpec spec with providerID } := by
  unfold defaultMachineSpec
  dsimp only
  split <;> rfl

theorem defaultStackitMachine_eq_iff :
    defaultStackitMachine sm = sm ↔ defaultMachineSpec sm.spec = sm.spec :=
  ⟨fun h => congrArg StackitMachine.spec h, fun h => congrArg (fun spec => { sm with spec }) h⟩

namespace MachineWrittenOver

theorem acceptable (h : MachineWrittenOver sm₀ sm) (h₀ : MachineAcceptable rules sm₀)
    (hid : ∀ id, sm.spec.providerID = some id → isProviderID id = true) :
    MachineAcceptable rules sm := by
  obtain ⟨hspec, -⟩ := tolerable_stackitMachine.1 h₀.schema
  refine ⟨?_, ?_, tolerable_stackitMachine.2 ⟨?_, h.addresses, h.conditions⟩,
    h.generation ▸ h₀.generation⟩
  · rw [defaultStackitMachine_eq_iff, h.spec, defaultMachineSpec_provider,
      defaultStackitMachine_eq_iff.1 h₀.defaulted]
  · rw [h.spec]
    exact validateStackitMachineSpec_provider h₀.spec hid
  · rw [h.spec]
    exact hspec

theorem admits (h : MachineWrittenOver sm₀ sm) (hsm : MachineAcceptable rules sm)
    (hsame : sm₀.spec.providerID.isSome = true → sm.spec.providerID = sm₀.spec.providerID) :
    admitsMachineUpdate rules sm₀ sm = true := by
  have hvm : sameVMFields (defaultMachineSpec sm₀.spec) (defaultMachineSpec sm.spec) = true := by
    rw [h.spec]
    unfold defaultMachineSpec
    split <;> exact sameVMFields_self _
  have hupdate : validateStackitMachineSpecUpdate sm₀ sm = [] := by
    rw [validateStackitMachineSpecUpdate, hvm, h.labels, sameLabels_self]
    cases hold : sm₀.spec.providerID.isSome with
    | false => simp
    | true => simp [hsame hold, hold]
  rw [admitsMachineUpdate, hsm.spec, hupdate]
  rfl

end MachineWrittenOver

/-- The provider ID stays while the server with the tags does. -/
theorem Bound.sameProvider (h : Bound T c sm) (h' : Bound T c' sm') (hw : MachineWrittenOver sm sm')
    (hkept : taggedIDs T c ≠ [] → taggedIDs T c' = taggedIDs T c)
    (hsome : sm.spec.providerID.isSome = true) :
    sm'.spec.providerID = sm.spec.providerID := by
  obtain ⟨p, hp⟩ := Option.isSome_iff_exists.1 hsome
  obtain ⟨p', hp'⟩ := Option.isSome_iff_exists.1 (hw.kept hsome)
  obtain ⟨id, rfl, hone⟩ := h.provider p hp
  obtain ⟨id', rfl, hone'⟩ := h'.provider p' hp'
  have hsame := hkept (by rw [hone]; exact List.cons_ne_nil _ _)
  rw [hone, hone'] at hsame
  rw [hp, hp', List.singleton_inj.1 hsame]

/-! ### Runs -/

namespace MachineWorld
variable {m : MachineIdentity} {w : MachineWorld} {as : List MachineAction} {L : StringMap}

/-- Beside what is admissible: the addresses and the server IDs that a pass meets can be published;
users submit any spec that leaves the provider ID to the controller, and what is stored is what the
defaulting webhook makes of it, if the validating one and the schema accept that; and the server
stays until the machine is being deleted. -/
def Orderly (rules : NameRules) (m : MachineIdentity) (w : MachineWorld) : MachineAction → Prop
  | .reconcile answers patches outcomes orders => NICsFit w.cloud ∧
      ∀ id ∈ taggedIDs (m.tags w.stored.spec.additionalLabels)
      (w.step (.reconcile answers patches outcomes orders)).cloud,
        '/' ∉ id.toList
  | .editSpec edit =>
    let spec := edit w.stored.spec
    spec.providerID = w.stored.spec.providerID ∧
      (∃ submitted, spec = defaultMachineSpec submitted) ∧
      admitsMachineUpdate rules w.stored { w.stored with spec } = true ∧
      Tolerable (machineSpec spec)
  | .serverDeleted id =>
    w.stored.metadata.deleting = false →
      id ∉ taggedIDs (m.tags w.stored.spec.additionalLabels) w.cloud
  | .cloudEvolves change => w.stored.metadata.deleting = false →
      let T := m.tags w.stored.spec.additionalLabels
      taggedIDs T (change w.cloud) = taggedIDs T w.cloud
  | .requestDeletion => True

/-- What the controller or a user writes is stored as it is: the defaulting webhook changes nothing
of it, and the validating one and the schema accept it as an update of what was stored. -/
structure Accepted (rules : NameRules) (w : MachineWorld) (a : MachineAction) : Prop where
  defaulted : defaultStackitMachine (w.step a).stored = (w.step a).stored
  admitted : admitsMachineUpdate rules w.stored (w.step a).stored = true
  schema : Tolerable (Schema.stackitMachine (w.step a).stored)

structure Publishable (rules : NameRules) (m : MachineIdentity) (L : StringMap) (w : MachineWorld) :
    Prop where
  consistent : Consistent (m.tags L) L w
  acceptable : MachineAcceptable rules w.stored
  bound : w.stored.metadata.deleting = false → Bound (m.tags L) w.cloud w.stored

theorem Publishable.sameStored {a : MachineAction} (h : Publishable rules m L w)
    (hc : Consistent (m.tags L) L (w.step a)) (hstored : (w.step a).stored = w.stored)
    (hids : w.stored.metadata.deleting = false → taggedIDs (m.tags L) (w.step a).cloud = taggedIDs
      (m.tags L) w.cloud) :
    Publishable rules m L (w.step a) ∧ Accepted rules w a := by
  have hacceptable : MachineAcceptable rules (w.step a).stored := hstored ▸ h.acceptable
  refine ⟨⟨hc, hacceptable, fun hdel => ?_⟩, hacceptable.defaulted,
    h.acceptable.admits (by rw [hstored]),
    hacceptable.schema⟩
  rw [hstored] at hdel ⊢
  exact (h.bound hdel).sameIDs (hids hdel)

theorem publishable_reconcile {answers : MachineReconciler.Answers Session}
    {patches : List PatchOutcome} {outcomes : List Outcome} {orders : List MapOrder}
    (h : Publishable rules m L w) (ha : Admissible m w (.reconcile answers patches outcomes orders))
    (ho : Orderly rules m w (.reconcile answers patches outcomes orders)) :
    Publishable rules m L (w.step (.reconcile answers patches outcomes orders)) ∧
      Accepted rules w (.reconcile answers patches outcomes orders) := by
  obtain ⟨hnics, hslash⟩ := ho
  have hc := h.consistent.step ha
  rw [h.consistent.stored.labels] at hslash
  have hctx : ∀ ctx, MachineReconciler.lookupContext answers = .ok (some ctx) →
      (∀ sm, sm.spec.additionalLabels = w.stored.spec.additionalLabels → ctx.tags sm = m.tags L) ∧
        SDKSource answers.source ctx.stackitCluster := by
    intro ctx hlookup
    obtain ⟨howns, hsrc⟩ := ha ctx hlookup
    exact ⟨fun sm hsm => by rw [howns.tags, hsm, h.consistent.stored.labels], hsrc.sdk⟩
  obtain ⟨hwritten, hdeleted, hnormal⟩ := MachineReconciler.wp_reconcile_machineWritten
    (p := w.begin patches outcomes orders) h.acceptable hctx hnics h.bound
  set w' := w.step (.reconcile answers patches outcomes orders)
  have hprovider : (∀ id, w'.stored.spec.providerID = some id → isProviderID id = true) ∧
      (w.stored.spec.providerID.isSome = true →
        w'.stored.spec.providerID = w.stored.spec.providerID) := by
    cases hdel : w.stored.metadata.deleting with
    | true =>
      have hspec : w'.stored.spec = w.stored.spec := hdeleted hdel
      rw [hspec]
      exact ⟨fun id hid => h.acceptable.provider hid, fun _ => rfl⟩
    | false =>
      obtain ⟨hbound, hkept⟩ := hnormal hdel
      refine ⟨fun providerID hid => ?_, (h.bound hdel).sameProvider hbound hwritten hkept⟩
      obtain ⟨id, rfl, hone⟩ := hbound.provider providerID hid
      have hmem : id ∈ taggedIDs (m.tags L) w'.cloud := hone ▸ List.mem_singleton.2 rfl
      exact isProviderID_newProviderID (fun hempty => hc.named (hempty ▸ hmem)) (hslash id hmem)
  have hacceptable := hwritten.acceptable h.acceptable hprovider.1
  refine ⟨⟨hc, hacceptable, fun hdel => (hnormal (hwritten.deleting ▸ hdel)).1⟩,
    hacceptable.defaulted, ?_,
    hacceptable.schema⟩
  exact hwritten.admits hacceptable hprovider.2

theorem Publishable.step {a : MachineAction} (h : Publishable rules m L w) (ha : Admissible m w a)
    (ho : Orderly rules m w a) :
    Publishable rules m L (w.step a) ∧ Accepted rules w a := by
  have hc := h.consistent.step ha
  have hlabels := h.consistent.stored.labels
  have hdefaulted : defaultMachineSpec w.stored.spec = w.stored.spec :=
    defaultStackitMachine_eq_iff.1 h.acceptable.defaulted
  cases a with
  | reconcile answers patches outcomes orders => exact publishable_reconcile h ha ho
  | requestDeletion =>
    have hacceptable : MachineAcceptable rules (w.step .requestDeletion).stored :=
      ⟨defaultStackitMachine_eq_iff.2 hdefaulted, h.acceptable.spec, h.acceptable.schema,
        h.acceptable.generation⟩
    exact ⟨⟨hc, hacceptable, fun hdel => by cases hdel⟩, hacceptable.defaulted,
      h.acceptable.admits rfl,
      hacceptable.schema⟩
  | editSpec edit =>
    obtain ⟨hprovider, ⟨submitted, hsubmitted⟩, hadmits, hspec⟩ := ho
    have hdefaulted' : defaultStackitMachine { w.stored with spec := edit w.stored.spec } =
        { w.stored with spec := edit w.stored.spec } := by
      rw [defaultStackitMachine_eq_iff, hsubmitted]
      exact defaultMachineSpec_idem submitted
    have hvalid := hadmits
    rw [admitsMachineUpdate, List.isEmpty_iff, List.append_eq_nil_iff] at hvalid
    obtain ⟨-, hrest⟩ := tolerable_stackitMachine.1 h.acceptable.schema
    have hschema : Tolerable (Schema.stackitMachine { w.stored with spec := edit w.stored.spec }) :=
      tolerable_stackitMachine.2 ⟨hspec, hrest⟩
    exact ⟨⟨hc, ⟨hdefaulted', hvalid.1, hschema, h.acceptable.generation⟩,
      fun hdel => (h.bound hdel).congr rfl hprovider⟩, hdefaulted', hadmits, hschema⟩
  | serverDeleted id =>
    refine h.sameStored hc rfl fun hdel => ?_
    have hnot := ho hdel
    rw [hlabels] at hnot
    show taggedIDs (m.tags L) (Cloud.deleteServer id w.cloud).2 = _
    rw [taggedIDs_deleteServer, List.filter_eq_self]
    intro id' hid'
    simpa using fun heq : id' = id => hnot (heq ▸ hid')
  | cloudEvolves change =>
    refine h.sameStored hc rfl fun hdel => ?_
    have hids := ho hdel
    rw [hlabels] at hids
    exact hids

/-- **No write of the machine controller is refused.** Over any run of passes, with whatever fails
in them and whichever patches land, of edits that leave the labels and the provider ID alone, and of
a deletion: the defaulting webhook has nothing to do on what becomes of a StackitMachine, the
validating one admits it as an update of what was stored, its provider ID included, and the schema
finds no fault but the length of a message. -/
theorem machine_writes_accepted (hw : w.Unprovisioned m) (hnone : w.stored.spec.providerID = none)
    (h : MachineAcceptable rules w.stored) (has : Runs.Meets step (Admissible m) w as)
    (ho : Runs.Meets step (Orderly rules m) w as) : Runs.Meets step (Accepted rules) w as := by
  have h₀ : Publishable rules m w.stored.spec.additionalLabels w := by
    refine ⟨hw.consistent, h, fun _ =>
      ⟨fun hne => absurd hw.noInstance hne, fun providerID hid => ?_⟩⟩
    rw [hnone] at hid
    cases hid
  exact (has.and ho).of_inv h₀ fun _ _ h ha => h.step ha.1 ha.2

def sampleVM : MachineWorld :=
  ⟨{ metadata := { name := "m", namespace' := "ns" },
     spec := { imageID := "11111111-1111-1111-1111-111111111111", machineType := "c1.2" } },
     { ids := .unary }⟩

theorem orderly_of_pass {patches : List PatchOutcome}
    (hanswers : w.cloud.provisioning = {})
    (h : (w.cloud.servers.all fun server => server.nics.all fun nic => decide (NICFits nic)) =
      true ∧
      ((taggedIDs (m.tags w.stored.spec.additionalLabels)
        (w.step (.reconcile sampleAnswers patches [] [])).cloud).all
        fun id => !id.toList.contains '/') = true) :
        Orderly rules m w (.reconcile sampleAnswers patches [] []) := by
  obtain ⟨hnics, hslash⟩ := h
  refine ⟨⟨by simpa using hnics, fun id nic hnic => ?_⟩, by simpa using hslash⟩
  rw [hanswers] at hnic
  cases hnic

/-- A pass whose status is lost, one that finds the server by its tags and records it, a deletion,
and the pass that carries it out. -/
theorem machine_writes_accepted_lostStatus :
    let as : List MachineAction :=
      [.reconcile sampleAnswers [{}, { status := .failed }] [] [],
        .reconcile sampleAnswers [] [] [],
      .requestDeletion, .reconcile sampleAnswers [] [] []]
    Runs.Meets step (Accepted .kubernetes) sampleVM as ∧
      (Runs.run step sampleVM as).stored.spec.providerID = some "stackit://i" := by
  intro as
  have has : Runs.Meets step (Admissible sampleIdentity) sampleVM as :=
    ⟨sampleAnswers_admissible _ _ _, sampleAnswers_admissible _ _ _, trivial,
      sampleAnswers_admissible _ _ _, trivial⟩
  have ho : Runs.Meets step (Orderly .kubernetes sampleIdentity) sampleVM as :=
    ⟨orderly_of_pass rfl (by decide +kernel), orderly_of_pass rfl (by decide +kernel), trivial,
      orderly_of_pass rfl (by decide +kernel), trivial⟩
  have hschema : Tolerable (Schema.stackitMachine sampleVM.stored) :=
    (by decide +kernel : ∀ v ∈ Schema.stackitMachine sampleVM.stored, v.rule = .maxLength 32768)
  exact ⟨machine_writes_accepted ⟨rfl, rfl⟩ rfl ⟨rfl, by decide +kernel, hschema, by decide⟩ has ho,
    by decide +kernel⟩

end MachineWorld

end Capstk
