import Capstk.Lib.Run
import Capstk.Lib.Sha256
import Capstk.ApiServer
import Capstk.Proofs.Watches

/-!
# No wake-up is lost

What a pass reads of the API server changes only with an event that enqueues the object: between two
states in which the references that Cluster API keeps are in place (`MachineLinked`,
`ClusterLinked`), an object that no event of a run enqueues would be answered in the end what it was
answered in the beginning. In between the references may be missing, as when a StackitCluster is
created before it gets its owner: the event that puts them in place enqueues. The machine controller
does not watch Clusters; of them this is said only for clusters.
-/

namespace Capstk

open ClusterReconciler

/-! ### The requests for a list of machines -/

namespace MachineReconciler
variable {loop : RequestLoop} {key : NamespacedName}

/-- `seen` are the requests, and there is one of each. -/
structure RequestLoop.Ok (loop : RequestLoop) : Prop where
  seen : ∀ key, key ∈ loop.seen ↔ key ∈ loop.requests
  nodup : loop.requests.Nodup

namespace RequestLoop

theorem Ok.add (h : loop.Ok) (request : NamespacedName) : (loop.add request).Ok := by
  unfold RequestLoop.add
  split
  · exact h
  · rename_i hnew
    have hnew' : request ∉ loop.requests :=
      fun hmem => hnew (by simpa using (h.seen request).2 hmem)
    refine ⟨fun key => ?_, ?_⟩
    · simp [h.seen key, or_comm]
    · exact List.nodup_append.2 ⟨h.nodup, List.nodup_singleton _, fun a ha b hb => by
        rw [List.mem_singleton.1 hb]
        exact fun heq => hnew' (heq ▸ ha)⟩

theorem mem_add (h : loop.Ok) (request : NamespacedName) :
    key ∈ (loop.add request).requests ↔ key ∈ loop.requests ∨ key = request := by
  unfold RequestLoop.add
  split
  · rename_i hseen
    refine ⟨.inl, fun hor => hor.elim id fun heq => ?_⟩
    rw [heq, ← h.seen]
    simpa using hseen
  · simp

theorem Ok.foldl_add (h : loop.Ok) (requests : List NamespacedName) :
    (requests.foldl RequestLoop.add loop).Ok ∧
      ∀ key, key ∈ (requests.foldl RequestLoop.add loop).requests ↔ key ∈ loop.requests ∨
      key ∈ requests := by
  induction requests generalizing loop with
  | nil => exact ⟨h, fun key => by simp⟩
  | cons request requests ih =>
    obtain ⟨hok, hmem⟩ := ih (h.add request)
    refine ⟨hok, fun key => ?_⟩
    rw [List.foldl_cons, hmem, mem_add h, List.mem_cons, or_assoc]

theorem Ok.foldl_visit (h : loop.Ok) (matching : Machine → Bool) (machines : List Machine) :
    (machines.foldl (visit matching) loop).Ok ∧
    ∀ key, key ∈ (machines.foldl (visit matching) loop).requests ↔
      key ∈ loop.requests ∨ ∃ m ∈ machines, matching m = true ∧
      key ∈ stackitMachineRequestForMachine (some m) := by
  induction machines generalizing loop with
  | nil => exact ⟨h, fun key => by simp⟩
  | cons m machines ih =>
    have hvisit : (visit matching loop m).Ok ∧ ∀ key, key ∈ (visit matching loop m).requests ↔
        key ∈ loop.requests ∨ matching m = true ∧
        key ∈ stackitMachineRequestForMachine (some m) := by
      unfold visit
      by_cases hm : matching m = true
      · rw [hm, Bool.not_true, if_neg (by simp)]
        obtain ⟨hok, hmem⟩ := h.foldl_add (stackitMachineRequestForMachine (some m))
        exact ⟨hok, fun key => by rw [hmem]; simp⟩
      · rw [if_pos (by simpa using hm)]
        exact ⟨h, fun key => by simp [hm]⟩
    obtain ⟨hok, hmem⟩ := ih hvisit.1
    refine ⟨hok, fun key => ?_⟩
    rw [List.foldl_cons, hmem, hvisit.2]
    simp [or_assoc]

end RequestLoop

theorem stackitMachineRequestsForMachines_spec (machines : List Machine)
    (matching : Machine → Bool) :
    (stackitMachineRequestsForMachines machines matching).Nodup ∧
    ∀ key, key ∈ stackitMachineRequestsForMachines machines matching ↔
      ∃ m ∈ machines, matching m = true ∧ key ∈ stackitMachineRequestForMachine (some m) := by
  have hempty : RequestLoop.Ok {} := ⟨fun _ => Iff.rfl, .nil⟩
  obtain ⟨hok, hmem⟩ := hempty.foldl_visit matching machines
  exact ⟨hok.nodup, fun key => (hmem key).trans (by simp)⟩

theorem stackitMachineRequestForMachine_ref {m : Machine}
    (h : m.infrastructureRef = ⟨infrastructureGroup, "StackitMachine", key.name⟩)
    (hns : m.metadata.namespace' = key.namespace') (hname : key.name ≠ "") :
    stackitMachineRequestForMachine (some m) = [key] := by
  simp only [stackitMachineRequestForMachine, h, hns]
  rw [if_neg (by simp [hname])]

theorem lookupContext_congr {σ : Type} {a a' : Answers σ}
    (hmachine : a'.getOwnerMachine = a.getOwnerMachine)
    (hcluster : ∀ m, a.getOwnerMachine = .ok (some m) →
      a'.getClusterFromMetadata m = a.getClusterFromMetadata m)
    (hsc : ∀ m c, a.getOwnerMachine = .ok (some m) → a.getClusterFromMetadata m = .ok (some c) →
      getStackitCluster a' c = getStackitCluster a c)
    (hpatch : a'.newPatchHelper = a.newPatchHelper) : lookupContext a' = lookupContext a := by
  unfold lookupContext
  rw [hmachine, hpatch]
  cases hm : a.getOwnerMachine with
  | error err => rfl
  | ok machine =>
    cases machine with
    | none => rfl
    | some m =>
      dsimp only
      rw [hcluster m hm]
      cases hc : a.getClusterFromMetadata m with
      | error err => rfl
      | ok cluster =>
        cases cluster with
        | none => rfl
        | some c =>
          dsimp only
          rw [hsc m c hm hc]

end MachineReconciler

theorem fetchBootstrapData_congr {σ : Type} {src src' : ClientSource σ} {m : Machine}
    (h : m.dataSecretName.getD "" ≠ "" →
      src'.getSecret ⟨m.metadata.namespace', m.dataSecretName.getD ""⟩ =
      src.getSecret ⟨m.metadata.namespace', m.dataSecretName.getD ""⟩) :
    MachineReconciler.fetchBootstrapData src' m = MachineReconciler.fetchBootstrapData src m := by
  unfold MachineReconciler.fetchBootstrapData
  by_cases hname : m.dataSecretName.getD "" = ""
  · simp only [hname, if_true]
  · simp only [hname, if_false, h hname]

namespace Objects
variable {α : Type} {objects : Objects α} {k : NamespacedName} {new : Option α}

theorem list_perm : objects.list.Perm ((objects.lookup k).toList ++ (objects.set k none).list) := by
  by_cases hk : k ∈ objects
  · obtain ⟨a, l₁, l₂, hl₁, hentries, herase⟩ := List.exists_of_kerase hk
    have hlookup : objects.lookup k = some a := by
      refine AList.mem_lookup_iff.2 ?_
      rw [hentries]
      exact List.mem_append_right _ List.mem_cons_self
    have hothers : (objects.set k none).list = (l₁ ++ l₂).map Sigma.snd := by
      show (List.kerase k objects.entries).map Sigma.snd = _
      rw [herase]
    rw [hlookup, hothers, list, hentries, List.map_append, List.map_append]
    exact List.perm_middle
  · have hothers : (objects.set k none).list = objects.list := by
      show (List.kerase k objects.entries).map Sigma.snd = _
      rw [List.kerase_of_notMem_keys hk]
      rfl
    rw [hothers, AList.lookup_eq_none.2 hk]
    exact .refl _

theorem list_set_perm :
    (objects.set k new).list.Perm (new.toList ++ (objects.set k none).list) := by
  cases new with
  | none => exact .refl _
  | some a => exact .refl _

theorem eq_of_lookup_singleton {key : NamespacedName} {a b : α}
    (h : (AList.singleton k a : Objects α).lookup key = some b) :
    key = k ∧ b = a := by
  have hmem : (⟨key, b⟩ : (_ : NamespacedName) × α) ∈ (AList.singleton k a : Objects α).entries :=
    AList.mem_lookup_iff.1 h
  rcases List.mem_singleton.1 hmem with ⟨⟩
  exact ⟨rfl, rfl⟩

end Objects

namespace ApiServer
variable {σ : Type} {factory : Option (Credentials → Except GoError (Client σ))} {api : ClusterAPI}
  {s s' : ApiServer}
  {e : ApiEvent} {key k : NamespacedName} {m : Machine} {c : Cluster}

theorem get_ok {α : Type} {objects : Objects α} {a : α} :
    objects.get k = .ok a ↔ objects.lookup k = some a := by
  unfold Objects.get
  cases objects.lookup k <;> simp

theorem mem_versions {α : Type} {old new : Option α} {a : α} :
    a ∈ versions old new ↔ old = some a ∨ new = some a := by
  simp [versions]

/-! ### Machines -/

/-- The Machine that owns the StackitMachine `key`. -/
def OwnedBy (s : ApiServer) (key : NamespacedName) (m : Machine) : Prop :=
  ∃ name, (s.stackitMachines.lookup key).bind (·.owner) = some name ∧
    s.machines.lookup ⟨key.namespace', name⟩ = some m

/-- The Cluster that the label of a Machine names. -/
def InCluster (s : ApiServer) (m : Machine) (c : Cluster) : Prop :=
  m.metadata.labels.lookup labelClusterName = some c.metadata.name ∧ c.metadata.name ≠ "" ∧
    m.metadata.namespace' = c.metadata.namespace' ∧ s.clusters.lookup c.metadata.key = some c

/-- The Machine is for the StackitMachine `key`. -/
def RefersTo (m : Machine) (key : NamespacedName) : Prop :=
  m.infrastructureRef = ⟨infrastructureGroup, "StackitMachine", key.name⟩

/-- What Cluster API sees to around the StackitMachine `key`: it is owned by the Machine that refers
to it, that Machine has the name of its Cluster as a label, and this Cluster owns the StackitCluster
that it refers to. -/
structure MachineLinked (s : ApiServer) (key : NamespacedName) : Prop where
  machineRef : ∀ {m}, s.OwnedBy key m → RefersTo m key
  clusterName : ∀ {m c}, s.OwnedBy key m → s.InCluster m c → m.clusterName = c.metadata.name
  clusterOwner : ∀ {m c sc}, s.OwnedBy key m → s.InCluster m c → c.infrastructureRef.name ≠ "" →
    s.stackitClusters.lookup ⟨c.metadata.namespace', c.infrastructureRef.name⟩ = some sc →
      sc.owner = some c.metadata.name

/-- What a pass over a StackitMachine reads, apart from the credentials: the objects, and the
bootstrap data. -/
def machineView (api : ClusterAPI) (s : ApiServer)
    (factory : Option (Credentials → Except GoError (Client σ))) (key : NamespacedName) :
    Except GoError (Option MachineContext) × Option (Except (String × String) String) :=
  let context := MachineReconciler.lookupContext (machineAnswers api s factory key)
  (context, match context with
    | .ok (some ctx) => some (MachineReconciler.fetchBootstrapData (s.source factory) ctx.machine)
    | _ => none)

theorem inCluster_iff : api.getClusterFromMetadata s.clusters m = .ok c ↔ s.InCluster m c := by
  rw [api.clusterFound, InCluster]
  constructor
  · rintro ⟨name, hname, hlabel, hlookup⟩
    have hkey := s.clusterKey hlookup
    have hcname : c.metadata.name = name := congrArg NamespacedName.name hkey
    have hcns : c.metadata.namespace' = m.metadata.namespace' :=
      congrArg NamespacedName.namespace' hkey
    exact ⟨hcname ▸ hlabel, hcname ▸ hname, hcns.symm, hkey ▸ hlookup⟩
  · rintro ⟨hlabel, hname, hns, hlookup⟩
    exact ⟨c.metadata.name, hname, hlabel, by rw [hns]; exact hlookup⟩

theorem ownedBy_iff : (machineAnswers api s factory key).getOwnerMachine = .ok (some m) ↔
    s.OwnedBy key m :=
  api.ownerMachine.found

theorem inCluster_of_answer
    (h : (machineAnswers api s factory key).getClusterFromMetadata m = .ok (some c)) :
    s.InCluster m c := by
  change (api.getClusterFromMetadata s.clusters m).map some = .ok (some c) at h
  cases hget : api.getClusterFromMetadata s.clusters m with
  | error err =>
    rw [hget] at h
    cases h
  | ok c' =>
    rw [hget] at h
    cases h
    exact inCluster_iff.1 hget

/-- The machine of a context is the owner. -/
theorem ownedBy_of_lookupContext {ctx : MachineContext}
    (h : MachineReconciler.lookupContext (machineAnswers api s factory key) = .ok (some ctx)) :
    s.OwnedBy key ctx.machine := by
  suffices howner : (machineAnswers api s factory key).getOwnerMachine = .ok (some ctx.machine) from
    ownedBy_iff.1 howner
  unfold MachineReconciler.lookupContext at h
  cases hm : (machineAnswers api s factory key).getOwnerMachine with
  | error err =>
    rw [hm] at h
    cases h
  | ok machine =>
    cases machine with
    | none =>
      rw [hm] at h
      cases h
    | some m =>
      rw [hm] at h
      dsimp only at h
      split at h
      · cases h
      · cases h
      · split at h
        · cases h
        · cases h
        · split at h
          · cases h
          · cases h
            rfl

theorem getStackitCluster_congr (h : c.infrastructureRef.name ≠ "" →
    s'.stackitClusters.lookup ⟨c.metadata.namespace', c.infrastructureRef.name⟩ =
      s.stackitClusters.lookup ⟨c.metadata.namespace', c.infrastructureRef.name⟩) :
    MachineReconciler.getStackitCluster (machineAnswers api s' factory key) c =
      MachineReconciler.getStackitCluster (machineAnswers api s factory key) c := by
  unfold MachineReconciler.getStackitCluster
  by_cases href : c.infrastructureRef.name = ""
  · simp only [href, if_true]
  · simp only [href, if_false, machineAnswers, Objects.get, h href]

theorem machineView_congr (hclusters : s'.clusters = s.clusters)
    (hsm : s'.stackitMachines.lookup key = s.stackitMachines.lookup key)
    (hmachine : ∀ name, (s.stackitMachines.lookup key).bind (·.owner) = some name →
      s'.machines.lookup ⟨key.namespace', name⟩ = s.machines.lookup ⟨key.namespace', name⟩)
    (hsc : ∀ m c, s.OwnedBy key m → s.InCluster m c → c.infrastructureRef.name ≠ "" →
      s'.stackitClusters.lookup ⟨c.metadata.namespace', c.infrastructureRef.name⟩ =
        s.stackitClusters.lookup ⟨c.metadata.namespace', c.infrastructureRef.name⟩)
    (hsecret : ∀ m, s.OwnedBy key m → m.dataSecretName.getD "" ≠ "" →
      s'.secrets.lookup ⟨m.metadata.namespace', m.dataSecretName.getD ""⟩ =
        s.secrets.lookup ⟨m.metadata.namespace', m.dataSecretName.getD ""⟩) :
    machineView api s' factory key = machineView api s factory key := by
  have hcontext : MachineReconciler.lookupContext (machineAnswers api s' factory key) =
      MachineReconciler.lookupContext (machineAnswers api s factory key) := by
    refine MachineReconciler.lookupContext_congr ?_ (fun m _ => ?_) (fun m c hm hc => ?_) rfl
    · show api.ownerMachine.get s'.machines _ ((s'.stackitMachines.lookup key).bind _) = _
      rw [hsm]
      exact api.ownerMachine.reads hmachine
    · show (api.getClusterFromMetadata s'.clusters m).map some = _
      rw [hclusters]
      rfl
    · exact getStackitCluster_congr (hsc m c (ownedBy_iff.1 hm) (inCluster_of_answer hc))
  unfold machineView
  rw [hcontext]
  cases h : MachineReconciler.lookupContext (machineAnswers api s factory key) with
  | error err => rfl
  | ok ctx =>
    cases ctx with
    | none => rfl
    | some ctx =>
      have hdata : MachineReconciler.fetchBootstrapData (s'.source factory) ctx.machine =
          MachineReconciler.fetchBootstrapData (s.source factory) ctx.machine := by
        refine fetchBootstrapData_congr fun hne => ?_
        show s'.secrets.get _ = s.secrets.get _
        rw [Objects.get, Objects.get, hsecret ctx.machine (ownedBy_of_lookupContext h) hne]
      dsimp only
      rw [hdata]

/-- A Cluster is not among what changes. -/
def SparesClusters : ApiEvent → Prop
  | .cluster .. => False
  | _ => True

/-- The event changes no Cluster and does not enqueue the StackitMachine. -/
def Quiet (api : ClusterAPI) (key : NamespacedName) (s : ApiServer) (e : ApiEvent) : Prop :=
  SparesClusters e ∧ key ∉ machineRequests api s e

theorem Quiet.clusters (h : Quiet api key s e) : (s.step e).clusters = s.clusters := by
  cases e with
  | cluster k new => exact h.1.elim
  | machine k new => rfl
  | stackitCluster k new => rfl
  | stackitMachine k new => rfl
  | secret k new => rfl
  | configMap k new => rfl

theorem Quiet.stackitMachine (h : Quiet api key s e) :
    (s.step e).stackitMachines.lookup key = s.stackitMachines.lookup key := by
  cases e with
  | stackitMachine k new => exact Objects.lookup_set_ne fun heq => h.2 (List.mem_singleton.2 heq)
  | cluster k new => rfl
  | machine k new => rfl
  | stackitCluster k new => rfl
  | secret k new => rfl
  | configMap k new => rfl

theorem Quiet.machine (h : Quiet api key s e) (hname : key.name ≠ "") (name : String)
    (hchange : (s.step e).machines.lookup ⟨key.namespace', name⟩ ≠ s.machines.lookup
      ⟨key.namespace', name⟩)
    (m : Machine) (hm : s.machines.lookup ⟨key.namespace', name⟩ = some m ∨
      (s.step e).machines.lookup ⟨key.namespace', name⟩ = some m) : ¬ RefersTo m key := by
  intro href
  have hns : m.metadata.namespace' = key.namespace' := by
    rcases hm with hold | hnew
    · exact congrArg NamespacedName.namespace' (s.machineKey hold)
    · exact congrArg NamespacedName.namespace' ((s.step e).machineKey hnew)
  cases e with
  | machine k' new =>
    by_cases hk : (⟨key.namespace', name⟩ : NamespacedName) = k'
    · subst hk
      refine h.2 (List.mem_flatMap.2 ⟨m, mem_versions.2 hm, ?_⟩)
      show key ∈ MachineReconciler.stackitMachineRequestForMachine (some m)
      rw [MachineReconciler.stackitMachineRequestForMachine_ref href hns hname]
      exact List.mem_singleton.2 rfl
    · exact hchange (Objects.lookup_set_ne hk)
  | cluster k' new => exact hchange rfl
  | stackitCluster k' new => exact hchange rfl
  | stackitMachine k' new => exact hchange rfl
  | secret k' new => exact hchange rfl
  | configMap k' new => exact hchange rfl

/-- The Machine that a StackitMachine belongs to is there. -/
structure MachineThere (s : ApiServer) (key : NamespacedName) (name : String) (m : Machine) :
    Prop where
  lookup : s.machines.lookup ⟨key.namespace', name⟩ = some m
  ref : RefersTo m key

theorem MachineThere.request {name : String} (h : MachineThere s key name m)
    (hname : key.name ≠ "") :
    key ∈ MachineReconciler.stackitMachineRequestForMachine (some m) := by
  have hns : m.metadata.namespace' = key.namespace' :=
    congrArg NamespacedName.namespace' (s.machineKey h.lookup)
  rw [MachineReconciler.stackitMachineRequestForMachine_ref h.ref hns hname]
  exact List.mem_singleton.2 rfl

/-- While the Machine is there, neither version of its StackitCluster that changes is owned by its
Cluster. -/
theorem Quiet.stackitCluster {name : String} (h : Quiet api key s e) (hname : key.name ≠ "")
    (hm : MachineThere s key name m)
    (hc : s.InCluster m c) (hcname : m.clusterName = c.metadata.name) {kc : NamespacedName}
    (hns : kc.namespace' = c.metadata.namespace')
    (hchange : (s.step e).stackitClusters.lookup kc ≠ s.stackitClusters.lookup kc)
    (sc : Owned StackitCluster)
    (hsc : s.stackitClusters.lookup kc = some sc ∨ (s.step e).stackitClusters.lookup kc = some sc) :
    sc.owner ≠ some c.metadata.name := by
  intro howner
  cases e with
  | stackitCluster k' new =>
    by_cases hk : kc = k'
    · subst hk
      refine h.2 (List.mem_flatMap.2 ⟨sc, mem_versions.2 hsc, ?_⟩)
      -- its owner is the machine's Cluster, in whose list the machine is
      have hgot : getOwnerCluster api (s.step (.stackitCluster kc new)) kc sc = .ok (some c) := by
        refine api.ownerCluster.found.2 ⟨_, howner, ?_⟩
        rw [hns]
        exact hc.2.2.2
      have hlisted : m ∈ api.getFilteredMachinesForCluster s.machines c :=
        api.machinesFound (Objects.mem_list.2 ⟨_, hm.lookup⟩) hc.2.2.1 hc.1
      simp only [MachineReconciler.stackitMachineRequestsForStackitCluster, hgot]
      exact ((MachineReconciler.stackitMachineRequestsForMachines_spec _ _).2 key).2
        ⟨m, hlisted, by simp [hcname], hm.request hname⟩
    · exact hchange (Objects.lookup_set_ne hk)
  | cluster k' new => exact hchange rfl
  | machine k' new => exact hchange rfl
  | stackitMachine k' new => exact hchange rfl
  | secret k' new => exact hchange rfl
  | configMap k' new => exact hchange rfl

theorem Quiet.secret {name : String} (h : Quiet api key s e) (hname : key.name ≠ "")
    (hm : MachineThere s key name m) (hdata : m.dataSecretName.getD "" ≠ "") :
    (s.step e).secrets.lookup ⟨m.metadata.namespace', m.dataSecretName.getD ""⟩ =
      s.secrets.lookup ⟨m.metadata.namespace', m.dataSecretName.getD ""⟩ := by
  cases e with
  | secret k' new =>
    refine Objects.lookup_set_ne fun hk => h.2 ?_
    -- the machine is listed for its bootstrap Secret
    refine ((MachineReconciler.stackitMachineRequestsForMachines_spec _ _).2 key).2
      ⟨m, ?_, ?_, hm.request hname⟩
    · refine List.mem_filter.2 ⟨Objects.mem_list.2 ⟨_, hm.lookup⟩, ?_⟩
      rw [← hk]
      exact beq_self_eq_true _
    · rw [← hk]
      cases hsecret : m.dataSecretName with
      | none => simp [hsecret] at hdata
      | some d => simp
  | cluster k' new => rfl
  | machine k' new => rfl
  | stackitCluster k' new => rfl
  | stackitMachine k' new => rfl
  | configMap k' new => rfl

/-- **No wake-up of a machine is lost.** Between two states in which the references around a
StackitMachine are in place, over any run of changes to Machines, StackitClusters, StackitMachines,
Secrets and ConfigMaps: if none of them enqueues it, it would read at the end what it read in the
beginning, namely its Machine, Cluster and StackitCluster and the bootstrap data. -/
theorem no_machine_wakeup_lost {es : List ApiEvent} (api : ClusterAPI)
    (factory : Option (Credentials → Except GoError (Client σ))) (hname : key.name ≠ "")
    (hs : s.MachineLinked key) (hend : (Runs.run step s es).MachineLinked key)
    (hes : Runs.Meets step (Quiet api key) s es) :
    machineView api (Runs.run step s es) factory key = machineView api s factory key := by
  set t := Runs.run step s es with ht
  have hclusters : t.clusters = s.clusters :=
    hes.inv (I := fun t => t.clusters = s.clusters) rfl fun _ _ h hquiet => hquiet.clusters.trans h
  have hsm : t.stackitMachines.lookup key = s.stackitMachines.lookup key :=
    hes.inv (I := fun t => t.stackitMachines.lookup key = s.stackitMachines.lookup key) rfl
      fun _ _ h hquiet => hquiet.stackitMachine.trans h
  -- as long as the Machine is there it stays
  have hkept : ∀ m name, (s.stackitMachines.lookup key).bind (·.owner) = some name →
      s.machines.lookup ⟨key.namespace', name⟩ = some m →
      Runs.Meets step (fun t e => Quiet api key t e ∧ t.machines.lookup ⟨key.namespace', name⟩ =
        some m) s es ∧
        t.machines.lookup ⟨key.namespace', name⟩ = some m := fun m name howner hm =>
    hes.kept (fun t => t.machines.lookup ⟨key.namespace', name⟩) (RefersTo · key)
      (fun _ _ hquiet => hquiet.machine hname name) hm (hs.machineRef ⟨name, howner, hm⟩)
  have hthere : ∀ m, s.OwnedBy key m → ∃ name, Runs.Meets step (fun t e => Quiet api key t e ∧
      (MachineThere t key name m ∧ t.clusters = s.clusters)) s es := by
    rintro m ⟨name, howner, hm⟩
    refine ⟨name, (hkept m name howner hm).1.of_inv (I := fun t => t.clusters = s.clusters) rfl ?_⟩
    rintro t e hcs ⟨hquiet, hlookup⟩
    exact ⟨hquiet.clusters.trans hcs, hquiet, ⟨hlookup, hs.machineRef ⟨name, howner, hm⟩⟩, hcs⟩
  refine machineView_congr hclusters hsm (fun name howner => ?_) (fun m c hm hc href => ?_)
    fun m hm hdata => ?_
  · refine hes.unchanged (fun t => t.machines.lookup ⟨key.namespace', name⟩) (RefersTo · key)
      (fun _ _ hquiet => hquiet.machine hname name) (fun m hm => hs.machineRef ⟨name, howner, hm⟩)
      fun m hm => ?_
    exact hend.machineRef ⟨name, hsm ▸ howner, hm⟩
  · obtain ⟨name, hmeets⟩ := hthere m hm
    have hm' : t.OwnedBy key m := by
      obtain ⟨name, howner, hlookup⟩ := hm
      exact ⟨name, hsm ▸ howner, (hkept m name howner hlookup).2⟩
    have hc' : t.InCluster m c := by
      rw [InCluster, hclusters]
      exact hc
    refine hmeets.unchanged
      (fun t => t.stackitClusters.lookup ⟨c.metadata.namespace', c.infrastructureRef.name⟩)
      (fun sc => sc.owner = some c.metadata.name) ?_ (fun sc hsc => hs.clusterOwner hm hc href hsc)
      fun sc hsc => hend.clusterOwner hm' hc' href hsc
    rintro t e ⟨hquiet, hthere, hcs⟩ hne sc hsc
    exact hquiet.stackitCluster hname hthere (by rw [InCluster, hcs]; exact hc)
      (hs.clusterName hm hc) rfl hne sc hsc
  · obtain ⟨name, hmeets⟩ := hthere m hm
    exact hmeets.inv
      (I := fun t => t.secrets.lookup ⟨m.metadata.namespace', m.dataSecretName.getD ""⟩ =
      s.secrets.lookup ⟨m.metadata.namespace', m.dataSecretName.getD ""⟩) rfl
      fun t e h hok => (hok.1.secret hname hok.2.1 hdata).trans h

/-! The Cluster `demo` with a control plane Machine, and the look-ups of Cluster API. -/

def followOwner {α : Type} (objects : Objects α) (ns : String) :
    Option String → Except GoError (Option α)
  | none => .ok none
  | some name => (objects.get ⟨ns, name⟩).map some

def followLabel (clusters : Objects Cluster) (machine : Machine) : Except GoError Cluster :=
  match machine.metadata.labels.lookup labelClusterName with
  | none | some "" => .error ⟨none, "no \"cluster.x-k8s.io/cluster-name\" label present"⟩
  | some name => clusters.get ⟨machine.metadata.namespace', name⟩

def sampleLookup (α : Type) : OwnerLookup α where
  get := followOwner
  found {objects ns owner a} := by
    cases owner with
    | none => simp [followOwner]
    | some name =>
      rw [followOwner]
      cases h : objects.get ⟨ns, name⟩ with
      | error err => simp [Except.map, ← get_ok, h]
      | ok b => simp [Except.map, ← get_ok, h]
  reads {objects objects' ns owner} h := by
    cases owner with
    | none => rfl
    | some name =>
      rw [followOwner, Objects.get, h name rfl]
      rfl

def sampleAPI : ClusterAPI where
  ownerMachine := sampleLookup Machine
  ownerCluster := sampleLookup Cluster
  getClusterFromMetadata := followLabel
  getFilteredMachinesForCluster machines cluster := machines.list.filter fun m =>
    m.metadata.namespace' == cluster.metadata.namespace' &&
      m.metadata.labels.lookup labelClusterName == some cluster.metadata.name
  clusterFound {clusters machine cluster} := by
    rw [followLabel]
    split
    · rename_i hnone
      simp [hnone]
    · rename_i hempty
      simp [hempty]
    · rename_i name hne hlabel
      have hname : name ≠ "" := hne
      simp [hlabel, get_ok, hname]
  machinesFound hm hns hlabel := List.mem_filter.2 ⟨hm, by simp [hns, hlabel]⟩

def sampleMeta : ObjectMeta :=
  { name := "demo-a", namespace' := "default",
    labels := StringMap.ofList [(labelClusterName, "demo"), (labelControlPlane, "")] }

def sampleMachine (secret : String) : Machine where
  metadata := sampleMeta
  clusterName := "demo"
  dataSecretName := some secret
  infrastructureRef := ⟨infrastructureGroup, "StackitMachine", "demo-a"⟩
  addresses := [⟨machineInternalIP, "10.0.0.2"⟩]

def sampleCluster : Cluster where
  metadata := { name := "demo", namespace' := "default" }
  infrastructureRef := ⟨infrastructureGroup, "StackitCluster", "demo"⟩

def sample (secret : String) : ApiServer where
  clusters := AList.singleton ⟨"default", "demo"⟩ sampleCluster
  machines := AList.singleton ⟨"default", "demo-a"⟩ (sampleMachine secret)
  stackitClusters := AList.singleton ⟨"default", "demo"⟩
    { object := { metadata := { name := "demo", namespace' := "default" }, spec := {} },
      owner := some "demo" }
  stackitMachines := AList.singleton ⟨"default", "demo-a"⟩
    { object := { metadata := { name := "demo-a", namespace' := "default" }, spec := {} },
      owner := some "demo-a" }
  secrets := ∅
  configMaps := ∅
  clusterKey h := by
    obtain ⟨rfl, rfl⟩ := Objects.eq_of_lookup_singleton h
    rfl
  machineKey h := by
    obtain ⟨rfl, rfl⟩ := Objects.eq_of_lookup_singleton h
    rfl
  stackitClusterKey h := by
    obtain ⟨rfl, rfl⟩ := Objects.eq_of_lookup_singleton h
    rfl

theorem machineLinked_sample (secret : String) :
    (sample secret).MachineLinked ⟨"default", "demo-a"⟩ where
  machineRef := by
    rintro m ⟨name, -, hm⟩
    obtain ⟨-, rfl⟩ := Objects.eq_of_lookup_singleton hm
    rfl
  clusterName := by
    rintro m c ⟨name, -, hm⟩ hc
    obtain ⟨-, rfl⟩ := Objects.eq_of_lookup_singleton hm
    obtain ⟨-, rfl⟩ := Objects.eq_of_lookup_singleton hc.2.2.2
    rfl
  clusterOwner := by
    rintro m c sc - hc - hsc
    obtain ⟨-, rfl⟩ := Objects.eq_of_lookup_singleton hc.2.2.2
    obtain ⟨-, rfl⟩ := Objects.eq_of_lookup_singleton hsc
    rfl

theorem MachineLinked.secret {new : Option DataObject} (hs : s.MachineLinked key) :
    (s.step (.secret k new)).MachineLinked key := ⟨hs.machineRef, hs.clusterName, hs.clusterOwner⟩

/-- The Secret of another machine is created and deleted: the bootstrap data of this one is still
missing. -/
theorem no_machine_wakeup_lost_otherSecret :
    let es : List ApiEvent :=
      [.secret ⟨"default", "demo-b-data"⟩ (some ⟨∅⟩), .secret ⟨"default", "demo-b-data"⟩ none]
    let factory : Option (Credentials → Except GoError (Client Unit)) := none
    machineView sampleAPI (Runs.run step (sample "demo-a-data") es) factory ⟨"default", "demo-a"⟩ =
      machineView sampleAPI (sample "demo-a-data") factory ⟨"default", "demo-a"⟩ := by
  intro es factory
  refine no_machine_wakeup_lost sampleAPI factory (by decide) (machineLinked_sample _)
    (machineLinked_sample _).secret.secret ⟨⟨trivial, ?_⟩, ⟨trivial, ?_⟩, trivial⟩
  · decide
  · decide

/-! ### Clusters -/

section clusters
variable {selection : MachineSelection} {sha256Hex : String → String} {sc : Owned StackitCluster}
  {name : String}

/-- What Cluster API sees to around the StackitCluster `key`: the Cluster that owns it refers to it
and has a name. -/
def ClusterLinked (s : ApiServer) (key : NamespacedName) : Prop :=
  ∀ sc name c, s.stackitClusters.lookup key = some sc → sc.owner = some name →
    s.clusters.lookup ⟨key.namespace', name⟩ = some c →
      c.infrastructureRef = ⟨infrastructureGroup, "StackitCluster", key.name⟩ ∧ name ≠ ""

/-- What a pass over a StackitCluster reads, apart from the credentials: the object and its Cluster,
the cloud-init of the bastion, and the targets of the load balancer. -/
structure ClusterView where
  object : StackitCluster
  owner : Except GoError (Option Cluster)
  rest : Option (Except GoError String × Except GoError (List LoadBalancerTargetInput))

def clusterView (api : ClusterAPI) (s : ApiServer)
    (factory : Option (Credentials → Except GoError (Client σ))) (selection : MachineSelection)
    (sha256Hex : String → String) (key : NamespacedName) : Option ClusterView :=
  (s.stackitClusters.lookup key).map fun sc =>
    { object := sc.object
      owner := getOwnerCluster api s key sc
      rest := match getOwnerCluster api s key sc with
        | .ok (some cluster) =>
          let env := s.clusterEnv factory selection sha256Hex cluster
          some (resolveBastionCloudInit env sc.object, env.controlPlaneMachines.map
            (apiServerTargets env.sha256Hex))
        | _ => none }

theorem clusterView_congr (hobject : s'.stackitClusters.lookup key = s.stackitClusters.lookup key)
    (howner : ∀ sc, s.stackitClusters.lookup key = some sc →
      getOwnerCluster api s' key sc = getOwnerCluster api s key sc)
    (hcloudInit : ∀ sc cluster, s.stackitClusters.lookup key = some sc →
      getOwnerCluster api s key sc = .ok (some cluster) →
        resolveBastionCloudInit (s'.clusterEnv factory selection sha256Hex cluster) sc.object =
          resolveBastionCloudInit (s.clusterEnv factory selection sha256Hex cluster) sc.object)
    (htargets : ∀ sc cluster, s.stackitClusters.lookup key = some sc →
      getOwnerCluster api s key sc = .ok (some cluster) →
        apiServerTargets sha256Hex (activeControlPlaneMachines selection cluster s'.machines.list) =
          apiServerTargets sha256Hex
          (activeControlPlaneMachines selection cluster s.machines.list)) :
    clusterView api s' factory selection sha256Hex key = clusterView api s factory selection
      sha256Hex key := by
  unfold clusterView
  rw [hobject]
  cases hsc : s.stackitClusters.lookup key with
  | none => rfl
  | some sc =>
    simp only [Option.map_some, howner sc hsc]
    cases hcluster : getOwnerCluster api s key sc with
    | error err => rfl
    | ok cluster =>
      cases cluster with
      | none => rfl
      | some cluster =>
        simp only [hcloudInit sc cluster hsc hcluster]
        simp only [clusterEnv, Except.map, htargets sc cluster hsc hcluster]

theorem filterForStackitClusterResources_ref (hname : key.name ≠ "")
    (href : c.infrastructureRef = ⟨infrastructureGroup, "StackitCluster", key.name⟩)
    (hns : c.metadata.namespace' = key.namespace') :
    filterForStackitClusterResources (.cluster c) = [key] := by
  simp only [filterForStackitClusterResources, href, hns]
  rw [if_neg (by simp [hname])]

/-- The StackitCluster is there, and the Cluster that owns it and refers to it. -/
structure ClusterThere (s : ApiServer) (key : NamespacedName) (sc : Owned StackitCluster)
    (name : String) (c : Cluster) : Prop where
  object : s.stackitClusters.lookup key = some sc
  owner : sc.owner = some name
  lookup : s.clusters.lookup ⟨key.namespace', name⟩ = some c
  ref : c.infrastructureRef = ⟨infrastructureGroup, "StackitCluster", key.name⟩
  named : name ≠ ""

theorem ClusterThere.getOwnerCluster (h : ClusterThere s key sc name c) :
    getOwnerCluster api s key sc = .ok (some c) :=
  api.ownerCluster.found.2 ⟨name, h.owner, h.lookup⟩

theorem resolveBastionCloudInit_congr {env env' : Env σ} {sc : StackitCluster}
    (h : ∀ ref, sc.spec.bastion.cloudInitRef = some ref →
      (ref.kind = "ConfigMap" →
        env'.getConfigMap ⟨sc.metadata.namespace', ref.name⟩ = env.getConfigMap
        ⟨sc.metadata.namespace', ref.name⟩) ∧
      (ref.kind = "Secret" →
        env'.source.getSecret ⟨sc.metadata.namespace', ref.name⟩ = env.source.getSecret
        ⟨sc.metadata.namespace', ref.name⟩)) :
    resolveBastionCloudInit env' sc = resolveBastionCloudInit env sc := by
  unfold resolveBastionCloudInit
  cases href : sc.spec.bastion.cloudInitRef with
  | none => rfl
  | some ref =>
    obtain ⟨hconfigMap, hsecret⟩ := h ref href
    dsimp only
    split
    · rename_i hkind
      rw [cloudInitFrom, cloudInitFrom, hconfigMap hkind]
    · split
      · rename_i hkind
        rw [cloudInitFrom, cloudInitFrom, hsecret hkind]
      · rfl

/-- The StackitCluster whose cloud-init reference names an object is enqueued for it. -/
theorem request_of_cloudInitRef {sc : Owned StackitCluster} {ref : StackitBastionCloudInitRef}
    {kind : String} (obj : CloudInitObject) (hsc : s.stackitClusters.lookup key = some sc)
    (href : sc.object.spec.bastion.cloudInitRef = some ref)
    (hobj : obj.kindAndKey = some (kind, ⟨key.namespace', ref.name⟩)) (hkind : ref.kind = kind) :
    key ∈ stackitClusterRequestsForCloudInitRef
      (fun ns => .ok ((s.stackitClusters.list.map (·.object)).filter (·.metadata.namespace' == ns)))
      obj := by
  have hkey := s.stackitClusterKey hsc
  have hns : sc.object.metadata.namespace' = key.namespace' :=
    congrArg NamespacedName.namespace' hkey
  simp only [stackitClusterRequestsForCloudInitRef, hobj]
  refine List.mem_map.2 ⟨sc.object, List.mem_filter.2 ⟨List.mem_filter.2 ⟨?_, ?_⟩, ?_⟩, hkey⟩
  · exact List.mem_map.2 ⟨sc, Objects.mem_list.2 ⟨key, hsc⟩, rfl⟩
  · simp [hns]
  · simp [refersTo, href, hkind]

theorem clusterView_configMap {new : Option DataObject}
    (h : key ∉ clusterRequests api selection s (.configMap k new)) :
    clusterView api (s.step (.configMap k new)) factory selection sha256Hex key =
      clusterView api s factory selection sha256Hex key := by
  refine clusterView_congr rfl (fun _ _ => rfl) (fun sc cluster hsc _ => ?_) fun _ _ _ _ => rfl
  refine resolveBastionCloudInit_congr fun ref href => ⟨fun hkind => ?_, fun _ => rfl⟩
  have hns : sc.object.metadata.namespace' = key.namespace' :=
    congrArg NamespacedName.namespace' (s.stackitClusterKey hsc)
  rw [hns]
  have hk : (⟨key.namespace', ref.name⟩ : NamespacedName) ≠ k := fun hk =>
    h (request_of_cloudInitRef (s := s) (.configMap k) hsc href (by rw [hk]; rfl) hkind)
  show (s.configMaps.set k new).get _ = s.configMaps.get _
  rw [Objects.get, Objects.get, Objects.lookup_set_ne hk]

theorem clusterView_secret {new : Option DataObject}
    (h : key ∉ clusterRequests api selection s (.secret k new)) :
    clusterView api (s.step (.secret k new)) factory selection sha256Hex key =
      clusterView api s factory selection sha256Hex key := by
  refine clusterView_congr rfl (fun _ _ => rfl) (fun sc cluster hsc _ => ?_) fun _ _ _ _ => rfl
  refine resolveBastionCloudInit_congr fun ref href => ⟨fun _ => rfl, fun hkind => ?_⟩
  have hns : sc.object.metadata.namespace' = key.namespace' :=
    congrArg NamespacedName.namespace' (s.stackitClusterKey hsc)
  rw [hns]
  have hk : (⟨key.namespace', ref.name⟩ : NamespacedName) ≠ k := fun hk =>
    h (request_of_cloudInitRef (s := s) (.secret k) hsc href (by rw [hk]; rfl) hkind)
  show (s.secrets.set k new).get _ = s.secrets.get _
  rw [Objects.get, Objects.get, Objects.lookup_set_ne hk]

theorem machines_keys_nodup (s : ApiServer) :
    (s.machines.list.map fun m => (m.metadata.namespace', m.metadata.name)).Nodup := by
  rw [Objects.list, List.map_map]
  have hkeys : (s.machines.entries.map Sigma.fst).Nodup := s.machines.nodupKeys
  refine List.Nodup.map_on ?_ (List.Nodup.of_map _ hkeys)
  intro a ha b hb hab
  have hkey : ∀ c ∈ s.machines.entries, c.2.metadata.key = c.1 := fun c hc =>
    s.machineKey (AList.mem_lookup_iff.2 hc)
  have hfst : a.1 = b.1 := by
    rw [← hkey a ha, ← hkey b hb]
    exact congrArg (fun p : String × String => (⟨p.1, p.2⟩ : NamespacedName)) hab
  exact List.inj_on_of_nodup_map hkeys ha hb hfst

theorem activeControlPlaneMachines_others {cluster : Cluster} {v : Option Machine}
    {others : List Machine}
    (h : ∀ m, v = some m → ClusterReconciler.selects selection cluster m = false) :
    activeControlPlaneMachines selection cluster (v.toList ++ others) = activeControlPlaneMachines
      selection cluster others := by
  cases v with
  | none => rfl
  | some m =>
    show activeControlPlaneMachines selection cluster (m :: others) = _
    rw [activeControlPlaneMachines_cons, h m rfl, if_neg (by simp)]

/-- An active control plane Machine of the Cluster enqueues its StackitCluster. -/
theorem ClusterThere.request (hc : ClusterThere s key sc name c) (hname : key.name ≠ "")
    (h : ClusterReconciler.selects selection c m = true) :
    key ∈ loadBalancerTargetsForControlPlanes selection (api.getClusterFromMetadata s.clusters)
      (.machine m) := by
  obtain ⟨hns, hlabel⟩ := listed_of_selects h
  have hkey := s.clusterKey hc.lookup
  have hcname : c.metadata.name = name := congrArg NamespacedName.name hkey
  have hcns : c.metadata.namespace' = key.namespace' := congrArg NamespacedName.namespace' hkey
  have hget : api.getClusterFromMetadata s.clusters m = .ok c :=
    api.clusterFound.2 ⟨name, hc.named, hcname ▸ hlabel, by rw [hns, hcns]; exact hc.lookup⟩
  have href : c.infrastructureRef.name = key.name := by rw [hc.ref]
  have hmapped := mapped_of_selects h hget (by
    rw [filterForStackitClusterResources_ref hname hc.ref hcns, hcns, href])
  rwa [hcns, href] at hmapped

theorem clusterView_machine {new : Option { m : Machine // m.metadata.key = k }}
    (hc : ClusterThere s key sc name c) (hname : key.name ≠ "")
    (h : key ∉ clusterRequests api selection s (.machine k new)) :
    clusterView api (s.step (.machine k new)) factory selection sha256Hex key =
      clusterView api s factory selection sha256Hex key := by
  refine clusterView_congr rfl (fun _ _ => rfl) (fun _ _ _ _ => rfl) fun sc' cluster hsc howner =>
    ?_
  obtain rfl : sc = sc' := Option.some.inj (hc.object.symm.trans hsc)
  obtain rfl : c = cluster := by
    have heq := hc.getOwnerCluster.symm.trans howner
    exact Option.some.inj (Except.ok.inj heq)
  have hselects : ∀ m, key ∉ loadBalancerTargetsForControlPlanes selection
      (api.getClusterFromMetadata s.clusters)
        (.machine m) → ClusterReconciler.selects selection c m = false := fun m hm => by
    by_contra hselected
    exact hm (hc.request hname (by simpa using hselected))
  have hsame :
      (activeControlPlaneMachines selection c
      ((new.map (·.1)).toList ++ (s.machines.set k none).list)).map targetKey =
        (activeControlPlaneMachines selection c
          ((s.machines.lookup k).toList ++ (s.machines.set k none).list)).map targetKey := by
    have hnew : (s.step (.machine k new)).machines.lookup k = new.map (·.1) := Objects.lookup_set
    unfold clusterRequests at h
    dsimp only at h
    rw [hnew] at h
    split at h
    · rename_i old new' hold hnew'
      rw [hold, hnew']
      obtain ⟨m, -, hm⟩ := Option.map_eq_some_iff.1 hnew'
      have hkeys : old.metadata.key = new'.metadata.key := (s.machineKey hold).trans (hm ▸ m.2.symm)
      split at h
      · simp only [List.mem_flatMap, not_exists, not_and] at h
        rw [activeControlPlaneMachines_others fun v hv =>
          hselects v (h v (by simp [Option.some.inj hv])),
          activeControlPlaneMachines_others fun v hv =>
          hselects v (h v (by simp [Option.some.inj hv]))]
      · rename_i hfiltered
        exact (map_targetKey_of_filtered (congrArg NamespacedName.namespace' hkeys)
          (congrArg NamespacedName.name hkeys)
          (by simpa using hfiltered)).symm
    · simp only [List.mem_flatMap, not_exists, not_and] at h
      rw [activeControlPlaneMachines_others fun v hv => hselects v (h v (mem_versions.2 (.inr hv))),
        activeControlPlaneMachines_others fun v hv => hselects v (h v (mem_versions.2 (.inl hv)))]
  refine apiServerTargets_congr ?_ (names_nodup (machines_keys_nodup _))
  refine ((Objects.list_set_perm.filter _).map targetKey).trans ?_
  refine (List.Perm.of_eq hsame).trans ((Objects.list_perm.filter _).map targetKey).symm

theorem clusterView_step (hc : ClusterThere s key sc name c)
    (hc' : ClusterThere (s.step e) key sc name c) (hname : key.name ≠ "")
    (h : key ∉ clusterRequests api selection s e) :
    clusterView api (s.step e) factory selection sha256Hex key = clusterView api s factory selection
      sha256Hex key := by
  cases e with
  | cluster k new =>
    refine clusterView_congr rfl (fun sc' hsc => ?_) (fun _ _ _ _ => rfl) fun _ _ _ _ => rfl
    obtain rfl : sc = sc' := Option.some.inj (hc.object.symm.trans hsc)
    rw [hc.getOwnerCluster, hc'.getOwnerCluster]
  | machine k new => exact clusterView_machine hc hname h
  | stackitCluster k new =>
    have hk : key ≠ k := fun heq => h (List.mem_singleton.2 heq)
    exact clusterView_congr (Objects.lookup_set_ne hk) (fun _ _ => rfl) (fun _ _ _ _ => rfl)
      fun _ _ _ _ => rfl
  | stackitMachine k new => rfl
  | secret k new => exact clusterView_secret h
  | configMap k new => exact clusterView_configMap h

theorem stackitCluster_kept (h : key ∉ clusterRequests api selection s e) :
    (s.step e).stackitClusters.lookup key = s.stackitClusters.lookup key := by
  cases e with
  | stackitCluster k new => exact Objects.lookup_set_ne fun heq => h (List.mem_singleton.2 heq)
  | cluster k new => rfl
  | machine k new => rfl
  | stackitMachine k new => rfl
  | secret k new => rfl
  | configMap k new => rfl

/-- Neither version of a Cluster that changes refers to the StackitCluster. -/
theorem not_ref_of_change (h : key ∉ clusterRequests api selection s e) (hname : key.name ≠ "")
    (name : String)
    (hchange : (s.step e).clusters.lookup ⟨key.namespace', name⟩ ≠ s.clusters.lookup
      ⟨key.namespace', name⟩)
    (c : Cluster) (hc : s.clusters.lookup ⟨key.namespace', name⟩ = some c ∨
      (s.step e).clusters.lookup ⟨key.namespace', name⟩ = some c) :
    c.infrastructureRef ≠ ⟨infrastructureGroup, "StackitCluster", key.name⟩ := by
  intro href
  have hns : c.metadata.namespace' = key.namespace' := by
    rcases hc with hold | hnew
    · exact congrArg NamespacedName.namespace' (s.clusterKey hold)
    · exact congrArg NamespacedName.namespace' ((s.step e).clusterKey hnew)
  cases e with
  | cluster k' new =>
    by_cases hk : (⟨key.namespace', name⟩ : NamespacedName) = k'
    · subst hk
      refine h (List.mem_flatMap.2 ⟨c, mem_versions.2 hc, ?_⟩)
      rw [filterForStackitClusterResources_ref hname href hns]
      exact List.mem_singleton.2 rfl
    · exact hchange (Objects.lookup_set_ne hk)
  | machine k' new => exact hchange rfl
  | stackitCluster k' new => exact hchange rfl
  | stackitMachine k' new => exact hchange rfl
  | secret k' new => exact hchange rfl
  | configMap k' new => exact hchange rfl

theorem clusterLinked_sample (secret : String) :
    (sample secret).ClusterLinked ⟨"default", "demo"⟩ := by
  intro sc name c _ _ hc
  obtain ⟨hkey, rfl⟩ := Objects.eq_of_lookup_singleton hc
  cases hkey
  exact ⟨rfl, by decide⟩

end clusters

end ApiServer

end Capstk
