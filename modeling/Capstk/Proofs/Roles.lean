import Capstk.Services
import Capstk.Webhook
import Capstk.Proofs.Freshness

/-!
# Bastion or node

The bastion is found by the cluster's tags and the role `bastion`, a node by its machine's tags.
Neither selector is protected against the labels of the other object: `MachineTags` lets a machine
label set the role, `ClusterTags` lets a cluster label set the machine's name and UID. The selectors
cross exactly if all that the one asks for is set on the other side.
-/

namespace Capstk

open Prog SDKClient

/-- The keys that `ClusterTags` does not take from the user. -/
def clusterReservedKeys : List String := [labelClusterName, labelClusterNamespace, labelManagedBy]

/-- The keys that `MachineTags` does not take from the user. -/
def machineReservedKeys : List String :=
  [labelClusterName, labelClusterNamespace, labelMachineName, labelMachineUID, labelManagedBy]

section tags
variable {name namespace' machine uid : String} {extra m : StringMap}

theorem clusterTags_sub_iff : (clusterTags name namespace' extra).Sub m ↔
    (m.lookup labelClusterName = some name ∧ m.lookup labelClusterNamespace = some namespace' ∧
      m.lookup labelManagedBy = some managedByValue) ∧
    ∀ k v, k ∉ clusterReservedKeys → extra.lookup k = some v → m.lookup k = some v := by
  have hentries : (StringMap.ofList [(labelClusterName, name), (labelClusterNamespace, namespace'),
      (labelManagedBy, managedByValue)]).entries =
        [⟨labelClusterName, name⟩, ⟨labelClusterNamespace, namespace'⟩,
          ⟨labelManagedBy, managedByValue⟩] := rfl
  rw [clusterTags, StringMap.addMissing_sub_iff]
  refine and_congr ?_ (forall₂_congr fun k v => ?_)
  · rw [← StringMap.subB_iff]
    simp [StringMap.subB, hentries]
  · rw [AList.lookup_eq_none]
    exact Iff.rfl

theorem machineTags_sub_iff : (machineTags name namespace' machine uid extra).Sub m ↔
    (m.lookup labelClusterName = some name ∧ m.lookup labelClusterNamespace = some namespace' ∧
      m.lookup labelMachineName = some machine ∧ m.lookup labelMachineUID = some uid ∧
      m.lookup labelManagedBy = some managedByValue) ∧
    ∀ k v, k ∉ machineReservedKeys → extra.lookup k = some v → m.lookup k = some v := by
  have hentries : (StringMap.ofList [(labelClusterName, name), (labelClusterNamespace, namespace'),
      (labelMachineName, machine), (labelMachineUID, uid),
      (labelManagedBy, managedByValue)]).entries =
        [⟨labelClusterName, name⟩, ⟨labelClusterNamespace, namespace'⟩, ⟨labelMachineName, machine⟩,
          ⟨labelMachineUID, uid⟩, ⟨labelManagedBy, managedByValue⟩] := rfl
  rw [machineTags, StringMap.addMissing_sub_iff]
  refine and_congr ?_ (forall₂_congr fun k v => ?_)
  · rw [← StringMap.subB_iff]
    simp [StringMap.subB, hentries]
  · rw [AList.lookup_eq_none]
    exact Iff.rfl

end tags

variable {sc : StackitCluster} {ctx ctx' : MachineContext} {sm sm' : StackitMachine}

/-! ### When selectors cross -/

/-- The machine's labels ask for the bastion's role, and its server carries all else that the
selector of the bastion asks for. -/
structure NodeLooksLikeBastion (sc : StackitCluster) (ctx : MachineContext) (sm : StackitMachine) :
    Prop where
  clusterName : ctx.cluster.metadata.name = sc.metadata.name
  clusterNamespace : ctx.cluster.metadata.namespace' = sc.metadata.namespace'
  role : sm.spec.additionalLabels.lookup labelResourceRole = some resourceRoleBastion
  labels : ∀ k v, k ∉ labelResourceRole :: clusterReservedKeys →
    sc.spec.additionalLabels.lookup k = some v →
    (ctx.tags sm).lookup k = some v

/-- The cluster's labels give the name and the UID of the machine, and the bastion carries all else
that the selector of the machine asks for. -/
structure BastionLooksLikeNode (sc : StackitCluster) (ctx : MachineContext) (sm : StackitMachine) :
    Prop where
  clusterName : sc.metadata.name = ctx.cluster.metadata.name
  clusterNamespace : sc.metadata.namespace' = ctx.cluster.metadata.namespace'
  machineName : sc.spec.additionalLabels.lookup labelMachineName = some ctx.machine.metadata.name
  machineUID : sc.spec.additionalLabels.lookup labelMachineUID = some ctx.machine.metadata.uid
  labels : ∀ k v, k ∉ machineReservedKeys → sm.spec.additionalLabels.lookup k = some v →
    (bastionTags sc).lookup k = some v

/-- The role is no tag of a machine unless its labels say so. -/
theorem lookup_role_machine :
    (ctx.tags sm).lookup labelResourceRole = sm.spec.additionalLabels.lookup labelResourceRole := by
  rw [MachineContext.tags, machineTags, StringMap.lookup_addMissing]
  exact Option.none_or

/-- The role is not reserved by `ClusterTags`, so the bastion's tags are cluster tags with one more
label. -/
theorem lookup_bastionTags (sc : StackitCluster) (k : String) :
    (bastionTags sc).lookup k = (clusterTags sc.metadata.name sc.metadata.namespace'
      (sc.spec.additionalLabels.insert labelResourceRole resourceRoleBastion)).lookup k := by
  rw [bastionTags, StackitCluster.tags, clusterTags, clusterTags, StringMap.lookup_addMissing]
  by_cases hk : k = labelResourceRole
  · subst hk
    rw [AList.lookup_insert, AList.lookup_insert]
    rfl
  · rw [AList.lookup_insert_ne hk, AList.lookup_insert_ne hk, StringMap.lookup_addMissing]

theorem node_matched_iff : labelsContainTags (ctx.tags sm) (bastionTags sc) = true ↔
    NodeLooksLikeBastion sc ctx sm := by
  rw [labelsContainTags_iff, StringMap.Sub.congr_left (lookup_bastionTags sc), clusterTags_sub_iff]
  simp only [MachineContext.tags, machineTags_clusterName, machineTags_clusterNamespace,
    machineTags_managedBy, Option.some.injEq, and_true]
  constructor
  · rintro ⟨⟨hname, hns⟩, hlabels⟩
    refine ⟨hname, hns, ?_, fun k v hk hv => ?_⟩
    · have hrole : (ctx.tags sm).lookup labelResourceRole = _ := lookup_role_machine
      rw [← hrole]
      exact hlabels labelResourceRole _ (by decide) (AList.lookup_insert _)
    · obtain ⟨hne, hreserved⟩ := not_or.1 fun h => hk (List.mem_cons.2 h)
      exact hlabels k v hreserved (by rw [AList.lookup_insert_ne hne, hv])
  · intro h
    refine ⟨⟨h.clusterName, h.clusterNamespace⟩, fun k v hk hv => ?_⟩
    by_cases hrole : k = labelResourceRole
    · subst hrole
      rw [AList.lookup_insert] at hv
      rw [← hv, ← h.role]
      exact lookup_role_machine
    · rw [AList.lookup_insert_ne hrole] at hv
      exact h.labels k v (fun hmem => (List.mem_cons.1 hmem).elim hrole hk) hv

theorem bastion_matched_iff :
    labelsContainTags (bastionTags sc) (ctx.tags sm) = true ↔ BastionLooksLikeNode sc ctx sm := by
  have hname : (bastionTags sc).lookup labelClusterName = some sc.metadata.name := by
    simp [lookup_bastionTags]
  have hns : (bastionTags sc).lookup labelClusterNamespace = some sc.metadata.namespace' := by
    simp [lookup_bastionTags]
  have hmanaged : (bastionTags sc).lookup labelManagedBy = some managedByValue := by
    simp [lookup_bastionTags]
  -- a key that is neither reserved nor the role comes from the cluster's labels
  have hlabel : ∀ {k}, k ∉ labelResourceRole :: clusterReservedKeys →
      (bastionTags sc).lookup k = sc.spec.additionalLabels.lookup k := by
    intro k hk
    obtain ⟨hrole, hreserved⟩ := not_or.1 fun h => hk (List.mem_cons.2 h)
    have hbase :
        (StringMap.ofList [(labelClusterName, sc.metadata.name),
        (labelClusterNamespace, sc.metadata.namespace'),
          (labelManagedBy, managedByValue)]).lookup k = none := AList.lookup_eq_none.2 hreserved
    rw [lookup_bastionTags, clusterTags, StringMap.lookup_addMissing, hbase, Option.none_or,
      AList.lookup_insert_ne hrole]
  rw [labelsContainTags_iff, MachineContext.tags, machineTags_sub_iff, hname, hns, hmanaged,
    hlabel (k := labelMachineName) (by decide), hlabel (k := labelMachineUID) (by decide)]
  simp only [Option.some.injEq, and_true]
  constructor
  · rintro ⟨⟨h₁, h₂, h₃, h₄⟩, hlabels⟩
    exact ⟨h₁, h₂, h₃, h₄, hlabels⟩
  · intro h
    exact ⟨⟨h.clusterName, h.clusterNamespace, h.machineName, h.machineUID⟩, h.labels⟩

/-- The UID is reserved on both sides: selectors of different machines never cross. -/
theorem machines_unmatched (huid : ctx.machine.metadata.uid ≠ ctx'.machine.metadata.uid) :
    labelsContainTags (ctx.tags sm) (ctx'.tags sm') = false := by
  rw [Bool.eq_false_iff]
  intro hmatch
  have h := labelsContainTags_iff.1 hmatch labelMachineUID _ (machineTags_machineUID ..)
  rw [MachineContext.tags, machineTags_machineUID, Option.some.injEq] at h
  exact huid h

/-! ### What follows for the bastion calls -/

section calls
variable {input : BastionInput} {status : Bastion} {node : String × StringMap} {s : Session}

theorem wp_ensureBastion_ne (hunique : UniqueIDs .server s.cloud)
    (hnode : node ∈ labelled .server s.cloud) (hno : labelsContainTags node.2 input.tags = false) :
    wp (ensureBastion input) (fun r _ => ∀ b, r = .ok b → b.serverID ≠ node.1) s := by
  refine ((wp_ensureBastion input s).and
    (((bastionClosed_keepsUnique .server).keeps_ensureBastion input).wp s)).imp ?_
  rintro r t ⟨⟨hadds, hr⟩, hkeeps⟩ b hb heq
  have hstill : node ∈ labelled .server t.cloud := by
    rcases hadds .server with hsame | ⟨-, -, id, -, hnew⟩
    · rw [hsame]; exact hnode
    · rw [hnew]; exact List.mem_append_left _ hnode
  have hmem : node.1 ∈ tagged .server input.tags t.cloud := by
    rw [(hr b hb).server, heq]
    exact List.mem_singleton.2 rfl
  exact (hkeeps.unique hunique).not_mem_tagged hstill hno hmem

/-- The server is still there. -/
def KeepsServer (node : String × StringMap) (s t : Session) : Prop :=
  node ∈ labelled .server s.cloud → node ∈ labelled .server t.cloud

theorem keepsServer_closed (node : String × StringMap) : Closed (KeepsServer node) :=
  ⟨fun _ h => h, fun h h' hs => h' (h hs)⟩

theorem keepsServer_remove {k : Kind} {id op : String} {req : Request} {effect : Cloud.Effect Unit}
    (h : Removes k id effect) (hne : k = .server → id ≠ node.1) :
    Keeps (KeepsServer node) (tolerate isNotFound (request op req effect)) := by
  refine keeps_tolerate (keepsServer_closed node) ?_
  refine keeps_request (R := fun c c' => node ∈ labelled .server c → node ∈ labelled .server c')
    (fun _ h => h) fun c hc => ?_
  by_cases hk : k = .server
  · subst hk
    rw [h.this, List.mem_filter]
    exact ⟨hc, by simpa using (hne rfl).symm⟩
  · rw [h.others c .server (Ne.symm hk)]
    exact hc

/-- `DeleteBastion` deletes the recorded server or the one that its selector matches, and no
other. -/
theorem keepsServer_deleteBastion (hunique : UniqueIDs .server s.cloud)
    (hnode : node ∈ labelled .server s.cloud) (hno : labelsContainTags node.2 input.tags = false)
    (hstatus : status.serverID ≠ node.1) :
    wp (deleteBastion input status) (fun _ t => node ∈ labelled .server t.cloud) s := by
  have hR := keepsServer_closed node
  have hread : ∀ {α : Type} {x : Call Session α}, Keeps (fun s t : Session => t.cloud = s.cloud) x →
      Keeps (KeepsServer node) x :=
    fun h => h.imp fun s t hst hs => hst ▸ hs
  have hsame : ∀ {α : Type} {x : Call Session α},
      Keeps (fun s t : Session => SameResources s.cloud t.cloud) x →
        Keeps (KeepsServer node) x := fun h => h.imp fun s t hst hs => by rw [hst .server]; exact hs
  have hwhen : ∀ {x : Call Session Unit} (b : Bool), Keeps (KeepsServer node) x →
      Keeps (KeepsServer node) (when' b x) :=
    fun b hx => .ite hx (.pure hR ())
  have hfind : ∀ {β : Type} {ident : β → String} {find : Call Session β} (recorded : String),
      Keeps (fun s t : Session => t.cloud = s.cloud) find →
      Keeps (KeepsServer node) (idOrFind recorded (do pure (ident (← find)))) := fun recorded h =>
    .ite (keeps_existingOr hR (.bind hR (hread h) fun _ => .pure hR _) (.pure hR ""))
      (.pure hR recorded)
  -- the server to delete is recorded or found
  have hserver : wp (idOrFind status.serverID (do pure (← findServerByTags input.tags).id))
      (Via (KeepsServer node) s fun id _ => id ≠ "" → id ≠ node.1) s := by
    unfold idOrFind
    refine wp_ite (fun _ => ?_) fun _ => wp_via_pure hR fun _ => hstatus
    refine (wp_foundID (wp_findServerByTags input.tags s)).imp fun r t ⟨hc, hr⟩ =>
      ⟨fun h => hc ▸ h, fun id hid hne heq => ?_⟩
    rcases hr id hid with hone | ⟨h0, _⟩
    · have hmem : node.1 ∈ tagged .server input.tags s.cloud := by
        rw [hone, heq]
        exact List.mem_singleton.2 rfl
      exact hunique.not_mem_tagged hnode hno hmem
    · exact hne h0
  unfold deleteBastion
  refine (wp_via_bind hR (Q := fun _ _ => True) hserver fun serverID t _ hne => Keeps.via ?_).imp
    fun r t h => h.1 hnode
  refine .bind hR (hfind _ fun s => (wp_findPublicIPByTags _ s).1) fun publicIPID => .bind hR
    (hfind _ fun s => (wp_findSecurityGroupByTags _ s).1) fun groupID => ?_
  refine .bind hR (hwhen _ (hsame (sameResources_removePublicIpFromServer _ _))) fun _ =>
    .bind hR (hwhen _ (hsame (sameResources_removeSecurityGroupFromServer _ _))) fun _ => ?_
  refine .bind hR ?_ fun _ =>
    .bind hR (hwhen _ (keepsServer_remove (removes_deletePublicIP _) (by simp))) fun _ =>
    hwhen _ (.bind hR (hsame (sameResources_deleteSecurityGroupRules _)) fun _ =>
      keepsServer_remove (removes_deleteSecurityGroup _) (by simp))
  by_cases h0 : serverID = ""
  · rw [h0]
    exact .pure hR ()
  · exact hwhen _ (keepsServer_remove (removes_deleteServer serverID) fun _ => hne h0)

end calls

/-- The bastion of the cluster and the server of the machine are kept apart: no selector matches the
other's tags, `EnsureBastion` does not answer with the node, and `DeleteBastion` does not delete it
unless it is recorded as the bastion's server. -/
structure RolesKept (sc : StackitCluster) (ctx : MachineContext) (sm : StackitMachine) : Prop where
  nodeUnmatched : labelsContainTags (ctx.tags sm) (bastionTags sc) = false
  bastionUnmatched : labelsContainTags (bastionTags sc) (ctx.tags sm) = false
  notAdopted : ∀ (s : Session) (id : String) (input : BastionInput), UniqueIDs .server s.cloud →
    (id, ctx.tags sm) ∈ labelled .server s.cloud → input.tags = bastionTags sc →
    wp (ensureBastion input) (fun r _ => ∀ b, r = .ok b → b.serverID ≠ id) s
  notDeleted : ∀ (s : Session) (id : String) (input : BastionInput) (status : Bastion),
    UniqueIDs .server s.cloud →
    (id, ctx.tags sm) ∈ labelled .server s.cloud → input.tags = bastionTags sc →
    status.serverID ≠ id →
    wp (deleteBastion input status) (fun _ t => (id, ctx.tags sm) ∈ labelled .server t.cloud) s

/-- **Selectors cross roles** exactly if the labels of one object ask for it; those of two machines
never cross. -/
theorem roles_kept_iff (sc : StackitCluster) (ctx : MachineContext) (sm : StackitMachine) :
    (RolesKept sc ctx sm ∧ ∀ (ctx' : MachineContext) (sm' : StackitMachine),
      ctx'.machine.metadata.uid ≠ ctx.machine.metadata.uid →
      labelsContainTags (ctx.tags sm) (ctx'.tags sm') = false ∧ labelsContainTags (ctx'.tags sm')
      (ctx.tags sm) = false) ↔
    ¬ NodeLooksLikeBastion sc ctx sm ∧ ¬ BastionLooksLikeNode sc ctx sm := by
  rw [← node_matched_iff, ← bastion_matched_iff, Bool.not_eq_true, Bool.not_eq_true]
  constructor
  · rintro ⟨h, -⟩
    exact ⟨h.nodeUnmatched, h.bastionUnmatched⟩
  · rintro ⟨hnode, hbastion⟩
    refine ⟨⟨hnode, hbastion, ?_, ?_⟩, fun ctx' sm' huid =>
      ⟨machines_unmatched huid.symm, machines_unmatched huid⟩⟩
    · intro s id input hunique hmem htags
      exact wp_ensureBastion_ne hunique hmem (htags ▸ hnode)
    · intro s id input status hunique hmem htags hstatus
      exact keepsServer_deleteBastion hunique hmem (htags ▸ hnode) hstatus

/-- A machine whose admitted labels give it the role `bastion`: `EnsureBastion` takes its server for
the bastion, and `DeleteBastion` deletes it, with nothing recorded in the status. -/
theorem node_taken_for_bastion :
    let labels := StringMap.ofList [(labelResourceRole, resourceRoleBastion)]
    let sc : StackitCluster :=
      { metadata := { name := "c", namespace' := "ns" },
        spec := { bastion := { enabled := true } } }
    let ctx : MachineContext :=
      { cluster := { metadata := { name := "c", namespace' := "ns" },
                     infrastructureRef := { name := "c" } }
        machine := { metadata := { name := "m", namespace' := "ns", uid := "u" } }
        stackitCluster := sc }
    let sm : StackitMachine :=
      { metadata := { name := "m", namespace' := "ns" }, spec := { additionalLabels := labels } }
    let input : BastionInput :=
      { name := "b", networkID := "n", imageID := "i", machineType := "t", sshKeyName := "k",
        allowedCIDRs := ["10.0.0.0/8"]
        tags := bastionTags sc }
    let s : Session :=
      { cloud := { ids := .unary,
                   servers := [{ id := "node", name := "m", labels := ctx.tags sm }] } }
    Webhook.validateAdditionalLabels .kubernetes labels "spec.additionalLabels" = [] ∧
      ((ensureBastion input).outcome s).toOption.map (·.serverID) = some "node" ∧
      ((deleteBastion input {}).after s).cloud.servers.map (·.id) = [] := by
  intro labels sc ctx sm input s
  refine ⟨by decide +kernel, by decide +kernel, by decide +kernel⟩

end Capstk
