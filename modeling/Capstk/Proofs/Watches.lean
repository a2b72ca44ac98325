import Capstk.Lib.Sha256
import Capstk.Watches

/-!
# The filter for Machine events

What the target pool is computed from: of every machine its name and addresses, and what selects it.
The filter compares just these, the name apart, which an update cannot change. The names of a
cluster's machines are distinct, so the order in which Cluster API hands them over does not matter.
-/

namespace Capstk

open ClusterReconciler

variable {sha256Hex : String → String} {l l' : List Machine}

/-- What `APIServerTargets` reads of a machine. -/
def targetKey (m : Machine) : String × List MachineAddress := (m.metadata.name, m.addresses)

theorem collectTargets_congr (seen : List String) (h : l.map targetKey = l'.map targetKey) :
    collectTargets sha256Hex seen l = collectTargets sha256Hex seen l' := by
  induction l generalizing l' seen with
  | nil =>
    rw [List.map_eq_nil_iff.1 h.symm]
  | cons m l ih =>
    cases l' with
    | nil => cases h
    | cons m' l' =>
      obtain ⟨hkey, hrest⟩ := List.cons.inj h
      have hname : m.metadata.name = m'.metadata.name := congrArg Prod.fst hkey
      have haddresses : m.addresses = m'.addresses := congrArg Prod.snd hkey
      simp only [collectTargets, hname, haddresses, ih _ hrest]

/-- The targets of machines with distinct names do not depend on their order. -/
theorem apiServerTargets_congr (h : (l.map targetKey).Perm (l'.map targetKey))
    (hnames : (l.map (·.metadata.name)).Nodup) :
    apiServerTargets sha256Hex l = apiServerTargets sha256Hex l' := by
  refine collectTargets_congr [] ?_
  set le : Machine → Machine → Prop := fun a b => a.metadata.name ≤ b.metadata.name with hle
  have hsorted : ∀ l : List Machine, ((l.insertionSort le).map targetKey).Pairwise fun a b =>
      a.1 ≤ b.1 := fun l => by
    rw [List.pairwise_map]
    exact List.pairwise_insertionSort le l
  have hperm : ((l.insertionSort le).map targetKey).Perm ((l'.insertionSort le).map targetKey) :=
    (((List.perm_insertionSort le l).map _).trans h).trans
      ((List.perm_insertionSort le l').map _).symm
  refine List.Perm.eq_of_pairwise (fun a b ha hb hab hba => ?_) (hsorted l) (hsorted l') hperm
  -- two keys with one name are one key
  have hkeys : (l.map targetKey).map Prod.fst = l.map (·.metadata.name) := by rw [List.map_map]; rfl
  have hmem : ∀ x ∈ (l.insertionSort le).map targetKey, x ∈ l.map targetKey := fun x hx =>
    ((List.perm_insertionSort le l).map _).mem_iff.1 hx
  exact List.inj_on_of_nodup_map (hkeys ▸ hnames) (hmem a ha) (hmem b (hperm.mem_iff.2 hb))
    (String.le_antisymm hab hba)

namespace ClusterReconciler
variable {selection : MachineSelection} {cluster : Cluster} {old new : Machine}
  {others : List Machine}

/-- Whether a machine is among those whose targets are computed. -/
def selects (selection : MachineSelection) (cluster : Cluster) (m : Machine) : Bool :=
  selection.listed cluster m.metadata.namespace' (labelsOf m) &&
    selection.controlPlaneMachines cluster.metadata.name (labelsOf m) && selection.activeMachines
    m.metadata.deleting

theorem activeControlPlaneMachines_cons (m : Machine) :
    activeControlPlaneMachines selection cluster (m :: others) =
    if selects selection cluster m = true then
      m :: activeControlPlaneMachines selection cluster others
    else activeControlPlaneMachines selection cluster others := by
  rw [activeControlPlaneMachines, List.filter_cons]
  rfl

theorem listed_of_selects {m : Machine} (h : selects selection cluster m = true) :
    m.metadata.namespace' = cluster.metadata.namespace' ∧
    labelsOf m labelClusterName = some cluster.metadata.name := by
  rw [selects, Bool.and_eq_true, Bool.and_eq_true] at h
  exact selection.listed_cluster h.1.1

/-- The machines of a cluster are in one namespace, so their names are distinct. -/
theorem names_nodup {machines : List Machine}
    (h : (machines.map fun m => (m.metadata.namespace', m.metadata.name)).Nodup) :
    ((activeControlPlaneMachines selection cluster machines).map (·.metadata.name)).Nodup := by
  refine List.Nodup.map_on ?_ ((List.Nodup.of_map _ h).filter _)
  intro a ha b hb hab
  have hns : a.metadata.namespace' = b.metadata.namespace' :=
    (listed_of_selects (List.mem_filter.1 ha).2).1.trans
      (listed_of_selects (List.mem_filter.1 hb).2).1.symm
  exact List.inj_on_of_nodup_map h (List.mem_filter.1 ha).1 (List.mem_filter.1 hb).1
    (Prod.ext hns hab)

/-- What an update that does not pass the filter leaves alone. -/
theorem unchanged_of_filtered (h : machineTargetPoolChanged (.machine old) (.machine new) = false) :
    old.addresses = new.addresses ∧ old.metadata.deleting = new.metadata.deleting ∧
    labelsOf old = labelsOf new := by
  rw [machineTargetPoolChanged, Bool.or_eq_false_iff, Bool.or_eq_false_iff, bne_eq_false_iff_eq,
    bne_eq_false_iff_eq, Bool.not_eq_false'] at h
  exact ⟨h.1.1, h.1.2, StringMap.eqB_iff.1 h.2⟩

theorem map_targetKey_of_filtered (hns : old.metadata.namespace' = new.metadata.namespace')
    (hname : old.metadata.name = new.metadata.name)
    (h : machineTargetPoolChanged (.machine old) (.machine new) = false) :
    (activeControlPlaneMachines selection cluster (old :: others)).map targetKey =
      (activeControlPlaneMachines selection cluster (new :: others)).map targetKey := by
  obtain ⟨haddresses, hdeleting, hlabels⟩ := unchanged_of_filtered h
  have hkey : targetKey old = targetKey new := Prod.ext hname haddresses
  have hselects : selects selection cluster old = selects selection cluster new := by
    rw [selects, selects, hns, hdeleting, hlabels]
  rw [activeControlPlaneMachines_cons, activeControlPlaneMachines_cons, hselects]
  split
  · rw [List.map_cons, List.map_cons, hkey]
  · rfl

/-- A machine that counts is mapped to the StackitCluster its Cluster refers to. -/
theorem mapped_of_selects {m : Machine} {getClusterFromMetadata : Machine → Except GoError Cluster}
    (h : selects selection cluster m = true) (hget : getClusterFromMetadata m = .ok cluster)
    (href : filterForStackitClusterResources (.cluster cluster) =
      [⟨cluster.metadata.namespace', cluster.infrastructureRef.name⟩]) :
    ⟨cluster.metadata.namespace', cluster.infrastructureRef.name⟩ ∈
      loadBalancerTargetsForControlPlanes selection getClusterFromMetadata (.machine m) := by
  rw [selects, Bool.and_eq_true, Bool.and_eq_true] at h
  simp only [loadBalancerTargetsForControlPlanes, selection.controlPlane_label h.1.2, Bool.not_true,
    Bool.false_eq_true, if_false, hget, href, List.mem_singleton]

/-- The filter for Machine events loses no change of the target pool: an update it drops leaves the
targets alone, in whatever order the machines are listed, and where they differ one of the two
versions is mapped to the StackitCluster. -/
theorem no_target_change_lost (selection : MachineSelection) (sha256Hex : String → String)
    (cluster : Cluster) (old new : Machine) (others l l' : List Machine)
    (hns : old.metadata.namespace' = new.metadata.namespace')
    (hname : old.metadata.name = new.metadata.name)
    (hothers : ((old :: others).map fun m => (m.metadata.namespace', m.metadata.name)).Nodup)
    (hl : l.Perm (activeControlPlaneMachines selection cluster (old :: others)))
    (hl' : l'.Perm (activeControlPlaneMachines selection cluster (new :: others))) :
    (machineTargetPoolChanged (.machine old) (.machine new) = false →
      apiServerTargets sha256Hex l = apiServerTargets sha256Hex l') ∧
    (apiServerTargets sha256Hex l ≠ apiServerTargets sha256Hex l' →
      ∀ getClusterFromMetadata : Machine → Except GoError Cluster,
        (∀ m, m.metadata.namespace' = cluster.metadata.namespace' →
          labelsOf m labelClusterName = some cluster.metadata.name →
          getClusterFromMetadata m = .ok cluster) →
        cluster.infrastructureRef.apiGroup = infrastructureGroup →
          cluster.infrastructureRef.kind = "StackitCluster" →
        cluster.infrastructureRef.name ≠ "" →
        ∃ v ∈ [old, new], ⟨cluster.metadata.namespace', cluster.infrastructureRef.name⟩ ∈
          loadBalancerTargetsForControlPlanes selection getClusterFromMetadata (.machine v)) := by
  have hnames : (l.map (·.metadata.name)).Nodup := (hl.map _).nodup_iff.2 (names_nodup hothers)
  have hsame : (activeControlPlaneMachines selection cluster (old :: others)).map targetKey =
      (activeControlPlaneMachines selection cluster (new :: others)).map targetKey →
      apiServerTargets sha256Hex l = apiServerTargets sha256Hex l' := fun h =>
    apiServerTargets_congr (((hl.map _).trans (.of_eq h)).trans (hl'.map _).symm) hnames
  refine ⟨fun h => hsame (map_targetKey_of_filtered hns hname h), ?_⟩
  intro hdiffer getClusterFromMetadata hget hgroup hkind href
  -- were neither version selected, both lists would be that of the others
  have hselected : ∃ v ∈ [old, new], selects selection cluster v = true := by
    by_contra hnone
    push Not at hnone
    refine hdiffer (hsame ?_)
    rw [activeControlPlaneMachines_cons, activeControlPlaneMachines_cons,
      if_neg (hnone old (by simp)), if_neg (hnone new (by simp))]
  obtain ⟨v, hv, hselects⟩ := hselected
  obtain ⟨hvns, hvlabel⟩ := listed_of_selects hselects
  refine ⟨v, hv, mapped_of_selects hselects (hget v hvns hvlabel) ?_⟩
  simp [filterForStackitClusterResources, hgroup, hkind, href]

/-- A control plane machine of the cluster `demo` with the given internal address. -/
def controlPlaneMachine (name ip : String) (deleting : Bool) : Machine where
  metadata :=
    { name, namespace' := "default", deleting
      labels := StringMap.ofList [(labelClusterName, "demo"), (labelControlPlane, "")] }
  addresses := [⟨machineInternalIP, ip⟩]

/-- A machine leaves the pool when its deletion starts, and its cluster is reconciled. -/
theorem no_target_change_lost_deletion :
    let cluster : Cluster :=
      { metadata := { name := "demo", namespace' := "default" }
        infrastructureRef := ⟨infrastructureGroup, "StackitCluster", "demo-infra"⟩ }
    let machines := fun deleting => activeControlPlaneMachines .standard cluster
      [controlPlaneMachine "demo-b" "10.0.0.3" deleting, controlPlaneMachine "demo-a"
        "10.0.0.2" false]
    apiServerTargets Sha256.hex (machines false) =
      [⟨"demo-a", "10.0.0.2"⟩, ⟨"demo-b", "10.0.0.3"⟩] ∧
      apiServerTargets Sha256.hex (machines true) = [⟨"demo-a", "10.0.0.2"⟩] ∧
      ∃ v ∈ [controlPlaneMachine "demo-b" "10.0.0.3" false, controlPlaneMachine "demo-b"
        "10.0.0.3" true],
        ⟨"default", "demo-infra"⟩ ∈
          loadBalancerTargetsForControlPlanes .standard (fun _ => .ok cluster) (.machine v) := by
  intro cluster machines
  refine ⟨by decide +kernel, by decide +kernel, ?_⟩
  exact (no_target_change_lost .standard Sha256.hex cluster
    (controlPlaneMachine "demo-b" "10.0.0.3" false)
    (controlPlaneMachine "demo-b" "10.0.0.3" true) [controlPlaneMachine "demo-a" "10.0.0.2" false]
    (machines false) (machines true) rfl rfl (by decide +kernel) (.refl _) (.refl _)).2
    (by decide +kernel) (fun _ => .ok cluster) (fun _ _ _ => rfl) rfl rfl (by decide)

end ClusterReconciler

end Capstk
