import Mathlib.Tactic.Tauto
import Capstk.Webhook

/-!
# Defaulting and validation

Defaulting only ever fills in `deleteOnTermination`, and the only check that reads it wants a size
or a performance class beside it. The machine defaulter fills it in only when the root volume is
configured, so it never invalidates a spec. The cluster defaulter also does so for every enabled
bastion: an enabled bastion without a root volume is valid before defaulting and invalid after.

Updates are compared with the stored object. Machines and templates are compared after defaulting
both sides; the bastion of a cluster is compared as it is, once its server exists.
-/

namespace Capstk.Webhook

@[simp] theorem check_eq_nil {bad : Bool} {err : FieldError} :
    check bad err = [] ↔ bad = false := by
  cases bad <;> simp [check]

/-! ### Root volumes -/

/-- Nothing is set. -/
def EmptyRootVolume (v : StackitRootVolumeSpec) : Prop :=
  v.sizeGiB = 0 ∧ v.performanceClass = "" ∧ v.deleteOnTermination = none

instance (v : StackitRootVolumeSpec) : Decidable (EmptyRootVolume v) :=
  inferInstanceAs (Decidable (_ ∧ _ ∧ _))

theorem validateRootVolume_eq_nil {v : StackitRootVolumeSpec} {path : String} :
    validateRootVolume v path = [] ↔
      0 ≤ v.sizeGiB ∧ (v.deleteOnTermination.isSome → v.sizeGiB = 0 → v.performanceClass ≠ "") := by
  simp only [validateRootVolume, List.append_eq_nil_iff, check_eq_nil, decide_eq_false_iff_not,
    Int.not_lt]
  refine and_congr_right fun _ => ?_
  cases v.deleteOnTermination.isSome <;> by_cases h : v.sizeGiB = 0 <;> simp [h]

@[simp] theorem defaultRootVolume_sizeGiB (v : StackitRootVolumeSpec) :
    (defaultRootVolume v).sizeGiB = v.sizeGiB := by
  unfold defaultRootVolume; split <;> rfl

@[simp] theorem defaultRootVolume_performanceClass (v : StackitRootVolumeSpec) :
    (defaultRootVolume v).performanceClass = v.performanceClass := by
  unfold defaultRootVolume; split <;> rfl

@[simp] theorem defaultRootVolume_isSome (v : StackitRootVolumeSpec) :
    (defaultRootVolume v).deleteOnTermination.isSome = true := by
  unfold defaultRootVolume
  split
  · rfl
  · simp [*]

theorem defaultRootVolume_of_isSome {v : StackitRootVolumeSpec}
    (h : v.deleteOnTermination.isSome = true) :
    defaultRootVolume v = v := by
  unfold defaultRootVolume
  split
  · simp_all
  · rfl

@[simp] theorem rootVolumeConfigured_default (v : StackitRootVolumeSpec) :
    rootVolumeConfigured (defaultRootVolume v) = true := by
  simp [rootVolumeConfigured]

theorem not_configured_iff {v : StackitRootVolumeSpec} (h : 0 ≤ v.sizeGiB) :
    rootVolumeConfigured v = false ↔ EmptyRootVolume v := by
  have hsize : v.sizeGiB ≤ 0 ↔ v.sizeGiB = 0 := by omega
  simp [rootVolumeConfigured, EmptyRootVolume, hsize, and_assoc]

/-- A valid root volume stays valid under its default unless it is empty. -/
theorem validateRootVolume_default {v : StackitRootVolumeSpec} {path : String}
    (hv : validateRootVolume v path = []) :
    validateRootVolume (defaultRootVolume v) path = [] ↔ ¬ EmptyRootVolume v := by
  obtain ⟨hsize, hdel⟩ := validateRootVolume_eq_nil.1 hv
  rw [validateRootVolume_eq_nil]
  simp only [defaultRootVolume_sizeGiB, defaultRootVolume_performanceClass,
    defaultRootVolume_isSome, true_implies, EmptyRootVolume, not_and]
  refine ⟨fun h h0 hp => absurd hp (h.2 h0), fun h => ⟨hsize, fun h0 hp => ?_⟩⟩
  have hsome : v.deleteOnTermination.isSome = true := Option.isSome_iff_ne_none.2 (h h0 hp)
  exact hdel hsome h0 hp

/-! ### Specs -/

theorem validateStackitClusterSpec_rootVolume {rules : NameRules} {spec : StackitClusterSpec}
    {path : String} (h : validateStackitClusterSpec rules spec path = [])
    (v : StackitRootVolumeSpec) :
    validateStackitClusterSpec rules { spec with bastion := { spec.bastion with rootVolume := v } }
      path = [] ↔
        validateRootVolume v (path ++ ".bastion" ++ ".rootVolume") = [] := by
  simp only [validateStackitClusterSpec, validateBastionSpec, List.append_eq_nil_iff] at h ⊢
  tauto

theorem validateRootVolume_of_cluster {rules : NameRules} {spec : StackitClusterSpec}
    {path : String} (h : validateStackitClusterSpec rules spec path = []) :
    validateRootVolume spec.bastion.rootVolume (path ++ ".bastion" ++ ".rootVolume") = [] :=
  (validateStackitClusterSpec_rootVolume h spec.bastion.rootVolume).1 h

theorem validateStackitMachineSpec_rootVolume {rules : NameRules} {spec : StackitMachineSpec}
    {path : String} {allow : Bool} (h : validateStackitMachineSpec rules spec path allow = [])
    (v : StackitRootVolumeSpec) :
    validateStackitMachineSpec rules { spec with rootVolume := v } path allow = [] ↔
      validateRootVolume v (path ++ ".rootVolume") = [] := by
  simp only [validateStackitMachineSpec, List.append_eq_nil_iff] at h ⊢
  tauto

/-- Defaulting a valid cluster spec keeps it valid unless its bastion is enabled and has an empty
root volume. -/
theorem validateStackitClusterSpec_default {rules : NameRules} {spec : StackitClusterSpec}
    {path : String} (h : validateStackitClusterSpec rules spec path = []) :
    validateStackitClusterSpec rules (defaultClusterSpec spec) path = [] ↔
      ¬ (spec.bastion.enabled = true ∧ EmptyRootVolume spec.bastion.rootVolume) := by
  have hv := validateRootVolume_of_cluster h
  unfold defaultClusterSpec
  split
  case isTrue hc =>
    rw [validateStackitClusterSpec_rootVolume h, validateRootVolume_default hv]
    refine not_congr ⟨fun he => ⟨?_, he⟩, fun he => he.2⟩
    rw [(not_configured_iff (validateRootVolume_eq_nil.1 hv).1).2 he] at hc
    simpa using hc
  case isFalse hc =>
    have hoff : spec.bastion.enabled = false := by simp_all
    simp [h, hoff]

/-- A configured root volume is not empty, so the machine defaulter keeps every spec valid. -/
theorem validateStackitMachineSpec_default {rules : NameRules} {spec : StackitMachineSpec}
    {path : String} {allow : Bool} (h : validateStackitMachineSpec rules spec path allow = []) :
    validateStackitMachineSpec rules (defaultMachineSpec spec) path allow = [] := by
  have hv := (validateStackitMachineSpec_rootVolume h spec.rootVolume).1 h
  unfold defaultMachineSpec
  split
  case isTrue hc =>
    rw [validateStackitMachineSpec_rootVolume h, validateRootVolume_default hv]
    intro he
    rw [(not_configured_iff (validateRootVolume_eq_nil.1 hv).1).2 he] at hc
    exact Bool.noConfusion hc
  case isFalse => exact h

theorem defaultClusterSpec_idem (spec : StackitClusterSpec) :
    defaultClusterSpec (defaultClusterSpec spec) = defaultClusterSpec spec := by
  by_cases hc : (spec.bastion.enabled || rootVolumeConfigured spec.bastion.rootVolume) = true
  · simp [defaultClusterSpec, hc, defaultRootVolume_of_isSome (defaultRootVolume_isSome _)]
  · simp [defaultClusterSpec, hc]

theorem defaultMachineSpec_idem (spec : StackitMachineSpec) :
    defaultMachineSpec (defaultMachineSpec spec) = defaultMachineSpec spec := by
  by_cases hc : rootVolumeConfigured spec.rootVolume = true
  · simp [defaultMachineSpec, hc, defaultRootVolume_of_isSome (defaultRootVolume_isSome _)]
  · simp [defaultMachineSpec, hc]

/-- **Defaulting preserves validity** and is idempotent for both kinds, exactly when the cluster
spec is not a valid one with an enabled bastion and an empty root volume. -/
theorem defaulting_preserves_validity_iff (rules : NameRules) (cluster : StackitClusterSpec)
    (machine : StackitMachineSpec) (allowProviderID : Bool) :
    ((validateStackitClusterSpec rules cluster "spec" = [] →
        validateStackitClusterSpec rules (defaultClusterSpec cluster) "spec" = []) ∧
      (validateStackitMachineSpec rules machine "spec" allowProviderID = [] →
        validateStackitMachineSpec rules (defaultMachineSpec machine) "spec" allowProviderID = []) ∧
      defaultClusterSpec (defaultClusterSpec cluster) = defaultClusterSpec cluster ∧
      defaultMachineSpec (defaultMachineSpec machine) = defaultMachineSpec machine) ↔
    ¬ (validateStackitClusterSpec rules cluster "spec" = [] ∧ cluster.bastion.enabled = true ∧
      EmptyRootVolume cluster.bastion.rootVolume) := by
  constructor
  · rintro ⟨hcluster, -⟩ ⟨hvalid, hempty⟩
    exact (validateStackitClusterSpec_default hvalid).1 (hcluster hvalid) hempty
  · intro h
    refine ⟨fun hvalid => ?_, validateStackitMachineSpec_default, defaultClusterSpec_idem cluster,
      defaultMachineSpec_idem machine⟩
    exact (validateStackitClusterSpec_default hvalid).2 fun hempty => h ⟨hvalid, hempty⟩

/-- An enabled bastion that leaves the root volume to the image. -/
def bastionWithoutRootVolume : StackitClusterSpec where
  projectID := "00000000-0000-0000-0000-000000000001"
  region := "eu01"
  credentialsSecretRef := { name := "stackit-credentials" }
  apiServerLoadBalancerEnabled := true
  bastion :=
    { enabled := true, imageID := "00000000-0000-0000-0000-000000000002", machineType := "g1.1",
      sshKeyName := "admin", allowedCIDRs := ["192.0.2.0/24"] }

/-- It is accepted as written and rejected once the mutating webhook has seen it. -/
theorem default_rejects_bastionWithoutRootVolume :
    validateStackitClusterSpec .kubernetes bastionWithoutRootVolume "spec" = [] ∧
      validateStackitClusterSpec .kubernetes (defaultClusterSpec bastionWithoutRootVolume)
      "spec" ≠ [] := by
  decide +kernel

/-! ### Submitting an object again -/

theorem defaultRootVolume_eq_self_iff {v : StackitRootVolumeSpec} :
    defaultRootVolume v = v ↔ v.deleteOnTermination ≠ none := by
  refine ⟨fun h hnone => ?_, fun h => defaultRootVolume_of_isSome (Option.isSome_iff_ne_none.2 h)⟩
  have hsome := defaultRootVolume_isSome v
  rw [h, hnone] at hsome
  cases hsome

theorem defaultClusterSpec_cases (spec : StackitClusterSpec) :
    ∃ v, (spec.bastion.enabled = true → v = defaultRootVolume spec.bastion.rootVolume) ∧
      defaultClusterSpec spec = { spec with bastion := { spec.bastion with rootVolume := v } } := by
  unfold defaultClusterSpec
  split
  case isTrue => exact ⟨_, fun _ => rfl, rfl⟩
  case isFalse h => exact ⟨_, fun henabled => absurd (by rw [henabled]; rfl) h, rfl⟩

theorem sameLabels_self (labels : StringMap) : sameLabels labels labels = true := by
  simp [sameLabels, StringMap.subB_iff, StringMap.Sub.refl]

theorem sameVMFields_self (spec : StackitMachineSpec) : sameVMFields spec spec = true := by
  simp [sameVMFields]

/-- The bastion of the cluster exists, and its spec was never defaulted. -/
def Pinned (sc : StackitCluster) : Prop :=
  sc.status.bastion.serverID ≠ "" ∧ sc.spec.bastion.enabled = true ∧
    sc.spec.bastion.rootVolume.deleteOnTermination = none

theorem validateStackitClusterSpecUpdate_default (sc : StackitCluster) :
    validateStackitClusterSpecUpdate sc (defaultStackitCluster sc) = [] ↔ ¬ Pinned sc := by
  obtain ⟨v, hv, hdefault⟩ := defaultClusterSpec_cases sc.spec
  simp only [validateStackitClusterSpecUpdate, defaultStackitCluster, hdefault, immutable,
    bne_self_eq_false, Bool.and_false, List.append_eq_nil_iff, check_eq_nil, true_and]
  by_cases henabled : sc.spec.bastion.enabled = true
  · rw [hv henabled]
    have hsame : sc.spec.bastion.rootVolume = defaultRootVolume sc.spec.bastion.rootVolume ↔
        ¬ sc.spec.bastion.rootVolume.deleteOnTermination = none :=
          eq_comm.trans defaultRootVolume_eq_self_iff
    by_cases hserver : sc.status.bastion.serverID = ""
    · simp [Pinned, hserver]
    · simp [Pinned, hserver, henabled, hsame]
  · simp [Pinned, henabled]

theorem validateStackitMachineSpecUpdate_default (sm : StackitMachine) :
    validateStackitMachineSpecUpdate sm (defaultStackitMachine sm) = [] := by
  have hproviderID : (defaultMachineSpec sm.spec).providerID = sm.spec.providerID := by
    unfold defaultMachineSpec; split <;> rfl
  have hlabels : (defaultMachineSpec sm.spec).additionalLabels = sm.spec.additionalLabels := by
    unfold defaultMachineSpec; split <;> rfl
  simp only [validateStackitMachineSpecUpdate, defaultStackitMachine, defaultMachineSpec_idem,
    sameVMFields_self, hproviderID, hlabels, sameLabels_self, List.append_eq_nil_iff, check_eq_nil]
  cases sm.spec.providerID <;> simp

theorem validateTemplateUpdate_default {Spec : Type} {metadata : MetadataRules}
    {validate : Spec → String → List FieldError} {default : Spec → Spec} {same : Spec → Spec → Bool}
    (hidem : ∀ spec, default (default spec) = default spec) (hsame : ∀ spec, same spec spec = true)
    {t : Template Spec}
    (h : validateTemplate metadata validate { t with spec := default t.spec } = []) :
    validateTemplateUpdate metadata validate default same t { t with
      spec := default t.spec } = [] := by
  simp [validateTemplateUpdate, h, hidem, hsame]

/-- **An unchanged object can be submitted again**, whichever of the four kinds it is and whatever
its status, exactly if it is no cluster whose bastion exists and whose bastion spec was never
defaulted. -/
theorem resubmission_admitted_iff (rules : NameRules) (metadata : MetadataRules)
    (sc : StackitCluster) (sm : StackitMachine) (ct : StackitClusterTemplate)
    (mt : StackitMachineTemplate) :
    (validateStackitClusterSpec rules sc.spec "spec" = [] →
      validateStackitClusterSpec rules (defaultStackitCluster sc).spec "spec" = [] →
      (admitsClusterUpdate rules sc (defaultStackitCluster sc) = true ↔ ¬ Pinned sc)) ∧
    (validateStackitMachineSpec rules sm.spec "spec" true = [] →
      validateStackitMachineSpec rules (defaultStackitMachine sm).spec "spec" true = [] →
      admitsMachineUpdate rules sm (defaultStackitMachine sm) = true) ∧
    (validateStackitClusterTemplate metadata rules ct = [] →
      validateStackitClusterTemplate metadata rules (defaultStackitClusterTemplate ct) = [] →
      validateStackitClusterTemplateUpdate metadata rules ct
      (defaultStackitClusterTemplate ct) = []) ∧
    (validateStackitMachineTemplate metadata rules mt = [] →
      validateStackitMachineTemplate metadata rules (defaultStackitMachineTemplate mt) = [] →
      validateStackitMachineTemplateUpdate metadata rules mt
      (defaultStackitMachineTemplate mt) = []) := by
  refine ⟨fun _ h => ?_, fun _ h => ?_, fun _ h => ?_, fun _ h => ?_⟩
  · rw [admitsClusterUpdate, h, List.nil_append, List.isEmpty_iff]
    exact validateStackitClusterSpecUpdate_default sc
  · rw [admitsMachineUpdate, h, List.nil_append, List.isEmpty_iff]
    exact validateStackitMachineSpecUpdate_default sm
  · refine validateTemplateUpdate_default defaultClusterSpec_idem (fun spec => ?_) h
    simp [sameClusterSpec, sameLabels_self]
  · refine validateTemplateUpdate_default defaultMachineSpec_idem (fun spec => ?_) h
    simp [sameMachineSpec, sameVMFields_self, sameLabels_self]

/-- An enabled bastion with a root volume that says nothing of its deletion, and the server that
exists. -/
def pinnedCluster (serverID : String) : StackitCluster where
  metadata := { name := "c", namespace' := "ns" }
  spec := { bastionWithoutRootVolume with
    bastion := { bastionWithoutRootVolume.bastion with rootVolume := { sizeGiB := 20 } } }
  status := { bastion := { serverID } }

/-- As long as there is no server, it can be submitted again. -/
theorem resubmission_admitted_unpinned :
    validateStackitClusterSpec .kubernetes (pinnedCluster "").spec "spec" = [] ∧
      admitsClusterUpdate .kubernetes (pinnedCluster "")
      (defaultStackitCluster (pinnedCluster "")) = true := by
  have hvalid : validateStackitClusterSpec .kubernetes (pinnedCluster "").spec "spec" = [] := by
    decide +kernel
  refine ⟨hvalid, ?_⟩
  exact ((resubmission_admitted_iff .kubernetes ⟨fun _ _ => []⟩ (pinnedCluster "")
    { metadata := { name := "m", namespace' := "ns" }, spec := {} } { spec := {} } { spec := {} }).1
    hvalid (by decide +kernel)).2
    fun h => h.1 rfl

/-- Once there is one, the object is refused as it is. -/
theorem resubmission_refused :
    let sc := pinnedCluster "server"
    validateStackitClusterSpec .kubernetes sc.spec "spec" = [] ∧
      validateStackitClusterSpec .kubernetes (defaultStackitCluster sc).spec "spec" = [] ∧
      admitsClusterUpdate .kubernetes sc (defaultStackitCluster sc) = false := by
  decide +kernel

end Capstk.Webhook
