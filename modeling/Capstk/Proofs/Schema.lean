import Capstk.Schema
import Capstk.ClusterReconciler

/-!
# What the schemas accept

The messages of conditions hold the texts of errors, whose length nobody bounds: what else the
schemas ask for, they are asked for without exception (`Tolerable`). Conditions and failure domains
are lists that the schemas read as maps, so the controllers must not repeat a type or a name.
-/

namespace Capstk.Schema

open Webhook ClusterReconciler

variable {vs ws : List Violation} {bad : Bool} {path : String} {rule : Rule} {cs : List Condition}
  {α : Type}

/-- All that can be wrong is that a message is too long. -/
def Tolerable (vs : List Violation) : Prop := ∀ v ∈ vs, v.rule = .maxLength 32768

@[simp] theorem tolerable_append : Tolerable (vs ++ ws) ↔ Tolerable vs ∧ Tolerable ws :=
  List.forall_mem_append

@[simp] theorem tolerable_violated : Tolerable (violated bad path rule) ↔ bad = false ∨
    rule = .maxLength 32768 := by
  cases bad with
  | false => simp [violated, Tolerable]
  | true => simp [violated, Tolerable]

@[simp] theorem tolerable_length {value : String} {least most : Nat} :
    Tolerable (length value least most path) ↔ least ≤ value.length ∧
    (value.length ≤ most ∨ most = 32768) := by
  simp [length]

theorem tolerable_items {l : List α} {check : String → α → List Violation} {P : α → Prop}
    (h : ∀ path a, Tolerable (check path a) ↔ P a) :
    Tolerable (items path l check) ↔ ∀ a ∈ l, P a := by
  constructor
  · intro hall a ha
    obtain ⟨i, hi⟩ := List.mem_iff_getElem?.1 ha
    have hmem : (a, i) ∈ l.zipIdx := List.mem_zipIdx_iff_getElem?.2 hi
    exact (h (index path i) a).1 fun v hv => hall v (List.mem_flatMap.2 ⟨(a, i), hmem, hv⟩)
  · intro hall v hv
    obtain ⟨⟨a, i⟩, hmem, hv⟩ := List.mem_flatMap.1 hv
    have ha : a ∈ l := List.mem_of_getElem? (List.mem_zipIdx_iff_getElem?.1 hmem)
    exact (h (index path i) a).2 (hall a ha) v hv

/-! ### Conditions -/

structure ConditionFits (c : Condition) : Prop where
  type : conditionTypePattern c.type = true
  typeLength : c.type.length ≤ 316
  reason : reasonPattern c.reason = true
  reasonLength : 1 ≤ c.reason.length ∧ c.reason.length ≤ 1024
  generation : 0 ≤ c.observedGeneration

/-- Every condition fits, and there is one of each type. -/
structure ConditionsFit (cs : List Condition) : Prop where
  each : ∀ c ∈ cs, ConditionFits c
  types : (cs.map (·.type)).Nodup

theorem tolerable_condition (path : String) (c : Condition) :
    Tolerable (condition path c) ↔ ConditionFits c := by
  simp only [condition, tolerable_append, tolerable_violated, tolerable_length, reduceCtorEq,
    or_false, Nat.zero_le, true_and, Nat.reduceEqDiff, or_true, and_true, Bool.not_eq_false',
    decide_eq_false_iff_not, Int.not_lt]
  constructor
  · rintro ⟨⟨⟨⟨htype, htypeLength⟩, hreasonLength⟩, hreason⟩, hgeneration⟩
    exact ⟨htype, htypeLength, hreason, hreasonLength, hgeneration⟩
  · intro h
    exact ⟨⟨⟨⟨h.type, h.typeLength⟩, h.reasonLength⟩, h.reason⟩, h.generation⟩

theorem tolerable_conditions : Tolerable (conditions cs) ↔ ConditionsFit cs := by
  rw [conditions, tolerable_append, tolerable_items tolerable_condition, tolerable_violated]
  constructor
  · rintro ⟨heach, htypes⟩
    exact ⟨heach, by simpa using htypes⟩
  · intro h
    exact ⟨h.each, by simpa using h.types⟩

theorem mem_setStatusCondition {new c : Condition} (h : c ∈ setStatusCondition cs new) :
    c = new ∨ c ∈ cs := by
  induction cs with
  | nil => exact .inl (List.mem_singleton.1 h)
  | cons c' cs ih =>
    rw [setStatusCondition] at h
    split at h
    · rcases List.mem_cons.1 h with rfl | hmem
      · exact .inl rfl
      · exact .inr (List.mem_cons_of_mem _ hmem)
    · rcases List.mem_cons.1 h with rfl | hmem
      · exact .inr List.mem_cons_self
      · exact (ih hmem).imp_right (List.mem_cons_of_mem _)

theorem types_setStatusCondition (new : Condition) (h : (cs.map (·.type)).Nodup) :
    ((setStatusCondition cs new).map (·.type)).Nodup := by
  induction cs with
  | nil => exact List.nodup_singleton _
  | cons c cs ih =>
    obtain ⟨hnot, hrest⟩ := List.nodup_cons.1 h
    rw [setStatusCondition]
    split
    · rename_i heq
      have hnew : new.type ∉ cs.map (·.type) := eq_of_beq heq ▸ (hnot : c.type ∉ cs.map (·.type))
      exact List.nodup_cons.2 ⟨hnew, hrest⟩
    · rename_i hne
      refine List.nodup_cons.2 ⟨fun hmem => ?_, ih hrest⟩
      obtain ⟨c', hc', htype⟩ := List.mem_map.1 hmem
      rcases mem_setStatusCondition hc' with rfl | hold
      · exact hne (by simp [htype])
      · exact hnot (List.mem_map.2 ⟨c', hold, htype⟩)

theorem ConditionsFit.set {new : Condition} (h : ConditionsFit cs) (hnew : ConditionFits new) :
    ConditionsFit (setStatusCondition cs new) := by
  refine ⟨fun c hc => ?_, types_setStatusCondition new h.types⟩
  rcases mem_setStatusCondition hc with rfl | hold
  · exact hnew
  · exact h.each c hold

/-- Whether a type and a reason are fit for a condition. -/
def typeFits (type : String) : Bool := conditionTypePattern type && decide (type.length ≤ 316)

def reasonFits (reason : String) : Bool :=
  reasonPattern reason && decide (1 ≤ reason.length ∧ reason.length ≤ 1024)

theorem ConditionsFit.setConditions {generation : Int} {status : ConditionStatus}
    {reason message : String} {types : List String} (h : ConditionsFit cs)
    (hgeneration : 0 ≤ generation) (hreason : reasonFits reason = true)
    (htypes : ∀ t ∈ types, typeFits t = true) :
    ConditionsFit (Capstk.setConditions cs generation status reason message types) := by
  induction types generalizing cs with
  | nil => exact h
  | cons t types ih =>
    have ht := htypes t List.mem_cons_self
    rw [typeFits, Bool.and_eq_true, decide_eq_true_eq] at ht
    rw [reasonFits, Bool.and_eq_true, decide_eq_true_eq] at hreason
    exact ih (h.set ⟨ht.1, ht.2, hreason.1, hreason.2, hgeneration⟩) fun t' ht' =>
      htypes t' (List.mem_cons_of_mem _ ht')

/-! ### Endpoints and failure domains -/

structure EndpointFits (e : APIEndpoint) : Prop where
  host : e.host.length ≤ 512
  port : (e.port ≠ 0 → 1 ≤ e.port) ∧ e.port ≤ 65535

theorem tolerable_endpoint (path : String) (e : APIEndpoint) :
    Tolerable (endpoint path e) ↔ EndpointFits e := by
  simp only [endpoint, tolerable_append, tolerable_violated, tolerable_length, reduceCtorEq,
    or_false, Nat.zero_le, true_and, Nat.reduceEqDiff, Bool.and_eq_false_iff, bne_eq_false_iff_eq,
    decide_eq_false_iff_not, Int.not_lt]
  constructor
  · rintro ⟨⟨hhost, hleast⟩, hmost⟩
    exact ⟨hhost, fun hne => hleast.resolve_left hne, hmost⟩
  · intro h
    refine ⟨⟨h.host, ?_⟩, h.port.2⟩
    by_cases h0 : e.port = 0
    · exact .inl h0
    · exact .inr (h.port.1 h0)

structure DomainsFit (domains : List FailureDomain) : Prop where
  each : ∀ d ∈ domains, 1 ≤ d.name.length ∧ d.name.length ≤ 256
  names : (domains.map (·.name)).Nodup

theorem tolerable_failureDomains {domains : List FailureDomain} :
    Tolerable (failureDomains domains) ↔ DomainsFit domains := by
  have hname : ∀ path (d : FailureDomain), Tolerable (length d.name 1 256 (path ++ ".name")) ↔
      1 ≤ d.name.length ∧ d.name.length ≤ 256 := fun path d => by simp
  rw [failureDomains, tolerable_append, tolerable_items hname, tolerable_violated]
  constructor
  · rintro ⟨heach, hnames⟩
    exact ⟨heach, by simpa using hnames⟩
  · intro h
    exact ⟨h.each, by simpa using h.names⟩

/-- Zones that can be published. -/
structure ZonesFit (zones : List String) : Prop where
  each : ∀ z ∈ zones, 1 ≤ z.length ∧ z.length ≤ 256
  nodup : zones.Nodup

theorem length_of_regionPattern {region : String} (h : regionPattern region = true) :
    region.length = 4 := by
  unfold regionPattern regionThen at h
  split at h
  · rename_i a b c d cs hchars
    simp only [Bool.and_eq_true, List.isEmpty_iff] at h
    rw [← String.length_toList, hchars, h.2]
    rfl
  · cases h

theorem domainsFit_stackitFailureDomains {region : String} (h : regionPattern region = true) :
    DomainsFit (stackitFailureDomains region) := by
  have hlength := length_of_regionPattern h
  refine ⟨fun d hd => ?_, ?_⟩
  · simp only [stackitFailureDomains, List.map_cons, List.map_nil, List.mem_cons, List.not_mem_nil,
      or_false] at hd
    rcases hd with rfl | rfl | rfl <;> simp only [failureDomain, String.length_append, hlength] <;>
      decide
  · simp [stackitFailureDomains, failureDomain]

theorem domainsFit_failureDomainsFromZones {region : String} {zones : List String}
    (hregion : regionPattern region = true) (hzones : zones = [] ∨ ZonesFit zones) :
    DomainsFit (failureDomainsFromZones region zones) := by
  unfold failureDomainsFromZones
  dsimp only
  split
  · exact domainsFit_stackitFailureDomains hregion
  · rename_i hsome
    rcases hzones with rfl | hzones
    · exact absurd rfl hsome
    set domains := (zones.filter fun zone => !isMetroZone zone).map (failureDomain region)
      with hdomains
    have hperm := List.perm_insertionSort (fun a b : FailureDomain => a.name ≤ b.name) domains
    have hnames : domains.map (·.name) = zones.filter fun zone => !isMetroZone zone := by
      rw [hdomains, List.map_map]
      exact List.map_id _
    refine ⟨fun d hd => ?_, ?_⟩
    · have hname : d.name ∈ zones.filter fun zone => !isMetroZone zone := by
        rw [← hnames]
        exact List.mem_map_of_mem (hperm.mem_iff.1 hd)
      exact hzones.each d.name (List.mem_of_mem_filter hname)
    · rw [(hperm.map _).nodup_iff, hnames]
      exact hzones.nodup.filter _

end Capstk.Schema
