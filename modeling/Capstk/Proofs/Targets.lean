import Mathlib.Data.List.ReduceOption
import Capstk.Lib.Sha256
import Capstk.Proofs.Watches

/-!
# The targets of the API server load balancer

`APIServerTargets` goes through the machines by name and skips those whose IP is taken. So an IP
belongs to the first machine by name that reports it. Before there are any machines a new load
balancer gets an address of the network, `bootstrapTargetIP`.
-/

namespace Capstk

variable {sha256Hex : String → String} {m o : Machine} {ip : String} {seen : List String}
  {l : List Machine}

/-! ### The address of a machine -/

/-- `ip` is the first internal IP of the machine that is not empty. -/
def Machine.Reports (m : Machine) (ip : String) : Prop :=
  ip ≠ "" ∧ ∃ before after, m.addresses = before ++ ⟨machineInternalIP, ip⟩ :: after ∧
    ∀ a ∈ before, a.type = machineInternalIP → a.address = ""

theorem Machine.reports_iff : m.Reports ip ↔ firstInternalIP m.addresses = ip ∧ ip ≠ "" := by
  constructor
  · rintro ⟨hip, before, after, haddresses, hbefore⟩
    refine ⟨?_, hip⟩
    have hfind : m.addresses.find? (fun a => a.type == machineInternalIP && a.address != "") =
        some ⟨machineInternalIP, ip⟩ := by
      rw [List.find?_eq_some_iff_append]
      refine ⟨by simp [hip], before, after, haddresses, fun a ha => ?_⟩
      by_cases htype : a.type = machineInternalIP
      · simp [hbefore a ha htype]
      · simp [htype]
    rw [firstInternalIP, hfind]
    rfl
  · rintro ⟨hfirst, hip⟩
    refine ⟨hip, ?_⟩
    unfold firstInternalIP at hfirst
    cases hfind : m.addresses.find? (fun a => a.type == machineInternalIP && a.address != "") with
    | none =>
      rw [hfind] at hfirst
      exact absurd hfirst.symm hip
    | some a =>
      rw [hfind] at hfirst
      obtain ⟨ha, before, after, haddresses, hbefore⟩ := List.find?_eq_some_iff_append.1 hfind
      have hkind : a = ⟨machineInternalIP, ip⟩ := by
        cases a
        simp_all
      refine ⟨before, after, hkind ▸ haddresses, fun b hb htype => ?_⟩
      have := hbefore b hb
      simp_all

/-! ### The machines whose IPs are used -/

/-- The machines the loop makes a target of. -/
def targetOwners : List String → List Machine → List Machine
  | _, [] => []
  | seen, m :: l =>
    if firstInternalIP m.addresses = "" ∨ firstInternalIP m.addresses ∈ seen then
      targetOwners seen l
    else m :: targetOwners (firstInternalIP m.addresses :: seen) l

theorem collectTargets_eq_map (sha256Hex : String → String) (seen : List String)
    (l : List Machine) :
    collectTargets sha256Hex seen l = (targetOwners seen l).map fun m =>
      ⟨targetName sha256Hex m.metadata.name, firstInternalIP m.addresses⟩ := by
  induction l generalizing seen with
  | nil => rfl
  | cons m l ih =>
    simp only [collectTargets, targetOwners]
    split
    · exact ih _
    · rw [List.map_cons, ← ih]

theorem targetOwners_sublist (seen : List String) (l : List Machine) :
    (targetOwners seen l).Sublist l := by
  induction l generalizing seen with
  | nil => exact .slnil
  | cons m l ih =>
    unfold targetOwners
    split
    · exact (ih _).cons _
    · exact (ih _).cons_cons _

theorem reports_of_mem_targetOwners (ho : o ∈ targetOwners seen l) :
    o.Reports (firstInternalIP o.addresses) ∧ firstInternalIP o.addresses ∉ seen := by
  induction l generalizing seen with
  | nil => cases ho
  | cons m l ih =>
    unfold targetOwners at ho
    split at ho
    · exact ih ho
    · rename_i hfree
      rw [not_or] at hfree
      rcases List.mem_cons.1 ho with rfl | ho
      · exact ⟨Machine.reports_iff.2 ⟨rfl, hfree.1⟩, hfree.2⟩
      · obtain ⟨hreports, hseen⟩ := ih ho
        exact ⟨hreports, fun h => hseen (List.mem_cons_of_mem _ h)⟩

theorem nodup_targetOwners (seen : List String) (l : List Machine) :
    ((targetOwners seen l).map fun m => firstInternalIP m.addresses).Nodup := by
  induction l generalizing seen with
  | nil => exact List.nodup_nil
  | cons m l ih =>
    unfold targetOwners
    split
    · exact ih _
    · refine List.nodup_cons.2 ⟨fun h => ?_, ih _⟩
      obtain ⟨o, ho, hsame⟩ := List.mem_map.1 h
      exact (reports_of_mem_targetOwners ho).2 (hsame ▸ List.mem_cons_self)

theorem exists_targetOwner (hm : m ∈ l) (hip : firstInternalIP m.addresses ≠ "")
    (hseen : firstInternalIP m.addresses ∉ seen) :
    ∃ o ∈ targetOwners seen l, firstInternalIP o.addresses = firstInternalIP m.addresses := by
  induction l generalizing seen with
  | nil => cases hm
  | cons x l ih =>
    unfold targetOwners
    split
    · rename_i hskip
      rcases List.mem_cons.1 hm with rfl | hm
      · exact absurd hskip (not_or.2 ⟨hip, hseen⟩)
      · exact ih hm hseen
    · by_cases hsame : firstInternalIP m.addresses = firstInternalIP x.addresses
      · exact ⟨x, List.mem_cons_self, hsame.symm⟩
      · rcases List.mem_cons.1 hm with rfl | hm
        · exact absurd rfl hsame
        · obtain ⟨o, ho, heq⟩ := ih hm (List.not_mem_cons_of_ne_of_not_mem hsame hseen)
          exact ⟨o, List.mem_cons_of_mem _ ho, heq⟩

theorem targetOwner_le (hl : l.Pairwise fun a b => a.metadata.name ≤ b.metadata.name)
    (ho : o ∈ targetOwners seen l) (hm : m ∈ l)
    (hsame : firstInternalIP m.addresses = firstInternalIP o.addresses) :
    o.metadata.name ≤ m.metadata.name := by
  induction l generalizing seen with
  | nil => cases hm
  | cons x l ih =>
    obtain ⟨hx, hl⟩ := List.pairwise_cons.1 hl
    -- were `x` to report the IP of an owner further on, the owner would have found it taken
    unfold targetOwners at ho
    split at ho
    · rename_i hskip
      rcases List.mem_cons.1 hm with rfl | hm
      · obtain ⟨hreports, hfree⟩ := reports_of_mem_targetOwners ho
        rw [hsame] at hskip
        exact absurd hskip (not_or.2 ⟨hreports.1, hfree⟩)
      · exact ih hl ho hm
    · rcases List.mem_cons.1 ho with rfl | ho
      · rcases List.mem_cons.1 hm with rfl | hm
        · exact String.le_refl _
        · exact hx m hm
      · rcases List.mem_cons.1 hm with rfl | hm
        · exact absurd (hsame ▸ List.mem_cons_self) (reports_of_mem_targetOwners ho).2
        · exact ih hl ho hm

/-! ### The targets of a list of machines -/

/-- The target stands for machine `m`, the first by name of those that report its IP. -/
structure TargetOf (sha256Hex : String → String) (machines : List (Option Machine))
    (t : LoadBalancerTargetInput) (m : Machine) : Prop where
  listed : some m ∈ machines
  name : t.name = targetName sha256Hex m.metadata.name
  reports : m.Reports t.ip
  least : ∀ m', some m' ∈ machines → m'.Reports t.ip → m.metadata.name ≤ m'.metadata.name

/-- The targets depend on the set of machines only: the IPs are those the machines report, each once
and under the name of the first machine by name that reports it, in the order of these names. -/
theorem apiServerTargets_canonical (sha256Hex : String → String) (machines : List (Option Machine))
    (hnames : (machines.reduceOption.map (·.metadata.name)).Nodup) :
    ((apiServerTargetsOfPointers sha256Hex machines).map (·.ip)).Nodup ∧
    (∀ ip, ip ∈ (apiServerTargetsOfPointers sha256Hex machines).map (·.ip) ↔
      ∃ m, some m ∈ machines ∧ m.Reports ip) ∧
    (∃ owners : List Machine,
      List.Forall₂ (TargetOf sha256Hex machines)
      (apiServerTargetsOfPointers sha256Hex machines) owners ∧
      owners.Pairwise fun a b => a.metadata.name < b.metadata.name) ∧
    ∀ machines' : List (Option Machine), machines'.Perm machines →
      apiServerTargetsOfPointers sha256Hex machines' = apiServerTargetsOfPointers
      sha256Hex machines := by
  set sorted := machines.reduceOption.insertionSort fun a b => a.metadata.name ≤ b.metadata.name
    with hsorted
  have heq : apiServerTargetsOfPointers sha256Hex machines = (targetOwners [] sorted).map fun m =>
      ⟨targetName sha256Hex m.metadata.name, firstInternalIP m.addresses⟩ :=
        collectTargets_eq_map _ _ _
  have hpairwise : sorted.Pairwise fun a b => a.metadata.name ≤ b.metadata.name :=
    List.pairwise_insertionSort _ _
  have hmem : ∀ m, m ∈ sorted ↔ some m ∈ machines := fun m =>
    ((List.perm_insertionSort _ _).mem_iff).trans List.reduceOption_mem_iff
  have hdistinct : (sorted.map (·.metadata.name)).Nodup :=
    ((List.perm_insertionSort _ _).map _).nodup_iff.2 hnames
  have howner : ∀ o ∈ targetOwners [] sorted, o ∈ sorted := (targetOwners_sublist _ _).subset
  refine ⟨?distinct, ?reported, ⟨targetOwners [] sorted, ?owned, ?ordered⟩, ?invariant⟩
  case distinct =>
    rw [heq, List.map_map]
    exact nodup_targetOwners [] sorted
  case reported =>
    intro ip
    rw [heq, List.map_map, List.mem_map]
    constructor
    · rintro ⟨o, ho, rfl⟩
      exact ⟨o, (hmem o).1 (howner o ho), (reports_of_mem_targetOwners ho).1⟩
    · rintro ⟨m, hm, hreports⟩
      obtain ⟨rfl, hip⟩ := Machine.reports_iff.1 hreports
      exact exists_targetOwner ((hmem m).2 hm) hip List.not_mem_nil
  case owned =>
    rw [heq, List.forall₂_map_left_iff, List.forall₂_same]
    intro o ho
    refine ⟨(hmem o).1 (howner o ho), rfl, (reports_of_mem_targetOwners ho).1,
      fun m hm hreports => ?_⟩
    exact targetOwner_le hpairwise ho ((hmem m).2 hm) (Machine.reports_iff.1 hreports).1
  case ordered =>
    have hlt : sorted.Pairwise fun a b => a.metadata.name < b.metadata.name :=
      hpairwise.imp₂ (fun _ _ => Std.lt_of_le_of_ne) (List.pairwise_map.1 hdistinct)
    exact hlt.sublist (targetOwners_sublist _ _)
  case invariant =>
    intro machines' hperm
    exact (apiServerTargets_congr ((hperm.symm.filterMap id).map targetKey) hnames).symm

/-- Two machines report one IP, another has none, and there is a `nil`. -/
theorem apiServerTargets_canonical_shared :
    let machine := fun name ip => some (ClusterReconciler.controlPlaneMachine name ip false)
    let machines := [machine "cp-2" "10.0.0.5", none, machine "cp-0" "", machine "cp-3" "10.0.0.2",
      machine "cp-1" "10.0.0.5"]
    apiServerTargetsOfPointers Sha256.hex machines = [⟨"cp-1", "10.0.0.5"⟩, ⟨"cp-3", "10.0.0.2"⟩] ∧
      apiServerTargetsOfPointers Sha256.hex machines.reverse = apiServerTargetsOfPointers
      Sha256.hex machines := by
  intro machine machines
  refine ⟨by decide +kernel, ?_⟩
  exact (apiServerTargets_canonical Sha256.hex machines (by decide +kernel)).2.2.2 _
    machines.reverse_perm

/-! ### The bootstrap address -/

section
open Netip ClusterReconciler

/-- An IPv4 prefix of at most 28 bits, by its address and length. -/
def roomyPrefix (s : String) : Option (Nat × Nat) :=
  match parsePrefix s with
  | some (.v4 addr bits) => if bits ≤ 28 then some (addr, bits) else none
  | _ => none

/-- The tenth address after the first is in the prefix if the prefix has at least sixteen
addresses. -/
theorem filter_next_ten {addr bits : Nat} (haddr : addr < 2 ^ 32) :
    (next^[10] (some (firstAddr addr bits))).filter (Netip.contains addr bits) =
      if bits ≤ 28 then some (firstAddr addr bits + 10) else none := by
  have hfirst : firstAddr addr bits < 2 ^ 32 :=
    Nat.lt_of_le_of_lt (Nat.div_mul_le_self _ _) haddr
  have hten : Netip.contains addr bits (firstAddr addr bits + 10) = true ↔ bits ≤ 28 := by
    rw [contains_firstAddr_add haddr]
    constructor
    · intro h
      by_contra hlong
      have hpow : 2 ^ (32 - bits) ≤ 2 ^ 3 := Nat.pow_le_pow_right (by decide) (by omega)
      omega
    · intro h
      have hpow : 2 ^ 4 ≤ 2 ^ (32 - bits) := Nat.pow_le_pow_right (by decide) (by omega)
      omega
  rw [iterate_next hfirst]
  by_cases hroom : bits ≤ 28
  · have hin := hten.2 hroom
    have hlt : firstAddr addr bits + 10 < 2 ^ 32 := by
      rw [Netip.contains, Bool.and_eq_true, decide_eq_true_eq] at hin
      exact hin.1
    rw [if_pos hlt, if_pos hroom, Option.filter_some, if_pos hin]
  · have hout : ¬ Netip.contains addr bits (firstAddr addr bits + 10) = true :=
      fun h => hroom (hten.1 h)
    rw [if_neg hroom]
    split
    · rw [Option.filter_some, if_neg hout]
    · rfl

theorem bootstrapTargetIP_cons (s : String) (rest : List String) :
    bootstrapTargetIP (s :: rest) = match roomyPrefix s with
      | some (addr, bits) => showIPv4 (firstAddr addr bits + 10)
      | none => bootstrapTargetIP rest := by
  conv_lhs => unfold bootstrapTargetIP
  unfold roomyPrefix
  cases hs : parsePrefix s with
  | none => rfl
  | some cidr =>
    cases cidr with
    | v6 bits => rfl
    | v4 addr bits =>
      simp only [filter_next_ten (parsePrefix_lt hs)]
      by_cases hbits : bits ≤ 28
      · simp [hbits]
      · simp [hbits]

theorem roomyPrefix_bounds {s : String} {addr bits : Nat} (h : roomyPrefix s = some (addr, bits)) :
    addr < 2 ^ 32 ∧ firstAddr addr bits + 10 < broadcastAddr addr bits := by
  unfold roomyPrefix at h
  split at h
  · rename_i addr' bits' hs
    split at h
    · rename_i hbits
      cases h
      refine ⟨parsePrefix_lt hs, ?_⟩
      have hpow : 2 ^ 4 ≤ 2 ^ (32 - bits) := Nat.pow_le_pow_right (by decide) (by omega)
      unfold broadcastAddr
      omega
    · cases h
  · cases h

/-- The bootstrap address is the tenth of the first IPv4 prefix of at most 28 bits, neither its
network nor its broadcast address, and no step on the way leaves the address space at one end to
come back at the other. -/
theorem bootstrapTargetIP_in_network (prefixes : List String) :
    (match prefixes.findSome? roomyPrefix with
      | some (addr, bits) =>
        bootstrapTargetIP prefixes = showIPv4 (firstAddr addr bits + 10) ∧
        firstAddr addr bits < firstAddr addr bits + 10 ∧
        firstAddr addr bits + 10 < broadcastAddr addr bits ∧ broadcastAddr addr bits < 2 ^ 32
      | none => bootstrapTargetIP prefixes = "10.0.0.1") ∧
    ∀ a < 2 ^ 32, ∀ n, next^[n] (some a) = none ∨ next^[n] (some a) = some (a + n) ∧
      a + n < 2 ^ 32 := by
  refine ⟨?_, fun a ha n => ?_⟩
  · induction prefixes with
    | nil => rfl
    | cons s rest ih =>
      rw [List.findSome?_cons, bootstrapTargetIP_cons]
      cases hs : roomyPrefix s with
      | none => exact ih
      | some p =>
        obtain ⟨addr, bits⟩ := p
        obtain ⟨haddr, hlt⟩ := roomyPrefix_bounds hs
        exact ⟨rfl, by omega, hlt, broadcastAddr_lt haddr⟩
  · rw [iterate_next ha]
    by_cases hn : a + n < 2 ^ 32
    · rw [if_pos hn]
      exact .inr ⟨rfl, hn⟩
    · rw [if_neg hn]
      exact .inl rfl

example : bootstrapTargetIP ["10.0.0.0/29", "fd00::/64", "192.168.7.99/28"] = "192.168.7.106" := by
    decide +kernel
example : bootstrapTargetIP ["255.255.255.255/28"] = "255.255.255.250" := by decide +kernel
example : bootstrapTargetIP ["255.255.255.255/32"] = "10.0.0.1" := by decide +kernel

end

end Capstk
