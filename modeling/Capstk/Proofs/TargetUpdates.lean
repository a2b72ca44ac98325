import Mathlib.Data.List.Perm.Basic
import Capstk.Proofs.TargetPools

/-!
# The target pool converges

Every cluster pass with a machine that has an address ends in `SetAPIServerLoadBalancerTargets`. The
call compares multisets, so it writes the pool if and only if it has to, and what it has written it
finds again.
-/

namespace Capstk

open Prog SDKClient

variable {id : String} {port : Int} {targets targets' : List LoadBalancerTargetInput} {c : Cloud}
  {s t : Session}

/-- The first pool `apiserver` of the load balancer has this port and these targets, in some
order. -/
def PoolHas (id : String) (port : Int) (targets : List LoadBalancerTargetInput) (c : Cloud) :
    Prop :=
  ∃ l pool, c.loadBalancers.find? (·.name == id) = some l ∧
    l.targetPools.find? (·.name == "apiserver") = some pool ∧
    pool.targetPort = port ∧
    (pool.targets.map fun t => (t.displayName, t.ip)).Perm (targets.map fun t => (t.name, t.ip))

def Request.isPoolUpdate : Request → Bool
  | .updateTargetPool _ _ => true
  | _ => false

/-- Between the sessions `s` and `t` an update of a target pool was requested. -/
def UpdateIssued (s t : Session) : Prop :=
  ∃ entries, t.log = s.log ++ entries ∧ ∃ e ∈ entries, e.request.isPoolUpdate = true

theorem updateIssued_iff {entries : List LogEntry} (h : t.log = s.log ++ entries) :
    UpdateIssued s t ↔ ∃ e ∈ entries, e.request.isPoolUpdate = true := by
  constructor
  · rintro ⟨entries', h', hupdate⟩
    rw [List.append_cancel_left (h.symm.trans h')]
    exact hupdate
  · intro hupdate
    exact ⟨entries, h, hupdate⟩

theorem poolHas_iff {l : SDKLoadBalancer} {pool : SDKTargetPool}
    (hl : c.loadBalancers.find? (·.name == id) = some l)
    (hpool : apiServerTargetPool l = some pool) :
    PoolHas id port targets c ↔ pool.targetPort = port ∧
    pool.targets.Perm (targets.map sdkTarget) := by
  have hinj : Function.Injective fun t : SDKTarget => (t.displayName, t.ip) := by
    rintro ⟨name, ip⟩ ⟨name', ip'⟩ h
    cases h
    rfl
  have hpairs : (targets.map fun t => (t.name, t.ip)) =
      (targets.map sdkTarget).map fun t => (t.displayName, t.ip) := by
    rw [List.map_map]
    rfl
  unfold PoolHas
  rw [hpairs]
  constructor
  · rintro ⟨l', pool', hl', hpool', hport, hperm⟩
    obtain rfl : l = l' := Option.some.inj (hl.symm.trans hl')
    obtain rfl : pool = pool' := Option.some.inj (hpool.symm.trans hpool')
    exact ⟨hport, (List.map_perm_map_iff hinj).1 hperm⟩
  · rintro ⟨hport, hperm⟩
    exact ⟨l, pool, hl, hpool, hport, hperm.map _⟩

theorem PoolHas.perm (h : PoolHas id port targets c) (hperm : targets'.Perm targets) :
    PoolHas id port targets' c := by
  obtain ⟨l, pool, hl, hpool, hport, hsame⟩ := h
  exact ⟨l, pool, hl, hpool, hport, hsame.trans (hperm.symm.map _)⟩

namespace SDKClient.TargetsSet

theorem updateIssued {r : Except GoError Unit} (h : TargetsSet id port targets s r t)
    (hissued : UpdateIssued s t) :
    ¬ PoolHas id port targets s.cloud := by
  cases h with
  | refused e t _ hlog =>
    rcases hlog with hlog | ⟨e', hlog⟩
    · rw [updateIssued_iff (hlog.trans (List.append_nil _).symm)] at hissued
      simp at hissued
    · rw [updateIssued_iff hlog] at hissued
      simp [Request.isPoolUpdate] at hissued
  | kept _ l pool t _ _ _ _ _ hlog =>
    rw [updateIssued_iff hlog] at hissued
    simp [Request.isPoolUpdate] at hissued
  | updated _ l pool r t hl hpool hdiffers _ _ =>
    rw [poolHas_iff hl hpool]
    exact hdiffers

theorem updateIssued_of_ok (h : TargetsSet id port targets s (.ok ()) t)
    (hmissing : ¬ PoolHas id port targets s.cloud) :
    UpdateIssued s t := by
  cases h with
  | kept _ l pool t hl hpool hport hperm _ _ =>
    exact absurd ((poolHas_iff hl hpool).2 ⟨hport, hperm⟩) hmissing
  | updated _ l pool r t _ _ _ _ hlog =>
    rw [updateIssued_iff hlog]
    simp [Request.isPoolUpdate]

theorem poolHas (h : TargetsSet id port targets s (.ok ()) t) :
    PoolHas id port targets t.cloud := by
  cases h with
  | kept _ l pool t hl hpool hport hperm hc _ => exact hc ▸ (poolHas_iff hl hpool).2 ⟨hport, hperm⟩
  | updated _ l pool r t _ _ _ hsettled _ =>
    obtain ⟨l', hl', hpool'⟩ := pool_of_updated rfl hsettled.ok
    exact (poolHas_iff hl' hpool').2 ⟨rfl, .refl _⟩

end SDKClient.TargetsSet

/-- A call that returns without an error leaves the pool as desired, has written it if and only if
it was not, and does not write it a second time, whatever the order of the targets and the fate of
the requests then. -/
theorem target_pool_converges (id : String) (port : Int) (targets : List LoadBalancerTargetInput)
    (s t : Session) (hrun : setAPIServerLoadBalancerTargets id port targets s = (.ok (), t)) :
    PoolHas id port targets t.cloud ∧
    (UpdateIssued s t ↔ ¬ PoolHas id port targets s.cloud) ∧
    ∀ targets' : List LoadBalancerTargetInput, targets'.Perm targets → ∀ u :
    Session, u.cloud = t.cloud →
      ¬ UpdateIssued u (setAPIServerLoadBalancerTargets id port targets' u).2 := by
  have hset : TargetsSet id port targets s (.ok ()) t := by
    have h := setAPIServerLoadBalancerTargets_cases id port targets s
    rw [wp, hrun] at h
    exact h
  refine ⟨hset.poolHas, ⟨hset.updateIssued, hset.updateIssued_of_ok⟩, ?_⟩
  intro targets' hperm u hu hissued
  have hagain := setAPIServerLoadBalancerTargets_cases id port targets' u
  exact TargetsSet.updateIssued hagain hissued (hu ▸ hset.poolHas.perm hperm)

/-- A load balancer whose pool still holds the placeholder and a target without a name. -/
def placeholderSession : Session :=
  let pools : List SDKTargetPool := [⟨"other", 80, []⟩,
    ⟨"apiserver", 6443, [⟨"capi-bootstrap-placeholder", "10.0.0.10"⟩, ⟨"", "10.0.0.2"⟩]⟩,
    ⟨"apiserver", 1, []⟩]
  { cloud :=
      { ids := .unary
        loadBalancers := [{ name := "lb", labels := ∅, serial := 0, targetPools := pools }] } }

/-- The placeholder is replaced, and the same targets in another order are no reason to write
again. -/
theorem target_pool_converges_placeholder :
    let targets : List LoadBalancerTargetInput := [⟨"cp-0", "10.0.0.2"⟩, ⟨"cp-1", "10.0.0.3"⟩]
    let t := (setAPIServerLoadBalancerTargets "lb" 6443 targets placeholderSession).2
    UpdateIssued placeholderSession t ∧ PoolHas "lb" 6443 targets t.cloud ∧
      ¬ UpdateIssued t (setAPIServerLoadBalancerTargets "lb" 6443 targets.reverse t).2 := by
  intro targets t
  have hrun : setAPIServerLoadBalancerTargets "lb" 6443 targets placeholderSession = (.ok (), t) :=
    rfl
  obtain ⟨hpool, hissued, hagain⟩ :=
    target_pool_converges "lb" 6443 targets placeholderSession t hrun
  refine ⟨hissued.2 ?_, hpool, hagain targets.reverse targets.reverse_perm t rfl⟩
  rw [poolHas_iff rfl rfl]
  decide

end Capstk
