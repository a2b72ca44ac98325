import Capstk.Proofs.ClusterRun
import Capstk.Proofs.Freshness

/-!
# The target pool of the API server load balancer

A pool is written twice: with the seed when its load balancer is created, and by
`SetAPIServerLoadBalancerTargets`. `PoolStep new seed` says of one pool at a time what may have
become of it: it is as before, or has a content in `new`; or its load balancer is new, with a
content in `seed`. Load balancers are told apart by their serial, since a name can come back.
-/

namespace Capstk

open Prog SDKClient

variable {c c' c'' : Cloud} {l l' : SDKLoadBalancer} {ts : List SDKTarget}
  {new new' seed seed' : List SDKTarget → Prop}

/-- Serials are never used twice. -/
structure Serials (c : Cloud) : Prop where
  nodup : (c.loadBalancers.map SDKLoadBalancer.serial).Nodup
  issued : ∀ l ∈ c.loadBalancers, l.serial < c.issued

theorem Serials.eq (h : Serials c) (hl : l ∈ c.loadBalancers) (hl' : l' ∈ c.loadBalancers)
    (heq : l.serial = l'.serial) :
    l = l' := List.inj_on_of_nodup_map h.nodup hl hl' heq

structure PoolStep (new seed : List SDKTarget → Prop) (c c' : Cloud) : Prop where
  issued : c.issued ≤ c'.issued
  serials : Serials c → Serials c'
  pools : ∀ l' ∈ c'.loadBalancers,
    (∃ l ∈ c.loadBalancers, l.serial = l'.serial ∧ (apiServerTargetPool l' = apiServerTargetPool l ∨
      ∃ pool, apiServerTargetPool l' = some pool ∧ new pool.targets)) ∨
    c.issued ≤ l'.serial ∧ ∀ pool, apiServerTargetPool l' = some pool → seed pool.targets

namespace PoolStep

theorem of_same (hl : c'.loadBalancers = c.loadBalancers) (hi : c.issued ≤ c'.issued) :
    PoolStep new seed c c' where
  issued := hi
  serials h := ⟨hl ▸ h.nodup, fun l hl' => (h.issued l (hl ▸ hl')).trans_le hi⟩
  pools l' hl' := .inl ⟨l', hl ▸ hl', rfl, .inl rfl⟩

theorem refl (c : Cloud) : PoolStep new seed c c := of_same rfl (Nat.le_refl _)

theorem mono (h : PoolStep new seed c c') (hnew : ∀ x, new x → new' x)
    (hseed : ∀ x, seed x → seed' x) :
    PoolStep new' seed' c c' where
  issued := h.issued
  serials := h.serials
  pools l' hl' := by
    rcases h.pools l' hl' with ⟨l, hl, hs, hpool⟩ | ⟨hs, hpool⟩
    · exact .inl ⟨l, hl, hs, hpool.imp id fun ⟨pool, hp, hn⟩ => ⟨pool, hp, hnew _ hn⟩⟩
    · exact .inr ⟨hs, fun pool hp => hseed _ (hpool pool hp)⟩

theorem trans (hsub : ∀ x, new x → seed x) (h : PoolStep new seed c c')
    (h' : PoolStep new seed c' c'') :
    PoolStep new seed c c'' where
  issued := h.issued.trans h'.issued
  serials hs := h'.serials (h.serials hs)
  pools l'' hl'' := by
    rcases h'.pools l'' hl'' with ⟨l', hl', hs', hpool'⟩ | ⟨hs', hpool'⟩
    · rcases h.pools l' hl' with ⟨l, hl, hs, hpool⟩ | ⟨hs, hpool⟩
      · refine .inl ⟨l, hl, hs.trans hs', ?_⟩
        rcases hpool' with heq | hnew
        · rw [heq]; exact hpool
        · exact .inr hnew
      · refine .inr ⟨hs' ▸ hs, fun pool hp => ?_⟩
        rcases hpool' with heq | ⟨pool', hp', hnew⟩
        · exact hpool pool (heq ▸ hp)
        · rw [hp', Option.some.injEq] at hp
          exact hsub _ (hp ▸ hnew)
    · exact .inr ⟨h.issued.trans hs', hpool'⟩

theorem createLoadBalancer (p : CreateLoadBalancerPayload)
    (hseed : ∀ pool, p.targetPools.find? (·.name == apiserverTargetPoolName) = some pool →
      seed pool.targets) (c : Cloud) :
    PoolStep new seed c (Cloud.createLoadBalancer p c).2 := by
  unfold Cloud.createLoadBalancer
  split
  · exact refl c
  · refine ⟨Nat.le_succ _, fun h => ⟨?_, fun l hl => ?_⟩, fun l' hl' => ?_⟩
    · rw [List.map_append, List.nodup_append]
      refine ⟨h.nodup, by simp, fun a ha b hb => ?_⟩
      obtain ⟨l, hl, rfl⟩ := List.mem_map.1 ha
      obtain rfl : b = c.issued := by simpa using hb
      exact (h.issued l hl).ne
    · rcases List.mem_append.1 hl with hl | hl
      · exact (h.issued l hl).trans (Nat.lt_succ_self _)
      · rw [List.mem_singleton.1 hl]
        exact Nat.lt_succ_self _
    · rcases List.mem_append.1 hl' with hl' | hl'
      · exact .inl ⟨l', hl', rfl, .inl rfl⟩
      · rw [List.mem_singleton.1 hl']
        exact .inr ⟨Nat.le_refl _, hseed⟩

theorem deleteLoadBalancer (name : String) (c : Cloud) :
    PoolStep new seed c (Cloud.deleteLoadBalancer name c).2 := by
  unfold Cloud.deleteLoadBalancer
  split
  · refine ⟨Nat.le_refl _, fun h => ⟨?_, fun l hl => ?_⟩, fun l hl => ?_⟩
    · exact h.nodup.sublist (List.filter_sublist.map _)
    · exact h.issued l (List.mem_filter.1 hl).1
    · exact .inl ⟨l, (List.mem_filter.1 hl).1, rfl, .inl rfl⟩
  · exact refl c

end PoolStep

/-! ### Writing a pool -/

/-- A load balancer after the pool was replaced. -/
def withPool (name : String) (pool : SDKTargetPool) (l : SDKLoadBalancer) : SDKLoadBalancer :=
  if l.name == name then { l with targetPools := Cloud.replacePool pool l.targetPools } else l

@[simp] theorem withPool_serial (name : String) (pool : SDKTargetPool) :
    (withPool name pool l).serial = l.serial := by
  unfold withPool; split <;> rfl

@[simp] theorem withPool_name (name : String) (pool : SDKTargetPool) :
    (withPool name pool l).name = l.name := by
  unfold withPool; split <;> rfl

theorem find_replacePool {pool : SDKTargetPool} (hname : pool.name = apiserverTargetPoolName)
    (pools : List SDKTargetPool) :
    (Cloud.replacePool pool pools).find? (·.name == apiserverTargetPoolName) =
      if pools.any (·.name == apiserverTargetPoolName) then some pool else none := by
  induction pools with
  | nil => rfl
  | cons p ps ih =>
    unfold Cloud.replacePool
    by_cases hp : p.name = apiserverTargetPoolName
    · simp [hp, hname]
    · simp [hp, hname, ih]

/-- The pool is the new one, or as before: of another load balancer, or there is none to replace. -/
theorem apiServerTargetPool_withPool {name : String} {pool : SDKTargetPool}
    (hname : pool.name = apiserverTargetPoolName) :
    apiServerTargetPool (withPool name pool l) = apiServerTargetPool l ∨
      apiServerTargetPool (withPool name pool l) = some pool := by
  unfold withPool
  split
  · show (Cloud.replacePool pool l.targetPools).find? (·.name == apiserverTargetPoolName) = _ ∨ _
    rw [find_replacePool hname]
    split
    · exact .inr (by rw [apiServerTargetPool, find_replacePool hname, if_pos ‹_›])
    · rename_i hnone
      left
      rw [apiServerTargetPool, eq_comm, List.find?_eq_none]
      exact fun p hp h => hnone (List.any_eq_true.2 ⟨p, hp, h⟩)
  · exact .inl rfl

theorem apiServerTargetPool_withPool_of_some {pool old : SDKTargetPool}
    (hname : pool.name = apiserverTargetPoolName) (hold : apiServerTargetPool l = some old) :
    apiServerTargetPool (withPool l.name pool l) = some pool := by
  unfold withPool
  rw [if_pos (by simp)]
  show (Cloud.replacePool pool l.targetPools).find? (·.name == apiserverTargetPoolName) = some pool
  rw [find_replacePool hname, if_pos]
  exact List.any_eq_true.2 ⟨old, List.mem_of_find?_eq_some hold,
    by simpa using List.find?_some hold⟩

theorem updateTargetPool_cases (name : String) (pool : SDKTargetPool) (c : Cloud) :
    (Cloud.updateTargetPool name pool c).2 = c ∨
      (Cloud.updateTargetPool name pool c).2 = { c with
        loadBalancers := c.loadBalancers.map (withPool name pool) } := by
  unfold Cloud.updateTargetPool
  split
  · split
    · exact .inr rfl
    · exact .inl rfl
  · exact .inl rfl

theorem PoolStep.updateTargetPool {pool : SDKTargetPool}
    (hname : pool.name = apiserverTargetPoolName) (hnew : new pool.targets) (name : String)
    (c : Cloud) : PoolStep new seed c (Cloud.updateTargetPool name pool c).2 := by
  rcases updateTargetPool_cases name pool c with heq | heq
  · rw [heq]; exact refl c
  · rw [heq]
    refine ⟨Nat.le_refl _, fun h => ⟨?_, fun l hl => ?_⟩, fun l' hl' => ?_⟩
    · have hserials : (c.loadBalancers.map (withPool name pool)).map SDKLoadBalancer.serial =
          c.loadBalancers.map SDKLoadBalancer.serial := by simp [Function.comp_def]
      exact hserials ▸ h.nodup
    · obtain ⟨l₀, hl₀, rfl⟩ := List.mem_map.1 hl
      rw [withPool_serial]
      exact h.issued l₀ hl₀
    · obtain ⟨l₀, hl₀, rfl⟩ := List.mem_map.1 hl'
      refine .inl ⟨l₀, hl₀, by simp, ?_⟩
      exact (apiServerTargetPool_withPool hname).imp id fun h => ⟨pool, h, hnew⟩

/-! ### One call -/

/-- The load balancer `id` has a pool with the targets `ts`, in some order. -/
def Held (id : String) (ts : List SDKTarget) (c : Cloud) : Prop :=
  ∃ l pool, c.loadBalancers.find? (·.name == id) = some l ∧ apiServerTargetPool l = some pool ∧
    pool.targets.Perm ts

theorem find_withPool {id name : String} {pool : SDKTargetPool} (ls : List SDKLoadBalancer) :
    (ls.map (withPool name pool)).find? (·.name == id) = (ls.find? (·.name == id)).map
      (withPool name pool) := by
  rw [List.find?_map]
  congr 2
  funext l
  rw [Function.comp_apply, withPool_name]

theorem held_updateTargetPool {id name : String} {pool : SDKTargetPool}
    (hname : pool.name = apiserverTargetPoolName) (hts : pool.targets = ts) (h : Held id ts c) :
    Held id ts (Cloud.updateTargetPool name pool c).2 := by
  rcases updateTargetPool_cases name pool c with heq | heq
  · rw [heq]; exact h
  · obtain ⟨l, old, hl, hold, hperm⟩ := h
    rw [heq]
    show Held id ts { c with loadBalancers := c.loadBalancers.map (withPool name pool) }
    have hpool : apiServerTargetPool (withPool name pool l) = apiServerTargetPool l ∨
        apiServerTargetPool (withPool name pool l) = some pool := apiServerTargetPool_withPool hname
    rcases hpool with hsame | hnew
    · exact ⟨_, old, by rw [find_withPool, hl]; rfl, hsame.trans hold, hperm⟩
    · exact ⟨_, pool, by rw [find_withPool, hl]; rfl, hnew, .of_eq hts⟩

theorem of_updateTargetPool_ok {name : String} {pool : SDKTargetPool}
    (h : Cloud.updateTargetPool name pool c = (.ok (), c')) :
    ∃ l old, c.loadBalancers.find? (·.name == name) = some l ∧
    l.targetPools.find? (·.name == pool.name) = some old ∧
      c' = { c with loadBalancers := c.loadBalancers.map (withPool name pool) } := by
  unfold Cloud.updateTargetPool at h
  split at h
  · rename_i l hl
    split at h
    · rename_i hany
      obtain ⟨old, hold⟩ :=
        Option.isSome_iff_exists.1 (List.find?_isSome.2 (List.any_eq_true.1 hany))
      exact ⟨l, old, hl, hold, (Prod.ext_iff.1 h).2.symm⟩
    · cases h
  · cases h

theorem pool_of_updated {name : String} {pool : SDKTargetPool}
    (hname : pool.name = apiserverTargetPoolName)
    (h : Cloud.updateTargetPool name pool c = (.ok (), c')) :
    ∃ l', c'.loadBalancers.find? (·.name == name) = some l' ∧
    apiServerTargetPool l' = some pool := by
  obtain ⟨l, old, hl, hold, rfl⟩ := of_updateTargetPool_ok h
  obtain rfl : l.name = name := by simpa using List.find?_some hl
  refine ⟨withPool l.name pool l, (find_withPool c.loadBalancers).trans (by rw [hl]; rfl), ?_⟩
  exact apiServerTargetPool_withPool_of_some hname (hname ▸ hold)

theorem held_createLoadBalancer {id : String} (p : CreateLoadBalancerPayload) (h : Held id ts c) :
    Held id ts (Cloud.createLoadBalancer p c).2 := by
  unfold Cloud.createLoadBalancer
  split
  · exact h
  · obtain ⟨l, pool, hl, hpool⟩ := h
    exact ⟨l, pool, by simp [List.find?_append, hl], hpool⟩

/-! ### The comparison of two target lists -/

theorem targetLE_total (a b : SDKTarget) : targetLE a b ∨ targetLE b a := by
  unfold targetLE
  rcases Std.lt_trichotomy a.displayName b.displayName with h | h | h
  · exact .inl (.inl h)
  · rcases String.le_total a.ip b.ip with hip | hip
    · exact .inl (.inr ⟨h, hip⟩)
    · exact .inr (.inr ⟨h.symm, hip⟩)
  · exact .inr (.inl h)

theorem targetLE_trans {a b c : SDKTarget} (hab : targetLE a b) (hbc : targetLE b c) :
    targetLE a c := by
  rcases hab with hab | ⟨hab, hip⟩
  · rcases hbc with hbc | ⟨hbc, -⟩
    · exact .inl (String.lt_trans hab hbc)
    · exact .inl (hbc ▸ hab)
  · rcases hbc with hbc | ⟨hbc, hip'⟩
    · exact .inl (hab ▸ hbc)
    · exact .inr ⟨hab.trans hbc, String.le_trans hip hip'⟩

theorem targetLE_antisymm {a b : SDKTarget} (hab : targetLE a b) (hba : targetLE b a) : a = b := by
  rcases hab with hab | ⟨hname, hip⟩
  · rcases hba with hba | ⟨hname, -⟩
    · exact absurd hba (String.lt_asymm hab)
    · exact absurd hab (hname ▸ String.lt_irrefl _)
  · rcases hba with hba | ⟨-, hip'⟩
    · exact absurd hba (hname ▸ String.lt_irrefl _)
    · have := String.le_antisymm hip hip'
      cases a
      cases b
      simp_all

/-- Lists are the same for the client if one is the other in some order. -/
theorem sameTargets_iff {current desired : List SDKTarget} :
    sameTargets current desired = true ↔ current.Perm desired := by
  have : Std.Total targetLE := ⟨targetLE_total⟩
  have : IsTrans SDKTarget targetLE := ⟨fun _ _ _ => targetLE_trans⟩
  simp only [sameTargets, sortedTargetKeys, Bool.and_eq_true, beq_iff_eq]
  constructor
  · rintro ⟨-, h⟩
    exact (List.perm_insertionSort targetLE current).symm.trans
      (h ▸ List.perm_insertionSort targetLE desired)
  · intro h
    refine ⟨h.length_eq, ?_⟩
    refine List.Perm.eq_of_pairwise (fun _ _ _ _ => targetLE_antisymm)
      (List.pairwise_insertionSort targetLE current)
      (List.pairwise_insertionSort targetLE desired) ?_
    exact (List.perm_insertionSort _ _).trans (h.trans (List.perm_insertionSort _ _).symm)

/-! ### Contents of a pool -/

/-- A pool with nothing but the placeholder. -/
def Lone (x : List SDKTarget) : Prop := ∃ ip, x = [⟨bootstrapTargetName, ip⟩]

/-- A content that needs no explanation by a pass: the placeholder alone, or targets without it. -/
def Clean (x : List SDKTarget) : Prop :=
  Lone x ∨ x ≠ [] ∧ ∀ t ∈ x, t.displayName ≠ bootstrapTargetName

/-- One of the target lists of some passes, and not an empty one. -/
def Written (tss : List (List SDKTarget)) (x : List SDKTarget) : Prop := x ≠ [] ∧ x ∈ tss

/-- What a pool of a new load balancer may hold. -/
def Seeded (tss : List (List SDKTarget)) (x : List SDKTarget) : Prop := Written tss x ∨ Clean x

theorem Written.mono {tss tss' : List (List SDKTarget)} {x : List SDKTarget} (h : Written tss x)
    (hsub : tss ⊆ tss') :
    Written tss' x := ⟨h.1, hsub h.2⟩

theorem Seeded.mono {tss tss' : List (List SDKTarget)} {x : List SDKTarget} (h : Seeded tss x)
    (hsub : tss ⊆ tss') :
    Seeded tss' x := h.imp_left fun h => h.mono hsub

theorem Seeded.ne_nil {tss : List (List SDKTarget)} {x : List SDKTarget} (h : Seeded tss x) :
    x ≠ [] := by
  rcases h with h | ⟨ip, rfl⟩ | h
  · exact h.1
  · exact List.cons_ne_nil _ _
  · exact h.1

/-- What a part of a pass with the targets `ts` does to the load balancers. -/
structure PoolKept (ts : List SDKTarget) (c c' : Cloud) : Prop where
  step : PoolStep (Written [ts]) (Seeded [ts]) c c'
  present : ∀ l ∈ c.loadBalancers, ∃ l' ∈ c'.loadBalancers, l'.serial = l.serial
  held : ∀ id, Held id ts c → Held id ts c'

namespace PoolKept

theorem of_same (hl : c'.loadBalancers = c.loadBalancers) (hi : c.issued ≤ c'.issued) :
    PoolKept ts c c' where
  step := .of_same hl hi
  present l h := ⟨l, hl ▸ h, rfl⟩
  held id h := by unfold Held; rw [hl]; exact h

theorem refl (c : Cloud) : PoolKept ts c c := of_same rfl (Nat.le_refl _)

theorem trans (h : PoolKept ts c c') (h' : PoolKept ts c' c'') : PoolKept ts c c'' where
  step := h.step.trans (fun _ => .inl) h'.step
  present l hl := by
    obtain ⟨l', hl', hs'⟩ := h.present l hl
    obtain ⟨l'', hl'', hs''⟩ := h'.present l' hl'
    exact ⟨l'', hl'', hs''.trans hs'⟩
  held id hid := h'.held id (h.held id hid)

theorem closed (ts : List SDKTarget) : Closed fun s t : Session => PoolKept ts s.cloud t.cloud :=
  ⟨fun s => refl s.cloud, trans⟩

theorem createLoadBalancer (p : CreateLoadBalancerPayload)
    (hseed : ∀ pool, p.targetPools.find? (·.name == apiserverTargetPoolName) = some pool →
      Seeded [ts] pool.targets)
    (c : Cloud) : PoolKept ts c (Cloud.createLoadBalancer p c).2 := by
  refine ⟨.createLoadBalancer p hseed c, fun l hl => ?_, fun _ => held_createLoadBalancer p⟩
  unfold Cloud.createLoadBalancer
  split
  · exact ⟨l, hl, rfl⟩
  · exact ⟨l, List.mem_append_left _ hl, rfl⟩

theorem updateTargetPool {pool : SDKTargetPool} (hname : pool.name = apiserverTargetPoolName)
    (hne : ts ≠ []) (hts : pool.targets = ts) (name : String) (c : Cloud) :
    PoolKept ts c (Cloud.updateTargetPool name pool c).2 := by
  refine ⟨.updateTargetPool hname (by rw [hts]; exact ⟨hne, List.mem_singleton.2 rfl⟩) name c,
    fun l hl => ?_,
    fun _ => held_updateTargetPool hname hts⟩
  rcases updateTargetPool_cases name pool c with heq | heq
  · rw [heq]; exact ⟨l, hl, rfl⟩
  · rw [heq]
    exact ⟨withPool name pool l, List.mem_map_of_mem hl, withPool_serial name pool⟩

end PoolKept

namespace SDKClient

theorem poolKept_sameCloud {α : Type} {x : Call Session α}
    (h : Keeps (fun s t : Session => t.cloud = s.cloud) x) :
    Keeps (fun s t : Session => PoolKept ts s.cloud t.cloud) x := h.imp fun s t hst => by
  rw [hst]
  exact .refl _

theorem poolKept_read {α : Type} {op : String} {req : Request} {effect : Cloud.Effect α}
    (h : ReadOnly effect) :
    Keeps (fun s t : Session => PoolKept ts s.cloud t.cloud) (request op req effect) :=
  keeps_request .refl fun c => by rw [h c]; exact .refl c

theorem find_of_getLoadBalancer {id : String} (h : Cloud.getLoadBalancer id c = (.ok l, c')) :
    c.loadBalancers.find? (·.name == id) = some l := by
  unfold Cloud.getLoadBalancer at h
  split at h
  · rename_i found hfound
    cases h
    exact hfound
  · cases h

theorem poolKept_ensureAPIServerLoadBalancer {input : LoadBalancerInput}
    (hseed : Seeded [ts] (initialTargets input.targets)) :
    Keeps (fun s t : Session => PoolKept ts s.cloud t.cloud)
      (ensureAPIServerLoadBalancer input) := by
  have hR := PoolKept.closed ts
  refine keeps_existingOr hR
    (poolKept_sameCloud fun s => (wp_findLoadBalancerByTags input.tags s).1) ?_
  refine .bind hR (poolKept_sameCloud (sameCloud_newLoadBalancerLabels input.tags)) fun labels => ?_
  refine .bind hR (keeps_request .refl (.createLoadBalancer _ fun pool hpool => ?_)) fun _ =>
    .pure hR _
  obtain rfl : ⟨apiserverTargetPoolName, input.port, initialTargets input.targets⟩ = pool := by
    simpa [createLoadBalancerPayload] using hpool
  exact hseed

/-- The pool a call asks for. -/
def desiredPool (port : Int) (targets : List LoadBalancerTargetInput) : SDKTargetPool :=
  ⟨apiserverTargetPoolName, port, targets.map sdkTarget⟩

/-- The arguments pass the checks at the start of a call. -/
structure TargetsValid (id : String) (port : Int) (targets : List LoadBalancerTargetInput) :
    Prop where
  input : ¬ (id = "" ∨ port ≤ 0)
  nonempty : ¬ targets.isEmpty = true
  named : ¬ (targets.any fun t => t.name == "" || t.ip == "") = true

/-- How a call of `SetAPIServerLoadBalancerTargets` in the session `s` can end: it gives up before
it writes, it finds the pool as it should be, or it issues an update. -/
inductive TargetsSet (id : String) (port : Int) (targets : List LoadBalancerTargetInput)
    (s : Session) :
    Except GoError Unit → Session → Prop
  | refused (e : GoError) (t : Session) (cloud : t.cloud = s.cloud)
    (log : t.log = s.log ∨ ∃ e', t.log = s.log ++ [⟨.getLoadBalancer id, e'⟩]) :
    TargetsSet id port targets s (.error e) t
  | kept (valid : TargetsValid id port targets) (l : SDKLoadBalancer) (pool : SDKTargetPool)
      (t : Session)
    (found : s.cloud.loadBalancers.find? (·.name == id) = some l)
    (current : apiServerTargetPool l = some pool) (port_eq : pool.targetPort = port)
    (same : pool.targets.Perm (targets.map sdkTarget)) (cloud : t.cloud = s.cloud)
    (log : t.log = s.log ++ [⟨.getLoadBalancer id, none⟩]) : TargetsSet id port targets s (.ok ()) t
  | updated (valid : TargetsValid id port targets) (l : SDKLoadBalancer) (pool : SDKTargetPool)
    (r : Except GoError Unit) (t : Session)
    (found : s.cloud.loadBalancers.find? (·.name == id) = some l)
    (current : apiServerTargetPool l = some pool)
    (differs : ¬ (pool.targetPort = port ∧ pool.targets.Perm (targets.map sdkTarget)))
    (cloud : Settled "update load balancer target pool"
      (Cloud.updateTargetPool id (desiredPool port targets)) s.cloud r t.cloud)
    (log : t.log = s.log ++
      [⟨.getLoadBalancer id, none⟩, ⟨.updateTargetPool id (desiredPool port targets), errorOf r⟩]) :
    TargetsSet id port targets s r t

theorem setAPIServerLoadBalancerTargets_cases (id : String) (port : Int)
    (targets : List LoadBalancerTargetInput) (s : Session) :
    wp (setAPIServerLoadBalancerTargets id port targets) (TargetsSet id port targets s) s := by
  have hgiven : ∀ e : GoError, wp (fail e) (TargetsSet id port targets s) s :=
    fun e => .refused e s rfl (.inl rfl)
  refine wp_ite (fun _ => hgiven _) fun hinput => wp_ite (fun _ => hgiven _) fun hne =>
    wp_ite (fun _ => hgiven _) fun hnamed => ?_
  have hvalid : TargetsValid id port targets := ⟨hinput, hne, hnamed⟩
  rw [wp_bind]
  refine wp_request fun r c t hr ht => ?_
  have hc : t.cloud = s.cloud := ht.cloud.trans (hr.cloud_eq (readOnly_getLoadBalancer id))
  cases r with
  | error e => exact .refused e t hc (.inr ⟨some e, ht.log⟩)
  | ok l =>
    have hl := find_of_getLoadBalancer hr.ok
    rw [next_ok]
    split
    · exact .refused _ t hc (.inr ⟨none, ht.log⟩)
    · rename_i pool hpool
      have hsame : (pool.targetPort == port && sameTargets pool.targets (targets.map sdkTarget)) =
          true ↔
            pool.targetPort = port ∧ pool.targets.Perm (targets.map sdkTarget) := by
        rw [Bool.and_eq_true, beq_iff_eq, sameTargets_iff]
      refine wp_ite (fun h => .kept hvalid l pool t hl hpool (hsame.1 h).1 (hsame.1 h).2 hc ht.log)
        fun hdiffers => ?_
      rw [hsame] at hdiffers
      have hport : (if 0 < port then port
          else if 0 < pool.targetPort then pool.targetPort else 0) = port :=
        if_pos (by have := (not_or.1 hinput).2; omega)
      rw [updateAPIServerTargetPool, hport]
      refine wp_request fun r' c' u hr' hu => ?_
      refine .updated hvalid l pool r' u hl hpool hdiffers (hu.cloud ▸ hc ▸ hr') ?_
      rw [hu.log, ht.log, List.append_assoc]
      rfl

/-- A call that succeeds leaves the load balancer with the targets it was given. -/
theorem wp_setAPIServerLoadBalancerTargets {targets : List LoadBalancerTargetInput}
    (hts : targets.map sdkTarget = ts) (id : String) (port : Int) (s : Session) :
    wp (setAPIServerLoadBalancerTargets id port targets)
      (Via (fun s t : Session => PoolKept ts s.cloud t.cloud) s fun _ t => Held id ts t.cloud) s :=
  by
  refine (setAPIServerLoadBalancerTargets_cases id port targets s).imp fun r t h => ?_
  cases h with
  | refused e t hc _ =>
    have hst : PoolKept ts s.cloud t.cloud := hc ▸ .refl _
    exact .error hst
  | kept _ l pool t hl hpool _ hperm hc _ =>
    have hst : PoolKept ts s.cloud t.cloud := hc ▸ .refl _
    exact .ok hst ⟨l, pool, hc ▸ hl, hpool, hts ▸ hperm⟩
  | updated hvalid l pool r t _ _ _ hsettled _ =>
    refine ⟨?_, fun a ha => ?_⟩
    · show PoolKept ts s.cloud t.cloud
      rcases hsettled.cloud_cases with heq | heq
      · rw [heq]
        exact .refl _
      · rw [heq]
        exact .updateTargetPool rfl (by rw [← hts]; simpa using hvalid.nonempty) hts _ _
    · subst ha
      obtain ⟨l', hl', hpool'⟩ := pool_of_updated rfl hsettled.ok
      exact ⟨l', _, hl', hpool', .of_eq hts⟩

/-- What is done about a bastion does not touch the load balancers. -/
theorem poolKept_bastion {α : Type} {x : Call Session α}
    (h : Keeps (fun s t : Session => InfraKept s.cloud t.cloud) x)
    (h' : Keeps (fun s t : Session => KeepsUnique .server s.cloud t.cloud) x) :
    Keeps (fun s t : Session => PoolKept ts s.cloud t.cloud) x := fun s =>
  .of_same (h s).loadBalancers (h' s).issues.issued

theorem poolKept_createNetwork (input : CreateNetworkInput) :
    Keeps (fun s t : Session => PoolKept ts s.cloud t.cloud) (createNetwork input) := by
  have hR := PoolKept.closed ts
  have hcreate : Keeps (fun s t : Session => PoolKept ts s.cloud t.cloud)
      (do
        pure (networkFromSDK (← request "create network"
          (.createNetwork input.name input.tags input.ipv4Prefix)
          (Cloud.createNetwork input.name input.tags input.ipv4Prefix)))) :=
    .bind hR (keeps_request .refl fun c => .of_same rfl (Nat.le_succ _)) fun _ => .pure hR _
  refine .ite (.fail hR _) (.ite hcreate (keeps_existingOr hR ?_ hcreate))
  exact poolKept_sameCloud fun s => (wp_findNetworkByTags input.tags s).1

end SDKClient

end Capstk
