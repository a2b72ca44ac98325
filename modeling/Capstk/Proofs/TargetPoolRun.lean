import Capstk.Lib.Sha256
import Capstk.Proofs.TargetPools

/-!
# The target pool over a run

A client that notes down for which load balancers `SetAPIServerLoadBalancerTargets` has succeeded;
otherwise it is the SDK client. A pass writes the targets of its own machines or nothing
(`wp_reconcile_pools`), so after any run a pool holds what one pass saw, or what its load balancer
was created with.
-/

namespace Capstk

open Prog SDKClient

variable {c c' : Cloud} {ts : List SDKTarget} {new seed : List SDKTarget → Prop}

/-! ### Watching the calls -/

/-- A session, and the load balancers for which `SetAPIServerLoadBalancerTargets` has succeeded. -/
structure Watched where
  session : Session
  set : List String := []

namespace Watched
variable {α : Type}

def lift (x : Call Session α) : Call Watched α :=
  zoom Watched.session (fun t s => { t with session := s }) x

def setTargets (id : String) (port : Int) (targets : List LoadBalancerTargetInput) :
    Call Watched Unit := do
  lift (setAPIServerLoadBalancerTargets id port targets)
  modify fun t => { t with set := t.set ++ [id] }

/-- The SDK client, watched. -/
def client : Client Watched :=
  { sdkClient.zoom Watched.session fun t s => { t with session := s } with
    setAPIServerLoadBalancerTargets := setTargets }

end Watched

/-- A part of a pass with the targets `ts`: a load balancer whose targets were set still has
them. -/
structure PoolPass (ts : List SDKTarget) (t u : Watched) : Prop where
  kept : PoolKept ts t.session.cloud u.session.cloud
  noted : ∀ id ∈ u.set, id ∈ t.set ∨ Held id ts u.session.cloud

theorem PoolPass.closed (ts : List SDKTarget) : Closed (PoolPass ts) where
  refl _ := ⟨.refl _, fun _ => .inl⟩
  trans h h' := by
    refine ⟨h.kept.trans h'.kept, fun id hid => ?_⟩
    rcases h'.noted id hid with hid | hheld
    · exact (h.noted id hid).imp_right (h'.kept.held id)
    · exact .inr hheld

/-- A part of a deletion. -/
structure PoolGone (ts : List SDKTarget) (t u : Watched) : Prop where
  step : PoolStep (Written [ts]) (Seeded [ts]) t.session.cloud u.session.cloud
  noted : u.set = t.set

theorem PoolGone.closed (ts : List SDKTarget) : Closed (PoolGone ts) where
  refl _ := ⟨.refl _, rfl⟩
  trans h h' := ⟨h.step.trans (fun _ => .inl) h'.step, h'.noted.trans h.noted⟩

section
variable {α : Type} {x : Call Session α}

theorem poolPass_lift (h : Keeps (fun s t : Session => PoolKept ts s.cloud t.cloud) x) :
    Keeps (PoolPass ts) (Watched.lift x) := Keeps.zoom h fun _ _ hs => ⟨hs, fun _ => .inl⟩

theorem poolGone_lift (h : Keeps (fun s t : Session => PoolKept ts s.cloud t.cloud) x) :
    Keeps (PoolGone ts) (Watched.lift x) := Keeps.zoom h fun _ _ hs => ⟨hs.step, rfl⟩

theorem poolPass_setTargets {targets : List LoadBalancerTargetInput}
    (hts : targets.map sdkTarget = ts) (id : String) (port : Int) :
    Keeps (PoolPass ts) (Watched.setTargets id port targets) := by
  intro t
  show wp (Watched.setTargets id port targets) (fun _ u => PoolPass ts t u) t
  unfold Watched.setTargets Watched.lift
  rw [wp_bind, wp_zoom]
  refine (wp_setAPIServerLoadBalancerTargets hts id port t.session).imp fun r s ⟨hkept, hheld⟩ => ?_
  cases r with
  | error e => exact ⟨hkept, fun _ => .inl⟩
  | ok _ =>
    refine ⟨hkept, fun id' hid' => ?_⟩
    rcases List.mem_append.1 hid' with hid' | hid'
    · exact .inl hid'
    · rw [List.mem_singleton.1 hid']
      exact .inr (hheld () rfl)

end

/-! ### A pass -/

namespace ClusterReconciler

/-- The targets of the active control plane machines, as the pool holds them. -/
def passTargets {σ : Type} (env : Env σ) : List SDKTarget :=
  match env.controlPlaneMachines with
  | .ok machines => (apiServerTargets env.sha256Hex machines).map sdkTarget
  | .error _ => []

/-- Every client of a pass is the one that is watched. -/
def WatchedSource (src : ClientSource Watched) : Prop :=
  ∀ sc client, buildCloudClient src sc = .ok client → client = Watched.client

theorem seeded_initialTargets (network : Network) (targets : List LoadBalancerTargetInput) :
    Seeded [targets.map sdkTarget] (initialTargets (seedTargets network targets)) := by
  unfold seedTargets
  by_cases h : targets = []
  · subst h
    exact .inr (.inl ⟨bootstrapTargetIP network.ipv4Prefixes, rfl⟩)
  · have hinit : initialTargets targets = targets.map sdkTarget := by simp [initialTargets, h]
    rw [if_neg (by simpa using h), hinit]
    exact .inl ⟨by simpa using h, List.mem_singleton.2 rfl⟩

variable {env : Env Watched}

theorem poolKept_deleteNodeSSHAccess (tags : StringMap) :
    Keeps (fun s t : Session => PoolKept ts s.cloud t.cloud) (deleteNodeSSHAccess tags) :=
  poolKept_bastion (bastionClosed_infraKept.keeps_deleteNodeSSHAccess tags)
    ((bastionClosed_keepsUnique .server).keeps_deleteNodeSSHAccess tags)

theorem poolKept_deleteBastion (input : BastionInput) (bastion : Bastion) :
    Keeps (fun s t : Session => PoolKept ts s.cloud t.cloud)
      (SDKClient.deleteBastion input bastion) :=
  poolKept_bastion (bastionClosed_infraKept.keeps_deleteBastion input bastion)
    ((bastionClosed_keepsUnique .server).keeps_deleteBastion input bastion)

theorem poolKept_getNetwork (id : String) : Keeps (fun s t : Session => PoolKept ts s.cloud t.cloud)
      (SDKClient.getNetwork id) :=
  .bind (PoolKept.closed ts) (poolKept_read (readOnly_getNetwork id)) fun _ =>
    .pure (PoolKept.closed ts) _

theorem resourceFrame_poolPass (env : Env Watched) :
    ResourceFrame env Watched.client fun p q => PoolPass (passTargets env) p.cloud q.cloud where
  refl p := (PoolPass.closed _).refl p.cloud
  trans := (PoolPass.closed _).trans
  write _ p := (PoolPass.closed _).refl p.cloud
  zones p := poolPass_lift (poolKept_read fun _ => rfl) p.cloud
  network := by
    have hR := PoolPass.closed (passTargets env)
    exact keeps_ensureNetwork ⟨fun p => hR.refl p.cloud, hR.trans⟩ (fun _ p => hR.refl p.cloud)
      (fun _ _ _ p => hR.refl p.cloud)
      (fun id p => poolPass_lift (poolKept_getNetwork id) p.cloud)
      fun p _ => poolPass_lift (poolKept_createNetwork _) p.cloud
  loadBalancer network machines hmachines p := by
    set input :=
      apiServerInput p.obj (seedTargets network (apiServerTargets env.sha256Hex machines))
      with hinput
    have hseed : Seeded [passTargets env] (initialTargets input.targets) := by
      rw [passTargets, hmachines]
      exact seeded_initialTargets network _
    have hcall := poolPass_lift (poolKept_ensureAPIServerLoadBalancer hseed) p.cloud
    exact ⟨hcall, fun _ _ => hcall⟩
  targets id machines hmachines _ p :=
    poolPass_setTargets (by rw [passTargets, hmachines]) id _ p.cloud

theorem bastionFrame_poolPass (ts : List SDKTarget) :
    BastionFrame Watched.client fun p q => PoolPass ts p.cloud q.cloud where
  refl p := (PoolPass.closed _).refl p.cloud
  trans := (PoolPass.closed _).trans
  write _ p := (PoolPass.closed _).refl p.cloud
  deleteNodeSSHAccess tags :=
    have h : Keeps (PoolPass ts) _ := poolPass_lift (poolKept_deleteNodeSSHAccess tags)
    ⟨fun p => h p.cloud, fun p => keeps_tolerate (PoolPass.closed ts) h p.cloud⟩
  deleteBastion input bastion :=
    have h : Keeps (PoolPass ts) _ := poolPass_lift (poolKept_deleteBastion input bastion)
    ⟨fun p => h p.cloud, fun p => keeps_tolerate (PoolPass.closed ts) h p.cloud⟩
  ensureBastion input p :=
    poolPass_lift (poolKept_bastion (bastionClosed_infraKept.keeps_ensureBastion input)
    ((bastionClosed_keepsUnique .server).keeps_ensureBastion input)) p.cloud

theorem deleteFrame_poolGone (ts : List SDKTarget) :
    DeleteFrame Watched.client fun p q => PoolGone ts p.cloud q.cloud := by
  have hR := PoolGone.closed ts
  have hread : ∀ {α : Type} {x : Call Session α}, Keeps (fun s t : Session => t.cloud = s.cloud) x →
      Keeps (PoolGone ts) (Watched.lift x) := fun h => poolGone_lift (poolKept_sameCloud h)
  have hresolve : ∀ sc, Keeps (PoolGone ts) (resolveLoadBalancerID Watched.client sc) :=
    fun sc => by
    refine .ite (.pure hR _)
      (.bind hR (hread fun s => (wp_listAPIServerLoadBalancersByTags sc.tags s).1) fun l => ?_)
    split
    · exact .pure hR _
    · exact .pure hR _
    · exact .fail hR _
  have hnetwork : ∀ sc, Keeps (PoolGone ts) (resolveManagedNetworkID Watched.client sc) := fun sc =>
    .ite (.pure hR _) (.ite (.pure hR _) (keeps_existingOr hR
      (.bind hR (hread fun s => (wp_findNetworkByTags sc.tags s).1) fun _ => .pure hR _)
      (.pure hR _)))
  have hdelete : ∀ id,
      Keeps (PoolGone ts) (Watched.client.deleteAPIServerLoadBalancer id) := fun id =>
    Keeps.zoom (keeps_request PoolStep.refl (PoolStep.deleteLoadBalancer id)) fun _ _ h => ⟨h, rfl⟩
  have hdeleteNetwork : ∀ id, Keeps (PoolGone ts) (Watched.client.deleteNetwork id) := fun id => by
    refine poolGone_lift (keeps_request .refl fun c => ?_)
    unfold Cloud.deleteNetwork
    split <;> exact .of_same rfl (Nat.le_refl _)
  exact
    { refl := fun p => hR.refl p.cloud
      trans := hR.trans
      write := fun _ p => hR.refl p.cloud
      resolveLoadBalancerID := fun sc p => hresolve sc p.cloud
      deleteLoadBalancer := fun id p => keeps_tolerate hR (hdelete id) p.cloud
      deleteNodeSSHAccess := fun tags p =>
        keeps_tolerate hR (poolGone_lift (poolKept_deleteNodeSSHAccess tags)) p.cloud
      deleteBastion := fun input bastion p =>
        keeps_tolerate hR (poolGone_lift (poolKept_deleteBastion input bastion)) p.cloud
      network :=
        keeps_deleteManagedNetwork ⟨fun p => hR.refl p.cloud, hR.trans⟩ (fun _ p => hR.refl p.cloud)
        (fun _ p => hR.refl p.cloud) (fun sc p => hnetwork sc p.cloud)
        fun id p => keeps_tolerate hR (hdeleteNetwork id) p.cloud }

theorem poolPass_reconcileNormal (hsrc : WatchedSource env.source) :
    Keeps (fun p q => PoolPass (passTargets env) p.cloud q.cloud) (reconcileNormal env) := by
  have hR := (resourceFrame_poolPass env).toClosed
  refine keeps_reconcileNormal hR (fun p => ?_) hsrc ?_ (resourceFrame_poolPass env).write ?_
  · exact wp_persistFinalizer (Q := fun _ q => PoolPass (passTargets env) p.cloud q.cloud)
      (fun _ => hR.refl p) fun _ _ _ => hR.refl p
  · rintro client rfl
    exact resourceFrame_poolPass env
  · rintro client rfl
    exact bastionFrame_poolPass _

theorem poolGone_reconcileDelete (ts : List SDKTarget) (hsrc : WatchedSource env.source)
    (cluster : Cluster) :
    Keeps (fun p q => PoolGone ts p.cloud q.cloud) (reconcileDelete env cluster) := by
  refine keeps_reconcileDelete (deleteFrame_poolGone ts).toClosed (deleteFrame_poolGone ts).write
    hsrc ?_ cluster
  rintro client rfl
  exact deleteFrame_poolGone ts

theorem wp_reconcile_pools (hsrc : WatchedSource env.source) (answers : Answers)
    (p : Pass StackitCluster Watched) :
    wp (reconcile answers env) (fun _ q => PoolPass (passTargets env) p.cloud q.cloud ∨
      p.stored.metadata.deleting = true ∧ PoolGone (passTargets env) p.cloud q.cloud) p := by
  have hrefl := (PoolPass.closed (passTargets env)).refl p.cloud
  refine wp_reconcile (fun _ _ => .inl hrefl) fun cluster _ => Pass.wp_withDeferredPatch ?_
  have hscope :
      wp (reconcileScope env cluster) (fun _ q => PoolPass (passTargets env) p.cloud q.cloud ∨
        p.stored.metadata.deleting = true ∧ PoolGone (passTargets env) p.cloud q.cloud)
        { p with obj := p.stored } :=
    wp_reconcileScope (fun _ => .inl hrefl)
      (fun _ hdel => .inr ⟨hdel, poolGone_reconcileDelete _ hsrc cluster
        { p with obj := withPaused cluster p.stored }⟩)
      fun _ _ => .inl (poolPass_reconcileNormal hsrc { p with obj := withPaused cluster p.stored })
  exact hscope.imp fun _ _ h _ _ _ _ => h

end ClusterReconciler

/-! ### A run -/

inductive PoolAction
  | reconcile (answers : ClusterReconciler.Answers) (env : ClusterReconciler.Env Watched)
      (patches : List PatchOutcome)
      (outcomes : List Outcome) (orders : List MapOrder)
  | requestDeletion
  | updateSpec (spec : StackitClusterSpec)
  | cloudEvolves (change : Cloud → Cloud)

namespace PoolAction

/-- The targets of the active control plane machines of a pass. -/
def targets : PoolAction → List SDKTarget
  | .reconcile _ env _ _ _ => ClusterReconciler.passTargets env
  | _ => []

/-- The state in which a pass starts. -/
def begin (w : ClusterWorld) (patches : List PatchOutcome) (outcomes : List Outcome)
    (orders : List MapOrder) :
    Pass StackitCluster Watched :=
  { obj := w.stored, stored := w.stored, patches,
    cloud := { session := { cloud := w.cloud, outcomes, orders } } }

/-- The state in which it ends. -/
def pass (w : ClusterWorld) (answers : ClusterReconciler.Answers)
    (env : ClusterReconciler.Env Watched) (patches : List PatchOutcome) (outcomes : List Outcome)
    (orders : List MapOrder) : Pass StackitCluster Watched :=
  (ClusterReconciler.reconcile answers env).after (begin w patches outcomes orders)

def step (w : ClusterWorld) : PoolAction → ClusterWorld
  | .reconcile answers env patches outcomes orders =>
    let q := pass w answers env patches outcomes orders
    ⟨q.stored, q.cloud.session.cloud⟩
  | .requestDeletion =>
    { w with stored := { w.stored with metadata := { w.stored.metadata with deleting := true } } }
  | .updateSpec spec => { w with stored := { w.stored with spec } }
  | .cloudEvolves change => { w with cloud := change w.cloud }

/-- The load balancers for which a pass called `SetAPIServerLoadBalancerTargets` with success. -/
def targetsSet (w : ClusterWorld) : PoolAction → List String
  | .reconcile answers env patches outcomes orders =>
      (pass w answers env patches outcomes orders).cloud.set
  | _ => []

/-- Nobody else edits a pool. A load balancer that appears from elsewhere is one that was never
there before, with a pool that is not empty and has no placeholder beside other targets. -/
def Regular (w : ClusterWorld) : PoolAction → Prop
  | .reconcile _ env _ _ _ => ClusterReconciler.WatchedSource env.source
  | .requestDeletion | .updateSpec _ => True
  | .cloudEvolves change => PoolStep (fun _ => False) Clean w.cloud (change w.cloud)

end PoolAction

/-- Where a run starts: serials are unique, and every pool could be that of a new load balancer. -/
structure PoolsClean (c : Cloud) : Prop where
  serials : Serials c
  clean : ∀ l ∈ c.loadBalancers, ∀ pool, apiServerTargetPool l = some pool → Clean pool.targets

namespace PoolAction
variable {w : ClusterWorld} {a : PoolAction} {as bs : List PoolAction}

theorem step_pools (ha : Regular w a) :
    PoolStep (Written [a.targets]) (Seeded [a.targets]) w.cloud (step w a).cloud := by
  cases a with
  | reconcile answers env patches outcomes orders =>
    rcases ClusterReconciler.wp_reconcile_pools ha answers (begin w patches outcomes orders)
      with h | ⟨-, h⟩
    · exact h.kept.step
    · exact h.step
  | requestDeletion => exact .refl _
  | updateSpec spec => exact .refl _
  | cloudEvolves change => exact PoolStep.mono ha (fun _ => False.elim) fun _ => .inr

/-- What a run can have made of the pools. -/
theorem run_pools (has : Runs.Meets step Regular w as) :
    PoolStep (Written (as.map targets))
      (Seeded (as.map targets)) w.cloud (Runs.run step w as).cloud := by
  induction as generalizing w with
  | nil => exact .refl _
  | cons a as ih =>
    have hfirst : [a.targets] ⊆ (a :: as).map targets := by simp
    have hrest : as.map targets ⊆ (a :: as).map targets := List.subset_cons_self _ _
    exact ((step_pools has.1).mono (fun _ h => h.mono hfirst) fun _ h => h.mono hfirst).trans
      (fun _ => .inl)
      ((ih has.2).mono (fun _ h => h.mono hrest) fun _ h => h.mono hrest)

/-- After a run every pool is clean or was written by a pass. -/
theorem seeded_run (h₀ : PoolsClean w.cloud) (has : Runs.Meets step Regular w as)
    {l : SDKLoadBalancer} (hl : l ∈ (Runs.run step w as).cloud.loadBalancers) {pool : SDKTargetPool}
    (hpool : apiServerTargetPool l = some pool) :
    Seeded (as.map targets) pool.targets := by
  rcases (run_pools has).pools l hl with ⟨l₀, hl₀, -, hsame | ⟨pool', hpool', hnew⟩⟩ | ⟨-, hseed⟩
  · exact .inr (h₀.clean l₀ hl₀ pool (hsame ▸ hpool))
  · rw [hpool, Option.some.injEq] at hpool'
    exact .inl (hpool' ▸ hnew)
  · exact hseed pool hpool

/-- Some pass of the run had the target for one of its machines. -/
def Real (as : List PoolAction) (t : SDKTarget) : Prop := ∃ a ∈ as, t ∈ a.targets

/-- A target with the placeholder's name that is no machine's. -/
def Placeholder (as : List PoolAction) (t : SDKTarget) : Prop :=
  t.displayName = bootstrapTargetName ∧ ¬ Real as t

theorem not_placeholder_of_seeded {x : List SDKTarget} (h : Seeded (as.map targets) x)
    {t t' : SDKTarget} (ht : t ∈ x) (hreal : ¬ Placeholder as t) (ht' : t' ∈ x) :
    ¬ Placeholder as t' := by
  rintro ⟨hname, hnot⟩
  rcases h with ⟨-, hx⟩ | ⟨ip, rfl⟩ | ⟨-, hx⟩
  · obtain ⟨a, ha, rfl⟩ := List.mem_map.1 hx
    exact hnot ⟨a, ha, ht'⟩
  · rw [List.mem_singleton.1 ht] at hreal
    rw [List.mem_singleton.1 ht'] at hname hnot
    exact hreal ⟨hname, hnot⟩
  · exact hx t' ht' hname

/-- What the pools of a run that starts in `w` are never seen without. Load balancers are the same
if their serials are. -/
structure PoolsSafe (w : ClusterWorld) (as : List PoolAction) : Prop where
  /-- A pool is never empty. -/
  nonempty : ∀ l ∈ (Runs.run step w as).cloud.loadBalancers, ∀ pool, apiServerTargetPool l =
    some pool → pool.targets ≠ []
  /-- A pass without targets changes no pool, and takes no load balancer away unless the cluster is
  deleted. -/
  unchanged : ∀ bs answers env patches outcomes orders cs, as = bs ++ .reconcile answers env patches
    outcomes orders :: cs →
    let v := Runs.run step w bs
    let v' := step v (.reconcile answers env patches outcomes orders)
    ClusterReconciler.passTargets env = [] → ∀ l ∈ v.cloud.loadBalancers,
      (∀ l' ∈ v'.cloud.loadBalancers, l'.serial = l.serial →
        apiServerTargetPool l' = apiServerTargetPool l) ∧
      (v.stored.metadata.deleting = false → ∃ l' ∈ v'.cloud.loadBalancers, l'.serial = l.serial)
  /-- After a successful `SetAPIServerLoadBalancerTargets` the pool holds the targets of the
  pass. -/
  exact : ∀ bs answers env patches outcomes orders cs, as = bs ++ .reconcile answers env patches
    outcomes orders :: cs →
    let v := Runs.run step w bs
    ∀ id ∈ targetsSet v (.reconcile answers env patches outcomes orders),
      Held id (ClusterReconciler.passTargets env)
      (step v (.reconcile answers env patches outcomes orders)).cloud
  /-- The placeholder never comes back to a pool that has held another target. -/
  placeholder : ∀ bs cs, as = bs ++ cs → ∀ l ∈ (Runs.run step w bs).cloud.loadBalancers,
    ∀ l' ∈ (Runs.run step w as).cloud.loadBalancers, l'.serial = l.serial →
    ∀ pool pool', apiServerTargetPool l = some pool → apiServerTargetPool l' = some pool' →
      (∃ t ∈ pool.targets, ¬ Placeholder bs t) → ∀ t ∈ pool'.targets, ¬ Placeholder as t

/-- **The target pool is safe** in every run, whatever machines its passes see and however their
calls fail. -/
theorem target_pools_safe (h₀ : PoolsClean w.cloud) (has : Runs.Meets step Regular w as) :
    PoolsSafe w as := by
  refine ⟨fun l hl pool hpool => (seeded_run h₀ has hl hpool).ne_nil, ?_, ?_, ?_⟩
  · rintro bs answers env patches outcomes orders cs rfl v v' hempty l hl
    obtain ⟨hbs, ha, -⟩ := (Runs.meets_append _).1 has
    have hserials : Serials v.cloud := (run_pools hbs).serials h₀.serials
    refine ⟨fun l' hl' hserial => ?_, fun hdel => ?_⟩
    · rcases (step_pools ha).pools l' hl'
        with ⟨l₀, hl₀, hs, hsame | ⟨pool, -, hne, hmem⟩⟩ | ⟨hnew, -⟩
      · rw [hserials.eq hl hl₀ (hserial.symm.trans hs.symm), hsame]
      · exact absurd ((List.mem_singleton.1 hmem).trans hempty) hne
      · exact absurd (hserials.issued l hl) (by rw [← hserial]; exact Nat.not_lt.2 hnew)
    · rcases ClusterReconciler.wp_reconcile_pools ha answers (begin v patches outcomes orders)
        with h | ⟨h, -⟩
      · exact h.kept.present l hl
      · exact absurd (h.symm.trans hdel) (by decide)
  · rintro bs answers env patches outcomes orders cs rfl v id hid
    obtain ⟨-, ha, -⟩ := (Runs.meets_append _).1 has
    rcases ClusterReconciler.wp_reconcile_pools ha answers (begin v patches outcomes orders)
      with h | ⟨-, h⟩
    · exact (h.noted id hid).resolve_left List.not_mem_nil
    · have hid' : id ∈ (begin v patches outcomes orders).cloud.set := h.noted ▸ hid
      cases hid'
  · rintro bs cs rfl l hl l' hl' hserial pool pool' hpool hpool' ⟨t, ht, hreal⟩ t' ht'
    obtain ⟨hbs, hcs⟩ := (Runs.meets_append _).1 has
    have hserials := (run_pools hbs).serials h₀.serials
    have hreal' : ∀ t, ¬ Placeholder bs t → ¬ Placeholder (bs ++ cs) t := fun t h ⟨hname, hnot⟩ =>
      h ⟨hname, fun ⟨a, ha, hmem⟩ => hnot ⟨a, List.mem_append_left _ ha, hmem⟩⟩
    rw [Runs.run_append] at hl'
    rcases (run_pools hcs).pools l' hl'
      with ⟨l₀, hl₀, hs, hsame | ⟨pool₀, hpool₀, -, hmem⟩⟩ | ⟨hnew, -⟩
    · obtain rfl := hserials.eq hl hl₀ (hserial.symm.trans hs.symm)
      obtain rfl : pool' = pool := by
        rw [hsame, hpool] at hpool'; exact (Option.some.inj hpool').symm
      exact hreal' t' (not_placeholder_of_seeded (seeded_run h₀ hbs hl hpool) ht hreal ht')
    · obtain rfl : pool₀ = pool' := Option.some.inj (hpool₀.symm.trans hpool')
      obtain ⟨a, ha, heq⟩ := List.mem_map.1 hmem
      exact fun h => h.2 ⟨a, List.mem_append_right _ ha, heq ▸ ht'⟩
    · exact absurd (hserials.issued l hl) (by rw [← hserial]; exact Nat.not_lt.2 hnew)

/-! A load balancer starts with the placeholder, gets the target of the first machine, and keeps it
while there is none. -/

def watchedSource : ClientSource Watched where
  getSecret := ClientSource.connected.getSecret
  factory := some fun _ => .ok Watched.client

def samplePass (machines : List Machine) : PoolAction :=
  .reconcile
    { getOwnerCluster := .ok
        (some { metadata := { name := "c", namespace' := "ns" },
                infrastructureRef := { name := "c" } }) }
    { source := watchedSource, getConfigMap := fun _ => .error ⟨none, "not found"⟩,
      machines := .ok machines,
      controlPlaneMachines := .ok machines, sha256Hex := Sha256.hex } [] [] []

def sampleMachine : Machine :=
  { metadata := { name := "m", namespace' := "ns" },
    addresses := [⟨machineInternalIP, "10.0.0.7"⟩] }

/-- Load balancers get their addresses. -/
def addressed (l : SDKLoadBalancer) : SDKLoadBalancer := { l with externalAddress := "192.0.2.1" }

def sampleRun : List PoolAction :=
  [samplePass [], .cloudEvolves fun c => { c with loadBalancers := c.loadBalancers.map addressed },
    samplePass [sampleMachine], samplePass []]

def pools (w : ClusterWorld) : List (List SDKTarget) :=
  w.cloud.loadBalancers.flatMap fun l => (apiServerTargetPool l).toList.map (·.targets)

def sampleWorld : ClusterWorld :=
  .sample { ClusterWorld.sampleSpec with apiServerLoadBalancerEnabled := true }

theorem watchedSource_watched : ClusterReconciler.WatchedSource watchedSource := by
  intro sc client h
  unfold buildCloudClient watchedSource at h
  dsimp only [ClientSource.connected] at h
  split at h
  · cases h
  · cases h
    rfl

theorem poolStep_addressed (c : Cloud) :
    PoolStep new seed c { c with loadBalancers := c.loadBalancers.map addressed } where
  issued := Nat.le_refl _
  serials h :=
    ⟨by simpa [Function.comp_def, addressed] using h.nodup, by simpa [addressed] using h.issued⟩
  pools l' hl' := by
    obtain ⟨l, hl, rfl⟩ := List.mem_map.1 hl'
    exact .inl ⟨l, hl, rfl, .inl rfl⟩

theorem target_pools_safe_sample :
    PoolsSafe sampleWorld sampleRun ∧
      pools (Runs.run step sampleWorld (sampleRun.take 1)) =
      [[⟨bootstrapTargetName, "10.0.0.10"⟩]] ∧
      targetsSet (Runs.run step sampleWorld (sampleRun.take 2))
      (samplePass [sampleMachine]) = ["c-apiserver"] ∧
      pools (Runs.run step sampleWorld (sampleRun.take 3)) = [[⟨"m", "10.0.0.7"⟩]] ∧
      pools (Runs.run step sampleWorld sampleRun) = [[⟨"m", "10.0.0.7"⟩]] := by
  refine ⟨target_pools_safe ⟨⟨List.nodup_nil, by simp [sampleWorld, ClusterWorld.sample]⟩, ?_⟩ ?_,
    ?_⟩
  · simp [sampleWorld, ClusterWorld.sample]
  · exact ⟨watchedSource_watched, poolStep_addressed _, watchedSource_watched,
      watchedSource_watched, trivial⟩
  · decide +kernel

end PoolAction

end Capstk
