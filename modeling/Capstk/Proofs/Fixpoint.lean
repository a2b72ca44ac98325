import Capstk.Proofs.ClusterRun
import Capstk.Proofs.MachineFixpoint
import Capstk.Proofs.Watches

/-!
# Reconciling is a fixpoint once the object is ready

After a pass that reached `SetReady` without a failed request, a second pass over the same cloud and
the same Kubernetes objects changes nothing. The first pass may have bumped the generation with its
own patch, so the second may find another one; the order of a map and of the listed machines may be
another one, too.
-/

namespace Capstk

open Prog

/-- What is relied on of the IDs that the cloud gives to its resources. -/
structure WellFormed (c : Cloud) : Prop extends BastionIDs c where
  networks : ∀ n ∈ c.networks, n.id ≠ ""
  servers : ∀ x ∈ c.servers, x.id ≠ ""
  distinct : UniqueIDs .server c

namespace ClusterReconciler

/-- The API server gives the same answers, up to the order of machines with distinct names. -/
structure SameAnswers (env env' : Env Session) : Prop where
  source : env'.source = env.source
  getConfigMap : env'.getConfigMap = env.getConfigMap
  sha256Hex : env'.sha256Hex = env.sha256Hex
  controlPlaneMachines : env'.controlPlaneMachines = env.controlPlaneMachines ∨
    ∃ l l', env.controlPlaneMachines = .ok l ∧ env'.controlPlaneMachines = .ok l' ∧ l.Perm l' ∧
      (l.map (·.metadata.name)).Nodup

variable {env env' : Env Session} {o : StackitCluster} {c : Cloud}

theorem SameAnswers.targets {machines : List Machine} (h : SameAnswers env env')
    (hlisted : env.controlPlaneMachines = .ok machines) :
    ∃ machines', env'.controlPlaneMachines = .ok machines' ∧
      apiServerTargets env'.sha256Hex machines' = apiServerTargets env.sha256Hex machines := by
  rcases h.controlPlaneMachines with hsame | ⟨l, l', hl, hl', hperm, hnames⟩
  · exact ⟨machines, hsame.trans hlisted, by rw [h.sha256Hex]⟩
  · obtain rfl : l = machines := Except.ok.inj (hl.symm.trans hlisted)
    refine ⟨l', hl', ?_⟩
    rw [h.sha256Hex, apiServerTargets_congr (hperm.map targetKey) hnames]

theorem Settled.congr (h : Settled env o c) (hsame : SameAnswers env env') : Settled env' o c := by
  have hendpoint : EndpointSettled env' o c := by
    by_cases henabled : o.spec.apiServerLoadBalancerEnabled = true
    · have hbalanced := h.endpoint
      rw [EndpointSettled, if_pos henabled] at hbalanced
      obtain ⟨machines, l, hl⟩ := hbalanced
      obtain ⟨machines', hlisted, htargets⟩ := hsame.targets hl.listed
      exact .loadBalancer henabled { hl with listed := hlisted, targets := htargets ▸ hl.targets }
    · have hexternal := h.endpoint
      rw [EndpointSettled, if_neg henabled] at hexternal
      exact .external henabled hexternal
  have hbastion : BastionSettled env' o c := by
    have hhash : ∀ cloudInit, bastionCloudInitHash env' cloudInit = bastionCloudInitHash
        env cloudInit := by
      intro cloudInit
      rw [bastionCloudInitHash, bastionCloudInitHash, hsame.sha256Hex]
    have hresolve : resolveBastionCloudInit env' o = resolveBastionCloudInit env o := by
      rw [resolveBastionCloudInit, resolveBastionCloudInit, hsame.getConfigMap, hsame.source]
    have hheld := h.bastion
    unfold BastionSettled at hheld ⊢
    split
    · rename_i henabled
      rw [if_pos henabled] at hheld
      obtain ⟨cloudInit, b, hb⟩ := hheld
      exact ⟨cloudInit, b,
        { hb with resolved := hresolve.trans hb.resolved,
                  status := (hhash cloudInit).symm ▸ hb.status }⟩
    · rename_i hdisabled
      rw [if_neg hdisabled] at hheld
      exact hheld
  exact { h with client := hsame.source ▸ h.client, endpoint := hendpoint, bastion := hbastion }

end ClusterReconciler

/-- **Reconciling is a fixpoint once the object is ready**, of a cluster and of a machine. The pass
`p` meets no failure, also none of those it tolerates when it attaches an address; `p'` is the next
pass. -/
theorem ready_pass_fixpoint :
    (∀ (env env' : ClusterReconciler.Env Session) (p p' : Pass StackitCluster Session) (g : Int),
      let q := (ClusterReconciler.reconcileNormal env).after p
      let q' := (ClusterReconciler.reconcileNormal env').after p'
      SDKSource env.source p.obj → WellFormed p.cloud.cloud → DistinctRewrites p.obj.tags →
      Answered p.cloud →
      ClusterReconciler.reachesSetReady env p = true →
      (∀ x ∈ q.cloud.log, x.isRefusedAddress = false) →
      ClusterReconciler.SameAnswers env env' → p'.obj = { q.obj with metadata.generation := g } →
      Answered p'.cloud → p'.cloud.cloud = q.cloud.cloud →
      q'.cloud.cloud = q.cloud.cloud ∧ Logs (fun x => x.request.isHarmless = true) p'.cloud
      q'.cloud ∧
        q'.obj = { p'.obj with conditions := q'.obj.conditions } ∧
        q'.obj.conditions.map Condition.content = q.obj.conditions.map Condition.content) ∧
    (∀ (src : ClientSource Session) (ctx : MachineContext) (p p' : Pass StackitMachine
      Session) (g : Int),
      let q := (MachineReconciler.reconcileNormal src ctx).after p
      let q' := (MachineReconciler.reconcileNormal src ctx).after p'
      SDKSource src ctx.stackitCluster → WellFormed p.cloud.cloud → Answered p.cloud →
      MachineReconciler.reachesSetReady src ctx p = true →
      p'.obj = { q.obj with metadata.generation := g } →
      Answered p'.cloud → p'.cloud.cloud = q.cloud.cloud →
      q'.cloud.cloud = q.cloud.cloud ∧ Logs (fun x => x.request.isHarmless = true) p'.cloud
      q'.cloud ∧
        q'.obj = { p'.obj with conditions := q'.obj.conditions } ∧
        q'.obj.conditions.map Condition.content = q.obj.conditions.map Condition.content) := by
  refine ⟨?cluster, ?machine⟩
  case cluster =>
    intro env env' p p' g q q' hsource hids hT hs hready hlog hsame hobj hs' hcloud
    have hleft :=
      ClusterReconciler.settled_of_reachesSetReady hready hsource hs hids.toBastionIDs
      hids.networks hT hlog
    have hsettled := hleft.congr hsame
    rw [← hcloud] at hsettled
    have hstart : ClusterReconciler.Unchanged q.obj g p'.cloud p' :=
      ⟨⟨q.obj.conditions, hobj, rfl⟩, .refl hs'⟩
    obtain ⟨-, hend⟩ : _ ∧ ClusterReconciler.Unchanged q.obj g p'.cloud q' :=
      hsettled.reconcileNormal hstart
    refine ⟨hend.cloud.cloud.trans hcloud, hend.cloud.log, ?_, hend.conditions⟩
    rw [hobj]
    exact hend.obj_eq
  case machine =>
    intro src ctx p p' g q q' hsource hids hs hready hobj hs' hcloud
    obtain ⟨server, hsettled⟩ :=
      MachineReconciler.settled_of_reachesSetReady hready hsource hs hids.distinct hids.servers
    rw [← hcloud] at hsettled
    have hstart : MachineReconciler.Unchanged q.obj g p'.cloud p' :=
      ⟨⟨q.obj.conditions, hobj, rfl⟩, .refl hs'⟩
    obtain ⟨-, hend⟩ : _ ∧ MachineReconciler.Unchanged q.obj g p'.cloud q' :=
      hsettled.reconcileNormal hstart
    obtain ⟨cs, hobj', hcs⟩ := hend.obj
    refine ⟨hend.cloud.cloud.trans hcloud, hend.cloud.log, ?_, ?_⟩
    · rw [hobj', hobj]
      rfl
    · rw [hobj']
      exact hcs

/-- An empty project whose service answers a creation with a running server and with addresses. -/
abbrev freshCloud : Cloud where
  ids := .unary
  provisioning :=
    { server := fun _ => ⟨"ACTIVE", "RUNNING", [{ id := "nic" }], by simp⟩
      publicIP := fun _ => "203.0.113.7"
      externalAddress := fun _ => "203.0.113.10" }

/-- A cluster with a load balancer and a bastion, of which nothing is there yet. -/
abbrev bastionPass : Pass StackitCluster Session where
  obj := { ClusterReconciler.reportedCluster with
    spec := { ClusterWorld.sampleSpec with
      bastion := ClusterWorld.sampleBastion
      apiServerLoadBalancerEnabled := true } }
  stored := ClusterReconciler.reportedCluster
  cloud := { cloud := freshCloud }

/-- A machine without a server, in a cluster with a bastion. -/
abbrev nodeContext : MachineContext where
  cluster :=
    { metadata := { name := "c", namespace' := "ns" }, infrastructureRef := { name := "c" } }
  machine :=
    { metadata := { name := "m", namespace' := "ns", uid := "u" }, dataSecretName := some "b" }
  stackitCluster := { ClusterReconciler.reportedCluster with
    status := { ready := true, network := { id := "n" }, bastion := { securityGroupID := "g" } } }

abbrev nodeMachine : StackitMachine where
  metadata := { name := "m", namespace' := "ns" }
  spec := {}

abbrev nodePass : Pass StackitMachine Session where
  obj := nodeMachine
  stored := nodeMachine
  cloud := { cloud := freshCloud }

/-- The next pass, over the object with another generation. -/
def ClusterReconciler.nextPass (q : Pass StackitCluster Session) (g : Int) :
    Pass StackitCluster Session :=
  { q with obj := { q.obj with metadata.generation := g }, cloud := { cloud := q.cloud.cloud } }

def MachineReconciler.nextPass (q : Pass StackitMachine Session) (g : Int) :
    Pass StackitMachine Session :=
  { q with obj := { q.obj with metadata.generation := g }, cloud := { cloud := q.cloud.cloud } }

theorem wellFormed_freshCloud : WellFormed freshCloud where
  publicIPs := ⟨List.nodup_nil, fun x hx => by cases hx⟩
  rules g := by
    have hnone : rulesOf g freshCloud = [] := rfl
    exact ⟨by simp [hnone], by simp [hnone], by simp [hnone]⟩
  interfaces := by decide
  networks := by decide
  servers := by decide
  distinct := ⟨List.nodup_nil, fun x hx => by cases hx⟩

/-- The first pass creates all there is to create, that of the machine its server; the second does
nothing. -/
theorem ready_pass_fixpoint_bastion :
    let q := (ClusterReconciler.reconcileNormal ClusterReconciler.reportedEnv).after bastionPass
    let m := (MachineReconciler.reconcileNormal .connected nodeContext).after nodePass
    (ClusterReconciler.reachesSetReady ClusterReconciler.reportedEnv bastionPass = true ∧
      ((ClusterReconciler.reconcileNormal ClusterReconciler.reportedEnv).after
        (ClusterReconciler.nextPass q 2)).cloud.cloud =
        q.cloud.cloud) ∧
    MachineReconciler.reachesSetReady .connected nodeContext nodePass = true ∧
      ((MachineReconciler.reconcileNormal .connected nodeContext).after
        (MachineReconciler.nextPass m 2)).cloud.cloud =
        m.cloud.cloud := by
  have hcluster : ClusterReconciler.reachesSetReady ClusterReconciler.reportedEnv bastionPass =
      true := by decide +kernel
  have hmachine : MachineReconciler.reachesSetReady .connected nodeContext nodePass = true := by
    decide +kernel
  have hlog :
      ∀ x ∈ ((ClusterReconciler.reconcileNormal ClusterReconciler.reportedEnv).after
      bastionPass).cloud.log,
        x.isRefusedAddress = false := by decide +kernel
  refine ⟨⟨hcluster, ?_⟩, hmachine, ?_⟩
  · generalize hq : (ClusterReconciler.reconcileNormal ClusterReconciler.reportedEnv).after
      bastionPass = q at hlog
    have h :=
      ready_pass_fixpoint.1 ClusterReconciler.reportedEnv ClusterReconciler.reportedEnv bastionPass
      (ClusterReconciler.nextPass q 2) 2 (SourceOk.connected _).sdk wellFormed_freshCloud
      (by decide) rfl hcluster
    rw [hq] at h
    exact (h hlog ⟨rfl, rfl, rfl, .inl rfl⟩ rfl rfl rfl).1
  · generalize hq : (MachineReconciler.reconcileNormal .connected nodeContext).after nodePass = q
    have h :=
      ready_pass_fixpoint.2 .connected nodeContext nodePass (MachineReconciler.nextPass q 2) 2
      (SourceOk.connected _).sdk wellFormed_freshCloud rfl hmachine
    rw [hq] at h
    exact (h rfl rfl rfl).1

end Capstk
