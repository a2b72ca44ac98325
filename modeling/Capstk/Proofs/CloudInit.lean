import Capstk.Lib.Run
import Capstk.Lib.Sha256
import Capstk.ClusterReconciler
import Capstk.Proofs.ClusterRun
import Capstk.Proofs.Freshness

/-!
# The cloud-init hash of the bastion

`status.bastion.cloudInitHash` is the hash of the content that the last successful `EnsureBastion`
was called with; the server may have been found by its tags and come from an earlier call with
another content. Apart from that, the hash is that of the user data the recorded server was created
with.
-/

namespace Capstk

open Prog SDKClient

variable {data : String} {c c' c'' : Cloud} {T : StringMap}

/-! ### User data -/

/-- The ID, the labels and the user data of every server. -/
def booted (c : Cloud) : List (String × StringMap × String) :=
  c.servers.map fun s => (s.id, s.labels, s.userData)

theorem labelled_server (c : Cloud) : labelled .server c = (booted c).map fun x =>
    (x.1, x.2.1) := by
  simp [labelled, booted]

/-- IDs stay unique, and no server appears. -/
structure Unboots (c c' : Cloud) : Prop where
  unique : KeepsUnique .server c c'
  servers : (booted c').Sublist (booted c)

theorem Unboots.of_servers (hu : KeepsUnique .server c c') (h : c'.servers = c.servers) :
    Unboots c c' :=
  ⟨hu, by rw [booted, booted, h]⟩

/-- IDs stay unique, and every server is an old one or a new one with the given user data. -/
structure Boots (data : String) (c c' : Cloud) : Prop where
  unique : KeepsUnique .server c c'
  origin : ∀ x ∈ booted c', x ∈ booted c ∨ x.2.2 = data ∧ ¬ Used x.1 c

theorem Unboots.boots (h : Unboots c c') : Boots data c c' :=
  ⟨h.unique, fun _ hx => .inl (h.servers.subset hx)⟩

theorem Boots.trans (h : Boots data c c') (h' : Boots data c' c'') : Boots data c c'' := by
  refine ⟨h.unique.trans h'.unique, fun x hx => ?_⟩
  rcases h'.origin x hx with hx' | ⟨hdata, hnew⟩
  · exact h.origin x hx'
  · exact .inr ⟨hdata, fun hused => hnew (hused.issues h.unique.issues)⟩

theorem booted_map {f : SDKServer → SDKServer} {l : List SDKServer}
    (hf : ∀ s, (f s).id = s.id ∧ (f s).labels = s.labels ∧ (f s).userData = s.userData) :
    (l.map f).map (fun s => (s.id, s.labels, s.userData)) = l.map fun s =>
    (s.id, s.labels, s.userData) := by
  rw [List.map_map]
  exact List.map_congr_left fun s _ => by simp [hf s]

theorem booted_addSecurityGroupToServer (serverID groupID : String) (c : Cloud) :
    booted (Cloud.addSecurityGroupToServer serverID groupID c).2 = booted c := by
  unfold Cloud.addSecurityGroupToServer
  split
  · split
    · rfl
    · split
      · rfl
      · exact booted_map fun s => by split <;> exact ⟨rfl, rfl, rfl⟩
  · rfl

theorem booted_removeSecurityGroupFromServer (serverID groupID : String) (c : Cloud) :
    booted (Cloud.removeSecurityGroupFromServer serverID groupID c).2 = booted c := by
  unfold Cloud.removeSecurityGroupFromServer
  split
  · exact booted_map fun s => by split <;> exact ⟨rfl, rfl, rfl⟩
  · rfl

theorem booted_deleteServer (id : String) (c : Cloud) :
    (booted (Cloud.deleteServer id c).2).Sublist (booted c) := by
  unfold Cloud.deleteServer
  split
  · exact List.filter_sublist.map _
  · exact .refl _

theorem cleanupClosed_unboots : CleanupClosed Unboots where
  refl c := ⟨.refl _ c, .refl _⟩
  trans h h' := ⟨h.unique.trans h'.unique, h'.servers.trans h.servers⟩
  deleteServer id c :=
    ⟨(bastionClosed_keepsUnique .server).deleteServer id c, booted_deleteServer id c⟩
  deletePublicIP id c := .of_servers ((bastionClosed_keepsUnique .server).deletePublicIP id c)
    (by unfold Cloud.deletePublicIP; split <;> rfl)
  deleteSecurityGroup id c :=
    .of_servers ((bastionClosed_keepsUnique .server).deleteSecurityGroup id c)
    (by unfold Cloud.deleteSecurityGroup; split <;> rfl)
  removePublicIpFromServer s p c :=
    .of_servers ((bastionClosed_keepsUnique .server).removePublicIpFromServer s p c)
    (by unfold Cloud.removePublicIpFromServer; split <;> rfl)
  removeSecurityGroupFromServer s g c :=
    ⟨(bastionClosed_keepsUnique .server).removeSecurityGroupFromServer s g c,
      by rw [booted_removeSecurityGroupFromServer]⟩
  deleteSecurityGroupRule g r c :=
    .of_servers ((bastionClosed_keepsUnique .server).deleteSecurityGroupRule g r c)
    (by unfold Cloud.deleteSecurityGroupRule; split <;> (try split) <;> rfl)

theorem bastionClosed_boots (data : String) : BastionClosedWith (fun p => p.userData = data)
      (Boots data) where
  refl c := (cleanupClosed_unboots.refl c).boots
  trans := .trans
  deleteServer id c := (cleanupClosed_unboots.deleteServer id c).boots
  deletePublicIP id c := (cleanupClosed_unboots.deletePublicIP id c).boots
  deleteSecurityGroup id c := (cleanupClosed_unboots.deleteSecurityGroup id c).boots
  removePublicIpFromServer s p c := (cleanupClosed_unboots.removePublicIpFromServer s p c).boots
  removeSecurityGroupFromServer s g c :=
    (cleanupClosed_unboots.removeSecurityGroupFromServer s g c).boots
  deleteSecurityGroupRule g r c := (cleanupClosed_unboots.deleteSecurityGroupRule g r c).boots
  createServer p hp c := by
    refine ⟨(bastionClosed_keepsUnique .server).createServer p c, fun x hx => ?_⟩
    simp only [booted, Cloud.createServer, List.map_append, List.map_cons, List.map_nil,
      List.mem_append, List.mem_singleton] at hx
    rcases hx with hx | rfl
    · exact .inl hx
    · exact .inr ⟨hp, fun hused => hused c.issued (Nat.le_refl _) rfl⟩
  createPublicIP l c :=
    (Unboots.of_servers ((bastionClosed_keepsUnique .server).createPublicIP l c) rfl).boots
  createSecurityGroup n d l c :=
    (Unboots.of_servers ((bastionClosed_keepsUnique .server).createSecurityGroup n d l c) rfl).boots
  createSecurityGroupRule g p c :=
    (Unboots.of_servers ((bastionClosed_keepsUnique .server).createSecurityGroupRule g p c)
      (by unfold Cloud.createSecurityGroupRule; split <;> rfl)).boots
  addPublicIpToServer s p c :=
    (Unboots.of_servers ((bastionClosed_keepsUnique .server).addPublicIpToServer s p c)
      (by unfold Cloud.addPublicIpToServer; split <;> (try split) <;> rfl)).boots
  addSecurityGroupToServer s g c :=
    Unboots.boots ⟨(bastionClosed_keepsUnique .server).addSecurityGroupToServer s g c,
      by rw [booted_addSecurityGroupToServer]⟩

/-! ### The invariant -/

/-- `bastionCloudInitHash` for a given hash function. -/
def cloudInitHash (sha256Hex : String → String) (content : String) : String :=
  if content = "" then "" else sha256Hex content

variable {sha : String → String} {sc : StackitCluster}

/-- The recorded hash is that of the user data of the recorded server, and of every server with the
bastion's tags if anything is recorded. -/
structure HashOk (sha : String → String) (sc : StackitCluster) (c : Cloud) : Prop where
  unique : UniqueIDs .server c
  used : sc.status.bastion.serverID ≠ "" → Used sc.status.bastion.serverID c
  recorded : sc.status.bastion.serverID ≠ "" →
    ∀ x ∈ booted c, x.1 = sc.status.bastion.serverID →
    cloudInitHash sha x.2.2 = sc.status.bastion.cloudInitHash
  tagged : ClusterReconciler.hasBastionStatus sc.status.bastion = true →
    ∀ x ∈ booted c, labelsContainTags x.2.1 (bastionTags sc) = true →
    cloudInitHash sha x.2.2 = sc.status.bastion.cloudInitHash

namespace HashOk
variable {sc' : StackitCluster}

theorem congr (h : HashOk sha sc c) (hstatus : sc'.status.bastion = sc.status.bastion)
    (htags : bastionTags sc' = bastionTags sc) :
    HashOk sha sc' c := by
  refine ⟨h.unique, ?_, ?_, ?_⟩
  · rw [hstatus]; exact h.used
  · rw [hstatus]; exact h.recorded
  · rw [hstatus, htags]; exact h.tagged

theorem cleared (hu : UniqueIDs .server c) (hstatus : sc.status.bastion = {}) :
    HashOk sha sc c := by
  refine ⟨hu, fun hne => ?_, fun hne => ?_, fun hhas => ?_⟩
  · rw [hstatus] at hne
    exact absurd rfl hne
  · rw [hstatus] at hne
    exact absurd rfl hne
  · rw [hstatus] at hhas
    cases hhas

/-- New servers come with the content whose hash is recorded, if anything is. -/
theorem boots (h : HashOk sha sc c) (hc : Boots data c c')
    (hdata : ClusterReconciler.hasBastionStatus sc.status.bastion = true →
      cloudInitHash sha data = sc.status.bastion.cloudInitHash) :
    HashOk sha sc c' := by
  refine ⟨hc.unique.unique h.unique, fun hne => (h.used hne).issues hc.unique.issues,
    fun hne x hx hid => ?_,
    fun hhas x hx htagged => ?_⟩
  · rcases hc.origin x hx with hold | ⟨-, hnew⟩
    · exact h.recorded hne x hold hid
    · exact absurd (hid ▸ h.used hne) hnew
  · rcases hc.origin x hx with hold | ⟨hx2, -⟩
    · exact h.tagged hhas x hold htagged
    · rw [hx2]
      exact hdata hhas

theorem unboots (h : HashOk sha sc c) (hc : Unboots c c') : HashOk sha sc c' :=
  ⟨hc.unique.unique h.unique, fun hne => (h.used hne).issues hc.unique.issues,
    fun hne x hx => h.recorded hne x (hc.servers.subset hx), fun hhas x hx =>
    h.tagged hhas x (hc.servers.subset hx)⟩

theorem record (hu : UniqueIDs .server c)
    (hone : Capstk.tagged .server (bastionTags sc) c = [sc.status.bastion.serverID])
    (hhash : ∀ x ∈ booted c, labelsContainTags x.2.1 (bastionTags sc) = true →
      cloudInitHash sha x.2.2 = sc.status.bastion.cloudInitHash) : HashOk sha sc c := by
  obtain ⟨labels, hmem, hlabels⟩ :=
    mem_tagged.1 (show sc.status.bastion.serverID ∈ Capstk.tagged .server (bastionTags sc) c by
    rw [hone]; exact List.mem_singleton.2 rfl)
  refine ⟨hu, fun _ => hu.used _ hmem, fun _ x hx hid => hhash x hx ?_, fun _ => hhash⟩
  -- the ID names one server, so this one carries the tags
  have hx' : (x.1, x.2.1) ∈ labelled .server c := by
    rw [labelled_server]
    exact List.mem_map.2 ⟨x, hx, rfl⟩
  have heq := congrArg Prod.snd (hu.eq hx' hmem hid)
  rw [show x.2.1 = labels from heq]
  exact hlabels

end HashOk

/-! ### A pass -/

namespace ClusterReconciler
variable {env : Env Session} {p : Pass StackitCluster Session}

/-- While nothing is recorded, a server with the bastion's tags was made with the current
content. -/
def ContentSettled (env : Env Session) (sc : StackitCluster) (c : Cloud) : Prop :=
  sc.spec.bastion.enabled = true → hasBastionStatus sc.status.bastion = false →
    ∀ cloudInit, resolveBastionCloudInit env sc = .ok cloudInit →
      ∀ x ∈ booted c, labelsContainTags x.2.1 (bastionTags sc) = true →
        cloudInitHash env.sha256Hex x.2.2 = cloudInitHash env.sha256Hex cloudInit

/-- The invariant for the copy of a pass. -/
abbrev Hashed (sha : String → String) (p : Pass StackitCluster Session) : Prop :=
  HashOk sha p.obj p.cloud.cloud

theorem wp_hashed_cleanup {β : Type} {x : Call Session Unit} {s : Session}
    {next : Unit → Session → Prop} (h : Hashed sha { p with cloud := s })
    (hx : Keeps (fun s t : Session => Unboots s.cloud t.cloud) x)
    (hnext : ∀ t, Hashed sha { p with cloud := t } → next () t) :
    wp x (OrError (fun (_ : Except GoError β) q => Hashed sha q) p next) s := by
  have hend : ∀ t : Session, Unboots s.cloud t.cloud → Hashed sha { p with cloud := t } :=
    fun _ ht => HashOk.unboots h ht
  exact wp_orError (hx.wp s) (fun _ t ht => hnext t (hend t ht)) fun _ t ht => hend t ht

theorem hashed_ensureBastion {cloudInit : String} (h : Hashed env.sha256Hex p)
    (hhash : hasBastionStatus p.obj.status.bastion = true →
      cloudInitHash env.sha256Hex cloudInit = p.obj.status.bastion.cloudInitHash)
    (hsettled : hasBastionStatus p.obj.status.bastion = false → ∀ x ∈ booted p.cloud.cloud,
      labelsContainTags x.2.1 (bastionTags p.obj) = true →
        cloudInitHash env.sha256Hex x.2.2 = cloudInitHash env.sha256Hex cloudInit) :
    wp (ensureBastion env sdkClient cloudInit) (fun _ q => Hashed env.sha256Hex q) p := by
  have hboots :=
    (bastionClosed_boots cloudInit).keeps_ensureBastion (bastionInput p.obj cloudInit) fun _ hp _ =>
    hp
  refine wp_ensureBastion (wp_orError
    ((SDKClient.wp_ensureBastion (bastionInput p.obj cloudInit) p.cloud).and (hboots.wp p.cloud))
    (fun b s ⟨⟨_, hr⟩, hs⟩ => ?_) fun _ s ⟨_, hs⟩ => HashOk.boots h hs hhash)
  have hnew : Hashed env.sha256Hex { p with
      obj := p.obj.setBastionStatus b (bastionCloudInitHash env cloudInit)
      cloud := s } := by
    refine .record (hs.unique.unique h.unique) (hr b rfl).server fun x hx htagged => ?_
    show cloudInitHash env.sha256Hex x.2.2 = cloudInitHash env.sha256Hex cloudInit
    rcases hs.origin x hx with hold | ⟨hdata, -⟩
    · cases hhas : hasBastionStatus p.obj.status.bastion with
      | true => exact (h.tagged hhas x hold htagged).trans (hhash hhas).symm
      | false => exact hsettled hhas x hold htagged
    · rw [hdata]
  exact ⟨fun _ => HashOk.congr hnew rfl rfl, fun _ => HashOk.congr hnew rfl rfl,
    fun _ _ => HashOk.congr hnew rfl rfl⟩

theorem hashed_reconcileBastion (h : Hashed env.sha256Hex p)
    (hsettled : ContentSettled env p.obj p.cloud.cloud) :
    wp (reconcileBastion env sdkClient) (fun _ q => Hashed env.sha256Hex q) p := by
  have hc := cleanupClosed_unboots
  have hcleared : ∀ {s : Session} {sc : StackitCluster},
      Hashed env.sha256Hex { p with cloud := s } → sc.status.bastion = {} →
      Hashed env.sha256Hex { p with obj := sc, cloud := s } :=
    fun hs hsc => .cleared hs.unique hsc
  refine wp_reconcileBastion (fun _ => ?disabled) (fun _ _ _ _ => HashOk.congr h rfl rfl)
    (fun cloudInit _ _ => ?recreate) fun cloudInit hwanted hkeep => ?ensure
  case disabled =>
    exact wp_disableBastion (fun _ => HashOk.congr h rfl rfl) fun _ =>
      wp_hashed_cleanup h (hc.keeps_deleteNodeSSHAccess _) fun _ hs =>
        wp_hashed_cleanup hs (hc.keeps_deleteBastion _ _) fun _ ht => hcleared ht rfl
  case recreate =>
    exact wp_recreateBastion <|
      wp_hashed_cleanup h (keeps_tolerate hc.closed (hc.keeps_deleteNodeSSHAccess _)) fun _ hs =>
        wp_hashed_cleanup hs (keeps_tolerate hc.closed (hc.keeps_deleteBastion _ _)) fun _ ht =>
          hcleared ht rfl
  case ensure =>
    refine hashed_ensureBastion h (fun hhas => ?_) fun hnone =>
      hsettled hwanted.enabled hnone cloudInit hwanted.resolved
    simp only [bastionNeedsRecreate, hhas, Bool.true_and, bne_eq_false_iff_eq] at hkeep
    exact hkeep.symm

end ClusterReconciler

/-! ### A run -/

/-- The StackitCluster as the passes leave it, and the cloud. -/
structure BastionWorld where
  sc : StackitCluster
  cloud : Cloud

inductive BastionAction
  /-- A pass, with the content it resolves; no patch is lost. -/
  | reconcileBastion (env : ClusterReconciler.Env Session) (outcomes : List Outcome)
      (orders : List MapOrder)
  /-- Everything else about the object may change. -/
  | change (f : StackitCluster → StackitCluster)

namespace BastionWorld
variable {w : BastionWorld}

def step (w : BastionWorld) : BastionAction → BastionWorld
  | .reconcileBastion env outcomes orders =>
    let q := (ClusterReconciler.reconcileBastion env sdkClient).after
      { obj := w.sc, stored := w.sc, cloud := { cloud := w.cloud, outcomes, orders } }
    ⟨q.obj, q.cloud.cloud⟩
  | .change f => { w with sc := f w.sc }

/-- All passes hash alike, and only they write the bastion's status. -/
def Regular (sha : String → String) (w : BastionWorld) : BastionAction → Prop
  | .reconcileBastion env _ _ => env.sha256Hex = sha
  | .change f => (f w.sc).status.bastion = w.sc.status.bastion ∧
      bastionTags (f w.sc) = bastionTags w.sc

/-- A pass that finds a server while nothing is recorded comes with the content of that server. -/
def Settled (w : BastionWorld) : BastionAction → Prop
  | .reconcileBastion env _ _ => ClusterReconciler.ContentSettled env w.sc w.cloud
  | .change _ => True

/-- **The hash describes the running bastion.** Start with nothing recorded. In every run in which
no pass meets an unrecorded server of another content, the recorded server, while it exists, was
created with user data of the recorded hash. -/
theorem hash_describes_bastion {as : List BastionAction} (hunique : UniqueIDs .server w.cloud)
    (h₀ : w.sc.status.bastion = {}) (has : Runs.Meets step (Regular sha) w as)
    (hsettled : Runs.Meets step Settled w as) :
    let w' := Runs.run step w as
    w'.sc.status.bastion.serverID ≠ "" → ∀ server ∈ w'.cloud.servers,
    server.id = w'.sc.status.bastion.serverID →
      ∀ env : ClusterReconciler.Env Session, env.sha256Hex = sha →
        w'.sc.status.bastion.cloudInitHash = ClusterReconciler.bastionCloudInitHash
        env server.userData := by
  rintro w' hne server hserver hid env rfl
  have hinv : HashOk env.sha256Hex w'.sc w'.cloud := by
    refine (has.and hsettled).inv (I := fun v : BastionWorld => HashOk env.sha256Hex v.sc v.cloud)
      (.cleared hunique h₀) ?_
    rintro v (⟨env', outcomes, orders⟩ | f) hv ⟨ha, hs⟩
    · have hsha : env'.sha256Hex = env.sha256Hex := ha
      rw [← hsha] at hv ⊢
      exact ClusterReconciler.hashed_reconcileBastion
        (p := { obj := v.sc, stored := v.sc, cloud := { cloud := v.cloud, outcomes, orders } }) hv
        hs
    · exact hv.congr ha.1 ha.2
  exact (hinv.recorded hne (server.id, server.labels, server.userData)
    (List.mem_map.2 ⟨server, hserver, rfl⟩) hid).symm

/-! A bastion whose cloud-init comes from a ConfigMap. -/

def cloudInitCluster : StackitCluster where
  metadata := { name := "c", namespace' := "ns" }
  spec := { bastion := { ClusterWorld.sampleBastion with
    cloudInitRef := some ⟨"ConfigMap", "m", "k"⟩ } }
  status := { network := { id := "n" } }

/-- A pass that finds the given content. -/
def contentPass (content : String) (outcomes : List Outcome) : BastionAction :=
  .reconcileBastion
    { source := .connected, getConfigMap := fun _ => .ok ⟨StringMap.ofList [("k", content)]⟩,
      machines := .ok [],
      controlPlaneMachines := .ok [], sha256Hex := Sha256.hex } outcomes []

def cloudInitWorld : BastionWorld := ⟨cloudInitCluster, { ids := .unary }⟩

/-- The first pass creates the server and fails at the public IP; the content stays. -/
theorem hash_describes_bastion_retried :
    let as :=
      [contentPass "A" (List.replicate 8 .answered ++ [.failedBefore .timeout]), contentPass "A" []]
    let w := Runs.run step cloudInitWorld as
    (∃ server ∈ w.cloud.servers, server.id = w.sc.status.bastion.serverID) ∧
      ∀ server ∈ w.cloud.servers, server.id = w.sc.status.bastion.serverID →
        ∀ env : ClusterReconciler.Env Session, env.sha256Hex = Sha256.hex →
          w.sc.status.bastion.cloudInitHash = ClusterReconciler.bastionCloudInitHash
          env server.userData := by
  intro as w
  have hregular : Runs.Meets step (Regular Sha256.hex) cloudInitWorld as := ⟨rfl, rfl, trivial⟩
  have hsettled : Runs.Meets step Settled cloudInitWorld as := by
    refine ⟨fun _ _ _ _ x hx => (by cases hx), fun _ _ cloudInit hresolve x hx _ => ?_, trivial⟩
    have hcontent : cloudInit = "A" := Except.ok.inj (hresolve.symm.trans (by decide +kernel))
    have hdata : x.2.2 ∈ ["A"] := by
      rw [show ["A"] = (booted (cloudInitWorld.step (as.headD (contentPass "" []))).cloud).map
        (·.2.2) by decide +kernel]
      exact List.mem_map.2 ⟨x, hx, rfl⟩
    rw [hcontent, List.mem_singleton.1 hdata]
  have hunique : UniqueIDs .server cloudInitWorld.cloud := ⟨List.nodup_nil, fun x hx => by cases hx⟩
  refine ⟨?_, hash_describes_bastion hunique rfl hregular hsettled (by decide +kernel)⟩
  decide +kernel

/-- The content changes after the first pass: the second finds the server of the old content and
records the hash of the new one. -/
theorem hash_of_other_content :
    let as :=
      [contentPass "A" (List.replicate 8 .answered ++ [.failedBefore .timeout]), contentPass "B" []]
    let w := Runs.run step cloudInitWorld as
    w.cloud.servers.map (·.id) = [w.sc.status.bastion.serverID] ∧
    w.cloud.servers.map (·.userData) = ["A"] ∧
      w.sc.status.bastion.cloudInitHash = Sha256.hex "B" := by
  intro as w
  refine ⟨by decide +kernel, by decide +kernel, by decide +kernel⟩

end BastionWorld

end Capstk
