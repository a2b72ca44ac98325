import Capstk.Lib.Run
import Capstk.Lib.Sha256
import Capstk.Stepwise
import Capstk.Proofs.ClusterDelete
import Capstk.Proofs.MachineLabels
import Capstk.Proofs.NodeSSH

/-!
# Disabling the bastion while machines are reconciled

A cluster pass that disables the bastion looks the node SSH group up once, deletes what it found and
never looks again. Machine passes that read the cluster before work on the same group, request by
request. What decides is when a machine creates the group: before the look-up of the cluster pass it
is found and deleted, after it nobody does. Two groups are one too many as well: the look-up then
answers with a conflict.
-/

namespace Capstk

open Thread SDKClient

variable {α : Type} {T : StringMap} {s t : Session} {g : String}

/-! ### What the requests do to the groups -/

/-- The request that creates a group with the tags. -/
def creates (T : StringMap) : Request → Bool
  | .createSecurityGroup _ _ labels => labelsContainTags labels T
  | _ => false

/-- A request without failures; only a creation adds to the groups with the tags, and only one. -/
structure Bounded (T : StringMap) (req : Request) (s t : Session) : Prop where
  answered : Answered s → Answered t
  adds : (tagged .securityGroup T t.cloud).length ≤ (tagged .securityGroup T s.cloud).length + 1
  groups : creates T req = false →
    (tagged .securityGroup T t.cloud).Sublist (tagged .securityGroup T s.cloud)

/-- The groups with the tags are gone. -/
def Gone (T : StringMap) (s : Session) : Prop := tagged .securityGroup T s.cloud = []

/-- At most the group `g` is left. -/
structure Doomed (T : StringMap) (g : String) (s : Session) : Prop where
  answered : Answered s
  only : ∀ id ∈ tagged .securityGroup T s.cloud, id = g

theorem Doomed.bounded {req : Request} (h : Doomed T g s) (hb : Bounded T req s t)
    (hreq : creates T req = false) : Doomed T g t :=
  ⟨hb.answered h.answered, fun id hid => h.only id ((hb.groups hreq).subset hid)⟩

theorem Gone.bounded {req : Request} (h : Gone T s) (hb : Bounded T req s t)
    (hreq : creates T req = false) : Gone T t :=
  List.sublist_nil.1 (h ▸ hb.groups hreq)

namespace Stepwise

theorem calls_request {op : String} {req : Request} {effect : Cloud.Effect α}
    (hadds : ∀ c, (tagged .securityGroup T (effect c).2).length ≤
      (tagged .securityGroup T c).length + 1)
    (h : creates T req = false → ∀ c, (tagged .securityGroup T (effect c).2).Sublist
      (tagged .securityGroup T c)) :
    (request op req effect).Calls (Bounded T) := by
  refine .atomically fun s => ⟨preserves_answered s, ?_, fun hreq => ?_⟩
  · exact keeps_request (R := fun c c' => (tagged .securityGroup T c').length ≤
      (tagged .securityGroup T c).length + 1)
      (fun _ => Nat.le_succ _) hadds s
  · exact keeps_request
      (R := fun c c' => (tagged .securityGroup T c').Sublist (tagged .securityGroup T c))
      (fun _ => .refl _) (h hreq) s

theorem calls_shrinks {op : String} {req : Request} {effect : Cloud.Effect α}
    (h : ∀ c, Shrinks c (effect c).2) :
    (request op req effect).Calls (Bounded T) :=
  calls_request (fun c => Nat.le_succ_of_le ((h c).tagged _ T).length_le) fun _ c =>
    (h c).tagged _ T

theorem calls_read {op : String} {req : Request} {effect : Cloud.Effect α} (h : ReadOnly effect) :
    (request op req effect).Calls (Bounded T) := calls_shrinks fun c => .of_eq (h c)

theorem calls_createSecurityGroup (op name description : String) (labels : StringMap) :
    (request op (.createSecurityGroup name description labels)
      (Cloud.createSecurityGroup name description labels)).Calls
      (Bounded T) := by
  have happend : ∀ c : Cloud,
      tagged .securityGroup T (Cloud.createSecurityGroup name description labels c).2 =
        tagged .securityGroup T c ++ if labelsContainTags labels T then [c.ids.newID c.issued]
        else [] := fun c =>
    tagged_append (c := c) (x := (c.ids.newID c.issued, labels))
      (by simp [Cloud.createSecurityGroup, labelled])
  refine calls_request (fun c => ?_) fun hreq c => ?_
  · rw [happend, List.length_append]
    split <;> simp
  · have hlabels : labelsContainTags labels T = false := hreq
    rw [happend, hlabels]
    simp

/-! ### Shapes -/

section shapes
variable {G : Request → Session → Session → Prop}

theorem calls_existingOr {absent : GoError → Bool} {find create : Steps α} (hfind : find.Calls G)
    (hcreate : create.Calls G) :
    (existingOr absent find create).Calls G := by
  refine .bind hfind.attempt fun r => ?_
  cases r with
  | ok a => trivial
  | error e => exact .ite hcreate (.fail e)

theorem calls_tolerate {expected : GoError → Bool} {x : Steps Unit} (h : x.Calls G) :
    (tolerate expected x).Calls G := by
  refine .bind h.attempt fun r => ?_
  cases r with
  | ok a => trivial
  | error e => exact .ite (.pure ()) (.fail e)

theorem calls_single (one many : String) (l : List α) : (single one many l).Calls G := by
  match l with
  | [] => trivial
  | [a] => trivial
  | _ :: _ :: _ => trivial

theorem calls_find {tags : StringMap} {one many : String} {x : Steps (List α)} (h : x.Calls G) :
    (do single one many (← requireTags tags x) : Steps α).Calls G :=
  .bind (.ite (.fail _) h) fun l => calls_single one many l

theorem calls_when' {b : Bool} {x : Steps Unit} (h : x.Calls G) : (when' b x).Calls G :=
  .ite h (.pure ())

theorem calls_idOrFind {recorded : String} {find : Steps String} (h : find.Calls G) :
    (idOrFind recorded find).Calls G :=
  .ite (calls_existingOr h (.pure _)) (.pure _)

end shapes

/-! ### The calls of the two controllers -/

theorem calls_serversFromSDK (tags : StringMap) (l : List SDKServer) :
    (serversFromSDK tags l).Calls (Bounded T) := by
  induction l with
  | nil => trivial
  | cons server rest ih =>
    refine .ite (.bind ?_ fun _ => .bind ih fun _ => .pure _) ih
    exact .bind (calls_read (readOnly_listServerNICs server.id)).attempt fun _ => .pure _

theorem calls_listServersByTags (tags : StringMap) : (listServersByTags tags).Calls (Bounded T) :=
  .ite (.fail _) (.bind (calls_read fun _ => rfl) fun items => calls_serversFromSDK tags items)

theorem calls_findSecurityGroupByTags (tags : StringMap) :
    (findSecurityGroupByTags tags).Calls (Bounded T) :=
  calls_find (.bind (calls_read fun _ => rfl) fun _ => .pure _)

theorem calls_ensureNodeSSHAccess (input : NodeSSHAccessInput) :
    (ensureNodeSSHAccess input).Calls (Bounded T) := by
  refine .ite (.fail _)
    (.ite (.fail _) (.bind ?_ fun group => .bind ?_ fun _ => .bind ?_ fun _ => .pure _))
  · exact calls_existingOr (calls_findSecurityGroupByTags _)
      (.bind (calls_createSecurityGroup _ _ _ _) fun _ => .pure _)
  · refine .ite (.fail _) (.bind (calls_read (readOnly_listSecurityGroupRules _)) fun rules =>
      .ite (.pure ()) ?_)
    exact calls_shrinks fun c => (SameResources.createSecurityGroupRule _ _ c).shrinks
  · exact calls_tolerate
      (calls_shrinks fun c => (SameResources.addSecurityGroupToServer _ _ c).shrinks)

theorem calls_reconcileBastionNodeSSHAccess (ctx : MachineContext) (server : Server) :
    (reconcileBastionNodeSSHAccess ctx server).Calls (Bounded T) :=
  .ite (.pure ())
    (.ite (.fail _) (.ite (.fail _) (.bind (calls_ensureNodeSSHAccess _) fun _ => .pure ())))

theorem calls_removeSecurityGroupFromServer (serverID groupID : String) :
    (removeSecurityGroupFromServer serverID groupID).Calls (Bounded T) :=
  calls_tolerate
    (calls_shrinks fun c => (SameResources.removeSecurityGroupFromServer _ _ c).shrinks)

theorem calls_deleteSecurityGroup (groupID : String) :
    (deleteSecurityGroup groupID).Calls (Bounded T) := by
  refine .bind (.bind (calls_read (readOnly_listSecurityGroupRules groupID)).attempt fun r =>
    ?_) fun _ =>
    calls_tolerate (calls_shrinks (removes_deleteSecurityGroup groupID).shrinks)
  cases r with
  | error e => exact .ite (.pure ()) (.fail e)
  | ok rules =>
    refine .forEach fun rule => .ite (.pure ()) (calls_tolerate (calls_shrinks fun c => ?_))
    exact (SameResources.deleteSecurityGroupRule groupID rule.id c).shrinks

theorem calls_detachAndDelete (tags : StringMap) (groupID : String) :
    (detachAndDelete tags groupID).Calls (Bounded T) :=
  .bind (calls_listServersByTags _) fun _ =>
    .bind (.forEach fun _ => calls_removeSecurityGroupFromServer _ _) fun _ =>
    calls_deleteSecurityGroup groupID

theorem calls_deleteNodeSSHAccess (tags : StringMap) :
    (deleteNodeSSHAccess tags).Calls (Bounded T) := by
  refine .bind (calls_findSecurityGroupByTags tags).attempt fun r => ?_
  cases r with
  | error e => exact .ite (.pure ()) (.fail e)
  | ok group => exact calls_detachAndDelete tags group.id

theorem calls_deleteBastion (input : BastionInput) (status : Bastion) :
    (deleteBastion input status).Calls (Bounded T) := by
  refine .bind
    (calls_idOrFind (.bind (.bind (calls_listServersByTags _) fun l => calls_single _ _ l) fun _ =>
    .pure _)) fun _ =>
    .bind (calls_idOrFind (.bind (calls_find (.bind (calls_read fun _ => rfl) fun _ => .pure _))
      fun _ => .pure _)) fun _ =>
    .bind (calls_idOrFind (.bind (calls_findSecurityGroupByTags _) fun _ => .pure _)) fun _ =>
    .bind (calls_when'
      (calls_tolerate
      (calls_shrinks fun c => (SameResources.removePublicIpFromServer _ _ c).shrinks))) fun _ =>
    .bind (calls_when' (calls_removeSecurityGroupFromServer _ _)) fun _ =>
    .bind (calls_when' (calls_tolerate (calls_shrinks (removes_deleteServer _).shrinks))) fun _ =>
    .bind (calls_when' (calls_tolerate (calls_shrinks (removes_deletePublicIP _).shrinks))) fun _ =>
    calls_when' (calls_deleteSecurityGroup _)

theorem calls_disableBastion (sc : StackitCluster) : (disableBastion sc).Calls (Bounded T) :=
  .bind (calls_deleteNodeSSHAccess _) fun _ => calls_deleteBastion _ _

/-! ### The look-up of the cluster pass -/

theorem cloud_answered {op : String} {req : Request} {effect : Cloud.Effect α} (hs : Answered s) :
    (Capstk.request op req effect s).2.cloud = (effect s.cloud).2 := by
  refine wp_answered (Q := fun _ t => t.cloud = (effect s.cloud).2) hs fun t _ hc => ?_
  rw [hc, perform]
  rcases effect s.cloud with ⟨_ | _, _⟩ <;> rfl

theorem returns_request {op : String} {req : Request} {effect : Cloud.Effect α}
    (h : ∀ c, ∃ a, (effect c).1 = .ok a) : (request op req effect).Returns Answered := by
  intro s hs
  obtain ⟨a, ha⟩ := h s.cloud
  refine ⟨a, wp_answered (Q := fun r _ => r = .ok a) hs fun t _ _ => ?_⟩
  rw [perform]
  rcases heffect : effect s.cloud with ⟨_ | _, _⟩ <;> rw [heffect] at ha <;> cases ha
  rfl

theorem ends_request {op : String} {req : Request} {effect : Cloud.Effect α}
    (h : OnlyMissing effect) :
    (request op req effect).Ends Answered (fun r => ∀ e, r = .error e → isNotFound e = true) := by
  intro s hs
  refine wp_answered (Q := fun r _ => ∀ e, r = .error e → isNotFound e = true) hs fun t _ _ e he =>
    ?_
  rw [perform] at he
  rcases heffect : effect s.cloud with ⟨err | _, _⟩ <;> rw [heffect] at he <;> cases he
  rw [h s.cloud err (by rw [heffect])]
  rfl

theorem returns_tolerate {J : Session → Prop} {expected : GoError → Bool} {x : Steps Unit}
    (h : x.Ends J (fun r => ∀ e, r = .error e → expected e = true)) :
    (tolerate expected x).Returns J := by
  refine .attempt_bind h fun r hr => ?_
  cases r with
  | ok _ => exact .pure ()
  | error e =>
    dsimp only
    rw [if_pos (hr e rfl)]
    exact .pure ()

theorem returns_serversFromSDK (tags : StringMap) (l : List SDKServer) :
    (serversFromSDK tags l).Returns Answered := by
  induction l with
  | nil => exact .pure []
  | cons server rest ih =>
    have hserver : (serverFromSDK server).Returns Answered :=
      .attempt_bind (P := fun _ => True) (fun _ _ => trivial) fun _ _ => .pure _
    exact .ite (hserver.bind fun _ => ih.bind fun _ => .pure _) ih

theorem returns_listServersByTags {tags : StringMap} (h : tags.entries.isEmpty = false) :
    (listServersByTags tags).Returns Answered := by
  rw [listServersByTags, requireTags, if_neg (by simp [h])]
  exact .bind (returns_request fun c => ⟨_, rfl⟩) fun items => returns_serversFromSDK tags items

theorem returns_removeSecurityGroupFromServer (serverID groupID : String) :
    (removeSecurityGroupFromServer serverID groupID).Returns Answered := by
  refine returns_tolerate ((ends_request (onlyMissing_removeSecurityGroupFromServer _ _)).imp
    fun r hr e he => ?_)
  simp [hr e he]

theorem returns_deleteSecurityGroupRules (groupID : String) :
    (deleteSecurityGroupRules groupID).Returns Answered := by
  refine .attempt_bind (ends_request (onlyMissing_listSecurityGroupRules groupID)) fun r hr => ?_
  cases r with
  | error e =>
    dsimp only
    rw [if_pos (hr e rfl)]
    exact .pure ()
  | ok rules =>
    refine .forEach fun rule => .ite (.pure ()) ?_
    exact returns_tolerate (ends_request (onlyMissing_deleteSecurityGroupRule groupID rule.id))

theorem reaches_deleteSecurityGroup : (deleteSecurityGroup g).Reaches (Doomed T g) (Gone T) := by
  refine .bind_right ((returns_deleteSecurityGroupRules g).mono fun _ h => h.answered) fun _ s hs =>
    .inl ?_
  show tagged .securityGroup T (Capstk.request "delete security group" (.deleteSecurityGroup g)
    (Cloud.deleteSecurityGroup g) s).2.cloud = []
  rw [cloud_answered hs.answered, tagged_filter ((removes_deleteSecurityGroup g).this s.cloud)]
  refine List.filter_eq_nil_iff.2 fun id hid => ?_
  simp [hs.only id hid]

theorem nodeSSHAccessTags_nonempty (sc : StackitCluster) :
    (nodeSSHAccessTags sc).entries.isEmpty = false :=
  StringMap.isEmpty_entries_of_lookup (AList.lookup_insert _)

theorem nodeSSHSelector_nonempty (sc : StackitCluster) :
    (clusterServerSelectorFromTags (nodeSSHAccessTags sc)).entries.isEmpty = false := by
  have hself :=
    clusterServerSelector_sub_iff.1 (.refl (clusterServerSelectorFromTags (nodeSSHAccessTags sc)))
  have hmanaged : (nodeSSHAccessTags sc).lookup labelManagedBy = some managedByValue := by
    rw [nodeSSHAccessTags, AList.lookup_insert_ne (by decide)]
    exact clusterTags_managedBy _ _ _
  have hkey := hself labelManagedBy (by decide)
  rw [hmanaged, Option.getD_some] at hkey
  exact StringMap.isEmpty_entries_of_lookup (hkey.resolve_left (by decide))

/-- `DeleteNodeSSHAccess` after its look-up. -/
def afterFind (tags : StringMap) : Except GoError SecurityGroup → Steps Unit
  | .error err => if isNotFound err then pure () else fail err
  | .ok securityGroup => detachAndDelete tags securityGroup.id

/-- `DeleteNodeSSHAccess` after the answer to the request of its look-up. -/
def afterLookup (tags : StringMap) (answer : Except GoError (List SDKSecurityGroup)) :
    Steps Unit := do
  let found ← attempt (do
    let items ← (do
      let items ← (.done answer : Steps (List SDKSecurityGroup))
      pure ((items.filter fun g => labelsContainTags g.labels tags).map securityGroupFromSDK))
    single "security group" "security groups" items)
  afterFind tags found

/-- The request of the look-up. -/
abbrev lookup (tags : StringMap) : Call Session (List SDKSecurityGroup) :=
  Capstk.request "list security groups" (.listSecurityGroups tags) (Cloud.listSecurityGroups tags)

theorem disableBastion_eq (sc : StackitCluster) :
    disableBastion sc = .call (.listSecurityGroups (nodeSSHAccessTags sc))
    (fun s => (lookup (nodeSSHAccessTags sc) s).2) fun s =>
      afterLookup (nodeSSHAccessTags sc) (lookup (nodeSSHAccessTags sc) s).1 >>= fun _ =>
        deleteBastion (bastionInput sc "") (ClusterReconciler.recordedBastion sc.status.bastion) :=
  by
  rw [disableBastion, deleteNodeSSHAccess, findSecurityGroupByTags, requireTags,
    if_neg (by simp [nodeSSHAccessTags_nonempty])]
  rfl

/-- Without failures: nothing is found, or the only group is found and then deleted. -/
theorem afterLookup_cases (sc : StackitCluster) (hs : Answered s)
    (hone : (tagged .securityGroup (nodeSSHAccessTags sc) s.cloud).length ≤ 1) :
    Gone (nodeSSHAccessTags sc) s ∨ ∃ g, Doomed (nodeSSHAccessTags sc) g s ∧
      (afterLookup (nodeSSHAccessTags sc) (lookup (nodeSSHAccessTags sc) s).1).Reaches
        (Doomed (nodeSSHAccessTags sc) g) (Gone (nodeSSHAccessTags sc)) := by
  have hselector := nodeSSHSelector_nonempty sc
  set T := nodeSSHAccessTags sc with hT
  clear_value T
  have hanswer :
      (lookup T s).1 = .ok (s.cloud.securityGroups.filter fun g => labelsContainTags g.labels T) :=
    wp_answered
      (Q := fun r _ =>
      r = .ok (s.cloud.securityGroups.filter fun g => labelsContainTags g.labels T)) hs
      fun _ _ _ => rfl
  set groups := ((s.cloud.securityGroups.filter fun g => labelsContainTags g.labels T).filter
    fun g => labelsContainTags g.labels T).map securityGroupFromSDK with hgroups
  have htagged : tagged .securityGroup T s.cloud = groups.map SecurityGroup.id := by
    simp [hgroups, tagged, labelled, List.filter_filter, List.filter_map, Function.comp_def,
      securityGroupFromSDK]
  have hnext : afterLookup T (lookup T s).1 = attempt
      (single "security group" "security groups" groups) >>= afterFind T := by
    rw [hanswer]
    rfl
  rw [hnext]
  rw [htagged] at hone
  clear_value groups
  rcases groups with _ | ⟨g, _ | ⟨g', rest⟩⟩
  · exact .inl htagged
  · refine .inr ⟨g.id, ⟨hs, fun id hid => ?_⟩, ?_⟩
    · rw [htagged] at hid
      exact List.mem_singleton.1 hid
    · have hanswered : ∀ t, Doomed T g.id t → Answered t := fun _ h => h.answered
      show (detachAndDelete T g.id).Reaches _ _
      refine .bind_right ((returns_listServersByTags hselector).mono hanswered) fun servers => ?_
      refine .bind_right (.forEach fun server => ?_) fun _ => reaches_deleteSecurityGroup
      exact (returns_removeSecurityGroupFromServer server.id g.id).mono hanswered
  · simp at hone

end Stepwise

/-! ### Interleavings -/

/-- The cluster pass, and one of `n` machine passes. -/
inductive Party (n : Nat)
  | cluster
  | machine (i : Fin n)
deriving DecidableEq

/-- The passes as far as they have come. -/
abbrev Race (n : Nat) : Type := Threads (Party n) Request Session GoError Unit

namespace Race
variable {n : Nat} {w : Race n} {i : Party n} {sc : StackitCluster}

/-- A cluster pass that disables the bastion of `sc`, and machine passes that have each read a
StackitCluster and found or created a server. -/
def start (s : Session) (sc : StackitCluster) (machines : List (MachineContext × Server)) :
    Race machines.length where
  shared := s
  threads
    | .cluster => Stepwise.disableBastion sc
    | .machine i => Stepwise.reconcileBastionNodeSSHAccess (machines.get i).1 (machines.get i).2

/-- All passes have come to their end. -/
structure Finished (w : Race n) : Prop where
  cluster : (w.threads .cluster).result.isSome = true
  machines : ∀ i, (w.threads (.machine i)).result.isSome = true

/-- The cluster pass has not made a request yet. -/
def Waiting (w : Race n) : Prop := ∀ x ∈ w.trace, x.1 ≠ .cluster

instance (w : Race n) : Decidable w.Waiting :=
  inferInstanceAs (Decidable (∀ x ∈ w.trace, x.1 ≠ .cluster))

/-- A group with the tags is only created while there is none, and before the cluster pass looks for
it. -/
def Timely (T : StringMap) (w : Race n) (i : Party n) : Prop :=
  (w.threads i).pending.any (creates T) = true → w.Waiting ∧
    tagged .securityGroup T w.shared.cloud = []

instance (T : StringMap) (w : Race n) (i : Party n) : Decidable (Timely T w i) :=
  inferInstanceAs (Decidable ((w.threads i).pending.any (creates T) = true →
    w.Waiting ∧ tagged .securityGroup T w.shared.cloud = []))

/-- The cluster pass has looked the group up: it is gone, or the pass will delete it. -/
inductive Caught (T : StringMap) (w : Race n) : Prop
  | gone (h : Gone T w.shared)
  | doomed (g : String) (h : Doomed T g w.shared)
      (hnext : (w.threads .cluster).Reaches (Doomed T g) (Gone T))

/-- Before the look-up there is at most one group. -/
structure BeforeLookup (sc : StackitCluster) (w : Race n) : Prop where
  waiting : w.Waiting
  cluster : w.threads .cluster = Stepwise.disableBastion sc
  one : (tagged .securityGroup (nodeSSHAccessTags sc) w.shared.cloud).length ≤ 1

structure Inv (sc : StackitCluster) (w : Race n) : Prop where
  answered : Answered w.shared
  calls : ∀ i, (w.threads i).Calls (Bounded (nodeSSHAccessTags sc))
  phase : BeforeLookup sc w ∨ ¬ w.Waiting ∧ Caught (nodeSSHAccessTags sc) w

theorem inv_start {s : Session} {sc : StackitCluster} (hs : Answered s)
    (hone : (tagged .securityGroup (nodeSSHAccessTags sc) s.cloud).length ≤ 1)
    (machines : List (MachineContext × Server)) : Inv sc (start s sc machines) where
  answered := hs
  calls
    | .cluster => Stepwise.calls_disableBastion sc
    | .machine _ => Stepwise.calls_reconcileBastionNodeSSHAccess _ _
  phase := .inl ⟨fun _ hx => (by cases hx), rfl, hone⟩

theorem Caught.turn {T : StringMap} {req : Request} {effect : Session → Session}
    {next : Session → Stepwise.Steps Unit} (h : Caught T w)
    (hi : w.threads i = .call req effect next) (hb : Bounded T req w.shared (effect w.shared))
    (hreq : creates T req = false) : Caught T (w.turn i) := by
  have hturn : w.turn i =
      { shared := effect w.shared, threads := Function.update w.threads i (next w.shared),
        trace := w.trace ++ [(i, req)] } := by
    rw [Threads.turn, hi]
  rw [hturn]
  cases h with
  | gone h => exact .gone (h.bounded hb hreq)
  | doomed g h hnext =>
    by_cases hic : i = .cluster
    · subst hic
      rw [hi] at hnext
      rcases hnext w.shared h with hgone | hnext
      · exact .gone hgone
      · exact .doomed g (h.bounded hb hreq) (by dsimp only; rw [Function.update_self]; exact hnext)
    · exact .doomed g (h.bounded hb hreq)
        (by dsimp only; rw [Function.update_of_ne (Ne.symm hic)]; exact hnext)

theorem BeforeLookup.caught (h : BeforeLookup sc w) (hs : Answered w.shared) :
    Caught (nodeSSHAccessTags sc) (w.turn .cluster) := by
  have hcases := Stepwise.afterLookup_cases sc hs h.one
  set T := nodeSSHAccessTags sc with hT
  have hturn : w.turn .cluster =
      { shared := (Stepwise.lookup T w.shared).2
        threads := Function.update w.threads .cluster
          (Stepwise.afterLookup T (Stepwise.lookup T w.shared).1 >>= fun _ =>
            Stepwise.deleteBastion (bastionInput sc "")
              (ClusterReconciler.recordedBastion sc.status.bastion))
        trace := w.trace ++ [(.cluster, .listSecurityGroups T)] } := by
    rw [Threads.turn, h.cluster, Stepwise.disableBastion_eq]
  have hcloud : (Stepwise.lookup T w.shared).2.cloud = w.shared.cloud := Stepwise.cloud_answered hs
  rw [hturn]
  rcases hcases with hgone | ⟨g, hdoomed, hnext⟩
  · exact .gone (by rw [Gone, hcloud]; exact hgone)
  · refine .doomed g ⟨preserves_answered _ hs, ?_⟩ ?_
    · show ∀ id ∈ tagged .securityGroup T (Stepwise.lookup T w.shared).2.cloud, id = g
      rw [hcloud]
      exact hdoomed.only
    · dsimp only
      rw [Function.update_self]
      exact hnext.bind_left

theorem Inv.turn (h : Inv sc w) (hi : Timely (nodeSSHAccessTags sc) w i) : Inv sc (w.turn i) := by
  rcases w.turn_cases i with heq | ⟨req, effect, next, hcall, heq⟩
  · rw [heq]
    exact h
  have hb : Bounded (nodeSSHAccessTags sc) req w.shared (effect w.shared) := by
    have hcalls := h.calls i
    rw [hcall] at hcalls
    exact hcalls.1 w.shared
  have htrace : (w.turn i).trace = w.trace ++ [(i, req)] := by rw [heq]
  refine ⟨by rw [heq]; exact hb.answered h.answered, Threads.calls_turn h.calls i, ?_⟩
  rcases h.phase with hbefore | ⟨hnot, hcaught⟩
  · by_cases hic : i = .cluster
    · subst hic
      exact .inr ⟨fun hw => hw (.cluster, req) (by rw [htrace]; simp) rfl,
        hbefore.caught h.answered⟩
    · refine .inl ⟨fun x hx => ?_, ?_, ?_⟩
      · rw [htrace, List.mem_append, List.mem_singleton] at hx
        rcases hx with hx | rfl
        · exact hbefore.waiting x hx
        · exact hic
      · rw [heq]
        dsimp only
        rw [Function.update_of_ne (Ne.symm hic)]
        exact hbefore.cluster
      · rw [heq]
        cases hreq : creates (nodeSSHAccessTags sc) req with
        | false => exact (hb.groups hreq).length_le.trans hbefore.one
        | true =>
          have hnone := (hi (by rw [hcall]; exact hreq)).2
          have hadds := hb.adds
          rw [hnone] at hadds
          exact hadds
  · refine .inr ⟨fun hw => hnot fun x hx => hw x (by rw [htrace]; simp [hx]),
      hcaught.turn hcall hb ?_⟩
    cases hreq : creates (nodeSSHAccessTags sc) req with
    | false => rfl
    | true => exact absurd (hi (by rw [hcall]; exact hreq)).1 hnot

theorem Inv.gone (h : Inv sc w) (hdone : (w.threads .cluster).result.isSome = true) :
    Gone (nodeSSHAccessTags sc) w.shared := by
  rcases h.phase with hbefore | ⟨-, hgone | ⟨g, -, hnext⟩⟩
  · rw [hbefore.cluster, Stepwise.disableBastion_eq] at hdone
    cases hdone
  · exact hgone
  · cases hc : w.threads .cluster with
    | done r =>
      rw [hc] at hnext
      exact hnext.elim
    | call req effect next =>
      rw [hc] at hdone
      cases hdone

end Race

/-! ### Later passes -/

namespace MachineReconciler

open Prog in
/-- With the bastion disabled a machine pass leaves the security groups alone. -/
theorem sameGroups_reconcileInstance {ctx : MachineContext}
    (hoff : ctx.stackitCluster.spec.bastion.enabled = false) (data : String) :
    Keeps (fun p q : Pass StackitMachine Session => labelled .securityGroup q.cloud.cloud = labelled
      .securityGroup p.cloud.cloud)
      (reconcileInstance sdkClient ctx data) := by
  intro p
  have hssh : ∀ server, reconcileBastionNodeSSHAccess sdkClient ctx server = pure () :=
    fun server => by
    simp [reconcileBastionNodeSSHAccess, hoff]
  have hensure : wp (ensureServer sdkClient ctx (withCredentials p.obj) data) (fun _ s =>
      labelled .securityGroup s.cloud = labelled .securityGroup p.cloud.cloud) p.cloud := by
    refine (wp_ensureServer ctx _ data p.cloud).imp fun r s hs => ?_
    rcases hs.1 with hsame | ⟨-, -, -, hensured⟩
    · exact congrArg (labelled .securityGroup) hsame
    · exact hensured.others .securityGroup (by decide)
  refine wp_reconcileInstance (Q := fun _ q =>
    labelled .securityGroup q.cloud.cloud = labelled .securityGroup p.cloud.cloud) (p := p)
    hensure (fun server s hs => ?_) (fun _ _ hs _ => hs) fun _ _ hs _ _ => hs
  refine wp_reconcileServer (P := fun _ t => t = s) (fun _ => hs) (fun _ => ?_)
    (fun t ht => ht ▸ hs) fun _ t ht _ => ht ▸ hs
  rw [hssh]
  rfl

open Prog in
theorem wp_reconcile_groups {answers : Answers Session} {p : Pass StackitMachine Session}
    (hctx : ∀ ctx, lookupContext answers = .ok (some ctx) →
      ctx.stackitCluster.spec.bastion.enabled = false ∧
      SDKSource answers.source ctx.stackitCluster) :
    wp (reconcile answers)
      (fun _ q => (labelled .securityGroup q.cloud.cloud).Sublist
        (labelled .securityGroup p.cloud.cloud)) p := by
  refine wp_reconcile (fun _ _ => .refl _) fun ctx hscope => Pass.wp_withDeferredPatch ?_
  obtain ⟨hoff, hsrc⟩ := hctx ctx hscope.owners
  refine wp_reconcileScope (fun _ _ _ _ _ => .refl _) (fun _ _ => ?_) fun _ _ => ?_
  · exact (shrinks_reconcileDelete hsrc).imp fun _ q hq _ _ _ _ => hq .securityGroup
  · refine wp_reconcileNormal_waiting (fun r q hq _ _ _ _ => by rw [hq.cloud])
      fun client data q hclient hq _ _ => ?_
    rw [hsrc client hclient]
    refine ((sameGroups_reconcileInstance hoff data).wp q).imp fun r q' h _ _ _ _ => ?_
    rw [show labelled .securityGroup q'.cloud.cloud = _ from h, hq.cloud]

end MachineReconciler

namespace ClusterReconciler
variable {p q : Pass StackitCluster Session}

theorem DeleteStep.shrinks (h : DeleteStep p q) : Shrinks p.cloud.cloud q.cloud.cloud := by
  cases h with
  | kept h => exact h.cloud
  | finished mid h drop => rw [drop]; exact h.cloud

/-- With the bastion disabled a cluster pass creates no security group. -/
theorem NormalStep.groups (h : NormalStep p q) (hoff : p.obj.spec.bastion.enabled = false) :
    (labelled .securityGroup q.cloud.cloud).Sublist (labelled .securityGroup p.cloud.cloud) := by
  cases h with
  | stopped h => rw [h.resources .securityGroup trivial]
  | reached mid first second kept =>
    have hmid : mid.obj.spec.bastion.enabled = false := by rw [first.bastionSpec]; exact hoff
    rw [← first.resources .securityGroup trivial]
    cases second with
    | untouched status cloud skipped => rw [cloud]
    | cleanupFailed status cloud skipped => exact cloud .securityGroup
    | cleaned status cloud gone skipped => exact cloud .securityGroup
    | ensureFailed enabled => rw [hmid] at enabled; cases enabled
    | ensured enabled => rw [hmid] at enabled; cases enabled

end ClusterReconciler

/-- A whole pass after the race, of the cluster or of some machine. -/
inductive LaterPass
  | cluster (answers : ClusterReconciler.Answers) (env : ClusterReconciler.Env Session)
      (patches : List PatchOutcome)
      (outcomes : List Outcome) (orders : List MapOrder)
  | machine (stored : StackitMachine) (answers : MachineReconciler.Answers Session)
      (patches : List PatchOutcome)
      (outcomes : List Outcome) (orders : List MapOrder)

namespace LaterPass
variable {w : ClusterWorld} {a : LaterPass}

def step (w : ClusterWorld) : LaterPass → ClusterWorld
  | .cluster answers env patches outcomes orders =>
      w.step (.reconcile answers env patches outcomes orders)
  | .machine stored answers patches outcomes orders =>
    { w with
      cloud := (MachineWorld.step ⟨stored, w.cloud⟩
        (.reconcile answers patches outcomes orders)).cloud }

/-- The bastion is disabled in the StackitCluster that the pass reads. -/
def Disabled (w : ClusterWorld) : LaterPass → Prop
  | .cluster _ env _ _ _ => w.stored.spec.bastion.enabled = false ∧ SourceOk env.source w.stored
  | .machine _ answers _ _ _ => ∀ ctx, MachineReconciler.lookupContext answers = .ok (some ctx) →
      ctx.stackitCluster.spec.bastion.enabled = false ∧ SDKSource answers.source ctx.stackitCluster

theorem groups_step (h : Disabled w a) :
    (labelled .securityGroup (step w a).cloud).Sublist (labelled .securityGroup w.cloud) := by
  cases a with
  | machine stored answers patches outcomes orders =>
    exact MachineReconciler.wp_reconcile_groups
      (p := MachineWorld.begin ⟨stored, w.cloud⟩ patches outcomes orders) h
  | cluster answers env patches outcomes orders =>
    obtain ⟨hoff, hsrc⟩ := h
    cases hdel : w.stored.metadata.deleting with
    | true =>
      rcases ClusterWorld.deleteStep answers patches outcomes orders hdel hsrc
        with heq | ⟨p, q, -, -, -, -, hp, hstep, heq⟩
      · rw [step, heq]
      · rw [step, heq, ← hp]
        exact hstep.shrinks .securityGroup
    | false =>
      cases ClusterWorld.passStep answers patches outcomes orders hdel hsrc with
      | idle heq => rw [step, heq]
      | ran p q o hobj _ hp _ _ _ hstep _ _ hq =>
        have hoff' : p.obj.spec.bastion.enabled = false := by rw [hobj.bastionSpec]; exact hoff
        rw [step, hq, ← hp]
        exact hstep.groups hoff'

theorem tagged_step {T : StringMap} (hgone : tagged .securityGroup T w.cloud = [])
    (h : Disabled w a) :
    tagged .securityGroup T (step w a).cloud = [] :=
  List.sublist_nil.1 (hgone ▸ ((groups_step h).filter _).map _)

end LaterPass

namespace Race

/-- **No node SSH group survives a disable** if groups are only created while there is none and
before the cluster pass looks for them: in every such interleaving, when all passes are done,
whatever they have stored, and whatever further passes have run with the bastion disabled, there is
no group with the tags. -/
theorem node_ssh_gone {s : Session} {sc stored : StackitCluster}
    {machines : List (MachineContext × Server)} {schedule : List (Party machines.length)}
    {later : List LaterPass} (hs : Answered s)
    (hone : (tagged .securityGroup (nodeSSHAccessTags sc) s.cloud).length ≤ 1)
    (hrun : Runs.Meets Threads.turn (Timely (nodeSSHAccessTags sc)) (start s sc machines) schedule)
    (hdone : Finished (Runs.run Threads.turn (start s sc machines) schedule))
    (hlater : Runs.Meets LaterPass.step LaterPass.Disabled
      ⟨stored, (Runs.run Threads.turn (start s sc machines) schedule).shared.cloud⟩ later) :
    tagged .securityGroup (nodeSSHAccessTags sc) (Runs.run LaterPass.step
      ⟨stored, (Runs.run Threads.turn (start s sc machines) schedule).shared.cloud⟩ later).cloud =
      [] := by
  have hinv : Inv sc (Runs.run Threads.turn (start s sc machines) schedule) :=
    hrun.inv (inv_start hs hone machines) fun _ _ h hi => h.turn hi
  exact hlater.inv (I := fun w : ClusterWorld => tagged .securityGroup (nodeSSHAccessTags sc)
    w.cloud = [])
    (hinv.gone hdone.cluster) fun _ _ => LaterPass.tagged_step

/-- The cluster and the cloud when the passes of a race are done and the cluster pass has
succeeded. -/
def outcome {n : Nat} (sc : StackitCluster) (w : Race n) : ClusterWorld :=
  ⟨Stepwise.disabled sc, w.shared.cloud⟩

/-! A machine pass that read the cluster `c` while its bastion was enabled, and a cluster pass that
disables it. -/

def sampleCluster (enabled : Bool) : StackitCluster where
  metadata := { name := "c", namespace' := "ns" }
  spec := { ClusterWorld.sampleSpec with bastion := { ClusterWorld.sampleBastion with enabled } }
  status :=
    { ready := true, network := { id := "n" },
      bastion := { serverID := "b", securityGroupID := "g" } }

/-- The bastion `b` with its group `g`, and the node `s`. -/
def sampleSession : Session where
  cloud :=
    { ids := .unary
      servers :=
        [{ id := "b", name := "c-bastion", labels := bastionTags (sampleCluster true),
           securityGroups := ["g"] },
          { id := "s", name := "m", labels := machineTags "c" "ns" "m" "u" ∅ }]
      securityGroups :=
        [{ id := "g", name := "c-bastion", labels := bastionTags (sampleCluster true) }] }

def sampleMachines : List (MachineContext × Server) :=
  [({ cluster := { metadata := { name := "c", namespace' := "ns" },
                   infrastructureRef := { name := "c" } }
      machine := { metadata := { name := "m", namespace' := "ns", uid := "u" } }
      stackitCluster := sampleCluster true }, { id := "s" })]

abbrev sampleStart : Race sampleMachines.length :=
  start sampleSession (sampleCluster false) sampleMachines

/-- All requests of the cluster pass in one go, and all those of the machine pass. -/
def clusterPass : List (Party sampleMachines.length) := List.replicate 16 .cluster
def machinePass : List (Party sampleMachines.length) :=
  List.replicate 16 (.machine ⟨0, Nat.zero_lt_one⟩)

/-- One more pass of each controller. -/
def sampleLater : List LaterPass :=
  [.cluster
    { getOwnerCluster := .ok
        (some { metadata := { name := "c", namespace' := "ns" },
                infrastructureRef := { name := "c" } }) }
      { source := .connected, getConfigMap := fun _ => .error ⟨none, "not found"⟩,
        machines := .ok [],
        controlPlaneMachines := .ok [], sha256Hex := Sha256.hex } [] [] [],
    .machine { metadata := { name := "m", namespace' := "ns" }, spec := {} }
      { MachineWorld.sampleAnswers with getStackitCluster := fun _ => .ok (sampleCluster false) } []
      [] []]

theorem sampleLater_disabled {w : ClusterWorld} (h : w.stored.spec.bastion.enabled = false) :
    Runs.Meets LaterPass.step LaterPass.Disabled w sampleLater := by
  refine ⟨⟨h, .connected _⟩, fun ctx hctx => ?_, trivial⟩
  cases hctx
  exact ⟨rfl, (SourceOk.connected _).sdk⟩

/-- The machine pass comes first: its group is found and deleted. -/
theorem node_ssh_gone_before :
    let T := nodeSSHAccessTags (sampleCluster false)
    let w := Runs.run Threads.turn sampleStart (machinePass)
    let w' := Runs.run Threads.turn sampleStart (machinePass ++ clusterPass)
    tagged .securityGroup T w.shared.cloud = ["i"] ∧
      tagged .securityGroup T
      (Runs.run LaterPass.step (outcome (sampleCluster false) w') sampleLater).cloud = [] := by
  intro T w w'
  have hrun : Runs.Meets Threads.turn (Timely (nodeSSHAccessTags (sampleCluster false)))
      (start sampleSession (sampleCluster false) sampleMachines) (machinePass ++ clusterPass) := by
      decide +kernel
  have hdone : Finished w' := ⟨by decide +kernel, by decide +kernel⟩
  exact ⟨by decide +kernel, node_ssh_gone (s := sampleSession) rfl (by decide +kernel) hrun hdone
    (sampleLater_disabled rfl)⟩

/-- The cluster pass comes first, and the machine pass creates the group after it: the condition
says that the bastion is cleaned up, so no later pass looks for the group again. -/
theorem node_ssh_survives :
    let T := nodeSSHAccessTags (sampleCluster false)
    let w := Runs.run Threads.turn sampleStart (clusterPass ++ machinePass)
    let later := Runs.run LaterPass.step (outcome (sampleCluster false) w) sampleLater
    Answered sampleSession ∧ Finished w ∧
      Runs.Meets LaterPass.step LaterPass.Disabled (outcome (sampleCluster false) w) sampleLater ∧
      ClusterReconciler.bastionSkipped later.stored.conditions = true ∧
      tagged .securityGroup T later.cloud = ["i"] := by
  intro T w later
  refine ⟨rfl, ⟨by decide +kernel, by decide +kernel⟩, sampleLater_disabled rfl, by decide +kernel,
    by decide +kernel⟩

end Race

end Capstk
