import Capstk.Services
import Capstk.Proofs.Answered

/-!
# Detaching the node-SSH group

`DeleteNodeSSHAccess` detaches the group from the servers it finds by the cluster name and namespace
in the tags of the StackitCluster, and then deletes it. The servers carry the name and namespace of
the owning Cluster instead. So the group is detached from every node before its deletion exactly if
the two agree.
-/

namespace Capstk

open Prog SDKClient

variable {s t u : Session} {group server : String} {P : LogEntry → Prop}

/-! ### The order of requests -/

/-- The request was issued between `s` and `t`. -/
def Requested (req : Request) (s t : Session) : Prop :=
  ∃ new, t.log = s.log ++ new ∧ ∃ x ∈ new, x.request = req

namespace Requested
variable {req : Request}

theorem of_request {α : Type} {op : String} {effect : Cloud.Effect α} (s : Session) :
    wp (request op req effect) (fun _ t => Requested req s t) s :=
  wp_request fun _ _ _ _ ht => ⟨_, ht.log, _, List.mem_singleton.2 rfl, rfl⟩

theorem after (h : Requested req t u) (hst : Logs P s t) : Requested req s u := by
  obtain ⟨new, hnew, x, hx, hreq⟩ := h
  obtain ⟨before, hbefore, -⟩ := hst
  exact ⟨before ++ new, by rw [hnew, hbefore, List.append_assoc], x, List.mem_append_right _ hx,
    hreq⟩

theorem before (h : Requested req s t) (htu : Logs P t u) : Requested req s u := by
  obtain ⟨new, hnew, x, hx, hreq⟩ := h
  obtain ⟨more, hmore, -⟩ := htu
  exact ⟨new ++ more, by rw [hmore, hnew, List.append_assoc], x, List.mem_append_left _ hx, hreq⟩

end Requested

/-- Whenever the deletion of the group was requested, it had been detached from the server
before. -/
def DetachedFirst (group server : String) (log : List LogEntry) : Prop :=
  ∀ before x after, log = before ++ x :: after → x.request = .deleteSecurityGroup group →
    ∃ y ∈ before, y.request = .removeSecurityGroupFromServer server group

theorem DetachedFirst.of_logs (h : Logs (fun x => x.request ≠ .deleteSecurityGroup group) s t) :
    DetachedFirst group server (t.log.drop s.log.length) := by
  obtain ⟨new, hnew, hP⟩ := h
  intro before x after heq hx
  rw [hnew, List.drop_left] at heq
  exact absurd hx (hP x (by rw [heq]; simp))

theorem DetachedFirst.of_requested (h : Logs (fun x => x.request ≠ .deleteSecurityGroup group) s t)
    (hreq : Requested (.removeSecurityGroupFromServer server group) s t) (hrest : Logs P t u) :
    DetachedFirst group server (u.log.drop s.log.length) := by
  obtain ⟨new, hnew, hP⟩ := h
  obtain ⟨new', hnew', y, hy, hreqy⟩ := hreq
  obtain ⟨more, hmore, -⟩ := hrest
  obtain rfl : new = new' := List.append_cancel_left (hnew.symm.trans hnew')
  intro before x after heq hx
  rw [hmore, hnew, List.append_assoc, List.drop_left] at heq
  rcases List.append_eq_append_iff.1 heq with ⟨mid, hbefore, -⟩ | ⟨mid, hnewmid, hafter⟩
  · -- the deletion comes after all of `new`
    exact ⟨y, by rw [hbefore]; exact List.mem_append_left _ hy, hreqy⟩
  · cases mid with
    | nil => exact ⟨y, by rw [List.append_nil] at hnewmid; exact hnewmid ▸ hy, hreqy⟩
    | cons z mid =>
      obtain rfl : x = z := by injection hafter
      exact absurd hx (hP x (by rw [hnewmid]; simp))

namespace SDKClient

/-- The loop that detaches the group from every server, if it comes to its end. -/
theorem wp_detachAll (servers : List Server) (s : Session) :
    wp (forEach servers fun server => removeSecurityGroupFromServer server.id group)
      (Via (Logs fun x => x.request ≠ .deleteSecurityGroup group) s fun _ t =>
        ∀ a ∈ servers, Requested (.removeSecurityGroupFromServer a.id group) s t) s := by
  have hR := Logs.closed fun x => x.request ≠ .deleteSecurityGroup group
  induction servers generalizing s with
  | nil => exact .ok (hR.refl s) fun a ha => by cases ha
  | cons b servers ih =>
    have hone : wp (removeSecurityGroupFromServer b.id group)
        (Via (Logs fun x => x.request ≠ .deleteSecurityGroup group) s
          fun _ t => Requested (.removeSecurityGroupFromServer b.id group) s t) s := by
      have hlog : Keeps (Logs fun x => x.request ≠ .deleteSecurityGroup group)
          (removeSecurityGroupFromServer b.id group) :=
        keeps_tolerate hR (logs_request fun _ h => by cases h)
      have hrequested : wp (removeSecurityGroupFromServer b.id group)
          (fun _ t => Requested (.removeSecurityGroupFromServer b.id group) s t) s :=
        wp_tolerate_of (Requested.of_request s) (fun _ _ h _ => h) fun _ _ h _ => h
      exact ((hlog.wp s).and hrequested).imp fun r t ⟨h, h'⟩ => ⟨h, fun _ _ => h'⟩
    refine wp_via_bind hR hone fun _ t hst hb => (ih t).imp fun r u ⟨htu, hall⟩ =>
      ⟨htu, fun a' ha' a ha => ?_⟩
    rcases List.mem_cons.1 ha with rfl | ha
    · exact hb.before htu
    · exact (hall a' ha' a ha).after hst

theorem logs_deleteSecurityGroupRules {id : String} (hlist : ∀ e, P ⟨.listSecurityGroupRules id, e⟩)
    (hrule : ∀ rule e, P ⟨.deleteSecurityGroupRule id rule, e⟩) :
    Keeps (Logs P) (deleteSecurityGroupRules id) := by
  have hR := Logs.closed P
  refine .bind hR (Keeps.attempt (logs_request hlist)) fun r => ?_
  cases r with
  | error e => exact .ite (.pure hR ()) (.fail hR e)
  | ok rules =>
    exact .forEach hR fun rule _ =>
      .ite (.pure hR ()) (keeps_tolerate hR (logs_request (hrule rule.id)))

theorem logs_deleteSecurityGroup {id : String} (hlist : ∀ e, P ⟨.listSecurityGroupRules id, e⟩)
    (hrule : ∀ rule e, P ⟨.deleteSecurityGroupRule id rule, e⟩)
    (hgroup : ∀ e, P ⟨.deleteSecurityGroup id, e⟩) :
    Keeps (Logs P) (deleteSecurityGroup id) :=
  .bind (Logs.closed P) (logs_deleteSecurityGroupRules hlist hrule) fun _ =>
    keeps_tolerate (Logs.closed P) (logs_request hgroup)

theorem requested_deleteSecurityGroup {id : String} (hs : Answered s) :
    wp (deleteSecurityGroup id) (fun _ t => Requested (.deleteSecurityGroup id) s t) s := by
  have hrules : Keeps (Logs fun _ => True) (deleteSecurityGroupRules id) :=
    logs_deleteSecurityGroupRules (fun _ => trivial) fun _ _ => trivial
  unfold deleteSecurityGroup
  rw [wp_bind]
  refine ((wp_deleteSecurityGroupRules_answered hs).and (hrules.wp s)).imp ?_
  rintro r t ⟨⟨_, _, rfl, _⟩, hlog⟩
  rw [next_ok]
  exact wp_tolerate_of (Requested.of_request t) (fun _ u hu _ => hu.after hlog) fun _ u hu _ =>
    hu.after hlog

/-- `DeleteNodeSSHAccess` detaches the group from every server that its selector matches. -/
theorem wp_deleteNodeSSHAccess_detaches (T : StringMap) (s : Session)
    (hserver : server ∈ taggedIDs (clusterServerSelectorFromTags T) s.cloud) :
    wp (deleteNodeSSHAccess T)
      (fun _ t => DetachedFirst group server (t.log.drop s.log.length)) s := by
  have hreads : ∀ {s t : Session}, Reads s t →
      Logs (fun x => x.request ≠ .deleteSecurityGroup group) s t := fun h =>
    h.mono fun x hx heq => by rw [heq] at hx; cases hx
  unfold deleteNodeSSHAccess
  rw [wp_attempt_bind]
  refine ((wp_findSecurityGroupByTags T s).and ((reads_find (by rfl)).wp s)).imp
    fun r t ⟨⟨hc, _⟩, hread⟩ => ?_
  cases r with
  | error e => exact wp_ite (fun _ => .of_logs (hreads hread)) fun _ => .of_logs (hreads hread)
  | ok g =>
    rw [wp_bind]
    refine ((wp_listServersByTags (clusterServerSelectorFromTags T) t).and
      ((reads_listServersByTags (clusterServerSelectorFromTags T)).wp t)).imp
      fun r' t' ⟨⟨_, hr'⟩, hread'⟩ => ?_
    have hlog := (hreads hread).trans (hreads hread')
    cases r' with
    | error e => exact .of_logs hlog
    | ok servers =>
      have hids : servers.map (·.id) = taggedIDs (clusterServerSelectorFromTags T) t.cloud := hr'
      rw [hc] at hids
      rw [next_ok, wp_bind]
      by_cases hg : g.id = group
      · subst hg
        refine (wp_detachAll servers t').imp fun r'' u ⟨hu, hdetached⟩ => ?_
        cases r'' with
        | error e => exact .of_logs (hlog.trans hu)
        | ok _ =>
          obtain ⟨a, ha, haid⟩ := List.mem_map.1 (hids ▸ hserver)
          rw [next_ok]
          have hrest : Keeps (Logs fun _ => True) (deleteSecurityGroup g.id) :=
            logs_deleteSecurityGroup (fun _ => trivial) (fun _ _ => trivial) fun _ => trivial
          refine (hrest.wp u).imp fun r₃ v hv => ?_
          exact .of_requested (hlog.trans hu) (haid ▸ (hdetached () rfl a ha).after hlog) hv
      · -- another group is deleted
        have hR := Logs.closed fun x => x.request ≠ .deleteSecurityGroup group
        have hother : Keeps (Logs fun x => x.request ≠ .deleteSecurityGroup group)
            (do forEach servers fun server => removeSecurityGroupFromServer server.id g.id
                deleteSecurityGroup g.id : Call Session Unit) := by
          refine .bind hR
            (.forEach hR fun a _ => keeps_tolerate hR (logs_request fun _ h => by cases h)) fun _ =>
            ?_
          exact logs_deleteSecurityGroup (fun _ h => by cases h) (fun _ _ h => by cases h)
            fun _ h => hg (by injection h)
        rw [← wp_bind]
        exact (hother.wp t').imp fun r₃ v hv => .of_logs (hlog.trans hv)

end SDKClient

/-! ### The selector -/

section selector
variable {T sel m : StringMap} {key : String}

/-- One step of the loop in `clusterServerSelectorFromTags`. -/
def selectorStep (T sel : StringMap) (key : String) : StringMap :=
  match (T.lookup key).getD "" with
  | "" => sel
  | value => sel.insert key value

theorem selectorStep_eq : selectorStep T sel key =
    if (T.lookup key).getD "" = "" then sel else sel.insert key ((T.lookup key).getD "") := by
  unfold selectorStep
  split
  · rename_i h
    rw [if_pos h]
  · rename_i h
    rw [if_neg h]

theorem selectorStep_sub_iff (hkey : key ∉ sel) :
    (selectorStep T sel key).Sub m ↔ sel.Sub m ∧
    ((T.lookup key).getD "" = "" ∨ m.lookup key = some ((T.lookup key).getD "")) := by
  rw [selectorStep_eq]
  split
  · rename_i h
    simp [h]
  · rename_i h
    rw [StringMap.Sub.insert_left_iff hkey]
    simp [h]

theorem not_mem_selectorStep {key' : String} (hne : key' ≠ key) (hsel : key' ∉ sel) :
    key' ∉ selectorStep T sel key := by
  rw [selectorStep_eq]
  split
  · exact hsel
  · rw [AList.mem_insert]
    exact fun h => h.elim hne hsel

theorem clusterServerSelector_sub_iff : (clusterServerSelectorFromTags T).Sub m ↔
    ∀ key ∈ clusterServerSelectorKeys, (T.lookup key).getD "" = "" ∨
    m.lookup key = some ((T.lookup key).getD "") := by
  show (selectorStep T (selectorStep T (selectorStep T ∅ labelClusterName) labelClusterNamespace)
    labelManagedBy).Sub m ↔ _
  have h₁ : labelClusterNamespace ∉ selectorStep T ∅ labelClusterName :=
    not_mem_selectorStep (by decide) (AList.notMem_empty _)
  have h₂ : labelManagedBy ∉
      selectorStep T (selectorStep T ∅ labelClusterName) labelClusterNamespace :=
    not_mem_selectorStep (by decide) (not_mem_selectorStep (by decide) (AList.notMem_empty _))
  have hempty : StringMap.Sub ∅ m := fun k v h => by simp at h
  rw [selectorStep_sub_iff h₂, selectorStep_sub_iff h₁, selectorStep_sub_iff (AList.notMem_empty _)]
  simp [clusterServerSelectorKeys, hempty, and_assoc]

end selector

/-- The name and the namespace in the selector of the StackitCluster are those of the owning
Cluster. -/
def SelectsNodes (sc : StackitCluster) (cluster : Cluster) : Prop :=
  (sc.metadata.name = "" ∨ sc.metadata.name = cluster.metadata.name) ∧
    (sc.metadata.namespace' = "" ∨ sc.metadata.namespace' = cluster.metadata.namespace')

theorem selector_matches_iff (sc : StackitCluster) (ctx : MachineContext) (sm : StackitMachine) :
    labelsContainTags (ctx.tags sm) (clusterServerSelectorFromTags (nodeSSHAccessTags sc)) = true ↔
    SelectsNodes sc ctx.cluster := by
  have hkey : ∀ {k v}, k ≠ labelResourceRole → sc.tags.lookup k = some v →
      ((nodeSSHAccessTags sc).lookup k).getD "" = v :=
    fun hne hk => by rw [nodeSSHAccessTags, AList.lookup_insert_ne hne, hk]; rfl
  rw [labelsContainTags_iff, clusterServerSelector_sub_iff]
  simp only [clusterServerSelectorKeys, List.forall_mem_cons, List.not_mem_nil, false_imp_iff,
    implies_true, and_true,
    hkey (show labelClusterName ≠ labelResourceRole by decide) (clusterTags_clusterName ..),
    hkey (show labelClusterNamespace ≠ labelResourceRole by decide)
    (clusterTags_clusterNamespace ..),
    hkey (show labelManagedBy ≠ labelResourceRole by decide) (clusterTags_managedBy ..),
    MachineContext.tags, machineTags_clusterName, machineTags_clusterNamespace,
    machineTags_managedBy,
    Option.some.injEq, or_true, SelectsNodes, eq_comm (a := ctx.cluster.metadata.name),
    eq_comm (a := ctx.cluster.metadata.namespace')]

/-! ### All nodes -/

/-- Every deletion of a node-SSH group by the StackitCluster detaches it first from the servers of
the Cluster's machines that it is attached to. -/
def DetachesNodes (sc : StackitCluster) (cluster : Cluster) : Prop :=
  ∀ (s : Session) (ctx : MachineContext) (sm : StackitMachine) (server :
    SDKServer) (group : String),
    ctx.cluster = cluster → server ∈ s.cloud.servers → server.labels = ctx.tags sm →
    group ∈ server.securityGroups →
    DetachedFirst group server.id (((deleteNodeSSHAccess (nodeSSHAccessTags sc)).after s).log.drop
      s.log.length)

/-- One node with a group attached to it that belongs to the StackitCluster. -/
def nodeCloud (sc : StackitCluster) (labels : StringMap) : Cloud where
  ids := .unary
  servers :=
    [{ id := "n", name := "m", labels, nics := [⟨"nic", "", ""⟩], securityGroups := ["g"] }]
  securityGroups := [{ id := "g", name := "ssh", labels := nodeSSHAccessTags sc }]

/-- The deletion asks for the servers of another cluster, so it detaches nothing. -/
theorem wp_deleteNodeSSHAccess_unselected {sc : StackitCluster} {labels : StringMap}
    (hno : labelsContainTags labels (clusterServerSelectorFromTags (nodeSSHAccessTags sc)) =
      false) :
    let s : Session := { cloud := nodeCloud sc labels }
    wp (deleteNodeSSHAccess (nodeSSHAccessTags sc))
      (fun _ t => Logs (fun x => ∀ a, x.request ≠ .removeSecurityGroupFromServer a "g") s t ∧
        Requested (.deleteSecurityGroup "g") s t) s := by
  intro s
  set T := nodeSSHAccessTags sc with hT
  set sel := clusterServerSelectorFromTags T with hsel
  have hreads : ∀ {s t : Session}, Reads s t →
      Logs (fun x => ∀ a, x.request ≠ .removeSecurityGroupFromServer a "g") s t :=
    fun h => h.mono fun x hx a heq => by rw [heq] at hx; cases hx
  have hgroup : tagged .securityGroup T s.cloud = ["g"] := by
    simp [tagged, labelled, s, nodeCloud, hT]
  have hservers : taggedIDs sel s.cloud = [] := by
    simp [tagged, labelled, s, nodeCloud, hno]
  have hnonempty : T.entries.isEmpty = false :=
    StringMap.isEmpty_entries_of_lookup (AList.lookup_insert _)
  have hselne : sel.entries.isEmpty = false := by
    rw [Bool.eq_false_iff]
    intro hempty
    rw [labelsContainTags, StringMap.subB, List.isEmpty_iff.1 hempty] at hno
    cases hno
  unfold deleteNodeSSHAccess
  rw [wp_attempt_bind]
  have hfind : wp (findSecurityGroupByTags T) FoundOrNone s :=
    wp_find_answered Cloud.securityGroups SDKSecurityGroup.labels securityGroupFromSDK
      SecurityGroup.id (fun _ => rfl)
      (fun _ => rfl) (by rfl) hnonempty (by rw [hgroup]; exact Nat.le_refl 1)
  refine (((wp_findSecurityGroupByTags T s).and hfind).and ((reads_find (by rfl)).wp s)).imp ?_
  rintro r t ⟨⟨⟨hc, hr⟩, ht, hnf⟩, hread⟩
  cases r with
  | error e =>
    have hnone : tagged .securityGroup T s.cloud = [] := hr (hnf e rfl)
    rw [hgroup] at hnone
    cases hnone
  | ok g =>
    have hg : tagged .securityGroup T s.cloud = [g.id] := hr
    rw [hgroup] at hg
    have hgid : g.id = "g" := by
      injection hg with hgid
      exact hgid.symm
    rw [wp_bind]
    refine ((wp_listServersByTags_answered ht hselne).and
      ((reads_listServersByTags sel).wp t)).imp ?_
    rintro r' u ⟨⟨hu, servers, rfl, hids⟩, hread'⟩
    rw [hc, hservers, List.map_eq_nil_iff] at hids
    subst hids
    have hbefore := (hreads hread).trans (hreads hread')
    rw [next_ok, wp_bind, forEach, wp_pure, next_ok, hgid]
    have hkeep : Keeps (Logs fun x => ∀ a, x.request ≠ .removeSecurityGroupFromServer a "g")
        (deleteSecurityGroup "g") :=
      logs_deleteSecurityGroup (fun _ _ h => by cases h) (fun _ _ _ h => by cases h)
        fun _ _ h => by cases h
    exact ((hkeep.wp u).and (requested_deleteSecurityGroup hu)).imp fun r₃ v h =>
      ⟨hbefore.trans h.1, h.2.after hbefore⟩

theorem not_detachedFirst {sc : StackitCluster} {labels : StringMap}
    (hno : labelsContainTags labels (clusterServerSelectorFromTags (nodeSSHAccessTags sc)) =
      false) :
    let s : Session := { cloud := nodeCloud sc labels }
    ¬ DetachedFirst "g" "n"
    (((deleteNodeSSHAccess (nodeSSHAccessTags sc)).after s).log.drop s.log.length) := by
  intro s hfirst
  obtain ⟨⟨new, hnew, hP⟩, new', hnew', x, hx, hdelete⟩ := wp_deleteNodeSSHAccess_unselected hno
  obtain rfl : new = new' := List.append_cancel_left (hnew.symm.trans hnew')
  obtain ⟨before, after, rfl⟩ := List.append_of_mem hx
  change DetachedFirst "g" "n" ((deleteNodeSSHAccess (nodeSSHAccessTags sc) s).2.log.drop
    s.log.length) at hfirst
  rw [hnew, List.drop_left] at hfirst
  obtain ⟨y, hy, hreq⟩ := hfirst before x after rfl hdelete
  exact hP y (List.mem_append_left _ hy) "n" hreq

/-- **Node SSH access is detached from every node** exactly if the StackitCluster has the name and
the namespace of the Cluster that owns it. -/
theorem detaches_nodes_iff (sc : StackitCluster) (cluster : Cluster) :
    DetachesNodes sc cluster ↔ SelectsNodes sc cluster := by
  constructor
  · intro h
    by_contra hno
    let ctx : MachineContext :=
      { cluster, machine := { metadata := { name := "m", namespace' := "ns" } },
        stackitCluster := sc }
    let sm : StackitMachine := { metadata := { name := "m", namespace' := "ns" }, spec := {} }
    have hmiss : labelsContainTags (ctx.tags sm)
        (clusterServerSelectorFromTags (nodeSSHAccessTags sc)) = false := by
      rw [Bool.eq_false_iff]
      exact fun hmatch => hno ((selector_matches_iff sc ctx sm).1 hmatch)
    exact not_detachedFirst hmiss (h { cloud := nodeCloud sc (ctx.tags sm) } ctx sm _ "g" rfl
      (List.mem_singleton.2 rfl) rfl (List.mem_singleton.2 rfl))
  · intro h s ctx sm server group hcluster hserver hlabels _
    refine wp_deleteNodeSSHAccess_detaches (nodeSSHAccessTags sc) s
      (mem_tagged.2 ⟨server.labels, List.mem_map.2 ⟨server, hserver, rfl⟩, ?_⟩)
    rw [hlabels]
    exact (selector_matches_iff sc ctx sm).2 (hcluster ▸ h)

/-- The StackitCluster `c-x7k2p` of the Cluster `c`, as a ClusterClass names it: the group of the
node `n` is deleted while it is attached, and never detached. -/
theorem node_left_attached :
    let sc : StackitCluster := { metadata := { name := "c-x7k2p", namespace' := "ns" }, spec := {} }
    let s : Session := { cloud := nodeCloud sc (machineTags "c" "ns" "m" "u" ∅) }
    let t := (deleteNodeSSHAccess (nodeSSHAccessTags sc)).after s
    (deleteNodeSSHAccess (nodeSSHAccessTags sc)).outcome s = .ok () ∧
    t.cloud.securityGroups.map (·.id) = [] ∧
      t.cloud.servers.map (·.securityGroups) = [["g"]] ∧
      (t.log.filterMap fun x => match x.request with
        | .removeSecurityGroupFromServer server group => some (server, group)
        | _ => none) = [] := by
  intro sc s t
  refine ⟨by decide +kernel, by decide +kernel, by decide +kernel, by decide +kernel⟩

end Capstk
