import Capstk.Proofs.Answered
import Capstk.Proofs.LoadBalancers

/-!
# Calls that find everything in place

`Repeats c x a` says that over the cloud `c`, without failures, the call `x` answers `a`, leaves the
cloud as it is and asks for nothing that could change it: what it issues are reads, and the security
group attachment, which the cloud refuses when there is nothing to do.
-/

namespace Capstk

open Prog

variable {α β : Type} {c : Cloud} {T : StringMap} {s t u : Session}

/-- A read, or the attachment of a security group. -/
def Request.isHarmless : Request → Bool
  | .addSecurityGroupToServer _ _ => true
  | req => req.isRead

theorem Request.isHarmless_of_isRead {req : Request} (h : req.isRead = true) :
    req.isHarmless = true := by
  cases req <;> first | rfl | exact h

/-- Nothing has happened from `s` to `t` but harmless requests. -/
structure Stays (s t : Session) : Prop where
  answered : Answered t
  cloud : t.cloud = s.cloud
  log : Logs (fun x => x.request.isHarmless = true) s t

theorem Stays.refl (h : Answered s) : Stays s s := ⟨h, rfl, .refl _ s⟩

theorem Stays.trans (h : Stays s t) (h' : Stays t u) : Stays s u :=
  ⟨h'.answered, h'.cloud.trans h.cloud, h.log.trans h'.log⟩

def Repeats (c : Cloud) (x : Call Session α) (a : α) : Prop :=
  ∀ s, Answered s → s.cloud = c → wp x (fun r t => r = .ok a ∧ Stays s t) s

namespace Repeats
variable {a : α} {b : β}

theorem pure (a : α) : Repeats c (Pure.pure a) a := fun _ hs _ => ⟨rfl, .refl hs⟩

/-- The rule for what follows a call in a larger program. -/
theorem wp {x : Call Session α} {Q : Except GoError α → Session → Prop} (h : Repeats c x a)
    (hs : Answered s) (hc : s.cloud = c) (hQ : ∀ t, Stays s t → Q (.ok a) t) : Prog.wp x Q s := by
  refine (h s hs hc).imp fun r t hr => ?_
  obtain ⟨rfl, ht⟩ := hr
  exact hQ t ht

theorem bind {x : Call Session α} {f : α → Call Session β} (hx : Repeats c x a)
    (hf : Repeats c (f a) b) :
    Repeats c (x >>= f) b := by
  intro s hs hc
  rw [wp_bind]
  refine hx.wp hs hc fun t ht => ?_
  rw [next_ok]
  refine hf.wp ht.answered (ht.cloud.trans hc) fun u hu => ⟨rfl, ht.trans hu⟩

theorem attempt_bind {x : Call Session α} {f : Except GoError α → Call Session β}
    (hx : Repeats c x a) (hf : Repeats c (f (.ok a)) b) : Repeats c (attempt x >>= f) b := by
  intro s hs hc
  rw [wp_attempt_bind]
  refine hx.wp hs hc fun t ht => ?_
  exact hf.wp ht.answered (ht.cloud.trans hc) fun u hu => ⟨rfl, ht.trans hu⟩

theorem existingOr {absent : GoError → Bool} {find create : Call Session α} (h : Repeats c find a) :
    Repeats c (existingOr absent find create) a := h.attempt_bind (.pure a)

theorem requireTags {x : Call Session α} (hT : T.entries.isEmpty = false) (h : Repeats c x a) :
    Repeats c (SDKClient.requireTags T x) a := by
  rw [SDKClient.requireTags, hT]
  exact h

theorem forEach {l : List β} {f : β → Call Session Unit} (h : ∀ b ∈ l, Repeats c (f b) ()) :
    Repeats c (Prog.forEach l f) () := by
  induction l with
  | nil => exact .pure ()
  | cons b bs ih =>
    exact (h b List.mem_cons_self).bind (ih fun b' hb' => h b' (List.mem_cons_of_mem _ hb'))

end Repeats

theorem wp_harmless {op : String} {req : Request} {effect : Cloud.Effect α}
    {Q : Except GoError α → Session → Prop} (hreq : req.isHarmless = true)
    (heffect : (effect s.cloud).2 = s.cloud) (hs : Answered s)
    (hQ : ∀ t, Stays s t → Q (perform op effect s.cloud).1 t) : wp (request op req effect) Q s := by
  have hlog :
      wp (request op req effect) (fun _ t => Logs (fun x => x.request.isHarmless = true) s t) s :=
    (logs_request fun _ => hreq).wp s
  have hanswered : wp (request op req effect) (fun r t => r = (perform op effect s.cloud).1 ∧
      Answered t ∧
        t.cloud = (perform op effect s.cloud).2) s := wp_answered hs fun t ht hc => ⟨rfl, ht, hc⟩
  have hcloud : (perform op effect s.cloud).2 = s.cloud :=
    (settle_cloud .answered s.cloud).trans heffect
  refine (hlog.and hanswered).imp fun r t h => ?_
  obtain ⟨hlog, rfl, ht, hc⟩ := h
  exact hQ t ⟨ht, hc.trans hcloud, hlog⟩

theorem repeats_request {op : String} {req : Request} {effect : Cloud.Effect α} {a : α}
    (hreq : req.isRead = true) (heffect : effect c = (.ok a, c)) :
    Repeats c (request op req effect) a := by
  rintro s hs rfl
  refine wp_harmless (Request.isHarmless_of_isRead hreq) (by rw [heffect]) hs fun t ht => ⟨?_, ht⟩
  rw [perform, heffect]

theorem wp_answered_bind {op : String} {req : Request} {effect : Cloud.Effect α}
    {f : α → Call Session β} {a : α} {c' : Cloud} {Q : Except GoError β → Session → Prop}
    (hs : Answered s) (heffect : effect s.cloud = (.ok a, c'))
    (hf : ∀ t, Answered t → t.cloud = c' → wp (f a) Q t) :
    wp (request op req effect >>= f) Q s := by
  rw [wp_bind]
  refine wp_answered hs fun t ht hc => ?_
  rw [perform, heffect] at hc ⊢
  exact hf t ht hc

theorem wp_missing_bind {op : String} {req : Request} {effect : Cloud.Effect α}
    {f : α → Call Session β} (hreq : req.isRead = true) (heffect : effect s.cloud = s.cloud.missing)
    (hs : Answered s) :
    wp (request op req effect >>= f) (fun r t => Stays s t ∧ ∃ e, r = .error e) s := by
  rw [wp_bind]
  refine wp_harmless (Request.isHarmless_of_isRead hreq) (by rw [heffect]; rfl) hs fun t ht => ?_
  rw [perform, heffect]
  exact ⟨ht, _, rfl⟩

/-! ### Look-ups -/

/-- What a look-up by tags among `l` says: the one that matches, or why there is not one. -/
def Looked (T : StringMap) (l : List α) (s : Session) (r : Except GoError α) (t : Session) : Prop :=
  Stays s t ∧ match r with
    | .ok a => T.entries.isEmpty = false ∧ l = [a]
    | .error e => isNotFound e = true ∨ isLoadBalancerServiceNotEnabled e = true →
        T.entries.isEmpty = false ∧ l = []

section lookup
variable {one many : String} {list : Call Session (List α)} {l : List α} {a : α}

theorem wp_lookup (hlist : Repeats c list l) (hs : Answered s) (hc : s.cloud = c) :
    wp (do SDKClient.single one many (← SDKClient.requireTags T list)) (Looked T l s) s := by
  rw [wp_bind]
  -- neither of the two kinds of error comes from the tags or from too many items
  have hother : ∀ {S : Sentinel} {d : String}, S ≠ .errNotFound → S ≠ .errUnauthorized →
      ¬ (isNotFound (errorf S d) = true ∨ isLoadBalancerServiceNotEnabled (errorf S d) = true) := by
    intro S d hnf hun
    rw [isNotFound_errorf,
      isLoadBalancerServiceNotEnabled_of_not (by cases S <;> first | rfl | contradiction)]
    simp [hnf]
  refine wp_ite (fun _ => ⟨.refl hs, fun h => absurd h (hother (by decide) (by decide))⟩) fun hT =>
    hlist.wp hs hc fun t ht => ?_
  have hne : T.entries.isEmpty = false := by simpa using hT
  rw [next_ok]
  exact wp_single (fun hl => ⟨ht, fun _ => ⟨hne, hl⟩⟩) (fun a hl => ⟨ht, hne, hl⟩) fun _ =>
    ⟨ht, fun h => absurd h (hother (by decide) (by decide))⟩

theorem repeats_lookup (hlist : Repeats c list l) (hT : T.entries.isEmpty = false) (hl : l = [a]) :
    Repeats c (do SDKClient.single one many (← SDKClient.requireTags T list)) a := by
  subst hl
  exact (hlist.requireTags hT).bind (.pure a)

end lookup

/-- A list request, and what the SDK client makes of its items. -/
theorem repeats_list {op : String} {req : Request} {effect : Cloud.Effect (List α)}
    {list : Cloud → List α} {labels : α → StringMap} {present : α → β} (hreq : req.isRead = true)
    (heffect : ∀ c, effect c = (.ok ((list c).filter fun x => labelsContainTags (labels x) T), c)) :
    Repeats c (do
      let items ← request op req effect
      pure ((items.filter fun x => labelsContainTags (labels x) T).map present))
      (((list c).filter fun x => labelsContainTags (labels x) T).map present) := by
  refine .bind (repeats_request hreq (heffect c)) ?_
  simp only [List.filter_filter, Bool.and_self]
  exact .pure _

namespace SDKClient

def groupsOf (T : StringMap) (c : Cloud) : List SecurityGroup :=
  (c.securityGroups.filter fun g => labelsContainTags g.labels T).map securityGroupFromSDK

def publicIPsOf (T : StringMap) (c : Cloud) : List PublicIP :=
  (c.publicIPs.filter fun p => labelsContainTags p.labels T).map publicIPFromSDK

def networksOf (T : StringMap) (c : Cloud) : List Network :=
  (c.networks.filter fun n => labelsContainTags n.labels T).map networkFromSDK

/-- A server as `serverFromSDK` presents it. -/
def serverOf (c : Cloud) (x : SDKServer) : Server where
  id := x.id
  name := x.name
  state := x.status
  powerStatus := x.powerStatus
  availabilityZone := x.availabilityZone
  addresses := (((c.servers.find? (·.id == x.id)).map (·.nics)).getD []).flatMap nicAddresses

def serversOf (T : StringMap) (c : Cloud) : List Server :=
  (c.servers.filter fun x => labelsContainTags x.labels T).map (serverOf c)

def loadBalancersOf (T : StringMap) (c : Cloud) : List LoadBalancer :=
  (c.loadBalancers.filter fun l => lbCarries T l.labels).map loadBalancerFromSDK

theorem repeats_listGroups : Repeats c (do
    let items ← request "list security groups" (.listSecurityGroups T) (Cloud.listSecurityGroups T)
    pure ((items.filter fun g => labelsContainTags g.labels T).map securityGroupFromSDK))
      (groupsOf T c) :=
  repeats_list rfl fun _ => rfl

theorem repeats_listPublicIPs : Repeats c (do
    let items ← request "list public IPs" (.listPublicIPs T) (Cloud.listPublicIPs T)
    pure ((items.filter fun p => labelsContainTags p.labels T).map publicIPFromSDK))
      (publicIPsOf T c) :=
  repeats_list rfl fun _ => rfl

theorem repeats_listNetworks : Repeats c (do
    let items ← request "list networks" (.listNetworks T) (Cloud.listNetworks T)
    pure ((items.filter fun n => labelsContainTags n.labels T).map networkFromSDK))
      (networksOf T c) :=
  repeats_list rfl fun _ => rfl

theorem repeats_serverFromSDK (x : SDKServer) : Repeats c (serverFromSDK x) (serverOf c x) := by
  rintro s hs rfl
  unfold serverFromSDK
  rw [wp_attempt_bind]
  refine wp_harmless rfl (readOnly_listServerNICs _ _) hs fun t ht => ⟨?_, ht⟩
  rw [perform, Cloud.listServerNICs, serverOf]
  cases s.cloud.servers.find? (·.id == x.id) with
  | none => rfl
  | some y => rfl

theorem repeats_serversFromSDK (l : List SDKServer) :
    Repeats c (serversFromSDK T l)
      ((l.filter fun x => labelsContainTags x.labels T).map (serverOf c)) := by
  induction l with
  | nil => exact .pure []
  | cons x l ih =>
    unfold serversFromSDK
    by_cases hx : labelsContainTags x.labels T = true
    · rw [if_pos hx, List.filter_cons, if_pos hx]
      exact (repeats_serverFromSDK x).bind (ih.bind (.pure _))
    · rw [if_neg hx, List.filter_cons, if_neg hx]
      exact ih

theorem repeats_listServers : Repeats c (do
    let items ← request "list servers" (.listServers T) (Cloud.listServers T)
    serversFromSDK T items) (serversOf T c) := by
  refine .bind (repeats_request rfl rfl) ?_
  have h :=
    repeats_serversFromSDK (c := c) (T := T)
    (c.servers.filter fun x => labelsContainTags x.labels T)
  simp only [List.filter_filter, Bool.and_self] at h
  exact h

theorem repeats_getServer {id : String} {x : SDKServer}
    (h : c.servers.find? (·.id == id) = some x) :
    Repeats c (getServer id) (serverOf c x) := by
  refine .bind (repeats_request rfl ?_) (repeats_serverFromSDK x)
  rw [Cloud.getServer, h]

theorem repeats_getNetwork {id : String} {n : SDKNetwork}
    (h : c.networks.find? (·.id == id) = some n) :
    Repeats c (getNetwork id) (networkFromSDK n) := by
  refine .bind (repeats_request rfl ?_) (.pure _)
  rw [Cloud.getNetwork, h]

theorem repeats_listAvailabilityZones : Repeats c listAvailabilityZones c.zones :=
  repeats_request rfl rfl

/-! ### Load balancers -/

theorem wp_rangeOver_stays (m : StringMap) (hs : Answered s) :
    wp (rangeOver m) (fun r t => Stays s t ∧ ∃ l, r = .ok l ∧ l.Perm m.entries) s := by
  have hanswered : wp (rangeOver m) (fun _ t => Answered t) s := by
    show Answered (rangeOver m s).2
    unfold rangeOver
    split <;> exact hs
  have hlog : wp (rangeOver m) (fun _ t => Logs (fun x => x.request.isHarmless = true) s t) s :=
    (logs_rangeOver m).wp s
  refine ((hanswered.and (wp_rangeOver m s)).and hlog).imp fun r t h => ?_
  obtain ⟨⟨ht, hc, hr⟩, hlog⟩ := h
  exact ⟨⟨ht, hc, hlog⟩, hr⟩

theorem mapContains_self (m : StringMap) : mapContains m m = true := by
  rw [mapContains, List.all_eq_true]
  intro e he
  have hlookup : m.lookup e.1 = some e.2 := AList.mem_lookup_iff.2 he
  simp [hlookup]

theorem wp_newLoadBalancerLabels_stays (hs : Answered s) (hT : DistinctRewrites T)
    (htags : T.entries.isEmpty = false) :
    wp (newLoadBalancerLabels T)
      (fun r t => Stays s t ∧ ∃ labels, r = .ok labels ∧ lbCarries T labels = true) s := by
  refine wp_ite (fun hempty => absurd hempty (by simp [htags])) fun _ => ?_
  rw [wp_bind]
  refine (wp_rangeOver_stays T hs).imp fun r t ht => ?_
  obtain ⟨ht, entries, rfl, hperm⟩ := ht
  refine ⟨ht, _, rfl, ?_⟩
  rw [← mapContains_of_perm hT hperm]
  exact mapContains_self _

/-- With distinct rewritten keys the look-up does not depend on the order of the tags. -/
theorem repeats_listLoadBalancers (hT : DistinctRewrites T) : Repeats c (do
    match ← attempt (request "list load balancers" .listLoadBalancers Cloud.listLoadBalancers) with
    | .error err => if isLoadBalancerServiceNotEnabled err then pure [] else fail err
    | .ok items =>
      let labels := loadBalancerLabels (← rangeOver T)
      pure ((items.filter fun l => mapContains l.labels labels).map loadBalancerFromSDK))
        (loadBalancersOf T c) := by
  rintro s hs rfl
  rw [wp_attempt_bind]
  refine wp_harmless rfl (readOnly_listLoadBalancers _) hs fun t ht => ?_
  rw [perform, Cloud.listLoadBalancers]
  by_cases hoff : (s.cloud.loadBalancers.isEmpty && !s.cloud.loadBalancerServiceEnabled) = true
  · have hnone : s.cloud.loadBalancers = [] := by simp at hoff; exact hoff.1
    have hlbs : loadBalancersOf T s.cloud = [] := by simp [loadBalancersOf, hnone]
    rw [if_pos hoff, hlbs]
    exact ⟨rfl, ht⟩
  · rw [if_neg hoff]
    show wp (rangeOver T >>= _) _ t
    rw [wp_bind]
    refine (wp_rangeOver_stays T ht.answered).imp fun r u hu => ?_
    obtain ⟨hu, l, rfl, hl⟩ := hu
    rw [next_ok, wp_pure]
    refine ⟨?_, ht.trans hu⟩
    simp only [loadBalancersOf, mapContains_of_perm hT hl]

end SDKClient

end Capstk
