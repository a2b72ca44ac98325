import Capstk.Proofs.Bastion

/-!
# When every request is answered

Without failures a request can still be refused by the cloud. Of the requests of `EnsureBastion`
none is, as long as no two resources carry its tags: what it asks for exists, because it was just
found or created. So without failures it either creates what is missing and answers, or fails before
it has done anything.
-/

namespace Capstk

open Prog

variable {α β : Type} {k : Kind} {T : StringMap} {s : Session} {c c' : Cloud}

/-- No failure is coming: every request gets the service's own answer. -/
def Answered (s : Session) : Prop := s.outcomes = []

/-- The call answers with a result in `P`, and still no failure is coming. -/
def Succeeds (P : α → Session → Prop) (r : Except GoError α) (t : Session) : Prop :=
  Answered t ∧ ∃ a, r = .ok a ∧ P a t

theorem wp_answered {op : String} {req : Request} {effect : Cloud.Effect α}
    {Q : Except GoError α → Session → Prop} (hs : Answered s)
    (h : ∀ t, Answered t → t.cloud = (perform op effect s.cloud).2 →
      Q (perform op effect s.cloud).1 t) :
    wp (request op req effect) Q s := by
  have hhead : s.outcomes.headD .answered = .answered := by rw [hs]; rfl
  have hr : settle op effect (s.outcomes.headD .answered) s.cloud = perform op effect s.cloud := by
    rw [hhead]; rfl
  show Q (settle op effect (s.outcomes.headD .answered) s.cloud).1 _
  rw [hr]
  refine h _ ?_ (congrArg Prod.snd hr)
  show s.outcomes.tail = []
  rw [hs]; rfl

theorem preserves_answered {op : String} {req : Request} {effect : Cloud.Effect α} :
    Preserves Answered (request op req effect) := fun s hs => by
  show s.outcomes.tail = []
  rw [hs]; rfl

theorem wp_succeeds_pure {P : α → Session → Prop} {a : α} (hs : Answered s) (h : P a s) :
    wp (pure a : Call Session α) (Succeeds P) s := ⟨hs, a, rfl, h⟩

theorem wp_succeeds_bind {P : α → Session → Prop} {Q : β → Session → Prop} {x : Call Session α}
    {f : α → Call Session β} (hx : wp x (Succeeds P) s)
    (hf : ∀ a t, Answered t → P a t → wp (f a) (Succeeds Q) t) :
    wp (x >>= f) (Succeeds Q) s := by
  rw [wp_bind]
  refine hx.imp fun r t ⟨ht, a, hr, ha⟩ => ?_
  subst hr
  exact hf a t ht ha

/-- An answer together with what is known of the call anyway. -/
theorem wp_succeeds_and {P : α → Session → Prop} {Q : Except GoError α → Session → Prop}
    {x : Call Session α} (hx : wp x (Succeeds fun _ _ => True) s) (h : wp x Q s)
    (hP : ∀ a t, Q (.ok a) t → P a t) : wp x (Succeeds P) s := by
  refine (hx.and h).imp fun r t ⟨⟨ht, a, hr, _⟩, hq⟩ => ?_
  subst hr
  exact ⟨ht, a, rfl, hP a t hq⟩

theorem wp_succeeds_request {op : String} {req : Request} {effect : Cloud.Effect α}
    (hs : Answered s) (h : ∃ a c', effect s.cloud = (.ok a, c')) :
    wp (request op req effect) (Succeeds fun _ _ => True) s := by
  obtain ⟨a, c', heffect⟩ := h
  refine wp_answered hs fun t ht _ => ⟨ht, a, ?_, trivial⟩
  rw [perform, heffect]

theorem wp_succeeds_tolerate {op : String} {req : Request} {effect : Cloud.Effect Unit}
    {expected : GoError → Bool} (hs : Answered s)
    (h : ∀ e, (effect s.cloud).1 = .error e → expected (classifySDKError op e) = true) :
    wp (tolerate expected (request op req effect)) (Succeeds fun _ _ => True) s := by
  refine wp_tolerate (wp_answered hs fun t ht _ => ?_)
  rcases heffect : effect s.cloud with ⟨e | a, c'⟩
  · rw [perform, heffect]
    show if expected (classifySDKError op e) = true then _ else _
    rw [if_pos (h e (by rw [heffect]))]
    exact ⟨ht, (), rfl, trivial⟩
  · rw [perform, heffect]
    exact ⟨ht, (), rfl, trivial⟩

/-! ### Requests that only fail if something is missing -/

def OnlyMissing (effect : Cloud.Effect α) : Prop :=
  ∀ c e, (effect c).1 = .error e → e = .openAPI 404 "resource not found"

theorem onlyMissing_deleteServer (id : String) : OnlyMissing (Cloud.deleteServer id) := by
  intro c e he
  unfold Cloud.deleteServer at he
  split at he
  · cases he
  · exact (Except.error.inj he).symm

theorem onlyMissing_ite {present : Cloud → Bool} {remove : Cloud → Cloud} :
    OnlyMissing fun c => if present c then (.ok (), remove c) else c.missing := by
  intro c e he
  dsimp only at he
  split at he
  · cases he
  · exact (Except.error.inj he).symm

theorem onlyMissing_removePublicIpFromServer (serverID id : String) :
    OnlyMissing (Cloud.removePublicIpFromServer serverID id) := by
  intro c e he
  unfold Cloud.removePublicIpFromServer at he
  split at he
  · cases he
  · exact (Except.error.inj he).symm

theorem onlyMissing_removeSecurityGroupFromServer (serverID id : String) :
    OnlyMissing (Cloud.removeSecurityGroupFromServer serverID id) := by
  intro c e he
  unfold Cloud.removeSecurityGroupFromServer at he
  split at he
  · cases he
  · exact (Except.error.inj he).symm

theorem onlyMissing_listSecurityGroupRules (id : String) :
    OnlyMissing (Cloud.listSecurityGroupRules id) := by
  intro c e he
  unfold Cloud.listSecurityGroupRules at he
  split at he
  · cases he
  · exact (Except.error.inj he).symm

theorem onlyMissing_deleteSecurityGroupRule (id ruleID : String) :
    OnlyMissing (Cloud.deleteSecurityGroupRule id ruleID) := by
  intro c e he
  unfold Cloud.deleteSecurityGroupRule at he
  split at he
  · split at he
    · cases he
    · exact (Except.error.inj he).symm
  · exact (Except.error.inj he).symm

theorem OnlyMissing.succeeds {op : String} {req : Request} {effect : Cloud.Effect Unit}
    {expected : GoError → Bool} (h : OnlyMissing effect)
    (hexpected : ∀ e, isNotFound e = true → expected e = true) (hs : Answered s) :
    wp (tolerate expected (request op req effect)) (Succeeds fun _ _ => True) s := by
  refine wp_succeeds_tolerate hs fun e he => hexpected _ ?_
  rw [h _ _ he]
  rfl

/-! ### Existing resources -/

theorem find_of_present {l : List α} {ident : α → String} {labels : α → StringMap} {id : String}
    (h : ∃ L, (id, L) ∈ l.map fun x => (ident x, labels x)) :
    ∃ x, l.find? (ident · == id) = some x := by
  obtain ⟨L, hL⟩ := h
  obtain ⟨x, hx, heq⟩ := List.mem_map.1 hL
  cases heq
  exact Option.isSome_iff_exists.1 (List.find?_isSome.2 ⟨x, hx, by simp⟩)

/-! ### Look-ups and creations -/

/-- A look-up that can only fail because there is nothing. -/
abbrev FoundOrNone (r : Except GoError α) (t : Session) : Prop :=
  Answered t ∧ ∀ e, r = .error e → isNotFound e = true

theorem wp_single_answered {one many : String} {l : List α} (hs : Answered s) (hl : l.length ≤ 1) :
    wp (SDKClient.single one many l) FoundOrNone s := by
  refine wp_single (fun _ => ⟨hs, fun e he => ?_⟩) (fun a _ => ⟨hs, fun e he => by cases he⟩)
    fun hmany => by omega
  cases he
  simp

theorem wp_find_answered {op : String} {req : Request} {one many : String}
    {effect : Cloud.Effect (List α)} (list : Cloud → List α) (labels : α → StringMap) (f : α → β)
    (ident : β → String)
    (heffect : ∀ c, effect c = (.ok ((list c).filter fun x => labelsContainTags (labels x) T), c))
    (hk : ∀ c, labelled k c = (list c).map fun x => (ident (f x), labels x)) (hs : Answered s)
    (hT : T.entries.isEmpty = false) (hone : (tagged k T s.cloud).length ≤ 1) :
    wp (do SDKClient.single one many (← SDKClient.requireTags T do
        let items ← request op req effect
        pure ((items.filter fun x => labelsContainTags (labels x) T).map f))) FoundOrNone s := by
  rw [wp_bind]
  refine wp_requireTags (fun h => by rw [hT] at h; cases h) ?_
  rw [wp_bind]
  refine wp_answered hs fun t ht _ => ?_
  rw [perform, heffect]
  refine wp_single_answered ht ?_
  rw [tagged_eq (hk s.cloud)] at hone
  simpa [List.filter_filter] using hone

theorem wp_existingOr_answered {find create : Call Session α} (hfind : wp find FoundOrNone s)
    (hcreate : ∀ t, Answered t → wp create (Succeeds fun _ _ => True) t) :
    wp (existingOr isNotFound find create) (Succeeds fun _ _ => True) s := by
  refine wp_existingOr_of hfind (fun a t ⟨ht, _⟩ => ⟨ht, a, rfl, trivial⟩)
    (fun e t ⟨ht, _⟩ _ => hcreate t ht) ?_
  intro e t ⟨_, hr⟩ hnf
  exact absurd (hr e rfl) (by simp [hnf])

theorem wp_succeeds_create {op : String} {req : Request} {labels : StringMap} {ident : α → String}
    {effect : Cloud.Effect α} {finish : α → Call Session β} (hadd : Adds k labels ident effect)
    (hs : Answered s) (hfinish : ∀ a t, Answered t → wp (finish a) (Succeeds fun _ _ => True) t) :
    wp (do finish (← request op req effect)) (Succeeds fun _ _ => True) s := by
  obtain ⟨a, c', heffect, -⟩ := hadd s.cloud
  exact wp_succeeds_bind (wp_succeeds_request hs ⟨a, c', heffect⟩) fun a t ht _ => hfinish a t ht

namespace SDKClient

theorem wp_serverFromSDK_answered (server : SDKServer) (hs : Answered s) :
    wp (serverFromSDK server) (Succeeds fun _ _ => True) s := by
  unfold serverFromSDK
  rw [wp_attempt_bind]
  exact wp_answered hs fun t ht _ => ⟨ht, _, rfl, trivial⟩

theorem wp_serversFromSDK_answered (T : StringMap) (l : List SDKServer) (hs : Answered s) :
    wp (serversFromSDK T l) (Succeeds fun _ _ => True) s := by
  induction l generalizing s with
  | nil => exact wp_succeeds_pure hs trivial
  | cons x l ih =>
    unfold serversFromSDK
    refine wp_ite (fun _ => ?_) fun _ => ih hs
    exact wp_succeeds_bind (wp_serverFromSDK_answered x hs) fun a t ht _ =>
      wp_succeeds_bind (ih ht) fun out u hu _ =>
      wp_succeeds_pure hu trivial

theorem wp_listServersByTags_answered (hs : Answered s) (hT : T.entries.isEmpty = false) :
    wp (listServersByTags T) (Succeeds fun out _ => out.map (·.id) = taggedIDs T s.cloud) s := by
  refine wp_succeeds_and ?_ (wp_listServersByTags T s) fun out t h => h.2
  unfold listServersByTags
  refine wp_requireTags (fun h => by rw [hT] at h; cases h) ?_
  exact wp_succeeds_bind (wp_succeeds_request hs ⟨_, _, rfl⟩) fun items t ht _ =>
    wp_serversFromSDK_answered T items ht

theorem wp_findServerByTags_answered (hs : Answered s) (hT : T.entries.isEmpty = false)
    (hone : (tagged .server T s.cloud).length ≤ 1) : wp (findServerByTags T) FoundOrNone s := by
  unfold findServerByTags
  rw [wp_bind]
  refine (wp_listServersByTags_answered hs hT).imp fun r t ⟨ht, out, hr, hout⟩ => ?_
  subst hr
  refine wp_single_answered ht ?_
  have hlen : out.length = (tagged .server T s.cloud).length := by
    rw [← List.length_map (f := Server.id)]; exact congrArg List.length hout
  omega

/-! ### The parts of `EnsureBastion` -/

theorem wp_ensureSecurityGroup_answered (name description : String) (hs : Answered s)
    (hT : T.entries.isEmpty = false) (hone : (tagged .securityGroup T s.cloud).length ≤ 1) :
    wp (ensureSecurityGroup name description T) (Succeeds fun _ _ => True) s := by
  refine wp_existingOr_answered (wp_find_answered Cloud.securityGroups SDKSecurityGroup.labels
    securityGroupFromSDK
    SecurityGroup.id (fun _ => rfl) (fun _ => rfl) hs hT hone) fun t ht => ?_
  exact wp_succeeds_create (adds_createSecurityGroup name description) ht fun _ _ hu =>
    wp_succeeds_pure hu trivial

theorem wp_ensurePublicIP_answered (hs : Answered s) (hT : T.entries.isEmpty = false)
    (hone : (tagged .publicIP T s.cloud).length ≤ 1) :
    wp (ensurePublicIP T) (Succeeds fun _ _ => True) s := by
  refine wp_existingOr_answered (wp_find_answered Cloud.publicIPs SDKPublicIP.labels publicIPFromSDK
    PublicIP.id
    (fun _ => rfl) (fun _ => rfl) hs hT hone) fun t ht => ?_
  exact wp_succeeds_create adds_createPublicIP ht fun _ _ hu => wp_succeeds_pure hu trivial

theorem wp_createServer_answered {input : CreateServerInput} (hs : Answered s)
    (hT : input.tags.entries.isEmpty = false)
    (hone : (tagged .server input.tags s.cloud).length ≤ 1) :
    wp (createServer input) (Succeeds fun _ _ => True) s := by
  refine wp_existingOr_answered (wp_findServerByTags_answered hs hT hone) fun t ht => ?_
  exact wp_succeeds_create (adds_createServer _) ht fun a _ hu => wp_serverFromSDK_answered a hu

theorem wp_createRule_answered {id : String} {payload : SDKRulePayload} (hs : Answered s)
    (hid : Present .securityGroup id s.cloud) :
    wp (createRule id payload) (Succeeds fun _ t => Present .securityGroup id t.cloud) s := by
  refine wp_succeeds_and (wp_succeeds_request hs ?_) ((sameResources_createRule id payload).wp s)
    fun _ t h =>
    hid.same (h .securityGroup)
  obtain ⟨g, hg⟩ := find_of_present hid
  have hany : s.cloud.securityGroups.any (·.id == id) = true :=
    List.any_eq_true.2 ⟨g, List.mem_of_find?_eq_some hg, by simpa using List.find?_some hg⟩
  exact ⟨(), _, by rw [Cloud.createSecurityGroupRule, if_pos hany]⟩

theorem wp_allowCIDRs_answered {id : String} {rules : List SDKRule} {desired cidrs : List String}
    (hs : Answered s) (hid : Present .securityGroup id s.cloud) (hcidrs : "" ∉ cidrs) :
    wp (allowCIDRs id rules desired cidrs) (Succeeds fun _ _ => True) s := by
  induction cidrs generalizing desired s with
  | nil => exact wp_succeeds_pure hs trivial
  | cons cidr cidrs ih =>
    have hrest : "" ∉ cidrs := fun h => hcidrs (List.mem_cons_of_mem _ h)
    unfold allowCIDRs
    refine wp_ite (fun h0 => absurd (h0 ▸ List.mem_cons_self) hcidrs) fun _ =>
      wp_ite (fun _ => ih hs hid hrest) fun _ => ?_
    refine wp_ite (fun _ => ih hs hid hrest) fun _ => ?_
    exact wp_succeeds_bind (wp_createRule_answered hs hid) fun _ t ht hid' => ih ht hid' hrest

theorem wp_deleteRule_answered {id : String} {rule : SDKRule} (hs : Answered s) :
    wp (deleteRule id rule) (Succeeds fun _ _ => True) s :=
  wp_ite (fun _ => wp_succeeds_pure hs trivial) fun _ =>
    (onlyMissing_deleteSecurityGroupRule id rule.id).succeeds (fun _ h => h) hs

theorem wp_deleteSecurityGroupRules_answered {id : String} (hs : Answered s) :
    wp (deleteSecurityGroupRules id) (Succeeds fun _ _ => True) s := by
  unfold deleteSecurityGroupRules
  rw [wp_attempt_bind]
  refine wp_answered hs fun t ht _ => ?_
  rw [perform, Cloud.listSecurityGroupRules]
  cases s.cloud.securityGroups.find? (·.id == id) with
  | none => exact ⟨ht, (), rfl, trivial⟩
  | some g =>
    refine wp_forEach (fun _ v => Answered v) ht (fun rule rest v hv => ?_) fun v hv =>
      ⟨hv, (), rfl, trivial⟩
    refine (wp_deleteRule_answered hv).imp ?_
    rintro r v' ⟨hv', _, rfl, _⟩
    exact hv'

theorem wp_ensureBastionSecurityGroupRules_answered {id : String} {cidrs : List String}
    (hs : Answered s) (hne : id ≠ "") (hid : Present .securityGroup id s.cloud)
    (hcidrs : "" ∉ cidrs) :
    wp (ensureBastionSecurityGroupRules id cidrs) (Succeeds fun _ _ => True) s := by
  refine wp_ite (fun h0 => absurd h0 hne) fun _ => ?_
  have hlist : wp (listRules id) (Succeeds fun _ t => Present .securityGroup id t.cloud) s := by
    refine wp_succeeds_and (wp_succeeds_request hs ?_) ((sameResources_listRules id).wp s)
      fun _ t h => hid.same (h .securityGroup)
    obtain ⟨g, hg⟩ := find_of_present hid
    exact ⟨g.rules, s.cloud, by rw [Cloud.listSecurityGroupRules, hg]⟩
  refine wp_succeeds_bind hlist fun rules t ht hid' =>
    wp_succeeds_bind (wp_allowCIDRs_answered ht hid' hcidrs)
    fun desired u hu _ => ?_
  refine wp_forEach (fun _ v => Answered v) hu (fun rule rest v hv => ?_) fun v hv =>
    ⟨hv, (), rfl, trivial⟩
  refine wp_ite (fun _ => hv) fun _ => (wp_deleteRule_answered hv).imp fun r v' ⟨hv', _, hr, _⟩ =>
    ?_
  subst hr
  exact hv'

theorem wp_addSecurityGroupToServer_answered {serverID groupID : String} (hs : Answered s) :
    wp (addSecurityGroupToServer serverID groupID) (Succeeds fun _ _ => True) s := by
  refine wp_succeeds_tolerate hs fun e he => ?_
  unfold Cloud.addSecurityGroupToServer at he
  split at he
  · split at he
    · cases he; rfl
    · split at he
      · cases he; rfl
      · cases he
  · cases he; rfl

theorem wp_attachPublicIP_answered {serverID : String} {ip : PublicIP} (hs : Answered s)
    (hserver : Present .server serverID s.cloud) (hip : Present .publicIP ip.id s.cloud) :
    wp (attachPublicIP serverID ip) (Succeeds fun _ _ => True) s := by
  unfold attachPublicIP
  refine wp_ite (fun _ => ?_) fun _ => wp_succeeds_pure hs trivial
  have hadd : wp (addPublicIpToServer serverID ip.id)
      (Succeeds fun _ t => Present .publicIP ip.id t.cloud) s := by
    refine wp_succeeds_and (wp_succeeds_tolerate hs fun e he => ?_)
      ((sameResources_addPublicIpToServer _ _).wp s) fun _ t h =>
      hip.same (h .publicIP)
    obtain ⟨server, hserver⟩ := find_of_present hserver
    obtain ⟨addr, haddr⟩ := find_of_present hip
    rw [Cloud.addPublicIpToServer, hserver, haddr] at he
    dsimp only at he
    split at he
    · cases he
    · cases he; rfl
  refine wp_succeeds_bind hadd fun _ t ht hip' => ?_
  obtain ⟨addr, haddr⟩ := find_of_present hip'
  exact wp_succeeds_bind (wp_succeeds_request ht ⟨addr, t.cloud, by rw [Cloud.getPublicIP, haddr]⟩)
    fun _ u hu _ =>
    wp_succeeds_pure hu trivial

/-- What `EnsureBastion` refuses before it has done anything. -/
def CompleteInput (input : BastionInput) : Prop :=
  ¬ (input.name = "" ∨ input.networkID = "" ∨ input.imageID = "" ∨ input.machineType = "" ∨
    input.sshKeyName = "") ∧
    ¬ input.allowedCIDRs.isEmpty = true ∧ ¬ input.tags.entries.isEmpty = true

/-- Without failures and with complete input `EnsureBastion` succeeds. -/
theorem wp_ensureBastion_succeeds {input : BastionInput} (hs : Answered s)
    (hinput : CompleteInput input) (hcidrs : "" ∉ input.allowedCIDRs)
    (hone : ∀ k, IsBastionKind k → (tagged k input.tags s.cloud).length ≤ 1)
    (hnamed : ∀ k, IsBastionKind k → "" ∉ tagged k input.tags s.cloud) :
    wp (ensureBastion input) (Succeeds fun _ _ => True) s := by
  obtain ⟨hfields, hallowed, hne⟩ := hinput
  rw [ensureBastion, if_neg hfields, if_neg hallowed, if_neg hne]
  set T := input.tags
  have hT : T.entries.isEmpty = false := by simpa using hne
  have hkept : ∀ {k : Kind} {c c' : Cloud}, labelled k c' = labelled k c →
      tagged k T c' = tagged k T c := fun h => by
    rw [tagged, h]; rfl
  refine wp_succeeds_bind (P := fun g t => Ensured .securityGroup T s.cloud t.cloud ∧
    tagged .securityGroup T t.cloud = [g.id])
    (wp_succeeds_and (wp_ensureSecurityGroup_answered _ _ hs hT (hone _ trivial))
      (wp_ensureSecurityGroup _ _ T s)
      fun g t h => ⟨h.1, h.2 g rfl⟩) fun g s₁ hs₁ h => ?_
  obtain ⟨h₁, hg⟩ := h
  have hgne : g.id ≠ "" := fun h0 => h₁.named (hnamed _ trivial) (by rw [hg, h0]; simp)
  refine wp_succeeds_bind (P := fun _ t => SameResources s₁.cloud t.cloud)
    (wp_succeeds_and
      (wp_ensureBastionSecurityGroupRules_answered hs₁ hgne (present_of_tagged hg) hcidrs)
      ((sameResources_ensureBastionSecurityGroupRules _ _).wp s₁) fun _ t h => h) fun _ s₂ hs₂ h₂ =>
      ?_
  have hserver₂ : (tagged .server T s₂.cloud).length ≤ 1 := by
    rw [hkept (h₂ _), hkept (h₁.others .server (by decide))]; exact hone _ trivial
  refine wp_succeeds_bind (P := fun a t => Ensured .server T s₂.cloud t.cloud ∧
    tagged .server T t.cloud = [a.id])
    (wp_succeeds_and (wp_createServer_answered hs₂ hT hserver₂) (wp_createServer _ s₂) fun a t h =>
      ⟨h.1, h.2 a rfl⟩)
    fun a s₃ hs₃ h => ?_
  obtain ⟨h₃, ha⟩ := h
  refine wp_succeeds_bind (P := fun _ t => SameResources s₃.cloud t.cloud)
    (wp_succeeds_and (wp_addSecurityGroupToServer_answered hs₃)
      ((sameResources_addSecurityGroupToServer _ _).wp s₃)
      fun _ t h => h) fun _ s₄ hs₄ h₄ => ?_
  have hip₄ : (tagged .publicIP T s₄.cloud).length ≤ 1 := by
    rw [hkept (h₄ _), hkept (h₃.others .publicIP (by decide)), hkept (h₂ _),
      hkept (h₁.others .publicIP (by decide))]
    exact hone _ trivial
  refine wp_succeeds_bind (P := fun ip t => Ensured .publicIP T s₄.cloud t.cloud ∧
    tagged .publicIP T t.cloud = [ip.id])
    (wp_succeeds_and (wp_ensurePublicIP_answered hs₄ hT hip₄) (wp_ensurePublicIP T s₄) fun ip t h =>
      ⟨h.1, h.2 ip rfl⟩)
    fun ip s₅ hs₅ h => ?_
  obtain ⟨h₅, hip⟩ := h
  have hserver₅ : Present .server a.id s₅.cloud :=
    ((present_of_tagged ha).same (h₄ .server)).same (h₅.others .server (by decide))
  exact wp_succeeds_bind (wp_attachPublicIP_answered hs₅ hserver₅ (present_of_tagged hip))
    fun _ t ht _ =>
    wp_succeeds_pure ht trivial

/-- Without failures `EnsureBastion` fails only before it has done anything. -/
theorem wp_ensureBastion_answered {input : BastionInput} (hs : Answered s)
    (hcidrs : "" ∉ input.allowedCIDRs)
    (hone : ∀ k, IsBastionKind k → (tagged k input.tags s.cloud).length ≤ 1)
    (hnamed : ∀ k, IsBastionKind k → "" ∉ tagged k input.tags s.cloud) :
    wp (ensureBastion input) (fun r t => ∀ e, r = .error e → t.cloud = s.cloud) s := by
  by_cases hinput : CompleteInput input
  · refine (wp_ensureBastion_succeeds hs hinput hcidrs hone hnamed).imp fun r t h e he => ?_
    obtain ⟨_, a, hr, _⟩ := h
    rw [hr] at he
    cases he
  · unfold ensureBastion
    refine wp_ite (fun _ _ _ => rfl) fun hfields => wp_ite (fun _ _ _ => rfl) fun hallowed =>
      wp_ite (fun _ _ _ => rfl) fun hne => ?_
    exact absurd ⟨hfields, hallowed, hne⟩ hinput

end SDKClient

end Capstk
