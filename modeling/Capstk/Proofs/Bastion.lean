import Capstk.Proofs.Servers

/-!
# The bastion's resources

`DeleteBastion` takes each ID from the status and looks it up by tags only when the status has none.
So it cleans up everything that carries the tags exactly as far as the recorded IDs are `Current`:
an outdated ID is deleted again, "not found" is tolerated, and the resource that replaced it stays.
`DeleteNodeSSHAccess` only looks up by tags and needs no such assumption.
-/

namespace Capstk

open Prog

variable {k : Kind} {T : StringMap} {c c' : Cloud} {id recorded : String} {s : Session}

/-- `id` is the only one of `ids`, and empty only if there is none. -/
structure Names (id : String) (ids : List String) : Prop where
  only : ∀ x ∈ ids, x = id
  empty : id = "" → ids = []

/-- A recorded ID that is not outdated: if it is set, it is the only one of `ids`. -/
def Current (recorded : String) (ids : List String) : Prop :=
  recorded ≠ "" → ∀ x ∈ ids, x = recorded

instance (recorded : String) (ids : List String) : Decidable (Current recorded ids) :=
  inferInstanceAs (Decidable (_ → _))

theorem Current.sublist {ids ids' : List String} (h : Current recorded ids)
    (hsub : ids'.Sublist ids) :
    Current recorded ids' := fun hne x hx => h hne x (hsub.subset hx)

theorem Names.sublist {ids ids' : List String} (h : Names id ids) (hsub : ids'.Sublist ids) :
    Names id ids' :=
  ⟨fun x hx => h.only x (hsub.subset hx), fun h0 => List.sublist_nil.1 (h.empty h0 ▸ hsub)⟩

/-- The shape of every clean-up: nothing appears, and `P` holds if it succeeds. -/
abbrev Cleans {α : Type} (s : Session) (P : α → Session → Prop) (r : Except GoError α)
    (t : Session) : Prop :=
  Via (fun s t : Session => Shrinks s.cloud t.cloud) s P r t

theorem wp_cleans_same {α : Type} {x : Call Session α}
    (h : Keeps (fun s t : Session => SameResources s.cloud t.cloud) x) :
    wp x (Cleans s fun _ _ => True) s :=
  (h.imp fun _ _ h => h.shrinks).via

namespace SDKClient

/-! ### Look-ups and creations -/

theorem wp_findNetworkByTags (T : StringMap) (s : Session) :
    wp (findNetworkByTags T) (Found .network T Network.id s) s :=
  wp_find Cloud.networks SDKNetwork.labels networkFromSDK Network.id (fun _ => rfl) (fun _ => rfl) s

theorem wp_findPublicIPByTags (T : StringMap) (s : Session) :
    wp (findPublicIPByTags T) (Found .publicIP T PublicIP.id s) s :=
  wp_find Cloud.publicIPs SDKPublicIP.labels publicIPFromSDK PublicIP.id (fun _ => rfl)
    (fun _ => rfl) s

theorem wp_findSecurityGroupByTags (T : StringMap) (s : Session) :
    wp (findSecurityGroupByTags T) (Found .securityGroup T SecurityGroup.id s) s :=
  wp_find Cloud.securityGroups SDKSecurityGroup.labels securityGroupFromSDK SecurityGroup.id
    (fun _ => rfl) (fun _ => rfl) s

theorem adds_createNetwork (name ipv4Prefix : String) :
    Adds .network T SDKNetwork.id (Cloud.createNetwork name T ipv4Prefix) := by
  refine fun c => ⟨_, _, rfl, c.ids.nonempty _, by simp [labelled], fun k' hk => ?_⟩
  cases k' <;> first | rfl | exact absurd rfl hk

theorem adds_createPublicIP : Adds .publicIP T SDKPublicIP.id (Cloud.createPublicIP T) := by
  refine fun c => ⟨_, _, rfl, c.ids.nonempty _, by simp [labelled], fun k' hk => ?_⟩
  cases k' <;> first | rfl | exact absurd rfl hk

theorem adds_createSecurityGroup (name description : String) :
    Adds .securityGroup T SDKSecurityGroup.id (Cloud.createSecurityGroup name description T) := by
  refine fun c => ⟨_, _, rfl, c.ids.nonempty _, by simp [labelled], fun k' hk => ?_⟩
  cases k' <;> first | rfl | exact absurd rfl hk

theorem wp_ensurePublicIP (T : StringMap) (s : Session) :
    wp (ensurePublicIP T) (fun r t => Ensured .publicIP T s.cloud t.cloud ∧
      ∀ p, r = .ok p → tagged .publicIP T t.cloud = [p.id]) s :=
  wp_ensure adds_createPublicIP (wp_findPublicIPByTags T s) fun _ _ => ⟨rfl, _, rfl, rfl⟩

theorem wp_ensureSecurityGroup (name description : String) (T : StringMap) (s : Session) :
    wp (ensureSecurityGroup name description T)
      (fun r t => Ensured .securityGroup T s.cloud t.cloud ∧
        ∀ g, r = .ok g → tagged .securityGroup T t.cloud = [g.id]) s :=
  wp_ensure (adds_createSecurityGroup name description) (wp_findSecurityGroupByTags T s) fun _ _ =>
    ⟨rfl, _, rfl, rfl⟩

/-! ### `DeleteBastion` -/

/-- The recorded ID, if it is current, or the one found by tags names all that carries the tags. -/
theorem wp_idOrFind {β : Type} {ident : β → String} {find : Call Session β}
    (hfind : wp find (Found k T ident s) s) :
    wp (idOrFind recorded (do pure (ident (← find))))
      (Cleans s fun id t => Current recorded (tagged k T s.cloud) →
        "" ∉ tagged k T s.cloud → Names id (tagged k T t.cloud)) s := by
  unfold idOrFind
  refine wp_ite (fun _ => ?_) fun hne => wp_via_pure Shrinks.closed fun hcur _ =>
    ⟨hcur hne, fun h0 => absurd h0 hne⟩
  refine (wp_foundID hfind).imp fun r t ⟨hc, hr⟩ => ⟨.of_eq hc, fun id hid _ hnamed => ?_⟩
  rw [hc]
  rcases hr id hid with hone | ⟨rfl, hnone⟩
  · exact ⟨fun x hx => by rw [hone] at hx; simpa using hx, fun h0 =>
      absurd (by rw [hone, h0]; simp) hnamed⟩
  · rw [hnone]
    exact ⟨fun x hx => by simp at hx, fun _ => rfl⟩

/-- A deletion that tolerates "not found": if it succeeds the resource does not exist. -/
theorem wp_deleteTolerant {op : String} {req : Request} {effect : Cloud.Effect Unit}
    (h : Removes k id effect) (s : Session) :
    wp (tolerate isNotFound (request op req effect))
      (Cleans s fun _ t => ∀ labels, (id, labels) ∉ labelled k t.cloud) s := by
  refine wp_tolerate_of (wp_remove h s) (fun r t ⟨hshrinks, hgone⟩ hnf => ?_)
    fun e t ⟨hshrinks, _⟩ _ => ?_
  · exact .ok hshrinks (hgone hnf)
  · exact .error hshrinks

theorem wp_deleteOnly {op : String} {req : Request} {effect : Cloud.Effect Unit}
    (h : Removes k id effect) (honly : ∀ x ∈ tagged k T s.cloud, x = id) :
    wp (tolerate isNotFound (request op req effect))
      (Cleans s fun _ t => tagged k T t.cloud = []) s := by
  refine (wp_deleteTolerant h s).imp fun r t hr => hr.imp fun _ hshrinks hgone => ?_
  refine List.eq_nil_iff_forall_not_mem.2 fun x hx => ?_
  have hxid : x = id := honly x ((hshrinks.tagged k T).subset hx)
  exact not_mem_tagged hgone (hxid ▸ hx)

theorem wp_when {x : Call Session Unit} {P : Session → Prop} {b : Bool}
    (hx : b = true → wp x (Cleans s fun _ => P) s) (hskip : b = false → P s) :
    wp (when' b x) (Cleans s fun _ => P) s := by
  unfold when'
  exact wp_ite hx fun h0 => wp_via_pure Shrinks.closed (hskip (by simpa using h0))

theorem wp_deleteSecurityGroup (honly : ∀ x ∈ tagged .securityGroup T s.cloud, x = id) :
    wp (deleteSecurityGroup id) (Cleans s fun _ t => tagged .securityGroup T t.cloud = []) s := by
  refine wp_via_bind Shrinks.closed (wp_cleans_same (sameResources_deleteSecurityGroupRules id))
    fun _ t hshrinks _ => ?_
  exact wp_deleteOnly (removes_deleteSecurityGroup id) fun x hx =>
    honly x ((hshrinks.tagged _ T).subset hx)

/-- The kinds of resources a bastion consists of. -/
def IsBastionKind : Kind → Prop
  | .server | .publicIP | .securityGroup => True
  | .network | .loadBalancer => False

theorem IsBastionKind.cases {P : Kind → Prop} (hserver : P .server) (hip : P .publicIP)
    (hgroup : P .securityGroup) :
    ∀ k, IsBastionKind k → P k
  | .server, _ => hserver
  | .publicIP, _ => hip
  | .securityGroup, _ => hgroup

/-- No bastion resource carries the tags. -/
structure BastionGone (T : StringMap) (c : Cloud) : Prop where
  server : tagged .server T c = []
  publicIP : tagged .publicIP T c = []
  securityGroup : tagged .securityGroup T c = []

theorem BastionGone.nil (h : BastionGone T c) : ∀ k, IsBastionKind k → tagged k T c = [] :=
  IsBastionKind.cases h.server h.publicIP h.securityGroup

theorem BastionGone.sublist (h : BastionGone T c)
    (hs : ∀ k, IsBastionKind k → (tagged k T c').Sublist (tagged k T c)) :
    BastionGone T c' := by
  have hnil : ∀ k, IsBastionKind k → tagged k T c' = [] :=
    fun k hk => List.sublist_nil.1 (h.nil k hk ▸ hs k hk)
  exact ⟨hnil _ trivial, hnil _ trivial, hnil _ trivial⟩

theorem BastionGone.shrinks (h : BastionGone T c) (hs : Shrinks c c') : BastionGone T c' :=
  h.sublist fun k _ => hs.tagged k T

theorem BastionGone.of_same (h : BastionGone T c)
    (hs : ∀ k, IsBastionKind k → labelled k c' = labelled k c) :
    BastionGone T c' := h.sublist fun k hk => by rw [tagged, hs k hk]; exact .refl _

/-- The recorded IDs are not outdated. -/
structure BastionCurrent (status : Bastion) (T : StringMap) (c : Cloud) : Prop where
  server : Current status.serverID (tagged .server T c)
  publicIP : Current status.publicIPID (tagged .publicIP T c)
  securityGroup : Current status.securityGroupID (tagged .securityGroup T c)

theorem BastionCurrent.shrinks {status : Bastion} (h : BastionCurrent status T c)
    (hs : Shrinks c c') :
    BastionCurrent status T c' :=
  ⟨h.server.sublist (hs.tagged _ T), h.publicIP.sublist (hs.tagged _ T),
    h.securityGroup.sublist (hs.tagged _ T)⟩

/-- The recorded IDs name all bastion resources that carry the tags. -/
structure BastionNames (status : Bastion) (T : StringMap) (c : Cloud) : Prop where
  server : Names status.serverID (tagged .server T c)
  publicIP : Names status.publicIPID (tagged .publicIP T c)
  securityGroup : Names status.securityGroupID (tagged .securityGroup T c)

theorem BastionNames.shrinks {status : Bastion} (h : BastionNames status T c) (hs : Shrinks c c') :
    BastionNames status T c' :=
  ⟨h.server.sublist (hs.tagged _ T), h.publicIP.sublist (hs.tagged _ T),
    h.securityGroup.sublist (hs.tagged _ T)⟩

theorem BastionGone.names (h : BastionGone T c) (status : Bastion) : BastionNames status T c := by
  have hnil : ∀ id, Names id [] := fun id => ⟨fun x hx => by simp at hx, fun _ => rfl⟩
  exact ⟨h.server ▸ hnil _, h.publicIP ▸ hnil _, h.securityGroup ▸ hnil _⟩

/-- From `s` on, the answer of `x` names all resources of kind `k` that carry the tags `T`. -/
def Resolves (k : Kind) (T : StringMap) (s : Session) (x : Call Session String) : Prop :=
  ∀ t : Session, Shrinks s.cloud t.cloud →
    wp x (Cleans t fun id u => Names id (tagged k T u.cloud)) t

theorem resolves_current {β : Type} {ident : β → String} {find : Call Session β}
    (hfind : ∀ t, wp find (Found k T ident t) t) (hcurrent : Current recorded (tagged k T s.cloud))
    (hnamed : "" ∉ tagged k T s.cloud) :
    Resolves k T s (idOrFind recorded (do pure (ident (← find)))) := fun t hs =>
  (wp_idOrFind (hfind t)).imp fun _ _ hr => hr.imp fun _ _ hnames =>
    hnames (hcurrent.sublist (hs.tagged k T)) fun hk => hnamed ((hs.tagged k T).subset hk)

theorem resolves_names {find : Call Session String}
    (hfind : Keeps (fun s t : Session => t.cloud = s.cloud) find)
    (hnames : Names recorded (tagged k T s.cloud)) : Resolves k T s (idOrFind recorded find) := by
  intro t hs
  have hR := Shrinks.closed
  unfold idOrFind
  refine wp_ite (fun h0 => ?_) fun _ => wp_via_pure hR (hnames.sublist (hs.tagged k T))
  have hkeeps : Keeps (fun s t : Session => Shrinks s.cloud t.cloud)
      (existingOr isNotFound find (pure "")) :=
    keeps_existingOr hR (hfind.imp fun _ _ h => .of_eq h) (.pure hR "")
  refine (hkeeps.wp t).imp fun r u hu => ⟨hu, fun id _ => ?_⟩
  show Names id (tagged k T u.cloud)
  rw [(hs.trans hu).tagged_nil (hnames.empty h0)]
  exact ⟨fun x hx => by simp at hx, fun _ => rfl⟩

/-- `DeleteBastion` takes away every bastion resource if the IDs it uses name all of them. -/
theorem wp_deleteBastion_of {input : BastionInput} {status : Bastion}
    (hserver : Resolves .server T s
      (idOrFind status.serverID (do pure (← findServerByTags input.tags).id)))
    (hip : Resolves .publicIP T s
      (idOrFind status.publicIPID (do pure (← findPublicIPByTags input.tags).id)))
    (hgroup : Resolves .securityGroup T s
      (idOrFind status.securityGroupID (do pure (← findSecurityGroupByTags input.tags).id))) :
    wp (deleteBastion input status) (Cleans s fun _ t => BastionGone T t.cloud) s := by
  unfold deleteBastion
  refine wp_via_bind Shrinks.closed (hserver s (.refl _)) fun serverID s₁ h₁ hserver => ?_
  refine wp_via_bind Shrinks.closed (hip s₁ h₁) fun publicIPID s₂ h₂ hip => ?_
  refine wp_via_bind Shrinks.closed (hgroup s₂ (h₁.trans h₂)) fun groupID s₃ h₃ hgroup => ?_
  refine wp_via_bind Shrinks.closed (wp_when (P := fun _ => True) (fun _ => wp_cleans_same
    (sameResources_removePublicIpFromServer _ _)) fun _ => trivial) fun _ s₄ h₄ _ => ?_
  refine wp_via_bind Shrinks.closed (wp_when (P := fun _ => True) (fun _ => wp_cleans_same
    (sameResources_removeSecurityGroupFromServer _ _)) fun _ => trivial) fun _ s₅ h₅ _ => ?_
  have h₃₅ := h₃.trans (h₄.trans h₅)
  have hserver₅ : Names serverID (tagged .server T s₅.cloud) :=
    hserver.sublist ((h₂.trans h₃₅).tagged _ T)
  refine wp_via_bind Shrinks.closed
    (wp_when (P := fun t => tagged .server T t.cloud = []) (fun _ => wp_deleteOnly
    (removes_deleteServer serverID) hserver₅.only) fun h0 => hserver₅.empty (by simpa using h0))
    fun _ s₆ h₆ gone₆ => ?_
  have hip₆ : Names publicIPID (tagged .publicIP T s₆.cloud) :=
    hip.sublist ((h₃₅.trans h₆).tagged _ T)
  refine wp_via_bind Shrinks.closed
    (wp_when (P := fun t => tagged .publicIP T t.cloud = []) (fun _ => wp_deleteOnly
    (removes_deletePublicIP publicIPID) hip₆.only) fun h0 => hip₆.empty (by simpa using h0))
    fun _ s₇ h₇ gone₇ => ?_
  have hgroup₇ : Names groupID (tagged .securityGroup T s₇.cloud) :=
    hgroup.sublist ((h₄.trans (h₅.trans (h₆.trans h₇))).tagged _ T)
  refine (wp_when (P := fun t => tagged .securityGroup T t.cloud = [])
    (fun _ => wp_deleteSecurityGroup hgroup₇.only)
    fun h0 => hgroup₇.empty (by simpa using h0)).imp fun r t h => h.imp fun _ hshrinks gone => ?_
  exact ⟨(h₇.trans hshrinks).tagged_nil gone₆, hshrinks.tagged_nil gone₇, gone⟩

/-- By its own tags: nothing is left if the recorded IDs are current. -/
theorem wp_deleteBastion {input : BastionInput} {status : Bastion}
    (hcurrent : BastionCurrent status input.tags s.cloud)
    (hnamed : ∀ k, IsBastionKind k → "" ∉ tagged k input.tags s.cloud) :
    wp (deleteBastion input status) (Cleans s fun _ t => BastionGone input.tags t.cloud) s :=
  wp_deleteBastion_of (resolves_current (wp_findServerByTags _) hcurrent.server (hnamed _ trivial))
    (resolves_current (wp_findPublicIPByTags _) hcurrent.publicIP (hnamed _ trivial))
    (resolves_current (wp_findSecurityGroupByTags _) hcurrent.securityGroup (hnamed _ trivial))

/-- By any tags: nothing is left if the recorded IDs name all there is. -/
theorem wp_deleteBastion_names {input : BastionInput} {status : Bastion}
    (hnames : BastionNames status T s.cloud) :
    wp (deleteBastion input status) (Cleans s fun _ t => BastionGone T t.cloud) s := by
  have hread : ∀ {β : Type} {ident : β → String} {find : Call Session β},
      Keeps (fun s t : Session => t.cloud = s.cloud) find →
      Keeps (fun s t : Session => t.cloud = s.cloud) (do pure (ident (← find))) := fun h =>
    .bind (Closed.ofEq Session.cloud) h fun _ => .pure (Closed.ofEq Session.cloud) _
  exact wp_deleteBastion_of
    (resolves_names (hread fun s => (wp_findServerByTags _ s).1) hnames.server)
    (resolves_names (hread fun s => (wp_findPublicIPByTags _ s).1) hnames.publicIP)
    (resolves_names (hread fun s => (wp_findSecurityGroupByTags _ s).1) hnames.securityGroup)

/-! ### `DeleteNodeSSHAccess` -/

theorem wp_deleteNodeSSHAccess (T : StringMap) (s : Session) :
    wp (deleteNodeSSHAccess T) (Cleans s fun _ t => tagged .securityGroup T t.cloud = []) s := by
  unfold deleteNodeSSHAccess
  rw [wp_attempt_bind]
  refine (wp_findSecurityGroupByTags T s).imp fun r t ⟨hc, hr⟩ => ?_
  have hshrinks : Shrinks s.cloud t.cloud := .of_eq hc
  cases r with
  | error e =>
    refine wp_ite (fun hnf => ⟨hshrinks, fun _ _ => ?_⟩) fun _ => ⟨hshrinks, fun _ h => by cases h⟩
    show tagged .securityGroup T t.cloud = []
    rw [hc]; exact hr hnf
  | ok group =>
    have honly : ∀ x ∈ tagged .securityGroup T t.cloud, x = group.id := by
      rw [hc, show tagged .securityGroup T s.cloud = [group.id] from hr]
      exact fun x hx => by simpa using hx
    have hlist : wp (listServersByTags (clusterServerSelectorFromTags T))
        (Cleans t fun _ _ => True) t :=
      (wp_listServersByTags _ t).imp fun _ u ⟨hu, _⟩ => ⟨.of_eq hu, fun _ _ => trivial⟩
    refine (wp_via_bind Shrinks.closed hlist fun servers t₁ h₁ _ => wp_via_bind Shrinks.closed
      (wp_cleans_same
      (.forEach SameResources.closed fun server _ => sameResources_removeSecurityGroupFromServer
        server.id group.id))
      fun _ t₂ h₂ _ => wp_deleteSecurityGroup fun x hx =>
        honly x (((h₁.trans h₂).tagged _ T).subset hx)).imp fun r u ⟨hu, hr'⟩ =>
          ⟨hshrinks.trans hu, hr'⟩

/-! ### Errors of the clean-up -/

theorem neverNotFound_deleteSecurityGroup (id : String) :
    NeverNotFound (deleteSecurityGroup id) := by
  refine .bind (.attempt_bind fun r => ?_) fun _ => .tolerate fun _ h => h
  cases r with
  | error e => exact .absorb (fun h => h) (.pure ())
  | ok rules => exact .forEach fun rule => .ite (.pure ()) (.tolerate fun _ h => h)

theorem neverNotFound_idOrFind (recorded : String) (find : Call Session String) :
    NeverNotFound (idOrFind recorded find) := .ite (.existingOr (.pure "")) (.pure recorded)

theorem neverNotFound_when {x : Call Session Unit} (b : Bool) (h : NeverNotFound x) :
    NeverNotFound (when' b x) :=
  .ite h (.pure ())

theorem neverNotFound_deleteBastion (input : BastionInput) (status : Bastion) :
    NeverNotFound (deleteBastion input status) := by
  have hdetach : ∀ e, isNotFound e = true → (isNotFound e || isConflict e) = true :=
    fun _ h => by simp [h]
  refine .bind (neverNotFound_idOrFind _ _) fun serverID =>
    .bind (neverNotFound_idOrFind _ _) fun publicIPID =>
    .bind (neverNotFound_idOrFind _ _) fun groupID => ?_
  refine .bind (neverNotFound_when _ (.tolerate hdetach)) fun _ =>
    .bind (neverNotFound_when _ (.tolerate hdetach)) fun _ => ?_
  refine .bind (neverNotFound_when _ (.tolerate fun _ h => h)) fun _ =>
    .bind (neverNotFound_when _ (.tolerate fun _ h => h)) fun _ => ?_
  exact neverNotFound_when _ (neverNotFound_deleteSecurityGroup groupID)

theorem neverNotFound_listServersByTags (T : StringMap) : NeverNotFound (listServersByTags T) := by
  intro s e he
  have h := (wp_listServersByTags T s).2
  rw [he] at h
  exact h

theorem neverNotFound_deleteNodeSSHAccess (T : StringMap) :
    NeverNotFound (deleteNodeSSHAccess T) := by
  refine .attempt_bind fun r => ?_
  cases r with
  | error e => exact .absorb (fun h => h) (.pure ())
  | ok group =>
    refine .bind (neverNotFound_listServersByTags _) fun servers =>
      .bind (.forEach fun server => ?_) fun _ =>
      neverNotFound_deleteSecurityGroup group.id
    exact .tolerate fun _ h => by simp [h]

/-- A clean-up whose "not found" would be tolerated never needs that. -/
theorem wp_tolerate_cleans {x : Call Session Unit} {P : Session → Prop} (hx : NeverNotFound x)
    (h : wp x (Cleans s fun _ => P) s) : wp (tolerate isNotFound x) (Cleans s fun _ => P) s := by
  refine wp_tolerate_of (h.and (hx.wp s)) (fun r t ⟨hr, hnf⟩ hexp => ?_) fun e t ⟨hr, _⟩ _ =>
    .error hr.1
  cases r with
  | ok _ => exact hr
  | error e => exact absurd (hexp e rfl) (by simp [hnf e rfl])

/-! ### `EnsureBastion` -/

/-- What `EnsureBastion` has before the public address is attached. -/
structure PreparedBastion where
  securityGroup : SecurityGroup
  server : Server
  publicIP : PublicIP

/-- `EnsureBastion` up to the public address. -/
def prepareBastion (input : BastionInput) : Call Session PreparedBastion :=
  if input.name = "" ∨ input.networkID = "" ∨ input.imageID = "" ∨ input.machineType = "" ∨
      input.sshKeyName = "" then
    fail (errorf .errInvalidInput
      "bastion name, network ID, image ID, machine type, and SSH key name are required")
  else if input.allowedCIDRs.isEmpty then
    fail (errorf .errInvalidInput "bastion allowed CIDRs are required")
  else if input.tags.entries.isEmpty then fail (errorf .errInvalidInput "bastion tags are required")
  else do
    let securityGroup ← ensureBastionSecurityGroup input
    ensureBastionSecurityGroupRules securityGroup.id input.allowedCIDRs
    let server ← createServer
      { name := input.name, imageID := input.imageID, machineType := input.machineType,
        sshKeyName := input.sshKeyName, networkID := input.networkID, securityGroups :=
          [securityGroup.id],
        userData := input.cloudInit, tags := input.tags, rootVolume := input.rootVolume }
    addSecurityGroupToServer server.id securityGroup.id
    let publicIP ← ensurePublicIP input.tags
    pure ⟨securityGroup, server, publicIP⟩

theorem ensureBastion_eq (input : BastionInput) : ensureBastion input = (do
    let b ← prepareBastion input
    let publicIP ← attachPublicIP b.server.id b.publicIP
    pure { serverID := b.server.id, serverState := b.server.state,
           serverPowerStatus := b.server.powerStatus,
           publicIPID := publicIP.id, publicIP := publicIP.ip, securityGroupID :=
             b.securityGroup.id }) := by
  unfold ensureBastion prepareBastion
  split
  · rfl
  split
  · rfl
  split
  · rfl
  simp only [Prog.bind_assoc, Prog.pure_bind]

/-- `b` names the bastion resources that carry the tags. -/
structure BastionIs (b : Bastion) (T : StringMap) (c : Cloud) : Prop where
  server : tagged .server T c = [b.serverID]
  publicIP : tagged .publicIP T c = [b.publicIPID]
  securityGroup : tagged .securityGroup T c = [b.securityGroupID]

section rules
variable {groupID : String}

theorem keeps_allowCIDRs {R : Session → Session → Prop} (hR : Closed R)
    (hcreate : ∀ p, Keeps R (createRule groupID p)) (rules : List SDKRule)
    (desired cidrs : List String) :
    Keeps R (allowCIDRs groupID rules desired cidrs) := by
  induction cidrs generalizing desired with
  | nil => exact .pure hR desired
  | cons cidr cidrs ih =>
    unfold allowCIDRs
    exact .ite (.fail hR _) (.ite (ih _) (.ite (ih _) (.bind hR (hcreate _) fun _ => ih _)))

theorem keeps_rules {R : Session → Session → Prop} (hR : Closed R)
    (hlist : Keeps R (listRules groupID)) (hcreate : ∀ p, Keeps R (createRule groupID p))
    (hdelete : ∀ r, Keeps R (deleteRule groupID r)) (cidrs : List String) :
    Keeps R (ensureBastionSecurityGroupRules groupID cidrs) := by
  refine .ite (.fail hR _) (.bind hR hlist fun rules => ?_)
  exact .bind hR (keeps_allowCIDRs hR hcreate _ _ _) fun desired =>
    .forEach hR fun rule _ => .ite (.pure hR ()) (hdelete rule)

variable {R : Cloud → Cloud → Prop}

theorem keeps_ensureBastionSecurityGroupRules (hR : Closed fun s t : Session => R s.cloud t.cloud)
    (hcreate : ∀ p c, R c (Cloud.createSecurityGroupRule groupID p c).2)
    (hdelete : ∀ r c, R c (Cloud.deleteSecurityGroupRule groupID r c).2) (cidrs : List String) :
    Keeps (fun s t : Session => R s.cloud t.cloud)
      (ensureBastionSecurityGroupRules groupID cidrs) := by
  have hrefl : ∀ c, R c c := fun c => hR.refl { cloud := c }
  have hlist : Keeps (fun s t : Session => R s.cloud t.cloud) (listRules groupID) :=
    keeps_request hrefl fun c => by rw [readOnly_listSecurityGroupRules groupID c]; exact hrefl c
  exact keeps_rules hR hlist (fun p => keeps_request hrefl (hcreate p)) (fun rule =>
    .ite (.pure hR ()) (keeps_tolerate hR (keeps_request hrefl (hdelete rule.id)))) cidrs

end rules

theorem sameResources_ensureBastionSecurityGroupRules (groupID : String) (cidrs : List String) :
    Keeps (fun s t : Session => SameResources s.cloud t.cloud)
      (ensureBastionSecurityGroupRules groupID cidrs) :=
  keeps_ensureBastionSecurityGroupRules SameResources.closed
    (SameResources.createSecurityGroupRule groupID)
    (SameResources.deleteSecurityGroupRule groupID) cidrs

theorem readOnly_getPublicIP (id : String) : ReadOnly (Cloud.getPublicIP id) := by
  intro c; unfold Cloud.getPublicIP; split <;> rfl

/-- Attaching an address keeps the resources, and answers with the same address. -/
theorem wp_attachPublicIP (serverID : String) (p : PublicIP) (s : Session) :
    wp (attachPublicIP serverID p)
      (Via (fun s t : Session => SameResources s.cloud t.cloud) s fun p' _ => p'.id = p.id) s := by
  have hR := SameResources.closed
  unfold attachPublicIP
  refine wp_ite (fun _ => ?_) fun _ => wp_via_pure hR rfl
  refine wp_via_bind hR (sameResources_addPublicIpToServer serverID p.id).via fun _ t _ _ => ?_
  unfold getPublicIP
  rw [wp_bind]
  refine wp_request fun r c u hr hu => ?_
  have hc : u.cloud = t.cloud := hu.cloud.trans (hr.cloud_eq (readOnly_getPublicIP p.id))
  cases r with
  | error e => exact ⟨SameResources.of_eq hc, fun _ h => by cases h⟩
  | ok q =>
    refine ⟨SameResources.of_eq hc, fun p' hp' => ?_⟩
    cases hp'
    have hok := hr.ok
    unfold Cloud.getPublicIP at hok
    split at hok
    · rename_i x hx
      cases hok
      show q.id = p.id
      simpa using List.find?_some hx
    · simp [Cloud.missing] at hok

/-- `EnsureBastion` creates at most the first resource of each kind, and its answer names the only
ones. -/
theorem wp_ensureBastion (input : BastionInput) (s : Session) :
    wp (ensureBastion input)
      (Via (fun s t : Session => AddsFirst IsBastionKind input.tags s.cloud t.cloud) s
        fun b t => BastionIs b input.tags t.cloud) s := by
  set T := input.tags with hT
  have hR : Closed fun s t : Session => AddsFirst IsBastionKind T s.cloud t.cloud :=
    AddsFirst.closed
  have hsame : ∀ {α : Type} {x : Call Session α} {t : Session},
      Keeps (fun s t : Session => SameResources s.cloud t.cloud) x →
      wp x (Via (fun s t : Session => AddsFirst IsBastionKind T s.cloud t.cloud) t fun _ u =>
        SameResources t.cloud u.cloud) t := fun h => (h.wp _).imp fun _ _ h =>
          ⟨.of_same h, fun _ _ => h⟩
  unfold ensureBastion
  refine wp_ite (fun _ => wp_via_fail hR _) fun _ => wp_ite (fun _ => wp_via_fail hR _) fun _ =>
    wp_ite (fun _ => wp_via_fail hR _) fun _ => ?_
  -- the security group and its rules
  refine wp_via_bind hR (P := fun g t => tagged .securityGroup T t.cloud = [g.id])
    ((wp_ensureSecurityGroup _ _ T s).imp fun r t ⟨h, hr⟩ => ⟨h.addsFirst trivial, hr⟩)
    fun g s₁ _ hg => ?_
  refine wp_via_bind hR (hsame (sameResources_ensureBastionSecurityGroupRules _ _)) fun _ s₂ _ h₂ =>
    ?_
  -- the server
  refine wp_via_bind hR (P := fun a t => tagged .server T t.cloud = [a.id] ∧
      labelled .securityGroup t.cloud = labelled .securityGroup s₂.cloud)
    ((wp_createServer _ s₂).imp fun r t ⟨h, hr⟩ =>
      ⟨h.addsFirst trivial, fun a ha => ⟨hr a ha, h.others _ (by decide)⟩⟩) fun a s₃ _ h₃ => ?_
  obtain ⟨ha, hg₃⟩ := h₃
  refine wp_via_bind hR (hsame (sameResources_addSecurityGroupToServer _ _)) fun _ s₄ _ h₄ => ?_
  -- the public IP
  refine wp_via_bind hR (P := fun p t => tagged .publicIP T t.cloud = [p.id] ∧
      ∀ k, k ≠ .publicIP → labelled k t.cloud = labelled k s₄.cloud)
    ((wp_ensurePublicIP T s₄).imp fun r t ⟨h, hr⟩ =>
      ⟨h.addsFirst trivial, fun p hp => ⟨hr p hp, h.others⟩⟩) fun p s₅ _ h₅ => ?_
  obtain ⟨hp, hothers⟩ := h₅
  refine wp_via_bind hR (P := fun q t => q.id = p.id ∧ SameResources s₅.cloud t.cloud)
    ((wp_attachPublicIP a.id p s₅).imp fun r t ⟨h, hr⟩ => ⟨.of_same h, fun q hq => ⟨hr q hq, h⟩⟩)
    fun q s₆ _ h₆ => ?_
  obtain ⟨hq, hsame₆⟩ := h₆
  refine wp_via_pure hR ⟨?_, ?_, ?_⟩
  · show tagged .server T s₆.cloud = [a.id]
    rw [tagged, hsame₆ .server, hothers _ (by decide), h₄ .server]; exact ha
  · show tagged .publicIP T s₆.cloud = [q.id]
    rw [tagged, hsame₆ .publicIP, hq]; exact hp
  · show tagged .securityGroup T s₆.cloud = [g.id]
    rw [tagged, hsame₆ .securityGroup, hothers _ (by decide), h₄ .securityGroup, hg₃,
      h₂ .securityGroup]; exact hg

/-! ### What every request keeps -/

/-- Every request of the clean-up keeps `R`. -/
structure CleanupClosed (R : Cloud → Cloud → Prop) : Prop where
  refl : ∀ c, R c c
  trans : ∀ {c c' c''}, R c c' → R c' c'' → R c c''
  deleteServer : ∀ id c, R c (Cloud.deleteServer id c).2
  deletePublicIP : ∀ id c, R c (Cloud.deletePublicIP id c).2
  deleteSecurityGroup : ∀ id c, R c (Cloud.deleteSecurityGroup id c).2
  removePublicIpFromServer : ∀ s p c, R c (Cloud.removePublicIpFromServer s p c).2
  removeSecurityGroupFromServer : ∀ s g c, R c (Cloud.removeSecurityGroupFromServer s g c).2
  deleteSecurityGroupRule : ∀ g r c, R c (Cloud.deleteSecurityGroupRule g r c).2

/-- Every request of the clean-up about a resource in `hit` keeps `R`. -/
structure CleanupClosedOn (hit : Kind → String → Prop) (R : Cloud → Cloud → Prop) : Prop where
  refl : ∀ c, R c c
  trans : ∀ {c c' c''}, R c c' → R c' c'' → R c c''
  deleteServer : ∀ id, hit .server id → ∀ c, R c (Cloud.deleteServer id c).2
  deletePublicIP : ∀ id, hit .publicIP id → ∀ c, R c (Cloud.deletePublicIP id c).2
  deleteSecurityGroup : ∀ id, hit .securityGroup id → ∀ c, R c (Cloud.deleteSecurityGroup id c).2
  removePublicIpFromServer : ∀ s p, hit .publicIP p →
    ∀ c, R c (Cloud.removePublicIpFromServer s p c).2
  removeSecurityGroupFromServer : ∀ s g, hit .server s →
    ∀ c, R c (Cloud.removeSecurityGroupFromServer s g c).2
  deleteSecurityGroupRule : ∀ g r, hit .securityGroup g →
    ∀ c, R c (Cloud.deleteSecurityGroupRule g r c).2

/-- Every request about a bastion keeps `R`. -/
structure BastionClosed (R : Cloud → Cloud → Prop) : Prop extends CleanupClosed R where
  createServer : ∀ p c, R c (Cloud.createServer p c).2
  createPublicIP : ∀ l c, R c (Cloud.createPublicIP l c).2
  createSecurityGroup : ∀ n d l c, R c (Cloud.createSecurityGroup n d l c).2
  createSecurityGroupRule : ∀ g p c, R c (Cloud.createSecurityGroupRule g p c).2
  addPublicIpToServer : ∀ s p c, R c (Cloud.addPublicIpToServer s p c).2
  addSecurityGroupToServer : ∀ s g c, R c (Cloud.addSecurityGroupToServer s g c).2

/-- Every request about a bastion keeps `R`, as long as servers are created with payloads in
`ok`. -/
structure BastionClosedWith (ok : CreateServerPayload → Prop) (R : Cloud → Cloud → Prop) :
    Prop extends CleanupClosed R where
  createServer : ∀ p, ok p → ∀ c, R c (Cloud.createServer p c).2
  createPublicIP : ∀ l c, R c (Cloud.createPublicIP l c).2
  createSecurityGroup : ∀ n d l c, R c (Cloud.createSecurityGroup n d l c).2
  createSecurityGroupRule : ∀ g p c, R c (Cloud.createSecurityGroupRule g p c).2
  addPublicIpToServer : ∀ s p c, R c (Cloud.addPublicIpToServer s p c).2
  addSecurityGroupToServer : ∀ s g c, R c (Cloud.addSecurityGroupToServer s g c).2

section
variable {R : Cloud → Cloud → Prop} {hit : Kind → String → Prop}

theorem CleanupClosed.closed (h : CleanupClosed R) :
    Closed fun s t : Session => R s.cloud t.cloud :=
  ⟨fun s => h.refl s.cloud, fun hst htu => h.trans hst htu⟩

theorem CleanupClosed.read (h : CleanupClosed R) {α : Type} {x : Call Session α}
    (hx : Keeps (fun s t : Session => t.cloud = s.cloud) x) :
    Keeps (fun s t : Session => R s.cloud t.cloud) x :=
  hx.imp fun s t hst => by rw [hst]; exact h.refl _

theorem CleanupClosed.readOnly (h : CleanupClosed R) {α : Type} {op : String} {req : Request}
    {effect : Cloud.Effect α} (hro : ReadOnly effect) :
    Keeps (fun s t : Session => R s.cloud t.cloud) (request op req effect) :=
  keeps_request h.refl fun c => by rw [hro c]; exact h.refl c

theorem CleanupClosed.on (h : CleanupClosed R) (hit : Kind → String → Prop) :
    CleanupClosedOn hit R where
  refl := h.refl
  trans := h.trans
  deleteServer id _ := h.deleteServer id
  deletePublicIP id _ := h.deletePublicIP id
  deleteSecurityGroup id _ := h.deleteSecurityGroup id
  removePublicIpFromServer s p _ := h.removePublicIpFromServer s p
  removeSecurityGroupFromServer s g _ := h.removeSecurityGroupFromServer s g
  deleteSecurityGroupRule g r _ := h.deleteSecurityGroupRule g r

theorem CleanupClosedOn.closed (h : CleanupClosedOn hit R) :
    Closed fun s t : Session => R s.cloud t.cloud :=
  ⟨fun s => h.refl s.cloud, fun hst htu => h.trans hst htu⟩

theorem CleanupClosedOn.keeps_deleteSecurityGroup (h : CleanupClosedOn hit R)
    (hid : hit .securityGroup id) :
    Keeps (fun s t : Session => R s.cloud t.cloud) (SDKClient.deleteSecurityGroup id) := by
  have hR := h.closed
  have hlist : Keeps (fun s t : Session => R s.cloud t.cloud) (listRules id) :=
    keeps_request h.refl fun c => by rw [readOnly_listSecurityGroupRules id c]; exact h.refl c
  refine .bind hR (.bind hR hlist.attempt fun r => ?_) fun _ =>
    keeps_tolerate hR (keeps_request h.refl (h.deleteSecurityGroup id hid))
  cases r with
  | error e => exact .ite (.pure hR ()) (.fail hR e)
  | ok rules =>
    exact .forEach hR fun rule _ => .ite (.pure hR ())
      (keeps_tolerate hR (keeps_request h.refl (h.deleteSecurityGroupRule id rule.id hid)))

/-- From the cloud `c` on, the answer of `x` is empty or an ID in `ids`, and nothing changes. -/
def Points (c : Cloud) (ids : String → Prop) (x : Call Session String) : Prop :=
  ∀ t : Session, t.cloud = c → wp x (fun r u => u.cloud = c ∧ ∀ id, r = .ok id → id = "" ∨ ids id) t

theorem points_idOrFind {β : Type} {ident : β → String} {find : Call Session β}
    {ids : String → Prop} (hfind : ∀ t, wp find (Found k T ident t) t)
    (hrecorded : recorded ≠ "" → ids recorded) (hfound : ∀ id ∈ tagged k T c, ids id) :
    Points c ids (idOrFind recorded (do pure (ident (← find)))) := by
  rintro t rfl
  unfold idOrFind
  refine wp_ite (fun _ => ?_) fun hne =>
    ⟨rfl, fun id hid => by cases hid; exact .inr (hrecorded hne)⟩
  refine (wp_foundID (hfind t)).imp fun r u ⟨hc, hr⟩ => ⟨hc, fun id hid => ?_⟩
  rcases hr id hid with hone | ⟨rfl, _⟩
  · exact .inr (hfound id (by rw [hone]; simp))
  · exact .inl rfl

/-- `DeleteBastion` touches nothing but the resources whose IDs it has resolved. -/
theorem CleanupClosedOn.wp_deleteBastion (h : CleanupClosedOn hit R) {input : BastionInput}
    {status : Bastion}
    (hserver : Points s.cloud (hit .server)
      (idOrFind status.serverID (do pure (← findServerByTags input.tags).id)))
    (hip : Points s.cloud (hit .publicIP)
      (idOrFind status.publicIPID (do pure (← findPublicIPByTags input.tags).id)))
    (hgroup : Points s.cloud (hit .securityGroup)
      (idOrFind status.securityGroupID (do pure (← findSecurityGroupByTags input.tags).id))) :
    wp (deleteBastion input status) (fun _ t => R s.cloud t.cloud) s := by
  have hR := h.closed
  have hwhen : ∀ {x : Call Session Unit} {b : Bool},
      (b = true → Keeps (fun s t : Session => R s.cloud t.cloud) x) →
        Keeps (fun s t : Session => R s.cloud t.cloud) (when' b x) := fun {x b} hx => by
    cases b with
    | true => exact hx rfl
    | false => exact .pure hR ()
  have hresolve : ∀ {ids : String → Prop} {x : Call Session String} {t : Session},
      Points s.cloud ids x → t.cloud = s.cloud →
        wp x (Via (fun s t : Session => R s.cloud t.cloud) t fun id u => u.cloud = s.cloud ∧
          (id = "" ∨ ids id)) t :=
    fun {ids x t} hx ht => (hx t ht).imp fun r u ⟨hu, hr⟩ => by
      refine ⟨?_, fun id hid => ⟨hu, hr id hid⟩⟩
      show R t.cloud u.cloud
      rw [hu, ht]; exact h.refl _
  refine (wp_via_bind hR (Q := fun _ _ => True) (hresolve hserver rfl) fun serverID s₁ _ h₁ =>
    ?_).imp fun r t hr => hr.1
  refine wp_via_bind hR (hresolve hip h₁.1) fun publicIPID s₂ _ h₂ => ?_
  refine wp_via_bind hR (hresolve hgroup h₂.1) fun groupID s₃ _ h₃ => Keeps.via ?_
  have hit₁ : serverID ≠ "" → hit .server serverID := h₁.2.resolve_left
  have hit₂ : publicIPID ≠ "" → hit .publicIP publicIPID := h₂.2.resolve_left
  have hit₃ : groupID ≠ "" → hit .securityGroup groupID := h₃.2.resolve_left
  refine .bind hR
    (hwhen fun hb =>
    keeps_tolerate hR (keeps_request h.refl (h.removePublicIpFromServer _ _ ?_))) fun _ =>
    .bind hR
      (hwhen fun hb =>
      keeps_tolerate hR (keeps_request h.refl (h.removeSecurityGroupFromServer _ _ ?_))) fun _ => ?_
  · exact hit₂ (by simp at hb; exact hb.2)
  · exact hit₁ (by simp at hb; exact hb.1)
  refine .bind hR
    (hwhen fun hb => keeps_tolerate hR (keeps_request h.refl (h.deleteServer _ (hit₁ ?_)))) fun _ =>
    .bind hR
      (hwhen fun hb =>
      keeps_tolerate hR (keeps_request h.refl (h.deletePublicIP _ (hit₂ ?_)))) fun _ =>
    hwhen fun hb => h.keeps_deleteSecurityGroup (hit₃ ?_)
  all_goals simpa using hb

theorem CleanupClosed.keeps_deleteSecurityGroup (h : CleanupClosed R) (id : String) :
    Keeps (fun s t : Session => R s.cloud t.cloud) (SDKClient.deleteSecurityGroup id) :=
  (h.on fun _ _ => True).keeps_deleteSecurityGroup trivial

theorem CleanupClosed.keeps_deleteBastion (h : CleanupClosed R) (input : BastionInput)
    (status : Bastion) :
    Keeps (fun s t : Session => R s.cloud t.cloud) (deleteBastion input status) := fun _ =>
  (h.on fun _ _ => True).wp_deleteBastion
    (points_idOrFind (wp_findServerByTags _) (fun _ => trivial) fun _ _ => trivial)
    (points_idOrFind (wp_findPublicIPByTags _) (fun _ => trivial) fun _ _ => trivial)
    (points_idOrFind (wp_findSecurityGroupByTags _) (fun _ => trivial) fun _ _ => trivial)

theorem CleanupClosed.keeps_deleteNodeSSHAccess (h : CleanupClosed R) (T : StringMap) :
    Keeps (fun s t : Session => R s.cloud t.cloud) (deleteNodeSSHAccess T) := by
  have hR := h.closed
  refine .bind hR (h.read fun s => (wp_findSecurityGroupByTags T s).1).attempt fun r => ?_
  cases r with
  | error e => exact .ite (.pure hR ()) (.fail hR e)
  | ok group =>
    refine .bind hR (h.read fun s => (wp_listServersByTags _ s).1) fun servers =>
      .bind hR (.forEach hR fun server _ => ?_)
      fun _ => h.keeps_deleteSecurityGroup group.id
    exact keeps_tolerate hR (keeps_request h.refl (h.removeSecurityGroupFromServer _ _))

/-- `EnsureBastion` up to the public address. It creates a server with the user data and the tags of
its input. -/
theorem BastionClosedWith.keeps_prepareBastion {ok : CreateServerPayload → Prop}
    (h : BastionClosedWith ok R) (input : BastionInput)
    (hok : ∀ p : CreateServerPayload, p.userData = input.cloudInit → p.labels = input.tags → ok p) :
    Keeps (fun s t : Session => R s.cloud t.cloud) (prepareBastion input) := by
  have hR := h.closed
  have hrules : ∀ g, Keeps (fun s t : Session => R s.cloud t.cloud)
      (ensureBastionSecurityGroupRules g input.allowedCIDRs) :=
    fun g => keeps_ensureBastionSecurityGroupRules hR (h.createSecurityGroupRule g)
      (h.deleteSecurityGroupRule g) _
  refine .ite (.fail hR _)
    (.ite (.fail hR _) (.ite (.fail hR _) (.bind hR ?_ fun g => .bind hR (hrules g.id) fun _ =>
    .bind hR ?_ fun a => .bind hR ?_ fun _ => .bind hR ?_ fun p => .pure hR _)))
  · exact keeps_existingOr hR (h.read fun s => (wp_findSecurityGroupByTags _ s).1)
      (.bind hR (keeps_request h.refl (h.createSecurityGroup _ _ _)) fun _ => .pure hR _)
  · exact keeps_existingOr hR (h.read fun s => (wp_findServerByTags _ s).1)
      (.bind hR (keeps_request h.refl fun c => h.createServer _ (hok _ rfl rfl) c) fun a =>
        h.read fun s => (wp_serverFromSDK a s).1)
  · exact keeps_tolerate hR (keeps_request h.refl (h.addSecurityGroupToServer _ _))
  · exact keeps_existingOr hR (h.read fun s => (wp_findPublicIPByTags _ s).1)
      (.bind hR (keeps_request h.refl (h.createPublicIP _)) fun _ => .pure hR _)

theorem BastionClosedWith.keeps_ensureBastion {ok : CreateServerPayload → Prop}
    (h : BastionClosedWith ok R) (input : BastionInput)
    (hok : ∀ p : CreateServerPayload, p.userData = input.cloudInit → p.labels = input.tags → ok p) :
    Keeps (fun s t : Session => R s.cloud t.cloud) (ensureBastion input) := by
  have hR := h.closed
  rw [ensureBastion_eq]
  refine .bind hR (h.keeps_prepareBastion input hok) fun b => .bind hR ?_ fun _ => .pure hR _
  refine .ite (.bind hR (keeps_tolerate hR (keeps_request h.refl (h.addPublicIpToServer _ _)))
    fun _ => ?_) (.pure hR _)
  exact .bind hR (h.readOnly (readOnly_getPublicIP _)) fun _ => .pure hR _

theorem BastionClosed.withAny (h : BastionClosed R) : BastionClosedWith (fun _ => True) R :=
  { h with createServer := fun p _ c => h.createServer p c }

theorem BastionClosed.keeps_ensureBastion (h : BastionClosed R) (input : BastionInput) :
    Keeps (fun s t : Session => R s.cloud t.cloud) (ensureBastion input) :=
  h.withAny.keeps_ensureBastion input fun _ _ _ => trivial

end

theorem cleanupClosed_shrinks : CleanupClosed Shrinks where
  refl := .refl
  trans := .trans
  deleteServer id := (removes_deleteServer id).shrinks
  deletePublicIP id := (removes_deletePublicIP id).shrinks
  deleteSecurityGroup id := (removes_deleteSecurityGroup id).shrinks
  removePublicIpFromServer s p c := (SameResources.removePublicIpFromServer s p c).shrinks
  removeSecurityGroupFromServer s g c := (SameResources.removeSecurityGroupFromServer s g c).shrinks
  deleteSecurityGroupRule g r c := (SameResources.deleteSecurityGroupRule g r c).shrinks

end SDKClient

end Capstk
