import Capstk.Lib.Run
import Capstk.Stepwise
import Capstk.Proofs.Freshness

/-!
# The SSH rules of the bastion

`ensureBastionSecurityGroupRules` works from one listing of the rules: it first creates a rule for
every CIDR that has none, then revokes the SSH rules of all others. Whatever its requests do and
wherever it is cut off, a rule that is to stay stays and only desired ranges are added (`OnTheWay`),
and this composes over attempts. When it succeeds the rules are exactly the desired ones.
-/

namespace Capstk

open Prog SDKClient

variable {g : String} {c c' c'' : Cloud} {cidrs : List String} {rules rules' rules'' : List SDKRule}

/-! ### The rules of a group -/

def rulesOf (g : String) (c : Cloud) : List SDKRule :=
  ((c.securityGroups.find? (·.id == g)).map (·.rules)).getD []

/-- The groups that are not asked for. -/
def otherGroups (g : String) (c : Cloud) : List SDKSecurityGroup :=
  c.securityGroups.filter (·.id != g)

/-- The ranges from which TCP port 22 can be reached. -/
def openRanges (rules : List SDKRule) : List String :=
  (rules.filter isSSHRule).map (·.payload.ipRange)

/-- The rule that opens TCP port 22 for a range. -/
def sshRule (cidr : String) : SDKRulePayload :=
  { direction := "ingress", ipRange := cidr, portMin := sshPort, portMax := sshPort,
    protocol := some tcpProtocol }

theorem isSSHRule_of_payload {r : SDKRule} {cidr : String} (h : r.payload = sshRule cidr) :
    isSSHRule r = true := by
  simp [isSSHRule, h, sshRule]

theorem mem_openRanges {x : String} : x ∈ openRanges rules ↔ ∃ r ∈ rules, isSSHRule r = true ∧
    r.payload.ipRange = x := by
  simp [openRanges, and_assoc]

theorem hasSSHRule_iff {x : String} : hasSSHRule rules x = true ↔ x ∈ openRanges rules := by
  rw [mem_openRanges, hasSSHRule, List.any_eq_true]
  constructor
  · rintro ⟨r, hr, h⟩
    rw [Bool.and_eq_true, beq_iff_eq] at h
    exact ⟨r, hr, h.2, h.1⟩
  · rintro ⟨r, hr, hssh, rfl⟩
    exact ⟨r, hr, by simp [hssh]⟩

/-- The rules of a group have IDs, no two the same, and none that is still to be given out. -/
structure DistinctRules (g : String) (c : Cloud) : Prop where
  nodup : ((rulesOf g c).map (·.id)).Nodup
  nonempty : ∀ r ∈ rulesOf g c, r.id ≠ ""
  used : ∀ r ∈ rulesOf g c, Used r.id c

/-! ### What the requests do to them -/

structure AddsRule (g : String) (payload : SDKRulePayload) (c c' : Cloud) : Prop where
  rules : rulesOf g c' = rulesOf g c ++ [⟨c.ids.newID c.issued, payload⟩]
  others : otherGroups g c' = otherGroups g c
  ids : c'.ids = c.ids
  issued : c'.issued = c.issued + 1

structure DropsRule (g ruleID : String) (c c' : Cloud) : Prop where
  rules : rulesOf g c' = (rulesOf g c).filter (·.id != ruleID)
  others : otherGroups g c' = otherGroups g c
  ids : c'.ids = c.ids
  issued : c'.issued = c.issued

/-- The groups with new rules for `g`. -/
def withRules (g : String) (f : List SDKRule → List SDKRule) (c : Cloud) : List SDKSecurityGroup :=
  c.securityGroups.map fun x => if x.id == g then { x with rules := f x.rules } else x

theorem rulesOf_withRules {f : List SDKRule → List SDKRule}
    (hc : c'.securityGroups = withRules g f c) (h : c.securityGroups.any (·.id == g) = true) :
    rulesOf g c' = f (rulesOf g c) := by
  have hid :
      ((fun x : SDKSecurityGroup => x.id == g) ∘ fun x =>
      if x.id == g then { x with rules := f x.rules } else x) =
        (·.id == g) := by
    funext x
    rw [Function.comp_apply]
    split <;> rfl
  rw [rulesOf, hc, withRules, List.find?_map, hid, rulesOf]
  cases hfind : c.securityGroups.find? (·.id == g) with
  | none =>
    obtain ⟨x, hx, hxg⟩ := List.any_eq_true.1 h
    exact absurd hxg (List.find?_eq_none.1 hfind x hx)
  | some x =>
    have hxg : (x.id == g) = true :=
      List.find?_some (p := fun x : SDKSecurityGroup => x.id == g) hfind
    rw [Option.map_some, Option.map_some, Option.map_some, if_pos hxg, Option.getD_some,
      Option.getD_some]

theorem otherGroups_withRules {f : List SDKRule → List SDKRule}
    (hc : c'.securityGroups = withRules g f c) :
    otherGroups g c' = otherGroups g c := by
  have hid :
      ((fun x : SDKSecurityGroup => x.id != g) ∘ fun x =>
      if x.id == g then { x with rules := f x.rules } else x) =
        (·.id != g) := by
    funext x
    rw [Function.comp_apply]
    split <;> rfl
  rw [otherGroups, hc, withRules, List.filter_map, hid, otherGroups]
  refine (List.map_congr_left fun x hx => ?_).trans (List.map_id _)
  exact if_neg (by simpa using (List.mem_filter.1 hx).2)

theorem createSecurityGroupRule_cases (g : String) (payload : SDKRulePayload) (c : Cloud) :
    (∃ e, Cloud.createSecurityGroupRule g payload c = (.error e, c)) ∨
      ∃ c', Cloud.createSecurityGroupRule g payload c = (.ok (), c') ∧ AddsRule g payload c c' := by
  rw [Cloud.createSecurityGroupRule]
  split
  · rename_i h
    refine .inr ⟨_, rfl, rulesOf_withRules (f := (· ++ [⟨c.ids.newID c.issued, payload⟩])) rfl h,
      ?_, rfl, rfl⟩
    exact otherGroups_withRules (f := (· ++ [⟨c.ids.newID c.issued, payload⟩])) rfl
  · exact .inl ⟨_, rfl⟩

/-- After the deletion of a rule no rule has its ID, whether there was one or not. -/
theorem dropsRule_deleteSecurityGroupRule (g ruleID : String) (c : Cloud) :
    DropsRule g ruleID c (Cloud.deleteSecurityGroupRule g ruleID c).2 := by
  rw [Cloud.deleteSecurityGroupRule]
  cases hfind : c.securityGroups.find? (·.id == g) with
  | none => exact ⟨by simp [Cloud.missing, rulesOf, hfind], rfl, rfl, rfl⟩
  | some x =>
    have hrules : rulesOf g c = x.rules := by simp [rulesOf, hfind]
    dsimp only
    split
    · have hany : c.securityGroups.any (·.id == g) = true :=
        List.any_eq_true.2 ⟨x, List.mem_of_find?_eq_some hfind,
          List.find?_some (p := fun x : SDKSecurityGroup => x.id == g) hfind⟩
      exact ⟨rulesOf_withRules (f := (·.filter (·.id != ruleID))) rfl hany,
        otherGroups_withRules (f := (·.filter (·.id != ruleID))) rfl, rfl, rfl⟩
    · rename_i hnone
      refine ⟨?_, rfl, rfl, rfl⟩
      show rulesOf g c = (rulesOf g c).filter (·.id != ruleID)
      rw [eq_comm, List.filter_eq_self, hrules]
      intro r hr
      simp only [List.any_eq_true, not_exists, not_and] at hnone
      simpa using hnone r hr

theorem DistinctRules.adds {payload : SDKRulePayload} (h : DistinctRules g c)
    (ha : AddsRule g payload c c') :
    DistinctRules g c' := by
  have hi : Issues c c' := ⟨ha.ids, by rw [ha.issued]; omega⟩
  refine ⟨?_, fun r hr => ?_, fun r hr => ?_⟩
  · rw [ha.rules, List.map_append, List.nodup_append]
    refine ⟨h.nodup, by simp, fun a hm b hb => ?_⟩
    obtain ⟨r, hr, rfl⟩ := List.mem_map.1 hm
    obtain rfl : b = c.ids.newID c.issued := by simpa using hb
    exact h.used r hr c.issued (Nat.le_refl _)
  · rw [ha.rules, List.mem_append, List.mem_singleton] at hr
    rcases hr with hr | rfl
    · exact h.nonempty r hr
    · exact c.ids.nonempty _
  · rw [ha.rules, List.mem_append, List.mem_singleton] at hr
    rcases hr with hr | rfl
    · exact (h.used r hr).issues hi
    · intro n hn heq
      rw [ha.ids] at heq
      have hn' : c.issued = n := c.ids.injective heq
      have := ha.issued
      omega

theorem DistinctRules.drops {ruleID : String} (h : DistinctRules g c)
    (hd : DropsRule g ruleID c c') : DistinctRules g c' := by
  have hsub : (rulesOf g c').Sublist (rulesOf g c) := hd.rules ▸ List.filter_sublist
  refine ⟨h.nodup.sublist (hsub.map _), fun r hr => h.nonempty r (hsub.subset hr), fun r hr => ?_⟩
  exact (h.used r (hsub.subset hr)).issues ⟨hd.ids, hd.issued.ge⟩

/-! ### On the way -/

/-- Whether the rule is to stay. -/
def kept (cidrs : List String) (r : SDKRule) : Bool :=
  !isSSHRule r || cidrs.contains r.payload.ipRange

/-- What is to stay is there, and what is there was there or is desired. -/
structure Between (cidrs : List String) (rules rules' : List SDKRule) : Prop where
  kept : ∀ r ∈ rules, kept cidrs r = true → r ∈ rules'
  origin : ∀ r ∈ rules', r ∈ rules ∨ ∃ cidr ∈ cidrs, r.payload = sshRule cidr

namespace Between

theorem refl (cidrs : List String) (rules : List SDKRule) : Between cidrs rules rules :=
  ⟨fun _ hr _ => hr, fun _ hr => .inl hr⟩

theorem trans (h : Between cidrs rules rules') (h' : Between cidrs rules' rules'') :
    Between cidrs rules rules'' := by
  refine ⟨fun r hr hk => h'.kept r (h.kept r hr hk) hk, fun r hr => ?_⟩
  rcases h'.origin r hr with hr' | hnew
  · exact h.origin r hr'
  · exact .inr hnew

theorem openRanges_lower (h : Between cidrs rules rules') {x : String} (hx : x ∈ openRanges rules)
    (hc : x ∈ cidrs) :
    x ∈ openRanges rules' := by
  obtain ⟨r, hr, hssh, rfl⟩ := mem_openRanges.1 hx
  exact mem_openRanges.2 ⟨r, h.kept r hr (by simp [Capstk.kept, hc]), hssh, rfl⟩

theorem openRanges_upper (h : Between cidrs rules rules') {x : String}
    (hx : x ∈ openRanges rules') :
    x ∈ openRanges rules ∨ x ∈ cidrs := by
  obtain ⟨r, hr, hssh, rfl⟩ := mem_openRanges.1 hx
  rcases h.origin r hr with hr' | ⟨cidr, hc, hpayload⟩
  · exact .inl (mem_openRanges.2 ⟨r, hr', hssh, rfl⟩)
  · refine .inr ?_
    rw [hpayload]
    exact hc

end Between

/-- The rules of `g` are on the way to the desired ones; nothing else has changed. -/
structure OnTheWay (g : String) (cidrs : List String) (c c' : Cloud) : Prop where
  distinct : DistinctRules g c'
  rules : Between cidrs (rulesOf g c) (rulesOf g c')
  others : otherGroups g c' = otherGroups g c

namespace OnTheWay

theorem refl (h : DistinctRules g c) : OnTheWay g cidrs c c := ⟨h, .refl _ _, rfl⟩

theorem trans (h : OnTheWay g cidrs c c') (h' : OnTheWay g cidrs c' c'') : OnTheWay g cidrs c c'' :=
  ⟨h'.distinct, h.rules.trans h'.rules, h'.others.trans h.others⟩

theorem adds {cidr : String} (h : OnTheWay g cidrs c c') (hcidr : cidr ∈ cidrs)
    (ha : AddsRule g (sshRule cidr) c' c'') :
    OnTheWay g cidrs c c'' := by
  refine h.trans ⟨h.distinct.adds ha, ⟨fun r hr _ => ?_, fun r hr => ?_⟩, ha.others⟩
  · rw [ha.rules]
    exact List.mem_append_left _ hr
  · rw [ha.rules, List.mem_append, List.mem_singleton] at hr
    rcases hr with hr | rfl
    · exact .inl hr
    · exact .inr ⟨cidr, hcidr, rfl⟩

theorem drops {r : SDKRule} (hdistinct : DistinctRules g c) (h : OnTheWay g cidrs c c')
    (hr : r ∈ rulesOf g c) (hkept : Capstk.kept cidrs r = false) (hd : DropsRule g r.id c' c'') :
    OnTheWay g cidrs c c'' := by
  refine ⟨h.distinct.drops hd, ⟨fun x hx hk => ?_, fun x hx => ?_⟩, hd.others.trans h.others⟩
  · rw [hd.rules, List.mem_filter]
    refine ⟨h.rules.kept x hx hk, ?_⟩
    rw [bne_iff_ne]
    intro hid
    rw [List.inj_on_of_nodup_map hdistinct.nodup hx hr hid, hkept] at hk
    cases hk
  · rw [hd.rules] at hx
    exact h.rules.origin x (List.mem_filter.1 hx).1

end OnTheWay

/-! ### The two loops -/

/-- The CIDRs a rule is created for, when those in `desired` were already seen. -/
def missing (rules : List SDKRule) : List String → List String → List String
  | _, [] => []
  | desired, cidr :: cidrs =>
    if desired.contains cidr then missing rules desired cidrs
    else if hasSSHRule rules cidr then missing rules (cidr :: desired) cidrs
    else cidr :: missing rules (cidr :: desired) cidrs

theorem mem_missing {desired : List String} {x : String} :
    x ∈ missing rules desired cidrs ↔ x ∈ cidrs ∧ x ∉ desired ∧ x ∉ openRanges rules := by
  induction cidrs generalizing desired with
  | nil => simp [missing]
  | cons cidr cidrs ih =>
    simp only [missing, List.contains_iff_mem, hasSSHRule_iff]
    by_cases hx : x = cidr
    · subst hx
      split_ifs with hd ho
      · simp [ih, hd]
      · simp [ih, ho]
      · simp [hd, ho]
    · split_ifs with hd ho
      · simp [ih, hx]
      · simp [ih, hx]
      · simp [ih, hx]

theorem nodup_missing (rules : List SDKRule) (desired cidrs : List String) :
    (missing rules desired cidrs).Nodup := by
  induction cidrs generalizing desired with
  | nil => exact .nil
  | cons cidr cidrs ih =>
    rw [missing]
    split_ifs
    · exact ih _
    · exact ih _
    · refine List.nodup_cons.2 ⟨fun h => ?_, ih _⟩
      exact (mem_missing.1 h).2.1 List.mem_cons_self

/-- The payloads of the rules that were asked for. -/
def creations (log : List LogEntry) : List SDKRulePayload :=
  log.filterMap fun x => match x.request with
    | .createSecurityGroupRule _ payload => some payload
    | _ => none

namespace Stepwise
open Thread

section shapes
variable {α : Type} {I : Session → Prop} {s : Session}

theorem always_request {op : String} {req : Request} {effect : Cloud.Effect α}
    {Q : Except GoError α → Session → Prop}
    (h : ∀ r c t, Settled op effect s.cloud r c → Issued req r c s t → I t ∧ Q r t) :
    Always I Q (request op req effect) s := .atomically (wp_request h)

theorem always_tolerate {expected : GoError → Bool} {x : Steps Unit}
    {Q : Except GoError Unit → Session → Prop} (h : Always I (fun r t => match r with
      | .ok _ => Q (.ok ()) t
      | .error e => if expected e then Q (.ok ()) t else Q (.error e) t) x s) :
          Always I Q (tolerate expected x) s := by
  refine .attempt_bind (h.imp fun r t hr => ?_)
  cases r with
  | ok _ => exact hr
  | error e =>
    have hr' : if expected e = true then Q (.ok ()) t else Q (.error e) t := hr
    refine .ite (fun he => ?_) fun he => ?_
    · rw [if_pos he] at hr'
      exact hr'
    · rw [if_neg he] at hr'
      exact hr'

end shapes

variable {s : Session} {c₁ : Cloud} {desired all : List String}

theorem always_createRule {cidr : String} (h : OnTheWay g all c₁ s.cloud) (hcidr : cidr ∈ all) :
    Always (fun t => OnTheWay g all c₁ t.cloud)
      (fun r t => ∀ a, r = .ok a → OnTheWay g all c₁ t.cloud ∧
        AddsRule g (sshRule cidr) s.cloud t.cloud ∧
        creations t.log = creations s.log ++ [sshRule cidr]) (createRule g (sshRule cidr)) s := by
  refine always_request fun r c t hr ht => ?_
  have hlog : creations t.log = creations s.log ++ [sshRule cidr] := by
    rw [ht.log, creations, List.filterMap_append]
    rfl
  rcases createSecurityGroupRule_cases g (sshRule cidr) s.cloud
    with ⟨e, heffect⟩ | ⟨c', heffect, hadds⟩
  · have hc : t.cloud = s.cloud := by
      rcases hr.cloud_cases with hc | hc
      · rw [ht.cloud, hc]
      · rw [ht.cloud, hc, heffect]
    refine ⟨hc ▸ h, ?_⟩
    rintro a rfl
    rw [hr.ok] at heffect
    cases heffect
  · refine ⟨?_, ?_⟩
    · rw [ht.cloud]
      rcases hr.cloud_cases with rfl | rfl
      · exact h
      · rw [heffect]
        exact h.adds hcidr hadds
    · rintro a rfl
      rw [hr.ok] at heffect
      cases heffect
      rw [ht.cloud]
      exact ⟨h.adds hcidr hadds, hadds, hlog⟩

/-- The first loop adds the missing rules, each once. -/
theorem always_allowCIDRs (h : OnTheWay g all c₁ s.cloud) (hall : ∀ x ∈ cidrs, x ∈ all) :
    Always (fun t => OnTheWay g all c₁ t.cloud)
      (fun r t => ∀ d, r = .ok d → OnTheWay g all c₁ t.cloud ∧
        (∀ x, x ∈ d ↔ x ∈ desired ∨ x ∈ cidrs) ∧
        ∃ new, rulesOf g t.cloud = rulesOf g s.cloud ++ new ∧
          new.map (·.payload) = (missing rules desired cidrs).map sshRule ∧
          creations t.log = creations s.log ++ (missing rules desired cidrs).map sshRule)
      (allowCIDRs g rules desired cidrs) s := by
  induction cidrs generalizing desired s with
  | nil =>
    rintro d ⟨⟩
    exact ⟨h, by simp, [], by simp, rfl, by simp [missing]⟩
  | cons cidr cidrs ih =>
    have hrest : ∀ x ∈ cidrs, x ∈ all := fun x hx => hall x (List.mem_cons_of_mem _ hx)
    rw [allowCIDRs]
    refine .ite (fun _ => fun d hd => by cases hd) fun _ => .ite (fun hseen => ?_) fun hseen =>
      .ite (fun hhas => ?_) fun hhas => ?_
    · refine (ih h hrest).imp fun r t hr d hd => ?_
      obtain ⟨ht, hmem, hnew⟩ := hr d hd
      refine ⟨ht, fun x => ?_, ?_⟩
      · rw [hmem, List.mem_cons]
        have : x = cidr → x ∈ desired := fun hx => hx ▸ List.contains_iff_mem.1 hseen
        tauto
      · simpa only [missing, hseen, if_true] using hnew
    · refine (ih h hrest).imp fun r t hr d hd => ?_
      obtain ⟨ht, hmem, hnew⟩ := hr d hd
      refine ⟨ht, fun x => ?_, ?_⟩
      · rw [hmem, List.mem_cons, List.mem_cons]
        tauto
      · simpa only [missing, hseen, hhas, if_true, if_neg Bool.false_ne_true] using hnew
    · refine .bind ((always_createRule h (hall cidr List.mem_cons_self)).imp fun r t hr => ?_)
      cases r with
      | error e => exact fun d hd => by cases hd
      | ok a =>
        obtain ⟨ht, hadds, hlog⟩ := hr a rfl
        refine (ih ht hrest).imp fun r u hu d hd => ?_
        obtain ⟨hu, hmem, new, hrules, hpayloads, hlog'⟩ := hu d hd
        have hmissing : missing rules desired (cidr :: cidrs) = cidr :: missing rules
            (cidr :: desired) cidrs := by
          rw [missing, if_neg hseen, if_neg hhas]
        rw [hmissing]
        refine ⟨hu, fun x => ?_, ⟨s.cloud.ids.newID s.cloud.issued, sshRule cidr⟩ :: new,
          ?_, ?_, ?_⟩
        · rw [hmem, List.mem_cons, List.mem_cons]
          tauto
        · rw [hrules, hadds.rules, List.append_assoc, List.singleton_append]
        · rw [List.map_cons, List.map_cons, hpayloads]
        · rw [hlog', hlog, List.append_assoc, List.singleton_append, List.map_cons]

theorem always_deleteRule {rule : SDKRule} (hdistinct : DistinctRules g c₁)
    (h : OnTheWay g all c₁ s.cloud) (hrule : rule ∈ rulesOf g c₁) (hkept : kept all rule = false) :
    Always (fun t => OnTheWay g all c₁ t.cloud)
      (fun r t => ∀ a, r = .ok a → OnTheWay g all c₁ t.cloud ∧ DropsRule g rule.id s.cloud t.cloud ∧
        creations t.log = creations s.log) (deleteRule g rule) s := by
  rw [deleteRule, if_neg (hdistinct.nonempty rule hrule)]
  refine always_tolerate (always_request fun r c t hr ht => ?_)
  have hdrops := dropsRule_deleteSecurityGroupRule g rule.id s.cloud
  have hway : OnTheWay g all c₁ t.cloud := by
    rw [ht.cloud]
    rcases hr.cloud_cases with rfl | rfl
    · exact h
    · exact h.drops hdistinct hrule hkept hdrops
  have hlog : creations t.log = creations s.log := by
    rw [ht.log, creations, List.filterMap_append, creations]
    exact List.append_nil _
  refine ⟨hway, ?_⟩
  -- an answer, or the cloud itself says that there is no such rule
  have hdone : (r = .ok () ∨ ∃ e, r = .error e ∧ isNotFound e = true) →
      DropsRule g rule.id s.cloud t.cloud := by
    rintro (rfl | ⟨e, rfl, hnf⟩)
    · rw [hr.ok] at hdrops
      rw [ht.cloud]
      exact hdrops
    · obtain ⟨e', -, heffect⟩ := hr.notFound hnf
      rw [heffect] at hdrops
      rw [ht.cloud]
      exact hdrops
  cases r with
  | ok a => exact fun _ _ => ⟨hway, hdone (.inl rfl), hlog⟩
  | error e =>
    show if isNotFound e = true then _ else _
    split
    · rename_i hnf
      exact fun _ _ => ⟨hway, hdone (.inr ⟨e, rfl, hnf⟩), hlog⟩
    · exact fun _ hd => by cases hd

/-- The second loop revokes the rules that are not to stay. -/
theorem always_revoke {l : List SDKRule} (hdistinct : DistinctRules g c₁)
    (h : OnTheWay g all c₁ s.cloud) (hl : ∀ r ∈ l, r ∈ rulesOf g c₁)
    (hdesired : ∀ x, x ∈ desired ↔ x ∈ all) :
    Always (fun t => OnTheWay g all c₁ t.cloud)
      (fun r t => ∀ a, r = .ok a → OnTheWay g all c₁ t.cloud ∧ creations t.log = creations s.log ∧
        rulesOf g t.cloud = (rulesOf g s.cloud).filter fun x => !l.any fun r =>
        !kept all r && r.id == x.id)
      (Thread.forEach l fun rule =>
        if !isSSHRule rule || desired.contains rule.payload.ipRange then pure ()
        else deleteRule g rule) s := by
  induction l generalizing s with
  | nil =>
    rintro a ⟨⟩
    exact ⟨h, rfl, by simp⟩
  | cons rule l ih =>
    have hrest : ∀ r ∈ l, r ∈ rulesOf g c₁ := fun r hr => hl r (List.mem_cons_of_mem _ hr)
    have hcond : (!isSSHRule rule || desired.contains rule.payload.ipRange) = kept all rule := by
      rw [kept, Bool.eq_iff_iff]
      simp [hdesired]
    rw [Thread.forEach, hcond]
    refine .bind (.ite (fun hkept => ?_) fun hkept => ?_)
    · refine (ih h hrest).imp fun r t hr a ha => ?_
      simpa [hkept] using hr a ha
    · rw [Bool.not_eq_true] at hkept
      refine (always_deleteRule hdistinct h (hl rule List.mem_cons_self) hkept).imp fun r t hr => ?_
      cases r with
      | error e => exact fun a ha => by cases ha
      | ok a =>
        obtain ⟨ht, hdrops, hlog⟩ := hr a rfl
        refine (ih ht hrest).imp fun r u hu a ha => ?_
        obtain ⟨hu, hlog', hrules⟩ := hu a ha
        refine ⟨hu, hlog'.trans hlog, ?_⟩
        rw [hrules, hdrops.rules, List.filter_filter]
        refine List.filter_congr fun x _ => ?_
        rw [List.any_cons, hkept, Bool.not_or, Bool.not_false, Bool.true_and, Bool.and_comm, bne,
          Bool.beq_comm]

end Stepwise

/-! ### The whole call -/

/-- The call went through from `s` to `t`: what is not to stay is gone, what was missing is
there. -/
structure Converged (g : String) (cidrs : List String) (s t : Session) : Prop where
  rules : ∃ new, rulesOf g t.cloud = (rulesOf g s.cloud).filter (kept cidrs) ++ new ∧
    new.map (·.payload) = (missing (rulesOf g s.cloud) [] cidrs).map sshRule
  creations : creations t.log = creations s.log ++ (missing (rulesOf g s.cloud) [] cidrs).map
    sshRule

theorem filter_revoked {new : List SDKRule} (hnodup : ((rules ++ new).map (·.id)).Nodup) :
    (rules ++ new).filter (fun x => !rules.any fun r => !kept cidrs r && r.id == x.id) =
      rules.filter (kept cidrs) ++ new := by
  have hsame : ∀ x ∈ rules ++ new, ∀ r ∈ rules, r.id = x.id → r = x := fun x hx r hr hid =>
    List.inj_on_of_nodup_map hnodup (List.mem_append_left _ hr) hx hid
  have hdisjoint : ∀ x ∈ new, x ∉ rules := by
    intro x hx hx'
    rw [List.map_append, List.nodup_append] at hnodup
    exact hnodup.2.2 x.id (List.mem_map_of_mem hx') x.id (List.mem_map_of_mem hx) rfl
  rw [List.filter_append]
  congr 1
  · refine List.filter_congr fun x hx => ?_
    cases hk : kept cidrs x with
    | true =>
      simp only [Bool.not_eq_true', List.any_eq_false, Bool.and_eq_true, beq_iff_eq, not_and]
      intro r hr hrk hid
      rw [hsame x (List.mem_append_left _ hx) r hr hid, hk] at hrk
      cases hrk
    | false =>
      rw [Bool.not_eq_false', List.any_eq_true]
      exact ⟨x, hx, by simp [hk]⟩
  · refine List.filter_eq_self.2 fun x hx => ?_
    simp only [Bool.not_eq_true', List.any_eq_false, Bool.and_eq_true, beq_iff_eq, not_and]
    intro r hr _ hid
    exact hdisjoint x hx (hsame x (List.mem_append_right _ hx) r hr hid ▸ hr)

theorem Stepwise.always_ensureBastionSecurityGroupRules {s : Session}
    (h : DistinctRules g s.cloud) :
    Thread.Always (fun t : Session => OnTheWay g cidrs s.cloud t.cloud)
      (fun r t => ∀ a, r = .ok a → OnTheWay g cidrs s.cloud t.cloud ∧ Converged g cidrs s t)
      (Stepwise.ensureBastionSecurityGroupRules g cidrs) s := by
  refine .ite (fun _ => fun a ha => by cases ha) fun _ =>
    .bind (always_request fun r c t hr ht => ?_)
  have hc : t.cloud = s.cloud := ht.cloud.trans (hr.cloud_eq (readOnly_listSecurityGroupRules g))
  have hway : OnTheWay g cidrs s.cloud t.cloud := by
    rw [hc]
    exact .refl h
  have hlog : Capstk.creations t.log = Capstk.creations s.log := by
    rw [ht.log, Capstk.creations, List.filterMap_append, Capstk.creations]
    exact List.append_nil _
  refine ⟨hway, ?_⟩
  cases r with
  | error e => exact fun a ha => by cases ha
  | ok rules =>
    have hrules : rules = rulesOf g s.cloud := by
      have heffect := hr.ok
      rw [Cloud.listSecurityGroupRules] at heffect
      cases hfind : s.cloud.securityGroups.find? (·.id == g) with
      | none =>
        rw [hfind] at heffect
        cases heffect
      | some x =>
        rw [hfind] at heffect
        cases heffect
        simp [rulesOf, hfind]
    subst hrules
    refine .bind ((always_allowCIDRs hway fun x hx => hx).imp fun r u hu => ?_)
    cases r with
    | error e => exact fun a ha => by cases ha
    | ok desired =>
      obtain ⟨hway', hdesired, new, hnew, hpayloads, hlog'⟩ := hu desired rfl
      refine (always_revoke h hway' (fun r hr => hr) fun x => by simp [hdesired]).imp
        fun r v hv a ha => ?_
      obtain ⟨hway'', hlog'', hv⟩ := hv a ha
      refine ⟨hway'', ⟨new, ?_, hpayloads⟩, ?_⟩
      · rw [hc] at hnew
        rw [hv, hnew]
        exact filter_revoked (hnew ▸ hway'.distinct.nodup)
      · rw [hlog'', hlog', hlog]

/-- After a call that went through port 22 is open from the desired ranges only. -/
theorem Converged.mem_openRanges {s t : Session} (h : Converged g cidrs s t) {x : String} :
    x ∈ openRanges (rulesOf g t.cloud) ↔ x ∈ cidrs := by
  obtain ⟨new, hrules, hpayloads⟩ := h.rules
  have hnew : ∀ r ∈ new, ∃ cidr ∈ missing (rulesOf g s.cloud) [] cidrs, sshRule cidr = r.payload :=
    fun r hr =>
    List.mem_map.1 (hpayloads ▸ List.mem_map_of_mem hr)
  rw [Capstk.mem_openRanges, hrules]
  constructor
  · rintro ⟨r, hr, hssh, rfl⟩
    rcases List.mem_append.1 hr with hr | hr
    · have hk := (List.mem_filter.1 hr).2
      simpa [kept, hssh] using hk
    · obtain ⟨cidr, hcidr, hpayload⟩ := hnew r hr
      rw [← hpayload]
      exact (mem_missing.1 hcidr).1
  · intro hx
    by_cases hopen : x ∈ openRanges (rulesOf g s.cloud)
    · obtain ⟨r, hr, hssh, rfl⟩ := Capstk.mem_openRanges.1 hopen
      exact ⟨r, List.mem_append_left _ (List.mem_filter.2 ⟨hr, by simp [kept, hx]⟩), hssh, rfl⟩
    · have hmissing : sshRule x ∈ new.map (·.payload) :=
        hpayloads ▸ List.mem_map_of_mem (mem_missing.2 ⟨hx, by simp, hopen⟩)
      obtain ⟨r, hr, hpayload⟩ := List.mem_map.1 hmissing
      exact ⟨r, List.mem_append_right _ hr, isSSHRule_of_payload hpayload, by rw [hpayload]; rfl⟩

/-! ### Attempts -/

/-- An attempt that ends after some number of requests, each of which may fail. -/
structure Attempt where
  outcomes : List Outcome
  calls : Nat

def cutOff (g : String) (cidrs : List String) (c : Cloud) (a : Attempt) : Cloud :=
  ((Stepwise.ensureBastionSecurityGroupRules g cidrs).steps a.calls
    { cloud := c, outcomes := a.outcomes }).cloud

theorem OnTheWay.cutOff (h : OnTheWay g cidrs c c') (a : Attempt) :
    OnTheWay g cidrs c (cutOff g cidrs c' a) := by
  have hs : DistinctRules g ({ cloud := c', outcomes := a.outcomes } : Session).cloud := h.distinct
  exact h.trans ((Stepwise.always_ensureBastionSecurityGroupRules hs).steps (.refl hs) a.calls)

theorem OnTheWay.attempts {attempts : List Attempt} (h : DistinctRules g c) :
    OnTheWay g cidrs c (Runs.run (Capstk.cutOff g cidrs) c attempts) :=
  Runs.run_inv (.refl h) fun _ a h => h.cutOff a

theorem OnTheWay.mem_of_not_ssh (h : OnTheWay g cidrs c c') {r : SDKRule}
    (hr : isSSHRule r = false) :
    r ∈ rulesOf g c' ↔ r ∈ rulesOf g c := by
  constructor
  · intro hmem
    rcases h.rules.origin r hmem with hmem | ⟨cidr, -, hpayload⟩
    · exact hmem
    · rw [isSSHRule_of_payload hpayload] at hr
      cases hr
  · exact fun hmem => h.rules.kept r hmem (by simp [kept, hr])

/-- However often the call was cut off, port 22 is open from every range that is to stay and from
none that is neither old nor desired. Once it goes through, it is open from exactly the desired
ranges: the missing ones were created, each once, and all other rules are as they were. -/
theorem bastion_rules_converge (g : String) (cidrs : List String) (c₀ : Cloud)
    (hc₀ : DistinctRules g c₀) (attempts : List Attempt) :
    let c := Runs.run (cutOff g cidrs) c₀ attempts
    (∀ x ∈ openRanges (rulesOf g c₀), x ∈ cidrs → x ∈ openRanges (rulesOf g c)) ∧
    (∀ x ∈ openRanges (rulesOf g c), x ∈ openRanges (rulesOf g c₀) ∨ x ∈ cidrs) ∧
    ∀ s t : Session, s.cloud = c → ensureBastionSecurityGroupRules g cidrs s = (.ok (), t) →
      (∀ x, x ∈ openRanges (rulesOf g t.cloud) ↔ x ∈ cidrs) ∧
      (∃ (created : List String) (new : List SDKRule), created.Nodup ∧
        (∀ x, x ∈ created ↔ x ∈ cidrs ∧ x ∉ openRanges (rulesOf g c)) ∧
        creations t.log = creations s.log ++ created.map sshRule ∧
        new.map (·.payload) = created.map sshRule ∧
        rulesOf g t.cloud = (rulesOf g c).filter (kept cidrs) ++ new) ∧
      (∀ r, isSSHRule r = false → (r ∈ rulesOf g t.cloud ↔ r ∈ rulesOf g c₀)) ∧
      otherGroups g t.cloud = otherGroups g c₀ := by
  intro c
  have hway : OnTheWay g cidrs c₀ c := .attempts hc₀
  refine ⟨fun x hx hcidr => hway.rules.openRanges_lower hx hcidr, fun x hx =>
    hway.rules.openRanges_upper hx, ?_⟩
  intro s t hs hrun
  have hdistinct : DistinctRules g s.cloud := hs ▸ hway.distinct
  rw [← Stepwise.run_ensureBastionSecurityGroupRules] at hrun
  obtain ⟨hway', hconv⟩ :=
    (Stepwise.always_ensureBastionSecurityGroupRules hdistinct).run.of_run hrun () rfl
  rw [hs] at hway'
  obtain ⟨new, hrules, hpayloads⟩ := hconv.rules
  have hcreations := hconv.creations
  rw [hs] at hrules hpayloads hcreations
  refine ⟨fun x => hconv.mem_openRanges,
    ⟨missing (rulesOf g c) [] cidrs, new, nodup_missing _ _ _, fun x => ?_,
    hcreations, hpayloads, hrules⟩, fun r hr => (hway.trans hway').mem_of_not_ssh hr,
    (hway.trans hway').others⟩
  rw [mem_missing]
  simp

/-- A group with two SSH rules and one other rule. -/
def sampleGroupCloud : Cloud where
  ids := .unary
  securityGroups :=
    [{ id := "g", name := "demo-ssh", labels := ∅
       rules :=
         [⟨"r1", sshRule "10.0.0.0/8"⟩, ⟨"r2", sshRule "192.168.0.0/16"⟩,
           ⟨"r3", { direction := "egress" }⟩] }]

theorem distinctRules_sample : DistinctRules "g" sampleGroupCloud := by
  refine ⟨by decide +kernel, by decide +kernel, fun r hr => .of_head rfl ?_⟩
  have hnone : ∀ r ∈ rulesOf "g" sampleGroupCloud, r.id.toList.head? ≠ some 'i' := by decide +kernel
  exact hnone r hr

abbrev sampleCIDRs : List String := ["203.0.113.0/24", "10.0.0.0/8", "203.0.113.0/24"]

/-- The creation of the missing rule times out although it took effect; the next attempt goes
through. -/
theorem bastion_rules_converge_resumed :
    let c :=
      Runs.run (cutOff "g" sampleCIDRs) sampleGroupCloud [⟨[.answered, .failedAfter .timeout], 2⟩]
    let t := ensureBastionSecurityGroupRules "g" sampleCIDRs { cloud := c }
    openRanges (rulesOf "g" c) = ["10.0.0.0/8", "192.168.0.0/16", "203.0.113.0/24"] ∧
      ∀ x, x ∈ openRanges (rulesOf "g" t.2.cloud) ↔ x ∈ sampleCIDRs := by
  refine ⟨by decide +kernel, ?_⟩
  refine ((bastion_rules_converge "g" sampleCIDRs sampleGroupCloud distinctRules_sample
    [⟨[.answered, .failedAfter .timeout], 2⟩]).2.2 _ _ rfl (Prod.ext ?_ rfl)).1
  decide +kernel

end Capstk
