import Capstk.SdkClient

/-!
# What a request can do

A request either takes effect and is answered, or fails before or after its effect; a failure never
claims that something does not exist. `wp_request` is this case distinction as a proof rule, and the
shapes of the SDK client (`existingOr`, `tolerate`, `single`) each get the rule their callers use.
-/

namespace Capstk

open Prog

/-- How a request that does `effect` can end in the state `c`. -/
inductive Settled {α : Type} (op : String) (effect : Cloud.Effect α) (c : Cloud) :
    Except GoError α → Cloud → Prop
  | answered (a : α) (c' : Cloud) (h : effect c = (.ok a, c')) : Settled op effect c (.ok a) c'
  | refused (e : SDKError) (c' : Cloud) (h : effect c = (.error e, c')) :
    Settled op effect c (.error (classifySDKError op e)) c'
  | failedBefore (f : Failure) : Settled op effect c (.error (classifySDKError op f.error)) c
  | failedAfter (f : Failure) : Settled op effect c (.error (classifySDKError op f.error))
      (effect c).2

/-- `t` is `s` after the request `req` with outcome `r`, which left the cloud as `c`. -/
structure Issued {α : Type} (req : Request) (r : Except GoError α) (c : Cloud) (s t : Session) :
    Prop where
  cloud : t.cloud = c
  orders : t.orders = s.orders
  outcomes : t.outcomes = s.outcomes.tail
  log : t.log = s.log ++ [⟨req, errorOf r⟩]

section
variable {α : Type} {op : String} {effect : Cloud.Effect α} {req : Request} {s : Session}

theorem settle_settled (o : Outcome) (c : Cloud) :
    Settled op effect c (settle op effect o c).1 (settle op effect o c).2 := by
  cases o with
  | answered =>
    show Settled op effect c (perform op effect c).1 (perform op effect c).2
    unfold perform
    rcases h : effect c with ⟨_ | a, c'⟩
    · exact .refused _ _ h
    · exact .answered a c' h
  | failedBefore f => exact .failedBefore f
  | failedAfter f => exact .failedAfter f

theorem wp_request {Q : Except GoError α → Session → Prop}
    (h : ∀ r c t, Settled op effect s.cloud r c → Issued req r c s t → Q r t) :
    wp (request op req effect) Q s :=
  h _ _ _ (settle_settled (s.outcomes.headD .answered) s.cloud) ⟨rfl, rfl, rfl, rfl⟩

/-- Whatever its outcome, a request took effect or it did not. -/
theorem Settled.cloud_cases {c c' : Cloud} {r : Except GoError α} (h : Settled op effect c r c') :
    c' = c ∨ c' = (effect c).2 := by
  cases h with
  | answered a _ h => exact .inr (by rw [h])
  | refused e _ h => exact .inr (by rw [h])
  | failedBefore f => exact .inl rfl
  | failedAfter f => exact .inr rfl

/-- Whether a request that ends so has changed the cloud. -/
def Outcome.takesEffect : Outcome → Bool
  | .failedBefore _ => false
  | _ => true

theorem settle_cloud (o : Outcome) (c : Cloud) :
    (settle op effect o c).2 = if o.takesEffect then (effect c).2 else c := by
  cases o with
  | answered =>
    show (perform op effect c).2 = (effect c).2
    unfold perform
    rcases effect c with ⟨_ | _, _⟩ <;> rfl
  | failedBefore f => rfl
  | failedAfter f => rfl

theorem request_cloud (s : Session) : (request op req effect s).2.cloud =
    if (s.outcomes.headD .answered).takesEffect then (effect s.cloud).2 else s.cloud :=
  settle_cloud _ _

theorem keeps_request {R : Cloud → Cloud → Prop} (hrefl : ∀ c, R c c)
    (heffect : ∀ c, R c (effect c).2) :
    Keeps (fun s t : Session => R s.cloud t.cloud) (request op req effect) := by
  intro s
  refine wp_request (Q := fun _ t => R s.cloud t.cloud) fun r c t hr ht => ?_
  rw [ht.cloud]
  rcases hr.cloud_cases with rfl | rfl
  · exact hrefl _
  · exact heffect _

/-- The effect of a request that only reads. -/
def ReadOnly (effect : Cloud.Effect α) : Prop := ∀ c, (effect c).2 = c

theorem Settled.cloud_eq {c c' : Cloud} {r : Except GoError α} (hro : ReadOnly effect)
    (h : Settled op effect c r c') : c' = c := by
  rcases h.cloud_cases with rfl | rfl
  · rfl
  · exact hro c

/-- A failed request that reports "not found" was refused by the cloud itself. -/
theorem Settled.notFound {c c' : Cloud} {e : GoError} (h : Settled op effect c (.error e) c')
    (hnf : isNotFound e = true) :
    ∃ e', e = classifySDKError op e' ∧ effect c = (.error e', c') := by
  cases h with
  | refused e' _ h => exact ⟨e', rfl, h⟩
  | failedBefore f => simp [f.not_isNotFound] at hnf
  | failedAfter f => simp [f.not_isNotFound] at hnf

theorem Settled.ok {c c' : Cloud} {a : α} (h : Settled op effect c (.ok a) c') :
    effect c = (.ok a, c') := by
  cases h with
  | answered _ _ h => exact h

end

/-! ### Shapes -/

section
variable {σ α : Type} {s : σ} {Q : Except GoError α → σ → Prop}

theorem wp_existingOr {absent : GoError → Bool} {find create : Call σ α}
    (h : wp find (fun r t => match r with
      | .ok a => Q (.ok a) t
      | .error e => if absent e then wp create Q t else Q (.error e) t) s) :
    wp (existingOr absent find create) Q s := by
  unfold existingOr
  rw [wp_attempt_bind]
  refine h.imp fun r t hr => ?_
  cases r with
  | ok a => exact hr
  | error e =>
    show wp (if absent e = true then create else fail e) Q t
    split <;> simp_all

/-- The three ways through, from what the look-up leaves. -/
theorem wp_existingOr_of {absent : GoError → Bool} {find create : Call σ α}
    {P : Except GoError α → σ → Prop} (hfind : wp find P s)
    (hfound : ∀ a t, P (.ok a) t → Q (.ok a) t)
    (habsent : ∀ e t, P (.error e) t → absent e = true → wp create Q t)
    (hfail : ∀ e t, P (.error e) t → absent e = false → Q (.error e) t) :
    wp (existingOr absent find create) Q s := by
  refine wp_existingOr (hfind.imp fun r t hr => ?_)
  cases r with
  | ok a => exact hfound a t hr
  | error e =>
    dsimp only
    split
    case isTrue he => exact habsent e t hr he
    case isFalse he => exact hfail e t hr (Bool.eq_false_of_not_eq_true he)

/-- A look-up of an ID, where the empty one stands for nothing found. -/
theorem wp_foundID_of {β : Type} {ident : β → String} {find : Call σ β}
    {P : Except GoError β → σ → Prop} {Q : Except GoError String → σ → Prop} (hfind : wp find P s)
    (hfound : ∀ b t, P (.ok b) t → Q (.ok (ident b)) t)
    (hnone : ∀ e t, P (.error e) t → isNotFound e = true → Q (.ok "") t)
    (hfail : ∀ e t, P (.error e) t → isNotFound e = false → Q (.error e) t) :
    wp (existingOr isNotFound (do pure (ident (← find))) (pure "")) Q s := by
  refine wp_existingOr ?_
  rw [wp_bind]
  refine hfind.imp fun r t hr => ?_
  cases r with
  | ok b => exact hfound b t hr
  | error e =>
    show if isNotFound e = true then _ else _
    split
    case isTrue he => exact hnone e t hr he
    case isFalse he => exact hfail e t hr (Bool.eq_false_of_not_eq_true he)

/-- Two look-ups before the creation are one. -/
theorem existingOr_existingOr (absent : GoError → Bool) (find find' create : Call σ α) :
    existingOr absent find (existingOr absent find' create) = existingOr absent
      (existingOr absent find find') create := by
  funext s
  simp only [existingOr, attempt, bind, andThen]
  rcases hf : find s with ⟨e | a, t⟩
  · by_cases he : absent e = true
    · simp only [he, if_true]
      rfl
    · simp [he, fail]
  · rfl

theorem wp_tolerate {expected : GoError → Bool} {call : Call σ Unit}
    {Q : Except GoError Unit → σ → Prop} (h : wp call (fun r t => match r with
      | .ok _ => Q (.ok ()) t
      | .error e => if expected e then Q (.ok ()) t else Q (.error e) t) s) :
    wp (tolerate expected call) Q s := by
  unfold tolerate
  rw [wp_attempt_bind]
  refine h.imp fun r t hr => ?_
  cases r with
  | ok a => exact hr
  | error e =>
    show wp (if expected e = true then pure () else fail e) Q t
    split <;> simp_all

/-- The two ends, from what the call leaves: it has succeeded or failed as expected, or it has
failed. -/
theorem wp_tolerate_of {expected : GoError → Bool} {call : Call σ Unit}
    {P Q : Except GoError Unit → σ → Prop} (hcall : wp call P s)
    (hdone : ∀ r t, P r t → (∀ e, r = .error e → expected e = true) → Q (.ok ()) t)
    (hfail : ∀ e t, P (.error e) t → expected e = false → Q (.error e) t) :
    wp (tolerate expected call) Q s := by
  refine wp_tolerate (hcall.imp fun r t hr => ?_)
  cases r with
  | ok a => exact hdone _ t hr fun e he => by cases he
  | error e =>
    dsimp only
    split
    case isTrue hexp =>
      refine hdone _ t hr fun e' he' => ?_
      cases he'
      exact hexp
    case isFalse hexp => exact hfail e t hr (Bool.eq_false_of_not_eq_true hexp)

theorem wp_requireTags {tags : StringMap} {call : Call σ α}
    (hempty : tags.entries.isEmpty = true →
      Q (.error (errorf .errInvalidInput "empty tag selector")) s)
    (h : wp call Q s) : wp (SDKClient.requireTags tags call) Q s :=
  wp_ite (fun he => hempty he) fun _ => h

theorem wp_single {one many : String} {l : List α}
    (hnone : l = [] → Q (.error (errorf .errNotFound ("no " ++ one ++ " matching tags"))) s)
    (hone : ∀ a, l = [a] → Q (.ok a) s)
    (hmany : 1 < l.length →
      Q (.error (errorf .errConflict ("multiple " ++ many ++ " matching tags"))) s) :
    wp (SDKClient.single one many l) Q s := by
  match l with
  | [] => exact hnone rfl
  | [a] => exact hone a rfl
  | a :: b :: l => exact hmany (by simp)

end

/-! ### Frames -/

section
variable {σ α : Type} {R : σ → σ → Prop}

theorem keeps_existingOr (hR : Closed R) {absent : GoError → Bool} {find create : Call σ α}
    (hfind : Keeps R find) (hcreate : Keeps R create) :
    Keeps R (existingOr absent find create) := by
  refine .bind hR hfind.attempt fun r => ?_
  cases r with
  | ok a => exact .pure hR a
  | error e => exact .ite hcreate (.fail hR e)

theorem keeps_tolerate (hR : Closed R) {expected : GoError → Bool} {call : Call σ Unit}
    (h : Keeps R call) :
    Keeps R (tolerate expected call) := by
  refine .bind hR h.attempt fun r => ?_
  cases r with
  | ok a => exact .pure hR ()
  | error e => exact .ite (.pure hR ()) (.fail hR e)

theorem keeps_requireTags (hR : Closed R) {tags : StringMap} {call : Call σ α} (h : Keeps R call) :
    Keeps R (SDKClient.requireTags tags call) := .ite (.fail hR _) h

theorem keeps_single (hR : Closed R) (one many : String) (l : List α) :
    Keeps R (SDKClient.single one many l : Call σ α) := by
  match l with
  | [] => exact .fail hR _
  | [a] => exact .pure hR a
  | _ :: _ :: _ => exact .fail hR _

end

/-- Every request keeps `R`. -/
structure RequestClosed (R : Session → Session → Prop) : Prop extends Closed R where
  request : ∀ {α : Type} (op : String) (req : Request) (effect : Cloud.Effect α),
    Keeps R (request op req effect)

theorem requestClosed_orders : RequestClosed fun s t => t.orders = s.orders :=
  { Closed.ofEq Session.orders with request := fun _ _ _ _ => rfl }

/-! ### The log -/

/-- The log has grown, by entries in `P`. -/
def Logs (P : LogEntry → Prop) (s t : Session) : Prop :=
  ∃ new, t.log = s.log ++ new ∧ ∀ x ∈ new, P x

namespace Logs
variable {P P' : LogEntry → Prop} {s t u : Session}

theorem refl (P : LogEntry → Prop) (s : Session) : Logs P s s := ⟨[], by simp, by simp⟩

theorem trans (h : Logs P s t) (h' : Logs P t u) : Logs P s u := by
  obtain ⟨new, hnew, hP⟩ := h
  obtain ⟨new', hnew', hP'⟩ := h'
  refine ⟨new ++ new', by rw [hnew', hnew, List.append_assoc], fun x hx => ?_⟩
  rcases List.mem_append.1 hx with hx | hx
  · exact hP x hx
  · exact hP' x hx

theorem closed (P : LogEntry → Prop) : Closed (Logs P) := ⟨refl P, trans⟩

theorem mono (h : Logs P s t) (hP : ∀ x, P x → P' x) : Logs P' s t := by
  obtain ⟨new, hnew, hx⟩ := h
  exact ⟨new, hnew, fun x hx' => hP x (hx x hx')⟩

theorem of_log_eq (h : t.log = s.log) : Logs P s t := ⟨[], by simp [h], by simp⟩

end Logs

theorem logs_request {α : Type} {P : LogEntry → Prop} {op : String} {req : Request}
    {effect : Cloud.Effect α} (h : ∀ e, P ⟨req, e⟩) : Keeps (Logs P) (request op req effect) := by
  intro s
  refine wp_request (Q := fun _ t => Logs P s t) fun r c t _ ht =>
    ⟨[⟨req, errorOf r⟩], ht.log, fun x hx => ?_⟩
  rw [List.mem_singleton.1 hx]
  exact h _

theorem logs_rangeOver {P : LogEntry → Prop} (m : StringMap) : Keeps (Logs P) (rangeOver m) := by
  intro s
  refine Logs.of_log_eq ?_
  unfold rangeOver
  split <;> rfl

/-- A request that changes nothing. -/
def Request.isRead : Request → Bool
  | .getServer _ | .listServers _ | .listServerNICs _ | .listAvailabilityZones | .getNetwork
      _ | .listNetworks _
  | .listPublicIPs _ | .getPublicIP _ | .listSecurityGroups _ | .listSecurityGroupRules
      _ | .listLoadBalancers
  | .getLoadBalancer _ => true
  | _ => false

/-- Only reading requests were issued. -/
abbrev Reads : Session → Session → Prop := Logs fun x => x.request.isRead = true

theorem Reads.closed : Closed Reads := Logs.closed _

theorem reads_request {α : Type} {op : String} {req : Request} {effect : Cloud.Effect α}
    (h : req.isRead = true) :
    Keeps Reads (request op req effect) := logs_request fun _ => h

theorem reads_find {α β : Type} {op one many : String} {req : Request}
    {effect : Cloud.Effect (List α)} {T : StringMap} {f : List α → List β} (h : req.isRead = true) :
    Keeps Reads (do SDKClient.single one many (← SDKClient.requireTags T do
      let items ← request op req effect
      pure (f items))) := by
  have hR := Reads.closed
  refine .bind hR (keeps_requireTags hR (.bind hR (reads_request h) fun _ => .pure hR _)) fun l =>
    ?_
  exact keeps_single hR _ _ l

/-! ### Calls that never fail with "not found" -/

/-- An error of the call is never "not found": every such answer is dealt with inside it. -/
def NeverNotFound {σ α : Type} (x : Call σ α) : Prop :=
  ∀ s e, (x s).1 = .error e → isNotFound e = false

namespace NeverNotFound
variable {σ α β : Type}

theorem wp {x : Call σ α} (h : NeverNotFound x) (s : σ) :
    Prog.wp x (fun r _ => ∀ e, r = .error e → isNotFound e = false) s := h s

theorem pure (a : α) : NeverNotFound (Pure.pure a : Call σ α) := fun _ _ he => by cases he

theorem fail {e : GoError} (h : isNotFound e = false) : NeverNotFound (Prog.fail e : Call σ α) :=
  fun _ e' he => by
  cases he; exact h

theorem bind {x : Call σ α} {f : α → Call σ β} (hx : NeverNotFound x)
    (hf : ∀ a, NeverNotFound (f a)) :
    NeverNotFound (x >>= f) := by
  intro s e he
  refine (wp_bind x f (Q := fun r _ => ∀ e, r = .error e → isNotFound e = false)).2 ?_ e he
  refine (hx.wp s).imp fun r t hr => ?_
  cases r with
  | ok a => exact (hf a).wp t
  | error e' =>
    intro e'' he''
    cases he''
    exact hr e' rfl

theorem ite {c : Prop} [Decidable c] {x y : Call σ α} (hx : NeverNotFound x)
    (hy : NeverNotFound y) :
    NeverNotFound (if c then x else y) := by
  split <;> assumption

theorem forEach {l : List β} {f : β → Call σ Unit} (h : ∀ b, NeverNotFound (f b)) :
    NeverNotFound (Prog.forEach l f) := by
  induction l with
  | nil => exact .pure ()
  | cons b bs ih => exact .bind (h b) fun _ => ih

theorem attempt_bind {x : Call σ α} {f : Except GoError α → Call σ β}
    (hf : ∀ r, NeverNotFound (f r)) :
    NeverNotFound (attempt x >>= f) := by
  intro s e he
  exact (wp_attempt_bind x f (Q := fun r _ => ∀ e, r = .error e → isNotFound e = false)).2
    ((hf _).wp _) e he

theorem absorb {expected : GoError → Bool} {e : GoError} {x : Call σ α}
    (h : isNotFound e = true → expected e = true) (hx : NeverNotFound x) :
    NeverNotFound (if expected e then x else Prog.fail e) := by
  split
  · exact hx
  · rename_i hne
    exact .fail (by by_contra hnf; exact hne (h (by simpa using hnf)))

theorem existingOr {find create : Call σ α} (h : NeverNotFound create) :
    NeverNotFound (existingOr isNotFound find create) := by
  refine .attempt_bind fun r => ?_
  cases r with
  | ok a => exact .pure a
  | error e => exact .absorb (fun h => h) h

theorem tolerate {expected : GoError → Bool} {call : Call σ Unit}
    (h : ∀ e, isNotFound e = true → expected e = true) :
    NeverNotFound (tolerate expected call) := by
  refine .attempt_bind fun r => ?_
  cases r with
  | ok _ => exact .pure ()
  | error e => exact .absorb (h e) (.pure ())

end NeverNotFound

end Capstk
