/-!
# Fallible stateful programs

`Prog σ ε α` is a call that reads and writes a state `σ` and either answers or fails. The state
survives a failure: an effect that happened before the error stays. `attempt` turns the error into
a value, which is how Go code sees it.

Two ways to reason about a program. `wp x Q s` is the weakest precondition of the postcondition
`Q` on outcome and final state; it computes through `bind`, `attempt` and loops. `Keeps R x` says
that every execution relates the initial to the final state by `R`; for a reflexive and transitive
`R` it only looks at the leaves of the program, so a frame condition never unfolds the control flow.
-/

/-- A call over the state `σ` that answers with an `α` or fails with an `ε`. -/
def Prog (σ ε α : Type) : Type := σ → Except ε α × σ

namespace Prog
variable {σ τ ε α β : Type}

/-- The outcome of running `x` from `s`. -/
def outcome (x : Prog σ ε α) (s : σ) : Except ε α := (x s).1

/-- The state after running `x` from `s`. -/
def after (x : Prog σ ε α) (s : σ) : σ := (x s).2

def ret (a : α) : Prog σ ε α := fun s => (.ok a, s)

def andThen (x : Prog σ ε α) (f : α → Prog σ ε β) : Prog σ ε β := fun s =>
  match x s with
  | (.ok a, s') => f a s'
  | (.error e, s') => (.error e, s')

instance : Monad (Prog σ ε) where
  pure := ret
  bind := andThen

/-- Stop with an error; what was done to the state so far stays done. -/
def fail (e : ε) : Prog σ ε α := fun s => (.error e, s)

def get : Prog σ ε σ := fun s => (.ok s, s)

def modify (f : σ → σ) : Prog σ ε Unit := fun s => (.ok (), f s)

/-- The outcome of `x` as a value; `attempt x` itself never fails. -/
def attempt (x : Prog σ ε α) : Prog σ ε (Except ε α) := fun s => (.ok (x s).1, (x s).2)

/-- Run `x` on a part of a larger state. -/
def zoom (proj : τ → σ) (put : τ → σ → τ) (x : Prog σ ε α) : Prog τ ε α := fun t =>
  ((x (proj t)).1, put t (x (proj t)).2)

/-- A loop over a list that stops at the first failure. -/
def forEach : List β → (β → Prog σ ε Unit) → Prog σ ε Unit
  | [], _ => pure ()
  | b :: bs, f => do f b; forEach bs f

/-! ### Sequencing -/

theorem pure_bind (a : α) (f : α → Prog σ ε β) : (pure a >>= f : Prog σ ε β) = f a := rfl

theorem bind_assoc {γ : Type} (x : Prog σ ε α) (y : α → Prog σ ε β) (f : β → Prog σ ε γ) :
    x >>= y >>= f = x >>= fun a => y a >>= f := by
  funext s
  show andThen (andThen x y) f s = andThen x (fun a => andThen (y a) f) s
  unfold andThen
  rcases x s with ⟨_ | _, _⟩ <;> rfl

/-! ### Weakest preconditions -/

/-- Every execution of `x` from `s` ends with an outcome and a state in `Q`. -/
def wp (x : Prog σ ε α) (Q : Except ε α → σ → Prop) (s : σ) : Prop := Q (x s).1 (x s).2

/-- What follows a call with outcome `r`: the continuation after an answer, the error otherwise. -/
def Next (f : α → Prog σ ε β) (Q : Except ε β → σ → Prop) : Except ε α → σ → Prop
  | .ok a, s => wp (f a) Q s
  | .error e, s => Q (.error e) s

section wp
variable {Q Q' : Except ε α → σ → Prop} {s : σ}

theorem wp_iff {x : Prog σ ε α} : wp x Q s ↔ Q (x.outcome s) (x.after s) := Iff.rfl

/-- What is known of every execution, for the one that happened. -/
theorem wp.of_run {x : Prog σ ε α} {r : Except ε α} {t : σ} (h : wp x Q s) (hrun : x s = (r, t)) :
    Q r t := by
  rw [wp, hrun] at h
  exact h

theorem wp_of_run {x : Prog σ ε α} {r : Except ε α} {t : σ} (hrun : x s = (r, t)) (h : Q r t) :
    wp x Q s := by
  rw [wp, hrun]
  exact h

theorem wp.imp {x : Prog σ ε α} (h : wp x Q s) (hQ : ∀ r s', Q r s' → Q' r s') : wp x Q' s :=
  hQ _ _ h

/-- A call of which nothing is known. -/
theorem wp_of_forall {x : Prog σ ε α} (h : ∀ r s', Q r s') : wp x Q s := h _ _

theorem wp.and {x : Prog σ ε α} (h : wp x Q s) (h' : wp x Q' s) :
    wp x (fun r s' => Q r s' ∧ Q' r s') s := ⟨h, h'⟩

@[simp] theorem wp_pure (a : α) : wp (pure a : Prog σ ε α) Q s ↔ Q (.ok a) s := Iff.rfl

@[simp] theorem wp_fail (e : ε) : wp (fail e : Prog σ ε α) Q s ↔ Q (.error e) s := Iff.rfl

@[simp] theorem wp_get {Q : Except ε σ → σ → Prop} : wp get Q s ↔ Q (.ok s) s := Iff.rfl

@[simp] theorem wp_modify (f : σ → σ) {Q : Except ε Unit → σ → Prop} :
    wp (modify f) Q s ↔ Q (.ok ()) (f s) := Iff.rfl

@[simp] theorem wp_attempt (x : Prog σ ε α) {Q : Except ε (Except ε α) → σ → Prop} :
    wp (attempt x) Q s ↔ wp x (fun r s' => Q (.ok r) s') s := Iff.rfl

theorem wp_bind (x : Prog σ ε α) (f : α → Prog σ ε β) {Q : Except ε β → σ → Prop} :
    wp (x >>= f) Q s ↔ wp x (Next f Q) s := by
  show Q (andThen x f s).1 (andThen x f s).2 ↔ Next f Q (x s).1 (x s).2
  unfold andThen
  rcases x s with ⟨_ | _, _⟩ <;> exact Iff.rfl

@[simp] theorem next_ok (f : α → Prog σ ε β) {Q : Except ε β → σ → Prop} (a : α) :
    Next f Q (.ok a) s ↔ wp (f a) Q s := Iff.rfl

@[simp] theorem next_error (f : α → Prog σ ε β) {Q : Except ε β → σ → Prop} (e : ε) :
    Next f Q (.error e) s ↔ Q (.error e) s := Iff.rfl

theorem next_pure {f : α → β} {Q : Except ε β → σ → Prop} {r : Except ε α} (h : Q (r.map f) s) :
    Next (fun a => pure (f a)) Q r s := by
  cases r <;> exact h

theorem wp_bind_assoc {γ : Type} (x : Prog σ ε α) (y : α → Prog σ ε β) (f : β → Prog σ ε γ)
    {Q : Except ε γ → σ → Prop} :
    wp (x >>= fun a => y a >>= f) Q s ↔ wp (x >>= y) (Next f Q) s := by
  rw [← bind_assoc, wp_bind]

theorem wp_attempt_bind (x : Prog σ ε α) (f : Except ε α → Prog σ ε β) {Q : Except ε β → σ → Prop} :
    wp (attempt x >>= f) Q s ↔ wp x (fun r s' => wp (f r) Q s') s := by
  rw [wp_bind]; exact Iff.rfl

@[simp] theorem wp_zoom {proj : τ → σ} {put : τ → σ → τ} {x : Prog σ ε α} {t : τ}
    {Q : Except ε α → τ → Prop} :
    wp (zoom proj put x) Q t ↔ wp x (fun r s' => Q r (put t s')) (proj t) := Iff.rfl

theorem wp_ite {c : Prop} [Decidable c] {x y : Prog σ ε α} (hx : c → wp x Q s)
    (hy : ¬ c → wp y Q s) :
    wp (if c then x else y) Q s := by
  split
  · exact hx ‹_›
  · exact hy ‹_›

/-- The loop rule: `I` holds before every iteration, and an iteration either keeps it or ends the
loop with an error in `Q`. -/
theorem wp_forEach {l : List β} {f : β → Prog σ ε Unit} {Q : Except ε Unit → σ → Prop}
    (I : List β → σ → Prop) (h0 : I l s)
    (hstep : ∀ b bs s', I (b :: bs) s' →
      wp (f b) (fun r s'' => match r with | .ok _ => I bs s'' | .error e => Q (.error e) s'') s')
    (hdone : ∀ s', I [] s' → Q (.ok ()) s') : wp (forEach l f) Q s := by
  induction l generalizing s with
  | nil => exact hdone s h0
  | cons b bs ih =>
    rw [forEach, wp_bind]
    refine (hstep b bs s h0).imp fun r s' h => ?_
    cases r with
    | ok _ => exact ih h
    | error e => exact h

end wp

/-! ### Two-state relations -/

/-- Every execution of `x` relates the state before to the state after. -/
def Keeps (R : σ → σ → Prop) (x : Prog σ ε α) : Prop := ∀ s, R s (x s).2

/-- What `Keeps` needs of a relation to go through sequencing. -/
structure Closed (R : σ → σ → Prop) : Prop where
  refl : ∀ s, R s s
  trans : ∀ {s t u}, R s t → R t u → R s u

theorem Closed.ofEq {γ : Type} (f : σ → γ) : Closed fun s t : σ => f t = f s :=
  ⟨fun _ => rfl, fun h h' => h'.trans h⟩

theorem Closed.and {R S : σ → σ → Prop} (hR : Closed R) (hS : Closed S) :
    Closed fun s t => R s t ∧ S s t :=
  ⟨fun s => ⟨hR.refl s, hS.refl s⟩, fun h h' => ⟨hR.trans h.1 h'.1, hS.trans h.2 h'.2⟩⟩

namespace Keeps
variable {R : σ → σ → Prop}

theorem imp {S : σ → σ → Prop} {x : Prog σ ε α} (h : Keeps R x) (hRS : ∀ s t, R s t → S s t) :
    Keeps S x :=
  fun s => hRS _ _ (h s)

theorem wp {x : Prog σ ε α} (h : Keeps R x) (s : σ) : Prog.wp x (fun _ s' => R s s') s := h s

theorem pure (hR : Closed R) (a : α) : Keeps R (Pure.pure a : Prog σ ε α) := hR.refl

theorem fail (hR : Closed R) (e : ε) : Keeps R (Prog.fail e : Prog σ ε α) := hR.refl

theorem attempt {x : Prog σ ε α} (h : Keeps R x) : Keeps R (Prog.attempt x) := h

theorem bind (hR : Closed R) {x : Prog σ ε α} {f : α → Prog σ ε β} (hx : Keeps R x)
    (hf : ∀ a, Keeps R (f a)) : Keeps R (x >>= f) := by
  intro s
  show R s (andThen x f s).2
  have h := hx s
  unfold andThen
  rcases hxs : x s with ⟨_ | a, s'⟩ <;> rw [hxs] at h
  · exact h
  · exact hR.trans h (hf a s')

theorem ite {c : Prop} [Decidable c] {x y : Prog σ ε α} (hx : Keeps R x) (hy : Keeps R y) :
    Keeps R (if c then x else y) := by
  split <;> assumption

theorem forEach (hR : Closed R) {l : List β} {f : β → Prog σ ε Unit} (h : ∀ b ∈ l, Keeps R (f b)) :
    Keeps R (Prog.forEach l f) := by
  induction l with
  | nil => exact Keeps.pure hR ()
  | cons b bs ih =>
    exact Keeps.bind hR (h b (by simp)) fun _ => ih fun b' hb' => h b' (by simp [hb'])

theorem zoom {S : τ → τ → Prop} {proj : τ → σ} {put : τ → σ → τ} {x : Prog σ ε α} (h : Keeps R x)
    (hput : ∀ t s', R (proj t) s' → S t (put t s')) : Keeps S (Prog.zoom proj put x) :=
  fun t => hput t _ (h (proj t))

end Keeps

/-! ### Invariants -/

/-- Every execution of `x` keeps the invariant `I`. -/
abbrev Preserves (I : σ → Prop) (x : Prog σ ε α) : Prop := Keeps (fun s t => I s → I t) x

theorem Closed.imp (I : σ → Prop) : Closed fun s t : σ => I s → I t :=
  ⟨fun _ h => h, fun h h' hs => h' (h hs)⟩

/-- A relation that carries an invariant along. -/
theorem Keeps.preserves {R : σ → σ → Prop} {I : σ → Prop} {x : Prog σ ε α} (h : Keeps R x)
    (hI : ∀ s t, R s t → I s → I t) : Preserves I x := Keeps.imp h hI

/-- Only a call that succeeds goes on. -/
theorem wp_bind_ok {x : Prog σ ε α} {f : α → Prog σ ε β} {P : α → σ → Prop} {Q : β → σ → Prop}
    (hx : wp x (fun r t => ∀ a, r = .ok a → P a t) s)
    (hf : ∀ a t, P a t → wp (f a) (fun r t => ∀ b, r = .ok b → Q b t) t) :
    wp (x >>= f) (fun r t => ∀ b, r = .ok b → Q b t) s := by
  rw [wp_bind]
  refine hx.imp fun r t hr => ?_
  cases r with
  | error e => exact fun _ h => by cases h
  | ok a => exact hf a t (hr a rfl)

/-! ### Results along a relation -/

/-- `R` relates the states, and a result satisfies `P`. -/
def Via (R : σ → σ → Prop) (s : σ) (P : α → σ → Prop) (r : Except ε α) (t : σ) : Prop :=
  R s t ∧ ∀ a, r = .ok a → P a t

section via
variable {R : σ → σ → Prop} {s : σ} {P : α → σ → Prop} {Q : β → σ → Prop}

theorem Via.imp {P' : α → σ → Prop} {r : Except ε α} {t : σ} (h : Via R s P r t)
    (hP : ∀ a, R s t → P a t → P' a t) : Via R s P' r t :=
  ⟨h.1, fun a ha => hP a h.1 (h.2 a ha)⟩

theorem Via.error {e : ε} {t : σ} (h : R s t) : Via R s P (.error e) t :=
  ⟨h, fun _ ha => by cases ha⟩

theorem Via.ok {a : α} {t : σ} (h : R s t) (hP : P a t) : Via R s P (.ok a : Except ε α) t :=
  ⟨h, fun _ ha => by cases ha; exact hP⟩

theorem wp_via_pure (hR : Closed R) {a : α} (h : P a s) : wp (pure a : Prog σ ε α) (Via R s P) s :=
  .ok (hR.refl s) h

theorem wp_via_fail (hR : Closed R) (e : ε) : wp (fail e : Prog σ ε α) (Via R s P) s :=
  .error (hR.refl s)

theorem wp_via_bind (hR : Closed R) {x : Prog σ ε α} {f : α → Prog σ ε β} (hx : wp x (Via R s P) s)
    (hf : ∀ a t, R s t → P a t → wp (f a) (Via R t Q) t) : wp (x >>= f) (Via R s Q) s := by
  rw [wp_bind]
  refine hx.imp fun r t ⟨hst, hr⟩ => ?_
  cases r with
  | error e => exact .error hst
  | ok a =>
    rw [next_ok]
    exact (hf a t hst (hr a rfl)).imp fun r' u ⟨htu, hr'⟩ => ⟨hR.trans hst htu, hr'⟩

/-- A call of which only the relation matters. -/
theorem Keeps.via {x : Prog σ ε α} (h : Keeps R x) : Prog.wp x (Via R s fun _ _ => True) s :=
  (h.wp s).imp fun _ _ h => ⟨h, fun _ _ => trivial⟩

end via

end Prog
