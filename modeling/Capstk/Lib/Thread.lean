import Mathlib.Logic.Function.Basic
import Capstk.Lib.Prog

/-!
# Threads

A `Thread` is a program of which it is known where others can come in between: it is a sequence of
labelled calls, each of which reads and writes the shared state at once. `run` is what it does when
nobody comes in between, so that a thread is a refinement of the `Prog` it runs as. `Threads` are
several of them over one state; a run of `turn` is an interleaving of their calls.

Since anything may happen between two calls, what is known of a thread has to hold for every state
its calls may find: `Calls G` bounds each call by `G`, `Ends J Q` bounds the results by `Q` and
`Reaches J P` says that every execution establishes `P`, as long as `J` holds. Of a thread that runs
alone but may be cut off after any of its calls, `Always I Q` says what holds on the way and at the
end.
-/

inductive Thread (ℓ σ ε α : Type) : Type
  | done (r : Except ε α)
  /-- In the state `s` the call leaves `effect s` behind, and the thread goes on as `next s`. -/
  | call (label : ℓ) (effect : σ → σ) (next : σ → Thread ℓ σ ε α)

namespace Thread
variable {ℓ σ ε α β : Type}

def andThen : Thread ℓ σ ε α → (α → Thread ℓ σ ε β) → Thread ℓ σ ε β
  | done (.ok a), f => f a
  | done (.error e), _ => done (.error e)
  | call l c n, f => call l c fun s => andThen (n s) f

instance : Monad (Thread ℓ σ ε) where
  pure a := done (.ok a)
  bind := andThen

def fail (e : ε) : Thread ℓ σ ε α := done (.error e)

/-- A single call. -/
def atomically (l : ℓ) (x : Prog σ ε α) : Thread ℓ σ ε α :=
  call l (fun s => (x s).2) fun s => done (x s).1

def attempt : Thread ℓ σ ε α → Thread ℓ σ ε (Except ε α)
  | done r => done (.ok r)
  | call l c n => call l c fun s => attempt (n s)

def forEach : List β → (β → Thread ℓ σ ε Unit) → Thread ℓ σ ε Unit
  | [], _ => pure ()
  | b :: bs, f => do f b; forEach bs f

/-- What has come out, once all calls are made. -/
def result : Thread ℓ σ ε α → Option (Except ε α)
  | done r => some r
  | call _ _ _ => none

/-- The next call. -/
def pending : Thread ℓ σ ε α → Option ℓ
  | done _ => none
  | call l _ _ => some l

/-! ### Alone -/

def run : Thread ℓ σ ε α → Prog σ ε α
  | done r => fun s => (r, s)
  | call _ c n => fun s => run (n s) (c s)

@[simp] theorem run_pure (a : α) : run (pure a : Thread ℓ σ ε α) = pure a := rfl

@[simp] theorem run_fail (e : ε) : run (fail e : Thread ℓ σ ε α) = Prog.fail e := rfl

@[simp] theorem run_atomically (l : ℓ) (x : Prog σ ε α) : run (atomically l x) = x := rfl

@[simp] theorem run_bind (x : Thread ℓ σ ε α) (f : α → Thread ℓ σ ε β) :
    run (x >>= f) = run x >>= fun a => run (f a) := by
  induction x with
  | done r =>
    cases r with
    | ok a => rfl
    | error e => rfl
  | call l c n ih =>
    funext s
    show run (andThen (n s) f) (c s) = Prog.andThen (run (call l c n)) (fun a => run (f a)) s
    exact congrFun (ih s) (c s)

@[simp] theorem run_attempt (x : Thread ℓ σ ε α) : run (attempt x) = Prog.attempt (run x) := by
  induction x with
  | done r => rfl
  | call l c n ih =>
    funext s
    exact congrFun (ih s) (c s)

@[simp] theorem run_forEach (bs : List β) (f : β → Thread ℓ σ ε Unit) :
    run (forEach bs f) = Prog.forEach bs fun b => run (f b) := by
  induction bs with
  | nil => rfl
  | cons b bs ih => simp only [forEach, Prog.forEach, run_bind, ih]

theorem run_ite {c : Prop} [Decidable c] (x y : Thread ℓ σ ε α) :
    run (if c then x else y) = if c then run x else run y :=
  apply_ite run c x y

/-! ### Every call -/

/-- Every call, whatever state it finds, is one that `G` allows. -/
def Calls (G : ℓ → σ → σ → Prop) : Thread ℓ σ ε α → Prop
  | done _ => True
  | call l c n => (∀ s, G l s (c s)) ∧ ∀ s, Calls G (n s)

namespace Calls
variable {G : ℓ → σ → σ → Prop}

theorem pure (a : α) : Calls G (Pure.pure a : Thread ℓ σ ε α) := trivial

theorem fail (e : ε) : Calls G (Thread.fail e : Thread ℓ σ ε α) := trivial

theorem atomically {l : ℓ} {x : Prog σ ε α} (h : Prog.Keeps (G l) x) :
    Calls G (Thread.atomically l x) := ⟨h, fun _ => trivial⟩

theorem bind {x : Thread ℓ σ ε α} {f : α → Thread ℓ σ ε β} (hx : Calls G x)
    (hf : ∀ a, Calls G (f a)) :
    Calls G (x >>= f) := by
  induction x with
  | done r =>
    cases r with
    | ok a => exact hf a
    | error e => trivial
  | call l c n ih => exact ⟨hx.1, fun s => ih s (hx.2 s)⟩

theorem attempt {x : Thread ℓ σ ε α} (hx : Calls G x) : Calls G (Thread.attempt x) := by
  induction x with
  | done r => trivial
  | call l c n ih => exact ⟨hx.1, fun s => ih s (hx.2 s)⟩

theorem ite {c : Prop} [Decidable c] {x y : Thread ℓ σ ε α} (hx : Calls G x) (hy : Calls G y) :
    Calls G (if c then x else y) := by
  split <;> assumption

theorem forEach {bs : List β} {f : β → Thread ℓ σ ε Unit} (h : ∀ b, Calls G (f b)) :
    Calls G (Thread.forEach bs f) := by
  induction bs with
  | nil => trivial
  | cons b bs ih => exact .bind (h b) fun _ => ih

end Calls

/-! ### Every result -/

/-- Every execution ends with a result in `Q`, if `J` holds whenever it calls. -/
def Ends (J : σ → Prop) (Q : Except ε α → Prop) : Thread ℓ σ ε α → Prop
  | done r => Q r
  | call _ _ n => ∀ s, J s → Ends J Q (n s)

/-- No execution fails, if `J` holds whenever it calls. -/
def Returns (J : σ → Prop) (x : Thread ℓ σ ε α) : Prop := Ends J (fun r => ∃ a, r = .ok a) x

namespace Ends
variable {J J' : σ → Prop} {P : Except ε α → Prop}

theorem mono {x : Thread ℓ σ ε α} (hx : Ends J P x) (hJ : ∀ s, J' s → J s) : Ends J' P x := by
  induction x with
  | done r => exact hx
  | call l c n ih => exact fun s hs => ih s (hx s (hJ s hs))

theorem imp {P' : Except ε α → Prop} {x : Thread ℓ σ ε α} (hx : Ends J P x) (hP : ∀ r, P r → P' r) :
    Ends J P' x := by
  induction x with
  | done r => exact hP r hx
  | call l c n ih => exact fun s hs => ih s (hx s hs)

end Ends

namespace Returns
variable {J : σ → Prop}

theorem mono {J' : σ → Prop} {x : Thread ℓ σ ε α} (hx : Returns J x) (hJ : ∀ s, J' s → J s) :
    Returns J' x := Ends.mono hx hJ

theorem pure (a : α) : Returns J (Pure.pure a : Thread ℓ σ ε α) := ⟨a, rfl⟩

theorem ite {c : Prop} [Decidable c] {x y : Thread ℓ σ ε α} (hx : Returns J x) (hy : Returns J y) :
    Returns J (if c then x else y) := by
  split <;> assumption

theorem bind {x : Thread ℓ σ ε α} {f : α → Thread ℓ σ ε β} (hx : Returns J x)
    (hf : ∀ a, Returns J (f a)) :
    Returns J (x >>= f) := by
  induction x with
  | done r =>
    obtain ⟨a, rfl⟩ := hx
    exact hf a
  | call l c n ih => exact fun s hs => ih s (hx s hs)

theorem attempt_bind {P : Except ε α → Prop} {x : Thread ℓ σ ε α} {f : Except ε α → Thread ℓ σ ε β}
    (hx : Ends J P x) (hf : ∀ r, P r → Returns J (f r)) : Returns J (attempt x >>= f) := by
  induction x with
  | done r => exact hf r hx
  | call l c n ih => exact fun s hs => ih s (hx s hs)

theorem forEach {bs : List β} {f : β → Thread ℓ σ ε Unit} (h : ∀ b, Returns J (f b)) :
    Returns J (Thread.forEach bs f) := by
  induction bs with
  | nil => exact .pure ()
  | cons b bs ih => exact (h b).bind fun _ => ih

end Returns

/-! ### Some call -/

/-- Every execution makes a call that establishes `P`, if `J` holds whenever it calls. -/
def Reaches (J P : σ → Prop) : Thread ℓ σ ε α → Prop
  | done _ => False
  | call _ c n => ∀ s, J s → P (c s) ∨ Reaches J P (n s)

namespace Reaches
variable {J P : σ → Prop}

theorem bind_left {x : Thread ℓ σ ε α} {f : α → Thread ℓ σ ε β} (hx : Reaches J P x) :
    Reaches J P (x >>= f) := by
  induction x with
  | done r => exact hx.elim
  | call l c n ih => exact fun s hs => (hx s hs).imp_right (ih s)

theorem bind_right {x : Thread ℓ σ ε α} {f : α → Thread ℓ σ ε β} (hx : Returns J x)
    (hf : ∀ a, Reaches J P (f a)) : Reaches J P (x >>= f) := by
  induction x with
  | done r =>
    obtain ⟨a, rfl⟩ := hx
    exact hf a
  | call l c n ih => exact fun s hs => .inr (ih s (hx s hs))

end Reaches

/-! ### Every state on the way -/

/-- Run from `s` alone, `x` ends in `Q`, and every call on the way leaves a state in `I` behind. -/
def Always (I : σ → Prop) (Q : Except ε α → σ → Prop) : Thread ℓ σ ε α → σ → Prop
  | done r, s => Q r s
  | call _ c n, s => I (c s) ∧ Always I Q (n s) (c s)

/-- The state after the first `k` calls, or after all of them. -/
def steps : Nat → Thread ℓ σ ε α → σ → σ
  | 0, _, s => s
  | _ + 1, done _, s => s
  | k + 1, call _ c n, s => steps k (n s) (c s)

namespace Always
variable {I : σ → Prop} {Q Q' : Except ε α → σ → Prop} {s : σ}

theorem imp {x : Thread ℓ σ ε α} (h : Always I Q x s) (hQ : ∀ r t, Q r t → Q' r t) :
    Always I Q' x s := by
  induction x generalizing s with
  | done r => exact hQ r s h
  | call l c n ih => exact ⟨h.1, ih s h.2⟩

theorem atomically {l : ℓ} {x : Prog σ ε α} (h : Prog.wp x (fun r t => I t ∧ Q r t) s) :
    Always I Q (Thread.atomically l x) s := h

theorem bind {x : Thread ℓ σ ε α} {f : α → Thread ℓ σ ε β} {Q : Except ε β → σ → Prop}
    (h : Always I (fun r t => match r with
      | .ok a => Always I Q (f a) t
      | .error e => Q (.error e) t) x s) :
    Always I Q (x >>= f) s := by
  induction x generalizing s with
  | done r =>
    cases r with
    | ok a => exact h
    | error e => exact h
  | call l c n ih => exact ⟨h.1, ih s h.2⟩

theorem attempt_bind {x : Thread ℓ σ ε α} {f : Except ε α → Thread ℓ σ ε β}
    {Q : Except ε β → σ → Prop} (h : Always I (fun r t => Always I Q (f r) t) x s) :
    Always I Q (Thread.attempt x >>= f) s := by
  induction x generalizing s with
  | done r => exact h
  | call l c n ih => exact ⟨h.1, ih s h.2⟩

theorem ite {c : Prop} [Decidable c] {x y : Thread ℓ σ ε α} (hx : c → Always I Q x s)
    (hy : ¬ c → Always I Q y s) :
    Always I Q (if c then x else y) s := by
  split
  · exact hx ‹_›
  · exact hy ‹_›

theorem run {x : Thread ℓ σ ε α} (h : Always I Q x s) : Prog.wp x.run Q s := by
  induction x generalizing s with
  | done r => exact h
  | call l c n ih => exact ih s h.2

theorem steps {x : Thread ℓ σ ε α} (h : Always I Q x s) (hs : I s) (k : Nat) : I (x.steps k s) := by
  induction k generalizing x s with
  | zero => exact hs
  | succ k ih =>
    cases x with
    | done r => exact hs
    | call l c n => exact ih h.2 h.1

end Always

end Thread

/-! ### Interleavings -/

/-- Threads with names in `ι` over a shared state, and the calls made so far. -/
structure Threads (ι ℓ σ ε α : Type) where
  shared : σ
  threads : ι → Thread ℓ σ ε α
  trace : List (ι × ℓ) := []

namespace Threads
variable {ι ℓ σ ε α : Type} [DecidableEq ι] {w : Threads ι ℓ σ ε α} {i j : ι} {G : ℓ → σ → σ → Prop}

/-- The thread `i` makes its next call, if there is one. -/
def turn (w : Threads ι ℓ σ ε α) (i : ι) : Threads ι ℓ σ ε α :=
  match w.threads i with
  | .done _ => w
  | .call l c n =>
    { shared := c w.shared, threads := Function.update w.threads i (n w.shared),
      trace := w.trace ++ [(i, l)] }

theorem turn_cases (w : Threads ι ℓ σ ε α) (i : ι) :
    w.turn i = w ∨ ∃ l c n, w.threads i = .call l c n ∧ w.turn i =
    { shared := c w.shared, threads := Function.update w.threads i (n w.shared),
      trace := w.trace ++ [(i, l)] } := by
  unfold turn
  cases h : w.threads i with
  | done r => exact .inl rfl
  | call l c n => exact .inr ⟨l, c, n, rfl, rfl⟩

/-- A turn does not change what the calls of the threads can do. -/
theorem calls_turn (h : ∀ j, (w.threads j).Calls G) (i : ι) :
    ∀ j, ((w.turn i).threads j).Calls G := by
  intro j
  rcases w.turn_cases i with heq | ⟨l, c, n, hi, heq⟩
  · rw [heq]; exact h j
  · rw [heq]
    by_cases hj : j = i
    · subst hj
      have hcalls := h j
      rw [hi] at hcalls
      show (Function.update w.threads j (n w.shared) j).Calls G
      rw [Function.update_self]
      exact hcalls.2 w.shared
    · show (Function.update w.threads i (n w.shared) j).Calls G
      rw [Function.update_of_ne hj]
      exact h j

end Threads
