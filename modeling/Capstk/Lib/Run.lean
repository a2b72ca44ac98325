/-!
# Runs of a step function

A system is a function `step : S → A → S`; everything the environment decides (which party moves,
what a request answers, what gets lost) is part of the action, so a run is a list of actions and
"every run" quantifies over lists. `Meets ok` restricts a run to actions that satisfy `ok` in the
state they are taken from.
-/

namespace Runs
variable {S A : Type} {step : S → A → S} {ok ok' : S → A → Prop} {I : S → Prop} {s : S}
  {as : List A}

/-- The state after the actions `as`. -/
def run (step : S → A → S) (s : S) (as : List A) : S := as.foldl step s

/-- Every action of the run satisfies `ok` in the state it is taken from. -/
def Meets (step : S → A → S) (ok : S → A → Prop) : S → List A → Prop
  | _, [] => True
  | s, a :: as => ok s a ∧ Meets step ok (step s a) as

instance Meets.decidable [∀ s a, Decidable (ok s a)] : ∀ s as, Decidable (Meets step ok s as)
  | _, [] => .isTrue trivial
  | s, a :: as => @instDecidableAnd _ _ _ (Meets.decidable (step s a) as)

@[simp] theorem run_nil : run step s [] = s := rfl

@[simp] theorem run_cons (a : A) : run step s (a :: as) = run step (step s a) as := rfl

theorem run_append (bs : List A) : run step s (as ++ bs) = run step (run step s as) bs :=
  List.foldl_append

theorem meets_append (bs : List A) :
    Meets step ok s (as ++ bs) ↔ Meets step ok s as ∧ Meets step ok (run step s as) bs := by
  induction as generalizing s with
  | nil => simp [Meets]
  | cons a as ih => simp only [List.cons_append, Meets, ih, run_cons, and_assoc]

theorem meets_of_forall (h : ∀ s a, ok s a) (s : S) (as : List A) : Meets step ok s as := by
  induction as generalizing s with
  | nil => trivial
  | cons a as ih => exact ⟨h s a, ih (step s a)⟩

theorem Meets.and (h : Meets step ok s as) (h' : Meets step ok' s as) :
    Meets step (fun s a => ok s a ∧ ok' s a) s as := by
  induction as generalizing s with
  | nil => trivial
  | cons a as ih => exact ⟨⟨h.1, h'.1⟩, ih h.2 h'.2⟩

/-- The invariant rule: what holds initially and is kept by every admitted step holds after every
admitted run. -/
theorem Meets.inv (h : Meets step ok s as) (h0 : I s) (hstep : ∀ s a, I s → ok s a → I (step s a)) :
    I (run step s as) := by
  induction as generalizing s with
  | nil => exact h0
  | cons a as ih => exact ih h.2 (hstep s a h0 h.1)

/-- What an invariant makes of every admitted step. -/
theorem Meets.of_inv (h : Meets step ok s as) (h0 : I s)
    (hstep : ∀ s a, I s → ok s a → I (step s a) ∧ ok' s a) :
    Meets step ok' s as := by
  induction as generalizing s with
  | nil => trivial
  | cons a as ih =>
    obtain ⟨hnext, hok⟩ := hstep s a h0 h.1
    exact ⟨hok, ih h.2 hnext⟩

theorem run_inv (h0 : I s) (hstep : ∀ s a, I s → I (step s a)) : I (run step s as) := by
  induction as generalizing s with
  | nil => exact h0
  | cons a as ih => exact ih (hstep s a h0)

/-! ### What no step changes -/

section unchanged
variable {B : Type} {b : B}

/-- Where no admitted step changes what is marked, it stays. -/
theorem Meets.kept (h : Meets step ok s as) (obs : S → Option B) (marked : B → Prop)
    (hstep : ∀ t a, ok t a → obs (step t a) ≠ obs t →
      ∀ b, obs t = some b ∨ obs (step t a) = some b → ¬ marked b)
    (hb : obs s = some b) (hmarked : marked b) :
    Meets step (fun t a => ok t a ∧ obs t = some b) s as ∧ obs (run step s as) = some b := by
  have hkeeps : ∀ t a, obs t = some b → ok t a → obs (step t a) = some b := by
    intro t a ht hok
    refine Classical.byContradiction fun hne => ?_
    exact hstep t a hok (by rw [ht]; exact hne) b (.inl ht) hmarked
  exact ⟨h.of_inv hb fun t a ht hok => ⟨hkeeps t a ht hok, hok, ht⟩, h.inv hb hkeeps⟩

/-- Where no admitted step changes something from or into what is marked, it is the same at both
ends if it is marked there. In between it may come and go. -/
theorem Meets.unchanged (h : Meets step ok s as) (obs : S → Option B) (marked : B → Prop)
    (hstep : ∀ t a, ok t a → obs (step t a) ≠ obs t →
      ∀ b, obs t = some b ∨ obs (step t a) = some b → ¬ marked b)
    (h0 : ∀ b, obs s = some b → marked b) (hend : ∀ b, obs (run step s as) = some b → marked b) :
    obs (run step s as) = obs s := by
  cases hs : obs s with
  | some b => exact (h.kept obs marked hstep hs (h0 b hs)).2
  | none =>
    have hunmarked : ∀ b, obs (run step s as) = some b → ¬ marked b := by
      refine h.inv (I := fun t => ∀ b, obs t = some b → ¬ marked b) (fun b hb => ?_)
        fun t a ht hok b hb => ?_
      · rw [hs] at hb
        cases hb
      · by_cases hsame : obs (step t a) = obs t
        · exact ht b (hsame ▸ hb)
        · exact hstep t a hok hsame b (.inr hb)
    exact Option.eq_none_iff_forall_ne_some.2 fun b hb => hunmarked b hb (hend b hb)

end unchanged

/-! ### Measures -/

/-- How often along the run an action satisfies `p` in the state it is taken from. -/
def times (step : S → A → S) (p : S → A → Bool) : S → List A → Nat
  | _, [] => 0
  | s, a :: as => (if p s a then 1 else 0) + times step p (step s a) as

/-- The measure rule: where no admitted step raises the rank and those that satisfy `p` lower it, it
falls with every one of them. -/
theorem Meets.measure {p : S → A → Bool} (rank : S → Nat) (h : Meets step ok s as) (h0 : I s)
    (hstep : ∀ s a, I s → ok s a → I (step s a) ∧ rank (step s a) ≤ rank s ∧
      (p s a = true → rank (step s a) ≤ rank s - 1)) :
    rank (run step s as) ≤ rank s - times step p s as := by
  induction as generalizing s with
  | nil => exact Nat.le_refl _
  | cons a as ih =>
    obtain ⟨hI, hle, hlt⟩ := hstep s a h0 h.1
    have hrest := ih h.2 hI
    rw [run_cons, times]
    split
    · rename_i hp
      have hdown := hlt hp
      omega
    · omega

end Runs
