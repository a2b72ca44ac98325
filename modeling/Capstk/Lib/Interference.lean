import Capstk.Lib.Prog
import Capstk.Lib.Run

/-!
# Programs among others

`Amid σ` is a state that others change as well: before each call of a program the next of their
`moves` happens, and what the call itself does is recorded. A program is argued for by rely and
guarantee: an invariant that every move keeps holds at the beginning of each call, so that each call
can be shown to stay within what it may do, whatever happened in between.

`Obeys` is what a call may do that consists of actions, each of which has to be allowed in the state
it is taken from.
-/

/-- A state `σ` in which others move between the calls of a program. -/
structure Amid (σ : Type) where
  state : σ
  /-- What the others do before each of the coming calls. -/
  moves : List (σ → σ) := []
  /-- The states before and after each call. -/
  calls : List (σ × σ) := []

namespace Amid
variable {σ : Type} {R G : σ → σ → Prop} {I : σ → Prop} {s : Amid σ}

/-- The state in which the next call starts. -/
def next (s : Amid σ) : σ := s.moves.headD id s.state

/-- The others keep to `R`, and every call so far has kept to `G`. -/
structure Ok (R G : σ → σ → Prop) (s : Amid σ) : Prop where
  moves : ∀ f ∈ s.moves, ∀ t, R t (f t)
  calls : ∀ c ∈ s.calls, G c.1 c.2

/-- What the others keep still holds when the next call starts. -/
theorem Ok.next (h : s.Ok R G) (hstable : ∀ t u, R t u → I t → I u) (hs : I s.state) :
    I s.next := by
  unfold Amid.next
  cases hmoves : s.moves with
  | nil => exact hs
  | cons f fs => exact hstable _ _ (h.moves f (by rw [hmoves]; exact List.mem_cons_self) s.state) hs

end Amid

namespace Prog
variable {σ ε α : Type} {R G : σ → σ → Prop} {I : σ → Prop} {s : Amid σ}

/-- A call among others. -/
def amid (x : Prog σ ε α) : Prog (Amid σ) ε α := fun s =>
  ((x s.next).1, ⟨(x s.next).2, s.moves.tail, s.calls ++ [(s.next, (x s.next).2)]⟩)

theorem wp_amid {x : Prog σ ε α} {Q : Except ε α → Amid σ → Prop} :
    wp (amid x) Q s ↔ wp x (fun r t => Q r ⟨t, s.moves.tail, s.calls ++ [(s.next, t)]⟩) s.next :=
  Iff.rfl

/-- The rule for a call: from any state with the invariant it keeps to the guarantee. -/
theorem wp_amid_of {x : Prog σ ε α} {Q : Except ε α → σ → Prop} (h : s.Ok R G)
    (hstable : ∀ t u, R t u → I t → I u) (hs : I s.state)
    (hx : ∀ t, I t → wp x (fun r u => G t u ∧ Q r u) t) :
    wp (amid x) (fun r t => t.Ok R G ∧ Q r t.state) s := by
  rw [wp_amid]
  refine (hx s.next (h.next hstable hs)).imp fun r t ⟨hcall, hr⟩ =>
    ⟨⟨fun f hf => ?_, fun c hc => ?_⟩, hr⟩
  · exact h.moves f (List.mem_of_mem_tail hf)
  · rcases List.mem_append.1 hc with hc | hc
    · exact h.calls c hc
    · rw [List.mem_singleton.1 hc]
      exact hcall

end Prog

namespace Runs
variable {S A : Type} {step : S → A → S} {ok ok' : S → A → Prop} {s t u : S}

/-- Actions, each of them allowed in the state it is taken from, lead from `s` to `t`. -/
def Obeys (step : S → A → S) (ok : S → A → Prop) (s t : S) : Prop :=
  ∃ as, Meets step ok s as ∧ run step s as = t

namespace Obeys

theorem refl (s : S) : Obeys step ok s s := ⟨[], trivial, rfl⟩

theorem trans (h : Obeys step ok s t) (h' : Obeys step ok t u) : Obeys step ok s u := by
  obtain ⟨as, has, rfl⟩ := h
  obtain ⟨bs, hbs, rfl⟩ := h'
  exact ⟨as ++ bs, (meets_append bs).2 ⟨has, hbs⟩, run_append bs⟩

theorem single {a : A} (h : ok s a) : Obeys step ok s (step s a) := ⟨[a], ⟨h, trivial⟩, rfl⟩

/-- What every allowed action does to the state, allowed actions do together. -/
theorem rel {R : S → S → Prop} (h : Obeys step ok s t) (hrefl : ∀ s, R s s)
    (htrans : ∀ {s t u}, R s t → R t u → R s u) (hstep : ∀ s a, ok s a → R s (step s a)) :
    R s t := by
  obtain ⟨as, has, rfl⟩ := h
  exact has.inv (I := R s) (hrefl s) fun t a ht ha => htrans ht (hstep t a ha)

end Obeys

end Runs
