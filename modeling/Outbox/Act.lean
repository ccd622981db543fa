/-! Actions change a state and have a result. An action may loop for as long as something keeps it
    waiting, perhaps for ever, so each loop is given a number of rounds; an action that runs out of
    them has no result at all, which no answer can be taken for. Main statement: what each round of
    a loop keeps holds at its end. -/

namespace Outbox

/-- An action on a state `σ`: it ends with a result, or it never ends. -/
abbrev Act (σ : Type) := StateT σ Option

namespace Act

variable {σ ρ α : Type}

/-- An action that does not end. -/
def stuck : Act σ α := fun _ => none

/-- Repeat `body` for at most `n` rounds, until it answers with a result. -/
def loop (body : ρ → Act σ (ρ ⊕ α)) : Nat → ρ → Act σ α
  | 0, _ => stuck
  | n + 1, r => do
    match ← body r with
    | .inl r => loop body n r
    | .inr a => return a

theorem bind_eq_none {x : Act σ ρ} {f : ρ → Act σ α} {s : σ} (h : x s = none) :
    (x >>= f) s = none := by
  simp [bind, StateT.bind, h]

theorem bind_eq {x : Act σ ρ} {f : ρ → Act σ α} {s t : σ} {r : ρ} (h : x s = some (r, t)) :
    (x >>= f) s = f r t := by
  simp [bind, StateT.bind, h]

theorem bind_eq_some {x : Act σ ρ} {f : ρ → Act σ α} {s t : σ} {a : α} :
    (x >>= f) s = some (a, t) ↔ ∃ r u, x s = some (r, u) ∧ f r u = some (a, t) := by
  cases h : x s with
  | none => simp [bind_eq_none h]
  | some p =>
    obtain ⟨r, u⟩ := p
    simp [bind_eq h, and_assoc]

theorem pure_eq_some {s t : σ} {a b : α} :
    (pure a : Act σ α) s = some (b, t) ↔ a = b ∧ s = t := by
  rw [show (pure a : Act σ α) s = some (a, s) from rfl, Option.some.injEq, Prod.mk.injEq]

/-- What holds before each round, and whatever round there is, holds at the end. -/
theorem loop_invariant {body : ρ → Act σ (ρ ⊕ α)} {P : ρ → σ → Prop} {Q : α → σ → Prop}
    (h : ∀ r s, P r s → ∀ o t, body r s = some (o, t) → o.elim (P · t) (Q · t)) :
    ∀ (n : Nat) (r : ρ) (s t : σ) (a : α), P r s → loop body n r s = some (a, t) → Q a t
  | 0, _, _, _, _, _, he => by simp [loop, stuck] at he
  | n + 1, r, s, t, a, hP, he => by
    rw [loop, bind_eq_some] at he
    obtain ⟨o, u, ho, he⟩ := he
    cases o with
    | inl r' => exact loop_invariant h n r' u t a (h r s hP _ u ho) he
    | inr b =>
      obtain ⟨rfl, rfl⟩ := pure_eq_some.mp he
      exact h r s hP _ u ho

end Act

end Outbox
