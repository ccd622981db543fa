import Outbox.Act

/-! Two things are asked of an action: what is true where it ends, and whether it ends. They are
    asked together, since both follow the same steps; the second is left open where nothing is known
    of what the action waits for. Main statement: a loop whose rounds keep an invariant meets what
    follows from it, and it ends if each round lowers a measure that is below the number of
    rounds. -/

namespace Outbox

namespace Act

variable {σ ρ α β : Type} {sure : Prop}

/-- Wherever the action ends that is begun in `s`, `Q` is true; and if it is `sure` to end, it
    does. -/
structure Meets (sure : Prop) (x : Act σ α) (s : σ) (Q : α → σ → Prop) : Prop where
  post : ∀ a t, x s = some (a, t) → Q a t
  ends : sure → ∃ a t, x s = some (a, t)

namespace Meets

variable {x : Act σ α} {f : α → Act σ β} {s : σ} {P Q : α → σ → Prop} {R : β → σ → Prop}

/-- Two actions that come to the same meet the same. -/
theorem of_eq {y : Act σ α} {u : σ} (h : x s = y u) (hy : y.Meets sure u Q) : x.Meets sure s Q := by
  obtain ⟨hpost, hends⟩ := hy
  refine ⟨fun a t hx => hpost a t (h ▸ hx), fun hs => ?_⟩
  rw [h]
  exact hends hs

theorem pure {a : α} (h : Q a s) : Meets sure (pure a) s Q := by
  refine ⟨fun b t hx => ?_, fun _ => ⟨a, s, rfl⟩⟩
  obtain ⟨rfl, rfl⟩ := pure_eq_some.mp hx
  exact h

theorem mono (hx : x.Meets sure s P) (h : ∀ a t, P a t → Q a t) : x.Meets sure s Q :=
  ⟨fun a t hat => h a t (hx.post a t hat), hx.ends⟩

theorem bind (hx : x.Meets sure s P) (hf : ∀ a t, P a t → (f a).Meets sure t R) :
    (x >>= f).Meets sure s R := by
  refine ⟨fun b u h => ?_, fun hs => ?_⟩
  · obtain ⟨a, t, hat, h⟩ := bind_eq_some.mp h
    exact (hf a t (hx.post a t hat)).post b u h
  · obtain ⟨a, t, hat⟩ := hx.ends hs
    obtain ⟨b, u, h⟩ := (hf a t (hx.post a t hat)).ends hs
    exact ⟨b, u, bind_eq_some.mpr ⟨a, t, hat, h⟩⟩

/-- The result is only passed on. -/
theorem map {g : α → β} (hx : x.Meets sure s P) (h : ∀ a t, P a t → R (g a) t) :
    (do return g (← x) : Act σ β).Meets sure s R :=
  hx.bind fun a t ht => pure (h a t ht)

/-- What is done first is known to end. -/
theorem step {a : α} {t : σ} (hx : x s = some (a, t)) (hf : (f a).Meets sure t R) :
    (x >>= f).Meets sure s R := by
  refine of_eq ?_ hf
  simp [Bind.bind, StateT.bind, hx]

/-- A loop keeps what each of its rounds keeps. If each round lowers `μ`, it ends in time. -/
theorem loop {body : ρ → Act σ (ρ ⊕ α)} {P : ρ → σ → Prop} (μ : ρ → σ → Nat)
    (h : ∀ r s, P r s → (body r).Meets sure s fun o t =>
      o.elim (fun r' => P r' t ∧ (sure → μ r' t < μ r s)) (Q · t)) :
    ∀ (n : Nat) (r : ρ) (s : σ), P r s → (sure → μ r s < n) → (loop body n r).Meets sure s Q := by
  intro n
  induction n with
  | zero =>
    intro r s _ hn
    refine ⟨fun a t he => ?_, fun hs => absurd (hn hs) (Nat.not_lt_zero _)⟩
    simp [Act.loop, stuck] at he
  | succ n ih =>
    intro r s hP hn
    rw [Act.loop]
    refine (h r s hP).bind fun o t ho => ?_
    cases o with
    | inl r' =>
      obtain ⟨hP', hlt⟩ := ho
      refine ih r' t hP' fun hs => ?_
      have hμ := hlt hs
      have hle := hn hs
      omega
    | inr a => exact .pure ho

end Meets

end Act

end Outbox
