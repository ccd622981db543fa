import Outbox.Proofs.Ends
import Outbox.Proofs.Meets

/-! What is true where an action ends, whatever its bounds are, and that it ends once they are large
    enough. As long as nothing is known of what the action waits for, only the first is asked; then
    it is said of every run of the action that there is. Main statement: a loop whose rounds keep an
    invariant reaches what follows from it, and it ends if something goes down from round to round
    that cannot go down for ever. What goes down need not be seen in the state. -/

namespace Outbox

namespace Act

variable {σ ρ α β γ : Type} {sure : Prop}

/-- Wherever the action ends that is begun in `s`, with however many rounds and however much depth,
    `Q` is true; and if it is `sure` to end, it ends. -/
structure Reaches (sure : Prop) (x : Nat → Nat → Act σ α) (s : σ) (Q : α → σ → Prop) : Prop where
  post : ∀ limit depth a t, x limit depth s = some (a, t) → Q a t
  ends : sure → Ends x s Q

namespace Reaches

variable {x : Nat → Nat → Act σ α} {f : Nat → Nat → α → Act σ β} {s : σ} {P Q : α → σ → Prop}
  {R : β → σ → Prop}

/-- Two actions that come to the same reach the same. -/
theorem of_eq {y : Nat → Nat → Act σ α} {u : σ}
    (h : ∀ limit depth, x limit depth s = y limit depth u) (hy : Reaches sure y u Q) :
    Reaches sure x s Q := by
  refine ⟨fun limit depth a t hx => ?_, fun hs => .of_eq h (hy.ends hs)⟩
  rw [h] at hx
  exact hy.post limit depth a t hx

theorem pure {a : α} (h : Q a s) : Reaches sure (fun _ _ => Pure.pure a) s Q := by
  refine ⟨fun _ _ b t hx => ?_, fun _ => .pure h⟩
  obtain ⟨rfl, rfl⟩ := pure_eq_some.mp hx
  exact h

theorem mono (hx : Reaches sure x s P) (h : ∀ a t, P a t → Q a t) : Reaches sure x s Q :=
  ⟨fun limit depth a t hat => h a t (hx.post limit depth a t hat), fun hs => (hx.ends hs).mono h⟩

theorem bind (hx : Reaches sure x s P) (hf : ∀ a t, P a t → Reaches sure (fun l d => f l d a) t R) :
    Reaches sure (fun l d => x l d >>= f l d) s R := by
  refine ⟨fun limit depth b u h => ?_, fun hs => ?_⟩
  · obtain ⟨a, t, hat, h⟩ := bind_eq_some.mp h
    exact (hf a t (hx.post limit depth a t hat)).post limit depth b u h
  · exact (hx.ends hs).bind fun a t ht => (hf a t ht).ends hs

/-- The result is only passed on. -/
theorem map {g : α → β} (hx : Reaches sure x s P) (h : ∀ a t, P a t → R (g a) t) :
    Reaches sure (fun l d => (do return g (← x l d) : Act σ β)) s R :=
  hx.bind fun a t ht => .pure (h a t ht)

/-- What is known of every end of the action is known of the one it reaches. -/
theorem with_post (hx : Reaches sure x s P)
    (h : ∀ limit depth a t, x limit depth s = some (a, t) → Q a t) :
    Reaches sure x s fun a t => P a t ∧ Q a t := by
  refine ⟨fun limit depth a t hat => ⟨hx.post limit depth a t hat, h limit depth a t hat⟩,
    fun hs => ?_⟩
  obtain ⟨a, t, hP, hone, N, hN⟩ := hx.ends hs
  exact ⟨a, t, ⟨hP, h N N a t (hN N N le_rfl le_rfl)⟩, hone, N, hN⟩

/-- Whatever the bounds are, what is true of every end is true of this one. -/
theorem meets (hx : Reaches sure x s Q) (limit depth : Nat) :
    (x limit depth).Meets False s Q :=
  ⟨hx.post limit depth, False.elim⟩

/-- Where an action may not be nested at all, it is nested one level deeper elsewhere. -/
theorem deeper {y : Nat → Nat → Act σ α} (hx : Reaches sure x s Q)
    (hzero : ∀ limit, y limit 0 s = none)
    (hsucc : ∀ limit depth, y limit (depth + 1) s = x limit depth s) : Reaches sure y s Q := by
  refine ⟨fun limit depth a t h => ?_, fun hs => (hx.ends hs).deeper hzero hsucc⟩
  cases depth with
  | zero => simp [hzero] at h
  | succ depth =>
    rw [hsucc] at h
    exact hx.post limit depth a t h

/-- A loop reaches what its rounds keep. If things are `sure`, each round but the last lowers what
    stands behind it, and that is well-founded, so it ends. -/
theorem loop (lower : γ → γ → Prop) {body : Nat → Nat → ρ → Act σ (ρ ⊕ α)}
    {P : γ → ρ → σ → Prop} (hwf : sure → ∀ g r s, P g r s → Acc lower g)
    (h : ∀ g r s, P g r s → Reaches sure (fun l d => body l d r) s fun o t =>
      o.elim (fun r' => ∃ g', P g' r' t ∧ (sure → lower g' g)) (Q · t))
    {g : γ} {r : ρ} (hP : P g r s) : Reaches sure (fun l d => Act.loop (body l d) l r) s Q := by
  refine ⟨fun limit depth a t hx => ?_, fun hs => ?_⟩
  · refine Act.loop_invariant (P := fun r s => ∃ g, P g r s) (fun r s hr o t ho => ?_) limit r s t a
      ⟨g, hP⟩ hx
    obtain ⟨g, hr⟩ := hr
    have ho := (h g r s hr).post limit depth o t ho
    cases o with
    | inl r' =>
      obtain ⟨g', hg', -⟩ := ho
      exact ⟨g', hg'⟩
    | inr a => exact ho
  · suffices hall : Ends.LoopEnds body r s Q by
      obtain ⟨a, t, hQ, hone, N, hN⟩ := hall
      exact ⟨a, t, hQ, fun limit depth => hone limit limit depth, N,
        fun limit depth hl hd => hN limit limit depth hl hl hd⟩
    induction hwf hs g r s hP generalizing r s with
    | intro g _ ih =>
      obtain ⟨o, t, ho, hrest⟩ := (h g r s hP).ends hs
      cases o with
      | inr a => exact Ends.loopEnds_last ho ⟨_, t, ⟨rfl, rfl⟩, hrest⟩
      | inl r' =>
        obtain ⟨g', hg', hlower⟩ := ho
        exact Ends.loopEnds_next (ih g' (hlower hs) hg') ⟨_, t, ⟨rfl, rfl⟩, hrest⟩

end Reaches

end Act

end Outbox
