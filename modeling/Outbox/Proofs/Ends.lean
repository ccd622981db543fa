import Mathlib.Algebra.BigOperators.Intervals
import Mathlib.Algebra.Order.BigOperators.Group.Finset
import Outbox.Act
import Outbox.Time

/-! That an action ends. An action may loop and call hooks that act in turn, and in a definition
    each of these is given a bound: so many rounds for a loop, so many hooks within each other. An
    action ends if its bounds make no difference once they are large enough. Main statement: a loop
    ends if what is counted first never goes up from round to round, and what is counted second goes
    down whenever the first stays the same.

    Waiting for a time ends if the clock gets there, so clocks are here too: one clock leads to
    another if it was read and time has passed. -/

namespace Outbox

namespace Act

variable {σ ρ α β : Type}

/-- With enough rounds and enough depth the action, begun in `s`, ends with a result of which `Q` is
    true; and with fewer it ends in the same way or not at all. -/
def Ends (x : Nat → Nat → Act σ α) (s : σ) (Q : α → σ → Prop) : Prop :=
  ∃ a t, Q a t ∧ (∀ limit depth, x limit depth s = none ∨ x limit depth s = some (a, t)) ∧
    ∃ N, ∀ limit depth, N ≤ limit → N ≤ depth → x limit depth s = some (a, t)

namespace Ends

variable {x : Nat → Nat → Act σ α} {f : Nat → Nat → α → Act σ β} {s : σ} {P Q : α → σ → Prop}
  {R : β → σ → Prop}

theorem of_eq {y : Nat → Nat → Act σ α} {u : σ}
    (h : ∀ limit depth, x limit depth s = y limit depth u) (hy : Ends y u Q) : Ends x s Q := by
  obtain ⟨a, t, hQ, hone, N, hN⟩ := hy
  refine ⟨a, t, hQ, fun limit depth => ?_, N, fun limit depth hl hd => ?_⟩
  · rw [h]
    exact hone limit depth
  · rw [h]
    exact hN limit depth hl hd

theorem pure {a : α} (h : Q a s) : Ends (fun _ _ => Pure.pure a) s Q :=
  ⟨a, s, h, fun _ _ => .inr rfl, 0, fun _ _ _ _ => rfl⟩

theorem mono (hx : Ends x s P) (h : ∀ a t, P a t → Q a t) : Ends x s Q := by
  obtain ⟨a, t, hP, hrest⟩ := hx
  exact ⟨a, t, h a t hP, hrest⟩

theorem bind (hx : Ends x s P) (hf : ∀ a t, P a t → Ends (fun l d => f l d a) t R) :
    Ends (fun l d => x l d >>= f l d) s R := by
  obtain ⟨a, t, hP, hone, N, hN⟩ := hx
  obtain ⟨b, u, hR, hone', N', hN'⟩ := hf a t hP
  refine ⟨b, u, hR, fun limit depth => ?_, max N N', fun limit depth hl hd => ?_⟩
  · rcases hone limit depth with h | h
    · exact .inl (bind_eq_none h)
    · exact (hone' limit depth).imp (bind_eq h).trans (bind_eq h).trans
  · have hx := hN limit depth ((le_max_left ..).trans hl) ((le_max_left ..).trans hd)
    exact (bind_eq hx).trans
      (hN' limit depth ((le_max_right ..).trans hl) ((le_max_right ..).trans hd))

/-- The result is only passed on. -/
theorem map {g : α → β} (hx : Ends x s P) (h : ∀ a t, P a t → R (g a) t) :
    Ends (fun l d => (do return g (← x l d) : Act σ β)) s R :=
  hx.bind fun a t ht => .pure (h a t ht)

/-- Where an action may not be nested at all, it is nested one level deeper elsewhere. -/
theorem deeper {y : Nat → Nat → Act σ α} (hx : Ends x s Q) (hzero : ∀ limit, y limit 0 s = none)
    (hsucc : ∀ limit depth, y limit (depth + 1) s = x limit depth s) : Ends y s Q := by
  obtain ⟨a, t, hQ, hone, N, hN⟩ := hx
  refine ⟨a, t, hQ, fun limit depth => ?_, N + 1, fun limit depth hl hd => ?_⟩
  · cases depth with
    | zero => exact .inl (hzero limit)
    | succ depth =>
      rw [hsucc]
      exact hone limit depth
  · obtain ⟨depth, rfl⟩ : ∃ k, depth = k + 1 := ⟨depth - 1, by omega⟩
    rw [hsucc]
    exact hN limit depth (by omega) (by omega)

/-- The rounds of a loop that are left are counted apart from those that are given to the loops in
    its body. -/
def LoopEnds (body : Nat → Nat → ρ → Act σ (ρ ⊕ α)) (r : ρ) (s : σ) (Q : α → σ → Prop) : Prop :=
  ∃ a t, Q a t ∧ (∀ count limit depth, Act.loop (body limit depth) count r s = none ∨
      Act.loop (body limit depth) count r s = some (a, t)) ∧
    ∃ N, ∀ count limit depth, N ≤ count → N ≤ limit → N ≤ depth →
      Act.loop (body limit depth) count r s = some (a, t)

section

variable {body : Nat → Nat → ρ → Act σ (ρ ⊕ α)} {r : ρ}

/-- A loop whose next round is the last ends. -/
theorem loopEnds_last {a : α} {t : σ} (hQ : Q a t)
    (h : Ends (fun l d => body l d r) s fun o u => o = .inr a ∧ u = t) : LoopEnds body r s Q := by
  obtain ⟨_, _, ⟨rfl, rfl⟩, hone, N, hN⟩ := h
  refine ⟨a, _, hQ, fun count limit depth => ?_, N + 1, fun count limit depth hc hl hd => ?_⟩
  · cases count with
    | zero => exact .inl rfl
    | succ count =>
      rw [Act.loop]
      rcases hone limit depth with h | h
      · exact .inl (bind_eq_none h)
      · rw [bind_eq h]
        exact .inr rfl
  · obtain ⟨count, rfl⟩ : ∃ k, count = k + 1 := ⟨count - 1, by omega⟩
    rw [Act.loop, bind_eq (hN limit depth (by omega) (by omega))]
    rfl

/-- A loop that ends from its second round on ends. -/
theorem loopEnds_next {r' : ρ} {t : σ} (ht : LoopEnds body r' t Q)
    (h : Ends (fun l d => body l d r) s fun o u => o = .inl r' ∧ u = t) : LoopEnds body r s Q := by
  obtain ⟨_, _, ⟨rfl, rfl⟩, hone, N, hN⟩ := h
  obtain ⟨a, u, hQ, hone', N', hN'⟩ := ht
  refine ⟨a, u, hQ, fun count limit depth => ?_, max N N' + 1,
    fun count limit depth hc hl hd => ?_⟩
  · cases count with
    | zero => exact .inl rfl
    | succ count =>
      rw [Act.loop]
      rcases hone limit depth with h | h
      · exact .inl (bind_eq_none h)
      · rw [bind_eq h]
        exact hone' count limit depth
  · obtain ⟨count, rfl⟩ : ∃ k, count = k + 1 := ⟨count - 1, by omega⟩
    rw [Act.loop, bind_eq (hN limit depth (by omega) (by omega))]
    exact hN' count limit depth (by omega) (by omega) (by omega)

end

/-- A loop ends if `μ` never goes up and `ν` goes down whenever `μ` stays the same. -/
theorem loop {body : Nat → Nat → ρ → Act σ (ρ ⊕ α)} {P : ρ → σ → Prop} (μ ν : ρ → σ → Nat)
    (h : ∀ r s, P r s → Ends (fun l d => body l d r) s fun o t =>
      o.elim (fun r' => P r' t ∧ μ r' t ≤ μ r s ∧ (μ r' t = μ r s → ν r' t < ν r s)) (Q · t))
    (r : ρ) (s : σ) (hP : P r s) : Ends (fun l d => Act.loop (body l d) l r) s Q := by
  suffices hall : ∀ m n r s, P r s → μ r s = m → ν r s = n → LoopEnds body r s Q by
    obtain ⟨a, t, hQ, hone, N, hN⟩ := hall _ _ r s hP rfl rfl
    exact ⟨a, t, hQ, fun limit depth => hone limit limit depth, N,
      fun limit depth hl hd => hN limit limit depth hl hl hd⟩
  intro m
  induction m using Nat.strong_induction_on with
  | _ m ihm =>
    intro n
    induction n using Nat.strong_induction_on with
    | _ n ihn =>
      rintro r s hP rfl rfl
      obtain ⟨o, t, ho, hrest⟩ := h r s hP
      cases o with
      | inr a => exact loopEnds_last ho ⟨_, t, ⟨rfl, rfl⟩, hrest⟩
      | inl r' =>
        obtain ⟨hP', hle, hlt⟩ := ho
        refine loopEnds_next (t := t) ?_ ⟨_, t, ⟨rfl, rfl⟩, hrest⟩
        rcases Nat.lt_or_eq_of_le hle with hμ | hμ
        · exact ihm _ hμ _ r' t hP' rfl rfl
        · exact ihn _ (hlt hμ) r' t hP' hμ rfl

/-- A loop whose rounds always ask for another never ends. -/
theorem loop_eq_none (body : Nat → Nat → ρ → Act σ (ρ ⊕ α)) {P : ρ → σ → Prop}
    (h : ∀ r s, P r s → Ends (fun l d => body l d r) s fun o t => o.elim (P · t) fun _ => False)
    (limit depth : Nat) : ∀ (count : Nat) (r : ρ) (s : σ), P r s →
      Act.loop (body limit depth) count r s = none
  | 0, _, _, _ => rfl
  | count + 1, r, s, hP => by
    obtain ⟨o, t, ho, hone, -⟩ := h r s hP
    rw [Act.loop]
    rcases hone limit depth with hs | hs
    · exact bind_eq_none hs
    · rw [bind_eq hs]
      cases o with
      | inr a => exact ho.elim
      | inl r' => exact loop_eq_none body h limit depth count r' t ho

end Ends

end Act

/-! ### Clocks -/

namespace Clock

/-- The first clock comes to show what the second does: it was read some times, and time has passed,
    at least as much as goes by at these readings. -/
structure Leads (c c' : Clock) : Prop where
  drift : c'.drift = c.drift
  readings : c.readings ≤ c'.readings
  now : c.now + ∑ k ∈ Finset.Ico c.readings c'.readings, c.drift k ≤ c'.now

namespace Leads

variable {c c' c'' : Clock}

theorem refl (c : Clock) : c.Leads c := ⟨rfl, Nat.le_refl _, by simp⟩

theorem trans (h : c.Leads c') (h' : c'.Leads c'') : c.Leads c'' := by
  obtain ⟨hdrift, hreadings, hnow⟩ := h
  obtain ⟨hdrift', hreadings', hnow'⟩ := h'
  refine ⟨hdrift'.trans hdrift, hreadings.trans hreadings', ?_⟩
  rw [hdrift] at hnow'
  rw [← Finset.sum_Ico_consecutive _ hreadings hreadings']
  omega

theorem read (c : Clock) : c.Leads c.read.2 := by
  refine ⟨rfl, Nat.le_succ _, ?_⟩
  simp [Clock.read]

theorem sleep (c : Clock) (d : Span) : c.Leads (c.sleep d) := by
  refine ⟨rfl, Nat.le_refl _, ?_⟩
  simp [Clock.sleep]

end Leads

end Clock

/-- However much time there is to pass, it passes if a clock is read often enough that goes on like
    this. -/
def Unbounded (drift : Nat → Nat) : Prop := ∀ B, ∃ K, B ≤ ∑ k ∈ Finset.range K, drift k

/-- A clock that goes on for ever passes every moment once it was read often enough. -/
theorem Clock.exists_readings {c : Clock} (h : Unbounded c.drift) (B : Nat) :
    ∃ K, ∀ c', c.Leads c' → K ≤ c'.readings → c.now + B ≤ c'.now := by
  obtain ⟨K, hK⟩ := h (B + ∑ k ∈ Finset.range c.readings, c.drift k)
  refine ⟨K, fun c' hc hreadings => ?_⟩
  obtain ⟨-, hle, hnow⟩ := hc
  have hsum := Finset.sum_range_add_sum_Ico c.drift hle
  have hmono : ∑ k ∈ Finset.range K, c.drift k ≤ ∑ k ∈ Finset.range c'.readings, c.drift k :=
    Finset.sum_le_sum_of_subset (Finset.range_mono hreadings)
  omega

end Outbox
