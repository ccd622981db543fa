import Outbox.Counters

/-! A session with counters, in which flushes begin and end. A flush that never began cannot end, so
    the end of one is left out when none is in progress; counting stops at zero anyway, so that a
    session counts whatever it observes. Main statement: from one observation to any later one only
    what is pending and the flushes in progress are counted down, every other counter grows. -/

namespace Outbox

namespace Counters

/-- Take note of `k`, unless it ends a flush that is not there. -/
def observe (c : Counters) (k : Option Mark) : Counters :=
  match k with
  | none => c
  | some .flushEnded => if c.flushing = 0 then c else c.mark .flushEnded
  | some k => c.mark k

/-- The counters after each observation. -/
def history : Counters → List (Option Mark) → List Counters
  | _, [] => []
  | c, k :: rest => c.observe k :: history (c.observe k) rest

/-- What is left out would not have been counted. -/
theorem observe_some (c : Counters) (k : Mark) : c.observe (some k) = c.mark k := by
  cases k with
  | flushEnded =>
    by_cases h : c.flushing = 0
    · rw [observe, if_pos h, mark, h]
      exact congrArg (fun n => { c with flushing := n }) h
    · rw [observe, if_neg h]
  | _ => rfl

/-- Nothing that is never counted down is lower in `d` than in `c`. -/
structure Precedes (c d : Counters) : Prop where
  produced : c.produced ≤ d.produced
  dropped : c.dropped ≤ d.dropped
  attempts : c.attempts ≤ d.attempts
  retries : c.retries ≤ d.retries
  queueFull : c.queueFull ≤ d.queueFull

namespace Precedes

variable {c d e : Counters}

theorem refl (c : Counters) : c.Precedes c :=
  ⟨Nat.le_refl _, Nat.le_refl _, Nat.le_refl _, Nat.le_refl _, Nat.le_refl _⟩

theorem trans (h₁ : c.Precedes d) (h₂ : d.Precedes e) : c.Precedes e :=
  ⟨Nat.le_trans h₁.produced h₂.produced, Nat.le_trans h₁.dropped h₂.dropped,
    Nat.le_trans h₁.attempts h₂.attempts, Nat.le_trans h₁.retries h₂.retries,
    Nat.le_trans h₁.queueFull h₂.queueFull⟩

end Precedes

theorem precedes_mark (c : Counters) (k : Mark) : c.Precedes (c.mark k) := by
  cases k <;> constructor <;> simp [mark]

theorem precedes_observe (c : Counters) (k : Option Mark) : c.Precedes (c.observe k) := by
  cases k with
  | none => exact .refl c
  | some k =>
    rw [observe_some]
    exact precedes_mark c k

theorem precedes_of_mem_history {c d : Counters} {ks : List (Option Mark)}
    (h : d ∈ c.history ks) : c.Precedes d := by
  induction ks generalizing c with
  | nil => simp [history] at h
  | cons k ks ih =>
    rcases List.mem_cons.mp h with rfl | h
    · exact precedes_observe c k
    · exact (precedes_observe c k).trans (ih h)

/-- In a session everything but what is pending and the flushes in progress grows. -/
theorem pairwise_history (c : Counters) (ks : List (Option Mark)) :
    (c :: c.history ks).Pairwise Precedes := by
  induction ks generalizing c with
  | nil => exact List.pairwise_singleton Precedes c
  | cons k ks ih =>
    exact List.pairwise_cons.mpr ⟨fun _ h => precedes_of_mem_history h, ih (c.observe k)⟩

end Counters

end Outbox
