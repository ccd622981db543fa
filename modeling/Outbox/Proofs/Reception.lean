import Outbox.Proofs.Along

/-! The reports that are dealt with in the course of an action. Whoever turns to the broker has to
    reckon with reports of any messages, and what comes of a report is not the business of whoever
    did. So what an action does is said up to them: between two worlds there is a list of
    receptions, and before, between and after these there is only what a relation allows for. Main
    statement: what each reception and the relation keep is true whenever a report comes in. -/

namespace Outbox

/-- A report, with the worlds before and after it was dealt with. -/
structure Reception (β κ α : Type) where
  before : World β κ α
  report : DeliveryReport
  after : World β κ α

variable {β κ α : Type}

namespace Surroundings

/-- From `s` to `t` the reports in the list were dealt with, one after the other, and otherwise
    there was only what `still` allows for. -/
inductive Receives (env : Surroundings β κ α) (still : World β κ α → World β κ α → Prop)
    (s : World β κ α) : List (Reception β κ α) → World β κ α → Prop where
  | rest {t} (h : still s t) : Receives env still s [] t
  | report {L u r v t} (h : Receives env still s L u) (hr : env.receive r u = some ((), v))
      (hs : still v t) : Receives env still s (L ++ [⟨u, r, v⟩]) t

variable {env : Surroundings β κ α} {still : World β κ α → World β κ α → Prop}
  {L K : List (Reception β κ α)} {s t u : World β κ α}

theorem Receives.after (hstill : Act.IsRoad still) (h : env.Receives still s L t)
    (ht : still t u) : env.Receives still s L u := by
  cases h with
  | rest hs => exact .rest (hstill.trans hs ht)
  | report h hr hs => exact .report h hr (hstill.trans hs ht)

theorem Receives.trans (hstill : Act.IsRoad still) (h : env.Receives still s L t)
    (h' : env.Receives still t K u) : env.Receives still s (L ++ K) u := by
  induction h' with
  | rest hs =>
    rw [List.append_nil]
    exact h.after hstill hs
  | report _ hr hs ih =>
    rw [← List.append_assoc]
    exact .report ih hr hs

/-- From `s` to `t` there were receptions, any number of them, and otherwise there was only what
    `still` allows for. -/
def Admits (env : Surroundings β κ α) (still : World β κ α → World β κ α → Prop)
    (s t : World β κ α) : Prop :=
  ∃ L, env.Receives still s L t

theorem Admits.of_still (h : still s t) : env.Admits still s t := ⟨[], .rest h⟩

theorem isRoad_admits (hstill : Act.IsRoad still) : Act.IsRoad (env.Admits still) where
  refl s := .of_still (hstill.refl s)
  trans := by
    rintro s t u ⟨L, h⟩ ⟨K, h'⟩
    exact ⟨L ++ K, h.trans hstill h'⟩

/-- The action is one step, and nothing comes in with it. -/
theorem admits_step {ρ : Type} {x : Work β κ α ρ} {f : World β κ α → World β κ α}
    (hf : ∀ s, still s (f s)) (hx : ∀ s, ∃ a, x s = some (a, f s)) : x.Along (env.Admits still) :=
  (Act.Along.of_step hf hx).mono .of_still

/-- To deal with a report is a reception. -/
theorem admits_receive (hstill : Act.IsRoad still) (r : DeliveryReport) :
    (env.receive r).Along (env.Admits still) :=
  ⟨fun {s _ t} h => ⟨_, .report (.rest (hstill.refl s)) h (hstill.refl t)⟩⟩

/-- What is kept all along is true before and after each reception. -/
theorem Receives.keeps {P : World β κ α → Prop} (hstill : ∀ {s t}, still s t → P s → P t)
    (hreceive : ∀ {r s t}, env.receive r s = some ((), t) → P s → P t)
    (h : env.Receives still s L t) (hs : P s) :
    P t ∧ ∀ p ∈ L, P p.before ∧ P p.after := by
  induction h with
  | rest h => exact ⟨hstill h hs, by simp⟩
  | report _ hr ht ih =>
    obtain ⟨hu, hL⟩ := ih
    have hv := hreceive hr hu
    refine ⟨hstill ht hv, fun p hp => ?_⟩
    rcases List.mem_append.mp hp with hp | hp
    · exact hL p hp
    · obtain rfl := List.mem_singleton.mp hp
      exact ⟨hu, hv⟩

/-- Each reception in the list took place. -/
theorem Receives.received (h : env.Receives still s L t) :
    ∀ p ∈ L, env.receive p.report p.before = some ((), p.after) := by
  induction h with
  | rest _ => simp
  | report _ hr _ ih =>
    intro p hp
    rcases List.mem_append.mp hp with hp | hp
    · exact ih p hp
    · obtain rfl := List.mem_singleton.mp hp
      exact hr

end Surroundings

end Outbox
