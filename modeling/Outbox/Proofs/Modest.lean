import Outbox.Proofs.Balance
import Outbox.Proofs.Polling

/-! Applications at a broker in memory whose hooks turn neither to the producer nor to the broker's
    queue. Such a hook looks around, thinks and sleeps, and may tell the broker something. What it
    tells may change the broker's faults, as far as their drift allows. -/

namespace Outbox

variable {κ α : Type}

/-- The conduct does nothing but to look around, think, sleep and tell the broker certain words, and
    it gives certain answers only. -/
inductive Conduct.Modest (words : MemoryWord → Prop) (gives : Bool → Prop) :
    Conduct MemoryBroker κ α MemoryWord → Prop where
  | answer {v : Bool} (hv : gives v) : Modest words gives (.answer v)
  | see {next : World MemoryBroker κ α → Conduct MemoryBroker κ α MemoryWord}
      (h : ∀ s, Modest words gives (next s)) : Modest words gives (.see next)
  | instruct {w : MemoryWord} {next : Reply → Conduct MemoryBroker κ α MemoryWord} (hw : words w)
      (h : ∀ r, Modest words gives (next r)) : Modest words gives (.act (.instruct w) next)
  | sleep {d : Span} {next : Reply → Conduct MemoryBroker κ α MemoryWord}
      (h : ∀ r, Modest words gives (next r)) : Modest words gives (.act (.sleep d) next)
  | think {f : α → α} {next : Reply → Conduct MemoryBroker κ α MemoryWord}
      (h : ∀ r, Modest words gives (next r)) : Modest words gives (.act (.think f) next)

theorem Conduct.Modest.mono {words : MemoryWord → Prop} {gives gives' : Bool → Prop}
    {c : Conduct MemoryBroker κ α MemoryWord} (h : c.Modest words gives)
    (hv : ∀ v, gives v → gives' v) : c.Modest words gives' := by
  induction h with
  | answer h => exact .answer (hv _ h)
  | see _ ih => exact .see ih
  | instruct hw _ ih => exact .instruct hw ih
  | sleep _ ih => exact .sleep ih
  | think _ ih => exact .think ih

namespace MemoryBroker

variable {conduct : κ → HookKind → Message → Option BrokerError →
    Conduct MemoryBroker κ α MemoryWord} {words : MemoryWord → Prop} {sure : Prop} {G : Drift sure}
  {s : World MemoryBroker κ α}

/-- For the producer nothing has happened when a modest hook comes back. -/
theorem meets_seeThrough {env : Surroundings MemoryBroker κ α}
    (hwords : ∀ w, words w → ∀ b clock, Akin G.may b (b.heed clock w)) {gives : Bool → Prop}
    {c : Conduct MemoryBroker κ α MemoryWord} (hc : c.Modest words gives) :
    (c.seeThrough ((application conduct).perform env)).Meets sure s fun v t =>
      s.Unmoved (leeway G) t ∧ gives v := by
  induction hc generalizing s with
  | answer hv => exact .pure ⟨.refl s, hv⟩
  | see h ih => exact .of_eq (Site.get_bind ..) (ih s)
  | @instruct w next hw h ih =>
    have ht : s.Unmoved (leeway G) (s.brokered (s.broker.heed s.clock w)) :=
      .of_broker (hwords w hw s.broker s.clock)
    exact .of_eq (y := (next .done).seeThrough _) rfl
      ((ih .done).mono fun v u hu => ⟨ht.trans hu.1, hu.2⟩)
  | @sleep d next h ih =>
    have ht : s.Unmoved (leeway G) (s.turned s.broker (s.clock.sleep d)) :=
      .turn ((leeway G).refl _) _
    exact .of_eq (y := (next .done).seeThrough _) rfl
      ((ih .done).mono fun v u hu => ⟨ht.trans hu.1, hu.2⟩)
  | @think f next h ih =>
    have ht : s.Unmoved (leeway G) { s with owner := { s.owner with app := f s.owner.app } } :=
      ⟨.refl _, (leeway G).refl _, fun _ => rfl⟩
    exact .of_eq (y := (next .done).seeThrough _) rfl
      ((ih .done).mono fun v u hu => ⟨ht.trans hu.1, hu.2⟩)

/-- Modest hooks are polite. -/
theorem polite_application {hooks : Hooks κ} {V : Verdicts}
    (hwords : ∀ w, words w → ∀ b clock, Akin G.may b (b.heed clock w))
    (hmodest : ∀ {kind hook}, hooks.find? kind = some hook → ∀ m e,
      (conduct hook kind m e).Modest words fun v => ∀ cause, e = some cause → V kind m cause v)
    (habsent : ∀ {kind}, hooks.find? kind = none → ∀ m cause, V kind m cause true)
    (limit : Nat) {depth : Nat} (hdepth : sure → 0 < depth) :
    (surroundings ((application conduct).called limit depth) limit).Polite sure (leeway G) V
      hooks where
  called {kind hook} hk m e s := by
    cases depth with
    | zero =>
      refine ⟨fun v t h => ?_, fun hs => absurd (hdepth hs) (Nat.lt_irrefl 0)⟩
      simp [surroundings, Application.called, Act.stuck] at h
    | succ depth => exact meets_seeThrough hwords (hmodest hk m e)
  absent := habsent

end MemoryBroker

end Outbox
