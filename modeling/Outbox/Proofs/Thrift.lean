import Outbox.Proofs.Modest
import Outbox.Proofs.Returns

/-! Hooks that come back. A hook may turn to the producer, whose hooks are called then, which may
    turn to the producer in turn; this comes to an end if they do so on credit. A thrifty hook
    lowers the credit before it turns to the producer, and it waits for nothing while a report is
    being dealt with. Main statement: thrifty hooks are heedful, by induction on the credit. A
    modest hook never turns to the producer, so it needs no credit. -/

namespace Outbox

variable {κ α : Type}

/-- The broker is not paused by what it is told, nor told to call its queue full more often. -/
def MemoryWord.Benign (w : MemoryWord) : Prop :=
  ∀ (b : MemoryBroker) (clock : Clock), (b.paused = false → (b.heed clock w).paused = false) ∧
    (b.heed clock w).faults.queueFullNext ≤ b.faults.queueFullNext

namespace Site

/-- How many reports are being dealt with. -/
def dealing (s : World MemoryBroker κ α) : Nat :=
  s.producer.counters.pending - s.broker.inFlight.size

theorem Ready.dealing {d : Nat} {s : World MemoryBroker κ α} (h : s.Ready d) : s.dealing = d := by
  obtain ⟨-, -, hpending⟩ := h
  rw [Site.dealing, hpending, Nat.add_sub_cancel_left]

/-- The world after the application thought about it. -/
def minded (s : World MemoryBroker κ α) (f : α → α) : World MemoryBroker κ α :=
  { s with owner := { s.owner with app := f s.owner.app } }

theorem Calm.minded {s t : World MemoryBroker κ α} (h : s.Calm t) (f : α → α) :
    s.Calm (t.minded f) := by
  obtain ⟨⟨hcountdown, hspends, hoffers, hattempts, hflushes⟩, hsize⟩ := h
  exact ⟨⟨hcountdown, hspends, hoffers, hattempts, hflushes⟩, hsize⟩

end Site

/-- What a hook does from `s` on costs credit. It keeps the broker awake. It turns to the producer,
    and has the broker call its queue full more often, only after it has paid: less than the `n`
    credit is left that it began with. And it waits only if no report is being dealt with. -/
inductive Conduct.Thrifty (credit : α → Nat) (n : Nat) :
    World MemoryBroker κ α → Conduct MemoryBroker κ α MemoryWord → Prop where
  | answer {s : World MemoryBroker κ α} (v : Bool) : Thrifty credit n s (.answer v)
  | see {s : World MemoryBroker κ α}
      {next : World MemoryBroker κ α → Conduct MemoryBroker κ α MemoryWord}
      (h : Thrifty credit n s (next s)) : Thrifty credit n s (.see next)
  | sleep {s : World MemoryBroker κ α} {d : Span}
      {next : Reply → Conduct MemoryBroker κ α MemoryWord}
      (h : Thrifty credit n (s.turned s.broker (s.clock.sleep d)) (next .done)) :
      Thrifty credit n s (.act (.sleep d) next)
  | think {s : World MemoryBroker κ α} {f : α → α}
      {next : Reply → Conduct MemoryBroker κ α MemoryWord}
      (hf : credit (f s.owner.app) ≤ credit s.owner.app)
      (h : Thrifty credit n (s.minded f) (next .done)) : Thrifty credit n s (.act (.think f) next)
  | instruct {s : World MemoryBroker κ α} {w : MemoryWord}
      {next : Reply → Conduct MemoryBroker κ α MemoryWord}
      (hawake : s.broker.paused = false → (s.broker.heed s.clock w).paused = false)
      (hcount : credit s.owner.app < n ∨
        (s.broker.heed s.clock w).faults.queueFullNext ≤ s.broker.faults.queueFullNext)
      (h : Thrifty credit n (s.brokered (s.broker.heed s.clock w)) (next .done)) :
      Thrifty credit n s (.act (.instruct w) next)
  | turn {s : World MemoryBroker κ α} {deed : Deed κ α MemoryWord}
      {next : Reply → Conduct MemoryBroker κ α MemoryWord} (hdeed : deed.isQuiet = false)
      (hpaid : credit s.owner.app < n) (hwaits : deed.waits s.producer = true → s.dealing = 0)
      (h : ∀ r t, credit t.owner.app ≤ credit s.owner.app → t.dealing = s.dealing →
        Thrifty credit n t (next r)) :
      Thrifty credit n s (.act deed next)

namespace MemoryBroker

/-- Every hook of the application is thrifty. -/
def Thrifty (credit : α → Nat) (conduct : κ → HookKind → Message → Option BrokerError →
    Conduct MemoryBroker κ α MemoryWord) : Prop :=
  ∀ hook kind m e s, (conduct hook kind m e).Thrifty credit (credit s.owner.app) s

section

variable {conduct : κ → HookKind → Message → Option BrokerError →
    Conduct MemoryBroker κ α MemoryWord} {K : Terms α} {n d : Nat} {call : HookCalls κ α}
  {s t : World MemoryBroker κ α}

variable (conduct call) in
/-- What a thrifty hook does ends, if that ends for which it turns to the producer. -/
theorem ends_seeThrough
    (hturn : ∀ {t deed}, t.Poised K (K.credit t.owner.app) d → K.credit t.owner.app < n →
      deed.isQuiet = false → (deed.waits t.producer = true → d = 0) →
      Act.Ends (fun l k => (application conduct).perform (within call l k) deed) t fun _ u =>
        t.Went K (K.credit t.owner.app) d u True)
    {c : Conduct MemoryBroker κ α MemoryWord} (hc : c.Thrifty K.credit n t)
    (hn : K.credit s.owner.app = n) (h : s.Went K n d t (s.Calm t)) :
    Act.Ends (fun l k => c.seeThrough ((application conduct).perform (within call l k))) t
      fun _ u => s.Went K n d u (s.Calm u) := by
  induction hc with
  | answer v => exact .pure h
  | see _ ih => exact .of_eq (fun l k => Site.get_bind ..) (ih h)
  | @sleep t D next _ ih =>
    have hslept := Clock.Leads.sleep t.clock D
    refine .of_eq (y := fun l k => (next .done).seeThrough _) (fun _ _ => rfl)
      (ih (h.onto (h.poised.later hslept) rfl hslept fun hcalm => ?_))
    exact ⟨hcalm.1.turned (Nat.le_refl _) _, hcalm.2⟩
  | @think t f next hf _ ih =>
    refine .of_eq (y := fun l k => (next .done).seeThrough _) (fun _ _ => rfl) (ih ?_)
    obtain ⟨⟨hcredit, hrest⟩, hpaid, hclock, hfree⟩ := h
    exact ⟨⟨hf.trans hcredit, hrest⟩, hf.trans hpaid, hclock, fun he =>
      (hfree (Nat.le_antisymm hpaid (he.symm.le.trans hf))).minded f⟩
  | @instruct t w next hawake hcount _ ih =>
    refine .of_eq (y := fun l k => (next .done).seeThrough _) (fun _ _ => rfl) (ih ?_)
    have hstill := still_heed t.broker t.clock w
    obtain ⟨⟨hcredit, hdrift, hb, hroom, hpending⟩, hpaid, hclock, hfree⟩ := h
    refine ⟨⟨hcredit, hdrift, hawake hb, ?_, ?_⟩, hpaid, hclock, fun he => ?_⟩
    · rw [Site.broker_brokered, hstill.limits]
      exact hroom
    · rw [Site.broker_brokered, hstill.inFlight]
      exact hpending
    · have hcalm := hfree he
      have hle : (t.broker.heed t.clock w).faults.queueFullNext ≤ t.broker.faults.queueFullNext :=
        hcount.resolve_left (by rw [← hn, ← he]; exact Nat.lt_irrefl _)
      refine ⟨hcalm.1.turned hle t.clock, ?_⟩
      rw [Site.broker_brokered, hstill.inFlight]
      exact hcalm.2
  | @turn t deed next hdeed hpaid hwaits _ ih =>
    have ht : t.Poised K (K.credit t.owner.app) d := ⟨Nat.le_refl _, h.poised.2⟩
    have hdealing := ht.2.2.dealing
    refine (hturn ht hpaid hdeed fun hw => hdealing ▸ hwaits hw).bind fun r u hu => ?_
    have hless : K.credit u.owner.app < n := hu.paid.trans_lt hpaid
    refine ih r u hu.paid (hu.poised.2.2.dealing.trans hdealing.symm) ⟨?_, ?_, ?_, fun he => ?_⟩
    · exact ⟨hless.le, hu.poised.2⟩
    · exact hu.paid.trans h.paid
    · exact h.clock.trans hu.clock
    · exact absurd (he.trans hn) hless.ne

/-- Thrifty hooks come back, whatever credit there is. -/
theorem heedful_of_thrifty (hconduct : Thrifty K.credit conduct) (hclock : Unbounded K.drift) :
    ∀ n, Heedful K n (application conduct).called := by
  intro n
  induction n using Nat.strong_induction_on with
  | _ n ih =>
    intro hook kind m e d s hs
    rcases Nat.lt_or_eq_of_le hs.1 with hlt | heq
    · refine (ih _ hlt hook kind m e d s ⟨Nat.le_refl _, hs.2⟩).mono fun v t ht => ?_
      exact ⟨⟨ht.poised.1.trans hs.1, ht.poised.2⟩, ht.paid, ht.clock, ht.free⟩
    · have hends := ends_seeThrough conduct (application conduct).called
        (fun ht hlt hdeed hwaits => ends_perform (ih _ hlt) ht hdeed hwaits (.inr hclock))
        (heq ▸ hconduct hook kind m e s) heq (.refl hs (.refl s))
      exact hends.deeper (fun _ => rfl) fun _ _ => rfl

/-- A modest hook turns to nobody, so it is thrifty even if there is no credit at all. -/
theorem thrifty_of_modest {c : Conduct MemoryBroker κ α MemoryWord} {gives : Bool → Prop}
    (hc : c.Modest MemoryWord.Benign gives) (s : World MemoryBroker κ α) :
    c.Thrifty (fun _ => 0) 0 s := by
  induction hc generalizing s with
  | answer _ => exact .answer _
  | see _ ih => exact .see (ih s s)
  | instruct hw _ ih =>
    obtain ⟨hawake, hcount⟩ := hw s.broker s.clock
    exact .instruct hawake (.inr hcount) (ih .done _)
  | sleep _ ih => exact .sleep (ih .done _)
  | think _ ih => exact .think (Nat.le_refl _) (ih .done _)

/-- Modest hooks come back, whatever the clock shows. -/
theorem heedful_of_modest {gives : Bool → Prop}
    (hmodest : ∀ hook kind m e, (conduct hook kind m e).Modest MemoryWord.Benign gives)
    (drift : Nat → Nat) : Heedful ⟨fun _ => 0, drift⟩ 0 (application conduct).called := by
  intro hook kind m e d s hs
  have hends := ends_seeThrough conduct (application conduct).called
    (fun _ hlt => absurd hlt (Nat.not_lt_zero _)) (thrifty_of_modest (hmodest hook kind m e) s) rfl
    (.refl hs (.refl s))
  exact hends.deeper (fun _ => rfl) fun _ _ => rfl

end

end MemoryBroker

end Outbox
