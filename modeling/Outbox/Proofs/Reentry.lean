import Outbox.Proofs.Running
import Outbox.Proofs.Sequence

/-! What a hook may ask of the producer. If hooks turn to the producer a bounded number of times,
    which they pay for on credit, then what they ask for returns, and so does the operation that
    they were called from; with one exception. While the hook of a report is at work the report is
    pending still, so if the hook waits until nothing is pending, it waits for ever. The broker does
    not help: with an empty queue a flush is over at once, and is begun again at once. -/

namespace Outbox

variable {κ α : Type}

namespace MemoryBroker

/-- What can be asked of the producer in `s` while `d` reports are being dealt with: every operation
    returns, unless it waits for one of these reports. -/
structure Reentrant (conduct : κ → HookKind → Message → Option BrokerError →
    Conduct MemoryBroker κ α MemoryWord) (d : Nat) (s : World MemoryBroker κ α) : Prop where
  returns : ∀ op : Operation Message, (op.waits s.producer = true → d = 0) →
    Act.Ends (fun limit depth => ((application conduct).surroundings limit depth).operate op) s
      fun _ t => t.Ready d
  unending : d ≠ 0 → ∀ limit depth,
    ((application conduct).surroundings limit depth).awaitAcks s = none

/-- Wherever an application has brought its producer, the producer is ready if the broker is awake;
    and a producer that is ready can be turned to by thrifty hooks and by whoever they are called
    for, if the clock goes on. -/
theorem reentrant_of_run {earlier conduct : κ → HookKind → Message → Option BrokerError →
      Conduct MemoryBroker κ α MemoryWord} {limits : MemoryLimits} {clock : Clock}
    {settings : Settings} {scope : Nat} {a : α} {limit depth : Nat}
    {deeds : List (Deed κ α MemoryWord)} {s : World MemoryBroker κ α} (hroom : 0 < limits.capacity)
    (h : (application earlier).run limit depth deeds
      (.opening { limits := limits } clock settings scope a) = some ((), s))
    (hawake : s.broker.paused = false) {credit : α → Nat} (hconduct : Thrifty credit conduct) :
    s.Ready 0 ∧ ∀ (d : Nat) (u : World MemoryBroker κ α), u.Ready d → Unbounded u.clock.drift →
      Reentrant conduct d u := by
  refine ⟨ready_of_run hroom h hawake, fun d u hu hclock => ?_⟩
  have hcall := heedful_of_thrifty (K := ⟨credit, u.clock.drift⟩) hconduct hclock
    (credit u.owner.app)
  have hpoised : u.Poised ⟨credit, u.clock.drift⟩ (credit u.owner.app) d :=
    ⟨Nat.le_refl _, rfl, hu⟩
  constructor
  case returns =>
    intro op hwaits
    exact (ends_operate hcall hpoised hwaits (.inr hclock)).mono fun _ t ht => ht.poised.2.2
  case unending => exact fun hd => awaitAcks_eq_none hcall hpoised hd

/-- A hook that turns to the producer as often as the application still allows. It pays first, and
    it waits only if no report is being dealt with. -/
def relay (_ : Unit) (_ : HookKind) (m : Message) (_ : Option BrokerError) :
    Conduct MemoryBroker Unit Nat MemoryWord :=
  .see fun s =>
    if s.owner.app = 0 then .answer true
    else .act (.think Nat.pred) fun _ =>
      .see fun s =>
        .act (.operate (if s.dealing = 0 then .flush true else .produce m)) fun _ => .answer true

theorem thrifty_relay : Thrifty id relay := by
  intro hook kind m e s
  refine .see ?_
  split
  · exact .answer true
  · next hcredit =>
    refine .think (Nat.pred_le _) (.see (.turn rfl (Nat.pred_lt hcredit) (fun hwaits => ?_)
      fun _ _ _ _ => .answer true))
    by_contra hdealing
    rw [if_neg hdealing] at hwaits
    exact Bool.false_ne_true hwaits

/-- A message is at the broker: what is asked returns between two operations, and what is asked by
    the hook that is told of the delivery returns if it does not wait. -/
theorem reentrant_relay :
    ∃ s, (application relay).run 1 1
        [.register .delivered (), .operate (.produce { topic := "t" })]
        (.opening { limits := {} } { drift := fun _ => 1 } {} 0 3) = some ((), s) ∧
      Reentrant relay 0 s ∧ s.emptied.Ready 1 ∧ Reentrant relay 1 s.emptied := by
  have hrun : ∃ s, (application relay).run 1 1
      [.register .delivered (), .operate (.produce { topic := "t" })]
      (.opening { limits := {} } { drift := fun _ => 1 } {} 0 3) = some ((), s) ∧
      s.broker.paused = false ∧ s.clock.drift = (fun _ => 1) ∧ s.emptied.Ready 1 :=
    ⟨_, rfl, rfl, rfl, rfl, by decide, rfl⟩
  obtain ⟨s, hs, hawake, hdrift, hdealing⟩ := hrun
  have hclock : Unbounded s.clock.drift := hdrift ▸ fun B => ⟨B, by simp⟩
  obtain ⟨hready, hreentrant⟩ := reentrant_of_run (by decide) hs hawake thrifty_relay
  exact ⟨s, hs, hreentrant 0 s hready hclock, hdealing, hreentrant 1 s.emptied hdealing hclock⟩

/-! ### Waiting for ever -/

/-- No failures were ordered, and none will be. -/
def unfailing : Drift False where
  may f g := f.failNext = 0 ∧ f.failWhere = none → g.failNext = 0 ∧ g.failWhere = none
  refl _ := id
  trans h h' := h' ∘ h
  failed f h := ⟨by rw [h.1], h.2⟩
  filled _ := id
  bounded h := h.elim

section

variable {call : κ → HookKind → Message → Option BrokerError → Work MemoryBroker κ α Bool}
  {limit : Nat} {s : World MemoryBroker κ α}

/-- If something is pending that is not in the queue, nothing that the broker does helps one who
    waits, whatever hooks there are. -/
theorem meets_awaitAcks_of_owed (hp : s.broker.paused = false)
    (hqueue : s.broker.inFlight.toList = []) (hpending : s.producer.counters.pending ≠ 0) :
    (surroundings call limit).awaitAcks.Meets False s fun _ _ => False := by
  refine .of_eq (Work.producer_bind ..) ?_
  refine .loop (P := fun _ t => s.Unmoved (leeway unfailing) t) (fun _ _ => 0) (fun _ t ht => ?_)
    limit () s (.refl s) False.elim
  refine .of_eq (Work.producer_bind ..) ?_
  have hpending' : t.producer.counters.pending = s.producer.counters.pending :=
    congrArg (·.1) ht.like.outcomes
  have hqueue' : t.broker.inFlight.toList = [] := ht.broker.inFlight.trans hqueue
  rw [if_neg (hpending'.trans_ne hpending)]
  refine (meets_flushBroker (G := unfailing) (keeps_idle hqueue')
    (queued_idle hqueue' (ht.broker.awake hp)) False.elim _).bind fun answer u hu => ?_
  obtain ⟨rfl, -, hu⟩ := hu
  exact .pure ⟨ht.trans hu, False.elim⟩

/-- If the hook that is told of a delivery does not come back, neither does one who waits for it. -/
theorem meets_awaitAcks_of_delivered {hook : κ} {m : Message} (hp : s.broker.paused = false)
    (hqueue : s.broker.inFlight.toList = [m]) (hpending : s.producer.counters.pending ≠ 0)
    (hfaults : s.broker.faults.failNext = 0 ∧ s.broker.faults.failWhere = none)
    (hhook : s.producer.hooks.find? .delivered = some hook)
    (hcall : ∀ t : World MemoryBroker κ α, t.broker.paused = false →
      t.broker.inFlight.toList = [] → t.producer.counters.pending ≠ 0 →
      (call hook .delivered m none).Meets False t fun _ _ => False) :
    (surroundings call limit).awaitAcks.Meets False s fun _ _ => False := by
  have hkeeps : Keeps (surroundings call limit) False unfailing
      fun batch t => batch = [m] ∧ s.emptied.Unmoved (leeway unfailing) t := by
    constructor
    case unmoved => exact fun h ht => ⟨h.1, h.2.trans ht⟩
    case empty => exact fun h => absurd h.1 (by simp)
    case report =>
      rintro n batch t ⟨hb, ht⟩
      obtain ⟨rfl, rfl⟩ := List.cons.inj hb
      obtain ⟨hzero, hnone⟩ := ht.broker.faults hfaults
      have hdeliver : t.broker.deliver n =
          (⟨n, none⟩, { t.broker with delivered := t.broker.delivered.pushBack n }) := by
        simp [deliver, hzero, hnone]
      rw [hdeliver]
      refine .of_eq (Work.producer_bind ..) (.bind (P := fun _ _ => False) ?_ fun _ _ h => h.elim)
      refine .bind (P := fun _ _ => False) ?_ fun _ _ h => h.elim
      refine .of_eq (Work.producer_bind ..) ?_
      have hhook' : t.producer.hooks.find? .delivered = some hook := by
        rw [ht.like.hooks]
        exact hhook
      rw [Site.producer_brokered, hhook']
      refine .of_eq (Work.record_bind ..) (.bind (P := fun _ _ => False) ?_ fun _ _ h => h.elim)
      have hpending' : t.producer.counters.pending = s.producer.counters.pending :=
        congrArg (·.1) ht.like.outcomes
      exact hcall _ (ht.broker.awake hp) ht.broker.inFlight (hpending'.trans_ne hpending)
  refine (meets_awaitAcks hkeeps ⟨hp, hqueue, .refl _⟩ hpending ?_ False.elim).mono ?_
  · exact fun t ht => absurd ht.1 (by simp)
  · exact fun _ t ht => absurd ht.2.1 (by simp)

end

/-- A hook that waits until nothing is pending. -/
def linger (_ : Unit) (_ : HookKind) (_ : Message) (_ : Option BrokerError) :
    Conduct MemoryBroker Unit Unit MemoryWord :=
  .act (.operate .awaitAcks) fun _ => .answer true

/-- A message is at the broker, and the hook that will be told of its delivery waits: then one who
    waits for the message waits for ever. -/
theorem unending_linger :
    ∃ s, (application linger).run 1 1
        [.register .delivered (), .operate (.produce { topic := "t" })]
        (.opening { limits := {} } {} {} 0 ()) = some ((), s) ∧
      s.broker.paused = false ∧
      ∀ limit depth, (application linger).run limit depth [.operate .awaitAcks] s = none := by
  refine ⟨_, rfl, rfl, fun limit depth => ?_⟩
  have hcall : ∀ t : World MemoryBroker Unit Unit, t.broker.paused = false →
      t.broker.inFlight.toList = [] → t.producer.counters.pending ≠ 0 →
      ((application linger).called limit depth () .delivered { topic := "t" } none).Meets False t
        fun _ _ => False := by
    intro t hp hqueue hpending
    cases depth with
    | zero => exact ⟨fun _ _ h => absurd h nofun, False.elim⟩
    | succ depth =>
      have hwait : ((application linger).surroundings limit depth).awaitAcks.Meets False t
          fun _ _ => False :=
        meets_awaitAcks_of_owed hp hqueue hpending
      exact .bind (P := fun _ _ => False) (.map hwait fun _ _ h => h) fun _ _ h => h.elim
  by_contra hrun
  obtain ⟨⟨_, t⟩, hrun⟩ := Option.ne_none_iff_exists'.mp hrun
  obtain ⟨_, u, hperform, -⟩ := Application.run_cons hrun
  obtain ⟨answer, hwait, -⟩ := Work.of_reply hperform
  refine (meets_awaitAcks_of_delivered ?_ ?_ ?_ ?_ ?_ hcall).post answer u hwait
  · rfl
  · rfl
  · exact Nat.one_ne_zero
  · exact ⟨rfl, rfl⟩
  · rfl

end MemoryBroker

end Outbox
