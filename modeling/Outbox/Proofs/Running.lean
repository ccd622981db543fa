import Outbox.Proofs.Thrift

/-! No operation hangs on a running broker. Wherever an application may have brought its producer,
    if the broker is awake then and has room for a message, every operation returns, whatever the
    clock shows, as long as the hooks are modest and keep the broker running. It is also known how
    long it may take: how often one message is offered, how many attempts a waiting caller makes,
    and how often the broker is flushed by one who waits for the outcomes. -/

namespace Outbox

variable {κ α : Type}

namespace MemoryBroker

/-! ### Between two operations -/

theorem limits_send (m : Message) (b : MemoryBroker) : (b.send m).2.limits = b.limits := by
  unfold send
  split
  · rfl
  · split <;> rfl

/-- The broker keeps the limits that it was connected with. -/
theorem limits_of_course {b₀ b : MemoryBroker} {ts : List client.Task} {M : Multiset Message}
    (h : client.Course Heeds b₀ b ts M) : b.limits = b₀.limits := by
  induction h with
  | start => rfl
  | told _ hb ih =>
    obtain ⟨clock, w, rfl⟩ := hb
    exact (still_heed _ clock w).limits.trans ih
  | @accept b b' _ _ m _ hsend ih | @refuse b b' _ _ m _ _ hsend ih =>
    have hlimits := limits_send m b
    rw [show b.send m = _ from hsend] at hlimits
    exact hlimits.trans ih
  | begin _ _ _ ih => exact ih
  | @more b b' _ _ task _ clock _ _ hstep ih =>
    have hgoes := goes_step task b clock
    rw [show step task b clock = _ from hstep] at hgoes
    exact hgoes.1.limits.trans ih
  | report _ hstep ih =>
    obtain ⟨m, batch, purpose, rfl, rfl, rfl, rfl⟩ := yields_of_step hstep
    exact (limits_deliver _ m).trans ih
  | @finish b b' _ _ task _ clock _ _ hstep ih =>
    have hgoes := goes_step task b clock
    rw [show step task b clock = _ from hstep] at hgoes
    exact hgoes.1.limits.trans ih

/-- At every return to the outermost caller the producer is ready, if the broker is awake. -/
theorem ready_of_run {conduct : κ → HookKind → Message → Option BrokerError →
      Conduct MemoryBroker κ α MemoryWord} {limits : MemoryLimits} {clock : Clock}
    {settings : Settings} {scope : Nat} {a : α} {limit depth : Nat}
    {deeds : List (Deed κ α MemoryWord)} {s : World MemoryBroker κ α} (hroom : 0 < limits.capacity)
    (h : (application conduct).run limit depth deeds
      (.opening { limits := limits } clock settings scope a) = some ((), s))
    (hawake : s.broker.paused = false) : s.Ready 0 := by
  obtain ⟨M, hM⟩ := Application.balanced_run (exact_application conduct limits).honest h
  have hcourse := hM.course
  rw [told_application] at hcourse
  have hlimits : s.broker.limits = limits := limits_of_course hcourse
  refine ⟨hawake, hlimits ▸ hroom, ?_⟩
  have hpending : s.producer.counters.pending = M.card := hM.pending
  rw [hpending, flight_eq hM, Multiset.coe_card, Line.length_toList, Nat.add_zero]

/-! ### Operations -/

/-- What is done with the producer in `s` ends, if loops have rounds enough and hooks may be nested
    deep enough, and it does not take long. -/
structure Prompt (conduct : κ → HookKind → Message → Option BrokerError →
    Conduct MemoryBroker κ α MemoryWord) (s : World MemoryBroker κ α) : Prop where
  operate : ∀ op, Act.Ends (fun limit depth =>
    ((application conduct).surroundings limit depth).operate op) s fun _ t => t.Ready 0
  /-- A message is offered until it is accepted or refused, at most two times more often than the
      broker was told to call its queue full. -/
  offer : ∀ m, Act.Ends (fun limit depth =>
    ((application conduct).surroundings limit depth).offer m) s fun _ t => t.Ready 0 ∧
      t.tally Event.isOffer ≤ s.tally Event.isOffer + (s.broker.faults.queueFullNext + 2)
  produceSync : ∀ m, Act.Ends (fun limit depth =>
    ((application conduct).surroundings limit depth).produceSync m) s fun _ t => t.Ready 0 ∧
      t.tally Event.isAttempt ≤ s.tally Event.isAttempt + (s.allowance m + 1)
  awaitAcks : Act.Ends (fun limit depth =>
    ((application conduct).surroundings limit depth).awaitAcks) s fun _ t => t.Ready 0 ∧
      t.tally Event.isFlush ≤ s.tally Event.isFlush + 1
  awaitAcksFor : ∀ timeout, Act.Ends (fun limit depth =>
    ((application conduct).surroundings limit depth).awaitAcksFor timeout) s fun _ t => t.Ready 0 ∧
      t.tally Event.isFlush ≤ s.tally Event.isFlush + 1

theorem fullness_le_succ (b : MemoryBroker) : b.fullness ≤ b.faults.queueFullNext + 1 := by
  unfold fullness
  split <;> omega

section

variable {conduct : κ → HookKind → Message → Option BrokerError →
    Conduct MemoryBroker κ α MemoryWord}

/-- A producer that is ready is prompt if its hooks are modest. -/
theorem prompt_of_ready {gives : Bool → Prop}
    (hmodest : ∀ hook kind m e, (conduct hook kind m e).Modest MemoryWord.Benign gives)
    {s : World MemoryBroker κ α} (hs : s.Ready 0) : Prompt conduct s := by
  have hcall := heedful_of_modest hmodest s.clock.drift
  have hpoised : s.Poised ⟨fun _ => 0, s.clock.drift⟩ 0 0 := ⟨Nat.le_refl _, rfl, hs⟩
  constructor
  case operate =>
    intro op
    exact (ends_operate hcall hpoised (fun _ => rfl) (.inl rfl)).mono fun _ t ht => ht.poised.2.2
  case offer =>
    intro m
    refine (ends_offer hcall hpoised m).mono fun _ t ht => ⟨ht.poised.2.2, ?_⟩
    have hle := (ht.free rfl).offers
    have hfull := fullness_le_succ s.broker
    omega
  case produceSync =>
    intro m
    exact (ends_produceSync hcall hpoised m).mono fun _ t ht => ⟨ht.poised.2.2, ht.free rfl⟩
  case awaitAcks =>
    exact (ends_awaitAcks hcall hpoised).mono fun _ t ht => ⟨ht.poised.2.2, (ht.free rfl).flushes⟩
  case awaitAcksFor =>
    intro timeout
    exact (ends_awaitAcksFor hcall hpoised (.inl rfl)).mono fun _ t ht =>
      ⟨ht.poised.2.2, (ht.free rfl rfl).flushes⟩

/-- Wherever an application has brought its producer, whatever hooks it had until then, the producer
    is ready if the broker is awake; and a producer that is ready is prompt and remains so. -/
theorem prompt_of_run {earlier : κ → HookKind → Message → Option BrokerError →
      Conduct MemoryBroker κ α MemoryWord} {limits : MemoryLimits} {clock : Clock}
    {settings : Settings} {scope : Nat} {a : α} {limit depth : Nat}
    {deeds : List (Deed κ α MemoryWord)} {s : World MemoryBroker κ α} (hroom : 0 < limits.capacity)
    (h : (application earlier).run limit depth deeds
      (.opening { limits := limits } clock settings scope a) = some ((), s))
    (hawake : s.broker.paused = false)
    (hmodest : ∀ hook kind m e, (conduct hook kind m e).Modest MemoryWord.Benign fun _ => True) :
    s.Ready 0 ∧ ∀ u : World MemoryBroker κ α, u.Ready 0 → Prompt conduct u :=
  ⟨ready_of_run hroom h hawake, fun _ hu => prompt_of_ready hmodest hu⟩

end

/-- A hook that takes its time and sees to it that the broker does better from then on. -/
def soothe (_ : Unit) (_ : HookKind) (_ : Message) (_ : Option BrokerError) :
    Conduct MemoryBroker Unit Unit MemoryWord :=
  .act (.sleep (.ofMillis 1)) fun _ => .act (.instruct (.order .clearFaults)) fun _ => .answer true

theorem modest_soothe (hook : Unit) (kind : HookKind) (m : Message) (e : Option BrokerError) :
    (soothe hook kind m e).Modest MemoryWord.Benign fun _ => True := by
  refine .sleep fun _ => .instruct (fun b clock => ⟨fun hb => ?_, Nat.zero_le _⟩) fun _ =>
    .answer trivial
  exact (rests_wake b clock).awake hb

/-- A hook sends a message on when it was delivered. Then another message is produced, the broker is
    told to fail a delivery and to call its queue full, and a last message is added. -/
def straits : List (Deed Unit Unit MemoryWord) :=
  [.operate (.setRetryBudget 2), .register .queueFull (), .register .delivered (),
    .operate (.produceSync { topic := "in" }), .operate (.produce { topic := "out" }),
    .instruct (.order (.failNext 1)), .instruct (.order (.reportQueueFull 3)),
    .operate (.add { topic := "late" })]

/-- The queue of the broker is full, all that was ordered is to come, and a message is buffered. -/
def isPressed (t : World MemoryBroker Unit Unit) : Bool :=
  !t.broker.paused && t.broker.fullness == 4 && t.broker.faults.failNext == 1 &&
    t.producer.buffered == 1

theorem prompt_soothe :
    ∃ s, (application forward).run 20 2 straits
        (.opening { limits := { capacity := 1 } } { drift := fun k => k } {} 0 ()) =
          some ((), s) ∧
      s.Ready 0 ∧ Prompt soothe s := by
  have hrun : ((application forward).run 20 2 straits
      (.opening { limits := { capacity := 1 } } { drift := fun k => k } {} 0 ())).any
        (fun r => isPressed r.2) = true := by
    decide +kernel
  obtain ⟨s, hs, hp⟩ := Application.exists_run hrun
  simp only [isPressed, Bool.and_eq_true, Bool.not_eq_true'] at hp
  obtain ⟨⟨⟨hawake, -⟩, -⟩, -⟩ := hp
  obtain ⟨hready, hprompt⟩ := prompt_of_run (by decide) hs hawake modest_soothe
  exact ⟨s, hs, hready, hprompt s hready⟩

end MemoryBroker

end Outbox
