import Outbox.Proofs.Course
import Outbox.Proofs.Unmoved

/-! What the producer's waiting comes to at a broker in memory that is not paused. Between two
    actions of the producer the broker's faults may change, as far as a drift allows; everything
    else is at rest. A poll and a flush then hand out all that is in the queue, oldest first, and
    nothing else happens; and a message that is offered meets a full queue for some time before it
    is taken or refused. Main statements: what holds of the queue before it is reported and is kept
    by each report holds of the empty queue at the end; how an offer ends. -/

namespace Outbox

variable {κ α : Type}

/-- How faults may change, by counting down and perhaps in other ways. If things are `sure` to end,
    the broker is not told to call its queue full more often. -/
structure Drift (sure : Prop) where
  may : Faults → Faults → Prop
  refl : ∀ f, may f f
  trans : ∀ {f g h}, may f g → may g h → may f h
  failed : ∀ f, may f { f with failNext := f.failNext - 1 }
  filled : ∀ f, may f { f with queueFullNext := f.queueFullNext - 1 }
  bounded : sure → ∀ {f g}, may f g → g.queueFullNext ≤ f.queueFullNext

namespace MemoryBroker

/-- The brokers hold the same; if the one is not paused, the other is not; and faults have drifted
    from the one to the other. -/
structure Akin (may : Faults → Faults → Prop) (b b' : MemoryBroker) : Prop where
  limits : b'.limits = b.limits
  inFlight : b'.inFlight.toList = b.inFlight.toList
  sent : b'.sent.toList = b.sent.toList
  delivered : b'.delivered.toList = b.delivered.toList
  awake : b.paused = false → b'.paused = false
  faults : may b.faults b'.faults

/-- The broker has been left to itself. -/
def leeway {sure : Prop} (G : Drift sure) : Leeway MemoryBroker where
  allows := Akin G.may
  refl b := ⟨rfl, rfl, rfl, rfl, id, G.refl b.faults⟩
  trans h h' := by
    obtain ⟨hlimits, hflight, hsent, hdelivered, hawake, hfaults⟩ := h
    exact ⟨h'.limits.trans hlimits, h'.inFlight.trans hflight, h'.sent.trans hsent,
      h'.delivered.trans hdelivered, fun hb => h'.awake (hawake hb), G.trans hfaults h'.faults⟩

/-- The broker with nothing in its queue. -/
def emptied (b : MemoryBroker) : MemoryBroker := { b with inFlight := .empty }

/-- The broker with one more message in its queue. -/
def taken (b : MemoryBroker) (m : Message) : MemoryBroker :=
  { b with sent := b.sent.pushBack m, inFlight := b.inFlight.pushBack m }

section

variable {sure : Prop} {G : Drift sure} {b b' : MemoryBroker}

theorem Akin.emptied (h : Akin G.may b b') : Akin G.may b.emptied b'.emptied :=
  ⟨h.limits, rfl, h.sent, h.delivered, h.awake, h.faults⟩

theorem Akin.taken (h : Akin G.may b b') (m : Message) : Akin G.may (b.taken m) (b'.taken m) := by
  obtain ⟨hlimits, hflight, hsent, hdelivered, hawake, hfaults⟩ := h
  refine ⟨hlimits, ?_, ?_, hdelivered, hawake, hfaults⟩
  · simp only [MemoryBroker.taken, Line.toList_pushBack, hflight]
  · simp only [MemoryBroker.taken, Line.toList_pushBack, hsent]

theorem akin_wake (G : Drift sure) (b : MemoryBroker) (clock : Clock) :
    Akin G.may b (b.wake clock) := by
  unfold wake
  split
  · exact ⟨rfl, rfl, rfl, rfl, fun _ => rfl, G.refl _⟩
  · exact (leeway G).refl b

/-- A broker that was told to call its queue full does so; otherwise it refuses the message or takes
    it. -/
theorem send_eq (m : Message) (b : MemoryBroker) :
    (0 < b.faults.queueFullNext ∧ b.send m = (.error .queueFull,
      { b with faults := { b.faults with queueFullNext := b.faults.queueFullNext - 1 } })) ∨
    b.faults.queueFullNext = 0 ∧
      ((∃ e, b.refusal? m = some e ∧ b.send m = (.error e, b)) ∨
        b.refusal? m = none ∧ b.send m = (.ok (), b.taken m)) := by
  unfold send
  split
  · next h => exact .inl ⟨h, rfl⟩
  · next h =>
    refine .inr ⟨Nat.eq_zero_of_not_pos h, ?_⟩
    cases hr : b.refusal? m with
    | some e => exact .inl ⟨e, rfl, rfl⟩
    | none => exact .inr ⟨rfl, rfl⟩

end

end MemoryBroker

namespace Site

/-- The world with nothing in the broker's queue. -/
def emptied (s : World MemoryBroker κ α) : World MemoryBroker κ α := s.brokered s.broker.emptied

theorem Unmoved.emptied {sure : Prop} {G : Drift sure} {s t : World MemoryBroker κ α}
    (h : s.Unmoved (MemoryBroker.leeway G) t) :
    s.emptied.Unmoved (MemoryBroker.leeway G) t.emptied :=
  ⟨h.like, h.broker.emptied, h.departed⟩

end Site

namespace MemoryBroker

/-- What a producer at a broker in memory works with. -/
def surroundings (call : κ → HookKind → Message → Option BrokerError → Work MemoryBroker κ α Bool)
    (limit : Nat) : Surroundings MemoryBroker κ α :=
  { client := client, limit := limit, call := call }

/-! ### Tasks -/

section

variable {call : κ → HookKind → Message → Option BrokerError → Work MemoryBroker κ α Bool}
  {limit : Nat} {sure : Prop} {G : Drift sure} {I : List Message → World MemoryBroker κ α → Prop}
  {s t : World MemoryBroker κ α}

/-- What is to be shown of the reports of a batch: each keeps what holds of the rest of it. -/
structure Keeps (env : Surroundings MemoryBroker κ α) (sure : Prop) (G : Drift sure)
    (I : List Message → World MemoryBroker κ α → Prop) : Prop where
  unmoved : ∀ {batch s t}, I batch s → s.Unmoved (leeway G) t → I batch t
  report : ∀ {m batch s}, I (m :: batch) s →
    (env.receive (s.broker.deliver m).1).Meets sure (s.brokered (s.broker.deliver m).2)
      fun _ t => I batch t
  empty : ∀ {s}, I [] s → s.broker.inFlight.toList = []

/-- The broker is not paused, and it holds of the queue, once it is taken. -/
def Queued (I : List Message → World MemoryBroker κ α → Prop) (s : World MemoryBroker κ α) : Prop :=
  s.broker.paused = false ∧ I s.broker.inFlight.toList s.emptied

/-- What holds while the task goes on. -/
def Task.Bears (I : List Message → World MemoryBroker κ α → Prop) : Task →
    World MemoryBroker κ α → Prop
  | .poll _ | .flush _ | .flushRound _ => Queued I
  | .deliver batch _ => I batch
  | .flushCheck _ => I []

/-- The steps that the task still takes, besides the last. -/
def Task.steps (s : World MemoryBroker κ α) : Task → Nat
  | .flush _ => s.broker.inFlight.size + 4
  | .flushRound _ => s.broker.inFlight.size + 3
  | .poll _ => s.broker.inFlight.size + 2
  | .deliver batch _ => batch.length + 1
  | .flushCheck _ => 0

section

variable {c : Client MemoryBroker} {receive : DeliveryReport → Work MemoryBroker κ α Unit}
  {task next : c.Task} {b : MemoryBroker} {clock : Clock}
  {Q : c.Task ⊕ BrokerAnswer → World MemoryBroker κ α → Prop}

theorem meets_more (hs : c.step task s.broker s.clock = (.more next, b, clock))
    (h : Q (.inl next) (s.turned b clock)) : (Site.taskStep c receive task).Meets sure s Q :=
  .of_eq (y := pure (.inl next)) (Site.taskStep_of_more hs) (.pure h)

theorem meets_report {r : DeliveryReport}
    (hs : c.step task s.broker s.clock = (.report r next, b, clock))
    (h : (receive r).Meets sure (s.turned b clock) fun _ t => Q (.inl next) t) :
    (Site.taskStep c receive task).Meets sure s Q :=
  .of_eq (Site.taskStep_of_report hs) (h.bind fun _ _ ht => .pure ht)

theorem meets_finished {answer : BrokerAnswer}
    (hs : c.step task s.broker s.clock = (.finished answer, b, clock))
    (h : Q (.inr answer) (s.turned b clock)) : (Site.taskStep c receive task).Meets sure s Q :=
  .of_eq (y := pure (.inr answer)) (Site.taskStep_of_finished hs) (.pure h)

end

theorem meets_taskStep (hI : Keeps (surroundings call limit) sure G I) {task : Task}
    (h : task.Bears I s) :
    (Site.taskStep client (surroundings call limit).receive task).Meets sure s fun o t =>
      o.elim (fun next : Task => next.Bears I t ∧ (sure → next.steps t < task.steps s))
        fun answer => answer = .ok () ∧ I [] t := by
  cases task with
  | flush timeout =>
    obtain ⟨hp, hI'⟩ := h
    have hb : Akin G.may s.broker { s.broker with flushCalls := s.broker.flushCalls + 1 } :=
      ⟨rfl, rfl, rfl, rfl, id, G.refl _⟩
    exact meets_more rfl
      ⟨⟨hp, hI.unmoved hI' (.turn hb.emptied s.clock.read.2)⟩, fun _ => Nat.lt_succ_self _⟩
  | flushRound deadline =>
    obtain ⟨hp, hI'⟩ := h
    have hb := akin_wake G s.broker s.clock
    have hwake := hb.awake hp
    have hs : client.step (.flushRound deadline) s.broker s.clock =
        (.more (.poll (.flush deadline)), s.broker.wake s.clock, s.clock) := by
      simp only [client, step, hwake, Bool.false_eq_true, if_false]
    refine meets_more hs ⟨⟨hwake, ?_⟩, fun _ => ?_⟩
    · rw [Site.broker_turned, hb.inFlight]
      exact hI.unmoved hI' (.turn hb.emptied s.clock)
    · rw [Task.steps, Task.steps, Site.broker_turned, inFlight_wake]
      exact Nat.lt_succ_self _
  | poll purpose =>
    obtain ⟨hp, hI'⟩ := h
    have hb : Akin G.may s.broker
        { s.broker.wake s.clock with pollCalls := s.broker.pollCalls + 1 } :=
      (leeway G).trans (akin_wake G s.broker s.clock) ⟨rfl, rfl, rfl, rfl, id, G.refl _⟩
    have hwake := (akin_wake G s.broker s.clock).awake hp
    have hs : client.step (.poll purpose) s.broker s.clock =
        (.more (.deliver s.broker.inFlight.toList purpose),
          emptied { s.broker.wake s.clock with pollCalls := s.broker.pollCalls + 1 },
          s.clock) := by
      simp only [client, step, hwake, Bool.false_eq_true, if_false, inFlight_wake]
      simp only [emptied]
    refine meets_more hs ⟨hI.unmoved hI' (.turn hb.emptied s.clock), fun _ => ?_⟩
    rw [Task.steps, Task.steps, Line.length_toList]
    exact Nat.lt_succ_self _
  | deliver batch purpose =>
    cases batch with
    | nil =>
      cases purpose with
      | poll => exact meets_finished rfl ⟨rfl, h⟩
      | flush deadline => exact meets_more rfl ⟨h, fun _ => Nat.zero_lt_one⟩
    | cons m batch =>
      have htime := hI.unmoved h (.turn ((leeway G).refl _)
        (s.clock.sleep (s.broker.deliver m).2.limits.latency))
      refine meets_report rfl ((hI.report htime).mono fun _ t ht => ⟨ht, fun _ => ?_⟩)
      exact Nat.lt_succ_self _
  | flushCheck deadline =>
    have hb : s.broker.inFlight.isEmpty = true := Line.isEmpty_iff.mpr (hI.empty h)
    have hs : client.step (.flushCheck deadline) s.broker s.clock =
        (.finished (.ok ()), s.broker, s.clock) := by
      simp only [client, step, hb, if_true]
    exact meets_finished hs ⟨rfl, h⟩

theorem meets_runTask (hI : Keeps (surroundings call limit) sure G I) (task : Task)
    (h : task.Bears I s) (hlimit : sure → task.steps s < limit) :
    (Site.runTask client (surroundings call limit).receive limit task).Meets sure s
      fun answer t => answer = .ok () ∧ I [] t :=
  .loop (P := fun task s => task.Bears I s) (fun task s => task.steps s)
    (fun _ _ h => meets_taskStep hI h) limit task s h hlimit

/-! ### Polls and flushes -/

theorem Keeps.queued {env : Surroundings MemoryBroker κ α} (hI : Keeps env sure G I)
    (h : Queued I s) (hst : s.Unmoved (leeway G) t) : Queued I t := by
  obtain ⟨hp, hq⟩ := h
  refine ⟨hst.broker.awake hp, ?_⟩
  rw [hst.broker.inFlight]
  exact hI.unmoved hq hst.emptied

theorem meets_poll (hI : Keeps (surroundings call limit) sure G I) (h : Queued I s)
    (hlimit : sure → s.broker.inFlight.size + 2 < limit) :
    (surroundings call limit).poll.Meets sure s fun _ t => I [] t := by
  refine .of_eq (Work.record_bind ..) ?_
  have hq := hI.queued h (.note (e := .polled) fun _ => rfl)
  exact (meets_runTask hI (.poll .poll) hq hlimit).bind fun _ t ht => .pure ht.2

theorem meets_flushBroker (hI : Keeps (surroundings call limit) sure G I) (h : Queued I s)
    (hlimit : sure → s.broker.inFlight.size + 4 < limit) (timeout : Span) :
    ((surroundings call limit).flushBroker timeout).Meets sure s fun answer t =>
      answer = .ok () ∧ I [] t := by
  refine .of_eq (Work.record_bind ..) ?_
  have hq := hI.queued h (.note (e := .flushBegan timeout) fun _ => rfl)
  refine (meets_runTask hI (.flush timeout) hq hlimit).bind fun answer t ht => ?_
  obtain ⟨rfl, ht⟩ := ht
  exact .of_eq (Work.record_bind ..) (.pure ⟨rfl, hI.unmoved ht (.note fun _ => rfl)⟩)

/-- Who waits while nothing is pending is done. -/
theorem meets_awaitAcks_of_idle (hp : s.producer.counters.pending = 0) (hlimit : sure → 0 < limit) :
    (surroundings call limit).awaitAcks.Meets sure s fun r t => r = .ok () ∧ t = s := by
  refine .of_eq (Work.producer_bind ..) ?_
  refine .loop (P := fun _ u => u = s) (fun _ _ => 0) (fun _ u hu => ?_) limit () s rfl hlimit
  subst hu
  refine .of_eq (Work.producer_bind ..) ?_
  rw [if_pos hp]
  exact .pure ⟨rfl, rfl⟩

/-- Who waits until nothing is pending waits for one flush. -/
theorem meets_awaitAcks (hI : Keeps (surroundings call limit) sure G I) (h : Queued I s)
    (hpending : s.producer.counters.pending ≠ 0)
    (hnone : ∀ t, I [] t → t.producer.counters.pending = 0)
    (hlimit : sure → s.broker.inFlight.size + 4 < limit) :
    (surroundings call limit).awaitAcks.Meets sure s fun r t => r = .ok () ∧ I [] t := by
  refine .of_eq (Work.producer_bind ..) ?_
  refine .loop (P := fun _ u => u = s ∨ I [] u)
    (fun _ u => if u.producer.counters.pending = 0 then 0 else 1) (fun _ u hu => ?_) limit () s
    (.inl rfl) fun hs => ?_
  · refine .of_eq (Work.producer_bind ..) ?_
    rcases hu with rfl | hu
    · rw [if_neg hpending]
      refine (meets_flushBroker hI h hlimit _).bind fun answer t ht => ?_
      obtain ⟨rfl, ht⟩ := ht
      refine .pure ⟨.inr ht, fun _ => ?_⟩
      rw [if_pos (hnone t ht), if_neg hpending]
      exact Nat.zero_lt_one
    · rw [if_pos (hnone u hu)]
      exact .pure ⟨rfl, hu⟩
  · have := hlimit hs
    rw [if_neg hpending]
    omega

/-- Who waits for a time waits for one flush too. -/
theorem meets_awaitAcksFor (hI : Keeps (surroundings call limit) sure G I) (h : Queued I s)
    (hnone : ∀ t, I [] t → t.producer.counters.pending = 0)
    (hlimit : sure → s.broker.inFlight.size + 4 < limit) (timeout : Span) :
    ((surroundings call limit).awaitAcksFor timeout).Meets sure s fun r t =>
      r = .ok true ∧ I [] t := by
  refine .of_eq (Site.readClock_bind ..) ?_
  have hq := hI.queued h (.turn ((leeway G).refl _) s.clock.read.2)
  refine .loop (P := fun _ u => u = s.turned s.broker s.clock.read.2) (fun _ _ => 0)
    (fun left u hu => ?_) limit timeout _ rfl fun hs => (Nat.zero_le _).trans_lt (hlimit hs)
  subst hu
  refine (meets_flushBroker hI hq hlimit left).bind fun answer t ht => ?_
  obtain ⟨rfl, ht⟩ := ht
  refine .of_eq (Site.readClock_bind ..) (.of_eq (Work.producer_bind ..) ?_)
  have ht' := hI.unmoved ht (.turn ((leeway G).refl _) t.clock.read.2)
  simp only [hnone _ ht', beq_self_eq_true, Bool.true_or, if_true]
  exact .pure ⟨rfl, ht'⟩

/-- When the queue is empty, nothing happens while the producer waits. -/
theorem keeps_idle {env : Surroundings MemoryBroker κ α} (hs : s.broker.inFlight.toList = []) :
    Keeps env sure G fun batch t => batch = [] ∧ s.Unmoved (leeway G) t where
  unmoved h ht := ⟨h.1, h.2.trans ht⟩
  report h := absurd h.1 (List.cons_ne_nil _ _)
  empty h := h.2.broker.inFlight.trans hs

theorem queued_idle (hs : s.broker.inFlight.toList = []) (hp : s.broker.paused = false) :
    Queued (fun batch t => batch = [] ∧ s.Unmoved (leeway G) t) s :=
  ⟨hp, hs, .of_broker ⟨rfl, hs.symm, rfl, rfl, id, G.refl _⟩⟩

/-! ### Offers -/

/-- How often the broker may still answer that its queue is full, if it is polled every time. -/
def fullness (b : MemoryBroker) : Nat :=
  b.faults.queueFullNext + if b.limits.capacity ≤ b.inFlight.size then 1 else 0

theorem fullness_le (hs : sure) {b b' : MemoryBroker} (h : Akin G.may b b') :
    b'.fullness ≤ b.fullness := by
  have hfull := G.bounded hs h.faults
  have hsize : b'.inFlight.size = b.inFlight.size := by
    rw [← Line.length_toList, ← Line.length_toList, h.inFlight]
  rw [fullness, fullness, h.limits, hsize]
  omega

/-- A broker refuses a message for want of room only if there is no room. -/
theorem full_of_refusal {b : MemoryBroker} {m : Message} {e : BrokerError}
    (h : b.refusal? m = some e) (he : e.isQueueFull = true) :
    b.limits.capacity ≤ b.inFlight.size := by
  unfold refusal? at h
  split at h
  · obtain rfl := Option.some_inj.mp h
    simp [BrokerError.isQueueFull] at he
  split at h
  · obtain rfl := Option.some_inj.mp h
    simp [BrokerError.isQueueFull] at he
  split at h
  · obtain rfl := Option.some_inj.mp h
    simp [BrokerError.isQueueFull] at he
  split at h
  · next hfull => exact hfull
  · simp at h

/-- What is to be shown of a producer that polls: it keeps `J`, and the queue is empty then. -/
structure Polls (env : Surroundings MemoryBroker κ α) (sure : Prop) (G : Drift sure) (V : Verdicts)
    (J : World MemoryBroker κ α → Prop) : Prop where
  unmoved : ∀ {s t}, J s → s.Unmoved (leeway G) t → J t
  polite : ∀ {s}, J s → env.Polite sure (leeway G) V s.producer.hooks
  poll : ∀ {s}, J s → env.poll.Meets sure s fun _ t => J t ∧ (sure →
    t.broker.fullness ≤ s.broker.faults.queueFullNext)

/-- How an offer ends that did not meet a full queue. -/
def Answered (J : World MemoryBroker κ α → Prop) (m : Message) (t : World MemoryBroker κ α) :
    BrokerAnswer → Prop
  | .ok () => ∃ s, J s ∧ s.broker.refusal? m = none ∧ t = s.accepted (s.broker.taken m) m
  | .error e => J t ∧ t.broker.refusal? m = some e ∧ e.isQueueFull = false

variable {V : Verdicts} {J : World MemoryBroker κ α → Prop}

theorem meets_makeRoom (hJ : Polls (surroundings call limit) sure G V J) (h : J s) (m : Message)
    (notice : FullQueueNotice) (notify : Bool) :
    ((surroundings call limit).makeRoom notice notify m).Meets sure s fun o t =>
      o.elim (fun _ => J t ∧ (sure → t.broker.fullness ≤ s.broker.faults.queueFullNext))
        fun _ => False := by
  refine (hJ.poll h).bind fun _ t ht => ?_
  obtain ⟨ht, hroom⟩ := ht
  cases notify with
  | false => exact .pure ⟨ht, hroom⟩
  | true =>
    refine (Surroundings.meets_fire (hJ.polite ht) none).bind fun v u hu => .pure ?_
    exact ⟨hJ.unmoved ht hu.1, fun hs => (fullness_le hs hu.1.broker).trans (hroom hs)⟩

theorem meets_offerOnce_of_full (hJ : Polls (surroundings call limit) sure G V J) (h : J s)
    {m : Message} {b : MemoryBroker} (hs : s.broker.send m = (.error .queueFull, b))
    (hb : Akin G.may s.broker b) (hlt : b.faults.queueFullNext < s.broker.fullness)
    (notice : FullQueueNotice) (notify : Bool) :
    ((surroundings call limit).offerOnce m notice notify).Meets sure s fun o t =>
      o.elim (fun _ => J t ∧ (sure → t.broker.fullness < s.broker.fullness))
        (Answered J m t) := by
  have hmarked : J ((s.refused b m .queueFull).marked .queueFull) :=
    hJ.unmoved (hJ.unmoved h (.refuse hb m .queueFull)) (.mark rfl)
  refine .of_eq (Surroundings.offerOnce_of_full _ notice notify hs rfl)
    ((meets_makeRoom hJ hmarked m notice notify).mono fun o t ht => ?_)
  cases o with
  | inl notify => exact ⟨ht.1, fun hs => (ht.2 hs).trans_lt hlt⟩
  | inr answer => exact ht.elim

theorem meets_offerOnce (hJ : Polls (surroundings call limit) sure G V J) (h : J s) {m : Message}
    {notice : FullQueueNotice} {notify : Bool} :
    ((surroundings call limit).offerOnce m notice notify).Meets sure s fun o t =>
      o.elim (fun _ => J t ∧ (sure → t.broker.fullness < s.broker.fullness)) (Answered J m t) := by
  rcases send_eq m s.broker with ⟨hpos, hs⟩ | ⟨hzero, ⟨e, hr, hs⟩ | ⟨hr, hs⟩⟩
  · refine meets_offerOnce_of_full hJ h hs ⟨rfl, rfl, rfl, rfl, id, G.filled _⟩ ?_ notice notify
    unfold fullness
    dsimp only
    omega
  · cases he : e.isQueueFull with
    | true =>
      have hroom := full_of_refusal hr he
      obtain rfl := BrokerError.eq_queueFull he
      refine meets_offerOnce_of_full hJ h hs ((leeway G).refl _) ?_ notice notify
      rw [fullness, if_pos hroom]
      exact Nat.lt_succ_self _
    | false =>
      have ht : J (s.refused s.broker m e) := hJ.unmoved h (.refuse ((leeway G).refl _) m e)
      exact .of_eq (Surroundings.offerOnce_of_refused _ notice notify hs he)
        (.pure ⟨ht, hr, he⟩)
  · exact .of_eq (Surroundings.offerOnce_of_accepted _ notice notify hs)
      (.pure ⟨s, h, hr, rfl⟩)

theorem meets_offer (hJ : Polls (surroundings call limit) sure G V J) (h : J s) (m : Message)
    (hlimit : sure → s.broker.fullness < limit) :
    ((surroundings call limit).offer m).Meets sure s fun answer t => Answered J m t answer := by
  refine .of_eq (Work.producer_bind ..) ?_
  exact .loop (P := fun _ u => J u) (fun _ u => u.broker.fullness)
    (fun notify u hu => meets_offerOnce hJ hu) limit _ s h hlimit

/-- A broker that has room calls its queue full only as often as it was told to. -/
theorem fullness_of_empty {b : MemoryBroker} (hb : b.inFlight.toList = [])
    (hcap : 0 < b.limits.capacity) : b.fullness = b.faults.queueFullNext := by
  have hsize : b.inFlight.size = 0 := by rw [← Line.length_toList, hb, List.length_nil]
  rw [fullness, hsize, if_neg (Nat.not_le_of_gt hcap), Nat.add_zero]

/-- A producer that polls while the queue is empty does nothing else. -/
theorem polls_idle (hpolite : (surroundings call limit).Polite sure (leeway G) V s.producer.hooks)
    (hs : s.broker.inFlight.toList = []) (hp : s.broker.paused = false)
    (hcap : sure → 0 < s.broker.limits.capacity) (hlimit : sure → 2 < limit) :
    Polls (surroundings call limit) sure G V fun u => s.Unmoved (leeway G) u where
  unmoved h ht := h.trans ht
  polite h := hpolite.after h
  poll {u} h := by
    have hu := h.broker.inFlight.trans hs
    have hsize : u.broker.inFlight.size = 0 := by rw [← Line.length_toList, hu, List.length_nil]
    refine (meets_poll (keeps_idle hu) (queued_idle hu (h.broker.awake hp)) ?_).mono
      fun _ t ht => ⟨h.trans ht.2, fun hsure => ?_⟩
    · rwa [hsize, Nat.zero_add]
    · obtain ⟨-, ht⟩ := ht
      have hcap : 0 < t.broker.limits.capacity := by
        rw [ht.broker.limits, h.broker.limits]
        exact hcap hsure
      rw [fullness_of_empty (ht.broker.inFlight.trans hu) hcap]
      exact G.bounded hsure ht.broker.faults

end

end MemoryBroker

end Outbox
