import Outbox.Proofs.Polling

/-! What a broker in memory promises whoever sends to it and receives its reports. The receiver may
    be anybody: it looks around, thinks, and may send again while a report is being dealt with. It
    is not the producer, which is only one of those who rely on these promises.

    A poll takes the queue before it reports the first message, so while a batch is being reported
    the messages of the broker are those reported so far, then the rest of the batch, then the
    queue, in the order in which they were accepted. Everything is proved about this longer list;
    when an errand is over there is no batch. -/

namespace Outbox

/-- A report as it was heard, and the rule for failing deliveries that was in force then. -/
structure Hearing where
  report : DeliveryReport
  rule : Option (Message → Bool)

namespace Hearing

/-- The message that the report was about. -/
def message (h : Hearing) : Message := h.report.message

/-- The broker reported what it was told to: the failure that was ordered, if one is still due, and
    otherwise a failure if and only if the message falls under the rule. -/
def AsTold (h : Hearing) (due : Prop) : Prop :=
  (due → h.report.failure = some (.undelivered "injected delivery failure")) ∧
    (¬ due → h.report.failure =
      if h.rule.any (· h.message) then
        some (.undelivered s!"delivery to '{h.message.topic}' refused")
      else none)

end Hearing

/-- The messages of the successful ones among the reports. -/
def succeeded (hs : List Hearing) : List Message :=
  (hs.filter fun h => h.report.failure = none).map (·.message)

/-- Whoever receives the reports, with what was heard so far and a state to think with. -/
structure Recipient (ω : Type) where
  heard : List Hearing := []
  state : ω

/-- A broker in memory, the clock and a receiver of reports. -/
abbrev Desk (ω : Type) := Site MemoryBroker (Recipient ω)

/-- What a receiver does with a report. -/
inductive Reaction (ω : Type) where
  | done
  /-- Look around. -/
  | see (next : Desk ω → Reaction ω)
  | think (f : ω → ω) (next : Reaction ω)
  /-- Send a message, and go on by the answer. -/
  | send (m : Message) (next : BrokerAnswer → Reaction ω)

/-- What a broker in memory is used for from outside. -/
inductive Errand where
  | send (m : Message)
  | poll
  | flush (timeout : Span)
  | tell (w : MemoryWord)
  | sleep (d : Span)

namespace Errand

/-- The errand waits for the broker to report what it has. -/
def waits : Errand → Bool
  | poll | flush _ => true
  | send _ | tell _ | sleep _ => false

end Errand

/-- The word leaves the number of failures alone that the broker was ordered. -/
def MemoryWord.Spares (w : MemoryWord) : Prop :=
  ∀ (b : MemoryBroker) (clock : Clock), (b.heed clock w).faults.failNext = b.faults.failNext

/-- The topic is one of those there are, and the message is not too large. -/
def MemoryLimits.Admits (limits : MemoryLimits) (m : Message) : Prop :=
  (∀ topics, limits.topics = some topics → m.topic ∈ topics) ∧ m.size ≤ limits.maxSize

namespace Site

variable {ω : Type}

/-- The desk after `r` was heard. -/
def noting (s : Desk ω) (r : DeliveryReport) : Desk ω :=
  { s with owner :=
    { s.owner with heard := s.owner.heard ++ [⟨r, s.broker.faults.failWhere⟩] } }

end Site

namespace MemoryBroker

variable {ω : Type}

/-- See a reaction through. -/
def react : Reaction ω → Act (Desk ω) Unit
  | .done => return
  | .see next => do react (next (← get))
  | .think f next => do
    modify fun s => { s with owner := { s.owner with state := f s.owner.state } }
    react next
  | .send m next => do react (next (← Site.send client m))

variable (handler : DeliveryReport → Reaction ω) (limit : Nat)

/-- Hear a report and react to it. -/
def hear (r : DeliveryReport) : Act (Desk ω) Unit := do
  modify (·.noting r)
  react (handler r)

/-- Run an errand. -/
def runErrand : Errand → Act (Desk ω) BrokerAnswer
  | .send m => Site.send client m
  | .poll => Site.runTask client (hear handler) limit client.poll
  | .flush timeout => Site.runTask client (hear handler) limit (client.flush timeout)
  | .tell w => do
    modify fun s => { s with broker := s.broker.heed s.clock w }
    return .ok ()
  | .sleep d => do
    modify fun s => { s with clock := s.clock.sleep d }
    return .ok ()

/-- Run one errand after another. -/
def runErrands : List Errand → Act (Desk ω) Unit
  | [] => return
  | e :: es => do
    let _ ← runErrand handler limit e
    runErrands es

/-! ### What passes at a broker -/

/-- The broker holds the same under the same limits. -/
structure Still (b b' : MemoryBroker) : Prop where
  limits : b'.limits = b.limits
  inFlight : b'.inFlight = b.inFlight
  sent : b'.sent = b.sent
  delivered : b'.delivered = b.delivered

/-- On the way from `s` to `t` the broker accepted some messages, and some reports were heard. In
    `s` it was about to report `held`, and in `t` it is about to report `held'`. Unless failures
    were `spared`, it was told of others. -/
structure Passes (spared : Prop) (news : List Hearing) (accepted held held' : List Message)
    (s t : Desk ω) : Prop where
  limits : t.broker.limits = s.broker.limits
  heard : t.owner.heard = s.owner.heard ++ news
  sent : t.broker.sent.toList = s.broker.sent.toList ++ accepted
  admitted : ∀ m ∈ accepted, s.broker.limits.Admits m
  order : held ++ s.broker.inFlight.toList ++ accepted =
    news.map (·.message) ++ (held' ++ t.broker.inFlight.toList)
  delivered : t.broker.delivered.toList = s.broker.delivered.toList ++ succeeded news
  capacity : s.broker.inFlight.size ≤ s.broker.limits.capacity →
    t.broker.inFlight.size ≤ s.broker.limits.capacity
  failNext : spared → t.broker.faults.failNext = s.broker.faults.failNext - news.length
  asTold : spared → ∀ (i : Nat) (h : Hearing), news[i]? = some h →
    h.AsTold (i < s.broker.faults.failNext)

/-- Something like it passed. -/
def Progress (spared : Prop) (held held' : List Message) (s t : Desk ω) : Prop :=
  ∃ news accepted, Passes spared news accepted held held' s t

section

variable {spared : Prop} {held held' held'' : List Message} {s t u : Desk ω} {b : MemoryBroker}

theorem Passes.still (h : Still s.broker t.broker) (ht : t.owner.heard = s.owner.heard)
    (hf : spared → t.broker.faults.failNext = s.broker.faults.failNext) :
    Passes spared [] [] held held s t where
  limits := h.limits
  heard := by rw [ht, List.append_nil]
  sent := by rw [h.sent, List.append_nil]
  admitted := by simp
  order := by simp [h.inFlight]
  delivered := by simp [h.delivered, succeeded]
  capacity hs := by rwa [h.inFlight]
  failNext := hf
  asTold := by simp

theorem Progress.still (h : Still s.broker t.broker) (ht : t.owner.heard = s.owner.heard)
    (hf : spared → t.broker.faults.failNext = s.broker.faults.failNext) :
    Progress spared held held s t :=
  ⟨[], [], .still h ht hf⟩

theorem Progress.refl (s : Desk ω) : Progress spared held held s s :=
  .still ⟨rfl, rfl, rfl, rfl⟩ rfl fun _ => rfl

theorem Progress.trans (h : Progress spared held held' s t)
    (h' : Progress spared held' held'' t u) : Progress spared held held'' s u := by
  obtain ⟨news, accepted, h⟩ := h
  obtain ⟨more, others, h'⟩ := h'
  refine ⟨news ++ more, accepted ++ others, ?_⟩
  constructor
  case limits => rw [h'.limits, h.limits]
  case heard => rw [h'.heard, h.heard, List.append_assoc]
  case sent => rw [h'.sent, h.sent, List.append_assoc]
  case admitted =>
    intro m hm
    rcases List.mem_append.mp hm with hm | hm
    · exact h.admitted m hm
    · rw [← h.limits]
      exact h'.admitted m hm
  case order =>
    rw [← List.append_assoc, h.order, List.append_assoc, h'.order, List.map_append,
      List.append_assoc]
  case delivered =>
    rw [h'.delivered, h.delivered, succeeded, succeeded, succeeded, List.filter_append,
      List.map_append, List.append_assoc]
  case capacity =>
    intro hs
    have ht := h'.capacity (by rw [h.limits]; exact h.capacity hs)
    rwa [h.limits] at ht
  case failNext =>
    intro hs
    rw [h'.failNext hs, h.failNext hs, List.length_append, Nat.sub_sub]
  case asTold =>
    intro hs i k hk
    rcases Nat.lt_or_ge i news.length with hi | hi
    · rw [List.getElem?_append_left hi] at hk
      exact h.asTold hs i k hk
    · rw [List.getElem?_append_right hi] at hk
      have hk := h'.asTold hs _ k hk
      have hdue : i - news.length < t.broker.faults.failNext ↔ i < s.broker.faults.failNext := by
        rw [h.failNext hs]
        omega
      rwa [Hearing.AsTold, hdue] at hk

/-! ### Sends -/

/-- A message that is not refused is admitted, and there is room for it. -/
theorem admits_of_refusal?_eq_none {m : Message} (h : b.refusal? m = none) :
    b.limits.Admits m ∧ b.inFlight.size < b.limits.capacity := by
  unfold refusal? at h
  split_ifs at h with hreject htopic hsize hfull
  refine ⟨⟨fun topics ht => ?_, Nat.le_of_not_lt hsize⟩, Nat.lt_of_not_le hfull⟩
  simpa [ht] using htopic

/-- A refused send changes nothing, but that a full queue that was ordered has been met. -/
theorem send_refused {m : Message} {e : BrokerError} {b' : MemoryBroker}
    (h : b.send m = (.error e, b')) :
    b' = { b with faults :=
      { b.faults with queueFullNext := b.faults.queueFullNext - 1 } } := by
  rcases send_eq m b with ⟨-, hs⟩ | ⟨hzero, ⟨e', -, hs⟩ | ⟨-, hs⟩⟩
  · rw [hs] at h
    exact (Prod.mk.inj h).2.symm
  · rw [hs] at h
    obtain rfl := (Prod.mk.inj h).2
    rw [hzero, Nat.zero_sub, ← hzero]
  · rw [hs] at h
    simp at h

theorem send_accepted {m : Message} {b' : MemoryBroker} (h : b.send m = (.ok (), b')) :
    b' = { b with sent := b.sent.pushBack m, inFlight := b.inFlight.pushBack m } := by
  rcases send_eq m b with ⟨-, hs⟩ | ⟨-, ⟨e, -, hs⟩ | ⟨-, hs⟩⟩
  · rw [hs] at h
    simp at h
  · rw [hs] at h
    simp at h
  · rw [hs] at h
    exact (Prod.mk.inj h).2.symm

theorem progress_send (m : Message) {answer : BrokerAnswer}
    (h : Site.send client m s = some (answer, t)) : Progress spared held held s t := by
  obtain rfl : { s with broker := (s.broker.send m).2 } = t := (Act.pure_eq_some.mp h).2
  rcases send_eq m s.broker with ⟨-, hs⟩ | ⟨-, ⟨e, -, hs⟩ | ⟨hr, hs⟩⟩
  · rw [hs]
    exact .still ⟨rfl, rfl, rfl, rfl⟩ rfl fun _ => rfl
  · rw [hs]
    exact .refl s
  · obtain ⟨hadmits, hroom⟩ := admits_of_refusal?_eq_none hr
    rw [hs]
    refine ⟨[], [m], ?_⟩
    constructor
    case limits => rfl
    case heard => rw [List.append_nil]
    case sent => exact Line.toList_pushBack ..
    case admitted => simpa using hadmits
    case order => simp [taken]
    case delivered => simp [taken, succeeded]
    case capacity => exact fun _ => hroom
    case failNext => exact fun _ => rfl
    case asTold => simp

/-! ### Reports -/

theorem progress_react (reaction : Reaction ω) {v : Unit} (h : react reaction s = some (v, t)) :
    Progress spared held held s t := by
  induction reaction generalizing s with
  | done =>
    obtain ⟨-, rfl⟩ := Act.pure_eq_some.mp h
    exact .refl s
  | see next ih => exact ih s h
  | think f next ih =>
    have hs : Progress spared held held s
        { s with owner := { s.owner with state := f s.owner.state } } :=
      .still ⟨rfl, rfl, rfl, rfl⟩ rfl fun _ => rfl
    exact hs.trans (ih h)
  | send m next ih =>
    rw [react, Act.bind_eq_some] at h
    obtain ⟨answer, u, hsend, h⟩ := h
    exact (progress_send m hsend).trans (ih answer h)

/-- The report of a message says what the broker was told to do with it. -/
theorem asTold_deliver (b : MemoryBroker) (m : Message) :
    Hearing.AsTold ⟨(b.deliver m).1, b.faults.failWhere⟩ (0 < b.faults.failNext) ∧
      (b.deliver m).2.faults = { b.faults with failNext := b.faults.failNext - 1 } := by
  unfold deliver
  split_ifs with hdue hrule
  · exact ⟨⟨fun _ => rfl, fun h => absurd hdue h⟩, rfl⟩
  · have hzero : b.faults.failNext = 0 := by omega
    refine ⟨⟨fun h => absurd h hdue, fun _ => ?_⟩, by rw [hzero, Nat.zero_sub, ← hzero]⟩
    exact (if_pos hrule).symm
  · have hzero : b.faults.failNext = 0 := by omega
    refine ⟨⟨fun h => absurd h hdue, fun _ => ?_⟩, by rw [hzero, Nat.zero_sub, ← hzero]⟩
    exact (if_neg hrule).symm

theorem limits_deliver (b : MemoryBroker) (m : Message) : (b.deliver m).2.limits = b.limits := by
  unfold deliver; split_ifs <;> rfl

theorem paused_deliver (b : MemoryBroker) (m : Message) : (b.deliver m).2.paused = b.paused := by
  unfold deliver; split_ifs <;> rfl

theorem sent_deliver (b : MemoryBroker) (m : Message) : (b.deliver m).2.sent = b.sent := by
  unfold deliver; split_ifs <;> rfl

/-- The next message of a batch is reported and heard. -/
theorem progress_report (s : Desk ω) (m : Message) (batch : List Message) (clock : Clock) :
    Progress spared (m :: batch) batch s
      ({ s with broker := (s.broker.deliver m).2, clock := clock }.noting
        (s.broker.deliver m).1) := by
  obtain ⟨htold, hfaults⟩ := asTold_deliver s.broker m
  have hrule : (s.broker.deliver m).2.faults.failWhere = s.broker.faults.failWhere := by
    rw [hfaults]
  refine ⟨[⟨(s.broker.deliver m).1, s.broker.faults.failWhere⟩], [], ?_⟩
  constructor
  case limits => exact limits_deliver _ _
  case heard => rw [Site.noting, hrule]
  case sent => simp [Site.noting, sent_deliver]
  case admitted => simp
  case order => simp [Site.noting, Hearing.message]
  case delivered =>
    simp only [Site.noting, delivered_deliver, succeeded]
    by_cases hf : (s.broker.deliver m).1.failure = none <;> simp [hf, Hearing.message]
  case capacity =>
    intro hs
    simpa [Site.noting] using hs
  case failNext =>
    intro _
    simp [Site.noting, hfaults]
  case asTold =>
    intro _ i h hi
    obtain ⟨rfl, rfl⟩ : i = 0 ∧ h = ⟨(s.broker.deliver m).1, s.broker.faults.failWhere⟩ := by
      cases i <;> simp_all
    exact htold

/-! ### Tasks -/

/-- The broker has not reported anything, was told nothing, and took nothing out of its queue. -/
structure Rests (b b' : MemoryBroker) : Prop extends Still b b' where
  faults : b'.faults = b.faults
  awake : b.paused = false → b'.paused = false

/-- What a step does that reports nothing: it leaves everything as it is, or it takes the queue of a
    broker that is not paused. The batches before and after it are the last two arguments. -/
inductive Shifts (b b' : MemoryBroker) : List Message → List Message → Prop where
  | keep {held : List Message} (h : Rests b b') : Shifts b b' held held
  | take (h : Rests b.emptied b') (hawake : b'.paused = false) : Shifts b b' [] b.inFlight.toList

theorem Rests.paused {b b' : MemoryBroker} (h : Rests b b') (hp : b'.paused = true) :
    b.paused = true := by
  by_contra hawake
  rw [h.awake (by simpa using hawake)] at hp
  contradiction

/-- The queue of a paused broker is not taken. -/
theorem Shifts.of_paused {b b' : MemoryBroker} {held held' : List Message}
    (h : Shifts b b' held held') (hp : b'.paused = true) : held' = held ∧ b.paused = true := by
  cases h with
  | keep h => exact ⟨rfl, h.paused hp⟩
  | take _ hawake =>
    rw [hawake] at hp
    contradiction

/-- The task is part of a flush. -/
def Task.flushes : Task → Bool
  | .poll (.flush _) | .deliver _ (.flush _) | .flush _ | .flushRound _ | .flushCheck _ => true
  | .poll .poll | .deliver _ .poll => false

/-- What comes of a step besides a report. -/
def Goes (task : Task) (b b' : MemoryBroker) : TaskStep Task → Prop
  | .report _ _ => True
  | .more next => Shifts b b' task.held next.held ∧ next.flushes = task.flushes
  | .finished answer => Rests b b' ∧ task.held = [] ∧
      (task.flushes = true → answer = .ok () → b'.inFlight.toList = [])

theorem rests_wake (b : MemoryBroker) (clock : Clock) : Rests b (b.wake clock) := by
  unfold wake
  split
  · exact ⟨⟨rfl, rfl, rfl, rfl⟩, rfl, fun _ => rfl⟩
  · exact ⟨⟨rfl, rfl, rfl, rfl⟩, rfl, id⟩

theorem goes_waitPaused {b b' : MemoryBroker} (h : Rests b b') (deadline : Option Nat)
    (clock : Clock) : Goes (.flushRound deadline) b (b'.waitPaused deadline clock).2.1
      (b'.waitPaused deadline clock).1 := by
  unfold waitPaused
  split
  · exact ⟨.keep h, rfl⟩
  · exact ⟨h, rfl, fun _ ha => by simp at ha⟩
  · exact ⟨.keep h, rfl⟩

theorem goes_step (task : Task) (b : MemoryBroker) (clock : Clock) :
    Goes task b (step task b clock).2.1 (step task b clock).1 := by
  cases task with
  | poll purpose =>
    obtain ⟨⟨hlimits, hflight, hsent, hdelivered⟩, hfaults, hawake⟩ := rests_wake b clock
    simp only [step]
    split_ifs with hp
    · exact ⟨.keep ⟨⟨hlimits, hflight, hsent, hdelivered⟩, hfaults, hawake⟩,
        by cases purpose <;> rfl⟩
    · refine ⟨?_, by cases purpose <;> rfl⟩
      change Shifts b _ [] (b.wake clock).inFlight.toList
      rw [hflight]
      exact .take ⟨⟨hlimits, rfl, hsent, hdelivered⟩, hfaults, hawake⟩ (by simpa using hp)
  | deliver batch purpose =>
    cases batch with
    | nil =>
      cases purpose with
      | poll => exact ⟨⟨⟨rfl, rfl, rfl, rfl⟩, rfl, id⟩, rfl, fun h => by simp [Task.flushes] at h⟩
      | flush deadline => exact ⟨.keep ⟨⟨rfl, rfl, rfl, rfl⟩, rfl, id⟩, rfl⟩
    | cons m batch => trivial
  | flush timeout => exact ⟨.keep ⟨⟨rfl, rfl, rfl, rfl⟩, rfl, id⟩, rfl⟩
  | flushRound deadline =>
    simp only [step]
    split_ifs with hp
    · exact goes_waitPaused (rests_wake b clock) deadline clock
    · exact ⟨.keep (rests_wake b clock), rfl⟩
  | flushCheck deadline =>
    have hrests : Rests b b := ⟨⟨rfl, rfl, rfl, rfl⟩, rfl, id⟩
    simp only [step]
    split_ifs with hempty
    · exact ⟨hrests, rfl, fun _ _ => Line.isEmpty_iff.mp hempty⟩
    · cases deadline with
      | none => exact ⟨.keep hrests, rfl⟩
      | some d =>
        dsimp only
        split_ifs
        · exact ⟨hrests, rfl, fun _ ha => by simp at ha⟩
        · exact ⟨.keep hrests, rfl⟩

/-- How a step of a task ends for the site. -/
theorem taskStep_eq_some {receive : DeliveryReport → Act (Desk ω) Unit} {task : client.Task}
    {o : client.Task ⊕ BrokerAnswer} (h : Site.taskStep client receive task s = some (o, t)) :
    ∃ out b clock, step task s.broker s.clock = (out, b, clock) ∧
      match out with
      | .report r next => o = .inl next ∧
          ∃ v, receive r { s with broker := b, clock := clock } = some (v, t)
      | .more next => o = .inl next ∧ t = { s with broker := b, clock := clock }
      | .finished answer => o = .inr answer ∧ t = { s with broker := b, clock := clock } := by
  obtain ⟨out, b, clock, hs⟩ : ∃ out b clock, step task s.broker s.clock = (out, b, clock) :=
    ⟨_, _, _, rfl⟩
  refine ⟨out, b, clock, hs, ?_⟩
  have hs' : client.step task s.broker s.clock = (out, b, clock) := hs
  rw [Site.taskStep, Act.bind_eq_some] at h
  obtain ⟨_, _, hget, h⟩ := h
  obtain ⟨rfl, rfl⟩ := Act.pure_eq_some.mp hget
  rw [hs', Act.bind_eq_some] at h
  obtain ⟨_, _, hset, h⟩ := h
  obtain ⟨-, rfl⟩ := Act.pure_eq_some.mp hset
  cases out with
  | report r next =>
    rw [Act.bind_eq_some] at h
    obtain ⟨v, u, hr, h⟩ := h
    obtain ⟨rfl, rfl⟩ := Act.pure_eq_some.mp h
    exact ⟨rfl, v, hr⟩
  | more next =>
    obtain ⟨rfl, rfl⟩ := Act.pure_eq_some.mp h
    exact ⟨rfl, rfl⟩
  | finished answer =>
    obtain ⟨rfl, rfl⟩ := Act.pure_eq_some.mp h
    exact ⟨rfl, rfl⟩

variable {handler : DeliveryReport → Reaction ω} {limit : Nat}

theorem progress_shift {held held' : List Message} (h : Shifts s.broker b held held')
    (clock : Clock) : Progress spared held held' s { s with broker := b, clock := clock } := by
  cases h with
  | keep h => exact .still h.toStill rfl fun _ => by rw [h.faults]
  | take h _ =>
    obtain ⟨⟨hlimits, hflight, hsent, hdelivered⟩, hfaults, -⟩ := h
    refine ⟨[], [], ?_⟩
    constructor
    case limits => exact hlimits
    case heard => rw [List.append_nil]
    case sent => simp [hsent, emptied]
    case admitted => simp
    case order => simp [hflight, emptied]
    case delivered => simp [hdelivered, emptied, succeeded]
    case capacity =>
      intro _
      have hzero : b.inFlight.size = 0 := by rw [hflight]; rfl
      exact hzero.trans_le (Nat.zero_le _)
    case failNext => exact fun _ => congrArg Faults.failNext hfaults
    case asTold => simp

/-- A step of a task passes what it reports, and what the handler sends. -/
theorem progress_taskStep {task : client.Task} {o : client.Task ⊕ BrokerAnswer}
    (h : Site.taskStep client (hear handler) task s = some (o, t)) :
    Progress spared (Task.held task) (o.elim Task.held fun _ => []) s t := by
  obtain ⟨out, b, clock, hs, hout⟩ := taskStep_eq_some h
  have hgoes := goes_step task s.broker s.clock
  rw [hs] at hgoes
  cases out with
  | report r next =>
    obtain ⟨rfl, v, hr⟩ := hout
    obtain ⟨m, batch, purpose, rfl, rfl, rfl, rfl⟩ := yields_of_step hs
    exact (progress_report s m batch clock).trans (progress_react (handler _) hr)
  | more next =>
    obtain ⟨rfl, rfl⟩ := hout
    exact progress_shift hgoes.1 clock
  | finished answer =>
    obtain ⟨rfl, rfl⟩ := hout
    obtain ⟨hrests, hheld, -⟩ := hgoes
    rw [hheld]
    exact progress_shift (.keep hrests) clock

theorem progress_runTask {task : client.Task} (htask : Task.held task = []) {answer : BrokerAnswer}
    (h : Site.runTask client (hear handler) limit task s = some (answer, t)) :
    Progress spared [] [] s t := by
  refine Act.loop_invariant
    (P := fun (task : client.Task) u => Progress spared [] (Task.held task) s u)
    (Q := fun _ u => Progress spared [] [] s u) (fun task u hu o w hw => ?_) limit task s t answer
    ?_ h
  · have hnext := hu.trans (progress_taskStep hw)
    cases o with
    | inl next => exact hnext
    | inr answer => exact hnext
  · rw [htask]
    exact .refl s

/-- A flush that is not out of time leaves nothing in the queue. -/
theorem empty_of_runTask {task : client.Task} (htask : Task.flushes task = true)
    (h : Site.runTask client (hear handler) limit task s = some (.ok (), t)) :
    t.broker.inFlight.toList = [] := by
  refine Act.loop_invariant (P := fun (task : client.Task) _ => Task.flushes task = true)
    (Q := fun (answer : BrokerAnswer) u => answer = .ok () → u.broker.inFlight.toList = [])
    (fun task u hu o w hw => ?_) limit task s t (.ok ()) htask h rfl
  obtain ⟨out, b, clock, hs, hout⟩ := taskStep_eq_some hw
  have hgoes := goes_step task u.broker u.clock
  rw [hs] at hgoes
  cases out with
  | report r next =>
    obtain ⟨rfl, -⟩ := hout
    obtain ⟨m, batch, purpose, rfl, rfl, -⟩ := yields_of_step hs
    cases purpose with
    | poll => simp [Task.flushes] at hu
    | flush deadline => rfl
  | more next =>
    obtain ⟨rfl, rfl⟩ := hout
    exact hgoes.2.trans hu
  | finished answer =>
    obtain ⟨rfl, rfl⟩ := hout
    exact hgoes.2.2 hu

/-! ### Pauses -/

theorem paused_react (reaction : Reaction ω) {v : Unit} (h : react reaction s = some (v, t)) :
    t.broker.paused = s.broker.paused := by
  induction reaction generalizing s with
  | done =>
    obtain ⟨-, rfl⟩ := Act.pure_eq_some.mp h
    rfl
  | see next ih => exact ih s h
  | think f next ih => exact (ih h).trans rfl
  | send m next ih =>
    rw [react, Act.bind_eq_some] at h
    obtain ⟨answer, u, hsend, h⟩ := h
    obtain rfl : { s with broker := (s.broker.send m).2 } = u := (Act.pure_eq_some.mp hsend).2
    refine (ih answer h).trans ?_
    rcases send_eq m s.broker with ⟨-, hs⟩ | ⟨-, ⟨e, -, hs⟩ | ⟨-, hs⟩⟩ <;> rw [hs]; rfl

/-- While the broker is paused, nothing is reported. -/
theorem paused_runTask {task : client.Task} (htask : Task.held task = []) {answer : BrokerAnswer}
    (h : Site.runTask client (hear handler) limit task s = some (answer, t))
    (hp : t.broker.paused = true) : t.owner.heard = s.owner.heard := by
  refine Act.loop_invariant
    (P := fun (task : client.Task) u => u.broker.paused = true →
      Task.held task = [] ∧ u.owner.heard = s.owner.heard)
    (Q := fun _ u => u.broker.paused = true → u.owner.heard = s.owner.heard)
    (fun task u hu o w hw => ?_) limit task s t answer (fun _ => ⟨htask, rfl⟩) h hp
  obtain ⟨out, b, clock, hs, hout⟩ := taskStep_eq_some hw
  have hgoes := goes_step task u.broker u.clock
  rw [hs] at hgoes
  cases out with
  | report r next =>
    obtain ⟨rfl, v, hr⟩ := hout
    obtain ⟨m, batch, purpose, rfl, -, rfl, rfl⟩ := yields_of_step hs
    intro hp
    have hp' : (u.broker.deliver m).2.paused = true := (paused_react (handler _) hr).symm.trans hp
    rw [paused_deliver] at hp'
    exact absurd (hu hp').1 (List.cons_ne_nil _ _)
  | more next =>
    obtain ⟨rfl, rfl⟩ := hout
    intro hp
    obtain ⟨hheld, hp'⟩ := hgoes.1.of_paused hp
    rw [hheld]
    exact hu hp'
  | finished answer =>
    obtain ⟨rfl, rfl⟩ := hout
    intro hp
    exact (hu (hgoes.1.paused hp)).2

/-! ### Errands -/

theorem still_heed (b : MemoryBroker) (clock : Clock) (w : MemoryWord) :
    Still b (b.heed clock w) := by
  cases w with
  | order o =>
    obtain ⟨⟨hlimits, hflight, hsent, hdelivered⟩, -⟩ := rests_wake b clock
    cases o <;> exact ⟨hlimits, hflight, hsent, hdelivered⟩
  | fault f | resumption t => exact ⟨rfl, rfl, rfl, rfl⟩

/-- The only word that may change how many failures are due is one that does not spare them. -/
theorem progress_runErrand {e : Errand} {answer : BrokerAnswer}
    (hspared : spared → ∀ w, e = .tell w → w.Spares)
    (h : runErrand handler limit e s = some (answer, t)) : Progress spared [] [] s t := by
  cases e with
  | send m => exact progress_send m h
  | poll => exact progress_runTask rfl h
  | flush timeout => exact progress_runTask rfl h
  | tell w =>
    obtain ⟨-, rfl⟩ := Act.pure_eq_some.mp h
    exact .still (still_heed s.broker s.clock w) rfl fun hs => hspared hs w rfl s.broker s.clock
  | sleep d =>
    obtain ⟨-, rfl⟩ := Act.pure_eq_some.mp h
    exact .still ⟨rfl, rfl, rfl, rfl⟩ rfl fun _ => rfl

theorem progress_runErrands {es : List Errand} {v : Unit}
    (hspared : spared → ∀ w, .tell w ∈ es → w.Spares)
    (h : runErrands handler limit es s = some (v, t)) : Progress spared [] [] s t := by
  induction es generalizing s with
  | nil =>
    obtain ⟨-, rfl⟩ := Act.pure_eq_some.mp h
    exact .refl s
  | cons e es ih =>
    rw [runErrands, Act.bind_eq_some] at h
    obtain ⟨answer, u, he, h⟩ := h
    refine .trans (progress_runErrand (fun hs w hw => ?_) he) (ih (fun hs w hw => ?_) h)
    · exact hspared hs w (hw ▸ List.mem_cons_self)
    · exact hspared hs w (List.mem_cons_of_mem e hw)

end

/-! ### The contract -/

/-- The promises of the broker, at a desk where no errand is being run. -/
structure Honours (handler : DeliveryReport → Reaction ω) (limit : Nat) (limits : MemoryLimits)
    (s : Desk ω) : Prop where
  /-- Every message that was accepted is reported once, in the order of acceptance, as it was. -/
  sent : s.broker.sent.toList = s.owner.heard.map (·.message) ++ s.broker.inFlight.toList
  delivered : s.broker.delivered.toList = succeeded s.owner.heard
  capacity : s.broker.inFlight.size ≤ limits.capacity
  admitted : ∀ m ∈ s.broker.sent.toList, limits.Admits m
  /-- A message that is accepted goes, as it is, to the end of the queue and of the log of what was
      sent, and nothing else changes. -/
  accepted : ∀ (b : MemoryBroker) m b', b.send m = (.ok (), b') → b' =
    { b with sent := b.sent.pushBack m, inFlight := b.inFlight.pushBack m }
  /-- A refused send counts down the full queues that were ordered, if any, and does no more. -/
  refused : ∀ (b : MemoryBroker) m e b', b.send m = (.error e, b') → b' =
    { b with faults := { b.faults with queueFullNext := b.faults.queueFullNext - 1 } }
  /-- The failures that are ordered come next, and after them the rule alone decides. -/
  failing : ∀ n es t,
    runErrands handler limit (.tell (.order (.failNext n)) :: es) s = some ((), t) →
    (∀ w, .tell w ∈ es → w.Spares) → ∃ news, t.owner.heard = s.owner.heard ++ news ∧
      ∀ (i : Nat) (h : Hearing), news[i]? = some h → h.AsTold (i < n)
  /-- A broker that is paused all the time reports nothing. -/
  paused : ∀ e answer t, runErrand handler limit e s = some (answer, t) → e.waits = true →
    s.broker.paused = true → t.broker.paused = true → t.owner.heard = s.owner.heard
  flushed : ∀ timeout t, runErrand handler limit (.flush timeout) s = some (.ok (), t) →
    t.broker.inFlight.toList = []

/-- A broker in memory keeps its promises to every receiver of reports, whatever it is used for and
    whatever it is told, at every return. -/
theorem honours_of_runErrands {limits : MemoryLimits} {b : MemoryBroker}
    (hb : connect limits = .ok b) (handler : DeliveryReport → Reaction ω) (limit : Nat)
    {clock : Clock} {state : ω} {es : List Errand} {s : Desk ω}
    (h : runErrands handler limit es ⟨b, clock, { state := state }⟩ = some ((), s)) :
    Honours handler limit limits s := by
  obtain rfl : ({ limits := limits } : MemoryBroker) = b := by
    unfold connect at hb
    split at hb
    · simp at hb
    · exact Except.ok.inj hb
  obtain ⟨news, accepted, hs⟩ := progress_runErrands (fun h : False => h.elim) h
  have hheard : s.owner.heard = news := hs.heard
  have hsent : s.broker.sent.toList = accepted := hs.sent
  constructor
  case sent =>
    rw [hsent, hheard]
    exact hs.order
  case delivered =>
    rw [hheard]
    exact hs.delivered
  case capacity => exact hs.capacity (Nat.zero_le _)
  case admitted =>
    rw [hsent]
    exact hs.admitted
  case accepted => exact fun _ _ _ => send_accepted
  case refused => exact fun _ _ _ _ => send_refused
  case failing =>
    intro n es t h hspares
    rw [runErrands, Act.bind_eq_some] at h
    obtain ⟨answer, u, htell, h⟩ := h
    obtain ⟨-, rfl⟩ := Act.pure_eq_some.mp htell
    obtain ⟨news, accepted, ht⟩ := progress_runErrands (fun _ : True => hspares) h
    exact ⟨news, ht.heard, ht.asTold trivial⟩
  case paused =>
    intro e answer t h hwaits _ hp
    cases e with
    | poll => exact paused_runTask rfl h hp
    | flush timeout => exact paused_runTask rfl h hp
    | send _ | tell _ | sleep _ => simp [Errand.waits] at hwaits
  case flushed => exact fun timeout t h => empty_of_runTask rfl h

/-- A handler that sends a message again, once, when its delivery failed. -/
def sendBack (r : DeliveryReport) : Reaction Nat :=
  .see fun s =>
    if r.failure.isSome && s.owner.state == 0 then .think (· + 1) (.send r.message fun _ => .done)
    else .done

/-- Two messages are accepted and two are refused. Both fail, and the first is sent again from
    within its report: three messages were sent, two of them were reported, and one is in flight. -/
theorem honours_sendBack :
    ∃ s, runErrands sendBack 20
        [.tell (.order (.failNext 2)), .tell (.order (.reportQueueFull 1)), .send { topic := "a" },
          .send { topic := "a" }, .send { topic := "b" }, .send { topic := "c" }, .poll]
        ⟨{ limits := { capacity := 2 } }, {}, { state := 0 }⟩ = some ((), s) ∧
      s.broker.sent.toList = [{ topic := "a" }, { topic := "b" }, { topic := "a" }] ∧
      s.owner.heard.map (·.message) = [{ topic := "a" }, { topic := "b" }] ∧
      s.broker.inFlight.toList = [{ topic := "a" }] ∧
      s.broker.delivered.toList = [] ∧ s.owner.state = 1 ∧
      Honours sendBack 20 { capacity := 2 } s := by
  have hends : (runErrands sendBack 20
      [.tell (.order (.failNext 2)), .tell (.order (.reportQueueFull 1)), .send { topic := "a" },
        .send { topic := "a" }, .send { topic := "b" }, .send { topic := "c" }, .poll]
      ⟨{ limits := { capacity := 2 } }, {}, { state := 0 }⟩).any
        (fun r => decide (
          r.2.broker.sent.toList = [{ topic := "a" }, { topic := "b" }, { topic := "a" }] ∧
          r.2.owner.heard.map (·.message) = [{ topic := "a" }, { topic := "b" }] ∧
          r.2.broker.inFlight.toList = [{ topic := "a" }] ∧
          r.2.broker.delivered.toList = [] ∧ r.2.owner.state = 1)) = true := by
    decide +kernel
  obtain ⟨⟨⟨⟩, s⟩, hs, hd⟩ := (Option.any_eq_true ..).mp hends
  obtain ⟨hsent, hheard, hflight, hdelivered, hstate⟩ := of_decide_eq_true hd
  exact ⟨s, hs, hsent, hheard, hflight, hdelivered, hstate, honours_of_runErrands rfl sendBack 20 hs⟩

end MemoryBroker

end Outbox
