import Mathlib.Data.Multiset.AddSub
import Outbox.Producer.Operation

/-! What the small actions of a producer do to the world, said as functions of the world. An action
    is carried out step by step with these: each equation says in which world, and with what in
    hand, the actions go on after the small one. The equations are all that the rest of the theory
    knows of the small actions. -/

namespace Outbox

variable {β κ α : Type}

namespace Site

/-- The producer at the site. -/
def producer (s : World β κ α) : Producer κ := s.owner.producer

/-- The journal of the site, newest entry first. -/
def journal (s : World β κ α) : List Entry := s.owner.journal

/-- The world with another producer in the place of the one that is there. -/
def amended (s : World β κ α) (f : Producer κ → Producer κ) : World β κ α :=
  { s with owner := { s.owner with producer := f s.owner.producer } }

/-- The world with other trackers. -/
def retracked (s : World β κ α) (f : TrackerTable → TrackerTable) : World β κ α :=
  s.amended fun p => { p with trackers := f p.trackers }

/-- The world after the counters took note of `k`. -/
def marked (s : World β κ α) (k : Mark) : World β κ α :=
  s.amended fun p => { p with counters := p.counters.mark k }

/-- The entry that is written when `e` happens. -/
def entry (s : World β κ α) (e : Event) : Entry :=
  ⟨s.producer.trackers.scope, s.producer.reading, e⟩

/-- The world after `e` was written down. -/
def noted (s : World β κ α) (e : Event) : World β κ α :=
  { s with owner := { s.owner with journal := s.entry e :: s.owner.journal } }

/-- The world with its broker in another state. -/
def brokered (s : World β κ α) (b : β) : World β κ α := { s with broker := b }

/-- The world with its broker in another state and another time. -/
def turned (s : World β κ α) (b : β) (clock : Clock) : World β κ α :=
  { s with broker := b, clock := clock }

section Views

variable (s : World β κ α) (f : Producer κ → Producer κ) (e : Event) (b : β) (k : Mark)
  (clock : Clock)

@[simp] theorem producer_amended : (s.amended f).producer = f s.producer := rfl
@[simp] theorem journal_amended : (s.amended f).journal = s.journal := rfl
@[simp] theorem broker_amended : (s.amended f).broker = s.broker := rfl
@[simp] theorem producer_noted : (s.noted e).producer = s.producer := rfl
@[simp] theorem journal_noted : (s.noted e).journal = s.entry e :: s.journal := rfl
@[simp] theorem broker_noted : (s.noted e).broker = s.broker := rfl
@[simp] theorem producer_brokered : (s.brokered b).producer = s.producer := rfl
@[simp] theorem journal_brokered : (s.brokered b).journal = s.journal := rfl
@[simp] theorem broker_brokered : (s.brokered b).broker = b := rfl
@[simp] theorem producer_turned : (s.turned b clock).producer = s.producer := rfl
@[simp] theorem journal_turned : (s.turned b clock).journal = s.journal := rfl
@[simp] theorem broker_turned : (s.turned b clock).broker = b := rfl

@[simp] theorem producer_marked :
    (s.marked k).producer = { s.producer with counters := s.producer.counters.mark k } := rfl
@[simp] theorem journal_marked : (s.marked k).journal = s.journal := rfl
@[simp] theorem broker_marked : (s.marked k).broker = s.broker := rfl

@[simp] theorem producer_retracked (g : TrackerTable → TrackerTable) :
    (s.retracked g).producer = { s.producer with trackers := g s.producer.trackers } := rfl
@[simp] theorem journal_retracked (g : TrackerTable → TrackerTable) :
    (s.retracked g).journal = s.journal := rfl
@[simp] theorem broker_retracked (g : TrackerTable → TrackerTable) :
    (s.retracked g).broker = s.broker := rfl

@[simp] theorem event_entry : (s.entry e).event = e := rfl
@[simp] theorem counters_entry : (s.entry e).reading.counters = s.producer.counters := rfl

end Views

end Site

/-! ### The worlds after the parts of a message's way -/

namespace Site

variable (s : World β κ α)

/-- What is in the buffers. -/
def stock : Multiset Message :=
  (s.producer.regular.messages : Multiset Message) + (s.producer.retry.messages : Multiset Message)

/-- The world with other buffers. -/
def rebuffered (regular retry : Buffer) : World β κ α :=
  s.amended fun p => { p with regular := regular, retry := retry }

/-- The world after the broker accepted `m` and came to be `b`. -/
def accepted (b : β) (m : Message) : World β κ α :=
  ((s.marked .offered).brokered b).noted (.offered m (.ok ()))

/-- The world after the broker refused `m` and came to be `b`. -/
def refused (b : β) (m : Message) (e : BrokerError) : World β κ α :=
  (((s.marked .offered).brokered b).noted (.offered m (.error e))).marked .refused

/-- Who may send again with the tracker issued under `id`. -/
def grants (id : TrackingId) : Option Sender :=
  (s.producer.trackers.tracker? id).bind (·.claimRetry.1)

/-- The world after a retry was spent on `m`, whose tracker was issued under `id`. -/
def granted (id : TrackingId) (m : Message) : World β κ α :=
  ((s.retracked (·.update id (·.claimRetry.2))).marked .retried).noted (.retried m)

/-- The world after `m` was dropped. -/
def dropped (m : Message) (cause : BrokerError) : World β κ α :=
  ((s.marked .dropped).retracked (·.release m)).noted (.concluded m (.dropped cause))

/-- The world after `m` was found delivered. -/
def delivered (m : Message) : World β κ α :=
  ((s.marked .produced).retracked (·.release m)).noted (.concluded m .delivered)

/-- The world after a buffered message was discarded. -/
def discarded (m : Message) : World β κ α :=
  (s.retracked (·.release m)).noted (.concluded m .cleared)

/-- The world after the tracker issued under `k`, if there is one, was told the outcome. -/
def completed (k : Option TrackingId) (o : Outcome) : World β κ α :=
  k.elim s fun id => s.retracked (·.update id (·.complete o))

section

variable (k : Option TrackingId) (o : Outcome)

@[simp] theorem broker_completed : (s.completed k o).broker = s.broker := by cases k <;> rfl
@[simp] theorem journal_completed : (s.completed k o).journal = s.journal := by cases k <;> rfl

/-- Only the trackers change when one of them is told an outcome. -/
theorem producer_completed :
    (s.completed k o).producer =
      { s.producer with trackers := (s.completed k o).producer.trackers } := by
  cases k <;> rfl

@[simp] theorem counters_completed :
    (s.completed k o).producer.counters = s.producer.counters := by
  rw [producer_completed]

end

/-- The world after the report of `m` was dealt with. -/
def acknowledged (k : Option TrackingId) (o : Outcome) (m : Message) : World β κ α :=
  ((s.completed k o).noted (.acknowledged m)).marked .acknowledged

/-- What is found on looking into a slot of the tracker issued under `id`. -/
def receipt (id : TrackingId) (slot : Nat) : Receipt :=
  (s.producer.trackers.tracker? id).elim .disconnected fun k => (k.receive slot).1

/-- The world after somebody looked into the slot. -/
def looked (id : TrackingId) (slot : Nat) : World β κ α :=
  s.retracked (·.update id fun k => (k.receive slot).2)

/-- The slot that would be opened next for the tracker issued under `id`. -/
def nextSlot (id : TrackingId) : Nat := (s.producer.trackers.tracker? id).elim 0 (·.arm.1)

/-- The message with a tracker, and the world in which it has it. -/
def attach (m : Message) (sender : Sender) (budget : Nat) :
    TrackingId × Message × World β κ α :=
  let r := s.producer.trackers.attach m sender budget
  (r.1, r.2.1, s.retracked fun table => (table.attach m sender budget).2.2)

/-- A message that comes in, with a tracker if tracking is on, and the world in which it has it. -/
def enroll (m : Message) : Message × World β κ α :=
  let s := s.noted (.submitted m)
  if s.producer.tracking then (s.attach m .async s.producer.settings.retryBudget).2 else (m, s)

/-- The world in which a message that comes in waits in the buffer. -/
def stored (m : Message) : World β κ α :=
  (s.enroll m).2.amended fun p => { p with regular := p.regular.pushBack (s.enroll m).1 }

/-- The world in which the tracker issued under `id` is a waiting caller's or nobody's. -/
def entrusted (id : TrackingId) (sender : Sender) : World β κ α :=
  s.retracked (·.update id (·.setSender sender))

/-- A message that is the caller's from now on, and the world in which it is. It has a tracker even
    if tracking is off, and no retries then. -/
def engage (m : Message) : Message × World β κ α :=
  let r := s.attach m .sync (if s.producer.tracking then s.producer.settings.retryBudget else 0)
  (r.2.1, r.2.2.entrusted r.1 .sync)

/-- The trackers of the world's producer. -/
def trackers : TrackerTable := s.producer.trackers

section Views

variable (f : TrackerTable → TrackerTable) (e : Event) (b : β) (mark : Mark) (clock : Clock)
  (regular retry : Buffer) (m : Message) (cause : BrokerError) (id : TrackingId)
  (k : Option TrackingId) (o : Outcome) (slot : Nat) (sender : Sender) (budget : Nat)

@[simp] theorem stock_retracked : (s.retracked f).stock = s.stock := rfl
@[simp] theorem stock_marked : (s.marked mark).stock = s.stock := rfl
@[simp] theorem stock_noted : (s.noted e).stock = s.stock := rfl
@[simp] theorem stock_turned : (s.turned b clock).stock = s.stock := rfl
@[simp] theorem stock_rebuffered : (s.rebuffered regular retry).stock =
    (regular.messages : Multiset Message) + (retry.messages : Multiset Message) := rfl
@[simp] theorem stock_accepted : (s.accepted b m).stock = s.stock := rfl
@[simp] theorem stock_refused : (s.refused b m cause).stock = s.stock := rfl
@[simp] theorem stock_granted : (s.granted id m).stock = s.stock := rfl
@[simp] theorem stock_dropped : (s.dropped m cause).stock = s.stock := rfl
@[simp] theorem stock_delivered : (s.delivered m).stock = s.stock := rfl
@[simp] theorem stock_discarded : (s.discarded m).stock = s.stock := rfl
@[simp] theorem stock_acknowledged : (s.acknowledged k o m).stock = s.stock := by cases k <;> rfl
@[simp] theorem stock_looked : (s.looked id slot).stock = s.stock := rfl
@[simp] theorem stock_attach : (s.attach m sender budget).2.2.stock = s.stock := rfl
@[simp] theorem stock_entrusted : (s.entrusted id sender).stock = s.stock := rfl

@[simp] theorem journal_rebuffered : (s.rebuffered regular retry).journal = s.journal := rfl
@[simp] theorem journal_accepted : (s.accepted b m).journal =
    ((s.marked .offered).brokered b).entry (.offered m (.ok ())) :: s.journal := rfl
@[simp] theorem journal_refused : (s.refused b m cause).journal =
    ((s.marked .offered).brokered b).entry (.offered m (.error cause)) :: s.journal := rfl
@[simp] theorem journal_granted : (s.granted id m).journal =
    ((s.retracked (·.update id (·.claimRetry.2))).marked .retried).entry (.retried m) ::
      s.journal := rfl
@[simp] theorem journal_dropped : (s.dropped m cause).journal =
    ((s.marked .dropped).retracked (·.release m)).entry (.concluded m (.dropped cause)) ::
      s.journal := rfl
@[simp] theorem journal_delivered : (s.delivered m).journal =
    ((s.marked .produced).retracked (·.release m)).entry (.concluded m .delivered) ::
      s.journal := rfl
@[simp] theorem journal_discarded : (s.discarded m).journal =
    (s.retracked (·.release m)).entry (.concluded m .cleared) :: s.journal := rfl
@[simp] theorem journal_acknowledged : (s.acknowledged k o m).journal =
    (s.completed k o).entry (.acknowledged m) :: s.journal := by cases k <;> rfl
@[simp] theorem journal_looked : (s.looked id slot).journal = s.journal := rfl
@[simp] theorem journal_attach : (s.attach m sender budget).2.2.journal = s.journal := rfl
@[simp] theorem journal_entrusted : (s.entrusted id sender).journal = s.journal := rfl
@[simp] theorem journal_engage : (s.engage m).2.journal = s.journal := rfl

@[simp] theorem broker_rebuffered : (s.rebuffered regular retry).broker = s.broker := rfl
@[simp] theorem broker_accepted : (s.accepted b m).broker = b := rfl
@[simp] theorem broker_refused : (s.refused b m cause).broker = b := rfl
@[simp] theorem broker_granted : (s.granted id m).broker = s.broker := rfl
@[simp] theorem broker_dropped : (s.dropped m cause).broker = s.broker := rfl
@[simp] theorem broker_delivered : (s.delivered m).broker = s.broker := rfl
@[simp] theorem broker_discarded : (s.discarded m).broker = s.broker := rfl
@[simp] theorem broker_acknowledged : (s.acknowledged k o m).broker = s.broker := by
  cases k <;> rfl
@[simp] theorem broker_looked : (s.looked id slot).broker = s.broker := rfl
@[simp] theorem broker_attach : (s.attach m sender budget).2.2.broker = s.broker := rfl
@[simp] theorem broker_entrusted : (s.entrusted id sender).broker = s.broker := rfl
@[simp] theorem broker_engage : (s.engage m).2.broker = s.broker := rfl

@[simp] theorem counters_rebuffered :
    (s.rebuffered regular retry).producer.counters = s.producer.counters := rfl
@[simp] theorem counters_accepted :
    (s.accepted b m).producer.counters = s.producer.counters.mark .offered := rfl
@[simp] theorem counters_refused : (s.refused b m cause).producer.counters =
    (s.producer.counters.mark .offered).mark .refused := rfl
@[simp] theorem counters_granted :
    (s.granted id m).producer.counters = s.producer.counters.mark .retried := rfl
@[simp] theorem counters_dropped :
    (s.dropped m cause).producer.counters = s.producer.counters.mark .dropped := rfl
@[simp] theorem counters_delivered :
    (s.delivered m).producer.counters = s.producer.counters.mark .produced := rfl
@[simp] theorem counters_discarded :
    (s.discarded m).producer.counters = s.producer.counters := rfl
@[simp] theorem counters_acknowledged : (s.acknowledged k o m).producer.counters =
    s.producer.counters.mark .acknowledged := by cases k <;> rfl
@[simp] theorem counters_looked :
    (s.looked id slot).producer.counters = s.producer.counters := rfl
@[simp] theorem counters_attach :
    (s.attach m sender budget).2.2.producer.counters = s.producer.counters := rfl
@[simp] theorem counters_engage :
    (s.engage m).2.producer.counters = s.producer.counters := rfl

@[simp] theorem trackers_retracked : (s.retracked f).trackers = f s.trackers := rfl
@[simp] theorem trackers_marked : (s.marked mark).trackers = s.trackers := rfl
@[simp] theorem trackers_noted : (s.noted e).trackers = s.trackers := rfl
@[simp] theorem trackers_turned : (s.turned b clock).trackers = s.trackers := rfl
@[simp] theorem trackers_rebuffered : (s.rebuffered regular retry).trackers = s.trackers := rfl
@[simp] theorem trackers_accepted : (s.accepted b m).trackers = s.trackers := rfl
@[simp] theorem trackers_refused : (s.refused b m cause).trackers = s.trackers := rfl
@[simp] theorem trackers_granted :
    (s.granted id m).trackers = s.trackers.update id (·.claimRetry.2) := rfl
@[simp] theorem trackers_dropped : (s.dropped m cause).trackers = s.trackers.release m := rfl
@[simp] theorem trackers_delivered : (s.delivered m).trackers = s.trackers.release m := rfl
@[simp] theorem trackers_discarded : (s.discarded m).trackers = s.trackers.release m := rfl
@[simp] theorem trackers_acknowledged : (s.acknowledged k o m).trackers =
    k.elim s.trackers fun id => s.trackers.update id (·.complete o) := by cases k <;> rfl
@[simp] theorem trackers_looked :
    (s.looked id slot).trackers = s.trackers.update id fun k => (k.receive slot).2 := rfl
@[simp] theorem trackers_attach :
    (s.attach m sender budget).2.2.trackers = (s.trackers.attach m sender budget).2.2 := rfl
@[simp] theorem trackers_entrusted :
    (s.entrusted id sender).trackers = s.trackers.update id (·.setSender sender) := rfl

end Views

end Site

/-! ### What comes after the small actions -/

namespace Work

variable {ρ : Type} (s : World β κ α)

theorem producer_bind (next : Producer κ → Work β κ α ρ) :
    (producer >>= next) s = next s.producer s := rfl

theorem modifyProducer_bind (f : Producer κ → Producer κ) (next : Unit → Work β κ α ρ) :
    (modifyProducer f >>= next) s = next () (s.amended f) := rfl

theorem record_bind (e : Event) (next : Unit → Work β κ α ρ) :
    (record e >>= next) s = next () (s.noted e) := rfl

theorem mark_bind (k : Mark) (next : Unit → Work β κ α ρ) :
    (mark k >>= next) s = next () (s.marked k) := rfl

theorem release_bind (m : Message) (next : Unit → Work β κ α ρ) :
    (release m >>= next) s = next () (s.retracked (·.release m)) := rfl

theorem updateTracker_bind (id : TrackingId) (f : Tracker → Tracker)
    (next : Unit → Work β κ α ρ) :
    (updateTracker id f >>= next) s = next () (s.retracked (·.update id f)) := rfl

theorem attach_bind (m : Message) (sender : Sender) (budget : Nat)
    (next : TrackingId × Message → Work β κ α ρ) :
    (attach m sender budget >>= next) s =
      next ((s.attach m sender budget).1, (s.attach m sender budget).2.1)
        (s.attach m sender budget).2.2 := rfl

theorem attachIfTracking_bind (m : Message) (next : Message → Work β κ α ρ) :
    (attachIfTracking m >>= next) s =
      if s.producer.tracking then
        next (s.attach m .async s.producer.settings.retryBudget).2.1
          (s.attach m .async s.producer.settings.retryBudget).2.2
      else next m s := by
  rw [attachIfTracking, bind_assoc, producer_bind]
  split <;> rfl

/-- To write a message down as it comes in and give it a tracker. -/
theorem enroll_bind (m : Message) (next : Message → Work β κ α ρ) :
    (do record (.submitted m); attachIfTracking m >>= next : Work β κ α ρ) s =
      next (s.enroll m).1 (s.enroll m).2 := by
  rw [record_bind, attachIfTracking_bind, Site.enroll]
  split <;> rfl

theorem claimRetry_bind (id : TrackingId) (next : Option Sender → Work β κ α ρ) :
    (claimRetry id >>= next) s =
      next (s.grants id) (s.retracked (·.update id (·.claimRetry.2))) := rfl

theorem arm_bind (id : TrackingId) (next : Nat → Work β κ α ρ) :
    (arm id >>= next) s = next (s.nextSlot id) (s.retracked (·.update id (·.arm.2))) := rfl

theorem look_bind (id : TrackingId) (slot : Nat) (next : Receipt → Work β κ α ρ) :
    (look id slot >>= next) s = next (s.receipt id slot) (s.looked id slot) := rfl

theorem takeRetry_bind (next : Batch → Work β κ α ρ) :
    (takeRetry >>= next) s =
      next s.producer.retry.messages (s.amended fun p => { p with retry := {} }) := rfl

theorem takeRegular_bind (next : Batch → Work β κ α ρ) :
    (takeRegular >>= next) s =
      next s.producer.regular.messages (s.amended fun p => { p with regular := {} }) := rfl

end Work

namespace Site

variable {ρ : Type} (s : World β κ α)

theorem get_bind (next : World β κ α → Work β κ α ρ) : (get >>= next) s = next s s := rfl

theorem set_bind (t : World β κ α) (next : PUnit → Work β κ α ρ) :
    (set t >>= next) s = next ⟨⟩ t := rfl

theorem readClock_bind (next : Nat → Work β κ α ρ) :
    (readClock >>= next) s = next s.clock.read.1 (s.turned s.broker s.clock.read.2) := rfl

theorem send_bind (c : Client β) (m : Message) (next : BrokerAnswer → Work β κ α ρ) :
    (send c m >>= next) s = next (c.send m s.broker).1 (s.brokered (c.send m s.broker).2) := rfl

section

variable {s} {c : Client β} {receive : DeliveryReport → Work β κ α Unit} {task next : c.Task} {b : β}
  {clock : Clock}

theorem taskStep_of_report {r : DeliveryReport}
    (h : c.step task s.broker s.clock = (.report r next, b, clock)) :
    taskStep c receive task s =
      (do receive r; return .inl next : Work β κ α (c.Task ⊕ BrokerAnswer)) (s.turned b clock) := by
  simp only [taskStep, get_bind, h, set_bind]
  rfl

theorem taskStep_of_more (h : c.step task s.broker s.clock = (.more next, b, clock)) :
    taskStep c receive task s = some (.inl next, s.turned b clock) := by
  simp only [taskStep, get_bind, h, set_bind]
  rfl

theorem taskStep_of_finished {answer : BrokerAnswer}
    (h : c.step task s.broker s.clock = (.finished answer, b, clock)) :
    taskStep c receive task s = some (.inr answer, s.turned b clock) := by
  simp only [taskStep, get_bind, h, set_bind]
  rfl

end

end Site

/-! ### How the small actions end -/

namespace Work

variable {s t : World β κ α} {u : Unit}

theorem modifyProducer_eq_some {f : Producer κ → Producer κ} :
    modifyProducer f s = some (u, t) ↔ t = s.amended f := by
  simp [modifyProducer, modify, modifyGet, MonadStateOf.modifyGet, StateT.modifyGet, pure,
    Site.amended, eq_comm]

theorem mark_eq_some {k : Mark} : mark k s = some (u, t) ↔ t = s.marked k :=
  modifyProducer_eq_some

/-- A buffer limit is set, or it is none and nothing changes. -/
theorem setBufferLimit_eq_some {n : Int} {r : Except ProducerError Unit}
    (h : setBufferLimit n s = some (r, t)) :
    r = Settings.checkBufferLimit n ∧
      t = if n < -1 then s else s.amended (·.setBufferLimit n) := by
  by_cases hn : n < -1
  · simp only [setBufferLimit, Settings.checkBufferLimit, if_pos hn, Act.pure_eq_some] at h ⊢
    exact ⟨h.1.symm, h.2.symm⟩
  · simp only [setBufferLimit, Settings.checkBufferLimit, if_neg hn, modifyProducer_bind,
      Act.pure_eq_some] at h ⊢
    exact ⟨h.1.symm, h.2.symm⟩

/-- What is done with a result that is only passed on. -/
theorem of_reply {ρ ρ' : Type} {work : Work β κ α ρ} {f : ρ → ρ'} {r : ρ'}
    (h : (do return f (← work) : Work β κ α ρ') s = some (r, t)) :
    ∃ a, work s = some (a, t) ∧ f a = r := by
  simp only [Act.bind_eq_some, Act.pure_eq_some] at h
  obtain ⟨a, u, ha, hr, rfl⟩ := h
  exact ⟨a, ha, hr⟩

end Work

/-! ### Buffering a message -/

namespace Surroundings

/-- A message is buffered, and the buffer flushed if it is full then. -/
theorem add_eq (env : Surroundings β κ α) (m : Message) (s : World β κ α) :
    env.add m s =
      if (s.stored m).producer.overfull then
        match (s.stored m).producer.settings.flushMode with
        | .sync => env.flush false (s.stored m)
        | .async => env.flushAsync (s.stored m)
      else some (.ok (), s.stored m) := by
  rw [add, Work.enroll_bind, Work.modifyProducer_bind, Work.producer_bind]
  change (if (s.stored m).producer.overfull then
      match (s.stored m).producer.settings.flushMode with
      | .sync => env.flush false
      | .async => env.flushAsync
    else pure (.ok ()) : Work β κ α _) (s.stored m) = _
  split
  · cases (s.stored m).producer.settings.flushMode <;> rfl
  · rfl

end Surroundings

/-! ### One offer -/

namespace Surroundings

variable (env : Surroundings β κ α) {s : World β κ α} {m : Message} {b : β} {e : BrokerError}
  (notice : FullQueueNotice) (notify : Bool)

/-- After a full queue the producer polls, and may tell its hook. -/
def makeRoom (m : Message) : Work β κ α (Bool ⊕ BrokerAnswer) := do
  env.poll
  if notify then
    let _ ← env.fire .queueFull m none
    return .inl (notice == .eachTime)
  else return .inl false

theorem offerOnce_of_accepted (h : env.client.send m s.broker = (.ok (), b)) :
    env.offerOnce m notice notify s =
      (pure (.inr (.ok ())) : Work β κ α (Bool ⊕ BrokerAnswer)) (s.accepted b m) := by
  have hsend : env.client.send m (s.marked .offered).broker = (.ok (), b) := h
  simp only [offerOnce, sendBroker, bind_assoc, pure_bind, Work.mark_bind, Site.send_bind, hsend,
    Work.record_bind]
  rfl

theorem offerOnce_of_refused (h : env.client.send m s.broker = (.error e, b))
    (he : e.isQueueFull = false) : env.offerOnce m notice notify s =
      (pure (.inr (.error e)) : Work β κ α (Bool ⊕ BrokerAnswer)) (s.refused b m e) := by
  have hsend : env.client.send m (s.marked .offered).broker = (.error e, b) := h
  simp only [offerOnce, sendBroker, bind_assoc, pure_bind, Work.mark_bind, Site.send_bind, hsend,
    Work.record_bind, he]
  rfl

theorem offerOnce_of_full (h : env.client.send m s.broker = (.error e, b))
    (he : e.isQueueFull = true) : env.offerOnce m notice notify s =
      env.makeRoom notice notify m ((s.refused b m e).marked .queueFull) := by
  have hsend : env.client.send m (s.marked .offered).broker = (.error e, b) := h
  simp only [offerOnce, sendBroker, bind_assoc, pure_bind, Work.mark_bind, Site.send_bind, hsend,
    Work.record_bind, he]
  rfl

end Surroundings

end Outbox
