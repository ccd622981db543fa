import Outbox.Proofs.Application

/-! What is true of every action of a producer because it is true of the small actions it is put
    together from. Such a judgement is kept when actions follow each other, also when the second
    goes by what the producer looks like then; of the producer's buffer limit this is asked only
    where a message is buffered, and there alone.

    There are layers of small actions: those that decide the fate of a message, those of a producer
    that waits for its broker, of one that sends without waiting, and of a caller that waits for one
    message. A judgement need not go deeper than it wants to tell apart. Main statements: what holds
    of the small actions of a layer holds of all that is made of them. -/

namespace Outbox

/-- The event is the producer turning to its broker, or the broker being done. -/
def Event.isTurn : Event → Bool
  | polled | flushBegan _ | flushEnded _ => true
  | _ => false

/-- The event is written down by the producer itself, not as a hook is called or returns. -/
def Event.isOwn : Event → Bool
  | hookCalled .. | hookReturned _ => false
  | _ => true

/-- The event tells what is to become of a message that failed or was delivered. -/
def Event.isVerdict : Event → Bool
  | retried _ | concluded .. => true
  | _ => false

/-- The counters take note of what is to become of a message. -/
def Mark.isVerdict : Mark → Bool
  | produced | dropped | retried => true
  | _ => false

/-- The counters take note of the beginning or the end of a flush. -/
def Mark.isFlush : Mark → Bool
  | flushBegan | flushEnded => true
  | _ => false

theorem Event.isOwn_of_isTurn {e : Event} (h : e.isTurn = true) : e.isOwn = true := by
  cases e <;> simp_all [isTurn, isOwn]

theorem Event.isOwn_of_isVerdict {e : Event} (h : e.isVerdict = true) : e.isOwn = true := by
  cases e <;> simp_all [isVerdict, isOwn]

theorem Mark.isFlush_of_isVerdict {k : Mark} (h : k.isVerdict = true) : k.isFlush = false := by
  cases k <;> simp_all [isVerdict, isFlush]

variable {β κ α : Type}

/-- The judgement is kept when actions are put together. -/
structure Composes (J : (ρ : Type) → Work β κ α ρ → Prop) : Prop where
  pure : ∀ {ρ} (a : ρ), J ρ (pure a)
  stuck : ∀ {ρ}, J ρ Act.stuck
  bind : ∀ {ρ ρ'} {x : Work β κ α ρ} {f : ρ → Work β κ α ρ'}, J ρ x → (∀ a, J ρ' (f a)) →
    J ρ' (x >>= f)
  /-- What comes next goes by the producer, but not by its buffer limit. -/
  consult : ∀ {ρ} {f : Producer κ → Work β κ α ρ}, (∀ p n, f (p.setBufferLimit n) = f p) →
    (∀ p, J ρ (f p)) → J ρ (Work.producer >>= f)

namespace Composes

variable {J : (ρ : Type) → Work β κ α ρ → Prop} {ρ ρ' : Type}

theorem loop (hJ : Composes J) {body : ρ → Work β κ α (ρ ⊕ ρ')} (h : ∀ r, J _ (body r)) (n : Nat)
    (r : ρ) : J _ (Act.loop body n r) := by
  induction n generalizing r with
  | zero => exact hJ.stuck
  | succ n ih =>
    refine hJ.bind (h r) fun o => ?_
    cases o with
    | inl r' => exact ih r'
    | inr a => exact hJ.pure a

theorem forM (hJ : Composes J) {f : ρ → Work β κ α PUnit} (h : ∀ a, J _ (f a)) (l : List ρ) :
    J _ (l.forM f) := by
  induction l with
  | nil => exact hJ.pure _
  | cons a l ih => exact hJ.bind (h a) fun _ => ih

end Composes

namespace Surroundings

variable {env : Surroundings β κ α} {J : (ρ : Type) → Work β κ α ρ → Prop}

/-! ### The fate of a message -/

/-- The judgement holds of the small actions that decide what becomes of a message, and of the calls
    of the hooks that have a say in it or are told. -/
structure Decides (env : Surroundings β κ α) (J : (ρ : Type) → Work β κ α ρ → Prop) : Prop extends
    Composes J where
  conclude : ∀ {e}, Event.isVerdict e = true → J _ (Work.record e)
  count : ∀ {k}, Mark.isVerdict k = true → J _ (Work.mark k)
  release : ∀ m, J _ (Work.release m)
  claimRetry : ∀ id, J _ (Work.claimRetry id)
  requeue : ∀ f : Buffer → Buffer, J _ (Work.modifyProducer fun p => { p with retry := f p.retry })
  fire : ∀ {kind}, kind ≠ .queueFull → ∀ m e, J _ (env.fire kind m e)

namespace Decides

theorem drop (hJ : env.Decides J) (m : Message) (cause : BrokerError) : J _ (drop m cause) :=
  hJ.bind (hJ.count rfl) fun _ => hJ.bind (hJ.release m) fun _ => hJ.conclude rfl

theorem grantRetry (hJ : env.Decides J) {asked : HookKind} (hasked : asked ≠ .queueFull)
    (m : Message) (cause : BrokerError) {tracker : Work β κ α (Option TrackingId)}
    (ht : J _ tracker) : J _ (env.grantRetry asked m cause tracker) := by
  refine hJ.bind (hJ.fire hasked ..) fun v => ?_
  dsimp only
  split
  · refine hJ.bind ht fun k => ?_
    cases k with
    | none => exact hJ.pure _
    | some id =>
      refine hJ.bind (hJ.claimRetry id) fun sender => ?_
      cases sender with
      | none => exact hJ.pure _
      | some sender =>
        exact hJ.bind (hJ.count rfl) fun _ => hJ.bind (hJ.conclude rfl) fun _ => hJ.pure _
  · exact hJ.pure _

theorem outcome (hJ : env.Decides J) (tracker : Option TrackingId) (r : DeliveryReport) :
    J _ (env.outcome tracker r) := by
  rw [Surroundings.outcome]
  cases r.failure with
  | none =>
    refine hJ.bind (hJ.fire (by decide) ..) fun _ => hJ.bind (hJ.count rfl) fun _ => ?_
    exact hJ.bind (hJ.release _) fun _ => hJ.bind (hJ.conclude rfl) fun _ => hJ.pure _
  | some cause =>
    refine hJ.bind (hJ.grantRetry (by decide) _ _ (hJ.pure tracker)) fun sender => ?_
    rcases sender with _ | _ | _
    · exact hJ.bind (hJ.drop ..) fun _ => hJ.bind (hJ.fire (by decide) ..) fun _ => hJ.pure _
    · exact hJ.pure _
    · exact hJ.bind (hJ.requeue (·.pushFront r.message)) fun _ => hJ.pure _

theorem receiveRefusal (hJ : env.Decides J) (m : Message) (cause : BrokerError) (requeue : Bool) :
    J _ (env.receiveRefusal m cause requeue) := by
  have hfind : J _ (do return (← Work.producer).trackers.find? m) :=
    hJ.consult (fun _ _ => rfl) fun _ => hJ.pure _
  refine hJ.bind (hJ.grantRetry (by decide) _ _ hfind) fun sender => ?_
  cases sender with
  | none => exact hJ.bind (hJ.drop ..) fun _ => hJ.bind (hJ.fire (by decide) ..) fun _ => hJ.pure _
  | some _ =>
    cases requeue with
    | false => exact hJ.pure _
    | true => exact hJ.bind (hJ.requeue (·.pushBack m)) fun _ => hJ.pure _

end Decides

/-- The judgement holds of all that is done about a delivery report. -/
structure Acknowledges (env : Surroundings β κ α) (J : (ρ : Type) → Work β κ α ρ → Prop) :
    Prop extends env.Decides J where
  complete : ∀ id o, J _ (Work.updateTracker id (·.complete o))
  acknowledge : ∀ m, J _ (Work.record (.acknowledged m))
  settle : J _ (Work.mark .acknowledged)

theorem Acknowledges.receive (hJ : env.Acknowledges J) (r : DeliveryReport) :
    J _ (env.receive r) := by
  refine hJ.consult (fun _ _ => rfl) fun p => hJ.bind (hJ.outcome _ r) fun o => ?_
  have hlast : J _ (do Work.record (.acknowledged r.message); Work.mark .acknowledged) :=
    hJ.bind (hJ.acknowledge r.message) fun _ => hJ.settle
  cases p.trackers.find? r.message with
  | none => exact hlast
  | some id => exact hJ.bind (hJ.complete id o) fun _ => hlast

/-! ### Waiting for the broker -/

/-- What the producer makes of the answer to a flush while it waits for some time. -/
def heed (start : Nat) (timeout : Span) :
    BrokerAnswer → Work β κ α (Span ⊕ Except ProducerError Bool)
  | .ok () => do
    let now ← Site.readClock
    let left := timeout.minus ⟨now - start⟩
    let quiet := (← Work.producer).counters.pending == 0
    if quiet || left.isZero then return .inr (.ok quiet) else return .inl left
  | .error e => do
    if e.isTimeout then return .inr (.ok ((← Work.producer).counters.pending == 0))
    else return .inr (.error (.broker e))

theorem ackRoundFor_eq (env : Surroundings β κ α) (start : Nat) (timeout left : Span) :
    env.ackRoundFor start timeout left = env.flushBroker left >>= heed start timeout := rfl

/-- The judgement holds of all that a producer does while it waits for its broker. -/
structure Waits (env : Surroundings β κ α) (J : (ρ : Type) → Work β κ α ρ → Prop) : Prop extends
    Composes J where
  readClock : J _ Site.readClock
  turn : ∀ {e}, Event.isTurn e = true → J _ (Work.record e)
  taskStep : ∀ task, J _ (Site.taskStep env.client env.receive task)

namespace Waits

theorem runTask (hJ : env.Waits J) (task : env.client.Task) :
    J _ (Site.runTask env.client env.receive env.limit task) :=
  hJ.loop hJ.taskStep ..

theorem poll (hJ : env.Waits J) : J _ env.poll :=
  hJ.bind (hJ.turn rfl) fun _ => hJ.bind (hJ.runTask _) fun _ => hJ.pure _

theorem flushBroker (hJ : env.Waits J) (timeout : Span) : J _ (env.flushBroker timeout) := by
  refine hJ.bind (hJ.turn rfl) fun _ => hJ.bind (hJ.runTask _) fun answer => ?_
  exact hJ.bind (hJ.turn rfl) fun _ => hJ.pure answer

theorem ackRound (hJ : env.Waits J) (interval : Span) : J _ (env.ackRound interval) := by
  refine hJ.consult (fun _ _ => rfl) fun p => ?_
  split
  · exact hJ.pure _
  refine hJ.bind (hJ.flushBroker interval) fun answer => ?_
  cases answer with
  | ok _ => exact hJ.pure _
  | error e =>
    dsimp only
    split <;> exact hJ.pure _

theorem awaitAcks (hJ : env.Waits J) : J _ env.awaitAcks :=
  hJ.consult (fun _ _ => rfl) fun _ => hJ.loop (fun _ => hJ.ackRound _) ..

theorem heed (hJ : env.Waits J) (start : Nat) (timeout : Span) (answer : BrokerAnswer) :
    J _ (heed start timeout answer) := by
  cases answer with
  | ok _ =>
    refine hJ.bind hJ.readClock fun now => hJ.consult (fun _ _ => rfl) fun p => ?_
    dsimp only
    split <;> exact hJ.pure _
  | error e =>
    rw [Surroundings.heed]
    split
    · exact hJ.consult (fun _ _ => rfl) fun _ => hJ.pure _
    · exact hJ.pure _

theorem ackRoundFor (hJ : env.Waits J) (start : Nat) (timeout left : Span) :
    J _ (env.ackRoundFor start timeout left) := by
  rw [ackRoundFor_eq]
  exact hJ.bind (hJ.flushBroker left) (hJ.heed start timeout)

theorem awaitAcksFor (hJ : env.Waits J) (timeout : Span) : J _ (env.awaitAcksFor timeout) :=
  hJ.bind hJ.readClock fun _ => hJ.loop (fun _ => hJ.ackRoundFor ..) ..

theorem timeIsUp (hJ : env.Waits J) (start : Nat) (timeout : Option Span) :
    J _ (timeIsUp start timeout) := by
  cases timeout with
  | none => exact hJ.pure _
  | some timeout => exact hJ.bind hJ.readClock fun _ => hJ.pure _

end Waits

/-! ### Sending -/

/-- The judgement holds of all that a producer does while it sends messages and nobody waits for
    their outcomes. -/
structure Sends (env : Surroundings β κ α) (J : (ρ : Type) → Work β κ α ρ → Prop) : Prop extends
    env.Waits J where
  mark : ∀ {k}, Mark.isFlush k = false → J _ (Work.mark k)
  sendBroker : ∀ m, J _ (env.sendBroker m)
  notify : ∀ m, J _ (env.fire .queueFull m none)
  receiveRefusal : ∀ m e requeue, J _ (env.receiveRefusal m e requeue)

namespace Sends

theorem offerOnce (hJ : env.Sends J) (m : Message) (notice : FullQueueNotice) (notify : Bool) :
    J _ (env.offerOnce m notice notify) := by
  refine hJ.bind (hJ.mark rfl) fun _ => hJ.bind (hJ.sendBroker m) fun answer => ?_
  cases answer with
  | ok _ => exact hJ.pure _
  | error e =>
    refine hJ.bind (hJ.mark rfl) fun _ => ?_
    split
    · refine hJ.bind (hJ.mark rfl) fun _ => hJ.bind hJ.poll fun _ => ?_
      cases notify with
      | false => exact hJ.pure _
      | true => exact hJ.bind (hJ.notify m) fun _ => hJ.pure _
    · exact hJ.pure _

theorem offer (hJ : env.Sends J) (m : Message) : J _ (env.offer m) :=
  hJ.consult (fun _ _ => rfl) fun _ => hJ.loop (fun _ => hJ.offerOnce ..) ..

theorem sendAsync (hJ : env.Sends J) (m : Message) : J _ (env.sendAsync m) := by
  refine hJ.bind (hJ.offer m) fun answer => ?_
  cases answer with
  | ok _ => exact hJ.pure _
  | error e =>
    refine hJ.bind (hJ.receiveRefusal m e true) fun again => ?_
    cases again <;> exact hJ.pure _

theorem produce (hJ : env.Sends J) (m : Message) (hsubmit : J _ (Work.record (.submitted m)))
    (hattach : J _ (Work.attachIfTracking m)) : J _ (env.produce m) := by
  refine hJ.bind hsubmit fun _ => hJ.bind hattach fun m => hJ.bind (hJ.sendAsync m) fun e => ?_
  cases e <;> exact hJ.pure _

theorem sendBatch (hJ : env.Sends J) (batch : Batch) : J _ (env.sendBatch batch) := by
  rw [Surroundings.sendBatch]
  exact hJ.forM (fun m => hJ.bind (hJ.sendAsync m) fun _ => hJ.pure _) batch

end Sends

/-! ### Waiting for one message -/

/-- The judgement holds of all that a producer does while a caller waits for its message as well. -/
structure Attends (env : Surroundings β κ α) (J : (ρ : Type) → Work β κ α ρ → Prop) : Prop extends
    env.Sends J where
  attach : ∀ m sender budget, J _ (Work.attach m sender budget)
  updateTracker : ∀ id f, J _ (Work.updateTracker id f)
  arm : ∀ id, J _ (Work.arm id)
  look : ∀ id slot, J _ (Work.look id slot)

namespace Attends

theorem attempt (hJ : env.Attends J) (id : TrackingId) (m : Message) :
    J _ (env.attempt id m) := by
  refine hJ.bind (hJ.arm id) fun slot => hJ.bind (hJ.offer m) fun answer => ?_
  cases answer with
  | error e =>
    refine hJ.bind (hJ.receiveRefusal m e false) fun again => ?_
    cases again <;> exact hJ.pure _
  | ok _ =>
    refine hJ.bind hJ.awaitAcks fun r => ?_
    cases r with
    | error e => exact hJ.bind (hJ.updateTracker ..) fun _ => hJ.pure _
    | ok _ =>
      refine hJ.bind (hJ.look id slot) fun receipt => ?_
      rcases receipt with (_ | _ | _) | _ | _ <;> exact hJ.pure _

theorem sendSync (hJ : env.Attends J) (m : Message) : J _ (env.sendSync m) := by
  refine hJ.consult (fun _ _ => rfl) fun p => hJ.bind (hJ.attach ..) fun k => ?_
  exact hJ.bind (hJ.updateTracker ..) fun _ => hJ.loop (fun _ => hJ.attempt ..) ..

theorem sendInOrder (hJ : env.Attends J) (start : Nat) (timeout : Option Span) (k : Nat)
    (batch : Batch) : J _ (env.sendInOrder start timeout k batch) := by
  induction batch generalizing k with
  | nil => exact hJ.pure _
  | cons m rest ih =>
    have hnext (up : Bool) : J _ (if up then return (k + 1, .ok ())
        else env.sendInOrder start timeout (k + 1) rest) := by
      cases up with
      | true => exact hJ.pure _
      | false => exact ih (k + 1)
    refine hJ.bind (hJ.sendSync m) fun result => ?_
    rcases result with e | _
    · cases e with
      | refused _ | undelivered _ => exact hJ.bind (hJ.timeIsUp start timeout) hnext
      | _ => exact hJ.pure _
    · exact hJ.bind (hJ.timeIsUp start timeout) hnext

end Attends

/-! ### All of them -/

/-- The judgement holds of every small action of a producer within its operations, but for the
    counting of flushes, and of the calls of its hooks. -/
structure Bears (env : Surroundings β κ α) (J : (ρ : Type) → Work β κ α ρ → Prop) : Prop extends
    env.Acknowledges J where
  readClock : J _ Site.readClock
  send : ∀ m, J _ (Site.send env.client m)
  notify : ∀ m, J _ (env.fire .queueFull m none)
  /-- A step of a task may hand out a report. -/
  taskStep : (∀ r, J _ (env.receive r)) → ∀ task, J _ (Site.taskStep env.client env.receive task)
  record : ∀ {e}, Event.isOwn e = true → J _ (Work.record e)
  mark : ∀ {k}, Mark.isFlush k = false → J _ (Work.mark k)
  attach : ∀ m sender budget, J _ (Work.attach m sender budget)
  updateTracker : ∀ id f, J _ (Work.updateTracker id f)
  arm : ∀ id, J _ (Work.arm id)
  look : ∀ id slot, J _ (Work.look id slot)

namespace Bears

theorem attends (hJ : env.Bears J) : env.Attends J where
  toComposes := hJ.toComposes
  readClock := hJ.readClock
  turn he := hJ.record (Event.isOwn_of_isTurn he)
  taskStep := hJ.taskStep hJ.receive
  mark := hJ.mark
  sendBroker m := hJ.bind (hJ.send m) fun _ => hJ.bind (hJ.record rfl) fun _ => hJ.pure _
  notify := hJ.notify
  receiveRefusal := hJ.receiveRefusal
  attach := hJ.attach
  updateTracker := hJ.updateTracker
  arm := hJ.arm
  look := hJ.look

theorem attachIfTracking (hJ : env.Bears J) (m : Message) : J _ (Work.attachIfTracking m) := by
  refine hJ.consult (fun _ _ => rfl) fun p => ?_
  cases p.tracking with
  | false => exact hJ.pure _
  | true => exact hJ.bind (hJ.attach ..) fun _ => hJ.pure _

theorem produce (hJ : env.Bears J) (m : Message) : J _ (env.produce m) :=
  hJ.attends.produce m (hJ.record rfl) (hJ.attachIfTracking m)

theorem produceSync (hJ : env.Bears J) (m : Message) : J _ (env.produceSync m) :=
  hJ.bind (hJ.record rfl) fun _ => hJ.attends.sendSync m

/-- The judgement holds of the clearing of the buffers, if it does of the taking. -/
theorem clear (hJ : env.Bears J) (hretry : J _ Work.takeRetry) (hregular : J _ Work.takeRegular) :
    J _ Work.clear := by
  refine hJ.bind hretry fun _ => hJ.bind hregular fun _ => hJ.forM (fun m => ?_) _
  exact hJ.bind (hJ.release m) fun _ => hJ.record rfl

end Bears

/-! ### Flushing -/

/-- What is done while a flush is counted as in progress that keeps no order. -/
def push (env : Surroundings β κ α) : Work β κ α (Except ProducerError Unit) := do
  env.sendBatch (← Work.takeRetry)
  env.sendBatch (← Work.takeRegular)
  return (← env.awaitAcksFor .zero).map fun _ => ()

theorem flushAsync_eq (env : Surroundings β κ α) : env.flushAsync = whileFlushing env.push := rfl

/-- What is sent, and what is done after that unless it fails. -/
def flushAnd (env : Surroundings β κ α) {ρ : Type} (wait : Work β κ α (Except ProducerError ρ)) :
    Work β κ α (Except ProducerError ρ) := do
  match ← env.flushAsync with
  | .error e => return .error e
  | .ok () => wait

theorem flush_false (env : Surroundings β κ α) : env.flush false = env.flushAnd env.awaitAcks := rfl

theorem flushFor_false (env : Surroundings β κ α) (timeout : Span) :
    env.flushFor timeout false = env.flushAnd (env.awaitAcksFor timeout) := rfl

theorem Sends.push (hJ : env.Sends J) (hretry : J _ Work.takeRetry)
    (hregular : J _ Work.takeRegular) : J _ env.push := by
  refine hJ.bind hretry fun _ => hJ.bind (hJ.sendBatch _) fun _ => ?_
  refine hJ.bind hregular fun _ => hJ.bind (hJ.sendBatch _) fun _ => ?_
  exact hJ.bind (hJ.awaitAcksFor .zero) fun _ => hJ.pure _

theorem flushAnd_of (hJ : Composes J) (h : J _ env.flushAsync) {ρ : Type}
    {wait : Work β κ α (Except ProducerError ρ)} (hwait : J _ wait) : J _ (env.flushAnd wait) := by
  refine hJ.bind h fun r => ?_
  cases r with
  | error e => exact hJ.pure _
  | ok _ => exact hwait

end Surroundings

end Outbox
