import Outbox.Producer.Fate

/-! Sending single messages and waiting for the broker. A full queue is no failure: the producer
    polls the broker, which may report what is in the queue, and offers the message again. The
    queue-full hook is told about it as often as the setting says that was in force when the first
    offer was made. -/

namespace Outbox

namespace Surroundings

variable {β κ α : Type} (env : Surroundings β κ α)

/-- Poll the broker. -/
def poll : Work β κ α Unit := do
  Work.record .polled
  let _ ← Site.runTask env.client env.receive env.limit env.client.poll

/-- Flush the broker. -/
def flushBroker (timeout : Span) : Work β κ α BrokerAnswer := do
  Work.record (.flushBegan timeout)
  let answer ← Site.runTask env.client env.receive env.limit (env.client.flush timeout)
  Work.record (.flushEnded answer)
  return answer

/-- Send a message straight to the broker. -/
def sendBroker (m : Message) : Work β κ α BrokerAnswer := do
  let answer ← Site.send env.client m
  Work.record (.offered m answer)
  return answer

/-- Offer the message once. The answer ends the offering, unless the queue was full. -/
def offerOnce (m : Message) (notice : FullQueueNotice) (notify : Bool) :
    Work β κ α (Bool ⊕ BrokerAnswer) := do
  Work.mark .offered
  match ← env.sendBroker m with
  | .ok () => return .inr (.ok ())
  | .error e =>
    Work.mark .refused
    if e.isQueueFull then
      Work.mark .queueFull
      env.poll
      if notify then
        let _ ← env.fire .queueFull m none
        return .inl (notice == .eachTime)
      else return .inl false
    else return .inr (.error e)

/-- Offer the message until the broker takes it or refuses it for another reason than its queue. -/
def offer (m : Message) : Work β κ α BrokerAnswer := do
  let notice := (← Work.producer).settings.fullQueueNotice
  Act.loop (env.offerOnce m notice) env.limit (notice != .never)

/-- Send without waiting for the outcome. What comes back is a refusal for which no retry was
    granted. -/
def sendAsync (m : Message) : Work β κ α (Option BrokerError) := do
  match ← env.offer m with
  | .ok () => return none
  | .error e => if ← env.receiveRefusal m e true then return none else return some e

/-- One round of waiting without a limit. A flush that times out is followed by another. -/
def ackRound (interval : Span) : Work β κ α (Unit ⊕ Except ProducerError Unit) := do
  if (← Work.producer).counters.pending = 0 then return .inr (.ok ())
  match ← env.flushBroker interval with
  | .ok () => return .inl ()
  | .error e => if e.isTimeout then return .inl () else return .inr (.error (.broker e))

/-- Wait until nothing is pending. -/
def awaitAcks : Work β κ α (Except ProducerError Unit) := do
  let interval := (← Work.producer).settings.pollInterval
  Act.loop (fun _ => env.ackRound interval) env.limit ()

/-- One round of waiting for at most `timeout` from the moment `start` on, of which `left` is left.
    A flush that times out ends the waiting, whatever the clock says. -/
def ackRoundFor (start : Nat) (timeout left : Span) :
    Work β κ α (Span ⊕ Except ProducerError Bool) := do
  match ← env.flushBroker left with
  | .ok () =>
    let now ← Site.readClock
    let left := timeout.minus ⟨now - start⟩
    let quiet := (← Work.producer).counters.pending == 0
    if quiet || left.isZero then return .inr (.ok quiet) else return .inl left
  | .error e =>
    if e.isTimeout then return .inr (.ok ((← Work.producer).counters.pending == 0))
    else return .inr (.error (.broker e))

/-- Wait for at most `timeout`, and say whether nothing is pending then. The broker is flushed at
    least once, whatever the timeout. -/
def awaitAcksFor (timeout : Span) : Work β κ α (Except ProducerError Bool) := do
  let start ← Site.readClock
  Act.loop (env.ackRoundFor start timeout) env.limit timeout

/-- One attempt of a caller that waits. It ends the sending unless a retry was granted. If waiting
    fails, the message is left to a later flush, should it fail after all. -/
def attempt (id : TrackingId) (m : Message) : Work β κ α (Unit ⊕ Except ProducerError Unit) := do
  let slot ← Work.arm id
  match ← env.offer m with
  | .error e =>
    if ← env.receiveRefusal m e false then return .inl ()
    else return .inr (.error (.refused e))
  | .ok () =>
    match ← env.awaitAcks with
    | .error e =>
      Work.updateTracker id (·.setSender .async)
      return .inr (.error e)
    | .ok () =>
      match ← Work.look id slot with
      | .outcome .retry => return .inl ()
      | .outcome .delivered => return .inr (.ok ())
      | .outcome (.dropped e) => return .inr (.error (.undelivered e))
      | .empty | .disconnected => return .inr (.error .outcomeLost)

/-- Send and wait for the outcome. A message that is not tracked gets a tracker without retries for
    the time of waiting; one that was buffered before is the waiting caller's from now on. -/
def sendSync (m : Message) : Work β κ α (Except ProducerError Unit) := do
  let p ← Work.producer
  let (id, m) ← Work.attach m .sync (if p.tracking then p.settings.retryBudget else 0)
  Work.updateTracker id (·.setSender .sync)
  Act.loop (fun _ => env.attempt id m) env.limit ()

end Surroundings

end Outbox
