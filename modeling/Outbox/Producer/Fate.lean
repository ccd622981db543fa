import Outbox.Producer.State

/-! What becomes of a message. The broker says so twice: it refuses the message when it is offered,
    or it accepts it and reports later. Either way a failure is put to the hook that is asked about
    it, then to the budget of the message's tracker; if neither stands in the way a retry is spent
    and the message is sent again, and otherwise it is dropped and its tracker released. Without
    that hook the budget alone decides.

    After a failed delivery the message goes to the front of the retry buffer, or is left to the
    caller that waits for it. After a refusal during a flush it goes to the back, behind messages
    that were offered before it. -/

namespace Outbox

namespace Surroundings

variable {β κ α : Type} (env : Surroundings β κ α)

/-- Call a hook, if it is registered, for its answer. -/
def fire (kind : HookKind) (m : Message) (error : Option BrokerError) :
    Work β κ α (Option Bool) := do
  match (← Work.producer).hooks.find? kind with
  | none => return none
  | some hook =>
    Work.record (.hookCalled kind m error)
    let verdict ← env.call hook kind m error
    Work.record (.hookReturned verdict)
    return some verdict

/-- The message is done with. -/
def drop (m : Message) (cause : BrokerError) : Work β κ α Unit := do
  Work.mark .dropped
  Work.release m
  Work.record (.concluded m (.dropped cause))

/-- May the failed message be sent again, and by whom? A retry is spent if so. -/
def grantRetry (asked : HookKind) (m : Message) (cause : BrokerError)
    (tracker : Work β κ α (Option TrackingId)) : Work β κ α (Option Sender) := do
  let allowed := (← env.fire asked m (some cause)).getD true
  if allowed then
    match ← tracker with
    | none => return none
    | some id =>
      match ← Work.claimRetry id with
      | none => return none
      | some sender =>
        Work.mark .retried
        Work.record (.retried m)
        return some sender
  else return none

/-- The outcome of one delivery report. The tracker is the one the message had when the report
    came in, whatever the hooks do to it. -/
def outcome (tracker : Option TrackingId) (r : DeliveryReport) : Work β κ α Outcome := do
  let m := r.message
  match r.failure with
  | none =>
    let _ ← env.fire .delivered m none
    Work.mark .produced
    Work.release m
    Work.record (.concluded m .delivered)
    return .delivered
  | some cause =>
    match ← env.grantRetry .deliveryFailed m cause (return tracker) with
    | some .async =>
      Work.modifyProducer fun p => { p with retry := p.retry.pushFront m }
      return .retry
    | some .sync => return .retry
    | none =>
      drop m cause
      let _ ← env.fire .deliveryAbandoned m (some cause)
      return .dropped cause

/-- Deal with a delivery report. The message stops being pending last of all. -/
def receive (r : DeliveryReport) : Work β κ α Unit := do
  let tracker := (← Work.producer).trackers.find? r.message
  let outcome ← env.outcome tracker r
  match tracker with
  | some id => Work.updateTracker id (·.complete outcome)
  | none => pure ()
  Work.record (.acknowledged r.message)
  Work.mark .acknowledged

/-- Deal with a message the broker refused. It is sent again, by way of the retry buffer if
    `requeue`, or dropped; say whether it is sent again. -/
def receiveRefusal (m : Message) (cause : BrokerError) (requeue : Bool) : Work β κ α Bool := do
  match ← env.grantRetry .sendFailed m cause (return (← Work.producer).trackers.find? m) with
  | some _ =>
    if requeue then Work.modifyProducer fun p => { p with retry := p.retry.pushBack m }
    return true
  | none =>
    drop m cause
    let _ ← env.fire .sendAbandoned m (some cause)
    return false

end Surroundings

end Outbox
