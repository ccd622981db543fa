import Outbox.Producer.Sending

/-! The operations of a producer. A flush sends what is buffered, messages to be retried first: the
    fast way is to send everything and wait once, the ordered way to see each message through
    before the next is sent. Both take the buffers' contents out before they send anything, so
    what comes in meanwhile waits for the next flush; an ordered flush that stops early puts what
    it did not send back in front. -/

namespace Outbox

namespace Surroundings

variable {β κ α : Type} (env : Surroundings β κ α)

/-- Do something while a flush is counted as in progress. -/
def whileFlushing {ρ : Type} (work : Work β κ α ρ) : Work β κ α ρ := do
  Work.mark .flushBegan
  let result ← work
  Work.mark .flushEnded
  return result

/-- Send a batch without waiting; refusals are nobody's concern but the hooks'. -/
def sendBatch (batch : Batch) : Work β κ α Unit :=
  batch.forM fun m => do
    let _ ← env.sendAsync m

/-- Send what is buffered and push it out, without waiting for the outcomes. The regular buffer is
    taken only after the messages to be retried were sent. -/
def flushAsync : Work β κ α (Except ProducerError Unit) :=
  whileFlushing do
    env.sendBatch (← Work.takeRetry)
    env.sendBatch (← Work.takeRegular)
    return (← env.awaitAcksFor .zero).map fun _ => ()

/-- Is the time up that was given at the moment `start`? -/
def timeIsUp (start : Nat) : Option Span → Work β κ α Bool
  | none => return false
  | some timeout => do
    let now ← Site.readClock
    return timeout.nanos ≤ now - start

/-- See messages through one by one, and count them on from `k`, until the time is up or there is
    an error. A message that is refused or not delivered is dropped and stops nothing. The time is
    looked at after each message, so the first one is sent in any case. -/
def sendInOrder (start : Nat) (timeout : Option Span) (k : Nat) :
    Batch → Work β κ α (Nat × Except ProducerError Unit)
  | [] => return (k, .ok ())
  | m :: rest => do
    match ← env.sendSync m with
    | .ok () | .error (.refused _) | .error (.undelivered _) =>
      if ← timeIsUp start timeout then return (k + 1, .ok ())
      else sendInOrder start timeout (k + 1) rest
    | .error e => return (k + 1, .error e)

/-- Put back what is left of the two batches of which the first `k` messages were sent. -/
def putBack (retries batch : Batch) (k : Nat) : Work β κ α Unit :=
  Work.modifyProducer fun p =>
    { p with
      retry := p.retry.restoreFront (retries.drop k)
      regular := p.regular.restoreFront (batch.drop (k - retries.length)) }

/-- Flush in order, within the timeout if there is one; say whether everything was sent. -/
def flushInOrder (timeout : Option Span) : Work β κ α (Except ProducerError Bool) :=
  whileFlushing do
    let retries ← Work.takeRetry
    let batch ← Work.takeRegular
    let start ← Site.readClock
    let (k, result) ← env.sendInOrder start timeout 0 (retries ++ batch)
    putBack retries batch k
    return result.map fun _ => k == retries.length + batch.length

/-- Send everything buffered and wait for all outcomes. -/
def flush (inOrder : Bool) : Work β κ α (Except ProducerError Unit) := do
  if inOrder then return (← env.flushInOrder none).map fun _ => ()
  else
    match ← env.flushAsync with
    | .error e => return .error e
    | .ok () => env.awaitAcks

/-- Flush within a time; say whether all was done. -/
def flushFor (timeout : Span) (inOrder : Bool) : Work β κ α (Except ProducerError Bool) := do
  if inOrder then env.flushInOrder (some timeout)
  else
    match ← env.flushAsync with
    | .error e => return .error e
    | .ok () => env.awaitAcksFor timeout

/-- Buffer a message, and flush if the buffer is full now. -/
def add (m : Message) : Work β κ α (Except ProducerError Unit) := do
  Work.record (.submitted m)
  let m ← Work.attachIfTracking m
  Work.modifyProducer fun p => { p with regular := p.regular.pushBack m }
  let p ← Work.producer
  if p.overfull then
    match p.settings.flushMode with
    | .sync => env.flush false
    | .async => env.flushAsync
  else return .ok ()

/-- Send a message past the buffer without waiting. -/
def produce (m : Message) : Work β κ α (Except ProducerError Unit) := do
  Work.record (.submitted m)
  let m ← Work.attachIfTracking m
  match ← env.sendAsync m with
  | none => return .ok ()
  | some e => return .error (.refused e)

/-- Send a message past the buffer and wait until it is delivered or dropped. -/
def produceSync (m : Message) : Work β κ α (Except ProducerError Unit) := do
  Work.record (.submitted m)
  env.sendSync m

end Surroundings

namespace Work

variable {β κ α : Type}

/-- Discard a buffered message. -/
def discard (m : Message) : Work β κ α Unit := do
  release m
  record (.concluded m .cleared)

/-- Discard everything buffered. What was sent already is not affected. -/
def clear : Work β κ α Unit := do
  let retries ← takeRetry
  let batch ← takeRegular
  (retries ++ batch).forM discard

/-- Set the buffer limit, if it is one. -/
def setBufferLimit (n : Int) : Work β κ α (Except ProducerError Unit) :=
  match Settings.checkBufferLimit n with
  | .error e => return .error e
  | .ok () => do
    modifyProducer (·.setBufferLimit n)
    return .ok ()

end Work

end Outbox
