import Outbox.Broker.Client
import Outbox.Line
import Outbox.Message.Condition
import Outbox.Text

/-! A broker that keeps everything in memory. It takes messages into a queue of limited length and
    reports them, oldest first, when it is polled; a flush polls until the queue is empty or its
    time is up. For trials it can be told to fail deliveries, to refuse messages, to call its
    queue full, and to pause: then a poll reports nothing and a flush waits to be resumed.

    A poll takes the whole queue before it reports the first message, so what is sent from within a
    report waits for the next poll. -/

namespace Outbox

structure MemoryLimits where
  capacity : Nat := 100000
  maxSize : Nat := 1048576
  /-- The topics there are; `none` is any topic. -/
  topics : Option (List String) := none
  /-- Time spent on each message that is delivered or failed. -/
  latency : Span := .zero

/-- What the broker was told to do wrong. -/
structure Faults where
  failNext : Nat := 0
  failWhere : Option (Message → Bool) := none
  rejectWhere : Option (Message → Bool) := none
  queueFullNext : Nat := 0

/-- What the broker can be told from outside. -/
inductive MemoryOrder where
  /-- The next `n` deliveries fail. -/
  | failNext (n : Nat)
  /-- Deliveries fail for the messages that meet the condition. -/
  | failWhere (c : Condition)
  /-- The messages that meet the condition are refused. -/
  | rejectWhere (c : Condition)
  /-- The next `n` messages find the queue full. -/
  | reportQueueFull (n : Nat)
  | clearFaults
  | pause
  | resume

structure MemoryBroker where
  limits : MemoryLimits
  inFlight : Line Message := .empty
  sent : Line Message := .empty
  delivered : Line Message := .empty
  faults : Faults := {}
  paused : Bool := false
  /-- The moments just after which somebody else is going to resume the broker. -/
  resumptions : List Nat := []
  flushCalls : Nat := 0
  pollCalls : Nat := 0

namespace MemoryBroker

/-- A broker with an empty queue; the queue must have room for a message. -/
def connect (limits : MemoryLimits) : Except BrokerError MemoryBroker :=
  if limits.capacity = 0 then .error (.other "queue capacity must be greater than zero")
  else .ok { limits := limits }

/-- Why the broker will not take `m`, apart from a queue it was told to call full. -/
def refusal? (b : MemoryBroker) (m : Message) : Option BrokerError :=
  if b.faults.rejectWhere.any (· m) then
    some (.other s!"send rejected for topic '{m.topic}'")
  else if b.limits.topics.any (!·.contains m.topic) then some (.unknownTopic m.topic)
  else if b.limits.maxSize < m.size then some (.tooLarge m.size b.limits.maxSize)
  else if b.limits.capacity ≤ b.inFlight.size then some .queueFull
  else none

def send (m : Message) (b : MemoryBroker) : BrokerAnswer × MemoryBroker :=
  if 0 < b.faults.queueFullNext then
    (.error .queueFull,
      { b with faults := { b.faults with queueFullNext := b.faults.queueFullNext - 1 } })
  else
    match b.refusal? m with
    | some e => (.error e, b)
    | none => (.ok (), { b with sent := b.sent.pushBack m, inFlight := b.inFlight.pushBack m })

/-- Deliver `m` or fail it, as the broker was told, and write the report. -/
def deliver (b : MemoryBroker) (m : Message) : DeliveryReport × MemoryBroker :=
  if 0 < b.faults.failNext then
    (⟨m, some (.undelivered "injected delivery failure")⟩,
      { b with faults := { b.faults with failNext := b.faults.failNext - 1 } })
  else if b.faults.failWhere.any (· m) then
    (⟨m, some (.undelivered s!"delivery to '{m.topic}' refused")⟩, b)
  else (⟨m, none⟩, { b with delivered := b.delivered.pushBack m })

/-- Whether a flush goes on after a poll, and until when. -/
inductive Purpose where
  | poll
  | flush (deadline : Option Nat)

inductive Task where
  | poll (purpose : Purpose)
  | deliver (batch : List Message) (purpose : Purpose)
  | flush (timeout : Span)
  | flushRound (deadline : Option Nat)
  | flushCheck (deadline : Option Nat)

/-- Carry out the resumptions whose moments are past. Nobody can tell when that is done, as long as
    it is done before the broker looks whether it is paused, and before it is paused again. -/
def wake (b : MemoryBroker) (clock : Clock) : MemoryBroker :=
  if b.resumptions.any (· < clock.now) then
    { b with paused := false, resumptions := b.resumptions.filter (clock.now ≤ ·) }
  else b

/-- A paused flush waits until it is resumed or its deadline is reached, whichever comes first. -/
def waitPaused (deadline : Option Nat) (b : MemoryBroker) (clock : Clock) :
    TaskStep Task × MemoryBroker × Clock :=
  match b.resumptions.min?.filter fun r => deadline.all (r < ·), deadline with
  | some r, _ => (.more (.flushRound deadline), b, clock.waitUntil (r + 1))
  | none, some d => (.finished (.error .timedOut), b, clock.waitUntil d)
  | none, none => (.more (.flushRound none), b, clock)

def step (task : Task) (b : MemoryBroker) (clock : Clock) : TaskStep Task × MemoryBroker × Clock :=
  match task with
  | .poll purpose =>
    let b := { b.wake clock with pollCalls := b.pollCalls + 1 }
    if b.paused then (.more (.deliver [] purpose), b, clock)
    else (.more (.deliver b.inFlight.toList purpose), { b with inFlight := .empty }, clock)
  | .deliver [] .poll => (.finished (.ok ()), b, clock)
  | .deliver [] (.flush deadline) => (.more (.flushCheck deadline), b, clock)
  | .deliver (m :: batch) purpose =>
    let (report, b) := b.deliver m
    (.report report (.deliver batch purpose), b, clock.sleep b.limits.latency)
  | .flush timeout =>
    let (now, clock) := clock.read
    (.more (.flushRound (deadlineAfter now timeout)), { b with flushCalls := b.flushCalls + 1 },
      clock)
  | .flushRound deadline =>
    let b := b.wake clock
    if b.paused then b.waitPaused deadline clock
    else (.more (.poll (.flush deadline)), b, clock)
  | .flushCheck deadline =>
    if b.inFlight.isEmpty then (.finished (.ok ()), b, clock)
    else
      match deadline with
      | none => (.more (.flushRound none), b, clock)
      | some d =>
        let (now, clock) := clock.read
        if d ≤ now then (.finished (.error .timedOut), b, clock)
        else (.more (.flushRound (some d)), b, clock)

def client : Client MemoryBroker where
  Task := Task
  send := send
  poll := .poll .poll
  flush := .flush
  step := step

def clearFaults (b : MemoryBroker) : MemoryBroker := { b with faults := {} }

def pause (b : MemoryBroker) : MemoryBroker := { b with paused := true }

def resume (b : MemoryBroker) : MemoryBroker := { b with paused := false }

/-- Carry out what the broker is told. -/
def carryOut (b : MemoryBroker) : MemoryOrder → MemoryBroker
  | .failNext n => { b with faults := { b.faults with failNext := n } }
  | .failWhere c => { b with faults := { b.faults with failWhere := some c.holds } }
  | .rejectWhere c => { b with faults := { b.faults with rejectWhere := some c.holds } }
  | .reportQueueFull n => { b with faults := { b.faults with queueFullNext := n } }
  | .clearFaults => b.clearFaults
  | .pause => b.pause
  | .resume => b.resume

/-- Carry out what the broker is told now. The resumptions of the past come before it. -/
def obey (b : MemoryBroker) (clock : Clock) (order : MemoryOrder) : MemoryBroker :=
  (b.wake clock).carryOut order

/-- Somebody else is going to resume the broker just after the moment `t`. -/
def expectResume (b : MemoryBroker) (t : Nat) : MemoryBroker :=
  { b with resumptions := t :: b.resumptions }

/-- Wait until a resumption that was expected at `t` has taken place. -/
def awaitResume (b : MemoryBroker) (clock : Clock) (t : Nat) : MemoryBroker × Clock :=
  let clock := clock.waitUntil (t + 1)
  (b.wake clock, clock)

def census (b : MemoryBroker) : Census :=
  ⟨b.inFlight.size, b.sent.size, b.delivered.size, b.flushCalls, b.pollCalls⟩

def topicsText : Option (List String) → String
  | none => "None"
  | some topics => "Some(\x7b" ++ ", ".intercalate (topics.map quoted) ++ "\x7d)"

/-- The broker as a printed record. -/
def text (b : MemoryBroker) : String :=
  "InMemoryBroker \x7b config: InMemoryBrokerConfig \x7b queue_capacity: " ++
  toString b.limits.capacity ++ ", max_message_size: " ++ toString b.limits.maxSize ++
  ", topics: " ++ topicsText b.limits.topics ++ ", delivery_latency: " ++ b.limits.latency.text ++
  " \x7d, in_flight: " ++ toString b.inFlight.size ++
  ", flush_calls: " ++ toString b.flushCalls ++ " \x7d"

end MemoryBroker

end Outbox
