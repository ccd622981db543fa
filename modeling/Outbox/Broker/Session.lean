import Outbox.Broker.Memory
import Outbox.Site

/-! A session with a memory broker whose reports go to an owner that insists: as long as it has the
    patience, it sends a message again as soon as it is told that the delivery failed, from within
    the report. -/

namespace Outbox

/-- Who receives the reports: how often it still sends a failed message again, and what it noted
    down, newest first. -/
structure Insister where
  patience : Nat
  notes : List (DeliveryReport ⊕ BrokerAnswer) := []

inductive BrokerRequest where
  | send (m : Message)
  | poll
  | flush (timeout : Span)
  | sent
  | delivered
  | tell (order : MemoryOrder)
  | print
  | unknown

inductive BrokerReply where
  | answer (a : BrokerAnswer)
  | messages (l : List Message)
  | text (s : String)
  | unknown

/-- The reply to one request, how the broker stands after it, and what was noted meanwhile. -/
structure BrokerStep where
  reply : BrokerReply
  census : Census
  notes : List (DeliveryReport ⊕ BrokerAnswer)

namespace BrokerSession

abbrev Session := Site MemoryBroker Insister

def note (n : DeliveryReport ⊕ BrokerAnswer) : Act Session Unit :=
  modify fun s => { s with owner := { s.owner with notes := n :: s.owner.notes } }

/-- Note the report, and send a failed message again if there is patience left. -/
def receive (r : DeliveryReport) : Act Session Unit := do
  note (.inl r)
  let s ← get
  if r.failure.isSome && 0 < s.owner.patience then
    set { s with owner := { s.owner with patience := s.owner.patience - 1 } }
    note (.inr (← Site.send MemoryBroker.client r.message))

def perform (limit : Nat) : BrokerRequest → Act Session BrokerReply
  | .send m => return .answer (← Site.send MemoryBroker.client m)
  | .poll => do
    let _ ← Site.runTask MemoryBroker.client receive limit MemoryBroker.client.poll
    return .answer (.ok ())
  | .flush timeout =>
    return .answer
      (← Site.runTask MemoryBroker.client receive limit (MemoryBroker.client.flush timeout))
  | .sent => return .messages (← get).broker.sent.toList
  | .delivered => return .messages (← get).broker.delivered.toList
  | .tell order => do
    modify fun s => { s with broker := s.broker.obey s.clock order }
    return .answer (.ok ())
  | .print => return .text (← get).broker.text
  | .unknown => return .unknown

/-- Do `work` while somebody else resumes the broker after a time, and has done so when it ends. -/
def whileResuming {ρ : Type} (after : Option Span) (work : Act Session ρ) : Act Session ρ :=
  match after with
  | none => work
  | some after => do
    let due := (← get).clock.now + after.nanos
    modify fun s => { s with broker := s.broker.expectResume due }
    let result ← work
    modify fun s =>
      let (broker, clock) := s.broker.awaitResume s.clock due
      { s with broker := broker, clock := clock }
    return result

/-- One request, with the time after which somebody else resumes the broker, if anybody does. -/
def step (limit : Nat) (r : BrokerRequest × Option Span) : Act Session BrokerStep := do
  let reply ← whileResuming r.2 (perform limit r.1)
  let s ← get
  set { s with owner := { s.owner with notes := [] } }
  return ⟨reply, s.broker.census, s.owner.notes.reverse⟩

def run (clock : Clock) (limit patience : Nat) (b : MemoryBroker)
    (rs : List (BrokerRequest × Option Span)) : Option (List BrokerStep) :=
  (rs.mapM (step limit) ⟨b, clock, ⟨patience, []⟩⟩).map (·.1)

end BrokerSession

end Outbox
