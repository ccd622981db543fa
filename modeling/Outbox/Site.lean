import Outbox.Act
import Outbox.Broker.Client

/-! A site is a broker, the clock, and the owner of the broker: whoever sends and receives the
    reports. What happens at a site is an action. A task of the broker is seen through step by step,
    and every report it hands out is received before it goes on. -/

namespace Outbox

structure Site (β ω : Type) where
  broker : β
  clock : Clock
  owner : ω

namespace Site

variable {β ω : Type}

/-- Read the clock. -/
def readClock : Act (Site β ω) Nat := fun s =>
  let (t, clock) := s.clock.read
  some (t, { s with clock := clock })

/-- Offer a message to the broker. -/
def send (client : Client β) (m : Message) : Act (Site β ω) BrokerAnswer := fun s =>
  let (answer, broker) := client.send m s.broker
  some (answer, { s with broker := broker })

/-- One step of a task; a report goes to `receive` before the task goes on. -/
def taskStep (client : Client β) (receive : DeliveryReport → Act (Site β ω) Unit)
    (task : client.Task) : Act (Site β ω) (client.Task ⊕ BrokerAnswer) := do
  let s ← get
  let (step, broker, clock) := client.step task s.broker s.clock
  set { s with broker := broker, clock := clock }
  match step with
  | .report r next => receive r; return .inl next
  | .more next => return .inl next
  | .finished answer => return .inr answer

/-- See a task of the broker through. -/
def runTask (client : Client β) (receive : DeliveryReport → Act (Site β ω) Unit) (limit : Nat)
    (task : client.Task) : Act (Site β ω) BrokerAnswer :=
  Act.loop (taskStep client receive) limit task

end Site

end Outbox
