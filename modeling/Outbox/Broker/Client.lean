import Outbox.Broker.Error
import Outbox.Message
import Outbox.Time

/-! A broker, seen by who uses it. A message is sent without waiting: the broker takes it or
    refuses it. Whatever takes time, a poll or a flush, is a task that goes on in steps, because
    between two steps the broker hands out delivery reports, and who receives one may turn to the
    broker again before the task goes on. So a client is a state with the steps of its tasks, and
    the receiver of the reports is not part of it. -/

namespace Outbox

/-- What became of one message the broker had accepted. -/
structure DeliveryReport where
  message : Message
  failure : Option BrokerError := none

/-- How a task goes on after one step: it hands out a report, it just goes on, or it is over. -/
inductive TaskStep (τ : Type) where
  | report (r : DeliveryReport) (next : τ)
  | more (next : τ)
  | finished (answer : BrokerAnswer)

structure Client (β : Type) where
  Task : Type
  send : Message → β → BrokerAnswer × β
  poll : Task
  flush : Span → Task
  step : Task → β → Clock → TaskStep Task × β × Clock

/-- How many messages are in flight, were accepted and were delivered, and how often the broker was
    flushed and polled. -/
structure Census where
  inFlight : Nat
  sent : Nat
  delivered : Nat
  flushes : Nat
  polls : Nat
  deriving DecidableEq

end Outbox
