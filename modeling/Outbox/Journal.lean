import Outbox.Broker.Error
import Outbox.Counters
import Outbox.Hook
import Outbox.Settings

/-! The journal of a site: what its producers were given, asked of their brokers, told the hooks,
    and decided about each message, newest entry first. An entry carries the reading of the counters
    at that moment. A flush of the broker and a call of a hook take time in which other things
    happen; each has an entry where it begins and one where it ends, and these nest. -/

namespace Outbox

/-- What comes back to an application that asks for something by name: the result of an operation,
    or why there was no operation to carry out. -/
inductive Reply where
  | done
  | verdict (v : Bool)
  | text (s : String)
  | settings (s : Settings)
  | failed (e : ProducerError)
  | brokerFailed (e : BrokerError)
  | noProducer
  | noMessage
  | unknown
  deriving DecidableEq

namespace Reply

def ofResult : Except ProducerError Unit → Reply
  | .ok () => done
  | .error e => failed e

def ofVerdict : Except ProducerError Bool → Reply
  | .ok v => verdict v
  | .error e => failed e

def ofBroker : BrokerAnswer → Reply
  | .ok () => done
  | .error e => brokerFailed e

end Reply

/-- How a message leaves the producer for good. -/
inductive Fate where
  | delivered
  | dropped (cause : BrokerError)
  | cleared
  deriving DecidableEq

/-- Buffered messages and counters at one moment. -/
structure Reading where
  buffered : Nat
  counters : Counters
  deriving DecidableEq

inductive Event where
  /-- A caller handed in a message. -/
  | submitted (m : Message)
  /-- A message was offered to the broker. -/
  | offered (m : Message) (answer : BrokerAnswer)
  | polled
  | flushBegan (timeout : Span)
  | flushEnded (answer : BrokerAnswer)
  | hookCalled (kind : HookKind) (m : Message) (error : Option BrokerError)
  | hookReturned (verdict : Bool)
  /-- A retry was claimed for the message. -/
  | retried (m : Message)
  | concluded (m : Message) (fate : Fate)
  /-- A delivery report was dealt with, and is about to be counted. -/
  | acknowledged (m : Message)
  /-- From within a hook the application did something, and got the reply. -/
  | remarked (label : String) (reply : Reply)

/-- An event of the producer with the given scope. -/
structure Entry where
  scope : Nat
  reading : Reading
  event : Event

end Outbox
