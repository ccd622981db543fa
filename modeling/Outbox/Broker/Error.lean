/-! Why a broker refuses a message, fails to deliver it, or gives up a flush. Some of these pass if
    the same message is sent again: a full queue drains, a timeout is about time only, and a failed
    delivery was at least accepted once. The others will not change on a second try. -/

namespace Outbox

inductive BrokerError where
  | queueFull
  | timedOut
  | unknownTopic (topic : String)
  | tooLarge (size limit : Nat)
  | undelivered (reason : String)
  | other (reason : String)
  deriving DecidableEq

namespace BrokerError

def message : BrokerError → String
  | queueFull => "Broker send queue is full"
  | timedOut => "Broker operation timed out"
  | unknownTopic topic => s!"Topic '{topic}' does not exist"
  | tooLarge size limit => s!"Message size {size} exceeds maximum {limit}"
  | undelivered reason => s!"Delivery failed: {reason}"
  | other reason => reason

def isQueueFull : BrokerError → Bool
  | queueFull => true
  | _ => false

theorem eq_queueFull {e : BrokerError} (h : e.isQueueFull = true) : e = queueFull := by
  cases e <;> first | rfl | cases h

def isTimeout : BrokerError → Bool
  | timedOut => true
  | _ => false

/-- Could sending the same message again succeed? -/
def mayPass : BrokerError → Bool
  | queueFull | timedOut | undelivered _ => true
  | unknownTopic _ | tooLarge .. | other _ => false

end BrokerError

/-- What a broker answers to a send or a flush. -/
abbrev BrokerAnswer := Except BrokerError Unit

end Outbox
