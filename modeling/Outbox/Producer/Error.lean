import Outbox.Broker.Error

/-! Why an operation of the producer fails. Three of the causes are a broker's error seen from
    different sides: a message could not be handed over, a message was handed over and not
    delivered, or the broker itself failed while it was being driven. -/

namespace Outbox

inductive ProducerError where
  | invalidArgument (reason : String)
  | invalidSettings (reason : String)
  | refused (cause : BrokerError)
  | undelivered (cause : BrokerError)
  | broker (cause : BrokerError)
  | outcomeLost
  deriving DecidableEq

namespace ProducerError

def message : ProducerError → String
  | invalidArgument reason => s!"Invalid argument: {reason}"
  | invalidSettings reason => s!"Invalid configuration: {reason}"
  | refused cause => "Send failed: " ++ cause.message
  | undelivered cause => "Delivery failed: " ++ cause.message
  | broker cause => "Broker error: " ++ cause.message
  | outcomeLost => "Completion signal dropped before the delivery outcome was reported"

/-- The broker's error behind this one, if there is one. -/
def cause? : ProducerError → Option BrokerError
  | refused cause | undelivered cause | broker cause => some cause
  | invalidArgument _ | invalidSettings _ | outcomeLost => none

end ProducerError

end Outbox
