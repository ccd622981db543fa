import Outbox.Producer.Flushing

/-! The operations of a producer as data, so that a run of a producer is a list of them. An
    operation that takes a message is written over `μ`, what stands for a message: the message
    itself where the operation is carried out, or something that has to be looked up first. -/

namespace Outbox

inductive Operation (μ : Type) where
  | add (m : μ)
  | produce (m : μ)
  | produceSync (m : μ)
  | flushAsync
  | flush (inOrder : Bool)
  | flushFor (timeout : Span) (inOrder : Bool)
  | awaitAcks
  | awaitAcksFor (timeout : Span)
  | clear
  | setBufferLimit (n : Int)
  | setFlushMode (mode : FlushMode)
  | setRetryBudget (n : Nat)
  | setFullQueueNotice (notice : FullQueueNotice)

namespace Operation

/-- Look up the message of an operation; there is no operation if there is no message. -/
def mapMessage {M : Type → Type} [Monad M] {μ ν : Type} (f : μ → M (Option ν)) :
    Operation μ → M (Option (Operation ν))
  | add m => return (← f m).map add
  | produce m => return (← f m).map produce
  | produceSync m => return (← f m).map produceSync
  | flushAsync => return some flushAsync
  | flush inOrder => return some (flush inOrder)
  | flushFor timeout inOrder => return some (flushFor timeout inOrder)
  | awaitAcks => return some awaitAcks
  | awaitAcksFor timeout => return some (awaitAcksFor timeout)
  | clear => return some clear
  | setBufferLimit n => return some (setBufferLimit n)
  | setFlushMode mode => return some (setFlushMode mode)
  | setRetryBudget n => return some (setRetryBudget n)
  | setFullQueueNotice notice => return some (setFullQueueNotice notice)

end Operation

namespace Surroundings

variable {β κ α : Type} (env : Surroundings β κ α)

/-- Carry out an operation. -/
def operate : Operation Message → Work β κ α Reply
  | .add m => return .ofResult (← env.add m)
  | .produce m => return .ofResult (← env.produce m)
  | .produceSync m => return .ofResult (← env.produceSync m)
  | .flushAsync => return .ofResult (← env.flushAsync)
  | .flush inOrder => return .ofResult (← env.flush inOrder)
  | .flushFor timeout inOrder => return .ofVerdict (← env.flushFor timeout inOrder)
  | .awaitAcks => return .ofResult (← env.awaitAcks)
  | .awaitAcksFor timeout => return .ofVerdict (← env.awaitAcksFor timeout)
  | .clear => do
    Work.clear
    return .done
  | .setBufferLimit n => return .ofResult (← Work.setBufferLimit n)
  | .setFlushMode mode => do
    Work.modifyProducer (·.setFlushMode mode)
    return .done
  | .setRetryBudget n => do
    Work.modifyProducer (·.setRetryBudget n)
    return .done
  | .setFullQueueNotice notice => do
    Work.modifyProducer (·.setFullQueueNotice notice)
    return .done

end Surroundings

end Outbox
