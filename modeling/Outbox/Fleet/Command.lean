import Outbox.Broker.Memory
import Outbox.Broker.Scripted
import Outbox.Hook
import Outbox.Producer.Operation

/-! Commands to a fleet: several producers, each with a broker of its own, that an application opens
    and works with. A command names the producer it is for; the same commands are the work that a
    hook does when it is called. -/

namespace Outbox

/-- A message in a command: written out, or one that has come by. Places wrap around. -/
inductive MessageRef where
  | literal (m : Message)
  /-- The message of the hook that is being run. -/
  | current
  /-- A message that some hook was called with. -/
  | heard (place : Nat)
  /-- A message that the broker of a producer accepted. -/
  | sent (producer place : Nat)
  /-- A message that the broker of a producer delivered. -/
  | delivered (producer place : Nat)

/-- The broker that a new producer is connected to. -/
inductive BrokerPlan where
  | memory (limits : MemoryLimits)
  | scripted (refusal : Option BrokerError) (script : BrokerScript)

/-- What a producer or its broker is told to do. `γ` is the type of the commands that are
    the work of hooks. -/
inductive Order (γ : Type) where
  | operate (op : Operation MessageRef)
  | addSeries (n : Nat) (topic template : String)
  | setHook (kind : HookKind) (answers : List Bool) (work : List (List γ))
  | settings
  | look
  | print
  | forget
  | sendBroker (m : MessageRef)
  | pollBroker
  | flushBroker (timeout : Span)
  | memory (order : MemoryOrder)
  | printBroker
  | extendScript (script : BrokerScript)
  | unknown
  deriving Inhabited

/-- A command, under the name it is called by. -/
inductive Command where
  /-- Start one more producer. -/
  | start (label : String) (settings : Settings) (broker : BrokerPlan)
  /-- Tell a producer something; `resumeAfter` is when somebody else resumes its broker, counted
      from now. -/
  | tell (label : String) (producer : Nat) (resumeAfter : Option Span) (order : Order Command)
  deriving Inhabited

namespace Command

def label : Command → String
  | start label .. | tell label .. => label

mutual

/-- How many commands a command contains, itself included. -/
def weight : Command → Nat
  | start .. => 1
  | tell _ _ _ order => 1 + weightOrder order

def weightOrder : Order Command → Nat
  | .setHook _ _ work => weightWork work
  | _ => 0

def weightList : List Command → Nat
  | [] => 0
  | c :: cs => c.weight + weightList cs

def weightWork : List (List Command) → Nat
  | [] => 0
  | cs :: work => weightList cs + weightWork work

end

end Command

/-- The payload of the `i`-th of many messages. -/
def numberedPayload (template : String) (i : Nat) : String :=
  template.replace "\x7bi\x7d" (toString i)

end Outbox
