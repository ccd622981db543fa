import Outbox.Broker.Client
import Outbox.Line

/-! A broker that does what a script says, right or wrong. The script lists the answers to sends,
    and for each poll and each flush which reports to hand out; a flush also has an answer of its
    own. Where the script ends the broker behaves well: it takes every message, does nothing when
    polled, and when flushed reports everything as delivered. -/

namespace Outbox

/-- One thing the broker does while it is polled or flushed. A report tells a failure if there is
    one, and a place counts the messages in flight from the oldest. -/
inductive ScriptedAction where
  /-- Empty the queue and report what was in it, oldest first. -/
  | reportAll (failure : Option BrokerError)
  /-- Empty the queue and report what was in it, newest first. -/
  | reportReversed (failure : Option BrokerError)
  /-- Take one message out of the queue and report it. -/
  | report (place : Nat) (failure : Option BrokerError)
  /-- Report one message and keep it in the queue. -/
  | echo (place : Nat) (failure : Option BrokerError)
  /-- Take one message out and report no more of it than its topic and payload. -/
  | strip (place : Nat) (failure : Option BrokerError)

structure ScriptedFlush where
  actions : List ScriptedAction := [.reportAll none]
  answer : BrokerAnswer := .ok ()

structure BrokerScript where
  sends : List BrokerAnswer := []
  polls : List (List ScriptedAction) := []
  flushes : List ScriptedFlush := []

structure ScriptedBroker where
  script : BrokerScript := {}
  inFlight : Line Message := .empty
  sent : Line Message := .empty
  delivered : Line Message := .empty
  flushCalls : Nat := 0
  pollCalls : Nat := 0

namespace BrokerScript

/-- The script `s`, and after it `t`. -/
def append (s t : BrokerScript) : BrokerScript :=
  ⟨s.sends ++ t.sends, s.polls ++ t.polls, s.flushes ++ t.flushes⟩

end BrokerScript

namespace ScriptedBroker

def send (m : Message) (b : ScriptedBroker) : BrokerAnswer × ScriptedBroker :=
  let rest := { b with script := { b.script with sends := b.script.sends.tail } }
  match b.script.sends.head?.getD (.ok ()) with
  | .error e => (.error e, rest)
  | .ok () => (.ok (), { rest with sent := b.sent.pushBack m, inFlight := b.inFlight.pushBack m })

inductive Task where
  | poll
  | flush
  | act (todo : List ScriptedAction) (answer : BrokerAnswer)
  | hand (reports : List DeliveryReport) (todo : List ScriptedAction) (answer : BrokerAnswer)

/-- Report the message at one place, seen through `f`, if there is one. -/
def reportAt (b : ScriptedBroker) (i : Nat) (f : Message → Message) (e : Option BrokerError) :
    List DeliveryReport :=
  (b.inFlight.toList[i]?).toList.map fun m => ⟨f m, e⟩

/-- The broker without the message in flight at one place. -/
def without (b : ScriptedBroker) (i : Nat) : ScriptedBroker :=
  { b with inFlight := .ofList (b.inFlight.toList.eraseIdx i) }

/-- The reports of one action, and the broker without the messages it took out. -/
def reportsOf (b : ScriptedBroker) : ScriptedAction → List DeliveryReport × ScriptedBroker
  | .reportAll e => (b.inFlight.toList.map (⟨·, e⟩), { b with inFlight := .empty })
  | .reportReversed e => (b.inFlight.toList.reverse.map (⟨·, e⟩), { b with inFlight := .empty })
  | .report i e => (b.reportAt i id e, b.without i)
  | .echo i e => (b.reportAt i id e, b)
  | .strip i e => (b.reportAt i Message.bare e, b.without i)

def step (task : Task) (b : ScriptedBroker) (clock : Clock) :
    TaskStep Task × ScriptedBroker × Clock :=
  match task with
  | .poll =>
    (.more (.act (b.script.polls.head?.getD []) (.ok ())),
      { b with
        script := { b.script with polls := b.script.polls.tail },
        pollCalls := b.pollCalls + 1 },
      clock)
  | .flush =>
    let entry := b.script.flushes.head?.getD {}
    (.more (.act entry.actions entry.answer),
      { b with
        script := { b.script with flushes := b.script.flushes.tail },
        flushCalls := b.flushCalls + 1 },
      clock)
  | .act [] answer => (.finished answer, b, clock)
  | .act (action :: todo) answer =>
    let (reports, b) := b.reportsOf action
    (.more (.hand reports todo answer), b, clock)
  | .hand [] todo answer => (.more (.act todo answer), b, clock)
  | .hand (r :: reports) todo answer =>
    let delivered := if r.failure.isNone then b.delivered.pushBack r.message else b.delivered
    (.report r (.hand reports todo answer), { b with delivered := delivered }, clock)

def client : Client ScriptedBroker where
  Task := Task
  send := send
  poll := .poll
  flush := fun _ => .flush
  step := step

/-- Have more of the script once the present one has ended. -/
def extend (b : ScriptedBroker) (s : BrokerScript) : ScriptedBroker :=
  { b with script := b.script.append s }

def census (b : ScriptedBroker) : Census :=
  ⟨b.inFlight.size, b.sent.size, b.delivered.size, b.flushCalls, b.pollCalls⟩

end ScriptedBroker

end Outbox
