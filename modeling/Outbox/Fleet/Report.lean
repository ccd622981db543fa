import Outbox.Fleet.Run

/-! What a fleet shows of itself. After each command it shows the reply, how the producer stands,
    what is new in its broker's logs, and what happened meanwhile. The journal has two entries for
    what takes time; a report has one, at the place of the beginning and with the result that came
    out at the end. -/

namespace Outbox

/-- Something that happened, at the producer with the given number. -/
inductive Incident where
  | offered (producer : Nat) (m : Message) (answer : BrokerAnswer)
  | polled (producer : Nat)
  | flushed (producer : Nat) (timeout : Span) (answer : BrokerAnswer)
  | hook (producer : Nat) (kind : HookKind) (m : Message) (error : Option BrokerError)
      (reading : Reading) (verdict : Bool)
  | remarked (label : String) (reply : Reply) (reading : Reading)

/-- An ending whose beginning is yet to be found. -/
inductive Ending where
  | flush (answer : BrokerAnswer)
  | hook (verdict : Bool)

namespace Incident

/-- The incidents in a journal, oldest first; `number` tells the number of a producer from its
    scope. The journal is read from its newest entry, so an ending comes before its beginning. -/
def ofJournal (number : Nat → Nat) : List Entry → List Ending → List Incident → List Incident
  | [], _, found => found
  | ⟨scope, reading, event⟩ :: rest, ends, found =>
    let go (ends : List Ending) (i : Incident) := ofJournal number rest ends (i :: found)
    match event, ends with
    | .offered m answer, _ => go ends (.offered (number scope) m answer)
    | .polled, _ => go ends (.polled (number scope))
    | .flushEnded answer, _ => ofJournal number rest (.flush answer :: ends) found
    | .flushBegan timeout, .flush answer :: ends => go ends (.flushed (number scope) timeout answer)
    | .hookReturned verdict, _ => ofJournal number rest (.hook verdict :: ends) found
    | .hookCalled kind m error, .hook verdict :: ends =>
      go ends (.hook (number scope) kind m error reading verdict)
    | .remarked label reply, _ => go ends (.remarked label reply reading)
    | _, _ => ofJournal number rest ends found

/-- The producer of an incident at its broker. -/
def atBroker? : Incident → Option Nat
  | offered p .. | polled p | flushed p .. => some p
  | hook .. | remarked .. => none

end Incident

/-- How a producer stands. -/
structure ProducerView where
  reading : Reading
  census : Census
  newlySent : List Message
  newlyDelivered : List Message

structure StepReport where
  reply : Reply
  view : Option ProducerView
  incidents : List Incident

namespace Fleet

/-- The number of the producer with this scope. -/
def numberOf (f : Fleet) (scope : Nat) : Nat :=
  f.members.toList.findIdx (·.any (·.producer.trackers.scope == scope))

/-- Does the broker of producer `p` follow a script? -/
def isScripted (f : Fleet) (p : Nat) : Bool := (f.members.get? p).join.any (·.broker.isRight)

/-- How much of the logs of each producer's broker was shown: accepted and delivered messages. -/
abbrev Shown := Std.TreeMap Nat (Nat × Nat)

/-- How producer `p` stands, if it takes commands, and what is shown then. -/
def view (p : Nat) (shown : Shown) : FleetWork (Option ProducerView × Shown) := do
  if (← state).isOpen p then
    visit p do
      let s ← get
      let (sent, delivered) := shown.getD p (0, 0)
      let census := s.broker.census
      return (
        some {
          reading := s.owner.producer.reading
          census := census
          newlySent := s.broker.sent.drop sent
          newlyDelivered := s.broker.delivered.drop delivered },
        shown.insert p (census.sent, census.delivered))
  else return (none, shown)

/-- Take the journal away and tell what is in it. Only brokers that follow a script are told of. -/
def takeIncidents : FleetWork (List Incident) := do
  let s ← get
  set { s with owner := { s.owner with journal := [] } }
  let f := s.owner.app
  return (Incident.ofJournal f.numberOf s.owner.journal [] []).filter (·.atBroker?.all f.isScripted)

/-- Carry out a command and report. After a start the newest producer is shown. -/
def step (limit depth : Nat) (shown : Shown) (c : Command) : FleetWork (StepReport × Shown) := do
  let reply ← perform limit depth none c
  let newest := (← state).members.size - 1
  let p :=
    match c with
    | .start .. => newest
    | .tell _ p _ _ => p
  let (view, shown) ← view p shown
  return (⟨reply, view, ← takeIncidents⟩, shown)

/-- Carry out commands one after the other. -/
def steps (limit depth : Nat) : Shown → List Command → FleetWork (List StepReport)
  | _, [] => return []
  | shown, c :: rest => do
    let (report, shown) ← step limit depth shown c
    return report :: (← steps limit depth shown rest)

/-- What the commands bring, from a site without producers on. There is no result if a loop takes
    more than `limit` rounds. -/
def run (clock : Clock) (limit : Nat) (cs : List Command) : Option (List StepReport) :=
  (steps limit (Command.weightList cs) ∅ cs (emptySite clock)).map (·.1)

end Fleet

end Outbox
