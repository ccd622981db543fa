import Outbox.Broker.Sum
import Outbox.Fleet.Command

/-! A fleet of producers at one site. The clock and the journal are shared; of the producers, one at
    a time is the one at the site, with its broker, and the others lie by. A command for another
    producer exchanges the two for as long as the command takes, also in the middle of an operation
    of the first, when a hook turns to another producer.

    Producers are numbered in the order they were asked for, and one that could not be started keeps
    its number. The scopes of their tracking ids are numbered separately, since settings are checked
    before a scope is taken. -/

namespace Outbox

abbrev AnyBroker := MemoryBroker ⊕ ScriptedBroker

namespace AnyBroker

def client : Client AnyBroker := MemoryBroker.client.sum ScriptedBroker.client

def census : AnyBroker → Census
  | .inl b => b.census
  | .inr b => b.census

def sent : AnyBroker → Line Message
  | .inl b => b.sent
  | .inr b => b.sent

def delivered : AnyBroker → Line Message
  | .inl b => b.delivered
  | .inr b => b.delivered

/-- Connect to the broker that is planned. -/
def connect : BrokerPlan → Except BrokerError AnyBroker
  | .memory limits => (MemoryBroker.connect limits).map .inl
  | .scripted (some e) _ => .error e
  | .scripted none script => .ok (.inr { script := script })

end AnyBroker

/-- A hook registered with one of the producers: its prepared answers, its work, and how often it
    was called. -/
structure FleetHook where
  answers : List Bool
  work : List (List Command)
  calls : Nat := 0

/-- A producer that lies by. A forgotten one takes no more commands, but may still be at work. -/
structure Member where
  producer : Producer Nat
  broker : AnyBroker
  forgotten : Bool := false

structure Fleet where
  members : Numbered (Option Member) := .empty
  /-- The producer at the site, if there is one. -/
  present : Option Nat := none
  nextScope : Nat := 0
  hooks : Numbered FleetHook := .empty
  /-- The messages that hooks were called with, in order. -/
  heard : Line Message := .empty

abbrev FleetWorld := World AnyBroker Nat Fleet

abbrev FleetWork := Work AnyBroker Nat Fleet

namespace Fleet

/-- A site without producers. -/
def emptySite (clock : Clock) : FleetWorld :=
  { broker := .inr {}, clock := clock, owner := { producer := .start {} 0, app := {} } }

/-- The state of the fleet. -/
def state : FleetWork Fleet := return (← get).owner.app

def change (f : Fleet → Fleet) : FleetWork Unit :=
  modify fun s => { s with owner := { s.owner with app := f s.owner.app } }

/-- Is there a producer with this number that takes commands? -/
def isOpen (f : Fleet) (p : Nat) : Bool := (f.members.get? p).join.any (!·.forgotten)

/-- Let the producer at the site lie by. -/
def stow : FleetWork Unit := do
  let s ← get
  match s.owner.app.present with
  | none => return
  | some p =>
    change fun f =>
      { f with
        present := none,
        members := f.members.modify p (·.map fun m =>
          { m with producer := s.owner.producer, broker := s.broker }) }

/-- Bring a producer to the site. -/
def fetch (p : Nat) : FleetWork Unit := do
  match ((← state).members.get? p).join with
  | none => return
  | some m =>
    modify fun s =>
      { s with
        broker := m.broker,
        owner := { s.owner with
          producer := m.producer, app := { s.owner.app with present := some p } } }

/-- Do something with producer `p` at the site. -/
def visit {ρ : Type} (p : Nat) (work : FleetWork ρ) : FleetWork ρ := do
  let before := (← state).present
  if before = some p then work
  else
    stow
    fetch p
    let result ← work
    stow
    before.forM fetch
    return result

/-- Start a producer. It takes a scope as soon as its settings are found valid, even if its broker
    then cannot be reached. -/
def start (settings : Settings) (plan : BrokerPlan) : FleetWork Reply := do
  match settings.validate with
  | .error e =>
    change fun f => { f with members := f.members.push none }
    return .failed e
  | .ok () =>
    let scope := (← state).nextScope
    change fun f => { f with nextScope := scope + 1 }
    match AnyBroker.connect plan with
    | .error e =>
      change fun f => { f with members := f.members.push none }
      return .failed (.broker e)
    | .ok broker =>
      let member : Member := { producer := .start settings scope, broker := broker }
      change fun f => { f with members := f.members.push (some member) }
      return .done

end Fleet

end Outbox
