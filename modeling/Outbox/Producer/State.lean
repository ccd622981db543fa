import Outbox.Buffer
import Outbox.Hook
import Outbox.Journal
import Outbox.Retry.Table
import Outbox.Settings
import Outbox.Site

/-! The state of a buffered producer. Messages wait in two buffers: new ones in `regular`, and in
    `retry` those that failed and will be sent again. Tracking is switched on the first time there
    is a retry to grant, and stays on.

    At a producer's site the owner of the broker is the producer together with the journal and with
    `app`, the state of the application that uses it. -/

namespace Outbox

structure Producer (κ : Type) where
  settings : Settings
  tracking : Bool
  regular : Buffer := {}
  retry : Buffer := {}
  trackers : TrackerTable
  hooks : Hooks κ := {}
  counters : Counters := {}

namespace Producer

variable {κ : Type}

/-- A producer with nothing to do. -/
def start (settings : Settings) (scope : Nat) : Producer κ :=
  { settings := settings, tracking := settings.tracks, trackers := { scope := scope } }

/-- Messages waiting in both buffers. -/
def buffered (p : Producer κ) : Nat := p.regular.size + p.retry.size

def reading (p : Producer κ) : Reading := ⟨p.buffered, p.counters⟩

/-- The producer as a printed record. -/
def text (p : Producer κ) : String :=
  "BufferedProducer \x7b config: " ++ p.settings.text ++
  ", buffer_size: " ++ toString p.buffered ++ ", metrics: " ++ p.counters.text ++ " \x7d"

/-- Is the buffer so full that a flush is due? -/
def overfull (p : Producer κ) : Bool :=
  0 ≤ p.settings.bufferLimit && p.settings.bufferLimit ≤ p.buffered

/-- Grant `n` retries to messages tracked from now on; the first grant switches tracking on. -/
def setRetryBudget (p : Producer κ) (n : Nat) : Producer κ :=
  { p with
    settings := { p.settings with retryBudget := n }, tracking := p.tracking || decide (0 < n) }

def setBufferLimit (p : Producer κ) (n : Int) : Producer κ :=
  { p with settings := { p.settings with bufferLimit := n } }

def setFlushMode (p : Producer κ) (mode : FlushMode) : Producer κ :=
  { p with settings := { p.settings with flushMode := mode } }

def setFullQueueNotice (p : Producer κ) (notice : FullQueueNotice) : Producer κ :=
  { p with settings := { p.settings with fullQueueNotice := notice } }

def setHook (p : Producer κ) (kind : HookKind) (hook : κ) : Producer κ :=
  { p with hooks := p.hooks.set kind (some hook) }

end Producer

/-- The producer at a site, what was written down there, and the application's own state. -/
structure Owner (κ α : Type) where
  producer : Producer κ
  journal : List Entry := []
  app : α

/-- The site of a producer with a broker in state `β`. -/
abbrev World (β κ α : Type) := Site β (Owner κ α)

/-- An action of a producer. -/
abbrev Work (β κ α : Type) := Act (World β κ α)

/-- What a producer works with: the client of its broker, what it means to call a hook, and how
    many rounds a loop is given. -/
structure Surroundings (β κ α : Type) where
  client : Client β
  call : κ → HookKind → Message → Option BrokerError → Work β κ α Bool
  limit : Nat

namespace Work

variable {β κ α : Type}

def producer : Work β κ α (Producer κ) := return (← get).owner.producer

def modifyProducer (f : Producer κ → Producer κ) : Work β κ α Unit :=
  modify fun s => { s with owner := { s.owner with producer := f s.owner.producer } }

/-- Write an event down. -/
def record (e : Event) : Work β κ α Unit :=
  modify fun s =>
    let p := s.owner.producer
    let entry : Entry := ⟨p.trackers.scope, p.reading, e⟩
    { s with owner := { s.owner with journal := entry :: s.owner.journal } }

def mark (k : Mark) : Work β κ α Unit :=
  modifyProducer fun p => { p with counters := p.counters.mark k }

def release (m : Message) : Work β κ α Unit :=
  modifyProducer fun p => { p with trackers := p.trackers.release m }

def updateTracker (id : TrackingId) (f : Tracker → Tracker) : Work β κ α Unit :=
  modifyProducer fun p => { p with trackers := p.trackers.update id f }

/-- The tracker of a message, a new one if it has none in this producer's table. -/
def attach (m : Message) (sender : Sender) (budget : Nat) : Work β κ α (TrackingId × Message) := do
  let (id, m, table) := (← producer).trackers.attach m sender budget
  modifyProducer fun p => { p with trackers := table }
  return (id, m)

/-- The message with a tracker, if tracking is on. -/
def attachIfTracking (m : Message) : Work β κ α Message := do
  let p ← producer
  if p.tracking then return (← attach m .async p.settings.retryBudget).2 else return m

/-- Spend a retry of the tracker issued under `id`. -/
def claimRetry (id : TrackingId) : Work β κ α (Option Sender) := do
  let t := (← producer).trackers.tracker? id
  updateTracker id (·.claimRetry.2)
  return t.bind (·.claimRetry.1)

/-- Open a slot for a new attempt with the tracker issued under `id`. -/
def arm (id : TrackingId) : Work β κ α Nat := do
  let t := (← producer).trackers.tracker? id
  updateTracker id (·.arm.2)
  return t.elim 0 (·.arm.1)

/-- Look into a slot of the tracker issued under `id`. -/
def look (id : TrackingId) (slot : Nat) : Work β κ α Receipt := do
  let t := (← producer).trackers.tracker? id
  updateTracker id fun t => (t.receive slot).2
  return t.elim .disconnected fun t => (t.receive slot).1

/-- Take everything out of the retry buffer. -/
def takeRetry : Work β κ α Batch := do
  let (batch, rest) := (← producer).retry.take
  modifyProducer fun p => { p with retry := rest }
  return batch

/-- Take everything out of the regular buffer. -/
def takeRegular : Work β κ α Batch := do
  let (batch, rest) := (← producer).regular.take
  modifyProducer fun p => { p with regular := rest }
  return batch

end Work

end Outbox
