import Outbox.Producer.Error
import Outbox.Time

/-! How a producer behaves: how many messages it buffers before it flushes on its own and in which
    way, how often a failed message is sent again, when it tells about a full broker queue, and how
    long it leaves the broker alone between two looks. Settings are plain values; `validate` says
    which of them a producer accepts. The buffer limit is checked before the interval. -/

namespace Outbox

/-- How the flush that a full buffer triggers ends: after all acknowledgements, or at once. -/
inductive FlushMode where
  | sync
  | async
  deriving DecidableEq

/-- When the queue-full hook is called while one message waits for room at the broker. -/
inductive FullQueueNotice where
  | never
  | oncePerMessage
  | eachTime
  deriving DecidableEq

structure Settings where
  /-- Buffered messages that trigger a flush; `-1` is no limit. -/
  bufferLimit : Int := -1
  flushMode : FlushMode := .sync
  /-- Resends granted to a message tracked from now on. -/
  retryBudget : Nat := 0
  fullQueueNotice : FullQueueNotice := .never
  pollMillis : Nat := 100
  capacityHint : Nat := 0
  deriving DecidableEq

namespace FlushMode

/-- The name a settings file uses. -/
def name : FlushMode → String
  | sync => "sync"
  | async => "async"

/-- The name in a printed record. -/
def title : FlushMode → String
  | sync => "Sync"
  | async => "Async"

def all : List FlushMode := [sync, async]

end FlushMode

namespace FullQueueNotice

def name : FullQueueNotice → String
  | never => "none"
  | oncePerMessage => "once_per_message"
  | eachTime => "each_occurrence"

def title : FullQueueNotice → String
  | never => "None"
  | oncePerMessage => "OncePerMessage"
  | eachTime => "EachOccurrence"

def all : List FullQueueNotice := [never, oncePerMessage, eachTime]

end FullQueueNotice

namespace Settings

/-- A buffer limit is a count, or `-1` for none. -/
def checkBufferLimit (n : Int) : Except ProducerError Unit :=
  if n < -1 then
    .error (.invalidArgument s!"max buffer size must be -1 or non-negative, got {n}")
  else .ok ()

def validate (s : Settings) : Except ProducerError Unit := do
  checkBufferLimit s.bufferLimit
  if s.pollMillis = 0 then
    throw (.invalidSettings "ack_poll_interval_ms must be greater than zero")

/-- The settings themselves, if a producer accepts them. -/
def validated (s : Settings) : Except ProducerError Settings := do
  s.validate
  return s

def pollInterval (s : Settings) : Span := .ofMillis s.pollMillis

/-- Messages are tracked as soon as there is a retry to grant. -/
def tracks (s : Settings) : Bool := 0 < s.retryBudget

/-- Ask for the interval `d`, in whole milliseconds and at least one. The setting is a 64-bit
    count of milliseconds, and a longer request is reduced modulo `2 ^ 64`. -/
def withPollInterval (s : Settings) (d : Span) : Settings :=
  { s with pollMillis := max d.millis 1 % UInt64.size }

/-- The settings as a printed record. -/
def text (s : Settings) : String :=
  "ProducerConfig \x7b max_buffer_size: " ++ toString s.bufferLimit ++
  ", flush_method: " ++ s.flushMode.title ++
  ", max_number_retries: " ++ toString s.retryBudget ++
  ", queue_full_notification: " ++ s.fullQueueNotice.title ++
  ", ack_poll_interval_ms: " ++ toString s.pollMillis ++
  ", queue_capacity_hint: " ++ toString s.capacityHint ++ " \x7d"

end Settings

end Outbox
