/-! The counters of a producer. `pending` counts messages the broker has accepted and not yet
    reported; it goes up before a send, so that a report can never find it at zero, and comes down
    again when the send is refused. `produced` and `dropped` count final outcomes. The rest tells
    what it took: sends, resends and full queues. -/

namespace Outbox

structure Counters where
  pending : Nat := 0
  flushing : Nat := 0
  produced : Nat := 0
  dropped : Nat := 0
  attempts : Nat := 0
  retries : Nat := 0
  queueFull : Nat := 0
  deriving DecidableEq

/-- What the counters take note of. -/
inductive Mark where
  | offered
  | acknowledged
  | refused
  | produced
  | dropped
  | retried
  | queueFull
  | flushBegan
  | flushEnded
  deriving DecidableEq

namespace Counters

/-- Take note of one thing. An acknowledgement when none is due changes nothing. -/
def mark (c : Counters) : Mark → Counters
  | .offered => { c with pending := c.pending + 1, attempts := c.attempts + 1 }
  | .acknowledged | .refused => { c with pending := c.pending - 1 }
  | .produced => { c with produced := c.produced + 1 }
  | .dropped => { c with dropped := c.dropped + 1 }
  | .retried => { c with retries := c.retries + 1 }
  | .queueFull => { c with queueFull := c.queueFull + 1 }
  | .flushBegan => { c with flushing := c.flushing + 1 }
  | .flushEnded => { c with flushing := c.flushing - 1 }

/-- Messages with a final outcome. -/
def completed (c : Counters) : Nat := c.produced + c.dropped

/-- The counters as a printed record. -/
def text (c : Counters) : String :=
  "MetricsSnapshot \x7b pending_acks: " ++ toString c.pending ++
  ", flushes_in_progress: " ++ toString c.flushing ++
  ", total_produced: " ++ toString c.produced ++
  ", total_dropped: " ++ toString c.dropped ++
  ", send_attempts: " ++ toString c.attempts ++
  ", retries: " ++ toString c.retries ++
  ", queue_full_events: " ++ toString c.queueFull ++ " \x7d"

end Counters

end Outbox
