/-! Time. A `Span` is a length of time, counted in whole nanoseconds. Timeouts, latencies and the
    interval between two looks at the broker are spans. Whole milliseconds are what settings and
    records keep, so `millis` truncates; the text of a span is exact: it uses the largest unit the
    span fills and as many decimals as the span needs.

    A `Clock` shows the nanoseconds since some start. It is read, and time passes: `drift k` is how
    much of it goes by at the `k`-th reading, so a run can be followed under any sequence of
    readings. Sleeping and waiting move the clock on. A deadline too far ahead to be written down,
    `2 ^ 63` seconds or more, is no deadline. -/

namespace Outbox

structure Span where
  nanos : Nat
  deriving DecidableEq

namespace Span

def zero : Span := ⟨0⟩

def ofParts (seconds nanos : Nat) : Span := ⟨seconds * 1000000000 + nanos⟩

def ofMillis (n : Nat) : Span := ⟨n * 1000000⟩

/-- The longest span that has a name: one nanosecond short of `2 ^ 64` seconds. -/
def longest : Span := ofParts (UInt64.size - 1) 999999999

/-- Whole milliseconds, the rest cut off. -/
def millis (s : Span) : Nat := s.nanos / 1000000

/-- What is left of `s` once `t` has passed, never less than nothing. -/
def minus (s t : Span) : Span := ⟨s.nanos - t.nanos⟩

def isZero (s : Span) : Bool := s.nanos == 0

/-- The digits of `n` as a fraction of `10 ^ places`, without trailing zeros. -/
def fractionDigits (n : Nat) : Nat → List Char
  | 0 => []
  | places + 1 =>
    if n = 0 then []
    else Nat.digitChar (n / Nat.pow 10 places) :: fractionDigits (n % Nat.pow 10 places) places

/-- `n` units of `10 ^ -places`, written as a decimal number. -/
def decimal (n places : Nat) : String :=
  match fractionDigits (n % Nat.pow 10 places) places with
  | [] => toString (n / Nat.pow 10 places)
  | digits => toString (n / Nat.pow 10 places) ++ "." ++ String.ofList digits

/-- The span in seconds, milliseconds, microseconds or nanoseconds, the largest unit it fills. -/
def text (s : Span) : String :=
  if 1000000000 ≤ s.nanos then decimal s.nanos 9 ++ "s"
  else if 1000000 ≤ s.nanos then decimal s.nanos 6 ++ "ms"
  else if 1000 ≤ s.nanos then decimal s.nanos 3 ++ "µs"
  else decimal s.nanos 0 ++ "ns"

end Span

structure Clock where
  now : Nat := 0
  drift : Nat → Nat := fun _ => 0
  readings : Nat := 0

namespace Clock

/-- Read the clock; the time it shows afterwards may be later. -/
def read (c : Clock) : Nat × Clock :=
  (c.now, { c with now := c.now + c.drift c.readings, readings := c.readings + 1 })

def sleep (c : Clock) (s : Span) : Clock := { c with now := c.now + s.nanos }

/-- Wait until the clock shows at least `t`. -/
def waitUntil (c : Clock) (t : Nat) : Clock := { c with now := max c.now t }

end Clock

/-- The moment `s` after `t`, if there is one. -/
def deadlineAfter (t : Nat) (s : Span) : Option Nat :=
  if t + s.nanos < (1 <<< 63) * 1000000000 then some (t + s.nanos) else none

end Outbox
