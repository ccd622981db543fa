import Outbox.Broker.Error

/-! A tracker accompanies one message through its sends. It holds the retries the message has left,
    who sends it again after a failure, and where the outcome of the present attempt is to be
    written.

    The place for an outcome is a slot. Each attempt of a waiting caller opens a slot of its own,
    and from then on the slot before it waits no more; an outcome is written into the slot that
    waits, at most once, and read out of it at most once. So an outcome that comes late can never be
    taken for the outcome of a later attempt. Slots are numbered in the order in which they were
    opened. Of the slots only the newest can be waiting, and of the others only those matter that
    hold an outcome which nobody has read. -/

namespace Outbox

/-- Who sends a message again: the caller that waits for it, or a later flush. -/
inductive Sender where
  | sync
  | async
  deriving DecidableEq

/-- How one attempt to deliver a message ended. -/
inductive Outcome where
  | delivered
  | retry
  | dropped (cause : BrokerError)
  deriving DecidableEq

/-- What is found on looking into a slot. -/
inductive Receipt where
  | outcome (o : Outcome)
  | empty
  | disconnected
  deriving DecidableEq

structure Tracker where
  sender : Sender
  /-- Retries left. -/
  remaining : Nat
  /-- Slots opened so far. -/
  opened : Nat := 0
  /-- Does the newest slot wait for its outcome? -/
  waiting : Bool := false
  /-- Outcomes that were written and not read, with the numbers of their slots. -/
  unread : List (Nat × Outcome) := []
  deriving DecidableEq

namespace Tracker

/-- Spend one retry and say who sends again, if a retry is left. -/
def claimRetry (t : Tracker) : Option Sender × Tracker :=
  match t.remaining with
  | 0 => (none, t)
  | n + 1 => (some t.sender, { t with remaining := n })

def setSender (t : Tracker) (s : Sender) : Tracker := { t with sender := s }

/-- Open a slot for a new attempt. -/
def arm (t : Tracker) : Nat × Tracker :=
  (t.opened, { t with opened := t.opened + 1, waiting := true })

/-- Write the outcome into the slot that waits, if there is one. -/
def complete (t : Tracker) (o : Outcome) : Tracker :=
  if t.waiting then { t with waiting := false, unread := (t.opened - 1, o) :: t.unread } else t

/-- Does slot `i` wait for its outcome? -/
def waits (t : Tracker) (i : Nat) : Bool := t.waiting && i + 1 == t.opened

/-- The tracker without the outcome in slot `i`. -/
def discard (t : Tracker) (i : Nat) : Tracker := { t with unread := t.unread.filter (·.1 ≠ i) }

/-- Look into slot `i` without waiting; an outcome that is found is taken out. -/
def receive (t : Tracker) (i : Nat) : Receipt × Tracker :=
  if t.waits i then (.empty, t)
  else
    match t.unread.lookup i with
    | some o => (.outcome o, t.discard i)
    | none => (.disconnected, t)

/-- Nobody will look into slot `i` again. -/
def abandon (t : Tracker) (i : Nat) : Tracker :=
  if t.waits i then { t with waiting := false } else t.discard i

@[simp] theorem claimRetry_zero {t : Tracker} (h : t.remaining = 0) :
    t.claimRetry = (none, t) := by
  simp [claimRetry, h]

theorem remaining_claimRetry (t : Tracker) : t.claimRetry.2.remaining = t.remaining - 1 := by
  unfold claimRetry; split <;> simp_all

theorem claimRetry_fst (t : Tracker) :
    t.claimRetry.1 = if t.remaining = 0 then none else some t.sender := by
  unfold claimRetry; split <;> simp_all

end Tracker

end Outbox
