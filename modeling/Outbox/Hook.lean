import Outbox.Broker.Error
import Outbox.Message

/-! Hooks are the places where an application is told what happens to its messages, and in two of
    them asked: a hook on a failure answers whether the message may be tried again. Every hook is
    optional, and an unregistered one gives no answer at all, which is not the same as a refusal.
    The registry knows nothing of what a hook does; `κ` is whatever stands for one. -/

namespace Outbox

inductive HookKind where
  /-- The message was delivered. -/
  | delivered
  /-- Delivery failed; may it be tried again? -/
  | deliveryFailed
  /-- The message was dropped after a failed delivery. -/
  | deliveryAbandoned
  /-- The broker refused the message; may it be tried again? -/
  | sendFailed
  /-- The message was dropped after a refusal. -/
  | sendAbandoned
  /-- The broker's queue is full and the message waits. -/
  | queueFull
  deriving DecidableEq

namespace HookKind

def name : HookKind → String
  | delivered => "produce_success"
  | deliveryFailed => "produce_failure"
  | deliveryAbandoned => "produce_termination"
  | sendFailed => "flush_failure"
  | sendAbandoned => "flush_termination"
  | queueFull => "queue_full"

def all : List HookKind :=
  [delivered, deliveryFailed, deliveryAbandoned, sendFailed, sendAbandoned, queueFull]

/-- The hook's answer decides something. -/
def isAsked : HookKind → Bool
  | deliveryFailed | sendFailed => true
  | _ => false

/-- The hook is told a broker error beside the message. -/
def isToldError : HookKind → Bool
  | delivered | queueFull => false
  | _ => true

end HookKind

/-- Which hooks are registered. -/
structure Hooks (κ : Type) where
  delivered : Option κ := none
  deliveryFailed : Option κ := none
  deliveryAbandoned : Option κ := none
  sendFailed : Option κ := none
  sendAbandoned : Option κ := none
  queueFull : Option κ := none

namespace Hooks

variable {κ : Type}

def find? (h : Hooks κ) : HookKind → Option κ
  | .delivered => h.delivered
  | .deliveryFailed => h.deliveryFailed
  | .deliveryAbandoned => h.deliveryAbandoned
  | .sendFailed => h.sendFailed
  | .sendAbandoned => h.sendAbandoned
  | .queueFull => h.queueFull

/-- Register a hook, or with `none` take it away. -/
def set (h : Hooks κ) (kind : HookKind) (hook : Option κ) : Hooks κ :=
  match kind with
  | .delivered => { h with delivered := hook }
  | .deliveryFailed => { h with deliveryFailed := hook }
  | .deliveryAbandoned => { h with deliveryAbandoned := hook }
  | .sendFailed => { h with sendFailed := hook }
  | .sendAbandoned => { h with sendAbandoned := hook }
  | .queueFull => { h with queueFull := hook }

@[simp] theorem find?_set_self (h : Hooks κ) (kind : HookKind) (hook : Option κ) :
    (h.set kind hook).find? kind = hook := by
  cases kind <;> rfl

theorem find?_set_of_ne (h : Hooks κ) {kind k : HookKind} (hook : Option κ) (hk : k ≠ kind) :
    (h.set kind hook).find? k = h.find? k := by
  cases kind <;> cases k <;> simp_all [set, find?]

/-- The registry as a printed record that tells which hooks are there. -/
def text (h : Hooks κ) : String :=
  "Callbacks \x7b " ++
  ", ".intercalate (HookKind.all.map fun k => k.name ++ ": " ++ toString (h.find? k).isSome) ++
  " \x7d"

end Hooks

/-- The `n`-th of the prepared answers; past the end the last one, and yes if there is none. -/
def preparedAnswer (answers : List Bool) (n : Nat) : Bool :=
  answers[n]?.getD (answers.getLast?.getD true)

end Outbox
