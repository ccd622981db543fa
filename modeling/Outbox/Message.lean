import Outbox.Message.Headers

/-! A message is a value bound for a topic. The broker carries it unchanged and hands it back in the
    delivery report, so everything the producer must recognise later travels inside it: that is the
    tracking id, which names the retry tracker of the message. An id belongs to the producer that
    issued it, its `scope`; within a scope ids are numbered from zero. -/

namespace Outbox

structure TrackingId where
  scope : Nat
  sequence : Nat
  deriving DecidableEq

namespace TrackingId

instance : ToString TrackingId := ⟨fun id => s!"#{id.scope}.{id.sequence}"⟩

/-- Ids are ordered by scope, and within a scope by number. -/
def precedes (a b : TrackingId) : Bool :=
  a.scope < b.scope || (a.scope == b.scope && a.sequence ≤ b.sequence)

end TrackingId

structure Message where
  topic : String
  partition : Option UInt32 := none
  key : Option ByteArray := none
  payload : ByteArray := .empty
  headers : Headers := .empty
  tracking : Option TrackingId := none
  deriving DecidableEq

namespace Message

/-- Bytes of key and payload together; topic and headers do not count. -/
def size (m : Message) : Nat := m.payload.size + m.key.elim 0 (·.size)

/-- The message without its tracking id. -/
def untracked (m : Message) : Message := { m with tracking := none }

/-- Only what every message has: its topic and its payload. -/
def bare (m : Message) : Message := { topic := m.topic, payload := m.payload }

end Message

end Outbox
