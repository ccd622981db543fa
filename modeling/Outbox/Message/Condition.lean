import Outbox.Message

/-! Conditions on messages, as data. A broker told to fail or refuse "messages where ..." is given
    a condition; `holds` says which messages meet it. The empty alternative `any []` is met by none
    and the empty conjunction `all []` by every message. -/

namespace Outbox

inductive Condition where
  | always (verdict : Bool)
  | topicIs (topic : String)
  | payloadIs (payload : ByteArray)
  | payloadStarts (lead : ByteArray)
  | keyIs (key : Option ByteArray)
  /-- The number is compared as it stands; one that is too large for a partition meets nothing. -/
  | partitionIs (partition : Option Nat)
  | sizeAtLeast (bytes : Nat)
  | isTracked (verdict : Bool)
  | hasHeader (name : String)
  | not (c : Condition)
  | all (cs : List Condition)
  | any (cs : List Condition)
  deriving Inhabited

namespace Condition

/-- The bytes of `lead` come first in `bytes`. -/
def startsWith (bytes lead : ByteArray) : Bool :=
  lead.size ≤ bytes.size && bytes.extract 0 lead.size == lead

mutual

def holds : Condition → Message → Bool
  | always v, _ => v
  | topicIs t, m => m.topic == t
  | payloadIs p, m => m.payload == p
  | payloadStarts p, m => startsWith m.payload p
  | keyIs k, m => m.key == k
  | partitionIs p, m => m.partition.map UInt32.toNat == p
  | sizeAtLeast n, m => n ≤ m.size
  | isTracked v, m => m.tracking.isSome == v
  | hasHeader n, m => m.headers.contains n
  | not c, m => !c.holds m
  | all cs, m => allHold cs m
  | any cs, m => anyHolds cs m

def allHold : List Condition → Message → Bool
  | [], _ => true
  | c :: cs, m => c.holds m && allHold cs m

def anyHolds : List Condition → Message → Bool
  | [], _ => false
  | c :: cs, m => c.holds m || anyHolds cs m

end

end Condition

end Outbox
