import Outbox.Buffer

/-! A session with buffers: several buffers and the batches that were taken out of them. A batch
    stays outstanding until it is put back, message by message or not at all; it may go back into
    another buffer than the one it came from. -/

namespace Outbox

structure BufferSession where
  buffers : List Buffer
  batches : List Batch := []

/-- What can be done to the buffer a step is about. -/
inductive BufferOp where
  | pushBack (m : Message)
  | pushFront (m : Message)
  | take
  | pop (batch : Nat)
  | restoreFront (batch : Nat)
  | look

inductive BufferReply where
  | done
  | taken (batch : Batch)
  | popped (m : Option Message)
  deriving DecidableEq

namespace BufferSession

def sizes (s : BufferSession) : List Nat := s.buffers.map Buffer.size

/-- More messages than this no buffer has room for. -/
def greatestCapacity : Nat := 1 <<< 48

/-- Empty buffers, if there is room for as many messages as each is asked to have room for. How
    much room a buffer has makes no other difference: it grows as it fills. -/
def start? (capacities : List Nat) : Option BufferSession :=
  if capacities.all (· ≤ greatestCapacity) then some { buffers := capacities.map fun _ => {} }
  else none

/-- A batch that was never taken is an empty one. -/
def batch (s : BufferSession) (i : Nat) : Batch := s.batches[i]?.getD []

/-- Do one thing to buffer `q`. -/
def step (s : BufferSession) (q : Nat) : BufferOp → BufferReply × BufferSession
  | .pushBack m => (.done, { s with buffers := s.buffers.modify q (·.pushBack m) })
  | .pushFront m => (.done, { s with buffers := s.buffers.modify q (·.pushFront m) })
  | .take =>
    let (batch, _) := (s.buffers[q]?.getD {}).take
    (.taken batch,
      { s with buffers := s.buffers.modify q (·.take.2), batches := s.batches ++ [batch] })
  | .pop i => (.popped (s.batch i).head?, { s with batches := s.batches.modify i List.tail })
  | .restoreFront i =>
    (.done,
      { buffers := s.buffers.modify q (·.restoreFront (s.batch i)),
        batches := s.batches.modify i fun _ => [] })
  | .look => (.done, s)

/-- All the steps in turn, each with the buffer it is about. -/
def run (s : BufferSession) (ops : List (Nat × BufferOp)) : BufferSession :=
  ops.foldl (fun s op => (s.step op.1 op.2).2) s

end BufferSession

end Outbox
