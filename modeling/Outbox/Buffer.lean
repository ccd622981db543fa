import Outbox.Line
import Outbox.Message

/-! A buffer holds messages until a flush takes them. A flush takes the whole content as a batch,
    works on the batch while the buffer may fill again, and puts what it could not send back in
    front of everything that came in meanwhile. -/

namespace Outbox

/-- Messages taken out of a buffer, oldest first. -/
abbrev Batch := List Message

structure Buffer where
  line : Line Message := .empty

namespace Buffer

/-- What is in the buffer, oldest first. -/
def messages (b : Buffer) : List Message := b.line.toList

def size (b : Buffer) : Nat := b.line.size

def pushBack (b : Buffer) (m : Message) : Buffer := ⟨b.line.pushBack m⟩

def pushFront (b : Buffer) (m : Message) : Buffer := ⟨b.line.pushFront m⟩

/-- The whole content, and an empty buffer in its place. -/
def take (b : Buffer) : Batch × Buffer := (b.messages, {})

/-- Put a batch back ahead of all that was buffered since it was taken. -/
def restoreFront (b : Buffer) (batch : Batch) : Buffer := ⟨b.line.behind batch⟩

@[simp] theorem length_messages (b : Buffer) : b.messages.length = b.size := b.line.length_toList

@[simp] theorem messages_pushBack (b : Buffer) (m : Message) :
    (b.pushBack m).messages = b.messages ++ [m] := b.line.toList_pushBack m

@[simp] theorem messages_pushFront (b : Buffer) (m : Message) :
    (b.pushFront m).messages = m :: b.messages := rfl

@[simp] theorem messages_restoreFront (b : Buffer) (batch : Batch) :
    (b.restoreFront batch).messages = batch ++ b.messages := b.line.toList_behind batch

@[simp] theorem take_fst (b : Buffer) : b.take.1 = b.messages := rfl

@[simp] theorem messages_take_snd (b : Buffer) : b.take.2.messages = [] := rfl

end Buffer

end Outbox
