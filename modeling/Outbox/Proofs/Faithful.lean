import Mathlib.Logic.Relation
import Outbox.Proofs.Course

/-! Clients on which one can rely. While no message is sent, a client only goes on with its tasks and
    is told things. It is faithful if it reports exactly what it accepted, gives up no flush but for
    want of time, and keeps nobody waiting for ever: its tasks end, flush after flush everything is
    reported at last, and poll after poll there is room for a message at last. -/

namespace Outbox

namespace Client

variable {β : Type}

/-- From `b`, with tasks going on and messages outstanding, the client comes to be elsewhere while
    nothing is sent. -/
inductive Waits (c : Client β) (told : β → β → Prop) (b : β) (T : List c.Task)
    (M : Multiset Message) : β → List c.Task → Multiset Message → Prop where
  | start : Waits c told b T M b T M
  | told {b' b'' T' M'} (h : Waits c told b T M b' T' M') (hb : told b' b'') :
      Waits c told b T M b'' T' M'
  | begin {b' T' M'} (task : c.Task) (h : Waits c told b T M b' T' M')
      (ht : task = c.poll ∨ ∃ timeout, task = c.flush timeout) :
      Waits c told b T M b' (task :: T') M'
  | more {b' b'' T' M' task next clock clock'} (h : Waits c told b T M b' (task :: T') M')
      (hs : c.step task b' clock = (.more next, b'', clock')) :
      Waits c told b T M b'' (next :: T') M'
  | report {b' b'' T' M' task r next clock clock'} (h : Waits c told b T M b' (task :: T') M')
      (hs : c.step task b' clock = (.report r next, b'', clock')) :
      Waits c told b T M b'' (next :: T') (M'.erase (meant M' r.message))
  | finish {b' b'' T' M' task answer clock clock'} (h : Waits c told b T M b' (task :: T') M')
      (hs : c.step task b' clock = (.finished answer, b'', clock')) :
      Waits c told b T M b'' T' M'

section

variable {c : Client β} {told : β → β → Prop} {b₀ b b' b'' : β} {T T' : List c.Task}
  {M M' : Multiset Message}

theorem Waits.tells (h : c.Waits told b T M b' T' M') (hb : Relation.ReflTransGen told b' b'') :
    c.Waits told b T M b'' T' M' := by
  induction hb with
  | refl => exact h
  | tail _ hb ih => exact ih.told hb

theorem Course.waits (h : c.Course told b₀ b T M) (h' : c.Waits told b T M b' T' M') :
    c.Course told b₀ b' T' M' := by
  induction h' with
  | start => exact h
  | told _ hb ih => exact ih.told hb
  | begin task _ ht ih => exact ih.begin task ht
  | more _ hs ih => exact ih.more hs
  | report _ hs ih => exact ih.report hs
  | finish _ hs ih => exact ih.finish hs

end

/-- A task took a step, the second where the first is now, and the client was told things then. -/
def Onward (c : Client β) (told : β → β → Prop) (now before : c.Task × β) : Prop :=
  ∃ b clock clock', Relation.ReflTransGen told b now.2 ∧
    (c.step before.1 before.2 clock = (.more now.1, b, clock') ∨
      ∃ r, c.step before.1 before.2 clock = (.report r now.1, b, clock'))

/-- Something was outstanding, and the client was flushed. -/
def Flushed (c : Client β) (told : β → β → Prop) (now before : β × Multiset Message) : Prop :=
  before.2 ≠ 0 ∧ ∃ timeout, c.Waits told before.1 [c.flush timeout] before.2 now.1 [] now.2

/-- The message was offered, the queue was full, and the client was polled. -/
def Rebuffed (c : Client β) (told : β → β → Prop) (m : Message)
    (now before : β × Multiset Message) : Prop :=
  ∃ e b, e.isQueueFull = true ∧ c.send m before.1 = (.error e, b) ∧
    c.Waits told b [c.poll] before.2 now.1 [] now.2

/-- The client can be relied on. -/
structure Faithful (c : Client β) (told : β → β → Prop) (b₀ : β) : Prop where
  exact : c.Exact told b₀
  unfailing : ¬ c.MayFail
  ending : ∀ {b T M task}, c.Course told b₀ b (task :: T) M → Acc (c.Onward told) (task, b)
  reporting : ∀ {b M}, c.Course told b₀ b [] M → Acc (c.Flushed told) (b, M)
  yielding : ∀ {b M}, c.Course told b₀ b [] M → ∀ m, Acc (c.Rebuffed told m) (b, M)

end Client

end Outbox
