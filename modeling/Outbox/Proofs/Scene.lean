import Mathlib.Data.Multiset.AddSub
import Mathlib.Logic.Relation
import Outbox.Proofs.Course
import Outbox.Proofs.World

/-! What goes on inside an operation. While an operation runs, a message may be in no buffer and not
    at the broker: it is in hand, at a certain place on its way, and a caller may be waiting for its
    outcome. A scene is the world together with what is in hand, who waits, which tasks of the
    broker are going on and what the broker has yet to report.

    Whatever a producer does is a sequence of moves, each of which brings one message from one place
    to the next or touches no message at all. A move is small enough that no hook is called within
    it and large enough that every message is in its place before and after. The moves ask for less
    than the program has: any message in hand may go next, whoever it belongs to. What holds of
    every sequence of moves holds of every operation with every hook, nested as deep as one likes. -/

namespace Outbox

/-- A place of a message on its way. The callers named here are slots of its tracker: somebody is
    going to look into that one for the outcome. -/
inductive Place where
  /-- In a buffer. -/
  | stocked
  /-- Accepted by the broker and not reported. -/
  | flying
  /-- To be offered to the broker next. -/
  | ready (caller : Option Nat)
  /-- With a waiting caller, between two attempts. -/
  | engaged
  /-- Refused, and the hook has not been asked. -/
  | refused (caller : Option Nat) (cause : BrokerError)
  /-- Refused, and the hook has been asked. -/
  | pleaded (caller : Option Nat) (cause : BrokerError)
  /-- Dropped after a refusal, and the hook has not been told. -/
  | forsaken (cause : BrokerError)
  /-- Dropped after a refusal, and the hook has been told. -/
  | parted
  /-- Reported, and the hook has not been told. -/
  | reported (tracker : Option TrackingId) (failure : Option BrokerError)
  /-- Reported, and the hook has been told. -/
  | heard (tracker : Option TrackingId) (failure : Option BrokerError)
  /-- Dropped after a failed delivery, and the hook has not been told. -/
  | lost (tracker : Option TrackingId) (cause : BrokerError)
  /-- Concluded after a report that is yet to be acknowledged. -/
  | settled (tracker : Option TrackingId) (failure : Option BrokerError)

/-- The hook that is told when a message goes from one place to the next. -/
inductive Place.Tells : Place → HookKind → Option BrokerError → Place → Prop where
  | delivered (k) : Tells (.reported k none) .delivered none (.heard k none)
  | deliveryFailed (k e) :
      Tells (.reported k (some e)) .deliveryFailed (some e) (.heard k (some e))
  | deliveryAbandoned (k e) :
      Tells (.lost k e) .deliveryAbandoned (some e) (.settled k (some e))
  | sendFailed (w e) : Tells (.refused w e) .sendFailed (some e) (.pleaded w e)
  | sendAbandoned (e) : Tells (.forsaken e) .sendAbandoned (some e) .parted

/-- Somebody who called is with the message. -/
@[simp] def Place.isCaller : Place → Bool
  | ready w | refused w _ | pleaded w _ => w.isSome
  | engaged => true
  | _ => false

theorem Place.Tells.isCaller_eq {p p' : Place} {kind : HookKind} {e : Option BrokerError}
    (h : p.Tells kind e p') : p'.isCaller = p.isCaller := by
  cases h <;> rfl

/-- The event says nothing about what becomes of any message. -/
def Event.isAside : Event → Bool
  | polled | flushBegan _ | flushEnded _ | hookReturned _ | remarked .. => true
  | hookCalled .queueFull .. => true
  | _ => false

/-- A message was offered. -/
def Event.isOffer : Event → Bool
  | offered .. => true
  | _ => false

/-- The hook that was asked last said no. -/
def Vetoed (J : List Entry) : Prop := J.head?.map (·.event) = some (.hookReturned false)

/-- The change leaves alone what messages and counters depend on. No hook is taken away by it, and
    tracking is not switched off. -/
structure Producer.Spares {κ : Type} (f : Producer κ → Producer κ) : Prop where
  regular : ∀ p, (f p).regular = p.regular
  retry : ∀ p, (f p).retry = p.retry
  trackers : ∀ p, (f p).trackers = p.trackers
  counters : ∀ p, (f p).counters = { p.counters with flushing := (f p).counters.flushing }
  hooks : ∀ p kind, (p.hooks.find? kind).isSome = true → ((f p).hooks.find? kind).isSome = true
  tracking : ∀ p, p.tracking = true → (f p).tracking = true

/-! ### Scenes and moves -/

/-- The tasks going on, the one begun last in front; what is in hand; who waits, each with its slot;
    what the broker has yet to report; and the world. -/
structure Scene {β : Type} (c : Client β) (κ α : Type) where
  tasks : List c.Task
  hands : Multiset (Place × Message)
  waits : Multiset (Nat × Message)
  flight : Multiset Message
  world : World β κ α

variable {β κ α : Type}

/-- What is possible in the moves under consideration. -/
structure Law where
  /-- A caller is left without an outcome because the client fails. -/
  failing : Prop
  /-- A caller comes in while there is another one. -/
  nested : Prop

/-- There is no caller. -/
def Idle (H : Multiset (Place × Message)) (W : Multiset (Nat × Message)) : Prop :=
  (∀ h ∈ H, h.1.isCaller = false) ∧ W = 0

theorem idle_zero : Idle 0 0 := ⟨by simp, rfl⟩

/-- One thing that happens. `told` are the changes that the client suffers from outside. -/
inductive Move (c : Client β) (told : β → β → Prop) (law : Law) :
    Scene c κ α → Scene c κ α → Prop where
  -- No message is touched.
  | outside {T H W M} {s t : World β κ α} (hp : t.producer = s.producer)
      (hj : t.journal = s.journal) (hb : t.broker = s.broker ∨ told s.broker t.broker) :
      Move c told law ⟨T, H, W, M, s⟩ ⟨T, H, W, M, t⟩
  | aside {T H W M} {s : World β κ α} {e : Event} (he : e.isAside = true) :
      Move c told law ⟨T, H, W, M, s⟩ ⟨T, H, W, M, s.noted e⟩
  | adjust {T H W M} {s : World β κ α} {f : Producer κ → Producer κ} (hf : Producer.Spares f) :
      Move c told law ⟨T, H, W, M, s⟩ ⟨T, H, W, M, s.amended f⟩
  | vain {T H W M} {s : World β κ α} {id : TrackingId} (hg : s.grants id = none) :
      Move c told law ⟨T, H, W, M, s⟩
        ⟨T, H, W, M, s.retracked (·.update id (·.claimRetry.2))⟩
  | arrange {T H W M} {s : World β κ α} (regular retry : Buffer)
      (hb : (regular.messages : Multiset Message) + (retry.messages : Multiset Message) =
        s.stock) :
      Move c told law ⟨T, H, W, M, s⟩ ⟨T, H, W, M, s.rebuffered regular retry⟩
  -- A message comes in, and waits in a buffer or in hand.
  | submit {T H W M} {s : World β κ α} (m : Message) :
      Move c told law ⟨T, H, W, M, s⟩
        ⟨T, (.ready none, m) ::ₘ H, W, M, s.noted (.submitted m)⟩
  | attach {T H W M} {s : World β κ α} {m : Message} (ht : s.producer.tracking = true) :
      Move c told law ⟨T, (.ready none, m) ::ₘ H, W, M, s⟩
        ⟨T, (.ready none, (s.attach m .async s.producer.settings.retryBudget).2.1) ::ₘ H, W, M,
          (s.attach m .async s.producer.settings.retryBudget).2.2⟩
  | store {T H W M} {s : World β κ α} {m : Message} (regular retry : Buffer)
      (hb : (regular.messages : Multiset Message) + (retry.messages : Multiset Message) =
        m ::ₘ s.stock) :
      Move c told law ⟨T, (.ready none, m) ::ₘ H, W, M, s⟩
        ⟨T, H, W, M, s.rebuffered regular retry⟩
  | take {T H W M} {s : World β κ α} {m : Message} (regular retry : Buffer)
      (hb : s.stock =
        m ::ₘ ((regular.messages : Multiset Message) + (retry.messages : Multiset Message))) :
      Move c told law ⟨T, H, W, M, s⟩
        ⟨T, (.ready none, m) ::ₘ H, W, M, s.rebuffered regular retry⟩
  | discard {T H W M} {s : World β κ α} {m : Message} :
      Move c told law ⟨T, (.ready none, m) ::ₘ H, W, M, s⟩ ⟨T, H, W, M, s.discarded m⟩
  -- It is offered to the broker.
  | accept {T H W M} {s : World β κ α} {w : Option Nat} {m : Message} {b : β}
      (hs : c.send m s.broker = (.ok (), b)) :
      Move c told law ⟨T, (.ready w, m) ::ₘ H, W, M, s⟩
        ⟨T, H, w.elim W fun slot => (slot, m) ::ₘ W, m ::ₘ M, s.accepted b m⟩
  | full {T H W M} {s : World β κ α} {w : Option Nat} {m : Message} {b : β} {e : BrokerError}
      (hs : c.send m s.broker = (.error e, b)) (he : e.isQueueFull = true) :
      Move c told law ⟨T, (.ready w, m) ::ₘ H, W, M, s⟩
        ⟨T, (.ready w, m) ::ₘ H, W, M, (s.refused b m e).marked .queueFull⟩
  | refuse {T H W M} {s : World β κ α} {w : Option Nat} {m : Message} {b : β} {e : BrokerError}
      (hs : c.send m s.broker = (.error e, b)) (he : e.isQueueFull = false) :
      Move c told law ⟨T, (.ready w, m) ::ₘ H, W, M, s⟩
        ⟨T, (.refused w e, m) ::ₘ H, W, M, s.refused b m e⟩
  -- A hook is told, or it is not registered.
  | tell {T H W M} {s : World β κ α} {p p' : Place} {m : Message} {kind : HookKind}
      {e : Option BrokerError} (hp : p.Tells kind e p') :
      Move c told law ⟨T, (p, m) ::ₘ H, W, M, s⟩
        ⟨T, (p', m) ::ₘ H, W, M, s.noted (.hookCalled kind m e)⟩
  | hush {T H W M} {s : World β κ α} {p p' : Place} {m : Message} {kind : HookKind}
      {e : Option BrokerError} (hp : p.Tells kind e p')
      (hk : s.producer.hooks.find? kind = none) :
      Move c told law ⟨T, (p, m) ::ₘ H, W, M, s⟩ ⟨T, (p', m) ::ₘ H, W, M, s⟩
  -- A refused message is sent again, or it is dropped, by a veto or for want of a retry.
  | requeue {T H W M} {s : World β κ α} {e : BrokerError} {m : Message} {id : TrackingId}
      {sender : Sender} (hm : s.producer.trackers.find? m = some id)
      (hg : s.grants id = some sender) :
      Move c told law ⟨T, (.pleaded none e, m) ::ₘ H, W, M, s⟩
        ⟨T, (.ready none, m) ::ₘ H, W, M, s.granted id m⟩
  | retake {T H W M} {s : World β κ α} {slot : Nat} {e : BrokerError} {m : Message}
      {id : TrackingId} {sender : Sender} (hm : s.producer.trackers.find? m = some id)
      (hg : s.grants id = some sender) :
      Move c told law ⟨T, (.pleaded (some slot) e, m) ::ₘ H, W, M, s⟩
        ⟨T, (.engaged, m) ::ₘ H, W, M, s.granted id m⟩
  | forsake {T H W M} {s : World β κ α} {w : Option Nat} {e : BrokerError} {m : Message}
      (hv : Vetoed s.journal ∨ ∀ id, s.producer.trackers.find? m = some id → s.grants id = none) :
      Move c told law ⟨T, (.pleaded w e, m) ::ₘ H, W, M, s⟩
        ⟨T, (.forsaken e, m) ::ₘ H, W, M, s.dropped m e⟩
  | part {T H W M} {s : World β κ α} {m : Message} :
      Move c told law ⟨T, (.parted, m) ::ₘ H, W, M, s⟩ ⟨T, H, W, M, s⟩
  -- A task of the broker goes on, and may report.
  | begin {T H W M} {s : World β κ α} (task : c.Task)
      (ht : task = c.poll ∨ ∃ timeout, task = c.flush timeout) :
      Move c told law ⟨T, H, W, M, s⟩ ⟨task :: T, H, W, M, s⟩
  | more {T H W M} {s : World β κ α} {task next : c.Task} {b : β} {clock : Clock}
      (hs : c.step task s.broker s.clock = (.more next, b, clock)) :
      Move c told law ⟨task :: T, H, W, M, s⟩ ⟨next :: T, H, W, M, s.turned b clock⟩
  | report {T H W M} {s : World β κ α} {task next : c.Task} {r : DeliveryReport} {b : β}
      {clock : Clock} (hs : c.step task s.broker s.clock = (.report r next, b, clock)) :
      Move c told law ⟨task :: T, H, W, M, s⟩
        ⟨next :: T,
          (.reported (s.producer.trackers.find? r.message) r.failure, r.message) ::ₘ H, W,
          M.erase (meant M r.message), s.turned b clock⟩
  | finish {T H W M} {s : World β κ α} {task : c.Task} {answer : BrokerAnswer} {b : β}
      {clock : Clock} (hs : c.step task s.broker s.clock = (.finished answer, b, clock)) :
      Move c told law ⟨task :: T, H, W, M, s⟩ ⟨T, H, W, M, s.turned b clock⟩
  -- A reported message is done with, or it is sent again by a later flush or by who waits for it.
  | deliver {T H W M} {s : World β κ α} {k : Option TrackingId} {m : Message} :
      Move c told law ⟨T, (.heard k none, m) ::ₘ H, W, M, s⟩
        ⟨T, (.settled k none, m) ::ₘ H, W, M, s.delivered m⟩
  | lose {T H W M} {s : World β κ α} {k : Option TrackingId} {e : BrokerError} {m : Message}
      (hv : Vetoed s.journal ∨ ∀ id, k = some id → s.grants id = none) :
      Move c told law ⟨T, (.heard k (some e), m) ::ₘ H, W, M, s⟩
        ⟨T, (.lost k e, m) ::ₘ H, W, M, s.dropped m e⟩
  | acknowledge {T H W M} {s : World β κ α} {k : Option TrackingId} {f : Option BrokerError}
      {m : Message} (hk : ∀ id, k = some id → m.tracking = some id) :
      Move c told law ⟨T, (.settled k f, m) ::ₘ H, W, M, s⟩
        ⟨T, H, W, M, s.acknowledged k (f.elim .delivered .dropped) m⟩
  | regain {T H W M} {s : World β κ α} {id : TrackingId} {e : BrokerError} {m : Message}
      (regular retry : Buffer) (hm : m.tracking = some id) (hg : s.grants id = some .async)
      (hb : (regular.messages : Multiset Message) + (retry.messages : Multiset Message) =
        m ::ₘ s.stock) :
      Move c told law ⟨T, (.heard (some id) (some e), m) ::ₘ H, W, M, s⟩
        ⟨T, H, W, M,
          ((s.granted id m).rebuffered regular retry).acknowledged (some id) .retry m⟩
  | leave {T H W M} {s : World β κ α} {id : TrackingId} {e : BrokerError} {m : Message}
      (hm : m.tracking = some id) (hg : s.grants id = some .sync) :
      Move c told law ⟨T, (.heard (some id) (some e), m) ::ₘ H, W, M, s⟩
        ⟨T, H, W, M, (s.granted id m).acknowledged (some id) .retry m⟩
  -- A caller waits for a message.
  | engage {T H W M} {s : World β κ α} {m : Message} (hn : law.nested ∨ Idle H W) :
      Move c told law ⟨T, (.ready none, m) ::ₘ H, W, M, s⟩
        ⟨T, (.engaged, (s.engage m).1) ::ₘ H, W, M, (s.engage m).2⟩
  | arm {T H W M} {s : World β κ α} {m : Message} {id : TrackingId}
      (hm : m.tracking = some id) :
      Move c told law ⟨T, (.engaged, m) ::ₘ H, W, M, s⟩
        ⟨T, (.ready (some (s.nextSlot id)), m) ::ₘ H, W, M, s.retracked (·.update id (·.arm.2))⟩
  | retry {T H W M} {s : World β κ α} {slot : Nat} {m : Message} {id : TrackingId}
      (hm : m.tracking = some id) (hr : s.receipt id slot = .outcome .retry) :
      Move c told law ⟨T, H, (slot, m) ::ₘ W, M, s⟩
        ⟨T, (.engaged, m) ::ₘ H, W, M, s.looked id slot⟩
  | learn {T H W M} {s : World β κ α} {slot : Nat} {m : Message} {id : TrackingId}
      (hm : m.tracking = some id) (hr : s.receipt id slot ≠ .outcome .retry)
      (hp : s.producer.counters.pending = 0) :
      Move c told law ⟨T, H, (slot, m) ::ₘ W, M, s⟩ ⟨T, H, W, M, s.looked id slot⟩
  | giveUp {T H W M} {s : World β κ α} {slot : Nat} {m : Message} {id : TrackingId}
      (hm : m.tracking = some id) (hf : law.failing) :
      Move c told law ⟨T, H, (slot, m) ::ₘ W, M, s⟩ ⟨T, H, W, M, s.entrusted id .async⟩

/-! ### Sequences of moves -/

/-- Moves lead from one scene to another, whatever the broker has yet to report. -/
def Leads (c : Client β) (told : β → β → Prop) (law : Law)
    (A B : Multiset Message → Scene c κ α) : Prop :=
  ∀ M, ∃ M', Relation.ReflTransGen (Move c told law) (A M) (B M')

namespace Leads

variable {c : Client β} {told : β → β → Prop} {law : Law}
  {A B C : Multiset Message → Scene c κ α}

theorem refl : Leads c told law A A := fun M => ⟨M, .refl⟩

theorem trans (h₁ : Leads c told law A B) (h₂ : Leads c told law B C) : Leads c told law A C := by
  intro M
  obtain ⟨M₁, h₁⟩ := h₁ M
  obtain ⟨M₂, h₂⟩ := h₂ M₁
  exact ⟨M₂, h₁.trans h₂⟩

instance : Trans (Leads (κ := κ) (α := α) c told law) (Leads c told law) (Leads c told law) :=
  ⟨trans⟩

/-- A move that leaves alone what the broker has yet to report. -/
theorem move (h : ∀ M, Move c told law (A M) (B M)) : Leads c told law A B :=
  fun M => ⟨M, .single (h M)⟩

/-- A move after which the broker has more or less to report. -/
theorem move_flight (g : Multiset Message → Multiset Message)
    (h : ∀ M, Move c told law (A M) (B (g M))) : Leads c told law A B :=
  fun M => ⟨g M, .single (h M)⟩

end Leads

end Outbox
