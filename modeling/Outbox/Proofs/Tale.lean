import Outbox.Proofs.Story
import Outbox.Proofs.Tally

/-! What the journal tells of one message, and what the counters make of it. The tale of an id is all
    that became of the messages that carry it: their offers, their retries and how they left. Every
    counter of outcomes goes up by what is told of other messages and by what is told in the tale,
    so the tale says what was counted on account of the message. -/

namespace Outbox

variable {β κ α : Type}

/-! ### What the journal tells -/

/-- A hook has just said no. -/
def isVetoed : List Entry → Bool
  | ⟨_, _, .hookReturned false⟩ :: _ => true
  | _ => false

theorem isVetoed_iff {J : List Entry} : isVetoed J = true ↔ Vetoed J := by
  unfold isVetoed
  split
  · simp [Vetoed]
  · next h =>
    simp only [Bool.false_eq_true, false_iff]
    intro hv
    obtain ⟨⟨scope, reading, event⟩, hhead, he⟩ := Option.map_eq_some_iff.mp hv
    obtain ⟨J', rfl⟩ := List.head?_eq_some_iff.mp hhead
    obtain rfl : event = .hookReturned false := he
    exact h _ _ _ rfl

/-- What the journal tells of a message: its offers but for those that met a full queue, its retries
    and its end, the latter two with whether a hook had just said no. -/
inductive Notice where
  | offered (answer : BrokerAnswer)
  | retried (vetoed : Bool)
  | delivered
  | dropped (cause : BrokerError) (vetoed : Bool)
  | cleared

namespace Notice

def isDelivered : Notice → Bool
  | delivered => true
  | _ => false

def isDropped : Notice → Bool
  | dropped _ _ => true
  | _ => false

def isRetried : Notice → Bool
  | retried _ => true
  | _ => false

end Notice

/-- What an event is to a message with the id. -/
def Event.notice (X : TrackingId) (vetoed : Bool) : Event → Option Notice
  | offered m answer =>
    if m.tracking = some X ∧ answer ≠ .error .queueFull then some (.offered answer) else none
  | retried m => if m.tracking = some X then some (.retried vetoed) else none
  | concluded m .delivered => if m.tracking = some X then some .delivered else none
  | concluded m (.dropped e) => if m.tracking = some X then some (.dropped e vetoed) else none
  | concluded m .cleared => if m.tracking = some X then some .cleared else none
  | _ => none

/-- All that the journal tells of the messages with the id, the first in front. -/
def tale (X : TrackingId) : List Entry → List Notice
  | [] => []
  | e :: J => tale X J ++ (e.event.notice X (isVetoed J)).toList

@[simp] theorem tale_cons (X : TrackingId) (e : Entry) (J : List Entry) :
    tale X (e :: J) = tale X J ++ (e.event.notice X (isVetoed J)).toList := rfl

namespace Setback

/-- What the client answered when the message was offered. -/
def answer : Setback → BrokerAnswer
  | undelivered _ => .ok ()
  | refused e => .error e

def cause : Setback → BrokerError
  | undelivered e | refused e => e

/-- The error by which who waits learns of it, if the message is not sent again. -/
def error : Setback → ProducerError
  | undelivered e => .undelivered e
  | refused e => .refused e

/-- What is told of an attempt after which there is another one. -/
def notices (f : Setback) : List Notice := [.offered f.answer, .retried false]

/-- What is told of the last attempt, which met with the setback if there is one. -/
def lastNotices (vetoed : Bool) : Option Setback → List Notice
  | none => [.offered (.ok ()), .delivered]
  | some f => [.offered f.answer, .dropped f.cause vetoed]

/-- What who waits learns of the last attempt. -/
def result : Option Setback → Except ProducerError Unit
  | none => .ok ()
  | some f => .error f.error

end Setback

/-! ### What is counted -/

/-- How many messages with another id the journal tells this of. -/
def others (X : TrackingId) (f : Event → Option Message) (J : List Entry) : Nat :=
  ((gather f J).filter (·.tracking ≠ some X)).card

/-- What the journal tells of messages with the id is part of its tale. -/
theorem card_filter_gather {X : TrackingId} {f : Event → Option Message} {p : Notice → Bool}
    (hf : ∀ e vetoed, (Event.notice X vetoed e).any p = (f e).any (·.tracking = some X))
    (J : List Entry) : ((gather f J).filter (·.tracking = some X)).card = (tale X J).countP p := by
  induction J with
  | nil => rfl
  | cons e J ih =>
    have he := hf e.event (isVetoed J)
    rw [gather_cons, tale_cons, List.countP_append, Multiset.filter_add, Multiset.card_add, ih,
      add_comm]
    congr 1
    cases hm : f e.event with
    | none =>
      cases hn : e.event.notice X (isVetoed J) with
      | none => rfl
      | some n =>
        rw [hm, hn] at he
        have hp : p n = false := he
        simp [hp]
    | some m =>
      cases hn : e.event.notice X (isVetoed J) with
      | none =>
        rw [hm, hn] at he
        have hX : ¬ m.tracking = some X := by simpa using he.symm
        simp [Multiset.filter_singleton, hX]
      | some n =>
        rw [hm, hn] at he
        have hp : p n = decide (m.tracking = some X) := he
        by_cases hX : m.tracking = some X <;> simp [Multiset.filter_singleton, hX, hp]

/-- What was told since is of other messages, or it is told in the tale. -/
theorem card_gather_since {X : TrackingId} {f : Event → Option Message} {p : Notice → Bool}
    (hf : ∀ e vetoed, (Event.notice X vetoed e).any p = (f e).any (·.tracking = some X))
    {J J' : List Entry} {new : List Notice} (htold : tale X (J' ++ J) = tale X J ++ new) :
    (gather f (J' ++ J)).card = (gather f J).card + others X f J' + new.countP p := by
  have happend : gather f (J' ++ J) = gather f J' + gather f J := by
    rw [gather, List.filterMap_append]
    rfl
  have hsplit : others X f J' + ((gather f J').filter (·.tracking = some X)).card =
      (gather f J').card := by
    rw [others, ← Multiset.card_add, add_comm, Multiset.filter_add_not]
  have hown : ((gather f J').filter (·.tracking = some X)).card = new.countP p := by
    have hall := card_filter_gather hf (J' ++ J)
    rw [htold, List.countP_append, ← card_filter_gather hf J, happend, Multiset.filter_add,
      Multiset.card_add] at hall
    omega
  rw [happend, Multiset.card_add]
  omega

section

variable (X : TrackingId) (e : Event) (vetoed : Bool)

theorem any_isDelivered : (e.notice X vetoed).any Notice.isDelivered =
    (e.leaving Fate.isDelivered).any (·.tracking = some X) := by
  cases e with
  | concluded m fate =>
    cases fate <;> by_cases hm : m.tracking = some X <;>
      simp [Event.notice, Event.leaving, Fate.isDelivered, Notice.isDelivered, hm]
  | offered m _ | retried m => simp only [Event.notice]; split_ifs <;> rfl
  | _ => rfl

theorem any_isDropped : (e.notice X vetoed).any Notice.isDropped =
    (e.leaving Fate.isDropped).any (·.tracking = some X) := by
  cases e with
  | concluded m fate =>
    cases fate <;> by_cases hm : m.tracking = some X <;>
      simp [Event.notice, Event.leaving, Fate.isDropped, Notice.isDropped, hm]
  | offered m _ | retried m => simp only [Event.notice]; split_ifs <;> rfl
  | _ => rfl

theorem any_isRetried : (e.notice X vetoed).any Notice.isRetried =
    e.renewing.any (·.tracking = some X) := by
  cases e with
  | concluded m fate => cases fate <;> simp only [Event.notice] <;> split_ifs <;> rfl
  | offered m _ => simp only [Event.notice]; split_ifs <;> rfl
  | retried m =>
    by_cases hm : m.tracking = some X <;>
      simp [Event.notice, Event.renewing, Notice.isRetried, hm]
  | _ => rfl

end

/-- From `s` to `t` the journal got longer by `J`. The counters went up by what became of other
    messages and, on the account of the message with the id, by so much. -/
structure Site.Charged (X : TrackingId) (produced dropped retries : Nat) (J : List Entry)
    (s t : World β κ α) : Prop where
  journal : t.journal = J ++ s.journal
  produced : t.producer.counters.produced =
    s.producer.counters.produced + others X (·.leaving Fate.isDelivered) J + produced
  dropped : t.producer.counters.dropped =
    s.producer.counters.dropped + others X (·.leaving Fate.isDropped) J + dropped
  retries : t.producer.counters.retries =
    s.producer.counters.retries + others X Event.renewing J + retries

/-- The counters follow the tale. -/
theorem Site.charged_of_told {X : TrackingId} {s t : World β κ α} (hs : s.Counted) (ht : t.Counted)
    (hs' : s.Renewed) (ht' : t.Renewed) (hj : s.journal <:+ t.journal) {new : List Notice}
    (htold : tale X t.journal = tale X s.journal ++ new) :
    ∃ J, s.Charged X (new.countP Notice.isDelivered) (new.countP Notice.isDropped)
      (new.countP Notice.isRetried) J t := by
  obtain ⟨J, hJ⟩ := hj
  rw [← hJ] at htold
  refine ⟨J, hJ.symm, ?_, ?_, ?_⟩
  · rw [ht.produced, hs.produced, ← hJ]
    exact card_gather_since (any_isDelivered X) htold
  · rw [ht.dropped, hs.dropped, ← hJ]
    exact card_gather_since (any_isDropped X) htold
  · rw [ht', hs', ← hJ]
    exact card_gather_since (any_isRetried X) htold

namespace Setback

variable (fs : List Setback) (last : Option Setback) (vetoed : Bool)

/-- Of each attempt after which there is another one, the retry is told. -/
theorem countP_rounds {p : Notice → Bool} (hp : ∀ answer, p (.offered answer) = false) :
    (fs.flatMap notices).countP p = if p (.retried false) then fs.length else 0 := by
  induction fs with
  | nil => simp
  | cons f fs ih =>
    rw [List.flatMap_cons, List.countP_append, ih, notices, List.length_cons]
    cases hretried : p (.retried false) <;> simp [hp, hretried, add_comm]

theorem countP_isDelivered :
    (fs.flatMap notices ++ lastNotices vetoed last).countP Notice.isDelivered =
      if last = none then 1 else 0 := by
  rw [List.countP_append, countP_rounds fs fun _ => rfl]
  cases last <;> rfl

theorem countP_isDropped :
    (fs.flatMap notices ++ lastNotices vetoed last).countP Notice.isDropped =
      if last = none then 0 else 1 := by
  rw [List.countP_append, countP_rounds fs fun _ => rfl]
  cases last <;> rfl

theorem countP_isRetried :
    (fs.flatMap notices ++ lastNotices vetoed last).countP Notice.isRetried = fs.length := by
  rw [List.countP_append, countP_rounds fs fun _ => rfl]
  cases last <;> rfl

end Setback

end Outbox
