import Outbox.Proofs.Along
import Outbox.Proofs.Limitless
import Outbox.Proofs.Meanwhile
import Outbox.Proofs.Stranded

/-! When a message that comes in has the buffers flushed, and what is in them then. The limit counts
    what is in both buffers, but a flush can only promise to empty the regular one: what fails while
    it is going on comes to the retry buffer. Main statement: the broker is turned to when a message
    comes in with which the limit is reached, and then only; and however often that happens, and
    whatever fails, the regular buffer is below the limit after every deed. -/

namespace Outbox

variable {β κ α ο : Type}

/-- The producer turns to its broker. -/
def Event.isContact : Event → Bool
  | offered .. | polled | flushBegan _ => true
  | _ => false

/-- The deed sets a buffer limit. -/
def Deed.setsLimit : Deed κ α ο → Bool
  | operate (.setBufferLimit _) => true
  | _ => false

namespace Site

/-- How often the producer has turned to its broker. -/
def contacts (s : World β κ α) : Nat := s.journal.countP (·.event.isContact)

/-- The buffer limit. -/
def limit (s : World β κ α) : Int := s.producer.settings.bufferLimit

/-- With one more message the limit is reached. -/
def IsDue (s : World β κ α) : Prop := 0 ≤ s.limit ∧ s.limit ≤ s.producer.buffered + 1

/-- The message is at the end of the regular buffer, with a tracker if tracking is on, and all the
    rest is as it was. -/
structure Appends (s : World β κ α) (m : Message) (t : World β κ α) : Prop where
  regular : ∃ x, t.producer.regular.messages = s.producer.regular.messages ++ [x] ∧
    (x, t.trackers) = if s.producer.tracking then
      (s.trackers.attach m .async s.producer.settings.retryBudget).2 else (m, s.trackers)
  producer : t.producer =
    { s.producer with regular := t.producer.regular, trackers := t.trackers }
  journal : t.journal = s.entry (.submitted m) :: s.journal
  elsewhere : t.broker = s.broker ∧ t.clock = s.clock ∧ t.owner.app = s.owner.app

/-- Between `s` and `t` nothing came into the regular buffer and nothing out of it. -/
structure Overlooks (s t : World β κ α) : Prop where
  regular : t.producer.regular = s.producer.regular
  settings : t.producer.settings = s.producer.settings
  contacts : s.contacts ≤ t.contacts

/-- Between `s` and `t` the regular buffer was emptied, and the broker was turned to. -/
structure Empties (s t : World β κ α) : Prop where
  regular : t.producer.regular = {}
  settings : t.producer.settings = s.producer.settings
  contacts : s.contacts < t.contacts

/-- The limit is the same at `t`, and the regular buffer is no longer than it was. -/
structure Lightens (s t : World β κ α) : Prop where
  regular : t.producer.regular.size ≤ s.producer.regular.size
  limit : t.limit = s.limit

variable {s t u : World β κ α} {m : Message}

theorem appends_stored (s : World β κ α) (m : Message) : s.Appends m (s.stored m) := by
  have htracking : (s.noted (.submitted m)).producer.tracking = s.producer.tracking := rfl
  rw [stored, enroll, htracking]
  cases h : s.producer.tracking with
  | true =>
    refine ⟨⟨_, Buffer.messages_pushBack .., ?_⟩, rfl, rfl, rfl, rfl, rfl⟩
    rw [if_pos h]
    rfl
  | false =>
    refine ⟨⟨m, Buffer.messages_pushBack .., ?_⟩, rfl, rfl, rfl, rfl, rfl⟩
    rw [h]
    rfl

theorem contacts_stored (s : World β κ α) (m : Message) : (s.stored m).contacts = s.contacts := by
  rw [contacts, contacts, (s.appends_stored m).journal, List.countP_cons]
  rfl

theorem settings_stored (s : World β κ α) (m : Message) :
    (s.stored m).producer.settings = s.producer.settings := by
  rw [(s.appends_stored m).producer]

/-- The limit is reached if it is when the message has come in. -/
theorem isDue_iff (s : World β κ α) (m : Message) :
    s.IsDue ↔ (s.stored m).producer.overfull = true := by
  rw [IsDue, Producer.overfull, settings_stored, buffered_stored, Bool.and_eq_true,
    decide_eq_true_eq, decide_eq_true_eq, limit]
  push_cast
  rfl

theorem isRoad_overlooks : Act.IsRoad (Overlooks : World β κ α → World β κ α → Prop) where
  refl _ := ⟨rfl, rfl, le_rfl⟩
  trans h h' := ⟨h'.regular.trans h.regular, h'.settings.trans h.settings,
    h.contacts.trans h'.contacts⟩

theorem Overlooks.noted (s : World β κ α) (e : Event) : s.Overlooks (s.noted e) := by
  refine ⟨rfl, rfl, ?_⟩
  rw [Site.contacts, Site.contacts, journal_noted, List.countP_cons]
  exact Nat.le_add_right ..

theorem contacts_noted (s : World β κ α) {e : Event} (he : e.isContact = true) :
    s.contacts < (s.noted e).contacts := by
  rw [contacts, contacts, journal_noted, List.countP_cons, event_entry, if_pos he]
  exact Nat.lt_succ_self _

theorem Overlooks.of_aloof {told : β → β → Prop} (h : s.Aloof told t) : s.Overlooks t :=
  ⟨by rw [h.producer], by rw [h.producer], by rw [Site.contacts, Site.contacts, h.journal]⟩

theorem Overlooks.lightens (h : s.Overlooks t) : s.Lightens t :=
  ⟨by rw [h.regular], by rw [Site.limit, Site.limit, h.settings]⟩

theorem Empties.lightens (h : s.Empties t) : s.Lightens t :=
  ⟨by rw [h.regular]; exact Nat.zero_le _, by rw [Site.limit, Site.limit, h.settings]⟩

end Site

namespace Surroundings

variable {env : Surroundings β κ α} {s t : World β κ α}

section

variable (hR : env.Passes Site.Overlooks)
include hR

/-- One who waits flushes the broker at least once. -/
theorem contacts_awaitAcksFor {timeout : Span} {r : Except ProducerError Bool}
    (h : env.awaitAcksFor timeout s = some (r, t)) : s.contacts < t.contacts := by
  have hJ := hR.bears.attends
  rw [awaitAcksFor, Site.readClock_bind] at h
  cases hlimit : env.limit with
  | zero =>
    rw [hlimit] at h
    cases h
  | succ n =>
    rw [hlimit, Act.loop] at h
    obtain ⟨o, u, hround, h⟩ := Act.bind_eq_some.mp h
    rw [ackRoundFor_eq] at hround
    obtain ⟨answer, v, hflush, hround⟩ := Act.bind_eq_some.mp hround
    rw [flushBroker, Work.record_bind] at hflush
    have hbegan := (s.turned s.broker s.clock.read.2).contacts_noted (e := .flushBegan timeout) rfl
    have hv := (hJ.bind (hJ.runTask _) fun answer =>
      hJ.bind (hJ.turn rfl) fun _ => hJ.pure answer).leads hflush
    have hu := (hJ.heed s.clock.read.1 timeout answer).leads hround
    have ht : u.Overlooks t := by
      cases o with
      | inl left => exact (hJ.loop (hJ.ackRoundFor s.clock.read.1 timeout) n left).leads h
      | inr verdict => exact (hJ.pure verdict).leads h
    exact hbegan.trans_le (hv.contacts.trans (hu.contacts.trans ht.contacts))

theorem empties_flushAsync {r : Except ProducerError Unit} (h : env.flushAsync s = some (r, t)) :
    s.Empties t := by
  have hJ := hR.bears.attends
  obtain ⟨v, w, u, _, hretries, hbatch, hwait, -, rfl⟩ := flushAsync_eq_some h
  have hv := (hJ.sendBatch _).leads hretries
  have hw := (hJ.sendBatch _).leads hbatch
  have hu := (hJ.awaitAcksFor .zero).leads hwait
  have hcontacts := contacts_awaitAcksFor hR hwait
  refine ⟨hu.regular.trans hw.regular, ?_, ?_⟩
  · exact hu.settings.trans (hw.settings.trans hv.settings)
  · exact hv.contacts.trans_lt (hw.contacts.trans_lt hcontacts)

theorem empties_flushAnd {ρ : Type} {wait : Work β κ α (Except ProducerError ρ)}
    {r : Except ProducerError ρ} (hwait : wait.Along Site.Overlooks)
    (h : env.flushAnd wait s = some (r, t)) : s.Empties t := by
  obtain ⟨sent, u, hsent, h⟩ := Act.bind_eq_some.mp h
  have hu := empties_flushAsync hR hsent
  have ht : u.Overlooks t := by
    cases sent with
    | error e => exact (hR.bears.pure _).leads h
    | ok _ => exact hwait.leads h
  exact ⟨ht.regular.trans hu.regular, ht.settings.trans hu.settings,
    hu.contacts.trans_le ht.contacts⟩

/-- What an ordered flush puts back was in the regular buffer before. -/
theorem lightens_flushInOrder {timeout : Option Span} {r : Except ProducerError Bool}
    (h : env.flushInOrder timeout s = some (r, t)) : s.Lightens t := by
  obtain ⟨k, sent, v, hsent, -, rfl⟩ := flushInOrder_eq_some h
  have hv := (hR.bears.attends.sendInOrder ..).leads hsent
  refine ⟨?_, congrArg Settings.bufferLimit hv.settings⟩
  rw [← Buffer.length_messages, Site.regular_closed, hv.regular, List.length_append,
    List.length_drop]
  change _ - _ + 0 ≤ _
  rw [← Buffer.length_messages]
  exact Nat.sub_le ..

theorem lightens_clear {v : Unit} (h : Work.clear s = some (v, t)) : s.Lightens t := by
  have hJ := hR.bears
  have hdiscard (m : Message) : (Work.discard m : Work β κ α Unit).Along Site.Overlooks :=
    hJ.bind (hJ.release m) fun _ => hJ.record rfl
  simp only [Work.clear, Work.takeRetry_bind, Work.takeRegular_bind] at h
  have ht := (hJ.forM hdiscard _).leads h
  refine ⟨?_, congrArg Settings.bufferLimit ht.settings⟩
  rw [ht.regular]
  exact Nat.zero_le _

/-- No operation but one with a message to buffer, or a limit to set, does anything to the limit or
    adds to the regular buffer. -/
theorem lightens_operate {op : Operation Message} {r : Reply} (h : env.operate op s = some (r, t))
    (hadd : ∀ m, op ≠ .add m) (hset : ∀ n, op ≠ .setBufferLimit n) : s.Lightens t := by
  have hJ := hR.bears.attends
  cases op with
  | add m => exact absurd rfl (hadd m)
  | setBufferLimit n => exact absurd rfl (hset n)
  | produce m =>
    obtain ⟨_, h, -⟩ := Work.of_reply h
    exact ((hR.bears.produce m).leads h).lightens
  | produceSync m =>
    obtain ⟨_, h, -⟩ := Work.of_reply h
    exact ((hR.bears.produceSync m).leads h).lightens
  | flushAsync =>
    obtain ⟨_, h, -⟩ := Work.of_reply h
    exact (empties_flushAsync hR h).lightens
  | flush inOrder =>
    obtain ⟨_, h, -⟩ := Work.of_reply h
    cases inOrder with
    | false =>
      rw [flush_false] at h
      exact (empties_flushAnd hR hJ.awaitAcks h).lightens
    | true =>
      obtain ⟨_, h, -⟩ := Work.of_reply h
      exact lightens_flushInOrder hR h
  | flushFor timeout inOrder =>
    obtain ⟨_, h, -⟩ := Work.of_reply h
    cases inOrder with
    | false =>
      rw [flushFor_false] at h
      exact (empties_flushAnd hR (hJ.awaitAcksFor timeout) h).lightens
    | true => exact lightens_flushInOrder hR h
  | awaitAcks =>
    obtain ⟨_, h, -⟩ := Work.of_reply h
    exact (hJ.awaitAcks.leads h).lightens
  | awaitAcksFor timeout =>
    obtain ⟨_, h, -⟩ := Work.of_reply h
    exact ((hJ.awaitAcksFor timeout).leads h).lightens
  | clear =>
    obtain ⟨_, h, -⟩ := Work.of_reply (f := fun _ => Reply.done) h
    exact lightens_clear hR h
  | setFlushMode _ | setRetryBudget _ | setFullQueueNotice _ =>
    obtain ⟨-, rfl⟩ := Act.pure_eq_some.mp h
    exact ⟨le_rfl, rfl⟩

end

end Surroundings

namespace Application

variable {app : Application β κ α ο} {limit depth : Nat} {s t : World β κ α}

/-- Hooks that leave the producer alone overlook its regular buffer. -/
theorem passes_overlooks (hq : app.Quiet) (limit depth : Nat) :
    (app.surroundings limit depth).Passes Site.Overlooks where
  toIsRoad := Site.isRoad_overlooks
  turned _ _ _ := ⟨rfl, rfl, le_rfl⟩
  noted s e _ := .noted s e
  marked _ _ _ := ⟨rfl, rfl, le_rfl⟩
  retracked _ _ := ⟨rfl, rfl, le_rfl⟩
  requeued _ _ := ⟨rfl, rfl, le_rfl⟩
  fire kind m e := by
    refine ⟨fun {s v t} h => ?_⟩
    rcases Surroundings.fire_eq_some h with ⟨-, rfl⟩ | ⟨hook, verdict, u, hcalled, rfl⟩
    · exact Site.isRoad_overlooks.refl _
    · have hu := Site.Overlooks.of_aloof (aloof_of_called hq hcalled)
      exact Site.isRoad_overlooks.trans (.noted s _) (Site.isRoad_overlooks.trans hu (.noted u _))

/-- What a message brings about that comes in. If the limit is not reached with it, there is nothing
    but the message; if it is, the regular buffer is empty afterwards. -/
theorem add_eq_some (hq : app.Quiet) {m : Message} {r : Reply}
    (h : (app.surroundings limit depth).operate (.add m) s = some (r, t)) :
    (¬ s.IsDue ∧ t = s.stored m) ∨ (s.IsDue ∧ s.Empties t) := by
  have hR := passes_overlooks hq limit depth
  obtain ⟨_, h, -⟩ := Work.of_reply h
  rw [Surroundings.add_eq] at h
  split at h
  · next hfull =>
    have ht : (s.stored m).Empties t := by
      split at h
      · rw [Surroundings.flush_false] at h
        exact Surroundings.empties_flushAnd hR hR.bears.attends.awaitAcks h
      · exact Surroundings.empties_flushAsync hR h
    refine .inr ⟨(s.isDue_iff m).mpr hfull, ht.regular, ht.settings.trans (s.settings_stored m), ?_⟩
    exact (s.contacts_stored m).ge.trans_lt ht.contacts
  · next hfull =>
    obtain ⟨-, rfl⟩ := Prod.mk.inj (Option.some.inj h)
    exact .inl ⟨fun hdue => hfull ((s.isDue_iff m).mp hdue), rfl⟩

/-- A deed buffers a message, or sets a limit, or leaves the limit as it is and adds nothing to the
    regular buffer. -/
theorem lightens_perform (hq : app.Quiet) {deed : Deed κ α ο} {r : Reply}
    (h : app.perform (app.surroundings limit depth) deed s = some (r, t)) :
    (∃ m, deed = .operate (.add m)) ∨ (∃ n, deed = .operate (.setBufferLimit n)) ∨
      s.Lightens t := by
  have hR := passes_overlooks hq limit depth
  cases deed with
  | operate op =>
    by_cases hadd : ∃ m, op = .add m
    · exact .inl (hadd.imp fun m hm => congrArg Deed.operate hm)
    by_cases hset : ∃ n, op = .setBufferLimit n
    · exact .inr (.inl (hset.imp fun n hn => congrArg Deed.operate hn))
    exact .inr (.inr (Surroundings.lightens_operate hR h (fun m hm => hadd ⟨m, hm⟩)
      fun n hn => hset ⟨n, hn⟩))
  | pollBroker =>
    obtain ⟨_, h, -⟩ := Work.of_reply (f := fun _ => Reply.done) h
    exact .inr (.inr (hR.bears.attends.poll.leads h).lightens)
  | flushBroker timeout =>
    obtain ⟨_, h, -⟩ := Work.of_reply h
    exact .inr (.inr ((hR.bears.attends.flushBroker timeout).leads h).lightens)
  | register _ _ | instruct _ | sleep _ | think _ =>
    obtain ⟨-, rfl⟩ := Act.pure_eq_some.mp h
    exact .inr (.inr ⟨le_rfl, rfl⟩)

/-- A deed that sets no limit leaves the regular buffer below the one that there is. -/
theorem bounded_perform (hq : app.Quiet) {deed : Deed κ α ο} {r : Reply}
    (h : app.perform (app.surroundings limit depth) deed s = some (r, t))
    (hset : deed.setsLimit = false) (hs : s.producer.regular.size < s.limit) :
    t.limit = s.limit ∧ t.producer.regular.size < s.limit := by
  have hlightens (ht : s.Lightens t) : t.limit = s.limit ∧ t.producer.regular.size < s.limit := by
    have hsize := ht.regular
    exact ⟨ht.limit, by omega⟩
  rcases lightens_perform hq h with ⟨m, rfl⟩ | ⟨n, rfl⟩ | ht
  · rcases add_eq_some hq h with ⟨hdue, rfl⟩ | ⟨-, ht⟩
    · refine ⟨congrArg Settings.bufferLimit (s.settings_stored m), ?_⟩
      have hbuffered := s.buffered_stored m
      have hle : (s.stored m).producer.regular.size ≤ (s.stored m).producer.buffered :=
        Nat.le_add_right ..
      rw [Site.IsDue] at hdue
      omega
    · exact hlightens ht.lightens
  · exact Bool.noConfusion hset
  · exact hlightens ht

theorem bounded_run (hq : app.Quiet) {deeds : List (Deed κ α ο)} {v : Unit}
    (h : app.run limit depth deeds s = some (v, t))
    (hset : ∀ deed ∈ deeds, deed.setsLimit = false) (hs : s.producer.regular.size < s.limit) :
    t.limit = s.limit ∧ t.producer.regular.size < s.limit := by
  induction deeds generalizing s with
  | nil =>
    obtain ⟨-, rfl⟩ := Act.pure_eq_some.mp h
    exact ⟨rfl, hs⟩
  | cons deed deeds ih =>
    obtain ⟨r, u, hdeed, h⟩ := run_cons h
    obtain ⟨hu, hsize⟩ := bounded_perform hq hdeed (hset deed (by simp)) hs
    have hnext := ih h (fun d hd => hset d (by simp [hd])) (by omega)
    rwa [hu] at hnext

/-- A buffer limit is a count, or it is `-1`. -/
theorem limit_perform (hq : app.Quiet) {deed : Deed κ α ο} {r : Reply}
    (h : app.perform (app.surroundings limit depth) deed s = some (r, t)) (hs : -1 ≤ s.limit) :
    -1 ≤ t.limit := by
  rcases lightens_perform hq h with ⟨m, rfl⟩ | ⟨n, rfl⟩ | ht
  · rcases add_eq_some hq h with ⟨-, rfl⟩ | ⟨-, ht⟩
    · exact hs.trans_eq (congrArg Settings.bufferLimit (s.settings_stored m)).symm
    · exact hs.trans_eq ht.lightens.limit.symm
  · obtain ⟨_, h, -⟩ := Work.of_reply h
    obtain ⟨-, rfl⟩ := Work.setBufferLimit_eq_some h
    split
    · exact hs
    · next hn => exact Int.not_lt.mp hn
  · exact hs.trans_eq ht.limit.symm

theorem limit_run (hq : app.Quiet) {deeds : List (Deed κ α ο)} {v : Unit}
    (h : app.run limit depth deeds s = some (v, t)) (hs : -1 ≤ s.limit) : -1 ≤ t.limit := by
  induction deeds generalizing s with
  | nil =>
    obtain ⟨-, rfl⟩ := Act.pure_eq_some.mp h
    exact hs
  | cons deed deeds ih =>
    obtain ⟨r, u, hdeed, h⟩ := run_cons h
    exact ih h (limit_perform hq hdeed hs)

/-- What the buffer limit does at `s`. -/
structure Threshold (app : Application β κ α ο) (limit depth : Nat) (s : World β κ α) : Prop where
  /-- A message with which the limit is not reached is buffered, and that is all. -/
  buffers : ∀ m, ¬ s.IsDue → ∃ t,
    (app.surroundings limit depth).operate (.add m) s = some (.done, t) ∧ s.Appends m t
  /-- The broker is turned to if the limit is reached, and then only. -/
  contacts : ∀ m r t, (app.surroundings limit depth).operate (.add m) s = some (r, t) →
    (s.contacts < t.contacts ↔ s.IsDue)
  /-- Whatever comes of it, what is left is below the limit, or it is to be sent again. -/
  settles : ∀ m r t, (app.surroundings limit depth).operate (.add m) s = some (r, t) →
    s.limit = -1 ∨ (t.producer.buffered : Int) < s.limit ∨ t.producer.regular.messages = []
  /-- As long as the limit stays, the regular buffer stays below it. -/
  bounded : ∀ deeds t, s.producer.regular.size < s.limit →
    (∀ deed ∈ deeds, deed.setsLimit = false) → app.run limit depth deeds s = some ((), t) →
    t.limit = s.limit ∧ t.producer.regular.size < s.limit
  /-- A limit of zero is a limit of one. -/
  zero : app.Limitless → ∀ deeds,
    app.transcript limit depth (deeds.map Deed.relimited) s.relimited =
      (app.transcript limit depth deeds s).map fun p => (p.1, p.2.relimited)

/-- Whatever happened before, the limit does what it is there for. -/
theorem threshold_of_run (hq : app.Quiet) {b : β} {clock : Clock} {settings : Settings}
    {scope : Nat} {a : α} {before : List (Deed κ α ο)} (hsettings : settings.validate = .ok ())
    (h : app.run limit depth before (.opening b clock settings scope a) = some ((), s)) :
    app.Threshold limit depth s := by
  have hopening : -1 ≤ (.opening b clock settings scope a : World β κ α).limit := by
    by_contra hlimit
    have hinvalid : settings.bufferLimit < -1 := Int.not_le.mp hlimit
    simp [Settings.validate, Settings.checkBufferLimit, hinvalid, bind, Except.bind] at hsettings
  have hlimit := limit_run hq h hopening
  constructor
  case buffers =>
    intro m hdue
    refine ⟨s.stored m, ?_, s.appends_stored m⟩
    have hfull : ¬ (s.stored m).producer.overfull = true := fun h => hdue ((s.isDue_iff m).mpr h)
    have hadd : (app.surroundings limit depth).add m s = some (.ok (), s.stored m) := by
      rw [Surroundings.add_eq, if_neg hfull]
    rw [Surroundings.operate, Act.bind_eq hadd]
    rfl
  case contacts =>
    intro m r t h
    rcases add_eq_some hq h with ⟨hdue, rfl⟩ | ⟨hdue, ht⟩
    · rw [s.contacts_stored m]
      exact ⟨fun h => absurd h (lt_irrefl _), fun h => absurd h hdue⟩
    · exact ⟨fun _ => hdue, fun _ => ht.contacts⟩
  case settles =>
    intro m r t h
    rcases add_eq_some hq h with ⟨hdue, rfl⟩ | ⟨-, ht⟩
    · have hbuffered := s.buffered_stored m
      rw [Site.IsDue] at hdue
      omega
    · exact .inr (.inr (by rw [ht.regular]; rfl))
  case bounded =>
    intro deeds t hs hset h
    exact bounded_run hq h hset hs
  case zero =>
    intro happ deeds
    exact transcript_relimited happ limit depth deeds s

end Application

namespace ScriptedBroker

/-- A broker that delivers nothing the first times it is flushed. -/
def unlucky : ScriptedBroker where
  script := { flushes := .replicate 4 { actions := [.reportAll (some (.undelivered "lost"))] } }

/-- Two messages may wait, and each is sent again as often as it takes. -/
def patient : Settings := { bufferLimit := 2, flushMode := .async, retryBudget := 9 }

/-- Messages come in one after the other. -/
def stream : List (Deed Unit Unit PlainScript) :=
  ["a", "b", "c"].map fun topic => .operate (.add { topic := topic })

/-- More messages wait to be sent again than the limit allows for, and no others. -/
theorem threshold_unlucky : ∃ s,
    (application consent).run 20 2 stream (.opening unlucky {} patient 0 ()) = some ((), s) ∧
    s.producer.retry.size = 3 ∧ s.producer.regular.size = 0 ∧
    (application consent).Threshold 20 2 s := by
  have hrun : ((application consent).run 20 2 stream (.opening unlucky {} patient 0 ())).any
      (fun r => r.2.producer.retry.size == 3 && r.2.producer.regular.size == 0) = true := by
    decide +kernel
  obtain ⟨s, hs, hp⟩ := Application.exists_run (p := fun s : World ScriptedBroker Unit Unit =>
    s.producer.retry.size == 3 && s.producer.regular.size == 0) hrun
  obtain ⟨hretry, hregular⟩ := Bool.and_eq_true_iff.mp hp
  exact ⟨s, hs, beq_iff_eq.mp hretry, beq_iff_eq.mp hregular,
    Application.threshold_of_run quiet_consent rfl hs⟩

end ScriptedBroker

end Outbox
