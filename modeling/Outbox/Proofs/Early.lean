import Outbox.Proofs.Attempt
import Outbox.Proofs.Attended
import Outbox.Proofs.Trying
import Outbox.Proofs.Untracked

/-! Messages that came in early, that is before tracking was on. They have no tracker, or one whose
    caller did not get a retry and is gone by now. From then on every message that comes in is given
    a tracker of its own, and so is every message that a caller waits for; no early message gets
    one on any other way. Main statement: whatever is done to a producer over the broker in memory
    after tracking was switched on, each early message is offered at most once and a failure drops
    it, unless an ordered flush takes it out of the buffers: from then on it is tracked like any
    other. -/

namespace Outbox

/-! ### Early messages -/

/-- The early ones among the messages. -/
def early (N : TrackingId) (M : Multiset Message) : Multiset Message :=
  M.filter fun m => m.isEarly N = true

section

variable {N : TrackingId} {m : Message}

@[simp] theorem early_zero : early N 0 = 0 := rfl

@[simp] theorem early_add (A B : Multiset Message) : early N (A + B) = early N A + early N B :=
  Multiset.filter_add ..

theorem early_singleton (h : m.isEarly N = false) : early N {m} = 0 := by
  rw [early, Multiset.filter_singleton, h]
  rfl

theorem early_eq_self {A : Multiset Message} : early N A = A ↔ ∀ m ∈ A, m.isEarly N = true :=
  Multiset.filter_eq_self

theorem Message.isEarly_eq_false_iff : m.isEarly N = false ↔
    ∃ X, m.tracking = some X ∧ X.scope = N.scope ∧ N.sequence ≤ X.sequence := by
  rw [isEarly]
  cases m.tracking <;> simp

end

variable {β κ α ο : Type}

/-! ### While tracking is on -/

/-- Of the ids that were given out before `N` none is live. -/
structure TrackerTable.Past (N : TrackingId) (t : TrackerTable) : Prop where
  scope : t.nextId.scope = N.scope
  issued : N.sequence ≤ t.nextId.sequence
  dead : ∀ X k, X.scope = N.scope → X.sequence < N.sequence → t.lookup? X = some k → k.live = false

namespace TrackerTable.Past

variable {N : TrackingId} {t u : TrackerTable} {m : Message}

theorem of_like (h : t.Past N) (hnext : u.nextId = t.nextId)
    (hlookup : ∀ X, u.lookup? X = t.lookup? X) : u.Past N := by
  refine ⟨hnext ▸ h.scope, hnext ▸ h.issued, fun X k hscope hlt hk => ?_⟩
  exact h.dead X k hscope hlt (hlookup X ▸ hk)

/-- No early message has a tracker. -/
theorem not_early (h : t.Past N) {id : TrackingId} (hm : t.find? m = some id) :
    m.isEarly N = false := by
  obtain ⟨htracking, hlive⟩ := find?_eq_some_iff.mp hm
  have hscope : id.scope = N.scope := (isLive_iff.mp hlive).1.trans h.scope
  refine Message.isEarly_eq_false_iff.mpr ⟨id, htracking, hscope, Nat.le_of_not_lt fun hlt => ?_⟩
  rw [isLive_eq] at hlive
  obtain ⟨k, hk, hlive⟩ := (Option.any_eq_true ..).mp hlive
  exact Bool.false_ne_true ((h.dead id k hscope hlt hk).symm.trans hlive)

theorem update (h : t.Past N) (id : TrackingId) (f : Tracker → Tracker) :
    (t.update id f).Past N := by
  have hnext := t.nextId_update id f
  refine ⟨hnext ▸ h.scope, hnext ▸ h.issued, fun X k hscope hlt hk => ?_⟩
  rcases entry_of_update hk with he | ⟨k', he, rfl⟩
  · exact h.dead X k hscope hlt he
  · exact h.dead X k' hscope hlt he

theorem release (h : t.Past N) (m : Message) : (t.release m).Past N := by
  have hnext := t.nextId_release m
  refine ⟨hnext ▸ h.scope, hnext ▸ h.issued, fun X k hscope hlt hk => ?_⟩
  rcases entry_of_release hk with he | ⟨k', -, rfl⟩
  · exact h.dead X k hscope hlt he
  · rfl

theorem attach (h : t.Past N) (m : Message) (sender : Sender) (budget : Nat) :
    (t.attach m sender budget).2.2.Past N := by
  refine ⟨(t.scope_attach ..).trans h.scope,
    h.issued.trans (t.sequence_nextId_attach m sender budget), fun X k hscope hlt hk => ?_⟩
  rw [lookup?_attach] at hk
  split at hk
  · next hX => exact absurd h.issued (Nat.not_le_of_lt (hX.2 ▸ hlt))
  · exact h.dead X k hscope hlt hk

/-- Whoever is given a tracker is not early. -/
theorem not_early_attach (h : t.Past N) (m : Message) (sender : Sender) (budget : Nat) :
    (t.attach m sender budget).2.1.isEarly N = false := by
  rcases t.attach_cases m sender budget with ⟨id, hm, ha⟩ | ⟨-, -, hm, -⟩
  · rw [ha]
    exact h.not_early hm
  · rw [hm]
    exact Message.isEarly_eq_false_iff.mpr ⟨t.nextId, rfl, h.scope, h.issued⟩

end TrackerTable.Past

/-- Tracking is on, and since the id `N` was the next one early messages have no trackers. -/
structure Site.Since (N : TrackingId) (s : World β κ α) : Prop where
  on : s.producer.tracking = true
  past : s.trackers.Past N

/-- Between the worlds no early message has become another, none has come in and none is missing,
    and no retry was claimed for one. Some are taken in hand `before`, and some are there `after`. -/
structure Site.Apart (N : TrackingId) (before after : Multiset Message) (s t : World β κ α) :
    Prop where
  since : t.Since N
  book : early N after + early N t.book = early N before + early N s.book
  renewed : early N (gather Event.renewing t.journal) = early N (gather Event.renewing s.journal)

namespace Site.Apart

variable {app : Application β κ α ο} {V : Verdicts} {N : TrackingId} {s t u w : World β κ α}
  {A B C : Multiset Message} {m : Message}

theorem refl (hs : s.Since N) : Apart N A A s s := ⟨hs, rfl, rfl⟩

theorem trans (h : Apart N A B s t) (h' : Apart N B C t u) : Apart N A C s u :=
  ⟨h'.since, h'.book.trans h.book, h'.renewed.trans h.renewed⟩

/-- What is in hand besides stays there. -/
theorem frame (h : Apart N A B s t) (C : Multiset Message) : Apart N (A + C) (B + C) s t := by
  refine ⟨h.since, ?_, h.renewed⟩
  rw [early_add, early_add, add_right_comm, h.book, add_right_comm]

theorem before (h : Apart N 0 0 s t) (h' : Apart N A B t u) : Apart N A B s u := by
  have hframe := h.frame A
  rw [zero_add] at hframe
  exact hframe.trans h'

theorem after (h : Apart N A B s t) (h' : Apart N 0 0 t u) : Apart N A B s u := by
  have hframe := h'.frame B
  rw [zero_add] at hframe
  exact h.trans hframe

/-- Only early messages matter. -/
theorem of_early (h : Apart N A B s t) {A' B' : Multiset Message} (hA : early N A = early N A')
    (hB : early N B = early N B') : Apart N A' B' s t :=
  ⟨h.since, hA ▸ hB ▸ h.book, h.renewed⟩

/-! #### Single events -/

theorem turned (hs : s.Since N) (b : β) (clock : Clock) : Apart N 0 0 s (s.turned b clock) :=
  ⟨⟨hs.on, hs.past⟩, rfl, rfl⟩

theorem brokered (hs : s.Since N) (b : β) : Apart N 0 0 s (s.brokered b) :=
  ⟨⟨hs.on, hs.past⟩, rfl, rfl⟩

theorem marked (hs : s.Since N) (k : Mark) : Apart N 0 0 s (s.marked k) :=
  ⟨⟨hs.on, hs.past⟩, rfl, rfl⟩

theorem updated (hs : s.Since N) (id : TrackingId) (f : Tracker → Tracker) :
    Apart N 0 0 s (s.retracked (·.update id f)) :=
  ⟨⟨hs.on, hs.past.update id f⟩, rfl, rfl⟩

theorem released (hs : s.Since N) (m : Message) : Apart N 0 0 s (s.retracked (·.release m)) :=
  ⟨⟨hs.on, hs.past.release m⟩, rfl, rfl⟩

/-- The event is the end of no stay in the buffers. -/
theorem noted (hs : s.Since N) {e : Event} (hout : e.outgoing = none) (hre : e.renewing = none) :
    Apart N 0 0 s (s.noted e) := by
  refine ⟨⟨hs.on, hs.past⟩, ?_, ?_⟩
  · rw [Site.book, Site.book, journal_noted, gather_cons, event_entry, hout]
    simp
  · rw [journal_noted, gather_cons, event_entry, hre]
    exact congrArg _ (zero_add _)

/-- The message leaves the buffers for good. -/
theorem departed (hs : s.Since N) {e : Event} (hout : e.outgoing = some m)
    (hre : e.renewing = none) : Apart N {m} 0 s (s.noted e) := by
  refine ⟨⟨hs.on, hs.past⟩, ?_, ?_⟩
  · rw [Site.book, Site.book, journal_noted, gather_cons, event_entry, hout]
    simp only [early_zero, early_add, stock_noted, Option.elim_some]
    abel
  · rw [journal_noted, gather_cons, event_entry, hre]
    exact congrArg _ (zero_add _)

theorem accepted (hs : s.Since N) (b : β) (m : Message) : Apart N {m} 0 s (s.accepted b m) :=
  have hb := (marked hs .offered).before (brokered (marked hs .offered).since b)
  hb.before (departed hb.since rfl rfl)

theorem refused (hs : s.Since N) (b : β) (m : Message) {e : BrokerError}
    (he : e.isQueueFull = false) : Apart N {m} 0 s (s.refused b m e) := by
  have hb := (marked hs .offered).before (brokered (marked hs .offered).since b)
  have hout : (Event.offered m (.error e)).outgoing = some m := by
    simp [Event.outgoing, Event.offering, he]
  have hrefused := hb.before (departed hb.since hout rfl)
  exact hrefused.after (marked hrefused.since .refused)

/-- The queue was full, and the message stays where it is. -/
theorem full (hs : s.Since N) (b : β) (m : Message) {e : BrokerError} (he : e.isQueueFull = true) :
    Apart N 0 0 s ((s.refused b m e).marked .queueFull) := by
  have hb := (marked hs .offered).before (brokered (marked hs .offered).since b)
  have hout : (Event.offered m (.error e)).outgoing = none := by
    simp [Event.outgoing, Event.offering, he]
  have hnoted := hb.before (noted hb.since hout rfl)
  have hrefused := hnoted.after (marked hnoted.since .refused)
  exact hrefused.after (marked hrefused.since .queueFull)

theorem delivered (hs : s.Since N) (m : Message) : Apart N 0 0 s (s.delivered m) :=
  have hm := (marked hs .produced).before (released (marked hs .produced).since m)
  hm.before (noted hm.since rfl rfl)

theorem dropped (hs : s.Since N) (m : Message) (e : BrokerError) : Apart N 0 0 s (s.dropped m e) :=
  have hm := (marked hs .dropped).before (released (marked hs .dropped).since m)
  hm.before (noted hm.since rfl rfl)

theorem discarded (hs : s.Since N) (m : Message) : Apart N {m} 0 s (s.discarded m) :=
  (released hs m).before (departed (released hs m).since rfl rfl)

theorem acknowledged (hs : s.Since N) (k : Option TrackingId) (o : Outcome) (m : Message) :
    Apart N 0 0 s (s.acknowledged k o m) := by
  have hk : Apart N 0 0 s (s.completed k o) := by
    cases k with
    | none => exact refl hs
    | some id => exact updated hs id _
  have hnoted := hk.before (noted (e := .acknowledged m) hk.since rfl rfl)
  exact hnoted.after (marked hnoted.since .acknowledged)

/-- A retry is granted to no early message. -/
theorem granted (hs : s.Since N) {id : TrackingId} (hm : s.trackers.find? m = some id) :
    Apart N 0 0 s (s.granted id m) := by
  have hu := (updated hs id (·.claimRetry.2)).before
    (marked (updated hs id (·.claimRetry.2)).since .retried)
  have hm := early_singleton (hs.past.not_early hm)
  refine ⟨⟨hs.on, hu.since.past⟩, ?_, ?_⟩
  · rw [Site.book, Site.book, journal_granted, gather_cons]
    exact congrArg (fun B => _ + early N (_ + B)) (zero_add _)
  · rw [journal_granted, gather_cons, early_add]
    exact (congrArg (· + _) hm).trans (zero_add _)

/-- What is put into a buffer is in hand no more. -/
theorem stored (hs : s.Since N) {regular retry : Buffer}
    (h : (regular.messages : Multiset Message) + (retry.messages : Multiset Message) + B =
      A + s.stock) : Apart N A B s (s.rebuffered regular retry) := by
  refine ⟨⟨hs.on, hs.past⟩, ?_, rfl⟩
  have hearly := congrArg (early N) h
  rw [Site.book, Site.book, stock_rebuffered, journal_rebuffered]
  simp only [early_add] at hearly ⊢
  rw [← add_assoc (early N A), ← hearly]
  abel

/-- What is taken out of the buffers is in hand. -/
theorem taken (hs : s.Since N) (regular retry : Buffer)
    (h : s.stock =
      B + ((regular.messages : Multiset Message) + (retry.messages : Multiset Message))) :
    Apart N 0 B s (s.rebuffered regular retry) :=
  stored hs (by rw [zero_add, h, add_comm])

/-- A message that is not early may come to a buffer from anywhere. -/
theorem rebuffered (hs : s.Since N) (hm : m.isEarly N = false) {regular retry : Buffer}
    (h : (regular.messages : Multiset Message) + (retry.messages : Multiset Message) =
      m ::ₘ s.stock) : Apart N 0 0 s (s.rebuffered regular retry) := by
  have hstored := stored (A := {m}) (B := 0) hs (by rw [add_zero, h, Multiset.singleton_add])
  exact hstored.of_early (early_singleton hm) rfl

/-- A change of settings or hooks. -/
theorem amended (hs : s.Since N) {f : Producer κ → Producer κ} (hf : Producer.Spares f) :
    Apart N 0 0 s (s.amended f) := by
  have htrackers : (s.amended f).trackers = s.trackers := hf.trackers _
  refine ⟨⟨hf.tracking _ hs.on, htrackers ▸ hs.past⟩, ?_, rfl⟩
  rw [Site.book, Site.stock, producer_amended, hf.regular, hf.retry]
  rfl

/-- Whatever comes in is given a tracker. -/
theorem enrolled (hs : s.Since N) (m : Message) :
    Apart N 0 0 s (s.enroll m).2 ∧ (s.enroll m).1.isEarly N = false := by
  have hnoted := noted (e := .submitted m) hs rfl rfl
  rw [Site.enroll, if_pos hnoted.since.on]
  exact ⟨hnoted.trans ⟨⟨hs.on, hs.past.attach m .async _⟩, rfl, rfl⟩,
    hs.past.not_early_attach m .async _⟩

/-! #### What goes on meanwhile -/

theorem of_beside {told : β → β → Prop} (hs : s.Since N) (h : s.Beside told t) :
    Apart N 0 0 s t := by
  refine ⟨⟨h.tracking.trans hs.on, hs.past.of_like h.nextId h.lookup⟩, ?_, ?_⟩
  · have hbook : t.book = s.book := by
      rw [Site.book, Site.book, Site.stock, Site.stock, h.regular, h.retry]
      refine congrArg _ (h.of_talk fun e J he => ?_)
      cases hevent : e.event <;> simp_all [Event.outgoing, Event.offering, Event.isTalk]
    rw [hbook]
  · refine congrArg _ (h.of_talk fun e J he => ?_)
    cases hevent : e.event <;> simp_all [Event.renewing, Event.isTalk]

theorem of_received (hs : s.Since N) {r : DeliveryReport} {o : Outcome} (h : Received V s r o t) :
    Apart N 0 0 s t := by
  cases h with
  | delivered => exact delivered hs _
  | dropped => exact dropped hs _ _
  | left _ hm _ => exact granted hs hm
  | requeued _ hm _ =>
    refine (granted hs hm).before (rebuffered (granted hs hm).since (hs.past.not_early hm) ?_)
    rw [Buffer.messages_pushFront, ← Multiset.cons_coe, Multiset.add_cons]
    rfl

theorem of_handled {told : β → β → Prop} (hs : s.Since N) {r : DeliveryReport}
    (h : s.Handled told V r t) : Apart N 0 0 s t := by
  obtain ⟨u, o, w, v, hu, hw, hv, -, rfl⟩ := h
  have hu := of_beside hs hu
  have hw := hu.trans (of_received hu.since hw)
  have hv := hw.trans (of_beside hw.since hv)
  exact hv.trans (acknowledged hv.since _ _ _)

theorem of_meanwhile {T₀ T : List app.client.Task} {R : List DeliveryReport} (hs : s.Since N)
    (h : app.Meanwhile app.Told V T₀ s T R t) : Apart N 0 0 s t := by
  induction h with
  | start => exact refl hs
  | beside _ hv ih => exact ih.trans (of_beside ih.since hv)
  | begin _ _ _ ih => exact ih
  | more _ _ ih | finish _ _ ih => exact ih.trans (turned ih.since _ _)
  | @report _ _ u v _ _ _ b clock _ _ hv ih =>
    have hturned := ih.trans (turned ih.since b clock)
    exact hturned.trans (of_handled hturned.since hv)

theorem of_crowded {R : List DeliveryReport} (hs : s.Since N) (h : app.Crowded app.Told V m s R t) :
    Apart N 0 0 s t := by
  induction h with
  | start => exact refl hs
  | @again _ _ u v b e _ _ he hv ih =>
    have hfull := ih.trans (full ih.since b m he)
    have hpolled := hfull.trans (noted (e := .polled) hfull.since rfl rfl)
    exact hpolled.trans (of_meanwhile hpolled.since hv)

/-- A message that was offered is in hand no more. -/
theorem of_offered {R : List DeliveryReport} {answer : BrokerAnswer} (hs : s.Since N)
    (h : app.Offered app.Told V m s R answer t) : Apart N {m} 0 s t := by
  cases h with
  | accepted h _ =>
    have hu := of_crowded hs h
    exact hu.before (accepted hu.since _ m)
  | refused h _ he =>
    have hu := of_crowded hs h
    exact hu.before (refused hu.since _ m he)

theorem of_coped {told : β → β → Prop} {e : BrokerError} {requeue again : Bool} (hs : s.Since N)
    (h : s.Coped told V m e requeue again t) : Apart N 0 0 s t := by
  obtain ⟨u, w, hu, hw, ht⟩ := h
  have hu := of_beside hs hu
  have hw : Apart N 0 0 u w := by
    cases hw with
    | dropped _ => exact dropped hu.since m e
    | kept _ hm _ => exact granted hu.since hm
    | deferred _ hm _ =>
      have hearly := hu.since.past.not_early hm
      refine (granted hu.since hm).before (rebuffered (granted hu.since hm).since hearly ?_)
      rw [Buffer.messages_pushBack, ← Multiset.coe_add, ← add_assoc, add_comm]
      rfl
  have hw := hu.trans hw
  exact hw.trans (of_beside hw.since ht)

/-- To send a message is to offer it, whatever comes of it. -/
theorem of_sent {e : Option BrokerError} (hs : s.Since N) (h : app.Sent app.Told V m s e t) :
    Apart N {m} 0 s t := by
  cases h with
  | accepted hu => exact of_offered hs hu
  | refused hu hv =>
    have hu := of_offered hs hu
    exact hu.after (of_coped hu.since hv)

/-- The attempts of a message that is not early make no difference. -/
theorem of_tried {id : TrackingId} {o : Unit ⊕ Except ProducerError Unit} (hs : s.Since N)
    (hm : m.isEarly N = false) (h : app.Tried app.Told V m s id o t) : Apart N 0 0 s t := by
  have hready : Apart N 0 0 s (s.readied id) := updated hs id _
  have hoffered {R : List DeliveryReport} {answer : BrokerAnswer} {u : World β κ α}
      (hu : app.Offered app.Told V m (s.readied id) R answer u) : Apart N 0 0 s u :=
    hready.trans ((of_offered hready.since hu).of_early (early_singleton hm) rfl)
  cases h with
  | refused hu hv => exact (hoffered hu).trans (of_coped (hoffered hu).since hv)
  | failed hu hv | learnt hu hv =>
    have hv := (hoffered hu).trans (of_meanwhile (hoffered hu).since hv)
    exact hv.trans (updated hv.since _ _)

end Site.Apart

/-! ### Operations -/

namespace Application

variable {app : Application β κ α ο} {N : TrackingId} {s t : World β κ α} {limit depth : Nat}

section

variable (hq : app.Quiet)

include hq

theorem apart_sendAsync (hs : s.Since N) (m : Message) :
    ((app.surroundings limit depth).sendAsync m).Meets False s fun _ t => s.Apart N {m} 0 t := by
  have hf : False → app.client.Faithful app.Told s.broker := False.elim
  have ha : False → app.Attuned app.Told s.broker [] 0 s := False.elim
  have hsend := (reaches_sendAsync hf (discreet_of_quiet hq _) ha m).meets limit depth
  exact hsend.mono fun _ _ ht => .of_sent hs ht

/-- Whatever message a caller waits for, it is not early when it is offered. -/
theorem apart_sendSync (hs : s.Since N) (m : Message) :
    ((app.surroundings limit depth).sendSync m).Meets False s fun _ t => s.Apart N 0 0 t := by
  have hpast := hs.past.attach m .sync
    (if s.producer.tracking then s.producer.settings.retryBudget else 0)
  have hengaged : s.Apart N 0 0 (s.engage m).2 :=
    ⟨⟨hs.on, hpast.update (s.idOf m) (·.setSender .sync)⟩, rfl, rfl⟩
  have hm : (s.engage m).1.isEarly N = false := hs.past.not_early_attach m .sync _
  have hf : False → app.client.Faithful app.Told s.broker := False.elim
  have ha : False → app.Attuned app.Told s.broker [] 0 s := False.elim
  refine (reaches_sendSync (fun _ _ : Unit => False) (P := fun _ u => s.Apart N 0 0 u)
    (Q := fun _ t => s.Apart N 0 0 t) hf (discreet_of_quiet hq _) ha False.elim (g := ()) hengaged
    fun {_ u o w} hu hw => ?_).meets limit depth
  have hapart := hu.trans (.of_tried hu.since hm hw)
  cases o with
  | inl _ => exact ⟨(), hapart, False.elim⟩
  | inr r => exact hapart

theorem apart_awaitAcks (hs : s.Since N) :
    ((app.surroundings limit depth).awaitAcks).Meets False s fun _ t => s.Apart N 0 0 t := by
  have hf : False → app.client.Faithful app.Told s.broker := False.elim
  have ha : False → app.Attuned app.Told s.broker [] 0 s := False.elim
  have hawait := (reaches_awaitAcks hf (discreet_of_quiet hq _) ha).meets limit depth
  refine hawait.mono fun _ t ht => ?_
  obtain ⟨⟨R, ht⟩, -⟩ := ht
  exact .of_meanwhile hs ht

theorem apart_awaitAcksFor (hs : s.Since N) (timeout : Span) :
    ((app.surroundings limit depth).awaitAcksFor timeout).Meets False s fun _ t =>
      s.Apart N 0 0 t := by
  have hf : False → app.client.Faithful app.Told s.broker := False.elim
  have ha : False → app.Attuned app.Told s.broker [] 0 s := False.elim
  have hawait := (reaches_awaitAcksFor hf (discreet_of_quiet hq _) ha timeout).meets limit depth
  refine hawait.mono fun _ t ht => ?_
  obtain ⟨R, ht⟩ := ht.1.meanwhile
  exact .of_meanwhile hs ht

theorem apart_sendBatch (hs : s.Since N) (batch : Batch) :
    ((app.surroundings limit depth).sendBatch batch).Meets False s fun _ t =>
      s.Apart N (batch : Multiset Message) 0 t := by
  induction batch generalizing s with
  | nil => exact .pure (.refl hs)
  | cons m batch ih =>
    rw [Surroundings.sendBatch, List.forM_eq_forM, List.forM_cons, bind_assoc]
    refine (apart_sendAsync hq hs m).bind fun _ t ht => (ih ht.since).mono fun _ u hu => ?_
    have hframe := ht.frame (batch : Multiset Message)
    rw [zero_add, Multiset.singleton_add, Multiset.cons_coe] at hframe
    exact hframe.trans hu

theorem apart_flushAsync (hs : s.Since N) :
    ((app.surroundings limit depth).flushAsync).Meets False s fun _ t => s.Apart N 0 0 t := by
  refine .of_eq (Work.mark_bind ..) (.bind (P := fun _ t => s.Apart N 0 0 t) ?_ fun _ t ht =>
    .of_eq (Work.mark_bind ..) (.pure (ht.trans (.marked ht.since .flushEnded))))
  have hbegan := Site.Apart.marked hs .flushBegan
  generalize s.marked .flushBegan = u at hbegan ⊢
  refine .of_eq (Work.takeRetry_bind ..) ?_
  have hretry : u.Apart N 0 u.producer.retry.messages (u.rebuffered u.producer.regular {}) :=
    .taken hbegan.since u.producer.regular {} ((add_comm ..).trans (congrArg _ (add_zero _).symm))
  refine (apart_sendBatch hq hretry.since _).bind fun _ v hv => .of_eq (Work.takeRegular_bind ..) ?_
  have hv := hbegan.trans (hretry.trans hv)
  have hregular : v.Apart N 0 v.producer.regular.messages (v.rebuffered {} v.producer.retry) :=
    .taken hv.since {} v.producer.retry
      (congrArg (_ + ·) (zero_add (v.producer.retry.messages : Multiset Message)).symm)
  refine (apart_sendBatch hq hregular.since _).bind fun _ w hw => ?_
  have hw := hv.trans (hregular.trans hw)
  exact (apart_awaitAcksFor hq hw.since .zero).map fun _ _ ht => hw.trans ht

theorem apart_sendInOrder (hs : s.Since N) (start : Nat) (timeout : Option Span) (k : Nat)
    (batch : Batch) :
    ((app.surroundings limit depth).sendInOrder start timeout k batch).Meets False s fun _ t =>
      s.Apart N 0 0 t := by
  induction batch generalizing k s with
  | nil => exact .pure (.refl hs)
  | cons m batch ih =>
    refine (apart_sendSync hq hs m).bind fun r t ht => ?_
    have hgo : Act.Meets False (do
        if ← Surroundings.timeIsUp start timeout then return (k + 1, .ok ())
        else (app.surroundings limit depth).sendInOrder start timeout (k + 1) batch :
          Work β κ α (Nat × Except ProducerError Unit)) t fun _ t => s.Apart N 0 0 t := by
      refine .step (Surroundings.timeIsUp_eq ..) ?_
      have hlook : s.Apart N 0 0
          (if timeout.isSome then t.turned t.broker t.clock.read.2 else t) := by
        split
        · exact ht.trans (.turned ht.since _ _)
        · exact ht
      split
      · exact .pure hlook
      · exact (ih hlook.since (k + 1)).mono fun _ u hu => hlook.trans hu
    rcases r with (_ | _ | _ | _ | _ | _) | _
    case error.refused | error.undelivered | ok => exact hgo
    all_goals exact .pure ht

/-- An ordered flush takes messages in hand that are seen through. -/
theorem apart_flushInOrder (hs : s.Since N) (timeout : Option Span) :
    ((app.surroundings limit depth).flushInOrder timeout).Meets False s fun _ t =>
      ∃ taken ≤ s.stock, s.Apart N 0 taken t := by
  have hopened : s.Apart N 0 ((s.producer.retry.messages : Multiset Message) +
      (s.producer.regular.messages : Multiset Message)) s.opened := by
    have hbegan := Site.Apart.marked hs .flushBegan
    have htaken := hbegan.before (.taken hbegan.since {} {} ((add_comm ..).trans (add_zero _).symm))
    exact htaken.after (.turned htaken.since _ _)
  refine Surroundings.meets_flushInOrder
    ((apart_sendInOrder hq hopened.since _ timeout 0 _).mono fun r t ht => ?_)
  have hall := hopened.after ht
  generalize hbatch : s.producer.retry.messages ++ s.producer.regular.messages = batch
  have hrest : ((s.producer.retry.messages.drop r.1 : Batch) : Multiset Message) +
      ((s.producer.regular.messages.drop (r.1 - s.producer.retry.messages.length) : Batch) :
        Multiset Message) = (batch.drop r.1 : Batch) := by
    rw [Multiset.coe_add, ← hbatch, List.drop_append]
  refine ⟨(batch.take r.1 : Batch), ?_, ?_⟩
  · rw [Site.stock, add_comm, Multiset.coe_add, hbatch]
    exact Multiset.coe_le.mpr (List.take_sublist ..).subperm
  · rw [Multiset.coe_add, hbatch, ← List.take_append_drop r.1 batch, ← Multiset.coe_add,
      add_comm] at hall
    have hback : t.Apart N (batch.drop r.1 : Batch) 0 (t.rebuffered
        (t.producer.regular.restoreFront
          (s.producer.regular.messages.drop (r.1 - s.producer.retry.messages.length)))
        (t.producer.retry.restoreFront (s.producer.retry.messages.drop r.1))) := by
      refine .stored ht.since ?_
      rw [Buffer.messages_restoreFront, Buffer.messages_restoreFront, ← hrest, Site.stock,
        ← Multiset.coe_add, ← Multiset.coe_add]
      abel
    have hback := hback.frame (batch.take r.1 : Batch)
    rw [zero_add] at hback
    have hclosed := hall.trans hback
    exact hclosed.after (.marked hclosed.since .flushEnded)

theorem apart_add (hs : s.Since N) (m : Message) :
    ((app.surroundings limit depth).add m).Meets False s fun _ t => s.Apart N 0 0 t := by
  obtain ⟨henrolled, hm⟩ := Site.Apart.enrolled hs m
  refine .of_eq (Work.enroll_bind ..) (.of_eq (Work.modifyProducer_bind ..) ?_)
  refine .of_eq (Work.producer_bind ..) ?_
  generalize s.enroll m = enrolled at henrolled hm ⊢
  obtain ⟨m', u⟩ := enrolled
  have hadded : s.Apart N 0 0 (u.rebuffered (u.producer.regular.pushBack m') u.producer.retry) := by
    refine henrolled.trans (.rebuffered henrolled.since hm ?_)
    rw [Buffer.messages_pushBack, ← Multiset.coe_add, add_right_comm, add_comm]
    rfl
  split
  · split
    · rw [Surroundings.flush, if_neg Bool.false_ne_true]
      refine (apart_flushAsync hq hadded.since).bind fun r t ht => ?_
      have ht := hadded.trans ht
      cases r with
      | error e => exact .pure ht
      | ok _ => exact (apart_awaitAcks hq ht.since).mono fun _ _ hu => ht.trans hu
    · exact (apart_flushAsync hq hadded.since).mono fun _ _ ht => hadded.trans ht
  · exact .pure hadded

theorem apart_produce (hs : s.Since N) (m : Message) :
    ((app.surroundings limit depth).produce m).Meets False s fun _ t => s.Apart N 0 0 t := by
  obtain ⟨henrolled, hm⟩ := Site.Apart.enrolled hs m
  refine .of_eq (Work.enroll_bind ..) ?_
  refine (apart_sendAsync hq henrolled.since _).bind fun r t ht => ?_
  have ht := henrolled.trans (ht.of_early (early_singleton hm) rfl)
  cases r with
  | none => exact .pure ht
  | some e => exact .pure ht

end

theorem apart_clear (hs : s.Since N) :
    (Work.clear : Work β κ α Unit).Meets False s fun _ t => s.Apart N 0 0 t := by
  refine .of_eq (Work.takeRetry_bind ..) (.of_eq (Work.takeRegular_bind ..) ?_)
  have htaken : s.Apart N 0 ((s.producer.retry.messages : Multiset Message) +
      (s.producer.regular.messages : Multiset Message)) (s.rebuffered {} {}) :=
    .taken hs {} {} ((add_comm ..).trans (add_zero _).symm)
  rw [Multiset.coe_add] at htaken
  suffices h : ∀ (batch : Batch) {u : World β κ α}, s.Apart N 0 (batch : Multiset Message) u →
      Act.Meets False (batch.forM Work.discard) u fun _ t => s.Apart N 0 0 t from h _ htaken
  intro batch
  induction batch with
  | nil => exact fun hu => .pure hu
  | cons m batch ih =>
    intro u hu
    refine .of_eq (y := batch.forM Work.discard) (u := u.discarded m) ?_ (ih ?_)
    · simp only [List.forM_eq_forM, List.forM_cons, Work.discard, bind_assoc, Work.release_bind,
        Work.record_bind]
      rfl
    · have hframe := (Site.Apart.discarded hu.since m).frame (batch : Multiset Message)
      rw [zero_add, Multiset.singleton_add, Multiset.cons_coe] at hframe
      exact hu.trans hframe

end Application

/-- The operation sees what is buffered through, one message after the other. -/
def Operation.inOrder {μ : Type} : Operation μ → Bool
  | flush inOrder | flushFor _ inOrder => inOrder
  | _ => false

/-- The deed is an ordered flush. -/
def Deed.inOrder : Deed κ α ο → Bool
  | operate op => op.inOrder
  | _ => false

namespace Application

variable {app : Application β κ α ο} {N : TrackingId} {s t : World β κ α} {limit depth : Nat}

theorem apart_flush (hq : app.Quiet) (hs : s.Since N) (inOrder : Bool) :
    ((app.surroundings limit depth).flush inOrder).Meets False s fun _ t =>
      ∃ taken, s.Apart N 0 taken t ∧ taken ≤ if inOrder then s.stock else 0 := by
  cases inOrder with
  | true =>
    refine (apart_flushInOrder hq hs none).map fun _ t ht => ?_
    obtain ⟨taken, hle, ht⟩ := ht
    exact ⟨taken, ht, hle⟩
  | false =>
    refine (apart_flushAsync hq hs).bind fun r t ht => ?_
    cases r with
    | error e => exact .pure ⟨0, ht, le_refl _⟩
    | ok _ => exact (apart_awaitAcks hq ht.since).mono fun _ _ hu => ⟨0, ht.trans hu, le_refl _⟩

theorem apart_flushFor (hq : app.Quiet) (hs : s.Since N) (timeout : Span) (inOrder : Bool) :
    ((app.surroundings limit depth).flushFor timeout inOrder).Meets False s fun _ t =>
      ∃ taken, s.Apart N 0 taken t ∧ taken ≤ if inOrder then s.stock else 0 := by
  cases inOrder with
  | true =>
    refine (apart_flushInOrder hq hs (some timeout)).mono fun _ t ht => ?_
    obtain ⟨taken, hle, ht⟩ := ht
    exact ⟨taken, ht, hle⟩
  | false =>
    refine (apart_flushAsync hq hs).bind fun r t ht => ?_
    cases r with
    | error e => exact .pure ⟨0, ht, le_refl _⟩
    | ok _ =>
      exact (apart_awaitAcksFor hq ht.since timeout).mono fun _ _ hu => ⟨0, ht.trans hu, le_refl _⟩

/-- Only an ordered flush takes early messages in hand to see them through. -/
theorem apart_operate (hq : app.Quiet) (hs : s.Since N) (op : Operation Message) :
    ((app.surroundings limit depth).operate op).Meets False s fun _ t =>
      ∃ taken, s.Apart N 0 taken t ∧ taken ≤ if op.inOrder then s.stock else 0 := by
  have hplain {u : World β κ α} (hu : s.Apart N 0 0 u) :
      ∃ taken, s.Apart N 0 taken u ∧ taken ≤ if false then s.stock else 0 := ⟨0, hu, le_refl _⟩
  cases op with
  | add m => exact (apart_add hq hs m).map fun _ _ ht => hplain ht
  | produce m => exact (apart_produce hq hs m).map fun _ _ ht => hplain ht
  | produceSync m =>
    have hnoted := Site.Apart.noted (e := .submitted m) hs rfl rfl
    refine Act.Meets.map (P := fun _ t => s.Apart N 0 0 t) ?_ fun _ _ ht => hplain ht
    exact .of_eq (Work.record_bind ..)
      ((apart_sendSync hq hnoted.since m).mono fun _ _ ht => hnoted.trans ht)
  | flushAsync => exact (apart_flushAsync hq hs).map fun _ _ ht => hplain ht
  | flush inOrder => exact (apart_flush hq hs inOrder).map fun _ _ ht => ht
  | flushFor timeout inOrder => exact (apart_flushFor hq hs timeout inOrder).map fun _ _ ht => ht
  | awaitAcks => exact (apart_awaitAcks hq hs).map fun _ _ ht => hplain ht
  | awaitAcksFor timeout => exact (apart_awaitAcksFor hq hs timeout).map fun _ _ ht => hplain ht
  | clear => exact (apart_clear hs).bind fun _ _ ht => .pure (hplain ht)
  | setBufferLimit n =>
    refine Act.Meets.map (P := fun _ t => s.Apart N 0 0 t) ?_ fun _ _ ht => hplain ht
    unfold Work.setBufferLimit
    split
    · exact .pure (.refl hs)
    · exact .of_eq (Work.modifyProducer_bind ..)
        (.pure (.amended hs (Surroundings.spares_settings fun s => { s with bufferLimit := n })))
  | setFlushMode mode =>
    exact .of_eq (Work.modifyProducer_bind ..)
      (.pure (hplain (.amended hs (Surroundings.spares_settings fun s =>
        { s with flushMode := mode }))))
  | setRetryBudget n =>
    exact .of_eq (Work.modifyProducer_bind ..)
      (.pure (hplain (.amended hs (Surroundings.spares_setRetryBudget n))))
  | setFullQueueNotice notice =>
    exact .of_eq (Work.modifyProducer_bind ..) (.pure (hplain (.amended hs
      (Surroundings.spares_settings fun s => { s with fullQueueNotice := notice }))))

theorem apart_perform (hq : app.Quiet) (hs : s.Since N) {deed : Deed κ α ο} {r : Reply}
    (h : app.perform (app.surroundings limit depth) deed s = some (r, t)) :
    ∃ taken, s.Apart N 0 taken t ∧ taken ≤ if deed.inOrder then s.stock else 0 := by
  have hquiet (hd : deed.isQuiet = true) : s.Apart N 0 0 t := by
    obtain ⟨r', u, hu, hdeed⟩ := app.aloof_quiet hd s
    obtain ⟨rfl, rfl⟩ := Prod.mk.inj (Option.some_inj.mp ((hdeed _).symm.trans h))
    exact .of_beside hs (.of_aloof hu)
  cases deed with
  | operate op => exact (apart_operate hq hs op).post r t h
  | register kind hook =>
    rw [perform, Work.modifyProducer_bind] at h
    obtain ⟨-, rfl⟩ := Act.pure_eq_some.mp h
    exact ⟨0, .amended hs (Surroundings.spares_setHook kind hook), le_refl _⟩
  | pollBroker =>
    obtain ⟨_, h, -⟩ := Work.of_reply (f := fun _ => Reply.done) h
    have hpoll := reaches_poll (discreet_of_quiet hq s.producer.hooks) False.elim
    obtain ⟨R, ht⟩ := hpoll.post limit depth _ _ h
    exact ⟨0, .of_meanwhile hs ht.of_poll, le_refl _⟩
  | flushBroker timeout =>
    obtain ⟨answer, h, -⟩ := Work.of_reply h
    have hflush := reaches_flushBroker (discreet_of_quiet hq s.producer.hooks) timeout False.elim
    obtain ⟨⟨R, ht⟩, -⟩ := hflush.post limit depth _ _ h
    exact ⟨0, .of_meanwhile hs ht.of_flush, le_refl _⟩
  | instruct _ | sleep _ | think _ => exact ⟨0, hquiet rfl, le_refl _⟩

/-- Whatever is done, the early messages that are missing were found in the buffers by ordered
    flushes. -/
theorem apart_run (hq : app.Quiet) (hs : s.Since N) {deeds : List (Deed κ α ο)}
    (h : app.run limit depth deeds s = some ((), t)) :
    ∃ taken, s.Apart N 0 taken t ∧ ∀ m ∈ taken, ∃ earlier deed later u,
      deeds = earlier ++ deed :: later ∧ app.run limit depth earlier s = some ((), u) ∧
        deed.inOrder = true ∧ m ∈ u.stock := by
  induction deeds generalizing s with
  | nil =>
    obtain ⟨-, rfl⟩ := Act.pure_eq_some.mp h
    exact ⟨0, .refl hs, fun m hm => absurd hm (Multiset.notMem_zero m)⟩
  | cons deed deeds ih =>
    obtain ⟨r, u, hdeed, h⟩ := run_cons h
    obtain ⟨taken, hu, hle⟩ := apart_perform hq hs hdeed
    obtain ⟨taken', ht, htaken'⟩ := ih hu.since h
    have hframe := ht.frame taken
    rw [zero_add] at hframe
    refine ⟨taken' + taken, hu.trans hframe, fun m hm => ?_⟩
    rcases Multiset.mem_add.mp hm with hm | hm
    · obtain ⟨earlier, deed', later, v, rfl, hv, hdeed', hm⟩ := htaken' m hm
      exact ⟨deed :: earlier, deed', later, v, rfl, (run_cons_of_perform hdeed).trans hv, hdeed',
        hm⟩
    · have hm := Multiset.mem_of_le hle hm
      split at hm
      · next hdeed' => exact ⟨[], deed, deeds, s, rfl, rfl, hdeed', hm⟩
      · exact absurd hm (Multiset.notMem_zero m)

/-- From where tracking is switched on the early messages are kept. -/
theorem kept_of_switch (hq : app.Quiet) (hpast : s.trackers.Past s.trackers.nextId)
    {deeds : List (Deed κ α ο)}
    (hon : ∀ deed ∈ deeds.head?, ∃ n, deed = .operate (.setRetryBudget (n + 1)))
    (h : app.run limit depth deeds s = some ((), t)) :
    ∃ taken, early s.trackers.nextId taken + early s.trackers.nextId t.book =
        early s.trackers.nextId s.book ∧
      early s.trackers.nextId (gather Event.renewing t.journal) =
        early s.trackers.nextId (gather Event.renewing s.journal) ∧
      ∀ m ∈ taken, ∃ earlier deed later u, deeds = earlier ++ deed :: later ∧
        app.run limit depth earlier s = some ((), u) ∧ deed.inOrder = true ∧ m ∈ u.stock := by
  cases deeds with
  | nil =>
    obtain ⟨-, rfl⟩ := Act.pure_eq_some.mp h
    exact ⟨0, zero_add _, rfl, fun m hm => absurd hm (Multiset.notMem_zero m)⟩
  | cons deed deeds =>
    obtain ⟨n, rfl⟩ := hon deed rfl
    have hset : app.perform (app.surroundings limit depth) (.operate (.setRetryBudget (n + 1))) s =
        some (.done, s.amended (·.setRetryBudget (n + 1))) := rfl
    have hsince : (s.amended (·.setRetryBudget (n + 1))).Since s.trackers.nextId := by
      refine ⟨?_, hpast⟩
      simp [Producer.setRetryBudget]
    rw [run_cons_of_perform hset] at h
    obtain ⟨taken, ⟨-, hbook, hrenewed⟩, htaken⟩ := apart_run hq hsince h
    refine ⟨taken, hbook.trans (zero_add _), hrenewed, fun m hm => ?_⟩
    obtain ⟨earlier, deed, later, u, rfl, hu, hdeed, hm⟩ := htaken m hm
    exact ⟨_ :: earlier, deed, later, u, rfl, (run_cons_of_perform hset).trans hu, hdeed, hm⟩

end Application

/-! ### In a run -/

namespace MemoryBroker

variable {κ α : Type} {conduct : κ → HookKind → Message → Option BrokerError →
  Conduct MemoryBroker κ α MemoryWord} {limits : MemoryLimits} {clock : Clock} {settings : Settings}
  {scope : Nat} {a : α} {limit depth : Nat} {deeds : List (Deed κ α MemoryWord)}
  {s t : World MemoryBroker κ α}

/-- As long as tracking is off, no tracker is left over. -/
theorem past_of_run
    (h : (application conduct).run limit depth deeds
      (.opening { limits := limits } clock settings scope a) = some ((), s))
    (hoff : s.producer.tracking = false) : s.trackers.Past s.trackers.nextId := by
  refine ⟨rfl, le_refl _, fun X k _ _ hk => ?_⟩
  by_contra hlive
  obtain ⟨k, live⟩ := k
  obtain rfl : live = true := Bool.not_eq_false _ ▸ hlive
  have hasync := Application.unattended_of_run (exact_application conduct limits).honest h X k hk
  exact absurd (((plain_of_run h hoff).tracker X _ hk).sender.symm.trans hasync) (by simp)

/-- What has become of the messages that `came` in before the id `N` was given out, apart from those
    that were `taken`. -/
structure SentOnce (N : TrackingId) (came taken : Multiset Message) (t : World MemoryBroker κ α) :
    Prop where
  /-- Each is buffered, or it was offered or discarded, and that once. -/
  places : (early N (t.stock + gather Event.offering t.journal +
      departed Fate.isCleared t.journal) + taken).map Message.untracked =
    came.map Message.untracked
  /-- Each that was offered is at the broker, or it was delivered or dropped. -/
  fates : early N (gather Event.offering t.journal) =
    early N ((t.broker.inFlight.toList : List Message) + departed Fate.isDelivered t.journal +
      departed Fate.isDropped t.journal)
  /-- No retry was claimed for any of them. -/
  renewed : early N (gather Event.renewing t.journal) = 0

/-- The messages that came in while tracking was off are sent at most once and without a retry,
    whatever is done after it was switched on, apart from those that an ordered flush found in the
    buffers. They came in without an id of the producer's, or under one that was given out by the
    time of the switch. -/
theorem sentOnce_of_run (hq : (application conduct).Quiet)
    {before after : List (Deed κ α MemoryWord)}
    (hs : (application conduct).run limit depth before
      (.opening { limits := limits } clock settings scope a) = some ((), s))
    (hX : ∀ m ∈ arrived s.journal, m.isEarly s.trackers.nextId = true)
    (hoff : s.producer.tracking = false)
    (hon : ∀ deed ∈ after.head?, ∃ n, deed = .operate (.setRetryBudget (n + 1)))
    (ht : (application conduct).run limit depth after s = some ((), t)) :
    ∃ taken, SentOnce s.trackers.nextId (arrived s.journal) taken t ∧
      ∀ m ∈ taken, ∃ earlier deed later u, after = earlier ++ deed :: later ∧
        (application conduct).run limit depth earlier s = some ((), u) ∧
          deed.inOrder = true ∧ m ∈ u.stock := by
  have hc := exact_application conduct limits
  have hpast := past_of_run hs hoff
  have hearly : early s.trackers.nextId s.book = s.book :=
    early_eq_self.mpr fun m hm => (given_of_run hs hm).elim (hX m) id
  obtain ⟨M, hM, hanswered⟩ := Application.holds_of_run
    (P := fun S => S.Balanced (application conduct).Told { limits := limits } ∧ S.Answered)
    (fun h hS => ⟨hS.1.move hc.honest h, h.answered hc hS.1 hS.2⟩) ⟨.opening .., rfl⟩
    ((Application.run_append hs).trans ht)
  obtain ⟨taken, hall, hrenewed', htaken⟩ := Application.kept_of_switch hq hpast hon ht
  rw [hearly] at hall
  have hrenewed' : early s.trackers.nextId (gather Event.renewing t.journal) = 0 :=
    hrenewed'.trans (congrArg (early _) (plain_of_run hs hoff).renewed)
  refine ⟨early s.trackers.nextId taken, ⟨?_, ?_, hrenewed'⟩, fun m hm =>
    htaken m (Multiset.mem_of_mem_filter hm)⟩
  · rw [← book_of_run hs hoff, ← hall, Site.book, gather_outgoing, add_comm, ← add_assoc]
  · have hearly := congrArg (early s.trackers.nextId) hanswered
    rw [flight_eq hM] at hearly
    simp only [early_add, hrenewed', add_zero, inHand_zero] at hearly ⊢
    exact hearly

/-- Three messages come in. One of them is sent, and another comes in under the id that it had. -/
def earlyOnes : List (Deed Unit Unit MemoryWord) :=
  [.operate (.produceSync { topic := "a" }), .operate (.add { topic := "b" }),
    .operate (.add { topic := "c", tracking := some ⟨0, 0⟩ })]

/-- Tracking is switched on, and the delivery of one message fails, then that of another. -/
def lateFlushes : List (Deed Unit Unit MemoryWord) :=
  [.operate (.setRetryBudget 1), .instruct (.order (.failNext 1)), .operate (.flush false),
    .operate (.add { topic := "d" }), .instruct (.order (.failNext 1)), .operate (.flush true)]

/-- One message was dropped, and one retry was claimed. -/
def isDivided (t : World MemoryBroker Unit Unit) : Bool :=
  decide ((departed Fate.isDropped t.journal).card = 1) &&
    decide ((gather Event.renewing t.journal).card = 1)

/-- Tracking is off, the three messages came in and one id was given out, and the flushes are going
    to divide the messages. -/
def isEarlyWorld (s : World MemoryBroker Unit Unit) : Bool :=
  !s.producer.tracking && decide (arrived s.journal =
    {{ topic := "a" }, { topic := "b" }, { topic := "c", tracking := some ⟨0, 0⟩ }}) &&
    s.trackers.nextId == ⟨0, 1⟩ &&
    ((application agree).run 20 2 lateFlushes s).any fun r => isDivided r.2

theorem sentOnce_lateFlushes : ∃ s t,
    (application agree).run 20 2 earlyOnes (.opening { limits := {} } {} {} 0 ()) = some ((), s) ∧
      arrived s.journal =
        {{ topic := "a" }, { topic := "b" }, { topic := "c", tracking := some ⟨0, 0⟩ }} ∧
      (application agree).run 20 2 lateFlushes s = some ((), t) ∧
      (departed Fate.isDropped t.journal).card = 1 ∧ (gather Event.renewing t.journal).card = 1 ∧
      ∃ taken, SentOnce s.trackers.nextId (arrived s.journal) taken t := by
  have hrun : ((application agree).run 20 2 earlyOnes (.opening { limits := {} } {} {} 0 ())).any
      (fun r => isEarlyWorld r.2) = true := by
    decide +kernel
  obtain ⟨s, hs, hp⟩ := Application.exists_run hrun
  simp only [isEarlyWorld, Bool.and_eq_true, Bool.not_eq_true', decide_eq_true_eq,
    beq_iff_eq] at hp
  obtain ⟨⟨⟨hoff, harrived⟩, hnext⟩, ht⟩ := hp
  obtain ⟨t, ht, hp⟩ := Application.exists_run ht
  simp only [isDivided, Bool.and_eq_true, decide_eq_true_eq] at hp
  have hX : ∀ m ∈ arrived s.journal, m.isEarly s.trackers.nextId = true := by
    rw [harrived, hnext]
    decide
  have hon : ∀ deed ∈ lateFlushes.head?, ∃ n, deed = .operate (.setRetryBudget (n + 1)) :=
    fun _ hdeed => ⟨0, (Option.some_inj.mp hdeed).symm⟩
  obtain ⟨taken, hsent, -⟩ := sentOnce_of_run quiet_agree hs hX hoff hon ht
  exact ⟨s, t, hs, harrived, ht, hp.1, hp.2, taken, hsent⟩

/-- A message that came in while tracking was off is buffered, and an ordered flush is going to
    offer it twice and claim a retry for it. -/
def isTakenLate (s : World MemoryBroker Unit Unit) : Bool :=
  !s.producer.tracking && decide (s.stock = {{ topic := "t" }}) &&
    ((application agree).run 20 2
      [.operate (.setRetryBudget 1), .instruct (.order (.failNext 1)), .operate (.flush true)] s).any
      fun r => decide ((gather Event.offering r.2.journal).map Message.untracked =
        {{ topic := "t" }, { topic := "t" }}) &&
          decide ((gather Event.renewing r.2.journal).map Message.untracked = {{ topic := "t" }})

/-- What came in early is tracked after all when an ordered flush finds it. -/
theorem tracked_late : ∃ s t,
    (application agree).run 20 2 [.operate (.add { topic := "t" })]
        (.opening { limits := {} } {} {} 0 ()) = some ((), s) ∧
      s.producer.tracking = false ∧ s.stock = {{ topic := "t" }} ∧
      (application agree).run 20 2 [.operate (.setRetryBudget 1),
        .instruct (.order (.failNext 1)), .operate (.flush true)] s = some ((), t) ∧
      (gather Event.offering t.journal).map Message.untracked =
        {{ topic := "t" }, { topic := "t" }} ∧
      (gather Event.renewing t.journal).map Message.untracked = {{ topic := "t" }} := by
  have hrun : ((application agree).run 20 2 [.operate (.add { topic := "t" })]
      (.opening { limits := {} } {} {} 0 ())).any (fun r => isTakenLate r.2) = true := by
    decide +kernel
  obtain ⟨s, hs, hp⟩ := Application.exists_run hrun
  simp only [isTakenLate, Bool.and_eq_true, Bool.not_eq_true', decide_eq_true_eq] at hp
  obtain ⟨⟨hoff, hstock⟩, ht⟩ := hp
  obtain ⟨⟨⟨⟩, t⟩, ht, hp⟩ := (Option.any_eq_true ..).mp ht
  simp only [Bool.and_eq_true, decide_eq_true_eq] at hp
  exact ⟨s, t, hs, hoff, hstock, ht, hp⟩

end MemoryBroker

end Outbox
