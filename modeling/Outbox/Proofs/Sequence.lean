import Outbox.Proofs.Attempt
import Outbox.Proofs.Modest

/-! Strict order. Where messages come in through the buffer only and leave it only by ordered flushes
    or by being discarded, each message is seen through to the end before the next is sent, and what
    an early stop leaves over goes back in front. So the broker gets the messages one after another,
    each some number of times in a row, and delivers them in the order in which they came. The
    faults of the broker may change in any way at any time, and the hooks may veto what they like.
    Main statement: at every return to the outermost caller of such a run everything is in
    sequence. -/

namespace Outbox

/-- A message that is done with: how often the broker took it, and whether it was delivered. -/
structure Passage where
  message : Message
  copies : Nat
  arrived : Bool
  taken : arrived = true → 0 < copies

namespace Passage

/-- What the broker took of the message, all of it in a row. -/
def block (p : Passage) : List Message := List.replicate p.copies p.message

/-- The message was not delivered. -/
def vain (m : Message) (n : Nat) : Passage := ⟨m, n, false, by simp⟩

/-- What the broker delivered of the message. -/
def arrival (p : Passage) : List Message := if p.arrived then [p.message] else []

end Passage

/-- The operation sees messages through one by one if it sends any, and it sets no buffer limit. -/
def Operation.keepsOrder : Operation Message → Bool
  | flush inOrder | flushFor _ inOrder => inOrder
  | setBufferLimit n => n < 0
  | produce _ | produceSync _ | flushAsync => false
  | add _ | awaitAcks | awaitAcksFor _ | clear | setFlushMode _ | setRetryBudget _
  | setFullQueueNotice _ => true

/-- The messages that come in by the operation. -/
def Operation.coming : Operation Message → List Message
  | add m => [m]
  | _ => []

/-- The broker is told anything but to pause. -/
def MemoryWord.keepsAwake : MemoryWord → Bool
  | order .pause => false
  | _ => true

/-- What was delivered are some of the messages, in their order. -/
theorem Passage.arrivals_sublist (ledger : List Passage) :
    ((ledger.flatMap Passage.arrival).map Message.untracked).Sublist
      (ledger.map (·.message.untracked)) := by
  induction ledger with
  | nil => exact .slnil
  | cons p ledger ih =>
    rw [List.flatMap_cons, List.map_append, List.map_cons]
    unfold arrival
    split
    · exact ih.cons_cons _
    · exact ih.cons _

variable {κ α : Type}

namespace Deed

/-- The deed lets no message in but to the buffer and out but one by one, and it does not pause the
    broker. -/
def keepsOrder : Deed κ α MemoryWord → Bool
  | operate op => op.keepsOrder
  | instruct w => w.keepsAwake
  | register .. | pollBroker | flushBroker _ | sleep _ | think _ => true

/-- The messages that come in by the deed. -/
def coming : Deed κ α MemoryWord → List Message
  | operate op => op.coming
  | _ => []

end Deed

namespace MemoryBroker

/-- The faults may change in any way. -/
def anyDrift : Drift False where
  may _ _ := True
  refl _ := trivial
  trans _ _ := trivial
  failed _ := trivial
  filled _ := trivial
  bounded h := h.elim

/-- From the one world to the other the messages of the ledger have passed, one after another. -/
structure Passed (ledger : List Passage) (s t : World MemoryBroker κ α) : Prop where
  sent : t.broker.sent.toList = s.broker.sent.toList ++ ledger.flatMap Passage.block
  delivered : t.broker.delivered.toList =
    s.broker.delivered.toList ++ ledger.flatMap Passage.arrival

section

variable {call : κ → HookKind → Message → Option BrokerError → Work MemoryBroker κ α Bool}
  {limit : Nat} {V : Verdicts} {s t u w : World MemoryBroker κ α} {id : TrackingId}
  {m : Message} {ledger ledger' : List Passage}

theorem Passed.refl (s : World MemoryBroker κ α) : Passed [] s s :=
  ⟨(List.append_nil _).symm, (List.append_nil _).symm⟩

theorem Passed.trans (h : Passed ledger s t) (h' : Passed ledger' t u) :
    Passed (ledger ++ ledger') s u := by
  refine ⟨?_, ?_⟩
  · rw [h'.sent, h.sent, List.flatMap_append, List.append_assoc]
  · rw [h'.delivered, h.delivered, List.flatMap_append, List.append_assoc]

theorem Passed.of_unmoved (h : Passed ledger s t) (ht : t.Unmoved (leeway anyDrift) u) :
    Passed ledger s u :=
  ⟨ht.broker.sent.trans h.sent, ht.broker.delivered.trans h.delivered⟩

/-- Copies of one message that follow each other make one block. -/
theorem Passed.resume {n : Nat} {p : Passage} (h : Passed [.vain p.message n] s t)
    (h' : Passed [p] t u) : ∃ q : Passage, q.message = p.message ∧ Passed [q] s u := by
  refine ⟨⟨p.message, n + p.copies, p.arrived, fun hp => ?_⟩, rfl, ?_, ?_⟩
  · have := p.taken hp
    omega
  · rw [h'.sent, h.sent]
    simp [Passage.block, Passage.vain]
  · rw [h'.delivered, h.delivered]
    simp [Passage.arrival, Passage.vain]

/-! ### One message -/

/-- The message was refused or not delivered. -/
def isOutcome : ProducerError → Bool
  | .refused _ | .undelivered _ => true
  | _ => false

/-- The broker takes a message at most once in one attempt, and delivers it only in the last. -/
theorem Attempted.passed {o : Unit ⊕ Except ProducerError Unit}
    (h : Attempted anyDrift V s id m o w) :
    o.elim (fun _ => ∃ n, Passed [.vain m n] s w) fun r =>
      (∃ p : Passage, p.message = m ∧ Passed [p] s w) ∧ ∀ e, r = .error e → isOutcome e = true := by
  cases h with
  | kept =>
    exact ⟨0, by simp [Passage.block, Passage.vain], by simp [Passage.arrival, Passage.vain]⟩
  | refused =>
    refine ⟨⟨.vain m 0, rfl, ?_, ?_⟩, by simp [isOutcome]⟩
    · simp [Passage.block, Passage.vain]
    · simp [Passage.arrival, Passage.vain]
  | delivered =>
    refine ⟨⟨⟨m, 1, true, fun _ => Nat.one_pos⟩, rfl, ?_, ?_⟩, by simp⟩
    · simp [Passage.block, taken, emptied]
    · simp [Passage.arrival, taken, emptied]
  | left =>
    refine ⟨1, ?_, ?_⟩
    · simp [Passage.block, Passage.vain, taken, emptied]
    · simp [Passage.arrival, Passage.vain, taken, emptied]
  | lost =>
    refine ⟨⟨.vain m 1, rfl, ?_, ?_⟩, by simp [isOutcome]⟩
    · simp [Passage.block, Passage.vain, taken, emptied]
    · simp [Passage.arrival, Passage.vain, taken, emptied]

/-- A message that is seen through has passed, and has an outcome. -/
theorem meets_sendSync_passed
    (hpolite : (surroundings call limit).Polite False (leeway anyDrift) V s.producer.hooks)
    (hs : s.Resting) (m : Message) :
    ((surroundings call limit).sendSync m).Meets False s fun r t =>
      ((∃ p : Passage, p.message.untracked = m.untracked ∧ Passed [p] s t) ∧
        ∀ e, r = .error e → isOutcome e = true) ∧ Stays anyDrift.may s t ∧ t.Resting := by
  have huntracked : (s.engage m).1.untracked = m.untracked :=
    s.trackers.untracked_attach m _ _
  refine meets_sendSync (P := fun u => ∃ n, Passed [.vain (s.engage m).1 n] s u) (fun _ => 0)
    hpolite hs False.elim False.elim (fun _ => rfl) ?_ ?_ ?_ False.elim ?_
  · rintro u v ⟨n, hu⟩ hv
    exact ⟨n, hu.of_unmoved hv⟩
  · rintro r u v ⟨⟨p, hp, hu⟩, hr⟩ hv
    exact ⟨⟨p, hp, hu.of_unmoved hv⟩, hr⟩
  · refine ⟨0, ?_, ?_⟩
    · simp [Passage.block, Passage.vain]
    · simp [Passage.arrival, Passage.vain]
  · rintro u o w ⟨n, hu⟩ hw
    have hpassed := hw.passed
    cases o with
    | inl _ =>
      obtain ⟨n', hpassed⟩ := hpassed
      refine ⟨⟨n + n', ?_, ?_⟩, False.elim⟩
      · rw [hpassed.sent, hu.sent]
        simp [Passage.block, Passage.vain]
      · rw [hpassed.delivered, hu.delivered]
        simp [Passage.arrival, Passage.vain]
    | inr r =>
      obtain ⟨⟨p, hp, hpassed⟩, hr⟩ := hpassed
      rw [← hp] at hu
      obtain ⟨q, hq, hpassed⟩ := hu.resume hpassed
      refine ⟨⟨q, ?_, hpassed⟩, hr⟩
      rw [hq, hp, huntracked]

/-! ### Flushes -/

/-- Of the batch the first messages have passed, and as many were counted. -/
structure PassedOf (batch : Batch) (k : Nat) (s t : World MemoryBroker κ α) : Prop where
  ledger : ∃ ledger : List Passage, Passed ledger s t ∧
    ledger.map (·.message.untracked) = (batch.take k).map Message.untracked
  stays : Stays anyDrift.may s t
  resting : t.Resting

theorem meets_timeIsUp (s : World MemoryBroker κ α) (start : Nat) (timeout : Option Span) :
    (Surroundings.timeIsUp start timeout).Meets False s fun _ t =>
      s.Unmoved (leeway anyDrift) t := by
  cases timeout with
  | none => exact .pure (.refl s)
  | some timeout =>
    exact .of_eq (Site.readClock_bind ..) (.pure (.turn ((leeway anyDrift).refl _) _))

theorem meets_sendInOrder
    (hpolite : (surroundings call limit).Polite False (leeway anyDrift) V s.producer.hooks)
    (hs : s.Resting) (start : Nat) (timeout : Option Span) (k : Nat) (batch : Batch) :
    ((surroundings call limit).sendInOrder start timeout k batch).Meets False s fun r t =>
      r.2 = .ok () ∧ k ≤ r.1 ∧ PassedOf batch (r.1 - k) s t := by
  induction batch generalizing k s with
  | nil =>
    refine .pure ⟨rfl, le_refl k, ?_⟩
    rw [Nat.sub_self]
    exact ⟨⟨[], .refl s, rfl⟩, stays_of_unmoved (.refl s), hs⟩
  | cons m rest ih =>
    refine (meets_sendSync_passed hpolite hs m).bind fun r t ht => ?_
    obtain ⟨⟨⟨p, hp, hpassed⟩, hr⟩, hstays, hresting⟩ := ht
    have hgo : Act.Meets False (do
        if ← Surroundings.timeIsUp start timeout then return (k + 1, .ok ())
        else (surroundings call limit).sendInOrder start timeout (k + 1) rest :
          Work MemoryBroker κ α (Nat × Except ProducerError Unit)) t fun r u =>
          r.2 = .ok () ∧ k ≤ r.1 ∧ PassedOf (m :: rest) (r.1 - k) s u := by
      refine (meets_timeIsUp t start timeout).bind fun up u hu => ?_
      have hpassed := hpassed.of_unmoved hu
      have hstays := hstays.trans (stays_of_unmoved hu)
      have hresting := hresting.of_unmoved hu
      cases up with
      | true =>
        refine .pure ⟨rfl, Nat.le_succ k, ?_⟩
        rw [Nat.add_sub_cancel_left]
        exact ⟨⟨[p], hpassed, by simp [hp]⟩, hstays, hresting⟩
      | false =>
        have hpolite : (surroundings call limit).Polite False (leeway anyDrift) V
            u.producer.hooks := by
          rw [hstays.hooks]
          exact hpolite
        refine (ih hpolite hresting (k + 1)).mono fun r v hv => ?_
        obtain ⟨hok, hk, ⟨ledger, hledger, hmap⟩, hstays', hresting'⟩ := hv
        refine ⟨hok, by omega, ⟨p :: ledger, hpassed.trans hledger, ?_⟩, hstays.trans hstays',
          hresting'⟩
        rw [show r.1 - k = r.1 - (k + 1) + 1 by omega]
        simp [hp, hmap]
    cases r with
    | ok _ => exact hgo
    | error e =>
      cases e with
      | refused _ => exact hgo
      | undelivered _ => exact hgo
      | _ => exact absurd (hr _ rfl) (by simp [isOutcome])

/-- So it stands between two operations when everything is in order: the messages that came have
    passed or are still buffered, and nothing waits to be sent again. -/
structure InOrder (came : List Message) (s : World MemoryBroker κ α) : Prop where
  resting : s.Resting
  unlimited : s.producer.settings.bufferLimit = -1
  retry : s.producer.retry.messages = []
  ledger : ∃ ledger : List Passage,
    came.map Message.untracked =
      ledger.map (·.message.untracked) ++ s.producer.regular.messages.map Message.untracked ∧
    s.broker.sent.toList = ledger.flatMap Passage.block ∧
    s.broker.delivered.toList = ledger.flatMap Passage.arrival

variable {came : List Message}

/-- What is there stays, and nothing passes. -/
theorem InOrder.of_stays (h : InOrder came s) (hstays : Stays anyDrift.may s t) (ht : t.Resting)
    (hpassed : Passed [] s t) : InOrder came t := by
  obtain ⟨-, hunlimited, hretry, ledger, hcame, hsent, hdelivered⟩ := h
  refine ⟨ht, ?_, ?_, ledger, ?_, ?_, ?_⟩
  · rw [hstays.settings, hunlimited]
  · rw [hstays.retry, hretry]
  · rw [hstays.regular, hcame]
  · rw [hpassed.sent, hsent, List.flatMap_nil, List.append_nil]
  · rw [hpassed.delivered, hdelivered, List.flatMap_nil, List.append_nil]

theorem InOrder.of_unmoved (h : InOrder came s) (ht : s.Unmoved (leeway anyDrift) t) :
    InOrder came t :=
  h.of_stays (stays_of_unmoved ht) (h.resting.of_unmoved ht) ((Passed.refl s).of_unmoved ht)

theorem meets_flushInOrder
    (hpolite : (surroundings call limit).Polite False (leeway anyDrift) V s.producer.hooks)
    (h : InOrder came s) (timeout : Option Span) :
    ((surroundings call limit).flushInOrder timeout).Meets False s fun _ t => InOrder came t := by
  obtain ⟨⟨hawake, hempty, hpending⟩, hunlimited, hretry, ledger, hcame, hsent, hdelivered⟩ := h
  have hopened : s.opened.Resting := ⟨hawake, hempty, hpending⟩
  refine Surroundings.meets_flushInOrder ((meets_sendInOrder (s := s.opened) hpolite hopened _
    timeout 0 _).mono fun r t ht => ?_)
  obtain ⟨-, -, ⟨ledger', hpassed, hmap⟩, hstays, ⟨hawake, hempty, hpending⟩⟩ := ht
  have hregular : t.producer.regular.messages = [] := congrArg Buffer.messages hstays.regular
  have hretry' : t.producer.retry.messages = [] := congrArg Buffer.messages hstays.retry
  rw [hretry, List.nil_append] at hmap
  refine ⟨⟨hawake, hempty, hpending⟩, ?_, ?_, ledger ++ ledger', ?_, ?_, ?_⟩
  · exact (congrArg Settings.bufferLimit hstays.settings).trans hunlimited
  · rw [Site.retry_closed, hretry, hretry', List.drop_nil, List.nil_append]
  · -- What has not passed is still there.
    rw [Site.regular_closed, hretry, hregular, hcame, List.map_append, List.append_assoc, hmap,
      List.append_nil, ← List.map_append, List.length_nil, List.take_append_drop]
  · exact hpassed.sent.trans (by rw [List.flatMap_append, ← hsent]; rfl)
  · exact hpassed.delivered.trans (by rw [List.flatMap_append, ← hdelivered]; rfl)

/-! ### Operations -/

theorem meets_discard (batch : Batch) (s : World MemoryBroker κ α) :
    Act.Meets False (batch.forM Work.discard) s fun _ t =>
      Stays anyDrift.may s t ∧ t.broker = s.broker ∧
        t.producer.counters.pending = s.producer.counters.pending := by
  induction batch generalizing s with
  | nil => exact .pure ⟨stays_of_unmoved (.refl s), rfl, rfl⟩
  | cons m batch ih =>
    have hstays : Stays anyDrift.may s (s.discarded m) := ⟨rfl, rfl, rfl, rfl, rfl, rfl, trivial⟩
    refine .of_eq (y := batch.forM Work.discard) (u := s.discarded m) ?_
      ((ih _).mono fun _ t ht => ⟨hstays.trans ht.1, ht.2⟩)
    simp only [List.forM_eq_forM, List.forM_cons, Work.discard, bind_assoc, Work.release_bind,
      Work.record_bind]
    rfl

theorem meets_clear (h : InOrder came s) :
    (Work.clear : Work MemoryBroker κ α Unit).Meets False s fun _ t => InOrder came t := by
  obtain ⟨⟨hawake, hempty, hpending⟩, hunlimited, hretry, ledger, hcame, hsent, hdelivered⟩ := h
  refine .of_eq (Work.takeRetry_bind ..) (.of_eq (Work.takeRegular_bind ..) ?_)
  refine (meets_discard _ _).mono fun _ t ht => ?_
  obtain ⟨hstays, hbroker, hp⟩ := ht
  have hbroker : t.broker = s.broker := hbroker
  refine ⟨⟨?_, ?_, hp.trans hpending⟩, ?_, ?_,
    ledger ++ s.producer.regular.messages.map (Passage.vain · 0), ?_, ?_, ?_⟩
  · rw [hbroker, hawake]
  · rw [hbroker, hempty]
  · exact (congrArg Settings.bufferLimit hstays.settings).trans hunlimited
  · exact congrArg Buffer.messages hstays.retry
  · have hregular : t.producer.regular.messages = [] := congrArg Buffer.messages hstays.regular
    rw [hcame, hregular]
    simp [Passage.vain, Function.comp_def]
  · rw [hbroker, hsent]
    simp [Passage.block, Passage.vain, List.flatMap_map]
  · rw [hbroker, hdelivered]
    simp [Passage.arrival, Passage.vain, List.flatMap_map]

/-- A message that comes in changes nothing but trackers. -/
theorem stays_enroll (s : World MemoryBroker κ α) (m : Message) :
    Stays anyDrift.may s (s.enroll m).2 ∧ (s.enroll m).2.broker = s.broker ∧
      (s.enroll m).2.producer.counters = s.producer.counters ∧
      (s.enroll m).1.untracked = m.untracked := by
  unfold Site.enroll
  dsimp only
  split
  · exact ⟨⟨rfl, rfl, rfl, rfl, rfl, rfl, trivial⟩, rfl, rfl, s.trackers.untracked_attach m _ _⟩
  · exact ⟨⟨rfl, rfl, rfl, rfl, rfl, rfl, trivial⟩, rfl, rfl, rfl⟩

theorem meets_add (h : InOrder came s) (m : Message) :
    ((surroundings call limit).add m).Meets False s fun _ t => InOrder (came ++ [m]) t := by
  obtain ⟨⟨hawake, hempty, hpending⟩, hunlimited, hretry, ledger, hcame, hsent, hdelivered⟩ := h
  obtain ⟨hstays, hbroker, hcounters, huntracked⟩ := stays_enroll s m
  refine .of_eq (Work.enroll_bind ..) (.of_eq (Work.modifyProducer_bind ..) ?_)
  refine .of_eq (Work.producer_bind ..) ?_
  generalize s.enroll m = enrolled at hstays hbroker hcounters huntracked ⊢
  obtain ⟨m', t⟩ := enrolled
  have hlimit : t.producer.settings.bufferLimit = -1 :=
    (congrArg Settings.bufferLimit hstays.settings).trans hunlimited
  have hlater : InOrder (came ++ [m])
      (t.amended fun p => { p with regular := p.regular.pushBack m' }) := by
    have hbroker : t.broker = s.broker := hbroker
    refine ⟨⟨?_, ?_, ?_⟩, hlimit, ?_, ledger, ?_, ?_, ?_⟩
    · exact (congrArg MemoryBroker.paused hbroker).trans hawake
    · exact (congrArg (·.inFlight.toList) hbroker).trans hempty
    · exact (congrArg Counters.pending hcounters).trans hpending
    · exact (congrArg Buffer.messages hstays.retry).trans hretry
    · have hregular : t.producer.regular = s.producer.regular := hstays.regular
      simp [hcame, hregular, huntracked]
    · exact (congrArg (·.sent.toList) hbroker).trans hsent
    · exact (congrArg (·.delivered.toList) hbroker).trans hdelivered
  -- Without a limit the buffer is never so full that a flush is due.
  rw [if_neg (by simp [Producer.overfull, hlimit])]
  exact .pure hlater

/-- A change of settings or hooks, and of nothing else. -/
theorem InOrder.amended (h : InOrder came s) {f : Producer κ → Producer κ} (hf : Producer.Spares f)
    (hlimit : (f s.producer).settings.bufferLimit = -1) : InOrder came (s.amended f) := by
  obtain ⟨⟨hawake, hempty, hpending⟩, -, hretry, ledger, hcame, hsent, hdelivered⟩ := h
  refine ⟨⟨hawake, hempty, ?_⟩, hlimit, ?_, ledger, ?_, hsent, hdelivered⟩
  · rw [Site.producer_amended, hf.counters, hpending]
  · rw [Site.producer_amended, hf.retry, hretry]
  · rw [Site.producer_amended, hf.regular, hcame]

/-- The only limit below zero that can be set is none at all. -/
theorem meets_setBufferLimit (h : InOrder came s) {n : Int} (hn : n < 0) :
    (Work.setBufferLimit n : Work MemoryBroker κ α _).Meets False s fun _ t => InOrder came t := by
  unfold Work.setBufferLimit Settings.checkBufferLimit
  by_cases hlow : n < -1
  · rw [if_pos hlow]
    exact .pure h
  · obtain rfl : n = -1 := by omega
    rw [if_neg hlow]
    refine .of_eq (Work.modifyProducer_bind ..) (.pure (h.amended ?_ rfl))
    exact Surroundings.spares_settings fun s => { s with bufferLimit := -1 }

theorem meets_operate
    (hpolite : (surroundings call limit).Polite False (leeway anyDrift) V s.producer.hooks)
    (h : InOrder came s) {op : Operation Message} (hop : op.keepsOrder = true) :
    ((surroundings call limit).operate op).Meets False s fun _ t =>
      InOrder (came ++ op.coming) t := by
  cases op with
  | add m => exact (meets_add h m).map fun _ _ ht => ht
  | flush inOrder =>
    obtain rfl : inOrder = true := hop
    simp only [Operation.coming, List.append_nil]
    exact Act.Meets.map ((meets_flushInOrder hpolite h none).map fun _ _ ht => ht) fun _ _ ht => ht
  | flushFor timeout inOrder =>
    obtain rfl : inOrder = true := hop
    simp only [Operation.coming, List.append_nil]
    exact (meets_flushInOrder hpolite h (some timeout)).map fun _ _ ht => ht
  | awaitAcks =>
    simp only [Operation.coming, List.append_nil]
    refine (meets_awaitAcks_of_idle h.resting.pending False.elim).map fun _ t ht => ?_
    rw [ht.2]
    exact h
  | awaitAcksFor timeout =>
    simp only [Operation.coming, List.append_nil]
    refine (meets_awaitAcksFor (keeps_idle h.resting.empty)
      (queued_idle h.resting.empty h.resting.awake) (fun t ht => ?_) False.elim timeout).map
      fun _ t ht => h.of_unmoved ht.2.2
    exact (h.resting.of_unmoved ht.2).pending
  | clear =>
    simp only [Operation.coming, List.append_nil]
    exact (meets_clear h).bind fun _ _ ht => .pure ht
  | setBufferLimit n =>
    simp only [Operation.coming, List.append_nil]
    exact (meets_setBufferLimit h (by simpa [Operation.keepsOrder] using hop)).map fun _ _ ht => ht
  | setFlushMode mode =>
    simp only [Operation.coming, List.append_nil]
    refine .of_eq (Work.modifyProducer_bind ..) (.pure (h.amended ?_ h.unlimited))
    exact Surroundings.spares_settings fun s => { s with flushMode := mode }
  | setRetryBudget n =>
    simp only [Operation.coming, List.append_nil]
    refine .of_eq (Work.modifyProducer_bind ..) (.pure (h.amended ?_ h.unlimited))
    exact Surroundings.spares_setRetryBudget n
  | setFullQueueNotice notice =>
    simp only [Operation.coming, List.append_nil]
    refine .of_eq (Work.modifyProducer_bind ..) (.pure (h.amended ?_ h.unlimited))
    exact Surroundings.spares_settings fun s => { s with fullQueueNotice := notice }
  | produce _ | produceSync _ | flushAsync => simp [Operation.keepsOrder] at hop

end

/-! ### Runs -/

/-- What the broker is told while it stays awake changes its faults only. -/
theorem akin_heed {w : MemoryWord} (hw : w.keepsAwake = true) (b : MemoryBroker) (clock : Clock) :
    Akin anyDrift.may b (b.heed clock w) := by
  cases w with
  | order o =>
    refine (leeway anyDrift).trans (akin_wake anyDrift b clock) ?_
    cases o with
    | pause => simp [MemoryWord.keepsAwake] at hw
    | resume => exact ⟨rfl, rfl, rfl, rfl, fun _ => rfl, trivial⟩
    | _ => exact ⟨rfl, rfl, rfl, rfl, id, trivial⟩
  | fault f => exact ⟨rfl, rfl, rfl, rfl, id, trivial⟩
  | resumption t => exact ⟨rfl, rfl, rfl, rfl, id, trivial⟩

section

variable {conduct : κ → HookKind → Message → Option BrokerError →
    Conduct MemoryBroker κ α MemoryWord} {s t : World MemoryBroker κ α} {came : List Message}

theorem meets_perform
    (hmodest : ∀ hook kind m e,
      (conduct hook kind m e).Modest (·.keepsAwake = true) fun _ => True)
    (limit depth : Nat) (h : InOrder came s) {deed : Deed κ α MemoryWord}
    (hdeed : deed.keepsOrder = true) :
    ((application conduct).perform ((application conduct).surroundings limit depth) deed).Meets
      False s fun _ t => InOrder (came ++ deed.coming) t := by
  have hpolite : (surroundings ((application conduct).called limit depth) limit).Polite False
      (leeway anyDrift) (fun _ _ _ _ => True) s.producer.hooks :=
    polite_application (V := fun _ _ _ _ => True) (fun _ hw => akin_heed hw)
      (fun _ m e => (hmodest _ _ m e).mono fun _ _ _ _ => trivial) (fun _ _ _ => trivial) limit
      False.elim
  have hidle := queued_idle (G := anyDrift) h.resting.empty h.resting.awake
  cases deed with
  | operate op => exact meets_operate hpolite h hdeed
  | register kind hook =>
    simp only [Deed.coming, List.append_nil]
    refine .of_eq (Work.modifyProducer_bind ..) (.pure (h.amended ?_ h.unlimited))
    exact Surroundings.spares_setHook kind hook
  | pollBroker =>
    simp only [Deed.coming, List.append_nil]
    exact (meets_poll (keeps_idle h.resting.empty) hidle False.elim).bind
      fun _ t ht => .pure (h.of_unmoved ht.2)
  | flushBroker timeout =>
    simp only [Deed.coming, List.append_nil]
    exact (meets_flushBroker (keeps_idle h.resting.empty) hidle False.elim timeout).map
      fun _ t ht => h.of_unmoved ht.2.2
  | instruct w =>
    simp only [Deed.coming, List.append_nil]
    have ht : s.Unmoved (leeway anyDrift) (s.brokered (s.broker.heed s.clock w)) :=
      .of_broker (akin_heed hdeed s.broker s.clock)
    exact .of_eq (y := pure .done) rfl (.pure (h.of_unmoved ht))
  | sleep d =>
    simp only [Deed.coming, List.append_nil]
    have ht : s.Unmoved (leeway anyDrift) (s.turned s.broker (s.clock.sleep d)) :=
      .turn ((leeway anyDrift).refl _) _
    exact .of_eq (y := pure .done) rfl (.pure (h.of_unmoved ht))
  | think f =>
    simp only [Deed.coming, List.append_nil]
    have ht : s.Unmoved (leeway anyDrift)
        { s with owner := { s.owner with app := f s.owner.app } } :=
      ⟨.refl _, (leeway anyDrift).refl _, fun _ => rfl⟩
    exact .of_eq (y := pure .done) rfl (.pure (h.of_unmoved ht))

/-- Every run that keeps the order leads from one world in order to another. -/
theorem inOrder_run
    (hmodest : ∀ hook kind m e,
      (conduct hook kind m e).Modest (·.keepsAwake = true) fun _ => True)
    {limit depth : Nat} {deeds : List (Deed κ α MemoryWord)}
    (hdeeds : ∀ deed ∈ deeds, deed.keepsOrder = true) (hs : InOrder came s)
    (h : (application conduct).run limit depth deeds s = some ((), t)) :
    InOrder (came ++ deeds.flatMap Deed.coming) t := by
  induction deeds generalizing came s with
  | nil =>
    obtain ⟨-, rfl⟩ := Act.pure_eq_some.mp h
    rwa [List.flatMap_nil, List.append_nil]
  | cons deed deeds ih =>
    obtain ⟨r, u, hdeed, h⟩ := Application.run_cons h
    have hu := (meets_perform hmodest limit depth hs
      (hdeeds deed (List.mem_cons_self ..))).post r u hdeed
    rw [List.flatMap_cons, ← List.append_assoc]
    exact ih (fun d hd => hdeeds d (List.mem_cons_of_mem _ hd)) hu h

end

/-- The messages that came, and the logs of the broker. -/
structure InSequence (came : List Message) (t : World MemoryBroker κ α) : Prop where
  retry : t.producer.retry.messages = []
  inFlight : t.broker.inFlight.toList = []
  /-- The broker took the messages in the order in which they came, each some number of times in a
      row, and delivered each at most once. -/
  blocks : ∃ ledger : List Passage,
    ledger.map (·.message.untracked) = came.map Message.untracked ∧
    t.broker.sent.toList = ledger.flatMap Passage.block ∧
    t.broker.delivered.toList = ledger.flatMap Passage.arrival
  /-- What was delivered, and after it what is buffered, came in this order. -/
  order : ((t.broker.delivered.toList ++ t.producer.regular.messages).map Message.untracked).Sublist
    (came.map Message.untracked)

/-- At every return to the outermost caller everything is in sequence, if messages come in through
    the buffer, which has no limit, and leave it by ordered flushes or by being discarded. -/
theorem inSequence_of_run {conduct : κ → HookKind → Message → Option BrokerError →
      Conduct MemoryBroker κ α MemoryWord} {limits : MemoryLimits} {clock : Clock}
    {settings : Settings} {scope : Nat} {a : α} {limit depth : Nat}
    {deeds : List (Deed κ α MemoryWord)} {t : World MemoryBroker κ α}
    (hmodest : ∀ hook kind m e,
      (conduct hook kind m e).Modest (·.keepsAwake = true) fun _ => True)
    (hsettings : settings.bufferLimit = -1) (hdeeds : ∀ deed ∈ deeds, deed.keepsOrder = true)
    (h : (application conduct).run limit depth deeds
      (.opening { limits := limits } clock settings scope a) = some ((), t)) :
    InSequence (deeds.flatMap Deed.coming) t := by
  have hopening : InOrder [] (Site.opening (κ := κ) { limits := limits } clock settings scope a) :=
    ⟨⟨rfl, rfl, rfl⟩, hsettings, rfl, [], rfl, rfl, rfl⟩
  obtain ⟨hresting, -, hretry, ledger, hcame, hsent, hdelivered⟩ :=
    inOrder_run hmodest hdeeds hopening h
  rw [List.nil_append] at hcame
  refine ⟨hretry, hresting.empty,
    ⟨ledger ++ t.producer.regular.messages.map (Passage.vain · 0), ?_, ?_, ?_⟩, ?_⟩
  · rw [hcame]
    simp [Passage.vain, Function.comp_def]
  · rw [hsent]
    simp [Passage.block, Passage.vain, List.flatMap_map]
  · rw [hdelivered]
    simp [Passage.arrival, Passage.vain, List.flatMap_map]
  · rw [hcame, List.map_append, hdelivered]
    exact (Passage.arrivals_sublist ledger).append_right _

/-- A hook that forbids to send messages of one topic again, and has the broker call its queue
    full. -/
def waver (_ : Unit) (_ : HookKind) (m : Message) (_ : Option BrokerError) :
    Conduct MemoryBroker Unit Unit MemoryWord :=
  .act (.instruct (.order (.reportQueueFull 1))) fun _ => .answer (m.topic != "b")

/-- Three messages come in; there is time for one, which fails first; then comes another, and of the
    rest one fails and must not be sent again. -/
def stages : List (Deed Unit Unit MemoryWord) :=
  [.register .deliveryFailed (), .operate (.add { topic := "a" }), .operate (.add { topic := "b" }),
    .operate (.add { topic := "c" }), .instruct (.order (.failNext 1)),
    .operate (.flushFor .zero true), .operate (.add { topic := "d" }),
    .instruct (.order (.failNext 1)), .operate (.flushFor .zero true),
    .operate (.flushFor .zero true)]

/-- The first message was sent twice, the second once, and the last is still there. -/
def isStaged (t : World MemoryBroker Unit Unit) : Bool :=
  t.broker.sent.toList.map (·.topic) == ["a", "a", "b", "c"] &&
    t.broker.delivered.toList.map (·.topic) == ["a", "c"] && t.producer.regular.size == 1

theorem inSequence_waver :
    ∃ t, (application waver).run 60 1 stages
        (.opening { limits := { capacity := 1 } } {} { retryBudget := 2 } 0 ()) = some ((), t) ∧
      isStaged t = true ∧
      InSequence (stages.flatMap Deed.coming) t := by
  refine (Application.exists_run (p := isStaged) ?_).imp fun t ht =>
    ⟨ht.1, ht.2, inSequence_of_run (fun _ _ _ _ => .instruct rfl fun _ => .answer trivial) rfl
      (by decide) ht.1⟩
  decide +kernel

end MemoryBroker

end Outbox
