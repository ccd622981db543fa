import Outbox.Proofs.Balance
import Outbox.Proofs.Waiting

/-! That every operation of a poised producer returns, and everything else that an application does
    with it. Some operations wait until nothing is pending; they return only if no report is being
    dealt with. The others return in any case, though one that waits for a time may need a clock
    that goes on. -/

namespace Outbox

variable {κ α : Type}

namespace Operation

/-- The operation waits until nothing is pending. To buffer a message is to wait if the buffer is
    full then and the flush that follows waits. -/
def waits (p : Producer κ) : Operation Message → Bool
  | add m =>
    { p with regular := p.regular.pushBack m }.overfull && p.settings.flushMode == .sync
  | produceSync _ | flush _ | awaitAcks => true
  | flushFor _ inOrder => inOrder
  | produce _ | flushAsync | awaitAcksFor _ | clear | setBufferLimit _ | setFlushMode _
  | setRetryBudget _ | setFullQueueNotice _ => false

end Operation

/-- The deed waits until nothing is pending. -/
def Deed.waits {ο : Type} (p : Producer κ) : Deed κ α ο → Bool
  | .operate op => op.waits p
  | .register .. | .pollBroker | .flushBroker _ | .instruct _ | .sleep _ | .think _ => false

namespace MemoryBroker

section

variable {K : Terms α} {n d : Nat} {call : HookCalls κ α} {s t : World MemoryBroker κ α}

/-! ### Operations -/

theorem ends_flush (hcall : Heedful K n call) (hs : s.Poised K n 0) (inOrder : Bool) :
    Act.Ends (fun l k => (within call l k).flush inOrder) s fun _ t => s.Went K n 0 t True := by
  cases inOrder with
  | true => exact (ends_flushInOrder hcall hs none).map fun _ t ht => ht
  | false =>
    refine (ends_flushAsync hcall hs).bind fun r t ht => ?_
    cases r with
    | error e => exact .pure ht
    | ok =>
      exact (ends_awaitAcks hcall ht.poised).mono fun _ u hu => ht.trans hu fun _ _ => trivial

theorem ends_flushFor (hcall : Heedful K n call) (hs : s.Poised K n d) (timeout : Span)
    {inOrder : Bool} (hwaits : inOrder = true → d = 0) (hclock : d = 0 ∨ Unbounded K.drift) :
    Act.Ends (fun l k => (within call l k).flushFor timeout inOrder) s fun _ t =>
      s.Went K n d t True := by
  cases inOrder with
  | true =>
    obtain rfl := hwaits rfl
    exact ends_flushInOrder hcall hs (some timeout)
  | false =>
    refine (ends_flushAsync hcall hs).bind fun r t ht => ?_
    cases r with
    | error e => exact .pure ht
    | ok =>
      refine (ends_awaitAcksFor hcall ht.poised (hclock.imp_right .inr)).mono fun _ u hu => ?_
      exact ht.trans hu fun _ _ => trivial

/-- A message that comes in gets a tracker at most. -/
theorem went_enroll (hs : s.Poised K n d) (m : Message) : s.Went K n d (s.enroll m).2 True := by
  unfold Site.enroll
  dsimp only
  split <;> exact .of_idle hs rfl (.refl _) trivial

/-- Whether a message makes the buffer full does not depend on its tracker. -/
theorem overfull_enroll (s : World MemoryBroker κ α) (m : Message) :
    { (s.enroll m).2.producer with
      regular := (s.enroll m).2.producer.regular.pushBack (s.enroll m).1 }.overfull =
    { s.producer with regular := s.producer.regular.pushBack m }.overfull := by
  unfold Site.enroll
  dsimp only
  split <;> rfl

theorem flushMode_enroll (s : World MemoryBroker κ α) (m : Message) :
    (s.enroll m).2.producer.settings.flushMode = s.producer.settings.flushMode := by
  unfold Site.enroll
  dsimp only
  split <;> rfl

theorem ends_add (hcall : Heedful K n call) (hs : s.Poised K n d) (m : Message)
    (hwaits : (Operation.add m).waits s.producer = true → d = 0) :
    Act.Ends (fun l k => (within call l k).add m) s fun _ t => s.Went K n d t True := by
  refine .of_eq (fun l k => Work.enroll_bind ..) ?_
  refine .of_eq (fun l k => Work.modifyProducer_bind ..) ?_
  refine .of_eq (fun l k => Work.producer_bind ..) ?_
  obtain ⟨t, ht⟩ : ∃ t, t = (s.enroll m).2.amended fun p =>
      { p with regular := p.regular.pushBack (s.enroll m).1 } := ⟨_, rfl⟩
  have hbuffered : s.Went K n d t True := by
    have henroll := went_enroll hs m
    rw [ht]
    exact henroll.onto henroll.poised rfl (.refl _) id
  have hfull : t.producer.overfull =
      { s.producer with regular := s.producer.regular.pushBack m }.overfull := by
    rw [ht]
    exact overfull_enroll s m
  have hmode : t.producer.settings.flushMode = s.producer.settings.flushMode := by
    rw [ht]
    exact flushMode_enroll s m
  rw [Operation.waits, ← hfull, ← hmode] at hwaits
  rw [← ht]
  cases hfull : t.producer.overfull with
  | false => exact .pure hbuffered
  | true =>
    cases hmode : t.producer.settings.flushMode with
    | sync =>
      obtain rfl : d = 0 := hwaits (by rw [hfull, hmode]; rfl)
      exact (ends_flush hcall hbuffered.poised false).mono fun _ u hu =>
        hbuffered.trans hu fun _ _ => trivial
    | async =>
      exact (ends_flushAsync hcall hbuffered.poised).mono fun _ u hu =>
        hbuffered.trans hu fun _ _ => trivial

theorem ends_produce (hcall : Heedful K n call) (hs : s.Poised K n d) (m : Message) :
    Act.Ends (fun l k => (within call l k).produce m) s fun _ t => s.Went K n d t True := by
  refine .of_eq (fun l k => Work.enroll_bind ..) ?_
  have henroll := went_enroll hs m
  refine (ends_sendAsync hcall henroll.poised _).bind fun e t ht => ?_
  have hsent : s.Went K n d t True := henroll.trans ht fun _ _ => trivial
  cases e <;> exact .pure hsent

theorem ends_produceSync (hcall : Heedful K n call) (hs : s.Poised K n 0) (m : Message) :
    Act.Ends (fun l k => (within call l k).produceSync m) s fun _ t =>
      s.Went K n 0 t (t.tally Event.isAttempt ≤ s.tally Event.isAttempt + s.allowance m + 1) := by
  refine .of_eq (fun l k => Work.record_bind ..) ?_
  have hnoted : s.Calm (s.noted (.submitted m)) := .noted s ⟨rfl, rfl, rfl⟩
  refine (ends_sendSync (s := s.noted (.submitted m)) hcall hs m).mono fun _ t ht => ?_
  exact ht.after rfl (.refl _) fun hle => hle.trans (by
    have hnone := hnoted.1.attempts
    show (s.noted (.submitted m)).tally Event.isAttempt + s.allowance m + 1 ≤ _
    omega)

theorem ends_clear (hs : s.Poised K n d) :
    Act.Ends (fun _ _ => (Work.clear : Work MemoryBroker κ α Unit)) s fun _ t =>
      s.Went K n d t True := by
  refine .of_eq (fun l k => Work.takeRetry_bind ..) (.of_eq (fun l k => Work.takeRegular_bind ..) ?_)
  have htaken : s.Went K n d ((s.amended fun p => { p with retry := {} }).amended fun p =>
      { p with regular := {} }) True := .of_idle hs rfl (.refl _) trivial
  generalize s.producer.retry.messages ++ _ = batch
  generalize ((s.amended fun p => { p with retry := {} }).amended fun p =>
    { p with regular := {} }) = t at htaken
  induction batch generalizing t with
  | nil => exact .pure htaken
  | cons m batch ih =>
    refine .of_eq (y := fun _ _ => batch.forM Work.discard) (u := t.discarded m) (fun l k => ?_)
      (ih _ (htaken.onto htaken.poised rfl (.refl _) id))
    simp only [List.forM_eq_forM, List.forM_cons]
    rfl

/-- Every operation returns, if it does not wait while a report is being dealt with. -/
theorem ends_operate (hcall : Heedful K n call) (hs : s.Poised K n d) {op : Operation Message}
    (hwaits : op.waits s.producer = true → d = 0) (hclock : d = 0 ∨ Unbounded K.drift) :
    Act.Ends (fun l k => (within call l k).operate op) s fun _ t => s.Went K n d t True := by
  have hset {f : Producer κ → Producer κ} (hf : (f s.producer).counters = s.producer.counters) :
      s.Went K n d (s.amended f) True := by
    obtain ⟨hcredit, hdrift, hawake, hroom, hpending⟩ := hs
    refine .of_idle ⟨hcredit, hdrift, hawake, hroom, ?_⟩ rfl (.refl _) trivial
    rw [Site.producer_amended, hf]
    exact hpending
  cases op with
  | add m => exact (ends_add hcall hs m hwaits).map fun _ _ ht => ht
  | produce m => exact (ends_produce hcall hs m).map fun _ _ ht => ht
  | produceSync m =>
    obtain rfl := hwaits rfl
    exact (ends_produceSync hcall hs m).map fun _ _ ht => ht.mono fun _ => trivial
  | flushAsync => exact (ends_flushAsync hcall hs).map fun _ _ ht => ht
  | flush inOrder =>
    obtain rfl := hwaits rfl
    exact (ends_flush hcall hs inOrder).map fun _ _ ht => ht
  | flushFor timeout inOrder =>
    exact (ends_flushFor hcall hs timeout hwaits hclock).map fun _ _ ht => ht
  | awaitAcks =>
    obtain rfl := hwaits rfl
    exact (ends_awaitAcks hcall hs).map fun _ _ ht => ht.mono fun _ => trivial
  | awaitAcksFor timeout =>
    exact (ends_awaitAcksFor hcall hs (hclock.imp_right .inr)).map fun _ _ ht =>
      ht.mono fun _ => trivial
  | clear => exact (ends_clear hs).bind fun _ _ ht => .pure ht
  | setBufferLimit n =>
    simp only [Surroundings.operate, Work.setBufferLimit]
    cases Settings.checkBufferLimit n with
    | error e => exact .pure (.refl hs trivial)
    | ok =>
      exact .of_eq (y := fun _ _ => pure .done) (u := s.amended (·.setBufferLimit n))
        (fun _ _ => rfl) (.pure (hset rfl))
  | setFlushMode mode =>
    refine .of_eq (fun l k => Work.modifyProducer_bind ..) (.pure ?_)
    exact hset (f := (·.setFlushMode mode)) rfl
  | setRetryBudget budget =>
    refine .of_eq (fun l k => Work.modifyProducer_bind ..) (.pure ?_)
    exact hset (f := (·.setRetryBudget budget)) rfl
  | setFullQueueNotice notice =>
    refine .of_eq (fun l k => Work.modifyProducer_bind ..) (.pure ?_)
    exact hset (f := (·.setFullQueueNotice notice)) rfl

/-- So does everything else that an application does with the producer and the broker. -/
theorem ends_perform {conduct : κ → HookKind → Message → Option BrokerError →
      Conduct MemoryBroker κ α MemoryWord} (hcall : Heedful K n call) (hs : s.Poised K n d)
    {deed : Deed κ α MemoryWord} (hdeed : deed.isQuiet = false)
    (hwaits : deed.waits s.producer = true → d = 0) (hclock : d = 0 ∨ Unbounded K.drift) :
    Act.Ends (fun l k => (application conduct).perform (within call l k) deed) s fun _ t =>
      s.Went K n d t True := by
  cases deed with
  | operate op => exact ends_operate hcall hs hwaits hclock
  | register kind hook =>
    exact .of_eq (fun l k => Work.modifyProducer_bind ..) (.pure (.of_idle hs rfl (.refl _) trivial))
  | pollBroker =>
    exact (ends_poll hcall hs).bind fun _ _ ht => .pure (ht.mono fun _ => trivial)
  | flushBroker timeout =>
    exact (ends_flushBroker hcall hs timeout).map fun _ _ ht => ht.2.mono fun _ => trivial
  | instruct _ | sleep _ | think _ => simp [Deed.isQuiet] at hdeed

end

end MemoryBroker

end Outbox
