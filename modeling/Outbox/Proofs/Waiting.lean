import Outbox.Proofs.Attempt
import Outbox.Proofs.Budget
import Outbox.Proofs.Prompt

/-! That whoever waits for a poised producer does not wait for ever. To wait for the outcomes takes
    one flush, because the flush empties the queue and nothing is pending then, unless hooks put
    something in again, which they pay for. That is so only if no report is being dealt with: such
    a report stays pending however often the broker is flushed, and then only a clock that goes on
    ends the waiting, if it is for a time. A caller that sends a message again and again spends a
    retry each time. -/

namespace Outbox

variable {κ α : Type}

namespace Site

/-- The retries left in the tracker that was issued under the id. -/
def remaining (s : World MemoryBroker κ α) (id : TrackingId) : Nat :=
  (s.trackers.lookup? id).elim 0 (·.tracker.remaining)

theorem remaining_of_spends {s t : World MemoryBroker κ α} (h : s.trackers.Spends t.trackers)
    (id : TrackingId) : t.remaining id ≤ s.remaining id := by
  unfold remaining
  cases hs : s.trackers.lookup? id with
  | none =>
    have hid := h id
    rw [hs] at hid
    generalize t.trackers.lookup? id = e at hid ⊢
    cases hid
    exact Nat.le_refl _
  | some e =>
    obtain ⟨e', he', hk⟩ := h.after hs
    rw [he']
    exact hk.1

theorem remaining_of_drawn {s t : World MemoryBroker κ α} {id : TrackingId}
    (h : s.trackers.Drawn id t.trackers) : t.remaining id < s.remaining id := by
  obtain ⟨e, e', he, he', hlt⟩ := h
  rwa [remaining, remaining, he, he']

/-- The retries that a message has if somebody begins to wait for it: what its live tracker has
    left, or what it is granted now. -/
def allowance (s : World MemoryBroker κ α) (m : Message) : Nat :=
  match s.trackers.find? m with
  | some id => s.remaining id
  | none => if s.producer.tracking then s.producer.settings.retryBudget else 0

end Site

/-- Something is pending. -/
def Counters.owing (c : Counters) : Nat := if c.pending = 0 then 0 else 1

namespace MemoryBroker

section

variable {K : Terms α} {n d : Nat} {call : HookCalls κ α} {s t : World MemoryBroker κ α}

theorem ends_sendAsync (hcall : Heedful K n call) (hs : s.Poised K n d) (m : Message) :
    Act.Ends (fun l k => (within call l k).sendAsync m) s fun _ t => s.Went K n d t True := by
  refine (ends_offer hcall hs m).bind fun answer t ht => ?_
  cases answer with
  | ok => exact .pure (ht.mono fun _ => trivial)
  | error e =>
    refine (ends_receiveRefusal hcall ht.poised m e true).bind fun again u hu => ?_
    have hwent : s.Went K n d u True := ht.trans hu fun _ _ => trivial
    cases again <;> exact .pure hwent

/-! ### Waiting for the outcomes -/

theorem ends_ackRound (hcall : Heedful K n call) (hs : s.Poised K n 0) (interval : Span) :
    Act.Ends (fun l k => (within call l k).ackRound interval) s fun o t =>
      o.elim (fun _ => s.producer.counters.pending ≠ 0 ∧
          s.Went K n 0 t (s.Steady 0 0 1 t ∧ t.producer.counters.pending = 0))
        fun _ => s.Went K n 0 t (s.Steady 0 0 s.producer.counters.owing t) := by
  refine .of_eq (fun l k => Work.producer_bind ..) ?_
  split
  · have hidle := (Site.Steady.refl s).mono (Nat.le_refl 0) (Nat.le_refl 0)
      (Nat.zero_le s.producer.counters.owing)
    exact .pure (.refl hs hidle)
  · next hp =>
    refine (ends_flushBroker hcall hs interval).bind fun answer t ⟨_, ht⟩ => ?_
    have hgo : s.Went K n 0 t (s.Steady 0 0 1 t ∧ t.producer.counters.pending = 0) :=
      ht.mono fun hf => ⟨hf.1, ht.poised.2.2.2.2.trans hf.2.2⟩
    have hstop : s.Went K n 0 t (s.Steady 0 0 s.producer.counters.owing t) := by
      rw [Counters.owing, if_neg hp]
      exact ht.mono And.left
    cases answer with
    | ok => exact .pure ⟨hp, hgo⟩
    | error e =>
      dsimp only
      split
      · exact .pure ⟨hp, hgo⟩
      · exact .pure hstop

/-- To wait until nothing is pending takes one flush. -/
theorem ends_awaitAcks (hcall : Heedful K n call) (hs : s.Poised K n 0) :
    Act.Ends (fun l k => (within call l k).awaitAcks) s fun _ t =>
      s.Went K n 0 t (s.Steady 0 0 1 t) := by
  refine .of_eq (fun l k => Work.producer_bind ..) ?_
  refine .loop (P := fun _ t => s.Went K n 0 t
      (∃ f, s.Steady 0 0 f t ∧ f + t.producer.counters.owing ≤ 1))
    (fun _ t => K.credit t.owner.app) (fun _ t => t.producer.counters.owing) (fun _ t ht => ?_) ()
    s (.refl hs ⟨0, .refl s, ?_⟩)
  · refine (ends_ackRound hcall ht.poised _).mono fun o u hu => ?_
    cases o with
    | inl _ =>
      obtain ⟨hp, hu⟩ := hu
      have howing : t.producer.counters.owing = 1 := if_neg hp
      refine ⟨ht.trans hu fun ⟨f, hsteady, hle⟩ ⟨hsteady', hzero⟩ => ?_, hu.paid, fun he => ?_⟩
      · refine ⟨f + 1, hsteady.trans hsteady', ?_⟩
        rw [Counters.owing, if_pos hzero]
        omega
      · rw [howing, Counters.owing, if_pos (hu.free he).2]
        exact Nat.zero_lt_one
    | inr answer =>
      refine ht.trans hu fun ⟨f, hsteady, hle⟩ hsteady' => ?_
      exact (hsteady.trans hsteady').mono (Nat.le_refl _) (Nat.le_refl _) hle
  · rw [Nat.zero_add, Counters.owing]
    split <;> omega

/-- While a report is being dealt with, one who waits until nothing is pending never comes back: the
    report itself is pending. -/
theorem awaitAcks_eq_none (hcall : Heedful K n call) (hs : s.Poised K n d) (hd : d ≠ 0)
    (limit depth : Nat) : (within call limit depth).awaitAcks s = none := by
  rw [Surroundings.awaitAcks, Work.producer_bind]
  refine Act.Ends.loop_eq_none (fun l k _ => (within call l k).ackRound _)
    (P := fun _ t => t.Poised K n d) (fun _ t ht => ?_) limit depth limit () s hs
  refine .of_eq (fun l k => Work.producer_bind ..) ?_
  have hpending : t.producer.counters.pending ≠ 0 := by
    have heq := ht.2.2.2.2
    omega
  simp only [if_neg hpending]
  refine (ends_flushBroker hcall ht _).bind fun answer u hu => ?_
  obtain ⟨rfl | rfl, hu⟩ := hu
  · exact .pure hu.poised
  · exact .pure hu.poised

/-- A round goes on only if a report is being dealt with or something was paid, and while there is
    time left. -/
theorem ends_ackRoundFor (hcall : Heedful K n call) (hs : s.Poised K n d) (start : Nat)
    (timeout left : Span) :
    Act.Ends (fun l k => (within call l k).ackRoundFor start timeout left) s fun o t =>
      o.elim (fun _ => s.Went K n d t (d ≠ 0) ∧ s.clock.readings < t.clock.readings ∧
          ∃ clock, s.clock.Leads clock ∧ clock.now < start + timeout.nanos)
        fun _ => s.Went K n d t (s.Steady 0 0 1 t) := by
  refine (ends_flushBroker hcall hs left).bind fun answer t ⟨_, ht⟩ => ?_
  have hpending := ht.poised.2.2.2.2
  have hstop : s.Went K n d t (s.Steady 0 0 1 t) := ht.mono And.left
  cases answer with
  | error e =>
    dsimp only
    split
    · exact .of_eq (fun l k => Work.producer_bind ..) (.pure hstop)
    · exact .pure hstop
  | ok =>
    refine .of_eq (fun l k => Site.readClock_bind ..) (.of_eq (fun l k => Work.producer_bind ..) ?_)
    have hread := Clock.Leads.read t.clock
    have hpoised := ht.poised.later hread
    split
    · exact .pure (hstop.onto hpoised rfl hread fun hf => hf.turned (Nat.le_refl _) _)
    · next hgo =>
      obtain ⟨hquiet, htime⟩ : t.producer.counters.pending ≠ 0 ∧
          ¬ timeout.nanos ≤ t.clock.now - start := by
        simpa [Span.isZero, Span.minus, Clock.read, Nat.sub_eq_zero_iff_le] using hgo
      refine .pure ⟨ht.onto hpoised rfl hread fun hf hd => hquiet ?_, ?_, t.clock, ht.clock, ?_⟩
      · rw [hpending, hf.2.2, hd]
      · exact Nat.lt_succ_of_le ht.clock.readings
      · omega

/-- To wait for a time ends if no report is being dealt with, if there is no time, or if the clock
    goes on. In the first case it takes one flush. -/
theorem ends_awaitAcksFor (hcall : Heedful K n call) (hs : s.Poised K n d) {timeout : Span}
    (hd : d = 0 ∨ timeout = .zero ∨ Unbounded K.drift) :
    Act.Ends (fun l k => (within call l k).awaitAcksFor timeout) s fun _ t =>
      s.Went K n d t (d = 0 → s.Steady 0 0 1 t) := by
  refine .of_eq (fun l k => Site.readClock_bind ..) ?_
  have hread := Clock.Leads.read s.clock
  have hbegun : s.Went K n d (s.turned s.broker s.clock.read.2)
      (d = 0 → s.Steady 0 0 0 (s.turned s.broker s.clock.read.2)) :=
    .of_idle (hs.later hread) rfl hread fun _ => (Site.Steady.refl s).turned (Nat.le_refl _) _
  -- After so many readings the time is up.
  obtain ⟨N, hN⟩ : ∃ N, d ≠ 0 → ∀ c, s.clock.Leads c → N ≤ c.readings →
      s.clock.now + timeout.nanos ≤ c.now := by
    rcases hd with hd | rfl | hdrift
    · exact ⟨0, fun h => absurd hd h⟩
    · exact ⟨0, fun _ c hc _ => by
        have := hc.now
        simp only [Span.zero]
        omega⟩
    · obtain ⟨N, hN⟩ := Clock.exists_readings (c := s.clock) (hs.2.1 ▸ hdrift) timeout.nanos
      exact ⟨N, fun _ => hN⟩
  refine .loop (P := fun _ t => s.Went K n d t (d = 0 → s.Steady 0 0 0 t))
    (fun _ t => K.credit t.owner.app) (fun _ t => N - t.clock.readings) (fun left t ht => ?_)
    timeout _ hbegun
  refine (ends_ackRoundFor hcall ht.poised _ timeout left).mono fun o u hu => ?_
  cases o with
  | inl left' =>
    obtain ⟨hwent, hreadings, clock, hclock, htime⟩ := hu
    refine ⟨ht.trans hwent fun _ hne hzero => absurd hzero hne, hwent.paid, fun he => ?_⟩
    have hlt : clock.readings < N := by
      by_contra hle
      have hup := hN (hwent.free he) clock (ht.clock.trans hclock) (by omega)
      exact absurd htime (Nat.not_lt_of_ge hup)
    have hle := hclock.readings
    omega
  | inr answer =>
    exact ht.trans hu fun hf hsteady hzero => (hf hzero).trans hsteady

/-! ### Sending until there is an outcome -/

/-- To open a slot costs no retry. -/
theorem remaining_armed (s : World MemoryBroker κ α) (id : TrackingId) :
    (s.armed id).remaining id = s.remaining id := by
  rw [Site.remaining, Site.armed, Site.trackers_retracked, TrackerTable.lookup?_update, if_pos rfl,
    Site.remaining]
  cases s.trackers.lookup? id <;> rfl

/-- To look into a slot costs none either. -/
theorem remaining_looked (s : World MemoryBroker κ α) (id : TrackingId) (slot : Nat) :
    (s.looked id slot).remaining id = s.remaining id := by
  rw [Site.remaining, Site.trackers_looked, TrackerTable.lookup?_update, if_pos rfl,
    Site.remaining]
  cases s.trackers.lookup? id with
  | none => rfl
  | some e => exact Tracker.remaining_receive _ _

/-- The slot that was opened is empty, and a retry comes into it only if one was drawn. -/
theorem remaining_of_receipt {id : TrackingId} (h : (s.armed id).trackers.Spends t.trackers)
    (hr : t.receipt id (s.nextSlot id) = .outcome .retry) : t.remaining id < s.remaining id := by
  have harmed : (s.armed id).trackers.lookup? id =
      (s.trackers.lookup? id).map (·.under (·.arm.2)) := by
    rw [Site.armed, Site.trackers_retracked, TrackerTable.lookup?_update, if_pos rfl]
  cases hk : s.trackers.lookup? id with
  | none =>
    rw [hk] at harmed
    have hid := h id
    rw [harmed] at hid
    cases hk' : t.trackers.lookup? id with
    | none =>
      have hnone : t.producer.trackers.lookup? id = none := hk'
      simp [Site.receipt, TrackerTable.tracker?_eq, hnone] at hr
    | some e => simp [hk'] at hid
  | some e =>
    rw [hk] at harmed
    obtain ⟨e', hk', hspends⟩ := h.after harmed
    rw [receipt_eq hk', nextSlot_eq hk] at hr
    have hlt : e'.tracker.remaining < e.tracker.remaining := by
      rcases hspends.2 _ hr with hslot | hlt
      · have hwaits : e.tracker.arm.2.waits e.tracker.opened = true := e.tracker.waits_arm
        have hempty : (e.tracker.arm.2.receive e.tracker.opened).1 = .empty := by
          rw [Tracker.receive_fst, if_pos hwaits]
        exact absurd (hempty.symm.trans hslot) (by decide)
      · exact hlt
    rwa [Site.remaining, Site.remaining, hk, hk']

/-- One attempt, and it is made again only if a retry was drawn. -/
theorem ends_attempt (hcall : Heedful K n call) (hs : s.Poised K n 0) {id : TrackingId}
    {m : Message} (hm : m.tracking = some id) :
    Act.Ends (fun l k => (within call l k).attempt id m) s fun o t =>
      s.Went K n 0 t (t.tally Event.isAttempt ≤ s.tally Event.isAttempt + 1 ∧
        (o = .inl () → t.remaining id < s.remaining id)) := by
  refine .of_eq (fun l k => Work.arm_bind ..) ?_
  refine (ends_offer (s := s.armed id) hcall hs m).bind fun answer t ht => ?_
  have hoffered : s.Went K n 0 t (t.tally Event.isAttempt ≤ s.tally Event.isAttempt + 1 ∧
      (s.armed id).trackers.Spends t.trackers) :=
    ht.after rfl (.refl _) fun hf => ⟨hf.attempts, hf.spends⟩
  cases answer with
  | error e =>
    refine (ends_receiveRefusal hcall hoffered.poised m e false).bind fun again u hu => ?_
    have hdealt : s.Went K n 0 u (u.tally Event.isAttempt ≤ s.tally Event.isAttempt + 1 ∧
        (again = true → u.remaining id < s.remaining id)) := by
      refine hoffered.trans hu fun ⟨hattempts, hspends⟩ ⟨hcalm, hdrawn⟩ => ?_
      refine ⟨hcalm.1.attempts.trans hattempts, fun hagain => ?_⟩
      obtain ⟨_, hid, hdrawn⟩ := hdrawn hagain
      obtain rfl := Option.some_inj.mp (hm.symm.trans hid)
      exact (Site.remaining_of_drawn hdrawn).trans_le
        ((Site.remaining_of_spends hspends id).trans (remaining_armed s id).le)
    cases again with
    | true => exact .pure (hdealt.mono fun h => ⟨h.1, fun _ => h.2 rfl⟩)
    | false => exact .pure (hdealt.mono fun h => ⟨h.1, nofun⟩)
  | ok =>
    refine (ends_awaitAcks hcall hoffered.poised).bind fun answer u hu => ?_
    have hwaited : s.Went K n 0 u (u.tally Event.isAttempt ≤ s.tally Event.isAttempt + 1 ∧
        (s.armed id).trackers.Spends u.trackers) := by
      refine hoffered.trans hu fun ⟨hattempts, hspends⟩ hsteady => ?_
      exact ⟨hsteady.attempts.trans hattempts, hspends.trans hsteady.spends⟩
    cases answer with
    | error e =>
      refine .of_eq (fun l k => Work.updateTracker_bind ..) (.pure ?_)
      exact hwaited.onto hwaited.poised rfl (.refl _) fun h => ⟨h.1, nofun⟩
    | ok =>
      refine .of_eq (fun l k => Work.look_bind ..) ?_
      have hlooked {o : Unit ⊕ Except ProducerError Unit}
          (ho : o = .inl () → u.receipt id (s.nextSlot id) = .outcome .retry) :
          s.Went K n 0 (u.looked id (s.nextSlot id))
            ((u.looked id (s.nextSlot id)).tally Event.isAttempt ≤ s.tally Event.isAttempt + 1 ∧
              (o = .inl () → (u.looked id (s.nextSlot id)).remaining id < s.remaining id)) := by
        refine hwaited.onto hwaited.poised rfl (.refl _) fun h => ⟨h.1, fun hagain => ?_⟩
        rw [remaining_looked]
        exact remaining_of_receipt h.2 (ho hagain)
      cases hr : u.receipt id (s.nextSlot id) with
      | outcome o =>
        cases o with
        | retry => exact .pure (hlooked fun _ => hr)
        | delivered => exact .pure (hlooked nofun)
        | dropped e => exact .pure (hlooked nofun)
      | empty => exact .pure (hlooked nofun)
      | disconnected => exact .pure (hlooked nofun)

theorem remaining_engage (s : World MemoryBroker κ α) (m : Message) :
    (s.engage m).2.remaining (engagedId s m) = s.allowance m := by
  have hupdate := TrackerTable.lookup?_update (s.trackers.attach m .sync
    (if s.producer.tracking then s.producer.settings.retryBudget else 0)).2.2 (engagedId s m)
    (engagedId s m) (·.setSender .sync)
  rw [if_pos rfl] at hupdate
  have hengage : (s.engage m).2.remaining (engagedId s m) =
      ((s.trackers.attach m .sync (if s.producer.tracking then
        s.producer.settings.retryBudget else 0)).2.2.lookup? (engagedId s m)).elim 0
          (·.tracker.remaining) := by
    refine (congrArg (Option.elim · 0 (·.tracker.remaining)) hupdate).trans ?_
    generalize TrackerTable.lookup? _ _ = e
    cases e <;> rfl
  rw [hengage, Site.allowance]
  rcases s.trackers.attach_cases m .sync
    (if s.producer.tracking then s.producer.settings.retryBudget else 0)
    with ⟨id, hm, ha⟩ | ⟨hm, hid, -, hlookup⟩
  · have hid : engagedId s m = id := congrArg Prod.fst ha
    rw [hm, ha, hid]
    rfl
  · have hid : engagedId s m = s.trackers.nextId := hid
    rw [hm, hlookup, hid, if_pos rfl]
    rfl

/-- A caller that waits for a message makes one attempt more than the message has retries. -/
theorem ends_sendSync (hcall : Heedful K n call) (hs : s.Poised K n 0) (m : Message) :
    Act.Ends (fun l k => (within call l k).sendSync m) s fun _ t =>
      s.Went K n 0 t (t.tally Event.isAttempt ≤ s.tally Event.isAttempt + s.allowance m + 1) := by
  refine .of_eq (fun l k => Work.producer_bind ..) (.of_eq (fun l k => Work.attach_bind ..) ?_)
  refine .of_eq (fun l k => Work.updateTracker_bind ..) ?_
  have hm := (engaged_engage s m).1
  have hbegun : s.Went K n 0 (s.engage m).2 ((s.engage m).2.tally Event.isAttempt +
      (s.engage m).2.remaining (engagedId s m) ≤ s.tally Event.isAttempt + s.allowance m) := by
    refine .of_idle hs rfl (.refl _) ?_
    rw [remaining_engage]
    exact Nat.le_refl _
  refine .loop (P := fun _ t => s.Went K n 0 t (t.tally Event.isAttempt +
      t.remaining (engagedId s m) ≤ s.tally Event.isAttempt + s.allowance m))
    (fun _ t => K.credit t.owner.app) (fun _ t => t.remaining (engagedId s m)) (fun _ t ht => ?_) ()
    _ hbegun
  refine (ends_attempt hcall ht.poised hm).mono fun o u hu => ?_
  cases o with
  | inl _ =>
    refine ⟨ht.trans hu fun hle ⟨hattempts, hagain⟩ => ?_, hu.paid, fun he => (hu.free he).2 rfl⟩
    have hless := hagain rfl
    omega
  | inr answer => exact ht.trans hu fun hle ⟨hattempts, _⟩ => by omega

/-! ### Batches and flushes -/

theorem ends_sendBatch (hcall : Heedful K n call) (hs : s.Poised K n d) (batch : Batch) :
    Act.Ends (fun l k => (within call l k).sendBatch batch) s fun _ t => s.Went K n d t True := by
  induction batch generalizing s with
  | nil => exact .pure (.refl hs trivial)
  | cons m batch ih =>
    refine .of_eq (y := fun l k => do
        let _ ← (within call l k).sendAsync m
        (within call l k).sendBatch batch) (u := s) (fun l k => ?_) ?_
    · simp [Surroundings.sendBatch, List.forM_eq_forM]
    · refine (ends_sendAsync hcall hs m).bind fun _ t ht => (ih ht.poised).mono fun _ u hu => ?_
      exact ht.trans hu fun _ _ => trivial

theorem ends_whileFlushing {ρ : Type} {work : Nat → Nat → Work MemoryBroker κ α ρ}
    (h : Act.Ends work (s.marked .flushBegan) fun _ t => s.Went K n d t True) :
    Act.Ends (fun l k => Surroundings.whileFlushing (work l k)) s fun _ t =>
      s.Went K n d t True := by
  refine .of_eq (fun l k => Work.mark_bind ..) (h.bind fun _ t ht => ?_)
  exact .of_eq (fun l k => Work.mark_bind ..) (.pure (ht.onto ht.poised rfl (.refl _) id))

theorem ends_flushAsync (hcall : Heedful K n call) (hs : s.Poised K n d) :
    Act.Ends (fun l k => (within call l k).flushAsync) s fun _ t => s.Went K n d t True := by
  refine ends_whileFlushing ?_
  refine .of_eq (fun l k => Work.takeRetry_bind ..) ?_
  refine (ends_sendBatch (s := (s.marked .flushBegan).amended fun p => { p with retry := {} }) hcall
    hs _).bind fun _ t ht => .of_eq (fun l k => Work.takeRegular_bind ..) ?_
  refine (ends_sendBatch (s := t.amended fun p => { p with regular := {} }) hcall
    ht.poised _).bind fun _ u hu => ?_
  have hsent : s.Went K n d u True :=
    (ht.after (s := s) rfl (.refl _) id).trans (hu.after (s := t) rfl (.refl _) id)
      fun _ _ => trivial
  exact (ends_awaitAcksFor hcall hu.poised (.inr (.inl rfl))).map fun _ w hw =>
    hsent.trans hw fun _ _ => trivial

theorem ends_timeIsUp (hs : s.Poised K n d) (start : Nat) (timeout : Option Span) :
    Act.Ends (fun _ _ => Surroundings.timeIsUp start timeout) s fun _ t =>
      s.Went K n d t True := by
  cases timeout with
  | none => exact .pure (.refl hs trivial)
  | some timeout =>
    have hread := Clock.Leads.read s.clock
    exact .of_eq (fun l k => Site.readClock_bind ..)
      (.pure (.of_idle (hs.later hread) rfl hread trivial))

theorem ends_sendInOrder (hcall : Heedful K n call) (hs : s.Poised K n 0) (start : Nat)
    (timeout : Option Span) (k : Nat) (batch : Batch) :
    Act.Ends (fun l d => (within call l d).sendInOrder start timeout k batch) s fun _ t =>
      s.Went K n 0 t True := by
  induction batch generalizing s k with
  | nil => exact .pure (.refl hs trivial)
  | cons m batch ih =>
    refine (ends_sendSync hcall hs m).bind fun answer t ht => ?_
    have hsent : s.Went K n 0 t True := ht.mono fun _ => trivial
    have hrest : Act.Ends (fun l d => (do
        if ← Surroundings.timeIsUp start timeout then return (k + 1, .ok ())
        else (within call l d).sendInOrder start timeout (k + 1) batch :
          Work MemoryBroker κ α (Nat × Except ProducerError Unit))) t fun _ u =>
            s.Went K n 0 u True := by
      refine (ends_timeIsUp hsent.poised start timeout).bind fun up u hu => ?_
      have hlooked : s.Went K n 0 u True := hsent.trans hu fun _ _ => trivial
      cases up with
      | true => exact .pure hlooked
      | false =>
        exact (ih hlooked.poised (k + 1)).mono fun _ w hw => hlooked.trans hw fun _ _ => trivial
    cases answer with
    | ok => exact hrest
    | error e =>
      cases e with
      | refused | undelivered => exact hrest
      | _ => exact .pure hsent

theorem ends_flushInOrder (hcall : Heedful K n call) (hs : s.Poised K n 0)
    (timeout : Option Span) :
    Act.Ends (fun l k => (within call l k).flushInOrder timeout) s fun _ t =>
      s.Went K n 0 t True := by
  refine ends_whileFlushing ?_
  refine .of_eq (fun l k => Work.takeRetry_bind ..) ?_
  refine .of_eq (fun l k => Work.takeRegular_bind ..) ?_
  refine .of_eq (fun l k => Site.readClock_bind ..) ?_
  have hread := Clock.Leads.read s.clock
  have hlater := hs.later hread
  refine (ends_sendInOrder (s := s.opened) hcall hlater _ timeout 0 _).bind fun r t ht => ?_
  refine .of_eq (fun l k => Work.modifyProducer_bind ..) (.pure ?_)
  exact (ht.after (s := s) rfl hread id).onto ht.poised rfl (.refl _) id

end

end MemoryBroker

end Outbox
