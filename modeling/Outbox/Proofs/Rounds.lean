import Outbox.Proofs.Attended
import Outbox.Proofs.Forecast

/-! Rounds of fast flushes. A round offers every buffered message once. The reports come whenever
    the producer polls, and a message that fails is put into the retry buffer, where this round does
    not look again; so whatever is left after a round has spent a retry in it. Main statement: a
    round keeps what is foretold, and of the messages that are left each has fewer retries than the
    bound was before it. -/

namespace Outbox

variable {κ α : Type}

/-- A message that has a retry has a live tracker, and nobody waits for it. -/
theorem Site.grants_of_unattended {β : Type} {s : World β κ α} (hs : s.trackers.Unattended)
    {m : Message} {id : TrackingId} {sender : Sender} (hm : s.trackers.find? m = some id)
    (hg : s.grants id = some sender) :
    m.tracking = some id ∧ s.trackers.budget m ≠ 0 ∧ sender = .async := by
  have hn : s.trackers.budget m ≠ 0 := fun hn =>
    Option.some_ne_none _ (hg.symm.trans ((s.trackers.budget_eq_zero_iff m).mp hn id hm))
  obtain ⟨htracking, hlive⟩ := TrackerTable.find?_eq_some_iff.mp hm
  rw [TrackerTable.isLive_eq, Option.any_eq_true] at hlive
  obtain ⟨⟨k, live⟩, hk, rfl⟩ := hlive
  obtain ⟨k', hk', -, hsender⟩ := (s.trackers.claim_eq_some id).mp hg
  obtain rfl := Option.some_inj.mp (hk.symm.trans hk')
  exact ⟨htracking, hn, hsender.symm.trans (hs id k hk)⟩

namespace MemoryBroker

/-! ### Within a round -/

/-- So it stands within a round: messages are in the air, in hand, and still kept in the regular
    buffer; what is in the retry buffer has been offered already in this round. -/
structure Afoot (p : Plan κ) (N : Nat) (hand kept A : List Message) (s : World MemoryBroker κ α) :
    Prop where
  foretold : s.Foretold p A (hand ++ kept ++ s.producer.retry.messages)
  regular : s.producer.regular.messages = kept
  unattended : s.trackers.Unattended
  bound : ∀ m ∈ A ++ (hand ++ kept), s.trackers.budget m < N
  spent : ∀ m ∈ s.producer.retry.messages, s.trackers.budget m + 1 < N

variable {p : Plan κ} {N : Nat} {hand hand' kept A A' : List Message}
  {s t w : World MemoryBroker κ α} {m : Message} {e : BrokerError} {o : Outcome} {id : TrackingId}

namespace Afoot

/-- What is to be shown of a step besides that it keeps what is foretold. -/
theorem next (h : Afoot p N hand' kept A' s)
    (ht : t.Foretold p A (hand ++ kept ++ t.producer.retry.messages))
    (hregular : t.producer.regular = s.producer.regular) (hun : t.trackers.Unattended)
    (hle : ∀ x, t.trackers.budget x ≤ s.trackers.budget x) (hsub : A ++ hand ⊆ A' ++ hand')
    (hretry : ∀ x ∈ t.producer.retry.messages,
      x ∈ s.producer.retry.messages ∨ t.trackers.budget x + 1 < N) :
    Afoot p N hand kept A t := by
  refine ⟨ht, (congrArg Buffer.messages hregular).trans h.regular, hun, fun x hx => ?_,
    fun x hx => ?_⟩
  · refine (hle x).trans_lt (h.bound x ?_)
    rw [← List.append_assoc, List.mem_append] at hx ⊢
    exact hx.imp_left fun hx => hsub hx
  · rcases hretry x hx with hx | hx
    · exact (Nat.succ_le_succ (hle x)).trans_lt (h.spent x hx)
    · exact hx

theorem of_unmoved (h : Afoot p N hand kept A s) (ht : s.Unmoved (leeway steadyDrift) t) :
    Afoot p N hand kept A t := by
  have hretry := ht.like.retry
  refine h.next ?_ ht.like.regular (fun X k hk => ?_) (fun x => (ht.budget x).le)
    (List.Subset.refl _) fun x hx => .inl (hretry ▸ hx)
  · rw [hretry]
    exact h.foretold.of_unmoved ht
  · exact h.unattended X k ((ht.like.lookup X).symm.trans hk)

theorem acknowledged (h : Afoot p N hand kept A s) (k : Option TrackingId) (o : Outcome)
    (m : Message) : Afoot p N hand kept A (s.acknowledged k o m) := by
  cases k with
  | none =>
    exact h.next (h.foretold.acknowledged none o m) rfl h.unattended (fun x => le_refl _)
      (List.Subset.refl _) fun _ hx => .inl hx
  | some id =>
    exact h.next (h.foretold.acknowledged (some id) o m) rfl
      (h.unattended.update (fun k => k.sender_complete o) id)
      (fun x => (s.trackers.budget_update x fun k => k.remaining_complete o).le)
      (List.Subset.refl _) fun _ hx => .inl hx

/-- A message is taken. -/
theorem take (h : Afoot p N (m :: hand) kept A s) (hr : p.rules.refusal m.untracked = none) :
    Afoot p N hand kept (A ++ [m]) (s.accepted (s.broker.taken m) m) :=
  h.next (h.foretold.take hr) rfl h.unattended (fun _ => le_refl _) (by simp)
    fun _ hx => .inl hx

/-- A message is delivered. -/
theorem land (h : Afoot p N hand kept (m :: A) s) (hf : p.rules.failure m.untracked = none) :
    Afoot p N hand kept A ((s.landed m).delivered m) :=
  h.next (h.foretold.land hf) rfl (h.unattended.release m)
    (fun x => s.trackers.budget_release_le x m) (by simp) fun _ hx => .inl hx

/-- A message is dropped, whatever kept what is foretold. -/
theorem dropped (h : Afoot p N hand' kept A' s)
    (ht : (s.dropped m e).Foretold p A (hand ++ kept ++ s.producer.retry.messages))
    (hsub : A ++ hand ⊆ A' ++ hand') : Afoot p N hand kept A (s.dropped m e) :=
  h.next ht rfl (h.unattended.release m) (fun x => s.trackers.budget_release_le x m) hsub
    fun _ hx => .inl hx

/-- A message is put into the retry buffer, and has one retry less. -/
theorem granted (h : Afoot p N hand' kept A' s) {retry : Buffer}
    (hretry : ∀ x ∈ retry.messages, x = m ∨ x ∈ s.producer.retry.messages)
    (ht : (s.granted id m).Foretold p A (hand ++ kept ++ retry.messages))
    (hm : m.tracking = some id) (hn : s.trackers.budget m ≠ 0) (hmem : m ∈ A' ++ hand')
    (hsub : A ++ hand ⊆ A' ++ hand') :
    Afoot p N hand kept A ((s.granted id m).rebuffered s.producer.regular retry) := by
  refine h.next (ht.rebuffered _ _) rfl (h.unattended.update Tracker.sender_claimRetry id)
    (fun x => s.trackers.budget_claim_le x) hsub fun x hx => ?_
  rcases hretry x hx with rfl | hx
  · have hlt : s.trackers.budget x < N := by
      refine h.bound x ?_
      rw [← List.append_assoc]
      exact List.mem_append_left _ hmem
    refine .inr ?_
    rw [Site.trackers_rebuffered, Site.trackers_granted, TrackerTable.budget_claim, if_pos hm]
    omega
  · exact .inl hx

theorem grants_eq (h : Afoot p N hand kept A s) {sender : Sender}
    (hm : s.trackers.find? m = some id) (hg : s.grants id = some sender) :
    m.tracking = some id ∧ s.trackers.budget m ≠ 0 ∧ sender = .async :=
  Site.grants_of_unattended h.unattended hm hg

/-- A message is not delivered. -/
theorem fail (h : Afoot p N hand kept (m :: A) s) (hf : p.rules.failure m.untracked = some e)
    (hw : Received p.rules.verdicts s ⟨m, some e⟩ o w) : Afoot p N hand kept A w := by
  cases hw with
  | @requeued _ _ id hv hm hg =>
    obtain ⟨htracking, hn, -⟩ := h.grants_eq hm hg
    have hretry : (s.granted id m).producer.retry = s.producer.retry := rfl
    refine h.granted (by simp [hretry]) (h.foretold.retry hf (hv rfl).symm htracking hn ?_ ?_)
      htracking hn (List.mem_cons_self ..) (List.subset_cons_self ..)
    · exact List.perm_middle
    · simp [Rules.delivers, hf, hretry]
  | left hv hm hg => exact absurd (h.grants_eq hm hg).2.2 (by simp)
  | dropped hv =>
    refine h.dropped (h.foretold.lose hf ?_) (List.subset_cons_self ..)
    exact hv.imp (fun hv => (hv rfl).symm) (s.trackers.budget_eq_zero_iff m).mpr

/-- A message is refused. -/
theorem refuse (h : Afoot p N (m :: hand) kept A s) (hr : p.rules.refusal m.untracked = some e)
    {again : Bool} (hw : Refused p.rules.verdicts s m e true again w) :
    Afoot p N hand kept A w := by
  have hsub : A ++ hand ⊆ A ++ m :: hand := by simp
  cases hw with
  | @deferred id sender hv hm hg =>
    obtain ⟨htracking, hn, -⟩ := h.grants_eq hm hg
    have hretry : (s.granted id m).producer.retry = s.producer.retry := rfl
    refine h.granted (by simp [hretry, or_comm])
      (h.foretold.defer hr (hv rfl).symm htracking hn ?_ ?_) htracking hn (by simp) hsub
    · rw [Buffer.messages_pushBack, ← List.append_assoc]
      exact List.perm_append_singleton ..
    · simp [Rules.delivers, hr, hretry]
  | dropped hv =>
    refine h.dropped (h.foretold.refuse hr ?_) hsub
    exact hv.imp (fun hv => (hv rfl).symm) (s.trackers.budget_eq_zero_iff m).mpr

end Afoot

/-! ### Polls and offers -/

section

variable {call : κ → HookKind → Message → Option BrokerError → Work MemoryBroker κ α Bool}
  {limit : Nat}

/-- So it stands while the queue, which was taken out of the broker, is reported. The broker calls
    its queue full at most `q` times. -/
structure Reporting (p : Plan κ) (N : Nat) (hand kept : List Message) (q : Nat) (A : List Message)
    (s : World MemoryBroker κ α) : Prop where
  afoot : Afoot p N hand kept A s
  pending : s.producer.counters.pending = A.length
  empty : s.broker.inFlight.toList = []
  full : s.broker.faults.queueFullNext ≤ q

/-- Each report keeps the state of a round. -/
theorem keeps_reporting (q : Nat)
    (henv : (surroundings call limit).Polite True (leeway steadyDrift) p.rules.verdicts p.hooks) :
    Keeps (surroundings call limit) True steadyDrift (Reporting (α := α) p N hand kept q) where
  unmoved h ht := ⟨h.afoot.of_unmoved ht, (congrArg (·.1) ht.like.outcomes).trans h.pending,
    ht.broker.inFlight.trans h.empty, ht.broker.faults.queueFullNext.trans h.full⟩
  report := by
    rintro m A s ⟨h, hpending, hempty, hq⟩
    obtain ⟨hreport, hbroker⟩ := deliver_eq steadyDrift m s.broker
    rw [Rules.failure?_eq h.foretold.governed.faults] at hreport hbroker
    rw [hreport]
    have hrest : (s.broker.deliver m).2.inFlight.toList = [] ∧
        (s.broker.deliver m).2.faults.queueFullNext ≤ q := by
      split at hbroker
      · rw [hbroker]
        exact ⟨hempty, hq⟩
      · exact ⟨hbroker.inFlight.trans hempty, hbroker.faults.queueFullNext.trans hq⟩
    have hw : ∀ {o w}, Received p.rules.verdicts (s.brokered (s.broker.deliver m).2)
        ⟨m, p.rules.failure m.untracked⟩ o w → Afoot p N hand kept A w := by
      intro o w hw
      cases hf : p.rules.failure m.untracked with
      | none =>
        rw [if_pos hf] at hbroker
        rw [hf, hbroker] at hw
        cases hw with
        | delivered => exact h.land hf
      | some e =>
        rw [if_neg (by simp [hf])] at hbroker
        rw [hf] at hw
        exact (h.of_unmoved (.of_broker hbroker)).fail hf hw
    refine (Surroundings.meets_receive (h.foretold.hooks ▸ henv) _).mono fun _ t ht => ?_
    obtain ⟨o, w, hreceived, ht⟩ := ht
    have hp : w.producer.counters.pending = A.length + 1 := hreceived.pending.trans hpending
    refine ⟨((hw hreceived).acknowledged _ o m).of_unmoved ht, ?_, ?_, ?_⟩
    · have hlike := congrArg (·.1) ht.like.outcomes
      refine hlike.trans ?_
      rw [Site.counters_acknowledged, Counters.outcomes, Counters.mark, hp, Nat.add_sub_cancel]
    · rw [ht.broker.inFlight, Site.broker_acknowledged, hreceived.broker]
      exact hrest.1
    · refine ht.broker.faults.queueFullNext.trans ?_
      rw [Site.broker_acknowledged, hreceived.broker]
      exact hrest.2
  empty h := h.empty

/-- So it stands between the polls of a round: what is in the air is in the queue. -/
structure Offering (p : Plan κ) (N : Nat) (hand kept : List Message) (s : World MemoryBroker κ α) :
    Prop where
  afoot : Afoot p N hand kept s.broker.inFlight.toList s
  pending : s.producer.counters.pending = s.broker.inFlight.toList.length

namespace Offering

theorem of_unmoved (h : Offering p N hand kept s) (ht : s.Unmoved (leeway steadyDrift) t) :
    Offering p N hand kept t := by
  refine ⟨?_, ?_⟩
  · rw [ht.broker.inFlight]
    exact h.afoot.of_unmoved ht
  · rw [ht.broker.inFlight, ← h.pending]
    exact congrArg (·.1) ht.like.outcomes

theorem size_le (h : Offering p N hand kept s) : s.broker.inFlight.size ≤ p.size := by
  have hsize := h.afoot.foretold.size
  rw [List.length_append, Line.length_toList] at hsize
  omega

theorem queued (h : Offering p N hand kept s) :
    Queued (Reporting p N hand kept s.broker.faults.queueFullNext) s := by
  obtain ⟨⟨hforetold, hregular, hunattended, hbound, hspent⟩, hpending⟩ := h
  exact ⟨hforetold.governed.awake, ⟨hforetold.emptied, hregular, hunattended, hbound, hspent⟩,
    hpending, rfl, le_refl _⟩

/-- When everything was reported, nothing is in the air. -/
theorem of_reporting {q : Nat} (h : Reporting p N hand kept q [] s) : Offering p N hand kept s := by
  refine ⟨?_, ?_⟩
  · rw [h.empty]
    exact h.afoot
  · rw [h.empty]
    exact h.pending

theorem roomy (h : Offering p N hand kept s) : 0 < s.broker.limits.capacity :=
  h.afoot.foretold.governed.limits ▸ p.rules.roomy

/-- How often an offer may meet a full queue. -/
theorem fullness_le (h : Offering p N hand kept s) :
    s.broker.fullness ≤ p.rules.broker.faults.queueFullNext + 1 := by
  have hfull := h.afoot.foretold.governed.faults.queueFullNext
  unfold fullness
  split <;> omega

end Offering

theorem polls_offering
    (henv : (surroundings call limit).Polite True (leeway steadyDrift) p.rules.verdicts p.hooks)
    (hlimit : p.size + 2 < limit) :
    Polls (surroundings call limit) True steadyDrift p.rules.verdicts
      (Offering (α := α) p N hand kept) where
  unmoved h ht := h.of_unmoved ht
  polite h := h.afoot.foretold.hooks ▸ henv
  poll {s} h := by
    have hsize := h.size_le
    refine (meets_poll (keeps_reporting _ henv) h.queued fun _ => by omega).mono fun _ t ht => ?_
    have ht' := Offering.of_reporting ht
    exact ⟨ht', fun _ => (fullness_of_empty ht.empty ht'.roomy).trans_le ht.full⟩

/-! ### Rounds -/

section

variable
  (henv : (surroundings call limit).Polite True (leeway steadyDrift) p.rules.verdicts p.hooks)
  (hlimit : p.rounds < limit)

include henv hlimit

theorem meets_sendAsync (h : Offering p N (m :: hand) kept s) :
    ((surroundings call limit).sendAsync m).Meets True s fun _ t => Offering p N hand kept t := by
  unfold Plan.rounds at hlimit
  have hpolls : Polls (surroundings call limit) True steadyDrift p.rules.verdicts
      (Offering (α := α) p N (m :: hand) kept) := polls_offering henv (by omega)
  have hfull := h.fullness_le
  refine (meets_offer hpolls h m fun _ => by omega).bind fun answer t ht => ?_
  cases answer with
  | ok _ =>
    obtain ⟨s', hs', hr, rfl⟩ := ht
    have hqueue : (s'.broker.taken m).inFlight.toList = s'.broker.inFlight.toList ++ [m] :=
      Line.toList_pushBack ..
    refine .pure ⟨?_, ?_⟩
    · rw [Site.broker_accepted, hqueue]
      exact hs'.afoot.take (hs'.afoot.foretold.governed.refusal_of_taken hr)
    · rw [Site.broker_accepted, hqueue, List.length_append, ← hs'.pending]
      rfl
  | error e =>
    obtain ⟨ht, hr, he⟩ := ht
    refine (Surroundings.meets_receiveRefusal (hpolls.polite ht) e true).bind fun again u hu => ?_
    obtain ⟨w, hw, hu⟩ := hu
    have hoffering : Offering p N hand kept w := by
      refine ⟨?_, ?_⟩
      · rw [hw.broker]
        exact ht.afoot.refuse (ht.afoot.foretold.governed.refusal_of_refused hr he) hw
      · rw [hw.broker, hw.pending]
        exact ht.pending
    have hoffering := hoffering.of_unmoved hu
    cases again <;> exact .pure hoffering

theorem meets_sendBatch (batch : Batch) {s : World MemoryBroker κ α}
    (h : Offering p N batch kept s) :
    ((surroundings call limit).sendBatch batch).Meets True s fun _ t => Offering p N [] kept t := by
  induction batch generalizing s with
  | nil => exact .pure h
  | cons m batch ih =>
    rw [Surroundings.sendBatch, List.forM_eq_forM, List.forM_cons, bind_assoc]
    exact (meets_sendAsync henv hlimit h).bind fun _ t ht => ih ht

end

/-- So it stands between rounds: all messages are in the buffers, and each has fewer retries left
    than `N`. -/
structure Rested (p : Plan κ) (N : Nat) (s : World MemoryBroker κ α) : Prop where
  resting : s.Resting
  foretold : s.Foretold p [] (s.producer.retry.messages ++ s.producer.regular.messages)
  unattended : s.trackers.Unattended
  bound : ∀ m ∈ s.producer.retry.messages ++ s.producer.regular.messages, s.trackers.budget m < N

theorem Rested.of_reporting {q : Nat} (h : Reporting p N [] [] q [] s) : Rested p (N - 1) s := by
  obtain ⟨⟨hforetold, hregular, hunattended, -, hspent⟩, hpending, hempty, -⟩ := h
  refine ⟨⟨hforetold.governed.awake, hempty, hpending⟩, ?_, hunattended, fun x hx => ?_⟩
  · rw [hregular, List.append_nil]
    exact hforetold
  · rw [hregular, List.append_nil] at hx
    have hlt := hspent x hx
    omega

/-- A round begins with all messages on the ground. -/
theorem Rested.offering (h : Rested p N s) :
    Offering p N s.producer.retry.messages s.producer.regular.messages
      (s.amended fun p => { p with retry := {} }) := by
  obtain ⟨⟨-, hempty, hpending⟩, hforetold, hunattended, hbound⟩ := h
  rw [← List.append_nil (_ ++ _)] at hforetold
  have hempty : (s.amended fun p => { p with retry := {} }).broker.inFlight.toList = [] := hempty
  refine ⟨?_, ?_⟩
  · rw [hempty]
    exact ⟨hforetold.rebuffered s.producer.regular {}, rfl, hunattended, hbound,
      fun x hx => absurd hx List.not_mem_nil⟩
  · rw [hempty]
    exact hpending

/-- The regular buffer is taken in hand. -/
theorem Offering.takeRegular (h : Offering p N [] kept s) :
    Offering p N kept [] (s.amended fun p => { p with regular := {} }) := by
  obtain ⟨⟨hforetold, hregular, hunattended, hbound, hspent⟩, hpending⟩ := h
  refine ⟨⟨?_, rfl, hunattended, ?_, hspent⟩, hpending⟩
  · rw [List.nil_append] at hforetold
    rw [List.append_nil]
    exact hforetold.rebuffered {} s.producer.retry
  · rw [List.append_nil]
    exact hbound

section

variable
  (henv : (surroundings call limit).Polite True (leeway steadyDrift) p.rules.verdicts p.hooks)
  (hlimit : p.rounds < limit)

include henv hlimit

/-- A fast flush is a round. -/
theorem meets_flushAsync (h : Rested p N s) :
    (surroundings call limit).flushAsync.Meets True s fun r t =>
      r = .ok () ∧ Rested p (N - 1) t := by
  refine .of_eq (Work.mark_bind ..) ?_
  refine .bind (P := fun r t => r = .ok () ∧ ∃ q, Reporting p N [] [] q [] t) ?_ fun r t ht => ?_
  · refine .of_eq (Work.takeRetry_bind ..) ?_
    have hbegan : Offering p N s.producer.retry.messages s.producer.regular.messages
        ((s.marked .flushBegan).amended fun p => { p with retry := {} }) :=
      h.offering.of_unmoved (.mark (k := .flushBegan) rfl)
    refine (meets_sendBatch henv hlimit _ hbegan).bind fun _ t ht => ?_
    refine .of_eq (Work.takeRegular_bind ..) ?_
    rw [ht.afoot.regular]
    refine (meets_sendBatch henv hlimit _ ht.takeRegular).bind fun _ u hu => ?_
    have hsize := hu.size_le
    unfold Plan.rounds at hlimit
    refine (meets_awaitAcksFor (keeps_reporting _ henv) hu.queued (fun t ht => ht.pending)
      (fun _ => by omega) .zero).bind fun r v hv => ?_
    obtain ⟨rfl, hv⟩ := hv
    exact .pure ⟨rfl, _, hv⟩
  · obtain ⟨rfl, q, ht⟩ := ht
    have hended := (keeps_reporting q henv).unmoved ht (.mark (k := .flushEnded) rfl)
    exact .of_eq (Work.mark_bind ..) (.pure ⟨rfl, .of_reporting hended⟩)

theorem meets_flush (h : Rested p N s) :
    ((surroundings call limit).flush false).Meets True s fun _ t => Rested p (N - 1) t := by
  refine (meets_flushAsync henv hlimit h).bind fun r t ht => ?_
  obtain ⟨rfl, ht⟩ := ht
  unfold Plan.rounds at hlimit
  refine (meets_awaitAcks_of_idle ht.resting.pending fun _ => by omega).mono fun _ u hu => ?_
  rw [hu.2]
  exact ht

end

end

end MemoryBroker

end Outbox
