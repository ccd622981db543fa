import Outbox.Proofs.Underway

/-! How a fast flush ends. It offers the messages to be sent again and then the others, and flushes
    the broker, so that everything is reported. Between two sends it may have had to wait for room,
    and reports came in then. Main statement: from whatever state a run has come to, with nothing in
    flight, the flush ends in one and the same way, however little room the broker's queue has and
    however often the broker calls its queue full. -/

namespace Outbox

variable {κ α : Type}

namespace Site

/-- The world with so much room in the broker's queue, which is going to be called full so often. -/
def squeezed (s : World MemoryBroker κ α) (capacity full : Nat) : World MemoryBroker κ α :=
  s.brokered
    { s.broker with
      limits := { s.broker.limits with capacity := capacity }
      faults := { s.broker.faults with queueFullNext := full } }

end Site

namespace MemoryBroker

variable {conduct : κ → HookKind → Message → Option BrokerError →
    Conduct MemoryBroker κ α MemoryWord}
  {verdict : HookKind → Message → BrokerError → Bool} {sure : Prop} {s t u : World MemoryBroker κ α}

/-! ### Hooks that tell the broker nothing -/

theorem reaches_seeThrough_modest {gives : Bool → Prop} {c : Conduct MemoryBroker κ α MemoryWord}
    (hc : c.Modest (fun _ => False) gives) (env : Nat → Nat → Surroundings MemoryBroker κ α)
    (s : World MemoryBroker κ α) :
    Act.Reaches sure (fun l d => c.seeThrough ((application conduct).perform (env l d))) s
      fun v t => s.Aloof Silent t ∧ gives v := by
  induction hc generalizing s with
  | answer hv => exact .pure ⟨⟨rfl, rfl, .refl⟩, hv⟩
  | see _ ih => exact .of_eq (fun _ _ => Site.get_bind ..) (ih s s)
  | instruct hw => exact hw.elim
  | @sleep d next _ ih =>
    have ht := ih .done (s.turned s.broker (s.clock.sleep d))
    exact .of_eq (y := fun l d => (next .done).seeThrough _) (fun _ _ => rfl)
      (ht.mono fun v u hu => ⟨⟨hu.1.producer, hu.1.journal, hu.1.broker⟩, hu.2⟩)
  | @think f next _ ih =>
    have ht := ih .done { s with owner := { s.owner with app := f s.owner.app } }
    exact .of_eq (y := fun l d => (next .done).seeThrough _) (fun _ _ => rfl)
      (ht.mono fun v u hu => ⟨⟨hu.1.producer, hu.1.journal, hu.1.broker⟩, hu.2⟩)

theorem discreet_of_modest {hooks : Hooks κ} {V : Verdicts}
    (hmodest : ∀ {kind hook}, hooks.find? kind = some hook → ∀ m e,
      (conduct hook kind m e).Modest (fun _ => False) fun v =>
        ∀ cause, e = some cause → V kind m cause v)
    (habsent : ∀ {kind}, hooks.find? kind = none → ∀ m cause, V kind m cause true) :
    (application conduct).Discreet Silent sure V hooks where
  called {kind hook} hk m e s := by
    refine .deeper (x := fun l d => (conduct hook kind m e).seeThrough
      ((application conduct).perform ((application conduct).surroundings l d))) ?_ (fun _ => rfl)
      fun _ _ => rfl
    exact reaches_seeThrough_modest (hmodest hk m e) _ s
  absent := habsent

theorem not_excused (e : ProducerError) : ¬ (application conduct).Excused e :=
  fun ⟨f, _, hf⟩ => not_mayFail ⟨f, hf⟩

/-- Nothing is in flight, and the broker will go about its work undisturbed: the hooks leave
    producer and broker alone, and how they answer depends on what they are asked and on nothing
    else. The messages that are buffered have ids of their own, if they have ids. -/
structure Undisturbed (conduct : κ → HookKind → Message → Option BrokerError →
    Conduct MemoryBroker κ α MemoryWord) (verdict : HookKind → Message → BrokerError → Bool)
    (s : World MemoryBroker κ α) : Prop where
  awake : s.broker.paused = false
  empty : s.broker.inFlight.toList = []
  hooks : ∀ {kind hook}, s.producer.hooks.find? kind = some hook → ∀ m e,
    (conduct hook kind m e).Modest (fun _ => False) fun v =>
      ∀ cause, e = some cause → kind.isAsked = true → v = verdict kind m cause
  separate : Separate (waiting s)

theorem Undisturbed.discreet (h : Undisturbed conduct verdict s)
    (ht : t.producer.hooks = s.producer.hooks) :
    (application conduct).Discreet Silent sure (s.producer.hooks.verdicts verdict)
      t.producer.hooks := by
  rw [ht]
  refine discreet_of_modest (fun hk m e => (h.hooks hk m e).mono fun v hv cause he hasked => ?_)
    fun hk m cause _ => ?_
  · rw [hv cause he hasked, Hooks.allows, hk]
    rfl
  · rw [Hooks.allows, hk]
    rfl

/-! ### Sending what was buffered -/

/-- The messages were offered from `s` on, no task is going on, and what is outstanding is known. -/
def Sending (conduct : κ → HookKind → Message → Option BrokerError →
    Conduct MemoryBroker κ α MemoryWord) (verdict : HookKind → Message → BrokerError → Bool)
    (s : World MemoryBroker κ α) (b₀ : MemoryBroker) (regular ms : List Message)
    (t : World MemoryBroker κ α) : Prop :=
  (∃ R, Underway verdict s regular ms R [] t) ∧
    ∃ M, (application conduct).Attuned Silent b₀ [] M t

variable {b₀ : MemoryBroker} {regular ms rest : List Message}

theorem Sending.discreet (h : Sending conduct verdict s b₀ regular ms t)
    (hs : Undisturbed conduct verdict s) :
    (application conduct).Discreet Silent True (s.producer.hooks.verdicts verdict)
      t.producer.hooks := by
  obtain ⟨⟨R, h⟩, -⟩ := h
  exact hs.discreet h.booked.hooks

section

variable (hf : client.Faithful Silent b₀) (hs : Undisturbed conduct verdict s)
  (hun : s.trackers.Unattended)

include hf hs hun

theorem reaches_sendAsync {m : Message} (hseparate : Separate (ms ++ m :: rest))
    (h : Sending conduct verdict s b₀ regular ms t) :
    Act.Reaches True (fun l d => ((application conduct).surroundings l d).sendAsync m) t
      fun _ u => Sending conduct verdict s b₀ regular (ms ++ [m]) u := by
  have hd := h.discreet hs
  obtain ⟨⟨R, h⟩, M, hM⟩ := h
  refine (Application.reaches_sendAsync (fun _ => hf) hd (fun _ => hM) m).mono fun o u hu => ?_
  exact ⟨h.sent hun hseparate hu, hu.attuned hf.exact hM⟩

theorem reaches_sendBatch (batch : Batch) (hseparate : Separate (ms ++ batch ++ rest))
    (h : Sending conduct verdict s b₀ regular ms t) :
    Act.Reaches True (fun l d => ((application conduct).surroundings l d).sendBatch batch) t
      fun _ u => Sending conduct verdict s b₀ regular (ms ++ batch) u := by
  induction batch generalizing ms t with
  | nil =>
    refine .pure ?_
    rwa [List.append_nil]
  | cons m batch ih =>
    rw [List.append_assoc, List.cons_append] at hseparate
    simp only [Surroundings.sendBatch, List.forM_eq_forM, List.forM_cons, bind_assoc]
    refine (reaches_sendAsync hf hs hun hseparate h).bind fun _ u hu => ?_
    rw [← List.singleton_append, ← List.append_assoc] at hseparate ⊢
    rw [← List.append_assoc] at hseparate
    exact ih hseparate hu

end

/-- The retry buffer is taken in hand. -/
theorem sending_start (hs : Undisturbed conduct verdict s)
    (hpending : s.producer.counters.pending = 0) (capacity full : Nat) :
    Sending conduct verdict s (s.squeezed capacity full).broker s.producer.regular.messages []
      (((s.squeezed capacity full).marked .flushBegan).amended fun p =>
        { p with retry := {} }) := by
  refine ⟨⟨[], ⟨hs.awake, ?_, ?_, fun m => ?_, rfl, rfl, rfl⟩, ?_, hs.empty, ?_⟩,
    0, .start, hpending⟩
  · exact (List.append_nil _).symm
  · exact (List.append_nil _).symm
  · rw [objection?_eq, objection?_eq]
    rfl
  · refine ⟨rfl, rfl, rfl, rfl, (zero_add _).symm, (zero_add _).symm, rfl, rfl, rfl, fun X => ?_⟩
    show s.trackers.gist? X = (s.trackers.gist? X).map fun g => (g.1 - 0, g.2.1, g.2.2 && !false)
    cases s.trackers.gist? X <;> simp
  · exact hpending.trans (congrArg List.length hs.empty).symm

/-- The regular buffer is taken in hand. -/
theorem Sending.takeRegular (h : Sending conduct verdict s b₀ regular ms t) :
    Sending conduct verdict s b₀ [] ms (t.amended fun p => { p with regular := {} }) := by
  obtain ⟨⟨R, hbroker, hbooked, hflight, hpending⟩, M, hcourse, hM⟩ := h
  obtain ⟨hhooks, hoffered, -, hretry, harrived, hlost, hproduced, hdropped, hretries, htrackers⟩ :=
    hbooked
  exact ⟨⟨R, hbroker, ⟨hhooks, hoffered, rfl, hretry, harrived, hlost, hproduced, hdropped,
    hretries, htrackers⟩, hflight, hpending⟩, M, hcourse, hM⟩

theorem Sending.marked (h : Sending conduct verdict s b₀ regular ms t) {k : Mark}
    (hk : k.isAside = true) : Sending conduct verdict s b₀ regular ms (t.marked k) := by
  obtain ⟨⟨R, hbroker, hbooked, hflight, hpending⟩, M, hcourse, hM⟩ := h
  have hmark : (t.producer.counters.mark k).pending = t.producer.counters.pending :=
    congrArg Prod.fst (Counters.outcomes_of_isAside hk _)
  exact ⟨⟨R, hbroker, hbooked.marked hk, hflight, hmark.trans hpending⟩, M, hcourse, hmark.trans hM⟩

section

variable (hexact : client.Exact Silent b₀) (hun : s.trackers.Unattended) (hseparate : Separate ms)

include hexact hun hseparate

theorem Sending.meanwhile (h : Sending conduct verdict s b₀ regular ms t) {R : List DeliveryReport}
    (ht : (application conduct).Meanwhile Silent (s.producer.hooks.verdicts verdict) [] t [] R u) :
    Sending conduct verdict s b₀ regular ms u := by
  obtain ⟨⟨R, h⟩, M, hM⟩ := h
  obtain ⟨M', hM', -⟩ := ht.attuned hexact hM
  exact ⟨(h.meanwhile hun hseparate (Nat.zero_le 1) ht).2, M', hM'⟩

/-- After a flush of the broker nothing is in its queue. -/
theorem Sending.flushes (h : Sending conduct verdict s b₀ regular ms t)
    (ht : (application conduct).Flushes Silent (s.producer.hooks.verdicts verdict) t u) :
    Sending conduct verdict s b₀ regular ms u ∧ u.broker.inFlight.toList = [] := by
  obtain ⟨R, R', x, timeout, hx, hu⟩ := ht
  have hx := h.meanwhile hexact hun hseparate hx
  refine ⟨hx.meanwhile hexact hun hseparate hu.of_flush, ?_⟩
  obtain ⟨⟨R, hx⟩, M, hM⟩ := hx
  obtain ⟨M', -, hwaits, -⟩ := hu.attuned hexact
    (.mk (hM.course.begin (client.flush timeout) (.inr ⟨timeout, rfl⟩)) hM.pending)
  exact (empty_of_waits rfl hx.broker.awake hwaits).2

end

/-! ### The flush -/

/-- The reports of the messages that a flush sends which begins in `s`. -/
def reportsDue (s : World MemoryBroker κ α) : List DeliveryReport :=
  s.broker.faults.reports (s.broker.accepted (waiting s))

/-- From `s` to `t` all that was buffered was offered once, and everything that was taken has been
    reported. -/
structure Settled (verdict : HookKind → Message → BrokerError → Bool)
    (s t : World MemoryBroker κ α) : Prop where
  broker : s.broker.Served (s.broker.accepted (waiting s)) (reportsDue s) t.broker
  booked : Booked s (s.account verdict (waiting s) (reportsDue s) []) t
  empty : t.broker.inFlight.toList = []
  pending : t.producer.counters.pending = 0

theorem Sending.settled (h : Sending conduct verdict s b₀ [] (waiting s) t)
    (ht : t.broker.inFlight.toList = []) : Settled verdict s t := by
  obtain ⟨⟨R, hbroker, hbooked, hflight, hpending⟩, -⟩ := h
  rw [ht] at hflight hpending
  have hmessages : R.map (·.message) = s.broker.accepted (waiting s) := by
    simpa [heldBy] using hflight
  obtain rfl : R = reportsDue s := by
    rw [reportsDue, ← hmessages]
    exact hbroker.reports
  exact ⟨hbroker, hbooked, ht, hpending⟩

section

variable (hf : client.Faithful Silent b₀) (hs : Undisturbed conduct verdict s)
  (hun : s.trackers.Unattended)

include hf hs hun

/-- The queue is flushed once. -/
theorem reaches_pushOut (hseparate : Separate ms)
    (h : Sending conduct verdict s b₀ regular ms t) :
    Act.Reaches True (fun l d => ((application conduct).surroundings l d).awaitAcksFor .zero) t
      fun r u => (∃ answer, r = .ok answer) ∧ Sending conduct verdict s b₀ regular ms u ∧
        u.broker.inFlight.toList = [] := by
  have hd := h.discreet hs
  obtain ⟨M, hM⟩ := h.2
  refine (Application.reaches_awaitAcksFor (fun _ => hf) hd (fun _ => hM) .zero).mono
    fun r u hu => ⟨?_, h.flushes hf.exact hun hseparate hu.1⟩
  cases r with
  | ok answer => exact ⟨answer, rfl⟩
  | error e => exact absurd (hu.2 e rfl) (not_excused e)

/-- The outcomes are waited for, as long as it takes. -/
theorem reaches_waitOut (h : Sending conduct verdict s b₀ [] (waiting s) t) :
    Act.Reaches True (fun l d => ((application conduct).surroundings l d).awaitAcks) t
      fun r u => r = .ok () ∧ Settled verdict s u := by
  have hd := h.discreet hs
  obtain ⟨M, hM⟩ := h.2
  refine (Application.reaches_awaitAcks (fun _ => hf) hd fun _ => hM).mono fun r u hu => ?_
  obtain ⟨⟨R, hu⟩, hr⟩ := hu
  have hu := h.meanwhile hf.exact hun hs.separate hu
  cases r with
  | ok _ =>
    refine ⟨rfl, hu.settled ?_⟩
    obtain ⟨⟨R, hu⟩, -⟩ := hu
    exact List.eq_nil_of_length_eq_zero (hu.pending.symm.trans hr)
  | error e => exact absurd hr (not_excused e)

end

section

variable (hs : Undisturbed conduct verdict s) (hun : s.trackers.Unattended)
  (hpending : s.producer.counters.pending = 0) {capacity : Nat} (hcapacity : 0 < capacity)
  (full : Nat)

include hs hun hpending hcapacity

theorem reaches_flushAsync :
    Act.Reaches True (fun l d => ((application conduct).surroundings l d).flushAsync)
      (s.squeezed capacity full) fun r t => r = .ok () ∧
        Sending conduct verdict s (s.squeezed capacity full).broker [] (waiting s) t ∧
        t.broker.inFlight.toList = [] := by
  have hf : client.Faithful Silent (s.squeezed capacity full).broker :=
    faithful_of_silent hs.awake hs.empty hcapacity
  have hstart := sending_start hs hpending capacity full
  have hseparate : Separate ([] ++ s.producer.retry.messages ++ s.producer.regular.messages) :=
    hs.separate
  refine .of_eq (fun _ _ => Work.mark_bind ..) (.bind (P := fun r t => r = .ok () ∧
    Sending conduct verdict s (s.squeezed capacity full).broker [] (waiting s) t ∧
      t.broker.inFlight.toList = []) ?_ fun r t ht => ?_)
  · refine .of_eq (fun _ _ => Work.takeRetry_bind ..) ?_
    refine (reaches_sendBatch hf hs hun _ hseparate hstart).bind fun _ t ht => ?_
    refine .of_eq (fun _ _ => Work.takeRegular_bind ..) ?_
    have hregular : t.producer.regular.messages = s.producer.regular.messages := by
      obtain ⟨⟨R, ht⟩, -⟩ := ht
      exact ht.booked.regular
    rw [hregular]
    rw [← List.append_nil (_ ++ _)] at hseparate
    refine (reaches_sendBatch hf hs hun _ hseparate ht.takeRegular).bind fun _ u hu => ?_
    refine (reaches_pushOut hf hs hun hs.separate hu).bind fun r v hv => .pure ⟨?_, hv.2⟩
    obtain ⟨⟨answer, rfl⟩, -⟩ := hv
    rfl
  · obtain ⟨rfl, ht, hempty⟩ := ht
    exact .of_eq (fun _ _ => Work.mark_bind ..) (.pure ⟨rfl, ht.marked rfl, hempty⟩)

/-- A fast flush settles everything, whether it waits for the outcomes or only pushes them out. -/
theorem reaches_flush :
    Act.Reaches True (fun l d => ((application conduct).surroundings l d).flush false)
      (s.squeezed capacity full) fun r t => r = .ok () ∧ Settled verdict s t := by
  have hf : client.Faithful Silent (s.squeezed capacity full).broker :=
    faithful_of_silent hs.awake hs.empty hcapacity
  refine (reaches_flushAsync hs hun hpending hcapacity full).bind fun r t ht => ?_
  obtain ⟨rfl, ht, -⟩ := ht
  exact reaches_waitOut hf hs hun ht

end

/-- Whatever an application did before, a fast flush has one result, whatever the back-pressure. -/
theorem settled_of_run {limits : MemoryLimits} {clock : Clock} {settings : Settings} {scope : Nat}
    {a : α} {limit depth : Nat} {deeds : List (Deed κ α MemoryWord)}
    (h : (application conduct).run limit depth deeds
      (.opening { limits := limits } clock settings scope a) = some ((), s))
    (hs : Undisturbed conduct verdict s) {capacity : Nat} (hcapacity : 0 < capacity) (full : Nat)
    {op : Operation Message} (hop : op = .flushAsync ∨ op = .flush false) :
    Act.Ends (fun l d => (application conduct).perform ((application conduct).surroundings l d)
        (.operate op)) (s.squeezed capacity full) fun reply t =>
      reply = .done ∧ Settled verdict s t := by
  have hc := exact_application conduct limits
  have hun : s.trackers.Unattended := Application.unattended_of_run hc.honest h
  have hpending : s.producer.counters.pending = 0 := by
    have hp := (inBalance_of_run h).pending
    rwa [← Line.length_toList, hs.empty] at hp
  have hflush : Act.Reaches True (fun l d => ((application conduct).surroundings l d).operate op)
      (s.squeezed capacity full) fun reply t => reply = .done ∧ Settled verdict s t := by
    rcases hop with rfl | rfl
    · refine (reaches_flushAsync hs hun hpending hcapacity full).map fun r t ht => ?_
      obtain ⟨rfl, ht, hempty⟩ := ht
      exact ⟨rfl, ht.settled hempty⟩
    · refine (reaches_flush hs hun hpending hcapacity full).map fun r t ht => ?_
      obtain ⟨rfl, ht⟩ := ht
      exact ⟨rfl, ht⟩
  exact hflush.ends trivial

/-- First two deliveries fail, then those of one topic, and messages of another are refused. -/
def relapse : Faults where
  failNext := 2
  failWhere := some fun m => m.topic == "b"
  rejectWhere := some fun m => m.topic == "d"

/-- One message is to be sent again and four are new. Three of them will fail and be sent again, one
    will arrive and one be lost. -/
def isBacklog (s : World MemoryBroker Unit Unit) : Bool :=
  let account := Site.account (fun _ m _ => m.topic != "c") s (waiting s) (reportsDue s) []
  s.broker.inFlight.toList.isEmpty && !s.broker.paused &&
    decide ((waiting s).filterMap (·.tracking)).Nodup &&
    s.producer.retry.messages.map (·.topic) == ["a"] &&
    account.offered.map (·.topic) == ["a", "b", "c", "b", "d"] &&
    account.again.map (·.topic) == ["b", "b", "a"] &&
    account.arrived.map (·.topic) == ["c"] && account.lost.card == 1

theorem settled_relapse :
    ∃ s, (application forbid).run 60 1 (mixture ++ [.instruct (.fault fun _ => relapse)])
        (.opening { limits := {} } {} {} 0 ()) = some ((), s) ∧ isBacklog s = true ∧
      Act.Ends (fun l d => (application forbid).perform ((application forbid).surroundings l d)
          (.operate .flushAsync)) (s.squeezed 1 3) fun reply t =>
        reply = .done ∧ Settled (fun _ m _ => m.topic != "c") s t := by
  have hbacklog : ((application forbid).run 60 1
      (mixture ++ [.instruct (.fault fun _ => relapse)])
      (.opening { limits := {} } {} {} 0 ())).any (fun r => isBacklog r.2) = true := by
    decide +kernel
  obtain ⟨s, hs, hp⟩ := Application.exists_run hbacklog
  have hp' := hp
  simp only [isBacklog, Bool.and_eq_true, List.isEmpty_iff, Bool.not_eq_true',
    decide_eq_true_eq] at hp'
  obtain ⟨⟨⟨⟨⟨⟨⟨hempty, hawake⟩, hseparate⟩, -⟩, -⟩, -⟩, -⟩, -⟩ := hp'
  have hundisturbed : Undisturbed forbid (fun _ m _ => m.topic != "c") s :=
    ⟨hawake, hempty, fun _ m e => .answer fun _ _ _ => rfl, hseparate⟩
  exact ⟨s, hs, hp, settled_of_run hs hundisturbed Nat.one_pos 3 (.inl rfl)⟩

end MemoryBroker

end Outbox
