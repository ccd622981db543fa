import Outbox.Proofs.Account
import Outbox.Proofs.Agreement

/-! A fast flush under way at a broker in memory that is told nothing. What was buffered is offered
    message by message, and whatever the room in the queue, each message is offered until it is
    taken or refused for good. In the meantime reports come in, in the order in which the messages
    were taken. The account of all messages depends on what was offered and on the reports alone;
    when they come in does not matter, because the messages have trackers of their own, so that a
    message finds in its tracker what was there when the flush began. Main statements: this is kept
    by each step of a poll or a flush, by each report and by each message that is sent. -/

namespace Outbox

variable {κ α : Type}

/-- A failed message may be sent again: the hook that is asked says so, or there is none. -/
def Hooks.allows (hooks : Hooks κ) (verdict : HookKind → Message → BrokerError → Bool)
    (kind : HookKind) (m : Message) (e : BrokerError) : Bool :=
  (hooks.find? kind).isNone || verdict kind m e

/-- The hooks answer like that when they are asked. -/
def Hooks.verdicts (hooks : Hooks κ) (verdict : HookKind → Message → BrokerError → Bool) :
    Verdicts :=
  fun kind m e v => kind.isAsked = true → v = hooks.allows verdict kind m e

namespace Site

variable (verdict : HookKind → Message → BrokerError → Bool) (s : World MemoryBroker κ α)

/-- The failed message can claim a retry. -/
def mayRetry (kind : HookKind) (x : Message × BrokerError) : Bool :=
  s.producer.hooks.allows verdict kind x.1 x.2 && decide (s.trackers.budget x.1 ≠ 0)

/-- What comes of messages that are offered from `s` on and of which these reports are made. -/
def account (ms : List Message) (R : List DeliveryReport) (regular : List Message) : Account where
  offered := ms
  arrived := arrivals R
  again := (((failures R).filter (s.mayRetry verdict .deliveryFailed)).reverse ++
    (s.broker.refusals ms).filter (s.mayRetry verdict .sendFailed)).map (·.1)
  lost := ((failures R).filter (!s.mayRetry verdict .deliveryFailed ·) ++
    (s.broker.refusals ms).filter (!s.mayRetry verdict .sendFailed ·)).map (·.1)
  regular := regular

section

variable {verdict} {s} {ms regular : List Message} {R : List DeliveryReport} {m : Message}
  {e : BrokerError}

theorem account_arrived : s.account verdict ms (R ++ [⟨m, none⟩]) regular =
    { s.account verdict ms R regular with
      arrived := (s.account verdict ms R regular).arrived ++ [m] } := by
  simp [account, arrivals, failures]

theorem account_requeued (h : s.mayRetry verdict .deliveryFailed (m, e) = true) :
    s.account verdict ms (R ++ [⟨m, some e⟩]) regular =
      { s.account verdict ms R regular with
        again := m :: (s.account verdict ms R regular).again } := by
  simp [account, arrivals, failures, h]

theorem account_lost (h : s.mayRetry verdict .deliveryFailed (m, e) = false) :
    s.account verdict ms (R ++ [⟨m, some e⟩]) regular =
      { s.account verdict ms R regular with
        lost := m ::ₘ (s.account verdict ms R regular).lost } := by
  simp [account, arrivals, failures, h]

theorem account_accepted (hm : s.broker.objection? m = none) :
    s.account verdict (ms ++ [m]) R regular =
      { s.account verdict ms R regular with offered := ms ++ [m] } := by
  simp [account, MemoryBroker.refusals_of_none hm]

theorem account_deferred (hm : s.broker.objection? m = some e)
    (h : s.mayRetry verdict .sendFailed (m, e) = true) :
    s.account verdict (ms ++ [m]) R regular =
      { s.account verdict ms R regular with
        offered := ms ++ [m], again := (s.account verdict ms R regular).again ++ [m] } := by
  simp [account, MemoryBroker.refusals_of_some hm, h]

theorem account_refused (hm : s.broker.objection? m = some e)
    (h : s.mayRetry verdict .sendFailed (m, e) = false) :
    s.account verdict (ms ++ [m]) R regular =
      { s.account verdict ms R regular with
        offered := ms ++ [m], lost := m ::ₘ (s.account verdict ms R regular).lost } := by
  simp only [account, MemoryBroker.refusals_of_some hm, List.filter_append, List.map_append]
  simp [h, ← List.append_assoc, List.perm_append_singleton]

/-- The account is of messages that were reported or refused. -/
theorem mem_of_account {n : Message} (hn : n ∈ (s.account verdict ms R regular).again ∨
    n ∈ (s.account verdict ms R regular).gone) :
    n ∈ R.map (·.message) ++ (s.broker.refusals ms).map (·.1) := by
  have hfailed {x : Message × BrokerError} (hx : x ∈ failures R) : x.1 ∈ R.map (·.message) := by
    obtain ⟨r, hr, hx⟩ := List.mem_filterMap.mp hx
    obtain ⟨e, -, rfl⟩ := Option.map_eq_some_iff.mp hx
    exact List.mem_map_of_mem hr
  have hlost {f g : Message × BrokerError → Bool}
      (hn : n ∈ ((failures R).filter f ++ (s.broker.refusals ms).filter g).map (·.1)) :
      n ∈ R.map (·.message) ++ (s.broker.refusals ms).map (·.1) := by
    obtain ⟨x, hx, rfl⟩ := List.mem_map.mp hn
    rcases List.mem_append.mp hx with hx | hx
    · exact List.mem_append_left _ (hfailed (List.mem_filter.mp hx).1)
    · exact List.mem_append_right _ (List.mem_map_of_mem (List.mem_filter.mp hx).1)
  rcases hn with hn | hn
  · refine hlost (f := s.mayRetry verdict .deliveryFailed) (g := s.mayRetry verdict .sendFailed) ?_
    simpa [account] using hn
  · rcases Multiset.mem_add.mp hn with hn | hn
    · obtain ⟨r, hr, rfl⟩ := List.mem_map.mp (Multiset.mem_coe.mp hn)
      exact List.mem_append_left _ (List.mem_map_of_mem (List.mem_filter.mp hr).1)
    · exact hlost hn

end

end Site

/-! ### Messages with trackers of their own -/

/-- No two of the messages have the same id. -/
def Separate (ms : List Message) : Prop := (ms.filterMap (·.tracking)).Nodup

theorem Separate.other {ms ns : List Message} {m : Message} (h : Separate ms)
    (hp : ms.Perm (m :: ns)) {X : TrackingId} (hm : m.tracking = some X) :
    ∀ n ∈ ns, n.tracking ≠ some X := by
  have hapart : ((m :: ns).filterMap (·.tracking)).Nodup := (hp.filterMap _).nodup_iff.mp h
  rw [List.filterMap_cons_some hm, List.nodup_cons] at hapart
  exact fun n hn hX => hapart.1 (List.mem_filterMap.mpr ⟨n, hn, hX⟩)

/-- Nothing has come of a message if other messages only were reported or refused. -/
theorem Booked.Fresh.of_perm {verdict : HookKind → Message → BrokerError → Bool}
    {s : World MemoryBroker κ α} {ms ns others regular : List Message} {R : List DeliveryReport}
    {m : Message} (h : Separate ns) (hp : ns.Perm (m :: others))
    (hothers : ∀ n ∈ R.map (·.message) ++ (s.broker.refusals ms).map (·.1), n ∈ others) :
    Booked.Fresh (s.account verdict ms R regular) m := by
  intro X hX
  have hother := h.other hp hX
  exact ⟨fun n hn => hother n (hothers n (Site.mem_of_account (.inl hn))),
    fun n hn => hother n (hothers n (Site.mem_of_account (.inr hn)))⟩

theorem MemoryBroker.perm_accepted (b : MemoryBroker) (ms : List Message) :
    ms.Perm (b.accepted ms ++ (b.refusals ms).map (·.1)) := by
  induction ms with
  | nil => exact .refl _
  | cons m ms ih =>
    cases hm : b.objection? m with
    | none => simpa [accepted, refusals, hm] using ih
    | some e =>
      refine (ih.cons m).trans ?_
      simpa [accepted, refusals, hm] using List.perm_middle.symm

/-! ### Reports and refusals -/

section

variable {verdict : HookKind → Message → BrokerError → Bool} {s t u w : World MemoryBroker κ α}
  {ms regular : List Message} {R : List DeliveryReport} {m : Message} {e : BrokerError}
  {o : Outcome} {r : DeliveryReport} {J : List Entry}

/-- A retry is granted if the message could claim one when the flush began. -/
theorem mayRetry_of_granted {A : Account} (hun : s.trackers.Unattended) (h : Booked s A t)
    (hfresh : Booked.Fresh A m) {kind : HookKind} (hk : kind.isAsked = true)
    (hv : (s.producer.hooks.verdicts verdict).after J kind m e true) {id : TrackingId}
    {sender : Sender} (hm : t.trackers.find? m = some id) (hg : t.grants id = some sender) :
    s.mayRetry verdict kind (m, e) = true ∧ m.tracking = some id ∧ sender = .async := by
  obtain ⟨htracking, hbudget, hsender⟩ := Site.grants_of_unattended (h.unattended hun) hm hg
  rw [h.budget hfresh] at hbudget
  exact ⟨by simp [Site.mayRetry, ← hv.1 hk, hbudget], htracking, hsender⟩

/-- A retry is refused if the message could not claim one when the flush began. -/
theorem mayRetry_of_refused {A : Account} (h : Booked s A t) (hfresh : Booked.Fresh A m)
    {kind : HookKind} (hk : kind.isAsked = true)
    (hv : (s.producer.hooks.verdicts verdict).after J kind m e false ∨
      ∀ id, t.trackers.find? m = some id → t.grants id = none) :
    s.mayRetry verdict kind (m, e) = false := by
  rcases hv with hv | hg
  · simp [Site.mayRetry, ← hv.1 hk]
  · have hbudget : t.trackers.budget m = 0 := (t.trackers.budget_eq_zero_iff m).mpr hg
    rw [h.budget hfresh] at hbudget
    simp [Site.mayRetry, hbudget]

theorem Booked.received (hun : s.trackers.Unattended)
    (h : Booked s (s.account verdict ms R regular) t)
    (hfresh : Booked.Fresh (s.account verdict ms R regular) r.message)
    (hw : Received ((s.producer.hooks.verdicts verdict).after J) t r o w) :
    Booked s (s.account verdict ms (R ++ [r]) regular) w := by
  cases hw with
  | @delivered m =>
    rw [Site.account_arrived]
    exact h.delivered m
  | requeued hv hm hg =>
    obtain ⟨hmay, htracking, -⟩ := mayRetry_of_granted hun h hfresh rfl hv hm hg
    rw [Site.account_requeued hmay]
    exact h.requeued htracking
  | left hv hm hg =>
    -- Nobody waits for a message that was buffered.
    obtain ⟨-, -, hsender⟩ := mayRetry_of_granted hun h hfresh rfl hv hm hg
    cases hsender
  | dropped hv =>
    rw [Site.account_lost (mayRetry_of_refused h hfresh rfl hv)]
    exact h.lose _ _

theorem Booked.handled {told : MemoryBroker → MemoryBroker → Prop} (hun : s.trackers.Unattended)
    (h : Booked s (s.account verdict ms R regular) t)
    (hfresh : Booked.Fresh (s.account verdict ms R regular) r.message)
    (hr : t.Handled told (s.producer.hooks.verdicts verdict) r u) :
    Booked s (s.account verdict ms (R ++ [r]) regular) u := by
  obtain ⟨x, o, w, v, hx, hw, hv, -, rfl⟩ := hr
  exact (((h.beside hx).received hun hfresh hw).beside hv).acknowledged _ o _

theorem Booked.refusal (hun : s.trackers.Unattended) (hm : s.broker.objection? m = some e)
    (h : Booked s { s.account verdict ms R regular with offered := ms ++ [m] } t)
    (hfresh : Booked.Fresh (s.account verdict ms R regular) m) {again : Bool}
    (hw : Refused ((s.producer.hooks.verdicts verdict).after J) t m e true again w) :
    Booked s (s.account verdict (ms ++ [m]) R regular) w := by
  cases hw with
  | deferred hv hk hg =>
    obtain ⟨hmay, htracking, -⟩ := mayRetry_of_granted hun h hfresh rfl hv hk hg
    rw [Site.account_deferred hm hmay]
    exact h.deferred htracking
  | dropped hv =>
    rw [Site.account_refused hm (mayRetry_of_refused h hfresh rfl hv)]
    exact h.lose _ _

end

/-! ### Under way -/

namespace MemoryBroker

/-- From `s` on the messages were offered, and these reports of them were dealt with; the others
    that were taken are at the broker, and nothing else is. -/
structure Underway (verdict : HookKind → Message → BrokerError → Bool) (s : World MemoryBroker κ α)
    (regular ms : List Message) (R : List DeliveryReport) (T : List client.Task)
    (t : World MemoryBroker κ α) : Prop where
  broker : s.broker.Served (s.broker.accepted ms) R t.broker
  booked : Booked s (s.account verdict ms R regular) t
  flight : R.map (·.message) ++ (heldBy T ++ t.broker.inFlight.toList) = s.broker.accepted ms
  pending : t.producer.counters.pending = (heldBy T ++ t.broker.inFlight.toList).length

namespace Underway

variable {verdict : HookKind → Message → BrokerError → Bool} {s t u w : World MemoryBroker κ α}
  {ms regular rest : List Message} {R : List DeliveryReport} {T : List client.Task} {m : Message}
  {e : BrokerError} {task next : client.Task} {b : MemoryBroker} {clock : Clock}

theorem beside (h : Underway verdict s regular ms R T t) (ht : t.Beside Silent u) :
    Underway verdict s regular ms R T u := by
  have hbroker : u.broker = t.broker := eq_of_silent ht.broker
  refine ⟨?_, h.booked.beside ht, ?_, ?_⟩
  · rw [hbroker]
    exact h.broker
  · rw [hbroker]
    exact h.flight
  · rw [hbroker, ht.counters]
    exact h.pending

/-- A task takes a step without a report. -/
theorem stepped {T' : List client.Task} (h : Underway verdict s regular ms R T t)
    (hb : t.broker.Idled b) (hheld : heldBy T' ++ b.inFlight.toList =
      heldBy T ++ t.broker.inFlight.toList) :
    Underway verdict s regular ms R T' (t.turned b clock) := by
  refine ⟨h.broker.idled hb, h.booked.turned b clock, ?_, ?_⟩
  · rw [Site.broker_turned, hheld]
    exact h.flight
  · rw [Site.broker_turned, hheld]
    exact h.pending

theorem begin (h : Underway verdict s regular ms R [] t)
    (ht : task = client.poll ∨ ∃ timeout, task = client.flush timeout) :
    Underway verdict s regular ms R [task] t := by
  have hheld : heldBy [task] = [] := by
    rcases ht with rfl | ⟨timeout, rfl⟩ <;> rfl
  refine ⟨h.broker, h.booked, ?_, ?_⟩
  · rw [hheld]
    exact h.flight
  · rw [hheld]
    exact h.pending

theorem more (h : Underway verdict s regular ms R [task] t)
    (hs : client.step task t.broker t.clock = (.more next, b, clock)) :
    Underway verdict s regular ms R [next] (t.turned b clock) := by
  refine h.stepped (idled_of_step hs nofun) ?_
  simpa [heldBy] using flight_of_more hs

theorem finish {answer : BrokerAnswer} (h : Underway verdict s regular ms R [task] t)
    (hs : client.step task t.broker t.clock = (.finished answer, b, clock)) :
    Underway verdict s regular ms R [] (t.turned b clock) := by
  refine h.stepped (idled_of_step hs nofun) ?_
  obtain ⟨hflight, hheld, -⟩ := yields_of_step hs
  rw [hflight, heldBy_cons, hheld]
  rfl

/-- Nothing has come yet of a message that is at the broker. -/
theorem fresh_of_flight (h : Underway verdict s regular ms R T t) (hapart : Separate ms)
    (hm : m ∈ heldBy T ++ t.broker.inFlight.toList) :
    Booked.Fresh (s.account verdict ms R regular) m := by
  obtain ⟨before, after, hflight⟩ := List.append_of_mem hm
  have hperm := s.broker.perm_accepted ms
  rw [← h.flight, hflight, ← List.append_assoc, List.append_assoc _ (m :: after),
    List.cons_append] at hperm
  refine .of_perm hapart (hperm.trans List.perm_middle) fun n hn => ?_
  rcases List.mem_append.mp hn with hn | hn
  · exact List.mem_append_left _ (List.mem_append_left _ hn)
  · exact List.mem_append_right _ (List.mem_append_right _ hn)

/-- Nothing has come yet of a message that was not offered. -/
theorem fresh_of_next (h : Underway verdict s regular ms R T t)
    (hapart : Separate (ms ++ m :: rest)) :
    Booked.Fresh (s.account verdict ms R regular) m := by
  refine .of_perm hapart List.perm_middle fun n hn => ?_
  refine List.mem_append_left _ ((s.broker.perm_accepted ms).mem_iff.mpr ?_)
  rw [← h.flight]
  rcases List.mem_append.mp hn with hn | hn
  · exact List.mem_append_left _ (List.mem_append_left _ hn)
  · exact List.mem_append_right _ hn

/-- A report is made and dealt with. -/
theorem report (hun : s.trackers.Unattended) (hapart : Separate ms)
    (h : Underway verdict s regular ms R [task] t) {r : DeliveryReport}
    (hs : client.step task t.broker t.clock = (.report r next, b, clock))
    (hr : (t.turned b clock).Handled Silent (s.producer.hooks.verdicts verdict) r u) :
    Underway verdict s regular ms (R ++ [r]) [next] u := by
  obtain ⟨m, batch, purpose, rfl, rfl, rfl, rfl⟩ := yields_of_step hs
  have hheld : heldBy [(.deliver (m :: batch) purpose : client.Task)] ++ t.broker.inFlight.toList =
      m :: (heldBy [(.deliver batch purpose : client.Task)] ++ t.broker.inFlight.toList) := rfl
  have hfresh := h.fresh_of_flight hapart (m := m) (by rw [hheld]; exact List.mem_cons_self ..)
  rw [← message_deliver t.broker m] at hfresh
  have hbroker : u.broker = (t.broker.deliver m).2 := eq_of_silent (Application.handled_broker hr)
  have hbooked := (h.booked.turned (t.broker.deliver m).2 clock).handled hun hfresh hr
  refine ⟨?_, hbooked, ?_, ?_⟩
  · rw [hbroker]
    exact (h.broker.report m).2
  · rw [hbroker, inFlight_deliver, ← h.flight, hheld, List.map_append, List.map_singleton,
      message_deliver, List.append_assoc]
    rfl
  · rw [Application.handled_pending hr, hbroker, inFlight_deliver, Site.producer_turned, h.pending,
      hheld]
    rfl

section

variable {conduct : κ → HookKind → Message → Option BrokerError →
    Conduct MemoryBroker κ α MemoryWord} {R' : List DeliveryReport}

/-- While the producer waits, reports are made and dealt with. -/
theorem meanwhile {T₀ T : List (application conduct).client.Task} (hun : s.trackers.Unattended)
    (hapart : Separate ms)
    (h : Underway verdict s regular ms R T₀ t) (hT₀ : T₀.length ≤ 1)
    (ht : (application conduct).Meanwhile Silent (s.producer.hooks.verdicts verdict) T₀ t T R' u) :
    T.length ≤ 1 ∧ ∃ R, Underway verdict s regular ms R T u := by
  induction ht with
  | start => exact ⟨hT₀, R, h⟩
  | beside _ hv ih => exact ⟨ih.1, ih.2.imp fun R hu => hu.beside hv⟩
  | begin task _ htask ih => exact ⟨le_refl 1, ih.2.imp fun R hu => hu.begin htask⟩
  | @more T _ _ _ _ _ _ _ hs ih =>
    obtain ⟨hT, R, hu⟩ := ih
    obtain rfl : T = [] := List.eq_nil_of_length_eq_zero (by simpa using hT)
    exact ⟨hT, R, hu.more hs⟩
  | @report T _ _ _ _ _ _ _ _ _ hs hv ih =>
    obtain ⟨hT, R, hu⟩ := ih
    obtain rfl : T = [] := List.eq_nil_of_length_eq_zero (by simpa using hT)
    exact ⟨hT, _, hu.report hun hapart hs hv⟩
  | @finish T _ _ _ _ _ _ _ hs ih =>
    obtain ⟨hT, R, hu⟩ := ih
    obtain rfl : T = [] := List.eq_nil_of_length_eq_zero (by simpa using hT)
    exact ⟨Nat.zero_le 1, R, hu.finish hs⟩

/-- Full queues make no difference but that reports come in. -/
theorem crowded (hun : s.trackers.Unattended) (hapart : Separate ms)
    (h : Underway verdict s regular ms R [] t)
    (ht : (application conduct).Crowded Silent (s.producer.hooks.verdicts verdict) m t R' u) :
    ∃ R, Underway verdict s regular ms R [] u := by
  induction ht with
  | start => exact ⟨R, h⟩
  | @again _ _ u v b e _ hs he hv ih =>
    obtain ⟨R, hu⟩ := ih
    have hflight : b.inFlight = u.broker.inFlight := (send_error hs).1
    have hfull : Underway verdict s regular ms R []
        (((u.refused b m e).marked .queueFull).noted .polled) := by
      refine ⟨(hu.broker.refuse hs).2, hu.booked.crowded he b m, ?_, ?_⟩
      · rw [Site.broker_noted, Site.broker_marked, Site.broker_refused, hflight]
        exact hu.flight
      · rw [Site.broker_noted, Site.broker_marked, Site.broker_refused, hflight]
        exact hu.pending
    exact ((hfull.begin (.inl rfl)).meanwhile hun hapart (le_refl 1) hv).2

/-- A message is sent: it is taken, or the broker objects to it and the refusal is dealt with. -/
theorem sent (hun : s.trackers.Unattended) (hapart : Separate (ms ++ m :: rest))
    (h : Underway verdict s regular ms R [] t) {o : Option BrokerError}
    (ht : (application conduct).Sent Silent (s.producer.hooks.verdicts verdict) m t o u) :
    ∃ R, Underway verdict s regular (ms ++ [m]) R [] u := by
  have hms : Separate ms := by
    rw [Separate, List.filterMap_append] at hapart
    exact (List.nodup_append.mp hapart).1
  cases ht with
  | accepted hu =>
    cases hu with
    | @accepted x b hx hs =>
      obtain ⟨R, hx⟩ := h.crowded hun hms hx
      obtain ⟨hm, hserved⟩ := hx.broker.accept hs
      refine ⟨R, ?_, ?_, ?_, ?_⟩
      · rw [accepted_of_none hm]
        exact hserved
      · rw [Site.account_accepted hm]
        exact hx.booked.accepted hm b
      · rw [accepted_of_none hm, ← hx.flight, Site.broker_accepted, (send_ok hs).1]
        simp [List.append_assoc]
      · rw [Site.counters_accepted, Site.broker_accepted, (send_ok hs).1, Counters.mark, hx.pending]
        simp [heldBy]
  | refused hu hv =>
    cases hu with
    | @refused x b e hx hs he =>
      obtain ⟨R, hx⟩ := h.crowded hun hms hx
      obtain ⟨hm, hserved⟩ := hx.broker.refuse hs
      have hm := hm he
      have hfresh := hx.fresh_of_next hapart
      obtain ⟨y, w, hy, hw, hv⟩ := hv
      have hbooked : Booked s (s.account verdict (ms ++ [m]) R regular) u :=
        (((hx.booked.refused hm he b).beside hy).refusal hun hm hfresh hw).beside hv
      have hbroker : u.broker = b := by
        rw [eq_of_silent hv.broker, hw.broker, eq_of_silent hy.broker]
        rfl
      refine ⟨R, ?_, hbooked, ?_, ?_⟩
      · rw [accepted_of_some hm, hbroker]
        exact hserved
      · rw [accepted_of_some hm, hbroker, (send_error hs).1]
        exact hx.flight
      · rw [hv.counters, hw.pending, hy.counters, hbroker, (send_error hs).1]
        exact hx.pending

end

end Underway

end MemoryBroker

end Outbox
