import Outbox.Proofs.Attended
import Outbox.Proofs.Served
import Outbox.Proofs.Tally
import Outbox.Proofs.Trying

/-! What a producer has made of messages since some moment. Every message that it has heard of is
    told apart by what came of it: it arrived, it is going to be sent again, or it is lost. The
    account of these says everything that has changed, in the journal and the buffers, in the
    counters and in the trackers, whatever came in which order. Main statements: each report and
    each refusal adds its message to the account, and nothing else changes it. -/

namespace Outbox

variable {κ α : Type}

/-! ### The journal -/

/-- The message that was offered and the answer, unless the queue was full. -/
def Event.response : Event → Option (Message × BrokerAnswer)
  | offered m (.ok _) => some (m, .ok ())
  | offered m (.error e) => if e.isQueueFull then none else some (m, .error e)
  | _ => none

/-- What was offered with which answers, the last one in front, apart from full queues. -/
def responses (J : List Entry) : List (Message × BrokerAnswer) := J.filterMap (·.event.response)

theorem responses_cons (e : Entry) (J : List Entry) :
    responses (e :: J) = e.event.response.toList ++ responses J := by
  rw [responses, List.filterMap_cons]
  cases e.event.response <;> rfl

/-! ### The trackers -/

namespace TrackerTable

/-- What an entry holds, apart from slots: the retries left, who sends again, and if it is live. -/
def gist? (t : TrackerTable) (X : TrackingId) : Option (Nat × Sender × Bool) :=
  (t.lookup? X).map fun e => (e.tracker.remaining, e.tracker.sender, e.live)

section

variable (t : TrackerTable) (m : Message) (id X : TrackingId)

theorem gist?_claim : (t.update id (·.claimRetry.2)).gist? X =
    (t.gist? X).map fun g => (g.1 - (if X = id then 1 else 0), g.2) := by
  rw [gist?, gist?, lookup?_update]
  by_cases hX : X = id
  · simp [hX, Option.map_map, Function.comp_def, Issued.under, Tracker.remaining_claimRetry,
      Tracker.sender_claimRetry]
  · simp [hX, Option.map_map, Function.comp_def]

theorem gist?_complete (o : Outcome) : (t.update id (·.complete o)).gist? X = t.gist? X := by
  rw [gist?, gist?, lookup?_update]
  split
  · rw [Option.map_map]
    congr 1
    funext e
    simp [Issued.under, Tracker.remaining_complete, Tracker.sender_complete]
  · rfl

theorem gist?_release : (t.release m).gist? X =
    (t.gist? X).map fun g => (g.1, g.2.1, g.2.2 && !decide (m.tracking = some X)) := by
  rw [gist?, gist?, lookup?_release]
  by_cases hX : m.tracking = some X
  · simp [hX, Option.map_map, Function.comp_def, Issued.ended]
  · simp [hX, Option.map_map, Function.comp_def]

theorem budget_of_gist {t u : TrackerTable} {m : Message}
    (h : ∀ X, m.tracking = some X → u.gist? X = t.gist? X) : u.budget m = t.budget m := by
  have hgist (t : TrackerTable) : t.budget m =
      ((m.tracking.bind t.gist?).filter (·.2.2)).elim 0 (·.1) := by
    rw [budget_eq]
    cases m.tracking with
    | none => rfl
    | some X =>
      rw [Option.bind_some, Option.bind_some, gist?]
      cases t.lookup? X with
      | none => rfl
      | some e => cases hl : e.live <;> simp [Option.filter_some, hl]
  rw [hgist, hgist]
  cases hm : m.tracking with
  | none => rfl
  | some X => rw [Option.bind_some, Option.bind_some, h X hm]

end

end TrackerTable

/-! ### The account -/

/-- What has come of messages: these were offered, these arrived, these will be sent again, and
    these are lost. The regular ones have not been touched. -/
structure Account where
  offered : List Message := []
  arrived : List Message := []
  again : List Message := []
  lost : Multiset Message := 0
  regular : List Message

namespace Account

variable (A : Account)

/-- The messages that are done with. -/
def gone : Multiset Message := (A.arrived : Multiset Message) + A.lost

/-- The retries that were spent under the id. -/
def spent (X : TrackingId) : Nat := A.again.countP (·.tracking = some X)

/-- A message with the id is done with. -/
def ended (X : TrackingId) : Bool := decide (some X ∈ A.gone.map (·.tracking))

end Account

/-- The message as it was offered, and the answer. -/
def MemoryBroker.response (b : MemoryBroker) (m : Message) : Message × BrokerAnswer :=
  (m, (b.objection? m).elim (.ok ()) .error)

/-- From `s` to `t` this has come of messages, and that has changed. -/
structure Booked (s : World MemoryBroker κ α) (A : Account) (t : World MemoryBroker κ α) :
    Prop where
  hooks : t.producer.hooks = s.producer.hooks
  offered : responses t.journal = (A.offered.map s.broker.response).reverse ++ responses s.journal
  regular : t.producer.regular.messages = A.regular
  retry : t.producer.retry.messages = A.again
  arrived : departed Fate.isDelivered t.journal = A.arrived + departed Fate.isDelivered s.journal
  lost : departed Fate.isDropped t.journal = A.lost + departed Fate.isDropped s.journal
  produced : t.producer.counters.produced = s.producer.counters.produced + A.arrived.length
  dropped : t.producer.counters.dropped = s.producer.counters.dropped + A.lost.card
  retries : t.producer.counters.retries = s.producer.counters.retries + A.again.length
  trackers : ∀ X, t.trackers.gist? X =
    (s.trackers.gist? X).map fun g => (g.1 - A.spent X, g.2.1, g.2.2 && !A.ended X)

namespace Booked

variable {s t u : World MemoryBroker κ α} {A : Account} {m : Message} {e : BrokerError}
  {id : TrackingId}

/-- Nothing was offered and nothing has come of a message. -/
theorem of_same (h : Booked s A t) (hooks : u.producer.hooks = t.producer.hooks)
    (hregular : u.producer.regular = t.producer.regular)
    (hretry : u.producer.retry = t.producer.retry)
    (hcounters : u.producer.counters.outcomes.2 = t.producer.counters.outcomes.2)
    (hgist : ∀ X, u.trackers.gist? X = t.trackers.gist? X)
    (hoffered : responses u.journal = responses t.journal)
    (hdeparted : ∀ ways, departed ways u.journal = departed ways t.journal) : Booked s A u := by
  simp only [Counters.outcomes, Prod.mk.injEq] at hcounters
  obtain ⟨hproduced, hdropped, hretries⟩ := hcounters
  exact ⟨hooks.trans h.hooks, hoffered.trans h.offered, by rw [hregular, h.regular],
    by rw [hretry, h.retry], (hdeparted _).trans h.arrived, (hdeparted _).trans h.lost,
    hproduced.trans h.produced, hdropped.trans h.dropped, hretries.trans h.retries,
    fun X => (hgist X).trans (h.trackers X)⟩

theorem beside {told : MemoryBroker → MemoryBroker → Prop} (h : Booked s A t)
    (ht : t.Beside told u) : Booked s A u := by
  refine h.of_same ht.hooks ht.regular ht.retry (by rw [ht.counters]) (fun X => ?_)
    (ht.of_talk fun e J he => ?_) fun ways => ht.of_talk fun e J he => ?_
  · exact congrArg (Option.map _) (ht.lookup X)
  · rw [responses_cons]
    cases h : e.event <;> simp_all [Event.response, Event.isTalk]
  · rw [departed_cons]
    cases h : e.event <;> simp_all [Event.leaving, Event.isTalk]

theorem turned (h : Booked s A t) (b : MemoryBroker) (clock : Clock) :
    Booked s A (t.turned b clock) :=
  h.of_same rfl rfl rfl rfl (fun _ => rfl) rfl fun _ => rfl

theorem marked (h : Booked s A t) {k : Mark} (hk : k.isAside = true) : Booked s A (t.marked k) := by
  refine h.of_same rfl rfl rfl ?_ (fun _ => rfl) rfl fun _ => rfl
  exact congrArg Prod.snd (Counters.outcomes_of_isAside hk _)

/-- A message is offered, and the broker takes it. -/
theorem accepted (h : Booked s A t) (hm : s.broker.objection? m = none) (b : MemoryBroker) :
    Booked s { A with offered := A.offered ++ [m] } (t.accepted b m) := by
  refine ⟨h.hooks, ?_, h.regular, h.retry, ?_, ?_, h.produced, h.dropped, h.retries, h.trackers⟩
  · rw [Site.journal_accepted, responses_cons, h.offered]
    simp [Event.response, MemoryBroker.response, hm]
  · rw [Site.journal_accepted, departed_cons, h.arrived]
    exact zero_add _
  · rw [Site.journal_accepted, departed_cons, h.lost]
    exact zero_add _

/-- A message is offered, and the broker refuses it. -/
theorem refused (h : Booked s A t) (hm : s.broker.objection? m = some e)
    (he : e.isQueueFull = false) (b : MemoryBroker) :
    Booked s { A with offered := A.offered ++ [m] } (t.refused b m e) := by
  refine ⟨h.hooks, ?_, h.regular, h.retry, ?_, ?_, h.produced, h.dropped, h.retries, h.trackers⟩
  · rw [Site.journal_refused, responses_cons, h.offered]
    simp [Event.response, MemoryBroker.response, hm, he]
  · rw [Site.journal_refused, departed_cons, h.arrived]
    exact zero_add _
  · rw [Site.journal_refused, departed_cons, h.lost]
    exact zero_add _

/-- A message is offered, and the queue is full. -/
theorem crowded (h : Booked s A t) (he : e.isQueueFull = true) (b : MemoryBroker) (m : Message) :
    Booked s A (((t.refused b m e).marked .queueFull).noted .polled) := by
  refine h.of_same rfl rfl rfl rfl (fun _ => rfl) ?_ fun ways => ?_
  · rw [Site.journal_noted, Site.journal_marked, Site.journal_refused, responses_cons,
      responses_cons]
    simp [Event.response, he]
  · rw [Site.journal_noted, Site.journal_marked, Site.journal_refused, departed_cons,
      departed_cons]
    simp [Event.leaving]

/-- A report is acknowledged after all that came of it. -/
theorem acknowledged (h : Booked s A t) (k : Option TrackingId) (o : Outcome) (m : Message) :
    Booked s A (t.acknowledged k o m) := by
  refine h.of_same ?_ ?_ ?_ ?_ (fun X => ?_) ?_ fun ways => ?_
  iterate 3 cases k <;> rfl
  · rw [Site.counters_acknowledged]
    rfl
  · rw [Site.trackers_acknowledged]
    cases k with
    | none => rfl
    | some id => exact t.trackers.gist?_complete id X o
  · rw [Site.journal_acknowledged, responses_cons]
    rfl
  · rw [Site.journal_acknowledged, departed_cons]
    exact zero_add _

/-- A message is done with. -/
theorem ended_of_gone {A' : Account} {n : Message} (h : A'.gone = n ::ₘ A.gone) (X : TrackingId) :
    A'.ended X = (A.ended X || decide (n.tracking = some X)) := by
  simp only [Account.ended, h, Multiset.map_cons, Multiset.mem_cons, @eq_comm _ (some X)]
  rw [Bool.decide_or, Bool.or_comm]

theorem gist?_released (h : Booked s A t) {A' : Account} {n : Message}
    (hgone : A'.gone = n ::ₘ A.gone) (hagain : A'.again = A.again) (X : TrackingId) :
    (t.trackers.release n).gist? X =
      (s.trackers.gist? X).map fun g => (g.1 - A'.spent X, g.2.1, g.2.2 && !A'.ended X) := by
  rw [TrackerTable.gist?_release, h.trackers, Option.map_map]
  congr 1
  funext g
  simp only [Function.comp_apply, Account.spent, hagain, ended_of_gone hgone, Bool.not_or,
    Bool.and_assoc]

/-- A message arrived. -/
theorem delivered (h : Booked s A t) (m : Message) :
    Booked s { A with arrived := A.arrived ++ [m] } (t.delivered m) := by
  refine ⟨h.hooks, ?_, h.regular, h.retry, ?_, ?_, ?_, h.dropped, h.retries, ?_⟩
  · rw [Site.journal_delivered, responses_cons, h.offered]
    rfl
  · rw [Site.journal_delivered, departed_cons, h.arrived, ← add_assoc]
    congr 1
    exact Multiset.coe_eq_coe.mpr List.perm_append_comm
  · rw [Site.journal_delivered, departed_cons, h.lost]
    exact zero_add _
  · rw [Site.counters_delivered, List.length_append, ← add_assoc, ← h.produced]
    rfl
  · refine h.gist?_released ?_ rfl
    rw [Account.gone, Account.gone, ← Multiset.cons_add, Multiset.cons_coe]
    exact congrArg (· + _) (Multiset.coe_eq_coe.mpr List.perm_append_comm)

/-- A message is lost. -/
theorem lose (h : Booked s A t) (m : Message) (e : BrokerError) :
    Booked s { A with lost := m ::ₘ A.lost } (t.dropped m e) := by
  refine ⟨h.hooks, ?_, h.regular, h.retry, ?_, ?_, h.produced, ?_, h.retries, ?_⟩
  · rw [Site.journal_dropped, responses_cons, h.offered]
    rfl
  · rw [Site.journal_dropped, departed_cons, h.arrived]
    exact zero_add _
  · rw [Site.journal_dropped, departed_cons, h.lost, ← add_assoc]
    rfl
  · rw [Site.counters_dropped, Multiset.card_cons, ← add_assoc, ← h.dropped]
    rfl
  · refine h.gist?_released ?_ rfl
    rw [Account.gone, Account.gone, Multiset.add_cons]

/-- A message will be sent again. -/
theorem retry_granted (h : Booked s A t) (hm : m.tracking = some id) {retry : Buffer}
    {again : List Message} (hretry : retry.messages = again) (hagain : again.Perm (m :: A.again)) :
    Booked s { A with again := again } ((t.granted id m).rebuffered t.producer.regular retry) := by
  refine ⟨h.hooks, ?_, h.regular, hretry, ?_, ?_, h.produced, h.dropped, ?_, fun X => ?_⟩
  · rw [Site.journal_rebuffered, Site.journal_granted, responses_cons, h.offered]
    rfl
  · rw [Site.journal_rebuffered, Site.journal_granted, departed_cons, h.arrived]
    exact zero_add _
  · rw [Site.journal_rebuffered, Site.journal_granted, departed_cons, h.lost]
    exact zero_add _
  · rw [hagain.length_eq, List.length_cons, ← add_assoc, ← h.retries]
    rfl
  · have hspent : ({ A with again := again } : Account).spent X =
        A.spent X + if X = id then 1 else 0 := by
      rw [Account.spent, hagain.countP_eq, List.countP_cons, Account.spent, hm]
      simp only [decide_eq_true_eq, Option.some_inj, @eq_comm _ id X]
    rw [Site.trackers_rebuffered, Site.trackers_granted, TrackerTable.gist?_claim, h.trackers,
      Option.map_map, hspent]
    congr 1
    funext g
    simp only [Function.comp_apply, Nat.sub_sub]
    rfl

theorem requeued (h : Booked s A t) (hm : m.tracking = some id) :
    Booked s { A with again := m :: A.again } ((t.granted id m).requeued m) :=
  h.retry_granted hm ((Buffer.messages_pushFront ..).trans (congrArg _ h.retry)) (.refl _)

theorem deferred (h : Booked s A t) (hm : m.tracking = some id) :
    Booked s { A with again := A.again ++ [m] } ((t.granted id m).deferred m) :=
  h.retry_granted hm ((Buffer.messages_pushBack ..).trans (congrArg (· ++ _) h.retry))
    List.perm_append_comm

/-! ### Messages that have not been touched -/

/-- What has come of messages so far is about other messages. -/
def Fresh (A : Account) (m : Message) : Prop :=
  ∀ X, m.tracking = some X →
    (∀ n ∈ A.again, n.tracking ≠ some X) ∧ ∀ n ∈ A.gone, n.tracking ≠ some X

/-- A message of which nothing has come has what it had. -/
theorem budget (h : Booked s A t) (hm : Fresh A m) :
    t.trackers.budget m = s.trackers.budget m := by
  refine TrackerTable.budget_of_gist fun X hX => ?_
  obtain ⟨hagain, hgone⟩ := hm X hX
  have hspent : A.spent X = 0 := List.countP_eq_zero.mpr fun n hn => by simpa using hagain n hn
  have hended : A.ended X = false := by
    refine decide_eq_false fun hmem => ?_
    obtain ⟨n, hn, hX⟩ := Multiset.mem_map.mp hmem
    exact hgone n hn hX
  rw [h.trackers, hspent, hended]
  cases s.trackers.gist? X <;> simp

/-- If nobody was waited for, nobody is. -/
theorem unattended (h : Booked s A t) (hs : s.trackers.Unattended) : t.trackers.Unattended := by
  intro X k hk
  have hgist := h.trackers X
  rw [TrackerTable.gist?, TrackerTable.gist?, hk, Option.map_map] at hgist
  obtain ⟨⟨k', live⟩, hk', hg⟩ := Option.map_eq_some_iff.mp hgist.symm
  simp only [Function.comp_apply, Prod.mk.injEq, Bool.and_eq_true] at hg
  obtain ⟨-, hsender, rfl, -⟩ := hg
  exact hsender.symm.trans (hs X k' hk')

end Booked

end Outbox
