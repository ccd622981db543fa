import Outbox.Proofs.Contract
import Outbox.Proofs.Poised

/-! What a poised producer does between two offers. Its hooks are heedful: a hook that is called
    comes back, and if it did so for nothing it has left things as they were. Then dealing with a
    report ends, so a task of the broker ends, since it has only as many reports to hand out as were
    in the queue; and so does polling the broker and flushing it. A report that is being dealt with
    is one more that is pending, for as long as its hooks take.

    An offer ends too, because a broker that is polled has room: it calls its queue full only as
    often as it was told to, or once more. -/

namespace Outbox

variable {κ α : Type}

/-- What it means to call a hook when loops have so many rounds and hooks are nested so deep. -/
abbrev HookCalls (κ α : Type) :=
  Nat → Nat → κ → HookKind → Message → Option BrokerError → Work MemoryBroker κ α Bool

namespace MemoryBroker

/-- What a producer works with when loops have so many rounds and hooks are nested so deep. -/
abbrev within (call : HookCalls κ α) (limit depth : Nat) : Surroundings MemoryBroker κ α :=
  surroundings (call limit depth) limit

/-- With at most so much credit, hooks come back. -/
def Heedful (K : Terms α) (n : Nat) (call : HookCalls κ α) : Prop :=
  ∀ hook kind m e d s, s.Poised K n d →
    Act.Ends (fun l k => call l k hook kind m e) s fun _ t => s.Went K n d t (s.Calm t)

section

variable {K : Terms α} {n d : Nat} {call : HookCalls κ α} {s t : World MemoryBroker κ α}

/-! ### Hooks -/

theorem ends_fire (hcall : Heedful K n call) (hs : s.Poised K n d) (kind : HookKind) (m : Message)
    (e : Option BrokerError) :
    Act.Ends (fun l k => (within call l k).fire kind m e) s fun _ t =>
      s.Went K n d t (s.Calm t) := by
  refine .of_eq (fun l k => Work.producer_bind ..) ?_
  cases hk : s.producer.hooks.find? kind with
  | none => exact .pure (.refl hs (.refl s))
  | some hook =>
    refine .of_eq (fun l k => Work.record_bind ..) ?_
    have hcalled : s.Calm (s.noted (.hookCalled kind m e)) := .noted s ⟨rfl, rfl, rfl⟩
    refine (hcall hook kind m e d (s.noted (.hookCalled kind m e)) hs).bind fun v t ht => ?_
    refine .of_eq (fun l k => Work.record_bind ..) (.pure ?_)
    have hreturned : t.Calm (t.noted (.hookReturned v)) := .noted t ⟨rfl, rfl, rfl⟩
    exact (ht.after (s := s) rfl (.refl _) hcalled.trans).onto ht.poised rfl (.refl _) fun hcalm =>
      hcalm.trans hreturned

/-- A retry is granted only if one was spent. -/
theorem ends_grantRetry (hcall : Heedful K n call) (hs : s.Poised K n d) (kind : HookKind)
    (m : Message) (e : BrokerError) {tracker : Work MemoryBroker κ α (Option TrackingId)}
    {f : World MemoryBroker κ α → Option TrackingId} (htracker : ∀ t, tracker t = some (f t, t)) :
    Act.Ends (fun l k => (within call l k).grantRetry kind m e tracker) s fun o t =>
      s.Went K n d t (s.Calm t ∧ ∀ sender, o = some sender →
        ∃ u id, f u = some id ∧ s.trackers.Drawn id t.trackers) := by
  refine (ends_fire hcall hs kind m (some e)).bind fun v t ht => ?_
  have hnot (u : World MemoryBroker κ α) (hu : s.Went K n d u (s.Calm u)) :
      s.Went K n d u (s.Calm u ∧ ∀ sender, (none : Option Sender) = some sender →
        ∃ u' id, f u' = some id ∧ s.trackers.Drawn id u.trackers) :=
    hu.mono fun hcalm => ⟨hcalm, by simp⟩
  cases v.getD true with
  | false => exact .pure (hnot t ht)
  | true =>
    refine .of_eq (y := fun _ _ => _) (fun l k => Act.bind_eq (htracker t)) ?_
    cases hid : f t with
    | none => exact .pure (hnot t ht)
    | some id =>
      refine .of_eq (fun l k => Work.claimRetry_bind ..) ?_
      have hclaimed : t.Calm (t.retracked (·.update id (·.claimRetry.2))) :=
        .retracked t (t.trackers.spends_update id Tracker.spends_claimRetry)
      cases hg : t.grants id with
      | none =>
        exact .pure (hnot _ (ht.onto ht.poised rfl (.refl _) fun hcalm => hcalm.trans hclaimed))
      | some sender =>
        refine .of_eq (fun l k => Work.mark_bind ..) (.of_eq (fun l k => Work.record_bind ..) ?_)
        refine .pure (ht.onto (u := t.granted id m) ht.poised rfl (.refl _) fun hcalm => ?_)
        refine ⟨hcalm.trans (.granted t id m), fun _ _ => ⟨t, id, hid, ?_⟩⟩
        exact hcalm.1.spends.trans_drawn (TrackerTable.drawn_claim hg)

/-! ### Reports and refusals -/

/-- A message was dropped, and a hook is told. -/
theorem ends_dropped (hcall : Heedful K n call) (ht : s.Went K n d t (s.Calm t)) (kind : HookKind)
    (m : Message) (e : BrokerError) :
    Act.Ends (fun l k => (within call l k).fire kind m (some e)) (t.dropped m e) fun _ u =>
      s.Went K n d u (s.Calm u) := by
  have hdropped : s.Went K n d (t.dropped m e) (s.Calm (t.dropped m e)) :=
    ht.onto ht.poised rfl (.refl _) fun hcalm => hcalm.trans (.dropped t m e)
  exact (ends_fire hcall hdropped.poised kind m (some e)).mono fun _ u hu =>
    hdropped.trans hu fun hcalm hcalm' => hcalm.trans hcalm'

/-- What is found out about a report is to send again only if a retry was spent. -/
theorem ends_outcome (hcall : Heedful K n call) (hs : s.Poised K n d) (tracker : Option TrackingId)
    (r : DeliveryReport) :
    Act.Ends (fun l k => (within call l k).outcome tracker r) s fun o t =>
      s.Went K n d t (s.Calm t ∧
        (o = .retry → ∃ id, tracker = some id ∧ s.trackers.Drawn id t.trackers)) := by
  obtain ⟨m, failure⟩ := r
  cases failure with
  | none =>
    refine (ends_fire hcall hs .delivered m none).bind fun v t ht => ?_
    refine .of_eq (fun l k => Work.mark_bind ..) (.of_eq (fun l k => Work.release_bind ..) ?_)
    refine .of_eq (fun l k => Work.record_bind ..) (.pure ?_)
    exact ht.onto (u := t.delivered m) ht.poised rfl (.refl _) fun hcalm =>
      ⟨hcalm.trans (.delivered t m), nofun⟩
  | some e =>
    refine (ends_grantRetry hcall hs .deliveryFailed m e (f := fun _ => tracker)
      fun _ => rfl).bind fun g t ht => ?_
    rcases g with _ | _ | _
    · refine .of_eq (fun l k => Surroundings.drop_bind ..) ?_
      refine (ends_dropped hcall (ht.mono And.left) .deliveryAbandoned m e).bind fun v u hu => ?_
      exact .pure (hu.mono fun hcalm => ⟨hcalm, nofun⟩)
    · refine .pure (ht.mono fun hcalm => ⟨hcalm.1, fun _ => ?_⟩)
      obtain ⟨-, id, hid, hdrawn⟩ := hcalm.2 _ rfl
      exact ⟨id, hid, hdrawn⟩
    · refine .of_eq (fun l k => Work.modifyProducer_bind ..) (.pure ?_)
      refine ht.onto (u := t.requeued m) ht.poised rfl (.refl _) fun hcalm => ⟨?_, fun _ => ?_⟩
      · exact hcalm.1.trans (.amended t rfl)
      · obtain ⟨-, id, hid, hdrawn⟩ := hcalm.2 _ rfl
        exact ⟨id, hid, hdrawn⟩

/-- A report that was dealt with is not pending any more. -/
theorem ends_receive (hcall : Heedful K n call) (hs : s.Poised K n (d + 1)) (r : DeliveryReport) :
    Act.Ends (fun l k => (within call l k).receive r) s fun _ t => s.Went K n d t (s.Calm t) := by
  refine .of_eq (fun l k => Work.producer_bind ..)
    ((ends_outcome hcall hs _ r).bind fun o t ht => ?_)
  generalize s.producer.trackers.find? r.message = tracker at ht
  -- What is left to do comes to one change of the world.
  refine .of_eq (y := fun _ _ => pure ()) (u := t.acknowledged tracker o r.message)
    (fun l k => by cases tracker <;> rfl) (.pure (ht.onto ?_ ?_ ?_ fun hcalm => ?_))
  · obtain ⟨hcredit, hdrift, hawake, hroom, hpending⟩ := ht.poised
    have hless : (t.acknowledged tracker o r.message).producer.counters.pending =
        t.broker.inFlight.size + d := by
      rw [Site.counters_acknowledged, Counters.mark, hpending]
      rfl
    cases tracker <;> exact ⟨hcredit, hdrift, hawake, hroom, hless⟩
  · cases tracker <;> rfl
  · cases tracker <;> exact .refl _
  · obtain ⟨⟨hsteady, hsize⟩, hretry⟩ := hcalm
    have hcompleted : s.Calm (t.completed tracker o) :=
      ⟨hsteady.completed hretry, by rwa [Site.broker_completed]⟩
    exact hcompleted.trans ((Site.Calm.noted _ ⟨rfl, rfl, rfl⟩).trans (.marked _ .acknowledged))

/-- A message that was refused is sent again only if one of its retries was spent. -/
theorem ends_receiveRefusal (hcall : Heedful K n call) (hs : s.Poised K n d) (m : Message)
    (e : BrokerError) (requeue : Bool) :
    Act.Ends (fun l k => (within call l k).receiveRefusal m e requeue) s fun again t =>
      s.Went K n d t (s.Calm t ∧
        (again = true → ∃ id, m.tracking = some id ∧ s.trackers.Drawn id t.trackers)) := by
  refine (ends_grantRetry hcall hs .sendFailed m e (f := fun u => u.producer.trackers.find? m)
    fun _ => rfl).bind fun g t ht => ?_
  cases g with
  | none =>
    refine .of_eq (fun l k => Surroundings.drop_bind ..) ?_
    refine (ends_dropped hcall (ht.mono And.left) .sendAbandoned m e).bind fun v u hu => ?_
    exact .pure (hu.mono fun hcalm => ⟨hcalm, nofun⟩)
  | some sender =>
    have hagain : s.Went K n d t (s.Calm t ∧
        ∃ id, m.tracking = some id ∧ s.trackers.Drawn id t.trackers) := by
      refine ht.mono fun hcalm => ⟨hcalm.1, ?_⟩
      obtain ⟨u, id, hid, hdrawn⟩ := hcalm.2 sender rfl
      exact ⟨id, (TrackerTable.find?_eq_some_iff.mp hid).1, hdrawn⟩
    cases requeue with
    | false => exact .pure (hagain.mono fun h => ⟨h.1, fun _ => h.2⟩)
    | true =>
      refine .of_eq (fun l k => Work.modifyProducer_bind ..) (.pure ?_)
      exact hagain.onto (u := t.deferred m) hagain.poised rfl (.refl _) fun h =>
        ⟨h.1.trans (.amended t rfl), fun _ => h.2⟩

end

/-! ### Tasks -/

/-- The task has polled the broker and has not begun again. -/
def Task.polled : Task → Bool
  | .deliver .. | .flushCheck _ => true
  | .poll _ | .flush _ | .flushRound _ => false

/-- How far a task is from polling the broker. -/
def Task.rank : Task → Nat
  | .poll _ => 0
  | .flushRound _ => 1
  | .flush _ => 2
  | .flushCheck _ => 3
  | .deliver batch _ => batch.length + 4

/-- Is the broker to be polled before the task is over? -/
def Task.due (b : MemoryBroker) (task : Task) : Nat :=
  if task.polled = true ∧ b.inFlight.size = 0 then 0 else 1

theorem Task.due_le_one (b : MemoryBroker) (task : Task) : task.due b ≤ 1 := by
  unfold due; split <;> omega

/-- How a step brings a task on at a broker that is awake. -/
def Nears (task : Task) (b b' : MemoryBroker) : TaskStep Task → Prop
  | .report _ next => task.polled = true ∧ next.polled = true ∧ next.rank < task.rank
  | .more next => next.due b' ≤ task.due b ∧ (next.due b' = task.due b → next.rank < task.rank) ∧
      (next.polled = true → (task.polled = true → b.inFlight.size = 0) → b'.inFlight.size = 0)
  | .finished answer => task.polled = true ∧
      (b.inFlight.size = 0 → answer = .ok () ∧ b'.inFlight.size = 0)

theorem nears_step {b : MemoryBroker} (hb : b.paused = false) (task : Task) (clock : Clock) :
    Nears task b (step task b clock).2.1 (step task b clock).1 := by
  have hwake := (rests_wake b clock).awake hb
  cases task with
  | poll purpose =>
    simp only [step, hwake]
    exact ⟨Nat.zero_le _, fun h => absurd h Nat.zero_ne_one, fun _ _ => rfl⟩
  | deliver batch purpose =>
    cases batch with
    | nil =>
      cases purpose with
      | poll => exact ⟨rfl, fun h => ⟨rfl, h⟩⟩
      | flush deadline =>
        exact ⟨Nat.le_refl _, fun _ => Nat.lt_succ_self 3, fun _ h => h rfl⟩
    | cons m batch =>
      refine ⟨rfl, rfl, ?_⟩
      simp [Task.rank]
  | flush timeout =>
    exact ⟨Nat.le_refl _, fun _ => Nat.lt_succ_self 1, fun h => absurd h Bool.false_ne_true⟩
  | flushRound deadline =>
    simp only [step, hwake]
    exact ⟨Nat.le_refl _, fun _ => Nat.zero_lt_one, fun h => absurd h Bool.false_ne_true⟩
  | flushCheck deadline =>
    have hround (h : b.inFlight.isEmpty = false) : Task.due b (.flushCheck deadline) = 1 := by
      rw [Task.due, if_neg]
      rintro ⟨-, hsize⟩
      simp [Line.isEmpty, hsize] at h
    simp only [step]
    cases hempty : b.inFlight.isEmpty with
    | true => exact ⟨rfl, fun h => ⟨rfl, h⟩⟩
    | false =>
      have hagain : Nears (.flushCheck deadline) b b (.more (.flushRound deadline)) :=
        ⟨(hround hempty).ge, fun _ => Nat.le_succ 2, fun h => absurd h Bool.false_ne_true⟩
      cases deadline with
      | none => exact hagain
      | some d =>
        rw [if_neg Bool.false_ne_true]
        dsimp only
        split
        · refine ⟨rfl, fun hsize => ?_⟩
          simp [Line.isEmpty, hsize] at hempty
        · exact hagain

/-- Time passes while a task goes on at a broker that is awake, and the clock may be read. -/
theorem leads_step {b : MemoryBroker} (hb : b.paused = false) (task : Task) (clock : Clock) :
    clock.Leads (step task b clock).2.2 := by
  have hwake := (rests_wake b clock).awake hb
  cases task with
  | poll purpose =>
    simp only [step, hwake]
    exact .refl clock
  | deliver batch purpose =>
    cases batch with
    | nil => cases purpose <;> exact .refl clock
    | cons m batch => exact .sleep clock _
  | flush timeout => exact .read clock
  | flushRound deadline =>
    simp only [step, hwake]
    exact .refl clock
  | flushCheck deadline =>
    simp only [step]
    split
    · exact .refl clock
    cases deadline with
    | none => exact .refl clock
    | some d =>
      dsimp only
      split <;> exact .read clock

section

variable {K : Terms α} {n d : Nat} {call : HookCalls κ α} {s t : World MemoryBroker κ α}

/-- The task is being seen through, and the world was `s` when it was begun. What it still holds is
    pending; if nothing was paid, nothing came into the queue since it was taken. -/
def Serves (K : Terms α) (n d : Nat) (s : World MemoryBroker κ α) (task : Task)
    (t : World MemoryBroker κ α) : Prop :=
  s.Went K n (d + task.held.length) t
    (s.Steady 0 0 0 t ∧ (task.polled = true → t.broker.inFlight.size = 0))

/-- What a step does to the broker leaves the producer poised, if it is no report. -/
theorem poised_shift {held held' : List Message} {b : MemoryBroker} {clock : Clock}
    (h : t.Poised K n (d + held.length)) (hb : Shifts t.broker b held held')
    (hclock : t.clock.Leads clock) : (t.turned b clock).Poised K n (d + held'.length) := by
  obtain ⟨hcredit, hdrift, hawake, hroom, hpending⟩ := h
  have hdrift' : (t.turned b clock).clock.drift = K.drift := hclock.drift.trans hdrift
  cases hb with
  | keep hrests =>
    refine ⟨hcredit, hdrift', hrests.awake hawake, hrests.limits ▸ hroom, hpending.trans ?_⟩
    rw [Site.broker_turned, hrests.inFlight]
  | take hrests hb =>
    refine ⟨hcredit, hdrift', hb, hrests.limits ▸ hroom, hpending.trans ?_⟩
    rw [Site.broker_turned, hrests.inFlight, Line.length_toList]
    show t.broker.inFlight.size + (d + 0) = 0 + (d + t.broker.inFlight.size)
    omega

/-- A step that reports nothing leaves what the broker was told as it is. -/
theorem Shifts.faults {b b' : MemoryBroker} {held held' : List Message}
    (h : Shifts b b' held held') : b'.faults = b.faults := by
  cases h with
  | keep h => exact h.faults
  | take h _ => exact h.faults

theorem Shifts.limits {b b' : MemoryBroker} {held held' : List Message}
    (h : Shifts b b' held held') : b'.limits = b.limits := by
  cases h with
  | keep h => exact h.limits
  | take h _ => exact h.limits

/-- The broker hands a report out, and the rest of the batch stays with the task. -/
theorem Serves.report {m : Message} {batch : List Message} {purpose : Purpose} {clock : Clock}
    (h : Serves K n d s (.deliver (m :: batch) purpose) t) (hclock : t.clock.Leads clock) :
    Serves K n d s (.deliver (m :: batch) purpose) (t.turned (t.broker.deliver m).2 clock) := by
  obtain ⟨hcredit, hdrift, hawake, hroom, hpending⟩ := h.poised
  obtain ⟨-, hfaults⟩ := asTold_deliver t.broker m
  refine Site.Went.onto h ⟨hcredit, hclock.drift.trans hdrift, ?_, ?_, ?_⟩ rfl hclock
    fun hf => ⟨hf.1.turned (le_of_eq (by rw [hfaults])) clock, fun hp => ?_⟩
  · rw [Site.broker_turned, paused_deliver]
    exact hawake
  · rw [Site.broker_turned, limits_deliver]
    exact hroom
  · rw [Site.broker_turned, inFlight_deliver]
    exact hpending
  · rw [Site.broker_turned, inFlight_deliver]
    exact hf.2 hp

theorem ends_taskStep (hcall : Heedful K n call) {task : Task} (h : Serves K n d s task t) :
    Act.Ends (fun l k => Site.taskStep client (within call l k).receive task) t fun o u =>
      o.elim (fun next : Task => Serves K n d s next u ∧
          K.credit u.owner.app + next.due u.broker ≤ K.credit t.owner.app + task.due t.broker ∧
          (K.credit u.owner.app + next.due u.broker = K.credit t.owner.app + task.due t.broker →
            next.rank < task.rank))
        fun answer => (answer = .ok () ∨ answer = .error .timedOut) ∧ s.Went K n d u
          (s.Steady 0 0 0 u ∧ answer = .ok () ∧ u.broker.inFlight.size = 0) := by
  have hawake := h.poised.2.2.1
  have hgoes := goes_step task t.broker t.clock
  have hnears := nears_step hawake task t.clock
  have hclock := leads_step hawake task t.clock
  obtain ⟨out, b, clock, hs⟩ : ∃ out b clock, step task t.broker t.clock = (out, b, clock) :=
    ⟨_, _, _, rfl⟩
  rw [hs] at hgoes hnears hclock
  cases out with
  | report r next =>
    obtain ⟨m, batch, purpose, rfl, rfl, rfl, rfl⟩ := yields_of_step hs
    obtain ⟨-, -, hrank⟩ := hnears
    have hreport := h.report hclock
    refine .of_eq (y := fun l k => _) (u := t.turned (t.broker.deliver m).2 clock)
      (fun _ _ => Site.taskStep_of_report hs) ?_
    refine (ends_receive (d := d + batch.length) hcall hreport.poised _).bind fun _ u hu => .pure ?_
    have hnext : Serves K n d s (.deliver batch purpose) u :=
      Site.Went.trans hreport hu fun hf hcalm =>
        ⟨hf.1.trans hcalm.1, fun _ => hcalm.2.trans (hf.2 rfl)⟩
    refine ⟨hnext, ?_, fun _ => hrank⟩
    have hpaid : K.credit u.owner.app ≤ K.credit t.owner.app := hu.paid
    rcases Nat.lt_or_eq_of_le hpaid with hlt | heq
    · have hone := Task.due_le_one u.broker (.deliver batch purpose)
      omega
    · have hsize := (hu.free heq).2
      rw [Site.broker_turned, inFlight_deliver] at hsize
      rw [heq, Task.due, Task.due, hsize]
      exact Nat.le_refl _
  | more next =>
    obtain ⟨hshift, -⟩ := hgoes
    obtain ⟨hdue, hrank, hpolled⟩ := hnears
    refine .of_eq (y := fun _ _ => pure (.inl next)) (u := t.turned b clock)
      (fun _ _ => Site.taskStep_of_more hs) (.pure ⟨?_, ?_, fun he => ?_⟩)
    · refine Site.Went.onto h (poised_shift h.poised hshift hclock) rfl hclock fun hf => ⟨?_, ?_⟩
      · exact hf.1.turned (le_of_eq (by rw [hshift.faults])) clock
      · exact fun hnext => hpolled hnext hf.2
    · exact Nat.add_le_add_left hdue _
    · exact hrank (Nat.add_left_cancel he)
  | finished answer =>
    obtain ⟨hrests, hheld, -⟩ := hgoes
    obtain ⟨hpolled, hanswer⟩ := hnears
    obtain ⟨-, -, -, hkind⟩ := yields_of_step hs
    refine .of_eq (y := fun _ _ => pure (.inr answer)) (u := t.turned b clock)
      (fun _ _ => Site.taskStep_of_finished hs) (.pure ⟨hkind, ?_⟩)
    have hshift : Shifts t.broker b task.held [] := hheld ▸ .keep hrests
    have hpoised : (t.turned b clock).Poised K n d := poised_shift h.poised hshift hclock
    refine Site.Went.onto h hpoised rfl hclock fun hf => ⟨?_, hanswer (hf.2 hpolled)⟩
    exact hf.1.turned (le_of_eq (by rw [hrests.faults])) clock

theorem ends_runTask (hcall : Heedful K n call) (hs : s.Poised K n d) (task : Task)
    (htask : task.held = [] ∧ task.polled = false) :
    Act.Ends (fun l k => Site.runTask client (within call l k).receive l task) s fun answer t =>
      (answer = .ok () ∨ answer = .error .timedOut) ∧
        s.Went K n d t (s.Steady 0 0 0 t ∧ answer = .ok () ∧ t.broker.inFlight.size = 0) := by
  obtain ⟨hheld, hpolled⟩ := htask
  have hbegun : Serves K n d s task s := by
    rw [Serves, hheld]
    exact .refl hs ⟨.refl s, fun h => absurd h (by simp [hpolled])⟩
  exact .loop (P := Serves K n d s) (fun task t => K.credit t.owner.app + task.due t.broker)
    (fun task _ => task.rank) (fun task t h => ends_taskStep hcall h) task s hbegun

/-! ### Polls and flushes -/

theorem ends_poll (hcall : Heedful K n call) (hs : s.Poised K n d) :
    Act.Ends (fun l k => (within call l k).poll) s fun _ t =>
      s.Went K n d t (s.Steady 0 0 0 t ∧ t.broker.inFlight.size = 0) := by
  refine .of_eq (fun l k => Work.record_bind ..) ?_
  refine (ends_runTask (s := s.noted .polled) hcall hs (.poll .poll)
    ⟨rfl, rfl⟩).bind fun answer t ht => .pure ?_
  have hnoted : s.Calm (s.noted .polled) := .noted s ⟨rfl, rfl, rfl⟩
  exact ht.2.after rfl (.refl _) fun hf => ⟨hnoted.1.trans hf.1, hf.2.2⟩

theorem ends_flushBroker (hcall : Heedful K n call) (hs : s.Poised K n d) (timeout : Span) :
    Act.Ends (fun l k => (within call l k).flushBroker timeout) s fun answer t =>
      (answer = .ok () ∨ answer = .error .timedOut) ∧
        s.Went K n d t (s.Steady 0 0 1 t ∧ answer = .ok () ∧ t.broker.inFlight.size = 0) := by
  refine .of_eq (fun l k => Work.record_bind ..) ?_
  refine (ends_runTask (s := s.noted (.flushBegan timeout)) hcall hs (.flush timeout)
    ⟨rfl, rfl⟩).bind fun answer t ht => .of_eq (fun l k => Work.record_bind ..) (.pure ?_)
  have hbegan := Site.Steady.noted s (.flushBegan timeout)
  have hended : t.Calm (t.noted (.flushEnded answer)) := .noted t ⟨rfl, rfl, rfl⟩
  have hwent : s.Went K n d t
      (s.Steady 0 0 1 t ∧ answer = .ok () ∧ t.broker.inFlight.size = 0) :=
    ht.2.after rfl (.refl _) fun hf => ⟨hbegan.trans hf.1, hf.2⟩
  exact ⟨ht.1, hwent.onto hwent.poised rfl (.refl _) fun hf => ⟨hf.1.trans hended.1, hf.2⟩⟩

/-! ### Offers -/

theorem ends_makeRoom (hcall : Heedful K n call) (hs : s.Poised K n d) (m : Message)
    (notice : FullQueueNotice) (notify : Bool) :
    Act.Ends (fun l k => (within call l k).makeRoom notice notify m) s fun o t =>
      o.elim (fun _ => s.Went K n d t (s.Steady 0 0 0 t ∧ t.broker.inFlight.size = 0))
        fun _ => False := by
  refine (ends_poll hcall hs).bind fun _ t ht => ?_
  cases notify with
  | false => exact .pure ht
  | true =>
    refine (ends_fire hcall ht.poised .queueFull m none).bind fun v u hu => .pure ?_
    exact ht.trans hu fun hf hcalm => ⟨hf.1.trans hcalm.1, hcalm.2.trans hf.2⟩

/-- The queue is full, and less often so after that. -/
theorem ends_offerOnce_of_full {b : MemoryBroker} (hcall : Heedful K n call) (hs : s.Poised K n d)
    {m : Message} (hsend : s.broker.send m = (.error .queueFull, b))
    (hb : Rests { s.broker with faults := b.faults } b)
    (hle : b.faults.queueFullNext ≤ s.broker.faults.queueFullNext)
    (hlt : b.faults.queueFullNext < s.broker.fullness) (notice : FullQueueNotice) (notify : Bool) :
    Act.Ends (fun l k => (within call l k).offerOnce m notice notify) s fun o t =>
      o.elim (fun _ => s.Went K n d t (s.Steady 1 0 0 t ∧ t.broker.fullness < s.broker.fullness))
        fun _ => s.Went K n d t (s.Steady 1 1 0 t) := by
  obtain ⟨hcredit, hdrift, hawake, hroom, hpending⟩ := hs
  have hrefused : ((s.refused b m .queueFull).marked .queueFull).Poised K n d := by
    refine ⟨hcredit, hdrift, hb.awake hawake, ?_, ?_⟩
    · rw [Site.broker_marked, Site.broker_refused, hb.limits]
      exact hroom
    · rw [Site.broker_marked, Site.broker_refused, hb.inFlight]
      exact hpending
  refine .of_eq (fun l k => (within call l k).offerOnce_of_full notice notify hsend rfl)
    ((ends_makeRoom hcall hrefused m notice notify).mono fun o t ht => ?_)
  cases o with
  | inr answer => exact ht.elim
  | inl notify' =>
    have hroom' : 0 < t.broker.limits.capacity := ht.poised.2.2.2.1
    refine ht.after rfl (.refl _) fun hf => ?_
    obtain ⟨hsteady, hempty⟩ := hf
    have hmarked := (Site.Calm.marked (s.refused b m .queueFull) .queueFull).1.trans hsteady
    refine ⟨(Site.Steady.offered s hle m (.error .queueFull)).trans
      ((Site.Calm.marked _ .refused).1.trans hmarked), ?_⟩
    rw [fullness_of_empty (Line.isEmpty_iff.mp (by simp [Line.isEmpty, hempty])) hroom']
    exact hsteady.countdown.trans_lt hlt

theorem ends_offerOnce (hcall : Heedful K n call) (hs : s.Poised K n d) (m : Message)
    (notice : FullQueueNotice) (notify : Bool) :
    Act.Ends (fun l k => (within call l k).offerOnce m notice notify) s fun o t =>
      o.elim (fun _ => s.Went K n d t (s.Steady 1 0 0 t ∧ t.broker.fullness < s.broker.fullness))
        fun _ => s.Went K n d t (s.Steady 1 1 0 t) := by
  have hpoised := hs
  obtain ⟨hcredit, hdrift, hawake, hroom, hpending⟩ := hs
  rcases send_eq m s.broker with ⟨hpos, hsend⟩ | ⟨hzero, ⟨e, hr, hsend⟩ | ⟨hr, hsend⟩⟩
  · refine ends_offerOnce_of_full hcall hpoised hsend ⟨⟨rfl, rfl, rfl, rfl⟩, rfl, id⟩
      (Nat.sub_le ..) ?_ notice notify
    unfold fullness
    dsimp only
    omega
  · cases he : e.isQueueFull with
    | true =>
      have hnone := full_of_refusal hr he
      obtain rfl := BrokerError.eq_queueFull he
      refine ends_offerOnce_of_full hcall hpoised hsend ⟨⟨rfl, rfl, rfl, rfl⟩, rfl, id⟩
        (Nat.le_refl _) ?_ notice notify
      rw [fullness, if_pos hnone]
      exact Nat.lt_succ_self _
    | false =>
      refine .of_eq (fun l k => (within call l k).offerOnce_of_refused notice notify hsend he)
        (.pure (.of_idle hpoised rfl (.refl _) ?_))
      have hoffered := Site.Steady.offered s (Nat.le_refl _) m (.error e)
      have hrefused := (Site.Calm.marked
        (((s.marked .offered).brokered s.broker).noted (.offered m (.error e))) .refused).1
      exact (hoffered.trans hrefused).mono (Nat.le_refl _) (by split <;> omega) (Nat.le_refl _)
  · refine .of_eq (fun l k => (within call l k).offerOnce_of_accepted notice notify hsend)
      (.pure (.of_idle ⟨hcredit, hdrift, hawake, hroom, ?_⟩ rfl (.refl _) ?_))
    · show s.producer.counters.pending + 1 = s.broker.inFlight.size + 1 + d
      omega
    · exact Site.Steady.offered s (b := s.broker.taken m) (Nat.le_refl _) m (.ok ())

/-- A message is offered once more than the broker calls its queue full. -/
theorem ends_offer (hcall : Heedful K n call) (hs : s.Poised K n d) (m : Message) :
    Act.Ends (fun l k => (within call l k).offer m) s fun _ t =>
      s.Went K n d t (s.Steady (s.broker.fullness + 1) 1 0 t) := by
  refine .of_eq (fun l k => Work.producer_bind ..) ?_
  refine .loop (P := fun _ t => s.Went K n d t
      (∃ o, s.Steady o 0 0 t ∧ o + t.broker.fullness ≤ s.broker.fullness))
    (fun _ t => K.credit t.owner.app) (fun _ t => t.broker.fullness) (fun notify t ht => ?_) _ s
    (.refl hs ⟨0, .refl s, (Nat.zero_add _).le⟩)
  refine (ends_offerOnce hcall ht.poised m _ notify).mono fun o u hu => ?_
  cases o with
  | inl notify' =>
    refine ⟨ht.trans hu fun ⟨o, hsteady, hle⟩ ⟨hsteady', hlt⟩ => ?_, hu.paid, fun he => ?_⟩
    · exact ⟨o + 1, hsteady.trans hsteady', by omega⟩
    · exact (hu.free he).2
  | inr answer =>
    refine ht.trans hu fun ⟨o, hsteady, hle⟩ hsteady' => ?_
    exact (hsteady.trans hsteady').mono (by omega) (Nat.le_refl _) (Nat.le_refl _)

end

end MemoryBroker

end Outbox
