import Outbox.Proofs.Application
import Outbox.Proofs.Faithful
import Outbox.Proofs.Polling

/-! A broker in memory that nobody tells anything. If it is not paused at the start and has room for a
    message, it can be relied on: every poll and every flush takes out what is in the queue and
    reports it, whatever else is begun in the meantime, and a queue that was told to be full counts
    down to the moment when it is not. -/

namespace Outbox

/-- Nothing is ever told. -/
def Silent {β : Type} (_ _ : β) : Prop := False

namespace Client

variable {β : Type} {c : Client β} {told told' : β → β → Prop} {b₀ b : β} {T : List c.Task}
  {M : Multiset Message}

/-- What a client does that is told less, it does. -/
theorem Course.mono (ht : ∀ {b b'}, told b b' → told' b b') (h : c.Course told b₀ b T M) :
    c.Course told' b₀ b T M := by
  induction h with
  | start => exact .start
  | told _ hb ih => exact ih.told (ht hb)
  | accept _ hs ih => exact ih.accept hs
  | refuse _ hs ih => exact ih.refuse hs
  | begin task _ htask ih => exact ih.begin task htask
  | more _ hs ih => exact ih.more hs
  | report _ hs ih => exact ih.report hs
  | finish _ hs ih => exact ih.finish hs

end Client

theorem eq_of_silent {β : Type} {b b' : β} (h : Relation.ReflTransGen Silent b b') : b' = b := by
  cases h with
  | refl => rfl
  | tail _ hb => exact hb.elim

namespace MemoryBroker

/-- The broker has been at work and was told nothing: it is as little paused as before, and what is
    in the queue was there before. -/
structure Worked (b b' : MemoryBroker) : Prop where
  limits : b'.limits = b.limits
  full : b'.faults.queueFullNext = b.faults.queueFullNext
  awake : b.paused = false → b'.paused = false
  inFlight : b'.inFlight = b.inFlight ∨ b'.inFlight = .empty

namespace Worked

variable {b b' b'' : MemoryBroker}

theorem refl (b : MemoryBroker) : b.Worked b := ⟨rfl, rfl, id, .inl rfl⟩

theorem trans (h : b.Worked b') (h' : b'.Worked b'') : b.Worked b'' := by
  obtain ⟨hlimits, hfull, hawake, hflight⟩ := h
  obtain ⟨hlimits', hfull', hawake', hflight'⟩ := h'
  refine ⟨hlimits'.trans hlimits, hfull'.trans hfull, hawake' ∘ hawake, ?_⟩
  rcases hflight' with hflight' | hflight'
  · rwa [hflight']
  · exact .inr hflight'

theorem wake (b : MemoryBroker) (clock : Clock) : b.Worked (b.wake clock) := by
  unfold MemoryBroker.wake
  split
  · exact ⟨rfl, rfl, fun _ => rfl, .inl rfl⟩
  · exact .refl b

theorem deliver (b : MemoryBroker) (m : Message) : b.Worked (b.deliver m).2 := by
  unfold MemoryBroker.deliver
  split_ifs <;> exact ⟨rfl, rfl, id, .inl rfl⟩

end Worked

theorem worked_step (task : Task) (b : MemoryBroker) (clock : Clock) :
    b.Worked (step task b clock).2.1 := by
  have hwake := Worked.wake b clock
  cases task with
  | poll purpose =>
    simp only [step]
    split_ifs
    · exact hwake.trans ⟨rfl, rfl, id, .inl rfl⟩
    · exact hwake.trans ⟨rfl, rfl, id, .inr rfl⟩
  | deliver batch purpose =>
    cases batch with
    | nil => cases purpose <;> exact .refl b
    | cons m batch => exact .deliver b m
  | flush timeout => exact ⟨rfl, rfl, id, .inl rfl⟩
  | flushRound deadline =>
    simp only [step]
    split_ifs
    · refine hwake.trans ?_
      unfold waitPaused
      split <;> exact .refl _
    · exact hwake
  | flushCheck deadline =>
    simp only [step]
    split_ifs
    · exact .refl b
    · cases deadline with
      | none => exact .refl b
      | some d =>
        dsimp only
        split_ifs <;> exact .refl b

theorem worked_of_step {task : Task} {b b' : MemoryBroker} {clock clock' : Clock}
    {out : TaskStep Task} (h : client.step task b clock = (out, b', clock')) : b.Worked b' := by
  have hw := worked_step task b clock
  rwa [show step task b clock = (out, b', clock') from h] at hw

/-! ### Tasks end -/

/-- How many steps the task still takes, besides the last. A check finds the queue empty, unless
    something was sent after the queue was taken. -/
def Task.ahead (b : MemoryBroker) : Task → Nat
  | .flush _ => b.inFlight.size + 4
  | .flushRound _ => b.inFlight.size + 3
  | .poll .poll => b.inFlight.size + 1
  | .poll (.flush _) => b.inFlight.size + 2
  | .deliver batch .poll => batch.length
  | .deliver batch (.flush _) =>
    batch.length + 1 + if b.inFlight.isEmpty then 0 else b.inFlight.size + 4
  | .flushCheck _ => if b.inFlight.isEmpty then 0 else b.inFlight.size + 4

/-- The task that a step leaves behind, if it is not over. -/
def Task.after : TaskStep Task → Option Task
  | .more next | .report _ next => some next
  | .finished _ => none

theorem ahead_step {task next : Task} {b : MemoryBroker} {clock : Clock} (hb : b.paused = false)
    (h : Task.after (step task b clock).1 = some next) :
    next.ahead (step task b clock).2.1 < task.ahead b := by
  have hwake : (b.wake clock).paused = false := (Worked.wake b clock).awake hb
  cases task with
  | flush timeout =>
    obtain rfl := Option.some_inj.mp h
    exact Nat.lt_succ_self _
  | flushRound deadline =>
    simp only [step, hwake, Bool.false_eq_true, if_false] at h ⊢
    obtain rfl := Option.some_inj.mp h
    simp [Task.ahead]
  | poll purpose =>
    simp only [step, hwake, Bool.false_eq_true, if_false] at h ⊢
    obtain rfl := Option.some_inj.mp h
    have hempty : (Line.empty : Line Message).isEmpty = true := rfl
    cases purpose <;> simp [Task.ahead, hempty]
  | deliver batch purpose =>
    cases batch with
    | nil =>
      cases purpose with
      | poll => cases h
      | flush deadline =>
        obtain rfl := Option.some_inj.mp h
        exact Nat.lt_add_of_pos_left Nat.one_pos
    | cons m batch =>
      obtain rfl := Option.some_inj.mp h
      cases purpose <;> simp [Task.ahead, step]
  | flushCheck deadline =>
    simp only [step] at h ⊢
    split_ifs at h ⊢ with hempty
    · cases h
    · cases deadline with
      | none =>
        obtain rfl := Option.some_inj.mp h
        simp [Task.ahead, hempty]
      | some d =>
        dsimp only at h ⊢
        split_ifs at h ⊢
        · cases h
        · obtain rfl := Option.some_inj.mp h
          simp [Task.ahead, hempty]

theorem ahead_lt {task next : Task} {b b' : MemoryBroker} {clock clock' : Clock}
    {out : TaskStep Task} (hb : b.paused = false)
    (hs : client.step task b clock = (out, b', clock')) (h : Task.after out = some next) :
    next.ahead b' < task.ahead b := by
  have hs : step task b clock = (out, b', clock') := hs
  have hafter : Task.after (step task b clock).1 = some next := by rw [hs]; exact h
  have hlt := ahead_step hb hafter
  rwa [hs] at hlt

/-- A task of a broker that is not paused comes to its end. -/
theorem acc_onward {task : Task} {b : MemoryBroker} (hb : b.paused = false) :
    Acc (client.Onward Silent) (task, b) := by
  induction hn : task.ahead b using Nat.strong_induction_on generalizing task b with
  | h n ih =>
    refine ⟨_, fun ⟨next, b'⟩ hnext => ?_⟩
    obtain ⟨b'', clock, clock', hsilent, hstep⟩ := hnext
    obtain rfl := eq_of_silent hsilent
    have hafter : ∃ out, client.step task b clock = (out, b', clock') ∧
        Task.after out = some next := by
      rcases hstep with hstep | ⟨r, hstep⟩
      · exact ⟨_, hstep, rfl⟩
      · exact ⟨_, hstep, rfl⟩
    obtain ⟨out, hstep, hout⟩ := hafter
    exact ih _ (hn ▸ ahead_lt hb hstep hout) ((worked_of_step hstep).awake hb) rfl

/-! ### The queue is emptied -/

/-- The task has yet to take out what is in the queue. -/
def Task.isFresh : Task → Bool
  | .flush _ | .flushRound _ | .poll _ => true
  | .deliver .. | .flushCheck _ => false

/-- A step of a task that has yet to take out what is in the queue does so or comes nearer to it. -/
theorem fresh_step {task : Task} (ht : task.isFresh = true) {b : MemoryBroker} (clock : Clock)
    (hb : b.paused = false) : ∃ next, (step task b clock).1 = .more next ∧
      (next.isFresh = true ∨ (step task b clock).2.1.inFlight.toList = []) := by
  have hwake : (b.wake clock).paused = false := (Worked.wake b clock).awake hb
  cases task with
  | flush timeout => exact ⟨_, rfl, .inl rfl⟩
  | flushRound deadline =>
    simp only [step, hwake, Bool.false_eq_true, if_false]
    exact ⟨_, rfl, .inl rfl⟩
  | poll purpose =>
    simp only [step, hwake, Bool.false_eq_true, if_false]
    exact ⟨_, rfl, .inr rfl⟩
  | deliver batch purpose | flushCheck deadline => simp [Task.isFresh] at ht

/-- The queue is empty, or the task begun first has yet to take out what is in it. -/
def Emptying (T : List Task) (b : MemoryBroker) : Prop :=
  b.inFlight.toList = [] ∨ ∃ ts task, T = ts ++ [task] ∧ task.isFresh = true

theorem Worked.empty {b b' : MemoryBroker} (h : b.Worked b') (hb : b.inFlight.toList = []) :
    b'.inFlight.toList = [] := by
  rcases h.inFlight with hflight | hflight <;> rw [hflight]
  · exact hb
  · rfl

/-- A step of the task begun last. -/
theorem Emptying.step {task : Task} {T next : List Task} {b b' : MemoryBroker}
    {clock clock' : Clock} {out : TaskStep Task} (h : Emptying (task :: T) b)
    (hb : b.paused = false) (hs : client.step task b clock = (out, b', clock'))
    (hnext : next = (Task.after out).toList) : Emptying (next ++ T) b' := by
  subst hnext
  rcases h with h | ⟨ts, bottom, hT, hfresh⟩
  · exact .inl ((worked_of_step hs).empty h)
  cases ts with
  | nil =>
    obtain ⟨rfl, rfl⟩ := List.cons.inj hT
    obtain ⟨next, hout, hdone⟩ := fresh_step hfresh clock hb
    rw [show MemoryBroker.step task b clock = (out, b', clock') from hs] at hout hdone
    obtain rfl : out = .more next := hout
    rcases hdone with hfresh | hempty
    · exact .inr ⟨[], next, rfl, hfresh⟩
    · exact .inl hempty
  | cons top ts =>
    obtain ⟨rfl, rfl⟩ := List.cons.inj hT
    exact .inr ⟨(Task.after out).toList ++ ts, bottom, by simp, hfresh⟩

/-- While nothing is sent and a poll or a flush goes on, the broker works. -/
theorem worked_of_waits {b b' : MemoryBroker} {T : List client.Task} {M M' : Multiset Message}
    {task : client.Task} (ht : Task.isFresh task = true) (hb : b.paused = false)
    (h : client.Waits Silent b [task] M b' T M') : b.Worked b' ∧ Emptying T b' := by
  induction h with
  | start => exact ⟨.refl b, .inr ⟨[], task, rfl, ht⟩⟩
  | told _ hsilent _ => exact hsilent.elim
  | @begin b' T' _ new _ hnew ih =>
    obtain ⟨hworked, hempty | ⟨ts, bottom, hT, hfresh⟩⟩ := ih
    · exact ⟨hworked, .inl hempty⟩
    · exact ⟨hworked, .inr ⟨new :: ts, bottom, by rw [hT]; rfl, hfresh⟩⟩
  | more _ hs ih | report _ hs ih | finish _ hs ih =>
    obtain ⟨hworked, hemptying⟩ := ih
    exact ⟨hworked.trans (worked_of_step hs), hemptying.step (hworked.awake hb) hs rfl⟩

/-- When nothing goes on any more, the queue is empty. -/
theorem empty_of_waits {b b' : MemoryBroker} {M M' : Multiset Message} {task : client.Task}
    (ht : Task.isFresh task = true) (hb : b.paused = false)
    (h : client.Waits Silent b [task] M b' [] M') : b.Worked b' ∧ b'.inFlight.toList = [] := by
  obtain ⟨hworked, hempty | ⟨ts, bottom, hT, -⟩⟩ := worked_of_waits ht hb h
  · exact ⟨hworked, hempty⟩
  · cases ts <;> cases hT

/-! ### The broker can be relied on -/

section

variable {b₀ b : MemoryBroker} {T : List client.Task} {M : Multiset Message}

theorem course_awake (h₀ : b₀.paused = false) (h : client.Course Silent b₀ b T M) :
    b.paused = false ∧ b.limits = b₀.limits := by
  induction h with
  | start => exact ⟨h₀, rfl⟩
  | told _ hsilent _ => exact hsilent.elim
  | @accept b b' _ _ m _ hs ih | @refuse b b' _ _ m e _ hs ih =>
    rcases send_eq m b with ⟨-, hsend⟩ | ⟨-, ⟨_, -, hsend⟩ | ⟨-, hsend⟩⟩ <;>
      obtain rfl := (Prod.mk.inj (hs.symm.trans hsend)).2 <;> exact ih
  | begin _ _ _ ih => exact ih
  | more _ hs ih | report _ hs ih | finish _ hs ih =>
    have hworked := worked_of_step hs
    exact ⟨hworked.awake ih.1, hworked.limits.trans ih.2⟩

theorem outstanding_of_silent (hempty : b₀.inFlight.toList = [])
    (h : client.Course Silent b₀ b T M) : M = (b.inFlight.toList ++ heldBy T : List Message) :=
  course_outstanding (h.mono fun hsilent => hsilent.elim) hempty

/-- After one flush nothing is outstanding. -/
theorem acc_flushed (h₀ : b₀.paused = false) (hempty : b₀.inFlight.toList = [])
    (h : client.Course Silent b₀ b [] M) : Acc (client.Flushed Silent) (b, M) := by
  refine ⟨_, fun ⟨b', M'⟩ hflushed => ⟨_, fun _ hagain => ?_⟩⟩
  obtain ⟨-, timeout, hwaits⟩ := hflushed
  refine absurd ?_ hagain.1
  have hcourse := (h.begin _ (.inr ⟨timeout, rfl⟩)).waits hwaits
  rw [outstanding_of_silent hempty hcourse,
    (empty_of_waits rfl (course_awake h₀ h).1 hwaits).2]
  rfl

/-- After each rebuff the queue is less full. -/
theorem acc_rebuffed (hb : b.paused = false) (hcap : 0 < b.limits.capacity) (m : Message) :
    Acc (client.Rebuffed Silent m) (b, M) := by
  induction hn : b.fullness using Nat.strong_induction_on generalizing b M with
  | h n ih =>
    refine ⟨_, fun ⟨b', M'⟩ hrebuffed => ?_⟩
    obtain ⟨e, b'', he, hsend, hwaits⟩ := hrebuffed
    have hroom {b'' : MemoryBroker} (hwaits : client.Waits Silent b'' [client.poll] M b' [] M')
        (hlimits : b''.limits = b.limits) (hb : b''.paused = false)
        (hlt : b''.faults.queueFullNext < b.fullness) :
        Acc (client.Rebuffed Silent m) (b', M') := by
      obtain ⟨hworked, hempty⟩ := empty_of_waits rfl hb hwaits
      have hcap' : 0 < b'.limits.capacity := by rwa [hworked.limits, hlimits]
      refine ih _ ?_ (hworked.awake hb) hcap' rfl
      rw [fullness_of_empty hempty hcap', hworked.full, ← hn]
      exact hlt
    rcases send_eq m b with ⟨hpos, hs⟩ | ⟨hzero, ⟨e', hr, hs⟩ | ⟨-, hs⟩⟩ <;>
      obtain ⟨hanswer, rfl⟩ := Prod.mk.inj (hsend.symm.trans hs)
    · refine hroom hwaits rfl hb ?_
      unfold fullness
      dsimp only
      omega
    · obtain rfl := Except.error.inj hanswer
      refine hroom hwaits rfl hb ?_
      rw [hzero, fullness, if_pos (full_of_refusal hr he)]
      omega
    · cases hanswer

theorem faithful_of_silent (h₀ : b₀.paused = false) (hempty : b₀.inFlight.toList = [])
    (hcap : 0 < b₀.limits.capacity) : client.Faithful Silent b₀ where
  exact _ _ _ _ _ _ _ _ _ h hs := exact_client hempty (h.mono fun hsilent => hsilent.elim) hs
  unfailing := not_mayFail
  ending h := acc_onward (course_awake h₀ h).1
  reporting h := acc_flushed h₀ hempty h
  yielding h m := acc_rebuffed (course_awake h₀ h).1 (by rwa [(course_awake h₀ h).2]) m

end

/-! ### Applications that tell the broker nothing -/

variable {κ α : Type}

/-- An application whose producer sends to a broker in memory, which is told nothing besides. -/
def unbidden (conduct : κ → HookKind → Message → Option BrokerError →
    Conduct MemoryBroker κ α Empty) : Application MemoryBroker κ α Empty where
  client := client
  tell := nofun
  conduct := conduct

theorem told_unbidden {conduct : κ → HookKind → Message → Option BrokerError →
    Conduct MemoryBroker κ α Empty} : (unbidden conduct).Told = Silent := by
  funext b b'
  exact propext ⟨fun ⟨o, _⟩ => o.elim, False.elim⟩

theorem faithful_unbidden (conduct : κ → HookKind → Message → Option BrokerError →
      Conduct MemoryBroker κ α Empty) {b : MemoryBroker} (hb : b.paused = false)
    (hempty : b.inFlight.toList = []) (hcap : 0 < b.limits.capacity) :
    (unbidden conduct).client.Faithful (unbidden conduct).Told b := by
  rw [told_unbidden]
  exact faithful_of_silent hb hempty hcap

end MemoryBroker

end Outbox
