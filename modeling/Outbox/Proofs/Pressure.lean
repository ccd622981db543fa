import Outbox.Proofs.Reception
import Outbox.Proofs.Stranded

/-! A full queue is no failure. A message that finds the queue full is offered again after a poll,
    as often as it takes. Each time the policy says whether the hook is told, the policy that was in
    force when the first offer was made; hooks may change the settings meanwhile. Main statement: an
    offer comes to its end at the first other answer, and that is its answer. The counters tell how
    often the queue was full, and the hook was told as often as the policy says. As for messages,
    there is what came of reports, and one more is pending if this one was accepted. -/

namespace Outbox

variable {β κ α ο : Type}

/-! ### What can be seen of an offer -/

namespace Event

def isPoll : Event → Bool
  | polled => true
  | _ => false

/-- The hook is told that the queue is full. -/
def isNotice : Event → Bool
  | hookCalled .queueFull .. => true
  | _ => false

def isSignal (e : Event) : Bool := e.isOffer || e.isPoll || e.isNotice

end Event

/-- The offers, polls and notices in a journal, the first in front. -/
def signals (J : List Entry) : List Event := (J.reverse.map (·.event)).filter (·.isSignal)

theorem signals_cons (e : Entry) (J : List Entry) :
    signals (e :: J) = signals J ++ if e.event.isSignal then [e.event] else [] := by
  rw [signals, List.reverse_cons, List.map_append, List.filter_append]
  cases h : e.event.isSignal <;> simp [signals, h]

theorem signals_cons_of_not (J : List Entry) {e : Entry} (h : e.event.isSignal = false) :
    signals (e :: J) = signals J := by
  rw [signals_cons, h]
  exact List.append_nil _

theorem countP_signals {p : Event → Bool} (hp : ∀ e, p e = true → e.isSignal = true)
    (J : List Entry) : (signals J).countP p = J.countP (p ·.event) := by
  have hboth (e : Entry) : (p e.event && e.event.isSignal) = p e.event := by
    cases h : p e.event with
    | false => rfl
    | true => exact hp _ h
  simp only [signals, List.countP_filter, List.countP_map, List.countP_reverse, Function.comp_def,
    hboth]

namespace FullQueueNotice

/-- Is the hook to be told when the queue was full for the message `i` times before? -/
def isDue : FullQueueNotice → Nat → Bool
  | never, _ => false
  | oncePerMessage, i => i == 0
  | eachTime, _ => true

/-- How often the hook is told when the queue is full `k` times. -/
def calls : FullQueueNotice → Nat → Nat
  | never, _ => 0
  | oncePerMessage, k => min k 1
  | eachTime, k => k

theorem calls_succ (notice : FullQueueNotice) (k : Nat) :
    notice.calls (k + 1) = notice.calls k + if notice.isDue k then 1 else 0 := by
  cases notice with
  | never => rfl
  | oncePerMessage => cases k <;> simp [calls, isDue]
  | eachTime => rfl

/-- Whether the hook is to be told the next time goes by whether it was this time. -/
theorem isDue_succ (notice : FullQueueNotice) (k : Nat) :
    notice.isDue (k + 1) = if notice.isDue k then notice == .eachTime else false := by
  cases notice with
  | never | eachTime => rfl
  | oncePerMessage => cases k <;> rfl

end FullQueueNotice

/-- The queue was full `k` times: what is seen of it. If there is a hook that can hear, it is told
    whenever it should be. -/
inductive Rounds (notice : FullQueueNotice) (heard : Prop) (m : Message) :
    Nat → List Event → Prop where
  | none : Rounds notice heard m 0 []
  | silent {k S} (h : Rounds notice heard m k S) (hd : notice.isDue k = true → ¬ heard) :
      Rounds notice heard m (k + 1) (S ++ [.offered m (.error .queueFull), .polled])
  | told {k S} (h : Rounds notice heard m k S) (hd : notice.isDue k = true) :
      Rounds notice heard m (k + 1)
        (S ++ [.offered m (.error .queueFull), .polled, .hookCalled .queueFull m none])

namespace Rounds

variable {notice : FullQueueNotice} {heard : Prop} {m : Message} {k : Nat} {S : List Event}

theorem offers (h : Rounds notice heard m k S) : S.countP Event.isOffer = k := by
  induction h with
  | none => rfl
  | silent _ _ ih | told _ _ ih =>
    rw [List.countP_append, ih]
    rfl

theorem polls (h : Rounds notice heard m k S) : S.countP Event.isPoll = k := by
  induction h with
  | none => rfl
  | silent _ _ ih | told _ _ ih =>
    rw [List.countP_append, ih]
    rfl

theorem notices_le (h : Rounds notice heard m k S) : S.countP Event.isNotice ≤ notice.calls k := by
  induction h with
  | none => exact Nat.zero_le _
  | silent _ _ ih =>
    rw [List.countP_append, FullQueueNotice.calls_succ]
    exact Nat.le_add_right_of_le ih
  | told _ hd ih =>
    rw [List.countP_append, FullQueueNotice.calls_succ, if_pos hd]
    exact Nat.add_le_add_right ih 1

theorem notices (h : Rounds notice heard m k S) (hheard : heard) :
    S.countP Event.isNotice = notice.calls k := by
  induction h with
  | none => cases notice <;> rfl
  | silent _ hd ih =>
    have hnot : ¬ notice.isDue _ = true := fun h => hd h hheard
    rw [List.countP_append, FullQueueNotice.calls_succ, if_neg hnot, ih]
    rfl
  | told _ hd ih =>
    rw [List.countP_append, FullQueueNotice.calls_succ, if_pos hd, ih]
    rfl

end Rounds

/-! ### Hooks that set something -/

/-- The deed turns to the producer to set something, or not at all. -/
def Deed.isMild : Deed κ α ο → Bool
  | operate op =>
    match op with
    | .setBufferLimit _ | .setFlushMode _ | .setRetryBudget _ | .setFullQueueNotice _ => true
    | _ => false
  | register .. | instruct _ | sleep _ | think _ => true
  | pollBroker | flushBroker _ => false

/-- Every deed of the conduct is mild, whatever it sees and whatever comes of its deeds. -/
inductive Conduct.Mild : Conduct β κ α ο → Prop where
  | answer (v : Bool) : Mild (.answer v)
  | see {next : World β κ α → Conduct β κ α ο} (h : ∀ s, Mild (next s)) : Mild (.see next)
  | act {deed : Deed κ α ο} {next : Reply → Conduct β κ α ο} (hd : deed.isMild = true)
      (h : ∀ r, Mild (next r)) : Mild (.act deed next)

/-- Hooks turn to the producer at most to set something. -/
def Application.Mild (app : Application β κ α ο) : Prop :=
  ∀ hook kind m e, (app.conduct hook kind m e).Mild

namespace Site

/-- Somebody is there to be told that the queue is full. -/
def IsHeard (s : World β κ α) : Prop := (s.producer.hooks.find? .queueFull).isSome = true

/-- Something was set in the producer, and that was all. -/
structure Tuned (s t : World β κ α) : Prop where
  producer : t.producer = { s.producer with
    settings := t.producer.settings, tracking := t.producer.tracking, hooks := t.producer.hooks }
  heard : s.IsHeard → t.IsHeard
  journal : t.journal = s.journal

/-- Nothing became of any message, but that `n` more are pending. Settings, hooks, and the counters
    of offers and full queues may be others. -/
structure Untouched (n : Nat) (s t : World β κ α) : Prop where
  counters : t.producer.counters = { s.producer.counters with
    pending := s.producer.counters.pending + n
    attempts := t.producer.counters.attempts
    queueFull := t.producer.counters.queueFull }
  regular : t.producer.regular = s.producer.regular
  retry : t.producer.retry = s.producer.retry
  trackers : t.trackers = s.trackers

/-- No message was offered, and nobody told of a full queue. -/
structure Hushed (s t : World β κ α) : Prop where
  signals : signals t.journal = signals s.journal
  attempts : t.producer.counters.attempts = s.producer.counters.attempts
  queueFull : t.producer.counters.queueFull = s.producer.counters.queueFull
  heard : s.IsHeard → t.IsHeard

variable {s t u : World β κ α} {n : Nat}

theorem isRoad_tuned : Act.IsRoad (Tuned : World β κ α → World β κ α → Prop) where
  refl _ := ⟨rfl, id, rfl⟩
  trans h h' := ⟨by rw [h'.producer, h.producer], fun hs => h'.heard (h.heard hs),
    h'.journal.trans h.journal⟩

theorem Untouched.after (h : s.Untouched 0 t) (h' : t.Untouched n u) : s.Untouched n u :=
  ⟨by rw [h'.counters, h.counters]; rfl, h'.regular.trans h.regular, h'.retry.trans h.retry,
    h'.trackers.trans h.trackers⟩

theorem isRoad_untouched : Act.IsRoad (Untouched 0 : World β κ α → World β κ α → Prop) where
  refl _ := ⟨rfl, rfl, rfl, rfl⟩
  trans := Untouched.after

theorem isRoad_hushed : Act.IsRoad (Hushed : World β κ α → World β κ α → Prop) where
  refl _ := ⟨rfl, rfl, rfl, id⟩
  trans h h' := ⟨h'.signals.trans h.signals, h'.attempts.trans h.attempts,
    h'.queueFull.trans h.queueFull, fun hs => h'.heard (h.heard hs)⟩

theorem Tuned.untouched (h : s.Tuned t) : s.Untouched 0 t :=
  ⟨by rw [h.producer]; rfl, by rw [h.producer], by rw [h.producer],
    by rw [Site.trackers, h.producer]; rfl⟩

theorem Tuned.hushed (h : s.Tuned t) : s.Hushed t :=
  ⟨by rw [h.journal], by rw [h.producer], by rw [h.producer], h.heard⟩

theorem Hushed.noted (s : World β κ α) {e : Event} (he : e.isSignal = false) :
    s.Hushed (s.noted e) :=
  ⟨signals_cons_of_not s.journal he, rfl, rfl, id⟩

end Site

namespace Application

variable {app : Application β κ α ο} {limit depth : Nat} {s t : World β κ α}

theorem tuned_perform {env : Surroundings β κ α} {deed : Deed κ α ο} (hd : deed.isMild = true)
    {r : Reply} (h : app.perform env deed s = some (r, t)) : s.Tuned t := by
  cases deed with
  | operate op =>
    cases op with
    | setBufferLimit n =>
      obtain ⟨_, h, -⟩ := Work.of_reply h
      obtain ⟨-, rfl⟩ := Work.setBufferLimit_eq_some h
      split <;> exact ⟨rfl, id, rfl⟩
    | setFlushMode _ | setRetryBudget _ | setFullQueueNotice _ =>
      obtain ⟨-, rfl⟩ := Act.pure_eq_some.mp h
      exact ⟨rfl, id, rfl⟩
    | _ => cases hd
  | register kind hook =>
    obtain ⟨-, rfl⟩ := Act.pure_eq_some.mp h
    refine ⟨rfl, fun hs => ?_, rfl⟩
    exact (Surroundings.spares_setHook kind hook).hooks s.producer .queueFull hs
  | instruct _ | sleep _ | think _ =>
    obtain ⟨-, rfl⟩ := Act.pure_eq_some.mp h
    exact ⟨rfl, id, rfl⟩
  | pollBroker | flushBroker _ => cases hd

theorem tuned_seeThrough (env : Surroundings β κ α) {c : Conduct β κ α ο} (hc : c.Mild) :
    (c.seeThrough (app.perform env)).Along (Site.Tuned : World β κ α → World β κ α → Prop) := by
  induction hc with
  | answer v => exact Site.isRoad_tuned.composes.pure v
  | see _ ih => exact ⟨fun h => (ih _).leads h⟩
  | act hd _ ih => exact Site.isRoad_tuned.composes.bind ⟨tuned_perform hd⟩ ih

theorem tuned_called (hm : app.Mild) (limit depth : Nat) (hook : κ) (kind : HookKind) (m : Message)
    (e : Option BrokerError) : (app.called limit depth hook kind m e).Along Site.Tuned := by
  cases depth with
  | zero => exact Site.isRoad_tuned.composes.stuck
  | succ depth => exact tuned_seeThrough _ (hm hook kind m e)

/-- What comes of the telling of a hook: it is there or not. -/
theorem fire_cases (hm : app.Mild) {kind : HookKind} {m : Message} {e : Option BrokerError}
    {v : Option Bool} (h : (app.surroundings limit depth).fire kind m e s = some (v, t)) :
    (s.producer.hooks.find? kind = none ∧ t = s) ∨
    ∃ u verdict, (s.noted (.hookCalled kind m e)).Tuned u ∧
      t = u.noted (.hookReturned verdict) := by
  refine (Surroundings.fire_eq_some h).imp_right ?_
  rintro ⟨hook, verdict, u, hcalled, rfl⟩
  exact ⟨u, verdict, (tuned_called hm limit depth hook kind m e).leads hcalled, rfl⟩

theorem untouched_fire (hm : app.Mild) {kind : HookKind} {m : Message} {e : Option BrokerError}
    {v : Option Bool} (h : (app.surroundings limit depth).fire kind m e s = some (v, t)) :
    s.Untouched 0 t ∧ t.producer.counters = s.producer.counters ∧ (s.IsHeard → t.IsHeard) := by
  rcases fire_cases hm h with ⟨-, rfl⟩ | ⟨u, verdict, hu, rfl⟩
  · exact ⟨Site.isRoad_untouched.refl t, rfl, id⟩
  · obtain ⟨hcounters, hregular, hretry, htrackers⟩ := hu.untouched
    exact ⟨⟨hcounters, hregular, hretry, htrackers⟩, by rw [Site.producer_noted, hu.producer]; rfl,
      hu.heard⟩

/-- No report has anything to do with a full queue. -/
theorem receptive_hushed (hm : app.Mild) (limit depth : Nat) :
    (app.surroundings limit depth).Receptive Site.Hushed where
  toIsRoad := Site.isRoad_hushed
  noted s e he := .noted s (by cases e <;> first | rfl | cases he)
  marked s k hk := by cases k <;> first | exact ⟨rfl, rfl, rfl, id⟩ | cases hk
  released _ _ := ⟨rfl, rfl, rfl, id⟩
  claimed _ _ := ⟨rfl, rfl, rfl, id⟩
  requeued _ _ := ⟨rfl, rfl, rfl, id⟩
  fire {kind} hkind m e := by
    refine ⟨fun {s v t} h => ?_⟩
    rcases fire_cases hm h with ⟨-, rfl⟩ | ⟨u, verdict, hu, rfl⟩
    · exact Site.isRoad_hushed.refl t
    · have hcalled : (Event.hookCalled kind m e).isSignal = false := by
        cases kind <;> first | rfl | exact absurd rfl hkind
      exact Site.isRoad_hushed.trans (.noted s hcalled)
        (Site.isRoad_hushed.trans hu.hushed (.noted u rfl))
  completed _ _ _ := ⟨rfl, rfl, rfl, id⟩
  acknowledged s _ := .noted s rfl
  settled _ := ⟨rfl, rfl, rfl, id⟩

theorem isRoad_admits_untouched (app : Application β κ α ο) (limit depth : Nat) :
    Act.IsRoad ((app.surroundings limit depth).Admits (Site.Untouched 0)) :=
  Surroundings.isRoad_admits Site.isRoad_untouched

/-- To poll is to deal with reports, and nothing else. -/
theorem poll_eq_some (hm : app.Mild) {v : Unit}
    (h : (app.surroundings limit depth).poll s = some (v, t)) :
    (app.surroundings limit depth).Admits (Site.Untouched 0) s t ∧
      (s.noted .polled).Hushed t := by
  rw [Surroundings.poll, Work.record_bind] at h
  obtain ⟨_, u, htask, h⟩ := Act.bind_eq_some.mp h
  obtain ⟨-, rfl⟩ := Act.pure_eq_some.mp h
  have hadmits := isRoad_admits_untouched app limit depth
  refine ⟨?_, ?_⟩
  · exact hadmits.trans (.of_still (t := s.noted .polled) ⟨rfl, rfl, rfl, rfl⟩)
      ((Surroundings.along_runTask hadmits (fun _ _ _ => .of_still ⟨rfl, rfl, rfl, rfl⟩)
        (Surroundings.admits_receive Site.isRoad_untouched) _).leads htask)
  · exact (Surroundings.along_runTask Site.isRoad_hushed (fun _ _ _ => ⟨rfl, rfl, rfl, id⟩)
      (receptive_hushed hm limit depth).acknowledges.receive _).leads htask

end Application

/-! ### Offers -/

/-- The world after the broker answered an offer of `m` and came to be `b`. -/
def Site.answered (s : World β κ α) (b : β) (m : Message) : BrokerAnswer → World β κ α
  | .ok () => s.accepted b m
  | .error e => s.refused b m e

namespace Surroundings

/-- From `s` on the message was offered `k` times, and each time the queue was full. The broker was
    polled then, and after that the hook was told if it was due. -/
inductive Rebuffed (env : Surroundings β κ α) (m : Message) (s : World β κ α) :
    Nat → World β κ α → Prop where
  | start : Rebuffed env m s 0 s
  | again {k u b v w} (h : Rebuffed env m s k u)
      (hsend : env.client.send m u.broker = (.error .queueFull, b))
      (hpoll : env.poll ((u.refused b m .queueFull).marked .queueFull) = some ((), v))
      (hnotice : if s.producer.settings.fullQueueNotice.isDue k then
        ∃ r, env.fire .queueFull m none v = some (r, w) else w = v) :
      Rebuffed env m s (k + 1) w

section

variable {env : Surroundings β κ α} {s t u : World β κ α} {m : Message} {k : Nat} {b : β}
  {notice : FullQueueNotice}

theorem makeRoom_eq_some {notify : Bool} {o : Bool ⊕ BrokerAnswer} :
    env.makeRoom notice notify m s = some (o, t) ↔
      ∃ v, env.poll s = some ((), v) ∧
        (if notify then ∃ r, env.fire .queueFull m none v = some (r, t) else t = v) ∧
        o = .inl (if notify then notice == .eachTime else false) := by
  rw [makeRoom, Act.bind_eq_some]
  cases notify with
  | false =>
    simp only [Bool.false_eq_true, if_false, Act.pure_eq_some]
    constructor
    · rintro ⟨⟨⟩, v, hpoll, rfl, rfl⟩
      exact ⟨v, hpoll, rfl, rfl⟩
    · rintro ⟨v, hpoll, rfl, rfl⟩
      exact ⟨(), t, hpoll, rfl, rfl⟩
  | true =>
    simp only [if_true, Act.bind_eq_some (x := env.fire _ _ _), Act.pure_eq_some]
    constructor
    · rintro ⟨⟨⟩, v, hpoll, r, w, hfire, rfl, rfl⟩
      exact ⟨v, hpoll, ⟨r, hfire⟩, rfl⟩
    · rintro ⟨v, hpoll, ⟨r, hfire⟩, rfl⟩
      exact ⟨(), v, hpoll, r, t, hfire, rfl, rfl⟩

theorem offer_eq (env : Surroundings β κ α) (m : Message) (s : World β κ α) :
    env.offer m s = Act.loop (env.offerOnce m s.producer.settings.fullQueueNotice) env.limit
      (s.producer.settings.fullQueueNotice.isDue 0) s := by
  rw [offer, Work.producer_bind]
  cases s.producer.settings.fullQueueNotice <;> rfl

/-- An offer that the broker answers with anything else is the last. -/
theorem offerOnce_of_another {answer : BrokerAnswer} {notify : Bool}
    (h : env.client.send m s.broker = (answer, b)) (ha : answer ≠ .error .queueFull) :
    env.offerOnce m notice notify s = some (.inr answer, s.answered b m answer) := by
  rcases answer with e | _
  · have he : e.isQueueFull = false := by
      rw [Bool.eq_false_iff]
      exact fun he => ha (congrArg Except.error (BrokerError.eq_queueFull he))
    rw [offerOnce_of_refused env notice notify h he]
    rfl
  · rw [offerOnce_of_accepted env notice notify h]
    rfl

/-- Rounds in which the queue is full lead to where they lead. -/
theorem loop_of_rebuffed (h : env.Rebuffed m s k u) (n : Nat) :
    Act.loop (env.offerOnce m s.producer.settings.fullQueueNotice) (n + k)
        (s.producer.settings.fullQueueNotice.isDue 0) s =
      Act.loop (env.offerOnce m s.producer.settings.fullQueueNotice) n
        (s.producer.settings.fullQueueNotice.isDue k) u := by
  induction h generalizing n with
  | start => rfl
  | @again k u b v w _ hsend hpoll hnotice ih =>
    rw [← Nat.add_assoc, Nat.add_right_comm, ih, Act.loop]
    have hround := offerOnce_of_full env s.producer.settings.fullQueueNotice
      (s.producer.settings.fullQueueNotice.isDue k) hsend rfl
    rw [makeRoom_eq_some.mpr ⟨v, hpoll, hnotice, rfl⟩, ← FullQueueNotice.isDue_succ] at hround
    rw [Act.bind_eq hround]

/-- An offer goes on while the queue is full, and no longer. -/
theorem rebuffed_of_offer {answer : BrokerAnswer} (h : env.offer m s = some (answer, t)) :
    ∃ k u b, env.Rebuffed m s k u ∧ env.client.send m u.broker = (answer, b) ∧
      answer ≠ .error .queueFull ∧ t = u.answered b m answer := by
  rw [offer_eq] at h
  refine Act.loop_invariant
    (P := fun notify u => ∃ k, env.Rebuffed m s k u ∧
      notify = s.producer.settings.fullQueueNotice.isDue k)
    (Q := fun answer t => ∃ k u b, env.Rebuffed m s k u ∧
      env.client.send m u.broker = (answer, b) ∧ answer ≠ .error .queueFull ∧
      t = u.answered b m answer) ?_ _ _ _ _ _ ⟨0, .start, rfl⟩ h
  rintro _ u ⟨k, hu, rfl⟩ o v hround
  rcases hsend : env.client.send m u.broker with ⟨answer, b⟩
  by_cases ha : answer = .error .queueFull
  · subst ha
    rw [offerOnce_of_full env _ _ hsend rfl, makeRoom_eq_some] at hround
    obtain ⟨w, hpoll, hnotice, rfl⟩ := hround
    exact ⟨k + 1, .again hu hsend hpoll hnotice, (FullQueueNotice.isDue_succ _ k).symm⟩
  · rw [offerOnce_of_another hsend ha, Option.some_inj, Prod.mk.injEq] at hround
    obtain ⟨rfl, rfl⟩ := hround
    exact ⟨k, u, b, hu, hsend, ha, rfl⟩

end

/-- What there is to say of the world when the queue was full `k` times. -/
structure Waited (env : Surroundings β κ α) (m : Message) (s : World β κ α) (k : Nat)
    (u : World β κ α) : Prop where
  course : ∃ S, Rounds s.producer.settings.fullQueueNotice s.IsHeard m k S ∧
    signals u.journal = signals s.journal ++ S
  attempts : u.producer.counters.attempts = s.producer.counters.attempts + k
  queueFull : u.producer.counters.queueFull = s.producer.counters.queueFull + k
  heard : s.IsHeard → u.IsHeard
  rest : env.Admits (Site.Untouched 0) s u

/-- An offer of the message that comes to its end with the answer. The queue was full `k` times. -/
structure HeldUp (env : Surroundings β κ α) (m : Message) (k : Nat) (s : World β κ α)
    (answer : BrokerAnswer) (t : World β κ α) : Prop where
  rebuffed : ∃ u b, env.Rebuffed m s k u ∧ env.client.send m u.broker = (answer, b) ∧
    t = u.answered b m answer
  another : answer ≠ .error .queueFull
  /-- The message was offered and the broker polled by turns, and the hook told after the poll. -/
  course : ∃ S, Rounds s.producer.settings.fullQueueNotice s.IsHeard m k S ∧
    signals t.journal = signals s.journal ++ (S ++ [.offered m answer])
  offers : t.journal.countP (·.event.isOffer) = s.journal.countP (·.event.isOffer) + (k + 1)
  polls : t.journal.countP (·.event.isPoll) = s.journal.countP (·.event.isPoll) + k
  notices_le : t.journal.countP (·.event.isNotice) ≤
    s.journal.countP (·.event.isNotice) + s.producer.settings.fullQueueNotice.calls k
  notices : s.IsHeard → t.journal.countP (·.event.isNotice) =
    s.journal.countP (·.event.isNotice) + s.producer.settings.fullQueueNotice.calls k
  attempts : t.producer.counters.attempts = s.producer.counters.attempts + (k + 1)
  queueFull : t.producer.counters.queueFull = s.producer.counters.queueFull + k
  /-- Apart from what came of reports, one more message is pending, or there is nothing else. -/
  rest : ∃ L v, env.Receives (Site.Untouched 0) s L v ∧
    v.Untouched (if answer.isOk then 1 else 0) t

end Surroundings

namespace Application

variable {app : Application β κ α ο} {limit depth : Nat} {s t u : World β κ α} {m : Message}
  {k : Nat}

/-- What a notice adds, if it is due. -/
theorem waited_notice (hm : app.Mild) {v w : World β κ α} {notice : FullQueueNotice}
    {S : List Event} {heard : Prop} (hS : Rounds notice heard m k S) (hv : heard → v.IsHeard)
    (hnotice : if notice.isDue k then
      ∃ r, (app.surroundings limit depth).fire .queueFull m none v = some (r, w) else w = v) :
    ∃ N, Rounds notice heard m (k + 1) (S ++ ([.offered m (.error .queueFull), .polled] ++ N)) ∧
      signals w.journal = signals v.journal ++ N := by
  split at hnotice
  · next hdue =>
    obtain ⟨r, hfire⟩ := hnotice
    rcases fire_cases hm hfire with ⟨hnone, rfl⟩ | ⟨x, verdict, hx, rfl⟩
    · refine ⟨[], .silent hS fun _ hheard => ?_, (List.append_nil _).symm⟩
      have hsome := hv hheard
      rw [Site.IsHeard, hnone] at hsome
      cases hsome
    · refine ⟨[.hookCalled .queueFull m none], .told hS hdue, ?_⟩
      rw [Site.journal_noted, signals_cons_of_not _ rfl, hx.journal]
      exact signals_cons ..
  · next hdue =>
    subst hnotice
    exact ⟨[], .silent hS fun h => absurd h hdue, (List.append_nil _).symm⟩

theorem untouched_notice (hm : app.Mild) {v w : World β κ α} {due : Bool}
    (hnotice : if due then
      ∃ r, (app.surroundings limit depth).fire .queueFull m none v = some (r, w) else w = v) :
    v.Untouched 0 w ∧ w.producer.counters = v.producer.counters ∧ (v.IsHeard → w.IsHeard) := by
  split at hnotice
  · obtain ⟨r, hfire⟩ := hnotice
    exact untouched_fire hm hfire
  · subst hnotice
    exact ⟨Site.isRoad_untouched.refl w, rfl, id⟩

theorem waited_of_rebuffed (hm : app.Mild)
    (h : (app.surroundings limit depth).Rebuffed m s k u) :
    (app.surroundings limit depth).Waited m s k u := by
  have hroad := isRoad_admits_untouched app limit depth
  induction h with
  | start => exact ⟨⟨[], .none, (List.append_nil _).symm⟩, rfl, rfl, id, hroad.refl s⟩
  | @again k u b v w _ hsend hpoll hnotice ih =>
    obtain ⟨⟨S, hS, hsignals⟩, hattempts, hfull, hheard, hrest⟩ := ih
    obtain ⟨hpolled, hv⟩ := poll_eq_some hm hpoll
    obtain ⟨hw, hcounters, hheard'⟩ := untouched_notice hm hnotice
    obtain ⟨N, hN, hnoticed⟩ := waited_notice hm hS (fun h => hv.heard (hheard h)) hnotice
    have hu : u.Untouched 0 ((u.refused b m .queueFull).marked .queueFull) := ⟨rfl, rfl, rfl, rfl⟩
    refine ⟨⟨_, hN, ?_⟩, ?_, ?_, fun h => hheard' (hv.heard (hheard h)), ?_⟩
    · rw [hnoticed, hv.signals, Site.journal_noted, signals_cons, Site.journal_marked,
        Site.journal_refused, signals_cons, hsignals, List.append_assoc, List.append_assoc,
        List.append_assoc]
      rfl
    · rw [hcounters, hv.attempts]
      change u.producer.counters.attempts + 1 = _
      rw [hattempts, Nat.add_assoc]
    · rw [hcounters, hv.queueFull]
      change u.producer.counters.queueFull + 1 = _
      rw [hfull, Nat.add_assoc]
    · exact hroad.trans hrest (hroad.trans (.of_still hu) (hroad.trans hpolled (.of_still hw)))

/-- The last answer, after the queue was full for some times. -/
theorem heldUp_of_rebuffed (hm : app.Mild) {b : β} {answer : BrokerAnswer}
    (h : (app.surroundings limit depth).Rebuffed m s k u)
    (hsend : app.client.send m u.broker = (answer, b)) (hanswer : answer ≠ .error .queueFull) :
    (app.surroundings limit depth).HeldUp m k s answer (u.answered b m answer) := by
  obtain ⟨⟨S, hS, hsignals⟩, hattempts, hfull, -, L, hL⟩ := waited_of_rebuffed hm h
  have hlast : signals (u.answered b m answer).journal =
      signals s.journal ++ (S ++ [.offered m answer]) := by
    rw [← List.append_assoc, ← hsignals]
    rcases answer with e | _ <;> exact signals_cons ..
  have hcount {p : Event → Bool} (hp : ∀ e, p e = true → e.isSignal = true) :
      (u.answered b m answer).journal.countP (p ·.event) =
        s.journal.countP (p ·.event) + (S.countP p + [Event.offered m answer].countP p) := by
    rw [← countP_signals hp, ← countP_signals hp, hlast, List.countP_append, List.countP_append]
  have hoffers := hcount (p := Event.isOffer) fun e he => by simp [Event.isSignal, he]
  have hpolls := hcount (p := Event.isPoll) fun e he => by simp [Event.isSignal, he]
  have hnotices := hcount (p := Event.isNotice) fun e he => by simp [Event.isSignal, he]
  constructor
  case rebuffed => exact ⟨u, b, h, hsend, rfl⟩
  case another => exact hanswer
  case course => exact ⟨S, hS, hlast⟩
  case offers =>
    rw [hoffers, hS.offers]
    rfl
  case polls =>
    rw [hpolls, hS.polls]
    rfl
  case notices_le =>
    rw [hnotices]
    exact Nat.add_le_add_left hS.notices_le _
  case notices =>
    intro hheard
    rw [hnotices, hS.notices hheard]
    rfl
  case attempts =>
    rw [← Nat.add_assoc, ← hattempts]
    rcases answer with e | _ <;> rfl
  case queueFull =>
    rw [← hfull]
    rcases answer with e | _ <;> rfl
  case rest =>
    refine ⟨L, u, hL, ?_⟩
    rcases answer with e | _ <;> exact ⟨rfl, rfl, rfl, rfl⟩

/-- Hooks may set in the producer what they like. If the queue is full for a message `k` times and
    the next answer is another, the offer ends with that answer, given so many rounds, and to offer
    the message that often is all that it has taken. The same is true of every offer that ends. -/
theorem heldUp_offer (hm : app.Mild) (limit depth : Nat) (m : Message) (s : World β κ α) :
    (∀ {k u b answer}, (app.surroundings limit depth).Rebuffed m s k u →
      app.client.send m u.broker = (answer, b) → answer ≠ .error .queueFull → k < limit →
      (app.surroundings limit depth).offer m s = some (answer, u.answered b m answer) ∧
        (app.surroundings limit depth).HeldUp m k s answer (u.answered b m answer)) ∧
    ∀ {answer t}, (app.surroundings limit depth).offer m s = some (answer, t) →
      ∃ k, (app.surroundings limit depth).HeldUp m k s answer t := by
  refine ⟨fun {k u b answer} hu hsend ha hk => ⟨?_, heldUp_of_rebuffed hm hu hsend ha⟩,
    fun {answer t} h => ?_⟩
  · obtain ⟨n, rfl⟩ : ∃ n, limit = (n + 1) + k := ⟨limit - k - 1, by omega⟩
    rw [Surroundings.offer_eq]
    refine (Surroundings.loop_of_rebuffed hu (n + 1)).trans ?_
    rw [Act.loop, Act.bind_eq (Surroundings.offerOnce_of_another hsend ha)]
    rfl
  · obtain ⟨k, u, b, hu, hsend, ha, rfl⟩ := Surroundings.rebuffed_of_offer h
    exact ⟨k, heldUp_of_rebuffed hm hu hsend ha⟩

end Application

namespace ScriptedBroker

/-- A hook that is told of a full queue once, and wants to hear no more of it. -/
def grumble (_ : Unit) : HookKind → Message → Option BrokerError →
    Conduct ScriptedBroker Unit Unit PlainScript
  | .queueFull, _, _ => .act (.operate (.setFullQueueNotice .never)) fun _ => .answer true
  | _, _, _ => .answer true

theorem mild_grumble : (application grumble).Mild := by
  intro hook kind m e
  cases kind with
  | queueFull => exact .act rfl fun _ => .answer true
  | _ => exact .answer true

/-- A broker with room for one message. When it is polled first it reports the message, but makes no
    room yet. -/
def packed : ScriptedBroker where
  script :=
    { sends := [.ok (), .error .queueFull, .error .queueFull]
      polls := [[.reportAll none]] }

/-- A message is on its way, and somebody listens. -/
def firstOfTwo : List (Deed Unit Unit PlainScript) :=
  [.register .queueFull (), .operate (.produce { topic := "a" })]

/-- What comes of the offer of another message. -/
def secondOffer : Option (World ScriptedBroker Unit Unit × BrokerAnswer ×
    World ScriptedBroker Unit Unit) := do
  let (_, s) ← (application grumble).run 20 1 firstOfTwo
    (.opening packed {} { fullQueueNotice := .eachTime } 0 ())
  let (answer, t) ← ((application grumble).surroundings 20 1).offer { topic := "b" } s
  return (s, answer, t)

/-- The hook is told twice of the full queue, though it has the policy changed the first time. -/
theorem heldUp_packed : ∃ s t,
    (application grumble).run 20 1 firstOfTwo
      (.opening packed {} { fullQueueNotice := .eachTime } 0 ()) = some ((), s) ∧
    ((application grumble).surroundings 20 1).offer { topic := "b" } s = some (.ok (), t) ∧
    t.producer.settings.fullQueueNotice = .never ∧ t.journal.countP (·.event.isNotice) = 2 ∧
    ((application grumble).surroundings 20 1).HeldUp { topic := "b" } 2 s (.ok ()) t := by
  have hoffer : secondOffer.any (fun p => decide (p.2.1 = .ok ()) &&
      decide (p.2.2.producer.settings.fullQueueNotice = .never) &&
      decide (p.2.2.journal.countP (·.event.isNotice) = 2) &&
      decide (p.1.producer.counters.queueFull = 0) &&
      decide (p.2.2.producer.counters.queueFull = 2)) = true := by
    decide +kernel
  obtain ⟨⟨s, answer, t⟩, hst, hp⟩ := (Option.any_eq_true ..).mp hoffer
  simp only [secondOffer, Option.bind_eq_bind, Option.bind_eq_some_iff] at hst
  obtain ⟨⟨⟨⟩, s'⟩, hs, ⟨answer', t'⟩, ht, heq⟩ := hst
  obtain ⟨rfl, rfl, rfl⟩ : s' = s ∧ answer' = answer ∧ t' = t := by simpa using heq
  simp only [Bool.and_eq_true, decide_eq_true_eq] at hp
  obtain ⟨⟨⟨⟨rfl, hpolicy⟩, hnotices⟩, hbefore⟩, hafter⟩ := hp
  obtain ⟨k, hk⟩ := (Application.heldUp_offer mild_grumble 20 1 { topic := "b" } s').2 ht
  obtain rfl : k = 2 := by
    have hfull := hk.queueFull
    omega
  exact ⟨s', t', hs, ht, hpolicy, hnotices, hk⟩

end ScriptedBroker

end Outbox
