import Outbox.Proofs.Application
import Outbox.Proofs.Faithful
import Outbox.Proofs.Reaches
import Outbox.Proofs.Unmoved

/-! What goes on at a site while its producer waits for the broker, whatever broker that is. A task
    of the broker goes on step by step; every report it hands out is dealt with before it goes on;
    and hooks are called that leave the producer alone, though they may tell the broker what they
    like. Nothing else happens. Main statements: a poll, a flush and the waiting for all outcomes
    are made of such steps, and so is all that lies between two offers of a message. -/

namespace Outbox

variable {β κ α ο : Type}

/-- The event is the broker's or a hook's, and no message has got any further by it. -/
def Event.isTalk : Event → Bool
  | polled | flushBegan _ | flushEnded _ | hookCalled .. | hookReturned _ => true
  | _ => false

namespace Site

/-- The producer was left alone, and the broker was told things perhaps. -/
structure Aloof (told : β → β → Prop) (s t : World β κ α) : Prop where
  producer : t.producer = s.producer
  journal : t.journal = s.journal
  broker : Relation.ReflTransGen told s.broker t.broker

/-- Nothing has become of any message. The trackers are the same, though they may be kept in another
    way. -/
structure Beside (told : β → β → Prop) (s t : World β κ α) : Prop where
  producer : t.producer = { s.producer with trackers := t.trackers }
  nextId : t.trackers.nextId = s.trackers.nextId
  lookup : ∀ X, t.trackers.lookup? X = s.trackers.lookup? X
  broker : Relation.ReflTransGen told s.broker t.broker
  journal : ∃ talk, t.journal = talk ++ s.journal ∧ ∀ e ∈ talk, e.event.isTalk = true

namespace Beside

variable {told : β → β → Prop} {s t u : World β κ α}

theorem refl (s : World β κ α) : s.Beside told s :=
  ⟨rfl, rfl, fun _ => rfl, .refl, [], rfl, by simp⟩

theorem trans (h : s.Beside told t) (h' : t.Beside told u) : s.Beside told u := by
  obtain ⟨hproducer, hnext, hlookup, hbroker, talk, hjournal, htalk⟩ := h
  obtain ⟨hproducer', hnext', hlookup', hbroker', talk', hjournal', htalk'⟩ := h'
  refine ⟨?_, hnext'.trans hnext, fun X => (hlookup' X).trans (hlookup X), hbroker.trans hbroker',
    talk' ++ talk, ?_, fun e he => ?_⟩
  · rw [hproducer', hproducer]
  · rw [hjournal', hjournal, List.append_assoc]
  · exact (List.mem_append.mp he).elim (htalk' e) (htalk e)

theorem of_aloof (h : s.Aloof told t) : s.Beside told t := by
  have htrackers : t.trackers = s.trackers := congrArg Producer.trackers h.producer
  refine ⟨?_, congrArg _ htrackers, fun X => congrArg (·.lookup? X) htrackers, h.broker, [],
    h.journal, by simp⟩
  rw [h.producer, htrackers]
  rfl

theorem noted (s : World β κ α) {e : Event} (he : e.isTalk = true) : s.Beside told (s.noted e) :=
  ⟨rfl, rfl, fun _ => rfl, .refl, [s.entry e], rfl, by simpa using he⟩

/-- Only time has passed. -/
theorem later (s : World β κ α) (clock : Clock) : s.Beside told (s.turned s.broker clock) :=
  ⟨rfl, rfl, fun _ => rfl, .refl, [], rfl, by simp⟩

/-- A claim in vain makes no difference. -/
theorem vain {id : TrackingId} (hg : s.grants id = none) :
    s.Beside told (s.retracked (·.update id (·.claimRetry.2))) := by
  refine ⟨rfl, ?_, fun X => s.trackers.lookup?_claim_of_none id X hg, .refl, [], rfl, by simp⟩
  rw [trackers_retracked, TrackerTable.update]
  split <;> rfl

theorem settings (h : s.Beside told t) : t.producer.settings = s.producer.settings := by
  rw [h.producer]

theorem tracking (h : s.Beside told t) : t.producer.tracking = s.producer.tracking := by
  rw [h.producer]

theorem regular (h : s.Beside told t) : t.producer.regular = s.producer.regular := by
  rw [h.producer]

theorem retry (h : s.Beside told t) : t.producer.retry = s.producer.retry := by
  rw [h.producer]

theorem hooks (h : s.Beside told t) : t.producer.hooks = s.producer.hooks := by
  rw [h.producer]

theorem counters (h : s.Beside told t) : t.producer.counters = s.producer.counters := by
  rw [h.producer]

theorem find? (h : s.Beside told t) (m : Message) : t.trackers.find? m = s.trackers.find? m := by
  simp only [TrackerTable.find?_eq, h.lookup]

theorem grants (h : s.Beside told t) (id : TrackingId) : t.grants id = s.grants id := by
  have htracker : t.producer.trackers.tracker? id = s.producer.trackers.tracker? id := by
    rw [TrackerTable.tracker?_eq, TrackerTable.tracker?_eq]
    exact congrArg _ (h.lookup id)
  rw [Site.grants, Site.grants, htracker]

/-- What the journal tells of messages is the same, whatever it is, if talk does not matter. -/
theorem of_talk {ι : Type} (h : s.Beside told t) {f : List Entry → ι}
    (hf : ∀ e J, e.event.isTalk = true → f (e :: J) = f J) : f t.journal = f s.journal := by
  obtain ⟨talk, hjournal, htalk⟩ := h.journal
  rw [hjournal]
  clear hjournal
  induction talk with
  | nil => rfl
  | cons e talk ih =>
    rw [List.cons_append, hf e _ (htalk e (by simp))]
    exact ih fun e he => htalk e (by simp [he])

end Beside

end Site

/-! ### Hooks -/

/-- The last word of the hook that was asked, if one was, is what is said in `V` too. -/
def Verdicts.after (V : Verdicts) (J : List Entry) : Verdicts :=
  fun kind m e v => V kind m e v ∧ (Vetoed J ↔ v = false)

namespace Application

variable (app : Application β κ α ο)

/-- The hooks that are registered leave the producer alone, tell the broker nothing but what may be
    `told`, and answer as in `V`, where a hook that is missing agrees; and if things are `sure` to
    end, the hooks do. -/
structure Discreet (told : β → β → Prop) (sure : Prop) (V : Verdicts) (hooks : Hooks κ) : Prop where
  called : ∀ {kind hook}, hooks.find? kind = some hook → ∀ m e (s : World β κ α),
    Act.Reaches sure (fun l d => app.called l d hook kind m e) s fun v t =>
      s.Aloof told t ∧ ∀ cause, e = some cause → V kind m cause v
  absent : ∀ {kind}, hooks.find? kind = none → ∀ m cause, V kind m cause true

variable {app} {told : β → β → Prop} {sure : Prop} {V : Verdicts} {s t : World β κ α}

/-- A quiet deed is done at once, and leaves the producer alone. -/
theorem aloof_quiet {deed : Deed κ α ο} (hd : deed.isQuiet = true) (s : World β κ α) :
    ∃ r t, s.Aloof app.Told t ∧ ∀ env, app.perform env deed s = some (r, t) := by
  cases deed with
  | instruct o =>
    exact ⟨_, { s with broker := app.tell o s.clock s.broker },
      ⟨rfl, rfl, .single ⟨o, s.clock, rfl⟩⟩, fun _ => rfl⟩
  | sleep d => exact ⟨_, { s with clock := s.clock.sleep d }, ⟨rfl, rfl, .refl⟩, fun _ => rfl⟩
  | think f =>
    exact ⟨_, { s with owner := { s.owner with app := f s.owner.app } }, ⟨rfl, rfl, .refl⟩,
      fun _ => rfl⟩
  | operate _ | register _ _ | pollBroker | flushBroker _ => simp [Deed.isQuiet] at hd

theorem reaches_seeThrough {conduct : Conduct β κ α ο} (hq : conduct.Quiet)
    (env : Nat → Nat → Surroundings β κ α) (s : World β κ α) :
    Act.Reaches sure (fun l d => conduct.seeThrough (app.perform (env l d))) s fun _ t =>
      s.Aloof app.Told t := by
  induction hq generalizing s with
  | answer v => exact .pure ⟨rfl, rfl, .refl⟩
  | see _ ih => exact .of_eq (fun _ _ => Site.get_bind ..) (ih s s)
  | act hd _ ih =>
    obtain ⟨r, t, ht, hdeed⟩ := aloof_quiet hd s
    refine .of_eq (fun l d => Act.bind_eq (hdeed _)) ((ih r t).mono fun v u hu => ?_)
    exact ⟨hu.producer.trans ht.producer, hu.journal.trans ht.journal, ht.broker.trans hu.broker⟩

/-- A call of a hook leaves the producer alone, if its deeds do. -/
theorem aloof_of_called (hq : app.Quiet) {limit depth : Nat} {hook : κ} {kind : HookKind}
    {m : Message} {e : Option BrokerError} {v : Bool}
    (h : app.called limit depth hook kind m e s = some (v, t)) : s.Aloof app.Told t := by
  cases depth with
  | zero => cases h
  | succ depth =>
    have hreaches : Act.Reaches False (fun _ _ => (app.conduct hook kind m e).seeThrough
        (app.perform (app.surroundings limit depth))) s fun _ t => s.Aloof app.Told t :=
      reaches_seeThrough (hq hook kind m e) (fun _ _ => app.surroundings limit depth) s
    exact hreaches.post 0 0 v t h

/-- Where hooks leave the producer alone, nothing becomes of any message by telling them. -/
theorem beside_fire (hq : app.Quiet) {limit depth : Nat} {kind : HookKind} {m : Message}
    {e : Option BrokerError} {v : Option Bool}
    (h : (app.surroundings limit depth).fire kind m e s = some (v, t)) : s.Beside app.Told t := by
  rcases Surroundings.fire_eq_some h with ⟨-, rfl⟩ | ⟨hook, verdict, u, hcalled, rfl⟩
  · exact .refl t
  · exact (Site.Beside.noted s rfl).trans
      ((Site.Beside.of_aloof (aloof_of_called hq hcalled)).trans (.noted u rfl))

/-- Hooks that leave the producer alone end in any case. -/
theorem discreet_of_quiet (hq : app.Quiet) (hooks : Hooks κ) :
    app.Discreet app.Told sure (fun _ _ _ _ => True) hooks where
  called {kind hook} _ m e s := by
    refine .deeper (x := fun l d => (app.conduct hook kind m e).seeThrough
      (app.perform { client := app.client, limit := l, call := app.called l d })) ?_ (fun _ => rfl)
      fun _ _ => rfl
    exact (reaches_seeThrough (hq hook kind m e) _ s).mono fun v t ht => ⟨ht, fun _ _ => trivial⟩
  absent _ _ _ := trivial

theorem Discreet.after (hd : app.Discreet told sure V s.producer.hooks)
    (h : t.producer.hooks = s.producer.hooks) : app.Discreet told sure V t.producer.hooks := by
  rw [h]
  exact hd

theorem reaches_fire (hd : app.Discreet told sure V s.producer.hooks) (kind : HookKind)
    (m : Message) (e : Option BrokerError) :
    Act.Reaches sure (fun l d => (app.surroundings l d).fire kind m e) s fun v t =>
      s.Beside told t ∧ (¬ Vetoed s.journal → ∀ cause, e = some cause →
        V.after t.journal kind m cause (v.getD true)) := by
  refine .of_eq (fun _ _ => Work.producer_bind ..) ?_
  cases hk : s.producer.hooks.find? kind with
  | none =>
    refine .pure ⟨.refl s, fun hv cause _ => ⟨hd.absent hk m cause, ?_⟩⟩
    simpa using hv
  | some hook =>
    refine .of_eq (fun _ _ => Work.record_bind ..) ((hd.called hk m e _).bind fun v t ht => ?_)
    obtain ⟨ht, hv⟩ := ht
    refine .of_eq (fun _ _ => Work.record_bind ..) (.pure ⟨?_, fun _ cause he => ⟨hv cause he, ?_⟩⟩)
    · exact (Site.Beside.noted s rfl).trans ((Site.Beside.of_aloof ht).trans (.noted t rfl))
    · simp [Vetoed]

/-! ### Reports and refusals -/

theorem reaches_grantRetry (hd : app.Discreet told sure V s.producer.hooks)
    (hj : ¬ Vetoed s.journal) (kind : HookKind) (m : Message) (e : BrokerError)
    {k : Option TrackingId} {tracker : Work β κ α (Option TrackingId)}
    (htracker : ∀ {t}, s.Beside told t → tracker t = some (k, t)) :
    Act.Reaches sure (fun l d => (app.surroundings l d).grantRetry kind m e tracker) s fun r t =>
      match r with
      | some sender => ∃ u id, s.Beside told u ∧ V.after u.journal kind m e true ∧
          k = some id ∧ u.grants id = some sender ∧ t = u.granted id m
      | none => s.Beside told t ∧
          (V.after t.journal kind m e false ∨ ∀ id, k = some id → t.grants id = none) := by
  refine (reaches_fire hd kind m (some e)).bind fun v t ht => ?_
  obtain ⟨ht, hv⟩ := ht
  have hv := hv hj e rfl
  cases hallowed : v.getD true with
  | false => exact .pure ⟨ht, .inl (hallowed ▸ hv)⟩
  | true =>
    refine .of_eq (fun _ _ => Act.bind_eq (htracker ht)) ?_
    cases k with
    | none => exact .pure ⟨ht, .inr (by simp)⟩
    | some id =>
      refine .of_eq (fun _ _ => Work.claimRetry_bind ..) ?_
      cases hg : t.grants id with
      | none =>
        have hvain : t.Beside told _ := .vain hg
        refine .pure ⟨ht.trans hvain, .inr fun X hX => ?_⟩
        obtain rfl := Option.some_inj.mp hX
        rw [hvain.grants, hg]
      | some sender =>
        refine .of_eq (fun _ _ => Work.mark_bind ..) ?_
        refine .of_eq (fun _ _ => Work.record_bind ..) (.pure ?_)
        exact ⟨t, id, ht, hallowed ▸ hv, rfl, hg, rfl⟩

theorem reaches_outcome (hd : app.Discreet told sure V s.producer.hooks) (hj : ¬ Vetoed s.journal)
    (r : DeliveryReport) :
    Act.Reaches sure (fun l d => (app.surroundings l d).outcome (s.trackers.find? r.message) r) s
      fun o t => ∃ u w, s.Beside told u ∧ Received (V.after u.journal) u r o w ∧
        w.Beside told t ∧ (o = .retry → t = w) := by
  obtain ⟨m, failure⟩ := r
  cases failure with
  | none =>
    refine (reaches_fire hd .delivered m none).bind fun v t ht => ?_
    refine .of_eq (fun _ _ => Work.mark_bind ..) (.of_eq (fun _ _ => Work.release_bind ..) ?_)
    refine .of_eq (fun _ _ => Work.record_bind ..) (.pure ?_)
    exact ⟨t, _, ht.1, .delivered, .refl _, fun _ => rfl⟩
  | some e =>
    refine (reaches_grantRetry hd hj .deliveryFailed m e (fun _ => rfl)).bind fun g t ht => ?_
    rcases g with _ | _ | _
    · obtain ⟨ht, hv⟩ := ht
      refine .of_eq (fun _ _ => Surroundings.drop_bind ..) ?_
      have hdropped := hd.after (t := t.dropped m e) ht.hooks
      refine (reaches_fire hdropped .deliveryAbandoned m (some e)).bind fun v u hu => .pure ?_
      refine ⟨t, _, ht, .dropped (hv.imp_right fun hv id hm => hv id ?_), hu.1, by simp⟩
      rw [← ht.find?]
      exact hm
    · obtain ⟨u, id, hu, hv, hk, hg, rfl⟩ := ht
      exact .pure ⟨u, _, hu, .left hv ((hu.find? m).trans hk) hg, .refl _, fun _ => rfl⟩
    · obtain ⟨u, id, hu, hv, hk, hg, rfl⟩ := ht
      refine .of_eq (fun _ _ => Work.modifyProducer_bind ..) (.pure ?_)
      exact ⟨u, _, hu, .requeued hv ((hu.find? m).trans hk) hg, .refl _, fun _ => rfl⟩

end Application

/-- A report came in and was dealt with. Only a hook that is told of a dropped message is called
    after that was decided. -/
def Site.Handled (told : β → β → Prop) (V : Verdicts) (s : World β κ α) (r : DeliveryReport)
    (t : World β κ α) : Prop :=
  ∃ u o w v, s.Beside told u ∧ Received (V.after u.journal) u r o w ∧ w.Beside told v ∧
    (o = .retry → v = w) ∧ t = v.acknowledged (s.trackers.find? r.message) o r.message

/-- A refusal came in and was dealt with. -/
def Site.Coped (told : β → β → Prop) (V : Verdicts) (s : World β κ α) (m : Message)
    (e : BrokerError) (requeue again : Bool) (t : World β κ α) : Prop :=
  ∃ u w, s.Beside told u ∧ Refused (V.after u.journal) u m e requeue again w ∧ w.Beside told t

namespace Application

variable {app : Application β κ α ο} {told : β → β → Prop} {sure : Prop} {V : Verdicts}
  {s t u : World β κ α}

theorem reaches_receive (hd : app.Discreet told sure V s.producer.hooks) (hj : ¬ Vetoed s.journal)
    (r : DeliveryReport) :
    Act.Reaches sure (fun l d => (app.surroundings l d).receive r) s fun _ t =>
      s.Handled told V r t := by
  refine .of_eq (fun _ _ => Work.producer_bind ..) ((reaches_outcome hd hj r).bind fun o v hv => ?_)
  obtain ⟨u, w, hu, hw, hv, hretry⟩ := hv
  have ht : s.Handled told V r
      (v.acknowledged (s.producer.trackers.find? r.message) o r.message) :=
    ⟨u, o, w, v, hu, hw, hv, hretry, rfl⟩
  generalize s.producer.trackers.find? r.message = k at ht ⊢
  -- What is left to do comes to one change of the world.
  refine .of_eq (y := fun _ _ => pure ()) (u := v.acknowledged k o r.message) (fun _ _ => ?_)
    (.pure ht)
  cases k <;> rfl

theorem reaches_receiveRefusal (hd : app.Discreet told sure V s.producer.hooks)
    (hj : ¬ Vetoed s.journal) (m : Message) (e : BrokerError) (requeue : Bool) :
    Act.Reaches sure (fun l d => (app.surroundings l d).receiveRefusal m e requeue) s
      fun again t => s.Coped told V m e requeue again t := by
  refine (reaches_grantRetry hd hj .sendFailed m e (k := s.trackers.find? m) fun ht => ?_).bind
    fun g t ht => ?_
  · exact congrArg some (congrArg (·, _) (ht.find? m))
  cases g with
  | some sender =>
    obtain ⟨u, id, hu, hv, hk, hg, rfl⟩ := ht
    have hm := (hu.find? m).trans hk
    cases requeue with
    | true =>
      refine .of_eq (fun _ _ => Work.modifyProducer_bind ..) (.pure ?_)
      exact ⟨u, _, hu, .deferred hv hm hg, .refl _⟩
    | false => exact .pure ⟨u, _, hu, .kept hv hm hg, .refl _⟩
  | none =>
    obtain ⟨ht, hv⟩ := ht
    refine .of_eq (fun _ _ => Surroundings.drop_bind ..) ?_
    have hdropped := hd.after (t := t.dropped m e) ht.hooks
    refine (reaches_fire hdropped .sendAbandoned m (some e)).bind fun v u hu => .pure ?_
    refine ⟨t, _, ht, .dropped (hv.imp_right fun hv id hm => hv id ?_), hu.1⟩
    rw [← ht.find?]
    exact hm

/-! ### What goes on meanwhile -/

section

variable (app) (told)

/-- What goes on while the producer waits, from `s` on with the tasks `T₀`. `T` are the tasks in the
    end, and `R` the reports that were dealt with, the last one in front. No task is begun before
    the last one is over. -/
inductive Meanwhile (V : Verdicts) (T₀ : List app.client.Task) (s : World β κ α) :
    List app.client.Task → List DeliveryReport → World β κ α → Prop where
  | start : Meanwhile V T₀ s T₀ [] s
  | beside {T R u v} (h : Meanwhile V T₀ s T R u) (hv : u.Beside told v) :
      Meanwhile V T₀ s T R v
  | begin {R u} (task : app.client.Task) (h : Meanwhile V T₀ s [] R u)
      (ht : task = app.client.poll ∨ ∃ timeout, task = app.client.flush timeout) :
      Meanwhile V T₀ s [task] R u
  | more {T R u task next b clock} (h : Meanwhile V T₀ s (task :: T) R u)
      (hs : app.client.step task u.broker u.clock = (.more next, b, clock)) :
      Meanwhile V T₀ s (next :: T) R (u.turned b clock)
  | report {T R u v task r next b clock} (h : Meanwhile V T₀ s (task :: T) R u)
      (hs : app.client.step task u.broker u.clock = (.report r next, b, clock))
      (hv : (u.turned b clock).Handled told V r v) : Meanwhile V T₀ s (next :: T) (r :: R) v
  | finish {T R u task answer b clock} (h : Meanwhile V T₀ s (task :: T) R u)
      (hs : app.client.step task u.broker u.clock = (.finished answer, b, clock)) :
      Meanwhile V T₀ s T R (u.turned b clock)

/-- What the client has yet to report is known, and it is what is pending. -/
structure Attuned (b₀ : β) (T : List app.client.Task) (M : Multiset Message) (s : World β κ α) :
    Prop where
  course : app.client.Course told b₀ s.broker T M
  pending : s.producer.counters.pending = M.card

end

variable {T₀ T T' : List app.client.Task} {R R' : List DeliveryReport} {b₀ : β}
  {M M₀ : Multiset Message}

theorem Meanwhile.trans (h : app.Meanwhile told V T₀ s T R t)
    (h' : app.Meanwhile told V T t T' R' u) :
    app.Meanwhile told V T₀ s T' (R' ++ R) u := by
  induction h' with
  | start => exact h
  | beside _ hv ih => exact ih.beside hv
  | begin task _ ht ih => exact ih.begin task ht
  | more _ hs ih => exact ih.more hs
  | report _ hs hv ih => exact ih.report hs hv
  | finish _ hs ih => exact ih.finish hs

theorem handled_hooks {r : DeliveryReport} (h : s.Handled told V r t) :
    t.producer.hooks = s.producer.hooks := by
  obtain ⟨u, o, w, v, hu, hw, hv, -, rfl⟩ := h
  rw [Site.acknowledged, Site.producer_marked, Site.producer_noted, Site.producer_completed]
  dsimp only
  rw [hv.hooks, ← hu.hooks]
  cases hw <;> rfl

theorem handled_pending {r : DeliveryReport} (h : s.Handled told V r t) :
    t.producer.counters.pending = s.producer.counters.pending - 1 := by
  obtain ⟨u, o, w, v, hu, hw, hv, -, rfl⟩ := h
  rw [Site.counters_acknowledged, Counters.mark, hv.counters, hw.pending, hu.counters]

theorem handled_broker {r : DeliveryReport} (h : s.Handled told V r t) :
    Relation.ReflTransGen told s.broker t.broker := by
  obtain ⟨u, o, w, v, hu, hw, hv, -, rfl⟩ := h
  rw [Site.broker_acknowledged]
  exact (hu.broker.trans (by rw [← hw.broker])).trans hv.broker

/-- No hook has had the last word when a report was dealt with. -/
theorem not_vetoed_of_handled {r : DeliveryReport} (h : s.Handled told V r t) :
    ¬ Vetoed t.journal := by
  obtain ⟨u, o, w, v, hu, hw, hv, -, rfl⟩ := h
  simp [Vetoed]

theorem Meanwhile.hooks (h : app.Meanwhile told V T₀ s T R t) :
    t.producer.hooks = s.producer.hooks := by
  induction h with
  | start => rfl
  | beside _ hv ih => exact hv.hooks.trans ih
  | begin _ _ _ ih => exact ih
  | more _ _ ih | finish _ _ ih => exact ih
  | report _ _ hv ih => exact (handled_hooks hv).trans ih

/-- Of an exact client it stays known what it has yet to report: what it had before and what was
    reported make up what there was. -/
theorem Meanwhile.attuned (hexact : app.client.Exact told b₀)
    (h : app.Meanwhile told V T₀ s T R t) (hs : app.Attuned told b₀ T₀ M₀ s) :
    ∃ M, app.Attuned told b₀ T M t ∧ app.client.Waits told s.broker T₀ M₀ t.broker T M ∧
      M₀ = M + (R.map (·.message) : Multiset Message) := by
  induction h with
  | start => exact ⟨M₀, hs, .start, by simp⟩
  | beside _ hv ih =>
    obtain ⟨M, ⟨hcourse, hpending⟩, hwaits, hM⟩ := ih
    have hwaits := hwaits.tells hv.broker
    exact ⟨M, ⟨hs.course.waits hwaits, by rw [hv.counters, hpending]⟩, hwaits, hM⟩
  | begin task _ ht ih =>
    obtain ⟨M, ⟨hcourse, hpending⟩, hwaits, hM⟩ := ih
    exact ⟨M, ⟨hcourse.begin task ht, hpending⟩, hwaits.begin task ht, hM⟩
  | more _ hstep ih =>
    obtain ⟨M, ⟨hcourse, hpending⟩, hwaits, hM⟩ := ih
    exact ⟨M, ⟨hcourse.more hstep, hpending⟩, hwaits.more hstep, hM⟩
  | finish _ hstep ih =>
    obtain ⟨M, ⟨hcourse, hpending⟩, hwaits, hM⟩ := ih
    exact ⟨M, ⟨hcourse.finish hstep, hpending⟩, hwaits.finish hstep, hM⟩
  | @report _ R u v _ r _ _ _ _ hstep hv ih =>
    obtain ⟨M, ⟨hcourse, hpending⟩, hwaits, hM⟩ := ih
    have hmem := hexact hcourse hstep
    have hwaits := (hwaits.report hstep).tells (handled_broker hv)
    refine ⟨_, ⟨hs.course.waits hwaits, ?_⟩, hwaits, ?_⟩
    · rw [handled_pending hv, meant_of_mem hmem, Multiset.card_erase_of_mem hmem]
      exact congrArg Nat.pred hpending
    · rw [meant_of_mem hmem, hM, List.map_cons, ← Multiset.cons_coe, Multiset.add_cons,
        ← Multiset.cons_add, Multiset.cons_erase hmem]

/-! ### Tasks -/

theorem reaches_taskStep (hd : app.Discreet told sure V t.producer.hooks) (hj : ¬ Vetoed t.journal)
    {task : app.client.Task} (h : app.Meanwhile told V T₀ s (task :: T) R t) :
    Act.Reaches sure (fun l d => Site.taskStep app.client (app.surroundings l d).receive task) t
      fun o u => o.elim
        (fun next => (∃ R', app.Meanwhile told V T₀ s (next :: T) R' u) ∧ ¬ Vetoed u.journal ∧
          app.client.Onward told (next, u.broker) (task, t.broker))
        fun answer => (∃ R', app.Meanwhile told V T₀ s T R' u) ∧ app.client.Answers answer := by
  rcases hs : app.client.step task t.broker t.clock with ⟨step, b, clock⟩
  cases step with
  | more next =>
    refine .of_eq (y := fun _ _ => pure (.inl next)) (u := t.turned b clock)
      (fun _ _ => Site.taskStep_of_more hs) (.pure ⟨⟨R, h.more hs⟩, hj, ?_⟩)
    exact ⟨b, t.clock, clock, .refl, .inl hs⟩
  | finished answer =>
    refine .of_eq (y := fun _ _ => pure (.inr answer)) (u := t.turned b clock)
      (fun _ _ => Site.taskStep_of_finished hs) (.pure ⟨⟨R, h.finish hs⟩, ?_⟩)
    exact ⟨task, t.broker, t.clock, b, clock, hs⟩
  | report r next =>
    refine .of_eq (fun _ _ => Site.taskStep_of_report hs) ?_
    refine (reaches_receive (s := t.turned b clock) hd hj r).bind fun _ u hu => .pure ?_
    refine ⟨⟨r :: R, h.report hs hu⟩, not_vetoed_of_handled hu, ?_⟩
    exact ⟨b, t.clock, clock, handled_broker hu, .inr ⟨r, hs⟩⟩

theorem reaches_runTask (hd : app.Discreet told sure V s.producer.hooks) (hj : ¬ Vetoed s.journal)
    {task : app.client.Task} (hend : sure → Acc (app.client.Onward told) (task, s.broker)) :
    Act.Reaches sure (fun l d => Site.runTask app.client (app.surroundings l d).receive l task) s
      fun answer t => (∃ R, app.Meanwhile told V [task] s [] R t) ∧ app.client.Answers answer := by
  refine .loop (app.client.Onward told)
    (P := fun g τ u => g = (τ, u.broker) ∧ (∃ R, app.Meanwhile told V [task] s [τ] R u) ∧
      ¬ Vetoed u.journal ∧ (sure → Acc (app.client.Onward told) g))
    (fun hs g τ u hu => hu.2.2.2 hs) (fun g τ u hu => ?_) (g := (task, s.broker))
    ⟨rfl, ⟨[], .start⟩, hj, hend⟩
  obtain ⟨rfl, ⟨R, hu⟩, hj, hend⟩ := hu
  refine (reaches_taskStep (hd.after hu.hooks) hj hu).mono fun o t ht => ?_
  cases o with
  | inl next =>
    obtain ⟨hmeanwhile, hj, honward⟩ := ht
    exact ⟨_, ⟨rfl, hmeanwhile, hj, fun hs => (hend hs).inv honward⟩, fun _ => honward⟩
  | inr answer => exact ht

/-- The producer polls the broker. -/
theorem reaches_poll (hd : app.Discreet told sure V s.producer.hooks)
    (hend : sure → Acc (app.client.Onward told) (app.client.poll, s.broker)) :
    Act.Reaches sure (fun l d => (app.surroundings l d).poll) s fun _ t =>
      ∃ R, app.Meanwhile told V [app.client.poll] (s.noted .polled) [] R t := by
  refine .of_eq (fun _ _ => Work.record_bind ..) ?_
  have hj : ¬ Vetoed (s.noted .polled).journal := by simp [Vetoed]
  exact (reaches_runTask (s := s.noted .polled) hd hj hend).bind fun _ t ht => .pure ht.1

/-- The producer flushes the broker. -/
theorem reaches_flushBroker (hd : app.Discreet told sure V s.producer.hooks) (timeout : Span)
    (hend : sure → Acc (app.client.Onward told) (app.client.flush timeout, s.broker)) :
    Act.Reaches sure (fun l d => (app.surroundings l d).flushBroker timeout) s fun answer t =>
      (∃ R, app.Meanwhile told V [app.client.flush timeout] (s.noted (.flushBegan timeout)) [] R t)
        ∧ app.client.Answers answer := by
  refine .of_eq (fun _ _ => Work.record_bind ..) ?_
  have hj : ¬ Vetoed (s.noted (.flushBegan timeout)).journal := by simp [Vetoed]
  refine (reaches_runTask (s := s.noted (.flushBegan timeout)) hd hj hend).bind
    fun answer t ht => ?_
  obtain ⟨⟨R, ht⟩, ha⟩ := ht
  exact .of_eq (fun _ _ => Work.record_bind ..) (.pure ⟨⟨R, ht.beside (.noted t rfl)⟩, ha⟩)

/-- A flush goes on at a site like anything else. -/
theorem Meanwhile.of_flush {timeout : Span}
    (h : app.Meanwhile told V [app.client.flush timeout] (s.noted (.flushBegan timeout)) [] R t) :
    app.Meanwhile told V [] s [] R t := by
  have hbegan : app.Meanwhile told V [] s [app.client.flush timeout] []
      (s.noted (.flushBegan timeout)) :=
    (Meanwhile.start.beside (.noted s rfl)).begin _ (.inr ⟨timeout, rfl⟩)
  simpa using hbegan.trans h

theorem Meanwhile.of_poll
    (h : app.Meanwhile told V [app.client.poll] (s.noted .polled) [] R t) :
    app.Meanwhile told V [] s [] R t := by
  have hbegan : app.Meanwhile told V [] s [app.client.poll] [] (s.noted .polled) :=
    (Meanwhile.start.beside (.noted s rfl)).begin _ (.inl rfl)
  simpa using hbegan.trans h

/-! ### Waiting for the outcomes -/

/-- If things are `sure`, it stays known what the client has yet to report. -/
theorem Meanwhile.attuned_of_sure (hf : sure → app.client.Faithful told b₀)
    (h : app.Meanwhile told V T₀ s T R t) (hs : sure → app.Attuned told b₀ T₀ M₀ s) :
    ∃ M, sure → app.Attuned told b₀ T M t ∧ app.client.Waits told s.broker T₀ M₀ t.broker T M ∧
      M₀ = M + (R.map (·.message) : Multiset Message) := by
  by_cases hsure : sure
  · obtain ⟨M, hM⟩ := h.attuned (hf hsure).exact (hs hsure)
    exact ⟨M, fun _ => hM⟩
  · exact ⟨0, fun h => absurd h hsure⟩

theorem Attuned.noted (h : app.Attuned told b₀ T M s) (e : Event) :
    app.Attuned told b₀ T M (s.noted e) :=
  ⟨h.course, h.pending⟩

/-- Why a waiting ends with an error: a task of the client ended with it. -/
def Excused (app : Application β κ α ο) (e : ProducerError) : Prop :=
  ∃ f : BrokerError, e = .broker f ∧ f.isTimeout = false ∧ app.client.Answers (.error f)

/-- A flush of the broker that does not fail lowers what is outstanding. -/
theorem reaches_flush_attuned (hf : sure → app.client.Faithful told b₀)
    (hd : app.Discreet told sure V s.producer.hooks) (ha : sure → app.Attuned told b₀ [] M s)
    (timeout : Span) :
    Act.Reaches sure (fun l d => (app.surroundings l d).flushBroker timeout) s fun answer t =>
      (∃ R, app.Meanwhile told V [app.client.flush timeout] (s.noted (.flushBegan timeout)) [] R t)
        ∧ app.client.Answers answer ∧ ∃ M', sure → app.Attuned told b₀ [] M' t ∧ M' ≤ M ∧
        (M ≠ 0 → app.client.Flushed told (t.broker, M') (s.broker, M)) := by
  refine (reaches_flushBroker hd timeout fun hsure => ?_).mono fun answer t ht => ?_
  · exact (hf hsure).ending ((ha hsure).course.begin _ (.inr ⟨timeout, rfl⟩))
  · obtain ⟨⟨R, ht⟩, hanswer⟩ := ht
    have hbegan (hsure : sure) : app.Attuned told b₀ [app.client.flush timeout] M
        (s.noted (.flushBegan timeout)) :=
      ⟨(ha hsure).course.begin _ (.inr ⟨timeout, rfl⟩), (ha hsure).pending⟩
    obtain ⟨M', hM'⟩ := ht.attuned_of_sure hf hbegan
    refine ⟨⟨R, ht⟩, hanswer, M', fun hsure => ?_⟩
    obtain ⟨hattuned, hwaits, hM⟩ := hM' hsure
    exact ⟨hattuned, hM ▸ Multiset.le_add_right .., fun h => ⟨h, timeout, hwaits⟩⟩

theorem reaches_awaitAcks (hf : sure → app.client.Faithful told b₀)
    (hd : app.Discreet told sure V s.producer.hooks) (ha : sure → app.Attuned told b₀ [] M s) :
    Act.Reaches sure (fun l d => (app.surroundings l d).awaitAcks) s fun r t =>
      (∃ R, app.Meanwhile told V [] s [] R t) ∧
        match r with
        | .ok () => t.producer.counters.pending = 0
        | .error e => app.Excused e := by
  refine .of_eq (fun _ _ => Work.producer_bind ..) ?_
  refine .loop (app.client.Flushed told)
    (P := fun g _ u => g.1 = u.broker ∧ (∃ R, app.Meanwhile told V [] s [] R u) ∧
      (sure → app.Attuned told b₀ [] g.2 u))
    (fun hsure g _ u hu => ?_) (fun g _ u hu => ?_) (g := (s.broker, M)) ⟨rfl, ⟨[], .start⟩, ha⟩
  · obtain ⟨hg, -, ha⟩ := hu
    have hacc := (hf hsure).reporting (ha hsure).course
    rwa [← hg] at hacc
  obtain ⟨b, M⟩ := g
  obtain ⟨rfl, ⟨R, hu⟩, ha⟩ := hu
  refine .of_eq (fun _ _ => Work.producer_bind ..) ?_
  split
  · next hp => exact .pure ⟨⟨R, hu⟩, hp⟩
  · next hp =>
    have hflush := reaches_flush_attuned hf (hd.after hu.hooks) ha s.producer.settings.pollInterval
    refine hflush.bind fun answer t ht => ?_
    obtain ⟨⟨R', ht⟩, hanswer, M', hM'⟩ := ht
    have ht := ht.of_flush
    have hgo : ∃ g' : β × Multiset Message, (g'.1 = t.broker ∧
        (∃ R, app.Meanwhile told V [] s [] R t) ∧ (sure → app.Attuned told b₀ [] g'.2 t)) ∧
        (sure → app.client.Flushed told g' (u.broker, M)) := by
      refine ⟨(t.broker, M'), ⟨rfl, ⟨_, hu.trans ht⟩, fun hs => (hM' hs).1⟩, fun hs => ?_⟩
      refine (hM' hs).2.2 fun hzero => hp ?_
      rw [(ha hs).pending, hzero, Multiset.card_zero]
    cases answer with
    | ok _ => exact .pure hgo
    | error e =>
      dsimp only
      split
      · exact .pure hgo
      · next he => exact .pure ⟨⟨_, hu.trans ht⟩, e, rfl, Bool.eq_false_iff.mpr he, hanswer⟩

/-- From `s` on things went on, and last of all a flush of the broker. -/
def Flushes (app : Application β κ α ο) (told : β → β → Prop) (V : Verdicts) (s t : World β κ α) :
    Prop :=
  ∃ R R' u timeout, app.Meanwhile told V [] s [] R u ∧
    app.Meanwhile told V [app.client.flush timeout] (u.noted (.flushBegan timeout)) [] R' t

theorem Flushes.meanwhile (h : app.Flushes told V s t) :
    ∃ R, app.Meanwhile told V [] s [] R t := by
  obtain ⟨R, R', u, timeout, hu, ht⟩ := h
  exact ⟨_, hu.trans ht.of_flush⟩

theorem reaches_awaitAcksFor (hf : sure → app.client.Faithful told b₀)
    (hd : app.Discreet told sure V s.producer.hooks) (ha : sure → app.Attuned told b₀ [] M s)
    (timeout : Span) :
    Act.Reaches sure (fun l d => (app.surroundings l d).awaitAcksFor timeout) s fun r t =>
      app.Flushes told V s t ∧ ∀ e, r = .error e → app.Excused e := by
  refine .of_eq (fun _ _ => Site.readClock_bind ..) ?_
  refine .loop (app.client.Flushed told)
    (P := fun g _ u => g.1 = u.broker ∧ (∃ R, app.Meanwhile told V [] s [] R u) ∧
      (sure → app.Attuned told b₀ [] g.2 u))
    (fun hsure g _ u hu => ?_) (fun g left u hu => ?_) (g := (s.broker, M))
    ⟨rfl, ⟨[], Meanwhile.start.beside (.later ..)⟩, fun hs => ⟨(ha hs).course, (ha hs).pending⟩⟩
  · obtain ⟨hg, -, ha⟩ := hu
    have hacc := (hf hsure).reporting (ha hsure).course
    rwa [← hg] at hacc
  obtain ⟨b, M⟩ := g
  obtain ⟨rfl, ⟨R, hu⟩, ha⟩ := hu
  refine (reaches_flush_attuned hf (hd.after hu.hooks) ha left).bind fun answer t ht => ?_
  obtain ⟨⟨R', ht⟩, hanswer, M', hM'⟩ := ht
  have hflushes {clock : Clock} : app.Flushes told V s (t.turned t.broker clock) :=
    ⟨R, R', u, left, hu, ht.beside (.later t clock)⟩
  cases answer with
  | error e =>
    dsimp only
    split
    · exact .of_eq (fun _ _ => Work.producer_bind ..) (.pure ⟨hflushes, by simp⟩)
    · next he =>
      refine .pure ⟨hflushes, fun e' he' => ?_⟩
      obtain rfl := Except.error.inj he'
      exact ⟨e, rfl, Bool.eq_false_iff.mpr he, hanswer⟩
  | ok _ =>
    refine .of_eq (fun _ _ => Site.readClock_bind ..) ?_
    refine .of_eq (fun _ _ => Work.producer_bind ..) ?_
    have hlater := (hu.trans ht.of_flush).beside (.later t t.clock.read.2)
    split
    · exact .pure ⟨hflushes, by simp⟩
    · next hgo =>
      -- A round goes on only if something is still pending.
      have hp : t.producer.counters.pending ≠ 0 := by
        intro hp
        simp [hp] at hgo
      refine .pure ⟨(t.broker, M'), ⟨rfl, ⟨_, hlater⟩, fun hs => ?_⟩, fun hs => ?_⟩
      · exact ⟨(hM' hs).1.course, (hM' hs).1.pending⟩
      · obtain ⟨hattuned, hle, hflushed⟩ := hM' hs
        refine hflushed fun hzero => hp ?_
        rw [hattuned.pending, Multiset.card_eq_zero, ← Multiset.le_zero, ← hzero]
        exact hle

end Application

end Outbox
