import Outbox.Proofs.Custody
import Outbox.Proofs.Meets

/-! Hooks that leave the producer alone. Such a hook may look around, think and change its own
    state, and do to the broker what it is allowed to do; for the producer nothing has happened when
    it comes back. So what the producer does around the calls of its hooks is what it would do
    without them, except that the hooks answer. Main statements: what comes of a report and of a
    refusal, one case for each way in which it may end. -/

namespace Outbox

variable {β κ α : Type}

/-- What was not reported yet, was delivered, was dropped, and is sent again. -/
def Counters.outcomes (c : Counters) : Nat × Nat × Nat × Nat :=
  (c.pending, c.produced, c.dropped, c.retries)

theorem Counters.outcomes_mark {c d : Counters} (h : c.outcomes = d.outcomes) (k : Mark) :
    (c.mark k).outcomes = (d.mark k).outcomes := by
  simp only [outcomes, Prod.mk.injEq] at h ⊢
  obtain ⟨hpending, hproduced, hdropped, hretries⟩ := h
  cases k <;> simp [mark, hpending, hproduced, hdropped, hretries]

/-- The mark counts no outcome. -/
def Mark.isAside : Mark → Bool
  | queueFull | flushBegan | flushEnded => true
  | _ => false

theorem Counters.outcomes_of_isAside {k : Mark} (hk : k.isAside = true) (c : Counters) :
    (c.mark k).outcomes = c.outcomes := by
  cases k <;> simp_all [Mark.isAside, mark, outcomes]

/-- The producers have the same outcomes and the same before them; they differ at most in how often
    they tried, and in how they keep the same trackers. -/
structure Producer.Like (p q : Producer κ) : Prop where
  settings : q.settings = p.settings
  tracking : q.tracking = p.tracking
  regular : q.regular = p.regular
  retry : q.retry = p.retry
  hooks : q.hooks = p.hooks
  outcomes : q.counters.outcomes = p.counters.outcomes
  lookup : ∀ X, q.trackers.lookup? X = p.trackers.lookup? X

theorem Producer.Like.refl (p : Producer κ) : p.Like p :=
  ⟨rfl, rfl, rfl, rfl, rfl, rfl, fun _ => rfl⟩

/-- What hooks may do to the broker. -/
structure Leeway (β : Type) where
  allows : β → β → Prop
  refl : ∀ b, allows b b
  trans : ∀ {b b' b''}, allows b b' → allows b' b'' → allows b b''

/-- What hooks may answer. -/
abbrev Verdicts := HookKind → Message → BrokerError → Bool → Prop

namespace Site

/-- The world with the message in front of the retry buffer. -/
def requeued (s : World β κ α) (m : Message) : World β κ α :=
  s.rebuffered s.producer.regular (s.producer.retry.pushFront m)

/-- The world with the message at the end of the retry buffer. -/
def deferred (s : World β κ α) (m : Message) : World β κ α :=
  s.rebuffered s.producer.regular (s.producer.retry.pushBack m)

/-- Nothing has happened for the producer, and to the broker what is allowed. -/
structure Unmoved (D : Leeway β) (s t : World β κ α) : Prop where
  like : s.producer.Like t.producer
  broker : D.allows s.broker t.broker
  departed : ∀ ways, departed ways t.journal = departed ways s.journal

namespace Unmoved

variable {D : Leeway β} {s t u : World β κ α}

theorem refl (s : World β κ α) : s.Unmoved D s :=
  ⟨.refl _, D.refl _, fun _ => rfl⟩

theorem trans (h : s.Unmoved D t) (h' : t.Unmoved D u) : s.Unmoved D u := by
  obtain ⟨⟨hsettings, htracking, hregular, hretry, hhooks, houtcomes, hlookup⟩, hb, hd⟩ := h
  obtain ⟨hl', hb', hd'⟩ := h'
  refine ⟨⟨hl'.settings.trans hsettings, hl'.tracking.trans htracking, hl'.regular.trans hregular,
    hl'.retry.trans hretry, hl'.hooks.trans hhooks, hl'.outcomes.trans houtcomes,
 fun X => (hl'.lookup X).trans (hlookup X)⟩, D.trans hb hb',
    fun ways => (hd' ways).trans (hd ways)⟩

theorem find? (h : s.Unmoved D t) (m : Message) :
    t.producer.trackers.find? m = s.producer.trackers.find? m := by
  simp only [TrackerTable.find?_eq, h.like.lookup]

theorem grants (h : s.Unmoved D t) (id : TrackingId) : t.grants id = s.grants id := by
  simp only [Site.grants, TrackerTable.tracker?_eq, h.like.lookup]

theorem receipt (h : s.Unmoved D t) (id : TrackingId) (slot : Nat) :
    t.receipt id slot = s.receipt id slot := by
  simp only [Site.receipt, TrackerTable.tracker?_eq, h.like.lookup]

/-! ### What makes no difference -/

/-- No message leaves by the event. -/
theorem note {e : Event} (he : ∀ ways, e.leaving ways = none) : s.Unmoved D (s.noted e) := by
  refine ⟨.refl _, D.refl _, fun ways => ?_⟩
  rw [journal_noted, departed_cons, event_entry, he]
  exact zero_add _

theorem mark {k : Mark} (hk : k.isAside = true) : s.Unmoved D (s.marked k) :=
  ⟨⟨rfl, rfl, rfl, rfl, rfl, Counters.outcomes_of_isAside hk _, fun _ => rfl⟩, D.refl _,
    fun _ => rfl⟩

theorem of_broker {b : β} (hb : D.allows s.broker b) : s.Unmoved D (s.brokered b) :=
  ⟨.refl _, hb, fun _ => rfl⟩

theorem turn {b : β} (hb : D.allows s.broker b) (clock : Clock) : s.Unmoved D (s.turned b clock) :=
  ⟨.refl _, hb, fun _ => rfl⟩

/-- A refusal takes back what the offer counted. -/
theorem refuse {b : β} (hb : D.allows s.broker b) (m : Message) (e : BrokerError) :
    s.Unmoved D (s.refused b m e) := by
  refine ⟨⟨rfl, rfl, rfl, rfl, rfl, rfl, fun _ => rfl⟩, hb, fun ways => ?_⟩
  rw [journal_refused, departed_cons]
  exact zero_add _

/-- A claim in vain makes no difference. -/
theorem vain {id : TrackingId} (hg : s.grants id = none) :
    s.Unmoved D (s.retracked (·.update id (·.claimRetry.2))) := by
  refine ⟨⟨rfl, rfl, rfl, rfl, rfl, rfl, fun X => ?_⟩, D.refl _, fun _ => rfl⟩
  exact s.trackers.lookup?_claim_of_none id X hg

/-! ### What is done in both worlds alike -/

theorem marked (h : s.Unmoved D t) (k : Mark) : (s.marked k).Unmoved D (t.marked k) := by
  obtain ⟨⟨hsettings, htracking, hregular, hretry, hhooks, houtcomes, hlookup⟩, hb, hd⟩ := h
  exact ⟨⟨hsettings, htracking, hregular, hretry, hhooks, Counters.outcomes_mark houtcomes k,
    hlookup⟩, hb, hd⟩

theorem noted (h : s.Unmoved D t) (e : Event) : (s.noted e).Unmoved D (t.noted e) := by
  obtain ⟨hlike, hb, hd⟩ := h
  refine ⟨hlike, hb, fun ways => ?_⟩
  rw [journal_noted, journal_noted, departed_cons, departed_cons, hd, event_entry, event_entry]

theorem brokered (h : s.Unmoved D t) {b b' : β} (hb : D.allows b b') :
    (s.brokered b).Unmoved D (t.brokered b') :=
  ⟨h.like, hb, h.departed⟩

theorem accepted (h : s.Unmoved D t) {b b' : β} (hb : D.allows b b') (m : Message) :
    (s.accepted b m).Unmoved D (t.accepted b' m) :=
  ((h.marked .offered).brokered hb).noted _

theorem released (h : s.Unmoved D t) (m : Message) :
    (s.retracked (·.release m)).Unmoved D (t.retracked (·.release m)) := by
  obtain ⟨⟨hsettings, htracking, hregular, hretry, hhooks, houtcomes, hlookup⟩, hb, hd⟩ := h
  refine ⟨⟨hsettings, htracking, hregular, hretry, hhooks, houtcomes, fun X => ?_⟩, hb, hd⟩
  simp [TrackerTable.lookup?_release, hlookup]

theorem updated (h : s.Unmoved D t) (id : TrackingId) (f : Tracker → Tracker) :
    (s.retracked (·.update id f)).Unmoved D (t.retracked (·.update id f)) := by
  obtain ⟨⟨hsettings, htracking, hregular, hretry, hhooks, houtcomes, hlookup⟩, hb, hd⟩ := h
  refine ⟨⟨hsettings, htracking, hregular, hretry, hhooks, houtcomes, fun X => ?_⟩, hb, hd⟩
  simp [TrackerTable.lookup?_update, hlookup]

theorem rebuffered (h : s.Unmoved D t) (regular retry : Buffer) :
    (s.rebuffered regular retry).Unmoved D (t.rebuffered regular retry) := by
  obtain ⟨⟨hsettings, htracking, -, -, hhooks, houtcomes, hlookup⟩, hb, hd⟩ := h
  exact ⟨⟨hsettings, htracking, rfl, rfl, hhooks, houtcomes, hlookup⟩, hb, hd⟩

theorem delivered (h : s.Unmoved D t) (m : Message) : (s.delivered m).Unmoved D (t.delivered m) :=
  ((h.marked .produced).released m).noted _

theorem dropped (h : s.Unmoved D t) (m : Message) (e : BrokerError) :
    (s.dropped m e).Unmoved D (t.dropped m e) :=
  ((h.marked .dropped).released m).noted _

theorem granted (h : s.Unmoved D t) (id : TrackingId) (m : Message) :
    (s.granted id m).Unmoved D (t.granted id m) :=
  ((h.updated id _).marked .retried).noted _

theorem acknowledged (h : s.Unmoved D t) (k : Option TrackingId) (o : Outcome) (m : Message) :
    (s.acknowledged k o m).Unmoved D (t.acknowledged k o m) := by
  cases k with
  | none => exact (h.noted _).marked .acknowledged
  | some id => exact ((h.updated id _).noted _).marked .acknowledged

theorem requeued (h : s.Unmoved D t) (m : Message) : (s.requeued m).Unmoved D (t.requeued m) := by
  rw [Site.requeued, Site.requeued, h.like.regular, h.like.retry]
  exact h.rebuffered _ _

theorem deferred (h : s.Unmoved D t) (m : Message) : (s.deferred m).Unmoved D (t.deferred m) := by
  rw [Site.deferred, Site.deferred, h.like.regular, h.like.retry]
  exact h.rebuffered _ _

end Unmoved

end Site

/-! ### What comes of reports and refusals -/

/-- The hooks that are registered may answer as in `V`, and leave the producer alone. Where there is
    none, `V` has it that nothing stands in the way. -/
structure Surroundings.Polite (env : Surroundings β κ α) (sure : Prop) (D : Leeway β) (V : Verdicts)
    (hooks : Hooks κ) : Prop where
  called : ∀ {kind hook}, hooks.find? kind = some hook → ∀ m e (s : World β κ α),
    (env.call hook kind m e).Meets sure s fun v t =>
      s.Unmoved D t ∧ ∀ cause, e = some cause → V kind m cause v
  absent : ∀ {kind}, hooks.find? kind = none → ∀ m cause, V kind m cause true

/-- What comes of a report, apart from what the hooks do: the outcome, and the world before the
    tracker of the message is told. -/
inductive Received (V : Verdicts) (s : World β κ α) :
    DeliveryReport → Outcome → World β κ α → Prop where
  | delivered {m : Message} : Received V s ⟨m, none⟩ .delivered (s.delivered m)
  | requeued {m : Message} {e : BrokerError} {id : TrackingId} (hv : V .deliveryFailed m e true)
      (hm : s.producer.trackers.find? m = some id) (hg : s.grants id = some .async) :
      Received V s ⟨m, some e⟩ .retry ((s.granted id m).requeued m)
  | left {m : Message} {e : BrokerError} {id : TrackingId} (hv : V .deliveryFailed m e true)
      (hm : s.producer.trackers.find? m = some id) (hg : s.grants id = some .sync) :
      Received V s ⟨m, some e⟩ .retry (s.granted id m)
  | dropped {m : Message} {e : BrokerError}
      (hv : V .deliveryFailed m e false ∨
        ∀ id, s.producer.trackers.find? m = some id → s.grants id = none) :
      Received V s ⟨m, some e⟩ (.dropped e) (s.dropped m e)

/-- What comes of a refusal, apart from what the hooks do; and is the message sent again? -/
inductive Refused (V : Verdicts) (s : World β κ α) (m : Message) (e : BrokerError) :
    Bool → Bool → World β κ α → Prop where
  | deferred {id : TrackingId} {sender : Sender} (hv : V .sendFailed m e true)
      (hm : s.producer.trackers.find? m = some id) (hg : s.grants id = some sender) :
      Refused V s m e true true ((s.granted id m).deferred m)
  | kept {id : TrackingId} {sender : Sender} (hv : V .sendFailed m e true)
      (hm : s.producer.trackers.find? m = some id) (hg : s.grants id = some sender) :
      Refused V s m e false true (s.granted id m)
  | dropped {requeue : Bool}
      (hv : V .sendFailed m e false ∨
        ∀ id, s.producer.trackers.find? m = some id → s.grants id = none) :
      Refused V s m e requeue false (s.dropped m e)

section

variable {D : Leeway β} {V : Verdicts} {s s' w : World β κ α}

/-- What comes of a report is the same in both worlds. -/
theorem Received.of_unmoved {r : DeliveryReport} {o : Outcome} (h : s.Unmoved D s')
    (hw : Received V s' r o w) : ∃ w', Received V s r o w' ∧ w'.Unmoved D w := by
  cases hw with
  | delivered => exact ⟨_, .delivered, h.delivered _⟩
  | requeued hv hm hg =>
    rw [h.find?] at hm
    rw [h.grants] at hg
    exact ⟨_, .requeued hv hm hg, (h.granted _ _).requeued _⟩
  | left hv hm hg =>
    rw [h.find?] at hm
    rw [h.grants] at hg
    exact ⟨_, .left hv hm hg, h.granted _ _⟩
  | dropped hv =>
    simp only [h.find?, h.grants] at hv
    exact ⟨_, .dropped hv, h.dropped _ _⟩

/-- What comes of a refusal is the same in both worlds. -/
theorem Refused.of_unmoved {m : Message} {e : BrokerError} {requeue again : Bool}
    (h : s.Unmoved D s') (hw : Refused V s' m e requeue again w) :
    ∃ w', Refused V s m e requeue again w' ∧ w'.Unmoved D w := by
  cases hw with
  | deferred hv hm hg =>
    rw [h.find?] at hm
    rw [h.grants] at hg
    exact ⟨_, .deferred hv hm hg, (h.granted _ _).deferred _⟩
  | kept hv hm hg =>
    rw [h.find?] at hm
    rw [h.grants] at hg
    exact ⟨_, .kept hv hm hg, h.granted _ _⟩
  | dropped hv =>
    simp only [h.find?, h.grants] at hv
    exact ⟨_, .dropped hv, h.dropped _ _⟩

/-- The producer deals with reports and refusals by itself. -/
theorem Received.broker {r : DeliveryReport} {o : Outcome} (h : Received V s r o w) :
    w.broker = s.broker := by
  cases h <;> rfl

theorem Refused.broker {m : Message} {e : BrokerError} {requeue again : Bool}
    (h : Refused V s m e requeue again w) : w.broker = s.broker := by
  cases h <;> rfl

theorem Refused.pending {m : Message} {e : BrokerError} {requeue again : Bool}
    (h : Refused V s m e requeue again w) :
    w.producer.counters.pending = s.producer.counters.pending := by
  cases h <;> rfl

theorem Received.pending {r : DeliveryReport} {o : Outcome} (h : Received V s r o w) :
    w.producer.counters.pending = s.producer.counters.pending := by
  cases h <;> rfl

end

namespace Surroundings

variable {env : Surroundings β κ α} {sure : Prop} {D : Leeway β} {V : Verdicts} {s t : World β κ α}
  {kind : HookKind} {m : Message}

theorem Polite.after (henv : env.Polite sure D V s.producer.hooks) (h : s.Unmoved D t) :
    env.Polite sure D V t.producer.hooks := by
  rw [h.like.hooks]
  exact henv

theorem meets_fire (henv : env.Polite sure D V s.producer.hooks) (e : Option BrokerError) :
    (env.fire kind m e).Meets sure s fun v t =>
      s.Unmoved D t ∧ ∀ cause, e = some cause → V kind m cause (v.getD true) := by
  refine .of_eq (Work.producer_bind ..) ?_
  cases hk : s.producer.hooks.find? kind with
  | none => exact .pure ⟨.refl s, fun cause _ => henv.absent hk m cause⟩
  | some hook =>
    refine .of_eq (Work.record_bind ..) ((henv.called hk m e _).bind fun v t ht => ?_)
    obtain ⟨ht, hv⟩ := ht
    refine .of_eq (Work.record_bind ..) (.pure ⟨?_, hv⟩)
    exact (Site.Unmoved.note fun _ => rfl).trans (ht.trans (.note fun _ => rfl))

theorem meets_grantRetry (henv : env.Polite sure D V s.producer.hooks) {e : BrokerError}
    {f : World β κ α → Option TrackingId} {tracker : Work β κ α (Option TrackingId)}
    (htracker : ∀ s, tracker s = some (f s, s)) (hf : ∀ {t}, s.Unmoved D t → f t = f s) :
    (env.grantRetry kind m e tracker).Meets sure s fun r t =>
      match r with
      | some sender => ∃ id, V kind m e true ∧ f s = some id ∧ s.grants id = some sender ∧
          (s.granted id m).Unmoved D t
      | none => (V kind m e false ∨ ∀ id, f s = some id → s.grants id = none) ∧
          s.Unmoved D t := by
  refine (meets_fire henv (some e)).bind fun v t ht => ?_
  obtain ⟨ht, hv⟩ := ht
  have hv := hv e rfl
  cases hallowed : v.getD true with
  | false => exact .pure ⟨.inl (hallowed ▸ hv), ht⟩
  | true =>
    have hk : tracker t = some (f s, t) := by rw [htracker, hf ht]
    refine .step hk ?_
    cases hid : f s with
    | none => exact .pure ⟨.inr (by simp), ht⟩
    | some id =>
      refine .of_eq (Work.claimRetry_bind ..) ?_
      rw [ht.grants]
      cases hg : s.grants id with
      | none =>
        refine .pure ⟨.inr fun X hX => ?_, ht.trans (.vain ((ht.grants id).trans hg))⟩
        obtain rfl := Option.some_inj.mp hX
        exact hg
      | some sender =>
        refine .of_eq (Work.mark_bind ..) (.of_eq (Work.record_bind ..) (.pure ?_))
        exact ⟨id, hallowed ▸ hv, rfl, hg, ht.granted id m⟩

theorem meets_outcome (henv : env.Polite sure D V s.producer.hooks) (r : DeliveryReport) :
    (env.outcome (s.producer.trackers.find? r.message) r).Meets sure s fun o t =>
      ∃ w, Received V s r o w ∧ w.Unmoved D t := by
  obtain ⟨m, failure⟩ := r
  cases failure with
  | none =>
    refine (meets_fire henv none).bind fun v t ht => ?_
    refine .of_eq (Work.mark_bind ..) (.of_eq (Work.release_bind ..) ?_)
    exact .of_eq (Work.record_bind ..) (.pure ⟨_, .delivered, ht.1.delivered m⟩)
  | some e =>
    refine (meets_grantRetry henv (f := fun _ => s.producer.trackers.find? m) (fun _ => rfl)
      fun _ => rfl).bind fun g t ht => ?_
    rcases g with _ | _ | _
    · obtain ⟨hv, ht⟩ := ht
      have hpolite := henv.after ht
      refine .of_eq (drop_bind ..) ?_
      refine (meets_fire (s := t.dropped m e) hpolite (some e)).bind fun v u hu => .pure ?_
      exact ⟨_, .dropped hv, (ht.dropped m e).trans hu.1⟩
    · obtain ⟨id, hv, hm, hg, ht⟩ := ht
      exact .pure ⟨_, .left hv hm hg, ht⟩
    · obtain ⟨id, hv, hm, hg, ht⟩ := ht
      refine .of_eq (Work.modifyProducer_bind ..) (.pure ?_)
      exact ⟨_, .requeued hv hm hg, ht.requeued m⟩

/-- A report is dealt with in one of four ways. -/
theorem meets_receive (henv : env.Polite sure D V s.producer.hooks) (r : DeliveryReport) :
    (env.receive r).Meets sure s fun _ t => ∃ o w, Received V s r o w ∧
      (w.acknowledged (s.producer.trackers.find? r.message) o r.message).Unmoved D t := by
  refine .of_eq (Work.producer_bind ..) ((meets_outcome henv r).bind fun o t ht => ?_)
  obtain ⟨w, hw, ht⟩ := ht
  have ht := ht.acknowledged (s.producer.trackers.find? r.message) o r.message
  generalize s.producer.trackers.find? r.message = k at ht ⊢
  -- What is left to do comes to one change of the world.
  refine .of_eq (y := pure ()) (u := t.acknowledged k o r.message) ?_ (.pure ⟨o, w, hw, ht⟩)
  cases k <;> rfl

/-- A refusal is dealt with in one of three ways. -/
theorem meets_receiveRefusal (henv : env.Polite sure D V s.producer.hooks) (e : BrokerError)
    (requeue : Bool) :
    (env.receiveRefusal m e requeue).Meets sure s fun again t =>
      ∃ w, Refused V s m e requeue again w ∧ w.Unmoved D t := by
  refine (meets_grantRetry henv (f := fun s => s.producer.trackers.find? m) (fun _ => rfl)
    fun ht => ht.find? m).bind fun g t ht => ?_
  cases g with
  | some sender =>
    obtain ⟨id, hv, hm, hg, ht⟩ := ht
    cases requeue with
    | true =>
      refine .of_eq (Work.modifyProducer_bind ..) (.pure ?_)
      exact ⟨_, .deferred hv hm hg, ht.deferred m⟩
    | false => exact .pure ⟨_, .kept hv hm hg, ht⟩
  | none =>
    obtain ⟨hv, ht⟩ := ht
    have hpolite := henv.after ht
    refine .of_eq (drop_bind ..) ?_
    refine (meets_fire (s := t.dropped m e) hpolite (some e)).bind fun v u hu => .pure ?_
    exact ⟨_, .dropped hv, (ht.dropped m e).trans hu.1⟩

end Surroundings

end Outbox
