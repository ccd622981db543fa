import Outbox.Proofs.Polling

/-! One attempt of a caller that waits, at a broker in memory with nothing in its queue. The message
    is refused, or it is taken, and then the flush that the caller waits for reports it and nothing
    else. So when the attempt is over everything is at rest again. Main statement: an attempt ends
    in one of five worlds, each told by what became of the message. -/

namespace Outbox

variable {κ α : Type}

namespace Site

/-- The broker is not paused and has nothing in its queue, and nothing is pending. -/
structure Resting (s : World MemoryBroker κ α) : Prop where
  awake : s.broker.paused = false
  empty : s.broker.inFlight.toList = []
  pending : s.producer.counters.pending = 0

/-- The message has a live tracker, which is a waiting caller's. -/
def Engaged (s : World MemoryBroker κ α) (id : TrackingId) (m : Message) : Prop :=
  m.tracking = some id ∧
    ∃ k, s.trackers.lookup? id = some ⟨k, true⟩ ∧ k.sender = .sync

/-- The world in which a slot was opened. -/
def armed (s : World MemoryBroker κ α) (id : TrackingId) : World MemoryBroker κ α :=
  s.retracked (·.update id (·.arm.2))

/-- The world after the broker took the message, and took it out of its queue to report it. -/
def flown (s : World MemoryBroker κ α) (m : Message) : World MemoryBroker κ α :=
  (s.accepted (s.broker.taken m) m).emptied

/-- The world after the broker delivered the message. -/
def landed (s : World MemoryBroker κ α) (m : Message) : World MemoryBroker κ α :=
  s.brokered { s.broker with delivered := s.broker.delivered.pushBack m }

section

variable (s : World MemoryBroker κ α) (id : TrackingId) (m : Message)

@[simp] theorem broker_armed : (s.armed id).broker = s.broker := rfl
@[simp] theorem broker_flown : (s.flown m).broker = (s.broker.taken m).emptied := rfl
@[simp] theorem broker_landed : (s.landed m).broker =
    { s.broker with delivered := s.broker.delivered.pushBack m } := rfl

end

theorem Unmoved.flown {sure : Prop} {G : Drift sure} {s t : World MemoryBroker κ α}
    (h : s.Unmoved (MemoryBroker.leeway G) t) (m : Message) :
    (s.flown m).Unmoved (MemoryBroker.leeway G) (t.flown m) :=
  (h.accepted (h.broker.taken m) m).emptied

theorem Unmoved.landed {sure : Prop} {G : Drift sure} {s t : World MemoryBroker κ α}
    (h : s.Unmoved (MemoryBroker.leeway G) t) (m : Message) :
    (s.landed m).Unmoved (MemoryBroker.leeway G) (t.landed m) := by
  refine h.brokered ?_
  obtain ⟨hlimits, hflight, hsent, hdelivered, hawake, hfaults⟩ := h.broker
  refine ⟨hlimits, hflight, hsent, ?_, hawake, hfaults⟩
  simp only [Line.toList_pushBack, hdelivered]

theorem Resting.of_unmoved {sure : Prop} {G : Drift sure} {s t : World MemoryBroker κ α}
    (hs : s.Resting) (h : s.Unmoved (MemoryBroker.leeway G) t) : t.Resting := by
  refine ⟨h.broker.awake hs.awake, h.broker.inFlight.trans hs.empty, ?_⟩
  have hp : t.producer.counters.pending = s.producer.counters.pending :=
    congrArg (·.1) h.like.outcomes
  exact hp.trans hs.pending

end Site

/-- Why the delivery of `m` fails, if it fails. -/
def Faults.failure? (f : Faults) (m : Message) : Option BrokerError :=
  if 0 < f.failNext then some (.undelivered "injected delivery failure")
  else if f.failWhere.any (· m) then some (.undelivered s!"delivery to '{m.topic}' refused")
  else none

namespace MemoryBroker

section

variable {sure : Prop}

/-- How an attempt ends that is begun in `s`, apart from what the hooks do. -/
inductive Attempted (G : Drift sure) (V : Verdicts) (s : World MemoryBroker κ α) (id : TrackingId)
    (m : Message) : Unit ⊕ Except ProducerError Unit → World MemoryBroker κ α → Prop where
  /-- Refused, and to be sent again. -/
  | kept {b : MemoryBroker} {e : BrokerError} (hb : Akin G.may s.broker b)
      (hr : b.refusal? m = some e) (hv : V .sendFailed m e true) (hg : s.grants id ≠ none) :
      Attempted G V s id m (.inl ()) ((s.armed id).granted id m)
  /-- Refused and dropped. -/
  | refused {b : MemoryBroker} {e : BrokerError} (hb : Akin G.may s.broker b)
      (hr : b.refusal? m = some e) (hv : V .sendFailed m e false ∨ s.grants id = none) :
      Attempted G V s id m (.inr (.error (.refused e))) ((s.armed id).dropped m e)
  | delivered {b : MemoryBroker} {f : Faults} (hb : Akin G.may s.broker b)
      (hr : b.refusal? m = none) (hf : G.may s.broker.faults f) (hd : f.failure? m = none) :
      Attempted G V s id m (.inr (.ok ()))
        ((((((s.armed id).flown m).landed m).delivered m).acknowledged
          (some id) .delivered m).looked id (s.nextSlot id))
  /-- Not delivered, and to be sent again. -/
  | left {b : MemoryBroker} {f : Faults} {e : BrokerError} (hb : Akin G.may s.broker b)
      (hr : b.refusal? m = none) (hf : G.may s.broker.faults f) (hd : f.failure? m = some e)
      (hv : V .deliveryFailed m e true) (hg : s.grants id ≠ none) :
      Attempted G V s id m (.inl ())
        (((((s.armed id).flown m).granted id m).acknowledged (some id) .retry m).looked
          id (s.nextSlot id))
  /-- Not delivered and dropped. -/
  | lost {b : MemoryBroker} {f : Faults} {e : BrokerError} (hb : Akin G.may s.broker b)
      (hr : b.refusal? m = none) (hf : G.may s.broker.faults f) (hd : f.failure? m = some e)
      (hv : V .deliveryFailed m e false ∨ s.grants id = none) :
      Attempted G V s id m (.inr (.error (.undelivered e)))
        (((((s.armed id).flown m).dropped m e).acknowledged (some id) (.dropped e) m).looked
          id (s.nextSlot id))

/-- What the report of a delivery says, and what has changed then. -/
theorem deliver_eq (G : Drift sure) (m : Message) (b : MemoryBroker) :
    (b.deliver m).1 = ⟨m, b.faults.failure? m⟩ ∧
      if b.faults.failure? m = none then
        (b.deliver m).2 = { b with delivered := b.delivered.pushBack m }
      else Akin G.may b (b.deliver m).2 := by
  unfold deliver Faults.failure?
  split
  · exact ⟨rfl, ⟨rfl, rfl, rfl, rfl, id, G.failed _⟩⟩
  · split
    · exact ⟨rfl, (leeway G).refl b⟩
    · exact ⟨rfl, rfl⟩

variable {call : κ → HookKind → Message → Option BrokerError → Work MemoryBroker κ α Bool}
  {limit : Nat} {G : Drift sure} {V : Verdicts} {s t : World MemoryBroker κ α} {id : TrackingId}
  {m : Message}

/-! ### The report -/

/-- How a message is reported that was taken in `s`, and what comes of it. -/
def Told (G : Drift sure) (V : Verdicts) (s : World MemoryBroker κ α) (m : Message)
    (t : World MemoryBroker κ α) : Prop :=
  ∃ f o w, G.may s.broker.faults f ∧
    Received V (if f.failure? m = none then (s.flown m).landed m else s.flown m)
      ⟨m, f.failure? m⟩ o w ∧
    (w.acknowledged (s.producer.trackers.find? m) o m).Unmoved (leeway G) t

/-- The message is to be reported, and nothing else is; or it has been reported. -/
def Aloft (G : Drift sure) (V : Verdicts) (s : World MemoryBroker κ α) (m : Message)
    (batch : List Message) (t : World MemoryBroker κ α) : Prop :=
  batch = [m] ∧ (s.flown m).Unmoved (leeway G) t ∨ batch = [] ∧ Told G V s m t

theorem aloft_nil (h : Aloft G V s m [] t) : Told G V s m t := by
  rcases h with ⟨hb, -⟩ | ⟨-, h⟩
  · exact absurd hb.symm (List.cons_ne_nil _ _)
  · exact h

/-- Nothing is at the broker any more, and nothing is pending, when the message was reported. -/
theorem Told.resting (hs : s.Resting) (h : Told G V s m t) : t.Resting := by
  obtain ⟨f, o, w, -, hw, ht⟩ := h
  have hbroker : (w.acknowledged (s.producer.trackers.find? m) o m).broker =
      (if f.failure? m = none then (s.flown m).landed m else s.flown m).broker :=
    (Site.broker_acknowledged ..).trans hw.broker
  refine ⟨?_, ?_, ?_⟩
  · refine ht.broker.awake ?_
    rw [hbroker]
    split <;> exact hs.awake
  · rw [ht.broker.inFlight, hbroker]
    split <;> rfl
  · have hp : t.producer.counters.pending =
        (w.acknowledged (s.producer.trackers.find? m) o m).producer.counters.pending :=
      congrArg (·.1) ht.like.outcomes
    have hx : (if f.failure? m = none then (s.flown m).landed m
        else s.flown m).producer.counters.pending = s.producer.counters.pending + 1 := by
      split <;> rfl
    rw [hp, Site.counters_acknowledged, Counters.mark, hw.pending, hx, hs.pending]

theorem keeps_aloft (hs : s.Resting)
    (hpolite : (surroundings call limit).Polite sure (leeway G) V s.producer.hooks) :
    Keeps (surroundings call limit) sure G (Aloft G V s m) where
  unmoved h ht := by
    rcases h with ⟨hb, h⟩ | ⟨hb, f, o, w, hf, hw, h⟩
    · exact .inl ⟨hb, h.trans ht⟩
    · exact .inr ⟨hb, f, o, w, hf, hw, h.trans ht⟩
  report := by
    rintro n batch u h
    rcases h with ⟨hb, h⟩ | ⟨hb, -⟩
    case inr => exact absurd hb (List.cons_ne_nil _ _)
    obtain ⟨rfl, rfl⟩ := List.cons.inj hb
    obtain ⟨hreport, hbroker⟩ := deliver_eq G n u.broker
    have hx : (if u.broker.faults.failure? n = none then (s.flown n).landed n
        else s.flown n).Unmoved (leeway G) (u.brokered (u.broker.deliver n).2) := by
      split at hbroker
      · next hf =>
        rw [if_pos hf, hbroker]
        exact h.landed n
      · next hf =>
        rw [if_neg hf]
        exact h.trans (.of_broker hbroker)
    have hhooks : (surroundings call limit).Polite sure (leeway G) V
        (u.brokered (u.broker.deliver n).2).producer.hooks :=
      Surroundings.Polite.after (s := s.flown n) (t := u) hpolite h
    rw [hreport]
    refine (Surroundings.meets_receive hhooks _).mono fun _ t ht => ?_
    obtain ⟨o, w, hw, ht⟩ := ht
    obtain ⟨w', hw', hww⟩ := hw.of_unmoved hx
    have hk : u.producer.trackers.find? n = s.producer.trackers.find? n := h.find? n
    refine .inr ⟨rfl, _, o, w', h.broker.faults, hw', (hww.acknowledged _ o n).trans ?_⟩
    rw [← hk]
    exact ht
  empty h := ((aloft_nil h).resting hs).empty

theorem Told.of_unmoved (h : s.Unmoved (leeway G) t) {u : World MemoryBroker κ α}
    (ht : Told G V t m u) : Told G V s m u := by
  obtain ⟨f, o, w, hf, hw, hu⟩ := ht
  have hx : (if f.failure? m = none then (s.flown m).landed m else s.flown m).Unmoved (leeway G)
      (if f.failure? m = none then (t.flown m).landed m else t.flown m) := by
    split
    · exact (h.flown m).landed m
    · exact h.flown m
  obtain ⟨w', hw', hww⟩ := hw.of_unmoved hx
  rw [h.find?] at hu
  exact ⟨f, o, w', G.trans h.broker.faults hf, hw', (hww.acknowledged _ o m).trans hu⟩

/-- The flush that a caller waits for reports the message and nothing else. -/
theorem meets_told
    (hpolite : (surroundings call limit).Polite sure (leeway G) V s.producer.hooks)
    (hs : s.Resting) (hlimit : sure → 5 < limit) :
    (surroundings call limit).awaitAcks.Meets sure (s.accepted (s.broker.taken m) m) fun r t =>
      r = .ok () ∧ Told G V s m t := by
  have hqueue : (s.broker.taken m).inFlight.toList = [m] := by
    rw [taken, Line.toList_pushBack, hs.empty, List.nil_append]
  have hsize : (s.broker.taken m).inFlight.size = 1 := by
    rw [← Line.length_toList, hqueue, List.length_singleton]
  have hq : Queued (Aloft G V s m) (s.accepted (s.broker.taken m) m) := by
    refine ⟨hs.awake, .inl ⟨hqueue, .refl _⟩⟩
  refine (meets_awaitAcks (keeps_aloft hs hpolite) hq (Nat.succ_ne_zero _)
    (fun t ht => ((aloft_nil ht).resting hs).pending) fun hsure => ?_).mono
    fun r t ht => ⟨ht.1, aloft_nil ht.2⟩
  rw [Site.broker_accepted, hsize]
  exact hlimit hsure

/-! ### The attempt -/

theorem find?_of_engaged (he : s.Engaged id m) : s.producer.trackers.find? m = some id := by
  obtain ⟨hm, k, hk, -⟩ := he
  exact find?_of_entry hm hk

/-- The slot that was opened waits. -/
theorem engaged_armed (he : s.Engaged id m) :
    (s.armed id).Engaged id m ∧ ∃ k live, (s.armed id).trackers.lookup? id = some ⟨k, live⟩ ∧
      k.sender = .sync ∧ k.waits (s.nextSlot id) = true := by
  obtain ⟨hm, k, hk, hsender⟩ := he
  have hlookup : (s.armed id).trackers.lookup? id = some ⟨k.arm.2, true⟩ := by
    rw [Site.armed, Site.trackers_retracked, TrackerTable.lookup?_update, if_pos rfl, hk]
    rfl
  refine ⟨⟨hm, _, hlookup, hsender⟩, _, _, hlookup, hsender, ?_⟩
  rw [nextSlot_eq hk]
  exact k.waits_arm

/-- To open a slot costs no retry. -/
theorem grants_armed (s : World MemoryBroker κ α) (id : TrackingId) :
    (s.armed id).grants id = s.grants id := by
  have hlookup : (s.armed id).producer.trackers.lookup? id =
      (s.producer.trackers.lookup? id).map (·.under (·.arm.2)) := by
    rw [Site.armed, Site.producer_retracked, TrackerTable.lookup?_update, if_pos rfl]
  rw [Site.grants, Site.grants, TrackerTable.tracker?_eq, TrackerTable.tracker?_eq, hlookup]
  cases s.producer.trackers.lookup? id with
  | none => rfl
  | some e => simp [Issued.under, Tracker.claimRetry_fst, Tracker.arm]

/-- A tracker whose slot waits is told the outcome. -/
theorem receipt_acknowledged {w : World MemoryBroker κ α} {k : Tracker} {live : Bool} {slot : Nat}
    {o : Outcome} (hk : w.trackers.lookup? id = some ⟨k, live⟩) (hw : k.waits slot = true) :
    (w.acknowledged (some id) o m).receipt id slot = .outcome o := by
  have hlookup : (w.acknowledged (some id) o m).trackers.lookup? id =
      some ⟨k.complete o, live⟩ := by
    rw [Site.trackers_acknowledged, Option.elim_some, TrackerTable.lookup?_update, if_pos rfl, hk]
    rfl
  rw [receipt_eq hlookup]
  exact k.receive_complete o hw

/-- The slot waits until the tracker is told. -/
theorem Received.waits {r : DeliveryReport} {o : Outcome} {w : World MemoryBroker κ α} {k : Tracker}
    {slot : Nat} {live : Bool} (h : Received V s r o w)
    (hk : s.trackers.lookup? id = some ⟨k, live⟩) (hw : k.waits slot = true) :
    ∃ k' live', w.trackers.lookup? id = some ⟨k', live'⟩ ∧ k'.waits slot = true := by
  cases h with
  | @delivered n =>
    rw [Site.trackers_delivered, TrackerTable.lookup?_release, hk]
    split
    · exact ⟨k, false, rfl, hw⟩
    · exact ⟨k, live, rfl, hw⟩
  | @dropped n e =>
    rw [Site.trackers_dropped, TrackerTable.lookup?_release, hk]
    split
    · exact ⟨k, false, rfl, hw⟩
    · exact ⟨k, live, rfl, hw⟩
  | @requeued n e X | @left n e X =>
    have hlookup := s.trackers.lookup?_update X id (·.claimRetry.2)
    rw [hk] at hlookup
    split at hlookup
    · exact ⟨_, _, hlookup, (k.waits_claimRetry slot).trans hw⟩
    · exact ⟨_, _, hlookup, hw⟩

/-- The caller finds in its slot what became of the message. -/
theorem receipt_of_told (he : s.Engaged id m) {b : MemoryBroker} (hb : Akin G.may s.broker b)
    (hr : b.refusal? m = none) (h : Told G V (s.armed id) m t) :
    ∃ o w, t.receipt id (s.nextSlot id) = .outcome o ∧ Attempted G V s id m
      (match o with
        | .retry => .inl ()
        | .delivered => .inr (.ok ())
        | .dropped e => .inr (.error (.undelivered e))) w ∧
      w.Unmoved (leeway G) (t.looked id (s.nextSlot id)) := by
  obtain ⟨hengaged, k, live, hk, hsender, hwaits⟩ := engaged_armed he
  obtain ⟨f, o, w, hf, hw, ht⟩ := h
  have hfind := find?_of_engaged hengaged
  rw [hfind] at ht
  have hwaits : ∃ k' live', w.trackers.lookup? id = some ⟨k', live'⟩ ∧
      k'.waits (s.nextSlot id) = true := by
    have hk : (if f.failure? m = none then ((s.armed id).flown m).landed m
        else (s.armed id).flown m).trackers.lookup? id = some ⟨k, live⟩ := by
      split <;> exact hk
    exact Received.waits hw hk hwaits
  obtain ⟨k', live', hk', hwaits⟩ := hwaits
  have hreceipt : t.receipt id (s.nextSlot id) = .outcome o := by
    rw [ht.receipt]
    exact receipt_acknowledged hk' hwaits
  refine ⟨o, _, hreceipt, ?_, ht.updated id _⟩
  cases hd : f.failure? m with
  | none =>
    simp only [hd, if_true] at hw
    cases hw with
    | delivered => exact .delivered hb hr hf hd
  | some e =>
    simp only [hd, reduceCtorEq, if_false] at hw
    cases hw with
    | @requeued _ _ X hv hm hg =>
      -- The tracker is the caller's, so the message is not put into the retry buffer.
      obtain rfl := Option.some_inj.mp (hfind.symm.trans hm)
      obtain ⟨k₁, live₁, hk₁, -, hasync⟩ := entry_of_grants hg
      obtain ⟨rfl, -⟩ := Issued.mk.inj (Option.some_inj.mp (hk.symm.trans hk₁))
      exact absurd (hsender.symm.trans hasync) (by simp)
    | @left _ _ X hv hm hg =>
      obtain rfl := Option.some_inj.mp (hfind.symm.trans hm)
      refine .left hb hr hf hd hv ?_
      rw [← grants_armed s id]
      exact fun hnone => Option.some_ne_none _ (hg.symm.trans hnone)
    | dropped hv =>
      refine .lost hb hr hf hd (hv.imp_right fun hg => ?_)
      rw [← grants_armed s id]
      exact hg id hfind

theorem meets_attempt
    (hpolite : (surroundings call limit).Polite sure (leeway G) V s.producer.hooks)
    (hs : s.Resting) (he : s.Engaged id m) (hcap : sure → 0 < s.broker.limits.capacity)
    (hlimit : sure → s.broker.faults.queueFullNext + 5 < limit) :
    ((surroundings call limit).attempt id m).Meets sure s fun o t =>
      ∃ w, Attempted G V s id m o w ∧ w.Unmoved (leeway G) t := by
  have hfind : (s.armed id).producer.trackers.find? m = some id :=
    find?_of_engaged (engaged_armed he).1
  have hpolls : Polls (surroundings call limit) sure G V
      fun u => (s.armed id).Unmoved (leeway G) u :=
    polls_idle hpolite hs.empty hs.awake hcap fun hsure => by
      have := hlimit hsure
      omega
  refine .of_eq (Work.arm_bind ..) ?_
  refine (meets_offer hpolls (.refl _) m fun hsure => ?_).bind fun answer t ht => ?_
  · have := hlimit hsure
    have hfull : (s.armed id).broker.fullness = s.broker.faults.queueFullNext :=
      fullness_of_empty hs.empty (hcap hsure)
    omega
  cases answer with
  | error e =>
    obtain ⟨ht, hr, -⟩ := ht
    refine (Surroundings.meets_receiveRefusal (hpolls.polite ht) e false).bind fun again u hu => ?_
    obtain ⟨w, hw, hu⟩ := hu
    obtain ⟨w', hw', hww⟩ := hw.of_unmoved ht
    have hu := hww.trans hu
    cases hw' with
    | kept hv hm hg =>
      rw [hfind, Option.some_inj] at hm
      subst hm
      have hg : s.grants id ≠ none := by
        rw [← grants_armed s id, hg]
        exact Option.some_ne_none _
      exact .pure ⟨_, .kept ht.broker hr hv hg, hu⟩
    | dropped hv =>
      refine .pure ⟨_, .refused ht.broker hr (hv.imp_right fun hg => ?_), hu⟩
      rw [← grants_armed s id]
      exact hg id hfind
  | ok _ =>
    obtain ⟨u, hu, hr, rfl⟩ := ht
    have hresting : u.Resting :=
      Site.Resting.of_unmoved (s := s.armed id) ⟨hs.awake, hs.empty, hs.pending⟩ hu
    refine (meets_told (hpolls.polite hu) hresting fun hsure => ?_).bind fun r t ht => ?_
    · have := hlimit hsure
      omega
    obtain ⟨rfl, ht⟩ := ht
    refine .of_eq (Work.look_bind ..) ?_
    obtain ⟨o, w, ho, hw, ht⟩ := receipt_of_told he hu.broker hr (ht.of_unmoved hu)
    rw [ho]
    cases o with
    | retry => exact .pure ⟨w, hw, ht⟩
    | delivered => exact .pure ⟨w, hw, ht⟩
    | dropped e => exact .pure ⟨w, hw, ht⟩

/-! ### What an attempt leaves alone -/

variable {o : Unit ⊕ Except ProducerError Unit} {w u : World MemoryBroker κ α}

/-- Buffers, settings and hooks are the same, and so is the broker, apart from what it did. -/
structure Stays (may : Faults → Faults → Prop) (s t : World MemoryBroker κ α) : Prop where
  settings : t.producer.settings = s.producer.settings
  tracking : t.producer.tracking = s.producer.tracking
  regular : t.producer.regular = s.producer.regular
  retry : t.producer.retry = s.producer.retry
  hooks : t.producer.hooks = s.producer.hooks
  limits : t.broker.limits = s.broker.limits
  faults : may s.broker.faults t.broker.faults

theorem Stays.trans (h : Stays G.may s t) (h' : Stays G.may t u) : Stays G.may s u := by
  obtain ⟨hsettings, htracking, hregular, hretry, hhooks, hlimits, hfaults⟩ := h
  exact ⟨h'.settings.trans hsettings, h'.tracking.trans htracking, h'.regular.trans hregular,
    h'.retry.trans hretry, h'.hooks.trans hhooks, h'.limits.trans hlimits,
    G.trans hfaults h'.faults⟩

theorem stays_of_unmoved (h : s.Unmoved (leeway G) t) : Stays G.may s t :=
  ⟨h.like.settings, h.like.tracking, h.like.regular, h.like.retry, h.like.hooks, h.broker.limits,
    h.broker.faults⟩

section

variable (G s)

theorem stays_retracked (f : TrackerTable → TrackerTable) : Stays G.may s (s.retracked f) :=
  ⟨rfl, rfl, rfl, rfl, rfl, rfl, G.refl _⟩

theorem stays_granted (id : TrackingId) (m : Message) : Stays G.may s (s.granted id m) :=
  ⟨rfl, rfl, rfl, rfl, rfl, rfl, G.refl _⟩

theorem stays_dropped (m : Message) (e : BrokerError) : Stays G.may s (s.dropped m e) :=
  ⟨rfl, rfl, rfl, rfl, rfl, rfl, G.refl _⟩

theorem stays_delivered (m : Message) : Stays G.may s (s.delivered m) :=
  ⟨rfl, rfl, rfl, rfl, rfl, rfl, G.refl _⟩

theorem stays_flown (m : Message) : Stays G.may s (s.flown m) :=
  ⟨rfl, rfl, rfl, rfl, rfl, rfl, G.refl _⟩

theorem stays_landed (m : Message) : Stays G.may s (s.landed m) :=
  ⟨rfl, rfl, rfl, rfl, rfl, rfl, G.refl _⟩

theorem stays_acknowledged (id : TrackingId) (o : Outcome) (m : Message) :
    Stays G.may s (s.acknowledged (some id) o m) :=
  ⟨rfl, rfl, rfl, rfl, rfl, rfl, G.refl _⟩

end

theorem Attempted.stays (h : Attempted G V s id m o w) : Stays G.may s w := by
  have harmed : Stays G.may s (s.armed id) := stays_retracked G s _
  cases h with
  | kept => exact harmed.trans (stays_granted ..)
  | refused => exact harmed.trans (stays_dropped ..)
  | delivered =>
    exact ((((harmed.trans (stays_flown ..)).trans (stays_landed ..)).trans
      (stays_delivered ..)).trans (stays_acknowledged ..)).trans (stays_retracked ..)
  | left =>
    exact (((harmed.trans (stays_flown ..)).trans (stays_granted ..)).trans
      (stays_acknowledged ..)).trans (stays_retracked ..)
  | lost =>
    exact (((harmed.trans (stays_flown ..)).trans (stays_dropped ..)).trans
      (stays_acknowledged ..)).trans (stays_retracked ..)

theorem Attempted.resting (hs : s.Resting) (h : Attempted G V s id m o w) : w.Resting := by
  obtain ⟨hawake, hempty, hpending⟩ := hs
  cases h with
  | kept | refused => exact ⟨hawake, hempty, hpending⟩
  | delivered | left | lost => exact ⟨hawake, rfl, hpending⟩

theorem engaged_updated {f : Tracker → Tracker} (hf : ∀ k, (f k).sender = k.sender)
    (he : s.Engaged id m) : (s.retracked (·.update id f)).Engaged id m := by
  obtain ⟨hm, k, hk, hsender⟩ := he
  refine ⟨hm, f k, ?_, (hf k).trans hsender⟩
  rw [Site.trackers_retracked, TrackerTable.lookup?_update, if_pos rfl, hk]
  rfl

/-- A message that is sent again is still the caller's. -/
theorem Attempted.engaged (he : s.Engaged id m) (h : Attempted G V s id m (.inl ()) w) :
    w.Engaged id m := by
  have harmed := (engaged_armed he).1
  cases h with
  | kept => exact engaged_updated Tracker.sender_claimRetry harmed
  | left =>
    have hgranted : (((s.armed id).flown m).granted id m).Engaged id m :=
      engaged_updated (s := (s.armed id).flown m) Tracker.sender_claimRetry harmed
    have hacknowledged : ((((s.armed id).flown m).granted id m).acknowledged (some id) .retry
        m).Engaged id m :=
      engaged_updated (f := (·.complete .retry)) (fun k => k.sender_complete .retry) hgranted
    exact engaged_updated (fun k => k.sender_receive _) hacknowledged

theorem engaged_of_unmoved (h : s.Unmoved (leeway G) t) (he : s.Engaged id m) : t.Engaged id m := by
  obtain ⟨hm, k, hk, hsender⟩ := he
  exact ⟨hm, k, (h.like.lookup id).trans hk, hsender⟩

/-- The id under which somebody waits for the message. -/
def engagedId (s : World MemoryBroker κ α) (m : Message) : TrackingId :=
  (s.attach m .sync (if s.producer.tracking then s.producer.settings.retryBudget else 0)).1

/-- A message that somebody begins to wait for is the caller's. -/
theorem engaged_engage (s : World MemoryBroker κ α) (m : Message) :
    (s.engage m).2.Engaged (engagedId s m) (s.engage m).1 := by
  have hfind := s.trackers.find?_attach m .sync
    (if s.producer.tracking then s.producer.settings.retryBudget else 0)
  obtain ⟨hm, hlive⟩ := TrackerTable.find?_eq_some_iff.mp hfind
  rw [TrackerTable.isLive_eq, Option.any_eq_true] at hlive
  obtain ⟨⟨k, live⟩, hk, rfl⟩ := hlive
  refine ⟨hm, k.setSender .sync, ?_, rfl⟩
  have hlookup := (s.attach m .sync (if s.producer.tracking then s.producer.settings.retryBudget
    else 0)).2.2.trackers.lookup?_update (engagedId s m) (engagedId s m) (·.setSender .sync)
  rw [if_pos rfl, Site.trackers_attach] at hlookup
  exact hlookup.trans (congrArg (Option.map _) hk)

/-- What each attempt keeps is kept until the message has left, and what an attempt that is the last
    brings about is there at the end. If things are `sure` to end, each attempt but the last lowers
    `μ`. -/
theorem meets_sendSync {P : World MemoryBroker κ α → Prop}
    {Q : Except ProducerError Unit → World MemoryBroker κ α → Prop}
    (μ : World MemoryBroker κ α → Nat)
    (hpolite : (surroundings call limit).Polite sure (leeway G) V s.producer.hooks)
    (hs : s.Resting) (hcap : sure → 0 < s.broker.limits.capacity)
    (hlimit : sure → s.broker.faults.queueFullNext + 5 < limit)
    (hμ : ∀ {u v}, u.Unmoved (leeway G) v → μ v = μ u)
    (hP : ∀ {u v}, P u → u.Unmoved (leeway G) v → P v)
    (hQ : ∀ {r u v}, Q r u → u.Unmoved (leeway G) v → Q r v)
    (hstart : P (s.engage m).2) (hbound : sure → μ (s.engage m).2 < limit)
    (hstep : ∀ {u o w}, P u → Attempted G V u (engagedId s m) (s.engage m).1 o w →
      o.elim (fun _ => P w ∧ (sure → μ w < μ u)) (Q · w)) :
    ((surroundings call limit).sendSync m).Meets sure s fun r t =>
      Q r t ∧ Stays G.may s t ∧ t.Resting := by
  refine .of_eq (Work.producer_bind ..) (.of_eq (Work.attach_bind ..) ?_)
  refine .of_eq (Work.updateTracker_bind ..) ?_
  have hengage : Stays G.may s (s.engage m).2 := ⟨rfl, rfl, rfl, rfl, rfl, rfl, G.refl _⟩
  refine .loop (P := fun _ u => P u ∧ Stays G.may s u ∧ u.Resting ∧
      u.Engaged (engagedId s m) (s.engage m).1) (fun _ u => μ u) (fun _ u hu => ?_) limit () _
    ⟨hstart, hengage, ⟨hs.awake, hs.empty, hs.pending⟩, engaged_engage s m⟩ hbound
  obtain ⟨hu, hstays, hresting, hengaged⟩ := hu
  have hpolite : (surroundings call limit).Polite sure (leeway G) V u.producer.hooks := by
    rw [hstays.hooks]
    exact hpolite
  refine (meets_attempt hpolite hresting hengaged (fun hsure => ?_) fun hsure => ?_).mono
    fun o t ht => ?_
  · rw [hstays.limits]
    exact hcap hsure
  · have := hlimit hsure
    have := G.bounded hsure hstays.faults
    omega
  obtain ⟨w, hw, ht⟩ := ht
  have hstep := hstep hu hw
  have hstays := (hstays.trans hw.stays).trans (stays_of_unmoved ht)
  have hresting := (hw.resting hresting).of_unmoved ht
  cases o with
  | inl _ =>
    refine ⟨⟨hP hstep.1 ht, hstays, hresting, ?_⟩, fun hsure => ?_⟩
    · exact engaged_of_unmoved ht (hw.engaged hengaged)
    · rw [hμ ht]
      exact hstep.2 hsure
  | inr r => exact ⟨hQ hstep ht, hstays, hresting⟩

end

end MemoryBroker

/-! ### Ordered flushes -/

/-- To ask whether the time is up is to look at the clock, if there is a timeout. -/
theorem Surroundings.timeIsUp_eq {β : Type} (start : Nat) (timeout : Option Span)
    (s : World β κ α) :
    timeIsUp start timeout s =
      some (timeout.any (·.nanos ≤ s.clock.now - start),
        if timeout.isSome then s.turned s.broker s.clock.read.2 else s) := by
  cases timeout <;> rfl

/-- An ordered flush sends what is buffered, in order, between its opening and its closing. -/
theorem Surroundings.meets_flushInOrder {β : Type} {env : Surroundings β κ α} {sure : Prop}
    {s : World β κ α} {timeout : Option Span} {Q : Except ProducerError Bool → World β κ α → Prop}
    (h : (env.sendInOrder s.clock.read.1 timeout 0
        (s.producer.retry.messages ++ s.producer.regular.messages)).Meets sure s.opened fun r t =>
      Q (r.2.map fun _ =>
          r.1 == s.producer.retry.messages.length + s.producer.regular.messages.length)
        (t.closed s.producer.retry.messages s.producer.regular.messages r.1)) :
    (env.flushInOrder timeout).Meets sure s Q := by
  refine .of_eq (Work.mark_bind ..) (.bind (P := fun r t => Q r (t.marked .flushEnded)) ?_
    fun r t ht => .of_eq (Work.mark_bind ..) (.pure ht))
  refine .of_eq (Work.takeRetry_bind ..) (.of_eq (Work.takeRegular_bind ..) ?_)
  refine .of_eq (Site.readClock_bind ..) (h.bind fun r t ht => ?_)
  exact .of_eq (Work.modifyProducer_bind ..) (.pure ht)

end Outbox
