import Mathlib.Algebra.BigOperators.Group.List.Basic
import Mathlib.Algebra.Group.Prod
import Outbox.Proofs.Attempt
import Outbox.Proofs.Budget
import Outbox.Proofs.Tally

/-! What is to become of messages, told beforehand. If the broker and the hooks go by the content of
    a message alone, then whoever sends it, and whenever, it goes the same way: it is taken and
    delivered, or it fails each time until it has no retries left or must not be sent again. So what
    has come of everything together with what is still to come of the messages at hand is the same
    at any time. Main statements: each step in the way of a message keeps what is foretold. -/

namespace Outbox

/-- What came of messages, all of them without their ids: those the broker took, those that were
    dropped, and how often one was found delivered, was dropped and was sent again. -/
abbrev Upshot := Multiset Message × Multiset Message × Nat × Nat × Nat

namespace Upshot

def taken (c : Message) : Upshot := ({c}, 0, 0, 0, 0)

def delivered : Upshot := (0, 0, 1, 0, 0)

def dropped (c : Message) : Upshot := (0, {c}, 0, 1, 0)

def retried : Upshot := (0, 0, 0, 0, 1)

end Upshot

/-- The faults go by the content of messages and not by their ids, nor by how many there were. -/
structure Faults.Blind (f : Faults) : Prop where
  failNext : f.failNext = 0
  failWhere : ∀ p, f.failWhere = some p → ∀ m, p m = p m.untracked
  rejectWhere : ∀ p, f.rejectWhere = some p → ∀ m, p m = p m.untracked

/-- How the broker and the hooks deal with messages, by their content alone: the broker as it does
    with nothing in its queue, and the hooks that are asked by a verdict. -/
structure Rules where
  broker : MemoryBroker
  verdict : HookKind → Message → BrokerError → Bool
  empty : broker.inFlight.toList = []
  roomy : 0 < broker.limits.capacity
  blind : broker.faults.Blind

/-- The faults are the same, except that the broker may have counted down. -/
structure Faults.Steady (f g : Faults) : Prop where
  failWhere : g.failWhere = f.failWhere
  rejectWhere : g.rejectWhere = f.rejectWhere
  failNext : g.failNext ≤ f.failNext
  queueFullNext : g.queueFullNext ≤ f.queueFullNext

/-- Nobody tells the broker of other faults. -/
def steadyDrift : Drift True where
  may := Faults.Steady
  refl _ := ⟨rfl, rfl, le_refl _, le_refl _⟩
  trans h h' := ⟨h'.failWhere.trans h.failWhere, h'.rejectWhere.trans h.rejectWhere,
    h'.failNext.trans h.failNext, h'.queueFullNext.trans h.queueFullNext⟩
  failed _ := ⟨rfl, rfl, Nat.sub_le _ _, le_refl _⟩
  filled _ := ⟨rfl, rfl, le_refl _, Nat.sub_le _ _⟩
  bounded _ _ _ h := h.queueFullNext

namespace Rules

variable (R : Rules)

/-- Why the broker refuses messages with this content. -/
def refusal (c : Message) : Option BrokerError := R.broker.refusal? c

/-- Why messages with this content are not delivered. -/
def failure (c : Message) : Option BrokerError := R.broker.faults.failure? c

/-- Messages with this content are delivered. -/
def delivers (c : Message) : Bool := (R.refusal c).isNone && (R.failure c).isNone

/-- What the hooks answer. -/
def verdicts : Verdicts := fun kind m e v => kind.isAsked = true → v = R.verdict kind m.untracked e

/-- The broker goes by the rules. -/
structure Governs (b : MemoryBroker) : Prop where
  awake : b.paused = false
  limits : b.limits = R.broker.limits
  faults : R.broker.faults.Steady b.faults

section

variable {R} {b b' : MemoryBroker} {m : Message} {e : BrokerError}

theorem Governs.of_akin (h : R.Governs b) (hb : b.Akin steadyDrift.may b') : R.Governs b' :=
  ⟨hb.awake h.awake, hb.limits.trans h.limits, steadyDrift.trans h.faults hb.faults⟩

theorem failure?_eq {f : Faults} (h : R.broker.faults.Steady f) (m : Message) :
    f.failure? m = R.failure m.untracked := by
  have hnext : f.failNext = 0 := Nat.eq_zero_of_le_zero (R.blind.failNext ▸ h.failNext)
  have hblind : R.broker.faults.failWhere.any (· m) =
      R.broker.faults.failWhere.any (· m.untracked) := by
    cases hp : R.broker.faults.failWhere with
    | none => rfl
    | some p => exact R.blind.failWhere p hp m
  rw [failure, Faults.failure?, Faults.failure?, hnext, R.blind.failNext, h.failWhere, hblind]
  rfl

/-- The broker refuses what the rules refuse, and what it has no room for. -/
theorem Governs.refusal?_eq (h : R.Governs b) (m : Message) :
    b.refusal? m = (R.refusal m.untracked).or
      (if b.limits.capacity ≤ b.inFlight.size then some .queueFull else none) := by
  have hblind : R.broker.faults.rejectWhere.any (· m) =
      R.broker.faults.rejectWhere.any (· m.untracked) := by
    cases hp : R.broker.faults.rejectWhere with
    | none => rfl
    | some p => exact R.blind.rejectWhere p hp m
  have hroom : ¬ R.broker.limits.capacity ≤ R.broker.inFlight.size := by
    rw [← Line.length_toList, R.empty, List.length_nil]
    exact Nat.not_le_of_gt R.roomy
  have htopic : m.untracked.topic = m.topic := rfl
  have hsize : m.untracked.size = m.size := rfl
  rw [refusal, MemoryBroker.refusal?, MemoryBroker.refusal?, h.limits, h.faults.rejectWhere, hblind,
    if_neg hroom, htopic, hsize]
  split
  · rfl
  split
  · rfl
  split
  · rfl
  · rfl

/-- A broker with nothing in its queue refuses what the rules refuse. -/
theorem Governs.refusal?_of_empty (h : R.Governs b) (hb : b.inFlight.toList = []) (m : Message) :
    b.refusal? m = R.refusal m.untracked := by
  have hroom : ¬ b.limits.capacity ≤ b.inFlight.size := by
    rw [← Line.length_toList, hb, List.length_nil, h.limits]
    exact Nat.not_le_of_gt R.roomy
  rw [h.refusal?_eq, if_neg hroom, Option.or_none]

theorem Governs.refusal_of_taken (h : R.Governs b) (hm : b.refusal? m = none) :
    R.refusal m.untracked = none := by
  rw [h.refusal?_eq, Option.or_eq_none_iff] at hm
  exact hm.1

theorem Governs.refusal_of_refused (h : R.Governs b) (hm : b.refusal? m = some e)
    (he : e.isQueueFull = false) : R.refusal m.untracked = some e := by
  rw [h.refusal?_eq, Option.or_eq_some_iff] at hm
  rcases hm with hm | ⟨-, hm⟩
  · exact hm
  · split at hm
    · obtain rfl := Option.some_inj.mp hm
      simp [BrokerError.isQueueFull] at he
    · simp at hm

end

/-! ### What is to come of one message -/

/-- What is to come of a message with so many retries left that the broker has taken. -/
def aloft (c : Message) (n : Nat) : Upshot :=
  match R.failure c with
  | none => .delivered
  | some e =>
    if R.verdict .deliveryFailed c e then (Multiset.replicate n c, {c}, 0, 1, n) else .dropped c

/-- What is to come of a message with so many retries left that is offered to the broker. -/
def ahead (c : Message) (n : Nat) : Upshot :=
  match R.refusal c with
  | none => .taken c + R.aloft c n
  | some e => if R.verdict .sendFailed c e then (0, {c}, 0, 1, n) else .dropped c

section

variable {R} {c : Message} {n : Nat} {e : BrokerError}

theorem ahead_of_taken (hr : R.refusal c = none) : R.ahead c n = .taken c + R.aloft c n := by
  rw [ahead, hr]

theorem aloft_of_delivered (hf : R.failure c = none) : R.aloft c n = .delivered := by
  rw [aloft, hf]

theorem ahead_of_deferred (hr : R.refusal c = some e) (hv : R.verdict .sendFailed c e = true) :
    R.ahead c (n + 1) = .retried + R.ahead c n := by
  simp only [ahead, hr, hv, if_true, Upshot.retried, Prod.mk_add_mk, zero_add, Nat.add_comm 1]

theorem ahead_of_refused (hr : R.refusal c = some e)
    (hv : R.verdict .sendFailed c e = false ∨ n = 0) : R.ahead c n = .dropped c := by
  rcases hv with hv | rfl
  · simp only [ahead, hr, hv, Bool.false_eq_true, if_false]
  · simp only [ahead, hr, Upshot.dropped, ite_self]

theorem aloft_of_retried (hr : R.refusal c = none) (hf : R.failure c = some e)
    (hv : R.verdict .deliveryFailed c e = true) :
    R.aloft c (n + 1) = .retried + R.ahead c n := by
  rw [ahead_of_taken hr]
  simp only [aloft, hf, hv, if_true, Upshot.retried, Upshot.taken, Prod.mk_add_mk, zero_add,
    Nat.add_comm 1, Multiset.replicate_succ, Multiset.singleton_add]

theorem aloft_of_lost (hf : R.failure c = some e)
    (hv : R.verdict .deliveryFailed c e = false ∨ n = 0) : R.aloft c n = .dropped c := by
  rcases hv with hv | rfl
  · simp only [aloft, hf, hv, Bool.false_eq_true, if_false]
  · simp only [aloft, hf, Upshot.dropped, Multiset.replicate_zero, ite_self]

end

/-! ### What is to come of all -/

/-- What is to come of the messages in the air and of those on the ground. -/
def due (t : TrackerTable) (A G : List Message) : Upshot :=
  (A.map fun m => R.aloft m.untracked (t.budget m)).sum +
    (G.map fun m => R.ahead m.untracked (t.budget m)).sum

section

variable {R} {t u : TrackerTable} {A A' G G' : List Message}

theorem due_congr (h : ∀ x ∈ A ++ G, u.budget x = t.budget x) : R.due u A G = R.due t A G := by
  refine congrArg₂ (· + ·) (congrArg List.sum (List.map_congr_left fun x hx => ?_))
    (congrArg List.sum (List.map_congr_left fun x hx => ?_))
  · rw [h x (List.mem_append_left _ hx)]
  · rw [h x (List.mem_append_right _ hx)]

theorem due_aloft (t : TrackerTable) (A G : List Message) (m : Message) :
    R.due t (m :: A) G = R.aloft m.untracked (t.budget m) + R.due t A G := by
  rw [due, due, List.map_cons, List.sum_cons, add_assoc]

theorem due_ahead (t : TrackerTable) (A G : List Message) (m : Message) :
    R.due t A (m :: G) = R.ahead m.untracked (t.budget m) + R.due t A G := by
  rw [due, due, List.map_cons, List.sum_cons, add_left_comm]

theorem due_perm (hA : A'.Perm A) (hG : G'.Perm G) : R.due t A' G' = R.due t A G := by
  rw [due, due, (hA.map _).sum_eq, (hG.map _).sum_eq]

end

end Rules

variable {κ α : Type}

/-! ### What has come about -/

namespace Site

/-- What has come about in the world. -/
def upshot (s : World MemoryBroker κ α) : Upshot :=
  ((s.broker.sent.toList : Multiset Message).map Message.untracked,
    (departed Fate.isDropped s.journal).map Message.untracked, s.producer.counters.produced,
    s.producer.counters.dropped, s.producer.counters.retries)

section

variable (s : World MemoryBroker κ α) (m : Message) (e : BrokerError) (id : TrackingId)

theorem upshot_accepted :
    (s.accepted (s.broker.taken m) m).upshot = .taken m.untracked + s.upshot := by
  have hsent : ((s.broker.taken m).sent.toList : Multiset Message).map Message.untracked =
      {m.untracked} + (s.broker.sent.toList : Multiset Message).map Message.untracked := by
    rw [MemoryBroker.taken, Line.toList_pushBack, ← Multiset.coe_add, Multiset.map_add, add_comm]
    rfl
  simp only [upshot, Upshot.taken, broker_accepted, hsent, journal_accepted, departed_cons,
    event_entry, Event.leaving, Option.elim_none, zero_add, counters_accepted, Counters.mark,
    Prod.mk_add_mk]

theorem upshot_delivered : (s.delivered m).upshot = .delivered + s.upshot := by
  simp [upshot, Upshot.delivered, Event.leaving, Fate.isDropped, Counters.mark, add_comm]

theorem upshot_dropped : (s.dropped m e).upshot = .dropped m.untracked + s.upshot := by
  simp [upshot, Upshot.dropped, Event.leaving, Fate.isDropped, Counters.mark, add_comm]

theorem upshot_granted : (s.granted id m).upshot = .retried + s.upshot := by
  simp [upshot, Upshot.retried, Event.leaving, Counters.mark, add_comm]

theorem upshot_acknowledged (k : Option TrackingId) (o : Outcome) :
    (s.acknowledged k o m).upshot = s.upshot := by
  simp [upshot, Event.leaving, Counters.mark]

end

theorem Unmoved.upshot {sure : Prop} {G : Drift sure} {s t : World MemoryBroker κ α}
    (h : s.Unmoved (MemoryBroker.leeway G) t) : t.upshot = s.upshot := by
  have houtcomes := h.like.outcomes
  simp only [Counters.outcomes, Prod.mk.injEq] at houtcomes
  obtain ⟨-, hproduced, hdropped, hretries⟩ := houtcomes
  rw [Site.upshot, Site.upshot, h.broker.sent, h.departed, hproduced, hdropped, hretries]

end Site

theorem Site.budget_acknowledged {β : Type} (s : World β κ α) (k : Option TrackingId) (o : Outcome)
    (m x : Message) : (s.acknowledged k o m).trackers.budget x = s.trackers.budget x := by
  rw [trackers_acknowledged]
  cases k with
  | none => rfl
  | some id => exact s.trackers.budget_update x fun k => k.remaining_complete o

theorem Site.Unmoved.budget {β : Type} {D : Leeway β} {s t : World β κ α} (h : s.Unmoved D t)
    (m : Message) : t.trackers.budget m = s.trackers.budget m := by
  have hlookup : t.trackers.lookup? = s.trackers.lookup? := funext h.like.lookup
  rw [TrackerTable.budget_eq, TrackerTable.budget_eq, hlookup]

/-! ### What is foretold -/

/-- What is foretold: by which rules things go, with which hooks, for how many messages at most;
    what will have come about in the end, and what will have been delivered, in order. -/
structure Plan (κ : Type) where
  rules : Rules
  hooks : Hooks κ
  size : Nat
  upshot : Upshot
  delivered : List Message

/-- A loop of a flush takes no more rounds than this, however many attempts there are at a message.
    The constant is for the steps of a task of the broker that hand out no report. -/
def Plan.rounds (p : Plan κ) : Nat := p.size + p.rules.broker.faults.queueFullNext + 5

/-- Things go according to plan: they go by the rules, the messages in the air and on the ground do
    not share retries, and what has come about is what is planned but for what is to come of these
    messages. Those on the ground are going to be delivered after those in the air. -/
structure Site.Foretold (p : Plan κ) (A G : List Message) (s : World MemoryBroker κ α) : Prop where
  governed : p.rules.Governs s.broker
  hooks : s.producer.hooks = p.hooks
  owned : s.trackers.Owned s.producer.tracking (A ++ G)
  size : (A ++ G).length ≤ p.size
  taken : ∀ m ∈ A, p.rules.refusal m.untracked = none
  upshot : s.upshot + p.rules.due s.trackers A G = p.upshot
  order : s.broker.delivered.toList.map Message.untracked ++
    ((A ++ G).map Message.untracked).filter p.rules.delivers = p.delivered

namespace Site.Foretold

variable {p : Plan κ} {A G G' : List Message} {s t : World MemoryBroker κ α} {m : Message}
  {e : BrokerError} {id : TrackingId}

theorem of_unmoved (h : s.Foretold p A G)
    (ht : s.Unmoved (MemoryBroker.leeway steadyDrift) t) : t.Foretold p A G := by
  obtain ⟨hgoverned, hhooks, howned, hsize, htaken, hupshot, horder⟩ := h
  refine ⟨hgoverned.of_akin ht.broker, ht.like.hooks.trans hhooks, ?_, hsize, htaken, ?_, ?_⟩
  · rw [ht.like.tracking]
    exact howned.of_le (fun x => ht.find? x) fun x => (ht.budget x).le
  · rw [ht.upshot, Rules.due_congr fun x _ => ht.budget x]
    exact hupshot
  · rw [ht.broker.delivered]
    exact horder

/-- It does not matter what happens to trackers if it costs no retries. -/
theorem retracked {f : TrackerTable → TrackerTable} (h : s.Foretold p A G)
    (hfind : ∀ x, (f s.trackers).find? x = s.trackers.find? x)
    (hbudget : ∀ x, (f s.trackers).budget x = s.trackers.budget x) :
    (s.retracked f).Foretold p A G := by
  obtain ⟨hgoverned, hhooks, howned, hsize, htaken, hupshot, horder⟩ := h
  refine ⟨hgoverned, hhooks, howned.of_le hfind fun x => (hbudget x).le, hsize, htaken, ?_, horder⟩
  rw [trackers_retracked, Rules.due_congr fun x _ => hbudget x]
  exact hupshot

theorem updated {f : Tracker → Tracker} (h : s.Foretold p A G)
    (hf : ∀ k, (f k).remaining = k.remaining) (id : TrackingId) :
    (s.retracked (·.update id f)).Foretold p A G :=
  h.retracked (fun x => s.trackers.find?_update x id f) fun x => s.trackers.budget_update x hf

theorem acknowledged (h : s.Foretold p A G) (k : Option TrackingId) (o : Outcome) (m : Message) :
    (s.acknowledged k o m).Foretold p A G := by
  have hcompleted : (s.completed k o).Foretold p A G := by
    cases k with
    | none => exact h
    | some id => exact h.updated (fun k => k.remaining_complete o) id
  obtain ⟨hgoverned, hhooks, howned, hsize, htaken, hupshot, horder⟩ := hcompleted
  cases k <;> exact ⟨hgoverned, hhooks, howned, hsize, htaken,
    (congrArg (· + _) (upshot_acknowledged ..)).trans hupshot, horder⟩

/-- It does not matter what is in the broker's queue. -/
theorem emptied (h : s.Foretold p A G) : s.emptied.Foretold p A G := by
  obtain ⟨⟨hawake, hlimits, hfaults⟩, hhooks, howned, hsize, htaken, hupshot, horder⟩ := h
  exact ⟨⟨hawake, hlimits, hfaults⟩, hhooks, howned, hsize, htaken, hupshot, horder⟩

/-- It does not matter in which buffers the messages are. -/
theorem rebuffered (h : s.Foretold p A G) (regular retry : Buffer) :
    (s.rebuffered regular retry).Foretold p A G :=
  ⟨h.governed, h.hooks, h.owned, h.size, h.taken, h.upshot, h.order⟩

/-! ### The way of a message -/

/-- The broker takes a message. -/
theorem take (h : s.Foretold p A (m :: G)) (hr : p.rules.refusal m.untracked = none) :
    (s.accepted (s.broker.taken m) m).Foretold p (A ++ [m]) G := by
  obtain ⟨⟨hawake, hlimits, hfaults⟩, hhooks, howned, hsize, htaken, hupshot, horder⟩ := h
  have hmove : A ++ [m] ++ G = A ++ m :: G := List.append_cons .. |>.symm
  refine ⟨⟨hawake, hlimits, hfaults⟩, hhooks, hmove ▸ howned, hmove ▸ hsize, ?_, ?_, hmove ▸ horder⟩
  · intro x hx
    rcases List.mem_append.mp hx with hx | hx
    · exact htaken x hx
    · obtain rfl := List.mem_singleton.mp hx
      exact hr
  · rw [upshot_accepted, trackers_accepted,
      Rules.due_perm (List.perm_append_singleton m A) (.refl G), Rules.due_aloft, ← hupshot,
      Rules.due_ahead, Rules.ahead_of_taken hr]
    abel

/-- The broker delivers a message, and reports it. -/
theorem land (h : s.Foretold p (m :: A) G) (hf : p.rules.failure m.untracked = none) :
    ((s.landed m).delivered m).Foretold p A G := by
  obtain ⟨⟨hawake, hlimits, hfaults⟩, hhooks, howned, hsize, htaken, hupshot, horder⟩ := h
  have hdelivers : p.rules.delivers m.untracked = true := by
    simp [Rules.delivers, hf, htaken m (List.mem_cons_self ..)]
  refine ⟨⟨hawake, hlimits, hfaults⟩, hhooks, howned.release, Nat.le_of_succ_le hsize,
    fun x hx => htaken x (List.mem_cons_of_mem _ hx), ?_, ?_⟩
  · rw [upshot_delivered, trackers_delivered, ← hupshot, Rules.due_aloft,
      Rules.aloft_of_delivered hf, ← add_assoc, add_comm s.upshot]
    exact congrArg (Upshot.delivered + s.upshot + ·)
      (Rules.due_congr fun x hx => howned.budget_release hx)
  · rw [← horder]
    simp [hdelivers]

/-- A message that fails for good is dropped. -/
theorem dropped {A' G' : List Message} (h : s.Foretold p A' G')
    (hp : (A' ++ G').Perm (m :: (A ++ G))) (hA : A ⊆ A')
    (hdue : p.rules.due s.trackers A' G' = .dropped m.untracked + p.rules.due s.trackers A G)
    (horder : ((A ++ G).map Message.untracked).filter p.rules.delivers =
      ((A' ++ G').map Message.untracked).filter p.rules.delivers) :
    (s.dropped m e).Foretold p A G := by
  obtain ⟨hgoverned, hhooks, howned, hsize, htaken, hupshot, horder'⟩ := h
  have howned := howned.perm hp.symm
  refine ⟨hgoverned, hhooks, howned.release, Nat.le_of_succ_le (hp.length_eq.symm.trans_le hsize),
    fun x hx => htaken x (hA hx), ?_, ?_⟩
  · rw [upshot_dropped, trackers_dropped, ← hupshot, hdue,
      Rules.due_congr fun x hx => howned.budget_release hx]
    abel
  · rw [horder]
    exact horder'

/-- A message that fails is sent again. -/
theorem granted {A' G' : List Message} (h : s.Foretold p A' G') (hp : (A ++ G).Perm (A' ++ G'))
    (hA : A ⊆ A') (hdue : p.rules.due s.trackers A' G' =
      .retried + p.rules.due (s.trackers.update id (·.claimRetry.2)) A G)
    (horder : ((A ++ G).map Message.untracked).filter p.rules.delivers =
      ((A' ++ G').map Message.untracked).filter p.rules.delivers) :
    (s.granted id m).Foretold p A G := by
  obtain ⟨hgoverned, hhooks, howned, hsize, htaken, hupshot, horder'⟩ := h
  refine ⟨hgoverned, hhooks, (howned.perm hp).claim id, hp.length_eq ▸ hsize,
    fun x hx => htaken x (hA hx), ?_, ?_⟩
  · rw [upshot_granted, trackers_granted, ← hupshot, hdue]
    abel
  · rw [horder]
    exact horder'

/-- A delivery fails, and the message is dropped. -/
theorem lose (h : s.Foretold p (m :: A) G) (hf : p.rules.failure m.untracked = some e)
    (hv : p.rules.verdict .deliveryFailed m.untracked e = false ∨ s.trackers.budget m = 0) :
    (s.dropped m e).Foretold p A G := by
  refine h.dropped (.refl _) (List.subset_cons_self ..) ?_ ?_
  · rw [Rules.due_aloft, Rules.aloft_of_lost hf hv]
  · simp [Rules.delivers, hf]

/-- The broker refuses a message, and it is dropped. -/
theorem refuse (h : s.Foretold p A (m :: G)) (hr : p.rules.refusal m.untracked = some e)
    (hv : p.rules.verdict .sendFailed m.untracked e = false ∨ s.trackers.budget m = 0) :
    (s.dropped m e).Foretold p A G := by
  refine h.dropped List.perm_middle (List.Subset.refl A) ?_ ?_
  · rw [Rules.due_ahead, Rules.ahead_of_refused hr hv]
  · simp [Rules.delivers, hr]

/-- A delivery fails, and the message is put somewhere to be sent again. -/
theorem retry (h : s.Foretold p (m :: A) G) (hf : p.rules.failure m.untracked = some e)
    (hv : p.rules.verdict .deliveryFailed m.untracked e = true) (hm : m.tracking = some id)
    (hn : s.trackers.budget m ≠ 0) (hG : G'.Perm (m :: G))
    (horder : (G'.map Message.untracked).filter p.rules.delivers =
      (G.map Message.untracked).filter p.rules.delivers) :
    (s.granted id m).Foretold p A G' := by
  have hr := h.taken m (List.mem_cons_self ..)
  refine h.granted ((hG.append_left A).trans List.perm_middle) (List.subset_cons_self ..) ?_ ?_
  · obtain ⟨n, hn⟩ := Nat.exists_eq_succ_of_ne_zero hn
    rw [Rules.due_aloft, hn, Rules.aloft_of_retried hr hf hv, Rules.due_perm (.refl A) hG,
      Rules.due_ahead, TrackerTable.budget_claim, if_pos hm, hn, add_assoc]
    exact congrArg (fun d => Upshot.retried + (_ + d))
      (Rules.due_congr fun x hx => h.owned.budget_claim hm hx).symm
  · simp [Rules.delivers, hf] at horder ⊢
    exact horder

/-- The broker refuses a message, and it is put somewhere to be sent again. -/
theorem defer (h : s.Foretold p A (m :: G)) (hr : p.rules.refusal m.untracked = some e)
    (hv : p.rules.verdict .sendFailed m.untracked e = true) (hm : m.tracking = some id)
    (hn : s.trackers.budget m ≠ 0) (hG : G'.Perm (m :: G))
    (horder : (G'.map Message.untracked).filter p.rules.delivers =
      (G.map Message.untracked).filter p.rules.delivers) :
    (s.granted id m).Foretold p A G' := by
  refine h.granted (hG.append_left A) (List.Subset.refl A) ?_ ?_
  · obtain ⟨n, hn⟩ := Nat.exists_eq_succ_of_ne_zero hn
    have howned := h.owned.perm List.perm_middle.symm
    rw [Rules.due_ahead, hn, Rules.ahead_of_deferred hr hv, Rules.due_perm (.refl A) hG,
      Rules.due_ahead, TrackerTable.budget_claim, if_pos hm, hn, add_assoc]
    exact congrArg (fun d => Upshot.retried + (_ + d))
      (Rules.due_congr fun x hx => howned.budget_claim hm hx).symm
  · simp [Rules.delivers, hr] at horder ⊢
    exact horder

end Site.Foretold

end Outbox
