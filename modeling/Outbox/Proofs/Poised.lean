import Outbox.Proofs.Ends
import Outbox.Proofs.Polling

/-! What keeps a producer at a broker in memory going. The broker is awake and has room for a
    message, and `pending` counts what is in its queue together with the reports that are being
    dealt with: such a producer is poised, and everything that it does leaves it so.

    How long something takes depends on what it may meet on the way: full queues that were ordered,
    retries that are left, and hooks that turn to the producer. An application has so much credit
    for the last; whatever is done on credit is paid for, and where nothing was paid things have
    gone on steadily. -/

namespace Outbox

/-! ### Counting entries -/

namespace Event

/-- A message was offered and the offering ended. -/
def isAttempt : Event → Bool
  | offered _ (.ok _) => true
  | offered _ (.error e) => !e.isQueueFull
  | _ => false

/-- A flush of the broker began. -/
def isFlush : Event → Bool
  | flushBegan _ => true
  | _ => false

end Event

namespace Site

variable {β κ α : Type}

/-- How many events of a kind were written down. -/
def tally (s : World β κ α) (p : Event → Bool) : Nat := s.journal.countP (p ·.event)

theorem tally_noted (s : World β κ α) (p : Event → Bool) (e : Event) :
    (s.noted e).tally p = s.tally p + if p e then 1 else 0 :=
  List.countP_cons

end Site

/-! ### Trackers -/

namespace Tracker

/-- The tracker has spent retries or it has not; and if a retry has come into a slot, it has. -/
def Spends (k k' : Tracker) : Prop :=
  k'.remaining ≤ k.remaining ∧ ∀ slot, (k'.receive slot).1 = .outcome .retry →
    (k.receive slot).1 = .outcome .retry ∨ k'.remaining < k.remaining

theorem Spends.refl (k : Tracker) : k.Spends k := ⟨Nat.le_refl _, fun _ h => .inl h⟩

theorem Spends.trans {k k' k'' : Tracker} (h : k.Spends k') (h' : k'.Spends k'') :
    k.Spends k'' := by
  refine ⟨h'.1.trans h.1, fun slot hslot => ?_⟩
  rcases h'.2 slot hslot with hslot | hlt
  · rcases h.2 slot hslot with hslot | hlt
    · exact .inl hslot
    · exact .inr (h'.1.trans_lt hlt)
  · exact .inr (hlt.trans_le h.1)

theorem Spends.of_lt {k k' : Tracker} (h : k'.remaining < k.remaining) : k.Spends k' :=
  ⟨Nat.le_of_lt h, fun _ _ => .inr h⟩

theorem spends_claimRetry (k : Tracker) : k.Spends k.claimRetry.2 := by
  refine ⟨?_, fun slot h => .inl ?_⟩
  · rw [remaining_claimRetry]
    exact Nat.sub_le ..
  · rwa [receive_claimRetry] at h

theorem spends_complete (k : Tracker) {o : Outcome} (ho : o ≠ .retry) :
    k.Spends (k.complete o) := by
  refine ⟨(remaining_complete k o).le, fun slot h => .inl ?_⟩
  by_contra hk
  exact receive_complete_ne k o ho hk h

end Tracker

namespace TrackerTable

variable {T T' T'' : TrackerTable} {X : TrackingId}

/-- Nothing was issued, and what was issued has spent retries or it has not. -/
def Spends (T T' : TrackerTable) : Prop :=
  ∀ X, Option.Rel (fun e e' => e.tracker.Spends e'.tracker) (T.lookup? X) (T'.lookup? X)

/-- A retry was drawn from the tracker that was issued under the id. -/
def Drawn (X : TrackingId) (T T' : TrackerTable) : Prop :=
  ∃ e e', T.lookup? X = some e ∧ T'.lookup? X = some e' ∧
    e'.tracker.remaining < e.tracker.remaining

theorem Spends.refl (T : TrackerTable) : T.Spends T := by
  intro X
  cases T.lookup? X with
  | none => exact .none
  | some e => exact .some (.refl _)

/-- What is known of an entry afterwards. -/
theorem Spends.after (h : T.Spends T') {e : Issued} (he : T.lookup? X = some e) :
    ∃ e', T'.lookup? X = some e' ∧ e.tracker.Spends e'.tracker := by
  have hX := h X
  rw [he] at hX
  cases hT : T'.lookup? X with
  | none => simp [hT] at hX
  | some e' =>
    rw [hT] at hX
    exact ⟨e', rfl, by cases hX; assumption⟩

/-- What is known of an entry before. -/
theorem Spends.before (h : T.Spends T') {e' : Issued} (he : T'.lookup? X = some e') :
    ∃ e, T.lookup? X = some e ∧ e.tracker.Spends e'.tracker := by
  have hX := h X
  rw [he] at hX
  cases hT : T.lookup? X with
  | none => simp [hT] at hX
  | some e =>
    rw [hT] at hX
    exact ⟨e, rfl, by cases hX; assumption⟩

theorem Spends.trans (h : T.Spends T') (h' : T'.Spends T'') : T.Spends T'' := by
  intro X
  have hX := h X
  have hX' := h' X
  generalize T.lookup? X = e, T'.lookup? X = e', T''.lookup? X = e'' at hX hX'
  cases hX with
  | none =>
    cases hX'
    exact .none
  | some hk =>
    cases hX' with
    | some hk' => exact .some (hk.trans hk')

theorem Spends.trans_drawn (h : T.Spends T') (h' : T'.Drawn X T'') : T.Drawn X T'' := by
  obtain ⟨e', e'', he', he'', hlt⟩ := h'
  obtain ⟨e, he, hk⟩ := h.before he'
  exact ⟨e, e'', he, he'', hlt.trans_le hk.1⟩

theorem spends_update (T : TrackerTable) (id : TrackingId) {f : Tracker → Tracker}
    (hf : ∀ k : Tracker, k.Spends (f k)) : T.Spends (T.update id f) := by
  intro X
  rw [lookup?_update]
  split
  · cases T.lookup? X with
    | none => exact .none
    | some e => exact .some (hf e.tracker)
  · exact Spends.refl T X

theorem spends_release (T : TrackerTable) (m : Message) : T.Spends (T.release m) := by
  intro X
  rw [lookup?_release]
  split
  · cases T.lookup? X with
    | none => exact .none
    | some e => exact .some (.refl _)
  · exact Spends.refl T X

/-- A retry that is granted is drawn. -/
theorem drawn_claim {id : TrackingId} {sender : Sender}
    (h : (T.tracker? id).bind (·.claimRetry.1) = some sender) :
    T.Drawn id (T.update id (·.claimRetry.2)) := by
  obtain ⟨e, he, hpos, -⟩ := (T.claim_eq_some id).mp h
  refine ⟨e, e.under (·.claimRetry.2), he, ?_, ?_⟩
  · rw [lookup?_update, if_pos rfl, he]
    rfl
  · have hlt : e.tracker.claimRetry.2.remaining < e.tracker.remaining := by
      rw [Tracker.remaining_claimRetry]
      omega
    exact hlt

/-- A retry may be written into a slot if one was drawn. -/
theorem Spends.complete (h : T.Spends T') {id : TrackingId} {o : Outcome}
    (ho : o = .retry → T.Drawn id T') : T.Spends (T'.update id (·.complete o)) := by
  by_cases hretry : o = .retry
  · intro X
    rw [lookup?_update]
    split
    · next hX =>
      subst hX
      obtain ⟨e, e', he, he', hlt⟩ := ho hretry
      rw [he, he']
      exact .some (.of_lt ((Tracker.remaining_complete ..).trans_lt hlt))
    · exact h X
  · exact h.trans (T'.spends_update id fun k => k.spends_complete hretry)

end TrackerTable

/-! ### What goes on steadily -/

namespace Site

variable {κ α : Type} {s t u : World MemoryBroker κ α}

/-- From `s` to `t` at most so many offers were made, attempts ended and flushes began; nobody told
    the broker to call its queue full more often, and no retry came for nothing. -/
structure Steady (offers attempts flushes : Nat) (s t : World MemoryBroker κ α) : Prop where
  countdown : t.broker.faults.queueFullNext ≤ s.broker.faults.queueFullNext
  spends : s.trackers.Spends t.trackers
  offers : t.tally Event.isOffer ≤ s.tally Event.isOffer + offers
  attempts : t.tally Event.isAttempt ≤ s.tally Event.isAttempt + attempts
  flushes : t.tally Event.isFlush ≤ s.tally Event.isFlush + flushes

namespace Steady

variable {o a f o' a' f' : Nat}

/-- Nothing was written down. -/
theorem of_journal (hb : t.broker.faults.queueFullNext ≤ s.broker.faults.queueFullNext)
    (ht : s.trackers.Spends t.trackers) (hj : t.journal = s.journal) : Steady 0 0 0 s t := by
  refine ⟨hb, ht, ?_, ?_, ?_⟩ <;> rw [tally, tally, hj] <;> exact Nat.le_refl _

theorem refl (s : World MemoryBroker κ α) : Steady 0 0 0 s s :=
  .of_journal (Nat.le_refl _) (.refl _) rfl

theorem trans (h : Steady o a f s t) (h' : Steady o' a' f' t u) :
    Steady (o + o') (a + a') (f + f') s u := by
  obtain ⟨hcountdown, hspends, hoffers, hattempts, hflushes⟩ := h
  obtain ⟨hcountdown', hspends', hoffers', hattempts', hflushes'⟩ := h'
  exact ⟨hcountdown'.trans hcountdown, hspends.trans hspends', by omega, by omega, by omega⟩

theorem mono (h : Steady o a f s t) (ho : o ≤ o') (ha : a ≤ a') (hf : f ≤ f') :
    Steady o' a' f' s t := by
  obtain ⟨hcountdown, hspends, hoffers, hattempts, hflushes⟩ := h
  exact ⟨hcountdown, hspends, by omega, by omega, by omega⟩

theorem noted (s : World MemoryBroker κ α) (e : Event) :
    Steady (if e.isOffer then 1 else 0) (if e.isAttempt then 1 else 0)
      (if e.isFlush then 1 else 0) s (s.noted e) :=
  ⟨Nat.le_refl _, .refl _, (tally_noted ..).le, (tally_noted ..).le, (tally_noted ..).le⟩

/-- The broker changed, and time passed. -/
theorem turned (h : Steady o a f s t) {b : MemoryBroker}
    (hb : b.faults.queueFullNext ≤ t.broker.faults.queueFullNext) (clock : Clock) :
    Steady o a f s (t.turned b clock) :=
  ⟨hb.trans h.countdown, h.spends, h.offers, h.attempts, h.flushes⟩

/-- A message was offered. -/
theorem offered (s : World MemoryBroker κ α) {b : MemoryBroker}
    (hb : b.faults.queueFullNext ≤ s.broker.faults.queueFullNext) (m : Message)
    (answer : BrokerAnswer) :
    Steady 1 (if (Event.offered m answer).isAttempt then 1 else 0) 0 s
      (((s.marked .offered).brokered b).noted (.offered m answer)) := by
  have hmarked : Steady 0 0 0 s ((s.marked .offered).brokered b) := .of_journal hb (.refl _) rfl
  exact (hmarked.trans (.noted _ (.offered m answer))).mono (Nat.le_refl _) (Nat.zero_add _).le
    (Nat.le_refl _)

/-- A tracker is told to send again only if a retry of it was spent. -/
theorem completed (h : Steady o a f s t) {k : Option TrackingId} {outcome : Outcome}
    (hk : outcome = .retry → ∃ id, k = some id ∧ s.trackers.Drawn id t.trackers) :
    Steady o a f s (t.completed k outcome) := by
  cases k with
  | none => exact h
  | some id =>
    refine ⟨h.countdown, h.spends.complete fun hretry => ?_, h.offers, h.attempts, h.flushes⟩
    obtain ⟨_, hid, hdrawn⟩ := hk hretry
    obtain rfl := Option.some_inj.mp hid
    exact hdrawn

end Steady

/-- Things went on steadily, no message was offered, and none came into the queue or left it. -/
def Calm (s t : World MemoryBroker κ α) : Prop :=
  Steady 0 0 0 s t ∧ t.broker.inFlight.size = s.broker.inFlight.size

theorem Calm.refl (s : World MemoryBroker κ α) : Calm s s := ⟨.refl s, rfl⟩

theorem Calm.trans (h : Calm s t) (h' : Calm t u) : Calm s u :=
  ⟨h.1.trans h'.1, h'.2.trans h.2⟩

namespace Calm

/-- Something was written down that is not counted. -/
theorem noted (s : World MemoryBroker κ α) {e : Event}
    (he : e.isOffer = false ∧ e.isAttempt = false ∧ e.isFlush = false) : Calm s (s.noted e) := by
  obtain ⟨hoffer, hattempt, hflush⟩ := he
  have h := Steady.noted s e
  rw [hoffer, hattempt, hflush] at h
  exact ⟨h, rfl⟩

/-- Only the trackers changed. -/
theorem retracked (s : World MemoryBroker κ α) {f : TrackerTable → TrackerTable}
    (hf : s.trackers.Spends (f s.trackers)) : Calm s (s.retracked f) :=
  ⟨.of_journal (Nat.le_refl _) hf rfl, rfl⟩

/-- Only the producer changed, and not its trackers. -/
theorem amended (s : World MemoryBroker κ α) {f : Producer κ → Producer κ}
    (hf : (f s.producer).trackers = s.producer.trackers) : Calm s (s.amended f) := by
  refine ⟨.of_journal (Nat.le_refl _) ?_ rfl, rfl⟩
  have htrackers : (s.amended f).trackers = s.trackers := hf
  rw [htrackers]
  exact .refl _

theorem marked (s : World MemoryBroker κ α) (k : Mark) : Calm s (s.marked k) := .amended s rfl

theorem released (s : World MemoryBroker κ α) (m : Message) :
    Calm s (s.retracked (·.release m)) :=
  .retracked s (s.trackers.spends_release m)

theorem granted (s : World MemoryBroker κ α) (id : TrackingId) (m : Message) :
    Calm s (s.granted id m) :=
  ((Calm.retracked s (s.trackers.spends_update id Tracker.spends_claimRetry)).trans
    (.marked _ .retried)).trans (.noted _ ⟨rfl, rfl, rfl⟩)

theorem dropped (s : World MemoryBroker κ α) (m : Message) (e : BrokerError) :
    Calm s (s.dropped m e) :=
  ((Calm.marked s .dropped).trans (.released _ m)).trans (.noted _ ⟨rfl, rfl, rfl⟩)

theorem delivered (s : World MemoryBroker κ α) (m : Message) : Calm s (s.delivered m) :=
  ((Calm.marked s .produced).trans (.released _ m)).trans (.noted _ ⟨rfl, rfl, rfl⟩)

end Calm

end Site

/-! ### Credit -/

/-- What is known of an application from outside: how often it may yet turn to the producer from
    within its hooks, and how its clock runs. -/
structure Terms (α : Type) where
  credit : α → Nat
  drift : Nat → Nat

namespace Site

variable {κ α : Type}

/-- The broker is awake and has room for a message, and `pending` counts what is in its queue and
    `d` reports that are being dealt with. -/
def Ready (d : Nat) (s : World MemoryBroker κ α) : Prop :=
  s.broker.paused = false ∧ 0 < s.broker.limits.capacity ∧
    s.producer.counters.pending = s.broker.inFlight.size + d

/-- The producer is ready, the application has at most `n` credit, and its clock runs as it is known
    to. -/
def Poised (K : Terms α) (n d : Nat) (s : World MemoryBroker κ α) : Prop :=
  K.credit s.owner.app ≤ n ∧ s.clock.drift = K.drift ∧ s.Ready d

/-- Only time has passed. -/
theorem Poised.later {K : Terms α} {n d : Nat} {s : World MemoryBroker κ α} (h : s.Poised K n d)
    {clock : Clock} (hclock : s.clock.Leads clock) : (s.turned s.broker clock).Poised K n d := by
  obtain ⟨hcredit, hdrift, hready⟩ := h
  exact ⟨hcredit, hclock.drift.trans hdrift, hready⟩

/-- Something was done, after which the producer is poised; and if nothing was paid for it, `F` is
    true. -/
structure Went (K : Terms α) (n d : Nat) (s t : World MemoryBroker κ α) (F : Prop) : Prop where
  poised : t.Poised K n d
  paid : K.credit t.owner.app ≤ K.credit s.owner.app
  clock : s.clock.Leads t.clock
  free : K.credit t.owner.app = K.credit s.owner.app → F

namespace Went

variable {K : Terms α} {n d d' : Nat} {s t u : World MemoryBroker κ α} {F G H : Prop}

/-- The application did nothing. -/
theorem of_idle (ht : t.Poised K n d) (happ : t.owner.app = s.owner.app)
    (hclock : s.clock.Leads t.clock) (h : F) : Went K n d s t F :=
  ⟨ht, by rw [happ], hclock, fun _ => h⟩

theorem refl (hs : s.Poised K n d) (h : F) : Went K n d s s F := of_idle hs rfl (.refl _) h

theorem trans (h : Went K n d s t F) (h' : Went K n d' t u G) (hF : F → G → H) :
    Went K n d' s u H := by
  obtain ⟨-, hpaid, hclock, hfree⟩ := h
  obtain ⟨hu, hpaid', hclock', hfree'⟩ := h'
  exact ⟨hu, hpaid'.trans hpaid, hclock.trans hclock', fun hcredit =>
    hF (hfree (by omega)) (hfree' (by omega))⟩

theorem mono (h : Went K n d s t F) (hF : F → G) : Went K n d s t G :=
  ⟨h.poised, h.paid, h.clock, fun hcredit => hF (h.free hcredit)⟩

/-- Then something happened without the application. -/
theorem onto (h : Went K n d s t F) (hu : u.Poised K n d') (happ : u.owner.app = t.owner.app)
    (hclock : t.clock.Leads u.clock) (hF : F → G) : Went K n d' s u G :=
  h.trans (of_idle (F := True) hu happ hclock trivial) fun hf _ => hF hf

/-- It began after something had happened without the application. -/
theorem after (h : Went K n d t u G) (happ : t.owner.app = s.owner.app)
    (hclock : s.clock.Leads t.clock) (hG : G → H) : Went K n d s u H := by
  obtain ⟨hu, hpaid, hclock', hfree⟩ := h
  rw [happ] at hpaid hfree
  exact ⟨hu, hpaid, hclock.trans hclock', fun hcredit => hG (hfree hcredit)⟩

end Went

end Site

end Outbox
