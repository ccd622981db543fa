import Mathlib.Data.Multiset.Count
import Outbox.Proofs.Application

/-! The counters balance. `pending` counts what the broker has yet to report together with the
    reports that are being dealt with, and every attempt is accounted for: it met a full queue, it
    came to nothing more than a retry, it led to a final outcome, or it is pending. So the counter
    is never counted down from zero. Nothing is asked of the hooks, and of the broker only that it
    is honest. Main statement: at every return to the outermost caller of a producer over the broker
    in memory, `pending` is the length of the broker's queue. -/

namespace Outbox

namespace Place

/-- The message was accepted, and no report of it has been dealt with to the end. -/
def isPending : Place → Bool
  | flying | reported .. | heard .. | lost .. | settled .. => true
  | _ => false

/-- The last attempt has ended and is not counted as anything yet. -/
def isOpen : Place → Bool
  | reported .. | heard .. | refused .. | pleaded .. => true
  | _ => false

theorem Tells.isPending_eq {p p' : Place} {kind : HookKind} {e : Option BrokerError}
    (h : p.Tells kind e p') : p'.isPending = p.isPending := by
  cases h <;> rfl

theorem Tells.isOpen_eq {p p' : Place} {kind : HookKind} {e : Option BrokerError}
    (h : p.Tells kind e p') : p'.isOpen = p.isOpen := by
  cases h <;> rfl

end Place

/-- The event comes just before `pending` is counted down. -/
def Event.countsDown : Event → Bool
  | offered _ (.error _) | acknowledged _ => true
  | _ => false

theorem Event.countsDown_of_isAside {e : Event} (h : e.isAside = true) : e.countsDown = false := by
  cases e <;> simp_all [isAside, countsDown]

/-- How often `pending` was counted down. -/
def countdowns (J : List Entry) : Nat := J.countP (·.event.countsDown)

@[simp] theorem countdowns_cons (e : Entry) (J : List Entry) :
    countdowns (e :: J) = countdowns J + if e.event.countsDown then 1 else 0 :=
  List.countP_cons

variable {β κ α : Type}

/-- Messages in hand whose reports are being dealt with. -/
def reports (H : Multiset (Place × Message)) : Nat := H.countP fun h => h.1.isPending

/-- Attempts that have ended and are not counted as anything yet. -/
def opens (H : Multiset (Place × Message)) : Nat := H.countP fun h => h.1.isOpen

@[simp] theorem reports_cons (p : Place) (m : Message) (H : Multiset (Place × Message)) :
    reports ((p, m) ::ₘ H) = reports H + if p.isPending then 1 else 0 :=
  Multiset.countP_cons ..

@[simp] theorem opens_cons (p : Place) (m : Message) (H : Multiset (Place × Message)) :
    opens ((p, m) ::ₘ H) = opens H + if p.isOpen then 1 else 0 :=
  Multiset.countP_cons ..

/-! ### Books -/

/-- The books: `n` messages are at the broker, the reports of `r` are being dealt with, `o` attempts
    have ended and are not counted as anything yet, and `J` was written down. -/
structure Books (n r o : Nat) (k : Counters) (J : List Entry) : Prop where
  pending : k.pending = n + r
  attempts : k.attempts = k.queueFull + k.produced + k.dropped + k.retries + n + o
  counted : k.attempts = k.pending + countdowns J
  guarded : ∀ e ∈ J, e.event.countsDown = true → 0 < e.reading.counters.pending

namespace Books

variable {n r o : Nat} {k : Counters} {J : List Entry} {e : Entry}

theorem opening : Books 0 0 0 {} [] := ⟨rfl, rfl, rfl, by simp⟩

/-- It does not matter what else is written down. -/
theorem note (h : Books n r o k J) (he : e.event.countsDown = false) : Books n r o k (e :: J) := by
  obtain ⟨hp, ha, hd, hg⟩ := h
  refine ⟨hp, ha, ?_, ?_⟩
  · rw [countdowns_cons, he, if_neg Bool.false_ne_true]
    exact hd
  · intro e' he' hdown
    rcases List.mem_cons.mp he' with rfl | he'
    · rw [he] at hdown
      contradiction
    · exact hg e' he' hdown

/-- What is counted down when `pending` is not zero. -/
theorem guarded_cons (hg : ∀ e ∈ J, e.event.countsDown = true → 0 < e.reading.counters.pending)
    (he : 0 < e.reading.counters.pending) :
    ∀ e' ∈ e :: J, e'.event.countsDown = true → 0 < e'.reading.counters.pending := by
  intro e' he' hdown
  rcases List.mem_cons.mp he' with rfl | he'
  · exact he
  · exact hg e' he' hdown

theorem accept (h : Books n r o k J) : Books (n + 1) r o (k.mark .offered) J := by
  obtain ⟨hp, ha, hd, hg⟩ := h
  refine ⟨?_, ?_, ?_, hg⟩ <;> simp only [Counters.mark]
  · omega
  · omega
  · omega

theorem refuse (h : Books n r o k J) (he : e.event.countsDown = true)
    (hk : e.reading.counters = k.mark .offered) :
    Books n r (o + 1) ((k.mark .offered).mark .refused) (e :: J) := by
  obtain ⟨hp, ha, hd, hg⟩ := h
  refine ⟨?_, ?_, ?_, guarded_cons hg (hk ▸ Nat.succ_pos _)⟩ <;>
    simp only [Counters.mark, countdowns_cons, he, if_true]
  · omega
  · omega
  · omega

/-- What an attempt that has ended may be counted as. -/
theorem count {mark : Mark} (h : Books n r (o + 1) k J)
    (hm : mark = .queueFull ∨ mark = .produced ∨ mark = .dropped ∨ mark = .retried) :
    Books n r o (k.mark mark) J := by
  obtain ⟨hp, ha, hd, hg⟩ := h
  rcases hm with rfl | rfl | rfl | rfl <;>
    exact ⟨hp, by simp only [Counters.mark]; omega, hd, hg⟩

/-- The attempt of a message in hand is counted, and written down, on the way to another place. -/
theorem conclude {mark : Mark} {k' : Counters} {J' : List Entry} {p p' : Place} {m : Message}
    {H : Multiset (Place × Message)}
    (h : Books n (reports ((p, m) ::ₘ H)) (opens ((p, m) ::ₘ H)) k J)
    (hp : p.isOpen = true) (hp' : p'.isOpen = false) (hpending : p'.isPending = p.isPending)
    (hm : mark = .queueFull ∨ mark = .produced ∨ mark = .dropped ∨ mark = .retried)
    (hk : k' = k.mark mark) (hJ : J' = e :: J) (he : e.event.countsDown = false) :
    Books n (reports ((p', m) ::ₘ H)) (opens ((p', m) ::ₘ H)) k' J' := by
  subst hk hJ
  rw [opens_cons, hp, if_pos rfl] at h
  rw [reports_cons, hpending, ← reports_cons p m H, opens_cons, hp', if_neg Bool.false_ne_true]
  exact (h.count hm).note he

theorem report (h : Books (n + 1) r o k J) : Books n (r + 1) (o + 1) k J := by
  obtain ⟨hp, ha, hd, hg⟩ := h
  exact ⟨by omega, by omega, hd, hg⟩

theorem acknowledge (h : Books n (r + 1) o k J) (he : e.event.countsDown = true)
    (hk : e.reading.counters = k) : Books n r o (k.mark .acknowledged) (e :: J) := by
  obtain ⟨hp, ha, hd, hg⟩ := h
  refine ⟨?_, ha, ?_, guarded_cons hg (by rw [hk]; omega)⟩ <;>
    simp only [Counters.mark, countdowns_cons, he, if_true]
  · omega
  · omega

end Books

namespace Scene

variable {c : Client β}

/-- The client has come a course to this scene, and the books of the producer are right. -/
structure Balanced (told : β → β → Prop) (b₀ : β) (S : Scene c κ α) : Prop extends
    Books S.flight.card (reports S.hands) (opens S.hands) S.world.producer.counters
      S.world.journal where
  course : c.Course told b₀ S.world.broker S.tasks S.flight

namespace Balanced

variable {told : β → β → Prop} {b₀ : β} {law : Law} {S S' : Scene c κ α}

theorem move (hc : c.Honest told b₀) (h : Move c told law S S') (hS : S.Balanced told b₀) :
    S'.Balanced told b₀ := by
  obtain ⟨hb, hcourse⟩ := hS
  cases h with
  | outside hprod hjour hbroker =>
    refine ⟨by rwa [hprod, hjour], ?_⟩
    rcases hbroker with hbroker | hbroker
    · rwa [hbroker]
    · exact hcourse.told hbroker
  | aside he => exact ⟨hb.note (Event.countsDown_of_isAside he), hcourse⟩
  | adjust hf =>
    refine ⟨?_, hcourse⟩
    rw [Site.producer_amended, hf.counters]
    exact ⟨hb.pending, hb.attempts, hb.counted, hb.guarded⟩
  | vain _ | arrange _ _ _ | giveUp _ _ | learn _ _ _ => exact ⟨hb, hcourse⟩
  | attach _ | store _ _ _ | take _ _ _ | part | engage _ | arm _ | retry _ _ =>
    exact ⟨by simpa [Place.isPending, Place.isOpen] using hb, hcourse⟩
  | submit _ | discard =>
    exact ⟨by simpa [Place.isPending, Place.isOpen] using hb.note rfl, hcourse⟩
  | accept hs =>
    refine ⟨?_, hcourse.accept hs⟩
    simpa [Place.isPending, Place.isOpen] using hb.accept.note rfl
  | full hs _ =>
    refine ⟨?_, hcourse.refuse hs⟩
    simpa [Place.isPending, Place.isOpen] using (hb.refuse rfl rfl).count (.inl rfl)
  | refuse hs _ =>
    refine ⟨?_, hcourse.refuse hs⟩
    simpa [Place.isPending, Place.isOpen] using hb.refuse rfl rfl
  | tell hp => exact ⟨by simpa [hp.isPending_eq, hp.isOpen_eq] using hb.note rfl, hcourse⟩
  | hush hp _ => exact ⟨by simpa [hp.isPending_eq, hp.isOpen_eq] using hb, hcourse⟩
  | requeue _ _ | retake _ _ =>
    exact ⟨hb.conclude rfl rfl rfl (.inr (.inr (.inr rfl))) rfl rfl rfl, hcourse⟩
  | forsake _ | lose _ =>
    exact ⟨hb.conclude rfl rfl rfl (.inr (.inr (.inl rfl))) rfl rfl rfl, hcourse⟩
  | deliver => exact ⟨hb.conclude rfl rfl rfl (.inr (.inl rfl)) rfl rfl rfl, hcourse⟩
  | begin task ht => exact ⟨hb, hcourse.begin task ht⟩
  | more hs => exact ⟨hb, hcourse.more hs⟩
  | finish hs => exact ⟨hb, hcourse.finish hs⟩
  | report hs =>
    refine ⟨?_, hcourse.report hs⟩
    have hcard := Multiset.card_erase_add_one (meant_spec (hc hcourse hs)).1
    rw [← hcard] at hb
    simpa [Place.isPending, Place.isOpen] using hb.report
  | @acknowledge T H W M s k f m =>
    have hb : Books M.card (reports H + 1) (opens H) s.producer.counters s.journal := by
      simpa [Place.isPending, Place.isOpen] using hb
    exact ⟨by simpa using hb.acknowledge rfl (Site.counters_completed s k _), by simpa using hcourse⟩
  | @regain T H W M s id e m | @leave T H W M s id e m =>
    have hb : Books M.card (reports H + 1) (opens H + 1) s.producer.counters s.journal := by
      simpa [Place.isPending, Place.isOpen] using hb
    have hb := (hb.count (.inr (.inr (.inr rfl)))).note
      (e := ((s.retracked (·.update id (·.claimRetry.2))).marked .retried).entry (.retried m)) rfl
    exact ⟨by simpa using hb.acknowledge rfl rfl, hcourse⟩

theorem moves (hc : c.Honest told b₀) (h : Relation.ReflTransGen (Move c told law) S S')
    (hS : S.Balanced told b₀) : S'.Balanced told b₀ := by
  induction h with
  | refl => exact hS
  | tail _ h ih => exact ih.move hc h

theorem opening (c : Client β) (told : β → β → Prop) (b : β) (clock : Clock) (settings : Settings)
    (scope : Nat) (a : α) :
    Balanced told b (⟨[], 0, 0, 0, .opening b clock settings scope a⟩ : Scene c κ α) :=
  ⟨.opening, .start⟩

end Balanced

end Scene

namespace Application

variable {ο : Type} {app : Application β κ α ο}

/-- Every run of an application with an honest client ends with its books in balance. -/
theorem balanced_run {b : β} (hc : app.client.Honest app.Told b) {clock : Clock}
    {settings : Settings} {scope : Nat} {a : α} {limit depth : Nat} {deeds : List (Deed κ α ο)}
    {v : Unit} {t : World β κ α}
    (h : app.run limit depth deeds (.opening b clock settings scope a) = some (v, t)) :
    ∃ M, (⟨[], 0, 0, M, t⟩ : Scene app.client κ α).Balanced app.Told b := by
  exact holds_of_run (fun h hS => hS.move hc h) (.opening ..) h

end Application

namespace MemoryBroker

/-- An application whose producer sends to a broker in memory. -/
def application (conduct : κ → HookKind → Message → Option BrokerError →
    Conduct MemoryBroker κ α MemoryWord) : Application MemoryBroker κ α MemoryWord where
  client := client
  tell w clock b := b.heed clock w
  conduct := conduct

theorem told_application {conduct : κ → HookKind → Message → Option BrokerError →
    Conduct MemoryBroker κ α MemoryWord} : (application conduct).Told = Heeds := by
  funext b b'
  exact propext ⟨fun ⟨w, clock, h⟩ => ⟨clock, w, h⟩, fun ⟨clock, w, h⟩ => ⟨w, clock, h⟩⟩

theorem exact_application (conduct : κ → HookKind → Message → Option BrokerError →
      Conduct MemoryBroker κ α MemoryWord) (limits : MemoryLimits) :
    (application conduct).client.Exact (application conduct).Told { limits := limits } := by
  rw [told_application]
  exact exact_client rfl

/-- Between operations the broker in memory has yet to report what is in its queue. -/
theorem flight_eq {conduct : κ → HookKind → Message → Option BrokerError →
      Conduct MemoryBroker κ α MemoryWord} {limits : MemoryLimits} {M : Multiset Message}
    {t : World MemoryBroker κ α}
    (h : (⟨[], 0, 0, M, t⟩ : Scene (application conduct).client κ α).Balanced
      (application conduct).Told { limits := limits }) :
    M = (t.broker.inFlight.toList : List Message) := by
  have hcourse := h.course
  rw [told_application] at hcourse
  simpa [heldBy] using course_outstanding hcourse rfl

/-- The books of a producer over the broker in memory, between two operations. -/
structure InBalance (t : World MemoryBroker κ α) : Prop where
  pending : t.producer.counters.pending = t.broker.inFlight.size
  attempts : t.producer.counters.attempts =
    t.producer.counters.queueFull + t.producer.counters.produced + t.producer.counters.dropped +
      t.producer.counters.retries + t.producer.counters.pending
  /-- Each attempt counts `pending` up by one, and each countdown takes one away. -/
  counted : t.producer.counters.attempts = t.producer.counters.pending + countdowns t.journal
  /-- No countdown was from zero. -/
  guarded : ∀ e ∈ t.journal, e.event.countsDown = true → 0 < e.reading.counters.pending

/-- At every return to the outermost caller the books balance, whatever the hooks do. -/
theorem inBalance_of_run {conduct : κ → HookKind → Message → Option BrokerError →
      Conduct MemoryBroker κ α MemoryWord} {limits : MemoryLimits} {clock : Clock}
    {settings : Settings} {scope : Nat} {a : α} {limit depth : Nat}
    {deeds : List (Deed κ α MemoryWord)} {t : World MemoryBroker κ α}
    (h : (application conduct).run limit depth deeds
      (.opening { limits := limits } clock settings scope a) = some ((), t)) : InBalance t := by
  have hc := exact_application conduct limits
  obtain ⟨M, hM⟩ := Application.balanced_run hc.honest h
  have hflight := flight_eq hM
  have hp : t.producer.counters.pending = M.card := hM.pending
  refine ⟨?_, ?_, hM.counted, hM.guarded⟩
  · rw [hp, hflight, Multiset.coe_card, Line.length_toList]
  · rw [hM.attempts, hp]
    rfl

/-- A hook that sends a message on to another topic, under the id it still has, and then discards
    what is buffered. -/
def forward (_ : Unit) (_ : HookKind) (m : Message) (_ : Option BrokerError) :
    Conduct MemoryBroker Unit Unit MemoryWord :=
  if m.topic = "in" then
    .act (.operate (.produce { m with topic := "out" })) fun _ =>
      .act (.operate .clear) fun _ => .answer true
  else .answer true

/-- A message is retried once and delivered, and each time a hook sends it on. -/
theorem inBalance_forward :
    ∃ t, (application forward).run 60 2
        [.register .delivered (), .register .deliveryFailed (), .operate (.setRetryBudget 2),
          .instruct (.order (.failNext 1)), .operate (.add { topic := "in" }),
          .operate (.flush true), .operate (.produce { topic := "out" })]
        (.opening { limits := {} } {} {} 0 ()) = some ((), t) ∧ InBalance t := by
  refine (Application.exists_run (p := fun _ => true) ?_).imp fun t ht =>
    ⟨ht.1, inBalance_of_run ht.1⟩
  decide +kernel

end MemoryBroker

end Outbox
