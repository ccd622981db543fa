import Outbox.Proofs.Tally

/-! No message is lost and none is duplicated. The broker in memory keeps a log of what it
    delivered; between operations this is what the producer found delivered. Main statement: at
    every return to the outermost caller every message that was handed in is in exactly one place: a
    buffer, the broker's queue, its log, or among those that were dropped or cleared. -/

namespace Outbox

namespace Place

/-- The message was reported as delivered and this is not concluded yet. -/
def isSuccess : Place → Bool
  | reported _ none | heard _ none => true
  | _ => false

theorem Tells.isSuccess_eq {p p' : Place} {kind : HookKind} {e : Option BrokerError}
    (h : p.Tells kind e p') : p'.isSuccess = p.isSuccess := by
  cases h <;> rfl

end Place

namespace MemoryBroker

variable {κ α : Type} {law : Law}

/-- What the broker has delivered was found delivered, or is in hand as such. -/
def Logged (S : Scene client κ α) : Prop :=
  (S.world.broker.delivered.toList : Multiset Message) =
    departed Fate.isDelivered S.world.journal + inHand Place.isSuccess S.hands

theorem logged_move {S S' : Scene client κ α} (h : Move client Heeds law S S') (hs : Logged S) :
    Logged S' := by
  unfold Logged at hs ⊢
  cases h with
  | outside _ hj hb =>
    rcases hb with hb | hb
    · simpa only [hj, hb] using hs
    · simpa only [hj, delivered_of_heeds hb] using hs
  | aside he => simpa [Event.leaving_of_isAside he] using hs
  | accept hsend => simpa [inHand_cons, Place.isSuccess, (send_ok hsend).2, Event.leaving] using hs
  | full hsend _ | refuse hsend _ =>
    simpa [inHand_cons, Place.isSuccess, (send_error hsend).2, Event.leaving] using hs
  | @tell T H W M s p p' m kind e hp =>
    simpa [inHand_cons, hp.isSuccess_eq, Event.leaving] using hs
  | hush hp _ => simpa only [inHand_cons, hp.isSuccess_eq] using hs
  | more hstep => simpa [(yields_of_step hstep).2] using hs
  | finish hstep => simpa [(yields_of_step hstep).2.2.1] using hs
  | @report T H W M s task next r b clock hstep =>
    obtain ⟨m, batch, purpose, -, -, rfl, rfl⟩ := yields_of_step hstep
    dsimp only at hs ⊢
    rw [Site.broker_turned, delivered_deliver, ← Multiset.coe_add, hs, Site.journal_turned,
      inHand_cons, message_deliver]
    cases (s.broker.deliver m).1.failure with
    | none => simp only [Place.isSuccess, if_true, Multiset.coe_singleton]; abel
    | some e => simp [Place.isSuccess]
  | deliver =>
    simpa [inHand_cons, Place.isSuccess, Event.leaving, Fate.isDelivered, add_left_comm] using hs
  | _ =>
    simpa [inHand_cons, Place.isSuccess, Event.leaving, Fate.isDelivered] using hs

theorem logged_moves {S S' : Scene client κ α}
    (h : Relation.ReflTransGen (Move client Heeds law) S S') (hs : Logged S) : Logged S' := by
  induction h with
  | refl => exact hs
  | tail _ h ih => exact logged_move h ih

/-- Where the messages of a producer over the broker in memory are, between two operations. -/
structure Accounted (t : World MemoryBroker κ α) : Prop where
  /-- The messages that were handed in are those in the buffers, those in the broker's queue, those
      in its log, and those that were dropped or cleared: each is in one of these places. An id is
      no part of a message here, since the producer gives it one. -/
  places : (t.stock + (t.broker.inFlight.toList : List Message) +
      (t.broker.delivered.toList : List Message) + departed Fate.isDropped t.journal +
      departed Fate.isCleared t.journal).map Message.untracked =
    (arrived t.journal).map Message.untracked
  /-- So they are as many as the counters say. -/
  counts : (arrived t.journal).card =
    t.producer.buffered + t.producer.counters.pending + t.producer.counters.produced +
      t.producer.counters.dropped + (departed Fate.isCleared t.journal).card

/-- At every return to the outermost caller every message is in one place, if none was handed in
    under an id of the producer. -/
theorem accounted_of_run {conduct : κ → HookKind → Message → Option BrokerError →
      Conduct MemoryBroker κ α MemoryWord} {limits : MemoryLimits} {clock : Clock}
    {settings : Settings} {scope : Nat} {a : α} {limit depth : Nat}
    {deeds : List (Deed κ α MemoryWord)} {t : World MemoryBroker κ α}
    (h : (application conduct).run limit depth deeds
      (.opening { limits := limits } clock settings scope a) = some ((), t))
    (hX : ∀ e ∈ t.journal, e.event.isForgery scope = false) : Accounted t := by
  have hc := exact_application conduct limits
  have ho : (application conduct).Obeys ⟨False, True⟩ := ⟨not_mayFail, .inr trivial⟩
  obtain ⟨M, hmoves⟩ := Application.leads_run (H := 0) (W := 0) (T := []) ho (.inl trivial) h 0
  have hS := Scene.Balanced.opening (κ := κ) client (application conduct).Told
    { limits := limits } clock settings scope a
  have hM := hS.moves hc.honest hmoves
  have hflight := flight_eq hM
  have hlog : Logged (⟨[], 0, 0, M, t⟩ : Scene client κ α) := by
    rw [told_application] at hmoves
    exact logged_moves hmoves rfl
  have hlog : (t.broker.delivered.toList : Multiset Message) =
      departed Fate.isDelivered t.journal := by simpa [Logged] using hlog
  have haccount := Scene.Conserves.moves hc.honest (hc.keeps Message.untracked) (fun _ _ => rfl)
    hmoves id ⟨id, id⟩ hS (fun X => unforged_of_scope hX)
    (Scene.orderly_opening Message.untracked _ client _ clock settings scope a)
  have hplaces : (t.stock + (t.broker.inFlight.toList : List Message) +
      (t.broker.delivered.toList : List Message) + departed Fate.isDropped t.journal +
      departed Fate.isCleared t.journal).map Message.untracked =
      (arrived t.journal).map Message.untracked := by
    rw [Scene.Conserves, Apace, Scene.account_rest, Scene.account_rest, departed_eq, ← hlog,
      hflight] at haccount
    simpa [add_assoc, Site.stock, arrived, departed, gather, Site.opening, Site.journal,
      Site.producer, Producer.start, Buffer.messages] using haccount
  refine ⟨hplaces, ?_⟩
  have hcount := Scene.counted_moves hmoves ⟨rfl, rfl⟩
  have hstock : t.stock.card = t.producer.buffered := by
    simp [Site.stock, Producer.buffered]
  have hpending : t.producer.counters.pending = M.card := hM.pending
  have hcard := congrArg Multiset.card hplaces
  rw [hlog, ← hflight] at hcard
  simp only [Multiset.card_map, Multiset.card_add] at hcard
  rw [← hcard, hstock, hpending, hcount.produced, hcount.dropped]

/-- A hook that reports a failure on another topic, and agrees to retries on one topic only. -/
def complain (_ : Unit) (_ : HookKind) (m : Message) (_ : Option BrokerError) :
    Conduct MemoryBroker Unit Unit MemoryWord :=
  .act (.operate (.produce { topic := "failures" })) fun _ => .answer (m.topic = "retry")

/-- Deliveries fail from within a hook and outside it, are retried and vetoed; in the end one message
    was cleared, one is buffered and one is at the broker. -/
def incidents : List (Deed Unit Unit MemoryWord) :=
  [.register .deliveryFailed (), .operate (.setRetryBudget 2), .instruct (.order (.failNext 3)),
    .operate (.produceSync { topic := "retry" }), .operate (.produceSync { topic := "veto" }),
    .operate (.add { topic := "early" }), .operate .clear, .operate (.add { topic := "late" }),
    .operate (.produce { topic := "last" })]

/-- No message was handed in under an id of the first producer. -/
def isGenuine (t : World MemoryBroker Unit Unit) : Bool :=
  t.journal.all fun e => !e.event.isForgery 0

/-- The topics of the messages that came in, and of those in the buffers, in the broker's queue and
    in its log, of those that were dropped and of those that were cleared. -/
def topics (t : World MemoryBroker Unit Unit) : List (Multiset String) :=
  [arrived t.journal, t.stock, t.broker.inFlight.toList, t.broker.delivered.toList,
    departed Fate.isDropped t.journal, departed Fate.isCleared t.journal].map
      (Multiset.map (·.topic))

/-- Five messages are handed in from outside and three from within the hook. -/
def isTold (t : World MemoryBroker Unit Unit) : Bool :=
  isGenuine t && topics t ==
    [↑(["retry", "veto", "early", "late", "last"] ++ ["failures", "failures", "failures"]),
      {"late"}, {"last"}, ↑["failures", "retry", "veto"], ↑["failures", "failures"], {"early"}]

/-- Of the eight messages one is buffered, one is in the queue, three are in the log, two were
    dropped and one was cleared. -/
theorem accounted_complain :
    ∃ t, (application complain).run 60 2 incidents (.opening { limits := {} } {} {} 0 ()) =
        some ((), t) ∧
      (∀ e ∈ t.journal, e.event.isForgery 0 = false) ∧
      topics t =
        [↑(["retry", "veto", "early", "late", "last"] ++ ["failures", "failures", "failures"]),
          {"late"}, {"last"}, ↑["failures", "retry", "veto"], ↑["failures", "failures"],
          {"early"}] ∧
      Accounted t := by
  have hrun : ((application complain).run 60 2 incidents
      (.opening { limits := {} } {} {} 0 ())).any (fun r => isTold r.2) = true := by
    decide +kernel
  obtain ⟨t, ht, hp⟩ := Application.exists_run hrun
  simp only [isTold, Bool.and_eq_true, beq_iff_eq] at hp
  obtain ⟨hgenuine, htopics⟩ := hp
  have hX : ∀ e ∈ t.journal, e.event.isForgery 0 = false := by simpa [isGenuine] using hgenuine
  exact ⟨t, ht, hX, htopics, accounted_of_run ht hX⟩

end MemoryBroker

end Outbox
