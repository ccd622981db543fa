import Outbox.Proofs.Attempt
import Outbox.Proofs.Stranded
import Outbox.Proofs.Trying

/-! What an ordered flush leaves over. It may stop before it is through with what was buffered, for
    want of time or because the broker failed, and then it puts the rest back where it was. In the
    meantime reports of other messages may come in, and those of them that are sent again by a later
    flush are put in front of the retry buffer one by one; they end up behind the rest. Main
    statement: so it is at whatever broker, and whatever the clock shows. -/

namespace Outbox

variable {β κ α ο : Type}

/-! ### What the journal tells -/

/-- What was offered, if the offering ended with it. -/
def Event.attempted : Event → Option Message
  | offered m (.ok _) => some m.untracked
  | offered m (.error e) => if e.isQueueFull then none else some m.untracked
  | _ => none

/-- The contents of the messages that were offered, the last one in front, apart from offers that met
    a full queue. -/
def attempts (J : List Entry) : List Message := J.filterMap (·.event.attempted)

/-- The messages that were put in front of the retry buffer, the last one in front: a retry was
    claimed for them, and one more was buffered when the report was acknowledged. -/
def requeues : List Entry → List Message
  | ⟨_, after, .acknowledged m⟩ :: ⟨scope, before, .retried n⟩ :: J =>
    if after.buffered = before.buffered + 1 then m :: requeues (⟨scope, before, .retried n⟩ :: J)
    else requeues (⟨scope, before, .retried n⟩ :: J)
  | _ :: J => requeues J
  | [] => []

theorem attempts_cons (e : Entry) (J : List Entry) :
    attempts (e :: J) = e.event.attempted.toList ++ attempts J := by
  rw [attempts, List.filterMap_cons]
  cases e.event.attempted <;> rfl

/-- Nothing is put back but when a report is acknowledged. -/
theorem requeues_cons {e : Entry} (he : ∀ m, e.event ≠ .acknowledged m) (J : List Entry) :
    requeues (e :: J) = requeues J := by
  obtain ⟨scope, reading, event⟩ := e
  cases event with
  | acknowledged m => exact absurd rfl (he m)
  | _ => rfl

/-- Nothing is put back without a retry. -/
theorem requeues_acknowledged {e f : Entry} (hf : ∀ m, f.event ≠ .retried m) (J : List Entry) :
    requeues (e :: f :: J) = requeues (f :: J) := by
  obtain ⟨scope, reading, event⟩ := e
  obtain ⟨scope', reading', event'⟩ := f
  cases event' with
  | retried m => exact absurd rfl (hf m)
  | _ => cases event <;> rfl

theorem requeues_retried {e f : Entry} {m n : Message} (he : e.event = .acknowledged m)
    (hf : f.event = .retried n) (J : List Entry) :
    requeues (e :: f :: J) =
      if e.reading.buffered = f.reading.buffered + 1 then m :: requeues J else requeues J := by
  obtain ⟨scope, reading, event⟩ := e
  obtain ⟨scope', reading', event'⟩ := f
  obtain rfl : event = .acknowledged m := he
  obtain rfl : event' = .retried n := hf
  rw [requeues, requeues_cons (by simp) J]

/-- From `s` to `t` this was offered, the last one in front, and of the buffers nothing changed
    except that messages were put back in front. -/
structure Through (offers : List Message) (s t : World β κ α) : Prop where
  regular : t.producer.regular = s.producer.regular
  retry : ∃ back, t.producer.retry.messages = back ++ s.producer.retry.messages ∧
    requeues t.journal = back ++ requeues s.journal
  offered : attempts t.journal = offers ++ attempts s.journal

namespace Through

variable {app : Application β κ α ο} {V : Verdicts} {s t u w : World β κ α} {m : Message}
  {offers offers' : List Message} {R : List DeliveryReport} {id : TrackingId}

theorem refl (s : World β κ α) : Through [] s s := ⟨rfl, ⟨[], rfl, rfl⟩, rfl⟩

theorem trans (h : Through offers s t) (h' : Through offers' t u) :
    Through (offers' ++ offers) s u := by
  obtain ⟨hregular, ⟨back, hretry, hrequeues⟩, hoffered⟩ := h
  obtain ⟨hregular', ⟨back', hretry', hrequeues'⟩, hoffered'⟩ := h'
  refine ⟨hregular'.trans hregular, ⟨back' ++ back, ?_, ?_⟩, ?_⟩
  · rw [hretry', hretry, List.append_assoc]
  · rw [hrequeues', hrequeues, List.append_assoc]
  · rw [hoffered', hoffered, List.append_assoc]

/-- The broker has changed, and time has passed. -/
theorem turned (h : Through offers s t) (b : β) (clock : Clock) :
    Through offers s (t.turned b clock) :=
  ⟨h.regular, h.retry, h.offered⟩

/-- The trackers have changed. -/
theorem retracked (h : Through offers s t) (f : TrackerTable → TrackerTable) :
    Through offers s (t.retracked f) :=
  ⟨h.regular, h.retry, h.offered⟩

/-- One event was written down, and no report was acknowledged. -/
theorem of_event {e : Entry} (hjournal : t.journal = e :: s.journal)
    (he : ∀ m, e.event ≠ .acknowledged m) (hoffers : e.event.attempted.toList = offers)
    (hregular : t.producer.regular = s.producer.regular)
    (hretry : t.producer.retry = s.producer.retry) : Through offers s t := by
  refine ⟨hregular, ⟨[], by rw [hretry]; rfl, by rw [hjournal, requeues_cons he]; rfl⟩, ?_⟩
  rw [hjournal, attempts_cons, hoffers]

theorem of_beside (h : s.Beside app.Told t) : Through [] s t := by
  refine ⟨h.regular, ⟨[], by rw [h.retry]; rfl, ?_⟩, ?_⟩
  · refine h.of_talk fun e J he => requeues_cons (fun m hm => ?_) J
    simp [hm, Event.isTalk] at he
  · refine h.of_talk fun e J he => ?_
    rw [attempts_cons]
    cases h : e.event <;> simp_all [Event.attempted, Event.isTalk]

/-- The report is acknowledged of a message that is not sent again. -/
theorem of_acknowledged {e : Entry} {J : List Entry} (hs : s.journal = e :: J)
    (he : ∀ n, e.event ≠ .retried n) (k : Option TrackingId) (o : Outcome) (m : Message) :
    Through [] s (s.acknowledged k o m) := by
  have hjournal : (s.acknowledged k o m).journal =
      (s.completed k o).entry (.acknowledged m) :: s.journal := s.journal_acknowledged ..
  refine ⟨by cases k <;> rfl, ⟨[], by cases k <;> rfl, ?_⟩, ?_⟩
  · rw [hjournal, hs, requeues_acknowledged he]
    rfl
  · rw [hjournal, attempts_cons]
    rfl

/-- To conclude a message is no retry, and neither is what hooks are told of it. -/
theorem head_of_beside (h : s.Beside app.Told t) {e : Entry} {J : List Entry}
    (hs : s.journal = e :: J) (he : ∀ n, e.event ≠ .retried n) :
    ∃ e' J', t.journal = e' :: J' ∧ ∀ n, e'.event ≠ .retried n := by
  obtain ⟨talk, hjournal, htalk⟩ := h.journal
  cases talk with
  | nil => exact ⟨e, J, hjournal.trans hs, he⟩
  | cons e' talk =>
    refine ⟨e', _, hjournal, fun n hn => ?_⟩
    have htalk := htalk e' (by simp)
    simp [hn, Event.isTalk] at htalk

/-- What comes of a report, acknowledged. -/
theorem of_received {r : DeliveryReport} {o : Outcome} (h : Received V s r o w)
    (ht : w.Beside app.Told t) (hretry : o = .retry → t = w) (k : Option TrackingId) :
    Through [] s (t.acknowledged k o r.message) := by
  cases h with
  | @delivered m =>
    have hw : Through [] s (s.delivered m) :=
      .of_event (s.journal_delivered m) (by simp) rfl rfl rfl
    obtain ⟨e, J, hJ, he⟩ := head_of_beside ht (s.journal_delivered m) (by simp)
    exact (hw.trans (.of_beside ht)).trans (.of_acknowledged hJ he k _ m)
  | @dropped m e hv =>
    have hw : Through [] s (s.dropped m e) :=
      .of_event (s.journal_dropped ..) (by simp) rfl rfl rfl
    obtain ⟨e', J, hJ, he⟩ := head_of_beside ht (s.journal_dropped ..) (by simp)
    exact (hw.trans (.of_beside ht)).trans (.of_acknowledged hJ he k _ m)
  | @requeued m e id hv hm hg =>
    obtain rfl := hretry rfl
    refine ⟨by cases k <;> rfl, ⟨[m], by cases k <;> rfl, ?_⟩, ?_⟩
    · rw [Site.journal_acknowledged]
      refine (requeues_retried rfl rfl _).trans (if_pos ?_)
      cases k <;> rfl
    · rw [Site.journal_acknowledged, attempts_cons]
      rfl
  | @left m e id hv hm hg =>
    obtain rfl := hretry rfl
    refine ⟨by cases k <;> rfl, ⟨[], by cases k <;> rfl, ?_⟩, ?_⟩
    · rw [Site.journal_acknowledged]
      refine (requeues_retried rfl rfl _).trans (if_neg ?_)
      cases k <;> exact (Nat.succ_ne_self _).symm
    · rw [Site.journal_acknowledged, attempts_cons]
      rfl

theorem of_handled {r : DeliveryReport} (h : s.Handled app.Told V r t) : Through [] s t := by
  obtain ⟨u, o, w, v, hu, hw, hv, hretry, rfl⟩ := h
  exact (Through.of_beside hu).trans (.of_received hw hv hretry _)

theorem of_meanwhile {T₀ T : List app.client.Task} (h : app.Meanwhile app.Told V T₀ s T R t) :
    Through [] s t := by
  induction h with
  | start => exact .refl s
  | beside _ hv ih => exact ih.trans (.of_beside hv)
  | begin _ _ _ ih => exact ih
  | more _ _ ih | finish _ _ ih => exact ih.turned _ _
  | report _ _ hv ih => exact (ih.turned _ _).trans (.of_handled hv)

theorem of_crowded (h : app.Crowded app.Told V m s R t) : Through [] s t := by
  induction h with
  | start => exact .refl s
  | @again R R' u v b e _ _ he hv ih =>
    have hrefused : Through [] u (((u.refused b m e).marked .queueFull).noted .polled) := by
      refine ⟨rfl, ⟨[], rfl, rfl⟩, ?_⟩
      rw [Site.journal_noted, Site.journal_marked, Site.journal_refused, attempts_cons,
        attempts_cons]
      simp [Event.attempted, he]
    exact (ih.trans hrefused).trans (.of_meanwhile hv)

theorem of_offered {answer : BrokerAnswer} (h : app.Offered app.Told V m s R answer t) :
    Through [m.untracked] s t := by
  cases h with
  | @accepted u b h hsend =>
    have hu : Through [m.untracked] u (u.accepted b m) :=
      .of_event (u.journal_accepted ..) (by simp) rfl rfl rfl
    exact (Through.of_crowded h).trans hu
  | @refused u b e h hsend he =>
    have hu : Through [m.untracked] u (u.refused b m e) :=
      .of_event (u.journal_refused ..) (by simp) (by simp [Event.attempted, he]) rfl rfl
    exact (Through.of_crowded h).trans hu

/-- A refused message that is its caller's is not buffered. -/
theorem of_coped {e : BrokerError} {again : Bool} (h : s.Coped app.Told V m e false again t) :
    Through [] s t := by
  obtain ⟨u, w, hu, hw, ht⟩ := h
  have hrefused : Through [] u w := by
    cases hw with
    | kept hv hm hg => exact .of_event (u.journal_granted ..) (by simp) rfl rfl rfl
    | dropped hv => exact .of_event (u.journal_dropped ..) (by simp) rfl rfl rfl
  exact ((Through.of_beside hu).trans hrefused).trans (.of_beside ht)

/-- In each attempt the message is offered once, full queues apart. -/
theorem of_tried {o : Unit ⊕ Except ProducerError Unit} (h : app.Tried app.Told V m s id o t) :
    Through [m.untracked] s t := by
  have hready : Through [] s (s.readied id) := (Through.refl s).retracked _
  cases h with
  | refused hu hv => exact (hready.trans (.of_offered hu)).trans (.of_coped hv)
  | failed hu hv | learnt hu hv =>
    exact ((hready.trans (.of_offered hu)).trans (.of_meanwhile hv)).retracked _

end Through

/-! ### Messages that are seen through -/

/-- A message that is seen through is offered at least once. -/
theorem through_sendSync {app : Application β κ α ο} (hq : app.Quiet) {limit depth : Nat}
    {s t : World β κ α} {m : Message} {r : Except ProducerError Unit}
    (h : (app.surroundings limit depth).sendSync m s = some (r, t)) :
    ∃ n, 0 < n ∧ Through (List.replicate n m.untracked) s t := by
  have huntracked : (s.engage m).1.untracked = m.untracked :=
    s.trackers.untracked_attach m _ _
  have hstart : Through [] s (s.engage m).2 := ((Through.refl s).retracked _).retracked _
  have hf : False → app.client.Faithful app.Told s.broker := False.elim
  have ha : False → app.Attuned app.Told s.broker [] 0 s := False.elim
  refine (Application.reaches_sendSync (fun _ _ : Unit => False)
    (P := fun _ u => ∃ n, Through (List.replicate n m.untracked) s u)
    (Q := fun _ t => ∃ n, 0 < n ∧ Through (List.replicate n m.untracked) s t) hf
    (Application.discreet_of_quiet hq _) ha False.elim (g := ()) ⟨0, hstart⟩
    fun {_ u o w} hu hw => ?_).post limit depth r t h
  obtain ⟨n, hu⟩ := hu
  have hthrough := hu.trans (.of_tried hw)
  rw [huntracked, List.singleton_append, ← List.replicate_succ] at hthrough
  cases o with
  | inl _ => exact ⟨(), ⟨n + 1, hthrough⟩, False.elim⟩
  | inr r => exact ⟨n + 1, Nat.succ_pos n, hthrough⟩

/-- A message of an ordered flush that was seen through: how often it was offered, full queues apart,
    with what result, and the time by the clock then. -/
structure Seeing where
  message : Message
  offers : Nat
  result : Except ProducerError Unit
  moment : Nat

namespace Seeing

/-- The error, if it is more than the fate of the message. -/
def grave? (x : Seeing) : Option ProducerError :=
  match x.result with
  | .ok () | .error (.refused _) | .error (.undelivered _) => none
  | .error e => some e

/-- The flush goes no further than this message: the error is grave or the time is up. -/
def stops (start : Nat) (timeout : Option Span) (x : Seeing) : Bool :=
  x.grave?.isSome || timeout.any (·.nanos ≤ x.moment - start)

/-- The offers of the message. -/
def block (x : Seeing) : List Message := List.replicate x.offers x.message.untracked

/-- The world after somebody looked at the clock, if there was any need to. -/
def lookedAt (x : Seeing) (timeout : Option Span) (s : World β κ α) : World β κ α :=
  if timeout.isSome && x.grave?.isNone then s.turned s.broker s.clock.read.2 else s

end Seeing

/-- The messages were seen through one after the other, each from where the last was done with. -/
inductive SeenThrough (env : Surroundings β κ α) (timeout : Option Span) :
    World β κ α → List Seeing → World β κ α → Prop where
  | nil (s) : SeenThrough env timeout s [] s
  | cons {s t u : World β κ α} {x : Seeing} {rest : List Seeing}
      (h : env.sendSync x.message s = some (x.result, u)) (hx : x.moment = u.clock.now)
      (ht : SeenThrough env timeout (x.lookedAt timeout u) rest t) :
      SeenThrough env timeout s (x :: rest) t

/-- Of the batch the first messages were seen through, and if they are not all, then the last of them
    stopped the flush, and none before it. -/
structure Stretch (env : Surroundings β κ α) (start : Nat) (timeout : Option Span) (batch : Batch)
    (s : World β κ α) (result : Except ProducerError Unit) (t : World β κ α) (done : List Seeing) :
    Prop where
  seen : SeenThrough env timeout s done t
  first : done.map (·.message) = batch.take done.length
  positive : ∀ x ∈ done, 0 < x.offers
  through : Through (done.flatMap Seeing.block).reverse s t
  begun : batch ≠ [] → done ≠ []
  onward : ∀ x ∈ done.dropLast, x.stops start timeout = false
  stopped : done.length < batch.length → ∃ x ∈ done.getLast?, x.stops start timeout = true
  result : result = (done.getLast?.bind Seeing.grave?).elim (.ok ()) .error

section

variable {env : Surroundings β κ α} {start : Nat} {timeout : Option Span} {batch : Batch}
  {s t u : World β κ α} {result : Except ProducerError Unit} {done : List Seeing} {x : Seeing}

theorem Stretch.nil : Stretch env start timeout [] s (.ok ()) s [] where
  seen := .nil s
  first := rfl
  positive := by simp
  through := .refl s
  begun h := absurd rfl h
  onward := by simp
  stopped := by simp
  result := rfl

/-- What was done with one message, and what was done with the rest. -/
theorem Through.seeing {y : List Seeing}
    (hx : Through x.block s u)
    (ht : Through (y.flatMap Seeing.block).reverse (x.lookedAt timeout u) t) :
    Through ((x :: y).flatMap Seeing.block).reverse s t := by
  have hu : Through x.block s (x.lookedAt timeout u) := by
    unfold Seeing.lookedAt
    split
    · exact hx.turned _ _
    · exact hx
  have hst := hu.trans ht
  rw [Seeing.block, ← List.reverse_replicate, ← List.reverse_append] at hst
  rwa [List.flatMap_cons, Seeing.block]

/-- The message is the last, as it stops the flush. -/
theorem Stretch.last (start : Nat) (timeout : Option Span)
    (h : env.sendSync x.message s = some (x.result, u)) (hx : x.moment = u.clock.now)
    (hpositive : 0 < x.offers) (hthrough : Through x.block s u)
    (hstops : x.stops start timeout = true) (rest : Batch) :
    Stretch env start timeout (x.message :: rest) s (x.grave?.elim (.ok ()) .error)
      (x.lookedAt timeout u) [x] where
  seen := .cons h hx (.nil _)
  first := rfl
  positive := by simpa using hpositive
  through := hthrough.seeing (.refl _)
  begun := by simp
  onward := by simp
  stopped _ := ⟨x, rfl, hstops⟩
  result := rfl

/-- The message does not stop the flush, which goes on with the rest. -/
theorem Stretch.cons (h : env.sendSync x.message s = some (x.result, u))
    (hx : x.moment = u.clock.now) (hpositive : 0 < x.offers) (hthrough : Through x.block s u)
    (hstops : x.stops start timeout = false)
    (ht : Stretch env start timeout batch (x.lookedAt timeout u) result t done) :
    Stretch env start timeout (x.message :: batch) s result t (x :: done) := by
  obtain ⟨hseen, hfirst, hpositive', hthrough', hbegun, honward, hstopped, hresult⟩ := ht
  have hgrave : x.grave? = none := by
    rw [Seeing.stops, Bool.or_eq_false_iff] at hstops
    simpa using hstops.1
  refine ⟨.cons h hx hseen, ?_, ?_, hthrough.seeing hthrough', by simp, ?_, ?_, ?_⟩
  · rw [List.map_cons, hfirst, List.length_cons, List.take_succ_cons]
  · simpa using ⟨hpositive, hpositive'⟩
  · intro y hy
    cases done with
    | nil => simp at hy
    | cons z done =>
      rw [List.dropLast_cons_cons, List.mem_cons] at hy
      rcases hy with rfl | hy
      · exact hstops
      · exact honward y hy
  · intro hlt
    have hlt : done.length < batch.length := by simpa using hlt
    obtain ⟨y, hy, hstops⟩ := hstopped hlt
    refine ⟨y, ?_, hstops⟩
    rw [List.getLast?_cons, Option.mem_def.mp hy]
    rfl
  · rw [hresult, List.getLast?_cons]
    cases h : done.getLast? with
    | none => simp [hgrave]
    | some y => rfl

end

/-- After a message that has met its fate the flush goes on while there is time. -/
theorem meets_goOn {env : Surroundings β κ α} (start k : Nat) (timeout : Option Span) {rest : Batch}
    {s u : World β κ α} {x : Seeing} (h : env.sendSync x.message s = some (x.result, u))
    (hx : x.moment = u.clock.now) (hpositive : 0 < x.offers) (hthrough : Through x.block s u)
    (hgrave : x.grave? = none)
    (ih : ∀ s, (env.sendInOrder start timeout (k + 1) rest).Meets False s fun r t =>
      ∃ done, r.1 = k + 1 + done.length ∧ Stretch env start timeout rest s r.2 t done) :
    Act.Meets False (do
        if ← Surroundings.timeIsUp start timeout then return (k + 1, .ok ())
        else env.sendInOrder start timeout (k + 1) rest :
          Work β κ α (Nat × Except ProducerError Unit)) u fun r t =>
      ∃ done, r.1 = k + done.length ∧
        Stretch env start timeout (x.message :: rest) s r.2 t done := by
  have hstops : x.stops start timeout = timeout.any (·.nanos ≤ u.clock.now - start) := by
    rw [Seeing.stops, hgrave, hx]
    rfl
  have hlook : x.lookedAt timeout u =
      if timeout.isSome then u.turned u.broker u.clock.read.2 else u := by
    rw [Seeing.lookedAt, hgrave, Option.isNone_none, Bool.and_true]
  refine .step (Surroundings.timeIsUp_eq ..) ?_
  rw [← hlook]
  cases hup : timeout.any (·.nanos ≤ u.clock.now - start) with
  | true =>
    have hlast := Stretch.last start timeout h hx hpositive hthrough (hstops.trans hup) rest
    rw [hgrave] at hlast
    exact .pure ⟨[x], rfl, hlast⟩
  | false =>
    refine (ih _).mono fun r t ht => ?_
    obtain ⟨done, hk, hstretch⟩ := ht
    refine ⟨x :: done, ?_, hstretch.cons h hx hpositive hthrough (hstops.trans hup)⟩
    rw [hk, List.length_cons]
    omega

/-- Messages are seen through in order until one of them stops the flush. -/
theorem meets_sendInOrder_stretch {app : Application β κ α ο} (hq : app.Quiet) {limit depth : Nat}
    (start : Nat) (timeout : Option Span) (k : Nat) (batch : Batch) (s : World β κ α) :
    ((app.surroundings limit depth).sendInOrder start timeout k batch).Meets False s fun r t =>
      ∃ done, r.1 = k + done.length ∧
        Stretch (app.surroundings limit depth) start timeout batch s r.2 t done := by
  induction batch generalizing k s with
  | nil => exact .pure ⟨[], rfl, .nil⟩
  | cons m rest ih =>
    refine .bind (P := fun r u => (app.surroundings limit depth).sendSync m s = some (r, u))
      ⟨fun _ _ h => h, False.elim⟩ fun r u h => ?_
    obtain ⟨n, hn, hthrough⟩ := through_sendSync hq h
    have hgo hgrave := meets_goOn start k timeout (x := ⟨m, n, r, u.clock.now⟩) h rfl hn hthrough
      hgrave fun s => ih (k + 1) s
    have hstop := Stretch.last start timeout (x := ⟨m, n, r, u.clock.now⟩) h rfl hn hthrough
    cases r with
    | ok _ => exact hgo rfl
    | error e =>
      cases e with
      | refused _ | undelivered _ => exact hgo rfl
      | invalidArgument _ | invalidSettings _ | broker _ | outcomeLost =>
        have hstop := hstop rfl rest
        simp only [Seeing.lookedAt, Seeing.grave?, Option.isNone_some, Bool.and_false] at hstop
        exact .pure ⟨_, rfl, hstop⟩

/-! ### Ordered flushes -/

/-- The ordered flush, within a time if there is one. -/
def orderedFlush : Option Span → Operation Message
  | none => .flush true
  | some timeout => .flushFor timeout true

/-- What an ordered flush replies: whether everything was sent is told only if there was a timeout. -/
def orderedReply (timeout : Option Span) (result : Except ProducerError Bool) : Reply :=
  if timeout.isSome then .ofVerdict result else .ofResult (result.map fun _ => ())

/-- An ordered flush of what was buffered in `s` saw these messages through, and put back the others.
    It was begun at `s.clock.now`. -/
structure PutsBack (env : Surroundings β κ α) (timeout : Option Span) (s : World β κ α)
    (result : Except ProducerError Bool) (t : World β κ α) (done : List Seeing) : Prop where
  /-- One message after the other was seen through, and with the last everything ended. -/
  seen : ∃ u, SeenThrough env timeout s.opened done u ∧
    t = u.closed s.producer.retry.messages s.producer.regular.messages done.length
  /-- They were the first messages, those to be sent again before the others. -/
  first : done.map (·.message) =
    (s.producer.retry.messages ++ s.producer.regular.messages).take done.length
  positive : ∀ x ∈ done, 0 < x.offers
  /-- These messages were offered, and in order, and nothing else was. -/
  offered : attempts t.journal = (done.flatMap Seeing.block).reverse ++ attempts s.journal
  /-- What is left to be sent again is in front of what was put back meanwhile. -/
  retry : ∃ back, t.producer.retry.messages =
    s.producer.retry.messages.drop done.length ++ back ∧
      requeues t.journal = back ++ requeues s.journal
  regular : t.producer.regular.messages =
    s.producer.regular.messages.drop (done.length - s.producer.retry.messages.length)
  /-- Something is sent in any case if there is something. -/
  begun : s.producer.buffered ≠ 0 → done ≠ []
  onward : ∀ x ∈ done.dropLast, x.stops s.clock.now timeout = false
  stopped : done.length < s.producer.buffered →
    ∃ x ∈ done.getLast?, x.stops s.clock.now timeout = true
  result : result = (done.getLast?.bind Seeing.grave?).elim
    (.ok (done.length == s.producer.buffered)) .error

theorem meets_flushInOrder_putsBack {app : Application β κ α ο} (hq : app.Quiet)
    {limit depth : Nat} (timeout : Option Span) (s : World β κ α) :
    ((app.surroundings limit depth).flushInOrder timeout).Meets False s fun result t =>
      ∃ done, PutsBack (app.surroundings limit depth) timeout s result t done := by
  have hsize : (s.producer.retry.messages ++ s.producer.regular.messages).length =
      s.producer.buffered := by
    rw [List.length_append, Buffer.length_messages, Buffer.length_messages, Nat.add_comm]
    rfl
  refine Surroundings.meets_flushInOrder ((meets_sendInOrder_stretch hq s.clock.now timeout 0 _
    s.opened).mono fun r u hu => ?_)
  obtain ⟨done, hk, hseen, hfirst, hpositive, hthrough, hbegun, honward, hstopped, hresult⟩ := hu
  obtain ⟨k, result⟩ := r
  obtain rfl : k = done.length := hk.trans (Nat.zero_add _)
  obtain ⟨hregular, ⟨back, hretry, hrequeues⟩, hoffered⟩ := hthrough
  rw [hsize] at hstopped
  refine ⟨done, ⟨u, hseen, rfl⟩, hfirst, hpositive, hoffered, ⟨back, ?_, hrequeues⟩, ?_, ?_, honward,
    hstopped, ?_⟩
  · rw [Site.retry_closed, hretry]
    exact congrArg _ (List.append_nil back)
  · rw [Site.regular_closed, hregular]
    exact List.append_nil _
  · intro hne
    refine hbegun fun hnil => hne ?_
    rw [← hsize, hnil]
    rfl
  · rw [List.length_append] at hsize
    dsimp only at hresult ⊢
    rw [hresult, hsize]
    cases done.getLast?.bind Seeing.grave? <;> rfl

/-- An ordered flush puts back exactly what it did not send. -/
theorem putsBack_of_operate {app : Application β κ α ο} (hq : app.Quiet) {limit depth : Nat}
    {timeout : Option Span} {s t : World β κ α} {reply : Reply}
    (h : (app.surroundings limit depth).operate (orderedFlush timeout) s = some (reply, t)) :
    ∃ result done, reply = orderedReply timeout result ∧
      PutsBack (app.surroundings limit depth) timeout s result t done := by
  have hflush {result : Except ProducerError Bool}
      (h : (app.surroundings limit depth).flushInOrder timeout s = some (result, t)) :=
    (meets_flushInOrder_putsBack hq timeout s).post result t h
  cases timeout with
  | none =>
    obtain ⟨_, hreply, rfl⟩ := Work.of_reply h
    obtain ⟨result, hresult, rfl⟩ := Work.of_reply hreply
    obtain ⟨done, hdone⟩ := hflush hresult
    exact ⟨result, done, rfl, hdone⟩
  | some timeout =>
    obtain ⟨result, hresult, rfl⟩ := Work.of_reply h
    obtain ⟨done, hdone⟩ := hflush hresult
    exact ⟨result, done, rfl, hdone⟩

namespace ScriptedBroker

/-- A broker that reports nothing when it is flushed first. Then it reports its oldest message as not
    delivered and another as delivered, and the third time it fails. -/
def faltering : ScriptedBroker where
  script :=
    { flushes := [
        { actions := [] },
        { actions := [.report 0 (some (.undelivered "lost")), .report 0 none] },
        { actions := [], answer := .error (.other "broker down") }] }

/-- One message is on its way, and three are buffered. -/
def arrivals : List (Deed Unit Unit PlainScript) :=
  [.operate (.add { topic := "a" }), .operate .flushAsync, .operate (.add { topic := "b" }),
    .operate (.add { topic := "c" }), .operate (.add { topic := "d" })]

/-- The flush failed, the message that was on its way will be sent again, and one is left over. -/
def isFaltered (r : Reply × World ScriptedBroker Unit Unit) : Bool :=
  decide (r.1 = .failed (.broker (.other "broker down"))) &&
    r.2.producer.retry.messages.map (·.topic) == ["a"] &&
    r.2.producer.regular.messages.map (·.topic) == ["d"]

/-- An ordered flush is going to fail like that. -/
def falters (s : World ScriptedBroker Unit Unit) : Bool :=
  (((application consent).surroundings 20 2).operate (orderedFlush none) s).any isFaltered

theorem putsBack_faltering : ∃ s t,
    (application consent).run 20 2 arrivals (.opening faltering {} { retryBudget := 1 } 0 ()) =
      some ((), s) ∧
    ((application consent).surroundings 20 2).operate (orderedFlush none) s =
      some (.failed (.broker (.other "broker down")), t) ∧
    t.producer.retry.messages.map (·.topic) = ["a"] ∧
    t.producer.regular.messages.map (·.topic) = ["d"] ∧
    ∃ result done, Reply.failed (.broker (.other "broker down")) = orderedReply none result ∧
      PutsBack ((application consent).surroundings 20 2) none s result t done := by
  have hfalters : ((application consent).run 20 2 arrivals
      (.opening faltering {} { retryBudget := 1 } 0 ())).any (fun r => falters r.2) = true := by
    decide +kernel
  obtain ⟨s, hs, hp⟩ := Application.exists_run hfalters
  obtain ⟨⟨reply, t⟩, ht, hp⟩ := (Option.any_eq_true ..).mp hp
  simp only [isFaltered, Bool.and_eq_true, decide_eq_true_eq, beq_iff_eq] at hp
  obtain ⟨⟨rfl, hretry⟩, hregular⟩ := hp
  exact ⟨s, t, hs, ht, hretry, hregular, putsBack_of_operate quiet_consent ht⟩

end ScriptedBroker

end Outbox
