import Outbox.Proofs.Meanwhile
import Outbox.Proofs.Reception
import Outbox.Proofs.Register
import Outbox.Proofs.Stranded

/-! Who sends a message again that failed. While a caller waits for a message the tracker says that
    the caller does, and a caller who goes away without an outcome hands the message back. Main
    statement: between two deeds no tracker is a caller's, whatever errors the client answered with.
    So every report of a failure that comes in while nobody waits for single messages puts its
    message in front of what is to be sent again, if there is a retry left and no veto. -/

namespace Outbox

variable {β κ α ο : Type}

/-- In the course of the deed a caller waits for single messages. -/
def Deed.isOrdered : Deed κ α ο → Bool
  | operate op => op.isOrdered
  | _ => false

/-! ### Trackers that are nobody's -/

namespace Thread

variable {X : TrackingId} {law : Law} {P : Multiset (Place × Message)} {k : Tracker}

/-- Where nobody waits, a live tracker is not a caller's. -/
theorem Sound.async (h : Sound X law ⟨P, 0, some ⟨k, true⟩⟩) (hp : ∀ q ∈ P, q.1.isAtRest = true) :
    k.sender = .async := by
  rcases h with ⟨-, ⟨-, he⟩ | ⟨_, _, _, hW, -⟩ | ⟨_, he, -⟩ | ⟨-, hfree⟩⟩ | ⟨p, m, hP, hat⟩
  · exact absurd he (by simp)
  · exact absurd hW.symm (Multiset.singleton_ne_zero _)
  · simp at he
  · exact hfree.eq.2.2
  · have hrest := hp (p, m) (by rw [show P = {(p, m)} from hP]; exact Multiset.mem_singleton_self _)
    exact (free_of_isAtRest hat hrest).eq.2.2

end Thread

namespace Site

/-- No live tracker is a caller's. -/
def Unclaimed (s : World β κ α) : Prop :=
  ∀ X k, s.trackers.lookup? X = some ⟨k, true⟩ → k.sender = .async

/-- No report was dealt with, and no tracker became a caller's. -/
structure Undisturbed (s t : World β κ α) : Prop where
  settling : gather Event.settling t.journal = gather Event.settling s.journal
  unclaimed : s.Unclaimed → t.Unclaimed

variable {s t : World β κ α}

theorem Unclaimed.of_lookup (hs : s.Unclaimed)
    (h : ∀ X, t.trackers.lookup? X = s.trackers.lookup? X) : t.Unclaimed :=
  fun X k hk => hs X k ((h X).symm.trans hk)

theorem Unclaimed.release (hs : s.Unclaimed) (m : Message) :
    (s.retracked (·.release m)).Unclaimed := by
  intro X k hk
  rcases TrackerTable.entry_of_release hk with hk | ⟨e, -, he⟩
  · exact hs X k hk
  · cases he

/-- A change to a tracker that does not make it a caller's. -/
theorem Unclaimed.update (hs : s.Unclaimed) (id : TrackingId) {f : Tracker → Tracker}
    (hf : ∀ k, (f k).sender = k.sender) : (s.retracked (·.update id f)).Unclaimed := by
  intro X k hk
  rcases TrackerTable.entry_of_update hk with hk | ⟨⟨k', live⟩, hk', he⟩
  · exact hs X k hk
  · obtain ⟨rfl, rfl⟩ := Issued.mk.inj he
    rw [hf]
    exact hs X k' hk'

theorem Unclaimed.attach (hs : s.Unclaimed) (m : Message) (budget : Nat) :
    (s.attach m .async budget).2.2.Unclaimed := by
  intro X k hk
  rw [trackers_attach, TrackerTable.lookup?_attach] at hk
  split at hk
  · obtain ⟨rfl, -⟩ := Issued.mk.inj (Option.some_inj.mp hk)
    rfl
  · exact hs X k hk

theorem isRoad_undisturbed : Act.IsRoad (Undisturbed : World β κ α → World β κ α → Prop) where
  refl _ := ⟨rfl, id⟩
  trans h h' := ⟨h'.settling.trans h.settling, fun hs => h'.unclaimed (h.unclaimed hs)⟩

/-- Nothing that matters is different. -/
theorem Undisturbed.of_eq (hj : t.journal = s.journal) (ht : t.trackers = s.trackers) :
    s.Undisturbed t :=
  ⟨by rw [hj], fun hs => hs.of_lookup fun X => by rw [ht]⟩

theorem Undisturbed.noted (s : World β κ α) {e : Event} (he : e.settling = none) :
    s.Undisturbed (s.noted e) := by
  refine ⟨?_, id⟩
  rw [journal_noted, gather_cons, event_entry, he, Option.elim_none, zero_add]

theorem Undisturbed.of_beside {told : β → β → Prop} (h : s.Beside told t) : s.Undisturbed t := by
  refine ⟨h.of_talk fun e J he => ?_, fun hs => hs.of_lookup h.lookup⟩
  have hsettling : e.event.settling = none := by
    cases hevent : e.event <;> simp_all [Event.isTalk, Event.settling]
  rw [gather_cons, hsettling, Option.elim_none, zero_add]

theorem undisturbed_enroll (s : World β κ α) (m : Message) : s.Undisturbed (s.enroll m).2 := by
  refine isRoad_undisturbed.trans (.noted s (e := .submitted m) rfl) ?_
  rw [enroll]
  split
  · exact ⟨rfl, fun hs => hs.attach m _⟩
  · exact isRoad_undisturbed.refl _

theorem undisturbed_stored (s : World β κ α) (m : Message) : s.Undisturbed (s.stored m) :=
  isRoad_undisturbed.trans (s.undisturbed_enroll m) (.of_eq rfl rfl)

end Site

/-! ### Small actions -/

namespace Application

variable {app : Application β κ α ο} {limit depth : Nat} {s t : World β κ α}

/-- Whatever becomes of a message that failed or was delivered, no tracker becomes a caller's. -/
theorem receptive_unclaimed (hq : app.Quiet) (limit depth : Nat) :
    (app.surroundings limit depth).Receptive fun s t => s.Unclaimed → t.Unclaimed where
  refl _ := id
  trans h h' hs := h' (h hs)
  noted _ _ _ := id
  marked _ _ _ := id
  released _ m hs := hs.release m
  claimed _ id hs := hs.update id Tracker.sender_claimRetry
  requeued _ _ := id
  fire _ _ _ := ⟨fun h => (Site.Undisturbed.of_beside (beside_fire hq h)).unclaimed⟩
  completed _ id o hs := hs.update id (Tracker.sender_complete · o)
  acknowledged _ _ := id
  settled _ := id

theorem decisive_undisturbed (hq : app.Quiet) (limit depth : Nat) :
    (app.surroundings limit depth).Decisive Site.Undisturbed where
  toIsRoad := Site.isRoad_undisturbed
  noted s e he := .noted s (by cases e <;> first | rfl | cases he)
  marked _ _ _ := .of_eq rfl rfl
  released _ m := ⟨rfl, fun hs => hs.release m⟩
  claimed _ id := ⟨rfl, fun hs => hs.update id Tracker.sender_claimRetry⟩
  requeued _ _ := .of_eq rfl rfl
  fire _ _ _ := ⟨fun h => .of_beside (beside_fire hq h)⟩

/-- Where no caller waits for single messages, reports are dealt with, and otherwise no tracker
    becomes a caller's. -/
theorem sends_admits (hq : app.Quiet) (limit depth : Nat) :
    (app.surroundings limit depth).Sends fun _ (x : Work β κ α _) =>
      x.Along ((app.surroundings limit depth).Admits Site.Undisturbed) where
  toWaits := Surroundings.waits_along (Surroundings.isRoad_admits Site.isRoad_undisturbed)
    (fun _ _ _ => .of_still (.of_eq rfl rfl))
    (fun s e he => .of_still (.noted s (by cases e <;> first | rfl | cases he)))
    (Surroundings.admits_receive Site.isRoad_undisturbed)
  mark {k} _ := Surroundings.admits_step (f := (·.marked k)) (fun _ => .of_eq rfl rfl)
    fun _ => ⟨_, rfl⟩
  sendBroker m := Surroundings.admits_step (f := fun s =>
      (s.brokered (app.client.send m s.broker).2).noted (.offered m (app.client.send m s.broker).1))
    (fun s => Site.isRoad_undisturbed.trans
      (.of_eq (t := s.brokered (app.client.send m s.broker).2) rfl rfl) (.noted _ rfl))
    fun _ => ⟨_, rfl⟩
  notify _ := ⟨fun h => .of_still (.of_beside (beside_fire hq h))⟩
  receiveRefusal m e requeue :=
    ((decisive_undisturbed hq limit depth).decides.receiveRefusal m e requeue).mono .of_still

/-! ### Deeds -/

section

variable (hq : app.Quiet)
include hq

theorem admits_flushAsync (limit depth : Nat) : (app.surroundings limit depth).flushAsync.Along
    ((app.surroundings limit depth).Admits Site.Undisturbed) := by
  have hJ := sends_admits hq limit depth
  have hmark (k : Mark) : (Work.mark k : Work β κ α Unit).Along
      ((app.surroundings limit depth).Admits Site.Undisturbed) :=
    Surroundings.admits_step (f := (·.marked k)) (fun _ => .of_eq rfl rfl) fun _ => ⟨_, rfl⟩
  have hpush := hJ.push (Work.along_takeRetry fun _ => .of_still (.of_eq rfl rfl))
    (Work.along_takeRegular fun _ => .of_still (.of_eq rfl rfl))
  exact hJ.bind (hmark .flushBegan) fun _ => hJ.bind hpush fun _ =>
    hJ.bind (hmark .flushEnded) fun _ => hJ.pure _

theorem admits_clear : (Work.clear : Work β κ α Unit).Along
    ((app.surroundings limit depth).Admits Site.Undisturbed) := by
  have hJ := sends_admits hq limit depth
  refine hJ.bind (Work.along_takeRetry fun _ => .of_still (.of_eq rfl rfl)) fun _ => ?_
  refine hJ.bind (Work.along_takeRegular fun _ => .of_still (.of_eq rfl rfl)) fun _ => ?_
  refine hJ.forM (fun m => hJ.bind (Surroundings.admits_step (f := (·.retracked (·.release m)))
    (fun s => ⟨rfl, fun hs => hs.release m⟩) fun _ => ⟨_, rfl⟩) fun _ => ?_) _
  exact Surroundings.admits_step (fun s => .noted s rfl) fun _ => ⟨_, rfl⟩

/-- An operation in the course of which no caller waits for single messages. -/
theorem admits_operate {op : Operation Message} (hop : op.isOrdered = false) {r : Reply}
    (h : (app.surroundings limit depth).operate op s = some (r, t)) :
    (app.surroundings limit depth).Admits Site.Undisturbed s t := by
  have hJ := sends_admits hq limit depth
  have hflush := admits_flushAsync hq limit depth
  cases op with
  | add m =>
    obtain ⟨_, h, -⟩ := Work.of_reply h
    rw [Surroundings.add_eq] at h
    refine (Surroundings.isRoad_admits Site.isRoad_undisturbed).trans
      (.of_still (s.undisturbed_stored m)) ?_
    split at h
    · split at h
      · rw [Surroundings.flush_false] at h
        exact (Surroundings.flushAnd_of hJ.toComposes hflush hJ.awaitAcks).leads h
      · exact hflush.leads h
    · obtain ⟨-, rfl⟩ := Prod.mk.inj (Option.some.inj h)
      exact (Surroundings.isRoad_admits Site.isRoad_undisturbed).refl _
  | produce m =>
    obtain ⟨_, h, -⟩ := Work.of_reply h
    rw [Surroundings.produce, Work.enroll_bind] at h
    refine (Surroundings.isRoad_admits Site.isRoad_undisturbed).trans
      (.of_still (s.undisturbed_enroll m)) ?_
    refine (hJ.bind (hJ.sendAsync _) fun e => ?_).leads h
    cases e <;> exact hJ.pure _
  | produceSync m => cases hop
  | flushAsync =>
    obtain ⟨_, h, -⟩ := Work.of_reply h
    exact hflush.leads h
  | flush inOrder =>
    obtain ⟨_, h, -⟩ := Work.of_reply h
    obtain rfl : inOrder = false := hop
    rw [Surroundings.flush_false] at h
    exact (Surroundings.flushAnd_of hJ.toComposes hflush hJ.awaitAcks).leads h
  | flushFor timeout inOrder =>
    obtain ⟨_, h, -⟩ := Work.of_reply h
    obtain rfl : inOrder = false := hop
    rw [Surroundings.flushFor_false] at h
    exact (Surroundings.flushAnd_of hJ.toComposes hflush (hJ.awaitAcksFor timeout)).leads h
  | awaitAcks =>
    obtain ⟨_, h, -⟩ := Work.of_reply h
    exact hJ.awaitAcks.leads h
  | awaitAcksFor timeout =>
    obtain ⟨_, h, -⟩ := Work.of_reply h
    exact (hJ.awaitAcksFor timeout).leads h
  | clear =>
    obtain ⟨_, h, -⟩ := Work.of_reply (f := fun _ => Reply.done) h
    exact (admits_clear hq).leads h
  | setBufferLimit n =>
    obtain ⟨_, h, -⟩ := Work.of_reply h
    obtain ⟨-, rfl⟩ := Work.setBufferLimit_eq_some h
    split <;> exact .of_still (.of_eq rfl rfl)
  | setFlushMode _ | setRetryBudget _ | setFullQueueNotice _ =>
    obtain ⟨-, rfl⟩ := Act.pure_eq_some.mp h
    exact .of_still (.of_eq rfl rfl)

theorem admits_perform {deed : Deed κ α ο} (hdeed : deed.isOrdered = false) {r : Reply}
    (h : app.perform (app.surroundings limit depth) deed s = some (r, t)) :
    (app.surroundings limit depth).Admits Site.Undisturbed s t := by
  have hJ := sends_admits hq limit depth
  cases deed with
  | operate op => exact admits_operate hq hdeed h
  | pollBroker =>
    obtain ⟨_, h, -⟩ := Work.of_reply (f := fun _ => Reply.done) h
    exact hJ.poll.leads h
  | flushBroker timeout =>
    obtain ⟨_, h, -⟩ := Work.of_reply h
    exact (hJ.flushBroker timeout).leads h
  | register _ _ | instruct _ | sleep _ | think _ =>
    obtain ⟨-, rfl⟩ := Act.pure_eq_some.mp h
    exact .of_still (.of_eq rfl rfl)

end

end Application

/-! ### Reports -/

/-- A report came in that tells of a failure. The message has a retry left, and the hook that is
    asked about it does not say no. -/
structure Reception.IsRenewable (env : Surroundings β κ α) (p : Reception β κ α) : Prop where
  failed : ∃ cause, p.report.failure = some cause ∧
    ∀ u, env.fire .deliveryFailed p.report.message (some cause) p.before ≠ some (some false, u)
  budget : ∃ id k, p.before.trackers.find? p.report.message = some id ∧
    p.before.trackers.lookup? id = some ⟨k, true⟩ ∧ 0 < k.remaining

/-- What comes of the reports that come in between `s` and `t`, which are those in the list. -/
structure Site.Regains (env : Surroundings β κ α) (s : World β κ α) (L : List (Reception β κ α))
    (t : World β κ α) : Prop where
  receives : env.Receives Undisturbed s L t
  complete : gather Event.settling t.journal =
    (L.map (·.report.message) : Multiset Message) + gather Event.settling s.journal
  /-- A message that may be sent again is in front of all others that wait for it. -/
  regained : ∀ p ∈ L, p.IsRenewable env →
    p.after.producer.retry.messages = p.report.message :: p.before.producer.retry.messages

namespace Application

variable {app : Application β κ α ο} {limit depth : Nat} {s t : World β κ α}

theorem receive_eq_some {env : Surroundings β κ α} {r : DeliveryReport} {v : Unit}
    (h : env.receive r s = some (v, t)) :
    ∃ o u, env.outcome (s.trackers.find? r.message) r s = some (o, u) ∧
      t = u.acknowledged (s.trackers.find? r.message) o r.message := by
  rw [Surroundings.receive, Work.producer_bind] at h
  obtain ⟨o, u, ho, h⟩ := Act.bind_eq_some.mp h
  exact ⟨o, u, ho, Surroundings.acknowledge_eq_some h⟩

/-- A report is dealt with once. -/
theorem settling_receive (hq : app.Quiet) {r : DeliveryReport}
    (h : (app.surroundings limit depth).receive r s = some ((), t)) :
    gather Event.settling t.journal = {r.message} + gather Event.settling s.journal := by
  obtain ⟨o, u, ho, rfl⟩ := receive_eq_some h
  have hu := ((decisive_undisturbed hq limit depth).decides.outcome _ r).leads ho
  rw [Site.journal_acknowledged, gather_cons, hu.settling]
  rfl

theorem settling_receives (hq : app.Quiet) {L : List (Reception β κ α)}
    (h : (app.surroundings limit depth).Receives Site.Undisturbed s L t) :
    gather Event.settling t.journal =
      (L.map (·.report.message) : Multiset Message) + gather Event.settling s.journal := by
  induction h with
  | rest hs => exact hs.settling.trans (zero_add _).symm
  | report _ hr hs ih =>
    rw [hs.settling, settling_receive hq hr, ih, List.map_append, ← Multiset.coe_add, ← add_assoc,
      add_comm {_}]
    rfl

/-- A message that may be sent again, and whose tracker is nobody's, comes to the front. -/
theorem retry_of_receive (hq : app.Quiet) {p : Reception β κ α}
    (h : (app.surroundings limit depth).receive p.report p.before = some ((), p.after))
    (hs : p.before.Unclaimed) (hp : p.IsRenewable (app.surroundings limit depth)) :
    p.after.producer.retry.messages = p.report.message :: p.before.producer.retry.messages := by
  obtain ⟨s, ⟨m, failure⟩, t⟩ := p
  obtain ⟨⟨cause, rfl, hconsent⟩, id, k, hid, hk, hbudget⟩ := hp
  obtain ⟨o, u, ho, ht⟩ := receive_eq_some h
  dsimp only at hid hk hs hconsent ho ht ⊢
  subst ht
  obtain ⟨sender, v, hgrant, ho⟩ := Act.bind_eq_some.mp ho
  obtain ⟨verdict, w, hfire, hgrant⟩ := Act.bind_eq_some.mp hgrant
  have hallowed : verdict.getD true = true := by
    rcases verdict with _ | _ | _
    · rfl
    · exact absurd hfire (hconsent w)
    · rfl
  have hw := beside_fire hq hfire
  have hgrants : w.grants id = some .async :=
    (hw.grants id).trans ((s.trackers.claim_eq_some id).mpr ⟨_, hk, hbudget, hs id k hk⟩)
  rw [if_pos hallowed, hid, pure_bind] at hgrant
  simp only [Work.claimRetry_bind, hgrants, Work.mark_bind, Work.record_bind,
    Act.pure_eq_some] at hgrant
  obtain ⟨rfl, rfl⟩ := hgrant
  simp only [Work.modifyProducer_bind, Act.pure_eq_some] at ho
  obtain ⟨rfl, rfl⟩ := ho
  rw [hid]
  change (w.producer.retry.pushFront m).messages = _
  rw [Buffer.messages_pushFront, hw.retry]

/-- Whatever errors the client answers with, no tracker is a caller's between two deeds. So whatever
    is done next, unless a caller waits for single messages in the course of it, every message of
    which a failure is reported then, and which may be sent again, comes to the front of the retry
    buffer. -/
theorem unclaimed_of_run {b : β} (hc : app.client.Honest app.Told b) (hq : app.Quiet)
    {clock : Clock} {settings : Settings} {scope : Nat} {a : α} {deeds : List (Deed κ α ο)}
    (h : app.run limit depth deeds (.opening b clock settings scope a) = some ((), s))
    (hX : ∀ e ∈ s.journal, e.event.isForgery scope = false) :
    s.Unclaimed ∧ ∀ {deed : Deed κ α ο} {r : Reply} {t : World β κ α}, deed.isOrdered = false →
      app.perform (app.surroundings limit depth) deed s = some (r, t) →
      ∃ L, s.Regains (app.surroundings limit depth) L t := by
  have ho : app.Obeys ⟨True, False⟩ := ⟨fun _ => trivial, .inl hq⟩
  obtain ⟨M, hmoves⟩ := leads_run (T := []) ho (.inr idle_zero) h 0
  have horderly := (Scene.orderly_opening Message.tracking ⟨True, False⟩ app.client b clock settings
    scope a (κ := κ)).moves hc hc.keeps hmoves
    (Scene.Balanced.opening app.client app.Told b clock settings scope a)
    fun X => unforged_of_scope hX
  have hs : s.Unclaimed := by
    intro X k hk
    have hscope : X.scope = scope := horderly.scope_eq (by simp [Scene.thread, hk])
    have hsound := horderly.sound X hscope
    rw [Scene.thread, hk] at hsound
    exact hsound.async (isAtRest_of_mem_along X s.stock M)
  refine ⟨hs, fun {deed r t} hdeed ht => ?_⟩
  obtain ⟨L, hL⟩ := admits_perform hq hdeed ht
  refine ⟨L, hL, settling_receives hq hL, fun p hp => ?_⟩
  have hkeeps := hL.keeps (fun h => h.unclaimed)
    (((receptive_unclaimed hq limit depth).acknowledges.receive _).leads) hs
  exact retry_of_receive hq (hL.received p hp) (hkeeps.2 p hp).1

end Application

namespace ScriptedBroker

/-- A broker that goes down when it is flushed first, and reports what it accepted before that as
    not delivered when it is up again. -/
def recovering : ScriptedBroker where
  script :=
    { flushes := [
        { actions := [], answer := .error (.other "broker down") },
        { actions := [.reportAll (some (.undelivered "lost"))] }] }

/-- A caller waits for its message in vain. -/
def vainWait : List (Deed Unit Unit PlainScript) :=
  [.register .deliveryFailed (), .operate (.produceSync { topic := "t" })]

/-- What comes of the message after the caller has gone. -/
def aftermath : Option (World ScriptedBroker Unit Unit × World ScriptedBroker Unit Unit) := do
  let (_, s) ← (application consent).run 20 1 vainWait
    (.opening recovering {} { retryBudget := 1 } 0 ())
  let (_, t) ← (application consent).perform ((application consent).surroundings 20 1)
    (.operate .awaitAcks) s
  return (s, t)

/-- The caller is gone, and its message comes back to the producer. -/
theorem unclaimed_recovering : ∃ s t L,
    (application consent).run 20 1 vainWait (.opening recovering {} { retryBudget := 1 } 0 ()) =
      some ((), s) ∧
    s.trackers.size = 1 ∧ s.producer.retry.messages = [] ∧ s.Unclaimed ∧
    s.Regains ((application consent).surroundings 20 1) L t ∧
    t.producer.retry.messages.map (·.topic) = ["t"] := by
  have hrun : aftermath.any (fun p => p.1.trackers.size == 1 &&
      p.1.producer.retry.messages.isEmpty &&
      p.1.journal.all (fun e => !e.event.isForgery 0) &&
      p.2.producer.retry.messages.map (·.topic) == ["t"]) = true := by
    decide +kernel
  obtain ⟨⟨s, t⟩, hst, hp⟩ := (Option.any_eq_true ..).mp hrun
  simp only [aftermath, Option.bind_eq_bind, Option.bind_eq_some_iff] at hst
  obtain ⟨⟨⟨⟩, s'⟩, hs, ⟨r, t'⟩, ht, heq⟩ := hst
  obtain ⟨rfl, rfl⟩ : s' = s ∧ t' = t := by simpa using heq
  simp only [Bool.and_eq_true, beq_iff_eq, List.isEmpty_iff, List.all_eq_true,
    Bool.not_eq_true'] at hp
  obtain ⟨⟨⟨hsize, hretry⟩, hX⟩, hback⟩ := hp
  have hc := exact_application consent (b := recovering) rfl rfl
  obtain ⟨hunclaimed, hregains⟩ := Application.unclaimed_of_run hc.honest quiet_consent hs hX
  obtain ⟨L, hL⟩ := hregains rfl ht
  exact ⟨s', t', L, hs, hsize, hretry, hunclaimed, hL, hback⟩

end ScriptedBroker

end Outbox
