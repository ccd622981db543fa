import Outbox.Proofs.Scene
import Outbox.Proofs.Trackers

/-! Sending and waiting are sequences of moves. Each function of a producer leads from the scene it
    finds, with the messages it is given in hand, to the scene it leaves. Of the hooks nothing is
    asked but that a call of one is a sequence of moves too. -/

namespace Outbox

namespace Surroundings

variable {β κ α : Type}

/-- A call of a hook is a sequence of moves. -/
def Tame (env : Surroundings β κ α) (told : β → β → Prop) (law : Law) : Prop :=
  ∀ hook kind m e s v t, env.call hook kind m e s = some (v, t) →
    ∀ T H W, Leads env.client told law (⟨T, H, W, ·, s⟩) (⟨T, H, W, ·, t⟩)

variable {env : Surroundings β κ α} {told : β → β → Prop} {law : Law} {s t : World β κ α}
  {T : List env.client.Task} {H : Multiset (Place × Message)} {W : Multiset (Nat × Message)}

/-! ### Hooks and fates -/

theorem fire_eq_some {kind : HookKind} {m : Message} {e : Option BrokerError} {v : Option Bool}
    (h : env.fire kind m e s = some (v, t)) :
    (s.producer.hooks.find? kind = none ∧ t = s) ∨
    ∃ hook verdict u, env.call hook kind m e (s.noted (.hookCalled kind m e)) = some (verdict, u) ∧
      t = u.noted (.hookReturned verdict) := by
  rw [fire, Work.producer_bind] at h
  cases hk : s.producer.hooks.find? kind with
  | none =>
    simp only [hk, Act.pure_eq_some] at h
    exact .inl ⟨rfl, h.2.symm⟩
  | some hook =>
    simp only [hk, Work.record_bind, Act.bind_eq_some, Act.pure_eq_some] at h
    obtain ⟨verdict, u, hcall, -, rfl⟩ := h
    exact .inr ⟨hook, verdict, u, hcall, rfl⟩

/-- A hook that says no says it last of all. -/
theorem vetoed_of_fire {kind : HookKind} {m : Message} {e : Option BrokerError}
    (h : env.fire kind m e s = some (some false, t)) : Vetoed t.journal := by
  rw [fire, Work.producer_bind] at h
  cases hk : s.producer.hooks.find? kind with
  | none => simp [hk, Act.pure_eq_some] at h
  | some hook =>
    simp only [hk, Work.record_bind, Act.bind_eq_some, Act.pure_eq_some] at h
    obtain ⟨verdict, u, -, hverdict, rfl⟩ := h
    obtain rfl := Option.some_inj.mp hverdict
    rfl

theorem leads_call (henv : env.Tame told law) {hook : κ} {kind : HookKind} {m : Message}
    {e : Option BrokerError} {v : Bool} (h : env.call hook kind m e s = some (v, t)) :
    Leads env.client told law (⟨T, H, W, ·, s⟩) (⟨T, H, W, ·, t.noted (.hookReturned v)⟩) :=
  (henv _ _ _ _ _ _ _ h T H W).trans (.move fun _ => .aside rfl)

/-- A hook that is told about a message sees it from one place to the next. -/
theorem leads_fire (henv : env.Tame told law) {p p' : Place} {kind : HookKind} {m : Message}
    {e : Option BrokerError} {v : Option Bool} (hp : p.Tells kind e p')
    (h : env.fire kind m e s = some (v, t)) :
    Leads env.client told law (⟨T, (p, m) ::ₘ H, W, ·, s⟩) (⟨T, (p', m) ::ₘ H, W, ·, t⟩) := by
  rcases fire_eq_some h with ⟨hk, rfl⟩ | ⟨hook, verdict, u, hcall, rfl⟩
  · exact .move fun _ => .hush hp hk
  · exact (Leads.move fun _ => .tell hp).trans (leads_call henv hcall)

/-- The queue-full hook has nothing to do with the message's way. -/
theorem leads_fire_queueFull (henv : env.Tame told law) {m : Message} {v : Option Bool}
    (h : env.fire .queueFull m none s = some (v, t)) :
    Leads env.client told law (⟨T, H, W, ·, s⟩) (⟨T, H, W, ·, t⟩) := by
  rcases fire_eq_some h with ⟨-, rfl⟩ | ⟨hook, verdict, u, hcall, rfl⟩
  · exact .refl
  · exact (Leads.move fun _ => .aside rfl).trans (leads_call henv hcall)

/-- A claim in vain does not give the tracker a retry. -/
theorem grants_vain {id X : TrackingId} (hg : s.grants id = none) :
    (s.retracked (·.update id (·.claimRetry.2))).grants X = s.grants X := by
  have hk := s.trackers.lookup?_claim_of_none id X hg
  have htracker : (s.trackers.update id (·.claimRetry.2)).tracker? X = s.trackers.tracker? X := by
    rw [TrackerTable.tracker?_eq, TrackerTable.tracker?_eq, hk]
  exact congrArg (·.bind (·.claimRetry.1)) htracker

/-- A claim in vain leaves every message the tracker it has. -/
theorem find?_vain {id : TrackingId} (hg : s.grants id = none) (m : Message) :
    (s.retracked (·.update id (·.claimRetry.2))).producer.trackers.find? m =
      s.producer.trackers.find? m := by
  have hk := fun X => s.trackers.lookup?_claim_of_none id X hg
  have hfind : (s.trackers.update id (·.claimRetry.2)).find? m = s.trackers.find? m := by
    simp only [TrackerTable.find?_eq, hk]
  exact hfind

/-- Where the hook that was asked leaves the message, a retry may be granted. One that is asked for
    in vain changes no tracker; there is none then, or the hook said no. -/
theorem leads_grantRetry (henv : env.Tame told law) {p p' : Place} {kind : HookKind} {m : Message}
    {e : BrokerError} {f : World β κ α → Option TrackingId}
    {tracker : Work β κ α (Option TrackingId)} (hf : ∀ s, tracker s = some (f s, s))
    (hvain : ∀ s id, s.grants id = none → f (s.retracked (·.update id (·.claimRetry.2))) = f s)
    (hp : p.Tells kind (some e) p') {r : Option Sender}
    (h : env.grantRetry kind m e tracker s = some (r, t)) :
    ∃ u, Leads env.client told law (⟨T, (p, m) ::ₘ H, W, ·, s⟩) (⟨T, (p', m) ::ₘ H, W, ·, u⟩) ∧
      match r with
      | none => u = t ∧ (Vetoed t.journal ∨ ∀ id, f t = some id → t.grants id = none)
      | some sender => ∃ id, f u = some id ∧ u.grants id = some sender ∧ t = u.granted id m := by
  rw [grantRetry, Act.bind_eq_some] at h
  obtain ⟨v, u, hfire, h⟩ := h
  have hu := leads_fire (T := T) (H := H) (W := W) henv hp hfire
  split at h
  · rw [Act.bind_eq_some] at h
    obtain ⟨k, u', hk, h⟩ := h
    rw [hf, Option.some_inj, Prod.mk.injEq] at hk
    obtain ⟨hk, rfl⟩ := hk
    cases k with
    | none =>
      obtain ⟨rfl, rfl⟩ := Act.pure_eq_some.mp h
      exact ⟨_, hu, rfl, .inr fun id hid => by simp [hk] at hid⟩
    | some id =>
      simp only [Work.claimRetry_bind] at h
      cases hg : u.grants id with
      | none =>
        simp only [hg, Act.pure_eq_some] at h
        obtain ⟨rfl, rfl⟩ := h
        refine ⟨_, hu.trans (.move fun _ => .vain hg), rfl, .inr fun X hX => ?_⟩
        rw [hvain u id hg, hk] at hX
        obtain rfl := Option.some_inj.mp hX
        exact (grants_vain hg).trans hg
      | some sender =>
        simp only [hg, Work.mark_bind, Work.record_bind, Act.pure_eq_some] at h
        obtain ⟨rfl, rfl⟩ := h
        exact ⟨u, hu, id, hk, hg, rfl⟩
  · obtain ⟨rfl, rfl⟩ := Act.pure_eq_some.mp h
    have hv : v = some false := by
      rcases v with _ | _ | _
      · contradiction
      · rfl
      · contradiction
    exact ⟨_, hu, rfl, .inl (vetoed_of_fire (hv ▸ hfire))⟩

theorem drop_bind {ρ : Type} (m : Message) (e : BrokerError) (next : Unit → Work β κ α ρ) :
    (drop m e >>= next) s = next () (s.dropped m e) := rfl

/-- What is left to do once the outcome of a report is known. -/
theorem acknowledge_eq_some {k : Option TrackingId} {o : Outcome} {m : Message} {v : Unit}
    (h : (do
      match k with
      | some id => Work.updateTracker id (·.complete o)
      | none => pure ()
      Work.record (.acknowledged m)
      Work.mark .acknowledged : Work β κ α Unit) s = some (v, t)) :
    t = s.acknowledged k o m := by
  cases k with
  | none => exact Work.mark_eq_some.mp h
  | some id =>
    simp only [Work.updateTracker_bind, Work.record_bind] at h
    exact Work.mark_eq_some.mp h

/-- A report leaves nothing in hand. -/
theorem leads_receive (henv : env.Tame told law) {r : DeliveryReport} {v : Unit}
    (h : env.receive r s = some (v, t)) :
    Leads env.client told law
      (⟨T, (.reported (s.producer.trackers.find? r.message) r.failure, r.message) ::ₘ H, W, ·, s⟩)
      (⟨T, H, W, ·, t⟩) := by
  rw [receive, Work.producer_bind] at h
  simp only [Act.bind_eq_some (x := env.outcome _ r)] at h
  have hk := fun id (hid : s.producer.trackers.find? r.message = some id) =>
    (TrackerTable.find?_eq_some_iff.mp hid).1
  generalize s.producer.trackers.find? r.message = k at h hk ⊢
  obtain ⟨o, u, ho, h⟩ := h
  obtain rfl := acknowledge_eq_some h
  rw [outcome] at ho
  cases hr : r.failure with
  | none =>
    simp only [hr, Act.bind_eq_some (x := env.fire _ _ _), Work.mark_bind, Work.release_bind,
      Work.record_bind, Act.pure_eq_some] at ho
    obtain ⟨v, u, hfire, rfl, rfl⟩ := ho
    exact ((leads_fire henv (.delivered k) hfire).trans (.move fun _ => .deliver)).trans
      (.move fun _ => .acknowledge hk)
  | some e =>
    simp only [hr, Act.bind_eq_some (x := env.grantRetry _ _ _ _)] at ho
    obtain ⟨g, u, hg, ho⟩ := ho
    obtain ⟨u', hu, hg⟩ := leads_grantRetry (T := T) (H := H) (W := W) (f := fun _ => k) henv
      (fun _ => rfl) (fun _ _ _ => rfl) (.deliveryFailed k e) hg
    cases g with
    | none =>
      simp only [drop_bind, Act.bind_eq_some, Act.pure_eq_some] at ho
      obtain ⟨v, u'', hfire, rfl, rfl⟩ := ho
      obtain ⟨rfl, hv⟩ := hg
      exact (hu.trans (.move fun _ => .lose hv)).trans
        ((leads_fire henv (.deliveryAbandoned k e) hfire).trans (.move fun _ => .acknowledge hk))
    | some sender =>
      obtain ⟨id, rfl, hid, rfl⟩ := hg
      cases sender with
      | async =>
        simp only [Work.modifyProducer_bind, Act.pure_eq_some] at ho
        obtain ⟨rfl, rfl⟩ := ho
        refine hu.trans (.move fun _ =>
          .regain u'.producer.regular (u'.producer.retry.pushFront r.message) (hk id rfl) hid ?_)
        rw [Buffer.messages_pushFront, ← Multiset.cons_coe, Multiset.add_cons]
        rfl
      | sync =>
        simp only [Act.pure_eq_some] at ho
        obtain ⟨rfl, rfl⟩ := ho
        exact hu.trans (.move fun _ => .leave (hk id rfl) hid)

/-- A refused message that is sent again is in a buffer, or with the caller who waits for it. -/
theorem leads_receiveRefusal (henv : env.Tame told law) {w : Option Nat} {m : Message}
    {e : BrokerError} {again : Bool} (h : env.receiveRefusal m e w.isNone s = some (again, t)) :
    Leads env.client told law (⟨T, (.refused w e, m) ::ₘ H, W, ·, s⟩)
      (⟨T, if again && w.isSome then (.engaged, m) ::ₘ H else H, W, ·, t⟩) := by
  rw [receiveRefusal, Act.bind_eq_some] at h
  obtain ⟨g, u, hg, h⟩ := h
  obtain ⟨u', hu, hg⟩ := leads_grantRetry (T := T) (H := H) (W := W)
    (f := fun s => s.producer.trackers.find? m) henv (fun _ => rfl)
    (fun _ _ hg => find?_vain hg m) (.sendFailed w e) hg
  cases g with
  | none =>
    simp only [drop_bind, Act.bind_eq_some, Act.pure_eq_some] at h
    obtain ⟨v, u'', hfire, rfl, rfl⟩ := h
    obtain ⟨rfl, hv⟩ := hg
    exact (hu.trans (.move fun _ => .forsake hv)).trans
      ((leads_fire henv (.sendAbandoned e) hfire).trans (.move fun _ => .part))
  | some sender =>
    obtain ⟨id, hm, hid, rfl⟩ := hg
    cases w with
    | none =>
      simp only [Option.isNone_none, if_true, Work.modifyProducer_bind, Act.pure_eq_some] at h
      obtain ⟨rfl, rfl⟩ := h
      refine (hu.trans (.move fun _ => .requeue hm hid)).trans (.move fun _ =>
        .store u'.producer.regular (u'.producer.retry.pushBack m) ?_)
      rw [Buffer.messages_pushBack, ← Multiset.coe_add, ← Multiset.add_assoc,
        Multiset.coe_singleton, Multiset.add_comm, Multiset.singleton_add]
      rfl
    | some slot =>
      simp only [Option.isNone_some, Bool.false_eq_true, if_false] at h
      obtain ⟨rfl, rfl⟩ := Act.pure_eq_some.mp h
      exact hu.trans (.move fun _ => .retake hm hid)

/-! ### The tasks of the broker -/

/-- One step of a task: it hands out a report, which is received, or goes on, or is over. -/
theorem leads_taskStep (henv : env.Tame told law) {task : env.client.Task}
    {o : env.client.Task ⊕ BrokerAnswer}
    (h : Site.taskStep env.client env.receive task s = some (o, t)) :
    o.elim
      (fun next => Leads env.client told law (⟨task :: T, H, W, ·, s⟩) (⟨next :: T, H, W, ·, t⟩))
      fun answer => env.client.Answers answer ∧
        Leads env.client told law (⟨task :: T, H, W, ·, s⟩) (⟨T, H, W, ·, t⟩) := by
  rcases hs : env.client.step task s.broker s.clock with ⟨step, b, clock⟩
  simp only [Site.taskStep, Site.get_bind, hs, Site.set_bind] at h
  cases step with
  | report r next =>
    simp only [Act.bind_eq_some, Act.pure_eq_some] at h
    obtain ⟨_, u, hr, rfl, rfl⟩ := h
    exact (Leads.move_flight (fun M => M.erase (meant M r.message)) fun _ => .report hs).trans
      (leads_receive henv hr)
  | more next =>
    obtain ⟨rfl, rfl⟩ := Act.pure_eq_some.mp h
    exact .move fun _ => .more hs
  | finished answer =>
    obtain ⟨rfl, rfl⟩ := Act.pure_eq_some.mp h
    exact ⟨⟨task, _, _, _, _, hs⟩, .move fun _ => .finish hs⟩

theorem leads_runTask (henv : env.Tame told law) {task : env.client.Task} {answer : BrokerAnswer}
    (h : Site.runTask env.client env.receive env.limit task s = some (answer, t)) :
    env.client.Answers answer ∧
      Leads env.client told law (⟨task :: T, H, W, ·, s⟩) (⟨T, H, W, ·, t⟩) := by
  refine Act.loop_invariant
    (P := fun next u =>
      Leads env.client told law (⟨task :: T, H, W, ·, s⟩) (⟨next :: T, H, W, ·, u⟩))
    (Q := fun answer u => env.client.Answers answer ∧
      Leads env.client told law (⟨task :: T, H, W, ·, s⟩) (⟨T, H, W, ·, u⟩))
    (fun next u hu o v hv => ?_) _ _ _ _ _ .refl h
  have hv := leads_taskStep (T := T) (H := H) (W := W) henv hv
  cases o with
  | inl next' => exact hu.trans hv
  | inr answer' => exact ⟨hv.1, hu.trans hv.2⟩

theorem leads_poll (henv : env.Tame told law) {v : Unit} (h : env.poll s = some (v, t)) :
    Leads env.client told law (⟨T, H, W, ·, s⟩) (⟨T, H, W, ·, t⟩) := by
  simp only [poll, Work.record_bind, Act.bind_eq_some, Act.pure_eq_some] at h
  obtain ⟨answer, u, hrun, -, rfl⟩ := h
  exact ((Leads.move fun _ => .aside rfl).trans (.move fun _ => .begin _ (.inl rfl))).trans
    (leads_runTask henv hrun).2

theorem leads_flushBroker (henv : env.Tame told law) {timeout : Span} {answer : BrokerAnswer}
    (h : env.flushBroker timeout s = some (answer, t)) :
    env.client.Answers answer ∧ Leads env.client told law (⟨T, H, W, ·, s⟩) (⟨T, H, W, ·, t⟩) := by
  simp only [flushBroker, Work.record_bind, Act.bind_eq_some, Act.pure_eq_some] at h
  obtain ⟨answer, u, hrun, rfl, rfl⟩ := h
  obtain ⟨ha, hu⟩ := leads_runTask (T := T) (H := H) (W := W) henv hrun
  exact ⟨ha, (((Leads.move fun _ => .aside rfl).trans
    (.move fun _ => .begin _ (.inr ⟨timeout, rfl⟩))).trans hu).trans (.move fun _ => .aside rfl)⟩

/-! ### Offering and waiting -/

/-- Where the message is after an answer other than that the queue is full. -/
def answered (c : Client β) (T : List c.Task) (H : Multiset (Place × Message))
    (W : Multiset (Nat × Message)) (w : Option Nat) (m : Message) (t : World β κ α) :
    BrokerAnswer → Multiset Message → Scene c κ α
  | .ok (), M => ⟨T, H, w.elim W fun slot => (slot, m) ::ₘ W, M, t⟩
  | .error e, M => ⟨T, (.refused w e, m) ::ₘ H, W, M, t⟩

theorem leads_offerOnce (henv : env.Tame told law) {w : Option Nat} {m : Message}
    {notice : FullQueueNotice} {notify : Bool} {o : Bool ⊕ BrokerAnswer}
    (h : env.offerOnce m notice notify s = some (o, t)) :
    Leads env.client told law (⟨T, (.ready w, m) ::ₘ H, W, ·, s⟩)
      (o.elim (fun _ => (⟨T, (.ready w, m) ::ₘ H, W, ·, t⟩))
        (answered env.client T H W w m t)) := by
  rcases hs : env.client.send m s.broker with ⟨answer, b⟩
  cases answer with
  | ok _ =>
    rw [env.offerOnce_of_accepted notice notify hs] at h
    obtain ⟨rfl, rfl⟩ := Act.pure_eq_some.mp h
    exact .move_flight (m ::ₘ ·) fun _ => .accept hs
  | error e =>
    cases he : e.isQueueFull with
    | false =>
      rw [env.offerOnce_of_refused notice notify hs he] at h
      obtain ⟨rfl, rfl⟩ := Act.pure_eq_some.mp h
      exact .move fun _ => .refuse hs he
    | true =>
      rw [env.offerOnce_of_full notice notify hs he, makeRoom, Act.bind_eq_some] at h
      obtain ⟨_, u, hpoll, h⟩ := h
      have hu := (Leads.move fun _ => .full hs he).trans
        (leads_poll (T := T) (H := (.ready w, m) ::ₘ H) (W := W) henv hpoll)
      split at h
      · simp only [Act.bind_eq_some, Act.pure_eq_some] at h
        obtain ⟨v, u', hfire, rfl, rfl⟩ := h
        exact hu.trans (leads_fire_queueFull henv hfire)
      · obtain ⟨rfl, rfl⟩ := Act.pure_eq_some.mp h
        exact hu

theorem leads_offer (henv : env.Tame told law) {w : Option Nat} {m : Message}
    {answer : BrokerAnswer} (h : env.offer m s = some (answer, t)) :
    Leads env.client told law (⟨T, (.ready w, m) ::ₘ H, W, ·, s⟩)
      (answered env.client T H W w m t answer) := by
  rw [offer, Work.producer_bind] at h
  refine Act.loop_invariant
    (P := fun _ u => Leads env.client told law (⟨T, (.ready w, m) ::ₘ H, W, ·, s⟩)
      (⟨T, (.ready w, m) ::ₘ H, W, ·, u⟩))
    (Q := fun answer u => Leads env.client told law (⟨T, (.ready w, m) ::ₘ H, W, ·, s⟩)
      (answered env.client T H W w m u answer))
    (fun notify u hu o v hv => ?_) _ _ _ _ _ .refl h
  have hv := leads_offerOnce (T := T) (H := H) (W := W) (w := w) henv hv
  cases o with
  | inl _ => exact hu.trans hv
  | inr _ => exact hu.trans hv

/-- A message sent without waiting is out of hand. -/
theorem leads_sendAsync (henv : env.Tame told law) {m : Message} {r : Option BrokerError}
    (h : env.sendAsync m s = some (r, t)) :
    Leads env.client told law (⟨T, (.ready none, m) ::ₘ H, W, ·, s⟩) (⟨T, H, W, ·, t⟩) := by
  rw [sendAsync, Act.bind_eq_some] at h
  obtain ⟨answer, u, ho, h⟩ := h
  have hu := leads_offer (T := T) (H := H) (W := W) (w := none) henv ho
  cases answer with
  | ok _ =>
    obtain ⟨rfl, rfl⟩ := Act.pure_eq_some.mp h
    exact hu
  | error e =>
    simp only [Act.bind_eq_some] at h
    obtain ⟨again, u', hr, h⟩ := h
    have hu' := leads_receiveRefusal (T := T) (H := H) (W := W) (w := none) henv hr
    rw [Option.isSome_none, Bool.and_false, if_neg Bool.false_ne_true] at hu'
    split at h <;> obtain ⟨rfl, rfl⟩ := Act.pure_eq_some.mp h <;> exact hu.trans hu'

/-- A wait that is over found nothing pending, or the client failed. -/
theorem leads_awaitAcks (henv : env.Tame told law) {r : Except ProducerError Unit}
    (h : env.awaitAcks s = some (r, t)) :
    Leads env.client told law (⟨T, H, W, ·, s⟩) (⟨T, H, W, ·, t⟩) ∧
      ((r = .ok () ∧ t.producer.counters.pending = 0) ∨
        ∃ e, r = .error (.broker e) ∧ env.client.MayFail) := by
  rw [awaitAcks, Work.producer_bind] at h
  refine Act.loop_invariant
    (P := fun _ u => Leads env.client told law (⟨T, H, W, ·, s⟩) (⟨T, H, W, ·, u⟩))
    (Q := fun r u => Leads env.client told law (⟨T, H, W, ·, s⟩) (⟨T, H, W, ·, u⟩) ∧
      ((r = .ok () ∧ u.producer.counters.pending = 0) ∨
        ∃ e, r = .error (.broker e) ∧ env.client.MayFail))
    (fun _ u hu o v hv => ?_) _ _ _ _ _ .refl h
  rw [ackRound, Work.producer_bind] at hv
  split at hv
  · next hp =>
    obtain ⟨rfl, rfl⟩ := Act.pure_eq_some.mp hv
    exact ⟨hu, .inl ⟨rfl, hp⟩⟩
  · rw [Act.bind_eq_some] at hv
    obtain ⟨answer, u', hflush, hv⟩ := hv
    obtain ⟨ha, hu'⟩ := leads_flushBroker (T := T) (H := H) (W := W) henv hflush
    cases answer with
    | ok _ =>
      obtain ⟨rfl, rfl⟩ := Act.pure_eq_some.mp hv
      exact hu.trans hu'
    | error e =>
      dsimp only at hv
      split at hv
      · obtain ⟨rfl, rfl⟩ := Act.pure_eq_some.mp hv
        exact hu.trans hu'
      · next he =>
        obtain ⟨rfl, rfl⟩ := Act.pure_eq_some.mp hv
        exact ⟨hu.trans hu', .inr ⟨e, rfl, e, by simpa using he, ha⟩⟩

theorem leads_awaitAcksFor (henv : env.Tame told law) {timeout : Span}
    {r : Except ProducerError Bool} (h : env.awaitAcksFor timeout s = some (r, t)) :
    Leads env.client told law (⟨T, H, W, ·, s⟩) (⟨T, H, W, ·, t⟩) := by
  rw [awaitAcksFor, Site.readClock_bind] at h
  refine Act.loop_invariant
    (P := fun _ u => Leads env.client told law (⟨T, H, W, ·, s⟩) (⟨T, H, W, ·, u⟩))
    (Q := fun _ u => Leads env.client told law (⟨T, H, W, ·, s⟩) (⟨T, H, W, ·, u⟩))
    (fun left u hu o v hv => ?_) _ _ (s.turned s.broker s.clock.read.2) _ _
    (.move fun _ => .outside rfl rfl (.inl rfl)) h
  rw [ackRoundFor, Act.bind_eq_some] at hv
  obtain ⟨answer, u', hflush, hv⟩ := hv
  have hu' := hu.trans (leads_flushBroker (T := T) (H := H) (W := W) henv hflush).2
  cases answer with
  | ok _ =>
    simp only [Site.readClock_bind, Work.producer_bind] at hv
    split at hv <;> obtain ⟨rfl, rfl⟩ := Act.pure_eq_some.mp hv <;>
      exact hu'.trans (.move fun _ => .outside rfl rfl (.inl rfl))
  | error e =>
    dsimp only at hv
    split at hv
    · rw [Work.producer_bind] at hv
      obtain ⟨rfl, rfl⟩ := Act.pure_eq_some.mp hv
      exact hu'
    · obtain ⟨rfl, rfl⟩ := Act.pure_eq_some.mp hv
      exact hu'

/-- Moves lead from `A` to a scene with these things going on, or they lead to a caller who waits
    when the client fails, and from there on without the caller. -/
def Ends (env : Surroundings β κ α) (told : β → β → Prop) (law : Law)
    (A : Multiset Message → Scene env.client κ α) (T : List env.client.Task)
    (H : Multiset (Place × Message)) (W : Multiset (Nat × Message)) (t : World β κ α) : Prop :=
  Leads env.client told law A (⟨T, H, W, ·, t⟩) ∨
  env.client.MayFail ∧ ∃ u slot m id H', m.tracking = some id ∧
    Leads env.client told law A (⟨T, H', (slot, m) ::ₘ W, ·, u⟩) ∧
    Leads env.client told law (⟨T, H', W, ·, u.entrusted id .async⟩) (⟨T, H, W, ·, t⟩)

namespace Ends

variable {A B : Multiset Message → Scene env.client κ α}

/-- Where callers may be given up, that is a move like any other. -/
theorem leads (hf : env.client.MayFail → law.failing) (h : Ends env told law A T H W t) :
    Leads env.client told law A (⟨T, H, W, ·, t⟩) := by
  rcases h with h | ⟨hc, u, slot, m, id, H', hm, h₁, h₂⟩
  · exact h
  · exact (h₁.trans (.move fun _ => .giveUp hm (hf hc))).trans h₂

theorem after (h : Ends env told law B T H W t) (hA : Leads env.client told law A B) :
    Ends env told law A T H W t := by
  rcases h with h | ⟨hc, u, slot, m, id, H', hm, h₁, h₂⟩
  · exact .inl (hA.trans h)
  · exact .inr ⟨hc, u, slot, m, id, H', hm, hA.trans h₁, h₂⟩

theorem before {H' : Multiset (Place × Message)} {u : World β κ α}
    (h : Ends env told law A T H' W u)
    (hB : Leads env.client told law (⟨T, H', W, ·, u⟩) (⟨T, H, W, ·, t⟩)) :
    Ends env told law A T H W t := by
  rcases h with h | ⟨hc, u, slot, m, id, H', hm, h₁, h₂⟩
  · exact .inl (h.trans hB)
  · exact .inr ⟨hc, u, slot, m, id, H', hm, h₁, h₂.trans hB⟩

end Ends

/-- How a caller who waited is left. The outcome is waited for, unless the client fails and the
    caller is told so. -/
def Leaves (env : Surroundings β κ α) (told : β → β → Prop) (law : Law)
    (A : Multiset Message → Scene env.client κ α) (T : List env.client.Task)
    (H : Multiset (Place × Message)) (W : Multiset (Nat × Message)) (t : World β κ α)
    (failed : Prop) : Prop :=
  Ends env told law A T H W t ∧ (¬ failed → Leads env.client told law A (⟨T, H, W, ·, t⟩))

namespace Leaves

variable {A B : Multiset Message → Scene env.client κ α} {failed failed' : Prop}

theorem of_leads (h : Leads env.client told law A (⟨T, H, W, ·, t⟩)) :
    Leaves env told law A T H W t failed :=
  ⟨.inl h, fun _ => h⟩

theorem mono (h : Leaves env told law A T H W t failed) (hf : failed → failed') :
    Leaves env told law A T H W t failed' :=
  ⟨h.1, fun hn => h.2 (mt hf hn)⟩

theorem after (h : Leaves env told law B T H W t failed) (hA : Leads env.client told law A B) :
    Leaves env told law A T H W t failed :=
  ⟨h.1.after hA, fun hn => hA.trans (h.2 hn)⟩

theorem before {H' : Multiset (Place × Message)} {u : World β κ α}
    (h : Leaves env told law A T H' W u failed)
    (hB : Leads env.client told law (⟨T, H', W, ·, u⟩) (⟨T, H, W, ·, t⟩)) :
    Leaves env told law A T H W t failed :=
  ⟨h.1.before hB, fun hn => (h.2 hn).trans hB⟩

end Leaves

theorem leads_attempt (henv : env.Tame told law) {id : TrackingId} {m : Message}
    (hm : m.tracking = some id) {o : Unit ⊕ Except ProducerError Unit}
    (h : env.attempt id m s = some (o, t)) :
    o.elim (fun _ => Leads env.client told law (⟨T, (.engaged, m) ::ₘ H, W, ·, s⟩)
        (⟨T, (.engaged, m) ::ₘ H, W, ·, t⟩))
      fun r => Leaves env told law (⟨T, (.engaged, m) ::ₘ H, W, ·, s⟩) T H W t
        (∃ e, r = .error (.broker e)) := by
  rw [attempt, Work.arm_bind, Act.bind_eq_some] at h
  obtain ⟨answer, u, ho, h⟩ := h
  have hu := (Leads.move fun _ => .arm hm).trans
    (leads_offer (T := T) (H := H) (W := W) (w := some (s.nextSlot id)) henv ho)
  cases answer with
  | error e =>
    simp only [Act.bind_eq_some] at h
    obtain ⟨again, u', hr, h⟩ := h
    have hu' := hu.trans
      (leads_receiveRefusal (T := T) (H := H) (W := W) (w := some (s.nextSlot id)) henv hr)
    cases again with
    | true =>
      obtain ⟨rfl, rfl⟩ := Act.pure_eq_some.mp h
      exact hu'
    | false =>
      obtain ⟨rfl, rfl⟩ := Act.pure_eq_some.mp h
      exact .of_leads hu'
  | ok _ =>
    simp only [Act.bind_eq_some (x := env.awaitAcks)] at h
    obtain ⟨r, u', hw, h⟩ := h
    obtain ⟨hu', hr⟩ := leads_awaitAcks (T := T) (H := H)
      (W := (s.nextSlot id, m) ::ₘ W) henv hw
    have hu' := hu.trans hu'
    rcases hr with ⟨rfl, hp⟩ | ⟨e, rfl, hmay⟩
    · simp only [Work.look_bind] at h
      generalize hr : u'.receipt id (s.nextSlot id) = receipt at h
      have hlearn (hne : receipt ≠ .outcome .retry) :=
        hu'.trans (.move fun _ => .learn hm (hr.symm ▸ hne) hp)
      rcases receipt with (_ | _ | e) | _ | _ <;> obtain ⟨rfl, rfl⟩ := Act.pure_eq_some.mp h
      · exact .of_leads (hlearn (by simp))
      · exact hu'.trans (.move fun _ => .retry hm hr)
      · exact .of_leads (hlearn (by simp))
      · exact .of_leads (hlearn (by simp))
      · exact .of_leads (hlearn (by simp))
    · simp only [Work.updateTracker_bind] at h
      obtain ⟨rfl, rfl⟩ := Act.pure_eq_some.mp h
      exact ⟨.inr ⟨hmay, u', s.nextSlot id, m, id, H, hm, hu', .refl⟩,
        fun hr => absurd ⟨e, rfl⟩ hr⟩

/-- The attempts of a caller, from the first to the last. -/
theorem leaves_attempts (henv : env.Tame told law) {id : TrackingId} {m : Message}
    (hm : m.tracking = some id) {r : Except ProducerError Unit}
    (h : Act.loop (fun _ => env.attempt id m) env.limit () s = some (r, t)) :
    Leaves env told law (⟨T, (.engaged, m) ::ₘ H, W, ·, s⟩) T H W t
      (∃ e, r = .error (.broker e)) := by
  refine Act.loop_invariant
    (P := fun _ u => Leads env.client told law (⟨T, (.engaged, m) ::ₘ H, W, ·, s⟩)
      (⟨T, (.engaged, m) ::ₘ H, W, ·, u⟩))
    (Q := fun r u => Leaves env told law (⟨T, (.engaged, m) ::ₘ H, W, ·, s⟩) T H W u
      (∃ e, r = .error (.broker e)))
    (fun _ u hu o v hv => ?_) _ _ _ _ _ .refl h
  have hv := leads_attempt (T := T) (H := H) (W := W) henv hm hv
  cases o with
  | inl _ => exact hu.trans hv
  | inr r => exact hv.after hu

end Surroundings

end Outbox
