import Mathlib.Algebra.Order.Group.Multiset
import Outbox.Proofs.Moves.Sending

/-! Every operation is a sequence of moves that starts and ends with nothing in hand. A batch taken
    out of a buffer is in hand message by message, and what an ordered flush did not send goes back
    the same way. -/

namespace Outbox

variable {β κ α : Type}

/-- A batch in hand, out of which nothing was sent yet. -/
def loose (batch : Batch) : Multiset (Place × Message) :=
  ((batch.map fun m => (Place.ready none, m) : List (Place × Message)) : Multiset _)

@[simp] theorem loose_nil : loose [] = 0 := rfl

@[simp] theorem loose_cons (m : Message) (batch : Batch) :
    loose (m :: batch) = (.ready none, m) ::ₘ loose batch := rfl

theorem idle_loose {batch : Batch} {H : Multiset (Place × Message)} {W : Multiset (Nat × Message)}
    (h : Idle H W) : Idle (loose batch + H) W := by
  refine ⟨fun x hx => ?_, h.2⟩
  rcases Multiset.mem_add.mp hx with hx | hx
  · obtain ⟨m, -, rfl⟩ := List.mem_map.mp (Multiset.mem_coe.mp hx)
    rfl
  · exact h.1 x hx

@[simp] theorem loose_append (a b : Batch) : loose (a ++ b) = loose a + loose b := by
  rw [loose, loose, loose, List.map_append, Multiset.coe_add]

/-- Messages are sent one by one, and the outcome of each is waited for. -/
def Operation.isOrdered {μ : Type} : Operation μ → Bool
  | produceSync _ => true
  | flush inOrder | flushFor _ inOrder => inOrder
  | _ => false

namespace Site

/-- The world of an ordered flush that has taken out what is buffered and read the clock. -/
def opened (s : World β κ α) : World β κ α :=
  ((s.marked .flushBegan).rebuffered {} {}).turned s.broker s.clock.read.2

/-- The world after an ordered flush that sent `k` messages put the rest of them back. -/
def closed (s : World β κ α) (retries batch : Batch) (k : Nat) : World β κ α :=
  (s.rebuffered (s.producer.regular.restoreFront (batch.drop (k - retries.length)))
    (s.producer.retry.restoreFront (retries.drop k))).marked .flushEnded

theorem retry_closed (s : World β κ α) (retries batch : Batch) (k : Nat) :
    (s.closed retries batch k).producer.retry.messages =
      retries.drop k ++ s.producer.retry.messages :=
  Buffer.messages_restoreFront ..

theorem regular_closed (s : World β κ α) (retries batch : Batch) (k : Nat) :
    (s.closed retries batch k).producer.regular.messages =
      batch.drop (k - retries.length) ++ s.producer.regular.messages :=
  Buffer.messages_restoreFront ..

end Site

namespace Surroundings

variable {env : Surroundings β κ α} {told : β → β → Prop} {law : Law} {s t : World β κ α}
  {T : List env.client.Task} {H : Multiset (Place × Message)} {W : Multiset (Nat × Message)}

/-! ### Buffers and batches -/

theorem leads_take {batch : Batch} (regular retry : Buffer)
    (h : s.stock = (batch : Multiset Message) +
      ((regular.messages : Multiset Message) + (retry.messages : Multiset Message))) :
    Leads env.client told law (⟨T, H, W, ·, s⟩)
      (⟨T, loose batch + H, W, ·, s.rebuffered regular retry⟩) := by
  induction batch generalizing H s with
  | nil =>
    rw [Multiset.coe_nil, Multiset.zero_add] at h
    rw [loose_nil, Multiset.zero_add]
    exact .move fun _ => .arrange regular retry h.symm
  | cons m batch ih =>
    rw [loose_cons, Multiset.cons_add, ← Multiset.add_cons]
    refine (Leads.move fun _ => .take (regular.restoreFront batch) retry ?_).trans (ih ?_)
    · rw [h, Buffer.messages_restoreFront, ← Multiset.cons_coe, ← Multiset.coe_add,
        Multiset.cons_add, Multiset.add_assoc]
    · change ((regular.restoreFront batch).messages : Multiset Message) + _ = _
      rw [Buffer.messages_restoreFront, ← Multiset.coe_add, Multiset.add_assoc]
      rfl

theorem leads_store {batch : Batch} (regular retry : Buffer)
    (h : (regular.messages : Multiset Message) + (retry.messages : Multiset Message) =
      (batch : Multiset Message) + s.stock) :
    Leads env.client told law (⟨T, loose batch + H, W, ·, s⟩)
      (⟨T, H, W, ·, s.rebuffered regular retry⟩) := by
  induction batch generalizing s with
  | nil =>
    rw [Multiset.coe_nil, Multiset.zero_add] at h
    rw [loose_nil, Multiset.zero_add]
    exact .move fun _ => .arrange regular retry h
  | cons m batch ih =>
    rw [loose_cons, Multiset.cons_add]
    refine (Leads.move fun _ =>
      .store (s.producer.regular.pushFront m) s.producer.retry ?_).trans (ih ?_)
    · rw [Buffer.messages_pushFront, ← Multiset.cons_coe, Multiset.cons_add]
      rfl
    · rw [h]
      change _ = _ + (((s.producer.regular.pushFront m).messages : Multiset Message) + _)
      rw [Buffer.messages_pushFront, ← Multiset.cons_coe, ← Multiset.cons_coe, Multiset.cons_add,
        Multiset.cons_add, Multiset.add_cons]
      rfl

theorem leads_takeRetry :
    Leads env.client told law (⟨T, H, W, ·, s⟩)
      (⟨T, loose s.producer.retry.messages + H, W, ·,
        s.amended fun p => { p with retry := {} }⟩) :=
  leads_take s.producer.regular {} (by
    rw [Site.stock, Multiset.add_comm]
    exact congrArg _ (Multiset.add_zero _).symm)

theorem leads_takeRegular :
    Leads env.client told law (⟨T, H, W, ·, s⟩)
      (⟨T, loose s.producer.regular.messages + H, W, ·,
        s.amended fun p => { p with regular := {} }⟩) :=
  leads_take {} s.producer.retry rfl

theorem leads_mark (k : Mark) (hk : k = .flushBegan ∨ k = .flushEnded) :
    Leads env.client told law (⟨T, H, W, ·, s⟩) (⟨T, H, W, ·, s.marked k⟩) := by
  refine .move fun _ => .adjust ⟨fun _ => rfl, fun _ => rfl, fun _ => rfl, fun p => ?_,
    fun _ _ h => h, fun _ h => h⟩
  rcases hk with rfl | rfl <;> rfl

theorem leads_opened :
    Leads env.client told law (⟨T, H, W, ·, s⟩)
      (⟨T, loose (s.producer.retry.messages ++ s.producer.regular.messages) + H, W, ·,
        s.opened⟩) := by
  refine (leads_mark .flushBegan (.inl rfl)).trans
    ((leads_takeRetry.trans leads_takeRegular).trans (.move fun _ => ?_))
  rw [loose_append, ← add_assoc, add_comm (loose _)]
  exact .outside rfl rfl (.inl rfl)

theorem leads_closed {retries batch : Batch} {k : Nat} :
    Leads env.client told law (⟨T, loose ((retries ++ batch).drop k) + H, W, ·, s⟩)
      (⟨T, H, W, ·, s.closed retries batch k⟩) := by
  refine (leads_store (s.producer.regular.restoreFront (batch.drop (k - retries.length)))
    (s.producer.retry.restoreFront (retries.drop k)) ?_).trans (leads_mark .flushEnded (.inr rfl))
  rw [Buffer.messages_restoreFront, Buffer.messages_restoreFront, List.drop_append, Site.stock]
  simp only [← Multiset.coe_add]
  ac_rfl

/-! ### Single messages -/

/-- A batch sent without waiting is out of hand. -/
theorem leads_sendBatch (henv : env.Tame told law) {batch : Batch} {v : Unit}
    (h : env.sendBatch batch s = some (v, t)) :
    Leads env.client told law (⟨T, loose batch + H, W, ·, s⟩) (⟨T, H, W, ·, t⟩) := by
  induction batch generalizing s with
  | nil =>
    obtain ⟨-, rfl⟩ := Act.pure_eq_some.mp h
    rw [loose_nil, Multiset.zero_add]
    exact .refl
  | cons m batch ih =>
    simp only [sendBatch, List.forM_eq_forM, List.forM_cons, bind_assoc,
      Act.bind_eq_some (x := env.sendAsync m), pure_bind] at h
    obtain ⟨_, u, hm, h⟩ := h
    rw [loose_cons, Multiset.cons_add]
    exact (leads_sendAsync henv hm).trans (ih h)

/-- A caller waits for a message until it is out of hand. -/
theorem leaves_sendSync (henv : env.Tame told law) {m : Message} {r : Except ProducerError Unit}
    (h : env.sendSync m s = some (r, t)) :
    Leaves env told law (⟨T, (.engaged, (s.engage m).1) ::ₘ H, W, ·, (s.engage m).2⟩) T H W t
      (∃ e, r = .error (.broker e)) := by
  simp only [sendSync, Work.producer_bind, Work.attach_bind, Work.updateTracker_bind] at h
  have hm := TrackerTable.find?_attach s.producer.trackers m .sync
    (if s.producer.tracking then s.producer.settings.retryBudget else 0)
  exact leaves_attempts henv (TrackerTable.find?_eq_some_iff.mp hm).1 h

theorem leads_timeIsUp {start : Nat} {timeout : Option Span} {up : Bool}
    (h : timeIsUp start timeout s = some (up, t)) :
    Leads env.client told law (⟨T, H, W, ·, s⟩) (⟨T, H, W, ·, t⟩) := by
  cases timeout with
  | none =>
    obtain ⟨-, rfl⟩ := Act.pure_eq_some.mp h
    exact .refl
  | some timeout =>
    rw [timeIsUp, Site.readClock_bind] at h
    obtain ⟨-, rfl⟩ := Act.pure_eq_some.mp h
    exact .move fun _ => .outside rfl rfl (.inl rfl)

/-- Of a batch sent in order, what comes after the messages that were seen through is in hand. -/
theorem leaves_sendInOrder (henv : env.Tame told law) (hn : law.nested ∨ Idle H W) {start : Nat}
    {timeout : Option Span} {k k' : Nat} {batch : Batch} {r : Except ProducerError Unit}
    (h : env.sendInOrder start timeout k batch s = some ((k', r), t)) :
    k ≤ k' ∧ Leaves env told law (⟨T, loose batch + H, W, ·, s⟩) T
      (loose (batch.drop (k' - k)) + H) W t (∃ e, r = .error (.broker e)) := by
  induction batch generalizing k s with
  | nil =>
    obtain ⟨hk, rfl⟩ := Act.pure_eq_some.mp h
    obtain ⟨rfl, -⟩ := Prod.mk.inj hk
    rw [List.drop_nil]
    exact ⟨le_refl k, .of_leads .refl⟩
  | cons m rest ih =>
    rw [loose_cons, Multiset.cons_add]
    simp only [sendInOrder, Act.bind_eq_some (x := env.sendSync m)] at h
    obtain ⟨r', u, hm, h⟩ := h
    have hu := (leaves_sendSync (T := T) (H := loose rest + H) (W := W) henv hm).after
      (.move fun _ => .engage (hn.imp_right idle_loose))
    have hgo (h : (do
        if ← timeIsUp start timeout then return (k + 1, .ok ())
        else env.sendInOrder start timeout (k + 1) rest : Work β κ α _) u = some ((k', r), t))
        (hr : ¬ ∃ e, r' = .error (.broker e)) :
        k ≤ k' ∧ Leaves env told law (⟨T, (.ready none, m) ::ₘ (loose rest + H), W, ·, s⟩) T
          (loose ((m :: rest).drop (k' - k)) + H) W t (∃ e, r = .error (.broker e)) := by
      rw [Act.bind_eq_some] at h
      obtain ⟨up, u', htime, h⟩ := h
      have hu' := (hu.2 hr).trans (leads_timeIsUp htime)
      split at h
      · obtain ⟨hk, rfl⟩ := Act.pure_eq_some.mp h
        obtain ⟨rfl, -⟩ := Prod.mk.inj hk
        rw [Nat.add_sub_cancel_left]
        exact ⟨k.le_succ, .of_leads hu'⟩
      · obtain ⟨hk, hleaves⟩ := ih h
        rw [show k' - k = k' - (k + 1) + 1 by omega]
        exact ⟨by omega, hleaves.after hu'⟩
    split at h
    · exact hgo h (by simp)
    · exact hgo h (by simp)
    · exact hgo h (by simp)
    · obtain ⟨hk, rfl⟩ := Act.pure_eq_some.mp h
      obtain ⟨rfl, rfl⟩ := Prod.mk.inj hk
      rw [Nat.add_sub_cancel_left]
      exact ⟨k.le_succ, hu⟩

/-! ### Flushes -/

theorem whileFlushing_eq_some {ρ : Type} {work : Work β κ α ρ} {r : ρ}
    (h : whileFlushing work s = some (r, t)) :
    ∃ u, work (s.marked .flushBegan) = some (r, u) ∧ t = u.marked .flushEnded := by
  simp only [whileFlushing, Work.mark_bind, Act.bind_eq_some (x := work)] at h
  obtain ⟨r', u, hr, h⟩ := h
  obtain ⟨rfl, rfl⟩ := Act.pure_eq_some.mp h
  exact ⟨u, hr, rfl⟩

/-- The retries are sent, then what else is buffered, and then the broker is flushed once. -/
theorem flushAsync_eq_some {r : Except ProducerError Unit} (h : env.flushAsync s = some (r, t)) :
    ∃ u v w waited,
      env.sendBatch s.producer.retry.messages
        ((s.marked .flushBegan).amended fun p => { p with retry := {} }) = some ((), u) ∧
      env.sendBatch u.producer.regular.messages
        (u.amended fun p => { p with regular := {} }) = some ((), v) ∧
      env.awaitAcksFor .zero v = some (waited, w) ∧
      r = waited.map (fun _ => ()) ∧ t = w.marked .flushEnded := by
  obtain ⟨w, h, ht⟩ := whileFlushing_eq_some h
  rw [Work.takeRetry_bind] at h
  obtain ⟨_, u, hretries, h⟩ := Act.bind_eq_some.mp h
  rw [Work.takeRegular_bind] at h
  obtain ⟨_, v, hbatch, h⟩ := Act.bind_eq_some.mp h
  obtain ⟨waited, hwait, hr⟩ := Work.of_reply h
  exact ⟨u, v, w, waited, hretries, hbatch, hwait, hr.symm, ht⟩

/-- What is buffered is sent in order, between the opening of the flush and its closing. -/
theorem flushInOrder_eq_some {timeout : Option Span} {r : Except ProducerError Bool}
    (h : env.flushInOrder timeout s = some (r, t)) :
    ∃ k sent u,
      env.sendInOrder s.clock.read.1 timeout 0
        (s.producer.retry.messages ++ s.producer.regular.messages) s.opened =
          some ((k, sent), u) ∧
      r = sent.map (fun _ =>
        k == s.producer.retry.messages.length + s.producer.regular.messages.length) ∧
      t = u.closed s.producer.retry.messages s.producer.regular.messages k := by
  obtain ⟨v, h, ht⟩ := whileFlushing_eq_some h
  rw [Work.takeRetry_bind, Work.takeRegular_bind, Site.readClock_bind] at h
  obtain ⟨⟨k, sent⟩, u, hsent, h⟩ := Act.bind_eq_some.mp h
  obtain ⟨_, w, hback, h⟩ := Act.bind_eq_some.mp h
  obtain ⟨hr, rfl⟩ := Act.pure_eq_some.mp h
  obtain rfl := Work.modifyProducer_eq_some.mp hback
  exact ⟨k, sent, u, hsent, hr.symm, ht⟩

theorem leads_flushAsync (henv : env.Tame told law) {r : Except ProducerError Unit}
    (h : env.flushAsync s = some (r, t)) :
    Leads env.client told law (⟨T, H, W, ·, s⟩) (⟨T, H, W, ·, t⟩) := by
  obtain ⟨u, u', u'', _, hretries, hbatch, hwait, -, rfl⟩ := flushAsync_eq_some h
  calc Leads env.client told law (⟨T, H, W, ·, s⟩) (⟨T, H, W, ·, s.marked .flushBegan⟩) :=
        leads_mark .flushBegan (.inl rfl)
    Leads env.client told law _ _ := leads_takeRetry
    Leads env.client told law _ (⟨T, H, W, ·, u⟩) := leads_sendBatch henv hretries
    Leads env.client told law _ _ := leads_takeRegular
    Leads env.client told law _ (⟨T, H, W, ·, u'⟩) := leads_sendBatch henv hbatch
    Leads env.client told law _ (⟨T, H, W, ·, u''⟩) := leads_awaitAcksFor henv hwait
    Leads env.client told law _ _ := leads_mark .flushEnded (.inr rfl)

theorem leaves_flushInOrder (henv : env.Tame told law) (hn : law.nested ∨ Idle H W)
    {timeout : Option Span} {r : Except ProducerError Bool}
    (h : env.flushInOrder timeout s = some (r, t)) :
    Leaves env told law (⟨T, H, W, ·, s⟩) T H W t (∃ e, r = .error (.broker e)) := by
  obtain ⟨k, sent, u, hsent, hr, rfl⟩ := flushInOrder_eq_some h
  have hfailed : (∃ e, sent = .error (.broker e)) → ∃ e, r = .error (.broker e) := by
    rintro ⟨e, rfl⟩
    exact ⟨e, hr⟩
  exact (Leaves.before (.after (leaves_sendInOrder henv hn hsent).2 leads_opened)
    leads_closed).mono hfailed

/-- A flush that sends everything and waits once. -/
theorem leads_flush (henv : env.Tame told law) {r : Except ProducerError Unit}
    (h : env.flush false s = some (r, t)) :
    Leads env.client told law (⟨T, H, W, ·, s⟩) (⟨T, H, W, ·, t⟩) := by
  simp only [flush, Bool.false_eq_true, if_false, Act.bind_eq_some (x := env.flushAsync)] at h
  obtain ⟨r', u, hflush, h⟩ := h
  have hu := leads_flushAsync (T := T) (H := H) (W := W) henv hflush
  cases r' with
  | error e =>
    obtain ⟨-, rfl⟩ := Act.pure_eq_some.mp h
    exact hu
  | ok _ => exact hu.trans (leads_awaitAcks henv h).1

theorem leads_flushFor (henv : env.Tame told law) {timeout : Span}
    {r : Except ProducerError Bool} (h : env.flushFor timeout false s = some (r, t)) :
    Leads env.client told law (⟨T, H, W, ·, s⟩) (⟨T, H, W, ·, t⟩) := by
  simp only [flushFor, Bool.false_eq_true, if_false, Act.bind_eq_some (x := env.flushAsync)] at h
  obtain ⟨r', u, hflush, h⟩ := h
  have hu := leads_flushAsync (T := T) (H := H) (W := W) henv hflush
  cases r' with
  | error e =>
    obtain ⟨-, rfl⟩ := Act.pure_eq_some.mp h
    exact hu
  | ok _ => exact hu.trans (leads_awaitAcksFor henv h)

/-! ### Messages coming in -/

theorem moves_enroll {c : Client β} {T : List c.Task} (m : Message) (M : Multiset Message) :
    Relation.ReflTransGen (Move c told law) ⟨T, H, W, M, s⟩
      ⟨T, (.ready none, (s.enroll m).1) ::ₘ H, W, M, (s.enroll m).2⟩ := by
  rw [Site.enroll]
  refine .head (.submit m) ?_
  split
  · next ht => exact .single (.attach ht)
  · exact .refl

/-- What `add` does with a message that was enrolled. -/
theorem leads_add (henv : env.Tame told law) {m : Message} {r : Except ProducerError Unit}
    (h : env.add m s = some (r, t)) :
    Leads env.client told law (⟨T, (.ready none, (s.enroll m).1) ::ₘ H, W, ·, (s.enroll m).2⟩)
      (⟨T, H, W, ·, t⟩) := by
  rw [add_eq] at h
  have hstore : Leads env.client told law
      (⟨T, (.ready none, (s.enroll m).1) ::ₘ H, W, ·, (s.enroll m).2⟩)
      (⟨T, H, W, ·, s.stored m⟩) := by
    rw [Site.stored]
    generalize s.enroll m = enrolled
    obtain ⟨m, s⟩ := enrolled
    refine .move fun _ => .store (s.producer.regular.pushBack m) s.producer.retry ?_
    rw [Buffer.messages_pushBack, ← Multiset.coe_add, Multiset.coe_singleton, add_right_comm,
      add_comm, Multiset.singleton_add]
    rfl
  split at h
  · split at h
    · exact hstore.trans (leads_flush henv h)
    · exact hstore.trans (leads_flushAsync henv h)
  · obtain ⟨-, rfl⟩ := Prod.mk.inj (Option.some.inj h)
    exact hstore

/-- What `produce` does with a message that was enrolled. -/
theorem leads_produce (henv : env.Tame told law) {m : Message} {r : Except ProducerError Unit}
    (h : env.produce m s = some (r, t)) :
    Leads env.client told law (⟨T, (.ready none, (s.enroll m).1) ::ₘ H, W, ·, (s.enroll m).2⟩)
      (⟨T, H, W, ·, t⟩) := by
  rw [produce, Work.enroll_bind, Act.bind_eq_some] at h
  obtain ⟨r', u, hsend, h⟩ := h
  have hu := leads_sendAsync (T := T) (H := H) (W := W) henv hsend
  cases r' <;> obtain ⟨-, rfl⟩ := Act.pure_eq_some.mp h <;> exact hu

/-- What `produceSync` does with a message that is the caller's. -/
theorem leaves_produceSync (henv : env.Tame told law) {m : Message}
    {r : Except ProducerError Unit} (h : env.produceSync m s = some (r, t)) :
    Leaves env told law
      (⟨T, (.engaged, ((s.noted (.submitted m)).engage m).1) ::ₘ H, W, ·,
        ((s.noted (.submitted m)).engage m).2⟩) T H W t (∃ e, r = .error (.broker e)) :=
  leaves_sendSync henv h

/-! ### Operations -/

theorem leads_discard {batch : Batch} {v : Unit}
    (h : batch.forM Work.discard s = some (v, t)) :
    Leads env.client told law (⟨T, loose batch + H, W, ·, s⟩) (⟨T, H, W, ·, t⟩) := by
  induction batch generalizing s with
  | nil =>
    obtain ⟨-, rfl⟩ := Act.pure_eq_some.mp h
    rw [loose_nil, Multiset.zero_add]
    exact .refl
  | cons m batch ih =>
    simp only [List.forM_eq_forM, List.forM_cons, Work.discard, bind_assoc, Work.release_bind,
      Work.record_bind] at h
    rw [loose_cons, Multiset.cons_add]
    exact (Leads.move fun _ => .discard).trans (ih h)

theorem leads_clear {v : Unit} (h : Work.clear s = some (v, t)) :
    Leads env.client told law (⟨T, H, W, ·, s⟩) (⟨T, H, W, ·, t⟩) := by
  rw [Work.clear, Work.takeRetry_bind, Work.takeRegular_bind] at h
  refine (leads_takeRetry.trans leads_takeRegular).trans ?_
  rw [← add_assoc, add_comm (loose _) (loose _), ← loose_append]
  exact leads_discard h

/-- A change of settings. -/
theorem leads_adjust {f : Producer κ → Producer κ} (hf : Producer.Spares f) {v : Unit}
    (h : Work.modifyProducer f s = some (v, t)) :
    Leads env.client told law (⟨T, H, W, ·, s⟩) (⟨T, H, W, ·, t⟩) := by
  obtain rfl := Work.modifyProducer_eq_some.mp h
  exact .move fun _ => .adjust hf

/-- A setting that is no setting of tracking touches nothing else. -/
theorem spares_settings (f : Settings → Settings) :
    Producer.Spares fun p : Producer κ => { p with settings := f p.settings } :=
  ⟨fun _ => rfl, fun _ => rfl, fun _ => rfl, fun _ => rfl, fun _ _ h => h, fun _ h => h⟩

theorem spares_setRetryBudget (n : Nat) :
    Producer.Spares fun p : Producer κ => p.setRetryBudget n :=
  ⟨fun _ => rfl, fun _ => rfl, fun _ => rfl, fun _ => rfl, fun _ _ h => h, fun p h => by
    simp [Producer.setRetryBudget, h]⟩

theorem spares_setHook (kind : HookKind) (hook : κ) :
    Producer.Spares fun p => p.setHook kind hook := by
  refine ⟨fun _ => rfl, fun _ => rfl, fun _ => rfl, fun _ => rfl, fun p k h => ?_, fun _ h => h⟩
  by_cases hk : k = kind
  · rw [hk, Producer.setHook, Hooks.find?_set_self]
    rfl
  · rwa [Producer.setHook, Hooks.find?_set_of_ne _ _ hk]

theorem leads_setBufferLimit {n : Int} {r : Except ProducerError Unit}
    (h : Work.setBufferLimit n s = some (r, t)) :
    Leads env.client told law (⟨T, H, W, ·, s⟩) (⟨T, H, W, ·, t⟩) := by
  obtain ⟨-, rfl⟩ := Work.setBufferLimit_eq_some h
  split
  · exact .refl
  · exact .move fun _ => .adjust (spares_settings fun s => { s with bufferLimit := n })

/-- An operation in which nobody waits for the outcome of one message. -/
theorem leads_operate (henv : env.Tame told law) {op : Operation Message}
    (hop : op.isOrdered = false) {r : Reply} (h : env.operate op s = some (r, t)) :
    Leads env.client told law (⟨T, H, W, ·, s⟩) (⟨T, H, W, ·, t⟩) := by
  cases op with
  | add m =>
    obtain ⟨r, h, -⟩ := Work.of_reply h
    exact .trans (fun M => ⟨M, moves_enroll m M⟩) (leads_add henv h)
  | produce m =>
    obtain ⟨r, h, -⟩ := Work.of_reply h
    exact .trans (fun M => ⟨M, moves_enroll m M⟩) (leads_produce henv h)
  | produceSync m => simp [Operation.isOrdered] at hop
  | flushAsync =>
    obtain ⟨r, h, -⟩ := Work.of_reply h
    exact leads_flushAsync henv h
  | flush inOrder =>
    obtain rfl : inOrder = false := hop
    obtain ⟨r, h, -⟩ := Work.of_reply h
    exact leads_flush henv h
  | flushFor timeout inOrder =>
    obtain rfl : inOrder = false := hop
    obtain ⟨r, h, -⟩ := Work.of_reply h
    exact leads_flushFor henv h
  | awaitAcks =>
    obtain ⟨r, h, -⟩ := Work.of_reply h
    exact (leads_awaitAcks henv h).1
  | awaitAcksFor timeout =>
    obtain ⟨r, h, -⟩ := Work.of_reply h
    exact leads_awaitAcksFor henv h
  | clear =>
    obtain ⟨r, h, -⟩ := Work.of_reply h
    exact leads_clear h
  | setBufferLimit n =>
    obtain ⟨r, h, -⟩ := Work.of_reply h
    exact leads_setBufferLimit h
  | setFlushMode mode =>
    obtain ⟨r, h, -⟩ := Work.of_reply h
    exact leads_adjust (spares_settings fun s => { s with flushMode := mode }) h
  | setRetryBudget n =>
    obtain ⟨r, h, -⟩ := Work.of_reply h
    exact leads_adjust (spares_setRetryBudget n) h
  | setFullQueueNotice notice =>
    obtain ⟨r, h, -⟩ := Work.of_reply h
    exact leads_adjust (spares_settings fun s => { s with fullQueueNotice := notice }) h

/-- Every operation leaves nothing in hand, and nobody who waits. -/
theorem leaves_operate (henv : env.Tame told law) (hn : law.nested ∨ Idle H W)
    {op : Operation Message} {r : Reply} (h : env.operate op s = some (r, t)) :
    Leaves env told law (⟨T, H, W, ·, s⟩) T H W t (∃ e, r = .failed (.broker e)) := by
  cases hop : op.isOrdered with
  | false => exact .of_leads (leads_operate henv hop h)
  | true =>
    cases op with
    | produceSync m =>
      obtain ⟨r, hsync, rfl⟩ := Work.of_reply h
      refine ((leaves_produceSync henv hsync).after
        ((Leads.move fun _ => .submit m).trans (.move fun _ => .engage hn))).mono ?_
      rintro ⟨e, rfl⟩
      exact ⟨e, rfl⟩
    | flush inOrder =>
      obtain rfl : inOrder = true := hop
      obtain ⟨r, hflush, rfl⟩ := Work.of_reply h
      obtain ⟨v, hordered, rfl⟩ := Work.of_reply hflush
      refine (leaves_flushInOrder henv hn hordered).mono ?_
      rintro ⟨e, rfl⟩
      exact ⟨e, rfl⟩
    | flushFor timeout inOrder =>
      obtain rfl : inOrder = true := hop
      obtain ⟨r, hflush, rfl⟩ := Work.of_reply h
      refine (leaves_flushInOrder henv hn hflush).mono ?_
      rintro ⟨e, rfl⟩
      exact ⟨e, rfl⟩
    | _ => simp [Operation.isOrdered] at hop

end Surroundings

end Outbox
