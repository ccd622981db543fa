import Outbox.Proofs.Partition

/-! While tracking is off. Then the only trackers are those of waiting callers, and none of them has a
    retry to grant. So nothing that a message can meet depends on its id, and whatever ids the
    messages have that come in, none of them is lost and none is sent twice. Main statement: at
    every return to the outermost caller every message that came in is buffered, or it was offered
    once or discarded. -/

namespace Outbox

variable {β κ α : Type}

/-! ### What has left the buffers -/

/-- The message that has left the buffers for good, since it was offered or discarded. -/
def Event.outgoing : Event → Option Message
  | concluded m .cleared => some m
  | e => e.offering

theorem Event.outgoing_of_isAside {e : Event} (h : e.isAside = true) : e.outgoing = none := by
  cases e <;> simp_all [isAside, outgoing, offering]

theorem gather_outgoing (J : List Entry) : gather Event.outgoing J =
    gather Event.offering J + departed Fate.isCleared J := by
  induction J with
  | nil => rfl
  | cons e J ih =>
    rw [gather_cons, gather_cons, departed_cons, ih]
    cases he : e.event with
    | concluded m fate =>
      cases fate <;> simp [Event.outgoing, Event.offering, Event.leaving, Fate.isCleared,
        add_left_comm]
    | _ => simp [Event.outgoing, Event.leaving, add_assoc]

/-- What is buffered and what has left the buffers for good. -/
def Site.book (s : World β κ α) : Multiset Message := s.stock + gather Event.outgoing s.journal

/-! ### Trackers without retries -/

/-- The tracker is a waiting caller's, and there is no retry, not even in a slot. -/
structure Tracker.Plain (k : Tracker) : Prop where
  remaining : k.remaining = 0
  sender : k.sender = .sync
  unread : ∀ o ∈ k.unread, o.2 ≠ .retry

namespace Tracker.Plain

variable {k : Tracker}

theorem receive_ne (h : k.Plain) (i : Nat) : (k.receive i).1 ≠ .outcome .retry := by
  intro hr
  obtain ⟨-, hl⟩ := (receive_eq_outcome k).mp hr
  obtain ⟨l, l', hunread, -⟩ := List.lookup_eq_some_iff.mp hl
  exact h.unread (i, .retry) (by simp [hunread]) rfl

theorem claimed (h : k.Plain) : k.claimRetry.2.Plain := by
  rw [claimRetry_zero h.remaining]
  exact h

theorem armed (h : k.Plain) : k.arm.2.Plain := ⟨h.remaining, h.sender, h.unread⟩

theorem completed (h : k.Plain) {o : Outcome} (ho : o ≠ .retry) : (k.complete o).Plain := by
  unfold complete
  split
  · exact ⟨h.remaining, h.sender, List.forall_mem_cons.mpr ⟨ho, h.unread⟩⟩
  · exact h

theorem received (h : k.Plain) (i : Nat) : (k.receive i).2.Plain := by
  refine ⟨by rw [remaining_receive, h.remaining], by rw [sender_receive, h.sender], ?_⟩
  unfold receive
  split
  · exact h.unread
  · split
    · exact fun o ho => h.unread o (List.mem_of_mem_filter ho)
    · exact h.unread

end Tracker.Plain

section

variable {c : Client β} {told : β → β → Prop} {b₀ : β} {law : Law} {S S' : Scene c κ α}

/-- Every tracker is a waiting caller's and has no retry, and no retry was claimed. -/
structure Site.Plain (s : World β κ α) : Prop where
  tracker : ∀ X k, s.trackers.lookup? X = some k → k.tracker.Plain
  renewed : gather Event.renewing s.journal = 0

namespace Site.Plain

variable {s : World β κ α} {id : TrackingId}

/-- Nobody is granted a retry. -/
theorem grants (h : s.Plain) (id : TrackingId) : s.grants id = none := by
  rw [Option.eq_none_iff_forall_ne_some]
  intro sender hg
  obtain ⟨k, hk, hpos, -⟩ := s.trackers.claim_eq_some id |>.mp hg
  exact absurd (h.tracker id k hk).remaining hpos.ne'

/-- Nobody finds a retry. -/
theorem owes (h : s.Plain) (w : Nat × Message) : s.owes w = false := by
  by_contra ho
  obtain ⟨X, k, -, hk, hr⟩ := owes_iff.mp (by simpa using ho)
  exact (h.tracker X k hk).receive_ne w.1 hr

theorem owed (h : s.Plain) (W : Multiset (Nat × Message)) : owed s W = 0 := by
  simp [Outbox.owed, h.owes]

theorem retracked {f : TrackerTable → TrackerTable} (h : s.Plain)
    (hf : ∀ X k, (f s.trackers).lookup? X = some k → k.tracker.Plain) : (s.retracked f).Plain :=
  ⟨hf, h.renewed⟩

theorem released (h : s.Plain) (m : Message) : (s.retracked (·.release m)).Plain := by
  refine h.retracked fun X k hk => ?_
  rcases TrackerTable.entry_of_release hk with he | ⟨k', he, rfl⟩
  · exact h.tracker X k he
  · exact h.tracker X k' he

theorem updated (h : s.Plain) {f : Tracker → Tracker} (hf : ∀ k : Tracker, k.Plain → (f k).Plain)
    (id : TrackingId) : (s.retracked (·.update id f)).Plain := by
  refine h.retracked fun X k hk => ?_
  rcases TrackerTable.entry_of_update hk with he | ⟨k', he, rfl⟩
  · exact h.tracker X k he
  · exact hf _ (h.tracker X k' he)

/-- No retry is claimed by the event. -/
theorem noted (h : s.Plain) {e : Event} (he : e.renewing = none) : (s.noted e).Plain :=
  ⟨h.tracker, by rw [Site.journal_noted, gather_cons, Site.event_entry, he, h.renewed]; rfl⟩

theorem marked (h : s.Plain) (k : Mark) : (s.marked k).Plain := ⟨h.tracker, h.renewed⟩

end Site.Plain

theorem Site.tracking_acknowledged (s : World β κ α) (k : Option TrackingId) (o : Outcome)
    (m : Message) : (s.acknowledged k o m).producer.tracking = s.producer.tracking := by
  cases k <;> rfl

/-- Tracking is never switched off. -/
theorem Move.untracked (h : Move c told law S S') (ht : S'.world.producer.tracking = false) :
    S.world.producer.tracking = false := by
  cases h with
  | outside hp _ _ => exact hp ▸ ht
  | adjust hf =>
    by_contra hon
    exact Bool.false_ne_true (ht.symm.trans (hf.tracking _ (Bool.not_eq_false _ ▸ hon)))
  | acknowledge _ | regain _ _ _ _ _ | leave _ _ =>
    rw [Site.tracking_acknowledged] at ht
    exact ht
  | _ => exact ht

/-- As long as tracking is off and no caller is given up, only callers have trackers. -/
theorem Move.plain (h : Move c told law S S') (hf : ¬ law.failing)
    (hS : S.world.producer.tracking = false → S.world.Plain)
    (ht : S'.world.producer.tracking = false) : S'.world.Plain := by
  have hS := hS (h.untracked ht)
  cases h with
  | outside hp hj _ => exact ⟨by simpa only [Site.trackers, hp] using hS.tracker, hj ▸ hS.renewed⟩
  | adjust hf =>
    refine ⟨?_, hS.renewed⟩
    rw [Site.trackers, Site.producer_amended, hf.trackers]
    exact hS.tracker
  | attach hon => exact absurd (hon.symm.trans ht) (by simp)
  | @engage T H W M s m hn =>
    have hoff : s.producer.tracking = false := ht
    have hattach : (s.attach m .sync 0).2.2.Plain := by
      refine Site.Plain.retracked (s := s) (f := fun t => (t.attach m .sync 0).2.2) hS
        fun X k hk => ?_
      rw [TrackerTable.lookup?_attach] at hk
      split at hk
      · obtain rfl := Option.some_inj.mp hk
        exact ⟨rfl, rfl, by simp [Issued.fresh]⟩
      · exact hS.tracker X k hk
    simp only [Site.engage, hoff, Bool.false_eq_true, if_false]
    exact hattach.updated (f := (·.setSender .sync)) (fun k h => ⟨h.remaining, rfl, h.unread⟩) _
  | aside he => exact hS.noted (Event.renewing_of_isAside he)
  | arrange _ _ _ | begin _ _ | more _ | finish _ | take | store | hush | part | report =>
    exact ⟨hS.tracker, hS.renewed⟩
  | submit _ | tell _ | accept _ | full _ _ | refuse _ _ =>
    exact ⟨hS.tracker, by simpa [Event.renewing] using hS.renewed⟩
  | discard => exact (hS.released _).noted rfl
  | forsake | deliver | lose => exact ((hS.marked _).released _).noted rfl
  | @vain T H W M s id _ => exact hS.updated (f := (·.claimRetry.2)) (fun k h => h.claimed) id
  | @requeue T H W M s e m id sender _ hg | @retake T H W M s slot e m id sender _ hg
  | @leave T H W M s id e m _ hg | @regain T H W M s id e m _ _ _ hg _ =>
    exact absurd (hg.symm.trans (hS.grants id)) (by simp)
  | @acknowledge T H W M s k f m hk =>
    cases k with
    | none => exact (hS.noted rfl).marked _
    | some id =>
      have ho : f.elim .delivered .dropped ≠ Outcome.retry := by cases f <;> simp
      exact ((hS.updated (f := (·.complete _)) (fun k h => h.completed ho) id).noted rfl).marked _
  | @arm T H W M s m id _ => exact hS.updated (f := (·.arm.2)) (fun k h => h.armed) id
  | @retry T H W M s slot m id _ _ | @learn T H W M s slot m id _ _ _ =>
    exact hS.updated (fun k h => h.received slot) id
  | giveUp _ hfail => exact absurd hfail hf

theorem Scene.plain_moves (h : Relation.ReflTransGen (Move c told law) S S') (hf : ¬ law.failing)
    (hS : S.world.producer.tracking = false → S.world.Plain) :
    S'.world.producer.tracking = false → S'.world.Plain := by
  induction h with
  | refl => exact hS
  | tail _ h ih => exact h.plain hf ih

/-- As long as tracking is off no message is lost, whatever ids the messages have. -/
theorem Scene.conserves_of_untracked {ι : Type} {φ : Message → ι} (hc : c.Honest told b₀)
    (hk : c.Keeps (fun n m => φ n = φ m) told b₀) (hφ : ∀ m X, φ { m with tracking := X } = φ m)
    (h : Relation.ReflTransGen (Move c told law) S S') (hf : ¬ law.failing)
    (hS : S.Balanced told b₀) (hp : S.world.producer.tracking = false → S.world.Plain)
    (ht : S'.world.producer.tracking = false) : S.Conserves φ S' := by
  induction h with
  | refl => exact rfl
  | @tail B C hmoves h ih =>
    have hB := Scene.plain_moves hmoves hf hp (h.untracked ht)
    have hC := h.plain hf (fun _ => hB) ht
    refine (ih (h.untracked ht)).trans ?_
    rcases Conserves.of_owed hc hk hφ h hf (hS.moves hc hmoves) with hlends | hconserves
    · cases hlends with
      | leave _ hg => exact absurd (hg.symm.trans (hB.grants _)) (by simp)
      | @retry T H W M s slot m id hm hr =>
        obtain ⟨k, hk, hr⟩ := entry_of_receipt hr
        exact absurd hr ((hB.tracker id k hk).receive_ne slot)
    · exact hconserves (by rw [hC.owed, hB.owed])

end

/-! ### Ids that were given out -/

/-- The message has no id of the producer's, or one that was given out before `N`. -/
def Message.isEarly (N : TrackingId) (m : Message) : Bool :=
  m.tracking.all fun X => X.scope != N.scope || decide (X.sequence < N.sequence)

theorem Message.isEarly_mono {N N' : TrackingId} {m : Message} (hscope : N'.scope = N.scope)
    (hle : N.sequence ≤ N'.sequence) (h : m.isEarly N = true) : m.isEarly N' = true := by
  cases hm : m.tracking with
  | none => simp [isEarly, hm]
  | some X =>
    simp only [isEarly, hm, Option.all_some, Bool.or_eq_true, bne_iff_ne, decide_eq_true_eq] at h ⊢
    exact h.imp (hscope ▸ ·) (·.trans_le hle)

namespace TrackerTable

variable (t : TrackerTable)

@[simp] theorem nextId_update (id : TrackingId) (f : Tracker → Tracker) :
    (t.update id f).nextId = t.nextId := by
  rw [update]
  split <;> rfl

@[simp] theorem nextId_release (m : Message) : (t.release m).nextId = t.nextId := by
  rw [release]
  split <;> rfl

theorem sequence_nextId_attach (m : Message) (sender : Sender) (budget : Nat) :
    t.nextId.sequence ≤ (t.attach m sender budget).2.2.nextId.sequence := by
  rw [attach]
  split
  · exact Nat.le_refl _
  · simp [nextId]

/-- A message that is attached is the same as before, or has an id that is given out by now. -/
theorem attached_cases (m : Message) (sender : Sender) (budget : Nat) :
    (t.attach m sender budget).2.1 = m ∨
      (t.attach m sender budget).2.1.isEarly (t.attach m sender budget).2.2.nextId = true := by
  rw [attach]
  split
  · exact .inl rfl
  · exact .inr (by simp [Message.isEarly, nextId])

end TrackerTable

section

variable {c : Client β} {told : β → β → Prop} {b₀ : β} {law : Law} {S S' : Scene c κ α}

theorem Move.nextId (h : Move c told law S S') :
    S.world.trackers.nextId.sequence ≤ S'.world.trackers.nextId.sequence := by
  cases h with
  | outside hp _ _ => simp only [Site.trackers, hp, le_refl]
  | adjust hf => exact (congrArg (·.nextId.sequence) (hf.trackers _)).ge
  | attach _ => exact TrackerTable.sequence_nextId_attach ..
  | engage _ =>
    rw [Site.engage, Site.trackers_entrusted, TrackerTable.nextId_update]
    exact TrackerTable.sequence_nextId_attach ..
  | @acknowledge T H W M s k f m _ => cases k <;> simp
  | _ => simp

/-- The messages that are anywhere, and those that have left the buffers for good. -/
def Scene.around (S : Scene c κ α) : Multiset Message :=
  S.world.book + S.flight + S.hands.map Prod.snd + S.waits.map Prod.snd

theorem Scene.mem_around {m : Message} : m ∈ S.around ↔
    m ∈ S.world.stock ∨ m ∈ gather Event.outgoing S.world.journal ∨ m ∈ S.flight ∨
      m ∈ S.hands.map Prod.snd ∨ m ∈ S.waits.map Prod.snd := by
  simp only [around, Site.book, Multiset.mem_add, or_assoc]

section

variable {T : List c.Task} {H : Multiset (Place × Message)} {W : Multiset (Nat × Message)}
  {M : Multiset Message} {s : World β κ α} {p : Place} {slot : Nat} {m n : Message}

theorem Scene.mem_around_hand : m ∈ (⟨T, (p, n) ::ₘ H, W, M, s⟩ : Scene c κ α).around ↔
    m = n ∨ m ∈ (⟨T, H, W, M, s⟩ : Scene c κ α).around := by
  simp only [around, Multiset.map_cons, Multiset.add_cons, Multiset.cons_add, Multiset.mem_cons]

theorem Scene.mem_around_wait : m ∈ (⟨T, H, (slot, n) ::ₘ W, M, s⟩ : Scene c κ α).around ↔
    m = n ∨ m ∈ (⟨T, H, W, M, s⟩ : Scene c κ α).around := by
  simp only [around, Multiset.map_cons, Multiset.add_cons, Multiset.mem_cons]

/-- A message that is in hand is around, and of others no more is in question. -/
theorem Scene.around_of_ne (h : m ≠ n → m ∈ (⟨T, H, W, M, s⟩ : Scene c κ α).around) :
    m ∈ (⟨T, (p, n) ::ₘ H, W, M, s⟩ : Scene c κ α).around :=
  mem_around_hand.mpr (Classical.or_iff_not_imp_left.mpr h)

/-- A message that is attached is the same as before, or has an id that is given out by now. -/
theorem Scene.around_attached {t : World β κ α} {sender : Sender} {budget : Nat} {p' : Place}
    (hm : m ∈ (⟨T, (p', (s.trackers.attach n sender budget).2.1) ::ₘ H, W, M, t⟩ :
      Scene c κ α).around) (hbook : t.book = s.book) :
    m ∈ (⟨T, (p, n) ::ₘ H, W, M, s⟩ : Scene c κ α).around ∨
      m.isEarly (s.trackers.attach n sender budget).2.2.nextId = true := by
  rcases s.trackers.attached_cases n sender budget with hn | hearly
  · rw [hn] at hm
    exact .inl (mem_around_hand.mpr ((mem_around_hand.mp hm).imp_right fun hm => by
      rwa [around, hbook] at hm))
  · rcases mem_around_hand.mp hm with rfl | hm
    · exact .inr hearly
    · rw [around, hbook] at hm
      exact .inl (mem_around_hand.mpr (.inr hm))

end

/-- A message that is around was around before, or it came in, or its id was given out. -/
theorem Move.around (hc : c.Exact told b₀) (h : Move c told law S S') (hS : S.Balanced told b₀)
    {m : Message} (hm : m ∈ S'.around) :
    m ∈ S.around ∨ m ∈ arrived S'.world.journal ∨
      m.isEarly S'.world.trackers.nextId = true := by
  cases h with
  | attach _ => exact (Scene.around_attached hm rfl).imp_right .inr
  | engage _ =>
    rw [Site.engage, Site.trackers_entrusted, TrackerTable.nextId_update]
    exact (Scene.around_attached hm rfl).imp_right .inr
  | @submit T H W M s n =>
    rcases Scene.mem_around_hand.mp hm with rfl | hm
    · exact .inr (.inl (by simp [Event.coming]))
    · exact .inl (by simpa [Scene.mem_around, Event.outgoing, Event.offering] using hm)
  | outside hp hj _ =>
    exact .inl (by simpa only [Scene.mem_around, Site.stock, hp, hj] using hm)
  | aside he => exact .inl (by simpa [Scene.mem_around, Event.outgoing_of_isAside he] using hm)
  | @adjust T H W M s f hf =>
    have hstock : (s.amended f).stock = s.stock := by
      simp only [Site.stock, Site.producer_amended, hf.regular, hf.retry]
    rw [Scene.mem_around, hstock] at hm
    exact .inl (Scene.mem_around.mpr hm)
  | arrange _ _ hb =>
    refine .inl ?_
    simpa only [Scene.mem_around, Site.stock_rebuffered, hb, Site.journal_rebuffered] using hm
  | vain _ | begin _ _ | more _ | finish _ =>
    exact .inl (by simpa [Scene.mem_around] using hm)
  | @take T H W M s n regular retry hb =>
    refine .inl (Scene.mem_around.mpr ?_)
    rcases Scene.mem_around_hand.mp hm with rfl | hm
    · exact .inl (by simp [hb])
    · exact (Scene.mem_around.mp hm).imp_left fun hm => hb ▸ Multiset.mem_cons_of_mem hm
  | @report T H W M s task next r b clock hstep =>
    refine .inl (Scene.mem_around.mpr ?_)
    rcases Scene.mem_around_hand.mp hm with rfl | hm
    · exact .inr (.inr (.inl (hc hS.course hstep)))
    · exact (Scene.mem_around.mp hm).imp_right
        (.imp_right (.imp_left Multiset.mem_of_mem_erase))
  | retry _ _ =>
    exact .inl (Scene.mem_around_wait.mpr (Scene.mem_around_hand.mp hm))
  | learn _ _ _ | giveUp _ _ => exact .inl (Scene.mem_around_wait.mpr (.inr hm))
  | @accept T H W M s w n b _ =>
    refine .inl (Scene.around_of_ne fun hn => ?_)
    cases w <;> simpa [Scene.mem_around, hn, Event.outgoing, Event.offering] using hm
  | store _ _ hb | regain _ _ _ _ hb =>
    refine .inl (Scene.around_of_ne fun hn => ?_)
    simpa [Scene.mem_around, hn, hb, Event.outgoing, Event.offering] using hm
  | full _ he | refuse _ he =>
    refine .inl (Scene.around_of_ne fun hn => ?_)
    simpa [Scene.mem_around, hn, he, Event.outgoing, Event.offering] using hm
  | _ =>
    refine .inl (Scene.around_of_ne fun hn => ?_)
    simpa [Scene.mem_around, hn, Event.outgoing, Event.offering] using hm

/-- Every message that is around came in, or its id was given out. -/
theorem Scene.around_moves (hc : c.Exact told b₀)
    (h : Relation.ReflTransGen (Move c told law) S S') (hS : S.Balanced told b₀)
    (hnone : S.around = 0) {m : Message} (hm : m ∈ S'.around) :
    m ∈ arrived S'.world.journal ∨ m.isEarly S'.world.trackers.nextId = true := by
  induction h with
  | refl => exact absurd (hnone ▸ hm) (Multiset.notMem_zero m)
  | @tail B C hmoves h ih =>
    have hscope : C.world.trackers.nextId.scope = B.world.trackers.nextId.scope := h.scope
    rcases h.around hc (hS.moves hc.honest hmoves) hm with hm | hm
    · refine (ih hm).imp (fun hm => ?_) (Message.isEarly_mono hscope h.nextId)
      obtain ⟨e, he, hm⟩ := List.mem_filterMap.mp (Multiset.mem_coe.mp hm)
      exact Multiset.mem_coe.mpr (List.mem_filterMap.mpr ⟨e, h.suffix.subset he, hm⟩)
    · exact hm

end

/-! ### In a run -/

namespace MemoryBroker

variable {conduct : κ → HookKind → Message → Option BrokerError →
  Conduct MemoryBroker κ α MemoryWord} {limits : MemoryLimits} {clock : Clock} {settings : Settings}
  {scope : Nat} {a : α} {limit depth : Nat} {deeds : List (Deed κ α MemoryWord)}
  {s : World MemoryBroker κ α}

theorem plain_opening : (Site.opening { limits := limits } clock settings scope a :
    World MemoryBroker κ α).Plain :=
  ⟨fun _ _ hk => absurd (hk.symm.trans Site.lookup?_opening) (by simp), rfl⟩

/-- As long as tracking is off, no retry was claimed, and only callers have trackers. -/
theorem plain_of_run
    (h : (application conduct).run limit depth deeds
      (.opening { limits := limits } clock settings scope a) = some ((), s))
    (hoff : s.producer.tracking = false) : s.Plain := by
  have ho : (application conduct).Obeys ⟨False, True⟩ := ⟨not_mayFail, .inr trivial⟩
  obtain ⟨M, hmoves⟩ := Application.leads_run (H := 0) (W := 0) (T := []) ho (.inl trivial) h 0
  exact Scene.plain_moves hmoves id (fun _ => plain_opening) hoff

/-- As long as tracking is off, every message that came in is buffered, or it was discarded or
    offered once. -/
theorem book_of_run
    (h : (application conduct).run limit depth deeds
      (.opening { limits := limits } clock settings scope a) = some ((), s))
    (hoff : s.producer.tracking = false) :
    s.book.map Message.untracked = (arrived s.journal).map Message.untracked := by
  have hc := exact_application conduct limits
  have ho : (application conduct).Obeys ⟨False, True⟩ := ⟨not_mayFail, .inr trivial⟩
  obtain ⟨M, hmoves⟩ := Application.leads_run (H := 0) (W := 0) (T := []) ho (.inl trivial) h 0
  have hS := Scene.Balanced.opening (κ := κ) client (application conduct).Told
    { limits := limits } clock settings scope a
  have haccount := Scene.conserves_of_untracked hc.honest (hc.keeps Message.untracked)
    (fun _ _ => rfl) hmoves id hS (fun _ => plain_opening) hoff
  have hanswered := Scene.answered_moves hc hmoves hS rfl
  rw [Scene.Answered, (plain_of_run h hoff).renewed] at hanswered
  rw [Scene.Conserves, Apace, Scene.account_rest, Scene.account_rest, departed_eq] at haccount
  rw [Site.book, gather_outgoing, hanswered]
  simpa [add_assoc, Site.stock, arrived, departed, gather, Site.opening, Site.journal,
    Site.producer, Producer.start, Buffer.messages] using haccount

/-- Every message that is buffered or was offered or discarded has an id that was given out, or is
    as it came in. -/
theorem given_of_run
    (h : (application conduct).run limit depth deeds
      (.opening { limits := limits } clock settings scope a) = some ((), s)) {m : Message}
    (hm : m ∈ s.book) : m ∈ arrived s.journal ∨ m.isEarly s.trackers.nextId = true := by
  have ho : (application conduct).Obeys ⟨False, True⟩ := ⟨not_mayFail, .inr trivial⟩
  obtain ⟨M, hmoves⟩ := Application.leads_run (H := 0) (W := 0) (T := []) ho (.inl trivial) h 0
  refine Scene.around_moves (exact_application conduct limits) hmoves (.opening ..) rfl ?_
  rw [Scene.around, add_assoc, add_assoc, Multiset.mem_add]
  exact .inl hm

end MemoryBroker

end Outbox
