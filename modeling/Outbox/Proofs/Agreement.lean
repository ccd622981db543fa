import Outbox.Proofs.Rounds
import Outbox.Proofs.Sequence

/-! The fast and the ordered flush agree. An ordered flush sees one message through after the other
    and sends it again on the spot; a fast one offers all of them once and leaves what fails to the
    next one. The worlds on their ways never match. But if the fate of a message depends on its
    content alone, then each step of either keeps what is foretold, and at the end nothing is to
    come any more, so what has come about is the same. Main statement: fast flushes until nothing is
    left, of which there are no more than the message with most retries needs, and one ordered flush
    from the same state come to the same. -/

namespace Outbox

variable {κ α : Type}

namespace MemoryBroker

variable {p : Plan κ} {N : Nat} {G : List Message} {s t u w : World MemoryBroker κ α}
  {m : Message} {id : TrackingId} {o : Unit ⊕ Except ProducerError Unit}

/-! ### One message -/

theorem budget_armed (s : World MemoryBroker κ α) (id : TrackingId) (x : Message) :
    (s.armed id).trackers.budget x = s.trackers.budget x :=
  s.trackers.budget_update x (f := (·.arm.2)) fun _ => rfl

theorem budget_looked (s : World MemoryBroker κ α) (id : TrackingId) (slot : Nat) (x : Message) :
    (s.looked id slot).trackers.budget x = s.trackers.budget x :=
  s.trackers.budget_update x fun k => k.remaining_receive slot

/-- The message that somebody waits for has no retries if its tracker grants none. -/
theorem budget_eq_zero_iff_of_engaged (he : s.Engaged id m) :
    s.trackers.budget m = 0 ↔ s.grants id = none := by
  have hfind : s.trackers.find? m = some id := find?_of_engaged he
  rw [TrackerTable.budget_eq_zero_iff]
  refine ⟨fun h => h id hfind, fun h X hX => ?_⟩
  obtain rfl := Option.some_inj.mp (hfind.symm.trans hX)
  exact h

/-- An attempt gives nobody a retry. -/
theorem Attempted.budget_le {V : Verdicts} (h : Attempted steadyDrift V s id m o w) (x : Message) :
    w.trackers.budget x ≤ s.trackers.budget x := by
  rw [← budget_armed s id x]
  cases h with
  | kept => exact TrackerTable.budget_claim_le ..
  | refused => exact TrackerTable.budget_release_le ..
  | delivered | lost =>
    rw [budget_looked, Site.budget_acknowledged]
    exact TrackerTable.budget_release_le ..
  | left =>
    rw [budget_looked, Site.budget_acknowledged]
    exact TrackerTable.budget_claim_le ..

/-- An attempt that is not the last costs the message a retry. -/
theorem Attempted.budget_lt {V : Verdicts} (he : s.Engaged id m)
    (h : Attempted steadyDrift V s id m (.inl ()) w) :
    w.trackers.budget m < s.trackers.budget m := by
  have hclaim (hg : s.grants id ≠ none) :
      ((s.armed id).trackers.update id (·.claimRetry.2)).budget m < s.trackers.budget m := by
    have hn := mt (budget_eq_zero_iff_of_engaged he).mp hg
    rw [TrackerTable.budget_claim, if_pos he.1, budget_armed]
    omega
  cases h with
  | kept hb hr hv hg => exact hclaim hg
  | left hb hr hf hd hv hg =>
    rw [budget_looked, Site.budget_acknowledged]
    exact hclaim hg

/-- The caller learns that the message was delivered, refused or not delivered. -/
theorem Attempted.isOutcome {V : Verdicts} {r : Except ProducerError Unit} {e : ProducerError}
    (h : Attempted steadyDrift V s id m (.inr r) w) (hr : r = .error e) :
    MemoryBroker.isOutcome e = true := by
  cases h with
  | delivered => simp at hr
  | refused | lost =>
    obtain rfl := Except.error.inj hr
    rfl

/-- After each attempt but the last the message is still to be sent, and after the last it is done
    with. -/
theorem Attempted.foretold (hs : s.Resting) (he : s.Engaged id m) (h : s.Foretold p [] (m :: G))
    (hw : Attempted steadyDrift p.rules.verdicts s id m o w) :
    w.Foretold p [] (o.elim (fun _ => m :: G) fun _ => G) := by
  have harmed : (s.armed id).Foretold p [] (m :: G) := h.updated (f := (·.arm.2)) (fun _ => rfl) id
  have hengaged := (engaged_armed he).1
  have hrefusal {b : MemoryBroker} (hb : Akin steadyDrift.may s.broker b) :
      b.refusal? m = p.rules.refusal m.untracked :=
    (h.governed.of_akin hb).refusal?_of_empty (hb.inFlight.trans hs.empty) m
  have hfailure {f : Faults} (hf : steadyDrift.may s.broker.faults f) :
      f.failure? m = p.rules.failure m.untracked :=
    Rules.failure?_eq (steadyDrift.trans h.governed.faults hf) m
  have hspent (hg : s.grants id = none) : (s.armed id).trackers.budget m = 0 :=
    (budget_eq_zero_iff_of_engaged hengaged).mpr ((grants_armed s id).trans hg)
  have hgranted (hg : s.grants id ≠ none) : (s.armed id).trackers.budget m ≠ 0 := fun hn =>
    hg ((grants_armed s id).symm.trans ((budget_eq_zero_iff_of_engaged hengaged).mp hn))
  have hlooked {u : World MemoryBroker κ α} {G' : List Message} (hu : u.Foretold p [] G') :
      (u.looked id (s.nextSlot id)).Foretold p [] G' :=
    hu.updated (fun k => k.remaining_receive _) id
  have hflown (hr : p.rules.refusal m.untracked = none) : ((s.armed id).flown m).Foretold p [m] G :=
    (harmed.take hr).emptied
  cases hw with
  | kept hb hr hv hg =>
    rw [hrefusal hb] at hr
    refine harmed.defer hr (hv rfl).symm he.1 (hgranted hg) (.refl _) ?_
    simp [Rules.delivers, hr]
  | refused hb hr hv =>
    rw [hrefusal hb] at hr
    exact harmed.refuse hr (hv.imp (fun hv => (hv rfl).symm) hspent)
  | delivered hb hr hf hd =>
    rw [hrefusal hb] at hr
    rw [hfailure hf] at hd
    exact hlooked (((hflown hr).land hd).acknowledged _ _ m)
  | left hb hr hf hd hv hg =>
    rw [hrefusal hb] at hr
    rw [hfailure hf] at hd
    refine hlooked (((hflown hr).retry hd (hv rfl).symm he.1 (hgranted hg) (.refl _)
      ?_).acknowledged _ _ m)
    simp [Rules.delivers, hd]
  | lost hb hr hf hd hv =>
    rw [hrefusal hb] at hr
    rw [hfailure hf] at hd
    exact hlooked (((hflown hr).lose hd (hv.imp (fun hv => (hv rfl).symm) hspent)).acknowledged
      _ _ m)

/-- The retries of a message that is given a tracker only when somebody begins to wait for it. -/
theorem retries_of_untracked (h : s.Foretold p [] (m :: G)) (hm : s.trackers.find? m = none) :
    (if s.producer.tracking then s.producer.settings.retryBudget else 0) = 0 :=
  if_neg fun hon => h.owned.live hon m (List.mem_cons_self ..) hm

theorem trackers_engage (s : World MemoryBroker κ α) (m : Message) :
    (s.engage m).2.trackers = (s.trackers.attach m .sync (if s.producer.tracking then
      s.producer.settings.retryBudget else 0)).2.2.update (engagedId s m) (·.setSender .sync) :=
  rfl

/-- Who begins to wait for a message changes nobody's retries. -/
theorem budget_engage (h : s.Foretold p [] (m :: G)) (x : Message) :
    (s.engage m).2.trackers.budget x = s.trackers.budget x ∧
      (s.engage m).2.trackers.budget (s.engage m).1 = s.trackers.budget m := by
  have hattach := s.trackers.budget_attach m .sync (retries_of_untracked h) x
  rw [trackers_engage, TrackerTable.budget_setSender, TrackerTable.budget_setSender]
  exact hattach

theorem foretold_engage (h : s.Foretold p [] (m :: G)) :
    (s.engage m).2.Foretold p [] ((s.engage m).1 :: G) := by
  have huntracked : (s.engage m).1.untracked = m.untracked :=
    s.trackers.untracked_attach m _ _
  have hbudget := budget_engage h
  have hattached := h.owned.attach .sync (retries_of_untracked h)
  obtain ⟨⟨hawake, hlimits, hfaults⟩, hhooks, howned, hsize, htaken, hupshot, horder⟩ := h
  refine ⟨⟨hawake, hlimits, hfaults⟩, hhooks, ?_, hsize, by simp, ?_, ?_⟩
  · rw [trackers_engage]
    exact hattached.of_le (fun x => TrackerTable.find?_update ..)
      fun x => (TrackerTable.budget_setSender ..).le
  · have hdue : p.rules.due (s.engage m).2.trackers [] G = p.rules.due s.trackers [] G :=
      Rules.due_congr fun x _ => (hbudget x).1
    rw [Rules.due_ahead, huntracked, (hbudget m).2, hdue, ← Rules.due_ahead]
    exact hupshot
  · rw [← horder, List.nil_append, List.map_cons, huntracked]
    rfl

section

variable {call : κ → HookKind → Message → Option BrokerError → Work MemoryBroker κ α Bool}
  {limit : Nat}
  (henv : (surroundings call limit).Polite True (leeway steadyDrift) p.rules.verdicts p.hooks)
  (hlimit : p.rounds < limit)

include henv hlimit

/-- A message that is seen through is done with, and the others are still to be sent. -/
theorem meets_sendSync_foretold (hs : s.Resting) (h : s.Foretold p [] (m :: G))
    (hbudget : s.trackers.budget m < limit) :
    ((surroundings call limit).sendSync m).Meets True s fun r t =>
      (t.Foretold p [] G ∧ (∀ e, r = .error e → isOutcome e = true) ∧
        ∀ x, t.trackers.budget x ≤ s.trackers.budget x) ∧
      Stays steadyDrift.may s t ∧ t.Resting := by
  have hbudgets := budget_engage h
  have hpolite : (surroundings call limit).Polite True (leeway steadyDrift) p.rules.verdicts
      s.producer.hooks := h.hooks ▸ henv
  refine meets_sendSync
    (P := fun u => u.Resting ∧ u.Engaged (engagedId s m) (s.engage m).1 ∧
      u.Foretold p [] ((s.engage m).1 :: G) ∧ ∀ x, u.trackers.budget x ≤ s.trackers.budget x)
    (fun u => u.trackers.budget (s.engage m).1) hpolite hs (fun _ => ?_) (fun _ => ?_)
    (fun hv => hv.budget _) ?_ ?_ ?_ (fun _ => (hbudgets m).2 ▸ hbudget) ?_
  · rw [h.governed.limits]
    exact p.rules.roomy
  · have hfull := h.governed.faults.queueFullNext
    unfold Plan.rounds at hlimit
    omega
  · rintro u v ⟨hu, hengaged, hforetold, hle⟩ hv
    exact ⟨hu.of_unmoved hv, engaged_of_unmoved hv hengaged, hforetold.of_unmoved hv,
      fun x => (hv.budget x).trans_le (hle x)⟩
  · rintro r u v ⟨hforetold, hr, hle⟩ hv
    exact ⟨hforetold.of_unmoved hv, hr, fun x => (hv.budget x).trans_le (hle x)⟩
  · exact ⟨⟨hs.awake, hs.empty, hs.pending⟩, engaged_engage s m, foretold_engage h,
      fun x => (hbudgets x).1.le⟩
  · rintro u o w ⟨hu, hengaged, hforetold, hle⟩ hw
    have hforetold := hw.foretold hu hengaged hforetold
    have hle := fun x => (hw.budget_le x).trans (hle x)
    cases o with
    | inl _ =>
      exact ⟨⟨hw.resting hu, hw.engaged hengaged, hforetold, hle⟩, fun _ => hw.budget_lt hengaged⟩
    | inr r => exact ⟨hforetold, fun e hr => hw.isOutcome hr, hle⟩

theorem meets_sendInOrder_foretold {batch : Batch} (hs : s.Resting) (h : s.Foretold p [] batch)
    (hbudget : ∀ m ∈ batch, s.trackers.budget m < limit) (start k : Nat) :
    ((surroundings call limit).sendInOrder start none k batch).Meets True s fun r t =>
      r = (k + batch.length, .ok ()) ∧ t.Foretold p [] [] ∧
        Stays steadyDrift.may s t ∧ t.Resting := by
  induction batch generalizing k s with
  | nil => exact .pure ⟨rfl, h, stays_of_unmoved (.refl s), hs⟩
  | cons m rest ih =>
    have hm := hbudget m (List.mem_cons_self ..)
    refine (meets_sendSync_foretold henv hlimit hs h hm).bind fun r t ht => ?_
    obtain ⟨⟨hforetold, hr, hle⟩, hstays, hresting⟩ := ht
    have hrest : ∀ x ∈ rest, t.trackers.budget x < limit := fun x hx =>
      (hle x).trans_lt (hbudget x (List.mem_cons_of_mem _ hx))
    have hgo : Act.Meets True (do
        if ← Surroundings.timeIsUp start none then return (k + 1, .ok ())
        else (surroundings call limit).sendInOrder start none (k + 1) rest :
          Work MemoryBroker κ α (Nat × Except ProducerError Unit)) t fun r u =>
          r = (k + (m :: rest).length, .ok ()) ∧ u.Foretold p [] [] ∧
            Stays steadyDrift.may s u ∧ u.Resting := by
      refine .of_eq (y := (surroundings call limit).sendInOrder start none (k + 1) rest) rfl
        ((ih hresting hforetold hrest (k + 1)).mono fun r u hu => ?_)
      obtain ⟨rfl, hforetold, hstays', hresting⟩ := hu
      refine ⟨?_, hforetold, hstays.trans hstays', hresting⟩
      rw [List.length_cons, Nat.add_right_comm, Nat.add_assoc]
    cases r with
    | ok _ => exact hgo
    | error e =>
      cases e with
      | refused _ => exact hgo
      | undelivered _ => exact hgo
      | _ => exact absurd (hr _ rfl) (by simp [isOutcome])

/-- An ordered flush brings about what is foretold, and leaves nothing in the buffers. -/
theorem meets_flush_inOrder (h : Rested p N s) (hN : N ≤ limit) :
    ((surroundings call limit).flush true).Meets True s fun _ t =>
      t.Foretold p [] [] ∧ t.producer.buffered = 0 := by
  obtain ⟨⟨hawake, hempty, hpending⟩, hforetold, -, hbound⟩ := h
  have hresting : s.opened.Resting := ⟨hawake, hempty, hpending⟩
  have hopened : s.opened.Foretold p [] (s.producer.retry.messages ++
      s.producer.regular.messages) :=
    ((hforetold.of_unmoved (.mark (k := .flushBegan) rfl)).rebuffered {} {}).of_unmoved
      (.turn ((leeway steadyDrift).refl _) s.clock.read.2)
  have hbudget : ∀ m ∈ s.producer.retry.messages ++ s.producer.regular.messages,
      s.opened.trackers.budget m < limit := fun m hm => (hbound m hm).trans_le hN
  have hflush : ((surroundings call limit).flushInOrder none).Meets True s fun _ t =>
      t.Foretold p [] [] ∧ t.producer.buffered = 0 := by
    refine Surroundings.meets_flushInOrder
      ((meets_sendInOrder_foretold henv hlimit hresting hopened hbudget _ 0).mono fun r t ht => ?_)
    obtain ⟨rfl, hforetold, hstays, -⟩ := ht
    have hregular : t.producer.regular.messages = [] := congrArg Buffer.messages hstays.regular
    have hretry : t.producer.retry.messages = [] := congrArg Buffer.messages hstays.retry
    refine ⟨(hforetold.rebuffered _ _).of_unmoved (.mark (k := .flushEnded) rfl), ?_⟩
    rw [Producer.buffered, ← Buffer.length_messages, ← Buffer.length_messages, Site.retry_closed,
      Site.regular_closed, hregular, hretry]
    simp
  exact hflush.map fun _ _ ht => ht

end

/-! ### Rounds until nothing is left -/

/-- The messages that are buffered, in the order in which a flush sends them. -/
def waiting (s : World MemoryBroker κ α) : List Message :=
  s.producer.retry.messages ++ s.producer.regular.messages

/-- One more than the most retries that a buffered message has left; none if nothing is buffered. -/
def roundsDue (s : World MemoryBroker κ α) : Nat :=
  ((waiting s).map s.trackers.budget).max?.elim 0 (· + 1)

theorem budget_lt_roundsDue (hm : m ∈ waiting s) : s.trackers.budget m < roundsDue s := by
  have hmem : s.trackers.budget m ∈ (waiting s).map s.trackers.budget := List.mem_map_of_mem hm
  unfold roundsDue
  cases hmax : ((waiting s).map s.trackers.budget).max? with
  | none =>
    rw [List.max?_eq_none_iff.mp hmax] at hmem
    exact absurd hmem List.not_mem_nil
  | some n => exact Nat.lt_succ_of_le ((List.max?_eq_some_iff.mp hmax).2 _ hmem)

theorem buffered_eq_zero_iff : s.producer.buffered = 0 ↔ waiting s = [] := by
  rw [Producer.buffered, ← Buffer.length_messages, ← Buffer.length_messages, waiting,
    List.append_eq_nil_iff, Nat.add_eq_zero_iff, List.length_eq_zero_iff, List.length_eq_zero_iff,
    and_comm]

/-- With nothing in the buffers everything has come about. -/
theorem Rested.foretold_nil (h : Rested p N s) (hnone : waiting s = []) : s.Foretold p [] [] := by
  have hforetold := h.foretold
  rwa [show s.producer.retry.messages ++ s.producer.regular.messages = [] from hnone] at hforetold

section

variable {conduct : κ → HookKind → Message → Option BrokerError →
    Conduct MemoryBroker κ α MemoryWord} {limit depth : Nat}

/-- Rounds of fast flushes that leave nothing in the buffers, as many as it takes. -/
theorem exists_rounds
    (henv : (surroundings ((application conduct).called limit depth) limit).Polite True
      (leeway steadyDrift) p.rules.verdicts p.hooks)
    (hlimit : p.rounds < limit) (h : Rested p N s) :
    ∃ n ≤ N, ∃ u, (application conduct).run limit depth
        (List.replicate n (.operate (.flush false))) s = some ((), u) ∧
      u.Foretold p [] [] ∧ u.producer.buffered = 0 ∧
      ∀ k < n, ∀ w, (application conduct).run limit depth
        (List.replicate k (.operate (.flush false))) s = some ((), w) →
        w.producer.buffered ≠ 0 := by
  induction N generalizing s with
  | zero =>
    have hnone : waiting s = [] := List.eq_nil_iff_forall_not_mem.mpr fun x hx =>
      absurd (h.bound x hx) (Nat.not_lt_zero _)
    exact ⟨0, le_refl _, s, rfl, h.foretold_nil hnone, buffered_eq_zero_iff.mpr hnone, by simp⟩
  | succ N ih =>
    by_cases hnone : waiting s = []
    · exact ⟨0, Nat.zero_le _, s, rfl, h.foretold_nil hnone, buffered_eq_zero_iff.mpr hnone, by simp⟩
    · have hflush : ((application conduct).perform ((application conduct).surroundings limit depth)
          (.operate (.flush false))).Meets True s fun _ t => Rested p N t :=
        (meets_flush henv hlimit h).map fun _ _ ht => ht
      obtain ⟨r, t, hperform⟩ := hflush.ends trivial
      obtain ⟨n, hn, u, hu, hforetold, hzero, hearlier⟩ := ih (hflush.post r t hperform)
      refine ⟨n + 1, Nat.succ_le_succ hn, u, ?_, hforetold, hzero, fun k hk w hw => ?_⟩
      · rw [List.replicate_succ, Application.run_cons_of_perform hperform, hu]
      · cases k with
        | zero =>
          obtain ⟨-, rfl⟩ := Act.pure_eq_some.mp hw
          exact mt buffered_eq_zero_iff.mp hnone
        | succ k =>
          rw [List.replicate_succ, Application.run_cons_of_perform hperform] at hw
          exact hearlier k (Nat.lt_of_succ_lt_succ hk) w hw

end

/-! ### Two flushes from one state -/

/-- The two worlds agree on what became of messages, up to their ids. What was there before is in
    both, so they agree on what was added to it as well. -/
structure Agree (t u : World MemoryBroker κ α) : Prop where
  delivered : u.broker.delivered.toList.map Message.untracked =
    t.broker.delivered.toList.map Message.untracked
  sent : (u.broker.sent.toList.map Message.untracked).Perm
    (t.broker.sent.toList.map Message.untracked)
  dropped : (departed Fate.isDropped u.journal).map Message.untracked =
    (departed Fate.isDropped t.journal).map Message.untracked
  producedCount : u.producer.counters.produced = t.producer.counters.produced
  droppedCount : u.producer.counters.dropped = t.producer.counters.dropped
  retryCount : u.producer.counters.retries = t.producer.counters.retries

/-- What was foretold comes about, whichever way it came. -/
theorem Agree.of_foretold (ht : t.Foretold p [] []) (hu : u.Foretold p [] []) : Agree t u := by
  have hupshot : u.upshot = t.upshot := by
    have h := hu.upshot.trans ht.upshot.symm
    simpa [Rules.due] using h
  have horder := hu.order.trans ht.order.symm
  simp only [Site.upshot, Prod.mk.injEq, Multiset.map_coe, Multiset.coe_eq_coe] at hupshot
  obtain ⟨hsent, hdropped, hproduced, hcount, hretries⟩ := hupshot
  exact ⟨by simpa using horder, hsent, hdropped, hproduced, hcount, hretries⟩

/-- Nothing is in flight, and whether a message is taken, delivered and sent again depends on its
    content alone: on that of the broker's faults, and on the `verdict` of the hooks that are asked.
    Hooks turn neither to the producer nor to the broker. If tracking is on, each message that is
    buffered has a live tracker of its own. -/
structure Impartial (conduct : κ → HookKind → Message → Option BrokerError →
    Conduct MemoryBroker κ α MemoryWord) (verdict : HookKind → Message → BrokerError → Bool)
    (s : World MemoryBroker κ α) : Prop where
  awake : s.broker.paused = false
  roomy : 0 < s.broker.limits.capacity
  empty : s.broker.inFlight.toList = []
  blind : s.broker.faults.Blind
  hooks : ∀ {kind hook}, s.producer.hooks.find? kind = some hook → ∀ m e,
    (conduct hook kind m e).Modest (fun _ => False) fun v =>
      ∀ cause, e = some cause → kind.isAsked = true → v = verdict kind m.untracked cause
  live : s.producer.tracking = true → ∀ m ∈ waiting s, s.trackers.find? m ≠ none
  apart : s.producer.tracking = true → ((waiting s).map (·.tracking)).Nodup

namespace Impartial

variable {conduct : κ → HookKind → Message → Option BrokerError →
    Conduct MemoryBroker κ α MemoryWord} {verdict : HookKind → Message → BrokerError → Bool}

/-- A hook that is missing agrees. -/
def rules (h : Impartial conduct verdict s) : Rules where
  broker := s.broker
  verdict kind c e := if (s.producer.hooks.find? kind).isSome then verdict kind c e else true
  empty := h.empty
  roomy := h.roomy
  blind := h.blind

/-- What is going to come about in the end. -/
def plan (h : Impartial conduct verdict s) : Plan κ where
  rules := h.rules
  hooks := s.producer.hooks
  size := (waiting s).length
  upshot := s.upshot + h.rules.due s.trackers [] (waiting s)
  delivered := s.broker.delivered.toList.map Message.untracked ++
    ((waiting s).map Message.untracked).filter h.rules.delivers

theorem rested (h : Impartial conduct verdict s) (hpending : s.producer.counters.pending = 0)
    (hunattended : s.trackers.Unattended)
    (hspent : s.producer.tracking = false → s.trackers.Spent) :
    Rested h.plan (roundsDue s) s := by
  have hresting : s.Resting := ⟨h.awake, h.empty, hpending⟩
  have hgoverned : h.rules.Governs s.broker := ⟨h.awake, rfl, steadyDrift.refl _⟩
  have howned : s.trackers.Owned s.producer.tracking ([] ++ waiting s) :=
    ⟨h.live, h.apart, fun hoff m => (hspent hoff).budget m⟩
  exact ⟨hresting, ⟨hgoverned, rfl, howned, le_refl _, by simp, rfl, rfl⟩, hunattended,
    fun m hm => budget_lt_roundsDue hm⟩

/-- The hooks do as the rules say. -/
theorem polite (h : Impartial conduct verdict s) (limit : Nat) {depth : Nat} (hdepth : 0 < depth) :
    (surroundings ((application conduct).called limit depth) limit).Polite True
      (leeway steadyDrift) h.plan.rules.verdicts h.plan.hooks := by
  have hplan : h.plan.hooks = s.producer.hooks := rfl
  refine polite_application (fun _ (hw : False) => hw.elim) (fun hk m e => ?_)
    (fun hk m cause _ => ?_) limit fun _ => hdepth
  · rw [hplan] at hk
    refine (h.hooks hk m e).mono fun v hv cause he hasked => ?_
    rw [hv cause he hasked]
    exact (if_pos (by simp [hk])).symm
  · rw [hplan] at hk
    exact (if_neg (by simp [hk])).symm

end Impartial

/-- From `s`, fast flushes until nothing is left and one ordered flush come to the same, whenever
    loops have enough rounds. There are no more fast flushes than the message with most retries
    needs. -/
def FlushesAgree (conduct : κ → HookKind → Message → Option BrokerError →
    Conduct MemoryBroker κ α MemoryWord) (s : World MemoryBroker κ α) : Prop :=
  ∃ enough, ∀ limit depth, enough ≤ limit → 0 < depth → ∃ t u n,
    (application conduct).run limit depth [.operate (.flush true)] s = some ((), t) ∧
    (application conduct).run limit depth (List.replicate n (.operate (.flush false))) s =
      some ((), u) ∧
    t.producer.buffered = 0 ∧ u.producer.buffered = 0 ∧ n ≤ roundsDue s ∧
    (∀ k < n, ∀ w, (application conduct).run limit depth
      (List.replicate k (.operate (.flush false))) s = some ((), w) → w.producer.buffered ≠ 0) ∧
    Agree t u

/-- Whatever an application did before, the fast and the ordered flush decide every message's fate
    alike, if it depends on the message's content alone. -/
theorem flushesAgree_of_run {conduct : κ → HookKind → Message → Option BrokerError →
      Conduct MemoryBroker κ α MemoryWord} {verdict : HookKind → Message → BrokerError → Bool}
    {limits : MemoryLimits} {clock : Clock} {settings : Settings} {scope : Nat} {a : α}
    {limit depth : Nat} {deeds : List (Deed κ α MemoryWord)} {s : World MemoryBroker κ α}
    (h : (application conduct).run limit depth deeds
      (.opening { limits := limits } clock settings scope a) = some ((), s))
    (hs : Impartial conduct verdict s) : FlushesAgree conduct s := by
  have hc := exact_application conduct limits
  obtain ⟨M, hM⟩ := Application.balanced_run hc.honest h
  have hpending : s.producer.counters.pending = 0 := by
    have hp : s.producer.counters.pending = M.card := hM.pending
    rw [hp, flight_eq hM, hs.empty]
    rfl
  have hrested := hs.rested hpending (Application.unattended_of_run hc.honest h)
    (Application.spent_of_run h)
  refine ⟨hs.plan.rounds + 1 + roundsDue s, fun limit depth hlimit hdepth => ?_⟩
  have henv := hs.polite limit hdepth
  have hrounds : hs.plan.rounds < limit := by omega
  have hordered : ((application conduct).perform ((application conduct).surroundings limit depth)
      (.operate (.flush true))).Meets True s fun _ t =>
        t.Foretold hs.plan [] [] ∧ t.producer.buffered = 0 :=
    (meets_flush_inOrder henv hrounds hrested (by omega)).map fun _ _ ht => ht
  obtain ⟨r, t, hperform⟩ := hordered.ends trivial
  obtain ⟨ht, htzero⟩ := hordered.post r t hperform
  obtain ⟨n, hn, u, hu, hforetold, huzero, hearlier⟩ := exists_rounds henv hrounds hrested
  exact ⟨t, u, n, Application.run_cons_of_perform hperform, hu, htzero, huzero, hn, hearlier,
    .of_foretold ht hforetold⟩

/-- A hook that forbids to send messages of one topic again. -/
def forbid (_ : Unit) (_ : HookKind) (m : Message) (_ : Option BrokerError) :
    Conduct MemoryBroker Unit Unit MemoryWord :=
  .answer (m.topic != "c")

/-- Messages come in with different numbers of retries, and one has failed once already. -/
def mixture : List (Deed Unit Unit MemoryWord) :=
  [.register .deliveryFailed (), .register .sendFailed (), .operate (.setRetryBudget 3),
    .operate (.add { topic := "a" }), .instruct (.order (.failNext 1)), .operate (.flush false),
    .operate (.add { topic := "b" }), .operate (.setRetryBudget 1),
    .operate (.add { topic := "c" }), .operate (.add { topic := "b" }),
    .operate (.setRetryBudget 0), .operate (.add { topic := "d" })]

/-- From now on messages of two topics are not delivered, those of another are refused, and twice
    the queue is called full. -/
def illness : Faults where
  failWhere := some fun m => m.topic == "b" || m.topic == "c"
  rejectWhere := some fun m => m.topic == "d"
  queueFullNext := 2

/-- Nothing is in flight, and the messages that are buffered have trackers of their own. -/
def isMixed (s : World MemoryBroker Unit Unit) : Bool :=
  s.broker.inFlight.toList.isEmpty && !s.broker.paused && s.broker.limits.capacity == 1 &&
    (waiting s).all (fun m => (s.trackers.find? m).isSome) &&
    decide ((waiting s).map (·.tracking)).Nodup &&
    (waiting s).map s.trackers.budget == [2, 3, 1, 1, 0]

theorem flushesAgree_mixture :
    ∃ s, (application forbid).run 60 1 (mixture ++ [.instruct (.fault fun _ => illness)])
        (.opening { limits := { capacity := 1 } } {} {} 0 ()) = some ((), s) ∧
      roundsDue s = 4 ∧ FlushesAgree forbid s := by
  have hmixed : ((application forbid).run 60 1 mixture
      (.opening { limits := { capacity := 1 } } {} {} 0 ())).any (fun r => isMixed r.2) = true := by
    decide +kernel
  obtain ⟨s, hs, hp⟩ := Application.exists_run hmixed
  simp only [isMixed, Bool.and_eq_true, List.isEmpty_iff, Bool.not_eq_true', beq_iff_eq,
    List.all_eq_true, decide_eq_true_eq] at hp
  obtain ⟨⟨⟨⟨⟨hempty, hawake⟩, hcapacity⟩, hlive⟩, hapart⟩, hbudgets⟩ := hp
  have hrun : (application forbid).run 60 1 (mixture ++ [.instruct (.fault fun _ => illness)])
      (.opening { limits := { capacity := 1 } } {} {} 0 ()) =
        some ((), s.brokered { s.broker with faults := illness }) := Application.run_append hs
  have himpartial : Impartial forbid (fun _ c _ => c.topic != "c")
      (s.brokered { s.broker with faults := illness }) := by
    refine ⟨hawake, ?_, hempty, ⟨rfl, fun p hp m => ?_, fun p hp m => ?_⟩, ?_, ?_, fun _ => hapart⟩
    · exact hcapacity.symm ▸ Nat.one_pos
    · obtain rfl := Option.some_inj.mp hp
      rfl
    · obtain rfl := Option.some_inj.mp hp
      rfl
    · exact fun _ m e => .answer fun _ _ _ => rfl
    · exact fun _ m hm => Option.isSome_iff_ne_none.mp (hlive m hm)
  refine ⟨_, hrun, ?_, flushesAgree_of_run hrun himpartial⟩
  show ((waiting s).map s.trackers.budget).max?.elim 0 (· + 1) = 4
  rw [hbudgets]
  rfl

end MemoryBroker

end Outbox
