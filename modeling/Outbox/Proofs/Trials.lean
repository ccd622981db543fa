import Outbox.Proofs.Lifetime
import Outbox.Proofs.Tale
import Outbox.Proofs.Trying
import Outbox.Proofs.Unbidden

/-! What comes of a message that its caller waits for, with a client that can be relied on. Attempt
    by attempt the message is offered, and then either refused, or accepted and reported once while
    the caller waits; other reports that come in then are no business of this message. The caller
    tries again after a setback that no hook has vetoed, as long as it has retries left. Main
    statement: from every state that the producer comes to, whatever else is buffered or at the
    broker, the caller learns at last what its own last attempt came to, and the message has been
    counted once. -/

namespace Outbox

variable {β κ α ο : Type}

/-- A hook that agreed did not say no. -/
theorem not_isVetoed_of_after {V : Verdicts} {J : List Entry} {kind : HookKind} {m : Message}
    {e : BrokerError} (h : V.after J kind m e true) : isVetoed J = false := by
  rw [Bool.eq_false_iff, Ne, isVetoed_iff, h.2]
  simp

/-! ### What goes on elsewhere -/

theorem notice_of_isTalk {X : TrackingId} {vetoed : Bool} {e : Event} (he : e.isTalk = true) :
    e.notice X vetoed = none := by
  cases e <;> simp_all [Event.isTalk, Event.notice]

namespace Site

/-- Whatever happened from `s` to `t`, it was not to the message with the id. -/
structure Elsewhere (X : TrackingId) (s t : World β κ α) : Prop where
  entry : t.trackers.lookup? X = s.trackers.lookup? X
  told : tale X t.journal = tale X s.journal

namespace Elsewhere

variable {told : β → β → Prop} {V : Verdicts} {X : TrackingId} {s t u : World β κ α} {m : Message}

theorem refl (s : World β κ α) : s.Elsewhere X s := ⟨rfl, rfl⟩

theorem trans (h : s.Elsewhere X t) (h' : t.Elsewhere X u) : s.Elsewhere X u :=
  ⟨h'.entry.trans h.entry, h'.told.trans h.told⟩

theorem of_beside (h : s.Beside told t) : s.Elsewhere X t := by
  refine ⟨h.lookup X, h.of_talk fun e J he => ?_⟩
  rw [tale_cons, notice_of_isTalk he]
  exact List.append_nil _

/-- A retry is claimed for another message. -/
theorem granted {id : TrackingId} (hm : m.tracking ≠ some X)
    (hid : s.producer.trackers.find? m = some id) : s.Elsewhere X (s.granted id m) := by
  obtain ⟨hid, -⟩ := TrackerTable.find?_eq_some_iff.mp hid
  have hne : X ≠ id := fun h => hm (h ▸ hid)
  refine ⟨?_, ?_⟩
  · rw [trackers_granted, TrackerTable.lookup?_update, if_neg hne]
  · simp [Event.notice, hm]

theorem dropped (hm : m.tracking ≠ some X) (e : BrokerError) : s.Elsewhere X (s.dropped m e) := by
  refine ⟨?_, ?_⟩
  · rw [trackers_dropped, TrackerTable.lookup?_release, if_neg hm]
  · simp [Event.notice, hm]

theorem received {r : DeliveryReport} {o : Outcome} (hr : r.message.tracking ≠ some X)
    (h : Received V s r o t) : s.Elsewhere X t := by
  cases h with
  | delivered =>
    refine ⟨?_, ?_⟩
    · rw [trackers_delivered, TrackerTable.lookup?_release, if_neg hr]
    · simp [Event.notice, hr]
  | requeued _ hid _ => exact (granted hr hid).trans ⟨rfl, rfl⟩
  | left _ hid _ => exact granted hr hid
  | dropped _ => exact dropped hr _

theorem handled {r : DeliveryReport} (hr : r.message.tracking ≠ some X)
    (h : s.Handled told V r t) : s.Elsewhere X t := by
  obtain ⟨u, o, w, v, hu, hw, hv, -, rfl⟩ := h
  refine (((of_beside hu).trans (received hr hw)).trans (of_beside hv)).trans ⟨?_, ?_⟩
  · cases hk : s.trackers.find? r.message with
    | none => rw [trackers_acknowledged]; rfl
    | some id =>
      obtain ⟨hid, -⟩ := TrackerTable.find?_eq_some_iff.mp hk
      have hne : X ≠ id := fun h => hr (h ▸ hid)
      rw [trackers_acknowledged, Option.elim_some, TrackerTable.lookup?_update, if_neg hne]
  · simp [Event.notice]

end Elsewhere

end Site

namespace Application

variable {app : Application β κ α ο} {V : Verdicts} {X : TrackingId} {s t u w : World β κ α}
  {m : Message} {R : List DeliveryReport} {b₀ : β} {M : Multiset Message}

/-- The reports that are dealt with are of other messages. -/
theorem Meanwhile.elsewhere {T₀ T : List app.client.Task} (h : app.Meanwhile app.Told V T₀ s T R t)
    (hR : ∀ r ∈ R, r.message.tracking ≠ some X) : s.Elsewhere X t := by
  induction h with
  | start => exact .refl s
  | beside _ hv ih => exact (ih hR).trans (.of_beside hv)
  | begin _ _ _ ih => exact ih hR
  | more _ _ ih | finish _ _ ih => exact (ih hR).trans ⟨rfl, rfl⟩
  | @report _ R u _ _ r _ b clock _ hs hv ih =>
    have hturned : u.Elsewhere X (u.turned b clock) := ⟨rfl, rfl⟩
    exact ((ih fun q hq => hR q (by simp [hq])).trans hturned).trans (.handled (hR r (by simp)) hv)

/-- Where a report is dealt with, what goes on falls into what went on before and what does after. -/
theorem Meanwhile.split {T₀ T : List app.client.Task} {r : DeliveryReport}
    {before after : List DeliveryReport}
    (h : app.Meanwhile app.Told V T₀ s T (after ++ r :: before) t) :
    ∃ T' task u next b clock v, app.Meanwhile app.Told V T₀ s (task :: T') before u ∧
      app.client.step task u.broker u.clock = (.report r next, b, clock) ∧
      (u.turned b clock).Handled app.Told V r v ∧
      app.Meanwhile app.Told V (next :: T') v T after t := by
  generalize hR : after ++ r :: before = R at h
  induction h generalizing after with
  | start => simp at hR
  | beside _ hv ih =>
    obtain ⟨T', task, u, next, b, clock, v, hu, hs, hr, ht⟩ := ih hR
    exact ⟨T', task, u, next, b, clock, v, hu, hs, hr, ht.beside hv⟩
  | begin new _ hnew ih =>
    obtain ⟨T', task, u, next, b, clock, v, hu, hs, hr, ht⟩ := ih hR
    exact ⟨T', task, u, next, b, clock, v, hu, hs, hr, ht.begin new hnew⟩
  | more _ hstep ih =>
    obtain ⟨T', task, u, next, b, clock, v, hu, hs, hr, ht⟩ := ih hR
    exact ⟨T', task, u, next, b, clock, v, hu, hs, hr, ht.more hstep⟩
  | finish _ hstep ih =>
    obtain ⟨T', task, u, next, b, clock, v, hu, hs, hr, ht⟩ := ih hR
    exact ⟨T', task, u, next, b, clock, v, hu, hs, hr, ht.finish hstep⟩
  | report h hstep hv ih =>
    cases after with
    | nil =>
      obtain ⟨rfl, rfl⟩ := List.cons.inj hR
      exact ⟨_, _, _, _, _, _, _, h, hstep, hv, .start⟩
    | cons q after =>
      obtain ⟨rfl, hafter⟩ := List.cons.inj hR
      obtain ⟨T', task, u, next, b, clock, v, hu, hs, hr, ht⟩ := ih hafter
      exact ⟨T', task, u, next, b, clock, v, hu, hs, hr, ht.report hstep hv⟩

theorem Crowded.elsewhere (h : app.Crowded app.Told V m s R t)
    (hR : ∀ r ∈ R, r.message.tracking ≠ some X) : s.Elsewhere X t := by
  induction h with
  | start => exact .refl s
  | @again R R' u v b e _ _ he hv ih =>
    obtain rfl := BrokerError.eq_queueFull he
    have hpolled : u.Elsewhere X (((u.refused b m .queueFull).marked .queueFull).noted .polled) :=
      ⟨rfl, by simp [Event.notice]⟩
    exact ((ih fun r hr => hR r (by simp [hr])).trans hpolled).trans
      (hv.elsewhere fun r hr => hR r (by simp [hr]))

/-- The message was offered, and that is all that happened to it. -/
theorem Offered.told {answer : BrokerAnswer} (h : app.Offered app.Told V m s R answer t)
    (hm : m.tracking = some X) (hR : ∀ r ∈ R, r.message.tracking ≠ some X) :
    t.trackers.lookup? X = s.trackers.lookup? X ∧
      tale X t.journal = tale X s.journal ++ [.offered answer] := by
  cases h with
  | accepted h _ =>
    obtain ⟨hentry, htold⟩ := h.elsewhere hR
    exact ⟨hentry, by simp [Event.notice, hm, htold]⟩
  | @refused u b e h _ he =>
    obtain ⟨hentry, htold⟩ := h.elsewhere hR
    have hne : e ≠ .queueFull := fun h => by simp [h, BrokerError.isQueueFull] at he
    exact ⟨hentry, by simp [Event.notice, hm, htold, hne]⟩

/-! ### What becomes of the message -/

/-- A refusal costs the caller of the message a retry, or the message is dropped. -/
theorem told_coped {e : BrokerError} {again : Bool} {k : Tracker}
    (h : s.Coped app.Told V m e false again t) (hm : m.tracking = some X)
    (hk : s.trackers.lookup? X = some ⟨k, true⟩) :
    if again then
      0 < k.remaining ∧ t.trackers.lookup? X = some ⟨k.claimRetry.2, true⟩ ∧
        tale X t.journal = tale X s.journal ++ [.retried false]
    else
      ∃ vetoed, (vetoed = true ∨ k.remaining = 0) ∧
        tale X t.journal = tale X s.journal ++ [.dropped e vetoed] := by
  obtain ⟨u, w, hu, hw, ht⟩ := h
  have hu := Site.Elsewhere.of_beside (X := X) hu
  have ht := Site.Elsewhere.of_beside (X := X) ht
  rw [← hu.entry] at hk
  rw [ht.told, ht.entry, ← hu.told]
  cases hw with
  | @kept id sender hv hid hg =>
    obtain rfl := Option.some_inj.mp ((find?_of_entry hm hk).symm.trans hid)
    obtain ⟨hremaining, -⟩ := granted_of_entry hk hg
    refine ⟨hremaining, ?_, ?_⟩
    · rw [Site.trackers_granted, TrackerTable.lookup?_update, if_pos rfl, hk]
      rfl
    · simp [Event.notice, hm, not_isVetoed_of_after hv]
  | dropped hv =>
    refine ⟨isVetoed u.journal, ?_, by simp [Event.notice, hm]⟩
    exact hv.imp (fun hv => isVetoed_iff.mpr (hv.2.mpr rfl)) fun hv =>
      remaining_of_entry hk (hv X (find?_of_entry hm hk))

/-- What one attempt has come to, by the failure that was reported and the outcome the caller is told:
    the message was delivered, or its caller has one retry less, or it was dropped. `n` retries were
    left before and `n'` are now. -/
def Upshot (X : TrackingId) (n n' : Nat) (live : Bool) (J J' : List Entry) :
    Option BrokerError → Outcome → Prop
  | none, .delivered => tale X J' = tale X J ++ [.delivered]
  | some _, .retry => n' + 1 = n ∧ live = true ∧ tale X J' = tale X J ++ [.retried false]
  | some e, .dropped e' => e' = e ∧ ∃ vetoed, (vetoed = true ∨ n = 0) ∧
      tale X J' = tale X J ++ [.dropped e vetoed]
  | _, _ => False

/-- A report of the message comes in while its caller waits. -/
theorem told_received {V : Verdicts} {r : DeliveryReport} {o : Outcome} {k : Tracker}
    (h : Received (V.after s.journal) s r o t) (hm : r.message.tracking = some X)
    (hk : s.trackers.lookup? X = some ⟨k, true⟩) (hsender : k.sender = .sync) :
    ∃ k' live, t.trackers.lookup? X = some ⟨k', live⟩ ∧ k'.sender = .sync ∧
      (∀ slot, k'.waits slot = k.waits slot) ∧
      Upshot X k.remaining k'.remaining live s.journal t.journal r.failure o := by
  cases h with
  | @delivered m =>
    have hm : m.tracking = some X := hm
    refine ⟨k, false, ?_, hsender, fun _ => rfl, by simp [Upshot, Event.notice, hm]⟩
    rw [Site.trackers_delivered, TrackerTable.lookup?_release, if_pos hm, hk]
    rfl
  | @requeued m e id hv hid hg =>
    obtain rfl := Option.some_inj.mp ((find?_of_entry hm hk).symm.trans hid)
    exact absurd (hsender.symm.trans (granted_of_entry hk hg).2) (by simp)
  | @left m e id hv hid hg =>
    obtain rfl := Option.some_inj.mp ((find?_of_entry hm hk).symm.trans hid)
    obtain ⟨hremaining, -⟩ := granted_of_entry hk hg
    have hm : m.tracking = some X := hm
    refine ⟨k.claimRetry.2, true, ?_, by rw [Tracker.sender_claimRetry, hsender],
      fun _ => k.waits_claimRetry _, ?_, rfl, ?_⟩
    · rw [Site.trackers_granted, TrackerTable.lookup?_update, if_pos rfl, hk]
      rfl
    · rw [Tracker.remaining_claimRetry]
      omega
    · simp [Event.notice, hm, not_isVetoed_of_after hv]
  | @dropped m e hv =>
    have hm : m.tracking = some X := hm
    refine ⟨k, false, ?_, hsender, fun _ => rfl, rfl, isVetoed s.journal, ?_, ?_⟩
    · rw [Site.trackers_dropped, TrackerTable.lookup?_release, if_pos hm, hk]
      rfl
    · exact hv.imp (fun hv => isVetoed_iff.mpr (hv.2.mpr rfl)) fun hv =>
        remaining_of_entry hk (hv X (find?_of_entry hm hk))
    · simp [Event.notice, hm]

/-- A report of the message puts what came of the attempt into the slot at which its caller waits. -/
theorem told_handled {r : DeliveryReport} {k : Tracker} {slot : Nat}
    (h : s.Handled app.Told V r t) (hm : r.message.tracking = some X)
    (hk : s.trackers.lookup? X = some ⟨k, true⟩) (hsender : k.sender = .sync)
    (hslot : k.waits slot = true) :
    ∃ o k' live, t.trackers.lookup? X = some ⟨k', live⟩ ∧ k'.sender = .sync ∧
      (k'.receive slot).1 = .outcome o ∧
      Upshot X k.remaining k'.remaining live s.journal t.journal r.failure o := by
  obtain ⟨u, o, w, v, hu, hw, hv, -, rfl⟩ := h
  have hu := Site.Elsewhere.of_beside (X := X) hu
  have hv := Site.Elsewhere.of_beside (X := X) hv
  have hfind : s.trackers.find? r.message = some X := find?_of_entry hm hk
  rw [← hu.entry] at hk
  obtain ⟨k', live, hk', hsender, hwaits, hupshot⟩ := told_received hw hm hk hsender
  have htold : tale X (v.acknowledged (s.trackers.find? r.message) o r.message).journal =
      tale X w.journal := by
    rw [← hv.told]
    simp [Event.notice]
  refine ⟨o, k'.complete o, live, ?_, ?_, k'.receive_complete o ?_, ?_⟩
  · rw [hfind, Site.trackers_acknowledged, Option.elim_some, TrackerTable.lookup?_update,
      if_pos rfl, hv.entry, hk']
    rfl
  · rw [Tracker.sender_complete, hsender]
  · rw [hwaits, hslot]
  · rw [Tracker.remaining_complete]
    unfold Upshot at hupshot ⊢
    rwa [htold, ← hu.told]

/-! ### Attempts -/

section

variable (app V m X)

/-- One attempt to send a message for a caller that waits, as the client took it. The message was
    refused; or it was accepted and, while the caller waited, reported once. With a setback it was
    not delivered. -/
inductive Trial (s : World β κ α) : Option Setback → World β κ α → Prop where
  | refused {R u v e again} (hu : app.Offered app.Told V m (s.readied X) R (.error e) u)
      (hv : u.Coped app.Told V m e false again v) : Trial s (some (.refused e)) v
  | reported {R before after u v r} (hu : app.Offered app.Told V m (s.readied X) R (.ok ()) u)
      (hv : app.Meanwhile app.Told V [] u [] (after ++ r :: before) v) (hr : r.message = m)
      (hother : ∀ q ∈ after ++ before, q.message.tracking ≠ some X) :
      Trial s (r.failure.map .undelivered) (v.looked X (s.nextSlot X))

/-- Attempts that met with setbacks, one after the other. -/
inductive Trials (s : World β κ α) : List Setback → World β κ α → Prop where
  | start : Trials s [] s
  | next {fs f u v} (h : Trials s fs u) (hv : app.Trial V X m u (some f) v) :
      Trials s (fs ++ [f]) v

/-- The message is its caller's, who has `n` retries left for it. What the client has yet to report
    are other messages. -/
structure Held (b₀ : β) (n : Nat) (s : World β κ α) : Prop where
  entry : ∃ k, s.trackers.lookup? X = some ⟨k, true⟩ ∧ k.sender = .sync ∧ k.remaining = n
  others : ∃ M, app.Attuned app.Told b₀ [] M s ∧ ∀ q ∈ M, q.tracking ≠ some X

end

/-- When nothing is pending any more, the message that was accepted has been reported once, and what
    was reported besides are other messages. -/
theorem Meanwhile.reported (hexact : app.client.Exact app.Told b₀)
    (hM : ∀ q ∈ M, q.tracking ≠ some X) (h : app.Meanwhile app.Told V [] s [] R t)
    (hs : app.Attuned app.Told b₀ [] (m ::ₘ M) s) (ht : t.producer.counters.pending = 0) :
    app.Attuned app.Told b₀ [] 0 t ∧ ∃ before after r, R = after ++ r :: before ∧ r.message = m ∧
      ∀ q ∈ after ++ before, q.message.tracking ≠ some X := by
  obtain ⟨M', hattuned, -, hsplit⟩ := h.attuned hexact hs
  obtain rfl : M' = 0 := Multiset.card_eq_zero.mp (hattuned.pending.symm.trans ht)
  rw [zero_add] at hsplit
  obtain ⟨r, hr, rfl⟩ : ∃ r ∈ R, r.message = m := by
    have hmem : m ∈ (R.map (·.message) : Multiset Message) := hsplit ▸ Multiset.mem_cons_self ..
    simpa using hmem
  obtain ⟨after, before, rfl⟩ := List.append_of_mem hr
  refine ⟨hattuned, before, after, r, rfl, rfl, fun q hq => hM _ ?_⟩
  have hrest : M = ((after ++ before).map (·.message) : List Message) := by
    refine (Multiset.cons_inj_right r.message).mp (hsplit.trans ?_)
    rw [Multiset.cons_coe, List.map_append, List.map_append, List.map_cons]
    exact Multiset.coe_eq_coe.mpr List.perm_middle
  rw [hrest]
  exact Multiset.mem_coe.mpr (List.mem_map_of_mem hq)

/-- While the caller waits, the report of the message is dealt with, and then its outcome is there. -/
theorem Meanwhile.outcome {before after : List DeliveryReport} {r : DeliveryReport} {k : Tracker}
    {slot : Nat} (h : app.Meanwhile app.Told V [] s [] (after ++ r :: before) t)
    (hm : r.message.tracking = some X) (hother : ∀ q ∈ after ++ before, q.message.tracking ≠ some X)
    (hk : s.trackers.lookup? X = some ⟨k, true⟩) (hsender : k.sender = .sync)
    (hslot : k.waits slot = true) :
    ∃ o k' live, t.trackers.lookup? X = some ⟨k', live⟩ ∧ k'.sender = .sync ∧
      (k'.receive slot).1 = .outcome o ∧
      Upshot X k.remaining k'.remaining live s.journal t.journal r.failure o := by
  obtain ⟨T', task, u, next, b, clock, v, hu, -, hr, ht⟩ := h.split
  have hu := hu.elsewhere fun q hq => hother q (by simp [hq])
  have ht := ht.elsewhere fun q hq => hother q (by simp [hq])
  have hk' : (u.turned b clock).trackers.lookup? X = some ⟨k, true⟩ := hu.entry.trans hk
  obtain ⟨o, k', live, hlookup, hsender, hreceipt, hupshot⟩ :=
    told_handled hr hm hk' hsender hslot
  refine ⟨o, k', live, ht.entry.trans hlookup, hsender, hreceipt, ?_⟩
  unfold Upshot at hupshot ⊢
  rwa [ht.told, ← hu.told]

section

variable (app X b₀)

/-- What comes of an attempt for which `n` retries were left. One that is not the last met with a
    setback, no hook said no, and it cost a retry. After the last one the caller is told what it met
    with; if that was a setback, a hook had said no or no retry was left. -/
def Ensues (n : Nat) (s : World β κ α) (last : Option Setback) (t : World β κ α) :
    Unit ⊕ Except ProducerError Unit → Prop
  | .inl _ => ∃ f n', last = some f ∧ n' + 1 = n ∧ app.Held X b₀ n' t ∧
      tale X t.journal = tale X s.journal ++ f.notices
  | .inr r => r = Setback.result last ∧ ∃ vetoed, (last = none ∨ vetoed = true ∨ n = 0) ∧
      tale X t.journal = tale X s.journal ++ Setback.lastNotices vetoed last

end

/-- The caller looks into the slot at which it waited for the report. -/
theorem ensues_looked {n slot : Nat} {live : Bool} {k : Tracker} {o : Outcome}
    {failure : Option BrokerError} (hu : tale X u.journal = tale X s.journal ++ [.offered (.ok ())])
    (ht : app.Attuned app.Told b₀ [] 0 t) (hk : t.trackers.lookup? X = some ⟨k, live⟩)
    (hsender : k.sender = .sync) (hreceipt : (k.receive slot).1 = .outcome o)
    (h : Upshot X n k.remaining live u.journal t.journal failure o) :
    app.Ensues X b₀ n s (failure.map .undelivered) (t.looked X slot) (t.receipt X slot).upshot := by
  rw [receipt_eq hk, hreceipt]
  cases failure with
  | none =>
    cases o with
    | delivered =>
      refine ⟨rfl, false, .inl rfl, ?_⟩
      rw [Site.journal_looked, show tale X t.journal = _ from h, hu, List.append_assoc]
      rfl
    | retry | dropped _ => exact h.elim
  | some e =>
    cases o with
    | delivered => exact h.elim
    | retry =>
      obtain ⟨hremaining, rfl, htold⟩ := h
      have hlooked : (t.looked X slot).trackers.lookup? X = some ⟨(k.receive slot).2, true⟩ := by
        rw [Site.trackers_looked, TrackerTable.lookup?_update, if_pos rfl, hk]
        rfl
      refine ⟨.undelivered e, k.remaining, rfl, hremaining, ⟨⟨_, hlooked, ?_, ?_⟩, 0,
        ⟨ht.course, ht.pending⟩, by simp⟩, ?_⟩
      · rw [Tracker.sender_receive, hsender]
      · rw [Tracker.remaining_receive]
      · rw [Site.journal_looked, htold, hu, List.append_assoc]
        rfl
    | dropped e' =>
      obtain ⟨rfl, vetoed, hstop, htold⟩ := h
      refine ⟨rfl, vetoed, .inr hstop, ?_⟩
      rw [Site.journal_looked, htold, hu, List.append_assoc]
      rfl

/-- The caller is told of a refusal at once. -/
theorem ensues_coped {e : BrokerError} {again : Bool} {k : Tracker}
    (hu : tale X u.journal = tale X s.journal ++ [.offered (.error e)]) (hm : m.tracking = some X)
    (hk : u.trackers.lookup? X = some ⟨k, true⟩) (hsender : k.sender = .sync)
    (ha : app.Attuned app.Told b₀ [] M u) (hM : ∀ q ∈ M, q.tracking ≠ some X)
    (h : u.Coped app.Told V m e false again t) :
    app.Ensues X b₀ k.remaining s (some (.refused e)) t
      (if again then .inl () else .inr (.error (.refused e))) := by
  have hcoped := told_coped h hm hk
  cases again with
  | true =>
    obtain ⟨hremaining, hlookup, htold⟩ := hcoped
    refine ⟨.refused e, k.remaining - 1, rfl, Nat.sub_add_cancel hremaining,
      ⟨⟨_, hlookup, ?_, ?_⟩, M, coped_attuned h ha, hM⟩, ?_⟩
    · rw [Tracker.sender_claimRetry, hsender]
    · rw [Tracker.remaining_claimRetry]
    · rw [htold, hu, List.append_assoc]
      rfl
  | false =>
    obtain ⟨vetoed, hstop, htold⟩ := hcoped
    refine ⟨rfl, vetoed, .inr hstop, ?_⟩
    rw [htold, hu, List.append_assoc]
    rfl

/-- The slot always holds what came of this very attempt. -/
theorem trial_of_tried (hf : app.client.Faithful app.Told b₀) (hm : m.tracking = some X) {n : Nat}
    (hs : app.Held X b₀ n s) {o : Unit ⊕ Except ProducerError Unit}
    (h : app.Tried app.Told V m s X o t) :
    ∃ last, app.Trial V X m s last t ∧ app.Ensues X b₀ n s last t o := by
  obtain ⟨⟨k, hk, hsender, rfl⟩, M, hattuned, hM⟩ := hs
  have hready : app.Attuned app.Told b₀ [] M (s.readied X) := ⟨hattuned.course, hattuned.pending⟩
  have hentry : (s.readied X).trackers.lookup? X = some ⟨k.arm.2, true⟩ := by
    rw [Site.readied, Site.trackers_retracked, TrackerTable.lookup?_update, if_pos rfl, hk]
    rfl
  -- While the message is offered, reports come in of what the client had before.
  have hothers {R : List DeliveryReport} {M' : Multiset Message}
      (hsplit : M = M' + (R.map (·.message) : Multiset Message)) :
      (∀ q ∈ M', q.tracking ≠ some X) ∧ ∀ r ∈ R, r.message.tracking ≠ some X := by
    subst hsplit
    refine ⟨fun q hq => hM q (by simp [hq]), fun r hr => hM _ ?_⟩
    exact Multiset.mem_add.mpr (.inr (Multiset.mem_coe.mpr (List.mem_map_of_mem hr)))
  cases h with
  | refused hu hv =>
    obtain ⟨M', hattuned', hsplit⟩ := hu.attuned hf.exact hready
    obtain ⟨hM', hR⟩ := hothers hsplit
    obtain ⟨hlookup, htold⟩ := hu.told hm hR
    exact ⟨_, .refused hu hv, ensues_coped (k := k.arm.2) htold hm
      (hlookup.trans hentry) hsender hattuned' hM' hv⟩
  | failed hu hv he =>
    obtain ⟨e, -, hfail, hanswer⟩ := he
    exact absurd ⟨e, hfail, hanswer⟩ hf.unfailing
  | learnt hu hv hp =>
    obtain ⟨M', hattuned', hsplit⟩ := hu.attuned hf.exact hready
    obtain ⟨hM', hR⟩ := hothers hsplit
    obtain ⟨hlookup, htold⟩ := hu.told hm hR
    obtain ⟨ht, before, after, r, rfl, rfl, hother⟩ := hv.reported hf.exact hM' hattuned' hp
    obtain ⟨o, k', live, hlookup', hsender', hreceipt, hupshot⟩ :=
      hv.outcome hm hother (hlookup.trans hentry) hsender (nextSlot_eq hk ▸ k.waits_arm)
    exact ⟨_, .reported hu hv rfl hother,
      ensues_looked htold ht hlookup' hsender' hreceipt hupshot⟩

end Application

/-! ### Until the message is seen through -/

/-- The hooks may answer what they like. -/
def Verdicts.free : Verdicts := fun _ _ _ _ => True

/-- A message that comes in without an id is its caller's under the next id. -/
theorem Site.engaged_of_new {s : World β κ α} {m : Message} (hm : m.tracking = none) :
    s.idOf m = s.trackers.nextId ∧ (s.engage m).1.tracking = some s.trackers.nextId ∧
      (s.engage m).2.trackers.lookup? s.trackers.nextId =
        some (.fresh .sync (if s.producer.tracking then s.producer.settings.retryBudget else 0)) := by
  generalize hR : (if s.producer.tracking then s.producer.settings.retryBudget else 0) = R
  rcases s.trackers.attach_cases m .sync R with ⟨id, hf, -⟩ | ⟨-, hid, hm', he⟩
  · simp [TrackerTable.find?_eq, hm] at hf
  · simp only [Site.idOf, Site.engage, hR]
    refine ⟨hid, congrArg Message.tracking hm', ?_⟩
    rw [Site.trackers_entrusted, TrackerTable.lookup?_update, Site.trackers_attach, he, if_pos rfl]
    split <;> rfl

namespace Application

/-- From `s` to `t` a caller sent its message, for which it had `R` retries. The attempts before the
    last met with the setbacks `fs`, and the last one with `last`, unless the message was delivered.
    `vetoed` is whether a hook said no then. -/
structure Endeavour (app : Application β κ α ο) (X : TrackingId) (R : Nat) (m : Message)
    (s t : World β κ α) (fs : List Setback) (last : Option Setback) (vetoed : Bool) : Prop where
  /-- So the client took it. -/
  attempts : ∃ u, app.Trials .free X m s fs u ∧ app.Trial .free X m u last t
  /-- There were no other attempts, and no hook said no before the last. -/
  told : tale X t.journal =
    tale X s.journal ++ (fs.flatMap Setback.notices ++ Setback.lastNotices vetoed last)
  spent : fs.length ≤ R
  /-- Why there is no other attempt. -/
  stopped : last = none ∨ vetoed = true ∨ fs.length = R

/-- What has become of a message that was handed in without an id in `s`, for a caller that waits,
    when the caller gets the reply in `t`. -/
structure SeenThrough (app : Application β κ α ο) (m : Message) (s : World β κ α) (reply : Reply)
    (t : World β κ α) (fs : List Setback) (last : Option Setback) (vetoed : Bool) : Prop where
  endeavour : app.Endeavour s.trackers.nextId
    (if s.producer.tracking then s.producer.settings.retryBudget else 0)
    ((s.noted (.submitted m)).engage m).1 ((s.noted (.submitted m)).engage m).2 t fs last vetoed
  reply : reply = .ofResult (Setback.result last)
  counted : ∃ J, s.Charged s.trackers.nextId (if last = none then 1 else 0)
    (if last = none then 0 else 1) fs.length J t

variable {app : Application β κ α ο} {b : β} {clock : Clock} {settings : Settings} {scope : Nat}
  {a : α} {limit depth : Nat} {before : List (Deed κ α ο)} {s : World β κ α} {m : Message}

/-- What the client has yet to report in a state that the producer comes to. -/
theorem attuned_of_run (hc : app.client.Honest app.Told b) (hq : app.Quiet)
    (hbefore : app.run limit depth before (.opening b clock settings scope a) = some ((), s))
    (hX : Unforged s.trackers.nextId s.journal) :
    s.Counted ∧ s.Renewed ∧
      ∃ M, app.Attuned app.Told b [] M s ∧ ∀ q ∈ M, q.tracking ≠ some s.trackers.nextId := by
  have ho : app.Obeys ⟨True, False⟩ := ⟨fun _ => trivial, .inl hq⟩
  obtain ⟨M, hmoves⟩ := leads_run (T := []) ho (.inr idle_zero) hbefore 0
  have hS := (Scene.Balanced.opening (κ := κ) app.client app.Told b clock settings scope a).moves
    hc hmoves
  refine ⟨Scene.counted_moves hmoves ⟨rfl, rfl⟩, Scene.renewed_moves hmoves rfl, M,
    ⟨hS.course, hS.pending⟩, fun q hq hX' => ?_⟩
  have hspots := (Scene.still_of_moves hc hmoves hX).spots
  have hmem : (Place.flying, q) ∈ along s.trackers.nextId (places s.stock M 0) := by
    refine Multiset.mem_filter.mpr ⟨?_, hX'⟩
    simp [places, hq]
  rw [hspots] at hmem
  exact Multiset.notMem_zero _ hmem

/-- Attempt by attempt, a caller who has `R` retries for its message comes to the last. -/
theorem reaches_trials (hf : app.client.Faithful app.Told b) (hq : app.Quiet)
    {M : Multiset Message} (ha : app.Attuned app.Told b [] M s) {X : TrackingId} {R : Nat}
    (hid : s.idOf m = X) (hm : (s.engage m).1.tracking = some X)
    (hheld : app.Held X b R (s.engage m).2) :
    Act.Reaches True (fun l d => (app.surroundings l d).sendSync m) s fun r t =>
      ∃ fs last vetoed, r = Setback.result last ∧
        app.Endeavour X R (s.engage m).1 (s.engage m).2 t fs last vetoed := by
  refine reaches_sendSync (V := .free) (· < ·) (P := fun n u => ∃ fs,
      app.Trials .free X (s.engage m).1 (s.engage m).2 fs u ∧ fs.length + n = R ∧
        app.Held X b n u ∧ tale X u.journal = tale X s.journal ++ fs.flatMap Setback.notices)
    (fun _ => hf) (discreet_of_quiet hq _) (fun _ => ha) (fun _ n _ _ => Nat.lt_wfRel.wf.apply n)
    (g := R) ⟨[], .start, Nat.zero_add R, hheld, by simp⟩ fun {n u o w} hu hw => ?_
  obtain ⟨fs, htrials, hcount, hheld, htold⟩ := hu
  rw [hid] at hw
  obtain ⟨last, htrial, hensues⟩ := trial_of_tried hf hm hheld hw
  cases o with
  | inl _ =>
    obtain ⟨f, n', rfl, hless, hheld', htold'⟩ := hensues
    refine ⟨n', ⟨fs ++ [f], htrials.next htrial, ?_, hheld', ?_⟩, fun _ => by omega⟩
    · rw [List.length_append, List.length_singleton]
      omega
    · rw [htold', htold, List.flatMap_append, List.flatMap_singleton, List.append_assoc]
  | inr r =>
    obtain ⟨rfl, vetoed, hstop, htold'⟩ := hensues
    refine ⟨fs, last, vetoed, rfl, ⟨u, htrials, htrial⟩, ?_, by omega,
      hstop.imp_right (.imp_right fun hn => by omega)⟩
    rw [htold', htold, List.append_assoc]
    rfl

/-- Whatever is done, the counters count what the journal tells, and nothing is taken back. -/
theorem counted_of_perform (hq : app.Quiet) (deed : Deed κ α ο) {r : Reply} {t : World β κ α}
    (h : app.perform (app.surroundings limit depth) deed s = some (r, t)) (hs : s.Counted)
    (hs' : s.Renewed) : t.Counted ∧ t.Renewed ∧ s.journal <:+ t.journal := by
  have ho : app.Obeys ⟨True, False⟩ := ⟨fun _ => trivial, .inl hq⟩
  obtain ⟨M, hmoves⟩ := (ends_perform (T := []) (tame_surroundings ho limit depth) (.inr idle_zero)
    h).leads ho.failing 0
  exact ⟨Scene.counted_moves hmoves hs, Scene.renewed_moves hmoves hs', Scene.suffix_moves hmoves⟩

/-- A message without an id that is sent while its caller waits is seen through, whatever else is
    buffered or at the broker. -/
theorem seenThrough_of_operate (hf : app.client.Faithful app.Told b) (hq : app.Quiet)
    (hbefore : app.run limit depth before (.opening b clock settings scope a) = some ((), s))
    (hX : Unforged s.trackers.nextId s.journal) (hm : m.tracking = none) :
    Act.Ends (fun l d => (app.surroundings l d).operate (.produceSync m)) s fun reply t =>
      ∃ fs last vetoed, app.SeenThrough m s reply t fs last vetoed := by
  obtain ⟨hcounted, hrenewed, M, hattuned, hM⟩ := attuned_of_run hf.exact.honest hq hbefore hX
  obtain ⟨hid, hm', hentry⟩ := Site.engaged_of_new (s := s.noted (.submitted m)) hm
  have hheld := Held.mk ⟨_, hentry, rfl, rfl⟩ ⟨M, .mk hattuned.course hattuned.pending, hM⟩
  have hsend := reaches_trials (s := s.noted (.submitted m)) hf hq (hattuned.noted _) hid hm' hheld
  have hproduce : Act.Reaches True (fun l d => (app.surroundings l d).operate (.produceSync m)) s
      fun reply t => ∃ fs last vetoed, reply = .ofResult (Setback.result last) ∧
        app.Endeavour s.trackers.nextId _ _ ((s.noted (.submitted m)).engage m).2 t fs last vetoed :=
    .map (.of_eq (fun _ _ => Work.record_bind ..) hsend) fun r t ⟨fs, last, vetoed, hr, ht⟩ =>
      ⟨fs, last, vetoed, congrArg _ hr, ht⟩
  have hends := (hproduce.with_post fun l d reply t h =>
    counted_of_perform hq (.operate (.produceSync m)) h hcounted hrenewed).ends trivial
  refine hends.mono fun reply t ht => ?_
  obtain ⟨⟨fs, last, vetoed, hreply, ht⟩, hcounted', hrenewed', hsuffix⟩ := ht
  refine ⟨fs, last, vetoed, ht, hreply, ?_⟩
  obtain ⟨J, hcharged⟩ := Site.charged_of_told (X := s.trackers.nextId) hcounted hcounted' hrenewed
    hrenewed' hsuffix (by simpa [Event.notice] using ht.told)
  rw [Setback.countP_isDelivered, Setback.countP_isDropped, Setback.countP_isRetried] at hcharged
  exact ⟨J, hcharged⟩

end Application

namespace MemoryBroker

/-- A hook that agrees to one more attempt, unless the topic is closed. -/
def encourage (_ : Unit) (_ : HookKind) (m : Message) (_ : Option BrokerError) :
    Conduct MemoryBroker Unit Unit Empty :=
  .answer (m.topic != "closed")

theorem quiet_encourage : (unbidden encourage).Quiet := fun _ _ _ _ => .answer _

/-- A broker with room for one message, which is going to call its queue full once and to fail three
    deliveries. -/
def narrow : MemoryBroker :=
  { limits := { capacity := 1 }, faults := { queueFullNext := 1, failNext := 3 } }

/-- Messages have two retries, and a hook is asked about failed deliveries. One message is buffered
    and another at the broker. -/
def crowd : List (Deed Unit Unit Empty) :=
  [.register .deliveryFailed (), .operate (.setRetryBudget 2), .operate (.add { topic := "a" }),
    .operate (.produce { topic := "b" })]

/-- Messages are buffered and at the broker, and nobody has used the id that comes next. -/
def isCrowded (s : World MemoryBroker Unit Unit) : Bool :=
  s.producer.buffered == 1 && s.producer.counters.pending == 1 &&
    decide (.handed ∉ beats s.trackers.nextId s.journal)

theorem seenThrough_crowd : ∃ s,
    (unbidden encourage).run 20 2 crowd (.opening narrow {} {} 0 ()) = some ((), s) ∧
      s.producer.buffered = 1 ∧ s.producer.counters.pending = 1 ∧
      Act.Ends (fun l d => ((unbidden encourage).surroundings l d).operate
        (.produceSync { topic := "c" })) s fun reply t => ∃ fs last vetoed,
          (unbidden encourage).SeenThrough { topic := "c" } s reply t fs last vetoed := by
  have hrun : ((unbidden encourage).run 20 2 crowd (.opening narrow {} {} 0 ())).any
      (fun r => isCrowded r.2) = true := by
    decide +kernel
  obtain ⟨s, hs, hp⟩ := Application.exists_run hrun
  simp only [isCrowded, Bool.and_eq_true, beq_iff_eq, decide_eq_true_eq] at hp
  obtain ⟨⟨hbuffered, hpending⟩, hX⟩ := hp
  exact ⟨s, hs, hbuffered, hpending, Application.seenThrough_of_operate
    (faithful_unbidden encourage rfl rfl Nat.one_pos) quiet_encourage hs (unforged_iff.mpr hX) rfl⟩

end MemoryBroker

end Outbox
