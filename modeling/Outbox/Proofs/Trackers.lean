import Outbox.Retry.Table

/-! What a table holds under an id, and what is found in the slots of a tracker, after each of the
    things that happen to them. An entry is changed or ended under its own id only. Of the outcomes
    in slots one matters more than the others: a slot with a retry in it stands for a message that
    nobody but the caller who looks into the slot has. -/

namespace Outbox

namespace Issued

/-- The entry with its tracker changed. -/
def under (f : Tracker → Tracker) (e : Issued) : Issued := { e with tracker := f e.tracker }

/-- A new entry, with a tracker for so many retries. -/
def fresh (sender : Sender) (budget : Nat) : Issued :=
  { tracker := { sender := sender, remaining := budget } }

/-- The entry of a message that is done with. -/
def ended (e : Issued) : Issued := { e with live := false }

end Issued

namespace TrackerTable

variable (t : TrackerTable) (id X : TrackingId) (m : Message)

/-- What was issued under `id`. -/
def lookup? : Option Issued := if id.scope = t.scope then t.issued.get? id.sequence else none

theorem tracker?_eq : t.tracker? id = (t.lookup? id).map (·.tracker) := by
  unfold tracker? lookup?
  split <;> rfl

theorem isLive_eq : t.isLive id = (t.lookup? id).any (·.live) := by
  unfold isLive lookup?
  split
  · next h => simp [h]
  · next h => simp [h]

/-- A message is found if the entry under its id is live. -/
theorem find?_eq : t.find? m = m.tracking.filter fun id => (t.lookup? id).any (·.live) := by
  unfold find?
  congr 1
  exact funext fun id => isLive_eq t id

/-- To change the entry with one number is to change what is held under one id. -/
theorem lookup?_modify {id} (hid : id.scope = t.scope) (f : Issued → Issued) :
    lookup? { t with issued := t.issued.modify id.sequence f } X =
      if X = id then (t.lookup? X).map f else t.lookup? X := by
  unfold lookup?
  by_cases hX : X = id
  · simp [hX, hid, Numbered.get?_modify]
  · by_cases hs : X.scope = t.scope
    · have hseq : X.sequence ≠ id.sequence := fun he =>
        hX (by cases X; cases id; simp_all)
      simp [hX, hs, Numbered.get?_modify, hseq]
    · simp [hX, hs]

theorem lookup?_update (f : Tracker → Tracker) :
    (t.update id f).lookup? X = if X = id then (t.lookup? X).map (·.under f) else t.lookup? X := by
  by_cases hid : id.scope = t.scope
  · rw [update, if_pos hid]
    exact lookup?_modify t X hid _
  · rw [update, if_neg hid]
    split
    · next hX => simp [lookup?, hX, hid]
    · rfl

theorem lookup?_update_of_tracking {m : Message} {id : TrackingId} (h : m.tracking = some id)
    (f : Tracker → Tracker) : (t.update id f).lookup? X =
      if m.tracking = some X then (t.lookup? X).map (·.under f) else t.lookup? X := by
  rw [lookup?_update, h]
  simp only [Option.some_inj, @eq_comm _ id X]

theorem lookup?_release :
    (t.release m).lookup? X =
      if m.tracking = some X then (t.lookup? X).map (·.ended) else t.lookup? X := by
  unfold release
  cases h : t.find? m with
  | some id =>
    obtain ⟨hm, hlive⟩ := find?_eq_some_iff.mp h
    simp only [hm, Option.some_inj, @eq_comm _ id X]
    exact lookup?_modify t X (isLive_iff.mp hlive).1 _
  | none =>
    dsimp only
    by_cases hm : m.tracking = some X
    · rw [if_pos hm]
      rw [find?_eq, hm] at h
      cases he : t.lookup? X with
      | none => rfl
      | some e =>
        have hlive : e.live = false := by simpa [Option.filter_some, he] using h
        rw [Option.map_some, Issued.ended, ← hlive]
    · rw [if_neg hm]

theorem lookup?_nextId : t.lookup? t.nextId = none := by
  rw [lookup?, nextId, if_pos rfl, ← Option.not_isSome_iff_eq_none, Numbered.isSome_get?]
  exact Nat.lt_irrefl _

/-- An entry after a change or a release is the same as before, or was changed or ended by it. -/
theorem entry_of_update {t : TrackerTable} {id X : TrackingId} {f : Tracker → Tracker} {e : Issued}
    (h : (t.update id f).lookup? X = some e) :
    t.lookup? X = some e ∨ ∃ e', t.lookup? X = some e' ∧ e'.under f = e := by
  rw [lookup?_update] at h
  split at h
  · exact .inr (Option.map_eq_some_iff.mp h)
  · exact .inl h

theorem entry_of_release {t : TrackerTable} {m : Message} {X : TrackingId} {e : Issued}
    (h : (t.release m).lookup? X = some e) :
    t.lookup? X = some e ∨ ∃ e', t.lookup? X = some e' ∧ e'.ended = e := by
  rw [lookup?_release] at h
  split at h
  · exact .inr (Option.map_eq_some_iff.mp h)
  · exact .inl h

/-- What was not issued is not issued by a change or a release. -/
theorem lookup?_update_of_none {t : TrackerTable} {X : TrackingId} (h : t.lookup? X = none)
    (id : TrackingId) (f : Tracker → Tracker) : (t.update id f).lookup? X = none := by
  rw [lookup?_update, h]
  exact ite_self _

theorem lookup?_release_of_none {t : TrackerTable} {X : TrackingId} (h : t.lookup? X = none)
    (m : Message) : (t.release m).lookup? X = none := by
  rw [lookup?_release, h]
  exact ite_self _

/-- A message that has no live entry gets a new one. -/
theorem lookup?_attach (sender : Sender) (budget : Nat) :
    (t.attach m sender budget).2.2.lookup? X =
      if t.find? m = none ∧ X = t.nextId then
        some (.fresh sender budget)
      else t.lookup? X := by
  unfold attach
  cases h : t.find? m with
  | some id => simp
  | none =>
    by_cases hX : X = t.nextId
    · simp [hX, lookup?, nextId, Issued.fresh]
    · have hseq : X.scope = t.scope → X.sequence ≠ t.issued.size := fun hs he =>
        hX (by cases X; simp_all [nextId])
      by_cases hs : X.scope = t.scope
      · simp [hX, lookup?, hs, Numbered.get?_push, hseq hs]
      · simp [hX, lookup?, hs]

/-- To attach a message is to leave it alone or to give it the next id. -/
theorem attach_cases (sender : Sender) (budget : Nat) :
    (∃ id, t.find? m = some id ∧ t.attach m sender budget = (id, m, t)) ∨
    t.find? m = none ∧ (t.attach m sender budget).1 = t.nextId ∧
      (t.attach m sender budget).2.1 = { m with tracking := some t.nextId } ∧
      ∀ X, (t.attach m sender budget).2.2.lookup? X =
        if X = t.nextId then some (.fresh sender budget) else t.lookup? X := by
  cases h : t.find? m with
  | some id => exact .inl ⟨id, rfl, by rw [attach, h]⟩
  | none =>
    refine .inr ⟨rfl, by rw [attach, h], by rw [attach, h], fun X => ?_⟩
    simp [lookup?_attach, h]

/-- A message with a tracker is the same message. -/
theorem untracked_attach (sender : Sender) (budget : Nat) :
    (t.attach m sender budget).2.1.untracked = m.untracked := by
  rcases t.attach_cases m sender budget with ⟨id, -, ha⟩ | ⟨-, -, hm, -⟩
  · exact congrArg Message.untracked (congrArg (·.2.1) ha)
  · exact (congrArg Message.untracked hm).trans rfl

/-- What was not issued is issued to the message that is attached, or not at all. -/
theorem lookup?_attach_of_none {t : TrackerTable} {X : TrackingId} (h : t.lookup? X = none)
    (m : Message) (sender : Sender) (budget : Nat) :
    (t.attach m sender budget).2.2.lookup? X = none ∨
      (t.attach m sender budget).2.1.tracking = some X ∧
        (t.attach m sender budget).2.2.lookup? X = some (.fresh sender budget) := by
  rcases t.attach_cases m sender budget with ⟨id, -, ha⟩ | ⟨-, -, hm, hlookup⟩
  · rw [ha]
    exact .inl h
  · by_cases hX : X = t.nextId
    · exact .inr ⟨by rw [hm, hX], by rw [hlookup, if_pos hX]⟩
    · exact .inl (by rw [hlookup, if_neg hX, h])

/-- A message whose id is `X` is found if the entry under `X` is live. -/
theorem find?_of_tracking {m : Message} {X} (hm : m.tracking = some X) :
    t.find? m = if (t.lookup? X).any (·.live) then some X else none := by
  rw [find?_eq, hm, Option.filter_some]

/-- Who is granted a retry has one left. -/
theorem claim_eq_some {sender : Sender} :
    (t.tracker? id).bind (·.claimRetry.1) = some sender ↔
      ∃ e, t.lookup? id = some e ∧ 0 < e.tracker.remaining ∧ e.tracker.sender = sender := by
  rw [tracker?_eq]
  cases t.lookup? id with
  | none => simp
  | some e => simp [Tracker.claimRetry_fst, Nat.pos_iff_ne_zero]

/-- A claim that is not granted changes nothing. -/
theorem lookup?_claim_of_none (h : (t.tracker? id).bind (·.claimRetry.1) = none) :
    (t.update id (·.claimRetry.2)).lookup? X = t.lookup? X := by
  rw [lookup?_update]
  split
  · next hX =>
    subst hX
    rw [tracker?_eq] at h
    cases he : t.lookup? X with
    | none => rfl
    | some e =>
      have hr : e.tracker.remaining = 0 := by simpa [he, Tracker.claimRetry_fst] using h
      rw [Option.map_some, Issued.under, Tracker.claimRetry_zero hr]
  · rfl

end TrackerTable

namespace Tracker

variable (t : Tracker) (i : Nat) (o : Outcome)

theorem receive_fst :
    (t.receive i).1 =
      if t.waits i then .empty else (t.unread.lookup i).elim .disconnected .outcome := by
  unfold receive
  split
  · rfl
  · cases t.unread.lookup i <;> rfl

/-- An outcome is found in a slot that waits no more. -/
theorem receive_eq_outcome {i o} :
    (t.receive i).1 = .outcome o ↔ t.waits i = false ∧ t.unread.lookup i = some o := by
  rw [receive_fst]
  cases t.waits i <;> cases t.unread.lookup i <;> simp

/-! ### What a claim and a change of sender leave alone -/

@[simp] theorem receive_claimRetry : (t.claimRetry.2.receive i).1 = (t.receive i).1 := by
  rw [receive_fst, receive_fst]
  unfold claimRetry
  split <;> rfl

@[simp] theorem receive_setSender (sender : Sender) :
    ((t.setSender sender).receive i).1 = (t.receive i).1 := by
  rw [receive_fst, receive_fst]
  rfl

@[simp] theorem waits_claimRetry : t.claimRetry.2.waits i = t.waits i := by
  unfold claimRetry; split <;> rfl

@[simp] theorem sender_claimRetry : t.claimRetry.2.sender = t.sender := by
  unfold claimRetry; split <;> rfl

@[simp] theorem sender_complete : (t.complete o).sender = t.sender := by
  unfold complete; split <;> rfl

@[simp] theorem remaining_complete : (t.complete o).remaining = t.remaining := by
  unfold complete; split <;> rfl

@[simp] theorem sender_receive : (t.receive i).2.sender = t.sender := by
  unfold receive; split
  · rfl
  · split <;> rfl

@[simp] theorem remaining_receive : (t.receive i).2.remaining = t.remaining := by
  unfold receive; split
  · rfl
  · split <;> rfl

@[simp] theorem waits_receive {j} : (t.receive j).2.waits i = t.waits i := by
  unfold receive; split
  · rfl
  · split <;> rfl

/-! ### What is in the slots -/

theorem waits_arm : t.arm.2.waits t.opened = true := by
  simp [arm, waits]

/-- The slot that waits gets the outcome. -/
theorem receive_complete {i} (h : t.waits i = true) :
    ((t.complete o).receive i).1 = .outcome o := by
  obtain ⟨hw, hi⟩ : t.waiting = true ∧ i + 1 = t.opened := by simpa [waits] using h
  have hlast : t.opened - 1 = i := by omega
  simp [complete, hw, receive, waits, hlast]

/-- A retry is not taken out of a slot by another one. -/
theorem receive_complete_retry {i} (h : (t.receive i).1 = .outcome .retry) :
    ((t.complete .retry).receive i).1 = .outcome .retry := by
  obtain ⟨hw, hl⟩ := (receive_eq_outcome t).mp h
  unfold complete
  split
  · refine (receive_eq_outcome _).mpr ⟨rfl, ?_⟩
    rw [List.lookup_cons]
    split
    · rfl
    · exact hl
  · exact h

/-- No other outcome than a retry puts a retry into a slot. -/
theorem receive_complete_ne {i} (ho : o ≠ .retry) (h : (t.receive i).1 ≠ .outcome .retry) :
    ((t.complete o).receive i).1 ≠ .outcome .retry := by
  by_cases hi : t.waits i = true
  · rw [receive_complete t o hi]
    simpa using ho
  · unfold complete
    split
    · intro hr
      have hl := (receive_eq_outcome _).mp hr |>.2
      rw [List.lookup_cons] at hl
      split at hl
      · exact ho (Option.some_inj.mp hl)
      · exact h ((receive_eq_outcome _).mpr ⟨by simpa using hi, hl⟩)
    · exact h

theorem lookup_discard (l : List (Nat × Outcome)) (i j : Nat) :
    (l.filter (·.1 ≠ j)).lookup i = if i = j then none else l.lookup i := by
  induction l with
  | nil => simp
  | cons e l ih =>
    obtain ⟨n, o⟩ := e
    by_cases hn : n = j
    · rw [List.filter_cons_of_neg (by simpa using hn), ih, List.lookup_cons, hn]
      by_cases hi : i = j
      · simp [hi]
      · rw [if_neg hi, if_neg hi, beq_false_of_ne hi]
    · rw [List.filter_cons_of_pos (by simpa using hn), List.lookup_cons, List.lookup_cons, ih]
      by_cases hi : i = n
      · simp [hi, hn]
      · rw [beq_false_of_ne hi]

/-- To look into one slot takes no retry out of another. -/
theorem receive_receive {j} (h : (t.receive j).1 ≠ .outcome .retry) :
    ((t.receive j).2.receive i).1 = .outcome .retry ↔ (t.receive i).1 = .outcome .retry := by
  by_cases hj : t.waits j = true
  · simp [receive, hj]
  · cases hl : t.unread.lookup j with
    | none => simp [receive, hj, hl]
    | some o =>
      have ho : o ≠ .retry := by simpa [receive, hj, hl] using h
      have hd : (t.receive j).2 = t.discard j := by simp [receive, hj, hl]
      have hu : (t.discard j).unread.lookup i = if i = j then none else t.unread.lookup i :=
        lookup_discard t.unread i j
      have hw : (t.discard j).waits i = t.waits i := rfl
      rw [hd, receive_eq_outcome, receive_eq_outcome, hu, hw]
      split
      · next hij => simp [hij, hl, ho]
      · rfl

end Tracker

end Outbox
