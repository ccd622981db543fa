import Outbox.Proofs.Trackers

/-! The retries that messages have left. A message has what its live tracker holds, and none if it
    has no live tracker. What is done under one id matters to the messages with that id only; so
    messages that have trackers of their own do not get in each other's way, and neither do messages
    when nobody has a retry. Main statement: what happens to the tracker of one of the messages
    leaves the others what they have. -/

namespace Outbox

namespace TrackerTable

/-- The retries that the message has left. -/
def budget (t : TrackerTable) (m : Message) : Nat :=
  ((t.find? m).bind t.tracker?).elim 0 (·.remaining)

section

variable (t : TrackerTable) (m n : Message) {id : TrackingId} {f : Tracker → Tracker}

theorem budget_eq :
    t.budget m = ((m.tracking.bind t.lookup?).filter (·.live)).elim 0 (·.tracker.remaining) := by
  rw [budget, find?_eq]
  cases m.tracking with
  | none => rfl
  | some id =>
    rw [Option.filter_some, Option.bind_some]
    cases h : t.lookup? id with
    | none => rfl
    | some e => cases hl : e.live <;> simp [tracker?_eq, h, hl, Option.filter_some]

/-- What is found of a message does not depend on what the trackers hold. -/
theorem find?_update (id : TrackingId) (f : Tracker → Tracker) :
    (t.update id f).find? m = t.find? m := by
  rw [find?_eq, find?_eq]
  congr 1
  funext X
  rw [lookup?_update]
  split
  · cases t.lookup? X <;> rfl
  · rfl

theorem budget_update (hf : ∀ k, (f k).remaining = k.remaining) :
    (t.update id f).budget m = t.budget m := by
  rw [budget_eq, budget_eq]
  cases hm : m.tracking with
  | none => rfl
  | some X =>
    rw [Option.bind_some, Option.bind_some, lookup?_update]
    split
    · cases t.lookup? X with
      | none => rfl
      | some e => cases hl : e.live <;> simp [Issued.under, Option.filter_some, hl, hf]
    · rfl

theorem budget_setSender (sender : Sender) :
    (t.update id (·.setSender sender)).budget m = t.budget m :=
  budget_update t m (f := (·.setSender sender)) fun _ => rfl

/-- A claim takes a retry from the messages with that id. -/
theorem budget_claim : (t.update id (·.claimRetry.2)).budget m =
    if m.tracking = some id then t.budget m - 1 else t.budget m := by
  rw [budget_eq, budget_eq]
  cases hm : m.tracking with
  | none => rfl
  | some X =>
    rw [Option.bind_some, Option.bind_some, lookup?_update]
    by_cases hX : X = id
    · subst hX
      rw [if_pos rfl, if_pos rfl]
      cases t.lookup? X with
      | none => rfl
      | some e =>
        cases hl : e.live <;>
          simp [Issued.under, Option.filter_some, hl, Tracker.remaining_claimRetry]
    · rw [if_neg hX, if_neg fun he => hX (Option.some_inj.mp he)]

/-- A release leaves no retries to the messages with that id. -/
theorem budget_release :
    (t.release n).budget m = if m.tracking = n.tracking then 0 else t.budget m := by
  rw [budget_eq, budget_eq]
  cases hm : m.tracking with
  | none => simp
  | some X =>
    rw [Option.bind_some, Option.bind_some, lookup?_release]
    by_cases hn : n.tracking = some X
    · rw [if_pos hn, if_pos hn.symm]
      cases t.lookup? X <;> simp [Issued.ended, Option.filter_some]
    · rw [if_neg hn, if_neg fun he => hn he.symm]

theorem budget_claim_le : (t.update id (·.claimRetry.2)).budget m ≤ t.budget m := by
  rw [budget_claim]
  split
  · exact Nat.sub_le _ _
  · exact Nat.le_refl _

theorem budget_release_le : (t.release n).budget m ≤ t.budget m := by
  rw [budget_release]
  split
  · exact Nat.zero_le _
  · exact Nat.le_refl _

theorem find?_release_of_ne (h : m.tracking ≠ n.tracking) :
    (t.release n).find? m = t.find? m := by
  rw [find?_eq, find?_eq]
  cases hm : m.tracking with
  | none => rfl
  | some X =>
    have hn : n.tracking ≠ some X := fun hn => h (hm.trans hn.symm)
    rw [Option.filter_some, Option.filter_some, lookup?_release, if_neg hn]

/-- A message that comes without a tracker gets one; if there are no retries in it, everybody has
    what they had. -/
theorem budget_attach (sender : Sender) {n : Nat} (hn : t.find? m = none → n = 0) (x : Message) :
    (t.attach m sender n).2.2.budget x = t.budget x ∧
      (t.attach m sender n).2.2.budget (t.attach m sender n).2.1 = t.budget m := by
  rcases t.attach_cases m sender n with ⟨id, -, ha⟩ | ⟨hm, -, hmessage, hlookup⟩
  · rw [ha]
    exact ⟨rfl, rfl⟩
  · obtain rfl := hn hm
    have hfresh :
        ((some (Issued.fresh sender 0)).filter (·.live)).elim 0 (·.tracker.remaining) = 0 := rfl
    refine ⟨?_, ?_⟩
    · rw [budget_eq, budget_eq]
      cases x.tracking with
      | none => rfl
      | some X =>
        rw [Option.bind_some, Option.bind_some, hlookup]
        split
        · next hX =>
          subst hX
          rw [lookup?_nextId]
          exact hfresh
        · rfl
    · have hnone : t.budget m = 0 := by
        rw [budget, hm]
        rfl
      rw [hnone, budget_eq, hmessage, Option.bind_some, hlookup, if_pos rfl]
      exact hfresh

/-- A message without a retry is granted none. -/
theorem budget_eq_zero_iff : t.budget m = 0 ↔
    ∀ id, t.find? m = some id → (t.tracker? id).bind (·.claimRetry.1) = none := by
  rw [budget]
  cases h : t.find? m with
  | none => simp
  | some id => cases ht : t.tracker? id <;> simp [ht, Tracker.claimRetry_fst]

end

end TrackerTable

/-! ### No retries -/

/-- No tracker has a retry. -/
def TrackerTable.Spent (t : TrackerTable) : Prop :=
  ∀ X k, t.lookup? X = some k → k.tracker.remaining = 0

namespace TrackerTable.Spent

variable {t : TrackerTable}

theorem release (h : t.Spent) (m : Message) : (t.release m).Spent := by
  intro X k hk
  rcases entry_of_release hk with he | ⟨k', he, rfl⟩
  · exact h X k he
  · exact h X k' he

theorem update (h : t.Spent) {f : Tracker → Tracker} (hf : ∀ k, (f k).remaining ≤ k.remaining)
    (id : TrackingId) : (t.update id f).Spent := by
  intro X k hk
  rcases entry_of_update hk with he | ⟨k', he, rfl⟩
  · exact h X k he
  · exact Nat.eq_zero_of_le_zero (h X k' he ▸ hf k'.tracker)

theorem claim (h : t.Spent) (id : TrackingId) : (t.update id (·.claimRetry.2)).Spent :=
  h.update (fun k => k.remaining_claimRetry ▸ Nat.sub_le _ _) id

theorem complete (h : t.Spent) (id : TrackingId) (o : Outcome) :
    (t.update id (·.complete o)).Spent :=
  h.update (fun k => Nat.le_of_eq (k.remaining_complete o)) id

theorem attach (h : t.Spent) (m : Message) (sender : Sender) :
    (t.attach m sender 0).2.2.Spent := by
  intro X k hk
  rcases t.attach_cases m sender 0 with ⟨id, -, ha⟩ | ⟨-, -, -, hlookup⟩
  · rw [ha] at hk
    exact h X k hk
  · rw [hlookup] at hk
    split at hk
    · obtain rfl := Option.some_inj.mp hk
      rfl
    · exact h X k hk

/-- Where no tracker has a retry no message has one. -/
theorem budget (h : t.Spent) (m : Message) : t.budget m = 0 := by
  rw [budget_eq]
  cases hm : (m.tracking.bind t.lookup?).filter (·.live) with
  | none => rfl
  | some k =>
    obtain ⟨X, -, hk⟩ := Option.bind_eq_some_iff.mp (Option.filter_eq_some_iff.mp hm).1
    exact h X k hk

end TrackerTable.Spent

namespace TrackerTable

/-! ### Trackers of one's own -/

/-- The messages do not share retries: each has a live tracker of its own, or tracking is not `on`
    and nobody has a retry. -/
structure Owned (t : TrackerTable) (on : Bool) (ms : List Message) : Prop where
  live : on = true → ∀ m ∈ ms, t.find? m ≠ none
  apart : on = true → (ms.map (·.tracking)).Nodup
  spent : on = false → ∀ m, t.budget m = 0

namespace Owned

variable {t u : TrackerTable} {on : Bool} {ms ms' : List Message} {m x : Message} {id : TrackingId}

theorem perm (h : t.Owned on ms) (hp : ms'.Perm ms) : t.Owned on ms' := by
  obtain ⟨hlive, hapart, hspent⟩ := h
  exact ⟨fun hon x hx => hlive hon x (hp.subset hx),
    fun hon => ((hp.map _).nodup_iff).mpr (hapart hon), hspent⟩

/-- It stays so if the same messages are found and nobody gets more retries. -/
theorem of_le (h : t.Owned on ms) (hfind : ∀ x, u.find? x = t.find? x)
    (hbudget : ∀ x, u.budget x ≤ t.budget x) : u.Owned on ms := by
  obtain ⟨hlive, hapart, hspent⟩ := h
  refine ⟨fun hon x hx => ?_, hapart, fun hon x => ?_⟩
  · rw [hfind]
    exact hlive hon x hx
  · exact Nat.eq_zero_of_le_zero (hspent hon x ▸ hbudget x)

/-- A message that comes without a tracker does not have to share the one it gets. -/
theorem attach (h : t.Owned on (m :: ms)) (sender : Sender) {n : Nat}
    (hn : t.find? m = none → n = 0) :
    (t.attach m sender n).2.2.Owned on ((t.attach m sender n).2.1 :: ms) := by
  cases hon : on with
  | true =>
    rcases t.attach_cases m sender n with ⟨id, -, ha⟩ | ⟨hm, -⟩
    · rw [ha]
      exact hon ▸ h
    · exact absurd hm (h.live hon m (List.mem_cons_self ..))
  | false =>
    refine ⟨by simp, by simp, fun _ x => ?_⟩
    rw [(t.budget_attach m sender hn x).1]
    exact h.spent hon x

theorem claim (h : t.Owned on ms) (id : TrackingId) :
    (t.update id (·.claimRetry.2)).Owned on ms :=
  h.of_le (fun x => find?_update t x id _) fun x => budget_claim_le t x

/-- What one of the messages has is not what another has. -/
theorem tracking_ne (h : t.Owned on (m :: ms)) (hon : on = true) (hx : x ∈ ms) :
    x.tracking ≠ m.tracking := by
  have hnodup := h.apart hon
  rw [List.map_cons, List.nodup_cons] at hnodup
  exact fun he => hnodup.1 (he ▸ List.mem_map_of_mem hx)

theorem release (h : t.Owned on (m :: ms)) : (t.release m).Owned on ms := by
  refine ⟨fun hon x hx => ?_, fun hon => ?_, fun hon x => ?_⟩
  · rw [find?_release_of_ne _ _ _ (h.tracking_ne hon hx)]
    exact h.live hon x (List.mem_cons_of_mem _ hx)
  · exact (List.nodup_cons.mp (h.apart hon)).2
  · exact Nat.eq_zero_of_le_zero (h.spent hon x ▸ budget_release_le t x m)

/-- The release of one message leaves the others what they have. -/
theorem budget_release (h : t.Owned on (m :: ms)) (hx : x ∈ ms) :
    (t.release m).budget x = t.budget x := by
  rw [TrackerTable.budget_release]
  cases hon : on with
  | true => rw [if_neg (h.tracking_ne hon hx)]
  | false =>
    rw [h.spent hon x]
    split <;> rfl

/-- A claim for one message leaves the others what they have. -/
theorem budget_claim (h : t.Owned on (m :: ms)) (hm : m.tracking = some id) (hx : x ∈ ms) :
    (t.update id (·.claimRetry.2)).budget x = t.budget x := by
  rw [TrackerTable.budget_claim]
  cases hon : on with
  | true => rw [if_neg (hm ▸ h.tracking_ne hon hx)]
  | false =>
    rw [h.spent hon x]
    split <;> rfl

end Owned

end TrackerTable

end Outbox
