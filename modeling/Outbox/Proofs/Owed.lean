import Outbox.Proofs.Soundness

/-! What is owed. A caller who waits for a message and is going to find a retry in its slot is the
    only one who has the message: it is owed to the caller. Trackers change all the time, and of all
    these changes only a failed report makes a message owed that was not, and only a look of the
    caller ends it. -/

namespace Outbox

/-- A retry is found in the slot. -/
def owing (e : Option Issued) (slot : Nat) : Bool :=
  e.any fun k => (k.tracker.receive slot).1 == .outcome .retry

theorem owing_some {k : Issued} {slot : Nat} :
    owing (some k) slot = true ↔ (k.tracker.receive slot).1 = .outcome .retry := by
  simp [owing]

theorem owing_map {e : Option Issued} {slot : Nat} {g : Issued → Issued}
    (hg : ∀ k, ((g k).tracker.receive slot).1 = .outcome .retry ↔
      (k.tracker.receive slot).1 = .outcome .retry) : owing (e.map g) slot = owing e slot := by
  cases e with
  | none => rfl
  | some k =>
    rw [Bool.eq_iff_iff, Option.map_some, owing_some, owing_some]
    exact hg k

section

variable {β κ α : Type} {s s' : World β κ α} {W : Multiset (Nat × Message)}

/-- The caller who waits finds a retry. -/
def Site.owes (s : World β κ α) (w : Nat × Message) : Bool :=
  w.2.tracking.any fun X => owing (s.trackers.lookup? X) w.1

/-- The messages of callers who find a retry. -/
def owed (s : World β κ α) (W : Multiset (Nat × Message)) : Multiset Message :=
  (W.filter fun w => s.owes w = true).map Prod.snd

theorem owes_iff {w : Nat × Message} :
    s.owes w = true ↔ ∃ X k, w.2.tracking = some X ∧ s.trackers.lookup? X = some k ∧
      (k.tracker.receive w.1).1 = .outcome .retry := by
  simp only [Site.owes, owing, Option.any_eq_true, beq_iff_eq]
  constructor
  · rintro ⟨X, hX, k, hk, hr⟩
    exact ⟨X, k, hX, hk, hr⟩
  · rintro ⟨X, k, hX, hk, hr⟩
    exact ⟨X, hX, k, hk, hr⟩

theorem owed_cons (w : Nat × Message) :
    owed s (w ::ₘ W) = (if s.owes w then {w.2} else 0) + owed s W := by
  rw [owed, Multiset.filter_cons, Multiset.map_add]
  split <;> rfl

theorem owed_congr (h : ∀ w ∈ W, s'.owes w = s.owes w) : owed s' W = owed s W := by
  rw [owed, owed, Multiset.filter_congr fun w hw => by rw [h w hw]]

theorem owes_of_tracking {w : Nat × Message} {X : TrackingId} (hw : w.2.tracking = some X) :
    s.owes w = owing (s.trackers.lookup? X) w.1 := by
  rw [Site.owes, hw]
  rfl

theorem owed_of_trackers (h : s'.trackers = s.trackers) : owed s' W = owed s W :=
  owed_congr fun w _ => by rw [Site.owes, Site.owes, h]

/-- What becomes of an entry concerns only who waits for a message with its id. -/
theorem owed_of_lookup (X : TrackingId)
    (hne : ∀ Y, Y ≠ X → s'.trackers.lookup? Y = s.trackers.lookup? Y)
    (h : ∀ w ∈ along X W, owing (s'.trackers.lookup? X) w.1 = owing (s.trackers.lookup? X) w.1) :
    owed s' W = owed s W := by
  refine owed_congr fun w hw => ?_
  rw [Site.owes, Site.owes]
  cases hm : w.2.tracking with
  | none => rfl
  | some Y =>
    by_cases hY : Y = X
    · subst hY
      exact h w (Multiset.mem_filter.mpr ⟨hw, hm⟩)
    · exact congrArg (owing · w.1) (hne Y hY)

theorem owed_update {X : TrackingId} {f : Tracker → Tracker}
    (ht : s'.trackers = s.trackers.update X f)
    (h : ∀ w ∈ along X W, owing ((s.trackers.lookup? X).map (·.under f)) w.1 =
      owing (s.trackers.lookup? X) w.1) : owed s' W = owed s W := by
  refine owed_of_lookup X (fun Y hY => ?_) fun w hw => ?_
  · rw [ht, TrackerTable.lookup?_update, if_neg hY]
  · rw [ht, TrackerTable.lookup?_update, if_pos rfl, h w hw]

/-- A change of a tracker after which the same is found in its slots. -/
theorem owed_of_receive {X : TrackingId} {f : Tracker → Tracker}
    (ht : s'.trackers = s.trackers.update X f)
    (hf : ∀ k i, ((f k).receive i).1 = (k.receive i).1) : owed s' W = owed s W :=
  owed_update ht fun w _ => owing_map fun k => by rw [Issued.under, hf]

theorem owed_release {m : Message} (ht : s'.trackers = s.trackers.release m) :
    owed s' W = owed s W := by
  refine owed_congr fun w _ => ?_
  rw [Site.owes, Site.owes, ht]
  congr 1
  funext X
  rw [TrackerTable.lookup?_release]
  split
  · exact owing_map fun k => Iff.rfl
  · rfl

theorem owed_attach {m : Message} {sender : Sender} {budget : Nat}
    (ht : s'.trackers = (s.trackers.attach m sender budget).2.2) : owed s' W = owed s W := by
  refine owed_congr fun w _ => ?_
  rw [Site.owes, Site.owes, ht]
  congr 1
  funext X
  rw [TrackerTable.lookup?_attach]
  split
  · next h =>
    rw [h.2, TrackerTable.lookup?_nextId]
    rfl
  · rfl

end

/-! ### What is owed after a move -/

section Owed

variable {s : World β κ α} {W : Multiset (Nat × Message)} {X : TrackingId} {m : Message}

/-- Nothing is owed to a caller whose message was just accepted. -/
theorem not_owes_of_armed {slot : Nat}
    (h : ∀ X k, m.tracking = some X → s.trackers.lookup? X = some k →
      Thread.Armed slot (along X W) (some k)) : s.owes (slot, m) = false := by
  by_contra ho
  obtain ⟨X, k, hX, hk, hr⟩ := owes_iff.mp (by simpa using ho)
  obtain ⟨-, k', hk', -, hw⟩ := h X k hX hk
  obtain rfl := Option.some_inj.mp hk'
  rw [Tracker.receive_fst, if_pos hw] at hr
  simp at hr

theorem owed_accepted {w : Option Nat} {b : β}
    (h : ∀ slot, w = some slot → s.owes (slot, m) = false) :
    owed (s.accepted b m) (w.elim W fun slot => (slot, m) ::ₘ W) = owed s W := by
  cases w with
  | none => exact owed_of_trackers rfl
  | some slot =>
    calc owed (s.accepted b m) ((slot, m) ::ₘ W)
        = owed s ((slot, m) ::ₘ W) := owed_of_trackers rfl
      _ = owed s W := by
        rw [owed_cons, h slot rfl]
        exact zero_add _

/-- Who finds another outcome than a retry is owed nothing. -/
theorem not_owes_of_receipt {slot : Nat} (hm : m.tracking = some X)
    (hr : s.receipt X slot ≠ .outcome .retry) : s.owes (slot, m) = false := by
  cases hk : s.trackers.lookup? X with
  | none =>
    rw [owes_of_tracking hm, hk]
    rfl
  | some k =>
    rw [receipt_eq hk] at hr
    rw [owes_of_tracking hm, hk, Bool.eq_false_iff]
    exact fun h => hr (owing_some.mp h)

theorem owed_looked {slot : Nat} (hr : s.receipt X slot ≠ .outcome .retry) :
    owed (s.looked X slot) W = owed s W := by
  refine owed_update (f := fun k => (k.receive slot).2) (Site.trackers_looked ..) fun w _ => ?_
  cases hk : s.trackers.lookup? X with
  | none => rfl
  | some k =>
    rw [receipt_eq hk] at hr
    rw [Option.map_some, Bool.eq_iff_iff, owing_some, owing_some]
    exact Tracker.receive_receive k.tracker w.1 hr

/-- What happens to the tracker of a message for which nobody waits is nobody's business. -/
theorem owed_of_nobody {s' : World β κ α} {f : Tracker → Tracker}
    (ht : s'.trackers = s.trackers.update X f) (hW : along X W = 0) : owed s' W = owed s W :=
  owed_update ht fun w hw => by simp [hW] at hw

theorem owed_acknowledged {id : TrackingId} {o : Outcome} (ho : o ≠ .retry)
    (h : ∀ k, s.trackers.lookup? id = some k → Thread.Dead (along id W) (some k)) :
    owed (s.acknowledged (some id) o m) W = owed s W := by
  refine owed_update (X := id) (f := (·.complete o)) (Site.trackers_acknowledged ..) fun w hw => ?_
  cases hk : s.trackers.lookup? id with
  | none => rfl
  | some k =>
    obtain ⟨k', hk', hr⟩ := h k hk
    obtain rfl := Option.some_inj.mp hk'
    have hbefore : owing (some ⟨k', false⟩) w.1 ≠ true := fun h => hr w hw (owing_some.mp h)
    have hafter :
        owing ((some ⟨k', false⟩ : Option Issued).map (·.under (·.complete o))) w.1 ≠ true :=
      fun h => Tracker.receive_complete_ne k' o ho (hr w hw) (owing_some.mp h)
    rw [Bool.eq_false_of_not_eq_true hbefore, Bool.eq_false_of_not_eq_true hafter]

/-- A message that is left with the caller who waits is owed to it. -/
theorem owed_left {id : TrackingId} {k : Issued} (hk : s.trackers.lookup? id = some k)
    (hsender : k.tracker.sender = .sync)
    (h : Thread.Free (along id W) (some k) ∨ Thread.Awaited (along id W) (some k)) :
    ∃ w ∈ along id W, owed ((s.granted id m).acknowledged (some id) .retry m) W =
      {w.2} + owed s W := by
  rcases h with h | ⟨slot, n, t, hW, ht, -, hw⟩
  · exact absurd (hsender.symm.trans h.eq.2.2) (by simp)
  · obtain rfl := Option.some_inj.mp ht
    have hmem : (slot, n) ∈ along id W := by simp [hW]
    obtain ⟨hmemW, hn⟩ := Multiset.mem_filter.mp hmem
    obtain ⟨W', rfl⟩ := Multiset.exists_cons_of_mem hmemW
    have hn : n.tracking = some id := hn
    rw [along_pos hn] at hW
    have hW' : along id W' = 0 := ((Multiset.singleton_eq_cons_iff _).mp hW.symm).2
    have hbefore : s.owes (slot, n) = false := by
      rw [owes_of_tracking hn, hk, owing, Option.any_some, Tracker.receive_fst, if_pos hw]
      rfl
    have hentry : ((s.granted id m).acknowledged (some id) .retry m).trackers.lookup? id =
        some ⟨t.claimRetry.2.complete .retry, true⟩ := by
      rw [Site.trackers_acknowledged, Option.elim_some, TrackerTable.lookup?_update, if_pos rfl,
        Site.trackers_granted, TrackerTable.lookup?_update, if_pos rfl, hk]
      rfl
    have hafter : ((s.granted id m).acknowledged (some id) .retry m).owes (slot, n) = true :=
      owes_iff.mpr ⟨id, _, hn, hentry, Tracker.receive_complete _ _ (by simpa using hw)⟩
    have ho : owed ((s.granted id m).acknowledged (some id) .retry m) W' = owed s W' :=
      calc owed ((s.granted id m).acknowledged (some id) .retry m) W'
          = owed (s.granted id m) W' :=
            owed_of_nobody (f := (·.complete .retry)) (Site.trackers_acknowledged ..) hW'
        _ = owed s W' := owed_of_nobody (f := (·.claimRetry.2)) rfl hW'
    refine ⟨(slot, n), hmem, ?_⟩
    rw [owed_cons, owed_cons, hbefore, hafter, ho]
    simp

end Owed

/-- A receipt of an outcome is from an entry. -/
theorem entry_of_receipt {s : World β κ α} {id : TrackingId} {slot : Nat} {o : Outcome}
    (hr : s.receipt id slot = .outcome o) :
    ∃ k, s.trackers.lookup? id = some k ∧ (k.tracker.receive slot).1 = .outcome o := by
  cases hk : s.trackers.lookup? id with
  | none =>
    have ht := s.trackers.tracker?_eq id
    rw [hk] at ht
    rw [Site.receipt, show s.producer.trackers.tracker? id = _ from ht] at hr
    simp at hr
  | some k => exact ⟨k, rfl, receipt_eq hk slot ▸ hr⟩

end Outbox
