import Outbox.Proofs.Budget
import Outbox.Proofs.Lifetime

/-! Who minds a tracker. As long as a live tracker is a waiting caller's, there is such a caller: it
    is with the message, or it waits for an outcome that is still to come, or for a retry it has not
    found yet. This is true whatever ids the messages have that are handed in; one of several
    messages with one id may take the outcome from another, but then it is the one whose caller is
    still there. Main statements: when nobody waits no live tracker is a waiting caller's, and as
    long as tracking is off nobody has a retry. -/

namespace Outbox

namespace Place

/-- An outcome is still to come, and the tracker is told of it. -/
def isComing : Place → Bool
  | flying | reported (some _) _ | heard (some _) _ => true
  | _ => false

/-- The message has its outcome, and the tracker is still to be told. -/
def isOver : Place → Bool
  | lost (some _) _ | settled (some _) _ => true
  | _ => false

/-- A caller is with the message, and will find out if the tracker has the outcome already. -/
def minds (k : Tracker) : Place → Prop
  | engaged => True
  | ready (some slot) | refused (some slot) _ | pleaded (some slot) _ =>
    k.waits slot = true ∨ (k.receive slot).1 = .outcome .retry
  | _ => False

theorem Tells.minds {p p' : Place} {kind : HookKind} {f : Option BrokerError} {k : Tracker}
    (h : p.Tells kind f p') : p'.minds k = p.minds k := by
  cases h with
  | sendFailed w e => cases w <;> rfl
  | _ => rfl

theorem Tells.isComing {p p' : Place} {kind : HookKind} {f : Option BrokerError}
    (h : p.Tells kind f p') : p'.isComing = p.isComing := by
  cases h with
  | delivered k | deliveryFailed k _ | deliveryAbandoned k _ => cases k <;> rfl
  | _ => rfl

theorem Tells.isOver {p p' : Place} {kind : HookKind} {f : Option BrokerError}
    (h : p.Tells kind f p') : p'.isOver = p.isOver := by
  cases h with
  | delivered k | deliveryFailed k _ | deliveryAbandoned k _ => cases k <;> rfl
  | _ => rfl

end Place

/-- An outcome is still to come. -/
def Coming (P : Multiset (Place × Message)) : Prop := ∃ h ∈ P, h.1.isComing = true

/-- Somebody minds the tracker; an outcome is still to come if `C`. -/
def Minded (k : Tracker) (P : Multiset (Place × Message)) (W : Multiset (Nat × Message))
    (C : Prop) : Prop :=
  (∃ h ∈ P, h.1.minds k) ∨
    ∃ w ∈ W, (k.receive w.1).1 = .outcome .retry ∨ k.waits w.1 = true ∧ C

section

variable {k k' : Tracker} {P P' : Multiset (Place × Message)} {W : Multiset (Nat × Message)}
  {C C' : Prop} {p p' : Place} {m m' : Message} {slot : Nat}

@[simp] theorem coming_cons : Coming ((p, m) ::ₘ P) ↔ p.isComing = true ∨ Coming P := by
  simp [Coming]

@[simp] theorem minded_spot : Minded k ((p, m) ::ₘ P) W C ↔ p.minds k ∨ Minded k P W C := by
  simp [Minded, or_assoc]

@[simp] theorem minded_wait : Minded k P ((slot, m) ::ₘ W) C ↔
    ((k.receive slot).1 = .outcome .retry ∨ k.waits slot = true ∧ C) ∨ Minded k P W C := by
  simp [Minded, or_left_comm]

/-- Who minds a tracker still does when something was done to it. -/
theorem Minded.map (h : Minded k P W C)
    (hretry : ∀ i, (k.receive i).1 = .outcome .retry → (k'.receive i).1 = .outcome .retry)
    (hwaits : ∀ i, k.waits i = true →
      (k'.receive i).1 = .outcome .retry ∨ k'.waits i = true ∧ (C → C')) :
    Minded k' P W C' := by
  have hslot : ∀ i, k.waits i = true ∨ (k.receive i).1 = .outcome .retry →
      k'.waits i = true ∨ (k'.receive i).1 = .outcome .retry := by
    rintro i (hi | hi)
    · exact (hwaits i hi).symm.imp_left And.left
    · exact .inr (hretry i hi)
  have hminds : ∀ q : Place, q.minds k → q.minds k' := by
    intro q hq
    match q, hq with
    | .engaged, _ => trivial
    | .ready (some i), hq | .refused (some i) _, hq | .pleaded (some i) _, hq => exact hslot i hq
  rcases h with ⟨x, hx, hq⟩ | ⟨w, hw, hr | ⟨hi, hC⟩⟩
  · exact .inl ⟨x, hx, hminds _ hq⟩
  · exact .inr ⟨w, hw, .inl (hretry _ hr)⟩
  · exact .inr ⟨w, hw, (hwaits _ hi).imp_right fun h => ⟨h.1, h.2 hC⟩⟩

theorem Minded.mono (h : Minded k P W C) (hC : C → C') : Minded k P W C' :=
  h.map (fun _ => id) fun _ hi => .inr ⟨hi, hC⟩

end

/-- If the entry is live and a waiting caller's, somebody minds it, and no message is over. -/
structure Thread.Attended (v : Thread) : Prop where
  minded : ∀ k, v.entry = some ⟨k, true⟩ → k.sender = .sync →
    Minded k v.spots v.waits (Coming v.spots)
  dead : ∀ h ∈ v.spots, h.1.isOver = true → ∀ k, v.entry ≠ some ⟨k, true⟩

namespace Thread.Attended

variable {P P' : Multiset (Place × Message)} {W W' : Multiset (Nat × Message)} {e : Option Issued}
  {p p' : Place} {m m' : Message} {k : Tracker} {live : Bool}

/-- Nobody has to mind an entry that is not live. -/
theorem of_dead (h : ∀ k, e ≠ some ⟨k, true⟩) : Attended ⟨P, W, e⟩ :=
  ⟨fun k hk => absurd hk (h k), fun _ _ _ => h⟩

theorem of_ended (e : Option Issued) : Attended ⟨P, W, e.map (·.ended)⟩ :=
  .of_dead fun k hk => by cases e <;> simp [Issued.ended] at hk

/-- Nobody has to mind an entry that is no caller's. -/
theorem of_async {k' : Tracker} (h : Attended ⟨P, W, some ⟨k, live⟩⟩) (hs : k'.sender = .async)
    (hP : ∀ x ∈ P', x.1.isOver = true → x ∈ P) : Attended ⟨P', W', some ⟨k', live⟩⟩ := by
  refine ⟨fun t ht hsync => ?_, fun x hx hover t ht => ?_⟩
  · obtain ⟨rfl, -⟩ := Issued.mk.inj (Option.some_inj.mp ht)
    exact absurd (hs.symm.trans hsync) (by simp)
  · obtain ⟨-, rfl⟩ := Issued.mk.inj (Option.some_inj.mp ht)
    exact h.dead x (hP x hx hover) hover k rfl

/-- Somebody is with the message. -/
theorem of_minds {k' : Tracker} (h : Attended ⟨P', W', some ⟨k, live⟩⟩) (hp : p.minds k')
    (hp' : p.isOver = false) (hP : ∀ x ∈ P, x.1.isOver = true → x ∈ P') :
    Attended ⟨(p, m) ::ₘ P, W, some ⟨k', live⟩⟩ := by
  refine ⟨fun t ht _ => ?_, fun x hx hover t ht => ?_⟩
  · obtain ⟨rfl, -⟩ := Issued.mk.inj (Option.some_inj.mp ht)
    exact minded_spot.mpr (.inl hp)
  · obtain ⟨-, rfl⟩ := Issued.mk.inj (Option.some_inj.mp ht)
    rcases Multiset.mem_cons.mp hx with rfl | hx
    · simp [hp'] at hover
    · exact h.dead x (hP x hx hover) hover k rfl

/-- A message comes from one place to another. -/
theorem hand (h : Attended ⟨(p, m) ::ₘ P, W, e⟩) (hminds : ∀ k, p.minds k → p'.minds k)
    (hcoming : p.isComing = true → p'.isComing = true)
    (hover : p'.isOver = true → p.isOver = true) : Attended ⟨(p', m') ::ₘ P, W, e⟩ := by
  refine ⟨fun k hk hs => ?_, fun x hx ho => ?_⟩
  · have h := h.minded k hk hs
    simp only [minded_spot, coming_cons] at h ⊢
    exact h.imp (hminds k) fun h => h.mono (Or.imp_left hcoming)
  · rcases Multiset.mem_cons.mp hx with rfl | hx
    · exact h.dead (p, m) (Multiset.mem_cons_self ..) (hover ho)
    · exact h.dead x (Multiset.mem_cons_of_mem hx) ho

/-- A message is nowhere any more that nobody was with. -/
theorem gone (h : Attended ⟨(p, m) ::ₘ P, W, e⟩) (hminds : ∀ k, ¬ p.minds k)
    (hcoming : p.isComing = false) : Attended ⟨P, W, e⟩ := by
  refine ⟨fun k hk hs => ?_, fun x hx => h.dead x (Multiset.mem_cons_of_mem hx)⟩
  simpa [hminds, hcoming] using h.minded k hk hs

/-- A message is taken, and its caller waits. -/
theorem accept {w : Option Nat} (h : Attended ⟨(.ready w, m) ::ₘ P, W, e⟩) :
    Attended ⟨(.flying, m) ::ₘ P, w.elim W fun slot => (slot, m) ::ₘ W, e⟩ := by
  refine ⟨fun k hk hs => ?_, fun x hx ho => ?_⟩
  · have h := h.minded k hk hs
    simp only [minded_spot, coming_cons, Place.isComing, Bool.false_eq_true, false_or, true_or,
      Place.minds] at h ⊢
    cases w with
    | none => exact (h.resolve_left id).mono fun _ => trivial
    | some slot =>
      refine minded_wait.mpr (h.imp (fun h => h.symm.imp_right fun hw => ⟨hw, trivial⟩) fun h => ?_)
      exact h.mono fun _ => trivial
  · rcases Multiset.mem_cons.mp hx with rfl | hx
    · simp [Place.isOver] at ho
    · exact h.dead x (Multiset.mem_cons_of_mem hx) ho

/-- The tracker was changed, and nobody who waits loses anything by it. -/
theorem map {k' : Tracker} (h : Attended ⟨P, W, some ⟨k, live⟩⟩) (hs : k'.sender = k.sender)
    (hretry : ∀ i, (k.receive i).1 = .outcome .retry → (k'.receive i).1 = .outcome .retry)
    (hwaits : ∀ i, k.waits i = true → k'.waits i = true) :
    Attended ⟨P, W, some ⟨k', live⟩⟩ := by
  refine ⟨fun t ht hs' => ?_, fun x hx ho t ht => ?_⟩
  · obtain ⟨rfl, rfl⟩ := Issued.mk.inj (Option.some_inj.mp ht)
    exact (h.minded k rfl (hs.symm.trans hs')).map hretry fun i hi => .inr ⟨hwaits i hi, id⟩
  · obtain ⟨-, rfl⟩ := Issued.mk.inj (Option.some_inj.mp ht)
    exact h.dead x hx ho k rfl

/-- Who learns that there is no retry need not mind the tracker if nothing is still to come. -/
theorem learn {slot : Nat} (h : Attended ⟨P, (slot, m) ::ₘ W, some ⟨k, live⟩⟩)
    (hr : (k.receive slot).1 ≠ .outcome .retry) (hP : ∀ x ∈ P, x.1.isPending = false) :
    Attended ⟨P, W, some ⟨(k.receive slot).2, live⟩⟩ := by
  have hnone : ¬ Coming P := by
    rintro ⟨⟨q, n⟩, hx, hq⟩
    have hpending := hP _ hx
    match q, hq with
    | .flying, _ | .reported (some _) _, _ | .heard (some _) _, _ =>
      simp [Place.isPending] at hpending
  refine ⟨fun t ht hs => ?_, fun x hx ho t ht => ?_⟩
  · obtain ⟨rfl, rfl⟩ := Issued.mk.inj (Option.some_inj.mp ht)
    have h := h.minded k rfl ((Tracker.sender_receive ..).symm.trans hs)
    have h : Minded k P W (Coming P) := by simpa [hr, hnone] using h
    exact h.map (fun i => (Tracker.receive_receive k i hr).mpr)
      fun i hi => .inr ⟨(Tracker.waits_receive ..).trans hi, id⟩
  · obtain ⟨-, rfl⟩ := Issued.mk.inj (Option.some_inj.mp ht)
    exact h.dead x hx ho k rfl

/-- A failed delivery is left to who waits. -/
theorem leave {X : TrackingId} {cause : BrokerError}
    (h : Attended ⟨(.heard (some X) (some cause), m) ::ₘ P, W, some ⟨k, live⟩⟩) :
    Attended ⟨P, W, some ⟨k.claimRetry.2.complete .retry, live⟩⟩ := by
  refine ⟨fun t ht hs => ?_, fun x hx ho t ht => ?_⟩
  · obtain ⟨rfl, rfl⟩ := Issued.mk.inj (Option.some_inj.mp ht)
    have h := h.minded k rfl (by simpa using hs)
    have h : Minded k P W True := by
      simp only [minded_spot, coming_cons, Place.minds, false_or] at h
      exact h.mono fun _ => trivial
    exact h.map (fun i hi => Tracker.receive_complete_retry _ (by simpa using hi))
      fun i hi => .inl (Tracker.receive_complete _ _ (by simpa using hi))
  · obtain ⟨-, rfl⟩ := Issued.mk.inj (Option.some_inj.mp ht)
    exact h.dead x (Multiset.mem_cons_of_mem hx) ho k rfl

end Thread.Attended

/-- A thread whose id was given out is attended after its turn. -/
theorem Thread.Attended.turn {X : TrackingId} {law : Law} {mute : Prop}
    {like : Message → Message → Prop} {v v' : Thread} {b : Option Beat}
    (h : Turn X law mute like v b v') (he : v.entry ≠ none) (hv : v.Attended) : v'.Attended := by
  cases h with
  | rest => exact hv
  | birth | birthEngaged => exact absurd rfl he
  | submit => exact ⟨by simpa [Place.minds, Place.isComing] using hv.minded,
      by simpa [Place.isOver] using hv.dead⟩
  | shed | part => exact hv.gone (fun _ => id) rfl
  | engage => exact of_minds hv trivial rfl fun x hx _ => Multiset.mem_cons_of_mem hx
  | store | take =>
    exact hv.hand (fun _ => False.elim) (by simp [Place.isComing]) (by simp [Place.isOver])
  | discard | forsake | deliver | lose => exact .of_ended _
  | accept => exact hv.accept
  | @refuse P W e w m cause =>
    refine hv.hand (fun k => ?_) (by simp [Place.isComing]) (by simp [Place.isOver])
    cases w <;> exact id
  | tell hp | hush hp _ =>
    exact hv.hand (fun k => hp.minds.symm ▸ id) (hp.isComing ▸ id) (hp.isOver ▸ id)
  | requeue =>
    refine .map (k := _) (hv.hand (fun _ => False.elim) ?_ ?_) ?_ ?_ ?_
    all_goals simp [Place.isComing, Place.isOver]
  | retake => exact of_minds hv trivial rfl fun x hx _ => Multiset.mem_cons_of_mem hx
  | @report P W e n m f hn =>
    by_cases hlive : e.any (·.live) = true
    · rw [if_pos hlive]
      exact hv.hand (fun _ => False.elim) (fun _ => rfl) (by simp [Place.isOver])
    · exact .of_dead fun k hk => hlive (by simp [show e = _ from hk])
  | @acknowledge P W e k f m =>
    cases k with
    | none => exact hv.gone (fun _ => id) rfl
    | some id =>
      have hdead := hv.dead _ (Multiset.mem_cons_self ..) rfl
      refine .of_dead fun k hk => ?_
      obtain ⟨⟨k', live⟩, he, hk⟩ := Option.map_eq_some_iff.mp hk
      obtain ⟨-, rfl⟩ := Issued.mk.inj hk
      exact hdead k' he
  | regain hk hs =>
    refine of_async hv (by simpa using hs) fun x hx ho => ?_
    rcases Multiset.mem_cons.mp hx with rfl | hx
    · simp [Place.isOver] at ho
    · exact Multiset.mem_cons_of_mem hx
  | leave hk hs => exact hv.leave
  | arm =>
    exact of_minds hv (.inl (Tracker.waits_arm _)) rfl fun x hx _ => Multiset.mem_cons_of_mem hx
  | retry hr => exact of_minds hv trivial rfl fun x hx _ => hx
  | learn hr hP => exact hv.learn hr hP
  | @giveUp P W e slot m hf =>
    cases e with
    | none => exact absurd rfl he
    | some k => exact of_async hv rfl fun x hx _ => hx

/-! ### Ids that were not given out -/

namespace Place

/-- The tracker that is told of the report. -/
def tracker? : Place → Option TrackingId
  | reported k _ | heard k _ | lost k _ | settled k _ => k
  | _ => none

theorem Tells.tracker? {p p' : Place} {kind : HookKind} {f : Option BrokerError}
    (h : p.Tells kind f p') : p'.tracker? = p.tracker? := by
  cases h <;> rfl

theorem isOver_of_tracker? {p : Place} (h : p.tracker? = none) : p.isOver = false := by
  cases p with
  | lost k _ | settled k _ =>
    obtain rfl : k = none := h
    rfl
  | _ => rfl

end Place

variable {β κ α : Type} {c : Client β} {told : β → β → Prop} {b₀ : β} {law : Law}
  {S S' : Scene c κ α} {X : TrackingId}

/-- Of the messages that are in hand with the id none is reported to a tracker. -/
def Untold (X : TrackingId) (H : Multiset (Place × Message)) : Prop :=
  ∀ h ∈ H, h.2.tracking = some X → h.1.tracker? = none

section

variable {p p' : Place} {m : Message} {H : Multiset (Place × Message)}

theorem untold_cons :
    Untold X ((p, m) ::ₘ H) ↔ (m.tracking = some X → p.tracker? = none) ∧ Untold X H :=
  Multiset.forall_mem_cons

theorem Untold.hand (h : Untold X ((p, m) ::ₘ H)) (hp : p'.tracker? = p.tracker?) :
    Untold X ((p', m) ::ₘ H) := by
  rw [untold_cons, hp]
  exact untold_cons.mp h

end

/-- When an id is given out to a message whose caller is to wait, the caller is with it. -/
theorem Untold.attended {sender : Sender} {budget : Nat} (hH : Untold X S.hands)
    (he : S.world.trackers.lookup? X = some (.fresh sender budget))
    (hm : sender = .sync → ∃ m, m.tracking = some X ∧ (.engaged, m) ∈ S.hands) :
    (S.thread X).Attended := by
  refine ⟨fun k hk hs => ?_, fun x hx ho => ?_⟩
  · obtain ⟨rfl, -⟩ := Issued.mk.inj (Option.some_inj.mp (he.symm.trans hk))
    obtain ⟨m, htracking, hm⟩ := hm hs
    refine .inl ⟨(.engaged, m), Multiset.mem_filter.mpr ⟨?_, htracking⟩, trivial⟩
    exact Multiset.mem_add.mpr (.inr hm)
  · obtain ⟨hx, htracking⟩ := Multiset.mem_filter.mp hx
    simp only [places, Multiset.mem_add, Multiset.mem_map] at hx
    rcases hx with (⟨m, -, rfl⟩ | ⟨m, -, rfl⟩) | hx
    · simp [Place.isOver] at ho
    · simp [Place.isOver] at ho
    · simp [Place.isOver_of_tracker? (hH x hx htracking)] at ho

/-- Of the ids that were not given out only that of the message is given out when a caller begins to
    wait for it. -/
theorem Site.lookup?_engage_of_none {s : World β κ α} (h : s.trackers.lookup? X = none)
    (m : Message) : (s.engage m).2.trackers.lookup? X = none ∨ (s.engage m).1.tracking = some X ∧
      ∃ budget, (s.engage m).2.trackers.lookup? X = some (.fresh .sync budget) := by
  simp only [engage, trackers_entrusted, trackers_attach]
  generalize (if s.producer.tracking then s.producer.settings.retryBudget else 0) = budget
  rcases TrackerTable.lookup?_attach_of_none h m .sync budget with hnone | ⟨hm, hsome⟩
  · exact .inl (TrackerTable.lookup?_update_of_none hnone _ _)
  · refine .inr ⟨hm, budget, ?_⟩
    rw [TrackerTable.lookup?_update, hsome]
    split <;> rfl

/-- Until the id is given out no report is told to its tracker, and then it is attended. -/
theorem Move.attended_of_unissued (h : Move c told law S S')
    (he : S.world.trackers.lookup? X = none) (hH : Untold X S.hands) :
    S'.world.trackers.lookup? X = none ∧ Untold X S'.hands ∨
      S'.world.trackers.lookup? X ≠ none ∧ (S'.thread X).Attended := by
  cases h with
  | @attach T H W M s m ht =>
    have hH (m' : Message) : Untold X ((.ready none, m') ::ₘ H) :=
      untold_cons.mpr ⟨fun _ => rfl, (untold_cons.mp hH).2⟩
    rcases TrackerTable.lookup?_attach_of_none he m .async s.producer.settings.retryBudget with
      hnone | ⟨-, hsome⟩
    · exact .inl ⟨hnone, hH _⟩
    · exact .inr ⟨fun hnone => Option.some_ne_none _ (hsome.symm.trans hnone),
        (hH _).attended hsome (by simp)⟩
  | @engage T H W M s m hn =>
    have hH : Untold X ((.engaged, (s.engage m).1) ::ₘ H) :=
      untold_cons.mpr ⟨fun _ => rfl, (untold_cons.mp hH).2⟩
    rcases Site.lookup?_engage_of_none he m with hnone | ⟨hm, budget, hsome⟩
    · exact .inl ⟨hnone, hH⟩
    · exact .inr ⟨fun hnone => Option.some_ne_none _ (hsome.symm.trans hnone),
        hH.attended hsome fun _ => ⟨_, hm, Multiset.mem_cons_self ..⟩⟩
  | @report T H W M s task next r b clock hs =>
    refine .inl ⟨he, untold_cons.mpr ⟨fun hm => ?_, hH⟩⟩
    have hf : s.producer.trackers.find? r.message = _ := s.trackers.find?_of_tracking hm
    dsimp only at he
    rw [hf, he]
    rfl
  | outside hp _ _ =>
    refine .inl ⟨?_, hH⟩
    simpa [Site.trackers, hp] using he
  | adjust hf =>
    refine .inl ⟨?_, hH⟩
    simpa [Site.trackers, hf.trackers] using he
  | @acknowledge T H W M s k f m hk =>
    refine .inl ⟨?_, (untold_cons.mp hH).2⟩
    cases k with
    | none => exact he
    | some id => simpa using TrackerTable.lookup?_update_of_none he id _
  | aside _ | arrange _ _ _ | begin _ _ | more _ | finish _ => exact .inl ⟨he, hH⟩
  | learn _ _ _ | giveUp _ _ | vain _ =>
    exact .inl ⟨by simpa using TrackerTable.lookup?_update_of_none he _ _, hH⟩
  | submit | take => exact .inl ⟨he, untold_cons.mpr ⟨fun _ => rfl, hH⟩⟩
  | retry =>
    exact .inl ⟨by simpa using TrackerTable.lookup?_update_of_none he _ _,
      untold_cons.mpr ⟨fun _ => rfl, hH⟩⟩
  | store | accept | part => exact .inl ⟨he, (untold_cons.mp hH).2⟩
  | discard => exact .inl ⟨TrackerTable.lookup?_release_of_none he _, (untold_cons.mp hH).2⟩
  | @leave T H W M s id e m _ _ | @regain T H W M s id e m _ _ _ _ _ =>
    have he := TrackerTable.lookup?_update_of_none he id (·.claimRetry.2)
    exact .inl ⟨by simpa using TrackerTable.lookup?_update_of_none he id (·.complete .retry),
      (untold_cons.mp hH).2⟩
  | tell hp | hush hp _ => exact .inl ⟨he, hH.hand hp.tracker?⟩
  | full _ _ | refuse _ _ => exact .inl ⟨he, hH.hand rfl⟩
  | requeue _ _ | retake _ _ | arm _ =>
    exact .inl ⟨by simpa using TrackerTable.lookup?_update_of_none he _ _, hH.hand rfl⟩
  | forsake | deliver | lose =>
    exact .inl ⟨TrackerTable.lookup?_release_of_none he _, hH.hand rfl⟩

/-- Either the id was not given out, or it is attended, and so it is after each move. -/
theorem Move.attended (hc : c.Honest told b₀) (h : Move c told law S S') (hS : S.Balanced told b₀)
    (hs : S.world.trackers.lookup? X = none ∧ Untold X S.hands ∨
      S.world.trackers.lookup? X ≠ none ∧ (S.thread X).Attended) :
    S'.world.trackers.lookup? X = none ∧ Untold X S'.hands ∨
      S'.world.trackers.lookup? X ≠ none ∧ (S'.thread X).Attended := by
  rcases hs with ⟨he, hH⟩ | ⟨he, hattended⟩
  · exact h.attended_of_unissued he hH
  · obtain ⟨b, ht, -⟩ := h.turns hc Client.keeps_trivial hS fun h => absurd h he
    exact .inr ⟨ht.entry_ne_none he, hattended.turn ht he⟩

/-! ### At rest -/

/-- No live tracker is a waiting caller's: a failed delivery is left to a later flush. -/
def TrackerTable.Unattended (t : TrackerTable) : Prop :=
  ∀ X k, t.lookup? X = some ⟨k, true⟩ → k.sender = .async

namespace TrackerTable.Unattended

variable {t : TrackerTable}

theorem release (h : t.Unattended) (m : Message) : (t.release m).Unattended := by
  intro X k hk
  rcases entry_of_release hk with he | ⟨k', -, hk'⟩
  · exact h X k he
  · simp [Issued.ended] at hk'

theorem update (h : t.Unattended) {f : Tracker → Tracker} (hf : ∀ k, (f k).sender = k.sender)
    (id : TrackingId) : (t.update id f).Unattended := by
  intro X k hk
  rcases entry_of_update hk with he | ⟨⟨k', live⟩, he, hk'⟩
  · exact h X k he
  · obtain ⟨rfl, rfl⟩ := Issued.mk.inj hk'
    exact (hf k').trans (h X k' he)

end TrackerTable.Unattended

/-- Where nothing is in hand and nobody waits, no tracker is a waiting caller's. -/
theorem Thread.Attended.async {T : List c.Task} {M : Multiset Message} {s : World β κ α}
    {k : Tracker} (h : ((⟨T, 0, 0, M, s⟩ : Scene c κ α).thread X).Attended)
    (hk : s.trackers.lookup? X = some ⟨k, true⟩) : k.sender = .async := by
  cases hs : k.sender with
  | async => rfl
  | sync =>
    rcases h.minded k hk hs with ⟨x, hx, hminds⟩ | ⟨w, hw, -⟩
    · have hx := Multiset.mem_of_mem_filter hx
      simp only [places, Multiset.mem_add, Multiset.mem_map, Multiset.notMem_zero, or_false] at hx
      rcases hx with ⟨m, -, rfl⟩ | ⟨m, -, rfl⟩ <;> exact hminds.elim
    · exact absurd (Multiset.mem_of_mem_filter hw) (Multiset.notMem_zero w)

/-! ### Without tracking -/

/-- As long as tracking is off no tracker has a retry. -/
theorem Move.spent (h : Move c told law S S')
    (hS : S.world.producer.tracking = false → S.world.trackers.Spent)
    (ht : S'.world.producer.tracking = false) : S'.world.trackers.Spent := by
  cases h with
  | outside hp _ _ =>
    rw [Site.trackers, hp]
    exact hS (hp ▸ ht)
  | @adjust T H W M s f hf =>
    have hoff : s.producer.tracking = false := by
      by_contra hon
      exact Bool.false_ne_true (ht.symm.trans (hf.tracking _ (Bool.not_eq_false _ ▸ hon)))
    rw [Site.trackers, Site.producer_amended, hf.trackers]
    exact hS hoff
  | @attach T H W M s m hon => exact absurd (hon.symm.trans ht) (by simp)
  | @engage T H W M s m hn =>
    have hoff : s.producer.tracking = false := ht
    have hspent := (hS hoff).attach m .sync
    simp only [Site.engage, hoff, Bool.false_eq_true, if_false, Site.trackers_entrusted]
    exact hspent.update (f := (·.setSender .sync)) (fun _ => le_refl _) _
  | aside _ | arrange _ _ _ | begin _ _ | more _ | finish _ | submit | take | store | accept
  | full | refuse | tell | hush | part | report => exact hS ht
  | discard | forsake | deliver | lose => exact (hS ht).release _
  | @vain T H W M s id _ | @requeue T H W M s e m id sender _ _
  | @retake T H W M s slot e m id sender _ _ => exact (hS ht).claim id
  | @acknowledge T H W M s k f m hk =>
    cases k with
    | none => exact hS ht
    | some id => exact (hS ht).complete id _
  | @leave T H W M s id e m _ _ | @regain T H W M s id e m _ _ _ _ _ =>
    exact ((hS ht).claim id).complete id .retry
  | @arm T H W M s m id _ => exact (hS ht).update (f := (·.arm.2)) (fun _ => le_refl _) id
  | @retry T H W M s slot m id _ _ | @learn T H W M s slot m id _ _ _ =>
    exact (hS ht).update (fun k => (k.remaining_receive slot).le) id
  | @giveUp T H W M s slot m id _ _ =>
    exact (hS ht).update (f := (·.setSender .async)) (fun _ => le_refl _) id

/-! ### In a run -/

namespace Application

variable {ο : Type} {app : Application β κ α ο} {b : β} {clock : Clock} {settings : Settings}
  {scope limit depth : Nat} {a : α} {deeds : List (Deed κ α ο)} {s : World β κ α}

/-- Whatever an application does, at each return to it no live tracker is a waiting caller's. -/
theorem unattended_of_run (hc : app.client.Honest app.Told b)
    (h : app.run limit depth deeds (.opening b clock settings scope a) = some ((), s)) :
    s.trackers.Unattended := by
  intro X k hk
  obtain ⟨M, -, hattended⟩ := holds_of_run
    (P := fun S => S.Balanced app.Told b ∧ (S.world.trackers.lookup? X = none ∧ Untold X S.hands ∨
      S.world.trackers.lookup? X ≠ none ∧ (S.thread X).Attended))
    (fun h hS => ⟨hS.1.move hc h, h.attended hc hS.1 hS.2⟩)
    ⟨.opening .., .inl ⟨Site.lookup?_opening, by simp [Untold]⟩⟩ h
  rcases hattended with ⟨he, -⟩ | ⟨-, hattended⟩
  · exact absurd (hk.symm.trans he) (by simp)
  · exact hattended.async hk

/-- Whatever an application does, as long as tracking is off no message has a retry. -/
theorem spent_of_run
    (h : app.run limit depth deeds (.opening b clock settings scope a) = some ((), s))
    (ht : s.producer.tracking = false) : s.trackers.Spent := by
  obtain ⟨M, hspent⟩ := holds_of_run
    (P := fun S => S.world.producer.tracking = false → S.world.trackers.Spent)
    (fun h hS => h.spent hS)
    (fun _ X k hk => absurd (hk.symm.trans Site.lookup?_opening) (by simp)) h
  exact hspent ht

end Application

end Outbox
