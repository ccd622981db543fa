import Outbox.Proofs.Custody

/-! What the journal says of the counts. The counters of outcomes count the conclusions in the
    journal, what the broker has yet to report is what it accepted less what was dealt with, and for
    every message that is dropped the hook is called that is registered for it. Each of these is
    true of every sequence of moves, whatever the ids of the messages are. -/

namespace Outbox

namespace Fate

def isDelivered : Fate → Bool
  | delivered => true
  | _ => false

def isDropped : Fate → Bool
  | dropped _ => true
  | _ => false

def isCleared : Fate → Bool
  | cleared => true
  | _ => false

end Fate

/-- A message that is gone was delivered, dropped or cleared. -/
theorem departed_eq (J : List Entry) : departed (fun _ => true) J =
    departed Fate.isDelivered J + departed Fate.isDropped J + departed Fate.isCleared J := by
  induction J with
  | nil => rfl
  | cons e J ih =>
    simp only [departed_cons, ih]
    rcases e with ⟨scope, reading, event⟩
    cases event with
    | concluded m fate =>
      cases fate <;> simp [Event.leaving, Fate.isDelivered, Fate.isDropped, Fate.isCleared]
    | _ => simp [Event.leaving]

namespace Event

/-- The message that the broker accepted. -/
def accepting : Event → Option Message
  | offered m (.ok ()) => some m
  | _ => none

/-- The message whose report was dealt with. -/
def settling : Event → Option Message
  | acknowledged m => some m
  | _ => none

/-- The message that was dropped, and why. -/
def dropping : Event → Option (Message × BrokerError)
  | concluded m (.dropped e) => some (m, e)
  | _ => none

/-- The message that a hook was told is dropped, and why. -/
def lamenting : Event → Option (Message × BrokerError)
  | hookCalled .deliveryAbandoned m (some e) | hookCalled .sendAbandoned m (some e) => some (m, e)
  | _ => none

section

variable {e : Event} (h : e.isAside = true)

include h

theorem accepting_of_isAside : e.accepting = none := by
  cases e <;> simp_all [isAside, accepting]

theorem settling_of_isAside : e.settling = none := by
  cases e <;> simp_all [isAside, settling]

theorem dropping_of_isAside : e.dropping = none := by
  cases e <;> simp_all [isAside, dropping]

theorem lamenting_of_isAside : e.lamenting = none := by
  cases e with
  | hookCalled kind m f => cases kind <;> simp_all [isAside, lamenting]
  | _ => rfl

end

end Event

variable {β κ α ι : Type} {c : Client β} {told : β → β → Prop} {b₀ : β} {law : Law}
  {S S' : Scene c κ α} {φ : Message → ι}

/-! ### Outcomes -/

/-- The counters of outcomes count what the journal tells. -/
structure Site.Counted (s : World β κ α) : Prop where
  produced : s.producer.counters.produced = (departed Fate.isDelivered s.journal).card
  dropped : s.producer.counters.dropped = (departed Fate.isDropped s.journal).card

theorem Move.counted (h : Move c told law S S') (hs : S.world.Counted) : S'.world.Counted := by
  obtain ⟨hp, hd⟩ := hs
  cases h with
  | outside hprod hj _ => exact ⟨by rwa [hprod, hj], by rwa [hprod, hj]⟩
  | aside he =>
    refine ⟨?_, ?_⟩
    · simpa [Event.leaving_of_isAside he] using hp
    · simpa [Event.leaving_of_isAside he] using hd
  | adjust hf =>
    refine ⟨?_, ?_⟩ <;> rw [Site.producer_amended, hf.counters]
    · exact hp
    · exact hd
  | deliver =>
    refine ⟨?_, ?_⟩ <;>
      simp_all [Site.delivered, Counters.mark, Event.leaving, Fate.isDelivered, Fate.isDropped,
        add_comm]
  | forsake | lose =>
    refine ⟨?_, ?_⟩ <;>
      simp_all [Site.dropped, Counters.mark, Event.leaving, Fate.isDelivered, Fate.isDropped,
        add_comm]
  | discard =>
    refine ⟨?_, ?_⟩ <;>
      simp_all [Site.discarded, Event.leaving, Fate.isDelivered, Fate.isDropped]
  | submit _ | tell _ => refine ⟨?_, ?_⟩ <;> simp_all [Event.leaving]
  | accept _ | full _ _ | refuse _ _ =>
    refine ⟨?_, ?_⟩ <;> simp_all [Site.accepted, Site.refused, Counters.mark, Event.leaving]
  | requeue _ _ | retake _ _ =>
    refine ⟨?_, ?_⟩ <;> simp_all [Site.granted, Counters.mark, Event.leaving]
  | acknowledge _ | regain _ _ _ _ _ | leave _ _ =>
    refine ⟨?_, ?_⟩ <;>
      simp_all [Site.acknowledged, Site.granted, Site.rebuffered, Counters.mark, Event.leaving]
  | _ => exact ⟨hp, hd⟩

theorem Scene.counted_moves (h : Relation.ReflTransGen (Move c told law) S S')
    (hs : S.world.Counted) : S'.world.Counted := by
  induction h with
  | refl => exact hs
  | tail _ h ih => exact h.counted ih

/-! ### Reports -/

/-- As far as `φ` tells, what the broker accepted is at the broker, or its report is being dealt
    with or was. -/
def Scene.Reported (φ : Message → ι) (S : Scene c κ α) : Prop :=
  (S.flight + inHand Place.isPending S.hands + gather Event.settling S.world.journal).map φ =
    (gather Event.accepting S.world.journal).map φ

theorem Move.reported (hc : c.Honest told b₀) (hk : c.Keeps (fun n m => φ n = φ m) told b₀)
    (h : Move c told law S S') (hS : S.Balanced told b₀) (hs : S.Reported φ) : S'.Reported φ := by
  unfold Scene.Reported at hs ⊢
  cases h with
  | outside _ hj _ => simpa only [hj] using hs
  | aside he =>
    simpa [Event.settling_of_isAside he, Event.accepting_of_isAside he] using hs
  | submit _ | discard | attach _ | store _ _ _ | take _ _ _ | part | engage _ | arm _ | retry _ _
  | full _ _ | refuse _ _ | requeue _ _ | retake _ _ | forsake | deliver | lose =>
    simpa [inHand_cons, Place.isPending, Event.settling, Event.accepting] using hs
  | tell hp =>
    simp only [inHand_cons, hp.isPending_eq] at hs ⊢
    cases hp <;> simpa [Event.settling, Event.accepting] using hs
  | hush hp _ => simpa only [inHand_cons, hp.isPending_eq] using hs
  | @accept T H W M s w m b hsend =>
    simp only [inHand_cons, Place.isPending, Bool.false_eq_true, if_false, zero_add,
      Site.journal_accepted, gather_cons, Site.event_entry, Event.settling, Event.accepting,
      Option.elim_none, Option.elim_some, ← Multiset.singleton_add m M, Multiset.map_add] at hs ⊢
    rw [← hs]
    abel
  | @report T H W M s task next r b clock hstep =>
    have hm := hk hS.course hstep
    obtain ⟨hmem, -⟩ := meant_spec (hc hS.course hstep)
    generalize meant M r.message = n at hm hmem ⊢
    obtain ⟨M, rfl⟩ := Multiset.exists_cons_of_mem hmem
    dsimp only at hs ⊢
    rw [Site.journal_turned, ← hs, Multiset.erase_cons_head, ← Multiset.singleton_add n M]
    simp only [inHand_cons, Place.isPending, if_true, Multiset.map_add, Multiset.map_singleton, hm]
    abel
  | acknowledge _ | regain _ _ _ _ _ | leave _ _ =>
    simpa [inHand_cons, Place.isPending, Event.settling, Event.accepting, add_comm,
      add_left_comm, add_assoc] using hs
  | vain _ | adjust _ | arrange _ _ _ | begin _ _ | more _ | finish _ | learn _ _ _ | giveUp _ _ =>
    exact hs

theorem Scene.reported_moves (hc : c.Honest told b₀) (hk : c.Keeps (fun n m => φ n = φ m) told b₀)
    (h : Relation.ReflTransGen (Move c told law) S S') (hS : S.Balanced told b₀)
    (hs : S.Reported φ) : S'.Reported φ := by
  induction h with
  | refl => exact hs
  | tail hmoves h ih => exact h.reported hc hk (hS.moves hc hmoves) ih

/-! ### Drops -/

/-- Why the message at the place is dropped, while the hook has not been told. -/
def Place.untold : Place → Option BrokerError
  | forsaken e | lost _ e => some e
  | _ => none

/-- The messages in hand that were dropped, while the hook has not been told. -/
def unlamented (H : Multiset (Place × Message)) : Multiset (Message × BrokerError) :=
  H.filterMap fun h => h.1.untold.map (h.2, ·)

theorem unlamented_cons (p : Place) (m : Message) (H : Multiset (Place × Message)) :
    unlamented ((p, m) ::ₘ H) = (p.untold.elim 0 fun e => {(m, e)}) + unlamented H := by
  rw [unlamented, unlamented]
  cases hp : p.untold with
  | none => rw [Multiset.filterMap_cons_none _ _ (by simp [hp])]; exact (zero_add _).symm
  | some e => rw [Multiset.filterMap_cons_some _ _ _ (by rw [hp]; rfl)]; rfl

/-- The hooks are registered that are called for dropped messages. -/
def Site.Minded (s : World β κ α) : Prop :=
  (s.producer.hooks.find? .deliveryAbandoned).isSome = true ∧
    (s.producer.hooks.find? .sendAbandoned).isSome = true

/-- The messages of which a hook was told that they are dropped, or will be. -/
def Scene.laments (S : Scene c κ α) : Multiset (Message × BrokerError) :=
  gather Event.lamenting S.world.journal + unlamented S.hands

/-- Between the scenes, hooks are told of the messages that are dropped and of no others. -/
def Scene.Laments (S S' : Scene c κ α) : Prop :=
  Apace Scene.laments (fun S => gather Event.dropping S.world.journal) S S'

theorem Scene.Laments.step {T T' : List c.Task} {H H' : Multiset (Place × Message)}
    {W W' : Multiset (Nat × Message)} {M M' : Multiset Message} {s t : World β κ α}
    (new gone : Multiset (Message × BrokerError))
    (hl : gather Event.lamenting t.journal = gone + gather Event.lamenting s.journal)
    (hd : gather Event.dropping t.journal = new + gather Event.dropping s.journal)
    (h : gone + unlamented H' = new + unlamented H) :
    Scene.Laments (⟨T, H, W, M, s⟩ : Scene c κ α) ⟨T', H', W', M', t⟩ := by
  rw [Scene.Laments, Apace, Scene.laments, Scene.laments, hl, hd]
  calc gone + gather Event.lamenting s.journal + unlamented H' + gather Event.dropping s.journal
      = (gone + unlamented H') +
        (gather Event.lamenting s.journal + gather Event.dropping s.journal) := by abel
    _ = _ := by rw [h]; abel

theorem Move.laments (h : Move c told law S S') (hm : S.world.Minded) : S.Laments S' := by
  cases h with
  | outside _ hj _ => exact .step 0 0 (by rw [hj, zero_add]) (by rw [hj, zero_add]) rfl
  | aside he =>
    exact .step 0 0 (by simp [Event.lamenting_of_isAside he])
      (by simp [Event.dropping_of_isAside he]) rfl
  | @forsake T H W M s w e m =>
    refine .step {(m, e)} 0 (by simp [Event.lamenting]) (by simp [Event.dropping]) ?_
    simp [unlamented_cons, Place.untold]
  | @lose T H W M s k e m =>
    refine .step {(m, e)} 0 (by simp [Event.lamenting]) (by simp [Event.dropping]) ?_
    simp [unlamented_cons, Place.untold]
  | @tell T H W M s p p' m kind e hp =>
    refine .step 0 ((Event.hookCalled kind m e).lamenting.elim 0 ({·})) (by simp)
      (by simp [Event.dropping]) ?_
    cases hp <;> simp [unlamented_cons, Place.untold, Event.lamenting]
  | @hush T H W M s p p' m kind e hp hk =>
    refine .step 0 0 (zero_add _).symm (zero_add _).symm ?_
    cases hp with
    | deliveryAbandoned k e => exact absurd hm.1 (by simp [hk])
    | sendAbandoned e => exact absurd hm.2 (by simp [hk])
    | _ => simp [unlamented_cons, Place.untold]
  | _ =>
    refine .step 0 0 (by simp [Event.lamenting]) (by simp [Event.dropping]) ?_
    simp [unlamented_cons, Place.untold]

theorem Scene.laments_moves (h : Relation.ReflTransGen (Move c told law) S S')
    (hm : S.world.Minded) : S.Laments S' := by
  suffices S.Laments S' ∧ S'.world.Minded from this.1
  induction h with
  | refl => exact ⟨rfl, hm⟩
  | tail _ h ih => exact ⟨ih.1.trans (h.laments ih.2), h.hook ih.2.1, h.hook ih.2.2⟩

/-- When nothing is in hand the hooks were told of all that were dropped meanwhile. -/
theorem Scene.Laments.rest {T : List c.Task} {M M' : Multiset Message} {s t : World β κ α}
    (h : Scene.Laments (⟨T, 0, 0, M, s⟩ : Scene c κ α) ⟨T, 0, 0, M', t⟩) :
    gather Event.lamenting t.journal + gather Event.dropping s.journal =
      gather Event.dropping t.journal + gather Event.lamenting s.journal := by
  have h0 : unlamented 0 = 0 := rfl
  simp only [Scene.Laments, Apace, Scene.laments, h0, add_zero] at h
  rw [h, add_comm]

/-! ### Offers -/

namespace Event

/-- The message that was offered, if that offer was the last of the attempt. -/
def offering : Event → Option Message
  | offered m (.ok _) => some m
  | offered m (.error e) => if e.isQueueFull then none else some m
  | _ => none

/-- The message for which a retry was claimed. -/
def renewing : Event → Option Message
  | retried m => some m
  | _ => none

theorem offering_of_isAside {e : Event} (h : e.isAside = true) : e.offering = none := by
  cases e <;> simp_all [isAside, offering]

theorem renewing_of_isAside {e : Event} (h : e.isAside = true) : e.renewing = none := by
  cases e <;> simp_all [isAside, renewing]

end Event

/-- Every message that was offered, as often as it was, full queues apart, is at the broker or has an
    attempt behind it that is counted as nothing yet, or it was delivered or dropped after it or a
    retry was claimed. -/
def Scene.Answered (S : Scene c κ α) : Prop :=
  gather Event.offering S.world.journal = S.flight + inHand Place.isOpen S.hands +
    departed Fate.isDelivered S.world.journal + departed Fate.isDropped S.world.journal +
    gather Event.renewing S.world.journal

theorem Move.answered (hc : c.Exact told b₀) (h : Move c told law S S') (hS : S.Balanced told b₀)
    (hs : S.Answered) : S'.Answered := by
  unfold Scene.Answered at hs ⊢
  cases h with
  | outside _ hj _ => simpa only [hj] using hs
  | aside he =>
    simpa [Event.offering_of_isAside he, Event.renewing_of_isAside he,
      Event.leaving_of_isAside he] using hs
  | @tell T H W M s p p' m kind e hp =>
    simpa [inHand_cons, hp.isOpen_eq, Event.offering, Event.renewing, Event.leaving] using hs
  | hush hp _ => simpa only [inHand_cons, hp.isOpen_eq] using hs
  | @accept T H W M s w m b hsend =>
    simp only [inHand_cons, Place.isOpen, Bool.false_eq_true, if_false, zero_add,
      Site.journal_accepted, gather_cons, departed_cons, Site.event_entry, Event.offering,
      Event.renewing, Event.leaving, Option.elim_none, Option.elim_some,
      ← Multiset.singleton_add m M] at hs ⊢
    rw [hs]
    abel
  | @report T H W M s task next r b clock hstep =>
    have hmem := hc hS.course hstep
    obtain ⟨M, rfl⟩ := Multiset.exists_cons_of_mem hmem
    dsimp only at hs ⊢
    rw [Site.journal_turned, hs, meant_of_mem hmem, Multiset.erase_cons_head,
      ← Multiset.singleton_add r.message M]
    simp only [inHand_cons, Place.isOpen, if_true]
    abel
  | full hsend he =>
    simpa [inHand_cons, Place.isOpen, Event.offering, Event.renewing, Event.leaving, he] using hs
  | refuse hsend he =>
    simpa [inHand_cons, Place.isOpen, Event.offering, Event.renewing, Event.leaving, he,
      add_left_comm, add_assoc] using hs
  | vain _ | adjust _ | arrange _ _ _ | begin _ _ | more _ | finish _ | learn _ _ _ | giveUp _ _ =>
    exact hs
  | _ =>
    simpa [inHand_cons, Place.isOpen, Event.offering, Event.renewing, Event.leaving,
      Fate.isDelivered, Fate.isDropped, add_left_comm, add_assoc] using hs

theorem Scene.answered_moves (hc : c.Exact told b₀)
    (h : Relation.ReflTransGen (Move c told law) S S') (hS : S.Balanced told b₀)
    (hs : S.Answered) : S'.Answered := by
  induction h with
  | refl => exact hs
  | tail hmoves h ih => exact h.answered hc (hS.moves hc.honest hmoves) ih

/-! ### Retries -/

/-- Retries are counted as they are claimed. -/
def Site.Renewed (s : World β κ α) : Prop :=
  s.producer.counters.retries = (gather Event.renewing s.journal).card

theorem Move.renewed (h : Move c told law S S') (hs : S.world.Renewed) : S'.world.Renewed := by
  unfold Site.Renewed at hs ⊢
  cases h with
  | outside hprod hj _ => rwa [hprod, hj]
  | aside he => simpa [Event.renewing_of_isAside he] using hs
  | adjust hf =>
    rw [Site.producer_amended, hf.counters]
    exact hs
  | requeue _ _ | retake _ _ =>
    simp_all [Site.granted, Counters.mark, Event.renewing, add_comm]
  | regain _ _ _ _ _ | leave _ _ =>
    simp_all [Site.acknowledged, Site.granted, Site.rebuffered, Counters.mark, Event.renewing,
      add_comm]
  | acknowledge _ => simp_all [Site.acknowledged, Counters.mark, Event.renewing]
  | submit _ | tell _ => simp_all [Event.renewing]
  | discard | deliver | forsake | lose =>
    simp_all [Site.discarded, Site.delivered, Site.dropped, Counters.mark, Event.renewing]
  | accept _ | full _ _ | refuse _ _ =>
    simp_all [Site.accepted, Site.refused, Counters.mark, Event.renewing]
  | _ => exact hs

theorem Scene.renewed_moves (h : Relation.ReflTransGen (Move c told law) S S')
    (hs : S.world.Renewed) : S'.world.Renewed := by
  induction h with
  | refl => exact hs
  | tail _ h ih => exact h.renewed ih

end Outbox
