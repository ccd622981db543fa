import Outbox.Proofs.Custody
import Outbox.Proofs.Lifetime

/-! A message may come in again when it has left for good. Then its old tracker is dead and it is
    given a new one under the next id, like any message. A hook that is told of a dropped message
    may hand it in again at once, since the tracker is released before the hook is told; one that is
    told of a delivered message may not, since there the order is the other way round.

    Main statement: as long as nothing comes in again before it has left, every message that comes in
    while tracking is on has a live tracker of its own until it leaves, and unless a hook says no it
    is not dropped before it was sent again as often as it was granted. -/

namespace Outbox

namespace Event

/-- A message with the id leaves for good. -/
def concludes (X : TrackingId) : Event → Bool
  | concluded m _ => m.tracking = some X
  | _ => false

/-- A message with the id is dropped. -/
def drops (X : TrackingId) : Event → Bool
  | concluded m (.dropped _) => m.tracking = some X
  | _ => false

/-- A message with the id leaves for good, or a hook is told that it was dropped. -/
def farewell (X : TrackingId) : Event → Bool
  | concluded m _ | hookCalled .deliveryAbandoned m _ | hookCalled .sendAbandoned m _ =>
    m.tracking = some X
  | _ => false

/-- The id of a message that comes in. -/
def handed? : Event → Option TrackingId
  | submitted m => m.tracking
  | _ => none

theorem farewell_of_concludes {X : TrackingId} {e : Event} (h : e.concludes X = true) :
    e.farewell X = true := by
  cases e <;> simp_all [concludes, farewell]

theorem farewell_of_drops {X : TrackingId} {e : Event} (h : e.drops X = true) :
    e.farewell X = true := by
  cases e with
  | concluded m fate => cases fate <;> simp_all [drops, farewell]
  | _ => simp [drops] at h

theorem farewell_of_isAside {X : TrackingId} {e : Event} (h : e.isAside = true) :
    e.farewell X = false := by
  cases e with
  | hookCalled kind m f => cases kind <;> simp_all [isAside, farewell]
  | _ => simp_all [isAside, farewell]

end Event

/-- It was said that the message with the id has left. -/
def isOver (X : TrackingId) (J : List Entry) : Bool := J.any (·.event.farewell X)

/-- The message with the id has left. -/
def hasLeft (X : TrackingId) (J : List Entry) : Bool := J.any (·.event.concludes X)

/-- Whatever came in under an id of the scope did so when the message with that id had left. -/
def isRenewed (scope : Nat) : List Entry → Bool
  | [] => true
  | e :: J => e.event.handed?.all (fun X => X.scope != scope || isOver X J) && isRenewed scope J

@[simp] theorem isOver_cons (X : TrackingId) (e : Entry) (J : List Entry) :
    isOver X (e :: J) = (e.event.farewell X || isOver X J) := rfl

@[simp] theorem hasLeft_cons (X : TrackingId) (e : Entry) (J : List Entry) :
    hasLeft X (e :: J) = (e.event.concludes X || hasLeft X J) := rfl

theorem isOver_of_hasLeft {X : TrackingId} {J : List Entry} (h : hasLeft X J = true) :
    isOver X J = true := by
  obtain ⟨e, he, hX⟩ := List.any_eq_true.mp h
  exact List.any_eq_true.mpr ⟨e, he, Event.farewell_of_concludes hX⟩

theorem hasLeft_of_suffix {X : TrackingId} {J J' : List Entry} (hJ : J <:+ J')
    (h : hasLeft X J = true) : hasLeft X J' = true := by
  obtain ⟨e, he, hX⟩ := List.any_eq_true.mp h
  exact List.any_eq_true.mpr ⟨e, hJ.subset he, hX⟩

theorem isRenewed_of_suffix {scope : Nat} {J J' : List Entry} (hJ : J <:+ J')
    (h : isRenewed scope J' = true) : isRenewed scope J = true := by
  obtain ⟨K, rfl⟩ := hJ
  induction K with
  | nil => exact h
  | cons e K ih =>
    rw [List.cons_append, isRenewed, Bool.and_eq_true] at h
    exact ih h.2

/-- A message did not come in under an id before the message with that id had left. -/
theorem unforged_of_isRenewed {scope : Nat} {X : TrackingId} (hX : X.scope = scope)
    {J : List Entry} (h : isRenewed scope J = true) (ho : isOver X J = false) : Unforged X J := by
  induction J with
  | nil => simp [Unforged]
  | cons e J ih =>
    rw [isRenewed, Bool.and_eq_true] at h
    rw [isOver_cons, Bool.or_eq_false_iff] at ho
    intro e' he' m hm hid
    rcases List.mem_cons.mp he' with rfl | he'
    · have hall := h.1
      rw [hm, Event.handed?, hid] at hall
      simp [hX, ho.2] at hall
    · exact ih h.2 ho.2 e' he' m hm hid

/-- The tracker under the id was released. -/
def TrackerTable.hasEnded (t : TrackerTable) (X : TrackingId) : Bool :=
  (t.lookup? X).any (!·.live)

namespace TrackerTable

variable (t : TrackerTable) (X : TrackingId)

theorem hasEnded_iff : t.hasEnded X = true ↔ ∃ k, t.lookup? X = some ⟨k, false⟩ := by
  rw [hasEnded, Option.any_eq_true]
  constructor
  · rintro ⟨⟨k, live⟩, he, hlive⟩
    obtain rfl : live = false := by simpa using hlive
    exact ⟨k, he⟩
  · rintro ⟨k, he⟩
    exact ⟨_, he, rfl⟩

@[simp] theorem hasEnded_update (id : TrackingId) (f : Tracker → Tracker) :
    (t.update id f).hasEnded X = t.hasEnded X := by
  rw [hasEnded, hasEnded, lookup?_update]
  split
  · rw [Option.any_map]
    rfl
  · rfl

@[simp] theorem hasEnded_attach (m : Message) (sender : Sender) (budget : Nat) :
    (t.attach m sender budget).2.2.hasEnded X = t.hasEnded X := by
  rw [hasEnded, hasEnded, lookup?_attach]
  split
  · next h =>
    rw [h.2, lookup?_nextId]
    rfl
  · rfl

theorem hasEnded_release_of_ne {m : Message} (hm : m.tracking ≠ some X) :
    (t.release m).hasEnded X = t.hasEnded X := by
  rw [hasEnded, hasEnded, lookup?_release, if_neg hm]

end TrackerTable

variable {β κ α : Type} {c : Client β} {told : β → β → Prop} {b₀ : β} {law : Law}
  {S S' : Scene c κ α} {X : TrackingId}

/-- The message leaves in a move: its tracker is released, and the journal says so. -/
def Move.Parts (X : TrackingId) (S S' : Scene c κ α) : Prop :=
  S'.world.trackers.lookup? X = (S.world.trackers.lookup? X).map (·.ended) ∧
    hasLeft X S'.world.journal = true

/-- No move but the conclusion of a message says that it has left or releases its tracker, except
    that the hook is told of one that was dropped. -/
theorem Move.parting (h : Move c told law S S') (X : TrackingId) :
    (isOver X S'.world.journal = isOver X S.world.journal ∧
        S'.world.trackers.hasEnded X = S.world.trackers.hasEnded X) ∨
      ∃ p m, (p, m) ∈ S.hands ∧ m.tracking = some X ∧
        (Move.Parts X S S' ∨ S'.world.trackers.hasEnded X = S.world.trackers.hasEnded X ∧
          ∃ e, p = .forsaken e ∨ ∃ k, p = .lost k e) := by
  cases h with
  | outside hp hj _ => exact .inl ⟨by rw [hj], by simp only [Site.trackers, hp]⟩
  | aside he => exact .inl ⟨by simp [Event.farewell_of_isAside he], rfl⟩
  | adjust hf => exact .inl ⟨rfl, congrArg (·.hasEnded X) (hf.trackers _)⟩
  | @tell T H W M s p p' m kind e hp =>
    by_cases hm : m.tracking = some X
    · cases hp with
      | deliveryAbandoned k e =>
        exact .inr ⟨_, m, Multiset.mem_cons_self .., hm, .inr ⟨rfl, e, .inr ⟨k, rfl⟩⟩⟩
      | sendAbandoned e =>
        exact .inr ⟨_, m, Multiset.mem_cons_self .., hm, .inr ⟨rfl, e, .inl rfl⟩⟩
      | _ => exact .inl ⟨by simp [Event.farewell], rfl⟩
    · exact .inl ⟨by cases hp <;> simp [Event.farewell, hm], rfl⟩
  | @discard T H W M s m | @forsake T H W M s w e m | @deliver T H W M s k m
  | @lose T H W M s k e m =>
    by_cases hm : m.tracking = some X
    · refine .inr ⟨_, m, Multiset.mem_cons_self .., hm, .inl ⟨?_, by simp [Event.concludes, hm]⟩⟩
      simp [TrackerTable.lookup?_release, hm]
    · exact .inl ⟨by simp [Event.farewell, hm], by simp [TrackerTable.hasEnded_release_of_ne, hm]⟩
  | @acknowledge T H W M s k f m hk =>
    refine .inl ⟨by simp [Event.farewell], ?_⟩
    cases k <;> simp
  | engage _ => exact .inl ⟨rfl, by simp [Site.engage]⟩
  | _ => exact .inl ⟨by simp [Event.farewell], by simp⟩

namespace Scene

/-- The message with the id has not left, if there is one. -/
structure Open (X : TrackingId) (law : Law) (S : Scene c κ α) : Prop where
  sound : (S.thread X).Sound X law
  current : S.world.trackers.hasEnded X = false
  silent : isOver X S.world.journal = false

/-- The message with the id has left. -/
structure Closed (X : TrackingId) (S : Scene c κ α) : Prop where
  ended : S.world.trackers.hasEnded X = true
  told : hasLeft X S.world.journal = true

section

variable {T : List c.Task} {H : Multiset (Place × Message)} {W : Multiset (Nat × Message)}
  {M : Multiset Message} {s : World β κ α} {p : Place} {m : Message}

/-- What is true of a message in hand that has not left. -/
theorem Open.at_hand (ho : (⟨T, (p, m) ::ₘ H, W, M, s⟩ : Scene c κ α).Open X law)
    (hm : m.tracking = some X) : Thread.At X (along X W) (s.trackers.lookup? X) p := by
  have hsound := ho.sound
  simp only [thread, places_hand, along_pos hm] at hsound
  exact hsound.at_spot.2

/-- The tracker of a message that is dropped was released. -/
theorem Open.not_dropped (ho : (⟨T, H, W, M, s⟩ : Scene c κ α).Open X law)
    (hm : m.tracking = some X) (hh : (p, m) ∈ H) (e : BrokerError) :
    ¬ (p = .forsaken e ∨ ∃ k, p = .lost k e) := by
  obtain ⟨H, rfl⟩ := Multiset.exists_cons_of_mem hh
  have hat := ho.at_hand hm
  intro hp
  have hdead : Thread.Dead (along X W) (s.trackers.lookup? X) := by
    rcases hp with rfl | ⟨k, rfl⟩ <;> exact hat
  obtain ⟨k, hk, -⟩ := hdead
  have hended := (s.trackers.hasEnded_iff X).mpr ⟨k, hk⟩
  rw [ho.current] at hended
  contradiction

end

/-- A message that has not left is still there after a move, or it has left properly. -/
theorem Open.move {scope : Nat} (hc : c.Honest told b₀) (h : Move c told law S S')
    (hS : S.Balanced told b₀) (hX : X.scope = scope)
    (hJ : isRenewed scope S'.world.journal = true) (ho : S.Open X law) :
    S'.Open X law ∨ S'.Closed X := by
  have hclean := ho.sound.clean
  obtain ⟨b, hturn, hb⟩ := h.turns hc Client.keeps_trivial hS hclean
  rcases h.parting X with ⟨hover, hended⟩ | ⟨p, m, hh, hm, hparts | ⟨-, e, hp⟩⟩
  · rw [ho.silent] at hover
    have hunforged := unforged_of_isRenewed hX hJ hover
    rw [unforged_iff, hb] at hunforged
    refine .inl ⟨ho.sound.turn hturn fun hb => hunforged (by simp [hb]), ?_, hover⟩
    rw [hended, ho.current]
  · obtain ⟨hlookup, hleft⟩ := hparts
    refine .inr ⟨?_, hleft⟩
    have hspots : (S.thread X).spots ≠ 0 := by
      obtain ⟨H, hH⟩ := Multiset.exists_cons_of_mem hh
      simp [thread, hH, along_pos hm]
    obtain ⟨⟨k, live⟩, hk⟩ := exists_entry hclean (.inl hspots)
    rw [TrackerTable.hasEnded_iff, hlookup, hk]
    exact ⟨k, rfl⟩
  · exact absurd hp (ho.not_dropped hm hh e)

/-- What has left does not come back. -/
theorem Closed.move (h : Move c told law S S') (hC : S.Closed X) : S'.Closed X := by
  refine ⟨?_, hasLeft_of_suffix h.suffix hC.told⟩
  rcases h.parting X with ⟨-, hended⟩ | ⟨p, m, -, -, hparts | ⟨hended, -⟩⟩
  · rw [hended, hC.ended]
  · obtain ⟨k, hk⟩ := (TrackerTable.hasEnded_iff _ X).mp hC.ended
    rw [TrackerTable.hasEnded_iff, hparts.1, hk]
    exact ⟨k, rfl⟩
  · rw [hended, hC.ended]

/-- A message that has not left is dropped by a veto or because it has no retry. -/
theorem Open.dropping (ho : S.Open X law) (h : Move c told law S S') {e : Entry} {J : List Entry}
    (hJ : e :: J <:+ S'.world.journal) (he : e.event.drops X = true) :
    e :: J <:+ S.world.journal ∨
      J = S.world.journal ∧ (Vetoed J ∨ S.world.grants X = none) := by
  have hcons {a : Entry} {K : List Entry} (hs : e :: J <:+ a :: K) (ha : a.event.drops X = false) :
      e :: J <:+ K := by
    rcases List.suffix_cons_iff.mp hs with heq | hs
    · obtain ⟨rfl, rfl⟩ := List.cons.inj heq
      rw [ha] at he
      contradiction
    · exact hs
  cases h with
  | outside _ hj _ => exact .inl (hj ▸ hJ)
  | @aside T H W M s a ha =>
    exact .inl (hcons hJ (by cases a <;> simp_all [Event.isAside, Event.drops]))
  | @forsake T H W M s w cause m hv =>
    refine (List.suffix_cons_iff.mp hJ).symm.imp_right fun heq => ?_
    obtain ⟨rfl, rfl⟩ := List.cons.inj heq
    have hm : m.tracking = some X := by simpa [Event.drops] using he
    have hat := ho.at_hand hm
    have hlive : ∃ k, s.trackers.lookup? X = some ⟨k, true⟩ := by
      rcases w with _ | slot <;> obtain ⟨-, k, hk, -⟩ := hat <;> exact ⟨k, hk⟩
    obtain ⟨k, hk⟩ := hlive
    exact ⟨rfl, hv.imp_right fun hv => hv X (find?_of_entry hm hk)⟩
  | @lose T H W M s k cause m hv =>
    refine (List.suffix_cons_iff.mp hJ).symm.imp_right fun heq => ?_
    obtain ⟨rfl, rfl⟩ := List.cons.inj heq
    have hm : m.tracking = some X := by simpa [Event.drops] using he
    exact ⟨rfl, hv.imp_right fun hv => hv X (ho.at_hand hm).1⟩
  | submit _ | discard | accept _ | full _ _ | refuse _ _ | tell _ | requeue _ _ | retake _ _
  | deliver => exact .inl (hcons hJ rfl)
  | @acknowledge T H W M s k f m hk =>
    rw [Site.journal_acknowledged] at hJ
    exact .inl (hcons hJ rfl)
  | regain _ _ _ _ _ | leave _ _ => exact .inl (hcons (hcons hJ rfl) rfl)
  | _ => exact .inl hJ

end Scene

/-- A message that was granted `R` retries was sent again that often before it was dropped, unless
    the hook said no. -/
def Spent (R : Nat) (X : TrackingId) (J : List Entry) : Prop :=
  ∀ e J', e :: J' <:+ J → e.event.drops X = true → hasLeft X J' = false →
    Vetoed J' ∨ (beats X J').count .granted = R

namespace Scene

/-- A message was given `R` retries under the id, and has not left or has left properly. -/
structure Kept (R : Nat) (X : TrackingId) (law : Law) (S : Scene c κ α) : Prop where
  budget : Budget R (S.thread X).entry (beats X S.world.journal)
  phase : S.Open X law ∨ S.Closed X
  spent : Spent R X S.world.journal

variable {R : Nat}

/-- When no retry is left all were spent. -/
theorem Kept.count_granted (hk : S.Kept R X law) (hg : S.world.grants X = none) :
    (beats X S.world.journal).count .granted = R := by
  obtain ⟨⟨k, live⟩, he, hR⟩ := hk.budget
  have ht := S.world.trackers.tracker?_eq X
  rw [show S.world.trackers.lookup? X = _ from he, Option.map_some] at ht
  have hzero : k.remaining = 0 := by
    rw [Site.grants, show S.world.producer.trackers.tracker? X = _ from ht, Option.bind_some,
      Tracker.claimRetry_fst] at hg
    by_contra hne
    rw [if_neg hne] at hg
    contradiction
  rw [hzero] at hR
  exact hR

theorem Kept.move {scope : Nat} (hc : c.Honest told b₀) (h : Move c told law S S')
    (hS : S.Balanced told b₀) (hX : X.scope = scope)
    (hJ : isRenewed scope S'.world.journal = true) (hk : S.Kept R X law) : S'.Kept R X law := by
  obtain ⟨b, hturn, hb⟩ := h.turns hc Client.keeps_trivial hS
    fun he => absurd he hk.budget.ne_none
  refine ⟨hb ▸ hk.budget.turn hturn, ?_, ?_⟩
  · rcases hk.phase with ho | hC
    · exact ho.move hc h hS hX hJ
    · exact .inr (hC.move h)
  · intro e J hs he hleft
    rcases hk.phase with ho | hC
    · rcases ho.dropping h hs he with hs | ⟨rfl, hv⟩
      · exact hk.spent e J hs he hleft
      · exact hv.imp_right hk.count_granted
    · -- Whatever is dropped from now on comes after it has left.
      rcases List.suffix_or_suffix_of_suffix hs h.suffix with hs | hs
      · exact hk.spent e J hs he hleft
      · rcases List.suffix_cons_iff.mp hs with heq | hs
        · exact hk.spent e J (heq ▸ List.suffix_rfl) he hleft
        · rw [hasLeft_of_suffix hs hC.told] at hleft
          contradiction

theorem Kept.moves {scope : Nat} (hc : c.Honest told b₀)
    (h : Relation.ReflTransGen (Move c told law) S S') (hS : S.Balanced told b₀)
    (hX : X.scope = scope) (hJ : isRenewed scope S'.world.journal = true)
    (hk : S.Kept R X law) : S'.Kept R X law := by
  induction h with
  | refl => exact hk
  | tail hmoves h ih =>
    have hk := ih (isRenewed_of_suffix h.suffix hJ)
    exact hk.move hc h (hS.moves hc hmoves) hX hJ

theorem scope_moves (h : Relation.ReflTransGen (Move c told law) S S') :
    S'.world.trackers.scope = S.world.trackers.scope := by
  induction h with
  | refl => rfl
  | tail _ h ih => exact h.scope.trans ih

/-- Nothing has happened under an id that was not given out. -/
theorem open_of_moves {b : β} {clock : Clock} {settings : Settings} {scope : Nat} {a : α}
    (hc : c.Honest told b)
    (h : Relation.ReflTransGen (Move c told law)
      (⟨[], 0, 0, 0, .opening b clock settings scope a⟩ : Scene c κ α) S)
    (hX : X.scope = scope) (hJ : isRenewed scope S.world.journal = true) :
    S.Open X law ∨ S.Closed X := by
  have hS := Scene.Balanced.opening (κ := κ) c told b clock settings scope a
  induction h with
  | refl =>
    have hnone : (Site.opening b clock settings scope a : World β κ α).trackers.lookup? X = none :=
      Site.lookup?_opening
    refine .inl ⟨.inl ⟨rfl, .inl ⟨rfl, hnone⟩⟩, ?_, rfl⟩
    rw [TrackerTable.hasEnded, hnone]
    rfl
  | tail hmoves h ih =>
    rcases ih (isRenewed_of_suffix h.suffix hJ) with ho | hC
    · exact ho.move hc h (hS.moves hc hmoves) hX hJ
    · exact .inr (hC.move h)

/-- A message that comes in has no live tracker. -/
theorem find?_of_isRenewed {b : β} {clock : Clock} {settings : Settings} {scope : Nat} {a : α}
    {m : Message} (hc : c.Honest told b)
    (h : Relation.ReflTransGen (Move c told law)
      (⟨[], 0, 0, 0, .opening b clock settings scope a⟩ : Scene c κ α) S)
    (hJ : isRenewed scope (S.world.noted (.submitted m)).journal = true) :
    S.world.trackers.find? m = none := by
  cases hm : m.tracking with
  | none => rw [TrackerTable.find?_eq, hm, Option.filter_none]
  | some Y =>
    rw [TrackerTable.find?_of_tracking _ hm]
    by_cases hY : Y.scope = scope
    · rw [Site.journal_noted, isRenewed, Bool.and_eq_true, Site.event_entry, Event.handed?, hm,
        Option.all_some] at hJ
      have hover : isOver Y S.world.journal = true := by simpa [hY] using hJ.1
      rcases open_of_moves hc h hY hJ.2 with ho | hC
      · rw [ho.silent] at hover
        contradiction
      · obtain ⟨k, hk⟩ := (TrackerTable.hasEnded_iff _ Y).mp hC.ended
        rw [hk]
        rfl
    · have hscope : S.world.trackers.scope = scope := scope_moves h
      have hforeign : S.world.trackers.lookup? Y = none := by
        rw [TrackerTable.lookup?, hscope]
        exact if_neg hY
      rw [hforeign]
      rfl

section

variable {b : β} {clock : Clock} {settings : Settings} {scope : Nat} {a : α} {T : List c.Task}
  {H : Multiset (Place × Message)} {W : Multiset (Nat × Message)} {M : Multiset Message}
  {s : World β κ α} {m : Message}

/-- Nothing was told of the next id, not even by a message that has just come in. -/
theorem silent_nextId (hc : c.Honest told b)
    (h : Relation.ReflTransGen (Move c told law)
      (⟨[], 0, 0, 0, .opening b clock settings scope a⟩ : Scene c κ α) ⟨T, H, W, M, s⟩)
    (hJ : isRenewed scope (s.noted (.submitted m)).journal = true) :
    isOver s.trackers.nextId (s.noted (.submitted m)).journal = false ∧
      beats s.trackers.nextId (s.noted (.submitted m)).journal = [] := by
  have hX : s.trackers.nextId.scope = scope := scope_moves h
  have hnone := s.trackers.lookup?_nextId
  have hJs : isRenewed scope s.journal = true := isRenewed_of_suffix (List.suffix_cons ..) hJ
  obtain ⟨-, -, hover⟩ : (⟨T, H, W, M, s⟩ : Scene c κ α).Open s.trackers.nextId law := by
    refine (open_of_moves hc h hX hJs).resolve_right fun hC => ?_
    have hended := hC.ended
    rw [TrackerTable.hasEnded, hnone] at hended
    contradiction
  have hover : isOver s.trackers.nextId (s.noted (.submitted m)).journal = false := hover
  have hunforged := unforged_of_isRenewed hX hJ hover
  have hm : m.tracking ≠ some s.trackers.nextId := hunforged _ (List.mem_cons_self ..) m rfl
  have hS := Scene.Balanced.opening (κ := κ) c told b clock settings scope a
  have hopening : ((⟨[], 0, 0, 0, .opening b clock settings scope a⟩ : Scene c κ α).thread
      s.trackers.nextId).Sound s.trackers.nextId law := .inl ⟨rfl, .inl ⟨rfl, Site.lookup?_opening⟩⟩
  refine ⟨hover, ?_⟩
  rw [Site.journal_noted, beats_cons, Site.event_entry, Event.beat, if_neg hm]
  exact (List.append_nil _).trans (beats_eq_nil hc h hS
    (fun e he => hunforged e (List.mem_cons_of_mem _ he)) hopening rfl hnone)

/-- A message that comes in while tracking is on is given the next id, and its retries with it. -/
theorem kept_enroll (hc : c.Honest told b)
    (h : Relation.ReflTransGen (Move c told law)
      (⟨[], 0, 0, 0, .opening b clock settings scope a⟩ : Scene c κ α) ⟨T, H, W, M, s⟩)
    (hJ : isRenewed scope (s.enroll m).2.journal = true) (ht : s.producer.tracking = true) :
    (s.enroll m).1 = { m with tracking := some s.trackers.nextId } ∧
      (⟨T, (.ready none, (s.enroll m).1) ::ₘ H, W, M, (s.enroll m).2⟩ : Scene c κ α).Kept
        s.producer.settings.retryBudget s.trackers.nextId law := by
  have hX : s.trackers.nextId.scope = scope := scope_moves h
  have henroll : s.enroll m =
      ((s.noted (.submitted m)).attach m .async s.producer.settings.retryBudget).2 := if_pos ht
  have hjournal : (s.enroll m).2.journal = (s.noted (.submitted m)).journal := by rw [henroll]; rfl
  have hphase := open_of_moves hc (h.trans (Surroundings.moves_enroll m M)) hX hJ
  rw [hjournal] at hJ
  have hfind : s.trackers.find? m = none := find?_of_isRenewed hc h hJ
  obtain ⟨hover, hbeats⟩ := silent_nextId hc h hJ
  obtain ⟨id, hid, -⟩ | ⟨-, -, hm', hlookup⟩ :=
    s.trackers.attach_cases m .async s.producer.settings.retryBudget
  · rw [hfind] at hid
    contradiction
  refine ⟨by rw [henroll]; exact hm', ⟨?_, hphase, ?_⟩⟩
  · have hentry : (s.enroll m).2.trackers.lookup? s.trackers.nextId =
        some (.fresh .async s.producer.settings.retryBudget) := by
      rw [henroll]
      exact (hlookup _).trans (if_pos rfl)
    refine ⟨_, hentry, ?_⟩
    rw [hjournal, hbeats]
    exact Nat.zero_add _
  · intro e J hs he hleft
    rw [hjournal] at hs
    have hfarewell : isOver s.trackers.nextId (s.noted (.submitted m)).journal = true := by
      refine List.any_eq_true.mpr ⟨e, hs.subset (List.mem_cons_self ..), ?_⟩
      exact Event.farewell_of_drops he
    rw [hover] at hfarewell
    contradiction

end

/-- A message that was given `R` retries under the id. -/
structure Tended (R : Nat) (X : TrackingId) (S : Scene c κ α) : Prop where
  /-- Its tracker is live until the message is delivered, dropped or cleared. -/
  live_iff : S.world.trackers.isLive X = true ↔ hasLeft X S.world.journal = false
  /-- Until then it shares the tracker with no other message. -/
  alone : hasLeft X S.world.journal = false →
    (along X (places S.world.stock S.flight S.hands)).card ≤ 1
  /-- It is not sent again more often than that. -/
  granted : (beats X S.world.journal).count .granted ≤ R
  /-- It is not dropped before, unless a hook says no. -/
  spent : Spent R X S.world.journal

theorem Kept.tended (hk : S.Kept R X law) : S.Tended R X := by
  obtain ⟨⟨⟨k, live⟩, he, hR⟩, hphase, hspent⟩ := hk
  have he : S.world.trackers.lookup? X = some ⟨k, live⟩ := he
  have hlive : S.world.trackers.isLive X = live := by rw [TrackerTable.isLive_eq, he]; rfl
  have hended : S.world.trackers.hasEnded X = !live := by rw [TrackerTable.hasEnded, he]; rfl
  have hgranted : (beats X S.world.journal).count .granted ≤ R := by omega
  rcases hphase with ho | hC
  · have hnot : hasLeft X S.world.journal = false := by
      by_contra hleft
      rw [Bool.not_eq_false] at hleft
      have hover := isOver_of_hasLeft hleft
      rw [ho.silent] at hover
      contradiction
    have hcurrent := ho.current
    rw [hended, Bool.not_eq_false'] at hcurrent
    refine ⟨by simp [hlive, hcurrent, hnot], fun _ => ?_, hgranted, hspent⟩
    rcases ho.sound with ⟨hspots, -⟩ | ⟨p, m, hspots, -⟩
    · exact (congrArg Multiset.card hspots).le.trans (Nat.zero_le 1)
    · exact (congrArg Multiset.card hspots).le
  · have hC' := hC.ended
    rw [hended, Bool.not_eq_true'] at hC'
    exact ⟨by simp [hlive, hC', hC.told], fun hnot => by simp [hC.told] at hnot, hgranted, hspent⟩

end Scene

namespace MemoryBroker

/-- The one scene may be followed by the other, in an application over the broker in memory. -/
def Followed (S S' : Scene client κ α) : Prop :=
  Relation.ReflTransGen (Move client Heeds ⟨False, True⟩) S S'

/-- A message that comes in while tracking is on is looked after on every way that follows. -/
theorem tended_of_followed {limits : MemoryLimits} {clock : Clock} {settings : Settings}
    {scope : Nat} {a : α} {T : List client.Task} {H : Multiset (Place × Message)}
    {W : Multiset (Nat × Message)} {M : Multiset Message} {s : World MemoryBroker κ α}
    {m : Message} {S : Scene client κ α}
    (hbefore : Followed ⟨[], 0, 0, 0, .opening { limits := limits } clock settings scope a⟩
      ⟨T, H, W, M, s⟩)
    (ht : s.producer.tracking = true)
    (hway : Followed ⟨T, (.ready none, (s.enroll m).1) ::ₘ H, W, M, (s.enroll m).2⟩ S)
    (hJ : isRenewed scope S.world.journal = true) :
    (s.enroll m).1 = { m with tracking := some s.trackers.nextId } ∧
      S.Tended s.producer.settings.retryBudget s.trackers.nextId := by
  have hc : client.Exact Heeds { limits := limits } := exact_client rfl
  have hs := isRenewed_of_suffix (Scene.suffix_moves hway) hJ
  obtain ⟨hm, hkept⟩ := Scene.kept_enroll hc.honest hbefore hs ht
  have hX : s.trackers.nextId.scope = scope := Scene.scope_moves hbefore
  have hopening := Scene.Balanced.opening (κ := κ) client Heeds { limits := limits } clock
    settings scope a
  have hbalanced := hopening.moves hc.honest (hbefore.trans (Surroundings.moves_enroll m M))
  exact ⟨hm, (hkept.moves hc.honest hway hbalanced hX hJ).tended⟩

/-- Where nothing is in hand, the messages in flight are those in the broker's queue. -/
theorem flight_of_followed {limits : MemoryLimits} {clock : Clock} {settings : Settings}
    {scope : Nat} {a : α} {M : Multiset Message} {t : World MemoryBroker κ α}
    (h : Followed ⟨[], 0, 0, 0, .opening { limits := limits } clock settings scope a⟩
      ⟨[], 0, 0, M, t⟩) : M = (t.broker.inFlight.toList : List Message) := by
  have hc : client.Exact Heeds { limits := limits } := exact_client rfl
  have hopening := Scene.Balanced.opening (κ := κ) client Heeds { limits := limits } clock
    settings scope a
  simpa [heldBy] using course_outstanding (hopening.moves hc.honest h).course rfl

section

variable {conduct : κ → HookKind → Message → Option BrokerError →
  Conduct MemoryBroker κ α MemoryWord} {limit depth : Nat}
  {deeds : List (Deed κ α MemoryWord)} {s t : World MemoryBroker κ α}

/-- A run is a way. -/
theorem followed_run (h : (application conduct).run limit depth deeds s = some ((), t))
    (M : Multiset Message) :
    ∃ M', Followed (⟨[], 0, 0, M, s⟩ : Scene client κ α) ⟨[], 0, 0, M', t⟩ := by
  have ho : (application conduct).Obeys ⟨False, True⟩ := ⟨not_mayFail, .inr trivial⟩
  have hleads := Application.leads_run (T := []) (H := 0) (W := 0) ho (.inl trivial) h M
  rwa [told_application] at hleads

/-- A run that begins with a message that is added or produced is a way from where it came in. -/
theorem followed_handed {op : Operation Message} {m : Message} (hop : op = .add m ∨ op = .produce m)
    (h : (application conduct).run limit depth (.operate op :: deeds) s = some ((), t))
    (M : Multiset Message) :
    ∃ M', Followed (⟨[], {(.ready none, (s.enroll m).1)}, 0, M, (s.enroll m).2⟩ : Scene client κ α)
      ⟨[], 0, 0, M', t⟩ := by
  have ho : (application conduct).Obeys ⟨False, True⟩ := ⟨not_mayFail, .inr trivial⟩
  have hleads := Application.leads_handed (T := []) (H := 0) (W := 0) ho (.inl trivial) hop h M
  rwa [told_application] at hleads

end

/-- A run is a way from its first scene to its last. In every scene on the way a message that came
    in while tracking was on, with the next id from then on, has a live tracker of its own until it
    leaves, and its retries, if nothing came in under an id of the producer before the message with
    that id had left. So it is for a message that is added or produced by one of the deeds, when
    that returns and whenever a later one does. -/
theorem tended_of_run {conduct : κ → HookKind → Message → Option BrokerError →
      Conduct MemoryBroker κ α MemoryWord} {limits : MemoryLimits} {clock : Clock}
    {settings : Settings} {scope : Nat} {a : α} {limit depth : Nat}
    {deeds : List (Deed κ α MemoryWord)} {t : World MemoryBroker κ α}
    (h : (application conduct).run limit depth deeds
      (.opening { limits := limits } clock settings scope a) = some ((), t))
    (hJ : isRenewed scope t.journal = true) :
    (∃ M, Followed ⟨[], 0, 0, 0, .opening { limits := limits } clock settings scope a⟩
      ⟨[], 0, 0, M, t⟩) ∧
    (∀ T H W M s m S M',
      Followed ⟨[], 0, 0, 0, .opening { limits := limits } clock settings scope a⟩
        ⟨T, H, W, M, s⟩ →
      s.producer.tracking = true →
      Followed ⟨T, (.ready none, (s.enroll m).1) ::ₘ H, W, M, (s.enroll m).2⟩ S →
      Followed S ⟨[], 0, 0, M', t⟩ →
      (s.enroll m).1 = { m with tracking := some s.trackers.nextId } ∧
        S.Tended s.producer.settings.retryBudget s.trackers.nextId) ∧
    ∀ earlier op m later rest s u,
      deeds = earlier ++ .operate op :: (later ++ rest) → op = .add m ∨ op = .produce m →
      (application conduct).run limit depth earlier
        (.opening { limits := limits } clock settings scope a) = some ((), s) →
      s.producer.tracking = true →
      (application conduct).run limit depth (.operate op :: later) s = some ((), u) →
      (s.enroll m).1 = { m with tracking := some s.trackers.nextId } ∧
        (⟨[], 0, 0, u.broker.inFlight.toList, u⟩ : Scene client κ α).Tended
          s.producer.settings.retryBudget s.trackers.nextId := by
  refine ⟨followed_run h 0, ?_, ?_⟩
  · intro T H W M s m S M' hbefore ht hway hafter
    exact tended_of_followed hbefore ht hway (isRenewed_of_suffix (Scene.suffix_moves hafter) hJ)
  · intro earlier op m later rest s u hdeeds hop hearlier ht hlater
    have hrest : (application conduct).run limit depth rest u = some ((), t) := by
      rw [hdeeds, Application.run_append hearlier, ← List.cons_append,
        Application.run_append hlater] at h
      exact h
    obtain ⟨M, hbefore⟩ := followed_run hearlier 0
    obtain ⟨M', hway⟩ := followed_handed hop hlater M
    obtain ⟨M'', hafter⟩ := followed_run hrest M'
    rw [← flight_of_followed ((hbefore.trans (Surroundings.moves_enroll m M)).trans hway)]
    exact tended_of_followed hbefore ht hway (isRenewed_of_suffix (Scene.suffix_moves hafter) hJ)

/-- A hook that hands in again what was dropped. -/
def persist (_ : Unit) (_ : HookKind) (m : Message) (_ : Option BrokerError) :
    Conduct MemoryBroker Unit Unit MemoryWord :=
  .act (.operate (.add m)) fun _ => .answer true

/-- Retries are granted, one to a message, and the next two deliveries fail. -/
def arrangements : List (Deed Unit Unit MemoryWord) :=
  [.register .deliveryAbandoned (), .register .sendAbandoned (), .operate (.setRetryBudget 1),
    .instruct (.order (.failNext 2))]

/-- A message is dropped after its deliveries failed and comes in again, and is refused then and
    dropped and comes in again, and is delivered. -/
def comebacks : List (Deed Unit Unit MemoryWord) :=
  [.operate (.flush false), .operate (.flush false),
    .instruct (.fault fun f => { f with rejectWhere := some fun _ => true }),
    .operate (.flush true), .instruct (.order .clearFaults), .operate (.flush false)]

/-- A message that comes in is given the first id, and one retry. -/
def isArranged (s : World MemoryBroker Unit Unit) : Bool :=
  s.producer.tracking && s.producer.settings.retryBudget == 1 && s.trackers.nextId == ⟨0, 0⟩

/-- The message with the first id waits in a buffer, with a live tracker. -/
def isWaiting (u : World MemoryBroker Unit Unit) : Bool :=
  u.producer.regular.messages == [{ topic := "a", tracking := some ⟨0, 0⟩ }] &&
    u.trackers.isLive ⟨0, 0⟩

/-- The message with the first id left after one retry, and nothing came in under an id before the
    message with that id had left. -/
def isOrderly (t : World MemoryBroker Unit Unit) : Bool :=
  isRenewed 0 t.journal && hasLeft ⟨0, 0⟩ t.journal &&
    (beats ⟨0, 0⟩ t.journal).count .granted == 1

/-- The message waits, and all goes well from there. -/
def isOnCourse (u : World MemoryBroker Unit Unit) : Bool :=
  isWaiting u && ((application persist).run 60 2 comebacks u).any fun r => isOrderly r.2

/-- All goes well once the message has come in. -/
def isPrepared (s : World MemoryBroker Unit Unit) : Bool :=
  isArranged s &&
    ((application persist).run 60 2 [.operate (.add { topic := "a" })] s).any fun r =>
      isOnCourse r.2

theorem tended_persist :
    ∃ s u t,
      (application persist).run 60 2 arrangements (.opening { limits := {} } {} {} 0 ()) =
        some ((), s) ∧ isArranged s = true ∧
      (application persist).run 60 2 [.operate (.add { topic := "a" })] s = some ((), u) ∧
      isWaiting u = true ∧
      (application persist).run 60 2 (arrangements ++ .operate (.add { topic := "a" }) :: comebacks)
        (.opening { limits := {} } {} {} 0 ()) = some ((), t) ∧ isOrderly t = true ∧
      (∃ M, Followed ⟨[], 0, 0, 0, .opening { limits := {} } {} {} 0 ()⟩ ⟨[], 0, 0, M, t⟩) ∧
      (∀ T H W M s m S M',
        Followed ⟨[], 0, 0, 0, .opening { limits := {} } {} {} 0 ()⟩ ⟨T, H, W, M, s⟩ →
        s.producer.tracking = true →
        Followed ⟨T, (.ready none, (s.enroll m).1) ::ₘ H, W, M, (s.enroll m).2⟩ S →
        Followed S ⟨[], 0, 0, M', t⟩ →
        (s.enroll m).1 = { m with tracking := some s.trackers.nextId } ∧
          S.Tended s.producer.settings.retryBudget s.trackers.nextId) ∧
      (s.enroll { topic := "a" }).1 = { topic := "a", tracking := some ⟨0, 0⟩ } ∧
      (⟨[], 0, 0, u.broker.inFlight.toList, u⟩ : Scene client Unit Unit).Tended 1 ⟨0, 0⟩ ∧
      (⟨[], 0, 0, t.broker.inFlight.toList, t⟩ : Scene client Unit Unit).Tended 1 ⟨0, 0⟩ := by
  have hrun : ((application persist).run 60 2 arrangements
      (.opening { limits := {} } {} {} 0 ())).any (fun r => isPrepared r.2) = true := by
    decide +kernel
  obtain ⟨s, hs, hprepared⟩ := Application.exists_run hrun
  rw [isPrepared, Bool.and_eq_true] at hprepared
  obtain ⟨harranged, hadd⟩ := hprepared
  obtain ⟨u, hu, hcourse⟩ := Application.exists_run hadd
  rw [isOnCourse, Bool.and_eq_true] at hcourse
  obtain ⟨hwaiting, hcomebacks⟩ := hcourse
  obtain ⟨t, ht, horderly⟩ := Application.exists_run hcomebacks
  have hlater : (application persist).run 60 2 (.operate (.add { topic := "a" }) :: comebacks) s =
      some ((), t) := (Application.run_append hu).trans ht
  have hall := (Application.run_append hs).trans hlater
  have hJ : isRenewed 0 t.journal = true := by
    rw [isOrderly, Bool.and_eq_true, Bool.and_eq_true] at horderly
    exact horderly.1.1
  obtain ⟨htracking, hbudget, hid⟩ : s.producer.tracking = true ∧
      s.producer.settings.retryBudget = 1 ∧ s.trackers.nextId = ⟨0, 0⟩ := by
    simpa [isArranged, and_assoc] using harranged
  obtain ⟨hway, honway, hreturns⟩ := tended_of_run hall hJ
  obtain ⟨hm, htended⟩ := hreturns arrangements (.add { topic := "a" }) { topic := "a" } [] comebacks
    s u rfl (.inl rfl) hs htracking hu
  have hend := (hreturns arrangements (.add { topic := "a" }) { topic := "a" } comebacks [] s t
    (by rw [List.append_nil]) (.inl rfl) hs htracking hlater).2
  rw [hid] at hm
  rw [hid, hbudget] at htended hend
  exact ⟨s, u, t, hs, harranged, hu, hwaiting, hall, horderly, hway, honway, hm, htended, hend⟩

/-- A hook that hands in again, once, what was delivered. -/
def repeatOnce (_ : Unit) (_ : HookKind) (m : Message) (_ : Option BrokerError) :
    Conduct MemoryBroker Unit Bool MemoryWord :=
  .see fun s => if s.owner.app then .answer true else
    .act (.think fun _ => true) fun _ => .act (.operate (.add m)) fun _ => .answer true

/-- A message is delivered and comes in again from within the hook that is told of it. -/
def delivery : List (Deed Unit Bool MemoryWord) :=
  [.register .delivered (), .operate (.setRetryBudget 1), .operate (.add { topic := "a" }),
    .operate (.flush false)]

/-- The next delivery fails. -/
def failure : List (Deed Unit Bool MemoryWord) :=
  [.instruct (.order (.failNext 1)), .operate (.flush false)]

/-- The copy is buffered and has no live tracker. -/
def isBereft (s : World MemoryBroker Unit Bool) : Bool :=
  s.producer.settings.retryBudget == 1 && s.producer.counters.produced == 1 &&
    s.producer.regular.messages == [{ topic := "a", tracking := some ⟨0, 0⟩ }] &&
    !s.trackers.isLive ⟨0, 0⟩

/-- A message is dropped without any retry. -/
def isForlorn (t : World MemoryBroker Unit Bool) : Bool :=
  t.producer.buffered == 0 && t.producer.counters.dropped == 1 && t.producer.counters.retries == 0

/-- The copy has no live tracker, and is dropped when the next delivery fails. -/
def isDoomed (s : World MemoryBroker Unit Bool) : Bool :=
  isBereft s && ((application repeatOnce).run 60 2 failure s).any fun r => isForlorn r.2

/-- What comes in again from within the hook on delivered messages loses its tracker when the hook
    is done, and its retries with it. -/
theorem bereft_repeatOnce :
    ∃ s t, (application repeatOnce).run 60 2 delivery (.opening { limits := {} } {} {} 0 false) =
        some ((), s) ∧ isBereft s = true ∧
      (application repeatOnce).run 60 2 failure s = some ((), t) ∧ isForlorn t = true := by
  have hrun : ((application repeatOnce).run 60 2 delivery
      (.opening { limits := {} } {} {} 0 false)).any (fun r => isDoomed r.2) = true := by
    decide +kernel
  obtain ⟨s, hs, hdoomed⟩ := Application.exists_run hrun
  rw [isDoomed, Bool.and_eq_true] at hdoomed
  obtain ⟨hbereft, hfailure⟩ := hdoomed
  obtain ⟨t, ht, hforlorn⟩ := Application.exists_run hfailure
  exact ⟨s, t, hs, hbereft, ht, hforlorn⟩

end MemoryBroker

end Outbox
