import Outbox.Proofs.Thread

/-! The state of a thread. Of the messages with one id at most one is anywhere, and where it is says
    what its tracker is like: who sends it again, whether a slot waits for the outcome of its
    delivery, and whether the entry is live. Nobody but a caller who waits is ever relied on to send
    a message again. Main statement: a thread that is sound stays so, turn by turn, and a thread
    under an id that was not issued yet is sound. -/

namespace Outbox

namespace Thread

/-- Nobody waits, and whoever flushes next sends the message again. -/
def Free (W : Multiset (Nat × Message)) (e : Option Issued) : Prop :=
  W = 0 ∧ ∃ k, e = some ⟨k, true⟩ ∧ k.sender = .async

/-- A caller has the message, and waits for nothing. -/
def Kept (W : Multiset (Nat × Message)) (e : Option Issued) : Prop :=
  W = 0 ∧ ∃ k, e = some ⟨k, true⟩ ∧ k.sender = .sync

/-- A caller has the message and has opened a slot for it. -/
def Armed (slot : Nat) (W : Multiset (Nat × Message)) (e : Option Issued) : Prop :=
  W = 0 ∧ ∃ k, e = some ⟨k, true⟩ ∧ k.sender = .sync ∧ k.waits slot = true

/-- A caller waits for the outcome of the message, and its slot is the one that gets it. -/
def Awaited (W : Multiset (Nat × Message)) (e : Option Issued) : Prop :=
  ∃ slot m k, W = {(slot, m)} ∧ e = some ⟨k, true⟩ ∧ k.sender = .sync ∧ k.waits slot = true

/-- A caller is going to find out that it has the message again. -/
def Parked (W : Multiset (Nat × Message)) (e : Option Issued) : Prop :=
  ∃ slot m k, W = {(slot, m)} ∧ e = some ⟨k, true⟩ ∧ k.sender = .sync ∧
    (k.receive slot).1 = .outcome .retry

/-- The message is done with, and no caller is going to have it again. -/
def Dead (W : Multiset (Nat × Message)) (e : Option Issued) : Prop :=
  ∃ k, e = some ⟨k, false⟩ ∧ ∀ w ∈ W, (k.receive w.1).1 ≠ .outcome .retry

/-- What is true while the message is at a place. -/
def At (X : TrackingId) (W : Multiset (Nat × Message)) (e : Option Issued) :
    Place → Prop
  | .stocked | .ready none | .refused none _ | .pleaded none _ => Free W e
  | .flying => Free W e ∨ Awaited W e
  | .reported k _ | .heard k _ => k = some X ∧ (Free W e ∨ Awaited W e)
  | .engaged | .refused (some _) _ | .pleaded (some _) _ => Kept W e
  | .ready (some slot) => Armed slot W e
  | .forsaken _ | .parted | .lost .. | .settled .. => Dead W e

/-- What is true while there is no message. It may have been left with a retry in a slot that
    nobody looks into any more. -/
def Off (law : Law) (W : Multiset (Nat × Message)) (e : Option Issued) : Prop :=
  W = 0 ∧ e = none ∨ Parked W e ∨ Dead W e ∨ law.failing ∧ Free W e

/-- The message is at one place or at none. -/
def Sound (X : TrackingId) (law : Law) (v : Thread) : Prop :=
  v.spots = 0 ∧ Off law v.waits v.entry ∨
    ∃ p m, v.spots = {(p, m)} ∧ At X v.waits v.entry p

variable {X : TrackingId} {law : Law} {mute : Prop} {like : Message → Message → Prop}
  {P : Multiset (Place × Message)} {W W' : Multiset (Nat × Message)} {e e' : Option Issued}
  {p p' : Place} {m m' : Message}

theorem Sound.at_spot (h : Sound X law ⟨(p, m) ::ₘ P, W, e⟩) : P = 0 ∧ At X W e p := by
  rcases h with ⟨h, -⟩ | ⟨q, n, h, hat⟩
  · exact absurd h (Multiset.cons_ne_zero)
  · obtain ⟨hq, rfl⟩ := (Multiset.singleton_eq_cons_iff _).mp h.symm
    obtain ⟨rfl, rfl⟩ := Prod.mk.inj hq
    exact ⟨rfl, hat⟩

theorem Sound.of_at (h : At X W e p) : Sound X law ⟨(p, m) ::ₘ 0, W, e⟩ :=
  .inr ⟨p, m, rfl, h⟩

theorem Sound.of_off (h : Off law W e) : Sound X law ⟨0, W, e⟩ := .inl ⟨rfl, h⟩

/-- A message comes from one place to another. -/
theorem Sound.come (h : Sound X law ⟨(p, m) ::ₘ P, W, e⟩) (hat : At X W e p → At X W' e' p') :
    Sound X law ⟨(p', m') ::ₘ P, W', e'⟩ := by
  obtain ⟨rfl, hp⟩ := h.at_spot
  exact .of_at (hat hp)

/-- A message goes, and is done with. -/
theorem Sound.go (h : Sound X law ⟨(p, m) ::ₘ P, W, e⟩) (hat : At X W e p → Dead W' e') :
    Sound X law ⟨P, W', e'⟩ := by
  obtain ⟨rfl, hp⟩ := h.at_spot
  exact .of_off (.inr (.inr (.inl (hat hp))))

/-- Under an id that was not issued there is no message and nobody waits. -/
theorem Sound.clean {v : Thread} (h : Sound X law v) (he : v.entry = none) :
    v.spots = 0 ∧ v.waits = 0 := by
  rcases h with ⟨hP, h⟩ | ⟨q, n, -, hat⟩
  · rw [he] at h
    rcases h with ⟨hW, -⟩ | ⟨_, _, _, -, h, -⟩ | ⟨_, h, -⟩ | ⟨-, -, _, h, -⟩
    · exact ⟨hP, hW⟩
    all_goals simp at h
  · rw [he] at hat
    rcases q with _ | _ | (_ | _) | _ | ⟨_ | _, _⟩ | ⟨_ | _, _⟩ | _ | _ | _ | _ | _ | _ <;>
      simp [At, Free, Awaited, Kept, Armed, Dead] at hat

theorem Free.eq {k : Issued} (h : Free W (some k)) :
    W = 0 ∧ k.live = true ∧ k.tracker.sender = .async := by
  obtain ⟨hW, k', hk, hs⟩ := h
  obtain rfl := Option.some_inj.mp hk
  exact ⟨hW, rfl, hs⟩

theorem Kept.eq {k : Issued} (h : Kept W (some k)) :
    W = 0 ∧ k.live = true ∧ k.tracker.sender = .sync := by
  obtain ⟨hW, k', hk, hs⟩ := h
  obtain rfl := Option.some_inj.mp hk
  exact ⟨hW, rfl, hs⟩

/-- When a message is told of, it is in the same state as before. -/
theorem At.tell {p' : Place} {kind : HookKind} {f : Option BrokerError} (hp : p.Tells kind f p')
    (h : At X W e p) : At X W e p' := by
  cases hp with
  | sendFailed w c => cases w <;> exact h
  | _ => exact h

/-- A message that is live, and of which no slot is waited for any more, is dead when it ends. -/
theorem Free.ended (h : Free W e) : Dead W (e.map (·.ended)) := by
  obtain ⟨rfl, k, rfl, -⟩ := h
  exact ⟨k, rfl, by simp⟩

theorem Kept.ended (h : Kept W e) : Dead W (e.map (·.ended)) := by
  obtain ⟨rfl, k, rfl, -⟩ := h
  exact ⟨k, rfl, by simp⟩

theorem Awaited.ended (h : Awaited W e) : Dead W (e.map (·.ended)) := by
  obtain ⟨slot, m, k, rfl, rfl, -, hw⟩ := h
  refine ⟨k, rfl, ?_⟩
  simp [Tracker.receive, hw]

/-- Where a message is while a caller waits for one with its id: it is done with, or it is pending
    and the caller waits for it. -/
theorem At.of_wait {w : Nat × Message} (h : At X (w ::ₘ W) e p) :
    (Dead (w ::ₘ W) e ∧ ∀ {W' e'}, Dead W' e' → At X W' e' p) ∨
    (Awaited (w ::ₘ W) e ∧ p.isPending = true ∧ ∀ {W' e'}, Free W' e' → At X W' e' p) := by
  have hfree : ¬ Free (w ::ₘ W) e := fun h => absurd h.1 Multiset.cons_ne_zero
  have hkept : ¬ Kept (w ::ₘ W) e := fun h => absurd h.1 Multiset.cons_ne_zero
  rcases p with _ | _ | (_ | _) | _ | ⟨_ | _, _⟩ | ⟨_ | _, _⟩ | _ | _ | _ | _ | _ | _
  case flying => exact .inr ⟨h.resolve_left hfree, rfl, .inl⟩
  case reported => exact .inr ⟨h.2.resolve_left hfree, rfl, fun h' => ⟨h.1, .inl h'⟩⟩
  case heard => exact .inr ⟨h.2.resolve_left hfree, rfl, fun h' => ⟨h.1, .inl h'⟩⟩
  case ready.some => exact absurd h.1 Multiset.cons_ne_zero
  case forsaken | parted | lost | settled => exact .inl ⟨h, id⟩
  all_goals first | exact absurd h hfree | exact absurd h hkept

/-- What is true while there is no message and a caller waits. -/
theorem Off.of_wait {w : Nat × Message} (h : Off law (w ::ₘ W) e) :
    Dead (w ::ₘ W) e ∨ Parked (w ::ₘ W) e := by
  rcases h with ⟨h, -⟩ | h | h | ⟨-, h, -⟩
  · exact absurd h Multiset.cons_ne_zero
  · exact .inr h
  · exact .inl h
  · exact absurd h Multiset.cons_ne_zero

theorem Awaited.eq {w : Nat × Message} {k : Issued} (h : Awaited (w ::ₘ W) (some k)) :
    W = 0 ∧ k.live = true ∧ (k.tracker.receive w.1).1 = .empty := by
  obtain ⟨slot, n, t, hW, hk, -, hw⟩ := h
  obtain ⟨rfl, rfl⟩ := (Multiset.singleton_eq_cons_iff _).mp hW.symm
  obtain rfl := Option.some_inj.mp hk
  exact ⟨rfl, rfl, by rw [Tracker.receive_fst, if_pos hw]⟩

theorem Parked.eq {w : Nat × Message} {k : Issued} (h : Parked (w ::ₘ W) (some k)) :
    W = 0 ∧ k.live = true ∧ k.tracker.sender = .sync ∧
      (k.tracker.receive w.1).1 = .outcome .retry := by
  obtain ⟨slot, n, t, hW, hk, hs, hr⟩ := h
  obtain ⟨rfl, rfl⟩ := (Multiset.singleton_eq_cons_iff _).mp hW.symm
  obtain rfl := Option.some_inj.mp hk
  exact ⟨rfl, rfl, hs, hr⟩

theorem Dead.eq {w : Nat × Message} {k : Issued} (h : Dead (w ::ₘ W) (some k)) :
    k.live = false ∧ (k.tracker.receive w.1).1 ≠ .outcome .retry ∧
      ∀ v ∈ W, (k.tracker.receive v.1).1 ≠ .outcome .retry := by
  obtain ⟨t, hk, hr⟩ := h
  obtain rfl := Option.some_inj.mp hk
  exact ⟨rfl, hr _ (Multiset.mem_cons_self ..), fun v hv => hr v (Multiset.mem_cons_of_mem hv)⟩

/-- A caller does not wait any longer. -/
theorem Sound.unwait {w : Nat × Message} (hv : Sound X law ⟨P, w ::ₘ W, e⟩)
    (hdead : Dead (w ::ₘ W) e → Dead W e') (hparked : Parked (w ::ₘ W) e → Off law W e')
    (hawaited : (∃ h ∈ P, h.1.isPending = true) → Awaited (w ::ₘ W) e → Free W e') :
    Sound X law ⟨P, W, e'⟩ := by
  rcases hv with ⟨hP, hoff⟩ | ⟨p, m, hP, hat⟩
  · obtain rfl : P = 0 := hP
    rcases hoff.of_wait with h | h
    · exact .of_off (.inr (.inr (.inl (hdead h))))
    · exact .of_off (hparked h)
  · obtain rfl : P = {(p, m)} := hP
    rcases hat.of_wait with ⟨h, hat'⟩ | ⟨h, hp, hat'⟩
    · exact .of_at (hat' (hdead h))
    · exact .of_at (hat' (hawaited ⟨(p, m), Multiset.mem_singleton_self _, hp⟩ h))

/-- A caller may be given up who is not going to find out that it has the message again. -/
theorem Sound.giveUp {slot : Nat} (hv : Sound X law ⟨P, (slot, m) ::ₘ W, e⟩)
    (hf : Parked ((slot, m) ::ₘ W) e → law.failing) :
    Sound X law ⟨P, W, e.map (·.under (·.setSender .async))⟩ := by
  refine hv.unwait (fun h => ?_) (fun h => ?_) fun _ h => ?_
  · obtain ⟨k, rfl, hW⟩ := h
    exact ⟨_, rfl, fun v hv h => hW v (Multiset.mem_cons_of_mem hv) (by simpa using h)⟩
  · obtain ⟨slot, m, k, hW, rfl, -, -⟩ := id h
    obtain ⟨-, rfl⟩ := (Multiset.singleton_eq_cons_iff _).mp hW.symm
    exact .inr (.inr (.inr ⟨hf h, rfl, _, rfl, rfl⟩))
  · obtain ⟨slot, m, k, hW, rfl, -, -⟩ := h
    obtain ⟨-, rfl⟩ := (Multiset.singleton_eq_cons_iff _).mp hW.symm
    exact ⟨rfl, _, rfl, rfl⟩

/-- A caller learns, when nothing is pending any more, that it is not to have the message again. -/
theorem Sound.learn {slot : Nat} {k : Tracker} {live : Bool}
    (hv : Sound X law ⟨P, (slot, m) ::ₘ W, some ⟨k, live⟩⟩)
    (hr : (k.receive slot).1 ≠ .outcome .retry) (hP : ∀ h ∈ P, h.1.isPending = false) :
    Sound X law ⟨P, W, some ⟨(k.receive slot).2, live⟩⟩ := by
  refine hv.unwait (fun h => ?_) (fun h => absurd h.eq.2.2.2 hr) fun ⟨h, hh, hp⟩ _ => ?_
  · obtain ⟨rfl, -, hW⟩ := h.eq
    exact ⟨_, rfl, fun v hv h => hW v hv ((Tracker.receive_receive k v.1 hr).mp h)⟩
  · exact absurd (hp.symm.trans (hP h hh)) (by simp)

/-- Where a retry waits for a caller there is nothing else, and it is the caller's. -/
theorem Sound.of_retry {slot : Nat} {k : Issued} (h : Sound X law ⟨P, (slot, m) ::ₘ W, some k⟩)
    (hr : (k.tracker.receive slot).1 = .outcome .retry) :
    P = 0 ∧ W = 0 ∧ k.live = true ∧ k.tracker.sender = .sync := by
  rcases h with ⟨hP, h⟩ | ⟨p, n, -, h⟩
  · rcases h.of_wait with h | h
    · exact absurd hr h.eq.2.1
    · exact ⟨hP, h.eq.1, h.eq.2.1, h.eq.2.2.1⟩
  · rcases h.of_wait with ⟨h, -⟩ | ⟨h, -⟩
    · exact absurd hr h.eq.2.1
    · exact absurd (hr.symm.trans h.eq.2.2) (by simp)

/-- A sound thread is sound after its turn. -/
theorem Sound.turn {v v' : Thread} {b : Option Beat} (h : Turn X law mute like v b v')
    (hb : b ≠ some .handed) (hv : Sound X law v) : Sound X law v' := by
  cases h with
  | rest => exact hv
  | birth | birthEngaged =>
    obtain ⟨rfl, rfl⟩ : _ = 0 ∧ _ = 0 := hv.clean rfl
    exact .of_at ⟨rfl, _, rfl, rfl⟩
  | submit => exact absurd rfl hb
  | shed =>
    obtain ⟨-, hat⟩ := hv.at_spot
    exact absurd hat.eq.2.1 (by simp)
  | engage => exact hv.come fun hat => ⟨hat.eq.1, _, rfl, rfl⟩
  | store | take => exact hv.come fun hat => hat
  | discard => exact hv.go fun hat => hat.ended
  | @accept P W e w m =>
    refine hv.come fun hat => ?_
    cases w with
    | none => exact .inl hat
    | some slot =>
      obtain ⟨rfl, k, rfl, hs, hw⟩ := hat
      exact .inr ⟨slot, m, k, rfl, rfl, hs, hw⟩
  | @refuse P W e w m c =>
    refine hv.come fun hat => ?_
    cases w with
    | none => exact hat
    | some slot =>
      obtain ⟨rfl, k, rfl, hs, -⟩ := hat
      exact ⟨rfl, k, rfl, hs⟩
  | tell hp | hush hp _ => exact hv.come fun hat => hat.tell hp
  | requeue _ | retake _ =>
    exact hv.come fun hat => ⟨hat.eq.1, _, rfl, by simpa using hat.eq.2.2⟩
  | @forsake P W e w c m =>
    refine hv.come fun hat => ?_
    cases w with
    | none => exact hat.ended
    | some slot => exact hat.ended
  | part => exact hv.go fun hat => hat
  | report =>
    refine hv.come fun hat => ⟨if_pos ?_, hat⟩
    rcases hat with ⟨-, k, rfl, -⟩ | ⟨-, -, k, -, rfl, -⟩ <;> rfl
  | deliver | lose => exact hv.come fun hat => hat.2.elim (·.ended) (·.ended)
  | @acknowledge P W e k f m =>
    refine hv.go fun hat => ?_
    obtain ⟨t, rfl, hr⟩ := hat
    cases k with
    | none => exact ⟨t, rfl, hr⟩
    | some id =>
      refine ⟨_, rfl, fun w hw => Tracker.receive_complete_ne t _ ?_ (hr w hw)⟩
      cases f <;> simp
  | regain hk hs =>
    refine hv.come fun ⟨_, hat⟩ => ?_
    rcases hat with hat | ⟨slot, n, k, -, hk', hs', -⟩
    · obtain ⟨hW, hlive, -⟩ := hat.eq
      obtain rfl : _ = true := hlive
      exact ⟨hW, _, rfl, by simpa using hs⟩
    · obtain ⟨rfl, -⟩ := Issued.mk.inj (Option.some_inj.mp hk')
      exact absurd (hs.symm.trans hs') (by simp)
  | leave hk hs =>
    obtain ⟨rfl, -, hat⟩ := hv.at_spot
    rcases hat with hat | ⟨slot, n, k, rfl, hk', hs', hw⟩
    · exact absurd (hs.symm.trans hat.eq.2.2) (by simp)
    · obtain ⟨rfl, rfl⟩ := Issued.mk.inj (Option.some_inj.mp hk')
      exact .of_off (.inr (.inl ⟨slot, _, _, rfl, rfl, by simpa using hs,
        Tracker.receive_complete _ _ (by simpa using hw)⟩))
  | arm =>
    refine hv.come fun hat => ?_
    obtain ⟨hW, hlive, hs⟩ := hat.eq
    obtain rfl : _ = true := hlive
    exact ⟨hW, _, rfl, hs, Tracker.waits_arm _⟩
  | retry hr =>
    obtain ⟨rfl, rfl, hlive, hs⟩ := hv.of_retry hr
    obtain rfl : _ = true := hlive
    exact .of_at ⟨rfl, _, rfl, by simpa using hs⟩
  | learn hr hP => exact hv.learn hr hP
  | giveUp hf => exact hv.giveUp fun _ => hf

end Thread

/-! ### Threads along sequences of moves -/

variable {β κ α : Type} {c : Client β} {told : β → β → Prop} {b₀ : β} {law : Law}
  {S S' : Scene c κ α} {X : TrackingId}

/-- Nothing is ever erased from the journal. -/
theorem Move.suffix (h : Move c told law S S') : S.world.journal <:+ S'.world.journal := by
  cases h with
  | outside _ hj _ => exact hj ▸ List.suffix_rfl
  | aside _ | submit _ | discard | accept _ | full _ _ | refuse _ _ | tell _ | requeue _ _
  | retake _ _ | forsake | deliver | lose => exact List.suffix_cons ..
  | acknowledge _ => simp [Site.acknowledged]
  | regain _ _ _ _ _ | leave _ _ => exact (List.suffix_cons ..).trans (List.suffix_cons ..)
  | _ => exact List.suffix_rfl

/-- A hook that is registered stays so. -/
theorem Move.hook {kind : HookKind} (h : Move c told law S S')
    (hk : (S.world.producer.hooks.find? kind).isSome = true) :
    (S'.world.producer.hooks.find? kind).isSome = true := by
  cases h with
  | outside hp _ _ => exact hp ▸ hk
  | adjust hf => exact hf.hooks _ kind hk
  | @acknowledge T H W M s k f m hk' => cases k <;> exact hk
  | _ => exact hk

theorem Scene.suffix_moves (h : Relation.ReflTransGen (Move c told law) S S') :
    S.world.journal <:+ S'.world.journal := by
  induction h with
  | refl => exact List.suffix_rfl
  | tail _ h ih => exact ih.trans h.suffix

theorem Scene.sound_moves (hc : c.Honest told b₀)
    (h : Relation.ReflTransGen (Move c told law) S S')
    (hS : S.Balanced told b₀) (hX : Unforged X S'.world.journal)
    (hs : (S.thread X).Sound X law) : (S'.thread X).Sound X law := by
  induction h with
  | refl => exact hs
  | tail hmoves h ih =>
    have hs := ih fun e he => hX e (h.suffix.subset he)
    obtain ⟨b, ht, hb⟩ := h.turns hc Client.keeps_trivial (hS.moves hc hmoves) hs.clean
    rw [unforged_iff, hb] at hX
    exact hs.turn ht fun hb => hX (by simp [hb])

end Outbox
