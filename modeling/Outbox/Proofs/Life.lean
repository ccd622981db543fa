import Outbox.Proofs.Soundness
import Outbox.Proofs.Story

/-! The life of a tracked message, whatever is done to it and to copies of it. The retries are those
    that its tracker was given when it was attached, whatever is set later and whoever sends it
    again, and each copy has a story within them. Hooks must not turn to the producer: then there
    is one caller at a time, and what is parked for a caller is not in a buffer as well. Main
    statement: whatever an application does with it, a message that came in while tracking was on
    has a story. -/

namespace Outbox

/-! ### Retries -/

/-- Of `R` retries some were spent on the beats, and the tracker has the others. -/
def Budget (R : Nat) (e : Option Issued) (bs : List Beat) : Prop :=
  ∃ k, e = some k ∧ bs.count .granted + k.tracker.remaining = R

namespace Budget

variable {X : TrackingId} {law : Law} {mute : Prop} {like : Message → Message → Prop} {R : Nat}
  {bs : List Beat} {e : Option Issued}

theorem ne_none (h : Budget R e bs) : e ≠ none := by
  obtain ⟨k, rfl, -⟩ := h
  simp

theorem keep (h : Budget R e bs) {b : Option Beat} (hb : b ≠ some .granted) :
    Budget R e (bs ++ b.toList) := by
  obtain ⟨k, he, hR⟩ := h
  have hb : b.toList.count .granted = 0 := List.count_eq_zero.mpr (by simpa using hb)
  exact ⟨k, he, by rwa [List.count_append, hb]⟩

theorem map (h : Budget R e bs) {g : Issued → Issued}
    (hg : ∀ k, (g k).tracker.remaining = k.tracker.remaining) :
    Budget R (e.map g) (bs ++ (none : Option Beat).toList) := by
  obtain ⟨k, rfl, hR⟩ := h
  exact ⟨_, rfl, by rwa [hg, Option.toList_none, List.append_nil]⟩

theorem claim {k k' : Tracker} {live live' : Bool} (h : Budget R (some ⟨k, live⟩) bs)
    (hk : 0 < k.remaining) (hk' : k'.remaining = k.claimRetry.2.remaining) :
    Budget R (some ⟨k', live'⟩) (bs ++ [.granted]) := by
  obtain ⟨_, he, hR⟩ := h
  obtain rfl := Option.some_inj.mp he
  refine ⟨_, rfl, ?_⟩
  rw [List.count_append, List.count_singleton_self, hk', Tracker.remaining_claimRetry]
  dsimp only at hR
  omega

/-- A retry that is granted is taken from those that are left, and nothing else is. -/
theorem turn {v v' : Thread} {b : Option Beat} (h : Turn X law mute like v b v')
    (hv : Budget R v.entry bs) : Budget R v'.entry (bs ++ b.toList) := by
  cases h with
  | birth | birthEngaged =>
    obtain ⟨k, hk, -⟩ := hv
    simp at hk
  | requeue hk | retake hk => exact hv.claim hk rfl
  | regain hk _ | leave hk _ => exact hv.claim hk (Tracker.remaining_complete _ _)
  | engage => exact hv.map (g := (·.under (·.setSender .sync))) fun _ => rfl
  | discard | forsake | deliver | lose => exact hv.map (g := (·.ended)) fun _ => rfl
  | @acknowledge P W e k f m =>
    cases k with
    | none => exact hv.keep (b := none) (by simp)
    | some id =>
      exact hv.map (g := (·.under (·.complete (f.elim .delivered .dropped)))) fun _ =>
        Tracker.remaining_complete _ _
  | arm => exact hv.map (g := (·.under (·.arm.2))) fun _ => rfl
  | @retry P W k live slot m _ | @learn P W k live slot m _ _ =>
    exact hv.map (g := (·.under fun k => (k.receive slot).2)) fun _ =>
      Tracker.remaining_receive _ _
  | giveUp => exact hv.map (g := (·.under (·.setSender .async))) fun _ => rfl
  | accept | refuse => exact hv.keep (b := some .offered) (by simp)
  | @tell P W e p p' m kind f _ => exact hv.keep (b := some (.told kind f)) (by simp)
  | submit => exact hv.keep (b := some .handed) (by simp)
  | _ => exact hv.keep (b := none) (by simp)

end Budget

/-! ### Callers -/

/-- How many callers there are. -/
def callers (P : Multiset (Place × Message)) (W : Multiset (Nat × Message)) : Nat :=
  P.countP (fun h => h.1.isCaller) + W.card

/-- A caller is going to look into the slot. -/
def Calls (P : Multiset (Place × Message)) (W : Multiset (Nat × Message)) (slot : Nat) : Prop :=
  (∃ m, (Place.ready (some slot), m) ∈ P) ∨ ∃ m, (slot, m) ∈ W

/-- There is one caller at most, and retries are the caller's while there is one. A retry that is
    found in its slot is one of the `n` that are parked. -/
def Lone (P : Multiset (Place × Message)) (W : Multiset (Nat × Message)) (e : Option Issued)
    (n : Nat) : Prop :=
  callers P W = 0 ∨ callers P W = 1 ∧ ∃ k live, e = some ⟨k, live⟩ ∧ k.sender = .sync ∧
    ∀ slot, Calls P W slot → (k.receive slot).1 = .outcome .retry → n ≠ 0

section

variable {P P' : Multiset (Place × Message)} {W W' : Multiset (Nat × Message)} {e : Option Issued}
  {n slot : Nat} {p p' : Place} {m m' : Message} {w : Nat × Message}

@[simp] theorem callers_spot :
    callers ((p, m) ::ₘ P) W = callers P W + if p.isCaller then 1 else 0 := by
  rw [callers, callers, Multiset.countP_cons]
  exact Nat.add_right_comm ..

@[simp] theorem callers_wait : callers P (w ::ₘ W) = callers P W + 1 := by
  rw [callers, callers, Multiset.card_cons]
  omega

@[simp] theorem calls_spot :
    Calls ((p, m) ::ₘ P) W slot ↔ p = .ready (some slot) ∨ Calls P W slot := by
  simp only [Calls, Multiset.mem_cons, Prod.mk.injEq, exists_or, or_assoc]
  simp [eq_comm]

@[simp] theorem calls_wait : Calls P (w ::ₘ W) slot ↔ w.1 = slot ∨ Calls P W slot := by
  obtain ⟨i, m⟩ := w
  simp only [Calls, Multiset.mem_cons, Prod.mk.injEq, exists_or]
  simp [eq_comm, or_left_comm]

theorem not_calls (h : callers P W = 0) : ¬ Calls P W slot := by
  rw [callers, Nat.add_eq_zero_iff, Multiset.countP_eq_zero, Multiset.card_eq_zero] at h
  rintro (⟨m, hm⟩ | ⟨m, hm⟩)
  · exact absurd rfl (h.1 _ hm)
  · simp [h.2] at hm

theorem callers_of_idle (h : Idle P W) : callers P W = 0 := by
  rw [callers, h.2, Multiset.card_zero, Nat.add_zero, Multiset.countP_eq_zero]
  exact fun x hx => (h.1 x hx).trans_ne Bool.false_ne_true

namespace Lone

theorem mono (h : Lone P W e n) (hc : callers P' W' ≤ callers P W)
    (hs : ∀ slot, Calls P' W' slot → Calls P W slot) : Lone P' W' e n := by
  rcases h with h | ⟨h, k, live, he, hk, hr⟩
  · exact .inl (by omega)
  · by_cases h' : callers P' W' = 0
    · exact .inl h'
    · exact .inr ⟨by omega, k, live, he, hk, fun slot hslot => hr slot (hs slot hslot)⟩

theorem map (h : Lone P W e n) {g : Issued → Issued}
    (hg : ∀ k, (g k).tracker.sender = k.tracker.sender)
    (hr : ∀ k slot, ((g k).tracker.receive slot).1 = .outcome .retry →
      (k.tracker.receive slot).1 = .outcome .retry) : Lone P W (e.map g) n := by
  rcases h with h | ⟨h, k, live, rfl, hk, hslot⟩
  · exact .inl h
  · exact .inr ⟨h, (g ⟨k, live⟩).tracker, (g ⟨k, live⟩).live, rfl, (hg _).trans hk,
      fun slot hs hr' => hslot slot hs (hr _ _ hr')⟩

/-- A message in hand comes to another place, and whoever has it is who had it. -/
theorem hand (h : Lone ((p, m) ::ₘ P) W e n) (hp : p'.isCaller = true → p.isCaller = true)
    (hs : ∀ slot, p' = .ready (some slot) → p = .ready (some slot)) :
    Lone ((p', m') ::ₘ P) W e n := by
  refine h.mono ?_ fun slot => ?_
  · rw [callers_spot, callers_spot]
    split <;> simp_all
  · rw [calls_spot, calls_spot]
    exact Or.imp_left (hs slot)

theorem gone (h : Lone ((p, m) ::ₘ P) W e n) : Lone P W e n :=
  h.mono (by simp) fun slot => by simpa using Or.inr

/-- Where there is a caller there is no other, and retries are the caller's. -/
theorem only {k : Tracker} {live : Bool} (h : Lone P W (some ⟨k, live⟩) n)
    (hc : callers P W ≠ 0) : callers P W = 1 ∧ k.sender = .sync ∧
      ∀ slot, Calls P W slot → (k.receive slot).1 = .outcome .retry → n ≠ 0 := by
  obtain ⟨hone, k', live', hk, hs, hslot⟩ := h.resolve_left hc
  obtain ⟨rfl, rfl⟩ := Issued.mk.inj (Option.some_inj.mp hk)
  exact ⟨hone, hs, hslot⟩

/-- When the caller who waits is gone there is none. -/
theorem unwait (h : Lone P (w ::ₘ W) e n) : callers P W = 0 := by
  rcases h with h | ⟨h, -⟩
  · simp at h
  · simpa using h

end Lone

end

/-! ### Copies -/

/-- What the beats of a copy are while it is at the place. -/
def Place.Stage (bs : List Beat) : Place → Prop
  | stocked | ready _ | engaged => Past [] bs
  | flying | reported .. | refused .. => Past [.offered] bs
  | pleaded _ c | forsaken c => Past [.offered, (Setback.refused c).asked] bs
  | heard _ (some c) | lost _ c => Past [.offered, (Setback.undelivered c).asked] bs
  | heard _ none => Past [.offered, .told .delivered none] bs
  | parted | settled .. => Begins (bs.count .granted) bs

/-- A hook that is told makes the beat that belongs there. -/
theorem Place.Tells.stage {p p' : Place} {kind : HookKind} {f : Option BrokerError}
    (hp : p.Tells kind f p') {bs : List Beat} (h : p.Stage bs) :
    p'.Stage (bs ++ [.told kind f]) := by
  cases hp with
  | delivered k => exact h.append _
  | deliveryFailed k c => exact h.append _
  | sendFailed w c => exact h.append _
  | deliveryAbandoned k c =>
    exact (h.append _).begins (.abandoned (.undelivered c)) List.prefix_rfl
  | sendAbandoned c =>
    exact (h.append _).begins (.abandoned (.refused c)) List.prefix_rfl

/-- Wherever a copy is, its beats are the beginning of a story. -/
theorem Place.Stage.begins {p : Place} {bs : List Beat} (h : p.Stage bs) :
    Begins (bs.count .granted) bs := by
  rcases p with _ | _ | _ | _ | _ | _ | _ | _ | _ | ⟨_, _ | _⟩ | _ | _
  case parted | settled => exact h
  case heard.none => exact Past.begins h .delivered List.prefix_rfl
  case heard.some | lost => exact Past.begins h (.abandoned (.undelivered _)) ⟨[_], rfl⟩
  case pleaded | forsaken => exact Past.begins h (.abandoned (.refused _)) ⟨[_], rfl⟩
  all_goals exact Past.begins h .delivered (by simp [Finale.beats])

/-- The copies of a message: those that are somewhere, each with its beats, those that are parked
    for a caller, and those that are past. -/
structure Lives (v : Thread) (bs : List Beat) (here : Multiset (Place × List Beat))
    (parked past : Multiset (List Beat)) : Prop where
  placed : here.map Prod.fst = v.spots.map Prod.fst
  dealt : Dealt (here.map Prod.snd + parked + past) bs
  stage : ∀ h ∈ here, h.1.Stage h.2
  rests : ∀ q ∈ parked, Past [] q
  ended : ∀ q ∈ past, Begins (q.count .granted) q
  lone : Lone v.spots v.waits v.entry parked.card

/-- Every copy has a story. -/
def Alive (v : Thread) (bs : List Beat) : Prop := ∃ here parked past, Lives v bs here parked past

namespace Lives

variable {bs : List Beat} {v : Thread} {P : Multiset (Place × Message)}
  {W W' : Multiset (Nat × Message)} {e e' : Option Issued}
  {here : Multiset (Place × List Beat)} {parked past : Multiset (List Beat)} {p p' : Place}
  {m m' : Message}

/-- A message that is somewhere is a copy. -/
theorem spot (h : Lives ⟨(p, m) ::ₘ P, W, e⟩ bs here parked past) :
    ∃ q L, here = (p, q) ::ₘ L ∧ L.map Prod.fst = P.map Prod.fst := by
  have hp := h.placed
  rw [Multiset.map_cons] at hp
  obtain ⟨⟨_, q⟩, hq, rfl⟩ := Multiset.mem_map.mp (hp ▸ Multiset.mem_cons_self ..)
  obtain ⟨L, rfl⟩ := Multiset.exists_cons_of_mem hq
  exact ⟨q, L, rfl, by simpa using hp⟩

/-- A copy comes from one place to another, and has the beat. -/
theorem come (h : Lives ⟨(p, m) ::ₘ P, W, e⟩ bs here parked past) {b : Option Beat}
    (hb : b ≠ some .handed) (hstage : ∀ q, p.Stage q → p'.Stage (q ++ b.toList))
    (hlone : Lone ((p', m') ::ₘ P) W' e' parked.card) :
    Alive ⟨(p', m') ::ₘ P, W', e'⟩ (bs ++ b.toList) := by
  obtain ⟨q, L, rfl, hL⟩ := h.spot
  refine ⟨(p', q ++ b.toList) ::ₘ L, parked, past, ?_, ?_, ?_, h.rests, h.ended, hlone⟩
  · simp [hL]
  · have hd := h.dealt
    cases b with
    | none => simpa using hd
    | some b =>
      simp only [Multiset.map_cons, Multiset.cons_add] at hd ⊢
      exact hd.beat fun h => hb (congrArg some h)
  · intro x hx
    rcases Multiset.mem_cons.mp hx with rfl | hx
    · exact hstage q (h.stage _ (Multiset.mem_cons_self ..))
    · exact h.stage x (Multiset.mem_cons_of_mem hx)

theorem move (h : Lives ⟨(p, m) ::ₘ P, W, e⟩ bs here parked past)
    (hstage : ∀ q, p.Stage q → p'.Stage q) (hlone : Lone ((p', m') ::ₘ P) W' e' parked.card) :
    Alive ⟨(p', m') ::ₘ P, W', e'⟩ (bs ++ (none : Option Beat).toList) :=
  h.come (by simp) (by simpa using hstage) hlone

/-- A copy is past. -/
theorem go (h : Lives ⟨(p, m) ::ₘ P, W, e⟩ bs here parked past)
    (hstage : ∀ q, p.Stage q → Begins (q.count .granted) q) (hlone : Lone P W' e' parked.card) :
    Alive ⟨P, W', e'⟩ (bs ++ (none : Option Beat).toList) := by
  obtain ⟨q, L, rfl, hL⟩ := h.spot
  refine ⟨L, parked, q ::ₘ past, hL, ?_, fun x hx => h.stage x (Multiset.mem_cons_of_mem hx),
    h.rests, ?_, hlone⟩
  · simpa [Multiset.cons_add, Multiset.add_cons] using h.dealt
  · intro x hx
    rcases Multiset.mem_cons.mp hx with rfl | hx
    · exact hstage x (h.stage _ (Multiset.mem_cons_self ..))
    · exact h.ended x hx

/-- A copy is parked for the caller when a retry is claimed. -/
theorem park (h : Lives ⟨(p, m) ::ₘ P, W, e⟩ bs here parked past)
    (hstage : ∀ q, p.Stage q → Past [] (q ++ [.granted]))
    (hlone : Lone P W' e' (parked.card + 1)) : Alive ⟨P, W', e'⟩ (bs ++ [.granted]) := by
  obtain ⟨q, L, rfl, hL⟩ := h.spot
  refine ⟨L, (q ++ [.granted]) ::ₘ parked, past, hL, ?_,
    fun x hx => h.stage x (Multiset.mem_cons_of_mem hx), ?_, h.ended, by simpa using hlone⟩
  · have hd := h.dealt
    simp only [Multiset.map_cons, Multiset.cons_add, Multiset.add_cons] at hd ⊢
    exact hd.beat (by simp)
  · intro x hx
    rcases Multiset.mem_cons.mp hx with rfl | hx
    · exact hstage q (h.stage _ (Multiset.mem_cons_self ..))
    · exact h.rests x hx

/-- The caller has a copy again that was parked. -/
theorem resume (h : Lives ⟨P, W, e⟩ bs here parked past) (hp : parked ≠ 0)
    (hlone : ∀ n, Lone ((.engaged, m) ::ₘ P) W' e' n) :
    Alive ⟨(.engaged, m) ::ₘ P, W', e'⟩ (bs ++ (none : Option Beat).toList) := by
  obtain ⟨q, hq⟩ := Multiset.exists_mem_of_ne_zero hp
  obtain ⟨parked, rfl⟩ := Multiset.exists_cons_of_mem hq
  refine ⟨(.engaged, q) ::ₘ here, parked, past, ?_, ?_, ?_,
    fun x hx => h.rests x (Multiset.mem_cons_of_mem hx), h.ended, hlone _⟩
  · simpa using h.placed
  · simpa [Multiset.cons_add, Multiset.add_cons] using h.dealt
  · intro x hx
    rcases Multiset.mem_cons.mp hx with rfl | hx
    · exact h.rests q hq
    · exact h.stage x hx

/-- Another copy comes in. -/
theorem submit (h : Lives ⟨P, W, e⟩ bs here parked past) :
    Alive ⟨(.ready none, m) ::ₘ P, W, e⟩ (bs ++ [.handed]) := by
  refine ⟨(.ready none, []) ::ₘ here, parked, past, ?_, ?_, ?_, h.rests, h.ended, ?_⟩
  · simpa using h.placed
  · simpa [Multiset.cons_add] using h.dealt.copy
  · intro x hx
    rcases Multiset.mem_cons.mp hx with rfl | hx
    · exact ⟨[], rfl⟩
    · exact h.stage x hx
  · exact h.lone.mono (by simp [Place.isCaller]) (by simp)

/-- Nothing happens to the copies. -/
theorem stay (h : Lives ⟨P, W, e⟩ bs here parked past) (hlone : Lone P W' e' parked.card) :
    Alive ⟨P, W', e'⟩ (bs ++ (none : Option Beat).toList) :=
  ⟨here, parked, past, h.placed, by simpa using h.dealt, h.stage, h.rests, h.ended, hlone⟩

end Lives

/-- Copies that have stories have them after a turn. -/
theorem Alive.turn {X : TrackingId} {law : Law} {mute : Prop} {like : Message → Message → Prop}
    {bs : List Beat} {v v' : Thread} {b : Option Beat} (h : Turn X law mute like v b v')
    (hmute : ¬ mute)
    (hn : ¬ law.nested) (he : v.entry ≠ none) (hv : Alive v bs) :
    Alive v' (bs ++ b.toList) := by
  obtain ⟨here, parked, past, hv⟩ := hv
  have hlone := hv.lone
  cases h with
  | rest => exact hv.stay hlone
  | birth | birthEngaged => exact absurd rfl he
  | submit => exact hv.submit
  | shed | part => exact hv.go (fun q hq => hq.begins) hlone.gone
  | @engage P W k m hi =>
    have hP : callers P W = 0 := callers_of_idle (hi.resolve_left hn)
    exact hv.move (fun q hq => hq)
      (.inr ⟨by simp [hP], _, _, rfl, rfl, fun slot hs => by simp [not_calls hP] at hs⟩)
  | store | take | report => exact hv.move (fun q hq => hq) (hlone.hand (by simp) (by simp))
  | discard =>
    exact hv.go (fun q hq => hq.begins) (hlone.gone.map (fun _ => rfl) fun _ _ => id)
  | @accept P W e w m =>
    refine hv.come (by simp) (fun q hq => hq.append _) ?_
    cases w with
    | none => exact hlone.hand (by simp) (by simp)
    | some slot => exact hlone.mono (by simp) (by simp)
  | refuse =>
    exact hv.come (by simp) (fun q hq => hq.append _) (hlone.hand (by simp) (by simp))
  | tell hp =>
    exact hv.come (by simp) (fun q hq => hp.stage hq)
      (hlone.hand (hp.isCaller_eq ▸ id) fun slot hs => by cases hp <;> simp at hs)
  | hush _ hm => exact absurd hm hmute
  | requeue _ | retake _ =>
    have hlone := hlone.map (g := (·.under (·.claimRetry.2))) (by simp [Issued.under])
      (by simp [Issued.under])
    exact hv.come (by simp) (fun q hq => hq.round) (hlone.hand (by simp) (by simp))
  | forsake | lose =>
    have hlone := hlone.map (g := (·.ended)) (fun _ => rfl) fun _ _ => id
    exact hv.move (fun q hq => hq) (hlone.hand (by simp) (by simp))
  | deliver =>
    have hlone := hlone.map (g := (·.ended)) (fun _ => rfl) fun _ _ => id
    exact hv.move (fun q hq => hq.begins) (hlone.hand (by simp) (by simp))
  | @acknowledge P W e k f m =>
    refine hv.go (fun q hq => hq.begins) ?_
    cases k with
    | none => exact hlone.gone
    | some id =>
      refine hlone.gone.map (fun _ => Tracker.sender_complete _ _) fun k slot => ?_
      exact not_imp_not.mp (Tracker.receive_complete_ne k.tracker _ (by cases f <;> simp))
  | @regain P W k live cause m _ hs =>
    -- It is not put back while a caller is going to have it.
    refine hv.come (by simp) (fun q hq => Past.round hq) (.inl ?_)
    by_contra hcaller
    obtain ⟨-, hs', -⟩ := hlone.only (by simpa using hcaller)
    exact absurd (hs.symm.trans hs') (by simp)
  | @leave P W k live cause m _ hs =>
    refine hv.park (fun q hq => Past.round hq) ?_
    rcases hlone with h | ⟨h, -⟩
    · exact .inl (by simpa using h)
    · exact .inr ⟨by simpa using h, _, _, rfl, by simpa using hs, by simp⟩
  | @arm P W k live m =>
    obtain ⟨hone, hs, -⟩ := hlone.only (by simp)
    have hP : callers P W = 0 := by simpa using hone
    refine hv.move (fun q hq => hq) (.inr ⟨by simp [hP], _, _, rfl, hs, fun slot hslot => ?_⟩)
    obtain rfl : _ = slot := by simpa [not_calls hP] using hslot
    rw [Tracker.receive_fst, if_pos (Tracker.waits_arm _)]
    simp
  | @retry P W k live slot m hr =>
    obtain ⟨hone, hs, hslot⟩ := hlone.only (by simp)
    have hP : callers P W = 0 := by simpa using hone
    refine hv.resume (by simpa using hslot slot (by simp) hr) fun n => ?_
    exact .inr ⟨by simp [hP], _, _, rfl, by simpa using hs,
      fun slot hs => by simp [not_calls hP] at hs⟩
  | learn _ _ | giveUp _ => exact hv.stay (.inl hlone.unwait)

end Outbox
