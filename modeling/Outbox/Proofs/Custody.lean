import Mathlib.Tactic.Abel
import Outbox.Proofs.Owed

/-! Where the messages are. A message that was handed in is in a buffer, at the broker, in hand, or
    it is owed to a caller, who finds a retry in its slot; or it has left for good, and the journal
    says how. Every move but one keeps this account, whatever is known of the messages by `φ`, as
    long as the broker reports what is known. The exception is a caller who is given up. -/

namespace Outbox

/-- The message is there and nothing was concluded about it. -/
@[simp] def Place.isHeld : Place → Bool
  | forsaken _ | parted | lost .. | settled .. => false
  | _ => true

theorem Place.Tells.isHeld_eq {p p' : Place} {kind : HookKind} {e : Option BrokerError}
    (h : p.Tells kind e p') : p'.isHeld = p.isHeld := by
  cases h <;> rfl

/-- The message that the event is the end of, if it ends in one of these ways. -/
def Event.leaving (ways : Fate → Bool) : Event → Option Message
  | concluded m fate => if ways fate then some m else none
  | _ => none

/-- The message that was handed in. -/
def Event.coming : Event → Option Message
  | submitted m => some m
  | _ => none

/-- What the events of the journal say of something. -/
def gather {ι : Type} (f : Event → Option ι) (J : List Entry) : Multiset ι :=
  (J.filterMap fun e => f e.event : List ι)

@[simp] theorem gather_cons {ι : Type} (f : Event → Option ι) (e : Entry) (J : List Entry) :
    gather f (e :: J) = (f e.event).elim 0 ({·}) + gather f J := by
  rw [gather, gather, List.filterMap_cons]
  cases f e.event with
  | none => exact (zero_add _).symm
  | some x => rfl

/-- The messages that left in one of these ways. -/
def departed (ways : Fate → Bool) (J : List Entry) : Multiset Message :=
  gather (·.leaving ways) J

/-- The messages that were handed in. -/
def arrived (J : List Entry) : Multiset Message := gather Event.coming J

@[simp] theorem departed_cons (ways : Fate → Bool) (e : Entry) (J : List Entry) :
    departed ways (e :: J) = (e.event.leaving ways).elim 0 ({·}) + departed ways J :=
  gather_cons ..

@[simp] theorem arrived_cons (e : Entry) (J : List Entry) :
    arrived (e :: J) = e.event.coming.elim 0 ({·}) + arrived J :=
  gather_cons ..

theorem Event.leaving_of_isAside {ways : Fate → Bool} {e : Event} (h : e.isAside = true) :
    e.leaving ways = none := by
  cases e <;> simp_all [isAside, leaving]

theorem Event.coming_of_isAside {e : Event} (h : e.isAside = true) : e.coming = none := by
  cases e <;> simp_all [isAside, coming]

/-! ### The account -/

/-- From `x` to `y`, the same is added to `f` and to `g`. -/
def Apace {σ ι : Type} (f g : σ → Multiset ι) (x y : σ) : Prop := f y + g x = f x + g y

theorem Apace.trans {σ ι : Type} {f g : σ → Multiset ι} {x y z : σ} (h : Apace f g x y)
    (h' : Apace f g y z) : Apace f g x z := by
  have h : f y + g x = f x + g y := h
  have h' : f z + g y = f y + g z := h'
  refine add_right_cancel (b := g y) ?_
  calc f z + g x + g y = (f z + g y) + g x := by abel
    _ = (f y + g x) + g z := by rw [h']; abel
    _ = f x + g z + g y := by rw [h]; abel

variable {β κ α ι : Type} {c : Client β} {told : β → β → Prop} {b₀ : β} {law law' : Law}
  {S S' : Scene c κ α} {φ : Message → ι}

/-- The messages in hand that are at one of these places. -/
def inHand (here : Place → Bool) (H : Multiset (Place × Message)) : Multiset Message :=
  (H.filter fun h => here h.1 = true).map Prod.snd

@[simp] theorem inHand_zero (here : Place → Bool) : inHand here 0 = 0 := rfl

theorem inHand_cons (here : Place → Bool) (p : Place) (m : Message)
    (H : Multiset (Place × Message)) :
    inHand here ((p, m) ::ₘ H) = (if here p then {m} else 0) + inHand here H := by
  rw [inHand, Multiset.filter_cons, Multiset.map_add]
  split <;> rfl

namespace Scene

/-- All the messages that did not leave. -/
def held (S : Scene c κ α) : Multiset Message :=
  S.world.stock + S.flight + inHand Place.isHeld S.hands + owed S.world S.waits

/-- What is known of all the messages that were ever there. -/
def account (φ : Message → ι) (S : Scene c κ α) : Multiset ι :=
  (S.held + departed (fun _ => true) S.world.journal).map φ

/-- The account when nothing is in hand and nobody waits. -/
theorem account_rest (T : List c.Task) (M : Multiset Message) (s : World β κ α) :
    account φ (⟨T, 0, 0, M, s⟩ : Scene c κ α) =
      (s.stock + M + departed (fun _ => true) s.journal).map φ := by
  simp [account, held, owed]

/-- Between the scenes no message is lost, and none is there that was not handed in. -/
def Conserves (φ : Message → ι) (S S' : Scene c κ α) : Prop :=
  Apace (account φ) (fun S => (arrived S.world.journal).map φ) S S'

section Parts

variable {T T' : List c.Task} {H H' : Multiset (Place × Message)} {W W' : Multiset (Nat × Message)}
  {M M' : Multiset Message} {s t : World β κ α} {p p' : Place} {m : Message}

/-- Some messages leave and some come in, and the others are there as before. -/
theorem Conserves.of_map (gone new : Multiset Message)
    (hgone : departed (fun _ => true) t.journal = gone + departed (fun _ => true) s.journal)
    (hnew : arrived t.journal = new + arrived s.journal)
    (h : (t.stock + M' + inHand Place.isHeld H' + owed t W' + gone).map φ =
      (s.stock + M + inHand Place.isHeld H + owed s W + new).map φ) :
    Conserves φ (⟨T, H, W, M, s⟩ : Scene c κ α) ⟨T', H', W', M', t⟩ := by
  rw [Multiset.map_add, Multiset.map_add _ _ new] at h
  rw [Conserves, Apace, account, account, hgone, hnew, Multiset.map_add _ new, Multiset.map_add,
    Multiset.map_add _ gone, Multiset.map_add]
  calc (Scene.held ⟨T', H', W', M', t⟩).map φ + (gone.map φ +
          (departed (fun _ => true) s.journal).map φ) + (arrived s.journal).map φ
      = ((Scene.held ⟨T', H', W', M', t⟩).map φ + gone.map φ) +
        ((departed (fun _ => true) s.journal).map φ + (arrived s.journal).map φ) := by abel
    _ = ((Scene.held ⟨T, H, W, M, s⟩).map φ + new.map φ) +
        ((departed (fun _ => true) s.journal).map φ + (arrived s.journal).map φ) :=
      congrArg (· + _) h
    _ = _ := by abel

theorem Conserves.of_eq (gone new : Multiset Message)
    (hgone : departed (fun _ => true) t.journal = gone + departed (fun _ => true) s.journal)
    (hnew : arrived t.journal = new + arrived s.journal)
    (h : t.stock + M' + inHand Place.isHeld H' + owed t W' + gone =
      s.stock + M + inHand Place.isHeld H + owed s W + new) :
    Conserves φ (⟨T, H, W, M, s⟩ : Scene c κ α) ⟨T', H', W', M', t⟩ :=
  .of_map gone new hgone hnew (congrArg _ h)

/-- The same messages are there. -/
theorem Conserves.kept
    (hgone : departed (fun _ => true) t.journal = departed (fun _ => true) s.journal)
    (hnew : arrived t.journal = arrived s.journal)
    (h : t.stock + M' + inHand Place.isHeld H' = s.stock + M + inHand Place.isHeld H)
    (ho : owed t W' = owed s W) :
    Conserves φ (⟨T, H, W, M, s⟩ : Scene c κ α) ⟨T', H', W', M', t⟩ :=
  .of_eq 0 0 (by rw [hgone, zero_add]) (by rw [hnew, zero_add]) (by rw [h, ho])

/-- A message in hand comes to another place, and is there before and after, or not. -/
theorem Conserves.hand (hp : p'.isHeld = p.isHeld)
    (hgone : departed (fun _ => true) t.journal = departed (fun _ => true) s.journal)
    (hnew : arrived t.journal = arrived s.journal) (hstock : t.stock = s.stock)
    (ho : owed t W' = owed s W) :
    Conserves φ (⟨T, (p, m) ::ₘ H, W, M, s⟩ : Scene c κ α) ⟨T', (p', m) ::ₘ H, W', M, t⟩ :=
  .kept hgone hnew (by rw [hstock, inHand_cons, inHand_cons, hp]) ho

/-- A message in hand is another from now on, of which the same is known. -/
theorem Conserves.exchanged {n : Message} (hp : p.isHeld = true) (hp' : p'.isHeld = true)
    (hφ : φ n = φ m) (hj : t.journal = s.journal) (hstock : t.stock = s.stock)
    (ho : owed t W = owed s W) :
    Conserves φ (⟨T, (p, m) ::ₘ H, W, M, s⟩ : Scene c κ α) ⟨T', (p', n) ::ₘ H, W, M, t⟩ := by
  refine .of_map 0 0 (by rw [hj, zero_add]) (by rw [hj, zero_add]) ?_
  simp only [hstock, inHand_cons, hp, hp', if_true, ho, Multiset.map_add, Multiset.map_singleton,
    hφ]

/-- A message in hand is put into a buffer. -/
theorem Conserves.stored (hp : p.isHeld = true)
    (hgone : departed (fun _ => true) t.journal = departed (fun _ => true) s.journal)
    (hnew : arrived t.journal = arrived s.journal) (hstock : t.stock = m ::ₘ s.stock)
    (ho : owed t W = owed s W) :
    Conserves φ (⟨T, (p, m) ::ₘ H, W, M, s⟩ : Scene c κ α) ⟨T', H, W, M, t⟩ := by
  refine .kept hgone hnew ?_ ho
  rw [hstock, inHand_cons, hp, if_pos rfl, ← Multiset.singleton_add]
  abel

/-- A message in hand leaves for good. -/
theorem Conserves.concluded {e : Entry} {fate : Fate} (hp : p.isHeld = true)
    (hH : inHand Place.isHeld H' = inHand Place.isHeld H) (hj : t.journal = e :: s.journal)
    (he : e.event = .concluded m fate) (hstock : t.stock = s.stock)
    (ht : t.trackers = s.trackers.release m) :
    Conserves φ (⟨T, (p, m) ::ₘ H, W, M, s⟩ : Scene c κ α) ⟨T', H', W, M, t⟩ := by
  refine .of_eq {m} 0 ?_ ?_ ?_
  · rw [hj, departed_cons, he]
    rfl
  · rw [hj, arrived_cons, he]
    rfl
  · rw [hstock, hH, owed_release ht, inHand_cons, hp, if_pos rfl]
    abel

end Parts

end Scene

/-- The messages that are somewhere or are waited for. -/
def Thread.messages (v : Thread) : Multiset Message := v.spots.map Prod.snd + v.waits.map Prod.snd

/-- Of all messages with one id the same is known. -/
def Alike (φ : Message → ι) (v : Thread) : Prop := ∃ i, ∀ m ∈ v.messages, φ m = i

theorem Alike.of_sub {v v' : Thread} (ha : Alike φ v) (h : v'.messages ⊆ v.messages) :
    Alike φ v' := by
  obtain ⟨i, hi⟩ := ha
  exact ⟨i, fun m hm => hi m (h hm)⟩

theorem Alike.turn {X : TrackingId} {mute : Prop} {v v' : Thread} {b : Option Beat}
    (h : Turn X law mute (fun n m => φ n = φ m) v b v') (hb : b ≠ some .handed)
    (hclean : v.entry = none → v.spots = 0 ∧ v.waits = 0) (ha : Alike φ v) : Alike φ v' := by
  cases h with
  | rest => exact ha
  | @birth P W m _ | @birthEngaged P W m _ =>
    obtain ⟨rfl, rfl⟩ : P = 0 ∧ W = 0 := hclean rfl
    exact ⟨φ m, by simp [Thread.messages]⟩
  | submit => exact absurd rfl hb
  | @report P W e n m f hn =>
    obtain ⟨i, hi⟩ := ha
    refine ⟨i, fun l hl => ?_⟩
    rw [Thread.messages, Multiset.map_cons, Multiset.cons_add, Multiset.mem_cons] at hl
    rcases hl with rfl | hl
    · exact hn ▸ hi n (by simp [Thread.messages])
    · refine hi l ?_
      rw [Thread.messages, Multiset.map_cons, Multiset.cons_add]
      exact Multiset.mem_cons_of_mem hl
  | @accept P W e w m =>
    refine ha.of_sub ?_
    cases w <;> simp [Thread.messages, Multiset.subset_iff]
  | _ => exact ha.of_sub (by simp +contextual [Thread.messages, Multiset.subset_iff])

/-! ### What a move keeps -/

namespace Scene

/-- What is true of a message in hand that has an issued id. -/
theorem at_hand {T : List c.Task} {H : Multiset (Place × Message)} {W : Multiset (Nat × Message)}
    {M : Multiset Message} {s : World β κ α} {p : Place} {m : Message} {X : TrackingId} {k : Issued}
    (hs : ∀ X, ((⟨T, (p, m) ::ₘ H, W, M, s⟩ : Scene c κ α).thread X).entry ≠ none →
      ((⟨T, (p, m) ::ₘ H, W, M, s⟩ : Scene c κ α).thread X).Sound X law')
    (hm : m.tracking = some X) (hk : s.trackers.lookup? X = some k) :
    Thread.At X (along X W) (some k) p := by
  have h := hs X (by simp [thread, hk])
  rw [thread, places_hand, along_pos hm, hk] at h
  exact h.at_spot.2

/-- A message is left to the caller who waits for it, or is found by that caller. -/
inductive Lends : Scene c κ α → Scene c κ α → Prop where
  | leave {T H W M} {s : World β κ α} {id : TrackingId} {e : BrokerError} {m : Message}
      (hm : m.tracking = some id) (hg : s.grants id = some .sync) :
      Lends ⟨T, (.heard (some id) (some e), m) ::ₘ H, W, M, s⟩
        ⟨T, H, W, M, (s.granted id m).acknowledged (some id) .retry m⟩
  | retry {T H W M} {s : World β κ α} {slot : Nat} {m : Message} {id : TrackingId}
      (hm : m.tracking = some id) (hr : s.receipt id slot = .outcome .retry) :
      Lends ⟨T, H, (slot, m) ::ₘ W, M, s⟩ ⟨T, (.engaged, m) ::ₘ H, W, M, s.looked id slot⟩

/-- Any other move loses no message if the same is owed after it. -/
theorem Conserves.of_owed (hc : c.Honest told b₀) (hk : c.Keeps (fun n m => φ n = φ m) told b₀)
    (hφ : ∀ m X, φ { m with tracking := X } = φ m) (h : Move c told law S S')
    (hf : ¬ law.failing) (hS : S.Balanced told b₀) :
    S.Lends S' ∨ (owed S'.world S'.waits = owed S.world S.waits → S.Conserves φ S') := by
  have hattach (s : World β κ α) (m : Message) (sender : Sender) (budget : Nat) :
      φ (s.attach m sender budget).2.1 = φ m := by
    rcases s.trackers.attach_cases m sender budget with ⟨id, -, ha⟩ | ⟨-, -, hm, -⟩
    · exact congrArg φ (congrArg (·.2.1) ha)
    · exact (congrArg φ hm).trans (hφ m _)
  cases h with
  | leave hm hg => exact .inl (.leave hm hg)
  | retry hm hr => exact .inl (.retry hm hr)
  | giveUp _ hf' => exact absurd hf' hf
  | outside hp hj _ =>
    exact .inr (.kept (by rw [hj]) (by rw [hj]) (by simp only [Site.stock, hp]))
  | aside he =>
    refine .inr (.kept ?_ ?_ rfl)
    · simp [Event.leaving_of_isAside he]
    · simp [Event.coming_of_isAside he]
  | adjust hf =>
    refine .inr (.kept rfl rfl ?_)
    simp only [Site.stock, Site.producer_amended, hf.regular, hf.retry]
  | arrange regular retry hb => exact .inr (.kept rfl rfl (by rw [Site.stock_rebuffered, hb]))
  | @submit T H W M s m =>
    refine .inr fun ho => .of_eq 0 {m} (by simp [Event.leaving]) (by simp [Event.coming]) ?_
    rw [ho]
    simp only [Site.stock_noted, inHand_cons, Place.isHeld, if_true]
    abel
  | attach _ => exact .inr (.exchanged rfl rfl (hattach _ _ _ _) rfl rfl)
  | engage _ => exact .inr (.exchanged rfl rfl (hattach _ _ _ _) rfl rfl)
  | store regular retry hb =>
    exact .inr (.stored rfl rfl rfl (by rw [Site.stock_rebuffered, hb]))
  | @take T H W M s m regular retry hb =>
    refine .inr (.kept rfl rfl ?_)
    rw [Site.stock_rebuffered, hb, inHand_cons, ← Multiset.singleton_add m]
    simp only [Place.isHeld, if_true]
    abel
  | discard => exact .inr fun _ => .concluded rfl rfl rfl rfl rfl rfl
  | @accept T H W M s w m b _ =>
    refine .inr (.kept (by simp [Event.leaving]) (by simp [Event.coming]) ?_)
    rw [Site.stock_accepted, inHand_cons, ← Multiset.singleton_add m M]
    simp only [Place.isHeld, if_true]
    abel
  | full _ _ => exact .inr (.kept (by simp [Event.leaving]) (by simp [Event.coming]) rfl)
  | refuse _ _ => exact .inr (.hand rfl (by simp [Event.leaving]) (by simp [Event.coming]) rfl)
  | tell hp =>
    exact .inr (.hand hp.isHeld_eq (by simp [Event.leaving]) (by simp [Event.coming]) rfl)
  | hush hp _ => exact .inr (.hand hp.isHeld_eq rfl rfl rfl)
  | requeue _ _ | retake _ _ =>
    exact .inr (.hand rfl (by simp [Event.leaving]) (by simp [Event.coming]) rfl)
  | forsake | deliver | lose =>
    exact .inr fun _ => .concluded rfl (by simp [inHand_cons]) rfl rfl rfl rfl
  | part => exact .inr (.kept rfl rfl (by simp [inHand_cons]))
  | vain _ | begin _ _ | more _ | finish _ | learn _ _ _ => exact .inr (.kept rfl rfl rfl)
  | @report T H W M s task next r b clock hstep =>
    have hm := hk hS.course hstep
    obtain ⟨hmem, -⟩ := meant_spec (hc hS.course hstep)
    generalize meant M r.message = n at hm hmem ⊢
    obtain ⟨M, rfl⟩ := Multiset.exists_cons_of_mem hmem
    refine .inr fun ho => .of_map 0 0 (zero_add _).symm (zero_add _).symm ?_
    rw [Multiset.erase_cons_head, ← Multiset.singleton_add n, ho]
    simp only [Site.stock_turned, inHand_cons, Place.isHeld, if_true, Multiset.map_add,
      Multiset.map_singleton, hm]
    abel
  | acknowledge _ =>
    exact .inr (.kept (by simp [Event.leaving]) (by simp [Event.coming]) (by simp [inHand_cons]))
  | @regain T H W M s id e m regular retry _ _ hb =>
    refine .inr (.stored rfl (by simp [Event.leaving]) (by simp [Event.coming]) ?_)
    rw [Site.stock_acknowledged, Site.stock_rebuffered, hb]
  | arm _ => exact .inr (.hand rfl rfl rfl rfl)

/-- If the threads are sound, the same is owed after any other move. -/
theorem owed_move (h : Move c told law S S') (hf : ¬ law.failing)
    (hs : ∀ X, (S.thread X).entry ≠ none → (S.thread X).Sound X law') :
    S.Lends S' ∨ owed S'.world S'.waits = owed S.world S.waits := by
  cases h with
  | leave hm hg => exact .inl (.leave hm hg)
  | retry hm hr => exact .inl (.retry hm hr)
  | giveUp _ hf' => exact absurd hf' hf
  | outside hp _ _ => exact .inr (owed_of_trackers (by simp only [Site.trackers, hp]))
  | adjust hf => exact .inr (owed_of_trackers (hf.trackers _))
  | vain _ | requeue _ _ | retake _ _ =>
    exact .inr (owed_of_receive (f := (·.claimRetry.2)) rfl Tracker.receive_claimRetry)
  | attach _ => exact .inr (owed_attach rfl)
  | engage _ =>
    exact .inr ((owed_of_receive (f := (·.setSender .sync)) rfl
      fun k i => Tracker.receive_setSender k i _).trans (owed_attach rfl))
  | discard | forsake | deliver | lose => exact .inr (owed_release rfl)
  | @accept T H W M s w m b _ =>
    refine .inr (owed_accepted fun slot hw => not_owes_of_armed (W := W) fun X k hm hk => ?_)
    subst hw
    exact at_hand hs hm hk
  | @acknowledge T H W M s k f m hk =>
    cases k with
    | none => exact .inr (owed_of_trackers rfl)
    | some id =>
      exact .inr (owed_acknowledged (by cases f <;> simp) fun k hk' => at_hand hs (hk id rfl) hk')
  | @regain T H W M s id e m regular retry hm hg hb =>
    obtain ⟨k, live, hk, -, hsender⟩ := entry_of_grants hg
    have hW : along id W = 0 := by
      obtain ⟨-, h | ⟨_, _, t, -, ht, hs', -⟩⟩ := at_hand hs hm hk
      · exact h.1
      · obtain ⟨rfl, -⟩ := Issued.mk.inj (Option.some_inj.mp ht)
        exact absurd (hsender.symm.trans hs') (by simp)
    refine .inr ?_
    calc owed (((s.granted id m).rebuffered regular retry).acknowledged (some id) .retry m) W
        = owed ((s.granted id m).rebuffered regular retry) W :=
          owed_of_nobody (f := (·.complete .retry)) (Site.trackers_acknowledged ..) hW
      _ = owed s W := owed_of_nobody (f := (·.claimRetry.2)) rfl hW
  | @arm T H W M s m id hm =>
    cases hk : s.trackers.lookup? id with
    | none => exact .inr (owed_update (f := (·.arm.2)) rfl fun w _ => by rw [hk]; rfl)
    | some k => exact .inr (owed_of_nobody (f := (·.arm.2)) rfl (at_hand hs hm hk).1)
  | @learn T H W M s slot m id hm hr hp =>
    refine .inr ?_
    rw [owed_cons, not_owes_of_receipt hm hr, owed_looked hr]
    exact (zero_add _).symm
  | _ => exact .inr (owed_of_trackers rfl)

/-- What is left to a caller is owed to it, and what the caller finds is owed no more. -/
theorem Lends.conserves (h : S.Lends S')
    (hs : ∀ X, (S.thread X).entry ≠ none → (S.thread X).Sound X law')
    (ha : ∀ X, (S.thread X).entry ≠ none → Alike φ (S.thread X)) : S.Conserves φ S' := by
  cases h with
  | @leave T H W M s id e m hm hg =>
    obtain ⟨k, live, hk, -, hsender⟩ := entry_of_grants hg
    obtain ⟨w, hw, ho⟩ := owed_left (m := m) hk hsender (at_hand hs hm hk).2
    have hφw : φ w.2 = φ m := by
      obtain ⟨i, hi⟩ := ha id (by simp [thread, hk])
      rw [Thread.messages, thread, places_hand, along_pos hm] at hi
      have hw := Multiset.mem_map_of_mem Prod.snd hw
      rw [hi w.2 (Multiset.mem_add.mpr (.inr hw)), hi m (by simp)]
    refine .of_map 0 0 (by simp [Event.leaving]) (by simp [Event.coming]) ?_
    simp only [Site.stock_acknowledged, Site.stock_granted, inHand_cons, Place.isHeld, if_true,
      ho, Multiset.map_add, Multiset.map_singleton, hφw]
    abel
  | @retry T H W M s slot m id hm hr =>
    obtain ⟨k, hk, hr⟩ := entry_of_receipt hr
    have howes : s.owes (slot, m) = true := owes_iff.mpr ⟨id, k, hm, hk, hr⟩
    have hW : along id W = 0 := by
      have h := hs id (by simp [thread, hk])
      rw [thread, along_pos hm, hk] at h
      exact (h.of_retry hr).2.1
    have ho : owed (s.looked id slot) W = owed s W :=
      owed_of_nobody (f := fun k => (k.receive slot).2) rfl hW
    refine .of_eq 0 0 (zero_add _).symm (zero_add _).symm ?_
    simp only [Site.stock_looked, inHand_cons, Place.isHeld, if_true, owed_cons, howes, ho]
    abel

theorem Conserves.move (hc : c.Honest told b₀) (hk : c.Keeps (fun n m => φ n = φ m) told b₀)
    (hφ : ∀ m X, φ { m with tracking := X } = φ m) (h : Move c told law S S')
    (hf : ¬ law.failing) (hS : S.Balanced told b₀)
    (hs : ∀ X, (S.thread X).entry ≠ none → (S.thread X).Sound X law')
    (ha : ∀ X, (S.thread X).entry ≠ none → Alike φ (S.thread X)) : S.Conserves φ S' := by
  rcases Conserves.of_owed hc hk hφ h hf hS with hlends | hconserves
  · exact hlends.conserves hs ha
  · rcases owed_move h hf hs with hlends | ho
    · exact hlends.conserves hs ha
    · exact hconserves ho

end Scene

/-! ### What sequences of moves keep -/

/-- What the one law allows, the other allows. -/
structure Law.Within (law law' : Law) : Prop where
  failing : law.failing → law'.failing
  nested : law.nested → law'.nested

theorem Move.mono (hl : law.Within law') (h : Move c told law S S') : Move c told law' S S' := by
  cases h with
  | engage h => exact .engage (h.imp_left hl.nested)
  | giveUp hm h => exact .giveUp hm (hl.failing h)
  | outside hp hj hb => exact .outside hp hj hb
  | aside he => exact .aside he
  | adjust hf => exact .adjust hf
  | vain hg => exact .vain hg
  | arrange regular retry hb => exact .arrange regular retry hb
  | submit m => exact .submit m
  | attach ht => exact .attach ht
  | store regular retry hb => exact .store regular retry hb
  | take regular retry hb => exact .take regular retry hb
  | discard => exact .discard
  | accept hs => exact .accept hs
  | full hs he => exact .full hs he
  | refuse hs he => exact .refuse hs he
  | tell hp => exact .tell hp
  | hush hp hk => exact .hush hp hk
  | requeue hm hg => exact .requeue hm hg
  | retake hm hg => exact .retake hm hg
  | forsake hv => exact .forsake hv
  | part => exact .part
  | begin task ht => exact .begin task ht
  | more hs => exact .more hs
  | report hs => exact .report hs
  | finish hs => exact .finish hs
  | deliver => exact .deliver
  | lose hv => exact .lose hv
  | acknowledge hk => exact .acknowledge hk
  | regain regular retry hm hg hb => exact .regain regular retry hm hg hb
  | leave hm hg => exact .leave hm hg
  | arm hm => exact .arm hm
  | retry hm hr => exact .retry hm hr
  | learn hm hr hp => exact .learn hm hr hp

theorem Move.mono_moves (hl : law.Within law')
    (h : Relation.ReflTransGen (Move c told law) S S') :
    Relation.ReflTransGen (Move c told law') S S' :=
  h.lift (fun A => A) fun _ _ h => h.mono hl

/-- The ids that a producer gives out have its scope, and always the same. -/
theorem Move.scope (h : Move c told law S S') :
    S'.world.trackers.scope = S.world.trackers.scope := by
  cases h with
  | outside hp _ _ => simp only [Site.trackers, hp]
  | adjust hf => exact congrArg TrackerTable.scope (hf.trackers _)
  | @acknowledge T H W M s k f m hk => cases k <;> simp
  | engage _ => simp [Site.engage]
  | _ => simp

namespace Scene

/-- Under all ids of the scope, which is the producer's, the threads are sound and their messages
    alike. -/
structure Orderly (φ : Message → ι) (law : Law) (scope : Nat) (S : Scene c κ α) : Prop where
  issuer : S.world.trackers.scope = scope
  sound : ∀ X, X.scope = scope → (S.thread X).Sound X law
  alike : ∀ X, X.scope = scope → Alike φ (S.thread X)

variable {scope : Nat}

theorem Orderly.move (hc : c.Honest told b₀) (hk : c.Keeps (fun n m => φ n = φ m) told b₀)
    (h : Move c told law S S') (hS : S.Balanced told b₀)
    (hX : ∀ X, X.scope = scope → Unforged X S'.world.journal) (ho : S.Orderly φ law scope) :
    S'.Orderly φ law scope := by
  refine ⟨h.scope.trans ho.issuer, fun X hs => ?_, fun X hs => ?_⟩ <;>
    obtain ⟨b, ht, hb⟩ := h.turns (X := X) hc hk hS (ho.sound X hs).clean <;>
    have hne : b ≠ some .handed := fun h => unforged_iff.mp (hX X hs) (by simp [hb, h])
  · exact (ho.sound X hs).turn ht hne
  · exact (ho.alike X hs).turn ht hne (ho.sound X hs).clean

theorem Orderly.moves (hc : c.Honest told b₀) (hk : c.Keeps (fun n m => φ n = φ m) told b₀)
    (h : Relation.ReflTransGen (Move c told law) S S') (hS : S.Balanced told b₀)
    (hX : ∀ X, X.scope = scope → Unforged X S'.world.journal) (ho : S.Orderly φ law scope) :
    S'.Orderly φ law scope := by
  induction h with
  | refl => exact ho
  | tail hmoves h ih =>
    exact (ih fun X hs e he => hX X hs e (h.suffix.subset he)).move hc hk h (hS.moves hc hmoves) hX

/-- An entry is found only under an id of the scope. -/
theorem Orderly.scope_eq {X : TrackingId} (ho : S.Orderly φ law scope)
    (he : (S.thread X).entry ≠ none) : X.scope = scope := by
  by_contra hne
  refine he ?_
  rw [thread, TrackerTable.lookup?, if_neg (ho.issuer ▸ hne)]

/-- When no caller is given up, no message is lost on the way from one scene to another. -/
theorem Conserves.moves (hc : c.Honest told b₀) (hk : c.Keeps (fun n m => φ n = φ m) told b₀)
    (hφ : ∀ m X, φ { m with tracking := X } = φ m)
    (h : Relation.ReflTransGen (Move c told law) S S') (hf : ¬ law.failing)
    (hl : law.Within law') (hS : S.Balanced told b₀)
    (hX : ∀ X, X.scope = scope → Unforged X S'.world.journal) (ho : S.Orderly φ law' scope) :
    S.Conserves φ S' := by
  induction h with
  | refl => exact rfl
  | @tail B _ hmoves h ih =>
    have hX' := fun X hs e he => hX X hs e (h.suffix.subset he)
    have ho' := ho.moves hc hk (Move.mono_moves hl hmoves) hS hX'
    have hsound := fun X he => ho'.sound X (ho'.scope_eq he)
    have halike := fun X he => ho'.alike X (ho'.scope_eq he)
    exact (ih hX').trans (Conserves.move hc hk hφ h hf (hS.moves hc hmoves) hsound halike)

theorem orderly_opening (φ : Message → ι) (law : Law) (c : Client β) (b : β) (clock : Clock)
    (settings : Settings) (scope : Nat) (a : α) :
    (⟨[], 0, 0, 0, .opening b clock settings scope a⟩ : Scene c κ α).Orderly φ law scope := by
  refine ⟨rfl, fun X _ => .inl ⟨rfl, .inl ⟨rfl, Site.lookup?_opening⟩⟩,
    fun X _ => ⟨φ { topic := "" }, ?_⟩⟩
  · intro m hm
    simp [thread, Thread.messages, Site.opening, Site.stock, Site.producer, Producer.start, places,
      along, Buffer.messages] at hm

end Scene

end Outbox
