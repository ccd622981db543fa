import Outbox.Proofs.Scripts
import Outbox.Proofs.Tally

/-! Messages that nobody has. A caller is given up when the client fails while it waits. If a retry
    was granted to its message before that, nobody reads of it in the caller's slot, and the message
    is lost: it is stranded, its tracker live, but it is in no buffer and not at the broker. Main
    statement: this is the only way in which an operation loses a message, whatever errors the
    client answers with, as long as hooks leave the producer alone. -/

namespace Outbox

variable {β κ α ι : Type} {c : Client β} {told : β → β → Prop} {b₀ : β} {law law' : Law}
  {S S' : Scene c κ α} {X : TrackingId} {φ : Message → ι}

/-! ### Threads without a message -/

namespace Thread

/-- The message is nowhere and nobody waits for it, and it is not done with. -/
structure Gone (v : Thread) : Prop where
  spots : v.spots = 0
  waits : v.waits = 0
  live : v.entry.any (·.live) = true

/-- Where there is no message nothing happens any more. -/
theorem Gone.turn {mute : Prop} {like : Message → Message → Prop} {v v' : Thread} {b : Option Beat}
    (hv : v.Gone) (h : Turn X law mute like v b v') (hb : b ≠ some .handed) : v'.Gone := by
  obtain ⟨hP, hW, he⟩ := hv
  cases h with
  | rest => exact ⟨hP, hW, he⟩
  | birth | birthEngaged => simp at he
  | submit => exact absurd rfl hb
  | retry _ | learn _ _ | giveUp _ => exact absurd hW Multiset.cons_ne_zero
  | _ => exact absurd hP Multiset.cons_ne_zero

theorem Sound.failing_of_gone {v : Thread} (h : Sound X law v) (hg : v.Gone) : law.failing := by
  obtain ⟨hP, hW, he⟩ := hg
  rcases h with ⟨-, ⟨-, h⟩ | ⟨_, _, _, h, -⟩ | ⟨_, h, -⟩ | ⟨h, -⟩⟩ | ⟨p, m, h, -⟩
  · simp [h] at he
  · simp [h] at hW
  · simp [h] at he
  · exact h
  · simp [h] at hP

/-- Of the law a sound thread needs only that it allows for its message being lost. -/
theorem Sound.of_gone {v : Thread} (h : Sound X law v) (hg : v.Gone → law'.failing) :
    Sound X law' v := by
  rcases h with ⟨hP, h | h | h | ⟨-, h⟩⟩ | h
  · exact .inl ⟨hP, .inl h⟩
  · exact .inl ⟨hP, .inr (.inl h)⟩
  · exact .inl ⟨hP, .inr (.inr (.inl h))⟩
  · refine .inl ⟨hP, .inr (.inr (.inr ⟨hg ⟨hP, h.1, ?_⟩, h⟩))⟩
    obtain ⟨-, k, hk, -⟩ := h
    simp [hk]
  · exact .inr h

/-- If the message is nowhere and not done with, the last that was told of it is that it is going to
    be sent again. -/
def Claimed (v : Thread) (bs : List Beat) : Prop :=
  v.spots = 0 → v.entry.any (·.live) = true → bs.getLast? = some .granted

theorem Claimed.turn {mute : Prop} {like : Message → Message → Prop} {v v' : Thread}
    {b : Option Beat} {bs : List Beat} (hc : Claimed v bs) (hv : Sound X law v)
    (h : Turn X law mute like v b v') (hb : b ≠ some .handed) : Claimed v' (bs ++ b.toList) := by
  intro hP he
  cases h with
  | rest | learn _ _ => simpa using hc hP he
  | giveUp _ =>
    rw [Option.any_map] at he
    exact (List.append_nil bs).symm ▸ hc hP he
  | submit => exact absurd rfl hb
  | leave _ _ => exact List.getLast?_concat ..
  | shed => simp at he
  | @discard P W e m => cases e <;> simp [Issued.ended] at he
  | part =>
    obtain ⟨-, k, rfl, -⟩ := hv.at_spot
    simp at he
  | @acknowledge P W e k f m =>
    obtain ⟨-, t, rfl, -⟩ := hv.at_spot
    cases k <;> simp [Issued.under] at he
  | _ => exact absurd hP Multiset.cons_ne_zero

end Thread

/-! ### Scenes and worlds -/

namespace Scene

/-- A message that is nowhere stays nowhere. -/
theorem gone_moves (hc : c.Honest told b₀) (h : Relation.ReflTransGen (Move c told law) S S')
    (hS : S.Balanced told b₀) (hX : Unforged X S'.world.journal) (hg : (S.thread X).Gone) :
    (S'.thread X).Gone := by
  induction h with
  | refl => exact hg
  | @tail B _ hmoves h ih =>
    have hg := ih fun e he => hX e (h.suffix.subset he)
    have hne : (B.thread X).entry ≠ none := fun he => absurd hg.live (by simp [he])
    obtain ⟨b, ht, hb⟩ := h.turns hc Client.keeps_trivial (hS.moves hc hmoves)
      fun he => absurd he hne
    exact hg.turn ht fun hb' => unforged_iff.mp hX (by simp [hb, hb'])

/-- When no caller is given up, no message gets lost. -/
theorem gone_of_moves (hc : c.Honest told b₀) (h : Relation.ReflTransGen (Move c told law) S S')
    (hf : ¬ law.failing) (hS : S.Balanced told b₀) (hX : Unforged X S'.world.journal)
    (hs : (S.thread X).Sound X law') (hg : (S'.thread X).Gone) : (S.thread X).Gone := by
  have hs : (S.thread X).Sound X ⟨(S.thread X).Gone, law.nested⟩ := hs.of_gone id
  have hl : law.Within ⟨(S.thread X).Gone, law.nested⟩ := ⟨fun h => absurd h hf, id⟩
  have hmoves := Move.mono_moves hl h
  exact (sound_moves hc hmoves hS hX hs).failing_of_gone hg

theorem claimed_moves (hc : c.Honest told b₀) (h : Relation.ReflTransGen (Move c told law) S S')
    (hS : S.Balanced told b₀) (hX : Unforged X S'.world.journal) (hs : (S.thread X).Sound X law)
    (hclaim : (S.thread X).Claimed (beats X S.world.journal)) :
    (S'.thread X).Claimed (beats X S'.world.journal) := by
  induction h with
  | refl => exact hclaim
  | tail hmoves h ih =>
    have hX' := fun e he => hX e (h.suffix.subset he)
    have hs' := sound_moves hc hmoves hS hX' hs
    obtain ⟨b, ht, hb⟩ := h.turns hc Client.keeps_trivial (hS.moves hc hmoves) hs'.clean
    rw [hb]
    exact (ih hX').turn hs' ht fun hb' => unforged_iff.mp hX (by simp [hb, hb'])

end Scene

/-- What the broker accepted and has not reported, as far as `φ` tells. -/
def flying [DecidableEq ι] (φ : Message → ι) (J : List Entry) : Multiset ι :=
  (gather Event.accepting J).map φ - (gather Event.settling J).map φ

theorem Scene.Reported.flying_eq [DecidableEq ι] {T : List c.Task} {W : Multiset (Nat × Message)}
    {M : Multiset Message} {s : World β κ α}
    (h : (⟨T, 0, W, M, s⟩ : Scene c κ α).Reported φ) : flying φ s.journal = M.map φ := by
  have h : (M + inHand Place.isPending 0 + gather Event.settling s.journal).map φ = _ := h
  rw [flying, ← h, inHand_zero, add_zero, Multiset.map_add, add_tsub_cancel_right]

namespace Site

/-- What is known of the messages in the buffers and at the broker, and of those that have left. -/
def holdings [DecidableEq ι] (φ : Message → ι) (s : World β κ α) : Multiset ι :=
  s.stock.map φ + flying φ s.journal + (departed (fun _ => true) s.journal).map φ

/-- The tracker is live, but no message with the id is in a buffer or at the broker. -/
structure Stranded (X : TrackingId) (s : World β κ α) : Prop where
  live : (s.trackers.lookup? X).any (·.live) = true
  nowhere : some X ∉ s.stock.map Message.tracking + flying Message.tracking s.journal

/-- From one world to the other no message is lost that was handed in. -/
def Kept [DecidableEq ι] (s : World β κ α) (φ : Message → ι) (t : World β κ α) : Prop :=
  Apace (holdings φ) (fun s => (arrived s.journal).map φ) s t

end Site

section Rest

variable {T : List c.Task} {M : Multiset Message} {s : World β κ α}

theorem Scene.Reported.account_eq [DecidableEq ι] (h : (⟨T, 0, 0, M, s⟩ : Scene c κ α).Reported φ) :
    (⟨T, 0, 0, M, s⟩ : Scene c κ α).account φ = s.holdings φ := by
  rw [Scene.account_rest, Site.holdings, h.flying_eq, Multiset.map_add, Multiset.map_add]

theorem Scene.Reported.kept [DecidableEq ι] {M' : Multiset Message} {t : World β κ α}
    (h : (⟨T, 0, 0, M, s⟩ : Scene c κ α).Reported φ)
    (h' : (⟨T, 0, 0, M', t⟩ : Scene c κ α).Reported φ)
    (hs : Scene.Conserves φ (⟨T, 0, 0, M, s⟩ : Scene c κ α) ⟨T, 0, 0, M', t⟩) : s.Kept φ t := by
  rw [Scene.Conserves, Apace, h.account_eq, h'.account_eq] at hs
  exact hs

theorem Scene.Reported.stranded_iff
    (h : (⟨T, 0, 0, M, s⟩ : Scene c κ α).Reported Message.tracking) :
    s.Stranded X ↔ ((⟨T, 0, 0, M, s⟩ : Scene c κ α).thread X).Gone := by
  have hplaces : along X (places s.stock M 0) = 0 ↔
      some X ∉ s.stock.map Message.tracking + M.map Message.tracking := by
    simp only [along, places, add_zero, Multiset.filter_eq_nil, Multiset.mem_add, Multiset.mem_map,
      not_or, not_exists, not_and]
    constructor
    · exact fun h => ⟨fun m hm => h _ (.inl ⟨m, hm, rfl⟩), fun m hm => h _ (.inr ⟨m, hm, rfl⟩)⟩
    · rintro ⟨hstock, hflight⟩ _ (⟨m, hm, rfl⟩ | ⟨m, hm, rfl⟩)
      · exact hstock m hm
      · exact hflight m hm
  constructor
  · rintro ⟨hlive, hnowhere⟩
    exact ⟨hplaces.mpr (h.flying_eq ▸ hnowhere), rfl, hlive⟩
  · rintro ⟨hP, -, hlive⟩
    exact ⟨hlive, h.flying_eq ▸ hplaces.mp hP⟩

end Rest

/-! ### A caller who is given up -/

section GiveUp

variable {T : List c.Task} {H : Multiset (Place × Message)} {W : Multiset (Nat × Message)}
  {M : Multiset Message} {u : World β κ α} {slot : Nat} {m : Message} {id : TrackingId}

theorem Scene.account_giveUp :
    (⟨T, H, W, M, u.entrusted id .async⟩ : Scene c κ α).account φ +
        (if u.owes (slot, m) then {φ m} else 0) =
      (⟨T, H, (slot, m) ::ₘ W, M, u⟩ : Scene c κ α).account φ := by
  have ho : owed (u.entrusted id .async) W = owed u W :=
    owed_of_receive (f := (·.setSender .async)) rfl fun k i => Tracker.receive_setSender k i _
  simp only [Scene.account, Scene.held, Site.stock_entrusted, Site.journal_entrusted, ho, owed_cons]
  split
  · rw [← Multiset.map_singleton φ m, ← Multiset.map_add]
    congr 1
    abel
  · rw [add_zero, zero_add]

/-- A caller who finds no retry in its slot may be given up. -/
theorem Scene.sound_giveUp (hm : m.tracking = some id) (ho : u.owes (slot, m) = false)
    (hs : ((⟨T, H, (slot, m) ::ₘ W, M, u⟩ : Scene c κ α).thread X).Sound X law) :
    ((⟨T, H, W, M, u.entrusted id .async⟩ : Scene c κ α).thread X).Sound X law := by
  simp only [Scene.thread, Site.stock_entrusted, Site.trackers_entrusted,
    TrackerTable.lookup?_update] at hs ⊢
  by_cases hX : m.tracking = some X
  · obtain rfl : id = X := Option.some_inj.mp (hm.symm.trans hX)
    rw [along_pos hX] at hs
    rw [if_pos rfl]
    refine hs.giveUp fun hpark => ?_
    cases hk : u.trackers.lookup? id with
    | none =>
      obtain ⟨-, -, k, -, hk', -⟩ := hpark
      rw [hk] at hk'
      exact absurd hk' (by simp)
    | some k =>
      rw [hk] at hpark
      have howes := owes_iff.mpr ⟨id, k, hm, hk, hpark.eq.2.2.2⟩
      rw [ho] at howes
      exact absurd howes (by simp)
  · have hne : X ≠ id := fun h => hX (h ▸ hm)
    rw [along_neg hX] at hs
    rwa [if_neg hne]

/-- A caller who would find a retry loses the message. -/
theorem Scene.gone_giveUp (hm : m.tracking = some id) (ho : u.owes (slot, m) = true)
    (hs : ((⟨T, H, (slot, m) ::ₘ W, M, u⟩ : Scene c κ α).thread id).Sound id law) :
    ((⟨T, H, W, M, u.entrusted id .async⟩ : Scene c κ α).thread id).Gone := by
  obtain ⟨_, k, hX, hk, hr⟩ := owes_iff.mp ho
  obtain rfl := Option.some_inj.mp (hm.symm.trans hX)
  rw [Scene.thread, along_pos hm, hk] at hs
  obtain ⟨hP, hW, hlive, -⟩ := hs.of_retry hr
  refine ⟨hP, hW, ?_⟩
  simpa [Scene.thread, TrackerTable.lookup?_update, hk, Issued.under] using hlive

end GiveUp

/-- What is lost on the way is lost in the end. -/
theorem Apace.trans_lost {σ : Type} {f g : σ → Multiset ι} {w x y z : σ} {i : Multiset ι}
    (h : Apace f g w x) (hf : f y + i = f x) (hg : g y = g x) (h' : Apace f g y z) :
    f z + i + g w = f w + g z := by
  have h : f x + g w = f w + g x := h
  have h' : f z + g y = f y + g z := h'
  refine add_right_cancel (b := g y) ?_
  calc f z + i + g w + g y = (f z + g y) + (i + g w) := by abel
    _ = (f y + i) + g w + g z := by rw [h']; abel
    _ = f w + g x + g z := by rw [hf, h]
    _ = f w + g z + g y := by rw [hg]; abel

/-- From one scene to the other everything is kept, or one message is lost and everything else is
    kept. -/
def Scene.Loses (φ : Message → ι) (S S' : Scene c κ α) : Prop :=
  (S.Conserves φ S' ∧ ∀ X, (S'.thread X).Gone → (S.thread X).Gone) ∨
  ∃ X i, (S'.thread X).Gone ∧ ¬ (S.thread X).Gone ∧
    S'.account φ + {i} + (arrived S.world.journal).map φ =
      S.account φ + (arrived S'.world.journal).map φ

/-- What is lost can be seen from the worlds. -/
theorem Scene.Loses.kept_iff [DecidableEq ι] {T : List c.Task} {M M' : Multiset Message}
    {s t : World β κ α} (h : Scene.Loses φ (⟨T, 0, 0, M, s⟩ : Scene c κ α) ⟨T, 0, 0, M', t⟩)
    (hr : (⟨T, 0, 0, M, s⟩ : Scene c κ α).Reported φ)
    (hr' : (⟨T, 0, 0, M', t⟩ : Scene c κ α).Reported φ)
    (hid : (⟨T, 0, 0, M, s⟩ : Scene c κ α).Reported Message.tracking)
    (hid' : (⟨T, 0, 0, M', t⟩ : Scene c κ α).Reported Message.tracking) :
    (s.Kept φ t ↔ ∀ X, t.Stranded X → s.Stranded X) ∧
    (¬ s.Kept φ t → ∃ X i, t.Stranded X ∧ ¬ s.Stranded X ∧
      t.holdings φ + {i} + (arrived s.journal).map φ =
        s.holdings φ + (arrived t.journal).map φ) := by
  rcases h with ⟨hconserves, hgone⟩ | ⟨X, i, hg, hng, hlost⟩
  · have hkept : s.Kept φ t := hr.kept hr' hconserves
    have hstranded (X) (h : t.Stranded X) : s.Stranded X :=
      hid.stranded_iff.mpr (hgone X (hid'.stranded_iff.mp h))
    exact ⟨⟨fun _ => hstranded, fun _ => hkept⟩, absurd hkept⟩
  · rw [hr'.account_eq, hr.account_eq] at hlost
    have hnot : ¬ s.Kept φ t := by
      intro hkept
      have hkept : t.holdings φ + _ = _ := hkept
      rw [add_right_comm, hkept, add_eq_left] at hlost
      exact absurd hlost (Multiset.singleton_ne_zero i)
    have ht := hid'.stranded_iff.mpr hg
    have hns : ¬ s.Stranded X := fun h => hng (hid.stranded_iff.mp h)
    exact ⟨⟨fun h => absurd h hnot, fun h => absurd (h X ht) hns⟩,
      fun _ => ⟨X, i, ht, hns, hlost⟩⟩

/-- An id under which a message is lost is one of the scope. -/
theorem Scene.Orderly.scope_of_gone {scope : Nat} (ho : S.Orderly φ law scope)
    (hg : (S.thread X).Gone) : X.scope = scope :=
  ho.scope_eq fun he => absurd hg.live (by simp [he])

theorem Surroundings.Ends.loses {env : Surroundings β κ α} {s t : World β κ α}
    {M : Multiset Message} {scope : Nat} (hc : env.client.Honest told b₀)
    (hk : env.client.Keeps (fun n m => φ n = φ m) told b₀)
    (hφ : ∀ m X, φ { m with tracking := X } = φ m)
    (h : env.Ends told ⟨False, False⟩ (⟨[], 0, 0, ·, s⟩) [] 0 0 t)
    (hS : (⟨[], 0, 0, M, s⟩ : Scene env.client κ α).Balanced told b₀)
    (hX : ∀ X, X.scope = scope → Unforged X t.journal)
    (ho : (⟨[], 0, 0, M, s⟩ : Scene env.client κ α).Orderly φ ⟨True, False⟩ scope) :
    ∃ M', Relation.ReflTransGen (Move env.client told ⟨True, False⟩) ⟨[], 0, 0, M, s⟩
        ⟨[], 0, 0, M', t⟩ ∧
      Scene.Loses φ (⟨[], 0, 0, M, s⟩ : Scene env.client κ α) ⟨[], 0, 0, M', t⟩ := by
  have hl : Law.Within ⟨False, False⟩ ⟨True, False⟩ := ⟨False.elim, False.elim⟩
  rcases h with h | ⟨-, u, slot, m, id, H, hm, h₁, h₂⟩
  · obtain ⟨M', h⟩ := h M
    have hmoves := Move.mono_moves hl h
    refine ⟨M', hmoves, .inl ⟨.moves hc hk hφ h (fun h => h) hl hS hX ho, fun X hg => ?_⟩⟩
    have hscope := (ho.moves hc hk hmoves hS hX).scope_of_gone hg
    exact Scene.gone_of_moves hc h (fun h => h) hS (hX X hscope) (ho.sound X hscope) hg
  obtain ⟨M₁, h₁⟩ := h₁ M
  obtain ⟨M₂, h₂⟩ := h₂ M₁
  have hgive : Move env.client told ⟨True, False⟩ (⟨[], H, (slot, m) ::ₘ 0, M₁, u⟩ : Scene _ κ α)
    ⟨[], H, 0, M₁, u.entrusted id .async⟩ := .giveUp hm trivial
  have hX₁ : ∀ X, X.scope = scope → Unforged X u.journal := fun X hs e he =>
    hX X hs e ((Scene.suffix_moves h₂).subset he)
  have hS₁ := hS.moves hc h₁
  have hS₂ := hS₁.move hc hgive
  have ho₁ := ho.moves hc hk (Move.mono_moves hl h₁) hS hX₁
  have ho₂ := ho₁.move hc hk hgive hS₁ hX₁
  have hcons₁ := Scene.Conserves.moves hc hk hφ h₁ (fun h => h) hl hS hX₁ ho
  have hcons₂ := Scene.Conserves.moves hc hk hφ h₂ (fun h => h) hl hS₂ hX ho₂
  refine ⟨M₂, (Move.mono_moves hl h₁).trans (.head hgive (Move.mono_moves hl h₂)), ?_⟩
  have hacc : (⟨[], H, 0, M₁, u.entrusted id .async⟩ : Scene env.client κ α).account φ +
      (if u.owes (slot, m) then {φ m} else 0) =
        (⟨[], H, (slot, m) ::ₘ 0, M₁, u⟩ : Scene env.client κ α).account φ :=
    Scene.account_giveUp
  cases hw : u.owes (slot, m) with
  | true =>
    obtain ⟨_, k, hid, hk', -⟩ := owes_iff.mp hw
    obtain rfl := Option.some_inj.mp (hm.symm.trans hid)
    have hscope : id.scope = scope := ho₁.scope_eq (by simp [Scene.thread, hk'])
    have hg := Scene.gone_moves hc h₂ hS₂ (hX id hscope)
      (Scene.gone_giveUp hm hw (ho₁.sound id hscope))
    refine .inr ⟨id, φ m, hg, fun hg => ?_, ?_⟩
    · have hwaits : along id ((slot, m) ::ₘ 0) = 0 :=
        (Scene.gone_moves hc h₁ hS (hX₁ id hscope) hg).waits
      rw [along_pos hm] at hwaits
      exact absurd hwaits Multiset.cons_ne_zero
    · rw [hw, if_pos rfl] at hacc
      exact hcons₁.trans_lost hacc rfl hcons₂
  | false =>
    rw [hw, if_neg (by simp), add_zero] at hacc
    have hkept : Scene.Conserves φ (⟨[], H, (slot, m) ::ₘ 0, M₁, u⟩ : Scene env.client κ α)
        ⟨[], H, 0, M₁, u.entrusted id .async⟩ := congrArg (· + _) hacc
    refine .inl ⟨(hcons₁.trans hkept).trans hcons₂, fun X hg => ?_⟩
    have hscope := (ho₂.moves hc hk (Move.mono_moves hl h₂) hS₂ hX).scope_of_gone hg
    -- All that could be lost now was lost before.
    have hl' : Law.Within ⟨False, False⟩
        ⟨((⟨[], 0, 0, M, s⟩ : Scene env.client κ α).thread X).Gone, False⟩ :=
      ⟨False.elim, False.elim⟩
    have hs := Scene.sound_moves hc (Move.mono_moves hl' h₁) hS (hX₁ X hscope)
      ((ho.sound X hscope).of_gone fun h => h)
    have hs := Scene.sound_moves hc (Move.mono_moves hl' h₂) hS₂ (hX X hscope)
      (Scene.sound_giveUp hm hw hs)
    exact hs.failing_of_gone hg

/-! ### Operations -/

theorem Client.Honest.keeps (hc : c.Honest told b₀) :
    c.Keeps (fun n m => n.tracking = m.tracking) told b₀ :=
  fun _ _ _ _ _ _ _ _ _ hcourse hs => (meant_spec (hc hcourse hs)).2

/-- What an operation leaves behind that began in the world `s` and ended in `t` with the reply
    `r`. -/
structure Aftermath [DecidableEq ι] (φ : Message → ι) (op : Operation Message)
    (s : World β κ α) (r : Reply) (t : World β κ α) : Prop where
  /-- Every message is still in a buffer or at the broker, or it was delivered, dropped or cleared,
      if and only if none came to be stranded. -/
  kept_iff : s.Kept φ t ↔ ∀ X, t.Stranded X → s.Stranded X
  /-- Otherwise one is lost, and the last that was told of it is that a retry was claimed for it. -/
  lost : ¬ s.Kept φ t → ∃ X i, t.Stranded X ∧ ¬ s.Stranded X ∧
    (beats X t.journal).getLast? = some .granted ∧
    t.holdings φ + {i} + (arrived s.journal).map φ = s.holdings φ + (arrived t.journal).map φ
  /-- This happens only where somebody waits for the outcome of one message. -/
  ordered : ¬ s.Kept φ t → op.isOrdered = true
  /-- And only where the caller is told that the client failed. -/
  failed : ¬ s.Kept φ t → ∃ e, r = .failed (.broker e)
  /-- The counters count the messages that were delivered and those that were dropped. -/
  counted : t.Counted
  /-- For the messages that were dropped meanwhile, and for no others, the hooks were called. -/
  lamented : s.Minded → gather Event.lamenting t.journal + gather Event.dropping s.journal =
    gather Event.dropping t.journal + gather Event.lamenting s.journal

namespace Application

variable {ο : Type} {app : Application β κ α ο}

/-- Nothing that is done erases anything from the journal. -/
theorem suffix_perform {limit depth : Nat} {deed : Deed κ α ο} {r : Reply} {s t : World β κ α}
    (h : app.perform (app.surroundings limit depth) deed s = some (r, t)) :
    s.journal <:+ t.journal := by
  have ho : app.Obeys ⟨True, True⟩ := ⟨fun _ => trivial, .inr trivial⟩
  have hends := ends_perform (T := []) (H := 0) (W := 0) (tame_surroundings ho limit depth)
    (.inl trivial) h
  obtain ⟨M, hmoves⟩ := hends.leads ho.failing 0
  exact Scene.suffix_moves hmoves

/-- Whatever errors the client answers with, an operation loses no message, unless it strands it. -/
theorem aftermath_of_run [DecidableEq ι] {b : β} (hc : app.client.Honest app.Told b)
    (hk : app.client.Keeps (fun n m => φ n = φ m) app.Told b)
    (hφ : ∀ m X, φ { m with tracking := X } = φ m) (hq : app.Quiet) {clock : Clock}
    {settings : Settings} {scope : Nat} {a : α} {limit depth : Nat} {before : List (Deed κ α ο)}
    {op : Operation Message} {r : Reply} {s t : World β κ α}
    (hbefore : app.run limit depth before (.opening b clock settings scope a) = some ((), s))
    (hop : app.perform (app.surroundings limit depth) (.operate op) s = some (r, t))
    (hX : ∀ e ∈ t.journal, e.event.isForgery scope = false) : Aftermath φ op s r t := by
  have ho : app.Obeys ⟨True, False⟩ := ⟨fun _ => trivial, .inl hq⟩
  have henv : (app.surroundings limit depth).Tame app.Told ⟨False, False⟩ :=
    tame_of_quiet hq limit depth
  have hl : Law.Within ⟨False, False⟩ ⟨True, False⟩ := ⟨False.elim, False.elim⟩
  have hX (X) (hs : X.scope = scope) : Unforged X t.journal := unforged_of_scope hX hs
  have hX₀ (X) (hs : X.scope = scope) : Unforged X s.journal := fun e he =>
    hX X hs e ((suffix_perform hop).subset he)
  obtain ⟨M, hmoves⟩ := leads_run (T := []) ho (.inr idle_zero) hbefore 0
  have hS₀ := Scene.Balanced.opening (κ := κ) app.client app.Told b clock settings scope a
  have ho₀ := Scene.orderly_opening φ ⟨True, False⟩ app.client b clock settings scope a (κ := κ)
  have hS := hS₀.moves hc hmoves
  have hs := ho₀.moves hc hk hmoves hS₀ hX₀
  obtain ⟨M', hmoves', hloses⟩ :
      ∃ M', Relation.ReflTransGen (Move app.client app.Told ⟨True, False⟩) ⟨[], 0, 0, M, s⟩
          ⟨[], 0, 0, M', t⟩ ∧
        Scene.Loses φ (⟨[], 0, 0, M, s⟩ : Scene app.client κ α) ⟨[], 0, 0, M', t⟩ :=
    Surroundings.Ends.loses hc hk hφ (Surroundings.leaves_operate henv (.inr idle_zero) hop).1 hS hX hs
  have hall := hmoves.trans hmoves'
  have hr := Scene.reported_moves hc hk hmoves hS₀ rfl
  have hid := Scene.reported_moves hc hc.keeps hmoves hS₀ rfl
  have hid' := Scene.reported_moves hc hc.keeps hall hS₀ rfl
  obtain ⟨hiff, hlost⟩ := hloses.kept_iff hr (Scene.reported_moves hc hk hall hS₀ rfl) hid hid'
  -- Nothing is lost on the way if no caller is given up.
  have hkept (h : Leads app.client app.Told ⟨False, False⟩ (⟨[], 0, 0, ·, s⟩)
      (⟨[], 0, 0, ·, t⟩)) : s.Kept φ t := by
    obtain ⟨M'', hmoves''⟩ := h M
    have hall' := hmoves.trans (Move.mono_moves hl hmoves'')
    exact hr.kept (Scene.reported_moves hc hk hall' hS₀ rfl)
      (.moves hc hk hφ hmoves'' (fun h => h) hl hS hX hs)
  refine ⟨hiff, fun h => ?_, fun h => ?_, fun h => ?_, Scene.counted_moves hall ⟨rfl, rfl⟩, fun hm =>
    (Scene.laments_moves hmoves' hm).rest⟩
  · obtain ⟨X, i, ht, hns, hlost⟩ := hlost h
    have hg := hid'.stranded_iff.mp ht
    have hscope := (hs.moves hc hk hmoves' hS hX).scope_of_gone hg
    have hclaimed : ((⟨[], 0, 0, 0, .opening b clock settings scope a⟩ :
        Scene app.client κ α).thread X).Claimed [] := fun _ he => by simp [Scene.thread] at he
    exact ⟨X, i, ht, hns, Scene.claimed_moves hc hall hS₀ (hX X hscope) (ho₀.sound X hscope)
      hclaimed hg.spots hg.live, hlost⟩
  · by_contra hordered
    exact h (hkept (Surroundings.leads_operate henv (Bool.eq_false_of_not_eq_true hordered) hop))
  · by_contra hfailed
    exact h (hkept ((Surroundings.leaves_operate henv (.inr idle_zero) hop).2 hfailed))

end Application

namespace ScriptedBroker

/-- An application whose producer sends to a broker with a plain script. -/
def application (conduct : κ → HookKind → Message → Option BrokerError →
    Conduct ScriptedBroker κ α PlainScript) : Application ScriptedBroker κ α PlainScript where
  client := client
  tell s _ b := b.extend s.1
  conduct := conduct

theorem exact_application (conduct : κ → HookKind → Message → Option BrokerError →
      Conduct ScriptedBroker κ α PlainScript) {b : ScriptedBroker} (hs : b.script.isPlain = true)
    (hempty : b.inFlight.toList = []) :
    (application conduct).client.Exact (application conduct).Told b := by
  have htold : (application conduct).Told = Extends := by
    funext b b'
    exact propext ⟨fun ⟨s, _, h⟩ => ⟨s, h⟩, fun ⟨s, h⟩ => ⟨s, {}, h⟩⟩
  rw [htold]
  exact exact_client hs hempty

/-- A hook that agrees to every retry. -/
def consent (_ : Unit) (_ : HookKind) (_ : Message) (_ : Option BrokerError) :
    Conduct ScriptedBroker Unit Unit PlainScript :=
  .answer true

theorem quiet_consent : (application consent).Quiet := fun _ _ _ _ => .answer true

/-- A broker that goes down: when it is flushed first, it reports everything as not delivered and
    then fails itself. -/
def failing : ScriptedBroker where
  script :=
    { flushes := [{
        actions := [.reportAll (some (.undelivered "lost"))]
        answer := .error (.other "broker down") }] }

/-- A producer that grants one retry, with a broker that goes down. -/
def outage : World ScriptedBroker Unit Unit := .opening failing {} { retryBudget := 1 } 0 ()

/-- What comes of a message that is sent while the broker goes down. -/
def outcome : Option (Reply × World ScriptedBroker Unit Unit) :=
  (application consent).perform ((application consent).surroundings 20 2)
    (.operate (.produceSync { topic := "t" })) outage

/-- The message came in under no id of the producer, and it is nowhere. -/
def isLost (r : Reply × World ScriptedBroker Unit Unit) : Bool :=
  decide (r.1 = .failed (.broker (.other "broker down"))) &&
    decide (arrived r.2.journal = {{ topic := "t" }}) &&
    decide (r.2.holdings Message.untracked = 0) &&
    r.2.journal.all fun e => !e.event.isForgery 0

theorem exists_outcome : ∃ t, outcome = some (.failed (.broker (.other "broker down")), t) ∧
    arrived t.journal = {{ topic := "t" }} ∧ t.holdings Message.untracked = 0 ∧
    ∀ e ∈ t.journal, e.event.isForgery 0 = false := by
  have hlost : outcome.any isLost = true := by decide +kernel
  obtain ⟨⟨r, t⟩, ht, hp⟩ := (Option.any_eq_true ..).mp hlost
  simp only [isLost, Bool.and_eq_true, decide_eq_true_eq, List.all_eq_true,
    Bool.not_eq_true'] at hp
  obtain ⟨⟨⟨rfl, harrived⟩, hholdings⟩, hX⟩ := hp
  exact ⟨t, ht, harrived, hholdings, hX⟩

theorem aftermath_outage : ∃ r t,
    (application consent).run 20 2 [] (.opening failing {} { retryBudget := 1 } 0 ()) =
      some ((), outage) ∧
    (application consent).perform ((application consent).surroundings 20 2)
      (.operate (.produceSync { topic := "t" })) outage = some (r, t) ∧
    (∀ e ∈ t.journal, e.event.isForgery 0 = false) ∧
    Aftermath Message.untracked (.produceSync { topic := "t" }) outage r t := by
  obtain ⟨t, ht, -, -, hX⟩ := exists_outcome
  have hc := exact_application consent (b := failing) rfl rfl
  have hbefore : (application consent).run 20 2 []
      (.opening failing {} { retryBudget := 1 } 0 ()) = some ((), outage) := rfl
  exact ⟨_, t, hbefore, ht, hX, Application.aftermath_of_run hc.honest (hc.keeps Message.untracked)
    (fun _ _ => rfl) quiet_consent hbefore ht hX⟩

/-- The broker reports the message once, and the retry that is due is granted; but when the caller
    learns that the broker failed, nobody has the message. -/
theorem lost_in_outage : (application consent).client.Exact (application consent).Told failing ∧
    (application consent).Quiet ∧
    ∃ t, (application consent).perform ((application consent).surroundings 20 2)
        (.operate (.produceSync { topic := "t" })) outage =
          some (.failed (.broker (.other "broker down")), t) ∧
      arrived t.journal = {{ topic := "t" }} ∧ t.holdings Message.untracked = 0 ∧
      ¬ outage.Kept Message.untracked t := by
  obtain ⟨t, ht, harrived, hholdings, -⟩ := exists_outcome
  refine ⟨exact_application consent rfl rfl, quiet_consent, t, ht, harrived, hholdings, fun h => ?_⟩
  have h : t.holdings Message.untracked + 0 = 0 + (arrived t.journal).map Message.untracked := h
  rw [hholdings, harrived] at h
  simp at h

end ScriptedBroker

end Outbox
