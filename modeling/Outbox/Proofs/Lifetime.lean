import Outbox.Proofs.Life

/-! From the first beat to the last. Before an id is given out nothing is told of it. With the id
    the message gets its retries, and there the stories of its copies begin. Main statement:
    whatever an application does whose hooks are all registered and leave the producer alone, every
    message that comes in without an id while tracking is on has a story, and so has every copy of
    it, within the retries that it was given. -/

namespace Outbox

variable {β κ α : Type} {c : Client β} {told : β → β → Prop} {b₀ : β} {law : Law}
  {S S' : Scene c κ α} {X : TrackingId}

/-! ### Before an id is given out -/

/-- An id that was given out stays so. -/
theorem Turn.entry_ne_none {mute : Prop} {like : Message → Message → Prop} {v v' : Thread}
    {b : Option Beat} (h : Turn X law mute like v b v') (he : v.entry ≠ none) : v'.entry ≠ none := by
  cases h with
  | @acknowledge P W e k f m => cases k <;> simpa using he
  | rest | submit | store | take | accept | refuse | tell | hush | part | report => exact he
  | discard | forsake | deliver | lose | giveUp => simpa using he
  | _ => simp

/-- Where no message is and nobody waits, nothing is told. -/
theorem Turn.beat_eq_none {mute : Prop} {like : Message → Message → Prop} {v v' : Thread}
    {b : Option Beat} (h : Turn X law mute like v b v') (hb : b ≠ some .handed) (hP : v.spots = 0)
    (hW : v.waits = 0) : b = none := by
  cases h with
  | submit => exact absurd rfl hb
  | rest | birth | birthEngaged => rfl
  | _ => simp at hP hW

/-- Nothing is told of an id that is not given out. -/
theorem Scene.beats_eq_nil (hc : c.Honest told b₀)
    (h : Relation.ReflTransGen (Move c told law) S S')
    (hS : S.Balanced told b₀) (hX : Unforged X S'.world.journal) (hs : (S.thread X).Sound X law)
    (hJ : S.world.journal = []) (he : (S'.thread X).entry = none) :
    beats X S'.world.journal = [] := by
  induction h with
  | refl => rw [hJ]; rfl
  | tail hmoves h ih =>
    have hX' := fun e he => hX e (h.suffix.subset he)
    have hs' := Scene.sound_moves hc hmoves hS hX' hs
    obtain ⟨b, ht, hb⟩ := h.turns hc Client.keeps_trivial (hS.moves hc hmoves) hs'.clean
    have he' : (Scene.thread X _).entry = none := by_contra fun hne => ht.entry_ne_none hne he
    rw [unforged_iff, hb] at hX
    rw [hb, ih hX' he', ht.beat_eq_none (fun hb => hX (by simp [hb])) (hs'.clean he').1
      (hs'.clean he').2]
    rfl

/-! ### From then on -/

/-- While all hooks are registered none goes missing. -/
theorem Move.mute (h : Move c told law S S') (hm : ¬ S.world.Mute) : ¬ S'.world.Mute := by
  rintro ⟨kind, hnone⟩
  have hsome := h.hook (Option.isSome_iff_ne_none.mpr fun hk => hm ⟨kind, hk⟩)
  rw [hnone] at hsome
  exact absurd hsome (by simp)

/-- An id was given out with `R` retries, and every copy has a story. -/
structure Scene.Told (R : Nat) (X : TrackingId) (S : Scene c κ α) : Prop where
  budget : Budget R (S.thread X).entry (beats X S.world.journal)
  alive : Alive (S.thread X) (beats X S.world.journal)
  hooks : ¬ S.world.Mute

theorem Scene.Told.moves {R : Nat} (hc : c.Honest told b₀) (hn : ¬ law.nested)
    (h : Relation.ReflTransGen (Move c told law) S S') (hS : S.Balanced told b₀)
    (ht : S.Told R X) : S'.Told R X := by
  induction h with
  | refl => exact ht
  | tail hmoves h ih =>
    obtain ⟨hbudget, halive, hhooks⟩ := ih
    have he := hbudget.ne_none
    obtain ⟨b, hturn, hb⟩ := h.turns hc Client.keeps_trivial (hS.moves hc hmoves)
      fun h => absurd h he
    exact ⟨hb ▸ hbudget.turn hturn, hb ▸ halive.turn hturn hhooks hn he, h.mute hhooks⟩

/-! ### How it begins -/

/-- The message that is given the next id, at the place `p`. -/
theorem Scene.thread_attach {T : List c.Task} {H : Multiset (Place × Message)}
    {W : Multiset (Nat × Message)} {M : Multiset Message} {s : World β κ α} {m : Message}
    (hm : m.tracking = none) (p : Place) (sender : Sender) (budget : Nat) :
    (⟨T, (p, (s.attach m sender budget).2.1) ::ₘ H, W, M, (s.attach m sender budget).2.2⟩ :
        Scene c κ α).thread s.trackers.nextId =
      ⟨(p, (s.attach m sender budget).2.1) ::ₘ along s.trackers.nextId (places s.stock M H),
        along s.trackers.nextId W, some (.fresh sender budget)⟩ := by
  have hf : s.trackers.find? m = none := by simp [TrackerTable.find?_eq, hm]
  obtain ⟨id, hid, -⟩ | ⟨-, -, hm', he⟩ := s.trackers.attach_cases m sender budget
  · simp [hf] at hid
  · have hm' : (s.attach m sender budget).2.1.tracking = some s.trackers.nextId :=
      congrArg Message.tracking hm'
    simp only [Scene.thread, Site.stock_attach, Site.trackers_attach, places_hand, along_pos hm',
      he, if_true]

/-- The message that is given the next id and is its caller's. -/
theorem Scene.thread_engage {T : List c.Task} {H : Multiset (Place × Message)}
    {W : Multiset (Nat × Message)} {M : Multiset Message} {s : World β κ α} {m : Message}
    (hm : m.tracking = none) (ht : s.producer.tracking = true) :
    (⟨T, (.engaged, (s.engage m).1) ::ₘ H, W, M, (s.engage m).2⟩ :
        Scene c κ α).thread s.trackers.nextId =
      ⟨(.engaged, (s.engage m).1) ::ₘ along s.trackers.nextId (places s.stock M H),
        along s.trackers.nextId W, some (.fresh .sync s.producer.settings.retryBudget)⟩ := by
  simp only [Site.engage, ht, if_true]
  have h := Scene.thread_attach (c := c) (T := T) (H := H) (W := W) (M := M) (s := s) hm .engaged
    .sync s.producer.settings.retryBudget
  rw [Scene.thread, Thread.mk.injEq] at h ⊢
  refine ⟨h.1, h.2.1, ?_⟩
  rw [Site.trackers_entrusted, TrackerTable.lookup?_update, h.2.2]
  split <;> rfl

theorem Alive.birth {R : Nat} {p : Place} {m : Message} {sender : Sender}
    (hp : p = .ready none ∨ p = .engaged ∧ sender = .sync) :
    Alive ⟨(p, m) ::ₘ 0, 0, some (.fresh sender R)⟩ [] := by
  refine ⟨{(p, [])}, 0, 0, rfl, ?_, ?_, by simp, by simp, ?_⟩
  · simpa using Dealt.first
  · simp only [Multiset.mem_singleton, forall_eq]
    rcases hp with rfl | ⟨rfl, -⟩ <;> exact ⟨[], rfl⟩
  · rcases hp with rfl | ⟨rfl, rfl⟩
    · exact .inl rfl
    · exact .inr ⟨rfl, _, _, rfl, rfl, fun slot hslot => by simp [Calls] at hslot⟩

/-- A message that is given `R` retries has not begun its story. -/
theorem Scene.Told.birth {S : Scene c κ α} {R : Nat} {p : Place} {m : Message} {sender : Sender}
    {P : Multiset (Place × Message)} {W : Multiset (Nat × Message)}
    (hp : p = .ready none ∨ p = .engaged ∧ sender = .sync)
    (hthread : S.thread X = ⟨(p, m) ::ₘ P, W, some (.fresh sender R)⟩) (hP : P = 0) (hW : W = 0)
    (hb : beats X S.world.journal = []) (hm : ¬ S.world.Mute) : S.Told R X := by
  subst hP hW
  refine ⟨?_, ?_, hm⟩
  · rw [hthread, hb]
    exact ⟨_, rfl, Nat.zero_add R⟩
  · rw [hthread, hb]
    exact .birth hp

/-- A scene in which nothing goes on and nothing was ever told of the next id. -/
structure Scene.Still (S : Scene c κ α) : Prop where
  hands : S.hands = 0
  waits : S.waits = 0
  spots : along S.world.trackers.nextId (places S.world.stock S.flight 0) = 0
  beats : beats S.world.trackers.nextId S.world.journal = []

theorem Scene.still_of_moves {b : β} {clock : Clock} {settings : Settings} {scope : Nat} {a : α}
    {M : Multiset Message} {s : World β κ α} (hc : c.Honest told b)
    (h : Relation.ReflTransGen (Move c told law)
      ⟨[], 0, 0, 0, .opening b clock settings scope a⟩ ⟨[], 0, 0, M, s⟩)
    (hX : Unforged s.trackers.nextId s.journal) :
    (⟨[], 0, 0, M, s⟩ : Scene c κ α).Still := by
  have hS := Scene.Balanced.opening (κ := κ) c told b clock settings scope a
  have hs : ((⟨[], 0, 0, 0, .opening b clock settings scope a⟩ : Scene c κ α).thread
      s.trackers.nextId).Sound s.trackers.nextId law :=
    .inl ⟨rfl, .inl ⟨rfl, Site.lookup?_opening⟩⟩
  have he := s.trackers.lookup?_nextId
  exact ⟨rfl, rfl, ((Scene.sound_moves hc h hS hX hs).clean he).1,
    Scene.beats_eq_nil hc h hS hX hs rfl he⟩

theorem beats_submitted {s : World β κ α} {m : Message} (hm : m.tracking = none) :
    beats X (s.noted (.submitted m)).journal = beats X s.journal := by
  simp [beats_cons, Event.beat, hm]

namespace Scene.Still

variable {T : List c.Task} {M : Multiset Message} {s : World β κ α} {m : Message}

/-- A message comes in and is given the next id. -/
theorem told_enroll (h : (⟨T, 0, 0, M, s⟩ : Scene c κ α).Still) (hm : m.tracking = none)
    (ht : s.producer.tracking = true) (hhooks : ¬ s.Mute) :
    (⟨T, (.ready none, (s.enroll m).1) ::ₘ 0, 0, M, (s.enroll m).2⟩ : Scene c κ α).Told
      s.producer.settings.retryBudget s.trackers.nextId := by
  rw [Site.enroll, if_pos (show (s.noted (.submitted m)).producer.tracking = true from ht)]
  have hthread := Scene.thread_attach (c := c) (T := T) (H := 0) (W := 0) (M := M)
    (s := s.noted (.submitted m)) hm (.ready none) .async s.producer.settings.retryBudget
  refine .birth (.inl rfl) hthread h.spots rfl
    ((beats_submitted hm).trans h.beats) hhooks

/-- A message comes in, is given the next id and is its caller's. -/
theorem told_engage (h : (⟨T, 0, 0, M, s⟩ : Scene c κ α).Still) (hm : m.tracking = none)
    (ht : s.producer.tracking = true) (hhooks : ¬ s.Mute) :
    (⟨T, (.engaged, ((s.noted (.submitted m)).engage m).1) ::ₘ 0, 0, M,
      ((s.noted (.submitted m)).engage m).2⟩ : Scene c κ α).Told
      s.producer.settings.retryBudget s.trackers.nextId := by
  have hthread := Scene.thread_engage (c := c) (T := T) (H := 0) (W := 0) (M := M)
    (s := s.noted (.submitted m)) hm ht
  refine .birth (.inr ⟨rfl, rfl⟩) hthread h.spots rfl
    ((beats_submitted hm).trans h.beats) hhooks

end Scene.Still

/-! ### Stories in a run -/

/-- What a journal tells of a message that was given `R` retries with its id. -/
structure Storied (R : Nat) (X : TrackingId) (J : List Entry) : Prop where
  /-- The beats are those of the message and of the copies that were handed in, and each of these
      has a story of its own. -/
  stories : ∃ Q, Dealt Q (beats X J) ∧
    ∀ q ∈ Q, Begins R q ∧ q.count .offered ≤ R + 1
  /-- They share the retries. -/
  retries : (beats X J).count .granted ≤ R
  /-- If no copy was handed in there is one story. -/
  story : Unforged X J → Begins R (beats X J) ∧ (beats X J).count .offered ≤ R + 1

theorem Scene.Told.storied {S : Scene c κ α} {R : Nat} (h : S.Told R X) :
    Storied R X S.world.journal := by
  obtain ⟨⟨k, -, hR⟩, ⟨here, parked, past, halive⟩, -⟩ := h
  have hretries : (beats X S.world.journal).count .granted ≤ R := by omega
  have hdealt := halive.dealt
  have hbegins : ∀ q ∈ here.map Prod.snd + parked + past, Begins R q := by
    intro q hq
    refine .mono (R := q.count .granted) ?_ ((hdealt.count_le .granted q hq).trans hretries)
    simp only [Multiset.mem_add, Multiset.mem_map] at hq
    rcases hq with (⟨⟨p, q⟩, hq, rfl⟩ | hq) | hq
    · exact (halive.stage _ hq).begins
    · exact (halive.rests q hq).begins .delivered List.nil_prefix
    · exact halive.ended q hq
  have hle := fun q hq => And.intro (hbegins q hq) (hbegins q hq).count_offered_le
  refine ⟨⟨_, hdealt, hle⟩, hretries, fun hX => hle _ ?_⟩
  rw [hdealt.eq_singleton (unforged_iff.mp hX)]
  exact Multiset.mem_singleton_self _

namespace Application

variable {ο : Type} {app : Application β κ α ο}

/-- Every message that comes in without an id while tracking is on and all hooks are registered has
    a story, within the retries that are granted at this moment. -/
theorem storied_of_run {b : β} (hc : app.client.Honest app.Told b) (hq : app.Quiet) {clock : Clock}
    {settings : Settings} {scope : Nat} {a : α} {limit depth : Nat}
    {before after : List (Deed κ α ο)} {op : Operation Message} {m : Message} {s t : World β κ α}
    (hbefore : app.run limit depth before (.opening b clock settings scope a) = some ((), s))
    (hX : Unforged s.trackers.nextId s.journal) (hm : m.tracking = none)
    (htracking : s.producer.tracking = true) (hhooks : ¬ s.Mute)
    (hop : op = .add m ∨ op = .produce m ∨ op = .produceSync m)
    (hafter : app.run limit depth (.operate op :: after) s = some ((), t)) :
    Storied s.producer.settings.retryBudget s.trackers.nextId t.journal := by
  have ho : app.Obeys ⟨True, False⟩ := ⟨fun _ => trivial, .inl hq⟩
  obtain ⟨M, hmoves⟩ := leads_run (T := []) ho (.inr idle_zero) hbefore 0
  have hS := (Scene.Balanced.opening (κ := κ) app.client app.Told b clock settings scope a).moves
    hc hmoves
  have hstill := Scene.still_of_moves hc hmoves hX
  obtain ⟨r, u, hu, hafter⟩ := run_cons hafter
  have henv := tame_surroundings ho limit depth
  -- The scene in which the message is given its retries, and what follows from there.
  obtain ⟨B, hB, htold, hends⟩ : ∃ B : Scene app.client κ α,
      Relation.ReflTransGen (Move app.client app.Told ⟨True, False⟩) ⟨[], 0, 0, M, s⟩ B ∧
      B.Told s.producer.settings.retryBudget s.trackers.nextId ∧
      ∃ M', Relation.ReflTransGen (Move app.client app.Told ⟨True, False⟩) B ⟨[], 0, 0, M', u⟩ := by
    rcases hop with rfl | rfl | rfl
    · obtain ⟨_, hu, -⟩ := Work.of_reply hu
      exact ⟨_, Surroundings.moves_enroll m M, hstill.told_enroll hm htracking hhooks,
        Surroundings.leads_add henv hu M⟩
    · obtain ⟨_, hu, -⟩ := Work.of_reply hu
      exact ⟨_, Surroundings.moves_enroll m M, hstill.told_enroll hm htracking hhooks,
        Surroundings.leads_produce henv hu M⟩
    · obtain ⟨_, hu, -⟩ := Work.of_reply hu
      exact ⟨_, .head (.submit m) (.single (.engage (.inr idle_zero))),
        hstill.told_engage hm htracking hhooks,
        (Surroundings.leaves_produceSync henv hu).1.leads ho.failing M⟩
  obtain ⟨M', hu⟩ := hends
  obtain ⟨M'', ht⟩ := leads_run (T := []) ho (.inr idle_zero) hafter M'
  exact (htold.moves hc id (hu.trans ht) (hS.moves hc hB)).storied

end Application

namespace MemoryBroker

/-- A hook that agrees to every retry. -/
def agree (_ : Unit) (_ : HookKind) (_ : Message) (_ : Option BrokerError) :
    Conduct MemoryBroker Unit Unit MemoryWord :=
  .answer true

theorem quiet_agree : (application agree).Quiet := fun _ _ _ _ => .answer true

/-- All hooks agree to two retries, and the first delivery is going to fail. -/
def prelude : List (Deed Unit Unit MemoryWord) :=
  HookKind.all.map (.register · ()) ++
    [.operate (.setRetryBudget 2), .instruct (.order (.failNext 1))]

/-- A message is in the retry buffer when a copy of it comes in. -/
def encore : List (Deed Unit Unit MemoryWord) :=
  [.operate (.add { topic := "a" }), .operate .flushAsync, .pollBroker,
    .operate (.produceSync { topic := "b", tracking := some ⟨0, 0⟩ }), .operate (.flush true)]

/-- A message that comes in is going to be told of, and the encore comes to its end. -/
def isSet (s : World MemoryBroker Unit Unit) : Bool :=
  s.journal.isEmpty && s.producer.tracking &&
    HookKind.all.all (fun kind => (s.producer.hooks.find? kind).isSome) &&
    ((application agree).run 60 2 encore s).isSome

theorem storied_encore :
    ∃ s t, (application agree).run 60 2 prelude (.opening { limits := {} } {} {} 0 ()) =
        some ((), s) ∧
      (application agree).run 60 2 encore s = some ((), t) ∧
      Storied s.producer.settings.retryBudget s.trackers.nextId t.journal := by
  have hset : ((application agree).run 60 2 prelude (.opening { limits := {} } {} {} 0 ())).any
      (fun r => isSet r.2) = true := by decide +kernel
  obtain ⟨s, hs, hp⟩ := Application.exists_run hset
  simp only [isSet, Bool.and_eq_true, List.isEmpty_iff] at hp
  obtain ⟨⟨⟨hjournal, htracking⟩, hhooks⟩, ht⟩ := hp
  obtain ⟨⟨⟨⟩, t⟩, ht⟩ := Option.isSome_iff_exists.mp ht
  refine ⟨s, t, hs, ht, Application.storied_of_run (exact_application agree {}).honest quiet_agree
    hs ?_ rfl htracking ?_ (.inl rfl) ht⟩
  · simp [Unforged, hjournal]
  · rintro ⟨kind, hkind⟩
    have h := List.all_eq_true.mp hhooks kind (by cases kind <;> decide)
    simp [hkind] at h

end MemoryBroker

end Outbox
