import Mathlib.Data.List.Forall2
import Outbox.Proofs.Polling

/-! Worlds that differ in tracking ids only, and only in ids that mean nothing. Erasing the ids of
    all messages that are shown somewhere leaves the rest of a world as it is, its trackers among
    it. An id means nothing to a table if the table did not issue it, or issued it and released it
    since; and this stays so, whatever becomes of the table. Main statement: two worlds that are
    alike up to such ids stay alike when the same small thing is done in both. -/

namespace Outbox

/-! ### Lines, item by item -/

namespace Line

variable {α β : Type}

def map (f : α → β) (l : Line α) : Line β :=
  ⟨l.front.map f, l.back.map f, l.size, by rw [l.size_eq, List.length_map, List.length_map]⟩

/-- The lines hold related items in the same places. -/
structure Rel (R : α → β → Prop) (l : Line α) (l' : Line β) : Prop where
  front : List.Forall₂ R l.front l'.front
  back : List.Forall₂ R l.back l'.back

namespace Rel

variable {R S : α → β → Prop} {l : Line α} {l' : Line β} {x : α} {x' : β}

theorem ofList {xs : List α} {xs' : List β} (h : List.Forall₂ R xs xs') :
    Rel R (Line.ofList xs) (Line.ofList xs') :=
  ⟨h, .nil⟩

theorem empty : Rel R Line.empty Line.empty := ofList .nil

theorem refl {R : α → α → Prop} (h : ∀ x, R x x) (l : Line α) : Rel R l l :=
  ⟨List.forall₂_same.mpr fun x _ => h x, List.forall₂_same.mpr fun x _ => h x⟩

theorem mono (h : Rel R l l') (hRS : ∀ x x', R x x' → S x x') : Rel S l l' :=
  ⟨h.front.imp hRS, h.back.imp hRS⟩

theorem toList (h : Rel R l l') : List.Forall₂ R l.toList l'.toList :=
  List.rel_append h.front (List.rel_reverse h.back)

theorem size (h : Rel R l l') : l'.size = l.size := by
  rw [← length_toList, ← length_toList, h.toList.length_eq]

theorem pushBack (h : Rel R l l') (hx : R x x') : Rel R (l.pushBack x) (l'.pushBack x') :=
  ⟨h.front, .cons hx h.back⟩

theorem pushFront (h : Rel R l l') (hx : R x x') : Rel R (l.pushFront x) (l'.pushFront x') :=
  ⟨.cons hx h.front, h.back⟩

theorem behind {xs : List α} {xs' : List β} (h : Rel R l l') (hxs : List.Forall₂ R xs xs') :
    Rel R (l.behind xs) (l'.behind xs') :=
  ⟨List.rel_append hxs h.front, h.back⟩

end Rel

end Line

/-! ### Erasing ids -/

namespace Event

/-- The event without the id of the message it is about. -/
def untracked : Event → Event
  | submitted m => submitted m.untracked
  | offered m answer => offered m.untracked answer
  | hookCalled kind m error => hookCalled kind m.untracked error
  | retried m => retried m.untracked
  | concluded m fate => concluded m.untracked fate
  | acknowledged m => acknowledged m.untracked
  | polled => polled
  | flushBegan timeout => flushBegan timeout
  | flushEnded answer => flushEnded answer
  | hookReturned verdict => hookReturned verdict
  | remarked label reply => remarked label reply

end Event

def Entry.untracked (e : Entry) : Entry := { e with event := e.event.untracked }

def Buffer.untracked (b : Buffer) : Buffer := ⟨b.line.map (·.untracked)⟩

/-- The producer with the ids erased from the messages in its buffers. -/
def Producer.untracked {κ : Type} (p : Producer κ) : Producer κ :=
  { p with regular := p.regular.untracked, retry := p.retry.untracked }

/-- The broker with the ids erased from its messages. -/
def MemoryBroker.untracked (b : MemoryBroker) : MemoryBroker :=
  { b with
    inFlight := b.inFlight.map (·.untracked), sent := b.sent.map (·.untracked),
    delivered := b.delivered.map (·.untracked) }

/-- The conditions set by the faults do not look at ids. -/
structure Faults.Heedless (f : Faults) : Prop where
  failing : ∀ p, f.failWhere = some p → ∀ m : Message, p m.untracked = p m
  rejecting : ∀ p, f.rejectWhere = some p → ∀ m : Message, p m.untracked = p m

/-! ### Ids that mean nothing -/

/-- The id was issued by another table, or by this one and was released. -/
def TrackerTable.Inert (t : TrackerTable) (X : TrackingId) : Prop :=
  X.scope ≠ t.scope ∨ ∃ k, t.lookup? X = some ⟨k, false⟩

namespace TrackerTable

variable {t : TrackerTable} {X : TrackingId} {m : Message}

/-- A message is not found under an id that means nothing. -/
theorem find?_of_inert (h : ∀ X, m.tracking = some X → t.Inert X) : t.find? m = none := by
  rw [find?_eq]
  cases hm : m.tracking with
  | none => rfl
  | some X =>
    rw [Option.filter_some]
    rcases h X hm with hscope | ⟨k, hk⟩
    · simp [lookup?, hscope]
    · simp [hk]

theorem Inert.update (h : t.Inert X) (id : TrackingId) (f : Tracker → Tracker) :
    (t.update id f).Inert X := by
  rw [Inert, scope_update]
  refine h.imp_right fun ⟨k, hk⟩ => ?_
  rw [lookup?_update, hk]
  split
  · exact ⟨f k, rfl⟩
  · exact ⟨k, rfl⟩

theorem Inert.release (h : t.Inert X) (m : Message) : (t.release m).Inert X := by
  rw [Inert, scope_release]
  refine h.imp_right fun ⟨k, hk⟩ => ⟨k, ?_⟩
  rw [lookup?_release, hk]
  exact ite_self _

theorem Inert.attach (h : t.Inert X) (m : Message) (sender : Sender) (budget : Nat) :
    (t.attach m sender budget).2.2.Inert X := by
  rw [Inert, scope_attach]
  refine h.imp_right fun ⟨k, hk⟩ => ⟨k, ?_⟩
  rw [lookup?_attach, if_neg, hk]
  rintro ⟨-, rfl⟩
  rw [lookup?_nextId] at hk
  contradiction

end TrackerTable

/-- The messages are the same up to their ids, and if these differ they are among `I`. -/
structure Message.Twin (I : TrackingId → Prop) (m m' : Message) : Prop where
  untracked : m'.untracked = m.untracked
  ids : m' = m ∨ (∀ X, m.tracking = some X → I X) ∧ ∀ X, m'.tracking = some X → I X

namespace Message.Twin

variable {I I' : TrackingId → Prop} {m m' : Message} {t : TrackerTable}

theorem refl (m : Message) : Twin I m m := ⟨rfl, .inl rfl⟩

theorem mono (h : Twin I m m') (hI : ∀ X, I X → I' X) : Twin I' m m' :=
  ⟨h.untracked, h.ids.imp_right fun ⟨hm, hm'⟩ =>
    ⟨fun X hX => hI X (hm X hX), fun X hX => hI X (hm' X hX)⟩⟩

/-- The id may be taken off a message if it means nothing. -/
theorem erase (h : ∀ X, m.tracking = some X → I X) : Twin I m m.untracked :=
  ⟨rfl, .inr ⟨h, fun _ hX => by simp [Message.untracked] at hX⟩⟩

/-- What does not look at ids does not tell the messages apart. -/
theorem agree {β : Type} (h : Twin I m m') {f : Message → β}
    (hf : ∀ n : Message, f n.untracked = f n) : f m' = f m := by
  rw [← hf m', h.untracked, hf m]

theorem find? (h : Twin I m m') (hI : ∀ X, I X → t.Inert X) : t.find? m' = t.find? m := by
  rcases h.ids with rfl | ⟨hm, hm'⟩
  · rfl
  · rw [TrackerTable.find?_of_inert fun X hX => hI X (hm X hX),
      TrackerTable.find?_of_inert fun X hX => hI X (hm' X hX)]

theorem release (h : Twin I m m') (hI : ∀ X, I X → t.Inert X) : t.release m' = t.release m := by
  rw [TrackerTable.release, TrackerTable.release, h.find? hI]

/-- Messages with a tracker are the same. -/
theorem attach (h : Twin I m m') (hI : ∀ X, I X → t.Inert X) (sender : Sender) (budget : Nat) :
    t.attach m' sender budget = t.attach m sender budget := by
  rcases h.ids with rfl | ⟨hm, hm'⟩
  · rfl
  · have htracked : ({ m' with tracking := some t.nextId } : Message) =
        { m with tracking := some t.nextId } :=
      h.agree (f := fun n : Message => { n with tracking := some t.nextId }) fun _ => rfl
    rw [TrackerTable.attach, TrackerTable.attach,
      TrackerTable.find?_of_inert fun X hX => hI X (hm X hX),
      TrackerTable.find?_of_inert fun X hX => hI X (hm' X hX), htracked]

end Message.Twin

theorem Line.Rel.map_untracked {I : TrackingId → Prop} {l l' : Line Message}
    (h : Line.Rel (Message.Twin I) l l') :
    l'.map (·.untracked) = l.map (·.untracked) := by
  have hmap {xs xs' : List Message} (hxs : List.Forall₂ (Message.Twin I) xs xs') :
      xs'.map (·.untracked) = xs.map (·.untracked) := by
    induction hxs with
    | nil => rfl
    | cons hm _ ih => rw [List.map_cons, List.map_cons, hm.untracked, ih]
  have hfront := hmap h.front
  have hback := hmap h.back
  have hsize := h.size
  simp only [Line.map, hfront, hback, hsize]

theorem Buffer.untracked_of_rel {I : TrackingId → Prop} {b b' : Buffer}
    (h : Line.Rel (Message.Twin I) b.line b'.line) : b'.untracked = b.untracked :=
  congrArg Buffer.mk h.map_untracked

/-! ### Brokers that are alike -/

namespace MemoryBroker

/-- The brokers are the same up to ids, and the messages in their queues differ by ids among `I`
    only. Their faults do not look at ids. -/
structure Alike (I : TrackingId → Prop) (b b' : MemoryBroker) : Prop where
  untracked : b'.untracked = b.untracked
  inFlight : Line.Rel (Message.Twin I) b.inFlight b'.inFlight
  blind : b.faults.Heedless

namespace Alike

variable {I I' : TrackingId → Prop} {b b' : MemoryBroker} {m m' : Message}

theorem mono (h : Alike I b b') (hI : ∀ X, I X → I' X) : Alike I' b b' :=
  ⟨h.untracked, h.inFlight.mono fun _ _ hm => hm.mono hI, h.blind⟩

/-- What is left when the ids are erased is equal in brokers that are alike. -/
theorem view {γ : Type} (h : Alike I b b') {f : MemoryBroker → γ}
    (hf : ∀ c : MemoryBroker, f c.untracked = f c) : f b' = f b := by
  rw [← hf b', h.untracked, hf b]

theorem faults (h : Alike I b b') : b'.faults = b.faults := h.view fun _ => rfl

theorem limits (h : Alike I b b') : b'.limits = b.limits := h.view fun _ => rfl

theorem paused (h : Alike I b b') : b'.paused = b.paused := h.view fun _ => rfl

theorem resumptions (h : Alike I b b') : b'.resumptions = b.resumptions := h.view fun _ => rfl

theorem isEmpty (h : Alike I b b') : b'.inFlight.isEmpty = b.inFlight.isEmpty :=
  h.view (f := fun c => c.inFlight.isEmpty) fun _ => rfl

/-- What does not touch messages is done in both alike. -/
theorem adjust (h : Alike I b b') {f : MemoryBroker → MemoryBroker}
    (hf : ∀ c, (f c).untracked = f c.untracked) (hq : ∀ c, (f c).inFlight = c.inFlight)
    (hblind : (f b).faults.Heedless) : Alike I (f b) (f b') where
  untracked := by rw [hf, hf, h.untracked]
  inFlight := by
    rw [hq, hq]
    exact h.inFlight
  blind := hblind

theorem refusal? (h : Alike I b b') (hm : Message.Twin I m m') :
    b'.refusal? m' = b.refusal? m := by
  have hany : (b.faults.rejectWhere.any (· m')) = b.faults.rejectWhere.any (· m) := by
    cases hp : b.faults.rejectWhere with
    | none => rfl
    | some p => exact hm.agree (h.blind.rejecting p hp)
  have htopic : m'.topic = m.topic := hm.agree fun _ => rfl
  have hsize : m'.size = m.size := hm.agree fun _ => rfl
  rw [MemoryBroker.refusal?, MemoryBroker.refusal?, h.faults, h.limits, h.inFlight.size, hany,
    htopic, hsize]

theorem taken (h : Alike I b b') (hm : Message.Twin I m m') :
    Alike I (b.taken m) (b'.taken m') where
  untracked := by
    have hs (c : MemoryBroker) (n : Message) :
        (c.taken n).untracked = c.untracked.taken n.untracked := rfl
    rw [hs, hs, h.untracked, hm.untracked]
  inFlight := h.inFlight.pushBack hm
  blind := h.blind

theorem send (h : Alike I b b') (hm : Message.Twin I m m') :
    (b'.send m').1 = (b.send m).1 ∧ Alike I (b.send m).2 (b'.send m').2 := by
  have hfull : b'.faults.queueFullNext = b.faults.queueFullNext := by rw [h.faults]
  unfold MemoryBroker.send
  rw [h.refusal? hm]
  by_cases hpos : 0 < b.faults.queueFullNext
  · rw [if_pos hpos, if_pos (hfull ▸ hpos)]
    refine ⟨rfl, h.adjust (f := fun c => { c with faults := { c.faults with
      queueFullNext := c.faults.queueFullNext - 1 } }) (fun _ => rfl) (fun _ => rfl) ?_⟩
    exact ⟨h.blind.failing, h.blind.rejecting⟩
  · rw [if_neg hpos, if_neg (hfull ▸ hpos)]
    cases b.refusal? m with
    | some e => exact ⟨rfl, h⟩
    | none => exact ⟨rfl, h.taken hm⟩

/-- The reports say the same of messages that are the same up to their ids. -/
theorem deliver (h : Alike I b b') (hm : Message.Twin I m m') :
    (b'.deliver m').1.failure = (b.deliver m).1.failure ∧
      Alike I (b.deliver m).2 (b'.deliver m').2 := by
  have hdue : b'.faults.failNext = b.faults.failNext := by rw [h.faults]
  have hany : b'.faults.failWhere.any (· m') = b.faults.failWhere.any (· m) := by
    rw [h.faults]
    cases hp : b.faults.failWhere with
    | none => rfl
    | some p => exact hm.agree (h.blind.failing p hp)
  have htopic : m'.topic = m.topic := hm.agree fun _ => rfl
  unfold MemoryBroker.deliver
  rw [hany, htopic]
  by_cases hpos : 0 < b.faults.failNext
  · rw [if_pos hpos, if_pos (hdue ▸ hpos)]
    refine ⟨rfl, h.adjust (f := fun c => { c with faults := { c.faults with
      failNext := c.faults.failNext - 1 } }) (fun _ => rfl) (fun _ => rfl) ?_⟩
    exact ⟨h.blind.failing, h.blind.rejecting⟩
  · have hpos' : ¬ 0 < b'.faults.failNext := by rwa [hdue]
    rw [if_neg hpos, if_neg hpos']
    split
    · exact ⟨rfl, h⟩
    · refine ⟨rfl, ?_, h.inFlight, h.blind⟩
      have hs (c : MemoryBroker) (n : Message) :
          ({ c with delivered := c.delivered.pushBack n } : MemoryBroker).untracked =
            { c.untracked with delivered := c.untracked.delivered.pushBack n.untracked } := rfl
      refine (hs b' m').trans (Eq.trans ?_ (hs b m).symm)
      rw [h.untracked, hm.untracked]

theorem wake (h : Alike I b b') (clock : Clock) : Alike I (b.wake clock) (b'.wake clock) := by
  unfold MemoryBroker.wake
  rw [h.resumptions]
  split
  · let f (c : MemoryBroker) : MemoryBroker :=
      { c with paused := false, resumptions := b.resumptions.filter (clock.now ≤ ·) }
    exact h.adjust (f := f) (fun _ => rfl) (fun _ => rfl) h.blind
  · exact h

end Alike

end MemoryBroker

/-- The word makes no faults look at ids. -/
def MemoryWord.Blind (w : MemoryWord) : Prop :=
  ∀ (b : MemoryBroker) (clock : Clock), b.faults.Heedless → (b.heed clock w).faults.Heedless

theorem MemoryBroker.Alike.heed {I : TrackingId → Prop} {b b' : MemoryBroker} {w : MemoryWord}
    (h : b.Alike I b') (hw : w.Blind) (clock : Clock) :
    (b.heed clock w).Alike I (b'.heed clock w) := by
  have hblind := hw b clock h.blind
  cases w with
  | order o =>
    refine (h.wake clock).adjust (f := (·.carryOut o)) (fun c => ?_) (fun c => ?_) hblind
    · cases o <;> rfl
    · exact inFlight_carryOut c o
  | fault f =>
    exact h.adjust (f := fun c => { c with faults := f c.faults }) (fun _ => rfl) (fun _ => rfl)
      hblind
  | resumption t =>
    exact h.adjust (f := (·.expectResume t)) (fun _ => rfl) (fun _ => rfl) hblind

/-! ### Worlds that are alike -/

namespace Site

variable {κ α : Type}

/-- The world with the ids erased from all messages that are shown in it. -/
def untracked (s : World MemoryBroker κ α) : World MemoryBroker κ α :=
  { s with
    broker := s.broker.untracked
    owner :=
      { s.owner with
        producer := s.producer.untracked, journal := s.journal.map (·.untracked) } }

/-- The worlds are the same up to ids, and where messages wait they differ by ids among `I` only,
    which mean nothing. -/
structure Alike (I : TrackingId → Prop) (s s' : World MemoryBroker κ α) : Prop where
  untracked : s'.untracked = s.untracked
  regular : Line.Rel (Message.Twin I) s.producer.regular.line s'.producer.regular.line
  retry : Line.Rel (Message.Twin I) s.producer.retry.line s'.producer.retry.line
  broker : s.broker.Alike I s'.broker
  inert : ∀ X, I X → s.trackers.Inert X

variable {I I' : TrackingId → Prop} {s s' : World MemoryBroker κ α} {m m' : Message}

namespace Alike

theorem refl {s : World MemoryBroker κ α} (h : s.broker.faults.Heedless) :
    Alike s.trackers.Inert s s where
  untracked := rfl
  regular := .refl .refl _
  retry := .refl .refl _
  broker := ⟨rfl, .refl .refl _, h⟩
  inert _ hX := hX

/-- What is left when the ids are erased is equal in worlds that are alike. -/
theorem view {γ : Type} (h : Alike I s s') {f : World MemoryBroker κ α → γ}
    (hf : ∀ u : World MemoryBroker κ α, f u.untracked = f u) : f s' = f s := by
  rw [← hf s', h.untracked, hf s]

theorem trackers (h : Alike I s s') : s'.trackers = s.trackers :=
  h.view fun _ => rfl

theorem counters (h : Alike I s s') : s'.producer.counters = s.producer.counters :=
  h.view (f := fun u => u.producer.counters) fun _ => rfl

theorem settings (h : Alike I s s') : s'.producer.settings = s.producer.settings :=
  h.view (f := fun u => u.producer.settings) fun _ => rfl

theorem tracking (h : Alike I s s') : s'.producer.tracking = s.producer.tracking :=
  h.view (f := fun u => u.producer.tracking) fun _ => rfl

theorem hooks (h : Alike I s s') : s'.producer.hooks = s.producer.hooks :=
  h.view (f := fun u => u.producer.hooks) fun _ => rfl

theorem clock (h : Alike I s s') : s'.clock = s.clock :=
  h.view (f := fun u => u.clock) fun _ => rfl

theorem overfull (h : Alike I s s') : s'.producer.overfull = s.producer.overfull :=
  h.view (f := fun u => u.producer.overfull) fun _ => rfl

theorem find? (h : Alike I s s') (hm : Message.Twin I m m') :
    s'.trackers.find? m' = s.trackers.find? m := by
  rw [h.trackers]
  exact hm.find? h.inert

/-- The ids that mean nothing now may be counted among those that make no difference. -/
theorem widen (h : Alike I s s') : Alike s.trackers.Inert s s' where
  untracked := h.untracked
  regular := h.regular.mono fun _ _ hm => hm.mono h.inert
  retry := h.retry.mono fun _ _ hm => hm.mono h.inert
  broker := h.broker.mono h.inert
  inert _ hX := hX

/-! ### The small actions -/

theorem noted (h : Alike I s s') {e e' : Event} (he : e'.untracked = e.untracked) :
    Alike I (s.noted e) (s'.noted e') where
  untracked := by
    have hs (u : World MemoryBroker κ α) (e : Event) :
        (u.noted e).untracked = u.untracked.noted e.untracked := rfl
    rw [hs, hs, h.untracked, he]
  regular := h.regular
  retry := h.retry
  broker := h.broker
  inert := h.inert

theorem marked (h : Alike I s s') (k : Mark) : Alike I (s.marked k) (s'.marked k) where
  untracked := by
    have hs (u : World MemoryBroker κ α) : (u.marked k).untracked = u.untracked.marked k := rfl
    rw [hs, hs, h.untracked]
  regular := h.regular
  retry := h.retry
  broker := h.broker
  inert := h.inert

theorem retracked (h : Alike I s s') {f g : TrackerTable → TrackerTable}
    (hf : g s.trackers = f s.trackers) (hI : ∀ X, s.trackers.Inert X → (f s.trackers).Inert X) :
    Alike I (s.retracked f) (s'.retracked g) where
  untracked := by
    have hs (u : World MemoryBroker κ α) (f : TrackerTable → TrackerTable) :
        (u.retracked f).untracked = u.untracked.retracked fun _ => f u.trackers := rfl
    rw [hs, hs, h.untracked, h.trackers, hf]
  regular := h.regular
  retry := h.retry
  broker := h.broker
  inert X hX := hI X (h.inert X hX)

theorem released (h : Alike I s s') (hm : Message.Twin I m m') :
    Alike I (s.retracked (·.release m)) (s'.retracked (·.release m')) :=
  h.retracked (hm.release h.inert) fun _ hX => hX.release m

theorem updated (h : Alike I s s') (id : TrackingId) (f : Tracker → Tracker) :
    Alike I (s.retracked (·.update id f)) (s'.retracked (·.update id f)) :=
  h.retracked rfl fun _ hX => hX.update id f

theorem attach (h : Alike I s s') (hm : Message.Twin I m m') (sender : Sender) (budget : Nat) :
    (s'.attach m' sender budget).1 = (s.attach m sender budget).1 ∧
      (s'.attach m' sender budget).2.1 = (s.attach m sender budget).2.1 ∧
      Alike I (s.attach m sender budget).2.2 (s'.attach m' sender budget).2.2 := by
  have hattach := hm.attach h.inert sender budget
  have ht : s'.producer.trackers.attach m' sender budget =
      s.producer.trackers.attach m sender budget := by
    rw [show s'.producer.trackers = s.trackers from h.trackers, hattach]
    rfl
  refine ⟨congrArg (·.1) ht, congrArg (·.2.1) ht, ?_⟩
  exact h.retracked (f := fun t => (t.attach m sender budget).2.2)
    (g := fun t => (t.attach m' sender budget).2.2) (congrArg (·.2.2) hattach)
    fun X hX => hX.attach m sender budget

theorem rebuffered (h : Alike I s s') {regular regular' retry retry' : Buffer}
    (hregular : Line.Rel (Message.Twin I) regular.line regular'.line)
    (hretry : Line.Rel (Message.Twin I) retry.line retry'.line) :
    Alike I (s.rebuffered regular retry) (s'.rebuffered regular' retry') where
  untracked := by
    have hs (u : World MemoryBroker κ α) (b c : Buffer) :
        (u.rebuffered b c).untracked = u.untracked.rebuffered b.untracked c.untracked := rfl
    rw [hs, hs, h.untracked, Buffer.untracked_of_rel hregular, Buffer.untracked_of_rel hretry]
  regular := hregular
  retry := hretry
  broker := h.broker
  inert := h.inert

/-- Nothing but what has no ids is changed of the producer. -/
theorem adjusted (h : Alike I s s') {f : Producer κ → Producer κ}
    (hf : ∀ p, (f p).untracked = f p.untracked) (hregular : ∀ p, (f p).regular = p.regular)
    (hretry : ∀ p, (f p).retry = p.retry) (htrackers : ∀ p, (f p).trackers = p.trackers) :
    Alike I (s.amended f) (s'.amended f) where
  untracked := by
    have hs (u : World MemoryBroker κ α) : (u.amended f).untracked = u.untracked.amended f :=
      congrArg (fun p => { u.untracked with owner := { u.untracked.owner with producer := p } })
        (hf u.producer)
    rw [hs, hs, h.untracked]
  regular := by
    rw [producer_amended, producer_amended, hregular, hregular]
    exact h.regular
  retry := by
    rw [producer_amended, producer_amended, hretry, hretry]
    exact h.retry
  broker := h.broker
  inert X hX := by
    rw [Site.trackers, producer_amended, htrackers]
    exact h.inert X hX

theorem turned (h : Alike I s s') {b b' : MemoryBroker} (hb : b.Alike I b') (clock : Clock) :
    Alike I (s.turned b clock) (s'.turned b' clock) where
  untracked := by
    have hs (u : World MemoryBroker κ α) (c : MemoryBroker) :
        (u.turned c clock).untracked = u.untracked.turned c.untracked clock := rfl
    rw [hs, hs, h.untracked, hb.untracked]
  regular := h.regular
  retry := h.retry
  broker := hb
  inert := h.inert

theorem brokered (h : Alike I s s') {b b' : MemoryBroker} (hb : b.Alike I b') :
    Alike I (s.brokered b) (s'.brokered b') := by
  have ht : Alike I (s.brokered b) (s'.turned b' s.clock) := h.turned hb s.clock
  rw [← h.clock] at ht
  exact ht

end Alike

end Site

end Outbox
