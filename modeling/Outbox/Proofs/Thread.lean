import Mathlib.Data.Multiset.Filter
import Outbox.Proofs.Balance
import Outbox.Proofs.Trackers

/-! One message in all that happens. A message that is tracked is followed by its id: the thread of
    an id is where the messages are that carry it, which callers wait for one of them, and the entry
    of the tracker table. Of a move the thread takes notice only if it is about such a message, and
    then it takes a turn, which depends on nothing but the thread itself; most turns are beats, and
    the beats are what the journal tells of the message. Main statement: every move is a turn. -/

namespace Outbox

/-- What the journal tells of one message. -/
inductive Beat where
  /-- Offered, with another answer than that the queue is full. -/
  | offered
  /-- A hook was called, other than about a full queue. -/
  | told (kind : HookKind) (error : Option BrokerError)
  /-- A retry was claimed. -/
  | granted
  /-- A message that had the id was handed in. -/
  | handed
  deriving DecidableEq

/-- The beat of an event, if it is about a message with the id. -/
def Event.beat (X : TrackingId) : Event → Option Beat
  | offered m answer =>
    if m.tracking = some X ∧ answer ≠ .error .queueFull then some .offered else none
  | hookCalled kind m e =>
    if m.tracking = some X ∧ kind ≠ .queueFull then some (.told kind e) else none
  | retried m => if m.tracking = some X then some .granted else none
  | submitted m => if m.tracking = some X then some .handed else none
  | _ => none

/-- The beats of a journal, the first in front. -/
def beats (X : TrackingId) (J : List Entry) : List Beat := J.reverse.filterMap (·.event.beat X)

theorem beats_cons (X : TrackingId) (e : Entry) (J : List Entry) :
    beats X (e :: J) = beats X J ++ (e.event.beat X).toList := by
  rw [beats, List.reverse_cons, List.filterMap_append]
  rfl

/-- An event about one message is a beat of its tale only. -/
theorem beats_cons_of {X : TrackingId} {m : Message} {b : Option Beat} {e : Entry} (J : List Entry)
    (h : e.event.beat X = if m.tracking = some X then b else none) :
    beats X (e :: J) = beats X J ++ if m.tracking = some X then b.toList else [] := by
  rw [beats_cons, h]
  split <;> rfl

/-- Where the messages with one id are, who waits for them, and the entry under the id. -/
structure Thread where
  spots : Multiset (Place × Message)
  waits : Multiset (Nat × Message)
  entry : Option Issued

/-- What a move is for the thread of `X`, and the beat it makes. `mute` is whether a hook is
    missing, and what a report is of is `like` what is reported. -/
inductive Turn (X : TrackingId) (law : Law) (mute : Prop) (like : Message → Message → Prop) :
    Thread → Option Beat → Thread → Prop where
  | rest {v} : Turn X law mute like v none v
  | birth {P W m budget} :
      Turn X law mute like ⟨P, W, none⟩ none
        ⟨(.ready none, m) ::ₘ P, W, some (.fresh .async budget)⟩
  | birthEngaged {P W m budget} :
      Turn X law mute like ⟨P, W, none⟩ none ⟨(.engaged, m) ::ₘ P, W, some (.fresh .sync budget)⟩
  | submit {P W e m} :
      Turn X law mute like ⟨P, W, e⟩ (some .handed) ⟨(.ready none, m) ::ₘ P, W, e⟩
  | shed {P W k m} :
      Turn X law mute like ⟨(.ready none, m) ::ₘ P, W, some ⟨k, false⟩⟩ none ⟨P, W, some ⟨k, false⟩⟩
  | engage {P W k m} (hn : law.nested ∨ Idle P W) :
      Turn X law mute like ⟨(.ready none, m) ::ₘ P, W, some ⟨k, true⟩⟩ none
        ⟨(.engaged, m) ::ₘ P, W, some ⟨k.setSender .sync, true⟩⟩
  | store {P W e m} :
      Turn X law mute like ⟨(.ready none, m) ::ₘ P, W, e⟩ none ⟨(.stocked, m) ::ₘ P, W, e⟩
  | take {P W e m} :
      Turn X law mute like ⟨(.stocked, m) ::ₘ P, W, e⟩ none ⟨(.ready none, m) ::ₘ P, W, e⟩
  | discard {P W e m} :
      Turn X law mute like ⟨(.ready none, m) ::ₘ P, W, e⟩ none ⟨P, W, e.map (·.ended)⟩
  | accept {P W e w m} :
      Turn X law mute like ⟨(.ready w, m) ::ₘ P, W, e⟩ (some .offered)
        ⟨(.flying, m) ::ₘ P, w.elim W fun slot => (slot, m) ::ₘ W, e⟩
  | refuse {P W e w m cause} :
      Turn X law mute like ⟨(.ready w, m) ::ₘ P, W, e⟩ (some .offered)
        ⟨(.refused w cause, m) ::ₘ P, W, e⟩
  | tell {P W e p p' m kind f} (hp : p.Tells kind f p') :
      Turn X law mute like ⟨(p, m) ::ₘ P, W, e⟩ (some (.told kind f)) ⟨(p', m) ::ₘ P, W, e⟩
  | hush {P W e p p' m kind f} (hp : p.Tells kind f p') (hm : mute) :
      Turn X law mute like ⟨(p, m) ::ₘ P, W, e⟩ none ⟨(p', m) ::ₘ P, W, e⟩
  | requeue {P W k cause m} (hk : 0 < k.remaining) :
      Turn X law mute like ⟨(.pleaded none cause, m) ::ₘ P, W, some ⟨k, true⟩⟩ (some .granted)
        ⟨(.ready none, m) ::ₘ P, W, some ⟨k.claimRetry.2, true⟩⟩
  | retake {P W k slot cause m} (hk : 0 < k.remaining) :
      Turn X law mute like ⟨(.pleaded (some slot) cause, m) ::ₘ P, W, some ⟨k, true⟩⟩
        (some .granted) ⟨(.engaged, m) ::ₘ P, W, some ⟨k.claimRetry.2, true⟩⟩
  | forsake {P W e w cause m} :
      Turn X law mute like ⟨(.pleaded w cause, m) ::ₘ P, W, e⟩ none
        ⟨(.forsaken cause, m) ::ₘ P, W, e.map (·.ended)⟩
  | part {P W e m} : Turn X law mute like ⟨(.parted, m) ::ₘ P, W, e⟩ none ⟨P, W, e⟩
  | report {P W e n m f} (hn : like n m) :
      Turn X law mute like ⟨(.flying, n) ::ₘ P, W, e⟩ none
        ⟨(.reported (if e.any (·.live) then some X else none) f, m) ::ₘ P, W, e⟩
  | deliver {P W e k m} :
      Turn X law mute like ⟨(.heard k none, m) ::ₘ P, W, e⟩ none
        ⟨(.settled k none, m) ::ₘ P, W, e.map (·.ended)⟩
  | lose {P W e k cause m} :
      Turn X law mute like ⟨(.heard k (some cause), m) ::ₘ P, W, e⟩ none
        ⟨(.lost k cause, m) ::ₘ P, W, e.map (·.ended)⟩
  | acknowledge {P W e k f m} :
      Turn X law mute like ⟨(.settled k f, m) ::ₘ P, W, e⟩ none
        ⟨P, W, k.elim e fun _ => e.map (·.under (·.complete (f.elim .delivered .dropped)))⟩
  | regain {P W k live cause m} (hk : 0 < k.remaining) (hs : k.sender = .async) :
      Turn X law mute like ⟨(.heard (some X) (some cause), m) ::ₘ P, W, some ⟨k, live⟩⟩
        (some .granted) ⟨(.stocked, m) ::ₘ P, W, some ⟨k.claimRetry.2.complete .retry, live⟩⟩
  | leave {P W k live cause m} (hk : 0 < k.remaining) (hs : k.sender = .sync) :
      Turn X law mute like ⟨(.heard (some X) (some cause), m) ::ₘ P, W, some ⟨k, live⟩⟩
        (some .granted) ⟨P, W, some ⟨k.claimRetry.2.complete .retry, live⟩⟩
  | arm {P W k live m} :
      Turn X law mute like ⟨(.engaged, m) ::ₘ P, W, some ⟨k, live⟩⟩ none
        ⟨(.ready (some k.opened), m) ::ₘ P, W, some ⟨k.arm.2, live⟩⟩
  | retry {P W k live slot m} (hr : (k.receive slot).1 = .outcome .retry) :
      Turn X law mute like ⟨P, (slot, m) ::ₘ W, some ⟨k, live⟩⟩ none
        ⟨(.engaged, m) ::ₘ P, W, some ⟨(k.receive slot).2, live⟩⟩
  | learn {P W k live slot m} (hr : (k.receive slot).1 ≠ .outcome .retry)
      (hP : ∀ h ∈ P, h.1.isPending = false) :
      Turn X law mute like ⟨P, (slot, m) ::ₘ W, some ⟨k, live⟩⟩ none
        ⟨P, W, some ⟨(k.receive slot).2, live⟩⟩
  | giveUp {P W e slot m} (hf : law.failing) :
      Turn X law mute like ⟨P, (slot, m) ::ₘ W, e⟩ none ⟨P, W, e.map (·.under (·.setSender .async))⟩

variable {β κ α : Type}

/-! ### Threads of a scene -/

/-- All the messages that are somewhere, each with its place. -/
def places (stock flight : Multiset Message) (H : Multiset (Place × Message)) :
    Multiset (Place × Message) :=
  stock.map (Prod.mk .stocked) + flight.map (Prod.mk .flying) + H

@[simp] theorem places_stock (m : Message) (A M : Multiset Message)
    (H : Multiset (Place × Message)) : places (m ::ₘ A) M H = (.stocked, m) ::ₘ places A M H := by
  simp [places]

@[simp] theorem places_flight (m : Message) (A M : Multiset Message)
    (H : Multiset (Place × Message)) : places A (m ::ₘ M) H = (.flying, m) ::ₘ places A M H := by
  simp [places]

@[simp] theorem places_hand (h : Place × Message) (A M : Multiset Message)
    (H : Multiset (Place × Message)) : places A M (h ::ₘ H) = h ::ₘ places A M H := by
  simp [places]

/-- The messages with the id, each with what it is in. -/
def along {ι : Type} (X : TrackingId) (H : Multiset (ι × Message)) : Multiset (ι × Message) :=
  H.filter fun h => h.2.tracking = some X

theorem along_pos {ι : Type} {X : TrackingId} {m : Message} (hm : m.tracking = some X) (i : ι)
    (H : Multiset (ι × Message)) : along X ((i, m) ::ₘ H) = (i, m) ::ₘ along X H :=
  Multiset.filter_cons_of_pos _ hm

theorem along_neg {ι : Type} {X : TrackingId} {m : Message} (hm : m.tracking ≠ some X) (i : ι)
    (H : Multiset (ι × Message)) : along X ((i, m) ::ₘ H) = along X H :=
  Multiset.filter_cons_of_neg _ hm

theorem along_places (X : TrackingId) (A M : Multiset Message) (H : Multiset (Place × Message)) :
    along X (places A M H) = along X (places A M 0) + along X H := by
  rw [along, along, along, ← Multiset.filter_add, places, places, add_zero]

theorem Idle.along {X : TrackingId} {A M : Multiset Message} {H : Multiset (Place × Message)}
    {W : Multiset (Nat × Message)} (h : Idle H W) : Idle (along X (places A M H)) (along X W) := by
  refine ⟨fun x hx => ?_, by rw [h.2]; rfl⟩
  have hx := Multiset.mem_of_mem_filter hx
  simp only [places, Multiset.mem_add, Multiset.mem_map] at hx
  rcases hx with (⟨m, -, rfl⟩ | ⟨m, -, rfl⟩) | hx
  · rfl
  · rfl
  · exact h.1 x hx

/-- No id was given out where nothing has happened yet. -/
@[simp] theorem Site.lookup?_opening {b : β} {clock : Clock} {settings : Settings} {scope : Nat}
    {a : α} {X : TrackingId} :
    (Site.opening b clock settings scope a : World β κ α).trackers.lookup? X = none := by
  simp [Site.opening, Site.trackers, Site.producer, Producer.start, TrackerTable.lookup?]

/-! ### Entries -/

/-- A message whose tracker grants a retry has an entry with one left. -/
theorem entry_of_grants {s : World β κ α} {id : TrackingId} {sender : Sender}
    (hg : s.grants id = some sender) :
    ∃ k live, s.trackers.lookup? id = some ⟨k, live⟩ ∧ 0 < k.remaining ∧ k.sender = sender := by
  obtain ⟨⟨k, live⟩, he, hk, hs⟩ := (TrackerTable.claim_eq_some _ _).mp hg
  exact ⟨k, live, he, hk, hs⟩

/-- A retry is granted if there is one left, and else none is. -/
theorem granted_of_entry {s : World β κ α} {X : TrackingId} {k : Tracker} {live : Bool}
    {sender : Sender} (hk : s.trackers.lookup? X = some ⟨k, live⟩)
    (hg : s.grants X = some sender) : 0 < k.remaining ∧ k.sender = sender := by
  obtain ⟨k', live', hk', hremaining, hsender⟩ := entry_of_grants hg
  obtain ⟨rfl, -⟩ := Issued.mk.inj (Option.some_inj.mp (hk'.symm.trans hk))
  exact ⟨hremaining, hsender⟩

theorem remaining_of_entry {s : World β κ α} {X : TrackingId} {k : Tracker} {live : Bool}
    (hk : s.trackers.lookup? X = some ⟨k, live⟩) (hg : s.grants X = none) : k.remaining = 0 := by
  have hlookup : s.producer.trackers.lookup? X = some ⟨k, live⟩ := hk
  simpa [Site.grants, TrackerTable.tracker?_eq, hlookup, Tracker.claimRetry_fst] using hg

theorem entry_of_find {s : World β κ α} {m : Message} {id : TrackingId}
    (hm : s.producer.trackers.find? m = some id) :
    m.tracking = some id ∧ ∃ k, s.trackers.lookup? id = some ⟨k, true⟩ := by
  obtain ⟨hm, hl⟩ := TrackerTable.find?_eq_some_iff.mp hm
  rw [TrackerTable.isLive_eq, Option.any_eq_true] at hl
  obtain ⟨⟨k, live⟩, he, rfl⟩ := hl
  exact ⟨hm, k, he⟩

/-- A message is found under its id, while its entry is live. -/
theorem find?_of_entry {s : World β κ α} {m : Message} {X : TrackingId} {k : Tracker}
    (hm : m.tracking = some X) (hk : s.trackers.lookup? X = some ⟨k, true⟩) :
    s.producer.trackers.find? m = some X := by
  have hlookup : s.producer.trackers.lookup? X = some ⟨k, true⟩ := hk
  rw [TrackerTable.find?_of_tracking _ hm, hlookup]
  rfl

theorem receipt_eq {s : World β κ α} {id : TrackingId} {e : Issued}
    (he : s.trackers.lookup? id = some e) (slot : Nat) :
    s.receipt id slot = (e.tracker.receive slot).1 := by
  have ht := s.trackers.tracker?_eq id
  rw [he] at ht
  rw [Site.receipt, show s.producer.trackers.tracker? id = _ from ht]
  rfl

theorem nextSlot_eq {s : World β κ α} {id : TrackingId} {e : Issued}
    (he : s.trackers.lookup? id = some e) : s.nextSlot id = e.tracker.opened := by
  have ht := s.trackers.tracker?_eq id
  rw [he] at ht
  rw [Site.nextSlot, show s.producer.trackers.tracker? id = _ from ht]
  rfl

/-- A retry was claimed under the message's id, and the slot tells of it. -/
theorem lookup?_retried {s t : World β κ α} {m : Message} {id X : TrackingId}
    (hm : m.tracking = some id)
    (ht : t.trackers = (s.trackers.update id (·.claimRetry.2)).update id (·.complete .retry)) :
    t.trackers.lookup? X = if m.tracking = some X then
      (s.trackers.lookup? X).map (·.under fun k => k.claimRetry.2.complete .retry)
      else s.trackers.lookup? X := by
  rw [ht, TrackerTable.lookup?_update_of_tracking _ _ hm,
    TrackerTable.lookup?_update_of_tracking _ _ hm]
  split
  · rw [Option.map_map]
    rfl
  · rfl

/-- The journal tells that a retry was claimed, and nothing more is told by the acknowledgement. -/
theorem beats_retried {s t : World β κ α} {m : Message} {id X : TrackingId}
    (hj : t.journal = (s.granted id m).journal) :
    beats X (t.acknowledged (some id) .retry m).journal =
      beats X s.journal ++ if m.tracking = some X then (some Beat.granted).toList else [] := by
  rw [Site.journal_acknowledged, beats_cons, Site.event_entry, hj]
  exact (List.append_nil _).trans (beats_cons_of _ (by simp [Event.beat]))

/-! ### Turns -/

/-- Some hook is missing. -/
def Site.Mute (s : World β κ α) : Prop := ∃ kind, s.producer.hooks.find? kind = none

namespace Scene

variable {c : Client β}

def thread (X : TrackingId) (S : Scene c κ α) : Thread :=
  ⟨along X (places S.world.stock S.flight S.hands), along X S.waits, S.world.trackers.lookup? X⟩

/-- From one scene to another the thread of `X` took a turn, and the journal tells of its beat. -/
def Turns (X : TrackingId) (law : Law) (like : Message → Message → Prop) (S S' : Scene c κ α) :
    Prop :=
  ∃ b, Turn X law S.world.Mute like (S.thread X) b (S'.thread X) ∧
    beats X S'.world.journal = beats X S.world.journal ++ b.toList

variable {X : TrackingId} {law : Law} {like : Message → Message → Prop} {S S' : Scene c κ α}

theorem Turns.of_eq (ht : S'.thread X = S.thread X)
    (hb : beats X S'.world.journal = beats X S.world.journal) : S.Turns X law like S' :=
  ⟨none, ht ▸ .rest, by simpa using hb⟩

/-- What happens to one message is nothing to the thread of another id. -/
theorem Turns.about (m : Message) (b : Option Beat)
    (hb : beats X S'.world.journal =
      beats X S.world.journal ++ if m.tracking = some X then b.toList else [])
    (hother : m.tracking ≠ some X → S'.thread X = S.thread X)
    (ht : m.tracking = some X → Turn X law S.world.Mute like (S.thread X) b (S'.thread X)) :
    S.Turns X law like S' := by
  by_cases hm : m.tracking = some X
  · exact ⟨b, ht hm, by simpa [hm] using hb⟩
  · exact .of_eq (hother hm) (by simpa [hm] using hb)

/-- A message that is somewhere or is waited for has an entry. -/
theorem exists_entry (hclean : (S.thread X).entry = none →
      (S.thread X).spots = 0 ∧ (S.thread X).waits = 0)
    (h : (S.thread X).spots ≠ 0 ∨ (S.thread X).waits ≠ 0) :
    ∃ k, S.world.trackers.lookup? X = some k := by
  refine Option.ne_none_iff_exists'.mp fun hnone => ?_
  obtain ⟨hspots, hwaits⟩ := hclean hnone
  exact h.elim (· hspots) (· hwaits)

section Hands

variable {T T' : List c.Task} {H H' : Multiset (Place × Message)}
  {W W' : Multiset (Nat × Message)} {M M' : Multiset Message} {s t : World β κ α} {p p' : Place}
  {m : Message} {g : Option Issued → Option Issued}

/-- A message comes from one place to another, and `g` is what becomes of its entry. -/
theorem Turns.shift {P : Multiset (Place × Message)} (b : Option Beat)
    (hbefore : places s.stock M H = (p, m) ::ₘ P) (hafter : places t.stock M' H' = (p', m) ::ₘ P)
    (he : t.trackers.lookup? X =
      if m.tracking = some X then g (s.trackers.lookup? X) else s.trackers.lookup? X)
    (hb : beats X t.journal = beats X s.journal ++ if m.tracking = some X then b.toList else [])
    (ht : m.tracking = some X → ∀ P W, Turn X law s.Mute like
      ⟨(p, m) ::ₘ P, W, s.trackers.lookup? X⟩ b ⟨(p', m) ::ₘ P, W, g (s.trackers.lookup? X)⟩) :
    Turns X law like (⟨T, H, W, M, s⟩ : Scene c κ α) ⟨T', H', W, M', t⟩ := by
  refine .about m b hb (fun hm => ?_) fun hm => ?_
  · simp only [thread, hbefore, hafter, along_neg hm, he, if_neg hm]
  · simp only [thread, hbefore, hafter, along_pos hm, he, if_pos hm]
    exact ht hm _ _

/-- A message in hand comes to another place. -/
theorem Turns.hand (b : Option Beat) (hstock : t.stock = s.stock)
    (he : t.trackers.lookup? X =
      if m.tracking = some X then g (s.trackers.lookup? X) else s.trackers.lookup? X)
    (hb : beats X t.journal = beats X s.journal ++ if m.tracking = some X then b.toList else [])
    (ht : m.tracking = some X → ∀ P W, Turn X law s.Mute like
      ⟨(p, m) ::ₘ P, W, s.trackers.lookup? X⟩ b ⟨(p', m) ::ₘ P, W, g (s.trackers.lookup? X)⟩) :
    Turns X law like (⟨T, (p, m) ::ₘ H, W, M, s⟩ : Scene c κ α) ⟨T', (p', m) ::ₘ H, W, M, t⟩ :=
  .shift b (places_hand ..) (by rw [hstock, places_hand]) he hb ht

/-- A message in hand is out of hand and nowhere else. -/
theorem Turns.gone (b : Option Beat) (hstock : t.stock = s.stock)
    (he : t.trackers.lookup? X =
      if m.tracking = some X then g (s.trackers.lookup? X) else s.trackers.lookup? X)
    (hb : beats X t.journal = beats X s.journal ++ if m.tracking = some X then b.toList else [])
    (ht : m.tracking = some X → ∀ P W, Turn X law s.Mute like
      ⟨(p, m) ::ₘ P, W, s.trackers.lookup? X⟩ b ⟨P, W, g (s.trackers.lookup? X)⟩) :
    Turns X law like (⟨T, (p, m) ::ₘ H, W, M, s⟩ : Scene c κ α) ⟨T', H, W, M, t⟩ := by
  refine .about m b hb (fun hm => ?_) fun hm => ?_
  · simp only [thread, places_hand, along_neg hm, hstock, he, if_neg hm]
  · simp only [thread, places_hand, along_pos hm, hstock, he, if_pos hm]
    exact ht hm _ _

/-- A caller does not wait any longer for its message. -/
theorem Turns.waited {slot : Nat} {id : TrackingId} {f : Tracker → Tracker}
    (hm : m.tracking = some id) (hH : m.tracking ≠ some X → along X H' = along X H)
    (ht : id = X → Turn X law s.Mute like
      ⟨along X (places s.stock M H), (slot, m) ::ₘ along X W, s.trackers.lookup? X⟩ none
      ⟨along X (places s.stock M H'), along X W, (s.trackers.lookup? X).map (·.under f)⟩) :
    Turns X law like (⟨T, H, (slot, m) ::ₘ W, M, s⟩ : Scene c κ α)
      ⟨T', H', W, M, s.retracked (·.update id f)⟩ := by
  refine .about m none (by simp) (fun hX => ?_) fun hX => ?_
  · have hne : X ≠ id := fun h => hX (h ▸ hm)
    have hspots : along X (places s.stock M H') = along X (places s.stock M H) := by
      rw [along_places, hH hX, ← along_places]
    simp only [thread, Site.stock_retracked, Site.trackers_retracked, along_neg hX,
      TrackerTable.lookup?_update, if_neg hne, hspots]
  · obtain rfl : id = X := Option.some_inj.mp (hm.symm.trans hX)
    simp only [thread, Site.stock_retracked, Site.trackers_retracked, along_pos hX,
      TrackerTable.lookup?_update, if_true]
    exact ht rfl

/-- A retry is granted for a message in hand. -/
theorem Turns.granted {id : TrackingId} {sender : Sender}
    (hm : s.producer.trackers.find? m = some id) (hg : s.grants id = some sender)
    (ht : ∀ P W k, 0 < k.remaining → Turn X law s.Mute like
      ⟨(p, m) ::ₘ P, W, some ⟨k, true⟩⟩ (some .granted)
      ⟨(p', m) ::ₘ P, W, some ⟨k.claimRetry.2, true⟩⟩) :
    Turns X law like (⟨T, (p, m) ::ₘ H, W, M, s⟩ : Scene c κ α)
      ⟨T, (p', m) ::ₘ H, W, M, s.granted id m⟩ := by
  obtain ⟨hid, k, hk⟩ := entry_of_find hm
  refine .hand (some .granted) rfl (s.trackers.lookup?_update_of_tracking _ hid (·.claimRetry.2))
    (beats_cons_of _ (by simp [Event.beat])) fun hX P W => ?_
  obtain rfl : id = X := Option.some_inj.mp (hid.symm.trans hX)
  rw [hk]
  exact ht P W k (granted_of_entry hk hg).1

/-- A message in hand is given the next id, and is then at the place `p`. -/
theorem Turns.born {m' : Message} {e : Issued} (hstock : t.stock = s.stock)
    (hj : t.journal = s.journal) (hf : s.trackers.find? m = none)
    (hm' : m'.tracking = some s.trackers.nextId)
    (he : t.trackers.lookup? X = if X = s.trackers.nextId then some e else s.trackers.lookup? X)
    (hclean : s.trackers.lookup? X = none →
      along X (places s.stock M ((.ready none, m) ::ₘ H)) = 0)
    (hbirth : ∀ P W, Turn X law s.Mute like ⟨P, W, none⟩ none ⟨(p, m') ::ₘ P, W, some e⟩) :
    Turns X law like (⟨T, (.ready none, m) ::ₘ H, W, M, s⟩ : Scene c κ α)
      ⟨T', (p, m') ::ₘ H, W, M, t⟩ := by
  by_cases hX : X = s.trackers.nextId
  · subst hX
    have hnone := s.trackers.lookup?_nextId
    have hm : m.tracking ≠ some s.trackers.nextId := fun hm => by
      simp [hnone, along_pos hm] at hclean
    refine ⟨none, ?_, by simp [hj]⟩
    simp only [thread, hstock, he, if_true, places_hand, along_neg hm, hnone, along_pos hm']
    exact hbirth _ _
  · have hm' : m'.tracking ≠ some X := fun h => hX (Option.some_inj.mp (h.symm.trans hm'))
    by_cases hm : m.tracking = some X
    · refine ⟨none, ?_, by simp [hj]⟩
      rw [TrackerTable.find?_of_tracking _ hm] at hf
      cases hk : s.trackers.lookup? X with
      | none => simp [hk, along_pos hm] at hclean
      | some k =>
        obtain ⟨k, live⟩ := k
        obtain rfl : live = false := by simpa [hk] using hf
        simp only [thread, hstock, he, if_neg hX, places_hand, along_neg hm', along_pos hm, hk]
        exact .shed
    · refine .of_eq ?_ (by rw [hj])
      simp only [thread, hstock, he, if_neg hX, places_hand, along_neg hm', along_neg hm]

/-- A message in hand is a caller's from now on, with the entry it has or with a new one. -/
theorem Turns.engage (hn : law.nested ∨ Idle H W)
    (hclean : s.trackers.lookup? X = none →
      along X (places s.stock M ((.ready none, m) ::ₘ H)) = 0) :
    Turns X law like (⟨T, (.ready none, m) ::ₘ H, W, M, s⟩ : Scene c κ α)
      ⟨T, (.engaged, (s.engage m).1) ::ₘ H, W, M, (s.engage m).2⟩ := by
  simp only [Site.engage]
  generalize (if s.producer.tracking then s.producer.settings.retryBudget else 0) = budget
  rcases s.trackers.attach_cases m .sync budget with ⟨id, hf, ha⟩ | ⟨hf, hid, hm', he⟩
  · have hid : (s.attach m .sync budget).1 = id := congrArg (·.1) ha
    have hm' : (s.attach m .sync budget).2.1 = m := congrArg (·.2.1) ha
    have ht : (s.attach m .sync budget).2.2.trackers = s.trackers := congrArg (·.2.2) ha
    obtain ⟨hm, k, hk⟩ := entry_of_find hf
    rw [hid, hm']
    refine .about m none (by simp) (fun hX => ?_) fun hX => ?_
    · have hne : X ≠ id := fun h => hX (h ▸ hm)
      simp only [thread, Site.stock_entrusted, Site.stock_attach, Site.trackers_entrusted, ht,
        places_hand, along_neg hX, TrackerTable.lookup?_update, if_neg hne]
    · obtain rfl : id = X := Option.some_inj.mp (hm.symm.trans hX)
      simp only [thread, Site.stock_entrusted, Site.stock_attach, Site.trackers_entrusted, ht,
        places_hand, along_pos hX, TrackerTable.lookup?_update, if_true, hk, Option.map_some]
      exact .engage (hn.imp_right fun hn => hn.along)
  · have hid : (s.attach m .sync budget).1 = _ := hid
    have hm' : (s.attach m .sync budget).2.1 = _ := hm'
    rw [hid, hm']
    refine .born (e := .fresh .sync budget) rfl rfl hf rfl ?_ hclean fun _ _ => .birthEngaged
    rw [Site.trackers_entrusted, TrackerTable.lookup?_update, Site.trackers_attach, he]
    split <;> rfl

end Hands

end Scene

theorem Event.beat_of_isAside {X : TrackingId} {e : Event} (he : e.isAside = true) :
    e.beat X = none := by
  cases e with
  | hookCalled kind m f => cases kind <;> simp_all [isAside, beat]
  | _ => simp_all [isAside, beat]

/-- Nobody handed in a message with the id. -/
def Unforged (X : TrackingId) (J : List Entry) : Prop :=
  ∀ e ∈ J, ∀ m, e.event = .submitted m → m.tracking ≠ some X

theorem Event.beat_eq_handed {X : TrackingId} {e : Event} :
    e.beat X = some .handed ↔ ∃ m, e = .submitted m ∧ m.tracking = some X := by
  cases e <;> simp [beat]

theorem unforged_iff {X : TrackingId} {J : List Entry} :
    Unforged X J ↔ .handed ∉ beats X J := by
  simp only [Unforged, beats, List.mem_filterMap, List.mem_reverse, Event.beat_eq_handed]
  push Not
  rfl

/-- A message was handed in that had an id of the scope. -/
def Event.isForgery (scope : Nat) : Event → Bool
  | submitted m => m.tracking.any (·.scope == scope)
  | _ => false

theorem unforged_of_scope {scope : Nat} {J : List Entry}
    (h : ∀ e ∈ J, e.event.isForgery scope = false) {X : TrackingId} (hX : X.scope = scope) :
    Unforged X J := by
  intro e he m hm hX'
  have h := h e he
  rw [hm, Event.isForgery, hX'] at h
  simp [hX] at h

variable {c : Client β} {told : β → β → Prop} {b₀ : β} {law : Law} {like : Message → Message → Prop}
  {S S' : Scene c κ α}

/-- When `pending` is zero nothing is at the broker or being reported. -/
theorem Scene.Balanced.none_pending (hS : S.Balanced told b₀)
    (hp : S.world.producer.counters.pending = 0) :
    ∀ h ∈ places S.world.stock S.flight S.hands, h.1.isPending = false := by
  have hsum := hS.pending
  rw [hp] at hsum
  have hM : S.flight = 0 := Multiset.card_eq_zero.mp (by omega)
  have hH : S.hands.countP (fun h => h.1.isPending) = 0 := by rw [← reports]; omega
  intro h hh
  simp only [places, hM, Multiset.map_zero, Multiset.add_zero, Multiset.mem_add,
    Multiset.mem_map] at hh
  rcases hh with ⟨m, -, rfl⟩ | hh
  · rfl
  · simpa using Multiset.countP_eq_zero.mp hH h hh

theorem Move.turns {X : TrackingId} (hc : c.Honest told b₀) (hk : c.Keeps like told b₀)
    (h : Move c told law S S') (hS : S.Balanced told b₀)
    (hclean : (S.thread X).entry = none → (S.thread X).spots = 0 ∧ (S.thread X).waits = 0) :
    S.Turns X law like S' := by
  cases h with
  | @outside T H W M s t hp hj hb =>
    refine .of_eq ?_ (by rw [hj])
    simp only [Scene.thread, Site.trackers, Site.stock, hp]
  | aside he =>
    refine .of_eq rfl ?_
    rw [Site.journal_noted, beats_cons, Site.event_entry, Event.beat_of_isAside he]
    simp
  | adjust hf =>
    refine .of_eq ?_ rfl
    simp only [Scene.thread, Site.trackers, Site.stock, Site.producer_amended, hf.regular, hf.retry,
      hf.trackers]
  | @vain T H W M s id hg =>
    have he := s.trackers.lookup?_claim_of_none id X hg
    refine .of_eq ?_ rfl
    simp only [Scene.thread, Site.stock_retracked, Site.trackers_retracked, he]
  | arrange regular retry hb =>
    refine .of_eq ?_ rfl
    simp only [Scene.thread, Site.stock_rebuffered, hb, Site.trackers_rebuffered]
  | @submit T H W M s m =>
    refine .about m (some .handed) (beats_cons_of _ (by simp [Event.beat])) (fun hm => ?_)
      fun hm => ?_
    · simp only [Scene.thread, Site.stock_noted, Site.trackers_noted, places_hand, along_neg hm]
    · simp only [Scene.thread, Site.stock_noted, Site.trackers_noted, places_hand, along_pos hm]
      exact .submit
  | store regular retry hb =>
    refine .shift (g := id) none (places_hand ..) ?_ (ite_self _).symm (by simp)
      fun _ _ _ => .store
    rw [Site.stock_rebuffered, hb, places_stock]
  | take regular retry hb =>
    refine .shift (g := id) none ?_ (places_hand ..) (ite_self _).symm (by simp) fun _ _ _ => .take
    rw [hb, Site.stock_rebuffered, places_stock]
  | discard =>
    exact .gone none rfl (TrackerTable.lookup?_release ..)
      (beats_cons_of _ (by simp [Event.beat])) fun _ _ _ => .discard
  | @accept T H W M s w m b hs =>
    refine .about m (some .offered) (beats_cons_of _ (by simp [Event.beat])) (fun hm => ?_)
      fun hm => ?_
    · cases w <;> simp [Scene.thread, along_neg hm]
    · have hw : along X (w.elim W fun slot => (slot, m) ::ₘ W) =
          w.elim (along X W) fun slot => (slot, m) ::ₘ along X W := by
        cases w <;> simp [along_pos hm]
      simp only [Scene.thread, Site.stock_accepted, Site.trackers_accepted, places_hand,
        places_flight, along_pos hm, hw]
      exact .accept
  | @full T H W M s w m b e hs he =>
    obtain rfl := BrokerError.eq_queueFull he
    exact .of_eq (by simp [Scene.thread]) (by simp [beats_cons, Event.beat])
  | @refuse T H W M s w m b e hs he =>
    have he : e ≠ .queueFull := fun h => by simp [h, BrokerError.isQueueFull] at he
    exact .hand (g := id) (some .offered) rfl (ite_self _).symm
      (beats_cons_of _ (by simp [Event.beat, he])) fun _ _ _ => .refuse
  | @tell T H W M s p p' m kind e hp =>
    have hk : kind ≠ .queueFull := by rintro rfl; cases hp
    exact .hand (g := id) (some (.told kind e)) rfl (ite_self _).symm
      (beats_cons_of _ (by simp [Event.beat, hk])) fun _ _ _ => .tell hp
  | hush hp hk =>
    exact .hand (g := id) none rfl (ite_self _).symm (by simp) fun _ _ _ => .hush hp ⟨_, hk⟩
  | requeue hm hg => exact .granted hm hg fun _ _ _ hr => .requeue hr
  | retake hm hg => exact .granted hm hg fun _ _ _ hr => .retake hr
  | forsake =>
    exact .hand none rfl (TrackerTable.lookup?_release ..)
      (beats_cons_of _ (by simp [Event.beat])) fun _ _ _ => .forsake
  | part => exact .gone (g := id) none rfl (ite_self _).symm (by simp) fun _ _ _ => .part
  | begin _ _ | more _ | finish _ => exact .of_eq rfl rfl
  | @report T H W M s task next r b clock hs =>
    obtain ⟨hmem, hid⟩ := meant_spec (hc hS.course hs)
    have hn := hk hS.course hs
    generalize meant M r.message = n at hmem hid hn ⊢
    obtain ⟨M', rfl⟩ := Multiset.exists_cons_of_mem hmem
    refine .about r.message none (by simp) (fun hm => ?_) fun hm => ?_
    · simp only [Scene.thread, Site.stock_turned, Site.trackers_turned, places_hand,
        places_flight, Multiset.erase_cons_head, along_neg hm, along_neg (hid.trans_ne hm)]
    · have hf : s.producer.trackers.find? r.message = _ := s.trackers.find?_of_tracking hm
      simp only [Scene.thread, hf, Site.stock_turned, Site.trackers_turned, places_hand,
        places_flight, Multiset.erase_cons_head, along_pos hm, along_pos (hid.trans hm)]
      exact .report hn
  | deliver =>
    exact .hand none rfl (TrackerTable.lookup?_release ..)
      (beats_cons_of _ (by simp [Event.beat])) fun _ _ _ => .deliver
  | lose =>
    exact .hand none rfl (TrackerTable.lookup?_release ..)
      (beats_cons_of _ (by simp [Event.beat])) fun _ _ _ => .lose
  | @acknowledge T H W M s k f m hk =>
    refine .gone (g := fun e => k.elim e fun _ =>
        e.map (·.under (·.complete (f.elim .delivered .dropped)))) none (by simp) ?_
      (by simp [beats_cons, Event.beat]) fun hX P W => .acknowledge
    rw [Site.trackers_acknowledged]
    cases k with
    | none => exact (ite_self _).symm
    | some id => exact s.trackers.lookup?_update_of_tracking _ (hk id rfl) (·.complete _)
  | @regain T H W M s id e m regular retry hm hg hb =>
    have hafter : places (((s.granted id m).rebuffered regular retry).acknowledged (some id)
        .retry m).stock M H = (.stocked, m) ::ₘ places s.stock M H := by
      rw [Site.stock_acknowledged, Site.stock_rebuffered, hb, places_stock]
    refine .shift (some .granted) (places_hand ..) hafter (lookup?_retried hm rfl)
      (beats_retried rfl) fun hX P W => ?_
    obtain rfl : id = X := Option.some_inj.mp (hm.symm.trans hX)
    obtain ⟨k, live, hk, hr, hs⟩ := entry_of_grants hg
    rw [hk]
    exact .regain hr hs
  | @leave T H W M s id e m hm hg =>
    refine .gone (some .granted) rfl (lookup?_retried hm rfl) (beats_retried rfl)
      fun hX P W => ?_
    obtain rfl : id = X := Option.some_inj.mp (hm.symm.trans hX)
    obtain ⟨k, live, hk, hr, hs⟩ := entry_of_grants hg
    rw [hk]
    exact .leave hr hs
  | @arm T H W M s m id hm =>
    refine .hand none rfl (s.trackers.lookup?_update_of_tracking _ hm (·.arm.2)) (by simp)
      fun hX P W => ?_
    obtain rfl : id = X := Option.some_inj.mp (hm.symm.trans hX)
    obtain ⟨k, hk⟩ := Scene.exists_entry hclean (.inl (by simp [Scene.thread, along_pos hm]))
    rw [nextSlot_eq hk, show s.trackers.lookup? id = _ from hk]
    exact .arm
  | @retry T H W M s slot m id hm hr =>
    refine .waited hm (fun hX => along_neg hX ..) fun hX => ?_
    obtain rfl := hX
    obtain ⟨k, hk⟩ := Scene.exists_entry hclean (.inr (by simp [Scene.thread, along_pos hm]))
    rw [receipt_eq hk] at hr
    rw [show s.trackers.lookup? id = _ from hk, places_hand, along_pos hm]
    exact .retry hr
  | @learn T H W M s slot m id hm hr hp =>
    refine .waited hm (fun _ => rfl) fun hX => ?_
    obtain rfl := hX
    obtain ⟨k, hk⟩ := Scene.exists_entry hclean (.inr (by simp [Scene.thread, along_pos hm]))
    rw [receipt_eq hk] at hr
    rw [show s.trackers.lookup? id = _ from hk]
    exact .learn hr fun h hh => hS.none_pending hp h (Multiset.mem_of_mem_filter hh)
  | giveUp hm hf => exact .waited hm (fun _ => rfl) fun _ => .giveUp hf
  | @attach T H W M s m ht =>
    generalize s.producer.settings.retryBudget = budget
    rcases s.trackers.attach_cases m .async budget with ⟨id, hf, ha⟩ | ⟨hf, -, hm', he⟩
    · have hm' : (s.attach m .async budget).2.1 = m := congrArg (·.2.1) ha
      refine .of_eq ?_ rfl
      simp only [Scene.thread, Site.stock_attach, Site.trackers_attach, hm', ha]
    · have hm' : (s.attach m .async budget).2.1 = _ := hm'
      rw [hm']
      exact .born rfl rfl hf rfl (he X) (fun h => (hclean h).1) fun _ _ => .birth
  | engage hn => exact .engage hn fun h => (hclean h).1

end Outbox
