import Outbox.Message
import Outbox.Numbered
import Outbox.Retry.Tracker

/-! The tracker table of a producer. It issues ids and remembers every tracker it has issued, in
    order, so the number in an id is the place of its tracker. A tracker is live until its message
    has a final outcome. Only live trackers are found by message, but one that was found before
    keeps working for whoever still waits on it. Ids of another table are never found and never
    released here. -/

namespace Outbox

structure Issued where
  tracker : Tracker
  live : Bool := true
  deriving DecidableEq

structure TrackerTable where
  scope : Nat
  issued : Numbered Issued := .empty

namespace TrackerTable

/-- Is `id` one of this table's, issued and not released since? -/
def isLive (t : TrackerTable) (id : TrackingId) : Bool :=
  id.scope == t.scope && (t.issued.get? id.sequence).any (·.live)

/-- The id of a message, if its tracker is live in this table. -/
def find? (t : TrackerTable) (m : Message) : Option TrackingId := m.tracking.filter t.isLive

/-- The tracker that was issued under `id`, live or not. -/
def tracker? (t : TrackerTable) (id : TrackingId) : Option Tracker :=
  if id.scope = t.scope then (t.issued.get? id.sequence).map (·.tracker) else none

/-- The id that will be issued next. -/
def nextId (t : TrackerTable) : TrackingId := ⟨t.scope, t.issued.size⟩

/-- The tracker of a message: the live one it has, or else a new one under an id that is written
    into the message. -/
def attach (t : TrackerTable) (m : Message) (sender : Sender) (budget : Nat) :
    TrackingId × Message × TrackerTable :=
  match t.find? m with
  | some id => (id, m, t)
  | none =>
    (t.nextId, { m with tracking := some t.nextId },
      { t with issued := t.issued.push { tracker := { sender := sender, remaining := budget } } })

/-- Forget the tracker of a message. -/
def release (t : TrackerTable) (m : Message) : TrackerTable :=
  match t.find? m with
  | some id => { t with issued := t.issued.modify id.sequence fun e => { e with live := false } }
  | none => t

/-- Change the tracker that was issued under `id`. -/
def update (t : TrackerTable) (id : TrackingId) (f : Tracker → Tracker) : TrackerTable :=
  if id.scope = t.scope then
    { t with issued := t.issued.modify id.sequence fun e => { e with tracker := f e.tracker } }
  else t

/-- How many trackers are live. -/
def size (t : TrackerTable) : Nat := t.issued.toList.countP (·.live)

/-! ### What is found -/

theorem find?_eq_some_iff {t : TrackerTable} {m : Message} {id : TrackingId} :
    t.find? m = some id ↔ m.tracking = some id ∧ t.isLive id = true := by
  simp [find?, Option.filter_eq_some_iff]

theorem isLive_iff {t : TrackerTable} {id : TrackingId} :
    t.isLive id = true ↔
      id.scope = t.scope ∧ ∃ e, t.issued.get? id.sequence = some e ∧ e.live = true := by
  simp [isLive, Option.any_eq_true]

/-- An attached message is found under the id that `attach` tells. -/
theorem find?_attach (t : TrackerTable) (m : Message) (sender : Sender) (budget : Nat) :
    (t.attach m sender budget).2.2.find? (t.attach m sender budget).2.1 =
      some (t.attach m sender budget).1 := by
  unfold attach
  split
  · next h => exact h
  · refine find?_eq_some_iff.mpr ⟨rfl, isLive_iff.mpr ⟨rfl, ?_⟩⟩
    simp [nextId]

/-- A released message is not found. -/
theorem find?_release (t : TrackerTable) (m : Message) : (t.release m).find? m = none := by
  unfold release
  split
  · next id h =>
    obtain ⟨hm, -⟩ := find?_eq_some_iff.mp h
    cases he : t.issued.get? id.sequence <;>
      simp [find?, hm, isLive, Option.filter_some, Numbered.get?_modify, he]
  · next h => exact h

@[simp] theorem scope_attach (t : TrackerTable) (m : Message) (sender : Sender) (budget : Nat) :
    (t.attach m sender budget).2.2.scope = t.scope := by
  unfold attach; split <;> rfl

@[simp] theorem scope_release (t : TrackerTable) (m : Message) :
    (t.release m).scope = t.scope := by
  unfold release; split <;> rfl

@[simp] theorem scope_update (t : TrackerTable) (id : TrackingId) (f : Tracker → Tracker) :
    (t.update id f).scope = t.scope := by
  unfold update; split <;> rfl

end TrackerTable

end Outbox
