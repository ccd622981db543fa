import Outbox.Retry.Table

/-! A session with tracker tables: several tables, messages that move between them, and what the
    tables have handed out. A tracker is known by its handle, its place among the trackers seen so
    far, and a slot by its place among the slots opened so far. -/

namespace Outbox

/-- A slot of some tracker, as long as somebody may still look into it. -/
structure Receiver where
  tracker : TrackingId
  slot : Nat
  dropped : Bool := false

structure TrackerSession where
  tables : List TrackerTable
  messages : List Message
  handles : List TrackingId := []
  receivers : Numbered Receiver := .empty

/-- What can be done to the tracker with some handle. -/
inductive TrackerOp where
  | id
  | claimRetry
  | setSender (s : Sender)
  | arm
  | complete (o : Outcome)

inductive TrackerRequest where
  | attach (table message : Nat) (sender : Sender) (budget : Nat)
  | find (table message : Nat)
  | release (table message : Nat)
  | copy (message : Nat)
  | act (handle : Nat) (op : TrackerOp)
  | receive (receiver : Nat)
  | drop (receiver : Nat)

inductive TrackerReply where
  | done
  | missing
  | index (n : Nat)
  | nothing
  | id (id : TrackingId)
  | sender (s : Sender)
  | receipt (r : Receipt)
  deriving DecidableEq

namespace TrackerSession

/-- `n` empty tables, numbered from zero, and the given messages. -/
def start (n : Nat) (messages : List Message) : TrackerSession :=
  { tables := (List.range n).map fun k => { scope := k }, messages := messages }

/-- The tracker issued under `id`, whichever table it is in. -/
def tracker? (s : TrackerSession) (id : TrackingId) : Option Tracker :=
  s.tables.findSome? (·.tracker? id)

def update (s : TrackerSession) (id : TrackingId) (f : Tracker → Tracker) : TrackerSession :=
  { s with tables := s.tables.map (·.update id f) }

/-- The handle of a tracker, a new one if it was not seen before. -/
def handleOf (s : TrackerSession) (id : TrackingId) : Nat × TrackerSession :=
  (s.handles.idxOf id,
    if id ∈ s.handles then s else { s with handles := s.handles ++ [id] })

def act (s : TrackerSession) (id : TrackingId) (t : Tracker) :
    TrackerOp → TrackerReply × TrackerSession
  | .id => (.id id, s)
  | .claimRetry =>
    let (claim, t) := t.claimRetry
    (claim.elim .nothing .sender, s.update id fun _ => t)
  | .setSender k => (.done, s.update id (·.setSender k))
  | .arm =>
    let (slot, t) := t.arm
    let s := s.update id fun _ => t
    (.index s.receivers.size, { s with receivers := s.receivers.push ⟨id, slot, false⟩ })
  | .complete o => (.done, s.update id (·.complete o))

def step (s : TrackerSession) : TrackerRequest → TrackerReply × TrackerSession
  | .attach t m sender budget =>
    match s.tables[t]?, s.messages[m]? with
    | some table, some message =>
      let (id, message, table) := table.attach message sender budget
      let (h, s) := s.handleOf id
      (.index h,
        { s with tables := s.tables.set t table, messages := s.messages.set m message })
    | _, _ => (.missing, s)
  | .find t m =>
    match s.tables[t]?, s.messages[m]? with
    | some table, some message =>
      match table.find? message with
      | some id => let (h, s) := s.handleOf id; (.index h, s)
      | none => (.nothing, s)
    | _, _ => (.missing, s)
  | .release t m =>
    match s.tables[t]?, s.messages[m]? with
    | some table, some message =>
      (.done, { s with tables := s.tables.set t (table.release message) })
    | _, _ => (.missing, s)
  | .copy m =>
    match s.messages[m]? with
    | some message =>
      (.index s.messages.length, { s with messages := s.messages ++ [message] })
    | none => (.missing, s)
  | .act h op =>
    match s.handles[h]?.bind fun id => (s.tracker? id).map (id, ·) with
    | some (id, t) => s.act id t op
    | none => (.missing, s)
  | .receive r =>
    match s.receivers.get? r with
    | some ⟨id, slot, false⟩ =>
      match s.tracker? id with
      | some t => let (receipt, t) := t.receive slot; (.receipt receipt, s.update id fun _ => t)
      | none => (.missing, s)
    | _ => (.missing, s)
  | .drop r =>
    match s.receivers.get? r with
    | some ⟨id, slot, _⟩ =>
      (.done,
        { s.update id (·.abandon slot) with
          receivers := s.receivers.modify r fun e => { e with dropped := true } })
    | none => (.done, s)

def run (s : TrackerSession) (rs : List TrackerRequest) : TrackerSession :=
  rs.foldl (fun s r => (s.step r).2) s

/-- The retries left in the tracker of each handle. -/
def remaining (s : TrackerSession) : List Nat :=
  s.handles.map fun id => (s.tracker? id).elim 0 (·.remaining)

end TrackerSession

end Outbox
