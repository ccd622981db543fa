import Outbox.Proofs.Slots

/-! The tables of a session, taken as one table. What is held under an id is held in the table whose
    number is in the id, and a handle is as good as the id it stands for. Every id that was issued
    has a handle, and every message that has an id of one of these tables has one that was
    issued. That remains so whatever is done, and it settles what an attachment does to the whole
    session: nothing, or one new entry under an id that nobody has seen before. -/

namespace Outbox

namespace TrackerSession

variable {s s' : TrackerSession} {n k m h : Nat} {id X : TrackingId} {x : Issued}
  {table : TrackerTable} {message : Message}

/-- What is held under `id`, in whichever table. -/
def held? (s : TrackerSession) (id : TrackingId) : Option Issued :=
  s.tables[id.scope]?.bind (·.lookup? id)

/-- The id that message `m` carries. -/
def carries? (s : TrackerSession) (m : Nat) : Option TrackingId :=
  s.messages[m]?.bind (·.tracking)

/-- The tables have the numbers they should have; the handles are the ids that were issued, each
    once; and messages carry these ids, or those of tables that are not of this session. -/
structure Sound (n : Nat) (s : TrackerSession) : Prop where
  scopes : s.tables.map (·.scope) = List.range n
  nodup : s.handles.Nodup
  issued : ∀ id, (s.held? id).isSome = true ↔ id ∈ s.handles
  carried : ∀ m id, s.carries? m = some id → id.scope < n → id ∈ s.handles

theorem Sound.scope (hs : s.Sound n) (hk : s.tables[k]? = some table) : table.scope = k := by
  have hmap : (s.tables.map (·.scope))[k]? = some table.scope := by rw [List.getElem?_map, hk]; rfl
  rw [hs.scopes, List.getElem?_range] at hmap
  · exact (Option.some_inj.mp hmap).symm
  · have hlt := (List.getElem?_eq_some_iff.mp hk).1
    have hlen := congrArg List.length hs.scopes
    rw [List.length_map, List.length_range] at hlen
    omega

theorem Sound.length_tables (hs : s.Sound n) : s.tables.length = n := by
  have hlen := congrArg List.length hs.scopes
  rwa [List.length_map, List.length_range] at hlen

/-- An id is looked up in its own table. -/
theorem held?_eq (hk : s.tables[k]? = some table) (hid : id.scope = k) :
    s.held? id = table.lookup? id := by
  rw [held?, hid, hk]
  rfl

/-- A handle stands for something. -/
theorem Sound.exists_held (hs : s.Sound n) (hh : s.handles[h]? = some id) :
    ∃ x, s.held? id = some x :=
  Option.isSome_iff_exists.mp ((hs.issued id).mpr (List.mem_of_getElem? hh))

/-- The other tables know nothing about an id. -/
theorem Sound.tracker?_eq (hs : s.Sound n) (id : TrackingId) :
    s.tracker? id = (s.held? id).map (·.tracker) := by
  have helse : ∀ j table, s.tables[j]? = some table → j ≠ id.scope → table.tracker? id = none := by
    intro j table hj hne
    rw [TrackerTable.tracker?, if_neg]
    rw [hs.scope hj]
    exact hne.symm
  unfold tracker? held?
  cases hk : s.tables[id.scope]? with
  | none =>
    refine List.findSome?_eq_none_iff.mpr fun table hmem => ?_
    obtain ⟨j, hj⟩ := List.mem_iff_getElem?.mp hmem
    refine helse j table hj fun heq => ?_
    rw [heq, hk] at hj
    cases hj
  | some table =>
    have hown : table.tracker? id = (table.lookup? id).map (·.tracker) := table.tracker?_eq id
    change _ = (table.lookup? id).map (·.tracker)
    rw [← hown]
    cases hfound : s.tables.findSome? (·.tracker? id) with
    | none =>
      exact (List.findSome?_eq_none_iff.mp hfound table (List.mem_of_getElem? hk)).symm
    | some t =>
      obtain ⟨other, hmem, hother⟩ := List.exists_of_findSome?_eq_some hfound
      obtain ⟨j, hj⟩ := List.mem_iff_getElem?.mp hmem
      by_cases hne : j = id.scope
      · rw [hne, hk] at hj
        rw [Option.some_inj.mp hj, hother]
      · rw [helse j other hj hne] at hother
        cases hother

/-! ### What becomes of the entries -/

/-- To put an item where it is changes nothing. -/
theorem set_of_getElem? {α : Type} {l : List α} {a : α} (hk : l[k]? = some a) : l.set k a = l := by
  obtain ⟨hlt, rfl⟩ := List.getElem?_eq_some_iff.mp hk
  exact List.set_getElem_self hlt

theorem held?_update (s : TrackerSession) (id X : TrackingId) (f : Tracker → Tracker) :
    (s.update id f).held? X = if X = id then (s.held? X).map (·.under f) else s.held? X := by
  unfold held? update
  rw [List.getElem?_map]
  cases hk : s.tables[X.scope]? with
  | none => simp
  | some table => exact table.lookup?_update id X f

/-- One table is put in the place of another. -/
theorem held?_set (hk : s.tables[k]? = some table) (table' : TrackerTable) (X : TrackingId) :
    ({ s with tables := s.tables.set k table' } : TrackerSession).held? X =
      if X.scope = k then table'.lookup? X else s.held? X := by
  have hlt := (List.getElem?_eq_some_iff.mp hk).1
  unfold held?
  dsimp only
  rw [List.getElem?_set]
  by_cases hX : X.scope = k
  · rw [if_pos hX.symm, if_pos hX, if_pos hlt]
    rfl
  · rw [if_neg (Ne.symm hX), if_neg hX]

theorem scopes_set (hk : s.tables[k]? = some table) {table' : TrackerTable}
    (hscope : table'.scope = table.scope) :
    (s.tables.set k table').map (·.scope) = s.tables.map (·.scope) := by
  refine List.ext_getElem? fun j => ?_
  rw [List.map_set, List.getElem?_set]
  split
  · next hj =>
    subst hj
    rw [List.getElem?_map, hk, hscope]
    simp [(List.getElem?_eq_some_iff.mp hk).1]
  · rfl

theorem scopes_update (s : TrackerSession) (id : TrackingId) (f : Tracker → Tracker) :
    (s.update id f).tables.map (·.scope) = s.tables.map (·.scope) := by
  unfold update
  rw [List.map_map]
  exact List.map_congr_left fun table _ => table.scope_update id f

/-- To be sound is to have the right entries, whatever is in them. -/
theorem Sound.of_same (hs : s.Sound n)
    (hscopes : s'.tables.map (·.scope) = s.tables.map (·.scope)) (hhandles : s'.handles = s.handles)
    (hentries : ∀ X, (s'.held? X).isSome = (s.held? X).isSome)
    (hcarries : ∀ m id, s'.carries? m = some id → ∃ j, s.carries? j = some id) : s'.Sound n where
  scopes := hscopes.trans hs.scopes
  nodup := hhandles ▸ hs.nodup
  issued id := by rw [hentries, hhandles]; exact hs.issued id
  carried m id hm hlt := by
    obtain ⟨j, hj⟩ := hcarries m id hm
    rw [hhandles]
    exact hs.carried j id hj hlt

/-! ### Attachments -/

/-- A message is found under the id that it carries, if the entry is live and of this table. -/
theorem find?_eq_some (hs : s.Sound n) (hk : s.tables[k]? = some table)
    (hm : s.messages[m]? = some message) : table.find? message = some id ↔
      s.carries? m = some id ∧ id.scope = k ∧ ∃ x, s.held? id = some x ∧ x.live = true := by
  have hcarries : s.carries? m = message.tracking := by rw [carries?, hm]; rfl
  rw [TrackerTable.find?_eq_some_iff, TrackerTable.isLive_iff, hcarries, hs.scope hk]
  refine and_congr_right fun _ => and_congr_right fun hscope => ?_
  rw [held?_eq hk hscope, TrackerTable.lookup?, if_pos (hscope.trans (hs.scope hk).symm)]

theorem Sound.mem_handles_of_find? (hs : s.Sound n) (hk : s.tables[k]? = some table)
    (hm : s.messages[m]? = some message) (hfind : table.find? message = some id) :
    id ∈ s.handles := by
  obtain ⟨-, -, x, hx, -⟩ := (find?_eq_some hs hk hm).mp hfind
  exact (hs.issued id).mp (by rw [hx]; rfl)

/-- A message that is found is left alone, and so is all the rest. -/
theorem Sound.step_attach_of_find? (hs : s.Sound n) (hk : s.tables[k]? = some table)
    (hm : s.messages[m]? = some message) (hfind : table.find? message = some id)
    (sender : Sender) (budget : Nat) :
    s.step (.attach k m sender budget) = (.index (s.handles.idxOf id), s) := by
  have hmem := hs.mem_handles_of_find? hk hm hfind
  have hattach : table.attach message sender budget = (id, message, table) := by
    rw [TrackerTable.attach, hfind]
  simp only [step, hk, hm, hattach, handleOf, if_pos hmem, set_of_getElem? hk, set_of_getElem? hm]

/-- What a session is after a message was given a new id. -/
structure Adds (s s' : TrackerSession) (m : Nat) (id : TrackingId) (x : Issued) : Prop where
  scopes : s'.tables.map (·.scope) = s.tables.map (·.scope)
  handles : s'.handles = s.handles ++ [id]
  entries : ∀ X, s'.held? X = if X = id then some x else s.held? X
  messages : ∃ message, s.messages[m]? = some message ∧
    s'.messages = s.messages.set m { message with tracking := some id }
  receivers : s'.receivers = s.receivers

theorem Adds.carries?_eq (ha : s.Adds s' m id x) (j : Nat) :
    s'.carries? j = if j = m then some id else s.carries? j := by
  obtain ⟨message, hm, hmessages⟩ := ha.messages
  have hlt := (List.getElem?_eq_some_iff.mp hm).1
  rw [carries?, carries?, hmessages, List.getElem?_set]
  by_cases hj : j = m
  · rw [if_pos hj.symm, if_pos hj, if_pos hlt]
    rfl
  · rw [if_neg (Ne.symm hj), if_neg hj]

/-- A message that is not found gets an id that was not issued before. -/
theorem Sound.step_attach_of_new (hs : s.Sound n) (hk : s.tables[k]? = some table)
    (hm : s.messages[m]? = some message) (hfind : table.find? message = none)
    (sender : Sender) (budget : Nat) :
    ∃ id, id.scope = k ∧ id ∉ s.handles ∧
      (s.step (.attach k m sender budget)).1 = .index s.handles.length ∧
      s.Adds (s.step (.attach k m sender budget)).2 m id (.fresh sender budget) := by
  have hscope : table.nextId.scope = k := hs.scope hk
  have hnone : s.held? table.nextId = none := by
    rw [held?_eq hk hscope]
    exact table.lookup?_nextId
  have hnew : table.nextId ∉ s.handles := by
    rw [← hs.issued, hnone]
    exact Bool.false_ne_true
  rcases table.attach_cases message sender budget with
    ⟨id, hsome, -⟩ | ⟨-, hid, hmessage, hlookup⟩
  · rw [hfind] at hsome
    cases hsome
  have hstep : s.step (.attach k m sender budget) =
      (.index (s.handles.idxOf table.nextId),
        { s with
          handles := s.handles ++ [table.nextId]
          tables := s.tables.set k (table.attach message sender budget).2.2
          messages := s.messages.set m { message with tracking := some table.nextId } }) := by
    simp only [step, hk, hm, handleOf, hid, if_neg hnew, hmessage]
  refine ⟨table.nextId, hscope, hnew, ?_, ?_⟩
  · rw [hstep, List.idxOf_eq_length hnew]
  · rw [hstep]
    refine ⟨scopes_set hk (table.scope_attach message sender budget), rfl, ?_, ⟨message, hm, rfl⟩,
      rfl⟩
    intro X
    refine (held?_set hk (table.attach message sender budget).2.2 X).trans ?_
    by_cases hX : X.scope = k
    · rw [if_pos hX, hlookup, held?_eq hk hX]
    · rw [if_neg hX, if_neg fun heq : X = table.nextId => hX (heq ▸ hscope)]

theorem Adds.sound (hs : s.Sound n) (ha : s.Adds s' m id x) (hnew : id ∉ s.handles) :
    s'.Sound n where
  scopes := ha.scopes.trans hs.scopes
  nodup := by
    rw [ha.handles]
    refine List.nodup_append.mpr ⟨hs.nodup, by simp, ?_⟩
    intro a ha b hb heq
    exact hnew (List.mem_singleton.mp hb ▸ heq ▸ ha)
  issued X := by
    rw [ha.entries, ha.handles, List.mem_append, List.mem_singleton, ← hs.issued X]
    split <;> simp_all
  carried j X hj hlt := by
    rw [ha.carries?_eq] at hj
    rw [ha.handles, List.mem_append, List.mem_singleton]
    split at hj
    · exact .inr (Option.some_inj.mp hj).symm
    · exact .inl (hs.carried j X hj hlt)

/-- No message has an id before it is issued. -/
theorem Sound.carries?_ne (hs : s.Sound n) (hlt : id.scope < n) (hnew : id ∉ s.handles) (j : Nat) :
    s.carries? j ≠ some id := fun hj => hnew (hs.carried j id hj hlt)

/-- Whatever is attached, and to whichever table. -/
theorem Sound.step_attach_cases (hs : s.Sound n) (k m : Nat) (sender : Sender) (budget : Nat) :
    (s.step (.attach k m sender budget)).2 = s ∨
      ∃ id, id.scope < n ∧ id ∉ s.handles ∧
        s.Adds (s.step (.attach k m sender budget)).2 m id (.fresh sender budget) := by
  cases hk : s.tables[k]? with
  | none => exact .inl (by simp only [step, hk])
  | some table =>
    cases hm : s.messages[m]? with
    | none => exact .inl (by simp only [step, hk, hm])
    | some message =>
      cases hfind : table.find? message with
      | some id => exact .inl (by rw [hs.step_attach_of_find? hk hm hfind])
      | none =>
        obtain ⟨id, hscope, hnew, -, hadds⟩ := hs.step_attach_of_new hk hm hfind sender budget
        have hlt := (List.getElem?_eq_some_iff.mp hk).1
        rw [hs.length_tables] at hlt
        exact .inr ⟨id, hscope ▸ hlt, hnew, hadds⟩

/-! ### Releases -/

/-- A release ends the entry of the message, if the table is the one that issued its id. -/
theorem held?_release (s : TrackerSession) (k m : Nat) (X : TrackingId) :
    (s.step (.release k m)).2.held? X =
      if s.carries? m = some X ∧ X.scope = k then (s.held? X).map (·.ended) else s.held? X := by
  cases hk : s.tables[k]? with
  | none =>
    simp only [step, hk]
    split
    · next hX =>
      have hnone : s.held? X = none := by rw [held?, hX.2, hk]; rfl
      rw [hnone]
      rfl
    · rfl
  | some table =>
    cases hm : s.messages[m]? with
    | none => simp [step, hk, hm, carries?]
    | some message =>
      have hcarries : s.carries? m = message.tracking := by rw [carries?, hm]; rfl
      simp only [step, hk, hm]
      rw [held?_set hk, hcarries, TrackerTable.lookup?_release]
      by_cases hX : X.scope = k
      · simp [hX, held?_eq hk hX]
      · simp [hX]

/-- Nothing happens to a message of another table. -/
theorem Sound.step_release_of_foreign (hs : s.Sound n)
    (hforeign : ∀ id, s.carries? m = some id → id.scope ≠ k) : (s.step (.release k m)).2 = s := by
  cases hk : s.tables[k]? with
  | none => simp only [step, hk]
  | some table =>
    cases hm : s.messages[m]? with
    | none => simp only [step, hk, hm]
    | some message =>
      have hfind : table.find? message = none := by
        rw [← Option.not_isSome_iff_eq_none, Option.isSome_iff_exists]
        rintro ⟨id, hid⟩
        obtain ⟨hcarries, hscope, -⟩ := (find?_eq_some hs hk hm).mp hid
        exact hforeign id hcarries hscope
      have hsame : table.release message = table := by rw [TrackerTable.release, hfind]
      simp only [step, hk, hm, hsame, set_of_getElem? hk]

theorem scopes_release (s : TrackerSession) (k m : Nat) :
    (s.step (.release k m)).2.tables.map (·.scope) = s.tables.map (·.scope) := by
  cases hk : s.tables[k]? with
  | none => simp only [step, hk]
  | some table =>
    cases hm : s.messages[m]? with
    | none => simp only [step, hk, hm]
    | some message =>
      simp only [step, hk, hm]
      exact scopes_set hk (table.scope_release message)

/-- Only entries are touched by a release. -/
theorem rest_release (s : TrackerSession) (k m : Nat) :
    (s.step (.release k m)).2.handles = s.handles ∧
      (s.step (.release k m)).2.messages = s.messages ∧
      (s.step (.release k m)).2.receivers = s.receivers := by
  unfold step
  dsimp only
  split <;> exact ⟨rfl, rfl, rfl⟩

/-! ### What is done with one tracker -/

/-- Something is done with the tracker that was issued under `id`, and nothing else. -/
structure Touches (s s' : TrackerSession) (id : TrackingId) (op : SlotOp) : Prop where
  scopes : s'.tables.map (·.scope) = s.tables.map (·.scope)
  handles : s'.handles = s.handles
  messages : s'.messages = s.messages
  entries : ∀ X, s'.held? X =
    if X = id then (s.held? X).map (·.under (·.after op)) else s.held? X

theorem Touches.sound {op : SlotOp} (ht : s.Touches s' id op) (hs : s.Sound n) : s'.Sound n := by
  refine hs.of_same ht.scopes ht.handles ?_ ?_
  · intro X
    rw [ht.entries]
    split
    · exact Option.isSome_map
    · rfl
  · intro m id hm
    exact ⟨m, by rwa [carries?, ht.messages] at hm⟩

theorem touches_update {f : Tracker → Tracker} {op : SlotOp}
    (hf : ∀ x, s.held? id = some x → f x.tracker = x.tracker.after op)
    (receivers : Numbered Receiver) :
    s.Touches { s.update id f with receivers := receivers } id op where
  scopes := s.scopes_update id f
  handles := rfl
  messages := rfl
  entries X := by
    refine (s.held?_update id X f).trans ?_
    split
    · next hX =>
      cases hx : s.held? X with
      | none => rfl
      | some x => simp [Issued.under, hf x (hX ▸ hx)]
    · rfl

theorem touches_act (hx : s.held? id = some x) (op : TrackerOp) :
    s.Touches (s.act id x.tracker op).2 id (.act op) := by
  have hsame : ∀ y, s.held? id = some y → y = x := fun y hy =>
    Option.some_inj.mp (hy.symm.trans hx)
  cases op with
  | id =>
    refine ⟨rfl, rfl, rfl, fun X => ?_⟩
    change s.held? X = if X = id then (s.held? X).map (·.under (·)) else s.held? X
    split
    · cases s.held? X <;> rfl
    · rfl
  | claimRetry => exact touches_update (fun y hy => by rw [hsame y hy]; rfl) s.receivers
  | setSender k => exact touches_update (fun y _ => rfl) s.receivers
  | arm => exact touches_update (fun y hy => by rw [hsame y hy]; rfl) _
  | complete o => exact touches_update (fun y _ => rfl) s.receivers

theorem step_act_of_missing (hh : s.handles[h]? = none) (op : TrackerOp) :
    s.step (.act h op) = (.missing, s) := by
  simp only [step, hh, Option.bind_none]

theorem Sound.step_act (hs : s.Sound n) (hh : s.handles[h]? = some id)
    (hx : s.held? id = some x) (op : TrackerOp) :
    s.step (.act h op) = s.act id x.tracker op := by
  simp only [step, hh, Option.bind_some, hs.tracker?_eq, hx, Option.map_some]

theorem Sound.step_act_cases (hs : s.Sound n) (h : Nat) (op : TrackerOp) :
    (s.step (.act h op)).2 = s ∨
      ∃ id, s.handles[h]? = some id ∧ s.Touches (s.step (.act h op)).2 id (.act op) := by
  cases hh : s.handles[h]? with
  | none => exact .inl (by rw [step_act_of_missing hh])
  | some id =>
    obtain ⟨x, hx⟩ := hs.exists_held hh
    refine .inr ⟨id, rfl, ?_⟩
    rw [hs.step_act hh hx]
    exact touches_act hx op

theorem Sound.step_receive (hs : s.Sound n) (r : Nat) :
    (s.step (.receive r)).2 = s ∨
      ∃ id slot, s.Touches (s.step (.receive r)).2 id (.receive slot) := by
  cases hr : s.receivers.get? r with
  | none => exact .inl (by simp only [step, hr])
  | some receiver =>
    obtain ⟨id, slot, dropped⟩ := receiver
    cases dropped with
    | true => exact .inl (by simp only [step, hr])
    | false =>
      cases hx : s.held? id with
      | none => exact .inl (by simp only [step, hr, hs.tracker?_eq, hx, Option.map_none])
      | some x =>
        refine .inr ⟨id, slot, ?_⟩
        simp only [step, hr, hs.tracker?_eq, hx, Option.map_some]
        refine touches_update (fun y hy => ?_) s.receivers
        rw [Option.some_inj.mp (hy.symm.trans hx)]
        rfl

theorem step_drop (s : TrackerSession) (r : Nat) :
    (s.step (.drop r)).2 = s ∨ ∃ id slot, s.Touches (s.step (.drop r)).2 id (.drop slot) := by
  cases hr : s.receivers.get? r with
  | none => exact .inl (by simp only [step, hr])
  | some receiver =>
    refine .inr ⟨receiver.tracker, receiver.slot, ?_⟩
    simp only [step, hr]
    exact touches_update (fun y _ => rfl) _

/-! ### Soundness -/

theorem Sound.step_find (hs : s.Sound n) (hk : s.tables[k]? = some table)
    (hm : s.messages[m]? = some message) : s.step (.find k m) =
      ((table.find? message).elim .nothing fun id => .index (s.handles.idxOf id), s) := by
  cases hfind : table.find? message with
  | none => simp only [step, hk, hm, hfind, Option.elim_none]
  | some id =>
    have hmem := hs.mem_handles_of_find? hk hm hfind
    simp only [step, hk, hm, hfind, handleOf, if_pos hmem, Option.elim_some]

theorem Sound.step_find_snd (hs : s.Sound n) (k m : Nat) : (s.step (.find k m)).2 = s := by
  cases hk : s.tables[k]? with
  | none => simp only [step, hk]
  | some table =>
    cases hm : s.messages[m]? with
    | none => simp only [step, hk, hm]
    | some message => rw [hs.step_find hk hm]

/-- A copy carries what the original carries. -/
theorem carries?_copy (s : TrackerSession) (j m : Nat) :
    (s.step (.copy j)).2.carries? m = s.carries? m ∨
      (s.step (.copy j)).2.carries? m = s.carries? j := by
  cases hj : s.messages[j]? with
  | none => exact .inl (by simp only [step, hj])
  | some message =>
    simp only [step, hj]
    rcases Nat.lt_trichotomy m s.messages.length with hm | hm | hm
    · exact .inl (by simp [carries?, List.getElem?_append_left hm])
    · exact .inr (by simp [carries?, hm, hj])
    · refine .inl ?_
      have hlong : (s.messages ++ [message])[m]? = none :=
        List.getElem?_eq_none (by simp; omega)
      rw [carries?, carries?, hlong, List.getElem?_eq_none (Nat.le_of_lt hm)]

/-- Entries, handles and tables are not touched by a copy. -/
theorem rest_copy (s : TrackerSession) (j : Nat) :
    (s.step (.copy j)).2.tables = s.tables ∧ (s.step (.copy j)).2.handles = s.handles := by
  unfold step
  dsimp only
  split <;> exact ⟨rfl, rfl⟩

theorem Sound.step (hs : s.Sound n) (r : TrackerRequest) : (s.step r).2.Sound n := by
  cases r with
  | attach k m sender budget =>
    rcases hs.step_attach_cases k m sender budget with hsame | ⟨id, -, hnew, hadds⟩
    · rw [hsame]
      exact hs
    · exact hadds.sound hs hnew
  | find k m =>
    rw [hs.step_find_snd]
    exact hs
  | release k m =>
    obtain ⟨hhandles, hmessages, -⟩ := s.rest_release k m
    refine hs.of_same (s.scopes_release k m) hhandles ?_ ?_
    · intro X
      rw [held?_release]
      split
      · exact Option.isSome_map
      · rfl
    · intro j id hj
      exact ⟨j, by rwa [carries?, hmessages] at hj⟩
  | copy j =>
    obtain ⟨htables, hhandles⟩ := s.rest_copy j
    refine hs.of_same (by rw [htables]) hhandles ?_ ?_
    · intro X
      rw [held?, htables]
      rfl
    · intro m id hm
      rcases s.carries?_copy j m with hsame | hsame
      · exact ⟨m, hsame.symm.trans hm⟩
      · exact ⟨j, hsame.symm.trans hm⟩
  | act h op =>
    rcases hs.step_act_cases h op with hsame | ⟨id, -, htouches⟩
    · rw [hsame]
      exact hs
    · exact htouches.sound hs
  | receive r =>
    rcases hs.step_receive r with hsame | ⟨id, slot, htouches⟩
    · rw [hsame]
      exact hs
    · exact htouches.sound hs
  | drop r =>
    rcases s.step_drop r with hsame | ⟨id, slot, htouches⟩
    · rw [hsame]
      exact hs
    · exact htouches.sound hs

/-- At first nothing is issued, and no message has an id of one of these tables. -/
theorem sound_start {messages : List Message}
    (hm : ∀ m ∈ messages, ∀ id, m.tracking = some id → n ≤ id.scope) :
    (start n messages).Sound n := by
  have hnone : ∀ id, (start n messages).held? id = none := by
    intro id
    cases hk : (start n messages).tables[id.scope]? with
    | none => rw [held?, hk]; rfl
    | some table =>
      have hempty : table.issued = .empty := by
        obtain ⟨k, -, rfl⟩ := List.mem_map.mp (List.mem_of_getElem? hk)
        rfl
      rw [held?, hk, Option.bind_some, TrackerTable.lookup?, hempty, Numbered.get?_empty]
      exact ite_self _
  refine ⟨?_, List.nodup_nil, ?_, ?_⟩
  · simp [start, Function.comp_def]
  · intro id
    rw [hnone]
    exact iff_of_false Bool.false_ne_true List.not_mem_nil
  · intro m id hcarries hlt
    obtain ⟨message, hmessage, hid⟩ := Option.bind_eq_some_iff.mp hcarries
    have hle := hm message (List.mem_of_getElem? hmessage) id hid
    omega

end TrackerSession

end Outbox
