import Mathlib.Data.List.Nodup
import Outbox.Buffer.Session

/-! Batches come out of a buffer and go back into it, and meanwhile the buffer fills again. Any
    number of batches may be out at a time, some of them in part used up. Main statement: whatever
    is done and in whichever order, the messages that were pushed are those in the buffer, those in
    the batches and those that were popped; and as long as messages come in at the back, and a batch
    goes back when those taken after it are done with, the batches from the oldest to the newest and
    then the buffer hold what was not popped in the order in which it came. -/

namespace Outbox

namespace BufferOp

/-- The message that comes in. -/
def pushed? : BufferOp → Option Message
  | pushBack m | pushFront m => some m
  | _ => none

/-- The same is done with other messages. -/
def map (f : Message → Message) : BufferOp → BufferOp
  | pushBack m => pushBack (f m)
  | pushFront m => pushFront (f m)
  | take => take
  | pop i => pop i
  | restoreFront i => restoreFront i
  | look => look

theorem pushed?_map (f : Message → Message) (op : BufferOp) :
    (op.map f).pushed? = op.pushed?.map f := by
  cases op <;> rfl

end BufferOp

namespace BufferReply

/-- The message that goes out. -/
def popped? : BufferReply → Option Message
  | popped m => m
  | _ => none

end BufferReply

namespace BufferSession

/-- All that was pushed, in order. -/
def pushed (ops : List BufferOp) : List Message := ops.filterMap BufferOp.pushed?

/-- All that was popped, in order. -/
def popped (replies : List BufferReply) : List Message := replies.filterMap BufferReply.popped?

theorem pushed_cons (op : BufferOp) (ops : List BufferOp) :
    pushed (op :: ops) = op.pushed?.toList ++ pushed ops := by
  rw [pushed, List.filterMap_cons]
  cases op.pushed? <;> rfl

theorem popped_cons (r : BufferReply) (replies : List BufferReply) :
    popped (r :: replies) = r.popped?.toList ++ popped replies := by
  rw [popped, List.filterMap_cons]
  cases r.popped? <;> rfl

/-- What is in the batches, from the oldest to the newest, and after it what is in the buffer. -/
def waiting (s : BufferSession) : List Message :=
  s.batches.flatten ++ s.buffers.flatMap Buffer.messages

/-- All is done to the first buffer. -/
def after (s : BufferSession) (ops : List BufferOp) : BufferSession := s.run (ops.map (0, ·))

/-- What is answered. -/
def replies (s : BufferSession) : List BufferOp → List BufferReply
  | [] => []
  | op :: ops => (s.step 0 op).1 :: replies (s.step 0 op).2 ops

/-- A message comes in at the back, and a batch goes back when nothing is left of those that were
    taken after it: they are back themselves, or used up. -/
def IsNested (s : BufferSession) : BufferOp → Prop
  | .pushFront _ => False
  | .restoreFront i => ∀ batch ∈ s.batches.drop (i + 1), batch = []
  | _ => True

/-- One thing after the other is done in this manner. -/
def Nested (s : BufferSession) : List BufferOp → Prop
  | [] => True
  | op :: ops => s.IsNested op ∧ Nested (s.step 0 op).2 ops

instance (s : BufferSession) : (op : BufferOp) → Decidable (s.IsNested op)
  | .pushFront _ => inferInstanceAs (Decidable False)
  | .restoreFront i =>
    inferInstanceAs (Decidable (∀ batch ∈ s.batches.drop (i + 1), batch = []))
  | .pushBack _ | .take | .pop _ | .look => inferInstanceAs (Decidable True)

instance decidableNested (s : BufferSession) : (ops : List BufferOp) → Decidable (s.Nested ops)
  | [] => inferInstanceAs (Decidable True)
  | op :: ops =>
    have := decidableNested (s.step 0 op).2 ops
    inferInstanceAs (Decidable (s.IsNested op ∧ (s.step 0 op).2.Nested ops))

variable {s t : BufferSession} {b : Buffer}

@[simp] theorem after_nil (s : BufferSession) : s.after [] = s := rfl

@[simp] theorem after_cons (s : BufferSession) (op : BufferOp) (ops : List BufferOp) :
    s.after (op :: ops) = (s.step 0 op).2.after ops := rfl

theorem waiting_of_buffers (hb : s.buffers = [b]) : s.waiting = s.batches.flatten ++ b.messages := by
  simp [waiting, hb]

/-- A batch that was never taken is an empty one. Any other stands after those that were taken before
    it and before those that were taken after it. -/
theorem batch_cases (s : BufferSession) (i : Nat) :
    (s.batch i = [] ∧ ∀ f, s.batches.modify i f = s.batches) ∨
    ∃ older newer, older.length = i ∧ s.batches = older ++ s.batch i :: newer ∧
      ∀ f, s.batches.modify i f = older ++ f (s.batch i) :: newer := by
  rcases Nat.lt_or_ge i s.batches.length with hi | hi
  · right
    have hbatch : s.batch i = s.batches[i] := by simp [batch, hi]
    refine ⟨s.batches.take i, s.batches.drop (i + 1), by simp; omega, ?_, ?_⟩
    · rw [hbatch, ← List.drop_eq_getElem_cons hi, List.take_append_drop]
    · intro f
      rw [hbatch, List.modify_eq_take_cons_drop hi]
  · left
    refine ⟨by simp [batch, hi], ?_⟩
    intro f
    exact List.modify_eq_self hi

/-! ### What is done to the messages that wait -/

theorem waiting_pushBack (hb : s.buffers = [b]) (m : Message) :
    (s.step 0 (.pushBack m)).2.waiting = s.waiting ++ [m] := by
  simp [waiting, step, hb]

theorem waiting_pushFront (hb : s.buffers = [b]) (m : Message) :
    (s.step 0 (.pushFront m)).2.waiting = s.batches.flatten ++ m :: b.messages := by
  simp [waiting, step, hb]

/-- A batch that is taken waits where it waited in the buffer. -/
theorem waiting_take (hb : s.buffers = [b]) : (s.step 0 .take).2.waiting = s.waiting := by
  simp [waiting, step, hb, Buffer.take_fst]

/-- A message that is popped leaves the others where they are. -/
theorem waiting_pop (s : BufferSession) (i : Nat) :
    ∃ ahead behind, s.waiting = ahead ++ (s.batch i).head?.toList ++ behind ∧
      (s.step 0 (.pop i)).2.waiting = ahead ++ behind := by
  rcases s.batch_cases i with ⟨hempty, hmodify⟩ | ⟨older, newer, -, hbatches, hmodify⟩
  · exact ⟨s.waiting, [], by simp [hempty], by simp [waiting, step, hmodify]⟩
  · refine ⟨older.flatten, (s.batch i).tail ++ newer.flatten ++ s.buffers.flatMap Buffer.messages,
      ?_, by simp [waiting, step, hmodify]⟩
    rw [waiting, hbatches]
    cases s.batch i <;> simp

/-- A batch that goes back comes to stand after those that were taken later, and before what is in
    the buffer. -/
theorem waiting_restoreFront (hb : s.buffers = [b]) (i : Nat) :
    ∃ older newer, s.waiting = older ++ s.batch i ++ newer ++ b.messages ∧
      (s.step 0 (.restoreFront i)).2.waiting = older ++ newer ++ s.batch i ++ b.messages ∧
      (s.IsNested (.restoreFront i) → newer = []) := by
  rcases s.batch_cases i with ⟨hempty, hmodify⟩ | ⟨older, newer, hlength, hbatches, hmodify⟩
  · exact ⟨s.batches.flatten, [], by simp [waiting, hb, hempty],
      by simp [waiting, step, hb, hempty, hmodify], fun _ => rfl⟩
  · refine ⟨older.flatten, newer.flatten, ?_, by simp [waiting, step, hb, hmodify], ?_⟩
    · rw [waiting_of_buffers hb, hbatches]
      simp
    · intro hnested
      have hdrop : s.batches.drop (i + 1) = newer := by rw [hbatches, ← hlength]; simp
      rw [IsNested, hdrop] at hnested
      exact List.flatten_eq_nil_iff.mpr hnested

/-- There is one buffer before and after each thing that is done. -/
theorem buffers_step (hb : s.buffers = [b]) (op : BufferOp) :
    ∃ c, (s.step 0 op).2.buffers = [c] := by
  cases op <;> simp [step, hb]

/-- A message may come in and one may go out, and no other comes or goes. -/
theorem perm_step (hb : s.buffers = [b]) (op : BufferOp) :
    (op.pushed?.toList ++ s.waiting).Perm
      ((s.step 0 op).2.waiting ++ (s.step 0 op).1.popped?.toList) := by
  cases op with
  | pushBack m =>
    rw [waiting_pushBack hb]
    simpa [step, BufferOp.pushed?, BufferReply.popped?] using
      (List.perm_append_singleton m s.waiting).symm
  | pushFront m =>
    rw [waiting_pushFront hb, waiting_of_buffers hb]
    simpa [step, BufferOp.pushed?, BufferReply.popped?] using List.perm_middle.symm
  | take =>
    rw [waiting_take hb]
    simp [step, BufferOp.pushed?, BufferReply.popped?]
  | pop i =>
    obtain ⟨ahead, behind, hs, ht⟩ := s.waiting_pop i
    rw [ht, hs]
    simpa [step, BufferOp.pushed?, BufferReply.popped?] using
      List.perm_append_comm.append_left ahead
  | restoreFront i =>
    obtain ⟨older, newer, hs, ht, -⟩ := waiting_restoreFront hb i
    rw [ht, hs]
    simpa [step, BufferOp.pushed?, BufferReply.popped?] using
      (List.perm_append_comm_assoc (s.batch i) newer b.messages).append_left older
  | look => simp [step, BufferOp.pushed?, BufferReply.popped?]

/-- Nobody overtakes anybody in what is nested. -/
theorem sublist_step (hb : s.buffers = [b]) {op : BufferOp} (hop : s.IsNested op) :
    (s.step 0 op).2.waiting.Sublist (s.waiting ++ op.pushed?.toList) := by
  cases op with
  | pushBack m =>
    rw [waiting_pushBack hb]
    exact .refl _
  | pushFront m => exact hop.elim
  | take =>
    rw [waiting_take hb]
    exact List.sublist_append_left ..
  | pop i =>
    obtain ⟨ahead, behind, hs, ht⟩ := s.waiting_pop i
    rw [ht, hs, List.append_assoc, List.append_assoc]
    refine List.Sublist.append_left ?_ ahead
    exact (List.sublist_append_left behind _).trans (List.sublist_append_right ..)
  | restoreFront i =>
    obtain ⟨older, newer, hs, ht, hnewer⟩ := waiting_restoreFront hb i
    rw [ht, hs, hnewer hop, List.append_nil, List.append_nil]
    exact List.sublist_append_left ..
  | look => exact List.sublist_append_left ..

/-! ### From one moment to another -/

theorem perm_after (hb : s.buffers = [b]) (ops : List BufferOp) :
    (pushed ops ++ s.waiting).Perm ((s.after ops).waiting ++ popped (s.replies ops)) := by
  induction ops generalizing s b with
  | nil => simp [pushed, popped, replies]
  | cons op ops ih =>
    obtain ⟨c, hc⟩ := buffers_step hb op
    rw [pushed_cons, replies, popped_cons, after_cons]
    calc op.pushed?.toList ++ pushed ops ++ s.waiting
        = op.pushed?.toList ++ (pushed ops ++ s.waiting) := List.append_assoc ..
      List.Perm _ (pushed ops ++ (op.pushed?.toList ++ s.waiting)) :=
        List.perm_append_comm_assoc ..
      List.Perm _ (pushed ops ++ ((s.step 0 op).2.waiting ++ (s.step 0 op).1.popped?.toList)) :=
        (perm_step hb op).append_left _
      List.Perm _ (((s.step 0 op).2.after ops).waiting ++ popped ((s.step 0 op).2.replies ops) ++
          (s.step 0 op).1.popped?.toList) := by
        rw [← List.append_assoc]
        exact (ih hc).append_right _
      List.Perm _ _ := by
        rw [List.append_assoc]
        exact List.perm_append_comm.append_left _

theorem sublist_after (hb : s.buffers = [b]) {ops : List BufferOp} (hops : s.Nested ops) :
    (s.after ops).waiting.Sublist (s.waiting ++ pushed ops) := by
  induction ops generalizing s b with
  | nil => simp [pushed]
  | cons op ops ih =>
    obtain ⟨hop, hops⟩ := hops
    obtain ⟨c, hc⟩ := buffers_step hb op
    have hrest := (sublist_step hb hop).append_right (pushed ops)
    rw [List.append_assoc, ← pushed_cons] at hrest
    exact (ih hc hops).trans hrest

/-! ### Messages told apart by when they came -/

/-- The same was done in two sessions, with other messages. -/
structure Renamed (f : Message → Message) (s t : BufferSession) : Prop where
  batches : t.batches = s.batches.map (·.map f)
  buffers : ∃ b c, s.buffers = [b] ∧ t.buffers = [c] ∧ c.messages = b.messages.map f

theorem Renamed.waiting_eq (h : Renamed f s t) : t.waiting = s.waiting.map f := by
  obtain ⟨b, c, hs, ht, hmessages⟩ := h.buffers
  rw [waiting_of_buffers hs, waiting_of_buffers ht, h.batches, hmessages, List.map_append,
    List.map_flatten]

theorem Renamed.batch_eq (h : Renamed f s t) (i : Nat) : t.batch i = (s.batch i).map f := by
  rw [batch, batch, h.batches, List.getElem?_map]
  cases s.batches[i]? <;> rfl

theorem Renamed.popped?_step (h : Renamed f s t) (op : BufferOp) :
    (t.step 0 (op.map f)).1.popped? = (s.step 0 op).1.popped?.map f := by
  cases op with
  | pop i =>
    change (t.batch i).head? = (s.batch i).head?.map f
    rw [h.batch_eq, List.head?_map]
  | _ => rfl

/-- To change an item and then all of them is to change all of them and then that one. -/
theorem map_modify {α : Type} (g h k : α → α) (hk : ∀ a, k (g a) = h (k a)) (l : List α) (i : Nat) :
    (l.modify i g).map k = (l.map k).modify i h := by
  refine List.ext_getElem? fun j => ?_
  rw [List.getElem?_map, List.getElem?_modify, List.getElem?_modify, List.getElem?_map]
  cases l[j]? with
  | none => rfl
  | some a =>
    by_cases hj : i = j
    · simp [hj, hk]
    · simp [hj]

/-- Nothing that is done looks at a message. -/
theorem Renamed.step (h : Renamed f s t) (op : BufferOp) :
    Renamed f (s.step 0 op).2 (t.step 0 (op.map f)).2 := by
  obtain ⟨b, c, hs, ht, hmessages⟩ := h.buffers
  cases op with
  | pushBack m =>
    refine ⟨h.batches, b.pushBack m, c.pushBack (f m), ?_, ?_, ?_⟩
    · simp [BufferSession.step, hs]
    · simp [BufferSession.step, BufferOp.map, ht]
    · simp [hmessages]
  | pushFront m =>
    refine ⟨h.batches, b.pushFront m, c.pushFront (f m), ?_, ?_, ?_⟩
    · simp [BufferSession.step, hs]
    · simp [BufferSession.step, BufferOp.map, ht]
    · simp [hmessages]
  | take =>
    refine ⟨?_, b.take.2, c.take.2, ?_, ?_, rfl⟩
    · simp [BufferSession.step, BufferOp.map, hs, ht, h.batches, hmessages]
    · simp [BufferSession.step, hs]
    · simp [BufferSession.step, BufferOp.map, ht]
  | pop i =>
    refine ⟨?_, b, c, hs, ht, hmessages⟩
    change t.batches.modify i List.tail = (s.batches.modify i List.tail).map _
    rw [map_modify List.tail List.tail _ (fun l => List.map_tail), h.batches]
  | restoreFront i =>
    refine ⟨?_, b.restoreFront (s.batch i), c.restoreFront (t.batch i), ?_, ?_, ?_⟩
    · change t.batches.modify i _ = (s.batches.modify i _).map _
      rw [map_modify _ (fun _ => []) _ (fun l => List.map_nil), h.batches]
    · simp [BufferSession.step, hs]
    · simp [BufferSession.step, BufferOp.map, ht]
    · simp [hmessages, h.batch_eq]
  | look => exact h

theorem Renamed.isNested (h : Renamed f s t) {op : BufferOp} (hop : t.IsNested (op.map f)) :
    s.IsNested op := by
  cases op with
  | restoreFront i =>
    intro batch hbatch
    have hmap : batch.map f ∈ t.batches.drop (i + 1) := by
      rw [h.batches, ← List.map_drop]
      exact List.mem_map_of_mem hbatch
    exact List.map_eq_nil_iff.mp (hop _ hmap)
  | pushFront m => exact hop.elim
  | _ => trivial

theorem Renamed.nested (h : Renamed f s t) {ops : List BufferOp}
    (hops : t.Nested (ops.map (·.map f))) : s.Nested ops := by
  induction ops generalizing s t with
  | nil => trivial
  | cons op ops ih => exact ⟨h.isNested hops.1, ih (h.step op) hops.2⟩

theorem Renamed.after (h : Renamed f s t) (ops : List BufferOp) :
    Renamed f (s.after ops) (t.after (ops.map (·.map f))) := by
  induction ops generalizing s t with
  | nil => exact h
  | cons op ops ih => exact ih (h.step op)

theorem Renamed.popped_eq (h : Renamed f s t) (ops : List BufferOp) :
    popped (t.replies (ops.map (·.map f))) = (popped (s.replies ops)).map f := by
  induction ops generalizing s t with
  | nil => rfl
  | cons op ops ih =>
    rw [List.map_cons, replies, replies, popped_cons, popped_cons, List.map_append,
      ih (h.step op), h.popped?_step]
    cases (s.step 0 op).1.popped? <;> rfl

/-- A message that tells nothing but when it came. -/
def label (k : Nat) : Message := { topic := "", tracking := some ⟨0, k⟩ }

theorem label_injective : Function.Injective label := by
  intro j k h
  injection h with _ _ _ _ _ h
  injection h with h
  injection h

/-- The same is done with labels; the first that comes in is number `k`. -/
def labelled (k : Nat) : List BufferOp → List BufferOp
  | [] => []
  | op :: ops => op.map (fun _ => label k) :: labelled (k + op.pushed?.toList.length) ops

/-- The message for which a label stands. -/
def named (ms : List Message) (m : Message) : Message :=
  (m.tracking.bind fun id => ms[id.sequence]?).getD m

theorem named_label {ms : List Message} {k : Nat} (hk : k < ms.length) :
    named ms (label k) = ms[k] := by
  simp [named, label, hk]

theorem pushed_labelled (k : Nat) (ops : List BufferOp) :
    pushed (labelled k ops) = (List.range' k (pushed ops).length).map label := by
  induction ops generalizing k with
  | nil => rfl
  | cons op ops ih =>
    rw [labelled, pushed_cons, pushed_cons, ih, BufferOp.pushed?_map]
    cases op.pushed? with
    | none => simp
    | some m => simp [List.range'_succ]

theorem map_labelled (before : List Message) (ops : List BufferOp) :
    (labelled before.length ops).map (·.map (named (before ++ pushed ops))) = ops := by
  induction ops generalizing before with
  | nil => rfl
  | cons op ops ih =>
    have hrest := ih (before ++ op.pushed?.toList)
    rw [List.length_append, List.append_assoc, ← pushed_cons] at hrest
    rw [labelled, List.map_cons, hrest]
    congr 1
    cases op with
    | pushBack m | pushFront m =>
      have hpos : before.length < (before ++ m :: pushed ops).length := by simp
      simp [BufferOp.map, pushed_cons, BufferOp.pushed?, named_label hpos]
    | _ => rfl

/-- The numbers of the messages that were popped, in order: who pops labels learns them. -/
def gone (s : BufferSession) (ops : List BufferOp) : List Nat :=
  (popped (s.replies (labelled 0 ops))).filterMap (·.tracking.map (·.sequence))

/-- What has become of the messages that were pushed. -/
structure Keeps (s : BufferSession) (ops : List BufferOp) : Prop where
  /-- They wait, in the buffer or in a batch, or they were popped: all of them, each once. -/
  perm : (pushed ops).Perm ((s.after ops).waiting ++ popped (s.replies ops))
  /-- No number is popped twice, and who pops it gets the message that came in under it. -/
  nodup_gone : (s.gone ops).Nodup
  popped_eq : (popped (s.replies ops)).map some = (s.gone ops).map ((pushed ops)[·]?)
  /-- Those that were not popped wait in the order in which they came, from the oldest batch to the
      buffer. -/
  waiting_eq : s.Nested ops → (s.after ops).waiting.map some =
    ((List.range (pushed ops).length).filter (· ∉ s.gone ops)).map ((pushed ops)[·]?)
  /-- When all batches are back, they are in the buffer, and if none was popped, as they came. -/
  restored : s.Nested ops → (∀ batch ∈ (s.after ops).batches, batch = []) →
    ∃ b, (s.after ops).buffers = [b] ∧ b.messages = (s.after ops).waiting ∧
      (popped (s.replies ops) = [] → b.messages = pushed ops)

/-- The two lists that make up a list without repetitions have nothing in common. -/
theorem eq_filter_of_perm {all left gone : List Message} (hperm : all.Perm (left ++ gone))
    (hsublist : left.Sublist all) (hnodup : all.Nodup) : left = all.filter (· ∉ gone) := by
  obtain ⟨-, -, hapart⟩ := List.nodup_append.mp (hperm.nodup hnodup)
  have hleft : left.filter (· ∉ gone) = left := by
    refine List.filter_eq_self.mpr fun m hm => ?_
    simpa using fun hgone => hapart m hm m hgone rfl
  have hgone : gone.filter (· ∉ gone) = [] := by simp [List.filter_eq_nil_iff]
  have hlength := (hperm.filter (· ∉ gone)).length_eq
  rw [List.filter_append, hleft, hgone, List.append_nil] at hlength
  have hfilter := hsublist.filter (· ∉ gone)
  rw [hleft] at hfilter
  exact hfilter.eq_of_length hlength.symm

theorem buffers_after (hb : s.buffers = [b]) (ops : List BufferOp) :
    ∃ c, (s.after ops).buffers = [c] := by
  induction ops generalizing s b with
  | nil => exact ⟨b, hb⟩
  | cons op ops ih =>
    obtain ⟨c, hc⟩ := buffers_step hb op
    exact ih hc

/-- Numbers stand for the messages that came in under them. -/
theorem map_named {ms : List Message} {ks : List Nat} (hks : ∀ k ∈ ks, k < ms.length) :
    ((ks.map label).map (named ms)).map some = ks.map (ms[·]?) := by
  rw [List.map_map, List.map_map]
  refine List.map_congr_left fun k hk => ?_
  have hlt := hks k hk
  simp [named_label hlt, hlt]

/-- Labels that were popped are those of the numbers that were. -/
theorem popped_labelled (hb : s.buffers = [b]) (hnone : s.waiting = []) (ops : List BufferOp) :
    popped (s.replies (labelled 0 ops)) = (s.gone ops).map label ∧
      ∀ k ∈ s.gone ops, k < (pushed ops).length := by
  have hperm := perm_after hb (labelled 0 ops)
  rw [hnone, List.append_nil, pushed_labelled] at hperm
  have hlabel : ∀ m ∈ popped (s.replies (labelled 0 ops)),
      ∃ k, k < (pushed ops).length ∧ label k = m := by
    intro m hm
    obtain ⟨k, hk, rfl⟩ := List.mem_map.mp (hperm.mem_iff.mpr (List.mem_append_right _ hm))
    rw [← List.range_eq_range', List.mem_range] at hk
    exact ⟨k, hk, rfl⟩
  unfold gone
  generalize popped (s.replies (labelled 0 ops)) = ms at hlabel
  induction ms with
  | nil => exact ⟨rfl, nofun⟩
  | cons m ms ih =>
    obtain ⟨heq, hlt⟩ := ih fun m' hm' => hlabel m' (List.mem_cons_of_mem m hm')
    obtain ⟨k, hk, rfl⟩ := hlabel m List.mem_cons_self
    refine ⟨congrArg (label k :: ·) heq, ?_⟩
    intro j hj
    rcases List.mem_cons.mp hj with rfl | hj
    · exact hk
    · exact hlt j hj

/-- Labels are all different, so each comes and goes once. -/
theorem perm_labelled (hb : s.buffers = [b]) (hnone : s.waiting = []) (ops : List BufferOp) :
    ((List.range (pushed ops).length).map label).Perm
      ((s.after (labelled 0 ops)).waiting ++ (s.gone ops).map label) := by
  have hperm := perm_after hb (labelled 0 ops)
  rwa [hnone, List.append_nil, pushed_labelled, ← List.range_eq_range',
    (popped_labelled hb hnone ops).1] at hperm

theorem nodup_labels (n : Nat) : ((List.range n).map label).Nodup :=
  List.nodup_range.map label_injective

/-- What waits of the labels, as long as they are kept in order. -/
theorem waiting_labelled (hb : s.buffers = [b]) (hnone : s.waiting = []) {ops : List BufferOp}
    (hnested : s.Nested (labelled 0 ops)) : (s.after (labelled 0 ops)).waiting =
      ((List.range (pushed ops).length).filter (· ∉ s.gone ops)).map label := by
  have hsublist := sublist_after hb hnested
  rw [hnone, List.nil_append, pushed_labelled, ← List.range_eq_range'] at hsublist
  rw [eq_filter_of_perm (perm_labelled hb hnone ops) hsublist (nodup_labels _), List.filter_map]
  congr 1
  refine List.filter_congr fun k _ => ?_
  simp only [Function.comp_apply, List.mem_map_of_injective label_injective]

/-- Whatever is done with a buffer and the batches out of it, no message is lost and none is doubled,
    and what is nested keeps them in order. -/
theorem keeps_of_start {capacity : Nat} (hs : start? [capacity] = some s) (ops : List BufferOp) :
    s.Keeps ops := by
  obtain ⟨-, hs⟩ := Option.ite_none_right_eq_some.mp hs
  obtain rfl : { buffers := [{}] } = s := Option.some_inj.mp hs
  have hb : ({ buffers := [{}] } : BufferSession).buffers = [{}] := rfl
  have hnone : ({ buffers := [{}] } : BufferSession).waiting = [] := rfl
  have hperm := perm_after hb ops
  rw [hnone, List.append_nil] at hperm
  obtain ⟨hpopped, hlt⟩ := popped_labelled hb hnone ops
  -- what is done is done with labels, and then each is taken for the message that it stands for
  have hsame : (labelled 0 ops).map (·.map (named (pushed ops))) = ops := map_labelled [] ops
  have hrenamed : Renamed (named (pushed ops)) { buffers := [{}] } { buffers := [{}] } :=
    ⟨rfl, {}, {}, rfl, rfl, rfl⟩
  constructor
  case perm => exact hperm
  case nodup_gone =>
    have hnodup := (perm_labelled hb hnone ops).nodup (nodup_labels _)
    exact (List.nodup_append.mp hnodup).2.1.of_map label
  case popped_eq =>
    have hnamed := hrenamed.popped_eq (labelled 0 ops)
    rw [hsame] at hnamed
    rw [hnamed, hpopped, map_named hlt]
  case waiting_eq =>
    intro hnested
    have hnamed := (hrenamed.after (labelled 0 ops)).waiting_eq
    rw [hsame] at hnamed
    rw [← hsame] at hnested
    rw [hnamed, waiting_labelled hb hnone (hrenamed.nested hnested), map_named]
    intro k hk
    exact List.mem_range.mp (List.mem_of_mem_filter hk)
  case restored =>
    intro hnested hback
    obtain ⟨c, hc⟩ := buffers_after hb ops
    have hwaiting : (BufferSession.after { buffers := [{}] } ops).waiting = c.messages := by
      rw [waiting_of_buffers hc, List.flatten_eq_nil_iff.mpr hback, List.nil_append]
    refine ⟨c, hc, hwaiting.symm, ?_⟩
    intro hpopped
    rw [hpopped, List.append_nil, hwaiting] at hperm
    have hsublist := sublist_after hb hnested
    rw [hnone, List.nil_append, hwaiting] at hsublist
    exact hsublist.eq_of_length hperm.length_eq.symm

/-- A flush takes a batch and sends one message of it; meanwhile another message comes in, and a
    flush that is started from within takes it, sends nothing and puts it back; then the first one
    puts back what it has left. -/
def flushes : List BufferOp :=
  [.pushBack { topic := "a" }, .pushBack { topic := "b" }, .pushBack { topic := "c" }, .take,
    .pop 0, .pushBack { topic := "d" }, .take, .pushBack { topic := "e" }, .restoreFront 1,
    .restoreFront 0]

theorem keeps_flushes : ∃ s, start? [4] = some s ∧ s.Nested flushes ∧ s.Keeps flushes ∧
    (s.after flushes).buffers.map (·.messages.map Message.topic) = [["b", "c", "d", "e"]] := by
  have hs : start? [4] = some { buffers := [{}] } := rfl
  exact ⟨_, hs, by decide +kernel, keeps_of_start hs flushes, by decide +kernel⟩

end BufferSession

end Outbox
