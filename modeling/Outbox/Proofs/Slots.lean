import Mathlib.Data.List.Induction
import Outbox.Proofs.Trackers
import Outbox.Retry.Session

/-! Each attempt of a waiting caller opens a slot, and whoever opened it keeps a receiver with which
    to look into it. Several receivers of one tracker may be about at a time, and only the newest
    slot waits for an outcome. Main statement: what a receiver reports depends on what was done
    since its own slot was opened, and on the first opening or completion in it above all. It waits
    until there is one; if that is a completion it yields the outcome once; and otherwise, and ever
    after, it is told that nothing will come. A completion for which no slot waits changes
    nothing. -/

namespace Outbox

/-- What is done with a tracker and with the receivers it gave away. -/
inductive SlotOp where
  | act (op : TrackerOp)
  | receive (slot : Nat)
  | drop (slot : Nat)

namespace SlotOp

/-- To open a slot, or to complete the one that waits, decides what becomes of the slot that was
    opened before: it gets the outcome, or none. -/
def settles? : SlotOp → Option (Option Outcome)
  | act .arm => some none
  | act (.complete o) => some (some o)
  | _ => none

/-- Somebody looks into slot `i`. -/
def looksInto (i : Nat) : SlotOp → Bool
  | receive j => j == i
  | _ => false

end SlotOp

namespace Receipt

/-- The outcome that is found. -/
def outcome? : Receipt → Option Outcome
  | outcome o => some o
  | _ => none

/-- What receiver `i` reports after `op`, if it reported `r` before. -/
def next (i : Nat) (r : Receipt) (op : SlotOp) : Receipt :=
  match r, op.settles? with
  | empty, some (some o) => outcome o
  | empty, some none => disconnected
  | empty, none => empty
  | outcome o, _ => if op.looksInto i then disconnected else outcome o
  | disconnected, _ => disconnected

/-- What receiver `i` reports when these things were done since its slot was opened. -/
def since (i : Nat) (ops : List SlotOp) : Receipt :=
  match ops.findSome? SlotOp.settles? with
  | none => empty
  | some none => disconnected
  | some (some o) =>
    if (ops.dropWhile (·.settles?.isNone)).any (SlotOp.looksInto i) then disconnected
    else outcome o

end Receipt

namespace Tracker

/-- One thing is done. -/
def after (t : Tracker) : SlotOp → Tracker
  | .act .id => t
  | .act .claimRetry => t.claimRetry.2
  | .act (.setSender k) => t.setSender k
  | .act .arm => t.arm.2
  | .act (.complete o) => t.complete o
  | .receive i => (t.receive i).2
  | .drop i => t.abandon i

/-- One thing after the other is done. -/
def run (t : Tracker) (ops : List SlotOp) : Tracker := ops.foldl after t

variable {t : Tracker} {i j : Nat} {r : Receipt} {op : SlotOp} {ops : List SlotOp}

theorem run_cons (t : Tracker) (op : SlotOp) (ops : List SlotOp) :
    t.run (op :: ops) = (t.after op).run ops := rfl

theorem run_append (t : Tracker) (ops more : List SlotOp) :
    t.run (ops ++ more) = (t.run ops).run more := List.foldl_append

/-! ### One slot -/

/-- Slot `i` was opened, and its receiver reports `r`. -/
structure Stands (t : Tracker) (i : Nat) (r : Receipt) : Prop where
  opened : i < t.opened
  waits : t.waits i = true ↔ r = .empty
  lookup : t.unread.lookup i = r.outcome?

theorem waits_iff : t.waits i = true ↔ t.waiting = true ∧ i + 1 = t.opened := by
  simp [waits]

theorem Stands.receive (h : t.Stands i r) : (t.receive i).1 = r := by
  rw [receive_fst, h.lookup]
  cases r with
  | empty => rw [if_pos (h.waits.mpr rfl)]
  | outcome o =>
    have hw : ¬ t.waits i = true := fun hw => nomatch h.waits.mp hw
    rw [if_neg hw]
    rfl
  | disconnected =>
    have hw : ¬ t.waits i = true := fun hw => nomatch h.waits.mp hw
    rw [if_neg hw]
    rfl

/-- The slot before gets no outcome any more. -/
theorem Stands.arm (h : t.Stands i r) : t.arm.2.Stands i (r.next i (.act .arm)) := by
  have hi := h.opened
  refine ⟨?_, ?_, ?_⟩
  · change i < t.opened + 1
    omega
  · have hw : ¬ t.arm.2.waits i = true := by
      rw [waits_iff]
      rintro ⟨-, heq⟩
      have : i + 1 = t.opened + 1 := heq
      omega
    cases r <;> simp [hw, Receipt.next, SlotOp.settles?, SlotOp.looksInto]
  · change t.unread.lookup i = _
    rw [h.lookup]
    cases r <;> rfl

theorem complete_of_waiting (hw : t.waiting = true) (o : Outcome) :
    t.complete o = { t with waiting := false, unread := (t.opened - 1, o) :: t.unread } := by
  rw [Tracker.complete, if_pos hw]

theorem complete_of_idle (hw : t.waiting = false) (o : Outcome) : t.complete o = t := by
  rw [Tracker.complete, if_neg (Bool.eq_false_iff.mp hw)]

theorem opened_complete (t : Tracker) (o : Outcome) : (t.complete o).opened = t.opened := by
  unfold complete
  split <;> rfl

theorem waits_complete (t : Tracker) (o : Outcome) (i : Nat) :
    (t.complete o).waits i = false := by
  cases hw : t.waiting with
  | true => rw [complete_of_waiting hw]; rfl
  | false => rw [complete_of_idle hw, waits, hw, Bool.false_and]

theorem lookup_complete (ho : t.waits i = false) (hi : i < t.opened) (o : Outcome) :
    (t.complete o).unread.lookup i = t.unread.lookup i := by
  cases hw : t.waiting with
  | false => rw [complete_of_idle hw]
  | true =>
    have hne : i ≠ t.opened - 1 := by
      intro heq
      have : t.waits i = true := waits_iff.mpr ⟨hw, by omega⟩
      simp [this] at ho
    rw [complete_of_waiting hw]
    dsimp only
    rw [List.lookup_cons, beq_false_of_ne hne]

/-- The slot that waits gets the outcome, and the others are left alone. -/
theorem Stands.complete (h : t.Stands i r) (o : Outcome) :
    (t.complete o).Stands i (r.next i (.act (.complete o))) := by
  have hi : i < (t.complete o).opened := by
    rw [opened_complete]
    exact h.opened
  have hw := waits_complete t o i
  cases r with
  | empty =>
    obtain ⟨hwt, heq⟩ := waits_iff.mp (h.waits.mpr rfl)
    have hlast : t.opened - 1 = i := by omega
    refine ⟨hi, by simp [hw, Receipt.next, SlotOp.settles?], ?_⟩
    rw [complete_of_waiting hwt]
    simp [hlast, Receipt.next, SlotOp.settles?, Receipt.outcome?]
  | outcome o' =>
    have hno : t.waits i = false := by simpa using h.waits
    refine ⟨hi, by simp [hw, Receipt.next, SlotOp.looksInto], ?_⟩
    rw [lookup_complete hno h.opened, h.lookup]
    rfl
  | disconnected =>
    have hno : t.waits i = false := by simpa using h.waits
    refine ⟨hi, by simp [hw, Receipt.next], ?_⟩
    rw [lookup_complete hno h.opened, h.lookup]
    rfl

theorem opened_receive (t : Tracker) (j : Nat) : (t.receive j).2.opened = t.opened := by
  unfold receive
  split
  · rfl
  · split <;> rfl

/-- Whoever looks into a slot that does not wait empties it, and no other. -/
theorem lookup_receive (t : Tracker) (i j : Nat) :
    (t.receive j).2.unread.lookup i =
      if i = j ∧ t.waits j = false then none else t.unread.lookup i := by
  unfold receive
  cases hw : t.waits j with
  | true => simp
  | false =>
    cases hl : t.unread.lookup j with
    | some o =>
      have hd := lookup_discard t.unread i j
      simpa [discard] using hd
    | none =>
      by_cases hij : i = j
      · simp [hij, hl]
      · simp [hij]

theorem Stands.receive_next (h : t.Stands i r) (j : Nat) :
    (t.receive j).2.Stands i (r.next i (.receive j)) := by
  have hi : i < (t.receive j).2.opened := by
    rw [opened_receive]
    exact h.opened
  cases r with
  | empty =>
    have hw : t.waits i = true := h.waits.mpr rfl
    refine ⟨hi, by simp [hw, Receipt.next, SlotOp.settles?], ?_⟩
    rw [lookup_receive, h.lookup]
    exact ite_self _
  | outcome o =>
    have hno : t.waits i = false := by simpa using h.waits
    by_cases hij : j = i
    · subst hij
      refine ⟨hi, by simp [hno, Receipt.next, SlotOp.looksInto], ?_⟩
      simp [lookup_receive, hno, Receipt.next, SlotOp.looksInto, Receipt.outcome?]
    · refine ⟨hi, by simp [hno, Receipt.next, SlotOp.looksInto, hij], ?_⟩
      rw [lookup_receive, if_neg fun hand => hij hand.1.symm, h.lookup]
      simp [Receipt.next, SlotOp.looksInto, hij]
  | disconnected =>
    have hno : t.waits i = false := by simpa using h.waits
    refine ⟨hi, by simp [hno, Receipt.next], ?_⟩
    rw [lookup_receive, h.lookup]
    exact ite_self _

theorem opened_abandon (t : Tracker) (j : Nat) : (t.abandon j).opened = t.opened := by
  unfold abandon
  split <;> rfl

@[simp] theorem sender_abandon (t : Tracker) (j : Nat) : (t.abandon j).sender = t.sender := by
  unfold abandon
  split <;> rfl

@[simp] theorem remaining_abandon (t : Tracker) (j : Nat) :
    (t.abandon j).remaining = t.remaining := by
  unfold abandon
  split <;> rfl

/-- To drop one receiver leaves the slots of the others as they are. -/
theorem waits_abandon (hij : i ≠ j) : (t.abandon j).waits i = t.waits i := by
  unfold abandon
  split
  · next hj =>
    have hlast := (waits_iff.mp hj).2
    have hi : t.waits i = false := by
      rw [Bool.eq_false_iff, Ne, waits_iff]
      rintro ⟨-, heq⟩
      omega
    rw [hi]
    rfl
  · rfl

theorem lookup_abandon (hij : i ≠ j) : (t.abandon j).unread.lookup i = t.unread.lookup i := by
  unfold abandon
  split
  · rfl
  · exact (lookup_discard t.unread i j).trans (if_neg hij)

theorem Stands.abandon (h : t.Stands i r) (hj : j ≠ i) :
    (t.abandon j).Stands i (r.next i (.drop j)) := by
  have hr : r.next i (.drop j) = r := by cases r <;> rfl
  rw [hr]
  refine ⟨?_, ?_, ?_⟩
  · rw [opened_abandon]
    exact h.opened
  · rw [waits_abandon hj.symm]
    exact h.waits
  · rw [lookup_abandon hj.symm]
    exact h.lookup

/-- A claim has nothing to do with slots. -/
theorem slots_claimRetry (t : Tracker) : t.claimRetry.2.opened = t.opened ∧
    t.claimRetry.2.waiting = t.waiting ∧ t.claimRetry.2.unread = t.unread := by
  unfold claimRetry
  split <;> exact ⟨rfl, rfl, rfl⟩

theorem Stands.claimRetry (h : t.Stands i r) : t.claimRetry.2.Stands i r := by
  obtain ⟨hopened, -, hunread⟩ := t.slots_claimRetry
  refine ⟨?_, ?_, ?_⟩
  · rw [hopened]
    exact h.opened
  · rw [waits_claimRetry]
    exact h.waits
  · rw [hunread]
    exact h.lookup

/-- The step: what is done next changes what a receiver reports as the reports are said to
    follow each other. -/
theorem Stands.after (h : t.Stands i r) (hop : op ≠ .drop i) :
    (t.after op).Stands i (r.next i op) := by
  have hsame : ∀ op : TrackerOp, (SlotOp.act op).settles? = none → r.next i (.act op) = r := by
    intro op hop
    cases r <;> simp [Receipt.next, hop, SlotOp.looksInto]
  cases op with
  | act op =>
    cases op with
    | id =>
      rw [hsame _ rfl]
      exact h
    | claimRetry =>
      rw [hsame _ rfl]
      exact h.claimRetry
    | setSender k =>
      rw [hsame _ rfl]
      exact ⟨h.opened, h.waits, h.lookup⟩
    | arm => exact h.arm
    | complete o => exact h.complete o
  | receive j => exact h.receive_next j
  | drop j => exact h.abandon fun hj => hop (by rw [hj])

/-- The run. -/
theorem Stands.run (h : t.Stands i r) (hops : .drop i ∉ ops) :
    (t.run ops).Stands i (ops.foldl (Receipt.next i) r) := by
  induction ops generalizing t r with
  | nil => exact h
  | cons op ops ih =>
    have hop : op ≠ .drop i := fun heq => hops (heq ▸ List.mem_cons_self)
    exact ih (h.after hop) fun hmem => hops (List.mem_cons_of_mem op hmem)

end Tracker

/-! ### The reports of one receiver -/

namespace Receipt

variable {i : Nat} {op : SlotOp} {ops : List SlotOp}

/-- Once nothing is to come, nothing comes. -/
theorem foldl_disconnected (i : Nat) (ops : List SlotOp) :
    ops.foldl (next i) disconnected = disconnected := by
  induction ops with
  | nil => rfl
  | cons op ops ih => exact ih

/-- An outcome stays until somebody looks. -/
theorem foldl_outcome (i : Nat) (o : Outcome) (ops : List SlotOp) :
    ops.foldl (next i) (outcome o) =
      if ops.any (SlotOp.looksInto i) then disconnected else outcome o := by
  induction ops with
  | nil => rfl
  | cons op ops ih =>
    rw [List.foldl_cons, List.any_cons]
    cases hop : op.looksInto i with
    | true =>
      have hnext : next i (outcome o) op = disconnected := by simp [next, hop]
      rw [hnext, foldl_disconnected]
      rfl
    | false =>
      have hnext : next i (outcome o) op = outcome o := by simp [next, hop]
      rw [hnext, ih, Bool.false_or]

/-- The reports that follow each other from the opening of a slot on are as they were said to be. -/
theorem foldl_empty (i : Nat) (ops : List SlotOp) : ops.foldl (next i) empty = since i ops := by
  induction ops with
  | nil => rfl
  | cons op ops ih =>
    rw [List.foldl_cons]
    unfold since
    rw [List.findSome?_cons]
    cases hop : op.settles? with
    | none =>
      have hnext : next i empty op = empty := by simp [next, hop]
      rw [hnext, ih, List.dropWhile_cons_of_pos (by simp [hop])]
      rfl
    | some decided =>
      rw [List.dropWhile_cons_of_neg (by simp [hop])]
      cases decided with
      | none =>
        have hnext : next i empty op = disconnected := by simp [next, hop]
        rw [hnext, foldl_disconnected]
      | some o =>
        have hnext : next i empty op = outcome o := by simp [next, hop]
        have hlook : op.looksInto i = false := by
          cases op with
          | receive j => exact nomatch hop
          | _ => rfl
        rw [hnext, foldl_outcome, List.any_cons, hlook, Bool.false_or]

end Receipt

namespace Tracker

variable {t : Tracker} {op : SlotOp} {ops : List SlotOp}

/-! ### All slots of one tracker -/

/-- Outcomes lie in slots that were opened, and one of these is the slot that waits. -/
structure Orderly (t : Tracker) : Prop where
  written : ∀ e ∈ t.unread, e.1 < t.opened
  newest : t.waiting = true → 0 < t.opened

theorem orderly_new (sender : Sender) (budget : Nat) :
    Orderly { sender := sender, remaining := budget } where
  written _ he := nomatch he
  newest hw := nomatch hw

theorem Orderly.discard (h : t.Orderly) (i : Nat) : (t.discard i).Orderly where
  written e he := h.written e (List.mem_filter.mp he).1
  newest := h.newest

theorem Orderly.complete (h : t.Orderly) (o : Outcome) : (t.complete o).Orderly := by
  cases hw : t.waiting with
  | false =>
    rw [complete_of_idle hw]
    exact h
  | true =>
    have hpos := h.newest hw
    rw [complete_of_waiting hw]
    refine ⟨?_, nofun⟩
    intro e he
    rcases List.mem_cons.mp he with rfl | he
    · exact Nat.sub_lt hpos Nat.one_pos
    · exact h.written e he

theorem Orderly.after (h : t.Orderly) (op : SlotOp) : (t.after op).Orderly := by
  cases op with
  | act op =>
    cases op with
    | id => exact h
    | claimRetry =>
      change t.claimRetry.2.Orderly
      unfold claimRetry
      split
      · exact h
      · exact ⟨h.written, h.newest⟩
    | setSender k => exact ⟨h.written, h.newest⟩
    | arm => exact ⟨fun e he => Nat.lt_succ_of_lt (h.written e he), fun _ => Nat.succ_pos _⟩
    | complete o => exact h.complete o
  | receive j =>
    change (t.receive j).2.Orderly
    unfold receive
    split
    · exact h
    · split
      · exact h.discard j
      · exact h
  | drop j =>
    change (t.abandon j).Orderly
    unfold abandon
    split
    · exact ⟨h.written, nofun⟩
    · exact h.discard j

theorem Orderly.run (h : t.Orderly) (ops : List SlotOp) : (t.run ops).Orderly := by
  induction ops generalizing t with
  | nil => exact h
  | cons op ops ih => exact ih (h.after op)

/-- A slot that was just opened has no outcome of an earlier attempt in it. -/
theorem Orderly.stands_arm (h : t.Orderly) : t.arm.2.Stands t.arm.1 .empty := by
  refine ⟨Nat.lt_succ_self t.opened, ?_, ?_⟩
  · simp [show t.arm.2.waits t.arm.1 = true from waits_arm t]
  · refine List.lookup_eq_none_iff.mpr fun e he => ?_
    have hlt := h.written e he
    simp only [Tracker.arm, bne_iff_ne]
    omega

/-- Somebody waits for an outcome: a slot was opened, neither completed nor followed by another
    one since, and its receiver is still there. -/
def Awaited (t : Tracker) (ops : List SlotOp) : Prop :=
  ∃ before after, ops = before ++ .act .arm :: after ∧
    (∀ op ∈ after, op.settles? = none) ∧ .drop (t.run before).arm.1 ∉ after

theorem run_snoc (t : Tracker) (ops : List SlotOp) (op : SlotOp) :
    t.run (ops ++ [op]) = (t.run ops).after op := run_append t ops [op]

/-- Slots are opened by nothing else. -/
theorem opened_run (hops : ∀ op ∈ ops, op.settles? = none) : (t.run ops).opened = t.opened := by
  induction ops generalizing t with
  | nil => rfl
  | cons op ops ih =>
    rw [run_cons, ih fun op hop => hops op (List.mem_cons_of_mem _ hop)]
    have hop := hops op List.mem_cons_self
    cases op with
    | act op =>
      cases op with
      | claimRetry => exact t.slots_claimRetry.1
      | arm => exact nomatch hop
      | complete o => exact nomatch hop
      | _ => rfl
    | receive j => exact opened_receive t j
    | drop j => exact opened_abandon t j

theorem waiting_abandon {j : Nat} (hw : (t.abandon j).waiting = true) :
    t.waiting = true ∧ t.opened ≠ j + 1 := by
  unfold abandon at hw
  split at hw
  · exact nomatch hw
  · next hj =>
    refine ⟨hw, fun heq => hj (waits_iff.mpr ⟨hw, heq.symm⟩)⟩

/-- What neither opens a slot nor completes one makes no slot wait. -/
theorem waiting_of_waiting_after (hop : op.settles? = none) (hw : (t.after op).waiting = true) :
    t.waiting = true := by
  cases op with
  | act op =>
    cases op with
    | claimRetry => exact t.slots_claimRetry.2.1 ▸ hw
    | arm => exact nomatch hop
    | complete o => exact nomatch hop
    | _ => exact hw
  | receive j =>
    have hsame : (t.receive j).2.waiting = t.waiting := by
      unfold receive
      split
      · rfl
      · split <;> rfl
    exact hsame ▸ hw
  | drop j => exact (waiting_abandon hw).1

/-- A tracker with a slot that waits is one for whose outcome somebody waits. -/
theorem awaited_of_waiting (ht : t.waiting = false) :
    (t.run ops).waiting = true → t.Awaited ops := by
  induction ops using List.reverseRecOn with
  | nil =>
    intro hw
    exact nomatch ht.symm.trans hw
  | append_singleton ops op ih =>
    intro hw
    rw [run_snoc] at hw
    cases hop : op.settles? with
    | some decided =>
      cases op with
      | act op =>
        cases op with
        | arm => exact ⟨ops, [], rfl, nofun, nofun⟩
        | complete o =>
          have hno : ((t.run ops).complete o).waiting = false := by
            cases hw' : (t.run ops).waiting with
            | true => rw [complete_of_waiting hw']
            | false => rw [complete_of_idle hw', hw']
          exact nomatch hno.symm.trans hw
        | _ => exact nomatch hop
      | _ => exact nomatch hop
    | none =>
      obtain ⟨before, after, rfl, hafter, hkept⟩ := ih (waiting_of_waiting_after hop hw)
      refine ⟨before, after ++ [op], by simp, ?_, ?_⟩
      · intro op' hop'
        rcases List.mem_append.mp hop' with hop' | hop'
        · exact hafter op' hop'
        · rw [List.mem_singleton.mp hop', hop]
      · intro hmem
        rcases List.mem_append.mp hmem with hmem | hmem
        · exact hkept hmem
        · -- the receiver that was dropped is that of the slot opened last
          rw [← List.mem_singleton.mp hmem] at hw
          have hopened : (t.run (before ++ .act .arm :: after)).opened =
              (t.run before).opened + 1 := by
            rw [run_append, run_cons, opened_run hafter]
            rfl
          exact (waiting_abandon hw).2 hopened

/-- A receiver reports what was done since its own slot was opened and nothing else, and a
    completion for which nobody waits is for no receiver, whenever its slot is opened. -/
structure OwnOutcomes (t : Tracker) : Prop where
  own : ∀ before after, .drop (t.run before).arm.1 ∉ after →
    ((t.run (before ++ .act .arm :: after)).receive (t.run before).arm.1).1 =
      .since (t.run before).arm.1 after
  idle : ∀ before o more, ¬ t.Awaited before →
    t.run (before ++ .act (.complete o) :: more) = t.run (before ++ more)

/-- The slots of a tracker keep the outcomes of its attempts apart. -/
theorem ownOutcomes_of_new (sender : Sender) (budget : Nat) :
    OwnOutcomes { sender := sender, remaining := budget } where
  own before after hkept := by
    have horderly := (orderly_new sender budget).run before
    have hstands := horderly.stands_arm.run hkept
    rw [Receipt.foldl_empty] at hstands
    rw [run_append]
    exact hstands.receive
  idle before o more hnone := by
    have hidle := Bool.eq_false_iff.mpr fun hw => hnone (awaited_of_waiting rfl hw)
    rw [run_append, run_append]
    change (((run _ before).complete o).run more) = _
    rw [complete_of_idle hidle]

/-- The outcome of a second attempt is for the second receiver. -/
example :
    let t : Tracker := { sender := .sync, remaining := 1 }
    let t := t.run [.act .arm, .act .arm, .act (.complete .retry)]
    (t.receive 0).1 = .disconnected ∧ (t.receive 1).1 = .outcome .retry ∧
      ((t.after (.receive 1)).receive 1).1 = .disconnected := by
  decide

end Tracker

end Outbox
