import Mathlib.Data.Multiset.AddSub
import Outbox.Broker.Memory

/-! What a client goes through. A course records the state a client has come to, the tasks that are
    going on, the one begun last in front, and the messages that were accepted and are yet to be
    reported. Nothing is asked of a client for this, right or wrong. A client is honest if every
    report it makes has the id of such a message: then no message is reported twice. It is exact if
    no message comes back changed in anything else either. The broker in memory is exact, and what
    it has yet to report is its queue together with the batches that its polls are working on. -/

namespace Outbox

open Classical in
/-- The message that a report of `m` is about: `m` itself if it is outstanding, or else one that has
    its id. -/
noncomputable def meant (M : Multiset Message) (m : Message) : Message :=
  if h : m ∉ M ∧ ∃ n ∈ M, n.tracking = m.tracking then h.2.choose else m

theorem meant_of_mem {M : Multiset Message} {m : Message} (h : m ∈ M) : meant M m = m :=
  dif_neg fun hn => hn.1 h

theorem meant_spec {M : Multiset Message} {m : Message} (h : ∃ n ∈ M, n.tracking = m.tracking) :
    meant M m ∈ M ∧ (meant M m).tracking = m.tracking := by
  by_cases hm : m ∈ M
  · rw [meant_of_mem hm]
    exact ⟨hm, rfl⟩
  · rw [meant, dif_pos ⟨hm, h⟩]
    exact Exists.choose_spec (_ : ∃ n ∈ M, n.tracking = m.tracking)

namespace Client

variable {β : Type}

/-- How a client may come to be where it is; `told` are the changes it suffers from outside. -/
inductive Course (c : Client β) (told : β → β → Prop) (b₀ : β) :
    β → List c.Task → Multiset Message → Prop where
  | start : Course c told b₀ b₀ [] 0
  | told {b b' ts M} (h : Course c told b₀ b ts M) (hb : told b b') : Course c told b₀ b' ts M
  | accept {b b' ts M m} (h : Course c told b₀ b ts M) (hs : c.send m b = (.ok (), b')) :
      Course c told b₀ b' ts (m ::ₘ M)
  | refuse {b b' ts M m e} (h : Course c told b₀ b ts M) (hs : c.send m b = (.error e, b')) :
      Course c told b₀ b' ts M
  | begin {b ts M} (task : c.Task) (h : Course c told b₀ b ts M)
      (ht : task = c.poll ∨ ∃ timeout, task = c.flush timeout) : Course c told b₀ b (task :: ts) M
  | more {b b' ts M task next clock clock'} (h : Course c told b₀ b (task :: ts) M)
      (hs : c.step task b clock = (.more next, b', clock')) : Course c told b₀ b' (next :: ts) M
  | report {b b' ts M task r next clock clock'} (h : Course c told b₀ b (task :: ts) M)
      (hs : c.step task b clock = (.report r next, b', clock')) :
      Course c told b₀ b' (next :: ts) (M.erase (meant M r.message))
  | finish {b b' ts M task answer clock clock'} (h : Course c told b₀ b (task :: ts) M)
      (hs : c.step task b clock = (.finished answer, b', clock')) : Course c told b₀ b' ts M

/-- Every report is of a message that was accepted and not reported since, and has its id. -/
def Honest (c : Client β) (told : β → β → Prop) (b₀ : β) : Prop :=
  ∀ ⦃b ts M task clock r next b' clock'⦄, c.Course told b₀ b (task :: ts) M →
    c.step task b clock = (.report r next, b', clock') → ∃ m ∈ M, m.tracking = r.message.tracking

/-- What a report is of is like what is reported. -/
def Keeps (c : Client β) (like : Message → Message → Prop) (told : β → β → Prop) (b₀ : β) : Prop :=
  ∀ ⦃b ts M task clock r next b' clock'⦄, c.Course told b₀ b (task :: ts) M →
    c.step task b clock = (.report r next, b', clock') → like (meant M r.message) r.message

theorem keeps_trivial {c : Client β} {told : β → β → Prop} {b₀ : β} :
    c.Keeps (fun _ _ => True) told b₀ :=
  fun _ _ _ _ _ _ _ _ _ _ _ => trivial

/-- Every report is of a message that was accepted and not reported since, as it was accepted. -/
def Exact (c : Client β) (told : β → β → Prop) (b₀ : β) : Prop :=
  ∀ ⦃b ts M task clock r next b' clock'⦄, c.Course told b₀ b (task :: ts) M →
    c.step task b clock = (.report r next, b', clock') → r.message ∈ M

theorem Exact.honest {c : Client β} {told : β → β → Prop} {b₀ : β} (h : c.Exact told b₀) :
    c.Honest told b₀ :=
  fun _ _ _ _ _ _ _ _ _ hcourse hs => ⟨_, h hcourse hs, rfl⟩

theorem Exact.keeps {ι : Type} {c : Client β} {told : β → β → Prop} {b₀ : β} (h : c.Exact told b₀)
    (φ : Message → ι) : c.Keeps (fun n m => φ n = φ m) told b₀ :=
  fun _ _ _ _ _ _ _ _ _ hcourse hs => congrArg φ (meant_of_mem (h hcourse hs))

/-- Some task of the client may end with this answer. -/
def Answers (c : Client β) (answer : BrokerAnswer) : Prop :=
  ∃ task b clock b' clock', c.step task b clock = (.finished answer, b', clock')

/-- Some task of the client may end with an error other than a timeout. -/
def MayFail (c : Client β) : Prop := ∃ e : BrokerError, e.isTimeout = false ∧ c.Answers (.error e)

end Client

/-- What the broker in memory can be told: an order, any other change of its faults, or that
    somebody is going to resume it. -/
inductive MemoryWord where
  | order (o : MemoryOrder)
  | fault (f : Faults → Faults)
  | resumption (t : Nat)

namespace MemoryBroker

/-- The broker after it was told something. -/
def heed (b : MemoryBroker) (clock : Clock) : MemoryWord → MemoryBroker
  | .order o => b.obey clock o
  | .fault f => { b with faults := f b.faults }
  | .resumption t => b.expectResume t

/-- The broker was told something. -/
def Heeds (b b' : MemoryBroker) : Prop := ∃ clock w, b' = b.heed clock w

/-- The messages a task has taken out of the queue and not reported yet. -/
def Task.held : Task → List Message
  | .deliver batch _ => batch
  | _ => []

/-! ### The logs -/

@[simp] theorem inFlight_wake (b : MemoryBroker) (clock : Clock) :
    (b.wake clock).inFlight = b.inFlight := by
  unfold wake; split <;> rfl

@[simp] theorem delivered_wake (b : MemoryBroker) (clock : Clock) :
    (b.wake clock).delivered = b.delivered := by
  unfold wake; split <;> rfl

@[simp] theorem inFlight_carryOut (b : MemoryBroker) (o : MemoryOrder) :
    (b.carryOut o).inFlight = b.inFlight := by
  cases o <;> rfl

@[simp] theorem delivered_carryOut (b : MemoryBroker) (o : MemoryOrder) :
    (b.carryOut o).delivered = b.delivered := by
  cases o <;> rfl

theorem inFlight_of_heeds {b b' : MemoryBroker} (h : b.Heeds b') : b'.inFlight = b.inFlight := by
  obtain ⟨clock, w, rfl⟩ := h
  cases w with
  | order o => rw [heed, obey, inFlight_carryOut, inFlight_wake]
  | fault f | resumption t => rfl

theorem delivered_of_heeds {b b' : MemoryBroker} (h : b.Heeds b') :
    b'.delivered = b.delivered := by
  obtain ⟨clock, w, rfl⟩ := h
  cases w with
  | order o => rw [heed, obey, delivered_carryOut, delivered_wake]
  | fault f | resumption t => rfl

@[simp] theorem inFlight_deliver (b : MemoryBroker) (m : Message) :
    (b.deliver m).2.inFlight = b.inFlight := by
  unfold deliver; split_ifs <;> rfl

@[simp] theorem message_deliver (b : MemoryBroker) (m : Message) :
    (b.deliver m).1.message = m := by
  unfold deliver; split_ifs <;> rfl

/-- The log of delivered messages grows by exactly the messages that are reported as delivered. -/
theorem delivered_deliver (b : MemoryBroker) (m : Message) :
    (b.deliver m).2.delivered.toList =
      b.delivered.toList ++ if (b.deliver m).1.failure = none then [m] else [] := by
  unfold deliver; split_ifs <;> simp_all

/-! ### What a send and a step can do -/

theorem send_ok {m : Message} {b b' : MemoryBroker} (h : b.send m = (.ok (), b')) :
    b'.inFlight.toList = b.inFlight.toList ++ [m] ∧ b'.delivered = b.delivered := by
  unfold send at h
  split at h
  · simp at h
  · split at h
    · simp at h
    · obtain rfl := (Prod.mk.inj h).2
      exact ⟨Line.toList_pushBack _ _, rfl⟩

theorem send_error {m : Message} {b b' : MemoryBroker} {e : BrokerError}
    (h : b.send m = (.error e, b')) : b'.inFlight = b.inFlight ∧ b'.delivered = b.delivered := by
  unfold send at h
  split at h
  · obtain rfl := (Prod.mk.inj h).2
    exact ⟨rfl, rfl⟩
  · split at h
    · obtain rfl := (Prod.mk.inj h).2
      exact ⟨rfl, rfl⟩
    · simp at h

/-- What comes of a step that leads from `task` at `b` to the broker `b'`: a report is the next of a
    batch, a batch is what was in the queue, and a task that is over has nothing left to report. -/
def Yields (task : Task) (b b' : MemoryBroker) : TaskStep Task → Prop
  | .report r next => ∃ m batch purpose, task = .deliver (m :: batch) purpose ∧
      next = .deliver batch purpose ∧ r = (b.deliver m).1 ∧ b' = (b.deliver m).2
  | .more next => (b'.inFlight.toList ++ next.held).Perm (b.inFlight.toList ++ task.held) ∧
      b'.delivered = b.delivered
  | .finished answer => b'.inFlight = b.inFlight ∧ task.held = [] ∧ b'.delivered = b.delivered ∧
      (answer = .ok () ∨ answer = .error .timedOut)

theorem yields_waitPaused (deadline : Option Nat) (b : MemoryBroker) (clock : Clock) :
    Yields (.flushRound deadline) b (b.waitPaused deadline clock).2.1
      (b.waitPaused deadline clock).1 := by
  unfold waitPaused
  split <;> simp [Yields, Task.held]

theorem yields_step (task : Task) (b : MemoryBroker) (clock : Clock) :
    Yields task b (step task b clock).2.1 (step task b clock).1 := by
  cases task with
  | poll purpose =>
    simp only [step]
    split_ifs <;> simp [Yields, Task.held]
  | deliver batch purpose =>
    cases batch with
    | nil => cases purpose <;> simp [step, Yields, Task.held]
    | cons m batch => exact ⟨m, batch, purpose, rfl, rfl, rfl, rfl⟩
  | flush timeout => simp [step, Yields, Task.held]
  | flushRound deadline =>
    simp only [step]
    split_ifs
    · have h := yields_waitPaused deadline (b.wake clock) clock
      revert h
      cases (waitPaused deadline (b.wake clock) clock).1 <;> simp [Yields]
    · simp [Yields, Task.held]
  | flushCheck deadline =>
    simp only [step]
    split_ifs
    · simp [Yields, Task.held]
    · cases deadline with
      | none => simp [Yields, Task.held]
      | some d =>
        dsimp only
        split_ifs <;> simp [Yields, Task.held]

theorem yields_of_step {task : Task} {b b' : MemoryBroker} {clock clock' : Clock}
    {out : TaskStep Task} (h : client.step task b clock = (out, b', clock')) :
    Yields task b b' out := by
  have hy := yields_step task b clock
  rw [show step task b clock = (out, b', clock') from h] at hy
  exact hy

/-- A task of the broker in memory is over in time or it is not; it never fails otherwise. -/
theorem not_mayFail : ¬ client.MayFail := by
  rintro ⟨e, he, task, b, clock, b', clock', h⟩
  obtain ⟨-, -, -, h | h⟩ := yields_of_step h
  · simp at h
  · obtain rfl := Except.error.inj h
    simp [BrokerError.isTimeout] at he

/-! ### The course of the broker in memory -/

/-- All messages taken out of the queue by the tasks that are going on. -/
def heldBy : List client.Task → List Message
  | [] => []
  | task :: ts => Task.held task ++ heldBy ts

theorem heldBy_cons (task : client.Task) (ts : List client.Task) :
    heldBy (task :: ts) = Task.held task ++ heldBy ts := rfl

/-- What is yet to be reported is in the queue or in a batch. -/
theorem course_outstanding {b₀ b : MemoryBroker} {ts : List client.Task} {M : Multiset Message}
    (h : client.Course Heeds b₀ b ts M) (hs : b₀.inFlight.toList = []) :
    M = (b.inFlight.toList ++ heldBy ts : List Message) := by
  induction h with
  | start => simp [heldBy, hs]
  | told h hb ih => rw [ih, inFlight_of_heeds hb]
  | accept h hsend ih =>
    rw [ih, (send_ok hsend).1, List.append_assoc, List.singleton_append, Multiset.cons_coe]
    exact Multiset.coe_eq_coe.mpr List.perm_middle.symm
  | refuse h hsend ih => rw [ih, (send_error hsend).1]
  | begin task h ht ih =>
    rw [ih]
    rcases ht with rfl | ⟨timeout, rfl⟩ <;> rfl
  | more h hstep ih =>
    rw [ih, heldBy_cons, heldBy_cons, ← List.append_assoc, ← List.append_assoc]
    exact Multiset.coe_eq_coe.mpr ((yields_of_step hstep).1.append_right _).symm
  | report h hstep ih =>
    obtain ⟨m, batch, purpose, ht, hn, rfl, rfl⟩ := yields_of_step hstep
    rw [heldBy_cons, ht, Task.held, List.cons_append] at ih
    rw [message_deliver, meant_of_mem (by simp [ih]), ih, inFlight_deliver, Multiset.coe_erase,
      heldBy_cons, hn, Task.held]
    refine Multiset.coe_eq_coe.mpr ((List.perm_middle.erase m).trans ?_)
    rw [List.erase_cons_head]
  | finish h hstep ih =>
    obtain ⟨hf, ht, -⟩ := yields_of_step hstep
    rw [ih, hf, heldBy_cons, ht, List.nil_append]

theorem exact_client {b₀ : MemoryBroker} (hs : b₀.inFlight.toList = []) :
    client.Exact Heeds b₀ := by
  intro b ts M task clock r next b' clock' h hstep
  obtain ⟨m, batch, purpose, ht, -, rfl, -⟩ := yields_of_step hstep
  rw [course_outstanding h hs, message_deliver, heldBy_cons, ht, Task.held, Multiset.mem_coe]
  simp

end MemoryBroker

end Outbox
