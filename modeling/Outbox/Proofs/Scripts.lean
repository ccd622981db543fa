import Mathlib.Data.List.Perm.Basic
import Outbox.Broker.Scripted
import Outbox.Proofs.Course

/-! Scripts that are kept to. A script is plain if it reports every message as it is and takes it out
    of the queue when it does. It may still refuse any message, report any that is in flight, as
    delivered or not, in any order and at any time, and answer a flush with any error. A broker with
    a plain script is exact. -/

namespace Outbox

/-- What is reported is taken out of the queue, and reported as it is. -/
def ScriptedAction.isPlain : ScriptedAction → Bool
  | reportAll _ | reportReversed _ | report .. => true
  | echo .. | strip .. => false

def BrokerScript.isPlain (s : BrokerScript) : Bool :=
  s.polls.all (·.all (·.isPlain)) && s.flushes.all (·.actions.all (·.isPlain))

theorem BrokerScript.isPlain_append (s t : BrokerScript) :
    (s.append t).isPlain = (s.isPlain && t.isPlain) := by
  simp only [append, isPlain, List.all_append]
  ac_rfl

/-- A script that is kept to. -/
abbrev PlainScript := { s : BrokerScript // s.isPlain = true }

namespace ScriptedBroker

/-- The broker was given more of a plain script. -/
def Extends (b b' : ScriptedBroker) : Prop := ∃ s : PlainScript, b' = b.extend s.1

/-- The messages a task has taken out of the queue and not reported yet. -/
def Task.held : Task → List Message
  | .hand reports _ _ => reports.map (·.message)
  | _ => []

/-- What the task is still going to do is plain. -/
def Task.isPlain : Task → Bool
  | .act todo _ | .hand _ todo _ => todo.all (·.isPlain)
  | _ => true

/-- What a plain action reports it takes out of the queue. -/
theorem reportsOf_perm (b : ScriptedBroker) {action : ScriptedAction}
    (h : action.isPlain = true) :
    ((b.reportsOf action).2.inFlight.toList ++ (b.reportsOf action).1.map (·.message)).Perm
      b.inFlight.toList := by
  cases action with
  | reportAll e => simp [reportsOf, Function.comp_def]
  | reportReversed e => simp [reportsOf, Function.comp_def]
  | report i e =>
    refine List.perm_append_comm.trans ?_
    by_cases hi : i < b.inFlight.toList.length
    · have hget := List.getElem?_eq_getElem hi
      simpa [reportsOf, reportAt, without, hget] using List.getElem_cons_eraseIdx_perm hi
    · have hi := Nat.le_of_not_lt hi
      simp [reportsOf, reportAt, without, List.getElem?_eq_none hi, List.eraseIdx_of_length_le hi]
  | echo i e | strip i e => simp [ScriptedAction.isPlain] at h

theorem script_reportsOf (b : ScriptedBroker) (action : ScriptedAction) :
    (b.reportsOf action).2.script = b.script := by
  cases action <;> rfl

/-- What comes of a step that leads from `task` at `b` to the broker `b'`, when all is plain. -/
def Yields (task : Task) (b b' : ScriptedBroker) : TaskStep Task → Prop
  | .report r next => ∃ reports todo answer, task = .hand (r :: reports) todo answer ∧
      next = .hand reports todo answer ∧ b'.inFlight = b.inFlight
  | .more next => next.isPlain = true ∧
      (b'.inFlight.toList ++ next.held).Perm (b.inFlight.toList ++ task.held)
  | .finished _ => task.held = [] ∧ b'.inFlight = b.inFlight

theorem yields_step {task : Task} {b : ScriptedBroker} (clock : Clock) (ht : task.isPlain = true)
    (hb : b.script.isPlain = true) :
    Yields task b (step task b clock).2.1 (step task b clock).1 ∧
      (step task b clock).2.1.script.isPlain = true := by
  obtain ⟨hpolls, hflushes⟩ := Bool.and_eq_true_iff.mp hb
  cases task with
  | poll =>
    have hhead : (b.script.polls.head?.getD []).all (·.isPlain) = true := by
      cases hp : b.script.polls with
      | nil => rfl
      | cons p polls => simpa [hp] using (List.all_eq_true.mp hpolls p (by simp [hp]))
    have htail : b.script.polls.tail.all (·.all (·.isPlain)) = true :=
      List.all_eq_true.mpr fun p hp => List.all_eq_true.mp hpolls p (List.mem_of_mem_tail hp)
    exact ⟨⟨hhead, by simp [step, Task.held]⟩, Bool.and_eq_true_iff.mpr ⟨htail, hflushes⟩⟩
  | flush =>
    have hhead : (b.script.flushes.head?.getD {}).actions.all (·.isPlain) = true := by
      cases hf : b.script.flushes with
      | nil => rfl
      | cons f flushes => simpa [hf] using (List.all_eq_true.mp hflushes f (by simp [hf]))
    have htail : b.script.flushes.tail.all (·.actions.all (·.isPlain)) = true :=
      List.all_eq_true.mpr fun f hf => List.all_eq_true.mp hflushes f (List.mem_of_mem_tail hf)
    exact ⟨⟨hhead, by simp [step, Task.held]⟩, Bool.and_eq_true_iff.mpr ⟨hpolls, htail⟩⟩
  | act todo answer =>
    cases todo with
    | nil => exact ⟨⟨rfl, rfl⟩, hb⟩
    | cons action todo =>
      obtain ⟨ha, htodo⟩ := Bool.and_eq_true_iff.mp ht
      refine ⟨⟨htodo, ?_⟩, (congrArg BrokerScript.isPlain (b.script_reportsOf action)).trans hb⟩
      exact (b.reportsOf_perm ha).trans (by simp [Task.held])
  | hand reports todo answer =>
    cases reports with
    | nil => exact ⟨⟨ht, by simp [step, Task.held]⟩, hb⟩
    | cons r reports => exact ⟨⟨reports, todo, answer, rfl, rfl, rfl⟩, hb⟩

theorem yields_of_step {task : Task} {b b' : ScriptedBroker} {clock clock' : Clock}
    {out : TaskStep Task} (ht : task.isPlain = true) (hb : b.script.isPlain = true)
    (h : client.step task b clock = (out, b', clock')) :
    Yields task b b' out ∧ b'.script.isPlain = true := by
  have hy := yields_step clock ht hb
  rw [show step task b clock = (out, b', clock') from h] at hy
  exact hy

theorem send_ok {m : Message} {b b' : ScriptedBroker} (h : b.send m = (.ok (), b')) :
    b'.inFlight.toList = b.inFlight.toList ++ [m] ∧
      (b.script.isPlain = true → b'.script.isPlain = true) := by
  unfold send at h
  split at h
  · simp at h
  · obtain rfl := (Prod.mk.inj h).2
    exact ⟨Line.toList_pushBack _ _, id⟩

theorem send_error {m : Message} {b b' : ScriptedBroker} {e : BrokerError}
    (h : b.send m = (.error e, b')) :
    b'.inFlight = b.inFlight ∧ (b.script.isPlain = true → b'.script.isPlain = true) := by
  unfold send at h
  split at h
  · obtain rfl := (Prod.mk.inj h).2
    exact ⟨rfl, id⟩
  · simp at h

/-! ### The course of a broker with a plain script -/

/-- All messages taken out of the queue by the tasks that are going on. -/
def heldBy : List client.Task → List Message
  | [] => []
  | task :: ts => Task.held task ++ heldBy ts

theorem heldBy_cons (task : client.Task) (ts : List client.Task) :
    heldBy (task :: ts) = Task.held task ++ heldBy ts := rfl

/-- The script and the tasks are plain, and what is yet to be reported is in the queue or held by a
    task. -/
structure Plain (b : ScriptedBroker) (ts : List client.Task) (M : Multiset Message) : Prop where
  script : b.script.isPlain = true
  tasks : ∀ task ∈ ts, Task.isPlain task = true
  outstanding : M = (b.inFlight.toList ++ heldBy ts : List Message)

theorem course_plain {b₀ b : ScriptedBroker} {ts : List client.Task} {M : Multiset Message}
    (h : client.Course Extends b₀ b ts M) (hs : b₀.script.isPlain = true)
    (hempty : b₀.inFlight.toList = []) : Plain b ts M := by
  induction h with
  | start => exact ⟨hs, by simp, by simp [heldBy, hempty]⟩
  | told h hb ih =>
    obtain ⟨⟨s, hplain⟩, rfl⟩ := hb
    exact ⟨by simp [extend, BrokerScript.isPlain_append, ih.script, hplain], ih.tasks,
      ih.outstanding⟩
  | accept h hsend ih =>
    obtain ⟨hq, hp⟩ := send_ok hsend
    refine ⟨hp ih.script, ih.tasks, ?_⟩
    rw [ih.outstanding, hq, List.append_assoc, List.singleton_append, Multiset.cons_coe]
    exact Multiset.coe_eq_coe.mpr List.perm_middle.symm
  | refuse h hsend ih =>
    obtain ⟨hq, hp⟩ := send_error hsend
    exact ⟨hp ih.script, ih.tasks, by rw [ih.outstanding, hq]⟩
  | begin task h ht ih =>
    refine ⟨ih.script, ?_, ?_⟩
    · rcases ht with rfl | ⟨timeout, rfl⟩ <;> exact List.forall_mem_cons.mpr ⟨rfl, ih.tasks⟩
    · rcases ht with rfl | ⟨timeout, rfl⟩ <;> exact ih.outstanding
  | more h hstep ih =>
    obtain ⟨htask, htasks⟩ := List.forall_mem_cons.mp ih.tasks
    obtain ⟨⟨hnext, hperm⟩, hp⟩ := yields_of_step htask ih.script hstep
    refine ⟨hp, List.forall_mem_cons.mpr ⟨hnext, htasks⟩, ?_⟩
    rw [ih.outstanding, heldBy_cons, heldBy_cons, ← List.append_assoc,
      ← List.append_assoc]
    exact Multiset.coe_eq_coe.mpr (hperm.append_right _).symm
  | report h hstep ih =>
    obtain ⟨htask, htasks⟩ := List.forall_mem_cons.mp ih.tasks
    obtain ⟨⟨reports, todo, answer, ht, hn, hq⟩, hp⟩ := yields_of_step htask ih.script hstep
    refine ⟨hp, List.forall_mem_cons.mpr ⟨?_, htasks⟩, ?_⟩
    · rw [ht] at htask
      exact hn ▸ htask
    have hM := ih.outstanding
    rw [heldBy_cons, ht, Task.held, List.map_cons, List.cons_append] at hM
    rw [meant_of_mem (by simp [hM]), hM, hq, Multiset.coe_erase, heldBy_cons, hn, Task.held]
    refine Multiset.coe_eq_coe.mpr ((List.perm_middle.erase _).trans ?_)
    rw [List.erase_cons_head]
  | finish h hstep ih =>
    obtain ⟨htask, htasks⟩ := List.forall_mem_cons.mp ih.tasks
    obtain ⟨⟨hheld, hq⟩, hp⟩ := yields_of_step htask ih.script hstep
    refine ⟨hp, htasks, ?_⟩
    rw [ih.outstanding, hq, heldBy_cons, hheld, List.nil_append]

theorem exact_client {b₀ : ScriptedBroker} (hs : b₀.script.isPlain = true)
    (hempty : b₀.inFlight.toList = []) : client.Exact Extends b₀ := by
  intro b ts M task clock r next b' clock' h hstep
  have ih := course_plain h hs hempty
  obtain ⟨htask, -⟩ := List.forall_mem_cons.mp ih.tasks
  obtain ⟨⟨reports, todo, answer, ht, -⟩, -⟩ := yields_of_step htask ih.script hstep
  rw [ih.outstanding, heldBy_cons, ht, Task.held]
  simp

end ScriptedBroker

end Outbox
