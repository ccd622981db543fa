import Outbox.Proofs.Along
import Outbox.Proofs.Scripts
import Outbox.Proofs.Stranded

/-! How many flushes are said to be in progress. The count goes up when the sending part of a flush
    begins, and comes down again when that part ends, whichever way it ends; an ordered flush sends
    and waits in one part. Whatever hooks do in between, flushes of their own included, they leave
    the count as they found it. Main statement: each operation leaves the count as it was, and all
    that is written down while a flush is sending is written under a count that is one higher. A
    flush that does not keep to the order waits for the outcomes after its sending part, and then
    it counts no more. -/

namespace Outbox

variable {β κ α ο : Type}

/-- The flushes in progress when the entry was written. -/
def Entry.flushing (e : Entry) : Nat := e.reading.counters.flushing

/-- The entries, newest first, were written while `n` flushes were in progress. During the calls of
    hooks there may have been more, by as many as hooks were nested. -/
inductive Level (n depth : Nat) : List Entry → Prop where
  | nil : Level n depth []
  | own {e J} (h : Level n depth J) (he : e.event.isOwn = true) (hn : e.flushing = n) :
      Level n depth (e :: J)
  | hook {called J within returned kind m e v} (h : Level n depth J)
      (hcalled : called.event = .hookCalled kind m e) (hn : called.flushing = n)
      (hwithin : ∀ e ∈ within, n ≤ e.flushing ∧ e.flushing ≤ n + depth)
      (hreturned : returned.event = .hookReturned v) (hn' : returned.flushing = n) :
      Level n depth (returned :: within ++ called :: J)

theorem Level.append {n depth : Nat} {J K : List Entry} (hK : Level n depth K)
    (hJ : Level n depth J) : Level n depth (K ++ J) := by
  induction hK with
  | nil => exact hJ
  | own _ he hn ih => exact .own ih he hn
  | @hook called K within _ _ _ _ _ _ hcalled hn hwithin hreturned hn' ih =>
    have hhook := Level.hook ih hcalled hn hwithin hreturned hn'
    simpa only [List.append_assoc, List.cons_append] using hhook

theorem Level.bounded {n depth : Nat} {J : List Entry} (h : Level n depth J) :
    ∀ e ∈ J, n ≤ e.flushing ∧ e.flushing ≤ n + depth := by
  induction h with
  | nil => exact fun e he => absurd he List.not_mem_nil
  | own _ _ hn ih =>
    intro e he
    rcases List.mem_cons.mp he with rfl | he
    · omega
    · exact ih e he
  | hook _ _ hn hwithin _ hn' ih =>
    intro e he
    simp only [List.cons_append, List.mem_cons, List.mem_append] at he
    rcases he with rfl | he | rfl | he
    · omega
    · exact hwithin e he
    · omega
    · exact ih e he

namespace Site

/-- The flushes in progress. -/
def flushing (s : World β κ α) : Nat := s.producer.counters.flushing

theorem flushing_marked (s : World β κ α) {k : Mark} (hk : k.isFlush = false) :
    (s.marked k).flushing = s.flushing := by
  cases k <;> first | rfl | simp [Mark.isFlush] at hk

/-- Between `s` and `t` the count of flushes in progress was never below what it was at `s`, and it
    is the same at `t`. -/
structure Restores (depth : Nat) (s t : World β κ α) : Prop where
  flushing : t.flushing = s.flushing
  journal : ∃ J, t.journal = J ++ s.journal ∧
    ∀ e ∈ J, s.flushing ≤ e.flushing ∧ e.flushing ≤ s.flushing + depth

/-- Between `s` and `t` no flush began or ended but within the calls of hooks. -/
structure Unflushed (depth : Nat) (s t : World β κ α) : Prop where
  flushing : t.flushing = s.flushing
  journal : ∃ J, t.journal = J ++ s.journal ∧ Level s.flushing depth J

/-- Between `s` and `t` something was done while one flush more was counted as in progress. It was
    still counted when it was done, so that the count can come down again. -/
def Guarded (depth : Nat) (s t : World β κ α) : Prop :=
  ∃ u, (s.marked .flushBegan).Unflushed depth u ∧ t = u.marked .flushEnded

/-- What an operation that lasts from `s` to `t` does to the count. -/
def Counts (depth : Nat) (s t : World β κ α) : Operation Message → Prop
  | .flushAsync | .flush true | .flushFor _ true => s.Guarded depth t
  | .flush false | .flushFor _ false => ∃ u, s.Guarded depth u ∧ u.Unflushed depth t
  | .add _ => ∃ u, s.Unflushed depth u ∧ (t = u ∨ ∃ v, u.Guarded depth v ∧ v.Unflushed depth t)
  | .produce _ | .produceSync _ | .awaitAcks | .awaitAcksFor _ | .clear | .setBufferLimit _
  | .setFlushMode _ | .setRetryBudget _ | .setFullQueueNotice _ => s.Unflushed depth t

variable {depth : Nat} {s t u : World β κ α}

theorem isRoad_restores (depth : Nat) :
    Act.IsRoad (Restores depth : World β κ α → World β κ α → Prop) where
  refl s := ⟨rfl, [], rfl, by simp⟩
  trans := by
    rintro s t u ⟨hst, J, hJ, hlevel⟩ ⟨htu, K, hK, hlevel'⟩
    refine ⟨htu.trans hst, K ++ J, by rw [hK, hJ, List.append_assoc], fun e he => ?_⟩
    rcases List.mem_append.mp he with he | he
    · exact hst ▸ hlevel' e he
    · exact hlevel e he

theorem isRoad_unflushed (depth : Nat) :
    Act.IsRoad (Unflushed depth : World β κ α → World β κ α → Prop) where
  refl s := ⟨rfl, [], rfl, .nil⟩
  trans := by
    rintro s t u ⟨hst, J, hJ, hlevel⟩ ⟨htu, K, hK, hlevel'⟩
    refine ⟨htu.trans hst, K ++ J, by rw [hK, hJ, List.append_assoc], ?_⟩
    exact (hst ▸ hlevel').append hlevel

theorem Restores.mono {depth' : Nat} (h : s.Restores depth t) (hd : depth ≤ depth') :
    s.Restores depth' t := by
  obtain ⟨hflushing, J, hJ, hbounds⟩ := h
  refine ⟨hflushing, J, hJ, fun e he => ?_⟩
  have hb := hbounds e he
  omega

/-- Nothing was written, and the count is the same. -/
theorem Unflushed.of_eq (hflushing : t.flushing = s.flushing) (hjournal : t.journal = s.journal) :
    s.Unflushed depth t :=
  ⟨hflushing, [], hjournal, .nil⟩

theorem Unflushed.after (h : u.Unflushed depth t) (hflushing : u.flushing = s.flushing)
    (hjournal : u.journal = s.journal) : s.Unflushed depth t :=
  (isRoad_unflushed depth).trans (.of_eq hflushing hjournal) h

theorem Unflushed.noted (s : World β κ α) {e : Event} (he : e.isOwn = true) :
    s.Unflushed depth (s.noted e) :=
  ⟨rfl, [s.entry e], rfl, .own .nil he rfl⟩

theorem Unflushed.restores (h : s.Unflushed depth t) : s.Restores depth t := by
  obtain ⟨hflushing, J, hJ, hlevel⟩ := h
  exact ⟨hflushing, J, hJ, hlevel.bounded⟩

theorem Guarded.restores (h : s.Guarded depth t) : s.Restores (depth + 1) t := by
  obtain ⟨u, ⟨hflushing, J, hJ, hlevel⟩, rfl⟩ := h
  have hbegan : (s.marked .flushBegan).flushing = s.flushing + 1 := rfl
  refine ⟨?_, J, hJ, fun e he => ?_⟩
  · change u.flushing - 1 = s.flushing
    omega
  · have hb := hlevel.bounded e he
    omega

theorem Counts.restores {op : Operation Message} (h : s.Counts depth t op) :
    s.Restores (depth + 1) t := by
  have hunflushed {u v : World β κ α} (h : u.Unflushed depth v) : u.Restores (depth + 1) v :=
    h.restores.mono (Nat.le_succ depth)
  have hpair {u : World β κ α} (h : ∃ v, u.Guarded depth v ∧ v.Unflushed depth t) :
      u.Restores (depth + 1) t := by
    obtain ⟨v, hv, ht⟩ := h
    exact (isRoad_restores _).trans hv.restores (hunflushed ht)
  rcases op with m | m | m | _ | inOrder | ⟨timeout, inOrder⟩ | _ | timeout | _ | n | mode | n |
    notice
  case add =>
    obtain ⟨u, hu, rfl | ht⟩ := h
    · exact hunflushed hu
    · exact (isRoad_restores _).trans (hunflushed hu) (hpair ht)
  case flushAsync => exact Guarded.restores h
  case flush | flushFor =>
    cases inOrder with
    | false => exact hpair h
    | true => exact Guarded.restores h
  all_goals exact hunflushed h

end Site

namespace Surroundings

variable {env : Surroundings β κ α} {depth : Nat} {s t : World β κ α}

/-- Where hooks restore the count, nothing but a flush changes it. -/
theorem passes_unflushed
    (hcall : ∀ hook kind m e, (env.call hook kind m e).Along (Site.Restores depth)) :
    env.Passes (Site.Unflushed depth) where
  toIsRoad := Site.isRoad_unflushed depth
  turned _ _ _ := .of_eq rfl rfl
  noted s _ he := .noted s he
  marked s _ hk := .of_eq (s.flushing_marked hk) rfl
  retracked _ _ := .of_eq rfl rfl
  requeued _ _ := .of_eq rfl rfl
  fire kind m e := by
    refine ⟨fun {s v t} h => ?_⟩
    rcases fire_eq_some h with ⟨-, rfl⟩ | ⟨hook, verdict, u, hcalled, rfl⟩
    · exact .of_eq rfl rfl
    obtain ⟨hflushing, K, hK, hbounds⟩ := (hcall hook kind m e).leads hcalled
    refine ⟨hflushing, u.entry (.hookReturned verdict) :: K ++ [s.entry (.hookCalled kind m e)], ?_,
      .hook .nil rfl rfl hbounds rfl hflushing⟩
    rw [Site.journal_noted, hK, Site.journal_noted, List.cons_append, List.cons_append,
      List.append_assoc]
    rfl

theorem unflushed_takeRetry :
    (Work.takeRetry : Work β κ α Batch).Along (Site.Unflushed depth) :=
  Work.along_takeRetry fun _ => .of_eq rfl rfl

theorem unflushed_takeRegular :
    (Work.takeRegular : Work β κ α Batch).Along (Site.Unflushed depth) :=
  Work.along_takeRegular fun _ => .of_eq rfl rfl

section

variable (hR : env.Passes (Site.Unflushed depth))
include hR

theorem guarded_flushAsync {r : Except ProducerError Unit} (h : env.flushAsync s = some (r, t)) :
    s.Guarded depth t := by
  rw [flushAsync_eq] at h
  obtain ⟨u, hwork, rfl⟩ := whileFlushing_eq_some h
  exact ⟨u, (hR.bears.attends.push unflushed_takeRetry unflushed_takeRegular).leads hwork, rfl⟩

theorem guarded_flushInOrder {timeout : Option Span} {r : Except ProducerError Bool}
    (h : env.flushInOrder timeout s = some (r, t)) : s.Guarded depth t := by
  obtain ⟨k, sent, u, hsent, -, rfl⟩ := flushInOrder_eq_some h
  have hunflushed := (hR.bears.attends.sendInOrder ..).leads hsent
  refine ⟨u.rebuffered _ _, ?_, rfl⟩
  exact hR.trans (hunflushed.after rfl rfl) (.of_eq rfl rfl)

/-- A flush that does not keep to the order has a sending part, and a waiting part unless it fails
    before. -/
theorem guarded_flushAnd {ρ : Type} {wait : Work β κ α (Except ProducerError ρ)}
    {r : Except ProducerError ρ} (hwait : wait.Along (Site.Unflushed depth))
    (h : env.flushAnd wait s = some (r, t)) : ∃ u, s.Guarded depth u ∧ u.Unflushed depth t := by
  obtain ⟨sent, u, hsent, h⟩ := Act.bind_eq_some.mp h
  refine ⟨u, guarded_flushAsync hR hsent, ?_⟩
  cases sent with
  | error e => exact (hR.bears.pure _).leads h
  | ok _ => exact hwait.leads h

theorem unflushed_enroll (m : Message) (s : World β κ α) : s.Unflushed depth (s.enroll m).2 := by
  refine hR.trans (hR.noted s rfl (e := .submitted m)) ?_
  rw [Site.enroll]
  split <;> exact .of_eq rfl rfl

theorem counts_add {m : Message} {r : Except ProducerError Unit} (h : env.add m s = some (r, t)) :
    s.Counts depth t (.add m) := by
  rw [add_eq] at h
  refine ⟨s.stored m, hR.trans (unflushed_enroll hR m s) (.of_eq rfl rfl), ?_⟩
  split at h
  · right
    split at h
    · rw [flush_false] at h
      exact guarded_flushAnd hR hR.bears.attends.awaitAcks h
    · exact ⟨t, guarded_flushAsync hR h, hR.refl t⟩
  · obtain ⟨-, rfl⟩ := Prod.mk.inj (Option.some.inj h)
    exact .inl rfl

theorem counts_operate {op : Operation Message} {r : Reply}
    (h : env.operate op s = some (r, t)) : s.Counts depth t op := by
  have hJ := hR.bears.attends
  cases op with
  | add m =>
    obtain ⟨_, h, -⟩ := Work.of_reply h
    exact counts_add hR h
  | produce m =>
    obtain ⟨_, h, -⟩ := Work.of_reply h
    exact (hR.bears.produce m).leads h
  | produceSync m =>
    obtain ⟨_, h, -⟩ := Work.of_reply h
    exact (hR.bears.produceSync m).leads h
  | flushAsync =>
    obtain ⟨_, h, -⟩ := Work.of_reply h
    exact guarded_flushAsync hR h
  | flush inOrder =>
    obtain ⟨_, h, -⟩ := Work.of_reply h
    cases inOrder with
    | false =>
      rw [flush_false] at h
      exact guarded_flushAnd hR hJ.awaitAcks h
    | true =>
      obtain ⟨_, h, -⟩ := Work.of_reply h
      exact guarded_flushInOrder hR h
  | flushFor timeout inOrder =>
    obtain ⟨_, h, -⟩ := Work.of_reply h
    cases inOrder with
    | false =>
      rw [flushFor_false] at h
      exact guarded_flushAnd hR (hJ.awaitAcksFor timeout) h
    | true => exact guarded_flushInOrder hR h
  | awaitAcks =>
    obtain ⟨_, h, -⟩ := Work.of_reply h
    exact hJ.awaitAcks.leads h
  | awaitAcksFor timeout =>
    obtain ⟨_, h, -⟩ := Work.of_reply h
    exact (hJ.awaitAcksFor timeout).leads h
  | clear =>
    obtain ⟨_, h, -⟩ := Work.of_reply (f := fun _ => Reply.done) h
    exact (hR.bears.clear unflushed_takeRetry unflushed_takeRegular).leads h
  | setBufferLimit n =>
    obtain ⟨_, h, -⟩ := Work.of_reply h
    obtain ⟨-, rfl⟩ := Work.setBufferLimit_eq_some h
    split <;> exact .of_eq rfl rfl
  | setFlushMode _ | setRetryBudget _ | setFullQueueNotice _ =>
    obtain ⟨-, rfl⟩ := Act.pure_eq_some.mp h
    exact .of_eq rfl rfl

end

end Surroundings

namespace Application

variable {app : Application β κ α ο} {limit depth : Nat} {s t : World β κ α}

/-- A deed restores the count if hooks that are called in the course of it do. -/
theorem restores_perform
    (hR : (app.surroundings limit depth).Passes (Site.Unflushed depth)) {deed : Deed κ α ο}
    {r : Reply}
    (h : app.perform (app.surroundings limit depth) deed s = some (r, t)) :
    s.Restores (depth + 1) t := by
  have hunflushed {t : World β κ α} (h : s.Unflushed depth t) : s.Restores (depth + 1) t :=
    h.restores.mono (Nat.le_succ depth)
  cases deed with
  | operate op => exact (Surroundings.counts_operate hR h).restores
  | pollBroker =>
    obtain ⟨_, h, -⟩ := Work.of_reply (f := fun _ => Reply.done) h
    exact hunflushed (hR.bears.attends.poll.leads h)
  | flushBroker timeout =>
    obtain ⟨_, h, -⟩ := Work.of_reply h
    exact hunflushed ((hR.bears.attends.flushBroker timeout).leads h)
  | register _ _ | instruct _ | sleep _ | think _ =>
    obtain ⟨-, rfl⟩ := Act.pure_eq_some.mp h
    exact hunflushed (.of_eq rfl rfl)

theorem restores_seeThrough
    (hR : (app.surroundings limit depth).Passes (Site.Unflushed depth)) (c : Conduct β κ α ο) :
    (c.seeThrough (app.perform (app.surroundings limit depth))).Along (Site.Restores (depth + 1)) :=
    by
  have hroad := Site.isRoad_restores (β := β) (κ := κ) (α := α) (depth + 1)
  induction c with
  | answer v => exact hroad.composes.pure v
  | see next ih => exact ⟨fun h => (ih _).leads h⟩
  | act deed next ih => exact hroad.composes.bind ⟨restores_perform hR⟩ ih

/-- Whatever hooks do, they restore the count, however deep they are nested. -/
theorem passes_unflushed (app : Application β κ α ο) (limit depth : Nat) :
    (app.surroundings limit depth).Passes (Site.Unflushed depth) := by
  induction depth with
  | zero => exact Surroundings.passes_unflushed fun hook kind m e => ⟨fun h => by cases h⟩
  | succ depth ih =>
    exact Surroundings.passes_unflushed fun hook kind m e => restores_seeThrough ih _

theorem restores_run {deeds : List (Deed κ α ο)} {v : Unit}
    (h : app.run limit depth deeds s = some (v, t)) : s.Restores (depth + 1) t := by
  have hroad := Site.isRoad_restores (β := β) (κ := κ) (α := α) (depth + 1)
  induction deeds generalizing s with
  | nil =>
    obtain ⟨-, rfl⟩ := Act.pure_eq_some.mp h
    exact hroad.refl s
  | cons deed deeds ih =>
    obtain ⟨_, u, hdeed, h⟩ := run_cons h
    exact hroad.trans (restores_perform (app.passes_unflushed limit depth) hdeed) (ih h)

/-- No flush is counted as in progress between two deeds, and never more of them than hooks may be
    nested, and one. Whichever operation is carried out, by the application or by a hook, leaves the
    count as it found it. One more is counted while a flush sends what was buffered, but not while
    it waits for the outcomes after that. -/
theorem counts_of_run {b : β} {clock : Clock} {settings : Settings} {scope : Nat} {a : α}
    {deeds : List (Deed κ α ο)}
    (h : app.run limit depth deeds (.opening b clock settings scope a) = some ((), s)) :
    s.flushing = 0 ∧ (∀ e ∈ s.journal, e.flushing ≤ depth + 1) ∧
      ∀ {nested : Nat} {op : Operation Message} {u v : World β κ α} {r : Reply},
        (app.surroundings limit nested).operate op u = some (r, v) →
        u.Counts nested v op ∧ v.flushing = u.flushing := by
  obtain ⟨hflushing, J, hJ, hbounds⟩ := restores_run h
  have hzero : (.opening b clock settings scope a : World β κ α).flushing = 0 := rfl
  refine ⟨hflushing, fun e he => ?_, fun {nested op u v r} h => ?_⟩
  · have hopening : (.opening b clock settings scope a : World β κ α).journal = [] := rfl
    rw [hJ, hopening, List.append_nil] at he
    have hb := hbounds e he
    omega
  · have hcounts := Surroundings.counts_operate (app.passes_unflushed limit nested) h
    exact ⟨hcounts, hcounts.restores.flushing⟩

end Application

/-- A hook is told of a delivery. -/
def Event.tellsDelivery : Event → Bool
  | hookCalled .delivered .. => true
  | _ => false

namespace ScriptedBroker

/-- A broker that keeps silent when it is flushed first. -/
def reserved : ScriptedBroker where
  script := { flushes := [{ actions := [] }] }

/-- A message is buffered, and its sender wants to be told of the delivery. -/
def expectant : List (Deed Unit Unit PlainScript) :=
  [.register .delivered (), .operate (.add { topic := "t" })]

/-- What comes of a flush when the broker keeps silent at first. -/
def lateReport : Option (World ScriptedBroker Unit Unit × Reply × World ScriptedBroker Unit Unit) :=
  do
  let (_, s) ← (application consent).run 20 1 expectant (.opening reserved {} {} 0 ())
  let (r, t) ← ((application consent).surroundings 20 1).operate (.flush false) s
  return (s, r, t)

theorem exists_lateReport : ∃ s t,
    (application consent).run 20 1 expectant (.opening reserved {} {} 0 ()) = some ((), s) ∧
    ((application consent).surroundings 20 1).operate (.flush false) s = some (.done, t) ∧
    (∀ e ∈ s.journal, e.event.tellsDelivery = false) ∧
    ∃ e ∈ t.journal, e.event.tellsDelivery = true ∧ e.flushing = 0 := by
  have hlate : lateReport.any (fun x => decide (x.2.1 = .done) &&
      x.1.journal.all (fun e => !e.event.tellsDelivery) &&
      x.2.2.journal.any fun e => e.event.tellsDelivery && e.flushing == 0) = true := by
    decide +kernel
  obtain ⟨⟨s, r, t⟩, hst, hp⟩ := (Option.any_eq_true ..).mp hlate
  simp only [lateReport, Option.bind_eq_bind, Option.bind_eq_some_iff] at hst
  obtain ⟨⟨⟨⟩, s'⟩, hs, ⟨r', t'⟩, ht, heq⟩ := hst
  obtain ⟨rfl, rfl, rfl⟩ : s' = s ∧ r' = r ∧ t' = t := by simpa using heq
  simp only [Bool.and_eq_true, decide_eq_true_eq, List.all_eq_true, Bool.not_eq_true',
    List.any_eq_true, beq_iff_eq] at hp
  obtain ⟨⟨rfl, hbefore⟩, hafter⟩ := hp
  exact ⟨s', t', hs, ht, hbefore, hafter⟩

/-- The count is back where it was before the message is buffered, and again after the flush. -/
theorem counts_lateReport : ∃ s t,
    (application consent).run 20 1 expectant (.opening reserved {} {} 0 ()) = some ((), s) ∧
    ((application consent).surroundings 20 1).operate (.flush false) s = some (.done, t) ∧
    s.flushing = 0 ∧ s.Counts 1 t (.flush false) ∧ t.flushing = s.flushing := by
  obtain ⟨s, t, hs, ht, -⟩ := exists_lateReport
  obtain ⟨hzero, -, hcounts⟩ := Application.counts_of_run hs
  exact ⟨s, t, hs, ht, hzero, hcounts ht⟩

/-- While the flush waits for the outcome, its hook is called, and no flush is in progress. -/
theorem uncounted_lateReport : ∃ s t J,
    (application consent).run 20 1 expectant (.opening reserved {} {} 0 ()) = some ((), s) ∧
    ((application consent).surroundings 20 1).operate (.flush false) s = some (.done, t) ∧
    t.journal = J ++ s.journal ∧ ∃ e ∈ J, e.event.tellsDelivery = true ∧ ¬ 1 ≤ e.flushing := by
  obtain ⟨s, t, hs, ht, hbefore, e, he, htells, hzero⟩ := exists_lateReport
  have hcounts := Surroundings.counts_operate ((application consent).passes_unflushed 20 1) ht
  obtain ⟨-, J, hJ, -⟩ := hcounts.restores
  refine ⟨s, t, J, hs, ht, hJ, e, ?_, htells, by omega⟩
  rw [hJ] at he
  refine (List.mem_append.mp he).resolve_right fun he => ?_
  simp [hbefore e he] at htells

end ScriptedBroker

end Outbox
