import Outbox.Proofs.Inert
import Outbox.Proofs.Walk

/-! A buffer limit of zero means the same as a limit of one, since the limit is looked at only when
    a message has just been buffered. Main statement: if hooks do not look at the limit, deeds that
    are done with a limit of one in the place of zero have the same replies, and lead to the same
    world but for the limit; and if one of two runs does not end, neither does the other. -/

namespace Outbox

namespace Act

variable {σ α β : Type} {g : σ → σ}

/-- From what `g` makes of a state the action goes the same way as from the state itself. -/
structure Ignores (g : σ → σ) (x : Act σ α) : Prop where
  eq : ∀ s, x (g s) = (x s).map fun p => (p.1, g p.2)

theorem Ignores.bind {x : Act σ α} {f : α → Act σ β} (hx : x.Ignores g)
    (hf : ∀ a, (f a).Ignores g) : (x >>= f).Ignores g := by
  refine ⟨fun s => ?_⟩
  have hg := hx.eq s
  cases h : x s with
  | none =>
    rw [h, Option.map_none] at hg
    rw [bind_eq_none h, bind_eq_none hg, Option.map_none]
  | some p =>
    obtain ⟨a, t⟩ := p
    rw [h, Option.map_some] at hg
    rw [bind_eq h, bind_eq hg]
    exact (hf a).eq t

end Act

variable {β κ α ο : Type}

/-- One in the place of zero. -/
def relimit (n : Int) : Int := if n = 0 then 1 else n

/-- The producer with a limit of one if it has a limit of zero. -/
def Producer.relimited (p : Producer κ) : Producer κ :=
  p.setBufferLimit (relimit p.settings.bufferLimit)

/-- The world with such a producer. -/
def Site.relimited (s : World β κ α) : World β κ α := s.amended Producer.relimited

/-- The operation that sets a limit of one in the place of zero. -/
def Operation.relimited : Operation Message → Operation Message
  | setBufferLimit n => setBufferLimit (relimit n)
  | op => op

def Deed.relimited : Deed κ α ο → Deed κ α ο
  | operate op => operate op.relimited
  | deed => deed

/-- The conduct does not look at the limit, and does not set one of zero. -/
inductive Conduct.Limitless : Conduct β κ α ο → Prop where
  | answer (v : Bool) : Limitless (.answer v)
  | see {next : World β κ α → Conduct β κ α ο} (hnext : ∀ s, next s.relimited = next s)
      (h : ∀ s, Limitless (next s)) : Limitless (.see next)
  | act {deed : Deed κ α ο} {next : Reply → Conduct β κ α ο} (hd : deed.relimited = deed)
      (h : ∀ r, Limitless (next r)) : Limitless (.act deed next)

/-- Where something is buffered, a limit of one is reached if a limit of zero is. -/
theorem Producer.overfull_relimited {p : Producer κ} (hp : 0 < p.buffered) :
    p.relimited.overfull = p.overfull := by
  have hbuffered : p.relimited.buffered = p.buffered := rfl
  have hlimit : p.relimited.settings.bufferLimit = relimit p.settings.bufferLimit := rfl
  rw [overfull, overfull, hlimit, hbuffered, relimit]
  by_cases hn : p.settings.bufferLimit = 0
  · have hone : (1 : Int) ≤ p.buffered := by omega
    simp [hn, hone]
  · rw [if_neg hn]

namespace Site

theorem relimited_enroll (s : World β κ α) (m : Message) :
    s.relimited.enroll m = ((s.enroll m).1, (s.enroll m).2.relimited) := by
  have htracking : (s.relimited.noted (.submitted m)).producer.tracking =
      (s.noted (.submitted m)).producer.tracking := rfl
  rw [enroll, enroll, htracking]
  split <;> rfl

theorem relimited_stored (s : World β κ α) (m : Message) :
    s.relimited.stored m = (s.stored m).relimited := by
  rw [stored, relimited_enroll]
  rfl

/-- A message that comes in changes nothing of the producer but the trackers. -/
theorem producer_enroll (s : World β κ α) (m : Message) :
    (s.enroll m).2.producer = { s.producer with trackers := (s.enroll m).2.trackers } := by
  rw [enroll]
  split <;> rfl

theorem buffered_stored (s : World β κ α) (m : Message) :
    (s.stored m).producer.buffered = s.producer.buffered + 1 := by
  have hregular : (s.stored m).producer.regular =
      (s.enroll m).2.producer.regular.pushBack (s.enroll m).1 := rfl
  have hretry : (s.stored m).producer.retry = (s.enroll m).2.producer.retry := rfl
  rw [Producer.buffered, hregular, hretry, ← Buffer.length_messages, Buffer.messages_pushBack,
    List.length_append, Buffer.length_messages, List.length_singleton, producer_enroll]
  exact Nat.add_right_comm ..

end Site

namespace Surroundings

/-- It does not matter for an action whether the limit is zero or one. -/
def Unlimited (ρ : Type) (x : Work β κ α ρ) : Prop := x.Ignores Site.relimited

theorem composes_unlimited : Composes (Unlimited (β := β) (κ := κ) (α := α)) where
  pure _ := ⟨fun _ => rfl⟩
  stuck := ⟨fun _ => rfl⟩
  bind hx hf := hx.bind hf
  consult {ρ f} h hf := by
    refine ⟨fun s => ?_⟩
    have hproducer : s.relimited.producer = s.producer.relimited := rfl
    rw [Work.producer_bind, Work.producer_bind, hproducer, Producer.relimited, h]
    exact (hf s.producer).eq s

variable {env : Surroundings β κ α}

theorem unlimited_taskStep (hreceive : ∀ r, Unlimited _ (env.receive r)) (task : env.client.Task) :
    Unlimited _ (Site.taskStep env.client env.receive task) := by
  refine ⟨fun s => ?_⟩
  rcases hs : env.client.step task s.broker s.clock with ⟨step, b, clock⟩
  have hs' : env.client.step task s.relimited.broker s.relimited.clock = (step, b, clock) := hs
  cases step with
  | report r next =>
    rw [Site.taskStep_of_report hs, Site.taskStep_of_report hs']
    have hnext := composes_unlimited.bind (hreceive r) fun _ =>
      composes_unlimited.pure (.inl next : env.client.Task ⊕ BrokerAnswer)
    exact hnext.eq (s.turned b clock)
  | more next =>
    rw [Site.taskStep_of_more hs, Site.taskStep_of_more hs']
    rfl
  | finished answer =>
    rw [Site.taskStep_of_finished hs, Site.taskStep_of_finished hs']
    rfl

theorem unlimited_fire (hcall : ∀ hook kind m e, Unlimited _ (env.call hook kind m e))
    (kind : HookKind) (m : Message) (e : Option BrokerError) :
    Unlimited _ (env.fire kind m e) := by
  refine composes_unlimited.consult (fun _ _ => rfl) fun p => ?_
  cases p.hooks.find? kind with
  | none => exact composes_unlimited.pure none
  | some hook =>
    refine .bind ⟨fun _ => rfl⟩ fun _ => (hcall hook kind m e).bind fun verdict => ?_
    exact .bind ⟨fun _ => rfl⟩ fun _ => composes_unlimited.pure _

/-- If hooks do not mind, nothing does but the buffering of messages. -/
theorem bears_unlimited
    (hcall : ∀ hook kind m e, Unlimited _ (env.call hook kind m e)) : env.Bears Unlimited where
  toComposes := composes_unlimited
  conclude _ := ⟨fun _ => rfl⟩
  count _ := ⟨fun _ => rfl⟩
  release _ := ⟨fun _ => rfl⟩
  claimRetry _ := ⟨fun _ => rfl⟩
  requeue _ := ⟨fun _ => rfl⟩
  complete _ _ := ⟨fun _ => rfl⟩
  acknowledge _ := ⟨fun _ => rfl⟩
  settle := ⟨fun _ => rfl⟩
  readClock := ⟨fun _ => rfl⟩
  send _ := ⟨fun _ => rfl⟩
  taskStep := unlimited_taskStep
  record _ := ⟨fun _ => rfl⟩
  mark _ := ⟨fun _ => rfl⟩
  attach _ _ _ := ⟨fun _ => rfl⟩
  updateTracker _ _ := ⟨fun _ => rfl⟩
  arm _ := ⟨fun _ => rfl⟩
  look _ _ := ⟨fun _ => rfl⟩
  fire _ := unlimited_fire hcall _
  notify _ := unlimited_fire hcall _ _ _

/-- A limit of one is set as a limit of zero is. -/
theorem setBufferLimit_relimit (n : Int) (s : World β κ α) :
    env.operate (.setBufferLimit (relimit n)) s.relimited =
      (env.operate (.setBufferLimit n) s).map fun p => (p.1, p.2.relimited) := by
  by_cases hn : n < -1
  · have hrelimit : relimit n = n := if_neg (by omega)
    simp only [operate, Work.setBufferLimit, Settings.checkBufferLimit, hrelimit, if_pos hn]
    rfl
  · have hrelimit : ¬ relimit n < -1 := by
      rw [relimit]
      split <;> omega
    simp only [operate, Work.setBufferLimit, Settings.checkBufferLimit, if_neg hrelimit, if_neg hn]
    rfl

section

variable (hJ : env.Bears Unlimited)
include hJ

theorem unlimited_flushAsync : Unlimited _ env.flushAsync :=
  .bind ⟨fun _ => rfl⟩ fun _ => .bind (hJ.attends.push ⟨fun _ => rfl⟩ ⟨fun _ => rfl⟩) fun _ =>
    .bind ⟨fun _ => rfl⟩ fun _ => hJ.pure _

theorem unlimited_flushInOrder (timeout : Option Span) :
    Unlimited _ (env.flushInOrder timeout) := by
  refine .bind ⟨fun _ => rfl⟩ fun _ => .bind (.bind ⟨fun _ => rfl⟩ fun retries => ?_) fun _ =>
    .bind ⟨fun _ => rfl⟩ fun _ => hJ.pure _
  refine .bind ⟨fun _ => rfl⟩ fun batch => .bind ⟨fun _ => rfl⟩ fun start => ?_
  exact (hJ.attends.sendInOrder ..).bind fun _ => .bind ⟨fun _ => rfl⟩ fun _ => hJ.pure _

theorem unlimited_flush (inOrder : Bool) : Unlimited _ (env.flush inOrder) := by
  cases inOrder with
  | false =>
    rw [flush_false]
    exact flushAnd_of hJ.toComposes (unlimited_flushAsync hJ) hJ.attends.awaitAcks
  | true => exact (unlimited_flushInOrder hJ none).bind fun _ => hJ.pure _

theorem unlimited_flushFor (timeout : Span) (inOrder : Bool) :
    Unlimited _ (env.flushFor timeout inOrder) := by
  cases inOrder with
  | false =>
    rw [flushFor_false]
    exact flushAnd_of hJ.toComposes (unlimited_flushAsync hJ) (hJ.attends.awaitAcksFor timeout)
  | true => exact unlimited_flushInOrder hJ (some timeout)

/-- The message that was just buffered reaches a limit of one as well as a limit of zero. -/
theorem unlimited_add (m : Message) : Unlimited _ (env.add m) := by
  refine ⟨fun s => ?_⟩
  have hfull : (s.relimited.stored m).producer.overfull = (s.stored m).producer.overfull := by
    have hbuffered := s.buffered_stored m
    rw [Site.relimited_stored]
    exact Producer.overfull_relimited (p := (s.stored m).producer) (by omega)
  have hmode : (s.relimited.stored m).producer.settings.flushMode =
      (s.stored m).producer.settings.flushMode := by
    rw [Site.relimited_stored]
    rfl
  rw [add_eq, add_eq, hfull, hmode, Site.relimited_stored]
  split
  · split
    · exact (unlimited_flush hJ false).eq _
    · exact (unlimited_flushAsync hJ).eq _
  · rfl

/-- An operation with a limit of one goes as it does with a limit of zero. -/
theorem operate_relimited (op : Operation Message) (s : World β κ α) :
    env.operate op.relimited s.relimited =
      (env.operate op s).map fun p => (p.1, p.2.relimited) := by
  have hreply {ρ : Type} {x : Work β κ α ρ} (f : ρ → Reply) (hx : Unlimited _ x) :
      Unlimited _ (do return f (← x)) := hx.bind fun _ => hJ.pure _
  cases op with
  | add m => exact (hreply _ (unlimited_add hJ m)).eq s
  | produce m => exact (hreply _ (hJ.produce m)).eq s
  | produceSync m => exact (hreply _ (hJ.produceSync m)).eq s
  | flushAsync => exact (hreply _ (unlimited_flushAsync hJ)).eq s
  | flush inOrder => exact (hreply _ (unlimited_flush hJ inOrder)).eq s
  | flushFor timeout inOrder => exact (hreply _ (unlimited_flushFor hJ timeout inOrder)).eq s
  | awaitAcks => exact (hreply _ hJ.attends.awaitAcks).eq s
  | awaitAcksFor timeout => exact (hreply _ (hJ.attends.awaitAcksFor timeout)).eq s
  | clear => exact (hreply (fun _ => .done) (hJ.clear ⟨fun _ => rfl⟩ ⟨fun _ => rfl⟩)).eq s
  | setBufferLimit n => exact (setBufferLimit_relimit n s)
  | setFlushMode _ | setRetryBudget _ | setFullQueueNotice _ => rfl

end

end Surroundings

namespace Application

variable (app : Application β κ α ο)

/-- No hook looks at the limit. -/
def Limitless : Prop := ∀ hook kind m e, (app.conduct hook kind m e).Limitless

variable {app}

theorem perform_relimited {env : Surroundings β κ α} (hJ : env.Bears Surroundings.Unlimited)
    (deed : Deed κ α ο) (s : World β κ α) :
    app.perform env deed.relimited s.relimited =
      (app.perform env deed s).map fun p => (p.1, p.2.relimited) := by
  cases deed with
  | operate op => exact Surroundings.operate_relimited hJ op s
  | pollBroker => exact (hJ.bind hJ.attends.poll fun _ => hJ.pure _).eq s
  | flushBroker timeout =>
    exact (hJ.bind (hJ.attends.flushBroker timeout) fun _ => hJ.pure _).eq s
  | register _ _ | instruct _ | sleep _ | think _ => rfl

theorem unlimited_seeThrough {env : Surroundings β κ α} (hJ : env.Bears Surroundings.Unlimited)
    {c : Conduct β κ α ο} (hc : c.Limitless) :
    Surroundings.Unlimited _ (c.seeThrough (app.perform env)) := by
  induction hc with
  | answer v => exact hJ.pure v
  | see hnext _ ih =>
    refine ⟨fun s => ?_⟩
    rw [Conduct.seeThrough, Site.get_bind, Site.get_bind, hnext]
    exact (ih s).eq s
  | @act deed next hd _ ih =>
    refine hJ.bind ⟨fun s => ?_⟩ ih
    rw [← perform_relimited hJ, hd]

/-- Where no hook looks at the limit, it matters for none of them. -/
theorem bears_unlimited (happ : app.Limitless) (limit depth : Nat) :
    (app.surroundings limit depth).Bears Surroundings.Unlimited := by
  induction depth with
  | zero => exact Surroundings.bears_unlimited fun _ _ _ _ => ⟨fun _ => rfl⟩
  | succ depth ih =>
    exact Surroundings.bears_unlimited fun hook kind m e =>
      unlimited_seeThrough ih (happ hook kind m e)

/-- Deeds that are done with a limit of one in the place of zero have the same replies, and lead to
    the same world but for the limit. -/
theorem transcript_relimited (happ : app.Limitless) (limit depth : Nat) (deeds : List (Deed κ α ο))
    (s : World β κ α) :
    app.transcript limit depth (deeds.map Deed.relimited) s.relimited =
      (app.transcript limit depth deeds s).map fun p => (p.1, p.2.relimited) := by
  induction deeds generalizing s with
  | nil => rfl
  | cons deed deeds ih =>
    have hdeed : app.perform _ deed.relimited s.relimited = _ :=
      perform_relimited (bears_unlimited happ limit depth) deed s
    rw [List.map_cons, transcript, transcript]
    cases h : app.perform (app.surroundings limit depth) deed s with
    | none =>
      rw [h, Option.map_none] at hdeed
      rw [Act.bind_eq_none h, Act.bind_eq_none hdeed, Option.map_none]
    | some p =>
      obtain ⟨r, t⟩ := p
      rw [h, Option.map_some] at hdeed
      rw [Act.bind_eq h, Act.bind_eq hdeed]
      cases ht : app.transcript limit depth deeds t with
      | none =>
        have ht' := ih t
        rw [ht, Option.map_none] at ht'
        rw [Act.bind_eq_none ht, Act.bind_eq_none ht', Option.map_none]
      | some p =>
        have ht' := ih t
        rw [ht, Option.map_some] at ht'
        rw [Act.bind_eq ht, Act.bind_eq ht']
        rfl

end Application

end Outbox
