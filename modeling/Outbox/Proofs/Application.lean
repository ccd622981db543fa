import Outbox.Proofs.Moves.Operation

/-! An application at a site. It does one deed after another: it carries out operations, registers
    hooks, turns to the broker directly or tells it something from outside. Its hooks may do the
    same, and decide what to do by all that they can see: what a hook does is a conduct, a program
    over deeds that ends with the hook's answer. Deeds of hooks may call hooks in turn, so what a
    hook means is defined over the depth to which hooks are nested; a run that nests them deeper
    does not end.

    Main statement: whatever an application does is a sequence of moves. -/

namespace Outbox

/-- One thing that an application does; `ο` is what its broker can be told. -/
inductive Deed (κ α ο : Type) where
  | operate (op : Operation Message)
  | register (kind : HookKind) (hook : κ)
  | pollBroker
  | flushBroker (timeout : Span)
  | instruct (o : ο)
  | sleep (s : Span)
  | think (f : α → α)

/-- What a hook does when it is called. -/
inductive Conduct (β κ α ο : Type) where
  | answer (v : Bool)
  /-- Look around. -/
  | see (next : World β κ α → Conduct β κ α ο)
  /-- Do something, and go on by the reply. -/
  | act (deed : Deed κ α ο) (next : Reply → Conduct β κ α ο)

structure Application (β κ α ο : Type) where
  client : Client β
  /-- The broker after it was told something at some time. -/
  tell : ο → Clock → β → β
  /-- What a hook does with what it is told. -/
  conduct : κ → HookKind → Message → Option BrokerError → Conduct β κ α ο

namespace Deed

/-- A deed that does not turn to the producer, and to the broker only to tell it something. -/
def isQuiet {κ α ο : Type} : Deed κ α ο → Bool
  | instruct _ | sleep _ | think _ => true
  | operate _ | register .. | pollBroker | flushBroker _ => false

end Deed

namespace Conduct

variable {β κ α ο : Type}

/-- See a conduct through, where `perform` is what it means to do a deed. -/
def seeThrough (perform : Deed κ α ο → Work β κ α Reply) : Conduct β κ α ο → Work β κ α Bool
  | answer v => return v
  | see next => do (next (← get)).seeThrough perform
  | act deed next => do (next (← perform deed)).seeThrough perform

/-- Every deed of the conduct is quiet, whatever it sees and whatever comes of its deeds. -/
inductive Quiet : Conduct β κ α ο → Prop where
  | answer (v : Bool) : Quiet (.answer v)
  | see {next : World β κ α → Conduct β κ α ο} (h : ∀ s, Quiet (next s)) : Quiet (.see next)
  | act {deed : Deed κ α ο} {next : Reply → Conduct β κ α ο} (hd : deed.isQuiet = true)
      (h : ∀ r, Quiet (next r)) : Quiet (.act deed next)

end Conduct

namespace Application

variable {β κ α ο : Type} (app : Application β κ α ο)

/-- Do a deed. -/
def perform (env : Surroundings β κ α) : Deed κ α ο → Work β κ α Reply
  | .operate op => env.operate op
  | .register kind hook => do
    Work.modifyProducer (·.setHook kind hook)
    return .done
  | .pollBroker => do
    env.poll
    return .done
  | .flushBroker timeout => return .ofBroker (← env.flushBroker timeout)
  | .instruct o => do
    modify fun s => { s with broker := app.tell o s.clock s.broker }
    return .done
  | .sleep d => do
    modify fun s => { s with clock := s.clock.sleep d }
    return .done
  | .think f => do
    modify fun s => { s with owner := { s.owner with app := f s.owner.app } }
    return .done

/-- What it means to call a hook, when loops have `limit` rounds and hooks may be nested so deep. -/
def called (limit : Nat) : Nat → κ → HookKind → Message → Option BrokerError → Work β κ α Bool
  | 0 => fun _ _ _ _ => Act.stuck
  | depth + 1 => fun hook kind m e =>
    (app.conduct hook kind m e).seeThrough
      (app.perform { client := app.client, limit := limit, call := called limit depth })

/-- What the producer works with. -/
def surroundings (limit depth : Nat) : Surroundings β κ α :=
  { client := app.client, limit := limit, call := app.called limit depth }

/-- Do one deed after another. -/
def run (limit depth : Nat) (deeds : List (Deed κ α ο)) : Work β κ α Unit :=
  deeds.forM fun deed => do
    let _ ← app.perform (app.surroundings limit depth) deed

/-- The application never turns to the producer from within a hook. -/
def Quiet : Prop := ∀ hook kind m e, (app.conduct hook kind m e).Quiet

/-- What the broker may suffer from outside. -/
def Told (b b' : β) : Prop := ∃ o clock, b' = app.tell o clock b

/-- All that the application does is possible under the law. -/
structure Obeys (law : Law) : Prop where
  failing : app.client.MayFail → law.failing
  nested : app.Quiet ∨ law.nested

end Application

/-- A site where nothing has happened yet. -/
def Site.opening {β κ α : Type} (b : β) (clock : Clock) (settings : Settings) (scope : Nat)
    (a : α) : World β κ α :=
  { broker := b, clock := clock, owner := { producer := .start settings scope, app := a } }

/-! ### Deeds are sequences of moves -/

namespace Application

variable {β κ α ο : Type} {app : Application β κ α ο} {env : Surroundings β κ α} {law : Law}
  {s t : World β κ α} {H : Multiset (Place × Message)} {W : Multiset (Nat × Message)}

/-- A deed that is quiet is no business of the producer's. -/
theorem leads_quiet {c : Client β} {T : List c.Task} {deed : Deed κ α ο} {r : Reply}
    (hd : deed.isQuiet = true) (h : app.perform env deed s = some (r, t)) :
    Leads c app.Told law (⟨T, H, W, ·, s⟩) (⟨T, H, W, ·, t⟩) := by
  cases deed with
  | instruct o =>
    obtain ⟨-, rfl⟩ := Act.pure_eq_some.mp h
    exact .move fun _ => .outside rfl rfl (.inr ⟨o, s.clock, rfl⟩)
  | sleep d =>
    obtain ⟨-, rfl⟩ := Act.pure_eq_some.mp h
    exact .move fun _ => .outside rfl rfl (.inl rfl)
  | think f =>
    obtain ⟨-, rfl⟩ := Act.pure_eq_some.mp h
    exact .move fun _ => .outside rfl rfl (.inl rfl)
  | operate _ | register _ _ | pollBroker | flushBroker _ => simp [Deed.isQuiet] at hd

theorem ends_perform {T : List env.client.Task} (henv : env.Tame app.Told law)
    (hn : law.nested ∨ Idle H W) {deed : Deed κ α ο}
    {r : Reply} (h : app.perform env deed s = some (r, t)) :
    env.Ends app.Told law (⟨T, H, W, ·, s⟩) T H W t := by
  cases deed with
  | operate op => exact (Surroundings.leaves_operate henv hn h).1
  | register kind hook =>
    rw [perform, Work.modifyProducer_bind] at h
    obtain ⟨-, rfl⟩ := Act.pure_eq_some.mp h
    exact .inl (.move fun _ => .adjust (Surroundings.spares_setHook kind hook))
  | pollBroker =>
    obtain ⟨_, h, -⟩ := Work.of_reply (f := fun _ => Reply.done) h
    exact .inl (Surroundings.leads_poll henv h)
  | flushBroker timeout =>
    obtain ⟨answer, h, -⟩ := Work.of_reply h
    exact .inl (Surroundings.leads_flushBroker henv h).2
  | instruct _ | sleep _ | think _ => exact .inl (leads_quiet rfl h)

/-- A conduct is a sequence of moves if its deeds are. -/
theorem leads_seeThrough {c : Client β} {T : List c.Task} {perform : Deed κ α ο → Work β κ α Reply}
    (hperform : ∀ {deed s r t}, perform deed s = some (r, t) →
      Leads c app.Told law (⟨T, H, W, ·, s⟩) (⟨T, H, W, ·, t⟩))
    {conduct : Conduct β κ α ο} {v : Bool} (h : conduct.seeThrough perform s = some (v, t)) :
    Leads c app.Told law (⟨T, H, W, ·, s⟩) (⟨T, H, W, ·, t⟩) := by
  induction conduct generalizing s with
  | answer v =>
    obtain ⟨-, rfl⟩ := Act.pure_eq_some.mp h
    exact .refl
  | see next ih =>
    rw [Conduct.seeThrough, Site.get_bind] at h
    exact ih s h
  | act deed next ih =>
    rw [Conduct.seeThrough, Act.bind_eq_some] at h
    obtain ⟨r, u, hdeed, h⟩ := h
    exact (hperform hdeed).trans (ih r h)

/-- A conduct whose deeds are quiet is no business of the producer's. -/
theorem leads_seeThrough_quiet {c : Client β} {T : List c.Task} {conduct : Conduct β κ α ο}
    (hq : conduct.Quiet) {v : Bool} (h : conduct.seeThrough (app.perform env) s = some (v, t)) :
    Leads c app.Told law (⟨T, H, W, ·, s⟩) (⟨T, H, W, ·, t⟩) := by
  induction hq generalizing s with
  | answer v =>
    obtain ⟨-, rfl⟩ := Act.pure_eq_some.mp h
    exact .refl
  | see hnext ih =>
    rw [Conduct.seeThrough, Site.get_bind] at h
    exact ih s h
  | act hd hnext ih =>
    rw [Conduct.seeThrough, Act.bind_eq_some] at h
    obtain ⟨r, u, hdeed, h⟩ := h
    exact (leads_quiet hd hdeed).trans (ih r h)

/-- Hooks that leave the producer alone make no caller wait, and give none up. -/
theorem tame_of_quiet (hq : app.Quiet) (limit depth : Nat) :
    (app.surroundings limit depth).Tame app.Told law := by
  intro hook kind m e s v t h T H W
  cases depth with
  | zero => simp [surroundings, called, Act.stuck] at h
  | succ depth => exact leads_seeThrough_quiet (hq hook kind m e) h

theorem tame_surroundings (ho : app.Obeys law) (limit depth : Nat) :
    (app.surroundings limit depth).Tame app.Told law := by
  rcases ho.nested with hq | hn
  · exact tame_of_quiet hq limit depth
  induction depth with
  | zero =>
    intro hook kind m e s v t h
    simp [surroundings, called, Act.stuck] at h
  | succ depth ih =>
    intro hook kind m e s v t h T H W
    exact leads_seeThrough (fun hdeed => (ends_perform ih (.inl hn) hdeed).leads ho.failing) h

theorem run_cons {limit depth : Nat} {deed : Deed κ α ο} {deeds : List (Deed κ α ο)} {v : Unit}
    (h : app.run limit depth (deed :: deeds) s = some (v, t)) :
    ∃ r u, app.perform (app.surroundings limit depth) deed s = some (r, u) ∧
      app.run limit depth deeds u = some (v, t) := by
  simp only [run, List.forM_eq_forM, List.forM_cons, bind_assoc,
    Act.bind_eq_some (x := app.perform _ deed), pure_bind] at h
  exact h

theorem run_cons_of_perform {limit depth : Nat} {deed : Deed κ α ο} {deeds : List (Deed κ α ο)}
    {r : Reply} (h : app.perform (app.surroundings limit depth) deed s = some (r, t)) :
    app.run limit depth (deed :: deeds) s = app.run limit depth deeds t := by
  simp only [run, List.forM_eq_forM, List.forM_cons, bind_assoc, Act.bind_eq h, pure_bind]

/-- A run goes on where it ended. -/
theorem run_append {limit depth : Nat} {deeds more : List (Deed κ α ο)}
    (h : app.run limit depth deeds s = some ((), t)) :
    app.run limit depth (deeds ++ more) s = app.run limit depth more t := by
  induction deeds generalizing s with
  | nil =>
    obtain ⟨-, rfl⟩ := Act.pure_eq_some.mp h
    rfl
  | cons deed deeds ih =>
    obtain ⟨r, u, hdeed, h⟩ := run_cons h
    rw [List.cons_append, run_cons_of_perform hdeed]
    exact ih h

/-- A run that was looked at ends, and where it ends `p` was found to be true. -/
theorem exists_run {limit depth : Nat} {deeds : List (Deed κ α ο)} {p : World β κ α → Bool}
    (h : (app.run limit depth deeds s).any (fun r => p r.2) = true) :
    ∃ t, app.run limit depth deeds s = some ((), t) ∧ p t = true := by
  obtain ⟨⟨⟨⟩, t⟩, ht, hp⟩ := (Option.any_eq_true ..).mp h
  exact ⟨t, ht, hp⟩

/-- A run is a sequence of moves. -/
theorem leads_run (ho : app.Obeys law) (hn : law.nested ∨ Idle H W) {limit depth : Nat}
    {deeds : List (Deed κ α ο)} {v : Unit} {T : List app.client.Task}
    (h : app.run limit depth deeds s = some (v, t)) :
    Leads app.client app.Told law (⟨T, H, W, ·, s⟩) (⟨T, H, W, ·, t⟩) := by
  induction deeds generalizing s with
  | nil =>
    obtain ⟨-, rfl⟩ := Act.pure_eq_some.mp h
    exact .refl
  | cons deed deeds ih =>
    obtain ⟨_, u, hdeed, h⟩ := run_cons h
    exact ((ends_perform (tame_surroundings ho limit depth) hn hdeed).leads ho.failing).trans (ih h)

/-- A run that begins with a message that is added or produced goes on from where the message was
    enrolled. -/
theorem leads_handed (ho : app.Obeys law) (hn : law.nested ∨ Idle H W) {limit depth : Nat}
    {op : Operation Message} {m : Message} (hop : op = .add m ∨ op = .produce m)
    {deeds : List (Deed κ α ο)} {v : Unit} {T : List app.client.Task}
    (h : app.run limit depth (.operate op :: deeds) s = some (v, t)) :
    Leads app.client app.Told law
      (⟨T, (.ready none, (s.enroll m).1) ::ₘ H, W, ·, (s.enroll m).2⟩) (⟨T, H, W, ·, t⟩) := by
  obtain ⟨reply, u, hdeed, h⟩ := run_cons h
  refine .trans ?_ (leads_run ho hn h)
  have htame := tame_surroundings ho limit depth
  rcases hop with rfl | rfl
  · obtain ⟨r, hadd, -⟩ := Work.of_reply hdeed
    exact Surroundings.leads_add htame hadd
  · obtain ⟨r, hproduce, -⟩ := Work.of_reply hdeed
    exact Surroundings.leads_produce htame hproduce

/-- What each move keeps is true at every return to the outermost caller. -/
theorem holds_of_run {P : Scene app.client κ α → Prop} {b : β} {clock : Clock}
    {settings : Settings} {scope : Nat} {a : α} {limit depth : Nat} {deeds : List (Deed κ α ο)}
    (hmove : ∀ {S S'}, Move app.client app.Told ⟨True, True⟩ S S' → P S → P S')
    (hstart : P ⟨[], 0, 0, 0, .opening b clock settings scope a⟩)
    (h : app.run limit depth deeds (.opening b clock settings scope a) = some ((), s)) :
    ∃ M, P ⟨[], 0, 0, M, s⟩ := by
  have ho : app.Obeys ⟨True, True⟩ := ⟨fun _ => trivial, .inr trivial⟩
  obtain ⟨M, hmoves⟩ := leads_run (T := []) (H := 0) (W := 0) ho (.inl trivial) h 0
  have hkeeps : ∀ {S}, Relation.ReflTransGen (Move app.client app.Told ⟨True, True⟩)
      ⟨[], 0, 0, 0, .opening b clock settings scope a⟩ S → P S := by
    intro S hmoves
    induction hmoves with
    | refl => exact hstart
    | tail _ h ih => exact hmove h ih
  exact ⟨M, hkeeps hmoves⟩

end Application

end Outbox
