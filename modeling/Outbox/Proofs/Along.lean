import Outbox.Proofs.Walk

/-! What lies between the beginning of an action and its end, said by a relation of worlds that
    every world has to itself and that goes on where it ended. A relation that leads past each small
    thing that happens leads past all that a producer does. -/

namespace Outbox

namespace Act

variable {σ ρ α β : Type} {R : σ → σ → Prop}

/-- Wherever the action ends, `R` leads there. -/
structure Along (R : σ → σ → Prop) (x : Act σ α) : Prop where
  leads : ∀ {s a t}, x s = some (a, t) → R s t

/-- Every state has `R` to itself, and `R` goes on where it ended. -/
structure IsRoad (R : σ → σ → Prop) : Prop where
  refl : ∀ s, R s s
  trans : ∀ {s t u}, R s t → R t u → R s u

theorem Along.mono {R' : σ → σ → Prop} {x : Act σ α} (hx : x.Along R)
    (h : ∀ {s t}, R s t → R' s t) : x.Along R' :=
  ⟨fun hat => h (hx.leads hat)⟩

/-- The action is one step. -/
theorem Along.of_step {x : Act σ α} {f : σ → σ} (h : ∀ s, R s (f s))
    (hx : ∀ s, ∃ a, x s = some (a, f s)) : x.Along R := by
  refine ⟨fun {s a t} hat => ?_⟩
  obtain ⟨b, hb⟩ := hx s
  rw [hb, Option.some_inj, Prod.mk.injEq] at hat
  exact hat.2 ▸ h s

end Act

variable {β κ α : Type} {R : World β κ α → World β κ α → Prop}

theorem Act.IsRoad.composes (hR : Act.IsRoad R) :
    Composes fun _ (x : Work β κ α _) => x.Along R where
  pure a := .of_step hR.refl fun _ => ⟨a, rfl⟩
  stuck := ⟨fun h => by cases h⟩
  bind hx hf := by
    refine ⟨fun h => ?_⟩
    obtain ⟨a, t, hat, h⟩ := Act.bind_eq_some.mp h
    exact hR.trans (hx.leads hat) ((hf a).leads h)
  consult _ hf := ⟨fun {s _ _} h => (hf s.producer).leads h⟩

namespace Work

theorem along_takeRetry (hR : ∀ s : World β κ α, R s (s.amended fun p => { p with retry := {} })) :
    (takeRetry : Work β κ α Batch).Along R :=
  .of_step hR fun _ => ⟨_, rfl⟩

theorem along_takeRegular
    (hR : ∀ s : World β κ α, R s (s.amended fun p => { p with regular := {} })) :
    (takeRegular : Work β κ α Batch).Along R :=
  .of_step hR fun _ => ⟨_, rfl⟩

end Work

namespace Surroundings

variable {env : Surroundings β κ α}

/-- A step of a task lets the broker and the clock go on, and has a report dealt with. -/
theorem along_taskStep (hR : Act.IsRoad R) (hturned : ∀ s b clock, R s (s.turned b clock))
    (hreceived : ∀ r, (env.receive r).Along R) (task : env.client.Task) :
    (Site.taskStep env.client env.receive task : Work β κ α _).Along R := by
  refine ⟨fun {s o t} h => ?_⟩
  rcases hs : env.client.step task s.broker s.clock with ⟨step, b, clock⟩
  refine hR.trans (hturned s b clock) ?_
  cases step with
  | report r next =>
    rw [Site.taskStep_of_report hs] at h
    exact (hR.composes.bind (hreceived r) fun _ => hR.composes.pure _).leads h
  | more next =>
    rw [Site.taskStep_of_more hs, Option.some_inj, Prod.mk.injEq] at h
    exact h.2 ▸ hR.refl _
  | finished answer =>
    rw [Site.taskStep_of_finished hs, Option.some_inj, Prod.mk.injEq] at h
    exact h.2 ▸ hR.refl _

/-- So a task leads along `R` that is seen through. -/
theorem along_runTask (hR : Act.IsRoad R) (hturned : ∀ s b clock, R s (s.turned b clock))
    (hreceived : ∀ r, (env.receive r).Along R) (task : env.client.Task) :
    (Site.runTask env.client env.receive env.limit task : Work β κ α _).Along R :=
  hR.composes.loop (along_taskStep hR hturned hreceived) ..

/-- All that happens while the producer waits leads along `R`, if dealing with a report does. -/
theorem waits_along (hR : Act.IsRoad R) (hturned : ∀ s b clock, R s (s.turned b clock))
    (hturn : ∀ s {e : Event}, e.isTurn = true → R s (s.noted e))
    (hreceived : ∀ r, (env.receive r).Along R) :
    env.Waits fun _ (x : Work β κ α _) => x.Along R where
  toComposes := hR.composes
  readClock := .of_step (fun s => hturned s s.broker s.clock.read.2) fun _ => ⟨_, rfl⟩
  turn he := .of_step (fun s => hturn s he) fun _ => ⟨_, rfl⟩
  taskStep := along_taskStep hR hturned hreceived

/-- `R` leads past each small thing that decides what becomes of a message, and past the calls of
    hooks. -/
structure Decisive (env : Surroundings β κ α) (R : World β κ α → World β κ α → Prop) : Prop extends
    Act.IsRoad R where
  noted : ∀ s {e : Event}, e.isVerdict = true → R s (s.noted e)
  marked : ∀ s {k : Mark}, k.isVerdict = true → R s (s.marked k)
  released : ∀ s m, R s (s.retracked (·.release m))
  claimed : ∀ s id, R s (s.retracked (·.update id (·.claimRetry.2)))
  requeued : ∀ (s : World β κ α) (f : Buffer → Buffer),
    R s (s.amended fun p => { p with retry := f p.retry })
  fire : ∀ {kind}, kind ≠ .queueFull → ∀ m e, (env.fire kind m e).Along R

theorem Decisive.decides (hR : env.Decisive R) :
    env.Decides fun _ (x : Work β κ α _) => x.Along R where
  toComposes := hR.toIsRoad.composes
  conclude he := .of_step (fun s => hR.noted s he) fun _ => ⟨_, rfl⟩
  count hk := .of_step (fun s => hR.marked s hk) fun _ => ⟨_, rfl⟩
  release m := .of_step (fun s => hR.released s m) fun _ => ⟨_, rfl⟩
  claimRetry id := .of_step (fun s => hR.claimed s id) fun _ => ⟨_, rfl⟩
  requeue f := .of_step (fun s => hR.requeued s f) fun _ => ⟨_, rfl⟩
  fire := hR.fire

/-- `R` leads past each small thing that is done about a delivery report. -/
structure Receptive (env : Surroundings β κ α) (R : World β κ α → World β κ α → Prop) : Prop extends
    env.Decisive R where
  completed : ∀ s id o, R s (s.retracked (·.update id (·.complete o)))
  acknowledged : ∀ s m, R s (s.noted (.acknowledged m))
  settled : ∀ s, R s (s.marked .acknowledged)

theorem Receptive.acknowledges (hR : env.Receptive R) :
    env.Acknowledges fun _ (x : Work β κ α _) => x.Along R where
  toDecides := hR.toDecisive.decides
  complete id o := .of_step (fun s => hR.completed s id o) fun _ => ⟨_, rfl⟩
  acknowledge m := .of_step (fun s => hR.acknowledged s m) fun _ => ⟨_, rfl⟩
  settle := .of_step hR.settled fun _ => ⟨_, rfl⟩

/-- `R` leads past every small thing that happens within the operations of a producer, but for the
    counting of flushes, and past the calls of its hooks. -/
structure Passes (env : Surroundings β κ α) (R : World β κ α → World β κ α → Prop) : Prop extends
    Act.IsRoad R where
  turned : ∀ s b clock, R s (s.turned b clock)
  noted : ∀ s {e : Event}, e.isOwn = true → R s (s.noted e)
  marked : ∀ s {k : Mark}, k.isFlush = false → R s (s.marked k)
  retracked : ∀ s f, R s (s.retracked f)
  requeued : ∀ (s : World β κ α) (f : Buffer → Buffer),
    R s (s.amended fun p => { p with retry := f p.retry })
  fire : ∀ kind m e, (env.fire kind m e).Along R

theorem Passes.receptive (hR : env.Passes R) : env.Receptive R where
  toIsRoad := hR.toIsRoad
  noted s _ he := hR.noted s (Event.isOwn_of_isVerdict he)
  marked s _ hk := hR.marked s (Mark.isFlush_of_isVerdict hk)
  released s _ := hR.retracked s _
  claimed s _ := hR.retracked s _
  requeued := hR.requeued
  fire _ := hR.fire _
  completed s _ _ := hR.retracked s _
  acknowledged s _ := hR.noted s rfl
  settled s := hR.marked s rfl

theorem Passes.bears (hR : env.Passes R) : env.Bears fun _ (x : Work β κ α _) => x.Along R where
  toAcknowledges := hR.receptive.acknowledges
  readClock := .of_step (fun s => hR.turned s s.broker s.clock.read.2) fun _ => ⟨_, rfl⟩
  send m := .of_step (fun s => hR.turned s (env.client.send m s.broker).2 s.clock) fun _ => ⟨_, rfl⟩
  notify m := hR.fire .queueFull m none
  taskStep := along_taskStep hR.toIsRoad hR.turned
  record he := .of_step (fun s => hR.noted s he) fun _ => ⟨_, rfl⟩
  mark hk := .of_step (fun s => hR.marked s hk) fun _ => ⟨_, rfl⟩
  attach m sender budget := .of_step
    (fun s => hR.retracked s fun table => (table.attach m sender budget).2.2) fun _ => ⟨_, rfl⟩
  updateTracker id f := .of_step (fun s => hR.retracked s (·.update id f)) fun _ => ⟨_, rfl⟩
  arm id := .of_step (fun s => hR.retracked s (·.update id (·.arm.2))) fun _ => ⟨_, rfl⟩
  look id slot := .of_step
    (fun s => hR.retracked s (·.update id fun k => (k.receive slot).2)) fun _ => ⟨_, rfl⟩

end Surroundings

end Outbox
