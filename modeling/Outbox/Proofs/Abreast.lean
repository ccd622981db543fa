import Outbox.Proofs.Erasure

/-! Two runs side by side. Two actions keep abreast if neither or both of them end, and then in
    related states with related results. Main statement: every operation of a producer at a broker
    in memory, begun in two worlds that are alike up to ids that mean nothing, keeps abreast of
    itself, comes to the same result, and leaves the worlds alike. -/

namespace Outbox

namespace Act

variable {σ α α' β β' ρ ρ' : Type}

/-- The actions end both, in states and with results related by `Q`, or none of them ends. -/
def Abreast (x : Act σ α) (x' : Act σ α') (s s' : σ) (Q : α → α' → σ → σ → Prop) : Prop :=
  Option.Rel (fun p p' => Q p.1 p'.1 p.2 p'.2) (x s) (x' s')

namespace Abreast

variable {x : Act σ α} {x' : Act σ α'} {f : α → Act σ β} {f' : α' → Act σ β'} {s s' : σ}
  {P Q : α → α' → σ → σ → Prop} {R : β → β' → σ → σ → Prop}

theorem of_eq {y : Act σ α} {y' : Act σ α'} {u u' : σ} (h : x s = y u) (h' : x' s' = y' u')
    (hy : Abreast y y' u u' Q) : Abreast x x' s s' Q := by
  rw [Abreast, h, h']
  exact hy

theorem pure {a : α} {a' : α'} (h : Q a a' s s') :
    Abreast (Pure.pure a) (Pure.pure a' : Act σ α') s s' Q :=
  .some h

theorem stuck : Abreast (stuck : Act σ α) (Act.stuck : Act σ α') s s' Q := .none

theorem mono (hx : Abreast x x' s s' P) (h : ∀ a a' t t', P a a' t t' → Q a a' t t') :
    Abreast x x' s s' Q := by
  unfold Abreast at *
  generalize x s = o, x' s' = o' at hx ⊢
  cases hx with
  | none => exact .none
  | some hx => exact .some (h _ _ _ _ hx)

theorem bind (hx : Abreast x x' s s' P)
    (hf : ∀ a a' t t', P a a' t t' → Abreast (f a) (f' a') t t' R) :
    Abreast (x >>= f) (x' >>= f') s s' R := by
  unfold Abreast at *
  simp only [Bind.bind, StateT.bind]
  generalize x s = o, x' s' = o' at hx ⊢
  cases hx with
  | none => exact .none
  | some hx => exact hf _ _ _ _ hx

/-- Where the first action ends is where it was seen to end. -/
theorem retain (hx : Abreast x x' s s' P) :
    Abreast x x' s s' fun a a' t t' => P a a' t t' ∧ x s = some (a, t) := by
  unfold Abreast at *
  generalize x s = o, x' s' = o' at hx ⊢
  cases hx with
  | none => exact .none
  | some hx => exact .some ⟨hx, rfl⟩

/-- Two loops keep abreast if their rounds do. -/
theorem loop {body : ρ → Act σ (ρ ⊕ α)} {body' : ρ' → Act σ (ρ' ⊕ α')}
    {P : ρ → ρ' → σ → σ → Prop}
    (h : ∀ r r' s s', P r r' s s' → Abreast (body r) (body' r') s s' fun o o' t t' =>
      (∃ r r', o = .inl r ∧ o' = .inl r' ∧ P r r' t t') ∨
      (∃ a a', o = .inr a ∧ o' = .inr a' ∧ Q a a' t t')) :
    ∀ (n : Nat) (r : ρ) (r' : ρ') (s s' : σ), P r r' s s' →
      Abreast (Act.loop body n r) (Act.loop body' n r') s s' Q := by
  intro n
  induction n with
  | zero => exact fun _ _ _ _ _ => .none
  | succ n ih =>
    intro r r' s s' hP
    refine (h r r' s s' hP).bind fun o o' t t' ho => ?_
    rcases ho with ⟨r, r', rfl, rfl, hP⟩ | ⟨a, a', rfl, rfl, hQ⟩
    · exact ih r r' t t' hP
    · exact .pure hQ

end Abreast

end Act

open Act (Abreast)

variable {κ α : Type}

/-- The results are the same, and the worlds are alike. -/
def Same {ρ : Type} (I : TrackingId → Prop) (a a' : ρ) (t t' : World MemoryBroker κ α) : Prop :=
  a' = a ∧ Site.Alike I t t'

section

variable {ρ ρ' γ : Type} {I : TrackingId → Prop} {s s' : World MemoryBroker κ α}
  {R : ρ → ρ' → World MemoryBroker κ α → World MemoryBroker κ α → Prop}

/-- What follows in both worlds follows the same result. -/
theorem Act.Abreast.same {x x' : Work MemoryBroker κ α γ} {f : γ → Work MemoryBroker κ α ρ}
    {f' : γ → Work MemoryBroker κ α ρ'} (hx : Abreast x x' s s' (Same I))
    (hf : ∀ a t t', Site.Alike I t t' → Abreast (f a) (f' a) t t' R) :
    Abreast (x >>= f) (x' >>= f') s s' R := by
  refine hx.bind fun a a' t t' ht => ?_
  obtain ⟨rfl, ht⟩ := ht
  exact hf a' t t' ht

/-- A loop whose rounds come to the same goes the same way. -/
theorem Act.Abreast.sameLoop {body body' : γ → Work MemoryBroker κ α (γ ⊕ ρ)}
    (h : ∀ r s s', Site.Alike I s s' → Abreast (body r) (body' r) s s' (Same I))
    (n : Nat) (r : γ) (hs : Site.Alike I s s') :
    Abreast (Act.loop body n r) (Act.loop body' n r) s s' (Same I) := by
  refine .loop (P := fun r r' s s' => r' = r ∧ Site.Alike I s s') (fun r r' s s' hP => ?_)
    n r r s s' ⟨rfl, hs⟩
  obtain ⟨rfl, hs⟩ := hP
  refine (h r' s s' hs).mono fun o o' t t' ht => ?_
  obtain ⟨rfl, ht⟩ := ht
  cases o' with
  | inl r => exact .inl ⟨r, r, rfl, rfl, rfl, ht⟩
  | inr a => exact .inr ⟨a, a, rfl, rfl, rfl, ht⟩

end

/-- The operations are the same, on messages that are the same up to ids that mean nothing. -/
inductive Operation.Twin (I : TrackingId → Prop) : Operation Message → Operation Message → Prop where
  | refl (op : Operation Message) : Twin I op op
  | add {m m' : Message} (hm : m.Twin I m') : Twin I (.add m) (.add m')
  | produce {m m' : Message} (hm : m.Twin I m') : Twin I (.produce m) (.produce m')
  | produceSync {m m' : Message} (hm : m.Twin I m') : Twin I (.produceSync m) (.produceSync m')

/-- What a hook does does not depend on ids that mean nothing. -/
def Surroundings.Blind (env : Surroundings MemoryBroker κ α) (I : TrackingId → Prop) : Prop :=
  ∀ hook kind m m' e s s', Message.Twin I m m' → Site.Alike I s s' →
    Abreast (env.call hook kind m e) (env.call hook kind m' e) s s' (Same I)

namespace MemoryBroker

variable {call : κ → HookKind → Message → Option BrokerError → Work MemoryBroker κ α Bool}
  {limit : Nat} {I : TrackingId → Prop} {s s' : World MemoryBroker κ α} {m m' : Message}

/-! ### Reports and refusals -/

theorem abreast_fire (henv : (surroundings call limit).Blind I) (kind : HookKind)
    (e : Option BrokerError) (hm : Message.Twin I m m') (h : Site.Alike I s s') :
    Abreast ((surroundings call limit).fire kind m e) ((surroundings call limit).fire kind m' e)
      s s' (Same I) := by
  refine .of_eq (Work.producer_bind ..) (Work.producer_bind ..) ?_
  rw [h.hooks]
  cases s.producer.hooks.find? kind with
  | none => exact .pure ⟨rfl, h⟩
  | some hook =>
    have hcalled : (Event.hookCalled kind m' e).untracked = (Event.hookCalled kind m e).untracked :=
      congrArg (Event.hookCalled kind · e) hm.untracked
    refine .of_eq (Work.record_bind ..) (Work.record_bind ..) ?_
    refine (henv hook kind m m' e _ _ hm (h.noted hcalled)).same fun v t t' ht => ?_
    refine .of_eq (Work.record_bind ..) (Work.record_bind ..) ?_
    exact .pure ⟨rfl, ht.noted rfl⟩

theorem abreast_grantRetry (henv : (surroundings call limit).Blind I) (asked : HookKind)
    (cause : BrokerError) (hm : Message.Twin I m m')
    {tracker tracker' : Work MemoryBroker κ α (Option TrackingId)}
    (htracker : ∀ t t', Site.Alike I t t' → Abreast tracker tracker' t t' (Same I))
    (h : Site.Alike I s s') :
    Abreast ((surroundings call limit).grantRetry asked m cause tracker)
      ((surroundings call limit).grantRetry asked m' cause tracker') s s' (Same I) := by
  refine (abreast_fire henv asked (some cause) hm h).same fun v t t' ht => ?_
  cases v.getD true with
  | false => exact .pure ⟨rfl, ht⟩
  | true =>
    refine (htracker t t' ht).same fun id t t' ht => ?_
    cases id with
    | none => exact .pure ⟨rfl, ht⟩
    | some id =>
      refine .of_eq (Work.claimRetry_bind ..) (Work.claimRetry_bind ..) ?_
      have hgrants : t'.grants id = t.grants id := ht.view (f := fun u => u.grants id) fun _ => rfl
      rw [hgrants]
      have ht := ht.updated id (·.claimRetry.2)
      cases t.grants id with
      | none => exact .pure ⟨rfl, ht⟩
      | some sender =>
        refine .of_eq (Work.mark_bind ..) (Work.mark_bind ..) ?_
        refine .of_eq (Work.record_bind ..) (Work.record_bind ..) ?_
        exact .pure ⟨rfl, (ht.marked .retried).noted (congrArg Event.retried hm.untracked)⟩

theorem abreast_drop (cause : BrokerError) (hm : Message.Twin I m m') (h : Site.Alike I s s') :
    Abreast (Surroundings.drop m cause) (Surroundings.drop m' cause) s s' (Same I) := by
  refine .of_eq (Work.mark_bind ..) (Work.mark_bind ..) ?_
  refine .of_eq (Work.release_bind ..) (Work.release_bind ..) ?_
  have ht := (h.marked .dropped).released hm
  exact .some ⟨rfl, ht.noted (congrArg (Event.concluded · (.dropped cause)) hm.untracked)⟩

theorem abreast_outcome (henv : (surroundings call limit).Blind I) (tracker : Option TrackingId)
    (failure : Option BrokerError) (hm : Message.Twin I m m') (h : Site.Alike I s s') :
    Abreast ((surroundings call limit).outcome tracker ⟨m, failure⟩)
      ((surroundings call limit).outcome tracker ⟨m', failure⟩) s s' (Same I) := by
  cases failure with
  | none =>
    refine (abreast_fire henv .delivered none hm h).same fun v t t' ht => ?_
    refine .of_eq (Work.mark_bind ..) (Work.mark_bind ..) ?_
    refine .of_eq (Work.release_bind ..) (Work.release_bind ..) ?_
    refine .of_eq (Work.record_bind ..) (Work.record_bind ..) ?_
    have ht := (ht.marked .produced).released hm
    exact .pure ⟨rfl, ht.noted (congrArg (Event.concluded · .delivered) hm.untracked)⟩
  | some cause =>
    refine (abreast_grantRetry henv .deliveryFailed cause hm
      (fun _ _ ht => .pure ⟨rfl, ht⟩) h).same fun sender t t' ht => ?_
    cases sender with
    | none =>
      refine (abreast_drop cause hm ht).same fun _ t t' ht => ?_
      exact (abreast_fire henv .deliveryAbandoned (some cause) hm ht).same
        fun v t t' ht => .pure ⟨rfl, ht⟩
    | some sender =>
      cases sender with
      | sync => exact .pure ⟨rfl, ht⟩
      | async =>
        refine .of_eq (Work.modifyProducer_bind ..) (Work.modifyProducer_bind ..) ?_
        exact .pure ⟨rfl, ht.rebuffered ht.regular (ht.retry.pushFront hm)⟩

theorem abreast_receive (henv : (surroundings call limit).Blind I) (failure : Option BrokerError)
    (hm : Message.Twin I m m') (h : Site.Alike I s s') :
    Abreast ((surroundings call limit).receive ⟨m, failure⟩)
      ((surroundings call limit).receive ⟨m', failure⟩) s s' (Same I) := by
  refine .of_eq (Work.producer_bind ..) (Work.producer_bind ..) ?_
  have htracker : s'.producer.trackers.find? m' = s.producer.trackers.find? m := h.find? hm
  rw [htracker]
  refine (abreast_outcome henv _ failure hm h).same fun o t t' ht => ?_
  have hsaid : (Event.acknowledged m').untracked = (Event.acknowledged m).untracked :=
    congrArg Event.acknowledged hm.untracked
  have hrest {u u' : World MemoryBroker κ α} (hu : Site.Alike I u u') :
      Abreast (do Work.record (.acknowledged m); Work.mark .acknowledged)
        (do Work.record (.acknowledged m'); Work.mark .acknowledged) u u' (Same I) := by
    refine .of_eq (Work.record_bind ..) (Work.record_bind ..) ?_
    exact .some ⟨rfl, (hu.noted hsaid).marked .acknowledged⟩
  cases s.producer.trackers.find? m with
  | none => exact .of_eq rfl rfl (hrest ht)
  | some id => exact .of_eq rfl rfl (hrest (ht.updated id (·.complete o)))

theorem abreast_receiveRefusal (henv : (surroundings call limit).Blind I) (cause : BrokerError)
    (requeue : Bool) (hm : Message.Twin I m m') (h : Site.Alike I s s') :
    Abreast ((surroundings call limit).receiveRefusal m cause requeue)
      ((surroundings call limit).receiveRefusal m' cause requeue) s s' (Same I) := by
  refine (abreast_grantRetry henv .sendFailed cause hm (fun t t' ht => ?_) h).same
    fun sender t t' ht => ?_
  · refine .of_eq (Work.producer_bind ..) (Work.producer_bind ..) ?_
    exact .pure ⟨ht.find? hm, ht⟩
  · cases sender with
    | none =>
      refine (abreast_drop cause hm ht).same fun _ t t' ht => ?_
      exact (abreast_fire henv .sendAbandoned (some cause) hm ht).same
        fun v t t' ht => .pure ⟨rfl, ht⟩
    | some sender =>
      cases requeue with
      | false => exact .pure ⟨rfl, ht⟩
      | true =>
        refine .of_eq (Work.modifyProducer_bind ..) (Work.modifyProducer_bind ..) ?_
        exact .pure ⟨rfl, ht.rebuffered ht.regular (ht.retry.pushBack hm)⟩

/-! ### Tasks -/

/-- The tasks are at the same point, and the messages they are about to report are the same up to
    ids that mean nothing. -/
inductive Task.Twin (I : TrackingId → Prop) : Task → Task → Prop where
  | refl (task : Task) : Twin I task task
  | deliver {batch batch' : List Message} (h : List.Forall₂ (Message.Twin I) batch batch')
      (purpose : Purpose) : Twin I (.deliver batch purpose) (.deliver batch' purpose)

/-- What comes of the steps of two tasks is the same up to ids that mean nothing. -/
def StepTwin (I : TrackingId → Prop) : TaskStep Task → TaskStep Task → Prop
  | .report r next, .report r' next' =>
    Message.Twin I r.message r'.message ∧ r'.failure = r.failure ∧ next.Twin I next'
  | .more next, .more next' => next.Twin I next'
  | .finished answer, .finished answer' => answer' = answer
  | _, _ => False

/-- A step is the same in brokers that are alike. -/
def SteppedAlike (I : TrackingId → Prop) (out out' : TaskStep Task × MemoryBroker × Clock) : Prop :=
  StepTwin I out.1 out'.1 ∧ out.2.1.Alike I out'.2.1 ∧ out'.2.2 = out.2.2

section

variable {b b' : MemoryBroker}

theorem waitPaused_alike (h : b.Alike I b') (deadline : Option Nat) (clock : Clock) :
    SteppedAlike I (b.waitPaused deadline clock) (b'.waitPaused deadline clock) := by
  unfold waitPaused
  rw [h.resumptions]
  split
  · exact ⟨.refl _, h, rfl⟩
  · exact ⟨rfl, h, rfl⟩
  · exact ⟨.refl _, h, rfl⟩

/-- The next message of the batch is reported alike. -/
theorem report_alike (h : b.Alike I b') (hm : Message.Twin I m m') {batch batch' : List Message}
    (hbatch : List.Forall₂ (Message.Twin I) batch batch') (purpose : Purpose) (clock : Clock) :
    SteppedAlike I (step (.deliver (m :: batch) purpose) b clock)
      (step (.deliver (m' :: batch') purpose) b' clock) := by
  obtain ⟨hfailure, hb⟩ := h.deliver hm
  have hreport : Message.Twin I (b.deliver m).1.message (b'.deliver m').1.message := by
    rw [message_deliver, message_deliver]
    exact hm
  have hlimits : (b'.deliver m').2.limits = (b.deliver m).2.limits := hb.limits
  refine ⟨⟨hreport, hfailure, .deliver hbatch purpose⟩, hb, ?_⟩
  simp only [step, hlimits]

theorem step_poll_of_paused (purpose : Purpose) {clock : Clock} (h : (b.wake clock).paused = true) :
    step (.poll purpose) b clock = (.more (.deliver [] purpose),
      { b.wake clock with pollCalls := b.pollCalls + 1 }, clock) :=
  if_pos h

theorem step_poll_of_awake (purpose : Purpose) {clock : Clock} (h : ¬ (b.wake clock).paused = true) :
    step (.poll purpose) b clock = (.more (.deliver (b.wake clock).inFlight.toList purpose),
      emptied { b.wake clock with pollCalls := b.pollCalls + 1 }, clock) :=
  if_neg h

theorem step_alike {task task' : Task} (ht : task.Twin I task') (h : b.Alike I b')
    (clock : Clock) : SteppedAlike I (step task b clock) (step task' b' clock) := by
  cases ht with
  | deliver hbatch purpose =>
    cases hbatch with
    | nil => cases purpose with
      | poll => exact ⟨rfl, h, rfl⟩
      | flush deadline => exact ⟨.refl _, h, rfl⟩
    | cons hm hbatch => exact report_alike h hm hbatch purpose clock
  | refl =>
    cases task with
    | poll purpose =>
      have hb : ({ b.wake clock with pollCalls := b.pollCalls + 1 } : MemoryBroker).Alike I
          { b'.wake clock with pollCalls := b'.pollCalls + 1 } := by
        rw [show b'.pollCalls = b.pollCalls from h.view fun _ => rfl]
        exact (h.wake clock).adjust (f := fun c => { c with pollCalls := b.pollCalls + 1 })
          (fun _ => rfl) (fun _ => rfl) (h.wake clock).blind
      have hpaused : (b'.wake clock).paused = (b.wake clock).paused := hb.paused
      by_cases hp : (b.wake clock).paused = true
      · rw [step_poll_of_paused purpose hp, step_poll_of_paused purpose (hpaused.trans hp)]
        exact ⟨.refl _, hb, rfl⟩
      · rw [step_poll_of_awake purpose hp, step_poll_of_awake purpose (hpaused ▸ hp)]
        refine ⟨.deliver hb.inFlight.toList purpose, ?_, rfl⟩
        exact ⟨congrArg emptied hb.untracked, .empty, hb.blind⟩
    | deliver batch purpose =>
      cases batch with
      | nil => cases purpose with
        | poll => exact ⟨rfl, h, rfl⟩
        | flush deadline => exact ⟨.refl _, h, rfl⟩
      | cons m batch =>
        exact report_alike h (.refl m) (List.forall₂_same.mpr fun n _ => .refl n) purpose clock
    | flush timeout =>
      have hb := h.adjust (f := fun c => { c with flushCalls := c.flushCalls + 1 })
        (fun _ => rfl) (fun _ => rfl) h.blind
      exact ⟨.refl _, hb, rfl⟩
    | flushRound deadline =>
      have hb := h.wake clock
      simp only [step]
      rw [hb.paused]
      split
      · exact waitPaused_alike hb deadline clock
      · exact ⟨.refl _, hb, rfl⟩
    | flushCheck deadline =>
      simp only [step]
      rw [h.isEmpty]
      split
      · exact ⟨rfl, h, rfl⟩
      · cases deadline with
        | none => exact ⟨.refl _, h, rfl⟩
        | some d =>
          dsimp only
          split
          · exact ⟨rfl, h, rfl⟩
          · exact ⟨.refl _, h, rfl⟩

end

theorem abreast_taskStep (henv : (surroundings call limit).Blind I) {task task' : client.Task}
    (ht : Task.Twin I task task') (h : Site.Alike I s s') :
    Abreast (Site.taskStep client (surroundings call limit).receive task)
      (Site.taskStep client (surroundings call limit).receive task') s s' fun o o' t t' =>
        (∃ next next' : client.Task, o = .inl next ∧ o' = .inl next' ∧ Task.Twin I next next' ∧
          Site.Alike I t t') ∨
        (∃ answer answer', o = .inr answer ∧ o' = .inr answer' ∧ Same I answer answer' t t') := by
  have hstep := step_alike ht h.broker s.clock
  obtain ⟨out, b, clock, hs⟩ : ∃ out b clock, step task s.broker s.clock = (out, b, clock) :=
    ⟨_, _, _, rfl⟩
  obtain ⟨out', b', clock', hs'⟩ :
      ∃ out b clock, step task' s'.broker s.clock = (out, b, clock) := ⟨_, _, _, rfl⟩
  rw [hs, hs'] at hstep
  obtain ⟨hout, hb, hclock⟩ := hstep
  obtain rfl : clock' = clock := hclock
  have hturned := h.turned hb clock'
  rw [← h.clock] at hs'
  have hs : client.step task s.broker s.clock = (out, b, clock') := hs
  have hs' : client.step task' s'.broker s'.clock = (out', b', clock') := hs'
  cases out with
  | report r next =>
    cases out' with
    | report r' next' =>
      obtain ⟨hr, hfailure, hnext⟩ := hout
      obtain ⟨m, failure⟩ := r
      obtain ⟨m', failure'⟩ := r'
      obtain rfl : failure' = failure := hfailure
      refine .of_eq (Site.taskStep_of_report hs) (Site.taskStep_of_report hs') ?_
      exact (abreast_receive henv failure' hr hturned).same fun _ t t' ht =>
        .pure (.inl ⟨next, next', rfl, rfl, hnext, ht⟩)
    | more _ | finished _ => exact hout.elim
  | more next =>
    cases out' with
    | more next' =>
      rw [Abreast, Site.taskStep_of_more hs, Site.taskStep_of_more hs']
      exact .some (.inl ⟨next, next', rfl, rfl, hout, hturned⟩)
    | report _ _ | finished _ => exact hout.elim
  | finished answer =>
    cases out' with
    | finished answer' =>
      rw [Abreast, Site.taskStep_of_finished hs, Site.taskStep_of_finished hs']
      exact .some (.inr ⟨answer, answer', rfl, rfl, hout, hturned⟩)
    | report _ _ | more _ => exact hout.elim

theorem abreast_runTask (henv : (surroundings call limit).Blind I) (task : Task)
    (h : Site.Alike I s s') :
    Abreast (Site.runTask client (surroundings call limit).receive limit task)
      (Site.runTask client (surroundings call limit).receive limit task) s s' (Same I) :=
  .loop (P := fun (task task' : Task) s s' => task.Twin I task' ∧ Site.Alike I s s')
    (fun _ _ _ _ hP => abreast_taskStep henv hP.1 hP.2) limit task task s s' ⟨.refl task, h⟩

theorem abreast_poll (henv : (surroundings call limit).Blind I) (h : Site.Alike I s s') :
    Abreast (surroundings call limit).poll (surroundings call limit).poll s s' (Same I) := by
  refine .of_eq (Work.record_bind ..) (Work.record_bind ..) ?_
  exact (abreast_runTask henv (.poll .poll) (h.noted rfl)).same fun _ t t' ht => .pure ⟨rfl, ht⟩

theorem abreast_flushBroker (henv : (surroundings call limit).Blind I) (timeout : Span)
    (h : Site.Alike I s s') :
    Abreast ((surroundings call limit).flushBroker timeout)
      ((surroundings call limit).flushBroker timeout) s s' (Same I) := by
  refine .of_eq (Work.record_bind ..) (Work.record_bind ..) ?_
  refine (abreast_runTask henv (.flush timeout) (h.noted rfl)).same fun answer t t' ht => ?_
  exact .of_eq (Work.record_bind ..) (Work.record_bind ..) (.pure ⟨rfl, ht.noted rfl⟩)

/-! ### Offers -/

theorem abreast_sendBroker (hm : Message.Twin I m m') (h : Site.Alike I s s') :
    Abreast ((surroundings call limit).sendBroker m) ((surroundings call limit).sendBroker m')
      s s' (Same I) := by
  obtain ⟨hanswer, hb⟩ := h.broker.send hm
  refine .of_eq (Site.send_bind ..) (Site.send_bind ..) ?_
  have hanswer' : ((surroundings call limit).client.send m' s'.broker).1 =
    ((surroundings call limit).client.send m s.broker).1 := hanswer
  rw [hanswer']
  refine .of_eq (Work.record_bind ..) (Work.record_bind ..) (.pure ⟨rfl, ?_⟩)
  exact (h.brokered hb).noted (congrArg (Event.offered · _) hm.untracked)

theorem abreast_offerOnce (henv : (surroundings call limit).Blind I) (notice : FullQueueNotice)
    (notify : Bool) (hm : Message.Twin I m m') (h : Site.Alike I s s') :
    Abreast ((surroundings call limit).offerOnce m notice notify)
      ((surroundings call limit).offerOnce m' notice notify) s s' (Same I) := by
  refine .of_eq (Work.mark_bind ..) (Work.mark_bind ..) ?_
  refine (abreast_sendBroker hm (h.marked .offered)).same fun answer t t' ht => ?_
  cases answer with
  | ok _ => exact .pure ⟨rfl, ht⟩
  | error e =>
    refine .of_eq (Work.mark_bind ..) (Work.mark_bind ..) ?_
    have ht := ht.marked .refused
    cases e.isQueueFull with
    | false => exact .pure ⟨rfl, ht⟩
    | true =>
      refine .of_eq (Work.mark_bind ..) (Work.mark_bind ..) ?_
      refine (abreast_poll henv (ht.marked .queueFull)).same fun _ t t' ht => ?_
      cases notify with
      | false => exact .pure ⟨rfl, ht⟩
      | true =>
        exact (abreast_fire henv .queueFull none hm ht).same fun v t t' ht => .pure ⟨rfl, ht⟩

theorem abreast_offer (henv : (surroundings call limit).Blind I) (hm : Message.Twin I m m')
    (h : Site.Alike I s s') :
    Abreast ((surroundings call limit).offer m) ((surroundings call limit).offer m') s s'
      (Same I) := by
  refine .of_eq (Work.producer_bind ..) (Work.producer_bind ..) ?_
  rw [h.settings]
  exact .sameLoop (fun notify s s' h => abreast_offerOnce henv _ notify hm h) limit _ h

theorem abreast_sendAsync (henv : (surroundings call limit).Blind I) (hm : Message.Twin I m m')
    (h : Site.Alike I s s') :
    Abreast ((surroundings call limit).sendAsync m) ((surroundings call limit).sendAsync m') s s'
      (Same I) := by
  refine (abreast_offer henv hm h).same fun answer t t' ht => ?_
  cases answer with
  | ok _ => exact .pure ⟨rfl, ht⟩
  | error e =>
    refine (abreast_receiveRefusal henv e true hm ht).same fun again t t' ht => ?_
    cases again with
    | true => exact .pure ⟨rfl, ht⟩
    | false => exact .pure ⟨rfl, ht⟩

/-! ### Waiting -/

theorem abreast_ackRound (henv : (surroundings call limit).Blind I) (interval : Span)
    (h : Site.Alike I s s') :
    Abreast ((surroundings call limit).ackRound interval)
      ((surroundings call limit).ackRound interval) s s' (Same I) := by
  refine .of_eq (Work.producer_bind ..) (Work.producer_bind ..) ?_
  rw [h.counters]
  split
  · exact .pure ⟨rfl, h⟩
  · refine (abreast_flushBroker henv interval h).same fun answer t t' ht => ?_
    cases answer with
    | ok _ => exact .pure ⟨rfl, ht⟩
    | error e =>
      dsimp only
      cases e.isTimeout with
      | true => exact .pure ⟨rfl, ht⟩
      | false => exact .pure ⟨rfl, ht⟩

theorem abreast_awaitAcks (henv : (surroundings call limit).Blind I) (h : Site.Alike I s s') :
    Abreast (surroundings call limit).awaitAcks (surroundings call limit).awaitAcks s s'
      (Same I) := by
  refine .of_eq (Work.producer_bind ..) (Work.producer_bind ..) ?_
  rw [h.settings]
  exact .sameLoop (fun _ s s' h => abreast_ackRound henv _ h) limit () h

theorem abreast_readClock (h : Site.Alike I s s') :
    Abreast Site.readClock Site.readClock s s' (Same I) := by
  have hread : Site.readClock s' = some (s.clock.read.1, s'.turned s'.broker s.clock.read.2) := by
    rw [← h.clock]
    rfl
  unfold Abreast
  rw [hread]
  exact .some ⟨rfl, h.turned h.broker s.clock.read.2⟩

theorem abreast_ackRoundFor (henv : (surroundings call limit).Blind I) (start : Nat)
    (timeout left : Span) (h : Site.Alike I s s') :
    Abreast ((surroundings call limit).ackRoundFor start timeout left)
      ((surroundings call limit).ackRoundFor start timeout left) s s' (Same I) := by
  refine (abreast_flushBroker henv left h).same fun answer t t' ht => ?_
  cases answer with
  | ok _ =>
    refine (abreast_readClock ht).same fun now t t' ht => ?_
    refine .of_eq (Work.producer_bind ..) (Work.producer_bind ..) ?_
    rw [ht.counters]
    split
    · exact .pure ⟨rfl, ht⟩
    · exact .pure ⟨rfl, ht⟩
  | error e =>
    dsimp only
    cases e.isTimeout with
    | true =>
      refine .of_eq (Work.producer_bind ..) (Work.producer_bind ..) ?_
      rw [ht.counters]
      exact .pure ⟨rfl, ht⟩
    | false => exact .pure ⟨rfl, ht⟩

theorem abreast_awaitAcksFor (henv : (surroundings call limit).Blind I) (timeout : Span)
    (h : Site.Alike I s s') :
    Abreast ((surroundings call limit).awaitAcksFor timeout)
      ((surroundings call limit).awaitAcksFor timeout) s s' (Same I) :=
  (abreast_readClock h).same fun start _ _ ht =>
    .sameLoop (fun left _ _ h => abreast_ackRoundFor henv start timeout left h) limit timeout ht

/-! ### Waiting for one message -/

theorem abreast_attempt (henv : (surroundings call limit).Blind I) (id : TrackingId)
    (hm : Message.Twin I m m') (h : Site.Alike I s s') :
    Abreast ((surroundings call limit).attempt id m) ((surroundings call limit).attempt id m') s s'
      (Same I) := by
  refine .of_eq (Work.arm_bind ..) (Work.arm_bind ..) ?_
  rw [show s'.nextSlot id = s.nextSlot id from h.view (f := fun u => u.nextSlot id) fun _ => rfl]
  refine (abreast_offer henv hm (h.updated id (·.arm.2))).same fun answer t t' ht => ?_
  cases answer with
  | error e =>
    refine (abreast_receiveRefusal henv e false hm ht).same fun again t t' ht => ?_
    cases again with
    | true => exact .pure ⟨rfl, ht⟩
    | false => exact .pure ⟨rfl, ht⟩
  | ok _ =>
    refine (abreast_awaitAcks henv ht).same fun result t t' ht => ?_
    cases result with
    | error e =>
      refine .of_eq (Work.updateTracker_bind ..) (Work.updateTracker_bind ..) ?_
      exact .pure ⟨rfl, ht.updated id (·.setSender .async)⟩
    | ok _ =>
      refine .of_eq (Work.look_bind ..) (Work.look_bind ..) ?_
      have hlooked := ht.updated id fun k => (k.receive (s.nextSlot id)).2
      rw [show t'.receipt id (s.nextSlot id) = t.receipt id (s.nextSlot id) from
        ht.view (f := fun u => u.receipt id (s.nextSlot id)) fun _ => rfl]
      cases t.receipt id (s.nextSlot id) with
      | outcome o => cases o <;> exact .pure ⟨rfl, hlooked⟩
      | empty => exact .pure ⟨rfl, hlooked⟩
      | disconnected => exact .pure ⟨rfl, hlooked⟩

theorem abreast_sendSync (henv : (surroundings call limit).Blind I) (hm : Message.Twin I m m')
    (h : Site.Alike I s s') :
    Abreast ((surroundings call limit).sendSync m) ((surroundings call limit).sendSync m') s s'
      (Same I) := by
  refine .of_eq (Work.producer_bind ..) (Work.producer_bind ..) ?_
  rw [h.tracking, h.settings]
  refine .of_eq (Work.attach_bind ..) (Work.attach_bind ..) ?_
  obtain ⟨hid, hmessage, ht⟩ :=
    h.attach hm .sync (if s.producer.tracking then s.producer.settings.retryBudget else 0)
  rw [hid, hmessage]
  refine .of_eq (Work.updateTracker_bind ..) (Work.updateTracker_bind ..) ?_
  exact .sameLoop (fun _ _ _ h => abreast_attempt henv _ (.refl _) h) limit ()
    (ht.updated _ (·.setSender .sync))

/-! ### Flushes -/

theorem abreast_sendBatch (henv : (surroundings call limit).Blind I) {batch batch' : Batch}
    (hbatch : List.Forall₂ (Message.Twin I) batch batch') (h : Site.Alike I s s') :
    Abreast ((surroundings call limit).sendBatch batch)
      ((surroundings call limit).sendBatch batch') s s' (Same I) := by
  induction hbatch generalizing s s' with
  | nil => exact .pure ⟨rfl, h⟩
  | cons hm _ ih =>
    simp only [Surroundings.sendBatch, List.forM_eq_forM, List.forM_cons, bind_assoc] at ih ⊢
    exact (abreast_sendAsync henv hm h).same fun _ t t' ht => ih ht

theorem abreast_takeRetry (h : Site.Alike I s s') :
    Abreast Work.takeRetry Work.takeRetry s s' fun batch batch' t t' =>
      List.Forall₂ (Message.Twin I) batch batch' ∧ Site.Alike I t t' :=
  .some ⟨h.retry.toList, h.rebuffered h.regular .empty⟩

theorem abreast_takeRegular (h : Site.Alike I s s') :
    Abreast Work.takeRegular Work.takeRegular s s' fun batch batch' t t' =>
      List.Forall₂ (Message.Twin I) batch batch' ∧ Site.Alike I t t' :=
  .some ⟨h.regular.toList, h.rebuffered .empty h.retry⟩

theorem abreast_whileFlushing {ρ : Type} {work work' : Work MemoryBroker κ α ρ}
    (hwork : ∀ t t', Site.Alike I t t' → Abreast work work' t t' (Same I))
    (h : Site.Alike I s s') :
    Abreast (Surroundings.whileFlushing work) (Surroundings.whileFlushing work') s s' (Same I) := by
  refine .of_eq (Work.mark_bind ..) (Work.mark_bind ..) ?_
  refine (hwork _ _ (h.marked .flushBegan)).same fun result t t' ht => ?_
  refine .of_eq (Work.mark_bind ..) (Work.mark_bind ..) ?_
  exact .pure ⟨rfl, ht.marked .flushEnded⟩

theorem abreast_flushAsync (henv : (surroundings call limit).Blind I) (h : Site.Alike I s s') :
    Abreast (surroundings call limit).flushAsync (surroundings call limit).flushAsync s s'
      (Same I) := by
  refine abreast_whileFlushing (fun t t' ht => ?_) h
  refine (abreast_takeRetry ht).bind fun retries retries' t t' ht => ?_
  refine (abreast_sendBatch henv ht.1 ht.2).same fun _ t t' ht => ?_
  refine (abreast_takeRegular ht).bind fun batch batch' t t' ht => ?_
  refine (abreast_sendBatch henv ht.1 ht.2).same fun _ t t' ht => ?_
  exact (abreast_awaitAcksFor henv .zero ht).same fun result t t' ht => .pure ⟨rfl, ht⟩

theorem abreast_timeIsUp (start : Nat) (timeout : Option Span) (h : Site.Alike I s s') :
    Abreast (Surroundings.timeIsUp start timeout) (Surroundings.timeIsUp start timeout) s s'
      (Same I) := by
  cases timeout with
  | none => exact .pure ⟨rfl, h⟩
  | some timeout => exact (abreast_readClock h).same fun now t t' ht => .pure ⟨rfl, ht⟩

theorem abreast_sendInOrder (henv : (surroundings call limit).Blind I) (start : Nat)
    (timeout : Option Span) {batch batch' : Batch}
    (hbatch : List.Forall₂ (Message.Twin I) batch batch') (k : Nat) (h : Site.Alike I s s') :
    Abreast ((surroundings call limit).sendInOrder start timeout k batch)
      ((surroundings call limit).sendInOrder start timeout k batch') s s' (Same I) := by
  induction hbatch generalizing k s s' with
  | nil => exact .pure ⟨rfl, h⟩
  | @cons m m' rest rest' hm _ ih =>
    refine (abreast_sendSync henv hm h).same fun result t t' ht => ?_
    have hgo : Abreast (do
        if ← Surroundings.timeIsUp start timeout then return (k + 1, .ok ())
        else (surroundings call limit).sendInOrder start timeout (k + 1) rest :
          Work MemoryBroker κ α (Nat × Except ProducerError Unit)) (do
        if ← Surroundings.timeIsUp start timeout then return (k + 1, .ok ())
        else (surroundings call limit).sendInOrder start timeout (k + 1) rest') t t' (Same I) := by
      refine (abreast_timeIsUp start timeout ht).same fun up t t' ht => ?_
      cases up with
      | true => exact .pure ⟨rfl, ht⟩
      | false => exact ih (k + 1) ht
    cases result with
    | ok _ => exact hgo
    | error e =>
      cases e with
      | refused _ => exact hgo
      | undelivered _ => exact hgo
      | _ => exact .pure ⟨rfl, ht⟩

theorem abreast_flushInOrder (henv : (surroundings call limit).Blind I) (timeout : Option Span)
    (h : Site.Alike I s s') :
    Abreast ((surroundings call limit).flushInOrder timeout)
      ((surroundings call limit).flushInOrder timeout) s s' (Same I) := by
  refine abreast_whileFlushing (fun t t' ht => ?_) h
  refine (abreast_takeRetry ht).bind fun retries retries' t t' ht => ?_
  obtain ⟨hretries, ht⟩ := ht
  refine (abreast_takeRegular ht).bind fun batch batch' t t' ht => ?_
  obtain ⟨hbatch, ht⟩ := ht
  refine (abreast_readClock ht).same fun start t t' ht => ?_
  refine (abreast_sendInOrder henv start timeout (List.rel_append hretries hbatch) 0 ht).same
    fun r t t' ht => ?_
  refine .of_eq (Work.modifyProducer_bind ..) (Work.modifyProducer_bind ..) ?_
  rw [hretries.length_eq, hbatch.length_eq]
  refine .pure ⟨rfl, ht.rebuffered (ht.regular.behind ?_) (ht.retry.behind ?_)⟩
  · exact List.forall₂_drop _ hbatch
  · exact List.forall₂_drop _ hretries

theorem abreast_flush (henv : (surroundings call limit).Blind I) (inOrder : Bool)
    (h : Site.Alike I s s') :
    Abreast ((surroundings call limit).flush inOrder) ((surroundings call limit).flush inOrder)
      s s' (Same I) := by
  cases inOrder with
  | true => exact (abreast_flushInOrder henv none h).same fun result t t' ht => .pure ⟨rfl, ht⟩
  | false =>
    refine (abreast_flushAsync henv h).same fun result t t' ht => ?_
    cases result with
    | error e => exact .pure ⟨rfl, ht⟩
    | ok _ => exact abreast_awaitAcks henv ht

theorem abreast_flushFor (henv : (surroundings call limit).Blind I) (timeout : Span)
    (inOrder : Bool) (h : Site.Alike I s s') :
    Abreast ((surroundings call limit).flushFor timeout inOrder)
      ((surroundings call limit).flushFor timeout inOrder) s s' (Same I) := by
  cases inOrder with
  | true => exact abreast_flushInOrder henv (some timeout) h
  | false =>
    refine (abreast_flushAsync henv h).same fun result t t' ht => ?_
    cases result with
    | error e => exact .pure ⟨rfl, ht⟩
    | ok _ => exact abreast_awaitAcksFor henv timeout ht

/-! ### Operations -/

theorem abreast_attachIfTracking (hm : Message.Twin I m m') (h : Site.Alike I s s') :
    Abreast (Work.attachIfTracking m) (Work.attachIfTracking m') s s' fun n n' t t' =>
      Message.Twin I n n' ∧ Site.Alike I t t' := by
  refine .of_eq (Work.producer_bind ..) (Work.producer_bind ..) ?_
  rw [h.tracking, h.settings]
  split
  · obtain ⟨-, hmessage, ht⟩ := h.attach hm .async s.producer.settings.retryBudget
    refine .of_eq (Work.attach_bind ..) (Work.attach_bind ..) ?_
    rw [hmessage]
    exact .pure ⟨.refl _, ht⟩
  · exact .pure ⟨hm, h⟩

theorem abreast_submit {ρ : Type} {next next' : Message → Work MemoryBroker κ α ρ}
    (hm : Message.Twin I m m') (h : Site.Alike I s s')
    (hnext : ∀ n n' t t', Message.Twin I n n' → Site.Alike I t t' →
      Abreast (next n) (next' n') t t' (Same I)) :
    Abreast (do Work.record (.submitted m); next (← Work.attachIfTracking m))
      (do Work.record (.submitted m'); next' (← Work.attachIfTracking m')) s s' (Same I) := by
  have hin : (Event.submitted m').untracked = (Event.submitted m).untracked :=
    congrArg Event.submitted hm.untracked
  have ht := h.noted hin
  refine .of_eq (Work.record_bind ..) (Work.record_bind ..) ?_
  exact (abreast_attachIfTracking hm ht).bind fun n n' t t' ht => hnext n n' t t' ht.1 ht.2

theorem abreast_add (henv : (surroundings call limit).Blind I) (hm : Message.Twin I m m')
    (h : Site.Alike I s s') :
    Abreast ((surroundings call limit).add m) ((surroundings call limit).add m') s s'
      (Same I) := by
  refine abreast_submit hm h fun n n' t t' hn ht => ?_
  refine .of_eq (Work.modifyProducer_bind ..) (Work.modifyProducer_bind ..) ?_
  have hu : Site.Alike I (t.amended fun p => { p with regular := p.regular.pushBack n })
      (t'.amended fun p => { p with regular := p.regular.pushBack n' }) :=
    ht.rebuffered (ht.regular.pushBack hn) ht.retry
  generalize t.amended _ = u, t'.amended _ = u' at hu ⊢
  refine .of_eq (Work.producer_bind ..) (Work.producer_bind ..) ?_
  rw [hu.overfull, hu.settings]
  split
  · cases u.producer.settings.flushMode with
    | sync => exact abreast_flush henv false hu
    | async => exact abreast_flushAsync henv hu
  · exact .pure ⟨rfl, hu⟩

theorem abreast_produce (henv : (surroundings call limit).Blind I) (hm : Message.Twin I m m')
    (h : Site.Alike I s s') :
    Abreast ((surroundings call limit).produce m) ((surroundings call limit).produce m') s s'
      (Same I) := by
  refine abreast_submit hm h fun n n' t t' hn ht => ?_
  refine (abreast_sendAsync henv hn ht).same fun error t t' ht => ?_
  cases error with
  | none => exact .pure ⟨rfl, ht⟩
  | some e => exact .pure ⟨rfl, ht⟩

theorem abreast_produceSync (henv : (surroundings call limit).Blind I) (hm : Message.Twin I m m')
    (h : Site.Alike I s s') :
    Abreast ((surroundings call limit).produceSync m) ((surroundings call limit).produceSync m')
      s s' (Same I) := by
  refine .of_eq (Work.record_bind ..) (Work.record_bind ..) ?_
  exact abreast_sendSync henv hm (h.noted (congrArg Event.submitted hm.untracked))

theorem abreast_discard (hm : Message.Twin I m m') (h : Site.Alike I s s') :
    Abreast (Work.discard m) (Work.discard m') s s' (Same I) := by
  refine .of_eq (Work.release_bind ..) (Work.release_bind ..) ?_
  have hcleared : (Event.concluded m' .cleared).untracked = (Event.concluded m .cleared).untracked :=
    congrArg (Event.concluded · .cleared) hm.untracked
  exact .some ⟨rfl, (h.released hm).noted hcleared⟩

theorem abreast_clear (h : Site.Alike I s s') :
    Abreast Work.clear Work.clear s s' (Same I) := by
  refine (abreast_takeRetry h).bind fun retries retries' t t' ht => ?_
  obtain ⟨hretries, ht⟩ := ht
  refine (abreast_takeRegular ht).bind fun batch batch' t t' ht => ?_
  obtain ⟨hbatch, ht⟩ := ht
  have hall : List.Forall₂ (Message.Twin I) (retries ++ batch) (retries' ++ batch') :=
    List.rel_append hretries hbatch
  generalize retries ++ batch = all, retries' ++ batch' = all' at hall ⊢
  induction hall generalizing t t' with
  | nil => exact .pure ⟨rfl, ht⟩
  | cons hm _ ih =>
    simp only [List.forM_eq_forM, List.forM_cons] at ih ⊢
    exact (abreast_discard hm ht).same fun _ t t' ht => ih t t' ht

/-- A setter changes nothing that has an id. -/
theorem abreast_set {f : Producer κ → Producer κ} (h : Site.Alike I s s')
    (hf : ∀ p, (f p).untracked = f p.untracked) (hregular : ∀ p, (f p).regular = p.regular)
    (hretry : ∀ p, (f p).retry = p.retry) (htrackers : ∀ p, (f p).trackers = p.trackers) :
    Abreast (Work.modifyProducer f) (Work.modifyProducer f) s s' (Same I) :=
  .some ⟨rfl, h.adjusted hf hregular hretry htrackers⟩

theorem abreast_operate (henv : (surroundings call limit).Blind I) {op op' : Operation Message}
    (hop : op.Twin I op') (h : Site.Alike I s s') :
    Abreast ((surroundings call limit).operate op) ((surroundings call limit).operate op') s s'
      (Same I) := by
  cases hop with
  | add hm => exact (abreast_add henv hm h).same fun _ t t' ht => .pure ⟨rfl, ht⟩
  | produce hm => exact (abreast_produce henv hm h).same fun _ t t' ht => .pure ⟨rfl, ht⟩
  | produceSync hm => exact (abreast_produceSync henv hm h).same fun _ t t' ht => .pure ⟨rfl, ht⟩
  | refl =>
    cases op with
    | add m => exact (abreast_add henv (.refl m) h).same fun _ t t' ht => .pure ⟨rfl, ht⟩
    | produce m => exact (abreast_produce henv (.refl m) h).same fun _ t t' ht => .pure ⟨rfl, ht⟩
    | produceSync m =>
      exact (abreast_produceSync henv (.refl m) h).same fun _ t t' ht => .pure ⟨rfl, ht⟩
    | flushAsync => exact (abreast_flushAsync henv h).same fun _ t t' ht => .pure ⟨rfl, ht⟩
    | flush inOrder => exact (abreast_flush henv inOrder h).same fun _ t t' ht => .pure ⟨rfl, ht⟩
    | flushFor timeout inOrder =>
      exact (abreast_flushFor henv timeout inOrder h).same fun _ t t' ht => .pure ⟨rfl, ht⟩
    | awaitAcks => exact (abreast_awaitAcks henv h).same fun _ t t' ht => .pure ⟨rfl, ht⟩
    | awaitAcksFor timeout =>
      exact (abreast_awaitAcksFor henv timeout h).same fun _ t t' ht => .pure ⟨rfl, ht⟩
    | clear => exact (abreast_clear h).same fun _ t t' ht => .pure ⟨rfl, ht⟩
    | setBufferLimit n =>
      refine Abreast.same (I := I) ?_ fun _ t t' ht => .pure ⟨rfl, ht⟩
      unfold Work.setBufferLimit
      cases Settings.checkBufferLimit n with
      | error e => exact .pure ⟨rfl, h⟩
      | ok _ =>
        have hset := abreast_set (f := (·.setBufferLimit n)) h (fun _ => rfl) (fun _ => rfl)
          (fun _ => rfl) fun _ => rfl
        exact hset.same fun _ t t' ht => .pure ⟨rfl, ht⟩
    | setFlushMode mode =>
      have hset := abreast_set (f := (·.setFlushMode mode)) h (fun _ => rfl) (fun _ => rfl)
        (fun _ => rfl) fun _ => rfl
      exact hset.same fun _ t t' ht => .pure ⟨rfl, ht⟩
    | setRetryBudget n =>
      have hset := abreast_set (f := (·.setRetryBudget n)) h (fun _ => rfl) (fun _ => rfl)
        (fun _ => rfl) fun _ => rfl
      exact hset.same fun _ t t' ht => .pure ⟨rfl, ht⟩
    | setFullQueueNotice notice =>
      have hset := abreast_set (f := (·.setFullQueueNotice notice)) h (fun _ => rfl) (fun _ => rfl)
        (fun _ => rfl) fun _ => rfl
      exact hset.same fun _ t t' ht => .pure ⟨rfl, ht⟩

end MemoryBroker

end Outbox
