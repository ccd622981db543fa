import Outbox.Proofs.Meanwhile

/-! How a producer goes about sending a message, whatever broker it has. It offers the message, and
    polls as often as it finds the queue full; then the message is accepted or refused. A caller
    that waits does so attempt by attempt: it looks into the slot of its message once nothing is
    pending any more, unless the message was refused or the waiting failed. Main statement: what
    each such attempt keeps, and what the last of them brings about, is there when the message has
    been seen through; and it is seen through at last if something goes down with each attempt. -/

namespace Outbox

variable {β κ α ο : Type}

namespace Site

/-- The world in which a slot is open for an attempt. -/
def readied (s : World β κ α) (id : TrackingId) : World β κ α :=
  s.retracked (·.update id (·.arm.2))

/-- The id under which somebody waits for the message. -/
def idOf (s : World β κ α) (m : Message) : TrackingId :=
  (s.attach m .sync (if s.producer.tracking then s.producer.settings.retryBudget else 0)).1

end Site

/-- What a caller makes of what it finds in its slot: it tries again, or it has its result. -/
def Receipt.upshot : Receipt → Unit ⊕ Except ProducerError Unit
  | .outcome .retry => .inl ()
  | .outcome .delivered => .inr (.ok ())
  | .outcome (.dropped e) => .inr (.error (.undelivered e))
  | .empty | .disconnected => .inr (.error .outcomeLost)

namespace Application

section

variable (app : Application β κ α ο) (told : β → β → Prop) (V : Verdicts) (m : Message)
  (s : World β κ α)

/-- From `s` on the message was offered some times, each time the queue was full, and the broker was
    polled. `R` are the reports that were dealt with, the last one in front. -/
inductive Crowded : List DeliveryReport → World β κ α → Prop where
  | start : Crowded [] s
  | again {R R' u v b e} (h : Crowded R u) (hs : app.client.send m u.broker = (.error e, b))
      (he : e.isQueueFull = true)
      (hv : app.Meanwhile told V [app.client.poll]
        (((u.refused b m e).marked .queueFull).noted .polled) [] R' v) : Crowded (R' ++ R) v

/-- The message was offered until the answer was another than that the queue is full. -/
inductive Offered : List DeliveryReport → BrokerAnswer → World β κ α → Prop where
  | accepted {R u b} (h : app.Crowded told V m s R u)
      (hs : app.client.send m u.broker = (.ok (), b)) :
      Offered R (.ok ()) (u.accepted b m)
  | refused {R u b e} (h : app.Crowded told V m s R u)
      (hs : app.client.send m u.broker = (.error e, b)) (he : e.isQueueFull = false) :
      Offered R (.error e) (u.refused b m e)

/-- The message was sent without waiting; or it was refused, which was no failure if it is sent
    again. -/
inductive Sent : Option BrokerError → World β κ α → Prop where
  | accepted {R u} (hu : app.Offered told V m s R (.ok ()) u) : Sent none u
  | refused {R u v e again} (hu : app.Offered told V m s R (.error e) u)
      (hv : u.Coped told V m e true again v) : Sent (if again then none else some e) v

/-- An attempt of a caller that waits for the message under the id. -/
inductive Tried (id : TrackingId) : Unit ⊕ Except ProducerError Unit → World β κ α → Prop where
  | refused {R u v e again} (hu : app.Offered told V m (s.readied id) R (.error e) u)
      (hv : u.Coped told V m e false again v) :
      Tried id (if again then .inl () else .inr (.error (.refused e))) v
  | failed {R R' u v e} (hu : app.Offered told V m (s.readied id) R (.ok ()) u)
      (hv : app.Meanwhile told V [] u [] R' v) (he : app.Excused e) :
      Tried id (.inr (.error e)) (v.entrusted id .async)
  | learnt {R R' u v} (hu : app.Offered told V m (s.readied id) R (.ok ()) u)
      (hv : app.Meanwhile told V [] u [] R' v) (hp : v.producer.counters.pending = 0) :
      Tried id (v.receipt id (s.nextSlot id)).upshot (v.looked id (s.nextSlot id))

end

variable {app : Application β κ α ο} {told : β → β → Prop} {sure : Prop} {V : Verdicts}
  {s t u : World β κ α} {m : Message} {id : TrackingId} {R : List DeliveryReport} {b₀ : β}
  {M : Multiset Message}

/-! ### Hooks stay, and what is outstanding stays known -/

theorem Crowded.hooks (h : app.Crowded told V m s R t) : t.producer.hooks = s.producer.hooks := by
  induction h with
  | start => rfl
  | again _ _ _ hv ih => exact hv.hooks.trans ih

theorem Offered.hooks {answer : BrokerAnswer} (h : app.Offered told V m s R answer t) :
    t.producer.hooks = s.producer.hooks := by
  cases h with
  | accepted h | refused h => exact h.hooks

theorem coped_hooks {e : BrokerError} {requeue again : Bool}
    (h : s.Coped told V m e requeue again t) : t.producer.hooks = s.producer.hooks := by
  obtain ⟨u, w, hu, hw, ht⟩ := h
  rw [ht.hooks, ← hu.hooks]
  cases hw <;> rfl

theorem Tried.hooks {o : Unit ⊕ Except ProducerError Unit} (h : app.Tried told V m s id o t) :
    t.producer.hooks = s.producer.hooks := by
  cases h with
  | refused hu hv => exact (coped_hooks hv).trans hu.hooks
  | failed hu hv | learnt hu hv => exact hv.hooks.trans hu.hooks

theorem Crowded.attuned (hexact : app.client.Exact told b₀) (h : app.Crowded told V m s R t)
    (hs : app.Attuned told b₀ [] M s) :
    ∃ M', app.Attuned told b₀ [] M' t ∧ M = M' + (R.map (·.message) : Multiset Message) := by
  induction h with
  | start => exact ⟨M, hs, by simp⟩
  | again _ hsend _ hv ih =>
    obtain ⟨M₁, ⟨hcourse, hpending⟩, hM⟩ := ih
    obtain ⟨M₂, ht, -, hM'⟩ := hv.attuned hexact
      (.mk ((hcourse.refuse hsend).begin _ (.inl rfl)) hpending)
    exact ⟨M₂, ht, by rw [hM, hM', List.map_append, ← Multiset.coe_add, add_assoc]⟩

theorem Offered.attuned (hexact : app.client.Exact told b₀) {answer : BrokerAnswer}
    (h : app.Offered told V m s R answer t) (hs : app.Attuned told b₀ [] M s) :
    ∃ M', app.Attuned told b₀ [] (match answer with | .ok () => m ::ₘ M' | .error _ => M') t ∧
      M = M' + (R.map (·.message) : Multiset Message) := by
  cases h with
  | accepted h hsend =>
    obtain ⟨M', ⟨hcourse, hpending⟩, hM⟩ := h.attuned hexact hs
    refine ⟨M', ⟨hcourse.accept hsend, ?_⟩, hM⟩
    rw [Multiset.card_cons, ← hpending]
    rfl
  | refused h hsend he =>
    obtain ⟨M', ⟨hcourse, hpending⟩, hM⟩ := h.attuned hexact hs
    exact ⟨M', ⟨hcourse.refuse hsend, hpending⟩, hM⟩

theorem coped_attuned {e : BrokerError} {requeue again : Bool}
    (h : s.Coped told V m e requeue again t) (hs : app.Attuned told b₀ [] M s) :
    app.Attuned told b₀ [] M t := by
  obtain ⟨u, w, hu, hw, ht⟩ := h
  refine ⟨hs.course.waits ?_, ?_⟩
  · exact ((Client.Waits.start.tells hu.broker).tells (by rw [← hw.broker])).tells ht.broker
  · rw [ht.counters, hw.pending, hu.counters, hs.pending]

theorem Sent.attuned (hexact : app.client.Exact told b₀) {e : Option BrokerError}
    (h : app.Sent told V m s e t) (hs : app.Attuned told b₀ [] M s) :
    ∃ M', app.Attuned told b₀ [] M' t := by
  cases h with
  | accepted hu =>
    obtain ⟨M', hu, -⟩ := hu.attuned hexact hs
    exact ⟨_, hu⟩
  | refused hu hv =>
    obtain ⟨M', hu, -⟩ := hu.attuned hexact hs
    exact ⟨_, coped_attuned hv hu⟩

theorem Tried.attuned (hexact : app.client.Exact told b₀)
    {o : Unit ⊕ Except ProducerError Unit} (h : app.Tried told V m s id o t)
    (hs : app.Attuned told b₀ [] M s) : ∃ M', app.Attuned told b₀ [] M' t := by
  have hready : app.Attuned told b₀ [] M (s.readied id) := ⟨hs.course, hs.pending⟩
  cases h with
  | refused hu hv =>
    obtain ⟨M', hu, -⟩ := hu.attuned hexact hready
    exact ⟨M', coped_attuned hv hu⟩
  | failed hu hv | learnt hu hv =>
    obtain ⟨M', hu, -⟩ := hu.attuned hexact hready
    obtain ⟨M'', ⟨hcourse, hpending⟩, -⟩ := hv.attuned hexact hu
    exact ⟨M'', hcourse, hpending⟩

/-! ### Offers -/

/-- After a full queue the broker is polled, and the hook is told if it is to be. -/
theorem reaches_makeRoom (hf : sure → app.client.Faithful told b₀)
    (hd : app.Discreet told sure V t.producer.hooks) (hs : app.Crowded told V m s R t)
    (ha : sure → app.Attuned told b₀ [] M t) {b : β} {e : BrokerError}
    (hsend : app.client.send m t.broker = (.error e, b)) (he : e.isQueueFull = true)
    (notice : FullQueueNotice) (notify : Bool) :
    Act.Reaches sure (fun l d => (app.surroundings l d).makeRoom notice notify m)
      ((t.refused b m e).marked .queueFull) fun o u =>
      o.elim
        (fun _ => (∃ R', app.Crowded told V m s R' u) ∧ ∃ M', sure → app.Attuned told b₀ [] M' u ∧
          app.client.Rebuffed told m (u.broker, M') (t.broker, M))
        fun answer => ∃ R', app.Offered told V m s R' answer u := by
  have hpolled (hsure : sure) : app.Attuned told b₀ [app.client.poll] M
      (((t.refused b m e).marked .queueFull).noted .polled) :=
    ⟨((ha hsure).course.refuse hsend).begin _ (.inl rfl), (ha hsure).pending⟩
  have hgo {R' : List DeliveryReport} {u : World β κ α} (hu : app.Meanwhile told V [app.client.poll]
      (((t.refused b m e).marked .queueFull).noted .polled) [] R' u) :
      (∃ R', app.Crowded told V m s R' u) ∧ ∃ M', sure → app.Attuned told b₀ [] M' u ∧
        app.client.Rebuffed told m (u.broker, M') (t.broker, M) := by
    obtain ⟨M', hM'⟩ := hu.attuned_of_sure hf hpolled
    exact ⟨⟨_, hs.again hsend he hu⟩, M', fun hs => ⟨(hM' hs).1, e, b, he, hsend, (hM' hs).2.1⟩⟩
  refine (reaches_poll (s := (t.refused b m e).marked .queueFull) hd fun hsure =>
    (hf hsure).ending (hpolled hsure).course).bind fun _ u hu => ?_
  obtain ⟨R', hu⟩ := hu
  cases notify with
  | false => exact .pure (hgo hu)
  | true =>
    refine (reaches_fire (hd.after hu.hooks) .queueFull m none).bind fun v w hw => .pure ?_
    exact hgo (hu.beside hw.1)

theorem reaches_offerOnce (hf : sure → app.client.Faithful told b₀)
    (hd : app.Discreet told sure V t.producer.hooks) (hs : app.Crowded told V m s R t)
    (ha : sure → app.Attuned told b₀ [] M t) (notice : FullQueueNotice) (notify : Bool) :
    Act.Reaches sure (fun l d => (app.surroundings l d).offerOnce m notice notify) t fun o u =>
      o.elim
        (fun _ => (∃ R', app.Crowded told V m s R' u) ∧ ∃ M', sure → app.Attuned told b₀ [] M' u ∧
          app.client.Rebuffed told m (u.broker, M') (t.broker, M))
        fun answer => ∃ R', app.Offered told V m s R' answer u := by
  rcases hsend : app.client.send m t.broker with ⟨e | _, b⟩
  · cases he : e.isQueueFull with
    | false =>
      exact .of_eq (fun l d => (app.surroundings l d).offerOnce_of_refused notice notify hsend he)
        (.pure ⟨R, .refused hs hsend he⟩)
    | true =>
      exact .of_eq (fun l d => (app.surroundings l d).offerOnce_of_full notice notify hsend he)
        (reaches_makeRoom hf hd hs ha hsend he notice notify)
  · exact .of_eq (fun l d => (app.surroundings l d).offerOnce_of_accepted notice notify hsend)
      (.pure ⟨R, .accepted hs hsend⟩)

theorem reaches_offer (hf : sure → app.client.Faithful told b₀)
    (hd : app.Discreet told sure V s.producer.hooks) (ha : sure → app.Attuned told b₀ [] M s)
    (m : Message) :
    Act.Reaches sure (fun l d => (app.surroundings l d).offer m) s fun answer t =>
      ∃ R, app.Offered told V m s R answer t := by
  refine .of_eq (fun _ _ => Work.producer_bind ..) ?_
  refine .loop (app.client.Rebuffed told m)
    (P := fun g _ u => g.1 = u.broker ∧ (∃ R, app.Crowded told V m s R u) ∧
      (sure → app.Attuned told b₀ [] g.2 u))
    (fun hsure g _ u hu => ?_) (fun g notify u hu => ?_) (g := (s.broker, M))
    ⟨rfl, ⟨[], .start⟩, ha⟩
  · obtain ⟨hg, -, ha⟩ := hu
    have hacc := (hf hsure).yielding (ha hsure).course m
    rwa [← hg] at hacc
  obtain ⟨b, M⟩ := g
  obtain ⟨rfl, ⟨R, hu⟩, ha⟩ := hu
  refine (reaches_offerOnce hf (hd.after hu.hooks) hu ha _ notify).mono fun o t ht => ?_
  cases o with
  | inl _ =>
    obtain ⟨hcrowded, M', hM'⟩ := ht
    exact ⟨(t.broker, M'), ⟨rfl, hcrowded, fun hs => (hM' hs).1⟩, fun hs => (hM' hs).2⟩
  | inr answer => exact ht

/-- No hook has had the last word when a message was refused. -/
theorem Offered.not_vetoed {answer : BrokerAnswer} (h : app.Offered told V m s R answer t) :
    ¬ Vetoed t.journal := by
  cases h <;> simp [Vetoed]

theorem Offered.attuned_of_sure (hf : sure → app.client.Faithful told b₀)
    {answer : BrokerAnswer} (h : app.Offered told V m s R answer t)
    (hs : sure → app.Attuned told b₀ [] M s) : ∃ M', sure → app.Attuned told b₀ [] M' t := by
  by_cases hsure : sure
  · obtain ⟨M', hM', -⟩ := h.attuned (hf hsure).exact (hs hsure)
    exact ⟨_, fun _ => hM'⟩
  · exact ⟨0, fun h => absurd h hsure⟩

/-! ### Sending -/

theorem reaches_sendAsync (hf : sure → app.client.Faithful told b₀)
    (hd : app.Discreet told sure V s.producer.hooks) (ha : sure → app.Attuned told b₀ [] M s)
    (m : Message) :
    Act.Reaches sure (fun l d => (app.surroundings l d).sendAsync m) s fun e t =>
      app.Sent told V m s e t := by
  refine (reaches_offer hf hd ha m).bind fun answer t ht => ?_
  obtain ⟨R, ht⟩ := ht
  cases answer with
  | ok _ => exact .pure (.accepted ht)
  | error e =>
    refine (reaches_receiveRefusal (hd.after ht.hooks) ht.not_vetoed m e true).bind
      fun again u hu => ?_
    have hsent := Sent.refused ht hu
    cases again with
    | true => exact .pure hsent
    | false => exact .pure hsent

theorem reaches_attempt (hf : sure → app.client.Faithful told b₀)
    (hd : app.Discreet told sure V s.producer.hooks) (ha : sure → app.Attuned told b₀ [] M s)
    (id : TrackingId) (m : Message) :
    Act.Reaches sure (fun l d => (app.surroundings l d).attempt id m) s fun o t =>
      app.Tried told V m s id o t := by
  refine .of_eq (fun _ _ => Work.arm_bind ..) ?_
  have ha : sure → app.Attuned told b₀ [] M (s.readied id) :=
    fun hs => ⟨(ha hs).course, (ha hs).pending⟩
  refine (reaches_offer (s := s.readied id) hf hd ha m).bind fun answer t ht => ?_
  obtain ⟨R, ht⟩ := ht
  have hd : app.Discreet told sure V t.producer.hooks :=
    Discreet.after (s := s.readied id) hd ht.hooks
  cases answer with
  | error e =>
    refine (reaches_receiveRefusal hd ht.not_vetoed m e false).bind fun again u hu => ?_
    have htried := Tried.refused (s := s) ht hu
    cases again with
    | true => exact .pure htried
    | false => exact .pure htried
  | ok _ =>
    obtain ⟨M', ha⟩ := ht.attuned_of_sure hf ha
    refine (reaches_awaitAcks hf hd ha).bind fun r u hu => ?_
    obtain ⟨⟨R', hu⟩, hr⟩ := hu
    cases r with
    | error e => exact .of_eq (fun _ _ => Work.updateTracker_bind ..) (.pure (.failed ht hu hr))
    | ok _ =>
      refine .of_eq (fun _ _ => Work.look_bind ..) ?_
      have htried := Tried.learnt (s := s) ht hu hr
      generalize u.receipt id (s.nextSlot id) = receipt at htried ⊢
      rcases receipt with (_ | _ | _) | _ | _ <;> exact .pure htried

/-- What each attempt keeps is kept until the message has been seen through, and what the attempt
    that is the last brings about is there at the end. -/
theorem reaches_sendSync {γ : Type} (lower : γ → γ → Prop) {P : γ → World β κ α → Prop}
    {Q : Except ProducerError Unit → World β κ α → Prop}
    (hf : sure → app.client.Faithful told b₀)
    (hd : app.Discreet told sure V s.producer.hooks) (ha : sure → app.Attuned told b₀ [] M s)
    (hwf : sure → ∀ g u, P g u → Acc lower g) {g : γ} (hstart : P g (s.engage m).2)
    (hstep : ∀ {g u o w}, P g u → app.Tried told V (s.engage m).1 u (s.idOf m) o w →
      o.elim (fun _ => ∃ g', P g' w ∧ (sure → lower g' g)) (Q · w)) :
    Act.Reaches sure (fun l d => (app.surroundings l d).sendSync m) s Q := by
  refine .of_eq (fun _ _ => Work.producer_bind ..) (.of_eq (fun _ _ => Work.attach_bind ..) ?_)
  refine .of_eq (fun _ _ => Work.updateTracker_bind ..) ?_
  refine .loop lower (P := fun g _ u => P g u ∧ u.producer.hooks = s.producer.hooks ∧
      ∃ M, sure → app.Attuned told b₀ [] M u)
    (fun hs g _ u hu => hwf hs g u hu.1) (fun g _ u hu => ?_)
    ⟨hstart, rfl, M, fun hs => ⟨(ha hs).course, (ha hs).pending⟩⟩
  obtain ⟨hu, hhooks, M, ha⟩ := hu
  refine (reaches_attempt hf (hd.after hhooks) ha (s.idOf m) (s.engage m).1).mono fun o t ht => ?_
  have hstep := hstep hu ht
  cases o with
  | inr r => exact hstep
  | inl _ =>
    obtain ⟨g', hg', hlower⟩ := hstep
    refine ⟨g', ⟨hg', ht.hooks.trans hhooks, ?_⟩, hlower⟩
    by_cases hsure : sure
    · obtain ⟨M', hM'⟩ := ht.attuned (hf hsure).exact (ha hsure)
      exact ⟨M', fun _ => hM'⟩
    · exact ⟨0, fun h => absurd h hsure⟩

end Application

end Outbox
