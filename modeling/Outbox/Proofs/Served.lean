import Outbox.Proofs.Attempt
import Outbox.Proofs.Unbidden

/-! What a broker in memory has made of the messages that it was offered. It refuses a message for
    what the message is, apart from full queues, and it fails deliveries by their number and by what
    the messages are. So whenever the reports come in, early or late according to how much room the
    queue has, what they say can be told from the order in which messages were taken. Main
    statements: what each offer and each step of a task adds to this. -/

namespace Outbox

/-! ### Reports -/

/-- The faults after `n` reports. -/
def Faults.after (f : Faults) (n : Nat) : Faults := { f with failNext := f.failNext - n }

/-- The reports of messages that are delivered or failed in this order. -/
def Faults.reports (f : Faults) (A : List Message) : List DeliveryReport :=
  A.mapIdx fun i m => ⟨m, (f.after i).failure? m⟩

/-- The messages that were reported as delivered. -/
def arrivals (R : List DeliveryReport) : List Message :=
  (R.filter (·.failure.isNone)).map (·.message)

/-- The messages that were reported as not delivered, and why. -/
def failures (R : List DeliveryReport) : List (Message × BrokerError) :=
  R.filterMap fun r => r.failure.map (r.message, ·)

namespace MemoryBroker

/-! ### Objections -/

/-- Why the broker refuses `m`, if not for want of room. -/
def objection? (b : MemoryBroker) (m : Message) : Option BrokerError :=
  (b.refusal? m).filter fun e => !e.isQueueFull

/-- The messages that the broker takes in the end. -/
def accepted (b : MemoryBroker) (ms : List Message) : List Message :=
  ms.filter fun m => (b.objection? m).isNone

/-- The messages that the broker refuses, and why. -/
def refusals (b : MemoryBroker) (ms : List Message) : List (Message × BrokerError) :=
  ms.filterMap fun m => (b.objection? m).map (m, ·)

/-- Of the messages that were taken these were reported, and apart from full queues the broker is
    what it was otherwise. -/
structure Served (b : MemoryBroker) (A : List Message) (R : List DeliveryReport)
    (b' : MemoryBroker) : Prop where
  awake : b'.paused = false
  sent : b'.sent.toList = b.sent.toList ++ A
  delivered : b'.delivered.toList = b.delivered.toList ++ arrivals R
  objection : ∀ m, b'.objection? m = b.objection? m
  failNext : b'.faults.failNext = b.faults.failNext - R.length
  failWhere : b'.faults.failWhere = b.faults.failWhere
  reports : R = b.faults.reports (R.map (·.message))

variable {b b' b'' : MemoryBroker} {A : List Message} {R : List DeliveryReport} {m : Message}
  {e : BrokerError}

theorem objection?_eq (b : MemoryBroker) (m : Message) : b.objection? m =
    if b.faults.rejectWhere.any (· m) then some (.other s!"send rejected for topic '{m.topic}'")
    else if b.limits.topics.any (!·.contains m.topic) then some (.unknownTopic m.topic)
    else if b.limits.maxSize < m.size then some (.tooLarge m.size b.limits.maxSize)
    else none := by
  unfold objection? refusal?
  split_ifs <;> rfl

theorem objection?_of_refusal (h : b.refusal? m = some e) (he : e.isQueueFull = false) :
    b.objection? m = some e := by
  simp [objection?, h, he]

theorem objection?_of_taken (h : b.refusal? m = none) : b.objection? m = none := by
  simp [objection?, h]

theorem accepted_of_none (h : b.objection? m = none) (ms : List Message) :
    b.accepted (ms ++ [m]) = b.accepted ms ++ [m] := by
  simp [accepted, h]

theorem accepted_of_some (h : b.objection? m = some e) (ms : List Message) :
    b.accepted (ms ++ [m]) = b.accepted ms := by
  simp [accepted, h]

theorem refusals_of_none (h : b.objection? m = none) (ms : List Message) :
    b.refusals (ms ++ [m]) = b.refusals ms := by
  simp [refusals, h]

theorem refusals_of_some (h : b.objection? m = some e) (ms : List Message) :
    b.refusals (ms ++ [m]) = b.refusals ms ++ [(m, e)] := by
  simp [refusals, h]

/-! ### Steps of tasks -/

/-- Nothing was sent and nothing was reported. -/
structure Idled (b b' : MemoryBroker) : Prop where
  limits : b'.limits = b.limits
  sent : b'.sent = b.sent
  delivered : b'.delivered = b.delivered
  faults : b'.faults = b.faults
  awake : b.paused = false → b'.paused = false

namespace Idled

theorem refl (b : MemoryBroker) : b.Idled b := ⟨rfl, rfl, rfl, rfl, id⟩

theorem trans (h : b.Idled b') (h' : b'.Idled b'') : b.Idled b'' :=
  ⟨h'.limits.trans h.limits, h'.sent.trans h.sent, h'.delivered.trans h.delivered,
    h'.faults.trans h.faults, h'.awake ∘ h.awake⟩

theorem wake (b : MemoryBroker) (clock : Clock) : b.Idled (b.wake clock) := by
  unfold MemoryBroker.wake
  split
  · exact ⟨rfl, rfl, rfl, rfl, fun _ => rfl⟩
  · exact .refl b

end Idled

/-- A step that reports nothing. -/
theorem idled_step (task : Task) (b : MemoryBroker) (clock : Clock)
    (h : ∀ m batch purpose, task ≠ .deliver (m :: batch) purpose) :
    b.Idled (step task b clock).2.1 := by
  have hwake := Idled.wake b clock
  cases task with
  | poll purpose =>
    simp only [step]
    split_ifs <;> exact hwake.trans ⟨rfl, rfl, rfl, rfl, id⟩
  | deliver batch purpose =>
    cases batch with
    | nil => cases purpose <;> exact .refl b
    | cons m batch => exact absurd rfl (h m batch purpose)
  | flush timeout => exact ⟨rfl, rfl, rfl, rfl, id⟩
  | flushRound deadline =>
    simp only [step]
    split_ifs
    · refine hwake.trans ?_
      unfold waitPaused
      split <;> exact .refl _
    · exact hwake
  | flushCheck deadline =>
    simp only [step]
    split_ifs
    · exact .refl b
    · cases deadline with
      | none => exact .refl b
      | some d =>
        dsimp only
        split_ifs <;> exact .refl b

theorem idled_of_step {task : Task} {clock clock' : Clock} {out : TaskStep Task}
    (h : client.step task b clock = (out, b', clock')) (hout : ∀ r next, out ≠ .report r next) :
    b.Idled b' := by
  have hs : step task b clock = (out, b', clock') := h
  have hidled := idled_step task b clock fun m batch purpose ht => ?_
  · rwa [hs] at hidled
  · subst ht
    exact hout _ _ (Prod.mk.inj hs).1.symm

/-- What is in the queue is taken out in order. -/
theorem flight_of_more {task next : Task} {clock clock' : Clock}
    (h : client.step task b clock = (.more next, b', clock')) :
    next.held ++ b'.inFlight.toList = task.held ++ b.inFlight.toList := by
  suffices hall : ∀ next, (step task b clock).1 = .more next →
      next.held ++ (step task b clock).2.1.inFlight.toList = task.held ++ b.inFlight.toList by
    have hs : step task b clock = (.more next, b', clock') := h
    have hflight := hall next (congrArg Prod.fst hs)
    rwa [hs] at hflight
  intro next hnext
  cases task with
  | poll purpose =>
    simp only [step] at hnext ⊢
    split_ifs at hnext ⊢ <;> cases hnext <;> simp [Task.held]
  | deliver batch purpose =>
    cases batch with
    | nil => cases purpose <;> cases hnext; rfl
    | cons m batch => cases hnext
  | flush timeout =>
    cases hnext
    rfl
  | flushRound deadline =>
    simp only [step] at hnext ⊢
    split_ifs at hnext ⊢
    · unfold waitPaused at hnext ⊢
      split at hnext <;> cases hnext <;> simp_all [Task.held]
    · cases hnext
      simp [Task.held]
  | flushCheck deadline =>
    simp only [step] at hnext ⊢
    split_ifs at hnext ⊢
    cases deadline with
    | none =>
      cases hnext
      rfl
    | some d =>
      dsimp only at hnext ⊢
      split_ifs at hnext ⊢
      cases hnext
      rfl

theorem report_deliver (b : MemoryBroker) (m : Message) :
    (b.deliver m).1 = ⟨m, b.faults.failure? m⟩ := by
  unfold deliver Faults.failure?
  split
  · rfl
  · split <;> rfl

theorem failNext_deliver (b : MemoryBroker) (m : Message) :
    (b.deliver m).2.faults.failNext = b.faults.failNext - 1 := by
  unfold deliver
  split_ifs <;> dsimp only <;> omega

/-! ### Offers and reports -/

namespace Served

theorem start (hb : b.paused = false) : b.Served [] [] b :=
  ⟨hb, (List.append_nil _).symm, (List.append_nil _).symm, fun _ => rfl, rfl, rfl, rfl⟩

theorem idled (h : b.Served A R b') (hb : b'.Idled b'') : b.Served A R b'' := by
  obtain ⟨hawake, hsent, hdelivered, hobjection, hnext, hwhere, hreports⟩ := h
  refine ⟨hb.awake hawake, ?_, ?_, fun m => ?_, ?_, ?_, hreports⟩
  · rw [hb.sent, hsent]
  · rw [hb.delivered, hdelivered]
  · rw [← hobjection, objection?_eq, objection?_eq, hb.limits, hb.faults]
  · rw [hb.faults, hnext]
  · rw [hb.faults, hwhere]

/-- The broker delivers a message or fails it, as its number and its content have it. -/
theorem report (h : b.Served A R b') (m : Message) :
    (b'.deliver m).1 = ⟨m, (b.faults.after R.length).failure? m⟩ ∧
      b.Served A (R ++ [(b'.deliver m).1]) (b'.deliver m).2 := by
  obtain ⟨hawake, hsent, hdelivered, hobjection, hnext, hwhere, hreports⟩ := h
  have hr : (b'.deliver m).1 = ⟨m, (b.faults.after R.length).failure? m⟩ := by
    rw [report_deliver, Faults.failure?, Faults.failure?, hnext, hwhere]
    rfl
  refine ⟨hr, ?_, ?_, ?_, fun n => ?_, ?_, ?_, ?_⟩
  · unfold deliver
    split_ifs <;> exact hawake
  · rw [← hsent]
    unfold deliver
    split_ifs <;> rfl
  · rw [delivered_deliver, hdelivered, arrivals, arrivals, List.filter_append, List.map_append,
      List.append_assoc]
    cases hf : (b'.deliver m).1.failure with
    | none => simp [hf]
    | some e => simp [hf]
  · rw [← hobjection, objection?_eq, objection?_eq]
    unfold deliver
    split_ifs <;> rfl
  · rw [failNext_deliver, hnext, List.length_append, List.length_singleton, Nat.sub_sub]
  · rw [← hwhere]
    unfold deliver
    split_ifs <;> rfl
  · rw [List.map_append, List.map_singleton, message_deliver, Faults.reports, List.mapIdx_concat,
      List.length_map, ← hr]
    exact congrArg (· ++ _) hreports

/-- The broker takes a message to which it has no objection. -/
theorem accept (h : b.Served A R b') (hs : b'.send m = (.ok (), b'')) :
    b.objection? m = none ∧ b.Served (A ++ [m]) R b'' := by
  obtain ⟨hawake, hsent, hdelivered, hobjection, hnext, hwhere, hreports⟩ := h
  rcases send_eq m b' with ⟨-, hsend⟩ | ⟨-, ⟨e, -, hsend⟩ | ⟨hr, hsend⟩⟩ <;>
    obtain ⟨hanswer, rfl⟩ := Prod.mk.inj (hs.symm.trans hsend)
  · cases hanswer
  · cases hanswer
  · refine ⟨(hobjection m).symm.trans (objection?_of_taken hr), hawake, ?_, hdelivered, fun n => ?_,
      hnext, hwhere, hreports⟩
    · rw [taken, Line.toList_pushBack, hsent, List.append_assoc]
    · rw [← hobjection, objection?_eq, objection?_eq]
      rfl

/-- The broker refuses a message for want of room, or because it objects to it. -/
theorem refuse (h : b.Served A R b') (hs : b'.send m = (.error e, b'')) :
    (e.isQueueFull = false → b.objection? m = some e) ∧ b.Served A R b'' := by
  obtain ⟨hawake, hsent, hdelivered, hobjection, hnext, hwhere, hreports⟩ := h
  rcases send_eq m b' with ⟨-, hsend⟩ | ⟨-, ⟨e', hr, hsend⟩ | ⟨-, hsend⟩⟩ <;>
    obtain ⟨hanswer, rfl⟩ := Prod.mk.inj (hs.symm.trans hsend)
  · obtain rfl := Except.error.inj hanswer
    refine ⟨nofun, hawake, hsent, hdelivered, fun n => ?_, hnext, hwhere, hreports⟩
    rw [← hobjection, objection?_eq, objection?_eq]
  · obtain rfl := Except.error.inj hanswer
    refine ⟨fun he => (hobjection m).symm.trans (objection?_of_refusal hr he), ?_⟩
    exact ⟨hawake, hsent, hdelivered, hobjection, hnext, hwhere, hreports⟩
  · cases hanswer

end Served

end MemoryBroker

end Outbox
