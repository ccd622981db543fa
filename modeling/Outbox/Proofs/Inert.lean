import Outbox.Proofs.Abreast
import Outbox.Proofs.Balance

/-! Tracking ids of others, and those of messages that are done with, mean nothing to a producer.
    An application may hand a message in under such an id or without it: as long as its hooks keep
    to themselves and nothing looks at ids, the replies are the same, the hooks are called in the
    same order, and nothing but the ids that are shown differs afterwards. Main statement: two runs
    of an application that differ in this only keep abreast. -/

namespace Outbox

variable {κ α : Type}

/-- The table knows nothing of the message: the id it has, if any, means nothing here. -/
def TrackerTable.Disowns (t : TrackerTable) (m : Message) : Prop :=
  ∀ X, m.tracking = some X → t.Inert X

/-- The conduct keeps to itself: it does nothing but to look around, think, sleep and tell the
    broker something; and what it does depends on no id. -/
inductive Conduct.Blind : Conduct MemoryBroker κ α MemoryWord → Prop where
  | answer (v : Bool) : Blind (.answer v)
  | see {next : World MemoryBroker κ α → Conduct MemoryBroker κ α MemoryWord}
      (hs : ∀ s, next s.untracked = next s) (h : ∀ s, Blind (next s)) : Blind (.see next)
  | instruct {w : MemoryWord} {next : Reply → Conduct MemoryBroker κ α MemoryWord} (hw : w.Blind)
      (h : ∀ r, Blind (next r)) : Blind (.act (.instruct w) next)
  | sleep {d : Span} {next : Reply → Conduct MemoryBroker κ α MemoryWord}
      (h : ∀ r, Blind (next r)) : Blind (.act (.sleep d) next)
  | think {f : α → α} {next : Reply → Conduct MemoryBroker κ α MemoryWord}
      (h : ∀ r, Blind (next r)) : Blind (.act (.think f) next)

/-- The deed is the same, but that it may hand in its message without an id that means nothing. -/
inductive Deed.Recast (t : TrackerTable) :
    Deed κ α MemoryWord → Deed κ α MemoryWord → Prop where
  | same (deed : Deed κ α MemoryWord) : Recast t deed deed
  | add {m : Message} (h : t.Disowns m) :
      Recast t (.operate (.add m)) (.operate (.add m.untracked))
  | produce {m : Message} (h : t.Disowns m) :
      Recast t (.operate (.produce m)) (.operate (.produce m.untracked))
  | produceSync {m : Message} (h : t.Disowns m) :
      Recast t (.operate (.produceSync m)) (.operate (.produceSync m.untracked))

namespace Application

variable {β ο : Type} (app : Application β κ α ο)

/-- Do one deed after another, and keep the replies. -/
def transcript (limit depth : Nat) : List (Deed κ α ο) → Work β κ α (List Reply)
  | [] => return []
  | deed :: deeds => do
    let r ← app.perform (app.surroundings limit depth) deed
    return r :: (← transcript limit depth deeds)

/-- From `s` on the second list of deeds recasts the first, by what is known when each deed of the
    first is done. -/
def Recasts (app : Application MemoryBroker κ α MemoryWord) (limit depth : Nat) :
    List (Deed κ α MemoryWord) → List (Deed κ α MemoryWord) → World MemoryBroker κ α → Prop
  | [], [], _ => True
  | deed :: deeds, deed' :: deeds', s => deed.Recast s.trackers deed' ∧
      ∀ r t, app.perform (app.surroundings limit depth) deed s = some (r, t) →
        Recasts app limit depth deeds deeds' t
  | _, _, _ => False

/-- Deeds are recast if they are the same up to some point, and recast from there on. -/
theorem recasts_append {app : Application MemoryBroker κ α MemoryWord} {limit depth : Nat}
    (deeds : List (Deed κ α MemoryWord)) {more more' : List (Deed κ α MemoryWord)}
    {s : World MemoryBroker κ α}
    (h : ∀ t, app.run limit depth deeds s = some ((), t) →
      app.Recasts limit depth more more' t) :
    app.Recasts limit depth (deeds ++ more) (deeds ++ more') s := by
  induction deeds generalizing s with
  | nil => exact h s rfl
  | cons deed deeds ih =>
    refine ⟨.same deed, fun r t hdeed => ih fun u hu => h u ?_⟩
    rw [run_cons_of_perform hdeed]
    exact hu

theorem recasts_refl {app : Application MemoryBroker κ α MemoryWord} {limit depth : Nat}
    {deeds : List (Deed κ α MemoryWord)} {s : World MemoryBroker κ α} :
    app.Recasts limit depth deeds deeds s := by
  rw [← List.append_nil deeds]
  exact recasts_append _ fun _ _ => trivial

end Application

namespace MemoryBroker

open Act (Abreast)

variable {conduct : κ → HookKind → Message → Option BrokerError →
    Conduct MemoryBroker κ α MemoryWord} {I : TrackingId → Prop}
  {s s' : World MemoryBroker κ α}

/-! ### Hooks and deeds -/

section

variable {env : Surroundings MemoryBroker κ α}

theorem abreast_instruct {w : MemoryWord} (hw : w.Blind) (h : Site.Alike I s s') :
    Abreast ((application conduct).perform env (.instruct w))
      ((application conduct).perform env (.instruct w)) s s' (Same I) := by
  have ht : Site.Alike I (s.brokered (s.broker.heed s.clock w))
      (s'.brokered (s'.broker.heed s'.clock w)) := by
    rw [h.clock]
    exact h.brokered (h.broker.heed hw s.clock)
  exact .some ⟨rfl, ht⟩

theorem abreast_sleep (d : Span) (h : Site.Alike I s s') :
    Abreast ((application conduct).perform env (.sleep d))
      ((application conduct).perform env (.sleep d)) s s' (Same I) := by
  have ht : Site.Alike I (s.turned s.broker (s.clock.sleep d))
      (s'.turned s'.broker (s'.clock.sleep d)) := by
    rw [h.clock]
    exact h.turned h.broker (s.clock.sleep d)
  exact .some ⟨rfl, ht⟩

theorem abreast_think (f : α → α) (h : Site.Alike I s s') :
    Abreast ((application conduct).perform env (.think f))
      ((application conduct).perform env (.think f)) s s' (Same I) := by
  have hu := congrArg (fun u : World MemoryBroker κ α =>
    { u with owner := { u.owner with app := f u.owner.app } }) h.untracked
  exact .some ⟨rfl, hu, h.regular, h.retry, h.broker, h.inert⟩

theorem abreast_seeThrough {c : Conduct MemoryBroker κ α MemoryWord} (hc : c.Blind)
    (h : Site.Alike I s s') :
    Abreast (c.seeThrough ((application conduct).perform env))
      (c.seeThrough ((application conduct).perform env)) s s' (Same I) := by
  induction hc generalizing s s' with
  | answer v => exact .pure ⟨rfl, h⟩
  | @see next hs _ ih =>
    refine .of_eq (Site.get_bind ..) (Site.get_bind ..) ?_
    rw [h.view hs]
    exact ih s h
  | instruct hw _ ih => exact (abreast_instruct hw h).same fun r t t' ht => ih r ht
  | sleep _ ih => exact (abreast_sleep _ h).same fun r t t' ht => ih r ht
  | think _ ih => exact (abreast_think _ h).same fun r t t' ht => ih r ht

end

/-- No hook depends on an id. -/
def Unseeing (conduct : κ → HookKind → Message → Option BrokerError →
    Conduct MemoryBroker κ α MemoryWord) : Prop :=
  ∀ hook kind m e, (conduct hook kind m e).Blind ∧
    conduct hook kind m.untracked e = conduct hook kind m e

theorem blind_surroundings (hconduct : Unseeing conduct) (I : TrackingId → Prop)
    (limit depth : Nat) :
    (surroundings ((application conduct).called limit depth) limit).Blind I := by
  intro hook kind m m' e s s' hm h
  cases depth with
  | zero => exact .stuck
  | succ depth =>
    have hc : conduct hook kind m' e = conduct hook kind m e :=
      hm.agree (f := (conduct hook kind · e)) fun n => (hconduct hook kind n e).2
    have hcalled : Abreast ((conduct hook kind m e).seeThrough
          ((application conduct).perform ((application conduct).surroundings limit depth)))
        ((conduct hook kind m e).seeThrough
          ((application conduct).perform ((application conduct).surroundings limit depth))) s s'
        (Same I) :=
      abreast_seeThrough (hconduct hook kind m e).1 h
    refine .of_eq rfl ?_ hcalled
    rw [← hc]
    rfl

theorem abreast_perform (hconduct : Unseeing conduct) (limit depth : Nat)
    {deed deed' : Deed κ α MemoryWord} (hw : ∀ w, deed = .instruct w → w.Blind)
    (hdeed : deed.Recast s.trackers deed') (h : Site.Alike s.trackers.Inert s s') :
    Abreast ((application conduct).perform ((application conduct).surroundings limit depth) deed)
      ((application conduct).perform ((application conduct).surroundings limit depth) deed')
      s s' (Same s.trackers.Inert) := by
  have henv := blind_surroundings hconduct s.trackers.Inert limit depth
  cases hdeed with
  | add hm => exact abreast_operate henv (.add (.erase hm)) h
  | produce hm => exact abreast_operate henv (.produce (.erase hm)) h
  | produceSync hm => exact abreast_operate henv (.produceSync (.erase hm)) h
  | same =>
    cases deed with
    | operate op => exact abreast_operate henv (.refl op) h
    | register kind hook =>
      have hset := abreast_set (f := (·.setHook kind hook)) h (fun _ => rfl) (fun _ => rfl)
        (fun _ => rfl) fun _ => rfl
      exact hset.same fun _ t t' ht => .pure ⟨rfl, ht⟩
    | pollBroker => exact (abreast_poll henv h).same fun _ t t' ht => .pure ⟨rfl, ht⟩
    | flushBroker timeout =>
      exact (abreast_flushBroker henv timeout h).same fun _ t t' ht => .pure ⟨rfl, ht⟩
    | instruct w => exact abreast_instruct (hw w rfl) h
    | sleep d => exact abreast_sleep d h
    | think f => exact abreast_think f h

/-! ### Runs -/

/-- Recast deeds keep abreast, and get the same replies. -/
theorem abreast_transcript (hconduct : Unseeing conduct) {limit depth : Nat}
    {deeds deeds' : List (Deed κ α MemoryWord)} (hwords : ∀ w, .instruct w ∈ deeds → w.Blind)
    (hdeeds : (application conduct).Recasts limit depth deeds deeds' s)
    (h : Site.Alike s.trackers.Inert s s') :
    Abreast ((application conduct).transcript limit depth deeds)
      ((application conduct).transcript limit depth deeds') s s' fun rs rs' t t' =>
        rs' = rs ∧ Site.Alike t.trackers.Inert t t' := by
  induction deeds generalizing deeds' s s' with
  | nil =>
    cases deeds' with
    | nil => exact .pure ⟨rfl, h⟩
    | cons deed' deeds' => exact hdeeds.elim
  | cons deed deeds ih =>
    cases deeds' with
    | nil => exact hdeeds.elim
    | cons deed' deeds' =>
      obtain ⟨hdeed, hrest⟩ := hdeeds
      have hw : ∀ w, deed = .instruct w → w.Blind := fun w hw =>
        hwords w (hw ▸ List.mem_cons_self)
      have hfirst := abreast_perform hconduct limit depth hw hdeed h
      refine hfirst.retain.bind fun r r' t t' ht => ?_
      obtain ⟨⟨rfl, ht⟩, hdone⟩ := ht
      refine (ih (fun w hw => hwords w (List.mem_cons_of_mem deed hw)) (hrest r' t hdone)
        ht.widen).bind fun rs rs' u u' hu => ?_
      exact .pure ⟨congrArg (r' :: ·) hu.1, hu.2⟩

/-! ### Messages of others -/

/-- Nothing is asked of what becomes of the broker. -/
def anyhow : Leeway MemoryBroker := ⟨fun _ _ => True, fun _ => trivial, fun _ _ => trivial⟩

/-- For the producer nothing has happened when such a hook comes back. -/
theorem unmoved_seeThrough {env : Surroundings MemoryBroker κ α}
    {c : Conduct MemoryBroker κ α MemoryWord} (hc : c.Blind) :
    (c.seeThrough ((application conduct).perform env)).Meets False s fun _ t =>
      s.Unmoved anyhow t := by
  induction hc generalizing s with
  | answer v => exact .pure (.refl s)
  | see _ _ ih => exact .of_eq (Site.get_bind ..) (ih s)
  | @instruct w next _ _ ih =>
    have ht : s.Unmoved anyhow (s.brokered (s.broker.heed s.clock w)) := .of_broker trivial
    exact .of_eq (y := (next .done).seeThrough _) rfl ((ih .done).mono fun _ _ hu => ht.trans hu)
  | @sleep d next _ ih =>
    have ht : s.Unmoved anyhow (s.turned s.broker (s.clock.sleep d)) := .turn trivial _
    exact .of_eq (y := (next .done).seeThrough _) rfl ((ih .done).mono fun _ _ hu => ht.trans hu)
  | @think f next _ ih =>
    have ht : s.Unmoved anyhow { s with owner := { s.owner with app := f s.owner.app } } :=
      ⟨.refl _, trivial, fun _ => rfl⟩
    exact .of_eq (y := (next .done).seeThrough _) rfl ((ih .done).mono fun _ _ hu => ht.trans hu)

theorem polite_of_unseeing (hconduct : Unseeing conduct) (limit depth : Nat) (hooks : Hooks κ) :
    (surroundings ((application conduct).called limit depth) limit).Polite False anyhow
      (fun _ _ _ _ => True) hooks where
  called {kind hook} _ m e s := by
    cases depth with
    | zero =>
      refine ⟨fun v t h => ?_, fun h => h.elim⟩
      simp [surroundings, Application.called, Act.stuck] at h
    | succ depth =>
      exact (unmoved_seeThrough (hconduct hook kind m e).1).mono fun _ _ ht =>
        ⟨ht, fun _ _ => trivial⟩
  absent _ _ _ := trivial

/-- The message is dealt with and no tracker is changed: not by its report, nor by its refusal, nor
    when it is discarded. If it is given a tracker, that is a new one. -/
structure Harmless (env : Surroundings MemoryBroker κ α) (s : World MemoryBroker κ α)
    (m : Message) : Prop where
  received : ∀ failure v t, env.receive ⟨m, failure⟩ s = some (v, t) →
    ∀ X, t.trackers.lookup? X = s.trackers.lookup? X
  refused : ∀ cause requeue v t, env.receiveRefusal m cause requeue s = some (v, t) →
    ∀ X, t.trackers.lookup? X = s.trackers.lookup? X
  discarded : ∀ v t, Work.discard m s = some (v, t) →
    ∀ X, t.trackers.lookup? X = s.trackers.lookup? X
  attached : ∀ sender budget X, X ≠ s.trackers.nextId →
    (s.attach m sender budget).2.2.trackers.lookup? X = s.trackers.lookup? X

theorem harmless_of_disowns (hconduct : Unseeing conduct) (limit depth : Nat)
    {s : World MemoryBroker κ α} {m : Message} (hm : s.trackers.Disowns m) :
    Harmless (surroundings ((application conduct).called limit depth) limit) s m := by
  have hfind : s.producer.trackers.find? m = none := TrackerTable.find?_of_inert hm
  have hrelease : s.producer.trackers.release m = s.producer.trackers := by
    rw [TrackerTable.release, hfind]
  have hpolite := polite_of_unseeing hconduct limit depth s.producer.hooks
  constructor
  case received =>
    intro failure v t h X
    obtain ⟨o, w, hw, ht⟩ := (Surroundings.meets_receive hpolite ⟨m, failure⟩).post v t h
    rw [hfind] at ht
    refine (ht.like.lookup X).trans ?_
    cases hw with
    | delivered => exact congrArg (·.lookup? X) hrelease
    | dropped _ => exact congrArg (·.lookup? X) hrelease
    | requeued _ hm _ | left _ hm _ =>
      rw [hfind] at hm
      contradiction
  case refused =>
    intro cause requeue v t h X
    obtain ⟨w, hw, ht⟩ := (Surroundings.meets_receiveRefusal hpolite cause requeue).post v t h
    refine (ht.like.lookup X).trans ?_
    cases hw with
    | dropped _ => exact congrArg (·.lookup? X) hrelease
    | deferred _ hm _ | kept _ hm _ =>
      rw [hfind] at hm
      contradiction
  case discarded =>
    intro v t h X
    obtain ⟨-, rfl⟩ := Act.pure_eq_some.mp h
    exact congrArg (·.lookup? X) hrelease
  case attached =>
    intro sender budget X hX
    rw [Site.trackers_attach, TrackerTable.lookup?_attach, if_neg fun h => hX h.2]

/-- Ids of others and of messages that are done with make no difference, whether they are shown or
    not: not to the replies, nor to the calls of hooks, nor to the state but for the ids that it
    shows. In the end the trackers are the same, and no message with such an id will harm them. -/
theorem inert_of_transcript (hconduct : Unseeing conduct) {limits : MemoryLimits} {clock : Clock}
    {settings : Settings} {scope : Nat} {a : α} {limit depth : Nat}
    {deeds deeds' : List (Deed κ α MemoryWord)} (hwords : ∀ w, .instruct w ∈ deeds → w.Blind)
    (hdeeds : (application conduct).Recasts limit depth deeds deeds'
      (.opening { limits := limits } clock settings scope a)) :
    Abreast ((application conduct).transcript limit depth deeds)
      ((application conduct).transcript limit depth deeds')
      (.opening { limits := limits } clock settings scope a)
      (.opening { limits := limits } clock settings scope a) fun rs rs' t t' =>
        rs' = rs ∧ t'.untracked = t.untracked ∧ t'.trackers = t.trackers ∧
          ∀ m, t.trackers.Disowns m →
            Harmless ((application conduct).surroundings limit depth) t m := by
  have hblind : ({ limits := limits } : MemoryBroker).faults.Heedless :=
    ⟨fun _ h => by simp at h, fun _ h => by simp at h⟩
  refine (abreast_transcript hconduct hwords hdeeds (.refl hblind)).mono fun rs rs' t t' ht => ?_
  obtain ⟨hreplies, ht⟩ := ht
  exact ⟨hreplies, ht.untracked, ht.trackers,
    fun m hm => harmless_of_disowns hconduct limit depth hm⟩

/-- A hook that counts how often it is called, and allows no retry on one of the topics. -/
def keepCount (_ : Unit) (_ : HookKind) (m : Message) (_ : Option BrokerError) :
    Conduct MemoryBroker Unit Nat MemoryWord :=
  .act (.think (· + 1)) fun _ => .answer (m.topic != "once")

theorem unseeing_keepCount : Unseeing keepCount :=
  fun _ _ _ _ => ⟨.think fun _ => .answer _, rfl⟩

/-- The next deliveries may fail whatever the messages look like. -/
theorem blind_failNext (n : Nat) : (MemoryWord.order (.failNext n)).Blind := by
  intro b clock h
  have hfaults : (b.wake clock).faults = b.faults := by
    unfold wake
    split <;> rfl
  rw [← hfaults] at h
  exact ⟨h.failing, h.rejecting⟩

/-- A message comes in under an id of another producer, while the local message with that number
    waits to be sent again. -/
theorem inert_keepCount :
    (∀ w, .instruct w ∈ ([.register .deliveryFailed (), .operate (.setRetryBudget 1),
        .instruct (.order (.failNext 2)), .operate (.add { topic := "a" }), .operate .flushAsync,
        .operate (.produceSync { topic := "b", tracking := some ⟨7, 0⟩ }),
        .operate (.flush true)] : List (Deed Unit Nat MemoryWord)) → w.Blind) ∧
    Abreast ((application keepCount).transcript 40 1
        [.register .deliveryFailed (), .operate (.setRetryBudget 1),
          .instruct (.order (.failNext 2)), .operate (.add { topic := "a" }), .operate .flushAsync,
          .operate (.produceSync { topic := "b", tracking := some ⟨7, 0⟩ }),
          .operate (.flush true)])
      ((application keepCount).transcript 40 1
        [.register .deliveryFailed (), .operate (.setRetryBudget 1),
          .instruct (.order (.failNext 2)), .operate (.add { topic := "a" }), .operate .flushAsync,
          .operate (.produceSync { topic := "b" }), .operate (.flush true)])
      (.opening { limits := {} } {} {} 0 0) (.opening { limits := {} } {} {} 0 0)
      fun rs rs' t t' =>
        rs' = rs ∧ t'.untracked = t.untracked ∧ t'.trackers = t.trackers ∧
          ∀ m, t.trackers.Disowns m → Harmless ((application keepCount).surroundings 40 1) t m := by
  have hwords : ∀ w, .instruct w ∈ ([.register .deliveryFailed (), .operate (.setRetryBudget 1),
      .instruct (.order (.failNext 2)), .operate (.add { topic := "a" }), .operate .flushAsync,
      .operate (.produceSync { topic := "b", tracking := some ⟨7, 0⟩ }),
      .operate (.flush true)] : List (Deed Unit Nat MemoryWord)) → w.Blind := by
    intro w hw
    obtain rfl : w = .order (.failNext 2) := by simpa using hw
    exact blind_failNext 2
  refine ⟨hwords, inert_of_transcript unseeing_keepCount hwords ?_⟩
  refine Application.recasts_append
    ([.register .deliveryFailed (), .operate (.setRetryBudget 1),
      .instruct (.order (.failNext 2)), .operate (.add { topic := "a" }), .operate .flushAsync])
    fun t ht => ?_
  have hrun : ((application keepCount).run 40 1
      [.register .deliveryFailed (), .operate (.setRetryBudget 1),
        .instruct (.order (.failNext 2)), .operate (.add { topic := "a" }), .operate .flushAsync]
      (.opening { limits := {} } {} {} 0 0)).any
        (fun r => r.2.trackers.scope == 0 && r.2.trackers.isLive ⟨0, 0⟩) = true := by
    decide +kernel
  rw [ht, Option.any_some, Bool.and_eq_true, beq_iff_eq] at hrun
  refine ⟨.produceSync fun X hX => .inl ?_, fun _ _ _ => Application.recasts_refl⟩
  obtain rfl : ⟨7, 0⟩ = X := by simpa using hX
  rw [hrun.1]
  decide

end MemoryBroker

end Outbox
