import Outbox.Proofs.Partition

/-! The tracker table is a register of the messages that a producer still has to do with. A tracker
    comes into it when a message is tracked and goes out of it when the message is delivered,
    dropped or cleared, on whatever way that happens. Main statement: at every return to the
    outermost caller the live trackers are those of the messages in the buffers and in the broker's
    queue, one tracker for each. -/

namespace Outbox

/-! ### The live part of a table -/

theorem Numbered.toList_eq {α : Type} (t : Numbered α) :
    t.toList = t.entries.toList.map Prod.snd := by
  have hvalues : t.entries.values = _ := Std.DTreeMap.Internal.Impl.values_eq_map_snd
  have htoList : t.entries.toList = _ := Std.DTreeMap.Internal.Impl.Const.toList_eq_toListModel_map
  rw [toList, hvalues, htoList, List.map_map]
  rfl

/-- Things are counted by their numbers. -/
theorem Numbered.countP_toList {α : Type} (t : Numbered α) (p : α → Bool) :
    t.toList.countP p = (List.range t.size).countP fun n => (t.get? n).any p := by
  have hkeys : t.entries.keys.Perm (List.range t.size) := by
    refine (List.perm_ext_iff_of_nodup t.entries.nodup_keys List.nodup_range).mpr fun n => ?_
    rw [Std.TreeMap.mem_keys, t.mem_iff, List.mem_range]
  have hentry : ∀ e ∈ t.entries.toList, p e.2 = true ↔ (t.get? e.1).any p = true := by
    rintro ⟨n, x⟩ he
    rw [get?, Std.TreeMap.mem_toList_iff_getElem?_eq_some.mp he, Option.any_some]
  rw [toList_eq, List.countP_map, ← hkeys.countP_eq, ← Std.TreeMap.map_fst_toList_eq_keys,
    List.countP_map]
  exact List.countP_congr hentry

namespace TrackerTable

variable (t : TrackerTable)

/-- The ids under which the table has live trackers. -/
def liveIds : List TrackingId :=
  ((List.range t.issued.size).map fun n => ⟨t.scope, n⟩).filter t.isLive

@[simp] theorem mem_liveIds {id : TrackingId} : id ∈ t.liveIds ↔ t.isLive id = true := by
  rw [liveIds, List.mem_filter, List.mem_map]
  constructor
  · rintro ⟨-, hlive⟩
    exact hlive
  · intro hlive
    obtain ⟨hscope, e, he, -⟩ := isLive_iff.mp hlive
    have hsome : (t.issued.get? id.sequence).isSome = true := by rw [he]; rfl
    refine ⟨⟨id.sequence, List.mem_range.mpr ((t.issued.isSome_get? _).mp hsome), ?_⟩, hlive⟩
    rw [← hscope]

theorem nodup_liveIds : t.liveIds.Nodup := by
  refine (List.nodup_range.map ?_).filter _
  rintro n k h
  exact (TrackingId.mk.inj h).2

theorem length_liveIds : t.liveIds.length = t.size := by
  rw [liveIds, ← List.countP_eq_length_filter, List.countP_map, size, Numbered.countP_toList]
  refine List.countP_congr fun n _ => ?_
  simp [isLive]

end TrackerTable

/-! ### Threads at rest -/

/-- A message is in a buffer or at the broker. -/
def Place.isAtRest : Place → Bool
  | stocked | flying => true
  | _ => false

/-- Where nobody waits, whoever flushes next sends a message again that is at rest. -/
theorem Thread.free_of_isAtRest {X : TrackingId} {e : Option Issued} {p : Place} (h : At X 0 e p)
    (hp : p.isAtRest = true) : Free 0 e := by
  cases p with
  | stocked => exact h
  | flying =>
    refine h.resolve_right ?_
    rintro ⟨_, _, _, hW, -⟩
    exact absurd hW.symm (Multiset.singleton_ne_zero _)
  | _ => cases hp

/-- Where nobody waits and nobody is given up, there is a message for each live tracker and for no
    other. -/
theorem Thread.Sound.card_spots {X : TrackingId} {law : Law} {v : Thread} (h : v.Sound X law)
    (hf : ¬ law.failing) (hw : v.waits = 0) (hp : ∀ q ∈ v.spots, q.1.isAtRest = true) :
    v.spots.card = if v.entry.any (·.live) then 1 else 0 := by
  obtain ⟨P, W, e⟩ := v
  obtain rfl : W = 0 := hw
  rcases h with ⟨hP, ⟨-, he⟩ | ⟨_, _, _, hW, -⟩ | ⟨k, he, -⟩ | ⟨h, -⟩⟩ | ⟨p, m, hP, hat⟩
  · obtain ⟨rfl, rfl⟩ : P = 0 ∧ e = none := ⟨hP, he⟩
    rfl
  · exact absurd hW.symm (Multiset.singleton_ne_zero _)
  · obtain ⟨rfl, rfl⟩ : P = 0 ∧ e = some ⟨k, false⟩ := ⟨hP, he⟩
    rfl
  · exact absurd h hf
  · obtain rfl : P = {(p, m)} := hP
    obtain ⟨-, k, rfl, -⟩ := free_of_isAtRest hat (hp (p, m) (Multiset.mem_singleton_self _))
    rfl

variable {β κ α : Type}

/-- The ids of the scope that messages carry. -/
def carried (scope : Nat) (A : Multiset Message) : Multiset TrackingId :=
  (A.filterMap Message.tracking).filter fun id => id.scope = scope

theorem count_carried {scope : Nat} {X : TrackingId} (hX : X.scope = scope) (A : Multiset Message) :
    (carried scope A).count X = A.countP fun m => m.tracking = some X := by
  have hfilter : (carried scope A).count X = (A.filterMap Message.tracking).count X :=
    Multiset.count_filter_of_pos hX
  rw [hfilter]
  clear hfilter
  induction A using Multiset.induction with
  | empty => rfl
  | cons m A ih =>
    rw [Multiset.countP_cons, ← ih]
    cases hm : m.tracking with
    | none => simp [Multiset.filterMap_cons_none _ _ hm]
    | some id => simp [Multiset.filterMap_cons_some _ _ _ hm, Multiset.count_cons, eq_comm]

/-- With nothing in hand every message is at rest. -/
theorem isAtRest_of_mem_along (X : TrackingId) (A M : Multiset Message) :
    ∀ q ∈ along X (places A M 0), q.1.isAtRest = true := by
  intro q hq
  have hq := Multiset.mem_of_mem_filter hq
  simp only [places, add_zero, Multiset.mem_add, Multiset.mem_map] at hq
  rcases hq with ⟨m, -, rfl⟩ | ⟨m, -, rfl⟩ <;> rfl

theorem card_along_places (X : TrackingId) (A M : Multiset Message) :
    (along X (places A M 0)).card = (A + M).countP fun m => m.tracking = some X := by
  rw [along, ← Multiset.countP_eq_card_filter, places, add_zero, Multiset.countP_add,
    Multiset.countP_add, Multiset.countP_map, Multiset.countP_map,
    ← Multiset.countP_eq_card_filter, ← Multiset.countP_eq_card_filter]

/-- Between two operations the live trackers are those of the messages that are somewhere. -/
theorem Scene.Orderly.liveIds_eq {c : Client β} {ι : Type} {φ : Message → ι} {law : Law}
    {scope : Nat} {T : List c.Task} {M : Multiset Message} {t : World β κ α}
    (h : (⟨T, 0, 0, M, t⟩ : Scene c κ α).Orderly φ law scope) (hf : ¬ law.failing) :
    (t.trackers.liveIds : Multiset TrackingId) = carried scope (t.stock + M) := by
  ext X
  by_cases hX : X.scope = scope
  · have hcard := (h.sound X hX).card_spots hf rfl (isAtRest_of_mem_along X t.stock M)
    have hlive : (t.trackers.lookup? X).any (·.live) = t.trackers.isLive X :=
      (t.trackers.isLive_eq X).symm
    rw [count_carried hX, ← card_along_places, Multiset.coe_count,
      t.trackers.nodup_liveIds.count]
    simp only [TrackerTable.mem_liveIds, ← hlive]
    exact hcard.symm
  · have hdead : X ∉ t.trackers.liveIds := by
      rw [TrackerTable.mem_liveIds]
      exact fun hlive => hX ((TrackerTable.isLive_iff.mp hlive).1.trans h.issuer)
    have hforeign : X ∉ carried scope (t.stock + M) := fun h => hX (Multiset.mem_filter.mp h).2
    rw [Multiset.coe_count, List.count_eq_zero_of_not_mem hdead,
      Multiset.count_eq_zero_of_notMem hforeign]

namespace MemoryBroker

/-- The messages that the producer still has to do with, between two operations. -/
def unsettled (t : World MemoryBroker κ α) : Multiset Message :=
  t.stock + (t.broker.inFlight.toList : List Message)

/-- The tracker table, between two operations. -/
structure Registered (t : World MemoryBroker κ α) : Prop where
  /-- The live trackers are those of the buffered messages and of those in the broker's queue. -/
  ids : (t.trackers.liveIds : Multiset TrackingId) = carried t.trackers.scope (unsettled t)
  /-- No two messages share a tracker. -/
  nodup : (carried t.trackers.scope (unsettled t)).Nodup
  size : t.trackers.size = (carried t.trackers.scope (unsettled t)).card
  size_eq_zero : t.producer.buffered = 0 → t.broker.inFlight.size = 0 → t.trackers.size = 0

/-- At every return to the outermost caller the table holds a live tracker for each message that is
    buffered or in the broker's queue, and no other, if no message was handed in under an id of the
    producer. -/
theorem registered_of_run {conduct : κ → HookKind → Message → Option BrokerError →
      Conduct MemoryBroker κ α MemoryWord} {limits : MemoryLimits} {clock : Clock}
    {settings : Settings} {scope : Nat} {a : α} {limit depth : Nat}
    {deeds : List (Deed κ α MemoryWord)} {t : World MemoryBroker κ α}
    (h : (application conduct).run limit depth deeds
      (.opening { limits := limits } clock settings scope a) = some ((), t))
    (hX : ∀ e ∈ t.journal, e.event.isForgery scope = false) : Registered t := by
  have hc := exact_application conduct limits
  have ho : (application conduct).Obeys ⟨False, True⟩ := ⟨not_mayFail, .inr trivial⟩
  obtain ⟨M, hmoves⟩ := Application.leads_run (H := 0) (W := 0) (T := []) ho (.inl trivial) h 0
  have hS := Scene.Balanced.opening (κ := κ) client (application conduct).Told
    { limits := limits } clock settings scope a
  have horderly := Scene.Orderly.moves hc.honest (hc.keeps Message.untracked) hmoves hS
    (fun X => unforged_of_scope hX)
    (Scene.orderly_opening Message.untracked _ client _ clock settings scope a)
  obtain rfl : t.trackers.scope = scope := horderly.issuer
  have hids : (t.trackers.liveIds : Multiset TrackingId) =
      carried t.trackers.scope (unsettled t) := by
    rw [unsettled, ← flight_eq (hS.moves hc.honest hmoves)]
    exact horderly.liveIds_eq id
  have hsize : t.trackers.size = (carried t.trackers.scope (unsettled t)).card := by
    rw [← hids, Multiset.coe_card, TrackerTable.length_liveIds]
  refine ⟨hids, ?_, hsize, ?_⟩
  · rw [← hids]
    exact t.trackers.nodup_liveIds
  · intro hbuffered hqueue
    have hnone : (unsettled t).card = 0 := by
      simpa [unsettled, Site.stock, Producer.buffered, hqueue] using hbuffered
    rw [hsize, Multiset.card_eq_zero.mp hnone]
    rfl

/-- After the incidents a message is refused and goes to the retry buffer. -/
def leftovers : List (Deed Unit Unit MemoryWord) :=
  incidents ++ [.instruct (.fault fun f => { f with rejectWhere := some fun _ => true }),
    .operate (.produce { topic := "retry" })]

/-- There are trackers for three messages: one in each buffer and one in the broker's queue. -/
def isLittered (t : World MemoryBroker Unit Unit) : Bool :=
  isGenuine t && t.trackers.size == 3

theorem registered_complain :
    ∃ t, (application complain).run 60 2 leftovers (.opening { limits := {} } {} {} 0 ()) =
        some ((), t) ∧
      (∀ e ∈ t.journal, e.event.isForgery 0 = false) ∧ t.trackers.size = 3 ∧ Registered t := by
  have hrun : ((application complain).run 60 2 leftovers
      (.opening { limits := {} } {} {} 0 ())).any (fun r => isLittered r.2) = true := by
    decide +kernel
  obtain ⟨t, ht, hp⟩ := Application.exists_run hrun
  simp only [isLittered, Bool.and_eq_true, beq_iff_eq] at hp
  obtain ⟨hgenuine, hsize⟩ := hp
  have hX : ∀ e ∈ t.journal, e.event.isForgery 0 = false := by simpa [isGenuine] using hgenuine
  exact ⟨t, ht, hX, hsize, registered_of_run ht hX⟩

end MemoryBroker

end Outbox
