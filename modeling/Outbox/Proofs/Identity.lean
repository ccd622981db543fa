import Mathlib.Data.List.Nodup
import Outbox.Proofs.Issuing

/-! What a table says about a message can be told from what was done before, in whichever order and
    to however many tables. A tracker is born when an attachment writes a new id into a message; the
    id says from then on which tracker is meant, in copies of the message too, and no other is born
    with it. Main statement: a table finds a message exactly if the message has an id that was born
    in this table and was not released there since, and then it finds the tracker that was born
    with this id. An attachment makes a new tracker exactly if nothing is found, and a release is
    the end of the one entry that is found. A tracker grants as many retries as it was born with,
    and each is for the sender that was set last. -/

namespace Outbox

/-- A request, with the reply, and with what was the case before and after. -/
structure Exchange where
  request : TrackerRequest
  reply : TrackerReply
  before : TrackerSession
  after : TrackerSession

/-- A new tracker, and the id under which it was issued. -/
structure Birth where
  id : TrackingId
  sender : Sender
  budget : Nat

namespace Exchange

/-- An attachment after which the message has another id gave birth to a tracker. -/
def birth? (e : Exchange) : Option Birth :=
  match e.request with
  | .attach _ m sender budget =>
    if e.after.carries? m = e.before.carries? m then none
    else (e.after.carries? m).map fun id => ⟨id, sender, budget⟩
  | _ => none

/-- The id that was released, if it was released in its own table. -/
def released? (e : Exchange) : Option TrackingId :=
  match e.request with
  | .release k m => (e.before.carries? m).filter (·.scope = k)
  | _ => none

/-- The tracker with handle `h` granted a retry. -/
def grants (e : Exchange) (h : Nat) : Bool :=
  match e.request, e.reply with
  | .act h' .claimRetry, .sender _ => h' == h
  | _, _ => false

/-- Who was said to send again what the tracker with handle `h` is for. -/
def sets? (e : Exchange) (h : Nat) : Option Sender :=
  match e.request, e.reply with
  | .act h' (.setSender k), .done => if h' = h then some k else none
  | _, _ => none

end Exchange

/-- All births. The place of a birth among them is the handle of the tracker. -/
def births (es : List Exchange) : List Birth := es.filterMap (·.birth?)

/-- A tracker was born with `id`, and the id was not released since. -/
def Standing (es : List Exchange) (id : TrackingId) : Prop :=
  ∃ early e late, es = early ++ e :: late ∧ e.birth?.map (·.id) = some id ∧
    ∀ x ∈ late, x.released? ≠ some id

/-- How many retries were granted by the tracker with handle `h`. -/
def granted (es : List Exchange) (h : Nat) : Nat := es.countP (·.grants h)

/-- The sender that was set last, `first` if none was. -/
def lastSender (es : List Exchange) (h : Nat) (first : Sender) : Sender :=
  es.foldl (fun k e => (e.sets? h).getD k) first

/-- What has become of the tracker that was born as number `h`. -/
structure Grown (es : List Exchange) (h : Nat) (b : Birth) (x : Issued) : Prop where
  sender : x.tracker.sender = lastSender es h b.sender
  remaining : x.tracker.remaining + granted es h = b.budget
  live : x.live = true ↔ Standing es b.id

namespace TrackerSession

/-- One request. -/
def exchange (s : TrackerSession) (r : TrackerRequest) : Exchange :=
  ⟨r, (s.step r).1, s, (s.step r).2⟩

/-- One request after the other. -/
def exchanges (s : TrackerSession) : List TrackerRequest → List Exchange
  | [] => []
  | r :: rs => s.exchange r :: (s.step r).2.exchanges rs

/-- Message `m` has an id that was born in table `k` and was not released since. -/
structure Tracked (es : List Exchange) (s : TrackerSession) (k m : Nat) (id : TrackingId) :
    Prop where
  carries : s.carries? m = some id
  own : id.scope = k
  standing : Standing es id

/-- What a session does is what was done before says. -/
structure Identified (es : List Exchange) (s : TrackerSession) : Prop where
  /-- No two trackers were born with one id, and each has a handle of its own. -/
  distinct : ((births es).map (·.id)).Nodup
  handles : s.handles = (births es).map (·.id)
  /-- A table holds what was born there, each under its own id. -/
  entries : ∀ k table id x, s.tables[k]? = some table → table.lookup? id = some x →
    id.scope = k ∧ ∃ h b, (births es)[h]? = some b ∧ b.id = id ∧ Grown es h b x
  born : ∀ h b, (births es)[h]? = some b →
    ∃ table x, s.tables[b.id.scope]? = some table ∧ table.lookup? b.id = some x ∧ Grown es h b x
  found : ∀ k m h b, (births es)[h]? = some b → Tracked es s k m b.id →
    s.step (.find k m) = (.index h, s)
  not_found : ∀ k m, k < s.tables.length → m < s.messages.length →
    (∀ id, ¬ Tracked es s k m id) → s.step (.find k m) = (.nothing, s)
  /-- To attach what is found is to find it. -/
  attached : ∀ k m h b sender budget, (births es)[h]? = some b → Tracked es s k m b.id →
    s.step (.attach k m sender budget) = (.index h, s)
  /-- To attach anything else is to give it an id that was never issued and that no message has. -/
  renewed : ∀ k m sender budget, k < s.tables.length → m < s.messages.length →
    (∀ id, ¬ Tracked es s k m id) →
      ∃ id, id.scope = k ∧ id ∉ (births es).map (·.id) ∧ (∀ j, s.carries? j ≠ some id) ∧
        (s.step (.attach k m sender budget)).1 = .index (births es).length ∧
        s.Adds (s.step (.attach k m sender budget)).2 m id (.fresh sender budget)
  /-- A release ends one entry, and the tracker goes on. -/
  released : ∀ k m id, (s.step (.release k m)).2.held? id =
    if s.carries? m = some id ∧ id.scope = k then (s.held? id).map (·.ended) else s.held? id
  kept : ∀ k m, (s.step (.release k m)).2.handles = s.handles ∧
    (s.step (.release k m)).2.messages = s.messages ∧
    ∀ id, (s.step (.release k m)).2.tracker? id = s.tracker? id
  foreign : ∀ k m, (∀ id, s.carries? m = some id → id.scope ≠ k) → (s.step (.release k m)).2 = s
  /-- A tracker grants what it was born with and no more, to the sender that was set last. -/
  bounded : ∀ h b, (births es)[h]? = some b → granted es h ≤ b.budget
  claims : ∀ h b, (births es)[h]? = some b → (s.step (.act h .claimRetry)).1 =
    if granted es h < b.budget then .sender (lastSender es h b.sender) else .nothing

end TrackerSession

/-! ### One exchange more -/

variable {es : List Exchange} {e : Exchange} {id : TrackingId} {h : Nat} {first : Sender}

theorem births_snoc (es : List Exchange) (e : Exchange) :
    births (es ++ [e]) = births es ++ e.birth?.toList := by
  rw [births, List.filterMap_append]
  cases hb : e.birth? <;> simp [births, hb]

theorem standing_snoc : Standing (es ++ [e]) id ↔
    e.birth?.map (·.id) = some id ∨ Standing es id ∧ e.released? ≠ some id := by
  constructor
  · rintro ⟨early, x, late, heq, hbirth, hlate⟩
    rcases List.eq_nil_or_concat late with rfl | ⟨late, last, rfl⟩
    · obtain ⟨-, rfl⟩ := List.append_singleton_inj.mp heq
      exact .inl hbirth
    · have heq' : es ++ [e] = (early ++ x :: late) ++ [last] := by simpa using heq
      obtain ⟨rfl, rfl⟩ := List.append_singleton_inj.mp heq'
      rw [List.concat_eq_append] at hlate
      refine .inr ⟨⟨early, x, late, rfl, hbirth, fun y hy => ?_⟩, ?_⟩
      · exact hlate y (List.mem_append_left _ hy)
      · exact hlate e (by simp)
  · rintro (hbirth | ⟨⟨early, x, late, rfl, hbirth, hlate⟩, hlast⟩)
    · exact ⟨es, e, [], rfl, hbirth, fun y hy => absurd hy List.not_mem_nil⟩
    · refine ⟨early, x, late ++ [e], by simp, hbirth, fun y hy => ?_⟩
      rcases List.mem_append.mp hy with hy | hy
      · exact hlate y hy
      · rw [List.mem_singleton.mp hy]
        exact hlast

theorem granted_snoc (es : List Exchange) (e : Exchange) (h : Nat) :
    granted (es ++ [e]) h = granted es h + (e.grants h).toNat := by
  unfold granted
  rw [List.countP_append]
  cases hg : e.grants h <;> simp [hg]

theorem lastSender_snoc (es : List Exchange) (e : Exchange) (h : Nat) (first : Sender) :
    lastSender (es ++ [e]) h first = (e.sets? h).getD (lastSender es h first) := by
  unfold lastSender
  rw [List.foldl_append]
  rfl

namespace TrackerSession

variable {s s' : TrackerSession} {n k m : Nat} {x y : Issued} {table : TrackerTable}
  {message : Message} {r : TrackerRequest} {b : Birth}

theorem run_snoc (s : TrackerSession) (rs : List TrackerRequest) (r : TrackerRequest) :
    s.run (rs ++ [r]) = ((s.run rs).step r).2 := List.foldl_append

theorem exchanges_snoc (s : TrackerSession) (rs : List TrackerRequest) (r : TrackerRequest) :
    s.exchanges (rs ++ [r]) = s.exchanges rs ++ [(s.run rs).exchange r] := by
  induction rs generalizing s with
  | nil => rfl
  | cons r' rs ih => exact congrArg (s.exchange r' :: ·) (ih (s.step r').2)

/-! ### What one exchange does to an entry -/

/-- What becomes of the entry with handle `h` and with `id` is what the exchange says. -/
structure Follows (e : Exchange) (h : Nat) (id : TrackingId) (x y : Issued) : Prop where
  sender : y.tracker.sender = (e.sets? h).getD x.tracker.sender
  remaining : y.tracker.remaining + (e.grants h).toNat = x.tracker.remaining
  live : y.live = true ↔ x.live = true ∧ e.released? ≠ some id

theorem Follows.same (hsets : e.sets? h = none) (hgrants : e.grants h = false)
    (hreleased : e.released? ≠ some id) : Follows e h id x x where
  sender := by rw [hsets]; rfl
  remaining := by rw [hgrants]; rfl
  live := by simp [hreleased]

/-- What neither sets the sender nor claims a retry leaves both alone. -/
theorem Follows.under {op : SlotOp} (hsets : e.sets? h = none) (hgrants : e.grants h = false)
    (hreleased : e.released? = none) (hsender : (x.tracker.after op).sender = x.tracker.sender)
    (hremaining : (x.tracker.after op).remaining = x.tracker.remaining) :
    Follows e h id x (x.under (·.after op)) where
  sender := by rw [hsets]; exact hsender
  remaining := by rw [hgrants]; exact hremaining
  live := by simp [hreleased, Issued.under]

theorem released?_eq_some : (s.exchange (.release k m)).released? = some id ↔
    s.carries? m = some id ∧ id.scope = k := by
  change (s.carries? m).filter (·.scope = k) = some id ↔ _
  simp [Option.filter_eq_some_iff]

/-- A handle is that of one tracker only. -/
theorem Sound.handle_unique {h' : Nat} (hs : s.Sound n) (hh' : s.handles[h']? = some id)
    (hh : s.handles[h]? = some id) : h' = h := by
  obtain ⟨hlt', hval'⟩ := List.getElem?_eq_some_iff.mp hh'
  obtain ⟨hlt, hval⟩ := List.getElem?_eq_some_iff.mp hh
  exact (hs.nodup.getElem_inj_iff).mp (hval'.trans hval.symm)

theorem grants_of_ne {h' : Nat} (hne : h' ≠ h) (op : TrackerOp) :
    (s.exchange (.act h' op)).grants h = false := by
  unfold Exchange.grants exchange
  dsimp only
  split
  · next heq _ =>
    injection heq with heq
    exact beq_false_of_ne (heq ▸ hne)
  · rfl

theorem sets?_of_ne {h' : Nat} (hne : h' ≠ h) (op : TrackerOp) :
    (s.exchange (.act h' op)).sets? h = none := by
  unfold Exchange.sets? exchange
  dsimp only
  split
  · next heq _ =>
    injection heq with heq
    exact if_neg (heq ▸ hne)
  · rfl

/-- What is done with a tracker is done through its handle. -/
theorem follows_act (hs : s.Sound n) (hh : s.handles[h]? = some id) (hx : s.held? id = some x)
    (op : TrackerOp) : Follows (s.exchange (.act h op)) h id x (x.under (·.after (.act op))) := by
  have hreply : (s.exchange (.act h op)).reply = (s.act id x.tracker op).1 :=
    congrArg Prod.fst (hs.step_act hh hx op)
  have hreleased : (s.exchange (.act h op)).released? = none := rfl
  cases op with
  | claimRetry =>
    have hsets : (s.exchange (.act h .claimRetry)).sets? h = none := rfl
    refine ⟨?_, ?_, ?_⟩
    · rw [hsets]
      exact x.tracker.sender_claimRetry
    · change x.tracker.claimRetry.2.remaining + _ = _
      have hclaim : (s.act id x.tracker .claimRetry).1 =
          x.tracker.claimRetry.1.elim .nothing .sender := rfl
      rw [hclaim, Tracker.claimRetry_fst] at hreply
      rw [Tracker.remaining_claimRetry]
      by_cases hzero : x.tracker.remaining = 0
      · have hgrants : (s.exchange (.act h .claimRetry)).grants h = false := by
          rw [if_pos hzero] at hreply
          unfold Exchange.grants
          rw [hreply]
          rfl
        rw [hgrants, hzero]
        rfl
      · have hgrants : (s.exchange (.act h .claimRetry)).grants h = true := by
          rw [if_neg hzero] at hreply
          unfold Exchange.grants
          rw [hreply]
          exact beq_self_eq_true h
        rw [hgrants, Bool.toNat_true]
        omega
    · simp [hreleased, Issued.under]
  | setSender k =>
    have hsets : (s.exchange (.act h (.setSender k))).sets? h = some k := by
      unfold Exchange.sets?
      rw [hreply]
      exact if_pos rfl
    refine ⟨?_, rfl, ?_⟩
    · rw [hsets]
      rfl
    · simp [hreleased, Issued.under]
  | id => exact .under rfl rfl hreleased rfl rfl
  | arm => exact .under rfl rfl hreleased rfl rfl
  | complete o =>
    exact .under rfl rfl hreleased (x.tracker.sender_complete o) (x.tracker.remaining_complete o)

theorem Sound.follows (hs : s.Sound n) (hh : s.handles[h]? = some id) (hx : s.held? id = some x)
    (r : TrackerRequest) :
    ∃ y, (s.step r).2.held? id = some y ∧ Follows (s.exchange r) h id x y := by
  have hquiet : none ≠ some id := (Option.some_ne_none id).symm
  cases r with
  | attach k m sender budget =>
    refine ⟨x, ?_, .same rfl rfl hquiet⟩
    rcases hs.step_attach_cases k m sender budget with hsame | ⟨id', -, hnew, hadds⟩
    · rw [hsame, hx]
    · have hne : id ≠ id' := fun heq => hnew (heq ▸ List.mem_of_getElem? hh)
      rw [hadds.entries, if_neg hne, hx]
  | find k m => exact ⟨x, by rw [hs.step_find_snd, hx], .same rfl rfl hquiet⟩
  | release k m =>
    rw [held?_release, hx]
    by_cases hown : s.carries? m = some id ∧ id.scope = k
    · rw [if_pos hown]
      refine ⟨x.ended, rfl, rfl, rfl, ?_⟩
      simp [released?_eq_some.mpr hown, Issued.ended]
    · rw [if_neg hown]
      exact ⟨x, rfl, .same rfl rfl fun heq => hown (released?_eq_some.mp heq)⟩
  | copy j =>
    refine ⟨x, ?_, .same rfl rfl hquiet⟩
    rw [held?, (s.rest_copy j).1]
    exact hx
  | act h' op =>
    by_cases hne : h' = h
    · subst hne
      have htouches := touches_act hx op
      rw [hs.step_act hh hx, htouches.entries, if_pos rfl, hx]
      exact ⟨_, rfl, follows_act hs hh hx op⟩
    · refine ⟨x, ?_, .same (sets?_of_ne hne op) (grants_of_ne hne op) hquiet⟩
      rcases hs.step_act_cases h' op with hsame | ⟨id', hh', htouches⟩
      · rw [hsame, hx]
      · have hid : id ≠ id' := by
          rintro rfl
          exact hne (hs.handle_unique hh' hh)
        rw [htouches.entries, if_neg hid, hx]
  | receive r =>
    rcases hs.step_receive r with hsame | ⟨id', slot, htouches⟩
    · exact ⟨x, by rw [hsame, hx], .same rfl rfl hquiet⟩
    · rw [htouches.entries, hx]
      split
      · exact ⟨_, rfl, .under rfl rfl rfl (x.tracker.sender_receive slot)
        (x.tracker.remaining_receive slot)⟩
      · exact ⟨x, rfl, .same rfl rfl hquiet⟩
  | drop r =>
    rcases s.step_drop r with hsame | ⟨id', slot, htouches⟩
    · exact ⟨x, by rw [hsame, hx], .same rfl rfl hquiet⟩
    · rw [htouches.entries, hx]
      split
      · exact ⟨_, rfl, .under rfl rfl rfl (x.tracker.sender_abandon slot)
        (x.tracker.remaining_abandon slot)⟩
      · exact ⟨x, rfl, .same rfl rfl hquiet⟩

/-! ### What one exchange adds -/

/-- Without a birth the handles are the same, and a birth adds an id that was not there. -/
theorem Sound.birth_cases (hs : s.Sound n) (r : TrackerRequest) :
    (s.exchange r).birth? = none ∧ (s.step r).2.handles = s.handles ∨
      ∃ b, (s.exchange r).birth? = some b ∧ b.id ∉ s.handles ∧
        (s.step r).2.handles = s.handles ++ [b.id] ∧
        (s.step r).2.held? b.id = some (.fresh b.sender b.budget) := by
  cases r with
  | attach k m sender budget =>
    rcases hs.step_attach_cases k m sender budget with hsame | ⟨id, hlt, hnew, hadds⟩
    · refine .inl ⟨if_pos ?_, by rw [hsame]⟩
      exact congrArg (carries? · m) hsame
    · refine .inr ⟨⟨id, sender, budget⟩, ?_, hnew, hadds.handles, ?_⟩
      · have hafter : (s.exchange (.attach k m sender budget)).after.carries? m = some id :=
          (hadds.carries?_eq m).trans (if_pos rfl)
        have hne : ¬ (some id : Option TrackingId) = s.carries? m :=
          fun heq => hs.carries?_ne hlt hnew m heq.symm
        have hbefore : (s.exchange (.attach k m sender budget)).before.carries? m = s.carries? m :=
          rfl
        change (if _ = _ then none else _) = _
        rw [hafter, hbefore, if_neg hne]
        rfl
      · rw [hadds.entries, if_pos rfl]
  | find k m => exact .inl ⟨rfl, by rw [hs.step_find_snd]⟩
  | release k m => exact .inl ⟨rfl, (s.rest_release k m).1⟩
  | copy j => exact .inl ⟨rfl, (s.rest_copy j).2⟩
  | act h op =>
    refine .inl ⟨rfl, ?_⟩
    rcases hs.step_act_cases h op with hsame | ⟨id, -, htouches⟩
    · rw [hsame]
    · exact htouches.handles
  | receive r =>
    refine .inl ⟨rfl, ?_⟩
    rcases hs.step_receive r with hsame | ⟨id, slot, htouches⟩
    · rw [hsame]
    · exact htouches.handles
  | drop r =>
    refine .inl ⟨rfl, ?_⟩
    rcases s.step_drop r with hsame | ⟨id, slot, htouches⟩
    · rw [hsame]
    · exact htouches.handles

/-- Nothing is done through a handle that nobody has. -/
theorem quiet_of_unborn (hh : s.handles[h]? = none) (r : TrackerRequest) :
    (s.exchange r).grants h = false ∧ (s.exchange r).sets? h = none := by
  cases r with
  | act h' op =>
    by_cases hne : h' = h
    · subst hne
      have hreply : (s.exchange (.act h' op)).reply = .missing :=
        congrArg Prod.fst (step_act_of_missing hh op)
      unfold Exchange.grants Exchange.sets?
      rw [hreply]
      cases op <;> exact ⟨rfl, rfl⟩
    · exact ⟨grants_of_ne hne op, sets?_of_ne hne op⟩
  | _ => exact ⟨rfl, rfl⟩

/-! ### The whole history -/

/-- The handles are those that were born, in the order of their births, and what is held under
    each is what has become of it. -/
structure Ledger (n : Nat) (es : List Exchange) (s : TrackerSession) : Prop where
  sound : s.Sound n
  handles : s.handles = (births es).map (·.id)
  grown : ∀ h b, (births es)[h]? = some b → ∃ x, s.held? b.id = some x ∧ Grown es h b x
  unborn : ∀ h, (births es).length ≤ h → granted es h = 0 ∧ ∀ k, lastSender es h k = k

theorem Ledger.handle (hl : Ledger n es s) (hb : (births es)[h]? = some b) :
    s.handles[h]? = some b.id := by
  rw [hl.handles, List.getElem?_map, hb]
  rfl

theorem Ledger.snoc_of_old (hl : Ledger n es s) (r : TrackerRequest)
    (hb : (births es)[h]? = some b) :
    ∃ y, (s.step r).2.held? b.id = some y ∧ Grown (es ++ [s.exchange r]) h b y := by
  obtain ⟨x, hx, hgrown⟩ := hl.grown h b hb
  obtain ⟨y, hy, hfollows⟩ := hl.sound.follows (hl.handle hb) hx r
  refine ⟨y, hy, ?_, ?_, ?_⟩
  · rw [hfollows.sender, lastSender_snoc, hgrown.sender]
  · have hgranted := granted_snoc es (s.exchange r) h
    have hfollowed := hfollows.remaining
    have hbefore := hgrown.remaining
    omega
  · -- nobody is born a second time
    have hborn : (s.exchange r).birth?.map (·.id) ≠ some b.id := by
      rcases hl.sound.birth_cases r with ⟨hnone, -⟩ | ⟨b', hb', hnew, -⟩
      · rw [hnone]
        exact nofun
      · rw [hb']
        intro heq
        have hid : b'.id = b.id := Option.some_inj.mp heq
        exact hnew (hid ▸ List.mem_of_getElem? (hl.handle hb))
    rw [hfollows.live, hgrown.live, standing_snoc, or_iff_right hborn]

theorem Ledger.snoc_of_new (hl : Ledger n es s) {r : TrackerRequest}
    (hbirth : (s.exchange r).birth? = some b) :
    Grown (es ++ [s.exchange r]) (births es).length b (.fresh b.sender b.budget) := by
  have hlen : s.handles.length = (births es).length := by rw [hl.handles, List.length_map]
  have hnone : s.handles[(births es).length]? = none :=
    List.getElem?_eq_none (Nat.le_of_eq hlen)
  obtain ⟨hgrants, hsets⟩ := quiet_of_unborn hnone r
  obtain ⟨hgranted, hlast⟩ := hl.unborn _ (Nat.le_refl _)
  refine ⟨?_, ?_, ?_⟩
  · rw [lastSender_snoc, hsets, hlast]
    rfl
  · rw [granted_snoc, hgrants, hgranted]
    rfl
  · rw [standing_snoc, hbirth]
    exact iff_of_true rfl (.inl rfl)

/-- The step. -/
theorem Ledger.snoc (hl : Ledger n es s) (r : TrackerRequest) :
    Ledger n (es ++ [s.exchange r]) (s.step r).2 := by
  have hbirths := births_snoc es (s.exchange r)
  have hlen : s.handles.length = (births es).length := by rw [hl.handles, List.length_map]
  refine ⟨hl.sound.step r, ?_, ?_, ?_⟩
  · rw [hbirths, List.map_append, ← hl.handles]
    rcases hl.sound.birth_cases r with ⟨hnone, hhandles⟩ | ⟨b, hb, -, hhandles, -⟩
    · rw [hnone, hhandles]
      exact (List.append_nil _).symm
    · rw [hb, hhandles]
      rfl
  · intro h b hb
    rw [hbirths] at hb
    rcases Nat.lt_or_ge h (births es).length with hlt | hge
    · rw [List.getElem?_append_left hlt] at hb
      exact hl.snoc_of_old r hb
    · rw [List.getElem?_append_right hge] at hb
      rcases hl.sound.birth_cases r with ⟨hnone, -⟩ | ⟨b', hb', -, -, hentry⟩
      · rw [hnone] at hb
        exact nomatch hb
      · rw [hb', Option.toList_some, List.getElem?_singleton] at hb
        split at hb
        · next hzero =>
          obtain rfl := Option.some_inj.mp hb
          have heq : h = (births es).length := by omega
          rw [heq]
          exact ⟨_, hentry, hl.snoc_of_new hb'⟩
        · cases hb
  · intro h hle
    rw [hbirths, List.length_append] at hle
    have hnone : s.handles[h]? = none := List.getElem?_eq_none (by omega)
    obtain ⟨hgrants, hsets⟩ := quiet_of_unborn hnone r
    obtain ⟨hgranted, hlast⟩ := hl.unborn h (by omega)
    refine ⟨?_, fun k => ?_⟩
    · rw [granted_snoc, hgrants, hgranted]
      rfl
    · rw [lastSender_snoc, hsets, hlast]
      rfl

/-- The run. -/
theorem ledger_run (hs : s.Sound n) (hnone : s.handles = []) (rs : List TrackerRequest) :
    Ledger n (s.exchanges rs) (s.run rs) := by
  induction rs using List.reverseRecOn with
  | nil =>
    refine ⟨hs, hnone, ?_, ?_⟩
    · intro h b hb
      cases hb
    · exact fun h _ => ⟨rfl, fun k => rfl⟩
  | append_singleton rs r ih =>
    rw [exchanges_snoc, run_snoc]
    exact ih.snoc r

theorem exists_birth (hstanding : Standing es id) :
    ∃ (h : Nat) (b : Birth), (births es)[h]? = some b ∧ b.id = id := by
  obtain ⟨early, e, late, rfl, hbirth, -⟩ := hstanding
  obtain ⟨b, hb, hid⟩ := Option.map_eq_some_iff.mp hbirth
  have hmem : b ∈ births (early ++ e :: late) :=
    List.mem_filterMap.mpr ⟨e, by simp, hb⟩
  obtain ⟨h, hh⟩ := List.mem_iff_getElem?.mp hmem
  exact ⟨h, b, hh, hid⟩

/-- What has an entry was born. -/
theorem Ledger.grown_of_entry (hl : Ledger n es s) (hx : s.held? id = some x) :
    ∃ (h : Nat) (b : Birth), (births es)[h]? = some b ∧ b.id = id ∧ Grown es h b x := by
  have hmem : id ∈ s.handles := (hl.sound.issued id).mp (by rw [hx]; rfl)
  rw [hl.handles] at hmem
  obtain ⟨b, hb, rfl⟩ := List.mem_map.mp hmem
  obtain ⟨h, hh⟩ := List.mem_iff_getElem?.mp hb
  obtain ⟨y, hy, hgrown⟩ := hl.grown h b hh
  rw [hx] at hy
  exact ⟨h, b, hh, rfl, Option.some_inj.mp hy ▸ hgrown⟩

theorem Ledger.standing_iff (hl : Ledger n es s) :
    Standing es id ↔ ∃ x, s.held? id = some x ∧ x.live = true := by
  constructor
  · intro hstanding
    obtain ⟨h, b, hb, rfl⟩ := exists_birth hstanding
    obtain ⟨x, hx, hgrown⟩ := hl.grown h b hb
    exact ⟨x, hx, hgrown.live.mpr hstanding⟩
  · rintro ⟨x, hx, hlive⟩
    obtain ⟨h, b, hb, rfl, hgrown⟩ := hl.grown_of_entry hx
    exact hgrown.live.mp hlive

/-- A table finds a message if the history says so. -/
theorem Ledger.find?_eq (hl : Ledger n es s) (hk : s.tables[k]? = some table)
    (hm : s.messages[m]? = some message) :
    table.find? message = some id ↔ Tracked es s k m id := by
  rw [find?_eq_some hl.sound hk hm, ← hl.standing_iff]
  exact ⟨fun ⟨hc, ho, hst⟩ => ⟨hc, ho, hst⟩, fun ht => ⟨ht.carries, ht.own, ht.standing⟩⟩

theorem Ledger.find?_eq_none (hl : Ledger n es s) (hk : s.tables[k]? = some table)
    (hm : s.messages[m]? = some message) (hnone : ∀ id, ¬ Tracked es s k m id) :
    table.find? message = none := by
  cases hfind : table.find? message with
  | none => rfl
  | some id => exact absurd ((hl.find?_eq hk hm).mp hfind) (hnone id)

theorem Ledger.idxOf_handle (hl : Ledger n es s) (hb : (births es)[h]? = some b) :
    s.handles.idxOf b.id = h := by
  obtain ⟨hlt, hval⟩ := List.getElem?_eq_some_iff.mp (hl.handle hb)
  rw [← hval, hl.sound.nodup.idxOf_getElem]

/-- A message that is tracked is there, and so is its table. -/
theorem Ledger.exists_of_tracked (hl : Ledger n es s) (ht : Tracked es s k m id) :
    ∃ table message, s.tables[k]? = some table ∧ s.messages[m]? = some message ∧
      table.find? message = some id := by
  obtain ⟨message, hm, -⟩ := Option.bind_eq_some_iff.mp ht.carries
  obtain ⟨x, hx, -⟩ := hl.standing_iff.mp ht.standing
  obtain ⟨table, hk, -⟩ := Option.bind_eq_some_iff.mp hx
  rw [ht.own] at hk
  exact ⟨table, message, hk, hm, (hl.find?_eq hk hm).mpr ht⟩

/-- A tracker that has granted less than it was born with grants a retry. -/
theorem Ledger.claim (hl : Ledger n es s) (hb : (births es)[h]? = some b) :
    (s.step (.act h .claimRetry)).1 =
      if granted es h < b.budget then .sender (lastSender es h b.sender) else .nothing := by
  obtain ⟨x, hx, hgrown⟩ := hl.grown h b hb
  have hremaining := hgrown.remaining
  rw [hl.sound.step_act (hl.handle hb) hx]
  change x.tracker.claimRetry.1.elim TrackerReply.nothing TrackerReply.sender = _
  rw [Tracker.claimRetry_fst]
  by_cases hzero : x.tracker.remaining = 0
  · rw [if_pos hzero, if_neg (by omega)]
    rfl
  · rw [if_neg hzero, if_pos (by omega), ← hgrown.sender]
    rfl

/-- A session that starts with empty tables, whatever is asked of it, does what its history
    says. -/
theorem identified_of_start {n : Nat} {messages : List Message}
    (hm : ∀ m ∈ messages, ∀ id, m.tracking = some id → n ≤ id.scope) (rs : List TrackerRequest) :
    Identified ((start n messages).exchanges rs) ((start n messages).run rs) := by
  have hl := ledger_run (sound_start hm) rfl rs
  generalize (start n messages).exchanges rs = es at hl ⊢
  generalize (start n messages).run rs = s at hl ⊢
  refine
    { distinct := hl.handles ▸ hl.sound.nodup
      handles := hl.handles
      entries := ?_
      born := ?_
      found := ?_
      not_found := ?_
      attached := ?_
      renewed := ?_
      released := s.held?_release
      kept := ?_
      foreign := fun k m => hl.sound.step_release_of_foreign
      bounded := ?_
      claims := fun h b => hl.claim }
  · intro k table id x hk hx
    have hscope : id.scope = k := by
      rw [TrackerTable.lookup?] at hx
      split at hx
      · next hown => exact hown.trans (hl.sound.scope hk)
      · cases hx
    exact ⟨hscope, hl.grown_of_entry ((held?_eq hk hscope).trans hx)⟩
  · intro h b hb
    obtain ⟨x, hx, hgrown⟩ := hl.grown h b hb
    obtain ⟨table, hk, hlookup⟩ := Option.bind_eq_some_iff.mp hx
    exact ⟨table, x, hk, hlookup, hgrown⟩
  · intro k m h b hb ht
    obtain ⟨table, message, hk, hm, hfind⟩ := hl.exists_of_tracked ht
    rw [hl.sound.step_find hk hm, hfind, ← hl.idxOf_handle hb]
    rfl
  · intro k m hk hm hnone
    have hk := List.getElem?_eq_getElem hk
    have hm := List.getElem?_eq_getElem hm
    rw [hl.sound.step_find hk hm, hl.find?_eq_none hk hm hnone]
    rfl
  · intro k m h b sender budget hb ht
    obtain ⟨table, message, hk, hm, hfind⟩ := hl.exists_of_tracked ht
    rw [hl.sound.step_attach_of_find? hk hm hfind, hl.idxOf_handle hb]
  · intro k m sender budget hklt hmlt hnone
    have hk := List.getElem?_eq_getElem hklt
    have hm := List.getElem?_eq_getElem hmlt
    have hfind := hl.find?_eq_none hk hm hnone
    obtain ⟨id, hscope, hnew, hreply, hadds⟩ :=
      hl.sound.step_attach_of_new hk hm hfind sender budget
    have hlt : id.scope < n := by
      rw [hscope, ← hl.sound.length_tables]
      exact hklt
    refine ⟨id, hscope, hl.handles ▸ hnew, hl.sound.carries?_ne hlt hnew, ?_, hadds⟩
    rw [hreply, hl.handles, List.length_map]
  · intro k m
    obtain ⟨hhandles, hmessages, -⟩ := s.rest_release k m
    refine ⟨hhandles, hmessages, fun id => ?_⟩
    rw [(hl.sound.step _).tracker?_eq, hl.sound.tracker?_eq, held?_release]
    split
    · cases s.held? id <;> rfl
    · rfl
  · intro h b hb
    obtain ⟨x, -, hgrown⟩ := hl.grown h b hb
    have hremaining := hgrown.remaining
    omega

/-- A message is attached, copied and attached to another table, and its copy is released. -/
def moves : List TrackerRequest :=
  [.attach 0 0 .sync 1, .copy 0, .attach 1 0 .async 2, .act 0 .claimRetry, .release 0 1,
    .attach 0 1 .async 3]

/-- Three trackers are born with different ids, and the first of them has nothing left to grant. -/
theorem identified_moves :
    (∀ m ∈ [({ topic := "a" } : Message)], ∀ id, m.tracking = some id → 2 ≤ id.scope) ∧
      Identified ((start 2 [{ topic := "a" }]).exchanges moves)
        ((start 2 [{ topic := "a" }]).run moves) ∧
      ((start 2 [{ topic := "a" }]).run moves).handles = [⟨0, 0⟩, ⟨1, 0⟩, ⟨0, 1⟩] ∧
      (((start 2 [{ topic := "a" }]).run moves).step (.act 0 .claimRetry)).1 = .nothing := by
  have hm : ∀ m ∈ [({ topic := "a" } : Message)], ∀ id, m.tracking = some id → 2 ≤ id.scope := by
    intro m hm id hid
    rw [List.mem_singleton.mp hm] at hid
    cases hid
  exact ⟨hm, identified_of_start hm moves, by decide +kernel, by decide +kernel⟩

end TrackerSession

end Outbox
