import Outbox.Proofs.Thread

/-! The story of a tracked message, as its beats tell it: offer by offer it meets with setbacks after
    which a retry is claimed, and then it is delivered, or there is one more setback and it is given
    up. What has happened to a message so far is the beginning of a story. If copies of it are
    handed in with the id it was given, the beats of the id are dealt out among the copies, and each
    copy has a story of its own. -/

namespace Outbox

/-- Why a message was not delivered at one attempt. -/
inductive Setback where
  | undelivered (cause : BrokerError)
  | refused (cause : BrokerError)

namespace Setback

/-- The hook that is asked may allow another attempt. -/
def asked : Setback → Beat
  | undelivered cause => .told .deliveryFailed (some cause)
  | refused cause => .told .sendFailed (some cause)

/-- The hook that is told there is no other attempt. -/
def final : Setback → Beat
  | undelivered cause => .told .deliveryAbandoned (some cause)
  | refused cause => .told .sendAbandoned (some cause)

/-- An attempt after which there is another one. -/
def round (f : Setback) : List Beat := [.offered, f.asked, .granted]

end Setback

/-- How the last attempt ends. -/
inductive Finale where
  | delivered
  | abandoned (f : Setback)

/-- The last attempt. -/
def Finale.beats : Finale → List Beat
  | delivered => [.offered, .told .delivered none]
  | abandoned f => [.offered, f.asked, f.final]

/-- All beats of a message, from the first attempt to the last. -/
def story (fs : List Setback) (last : Finale) : List Beat := fs.flatMap Setback.round ++ last.beats

/-- The beats are the beginning of a story with at most `R` retries. -/
def Begins (R : Nat) (bs : List Beat) : Prop := ∃ fs last, fs.length ≤ R ∧ bs <+: story fs last

/-- After some attempts, each with a setback and a retry, there came `last`. -/
def Past (last bs : List Beat) : Prop := ∃ fs : List Setback, bs = fs.flatMap Setback.round ++ last

theorem count_granted_rounds (fs : List Setback) :
    (fs.flatMap Setback.round).count .granted = fs.length := by
  induction fs with
  | nil => rfl
  | cons f fs ih => cases f <;> simp [Setback.round, Setback.asked, ih]

theorem count_offered_rounds (fs : List Setback) :
    (fs.flatMap Setback.round).count .offered = fs.length := by
  induction fs with
  | nil => rfl
  | cons f fs ih => cases f <;> simp [Setback.round, Setback.asked, ih]

/-- A story has one attempt more than it has retries. -/
theorem count_offered_story (fs : List Setback) (last : Finale) :
    (story fs last).count .offered = fs.length + 1 := by
  rw [story, List.count_append, count_offered_rounds]
  rcases last with _ | (_ | _) <;> rfl

theorem Begins.count_offered_le {R : Nat} {bs : List Beat} (h : Begins R bs) :
    bs.count .offered ≤ R + 1 := by
  obtain ⟨fs, last, hR, hbs⟩ := h
  have hle := hbs.sublist.count_le Beat.offered
  rw [count_offered_story] at hle
  omega

theorem Begins.mono {R R' : Nat} {bs : List Beat} (h : Begins R bs) (hR : R ≤ R') :
    Begins R' bs := by
  obtain ⟨fs, last, hfs, hbs⟩ := h
  exact ⟨fs, last, hfs.trans hR, hbs⟩

theorem Past.append {last bs : List Beat} (h : Past last bs) (b : Beat) :
    Past (last ++ [b]) (bs ++ [b]) := by
  obtain ⟨fs, rfl⟩ := h
  exact ⟨fs, List.append_assoc ..⟩

/-- An attempt ends with a setback when a retry is claimed. -/
theorem Past.round {f : Setback} {bs : List Beat} (h : Past [.offered, f.asked] bs) :
    Past [] (bs ++ [.granted]) := by
  obtain ⟨fs, rfl⟩ := h
  exact ⟨fs ++ [f], by simp [Setback.round]⟩

/-- What is the beginning of a last attempt is the beginning of a story, with as many retries as
    there were. -/
theorem Past.begins {last bs : List Beat} (h : Past last bs) (finale : Finale)
    (hl : last <+: finale.beats) : Begins (bs.count .granted) bs := by
  obtain ⟨fs, rfl⟩ := h
  refine ⟨fs, finale, ?_, (List.prefix_append_right_inj _).mpr hl⟩
  rw [List.count_append, count_granted_rounds]
  exact Nat.le_add_right ..

/-! ### Stories of several copies -/

/-- The beats of one id, dealt out among the copies of the message. The first copy was there from
    the start, and another one comes whenever one is handed in. -/
inductive Dealt : Multiset (List Beat) → List Beat → Prop where
  | first : Dealt {[]} []
  | copy {Q bs} (h : Dealt Q bs) : Dealt ([] ::ₘ Q) (bs ++ [.handed])
  | beat {Q q bs b} (h : Dealt (q ::ₘ Q) bs) (hb : b ≠ .handed) :
      Dealt ((q ++ [b]) ::ₘ Q) (bs ++ [b])

namespace Dealt

variable {Q : Multiset (List Beat)} {bs : List Beat}

/-- No copy has more of a beat than there are. -/
theorem count_le (h : Dealt Q bs) (b : Beat) : ∀ q ∈ Q, q.count b ≤ bs.count b := by
  induction h with
  | first => simp
  | @copy Q bs _ ih =>
    intro q hq
    rw [List.count_append]
    rcases Multiset.mem_cons.mp hq with rfl | hq
    · exact Nat.zero_le _
    · exact (ih q hq).trans (Nat.le_add_right ..)
  | @beat Q q' bs b' _ _ ih =>
    intro q hq
    rw [List.count_append]
    rcases Multiset.mem_cons.mp hq with rfl | hq
    · rw [List.count_append]
      exact Nat.add_le_add_right (ih q' (Multiset.mem_cons_self ..)) _
    · exact (ih q (Multiset.mem_cons_of_mem hq)).trans (Nat.le_add_right ..)

/-- While there is one copy it has all the beats. -/
theorem eq_singleton (h : Dealt Q bs) (hbs : .handed ∉ bs) : Q = {bs} := by
  induction h with
  | first => rfl
  | copy _ _ => simp at hbs
  | beat _ _ ih =>
    obtain ⟨rfl, rfl⟩ := (Multiset.singleton_eq_cons_iff _).mp
      (ih fun h => hbs (List.mem_append_left _ h)).symm
    rfl

end Dealt

end Outbox
