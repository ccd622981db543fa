import Outbox.Settings

/-! The interval between two looks at the broker, from the request for it to the setting. A request
    is a span of any length; the setting is a count of milliseconds in 64 bits, and a count of zero
    is refused. One millisecond is the least that a request is taken for, and that is seen to before
    the count is cut down to 64 bits. Main statement: a request whose count fits is met, and a
    longer one by no shorter an interval; of any other request only the remainder is kept, so it
    comes out shorter by `2 ^ 64` milliseconds or more, or is refused where nothing remains. -/

namespace Outbox

namespace Settings

variable {s t : Settings} {d e : Span}

/-- The settings that are built when the interval `d` was asked for last. -/
def requesting (s : Settings) (d : Span) : Except ProducerError Settings :=
  (s.withPollInterval d).validated

/-- The longest interval that a setting can name. -/
def longestInterval : Span := .ofMillis (UInt64.size - 1)

/-- What a request for `d` is meant for: whole milliseconds, at least one of them, and no more than
    a setting can name. -/
def intended (d : Span) : Span := .ofMillis (min (max d.millis 1) (UInt64.size - 1))

/-- The request for `d` is met: settings are built with the interval it was meant for, and all else
    in them is as it was. -/
def Meets (s : Settings) (d : Span) : Prop :=
  ∃ t, s.requesting d = .ok t ∧ t.pollInterval = intended d ∧ t = { s with pollMillis := t.pollMillis }

/-- What comes of requests for an interval. -/
structure Requested (s : Settings) : Prop where
  /-- A request is met if its count fits. Of the others those are that end on the greatest count. -/
  meets_iff : ∀ d, s.Meets d ↔ d.millis < UInt64.size ∨ UInt64.size ∣ d.millis + 1
  /-- As long as the counts fit, who asks for no less gets no less. -/
  monotone : ∀ d e, d.nanos ≤ e.nanos → e.millis < UInt64.size →
    ∃ t u, s.requesting d = .ok t ∧ s.requesting e = .ok u ∧
      t.pollInterval.nanos ≤ u.pollInterval.nanos
  /-- Of a count that does not fit the remainder is kept, which must not be zero. -/
  remainder : ∀ d, UInt64.size ≤ d.millis → s.requesting d =
    if UInt64.size ∣ d.millis then
      .error (.invalidSettings "ack_poll_interval_ms must be greater than zero")
    else .ok { s with pollMillis := d.millis % UInt64.size }
  /-- So it comes out shorter than it was asked for. -/
  shorter : ∀ d t, UInt64.size ≤ d.millis → s.requesting d = .ok t →
    t.pollInterval.nanos + (Span.ofMillis UInt64.size).nanos ≤ d.nanos

/-- With a valid buffer limit all depends on what is left of the count in 64 bits. -/
theorem requesting_eq (hs : -1 ≤ s.bufferLimit) (d : Span) :
    s.requesting d =
      if max d.millis 1 % UInt64.size = 0 then
        .error (.invalidSettings "ack_poll_interval_ms must be greater than zero")
      else .ok { s with pollMillis := max d.millis 1 % UInt64.size } := by
  have hlimit : ¬ s.bufferLimit < -1 := by omega
  have hcheck : checkBufferLimit s.bufferLimit = .ok () := if_neg hlimit
  by_cases hzero : max d.millis 1 % UInt64.size = 0
  · simp [requesting, validated, validate, withPollInterval, hcheck, hzero, bind, Except.bind,
      throw, throwThe, MonadExceptOf.throw]
  · simp [requesting, validated, validate, withPollInterval, hcheck, hzero, bind, Except.bind,
      pure, Except.pure]

/-- A count that fits is kept. -/
theorem requesting_of_lt (hs : -1 ≤ s.bufferLimit) (hd : d.millis < UInt64.size) :
    s.requesting d = .ok { s with pollMillis := max d.millis 1 } := by
  have hsize : 1 < UInt64.size := by decide
  have hfits : max d.millis 1 % UInt64.size = max d.millis 1 := Nat.mod_eq_of_lt (by omega)
  rw [requesting_eq hs, hfits, if_neg (by omega)]

/-- Of a count that does not fit the remainder is kept. -/
theorem requesting_of_le (hs : -1 ≤ s.bufferLimit) (hd : UInt64.size ≤ d.millis) :
    s.requesting d =
      if UInt64.size ∣ d.millis then
        .error (.invalidSettings "ack_poll_interval_ms must be greater than zero")
      else .ok { s with pollMillis := d.millis % UInt64.size } := by
  have hsize : 1 < UInt64.size := by decide
  have hmax : max d.millis 1 = d.millis := by omega
  rw [requesting_eq hs, hmax]
  simp only [Nat.dvd_iff_mod_eq_zero]

theorem millis_le_millis (h : d.nanos ≤ e.nanos) : d.millis ≤ e.millis :=
  Nat.div_le_div_right h

theorem Meets.of_lt (hs : -1 ≤ s.bufferLimit) (hd : d.millis < UInt64.size) : s.Meets d := by
  refine ⟨_, requesting_of_lt hs hd, ?_, rfl⟩
  have hsize : 1 < UInt64.size := by decide
  have hmin : min (max d.millis 1) (UInt64.size - 1) = max d.millis 1 := by omega
  rw [intended, hmin, pollInterval]

/-- A count that does not fit was meant for the longest interval. -/
theorem intended_of_le (hd : UInt64.size ≤ d.millis) : intended d = longestInterval := by
  have hmin : min (max d.millis 1) (UInt64.size - 1) = UInt64.size - 1 := by omega
  rw [intended, hmin, longestInterval]

/-- The longest interval is what remains of a count just below a multiple of `2 ^ 64`. -/
theorem meets_iff_of_le (hs : -1 ≤ s.bufferLimit) (hd : UInt64.size ≤ d.millis) :
    s.Meets d ↔ UInt64.size ∣ d.millis + 1 := by
  have hsize : UInt64.size = 18446744073709551616 := rfl
  have hend : UInt64.size ∣ d.millis + 1 ↔ d.millis % UInt64.size = UInt64.size - 1 := by
    rw [hsize]
    omega
  rw [hend, Meets, intended_of_le hd, requesting_of_le hs hd]
  constructor
  · rintro ⟨t, ht, hinterval, -⟩
    split at ht
    · cases ht
    · cases ht
      have hnanos : d.millis % UInt64.size * 1000000 = (UInt64.size - 1) * 1000000 :=
        congrArg Span.nanos hinterval
      exact Nat.eq_of_mul_eq_mul_right (by decide) hnanos
  · intro hrest
    have hnot : ¬ UInt64.size ∣ d.millis := by
      rw [hsize] at hrest ⊢
      omega
    rw [if_neg hnot]
    exact ⟨_, rfl, by rw [pollInterval, longestInterval, hrest], rfl⟩

/-- Whatever else was asked of the settings: a request is met up to the longest interval that they
    can name, and cut down to what remains of it beyond. -/
theorem requested_of_bufferLimit (hs : -1 ≤ s.bufferLimit) : s.Requested := by
  constructor
  case meets_iff =>
    intro d
    rcases Nat.lt_or_ge d.millis UInt64.size with hd | hd
    · exact ⟨fun _ => .inl hd, fun _ => .of_lt hs hd⟩
    · rw [meets_iff_of_le hs hd]
      exact ⟨.inr, fun h => h.resolve_left (by omega)⟩
  case monotone =>
    intro d e hde he
    have hmillis := millis_le_millis hde
    refine ⟨_, _, requesting_of_lt hs (by omega), requesting_of_lt hs he, ?_⟩
    have hmax : max d.millis 1 ≤ max e.millis 1 := by omega
    exact Nat.mul_le_mul_right _ hmax
  case remainder =>
    intro d hd
    exact requesting_of_le hs hd
  case shorter =>
    intro d t hd ht
    rw [requesting_of_le hs hd] at ht
    split at ht
    · cases ht
    · cases ht
      have hcount : d.millis % UInt64.size + UInt64.size ≤ d.millis := by
        have := Nat.mod_add_div d.millis UInt64.size
        have hdiv : 1 ≤ d.millis / UInt64.size := (Nat.one_le_div_iff (by decide)).mpr hd
        have := Nat.mul_le_mul_left UInt64.size hdiv
        omega
      calc d.millis % UInt64.size * 1000000 + UInt64.size * 1000000
          = (d.millis % UInt64.size + UInt64.size) * 1000000 := (Nat.add_mul ..).symm
        _ ≤ d.millis * 1000000 := Nat.mul_le_mul_right _ hcount
        _ ≤ d.nanos := Nat.div_mul_le_self ..

/-- Settings in which all but the interval was chosen. -/
def brisk : Settings := { bufferLimit := 0, flushMode := .async, retryBudget := 3 }

/-- Two milliseconds more than the longest interval come out as one millisecond. -/
theorem requested_brisk :
    -1 ≤ brisk.bufferLimit ∧ brisk.Requested ∧
    brisk.requesting (.ofParts 18446744073709551 617000000) =
      .ok { brisk with pollMillis := 1 } := by
  have hs : -1 ≤ brisk.bufferLimit := by decide
  have hrequested := requested_of_bufferLimit hs
  refine ⟨hs, hrequested, ?_⟩
  rw [hrequested.remainder _ (by decide)]
  exact if_neg (by decide)

/-- One millisecond more than the longest interval is a span like any other, and no settings come of
    the request for it. -/
theorem not_meets_brisk :
    -1 ≤ brisk.bufferLimit ∧
    (Span.ofParts 18446744073709551 616000000).nanos ≤ Span.longest.nanos ∧
    brisk.requesting (.ofParts 18446744073709551 616000000) =
      .error (.invalidSettings "ack_poll_interval_ms must be greater than zero") ∧
    ¬ brisk.Meets (.ofParts 18446744073709551 616000000) := by
  have hrefused : brisk.requesting (.ofParts 18446744073709551 616000000) =
      .error (.invalidSettings "ack_poll_interval_ms must be greater than zero") := rfl
  refine ⟨by decide, by decide, hrefused, ?_⟩
  rintro ⟨t, ht, -⟩
  rw [hrefused] at ht
  cases ht

end Settings

end Outbox
