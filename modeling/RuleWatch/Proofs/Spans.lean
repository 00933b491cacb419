import RuleWatch.Time.Calendar
import RuleWatch.Time.Span

/-!
Arithmetic in words between instants of the calendar. They are so near to each
other that every number on the way fits in its word and every span is one. Main
statements: `minus` is the span of all the nanoseconds that lie between two
instants, and `forward` leads to the instant that comes later by all the
nanoseconds of its span.
-/

namespace RuleWatch

/-! A number that fits is kept. -/

section

variable {bits : Nat} {n : Int} {α : Type}

theorem signed_eq (h : -(1 <<< (bits - 1) : Nat) ≤ n ∧
    n < (1 <<< (bits - 1) : Nat)) :
    signed bits n = .ok n :=
  if_pos h

theorem signed_bind (h : -(1 <<< (bits - 1) : Nat) ≤ n ∧
    n < (1 <<< (bits - 1) : Nat))
    (f : Int → Except OutOfRange α) : (signed bits n >>= f) = f n := by
  rw [signed_eq h]
  rfl

theorem unsigned_bind (h : 0 ≤ n ∧ n < (1 <<< bits : Nat))
    (f : Nat → Except OutOfRange α) :
    (unsigned bits n >>= f) = f n.toNat := by
  rw [unsigned, if_pos h]
  rfl

end

namespace Span

variable {seconds nanos : Int}

theorem make?_eq (unit : 0 ≤ nanos ∧ nanos < 1000000000)
    (range : -longest ≤ seconds * 1000000000 + nanos ∧
      seconds * 1000000000 + nanos ≤ longest) :
    make? seconds nanos = some ⟨seconds, nanos⟩ :=
  if_pos ⟨unit.1, unit.2, range⟩

theorem make_eq (unit : 0 ≤ nanos ∧ nanos < 1000000000)
    (range : -longest ≤ seconds * 1000000000 + nanos ∧
      seconds * 1000000000 + nanos ≤ longest) :
    make seconds nanos = .ok ⟨seconds, nanos⟩ := by
  rw [make, make?_eq unit range]

/-- The longest interval: the seconds fill a word of 64 bits. -/
def longestInterval : Nat := UInt64.size * 1000000000 - 1

theorem longestInterval_eq : longestInterval = 18446744073709551615999999999 :=
  rfl

theorem ofInterval_eq {interval : Nat} (range : interval ≤ longestInterval) :
    ofInterval interval = .ok (if longest < interval then none
      else some ⟨(interval / 1000000000 : Nat),
        (interval % 1000000000 : Nat)⟩) := by
  rw [longestInterval_eq] at range
  rw [ofInterval, unsigned_bind (by omega), unsigned_bind (by omega),
    Int.toNat_natCast, Int.toNat_natCast]
  refine congrArg Except.ok ?_
  by_cases long : longest < interval
  · rw [if_pos long, make?]
    refine if_neg ?_
    simp only [longest] at long ⊢
    omega
  · rw [if_neg long]
    refine make?_eq (by omega) ?_
    simp only [longest] at long ⊢
    omega

theorem wait_eq {n : Int} (range : n ≤ longest) :
    wait ⟨n / 1000000000, n % 1000000000⟩ = .ok n.toNat := by
  simp only [longest] at range
  rw [wait]
  by_cases back : n / 1000000000 < 0
  · rw [if_pos back, Int.toNat_of_nonpos (by omega)]
    rfl
  · rw [if_neg back]
    dsimp only
    rw [unsigned_bind (by omega), unsigned_bind (by omega)]
    refine congrArg Except.ok ?_
    omega

theorem plus_eq {a b : Span} (ha : 0 ≤ a.nanos ∧ a.nanos < 1000000000)
    (hb : 0 ≤ b.nanos ∧ b.nanos < 1000000000) {n : Int}
    (sum : n = (a.seconds + b.seconds) * 1000000000 + (a.nanos + b.nanos))
    (range : -longest ≤ n ∧ n ≤ longest) :
    a.plus b = .ok ⟨n / 1000000000, n % 1000000000⟩ := by
  have seconds : a.seconds + b.seconds + (a.nanos + b.nanos) / 1000000000 =
      n / 1000000000 := by
    omega
  have nanos : (a.nanos + b.nanos) % 1000000000 = n % 1000000000 := by omega
  simp only [longest] at range
  rw [plus, signed_bind (by omega), signed_bind (by omega),
    signed_bind (by omega), seconds, nanos]
  refine make_eq (by omega) ?_
  simp only [longest]
  omega

end Span

namespace Instant

/-- Whether an instant is one of the calendar. -/
structure IsOfCalendar (t : Instant) : Prop where
  first : firstSecond ≤ t.seconds
  last : t.seconds ≤ lastSecond
  nanos : t.nanos < 2000000000

/-- It goes from the start of the year -262143 to the end of the year 262142. -/
example : firstSecond = (Date.mk (-262143) 1 1).number * 86400 := by decide

example :
    lastSecond = (Date.mk 262142 12 31).number * 86400 + 86399 := by decide

variable {t a b : Instant}

theorem leapBetween_bounds (a b : Instant) :
    -1 ≤ leapBetween a b ∧ leapBetween a b ≤ 1 := by
  unfold leapBetween
  split
  · decide
  · split <;> decide

/-- No two instants of the calendar are further apart than a span goes. -/
theorem since_bounds (ha : a.IsOfCalendar) (hb : b.IsOfCalendar) :
    -Span.longest ≤ a.since b ∧ a.since b ≤ Span.longest := by
  obtain ⟨firstA, lastA, nanosA⟩ := ha
  obtain ⟨firstB, lastB, nanosB⟩ := hb
  have leap := leapBetween_bounds a b
  simp only [firstSecond, lastSecond, Span.longest, since] at *
  omega

/-- The span between two instants, taken by dates and times. -/
theorem minus_eq (ha : a.IsOfCalendar) (hb : b.IsOfCalendar) :
    a.minus b = .ok ⟨a.since b / 1000000000, a.since b % 1000000000⟩ := by
  have range := since_bounds ha hb
  obtain ⟨firstA, lastA, nanosA⟩ := ha
  obtain ⟨firstB, lastB, nanosB⟩ := hb
  have leap := leapBetween_bounds a b
  simp only [firstSecond, lastSecond] at firstA lastA firstB lastB
  rw [minus, day, day, timeOfDay, timeOfDay]
  -- The dates.
  rw [signed_bind (by omega), signed_bind (by omega),
    Span.make_eq (by omega) (by simp only [Span.longest]; omega)]
  -- The times.
  refine (signed_bind (by omega) _).trans ?_
  rw [signed_bind (by omega), signed_bind (by omega),
    signed_bind (by omega),
    Span.make_eq (by omega) (by simp only [Span.longest]; omega)]
  refine Span.plus_eq (by dsimp only; omega) (by dsimp only; omega) ?_ range
  simp only [since]
  omega

/-- The time of day is moved on, and the seconds of whole days are left over. -/
theorem timeAfter_eq (nanos : t.nanos < 2000000000) {step : Span}
    {interval : Nat} (unit : 0 ≤ step.nanos ∧ step.nanos < 1000000000)
    (sum : interval = step.seconds * 1000000000 + step.nanos)
    (range : interval ≤ Span.longest) :
    t.timeAfter step =
      .ok ((t.later interval).timeOfDay, (t.later interval).nanos,
      ((t.later interval).day - t.day) * 86400) := by
  obtain ⟨q, r⟩ := step
  rw [timeAfter, signed_bind (by omega)]
  simp only [Span.longest, timeOfDay, day] at unit sum range ⊢
  by_cases stays : t.isLeap ∧ t.nanos + interval < 2000000000
  · have room : t.isLeap = true ∧ q = 0 ∧ (t.nanos : Int) < 2000000000 - r := by
      have leap : 1000000000 ≤ t.nanos := by simpa [isLeap] using stays.1
      exact ⟨stays.1, by omega, by omega⟩
    have nanos : (t.nanos : Int) + r = (t.nanos + interval : Nat) := by omega
    rw [later, if_pos stays, if_pos room, signed_bind (by omega),
      nanos, Int.sub_self]
    rfl
  · have moves :
        ¬(t.isLeap = true ∧ q = 0 ∧ (t.nanos : Int) < 2000000000 - r) :=
      fun h => stays ⟨h.1, by omega⟩
    rw [later, if_neg stays, if_neg moves]
    rw [signed_bind (by omega), signed_bind (by omega), signed_bind (by omega),
      signed_bind (by omega)]
    refine congrArg Except.ok ?_
    simp only [Prod.mk.injEq]
    omega

theorem dayAfter_eq (ht : t.IsOfCalendar) {days : Int} (forth : 0 ≤ days) :
    t.dayAfter (days * 86400) =
      if lastSecond / 86400 < t.day + days then none
      else some (t.day + days) := by
  have whole : days * 86400 / 86400 = days := Int.mul_ediv_cancel _ (by decide)
  have calendar : firstSecond / 86400 ≤ t.day ∧ t.day ≤ lastSecond / 86400 :=
    ⟨Int.ediv_le_ediv (by decide) ht.first,
      Int.ediv_le_ediv (by decide) ht.last⟩
  rw [dayAfter]
  by_cases off : lastSecond / 86400 < t.day + days
  · -- It may be so far off that there is no span and no word for the way.
    rw [if_pos off, Span.make?]
    split
    · dsimp only [bind, Option.bind]
      rw [whole]
      by_cases word :
        -(1 <<< (32 - 1) : Nat) ≤ days ∧ days < (1 <<< (32 - 1) : Nat)
      · rw [signed_eq word]
        exact if_neg (by omega)
      · rw [signed, if_neg word]
        rfl
    · rfl
  · rw [if_neg off]
    simp only [firstSecond, lastSecond] at calendar off
    rw [Span.make?_eq (by omega) (by simp only [Span.longest]; omega)]
    dsimp only [bind, Option.bind]
    rw [whole, signed_eq (by omega)]
    refine if_pos ?_
    simp only [firstSecond, lastSecond]
    omega

theorem le_later (t : Instant) (interval : Nat) :
    t.seconds ≤ (t.later interval).seconds := by
  rw [later]
  split
  · exact Int.le_refl _
  · dsimp only
    omega

theorem nanos_later (t : Instant) (interval : Nat) :
    (t.later interval).nanos < 2000000000 := by
  rw [later]
  split
  next stays => exact stays.2
  · dsimp only
    omega

/-- A span forward leads to the instant that comes so much later, or off the
calendar. -/
theorem forward_eq (ht : t.IsOfCalendar) {step : Span} {interval : Nat}
    (unit : 0 ≤ step.nanos ∧ step.nanos < 1000000000)
    (sum : interval = step.seconds * 1000000000 + step.nanos)
    (range : interval ≤ Span.longest) :
    t.forward step =
      .ok (if lastSecond < (t.later interval).seconds then none
        else some (t.later interval)) := by
  have forth : 0 ≤ (t.later interval).day - t.day :=
    Int.sub_nonneg_of_le (Int.ediv_le_ediv (by decide) (t.le_later interval))
  have off : lastSecond / 86400 < (t.later interval).day ↔
      lastSecond < (t.later interval).seconds := by
    simp only [lastSecond, day]
    omega
  have there : t.day + ((t.later interval).day - t.day) =
      (t.later interval).day := by omega
  rw [forward, timeAfter_eq ht.nanos unit sum range]
  refine congrArg Except.ok ?_
  rw [dayAfter_eq ht forth, there]
  simp only [off]
  split
  · rfl
  · have here : (t.later interval).day * 86400 + (t.later interval).timeOfDay =
        (t.later interval).seconds := Int.ediv_mul_add_emod _ _
    simp only [Option.map_some, here, Int.toNat_natCast]

end Instant

end RuleWatch
