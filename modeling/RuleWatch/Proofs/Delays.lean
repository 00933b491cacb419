import RuleWatch.Proofs.Spans
import RuleWatch.Refresh.Delay

/-!
The wait before the first refresh, to the nanosecond. Main statement: between
any two instants of the calendar, the words that the wait is computed in hold
every number on the way, and the wait is what is left until one interval after
the last update, or the whole interval where it leads to no instant.
-/

namespace RuleWatch

/-! ### Nanoseconds on the wall -/

namespace Instant

def count (t : Instant) : Int := t.seconds * 1000000000 + t.nanos

theorem isLeap_eq_false_iff {t : Instant} :
    t.isLeap = false ↔ t.nanos < 1000000000 := by
  rw [isLeap, decide_eq_false_iff_not, Nat.not_le]

theorem count_shift (t : Instant) (nanos : Int) :
    (t.shift nanos).count = t.count + nanos := by
  simp only [shift, count]
  omega

theorem shift_zero {t : Instant} (ordinary : t.isLeap = false) :
    t.shift 0 = t := by
  have lt : t.nanos < 1000000000 := isLeap_eq_false_iff.1 ordinary
  obtain ⟨seconds, nanos⟩ := t
  simp only [shift, mk.injEq] at lt ⊢
  omega

theorem count_later {t : Instant} (ordinary : t.isLeap = false) (nanos : Nat) :
    (t.later nanos).count = t.count + nanos ∧
      (t.later nanos).isLeap = false := by
  have lt : t.nanos < 1000000000 := isLeap_eq_false_iff.1 ordinary
  rw [later, if_neg (by simp [ordinary])]
  constructor
  · simp only [count]
    omega
  · rw [isLeap_eq_false_iff]
    dsimp only
    omega

theorem since_eq {a b : Instant} (ha : a.isLeap = false)
    (hb : b.isLeap = false) :
    a.since b = a.count - b.count := by
  simp only [since, leapBetween, ha, hb, Bool.false_eq_true,
    and_false, if_false, count]
  omega

end Instant

/-- The wait before the first refresh ends one interval after the last update,
to the nanosecond. -/
theorem initialDelay_eq {updated now : Instant} {interval : Nat}
    (ordinary : updated.isLeap = false ∧ now.isLeap = false)
    (step : interval ≤ longestStep)
    (range : updated.count + interval < (Instant.lastSecond + 1) * 1000000000) :
    initialDelay updated now interval =
      (updated.count + interval - now.count).toNat := by
  obtain ⟨count, due⟩ := Instant.count_later ordinary.1 interval
  have within : ¬(longestStep < interval ∨
      Instant.lastSecond < (updated.later interval).seconds) := by
    rw [← count, Instant.count] at range
    omega
  simp only [initialDelay, if_neg within]
  rw [Instant.since_eq due ordinary.2, count]

/-! ### The wait -/

theorem longestStep_eq : longestStep = 9223372036854775807000000 := rfl

/-- In words of a few bits, the wait comes out the same between any instants of
the calendar. -/
theorem delayInWords_eq {updated now : Instant} {interval : Nat}
    (ht : updated.IsOfCalendar) (hn : now.IsOfCalendar)
    (range : interval ≤ Span.longestInterval) :
    delayInWords updated now interval =
      .ok (initialDelay updated now interval) := by
  rw [delayInWords, Span.ofInterval_eq range, initialDelay]
  by_cases long : longestStep < interval
  · have far : Span.longest < interval := Int.ofNat_lt.2 long
    rw [if_pos far, if_pos (.inl long)]
    rfl
  · have step : interval ≤ Span.longest :=
      Int.ofNat_le.2 (Nat.le_of_not_lt long)
    rw [if_neg (Int.not_lt.2 step)]
    change (updated.forward ⟨(interval / 1000000000 : Nat),
      (interval % 1000000000 : Nat)⟩ >>= _) = _
    rw [Instant.forward_eq ht (by dsimp only; omega)
      (by dsimp only; omega) step]
    by_cases off : Instant.lastSecond < (updated.later interval).seconds
    · rw [if_pos off, if_pos (.inr off)]
      rfl
    · have due : (updated.later interval).IsOfCalendar :=
        ⟨Int.le_trans ht.first (updated.le_later interval),
          Int.le_of_not_gt off, updated.nanos_later interval⟩
      rw [if_neg off, if_neg (not_or.2 ⟨long, off⟩)]
      change ((updated.later interval).minus now >>= Span.wait) = _
      rw [Instant.minus_eq due hn]
      exact Span.wait_eq (Instant.since_bounds due hn).2

/-! ### How far instants go -/

namespace Instant

def last : Instant := ⟨lastSecond, 999999999⟩

/-- Whether an interval leads from one instant to another one. -/
def Reaches (t : Instant) (interval : Nat) : Prop :=
  interval ≤ longestStep ∧ t.count + interval ≤ last.count

instance (t : Instant) (interval : Nat) : Decidable (t.Reaches interval) :=
  inferInstanceAs (Decidable (_ ∧ _))

theorem count_bounds {t : Instant} (calendar : t.IsOfCalendar)
    (ordinary : t.isLeap = false) :
    firstSecond * 1000000000 ≤ t.count ∧ t.count ≤ last.count := by
  have lt : t.nanos < 1000000000 := isLeap_eq_false_iff.1 ordinary
  obtain ⟨first, last, -⟩ := calendar
  simp only [count, Instant.last, firstSecond, lastSecond] at *
  omega

theorem isLeap_shift (t : Instant) (nanos : Int) :
    (t.shift nanos).isLeap = false := by
  rw [isLeap_eq_false_iff, shift]
  dsimp only
  omega

end Instant

theorem initialDelay_of_reaches {updated now : Instant} {interval : Nat}
    (ordinary : updated.isLeap = false ∧ now.isLeap = false)
    (reaches : updated.Reaches interval) :
    initialDelay updated now interval =
      (updated.count + interval - now.count).toNat := by
  refine initialDelay_eq ordinary reaches.1 ?_
  have le : updated.count + interval ≤ Instant.last.count := reaches.2
  simp only [Instant.last, Instant.count, Instant.lastSecond] at le ⊢
  omega

theorem initialDelay_of_not_reaches {updated now : Instant} {interval : Nat}
    (ordinary : updated.isLeap = false) (reaches : ¬updated.Reaches interval) :
    initialDelay updated now interval = interval := by
  refine if_pos (Decidable.byContradiction fun h => reaches ?_)
  obtain ⟨short, due⟩ := not_or.1 h
  obtain ⟨count, later⟩ := Instant.count_later ordinary interval
  refine ⟨Nat.le_of_not_lt short, ?_⟩
  have lt : (updated.later interval).nanos < 1000000000 :=
    Instant.isLeap_eq_false_iff.1 later
  rw [← count]
  simp only [Instant.last, Instant.count]
  omega

example : initialDelay .last .epoch 1 = 1 := by decide

/-- Main statement: the wait before the first refresh is exact. Every number on
the way to it fits in its word. Where the interval leads from the last update to
an instant, what is left until then is waited, and elsewhere the interval. So
the wait is no longer than the interval unless the last update lies ahead, there
is none just when the refresh is due, and moving both instants alike does not
change it while the interval still leads to an instant. -/
theorem initialDelay_is_exact {updated now : Instant} {interval : Nat}
    (calendar : updated.IsOfCalendar ∧ now.IsOfCalendar)
    (ordinary : updated.isLeap = false ∧ now.isLeap = false)
    (range : interval ≤ Span.longestInterval) :
    let delay := initialDelay updated now interval
    delayInWords updated now interval = .ok delay ∧
      (updated.Reaches interval →
        (delay : Int) = max 0 (updated.count + interval - now.count)) ∧
      (¬updated.Reaches interval → delay = interval) ∧
      (updated.count ≤ now.count → delay ≤ interval) ∧
      (delay = 0 ↔ updated.count + interval ≤ now.count) ∧
      ∀ nanos : Int, updated.Reaches interval →
        (updated.shift nanos).Reaches interval →
        initialDelay (updated.shift nanos) (now.shift nanos) interval =
          delay := by
  intro delay
  have words := delayInWords_eq calendar.1 calendar.2 range
  have first := Instant.count_bounds calendar.1 ordinary.1
  have last := Instant.count_bounds calendar.2 ordinary.2
  by_cases reaches : updated.Reaches interval
  · have exact : delay = (updated.count + interval - now.count).toNat :=
      initialDelay_of_reaches ordinary reaches
    refine ⟨words, fun _ => by omega, fun h => absurd reaches h,
      fun _ => by omega, by omega, ?_⟩
    intro nanos _ shifted
    rw [exact,
      initialDelay_of_reaches ⟨Instant.isLeap_shift .., Instant.isLeap_shift ..⟩
        shifted, Instant.count_shift, Instant.count_shift]
    omega
  · have whole : delay = interval :=
      initialDelay_of_not_reaches ordinary.1 reaches
    refine ⟨words, fun h => absurd h reaches, fun _ => whole,
      fun _ => Nat.le_of_eq whole, ?_, fun _ h => absurd h reaches⟩
    rw [whole]
    have far : longestStep < interval ∨
        Instant.last.count < updated.count + interval := by
      by_cases short : interval ≤ longestStep
      · exact .inr (Int.lt_of_not_ge fun h => reaches ⟨short, h⟩)
      · exact .inl (Nat.lt_of_not_le short)
    simp only [Instant.last, Instant.count, Instant.firstSecond,
      Instant.lastSecond, longestStep_eq] at first last far ⊢
    omega

/-- From before 1970 to behind it, where a second is borrowed for the
nanoseconds. -/
theorem delay_across_epoch :
    let updated : Instant := ⟨-1, 600000000⟩
    let now : Instant := ⟨0, 100000000⟩
    delayInWords updated now 1250000001 = .ok 750000001 ∧
      initialDelay (updated.shift 86399999999999)
        (now.shift 86399999999999) 1250000001 =
        750000001 := by
  intro updated now
  obtain ⟨words, exact, -, -, -,
      shifted⟩ := @initialDelay_is_exact updated now 1250000001
    ⟨⟨by decide, by decide, by decide⟩, ⟨by decide, by decide, by decide⟩⟩
    ⟨rfl, rfl⟩ (by decide)
  have delay : initialDelay updated now 1250000001 = 750000001 :=
    Int.ofNat_inj.1 (exact (by decide))
  exact ⟨words.trans (congrArg Except.ok delay),
    (shifted 86399999999999 (by decide) (by decide)).trans delay⟩

end RuleWatch
