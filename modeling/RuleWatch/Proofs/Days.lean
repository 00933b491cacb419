import RuleWatch.Time.Calendar

/-!
Days and their numbers. Every number belongs to exactly one day of the calendar,
which is found from it: first the year, from a guess that is one off at most,
and then the month.
-/

namespace RuleWatch

namespace Date

/-! ### Years -/

theorem isLeapYear_iff (year : Int) :
    isLeapYear year = true ↔
      year % 4 = 0 ∧ (year % 100 ≠ 0 ∨ year % 400 = 0) := by
  simp [isLeapYear]

theorem daysBeforeYear_succ (year : Int) : daysBeforeYear (year + 1) =
    daysBeforeYear year + (365 + if isLeapYear year then 1 else 0) := by
  have leap := isLeapYear_iff year
  simp only [daysBeforeYear]
  split
  · rename_i h
    have := leap.1 h
    omega
  · rename_i h
    have := mt leap.2 h
    omega

theorem yearOf_spec (n : Int) :
    daysBeforeYear (yearOf n) ≤ n ∧ n < daysBeforeYear (yearOf n + 1) := by
  -- The guess counts all years as long as the mean one.
  have low : daysBeforeYear (n * 400 / 146097 + 1 - 1) ≤ n := by
    simp only [daysBeforeYear]
    omega
  have high : n < daysBeforeYear (n * 400 / 146097 + 1 + 1 + 1) := by
    simp only [daysBeforeYear]
    omega
  simp only [yearOf]
  split
  · rename_i before
    exact ⟨low, by rwa [Int.sub_add_cancel]⟩
  · rename_i from_
    split
    · rename_i next
      exact ⟨next, high⟩
    · rename_i notNext
      exact ⟨Int.not_lt.1 from_, Int.not_le.1 notNext⟩

/-! ### Months -/

def total (lengths : List Nat) : Nat := lengths.foldr (· + ·) 0

@[simp] theorem total_nil : total [] = 0 := rfl

@[simp] theorem total_cons (n : Nat) (lengths : List Nat) :
    total (n :: lengths) = n + total lengths := rfl

theorem total_monthLengths (year : Int) :
    total (monthLengths year) = 365 + if isLeapYear year then 1 else 0 := by
  simp only [monthLengths, total_cons, total_nil]
  split <;> rfl

theorem monthOf_spec (month : Nat) {n : Nat} {lengths : List Nat}
    (h : n < total lengths) :
    ∃ k d, monthOf month n lengths = (month + k, d + 1) ∧
      (∃ length, lengths[k]? = some length ∧
      d < length) ∧ total (lengths.take k) + d = n := by
  induction lengths generalizing month n with
  | nil => simp at h
  | cons length lengths ih =>
      unfold monthOf
      split
      · rename_i lt
        exact ⟨0, n, rfl, ⟨length, rfl, lt⟩, by simp⟩
      · rename_i ge
        rw [total_cons] at h
        obtain ⟨k, d, found, there, sum⟩ :=
          ih (month + 1) (n := n - length) (by omega)
        refine ⟨k + 1, d, ?_, there, ?_⟩
        · rw [found, Nat.add_assoc, Nat.add_comm 1]
        · rw [List.take_succ_cons, total_cons]
          omega

/-! ### Days -/

/-- What is found for a number is a day of the calendar, and the number is its
own. -/
theorem ofNumber_spec (n : Int) :
    (ofNumber n).isValid = true ∧ (ofNumber n).number = n ∧
    (ofNumber n).year = yearOf (n + daysBeforeEpoch) := by
  obtain ⟨low, high⟩ := yearOf_spec (n + daysBeforeEpoch)
  generalize hy : yearOf (n + daysBeforeEpoch) = year at low high
  rw [daysBeforeYear_succ] at high
  have lt : (n + daysBeforeEpoch - daysBeforeYear year).toNat <
      total (monthLengths year) := by
    rw [total_monthLengths]
    by_cases leap : isLeapYear year = true
    · simp only [leap, if_true] at high ⊢
      omega
    · simp only [leap, Bool.false_eq_true, if_false] at high ⊢
      omega
  obtain ⟨k, d, found, ⟨length, there, fits⟩, sum⟩ := monthOf_spec 1 lt
  have day : ofNumber n = ⟨year, 1 + k, d + 1⟩ := by
    simp only [ofNumber, hy, found]
  refine ⟨?_, ?_, by rw [day]⟩
  · rw [day, isValid]
    simp only [Nat.add_sub_cancel_left, there, Bool.and_eq_true,
      decide_eq_true_eq]
    omega
  · rw [day]
    simp only [number, daysBeforeMonth, Nat.add_sub_cancel_left]
    rw [show ((monthLengths year).take k).foldr (· + ·) 0 =
      total ((monthLengths year).take k)
      from rfl]
    omega

/-- The years 0 to 9999 have the days up to the last one of the year 9999. -/
theorem year_ofNumber {n : Int} (low : -719528 ≤ n) (high : n ≤ 2932896) :
    0 ≤ (ofNumber n).year ∧ (ofNumber n).year ≤ 9999 := by
  obtain ⟨first, last⟩ := yearOf_spec (n + daysBeforeEpoch)
  rw [(ofNumber_spec n).2.2]
  simp only [daysBeforeYear, daysBeforeEpoch] at first last ⊢
  omega

theorem le_of_isValid {d : Date} (h : d.isValid = true) :
    d.month ≤ 12 ∧ d.day ≤ 31 := by
  simp only [isValid, Bool.and_eq_true, decide_eq_true_eq] at h
  obtain ⟨⟨first, -⟩, there⟩ := h
  split at there
  · rename_i length known
    have lt : d.month - 1 < 12 := (List.getElem?_eq_some_iff.1 known).1
    have mem : length ∈ monthLengths d.year := List.mem_of_getElem? known
    have short : ∀ n ∈ monthLengths d.year, n ≤ 31 := by
      unfold monthLengths
      split <;> decide
    have := of_decide_eq_true there
    have := short _ mem
    omega
  · cases there

end Date

end RuleWatch
