import Mathlib.Data.Int.Init
import RuleWatch.Proofs.Days

/-!
The calendar day by day. The day after a day is found from the length of its
month, and counting on from the first day of 1970, forwards and backwards, every
day of the calendar is met with its number and no day has the number of another
one.
-/

namespace RuleWatch.Date

def monthLength (d : Date) : Nat := (monthLengths d.year)[d.month - 1]?.getD 0

def next (d : Date) : Date :=
  if d.day < d.monthLength then ⟨d.year, d.month, d.day + 1⟩
  else if d.month < 12 then ⟨d.year, d.month + 1, 1⟩
  else ⟨d.year + 1, 1, 1⟩

/-- Days that are met in counting from the first day of 1970, with the number
that each comes to. -/
inductive Counted : Date → Int → Prop
  | epoch : Counted ⟨1970, 1, 1⟩ 0
  | next {d : Date} {n : Int} (h : Counted d n) : Counted d.next (n + 1)
  | previous {d : Date} {n : Int} (valid : d.isValid = true)
      (h : Counted d.next (n + 1)) :
      Counted d n

variable {d d' : Date} {n : Int}

/-! ### Months -/

theorem getElem?_monthLengths (first : 1 ≤ d.month) (last : d.month ≤ 12) :
    (monthLengths d.year)[d.month - 1]? = some d.monthLength := by
  have lt : d.month - 1 < (monthLengths d.year).length := by
    change d.month - 1 < 12
    omega
  rw [monthLength, List.getElem?_eq_getElem lt, Option.getD_some]

theorem isValid_iff : d.isValid = true ↔
    (1 ≤ d.month ∧ d.month ≤ 12) ∧ 1 ≤ d.day ∧ d.day ≤ d.monthLength := by
  constructor
  · intro h
    have last := (le_of_isValid h).1
    simp only [isValid, Bool.and_eq_true, decide_eq_true_eq] at h
    obtain ⟨⟨first, day⟩, fits⟩ := h
    rw [getElem?_monthLengths first last] at fits
    exact ⟨⟨first, last⟩, day, of_decide_eq_true fits⟩
  · rintro ⟨⟨first, last⟩, day, fits⟩
    simp [isValid, getElem?_monthLengths first last, first, day, fits]

theorem total_take_mono (lengths : List Nat) {j k : Nat} (le : j ≤ k) :
    total (lengths.take j) ≤ total (lengths.take k) := by
  induction lengths generalizing j k with
  | nil => simp
  | cons length lengths ih =>
      cases j with
      | zero => exact Nat.zero_le _
      | succ j =>
          obtain ⟨k, rfl⟩ : ∃ i, k = i + 1 := ⟨k - 1, by omega⟩
          exact Nat.add_le_add_left (ih (Nat.le_of_succ_le_succ le)) length

theorem total_take_succ {lengths : List Nat} {k length : Nat}
    (there : lengths[k]? = some length) :
    total (lengths.take (k + 1)) = total (lengths.take k) + length := by
  induction lengths generalizing k with
  | nil => cases there
  | cons first lengths ih =>
      cases k with
      | zero =>
          obtain rfl : first = length := Option.some.inj there
          exact Nat.add_comm first 0
      | succ k =>
          rw [List.take_succ_cons, List.take_succ_cons, total_cons, total_cons,
            ih there, Nat.add_assoc]

theorem daysBeforeMonth_succ (h : d.isValid = true) :
    daysBeforeMonth d.year (d.month + 1) =
      daysBeforeMonth d.year d.month + d.monthLength := by
  obtain ⟨⟨first, last⟩, -⟩ := isValid_iff.1 h
  have step := total_take_succ (getElem?_monthLengths first last)
  rwa [Nat.sub_add_cancel first] at step

theorem daysBeforeYear_succ_eq (year : Int) :
    daysBeforeYear (year + 1) =
      daysBeforeYear year + daysBeforeMonth year (12 + 1) := by
  have months : daysBeforeMonth year (12 + 1) = total (monthLengths year) := rfl
  rw [daysBeforeYear_succ, months, total_monthLengths]
  split <;> rfl

theorem monthLength_pos (first : 1 ≤ d.month) (last : d.month ≤ 12) :
    1 ≤ d.monthLength := by
  have long : ∀ length ∈ monthLengths d.year, 1 ≤ length := by
    unfold monthLengths
    split <;> decide
  exact long _ (List.mem_of_getElem? (getElem?_monthLengths first last))

/-! ### The day after -/

/-- The day after a day of the calendar is one too, and its number is the next
one. -/
theorem next_spec (h : d.isValid = true) :
    d.next.isValid = true ∧ d.next.number = d.number + 1 := by
  obtain ⟨⟨first, last⟩, day, fits⟩ := isValid_iff.1 h
  have months := daysBeforeMonth_succ h
  rw [next]
  split
  · next inside =>
      refine ⟨isValid_iff.2 ⟨⟨first, last⟩, Nat.le_add_left 1 _, inside⟩, ?_⟩
      simp only [number]
      omega
  · next full =>
      split
      · next early =>
          refine ⟨isValid_iff.2 ⟨⟨Nat.le_add_left 1 _, early⟩, Nat.le_refl 1,
            monthLength_pos (Nat.le_add_left 1 _) early⟩, ?_⟩
          simp only [number, months]
          omega
      · next late =>
          refine ⟨isValid_iff.2 ⟨⟨Nat.le_refl 1, Nat.le_add_left 1 11⟩,
            Nat.le_refl 1,
            monthLength_pos (Nat.le_refl 1) (Nat.le_add_left 1 11)⟩, ?_⟩
          have december : d.month = 12 := by omega
          have january : daysBeforeMonth (d.year + 1) 1 = 0 := rfl
          rw [december] at months
          simp only [number, january, daysBeforeYear_succ_eq, december]
          omega

/-! ### Numbers -/

theorem number_bounds (h : d.isValid = true) :
    daysBeforeYear d.year ≤ d.number + daysBeforeEpoch ∧
    d.number + daysBeforeEpoch < daysBeforeYear (d.year + 1) := by
  obtain ⟨⟨first, last⟩, day, fits⟩ := isValid_iff.1 h
  have months := daysBeforeMonth_succ h
  have within : daysBeforeMonth d.year (d.month + 1) ≤
      daysBeforeMonth d.year (12 + 1) :=
    total_take_mono _ last
  simp only [number, daysBeforeYear_succ_eq]
  omega

theorem number_lt_of_year_lt (h : d.isValid = true) (h' : d'.isValid = true)
    (lt : d.year < d'.year) : d.number < d'.number := by
  have end_ := (number_bounds h).2
  have start := (number_bounds h').1
  have years : daysBeforeYear (d.year + 1) ≤ daysBeforeYear d'.year := by
    simp only [daysBeforeYear]
    omega
  omega

theorem number_lt_of_month_lt (h : d.isValid = true) (h' : d'.isValid = true)
    (year : d.year = d'.year) (lt : d.month < d'.month) :
    d.number < d'.number := by
  obtain ⟨-, -, fits⟩ := isValid_iff.1 h
  obtain ⟨-, day', -⟩ := isValid_iff.1 h'
  have months := daysBeforeMonth_succ h
  have within : daysBeforeMonth d.year (d.month + 1) ≤
      daysBeforeMonth d.year d'.month :=
    total_take_mono _ (Nat.le_sub_one_of_lt lt)
  simp only [number, ← year]
  omega

theorem number_injective (h : d.isValid = true) (h' : d'.isValid = true)
    (same : d.number = d'.number) : d = d' := by
  have year : d.year = d'.year := by
    rcases Int.lt_trichotomy d.year d'.year with lt | eq | lt
    · have := number_lt_of_year_lt h h' lt
      omega
    · exact eq
    · have := number_lt_of_year_lt h' h lt
      omega
  have month : d.month = d'.month := by
    rcases Nat.lt_trichotomy d.month d'.month with lt | eq | lt
    · have := number_lt_of_month_lt h h' year lt
      omega
    · exact eq
    · have := number_lt_of_month_lt h' h year.symm lt
      omega
  obtain ⟨y, m, n⟩ := d
  obtain ⟨y', m', n'⟩ := d'
  cases year
  cases month
  simp only [number] at same
  rw [show n = n' by omega]

theorem ofNumber_number (h : d.isValid = true) : ofNumber d.number = d := by
  obtain ⟨valid, number, -⟩ := ofNumber_spec d.number
  exact number_injective valid h number

theorem next_ofNumber (n : Int) : (ofNumber n).next = ofNumber (n + 1) := by
  obtain ⟨valid, number, -⟩ := ofNumber_spec n
  obtain ⟨validNext, numberNext⟩ := next_spec valid
  rw [← ofNumber_number validNext, numberNext, number]

theorem counted_ofNumber (n : Int) : Counted (ofNumber n) n := by
  induction n using Int.induction_on with
  | zero => exact .epoch
  | succ n ih => exact next_ofNumber n ▸ ih.next
  | pred n ih =>
      refine .previous (ofNumber_spec _).1 ?_
      rwa [next_ofNumber, Int.sub_add_cancel]

/-- The days that are counted are the days of the calendar, each with its
number. -/
theorem counted_iff : Counted d n ↔ d.isValid = true ∧ d.number = n := by
  constructor
  · intro h
    induction h with
    | epoch => decide
    | next h ih =>
        obtain ⟨valid, rfl⟩ := ih
        exact next_spec valid
    | previous valid h ih =>
        have := (next_spec valid).2
        exact ⟨valid, by omega⟩
  · rintro ⟨valid, rfl⟩
    have counted := counted_ofNumber d.number
    rwa [ofNumber_number valid] at counted

end RuleWatch.Date
