/-!
Days of the Gregorian calendar, in years of any sign, and their numbers counted
from the first day of 1970.
-/

namespace RuleWatch

structure Date where
  year : Int
  month : Nat
  day : Nat
  deriving DecidableEq, Repr

namespace Date

def isLeapYear (year : Int) : Bool :=
  year % 4 = 0 && (year % 100 ≠ 0 || year % 400 = 0)

def monthLengths (year : Int) : List Nat :=
  [31, if isLeapYear year then 29 else 28, 31, 30, 31, 30, 31,
    31, 30, 31, 30, 31]

def isValid (d : Date) : Bool :=
  1 ≤ d.month && 1 ≤ d.day &&
    match (monthLengths d.year)[d.month - 1]? with
    | some n => d.day ≤ n
    | none => false

/-- The days from the first day of the year 1 to the first day of another
year. -/
def daysBeforeYear (year : Int) : Int :=
  365 * (year - 1) + (year - 1) / 4 - (year - 1) / 100 + (year - 1) / 400

/-- The days from the first day of the year 1 to the first day of 1970. -/
def daysBeforeEpoch : Int := 719162

/-- The days of a year before a month. -/
def daysBeforeMonth (year : Int) (month : Nat) : Nat :=
  ((monthLengths year).take (month - 1)).foldr (· + ·) 0

def number (d : Date) : Int :=
  daysBeforeYear d.year + daysBeforeMonth d.year d.month +
    d.day - 1 - daysBeforeEpoch

/-- The year of the day that comes `n` days after the first day of the year
1. -/
def yearOf (n : Int) : Int :=
  let guess := n * 400 / 146097 + 1
  if n < daysBeforeYear guess then guess - 1
  else if daysBeforeYear (guess + 1) ≤ n then guess + 1
  else guess

/-- The month and day that come `n` days after the first day of the month
`month`, behind which months of the given lengths follow. -/
def monthOf (month n : Nat) : List Nat → Nat × Nat
  | [] => (month, n + 1)
  | length :: lengths => if n < length then (month, n + 1)
    else monthOf (month + 1) (n - length) lengths

def ofNumber (number : Int) : Date :=
  let n := number + daysBeforeEpoch
  let year := yearOf n
  let (month, day) :=
    monthOf 1 (n - daysBeforeYear year).toNat (monthLengths year)
  ⟨year, month, day⟩

end Date

end RuleWatch
