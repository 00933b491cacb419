import Mathlib.Algebra.Group.Nat.Defs
import RuleWatch.Refresh.Metrics

/-!
Counts below 2⁵³ are not rounded. A natural with at most 53 binary digits is its
own nearest number, out of whichever quotient it comes, and so is the sum of two
of them. Main statement: a counter that has gone up so many times shows how
often.
-/

namespace RuleWatch

namespace Decimal.Binary

def Equals (x : Binary) (n : Nat) : Prop := x.numerator = n * x.denominator

/-- A natural in the form with 53 binary digits. -/
def whole (n : Nat) : Binary :=
  if n = 0 then zero else ⟨n * 2 ^ (52 - n.log2), n.log2 - 52⟩

theorem log2_le {n : Nat} (pos : n ≠ 0) (lt : n < 2 ^ 53) : n.log2 ≤ 52 :=
  Nat.le_of_lt_succ ((Nat.log2_lt pos).2 lt)

theorem digits_bounds {n : Nat} (pos : n ≠ 0) (lt : n < 2 ^ 53) :
    2 ^ 52 ≤ n * 2 ^ (52 - n.log2) ∧ n * 2 ^ (52 - n.log2) < 2 ^ 53 := by
  have le := log2_le pos lt
  have lower := Nat.mul_le_mul_right (2 ^ (52 - n.log2)) (Nat.log2_self_le pos)
  have upper := Nat.mul_lt_mul_of_pos_right (Nat.lt_log2_self (n := n))
    (Nat.two_pow_pos (52 - n.log2))
  rw [← Nat.pow_add] at lower upper
  rw [show n.log2 + (52 - n.log2) = 52 by omega] at lower
  rw [show n.log2 + 1 + (52 - n.log2) = 53 by omega] at upper
  exact ⟨lower, upper⟩

theorem upward_of_nonpos {e : Int} (h : e ≤ 0) : upward e = 1 := by
  rw [upward, Int.toNat_of_nonpos h, Nat.pow_eq, Nat.pow_zero]

theorem downward_sub {k : Nat} (le : k ≤ 52) :
    downward ((k : Int) - 52) = 2 ^ (52 - k) := by
  rw [downward, Nat.pow_eq, show (-((k : Int) - 52)).toNat = 52 - k by omega]

theorem equals_whole {n : Nat} (lt : n < 2 ^ 53) : (whole n).Equals n := by
  by_cases zero : n = 0
  · subst zero
    exact (Nat.zero_mul _).trans (Nat.zero_mul _).symm
  · have le := log2_le zero lt
    rw [whole, if_neg zero, Equals, numerator, denominator, downward_sub le,
      upward_of_nonpos (by simp only; omega), Nat.mul_one]

theorem denominator_ne (x : Binary) : x.denominator ≠ 0 := by
  rw [denominator, downward, Nat.pow_eq]
  exact Nat.ne_of_gt (Nat.two_pow_pos _)

theorem log2_mul {n d : Nat} (hn : n ≠ 0) (hd : d ≠ 0) :
    (n * d).log2 = n.log2 + d.log2 ∨ (n * d).log2 = n.log2 + d.log2 + 1 := by
  have pos : n * d ≠ 0 := Nat.mul_ne_zero hn hd
  have lower : 2 ^ (n.log2 + d.log2) ≤ n * d := by
    rw [Nat.pow_add]
    exact Nat.mul_le_mul (Nat.log2_self_le hn) (Nat.log2_self_le hd)
  have upper : n * d < 2 ^ (n.log2 + d.log2 + 2) := by
    rw [show n.log2 + d.log2 + 2 = n.log2 + 1 + (d.log2 + 1) by omega,
      Nat.pow_add]
    exact Nat.mul_lt_mul'' Nat.lt_log2_self Nat.lt_log2_self
  have := (Nat.le_log2 pos).2 lower
  have := (Nat.log2_lt pos).2 upper
  omega

theorem unitOf_mul {n d : Nat} (hn : n ≠ 0) (hd : d ≠ 0) (lt : n < 2 ^ 53) :
    unitOf (n * d) d = (n.log2 : Int) - 52 := by
  have le := log2_le hn lt
  obtain ⟨lower, upper⟩ := digits_bounds hn lt
  have pos := Nat.pos_of_ne_zero hd
  have inRange : max ((n.log2 : Int) - 52) lowest = n.log2 - 52 := by
    rw [lowest]
    omega
  rw [unitOf]
  -- With one digit less the first guess is right; else it is one too high and
  -- is corrected.
  rcases log2_mul hn hd with log | log
  · have first : ((n * d).log2 : Int) - d.log2 - 52 = n.log2 - 52 := by omega
    have enough : ¬ n * d * 2 ^ (52 - n.log2) < 2 ^ 52 * (d * 1) := by
      rw [Nat.mul_one, Nat.mul_right_comm]
      exact Nat.not_lt.2 (Nat.mul_le_mul_right d lower)
    simp only [first, downward_sub le,
      upward_of_nonpos (show (n.log2 : Int) - 52 ≤ 0 by omega), Nat.pow_eq,
      if_neg enough, inRange]
  · have first : ((n * d).log2 : Int) - d.log2 - 52 = n.log2 - 51 := by omega
    have second : (n.log2 : Int) - 51 - 1 = n.log2 - 52 := by omega
    have few : n * d * downward ((n.log2 : Int) - 51) <
        Nat.pow 2 52 * (d * upward ((n.log2 : Int) - 51)) := by
      rw [Nat.mul_right_comm, Nat.mul_comm d, ← Nat.mul_assoc]
      refine Nat.mul_lt_mul_of_pos_right ?_ pos
      -- The unit of the first guess may be 2, which enlarges the other side.
      by_cases top : n.log2 = 52
      · rw [top]
        simpa [downward, upward] using lt
      · have half : 2 ^ (52 - n.log2) = 2 ^ (51 - n.log2) * 2 := by
          rw [← Nat.pow_succ, show (51 - n.log2).succ = 52 - n.log2 by omega]
        rw [half, ← Nat.mul_assoc] at upper
        rw [upward_of_nonpos (by omega), downward, Nat.pow_eq, Nat.pow_eq,
          show (-((n.log2 : Int) - 51)).toNat = 51 - n.log2 by omega]
        omega
    simp only [first, if_pos few, second, inRange]

theorem nearest_mul (q : Nat) {d : Nat} (hd : d ≠ 0) :
    nearest (q * d) d = q := by
  simp [nearest, Nat.mul_div_cancel q (Nat.pos_of_ne_zero hd),
    Nat.pos_of_ne_zero hd]

/-- A quotient that is a natural is not rounded. -/
theorem ofRatio_mul {n d : Nat} (hd : d ≠ 0) (lt : n < 2 ^ 53) :
    ofRatio (n * d) d = some (whole n) := by
  by_cases zero : n = 0
  · simp [ofRatio, whole, zero]
  · have le := log2_le zero lt
    have unit := unitOf_mul zero hd lt
    have digits : nearest (n * d * 2 ^ (52 - n.log2)) (d * 1) =
        n * 2 ^ (52 - n.log2) := by
      rw [Nat.mul_one, Nat.mul_right_comm, nearest_mul _ hd]
    have few : n * 2 ^ (52 - n.log2) ≠ 2 ^ 53 :=
      Nat.ne_of_lt (digits_bounds zero lt).2
    have small : ¬ highest < (n.log2 : Int) - 52 := by
      rw [highest]
      omega
    simp only [ofRatio, Nat.mul_ne_zero zero hd, if_false, unit,
      downward_sub le, upward_of_nonpos (show (n.log2 : Int) - 52 ≤ 0 by omega),
      digits, Nat.pow_eq, few, small, whole, zero]

end Decimal.Binary

namespace Metrics

open Decimal

theorem ofCount_eq_whole {n : Nat} (lt : n < 2 ^ 53) :
    ofCount n = .whole n := by
  have unrounded := Binary.ofRatio_mul (d := 1) (by decide) lt
  rw [Nat.mul_one] at unrounded
  rw [ofCount, Binary.ofNat, unrounded]
  rfl

def counted : Nat → Binary
  | 0 => .zero
  | n + 1 => increment (counted n)

theorem increment_whole {n : Nat} (lt : n + 1 < 2 ^ 53) :
    increment (.whole n) = .whole (n + 1) := by
  have here := Binary.equals_whole (Nat.lt_of_succ_lt lt)
  have one := Binary.equals_whole (n := 1) (by decide)
  have sum : (Binary.whole n).add (.whole 1) = some (.whole (n + 1)) := by
    rw [Binary.add, here, one, Nat.one_mul, Nat.mul_assoc,
      Nat.mul_comm (Binary.denominator _), ← Nat.succ_mul]
    exact Binary.ofRatio_mul
      (Nat.mul_ne_zero (Binary.denominator_ne _) (Binary.denominator_ne _)) lt
  rw [increment, ofCount_eq_whole (by decide), sum]
  rfl

/-- Main statement: as long as it stays below 2⁵³, a counter shows how often it
has gone up. -/
theorem counted_eq_whole {n : Nat} (lt : n < 2 ^ 53) :
    counted n = .whole n := by
  induction n with
  | zero => rfl
  | succ n ih => rw [counted, ih (Nat.lt_of_succ_lt lt), increment_whole lt]

end Metrics

end RuleWatch
