import Mathlib.Algebra.Ring.Nat
import RuleWatch.Text.Numeral

/-!
Numerals. A reader that never lets a number grow beyond its limit takes exactly
the numerals of numbers up to the limit, and gives back the number.
-/

namespace RuleWatch.Text

structure IsDigits (s : List Char) (n : Nat) : Prop where
  filled : s ≠ []
  digits : ∀ c ∈ s, c.isDigit = true
  value : Nat.ofDigitChars 10 s 0 = n

/-- Whether a text is a numeral of a number: its digits, perhaps behind a plus
sign. -/
def IsNumeral (s : List Char) (n : Nat) : Prop :=
  IsDigits s n ∨ ∃ ds, s = '+' :: ds ∧ IsDigits ds n

theorem isDigits_toDigits (n : Nat) : IsDigits (Nat.toDigits 10 n) n where
  filled := Nat.toDigits_ne_nil
  digits := fun _ => Nat.isDigit_of_mem_toDigits (by decide) (by decide)
  value := Nat.ofDigitChars_ten_toDigits

theorem isNumeral_toString (n : Nat) : IsNumeral (toString n).toList n := by
  rw [Nat.toString_eq_ofList_toDigits, String.toList_ofList]
  exact .inl (isDigits_toDigits n)

theorem not_isDigits_plus (s : List Char) (n : Nat) : ¬ IsDigits ('+' :: s) n :=
  fun h => absurd (h.digits '+' List.mem_cons_self) (by decide)

theorem isNumeral_plus_iff {s : List Char} {n : Nat} :
    IsNumeral ('+' :: s) n ↔ IsDigits s n := by
  simp [IsNumeral, not_isDigits_plus]

namespace Numeral

variable {limit value n : Nat} {cs : List Char}

theorem le_ofDigitChars (cs : List Char) (value : Nat) :
    value ≤ Nat.ofDigitChars 10 cs value := by
  induction cs generalizing value with
  | nil => exact Nat.le_refl value
  | cons c cs ih =>
      rw [Nat.ofDigitChars_cons]
      exact Nat.le_trans (by omega) (ih _)

/-- Digits behind a number within the limit are read as what they spell
together, unless that is beyond the limit. -/
theorem digits_eq_ok_iff (within : value ≤ limit) :
    digits limit value cs = .ok n ↔
    (∀ c ∈ cs, c.isDigit = true) ∧ Nat.ofDigitChars 10 cs value = n ∧
      n ≤ limit := by
  induction cs generalizing value with
  | nil =>
      simp only [digits, Except.ok.injEq, List.not_mem_nil, false_implies,
        implies_true, true_and]
      exact ⟨fun same => ⟨same, same ▸ within⟩, fun h => h.1⟩
  | cons c cs ih =>
      have next : value * 10 + (c.toNat - '0'.toNat) =
          10 * value + (c.toNat - '0'.toNat) := by
        rw [Nat.mul_comm]
      rw [digits, next, List.forall_mem_cons, Nat.ofDigitChars_cons]
      by_cases digit : c.isDigit = true
      · rw [if_pos digit]
        dsimp only
        split
        · next within => rw [ih within, and_assoc, and_iff_right digit]
        · next beyond =>
            refine iff_of_false nofun ?_
            rintro ⟨-, rfl, le⟩
            exact beyond (Nat.le_trans (le_ofDigitChars cs _) le)
      · rw [if_neg digit]
        exact iff_of_false nofun fun h => digit h.1.1

theorem digits_eq_ok_iff_isDigits {s : List Char} (filled : s ≠ []) :
    digits limit 0 s = .ok n ↔ IsDigits s n ∧ n ≤ limit := by
  rw [digits_eq_ok_iff (Nat.zero_le limit), ← and_assoc]
  exact and_congr_left fun _ =>
    ⟨fun h => ⟨filled, h.1, h.2⟩, fun h => ⟨h.digits, h.value⟩⟩

/-- The numerals of numbers up to the limit are read, and nothing else is. -/
theorem read_eq_ok_iff {s : List Char} :
    read limit s = .ok n ↔ IsNumeral s n ∧ n ≤ limit := by
  unfold read
  split
  · refine iff_of_false nofun ?_
    rintro ⟨(h | ⟨ds, h, -⟩), -⟩
    · exact h.filled rfl
    · cases h
  · refine iff_of_false nofun fun h => ?_
    exact (isNumeral_plus_iff.1 h.1).filled rfl
  · next filled =>
      rw [isNumeral_plus_iff, digits_eq_ok_iff_isDigits (by simpa using filled)]
  · next filled _ bare =>
      have plain : IsNumeral s n ↔ IsDigits s n :=
        or_iff_left fun ⟨ds, front, _⟩ => bare ds front
      rw [plain, digits_eq_ok_iff_isDigits filled]

end Numeral

theorem readWord64_eq_ok_iff {s : String} {n : Nat} :
    readWord64 s = .ok n ↔ IsNumeral s.toList n ∧ n < 2 ^ 64 := by
  have size : UInt64.size - 1 + 1 = 2 ^ 64 := rfl
  rw [readWord64, Numeral.read_eq_ok_iff, ← size, Nat.lt_succ_iff]

end RuleWatch.Text
