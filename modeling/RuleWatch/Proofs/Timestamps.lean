import Mathlib.Algebra.Order.Ring.Int
import RuleWatch.Proofs.TimestampForms

/-!
Written timestamps. Every instant has a text in every zone, with as many digits
of a second as are asked for, if they are enough. The text that is written for
it is one of these, so it is read back.
-/

namespace RuleWatch

/-- Whether an instant lies in the years 0 to 9999, and in a leap second only at
the end of a minute. -/
structure Instant.IsTimely (t : Instant) : Prop where
  first : -62167219200 ≤ t.seconds
  last : t.seconds ≤ 253402300799
  nanos : t.nanos < 1000000000 ∨ t.nanos < 2000000000 ∧ t.seconds % 60 = 59

namespace Timestamp

open Text

/-! ### Spellings -/

def leading : Nat → Nat → Nat → List Nat
  | k + 1, m + 1, n => n / 10 ^ m :: leading k m (n % 10 ^ m)
  | _, _, _ => []

theorem length_leading {k m : Nat} (le : k ≤ m) (n : Nat) :
    (leading k m n).length = k := by
  induction k generalizing m n with
  | zero => rfl
  | succ k ih =>
      obtain ⟨m, rfl⟩ : ∃ i, m = i + 1 := ⟨m - 1, by omega⟩
      exact congrArg (· + 1) (ih (Nat.le_of_succ_le_succ le) _)

theorem leading_lt_ten {k m n : Nat} (lt : n < 10 ^ m) :
    ∀ d ∈ leading k m n, d < 10 := by
  induction k generalizing m n with
  | zero => simp [leading]
  | succ k ih =>
      cases m with
      | zero => simp [leading]
      | succ m =>
          rw [leading, List.forall_mem_cons]
          refine ⟨Nat.div_lt_of_lt_mul ?_,
            ih (Nat.mod_lt _ (Nat.pow_pos (by decide)))⟩
          rwa [← Nat.pow_succ]

/-- Where the digits that are left out are zeros, the others tell the number. -/
theorem units_leading {k m n : Nat} (le : k ≤ m) (lt : n < 10 ^ m)
    (zeros : 10 ^ (m - k) ∣ n) :
    units m (leading k m n) = n := by
  induction k generalizing m n with
  | zero =>
      have none : n = 0 := Nat.eq_zero_of_dvd_of_lt zeros lt
      cases m <;> simp [leading, units, none]
  | succ k ih =>
      obtain ⟨m, rfl⟩ : ∃ i, m = i + 1 := ⟨m - 1, by omega⟩
      rw [Nat.succ_sub_succ] at zeros
      have behind : 10 ^ (m - k) ∣ n % 10 ^ m :=
        (Nat.dvd_mod_iff (Nat.pow_dvd_pow 10 (Nat.sub_le m k))).2 zeros
      have rest : units m (leading k m (n % 10 ^ m)) = n % 10 ^ m :=
        ih (Nat.le_of_succ_le_succ le)
          (Nat.mod_lt _ (Nat.pow_pos (by decide))) behind
      rw [leading, units, rest, Nat.mul_comm]
      exact Nat.div_add_mod n (10 ^ m)

/-- The fields that clocks of a zone show at an instant, with `k` digits of a
second. -/
def Form.shown (t : Instant) (zone : Zone) (k : Nat) : Form :=
  let clock := t.seconds + zone.minutes * 60
  let seconds := (clock % 86400).toNat
  { date := .ofNumber (clock / 86400), separator := 'T', hour := seconds / 3600,
    minute := seconds / 60 % 60,
    second := seconds % 60 + if t.isLeap then 1 else 0,
    digits := leading k 9 (t.nanos % 1000000000), zone }

section

variable {t : Instant} {zone : Zone} {k : Nat}

/-- The second that is shown is the 60th only in a leap second, which lasts as
long as the second before it. -/
theorem Form.second_shown (leap : t.nanos < 1000000000 ∨
    t.nanos < 2000000000 ∧ t.seconds % 60 = 59)
    (zone : Zone) (k : Nat) :
    (shown t zone k).second ≤ 60 ∧
      min (shown t zone k).second 59 =
        ((t.seconds + zone.minutes * 60) % 86400).toNat % 60 ∧
      (if (shown t zone k).second = 60 then 1000000000 else 0) +
        t.nanos % 1000000000 = t.nanos := by
  simp only [shown, Instant.isLeap, decide_eq_true_eq]
  generalize zone.minutes = minutes
  split
  · next late =>
      obtain ⟨short, last⟩ := leap.resolve_left (by omega)
      rw [if_pos (by omega)]
      omega
  · next early =>
      rw [if_neg (by omega)]
      omega

theorem Form.denotes_shown
    (leap : t.nanos < 1000000000 ∨ t.nanos < 2000000000 ∧ t.seconds % 60 = 59)
    (le : k ≤ 9) (zeros : 10 ^ (9 - k) ∣ t.nanos % 1000000000) :
    (shown t zone k).Denotes t := by
  obtain ⟨-, second, nanos⟩ := second_shown leap zone k
  have fine : units 9 (leading k 9 (t.nanos % 1000000000)) =
      t.nanos % 1000000000 :=
    units_leading le (Nat.mod_lt _ (by decide)) zeros
  refine ⟨(t.seconds + zone.minutes * 60) / 86400,
    Date.counted_ofNumber _, ?_, ?_⟩
  · rw [second]
    simp only [shown]
    omega
  · exact (nanos.symm.trans (congrArg (_ + ·) fine.symm))

theorem Form.isSound_shown
    (leap : t.nanos < 1000000000 ∨ t.nanos < 2000000000 ∧ t.seconds % 60 = 59)
    (year : 0 ≤ (Date.ofNumber ((t.seconds + zone.minutes * 60) / 86400)).year ∧
      (Date.ofNumber ((t.seconds + zone.minutes * 60) / 86400)).year ≤ 9999)
    (sound : zone.IsSound) : (shown t zone k).IsSound where
  year := year
  date := (Date.ofNumber_spec _).1
  separator := List.mem_cons_self
  time := by
    have := (second_shown leap zone k).1
    refine ⟨?_, Nat.mod_lt _ (by decide), this⟩
    simp only [shown]
    omega
  digits := leading_lt_ten (Nat.mod_lt _ (by decide))
  zone := sound

end

/-! ### Written timestamps -/

theorem leading_add (k j n : Nat) :
    leading k (k + j) n = leading k k (n / 10 ^ j) := by
  induction k generalizing n with
  | zero => cases j <;> rfl
  | succ k ih =>
      have parts : k + 1 + j = k + j + 1 := by omega
      rw [parts, leading, leading, ih, Nat.pow_add, Nat.mul_comm,
        ← Nat.div_div_eq_div_mul, Nat.mod_mul_right_div_self]

theorem decimals_eq_digitBytes {k m : Nat} (lt : m < 10 ^ k) :
    decimals k m = digitBytes (leading k k m) := by
  induction k generalizing m with
  | zero => rfl
  | succ k ih =>
      have digit : m / 10 ^ k < 10 :=
        Nat.div_lt_of_lt_mul (by rwa [← Nat.pow_succ])
      have small : m % 10 ^ k < 10 ^ k := Nat.mod_lt _ (Nat.pow_pos (by decide))
      have whole := decimals_cons digit small
      rw [Nat.div_add_mod'] at whole
      rw [whole, ih small]
      rfl

theorem padded_eq {w m : Nat} (lt : m < 10 ^ (w + 1)) :
    padded (w + 1) m =
      .ofList ((leading (w + 1) (w + 1) m).map Nat.digitChar) := by
  refine encode_injective ?_
  rw [encode_padded lt, encode_digits (leading_lt_ten lt),
    decimals_eq_digitBytes lt]

theorem exists_fractionText {n : Nat} (lt : n < 1000000000) :
    ∃ k ≤ 9, 10 ^ (9 - k) ∣ n ∧
    fractionText n = Form.digitsText (leading k 9 n) := by
  have point (w j : Nat) {m : Nat} (cut : n / 10 ^ j = m)
      (small : m < 10 ^ (w + 1)) :
      "." ++ padded (w + 1) m =
        Form.digitsText (leading (w + 1) (w + 1 + j) n) := by
    rw [leading_add, cut, padded_eq small]
    rfl
  unfold fractionText
  split
  · next none => exact ⟨0, by decide, by simp [none], rfl⟩
  · split
    · next zeros =>
        exact ⟨3, by decide, Nat.dvd_of_mod_eq_zero zeros,
          point 2 6 rfl (by omega)⟩
    · split
      · next zeros =>
          exact ⟨6, by decide, Nat.dvd_of_mod_eq_zero zeros,
            point 5 3 rfl (by omega)⟩
      · exact ⟨9, by decide, Nat.one_dvd n,
          point 8 0 (Nat.div_one n) (by omega)⟩

/-- What is written for an instant is what clocks in UTC show. -/
theorem exists_text {t : Instant} (h : t.IsTimely) :
    ∃ f : Form, f.IsSound ∧ f.text = text t ∧ f.Denotes t := by
  have low := h.first
  have high := h.last
  obtain ⟨k, le, zeros, fine⟩ :=
    exists_fractionText (n := t.nanos % 1000000000) (by omega)
  let utc : Zone := .signed '+' 0 0
  have sound : utc.IsSound := ⟨by decide, by decide, by decide⟩
  have clock : t.seconds + utc.minutes * 60 = t.seconds := by
    simp [utc, Zone.minutes]
  have year := Date.year_ofNumber (n := t.seconds / 86400) (by omega) (by omega)
  refine ⟨.shown t utc k, Form.isSound_shown h.nanos (by rwa [clock]) sound, ?_,
    Form.denotes_shown h.nanos le zeros⟩
  have yearPart : yearText (Date.ofNumber (t.seconds / 86400)).year =
      padded 4 (Date.ofNumber (t.seconds / 86400)).year.toNat := if_pos year
  have zonePart : utc.text = "+00:00" := by decide
  have separator : String.singleton 'T' = "T" := by decide
  simp only [text, Instant.timeOfDay, yearPart, fine, Form.text, Form.dateText,
    Form.timeText, Form.shown, clock, zonePart, separator, String.append_assoc]

/-- A timestamp stands for the instant that it was written for. -/
theorem read_text {t : Instant} (h : t.IsTimely) : read (text t) = .ok t :=
  read_eq_ok_iff.2 (exists_text h)

end Timestamp

end RuleWatch
