import Mathlib.Data.List.Infix
import RuleWatch.Rule.Detector

/-!
What searching finds. A set of places is a number with one bit for each of them,
and matching bytes moves a place behind them when they stand there. So bytes in
a row, in however many parts, lead from a place to the one behind all of them,
whatever else the content holds and whether or not it is a text. Main statement:
parts in a row occur somewhere in the content when their bytes do, as they do
for a detector that only compares bytes.
-/

namespace RuleWatch.Pattern

/-! ### Sets of places -/

theorem testBit_placesWhere_go (p : Nat → Bool) (n acc i : Nat) :
    (placesWhere.go p n acc).testBit i =
      if i < n then p i else acc.testBit (i - n) := by
  induction n generalizing acc with
  | zero => simp [placesWhere.go]
  | succ n ih =>
      rw [placesWhere.go, ih]
      rcases Nat.lt_trichotomy i n with lt | rfl | gt
      · rw [if_pos lt, if_pos (by omega)]
      · rw [if_neg (by omega), if_pos (by omega),
          Nat.sub_self, Nat.testBit_zero]
        cases p i <;> simp
      · -- The last place that was added is the lowest bit, which is shifted out.
        obtain ⟨k, rfl⟩ := Nat.exists_eq_add_of_lt gt
        have half : (2 * acc + (p n).toNat) / 2 = acc := by
          cases p n
          · simp
          · simp
            omega
        rw [if_neg (by omega), if_neg (by omega),
          show n + k + 1 - n = k + 1 by omega,
          show n + k + 1 - (n + 1) = k by omega, Nat.testBit_add_one, half]

theorem testBit_placesWhere (p : Nat → Bool) (n i : Nat) :
    (placesWhere p n).testBit i = (decide (i < n) && p i) := by
  rw [placesWhere, testBit_placesWhere_go]
  by_cases lt : i < n <;> simp [lt]

/-! ### Bytes at a place -/

variable {content : List UInt8}

/-- Whether bytes stand in the content behind so many others. -/
def StandsAt (content bs : List UInt8) (i : Nat) : Prop :=
  ∃ before behind, content = before ++ (bs ++ behind) ∧ before.length = i

theorem StandsAt.le {bs : List UInt8} {i : Nat} (h : StandsAt content bs i) :
    i + bs.length ≤ content.length := by
  obtain ⟨before, behind, rfl, rfl⟩ := h
  simp only [List.length_append]
  omega

theorem standsAt_nil {i : Nat} :
    StandsAt content [] i ↔ i ≤ content.length := by
  constructor
  · exact fun stands => stands.le
  · intro le
    refine ⟨content.take i, content.drop i,
      (List.take_append_drop i content).symm, ?_⟩
    rw [List.length_take, Nat.min_eq_left le]

theorem standsAt_append {bs cs : List UInt8} {i : Nat} :
    StandsAt content (bs ++ cs) i ↔
      StandsAt content bs i ∧ StandsAt content cs (i + bs.length) := by
  constructor
  · rintro ⟨before, behind, rfl, rfl⟩
    exact ⟨⟨before, cs ++ behind, by simp, rfl⟩, before ++ bs,
      behind, by simp, by simp⟩
  · rintro ⟨⟨before, behind, rfl, rfl⟩, before', behind', same, length⟩
    rw [← List.append_assoc] at same
    obtain ⟨rfl, rfl⟩ := List.append_inj same (by simp [length])
    exact ⟨before, behind', by simp, rfl⟩

theorem standsAt_singleton {x : UInt8} {i : Nat} :
    StandsAt content [x] i ↔ content[i]? = some x := by
  constructor
  · rintro ⟨before, behind, rfl, rfl⟩
    simp
  · intro here
    obtain ⟨lt, rfl⟩ := List.getElem?_eq_some_iff.1 here
    refine ⟨content.take i, content.drop (i + 1), ?_, by simp; omega⟩
    rw [List.singleton_append, List.cons_getElem_drop_succ,
      List.take_append_drop]

theorem exists_standsAt_iff {bs : List UInt8} :
    (∃ i, StandsAt content bs i) ↔ bs <:+: content := by
  constructor
  · rintro ⟨_, before, behind, rfl, rfl⟩
    exact ⟨before, behind, by simp⟩
  · rintro ⟨before, behind, rfl⟩
    exact ⟨before.length, before, behind, by simp, rfl⟩

theorem getElem?_toByteArray (content : List UInt8) (i : Nat) :
    content.toByteArray[i]? = content[i]? := by
  by_cases lt : i < content.length
  · rw [getElem?_pos _ i (by simpa using lt), List.getElem_toByteArray,
      List.getElem?_eq_getElem lt]
  · rw [getElem?_neg _ i (by simpa using lt), List.getElem?_eq_none (by omega)]

theorem bytesAt_iff {bs : List UInt8} {i : Nat} (le : i ≤ content.length) :
    bytesAt content.toByteArray bs i = true ↔ StandsAt content bs i := by
  induction bs generalizing i with
  | nil => simp [bytesAt, standsAt_nil, le]
  | cons x bs ih =>
      rw [bytesAt, Bool.and_eq_true, decide_eq_true_eq, getElem?_toByteArray,
        ← List.singleton_append, standsAt_append, standsAt_singleton]
      refine and_congr_right fun here => ?_
      obtain ⟨lt, -⟩ := List.getElem?_eq_some_iff.1 here
      exact ih lt

/-! ### From place to place -/

/-- Matching bytes leads from each place where they stand to the place behind
them. -/
theorem testBit_advance_bytes (bs : List UInt8) (s j : Nat) :
    (Stencil.advance content.length ((Shape.bytes bs).on content.toByteArray)
      s).testBit j = true ↔
      ∃ i, s.testBit i = true ∧ StandsAt content bs i ∧ j = i + bs.length := by
  rw [Shape.on, Stencil.advance, List.foldl_cons, List.foldl_nil, Nat.zero_or,
    Nat.testBit_shiftLeft, Nat.testBit_and, testBit_placesWhere,
    List.size_toByteArray]
  simp only [Bool.and_eq_true, decide_eq_true_eq]
  constructor
  · rintro ⟨le, there, inside, stands⟩
    exact ⟨j - bs.length, there, (bytesAt_iff (by omega)).1 stands, by omega⟩
  · rintro ⟨i, there, stands, rfl⟩
    have inside := stands.le
    rw [Nat.add_sub_cancel]
    exact ⟨by omega, there, by omega, (bytesAt_iff (by omega)).2 stands⟩

theorem testBit_advanceAll_bytes (parts : List (List UInt8)) {s : Nat}
    (inside : ∀ i, s.testBit i = true → i ≤ content.length) (j : Nat) :
    (Stencil.advanceAll content.length
      (Shape.allOn content.toByteArray (parts.map .bytes))
        s).testBit j = true ↔
      ∃ i, s.testBit i = true ∧ StandsAt content parts.flatten i ∧
        j = i + parts.flatten.length := by
  induction parts generalizing s with
  | nil =>
      simp only [List.map_nil, Shape.allOn, Stencil.advanceAll,
        List.flatten_nil, List.length_nil, Nat.add_zero, standsAt_nil]
      constructor
      · exact fun there => ⟨j, there, inside j there, rfl⟩
      · rintro ⟨i, there, -, rfl⟩
        exact there
  | cons bs parts ih =>
      -- The places behind the first part are inside the content too, so the
      -- other parts go on there.
      have behind :
          ∀ i,
            (Stencil.advance content.length
              ((Shape.bytes bs).on content.toByteArray)
            s).testBit i = true → i ≤ content.length := by
        intro i there
        obtain ⟨k, -, stands, rfl⟩ := (testBit_advance_bytes bs s i).1 there
        exact stands.le
      rw [List.map_cons, Shape.allOn, Stencil.advanceAll, ih behind]
      simp only [testBit_advance_bytes, List.flatten_cons, standsAt_append,
        List.length_append]
      constructor
      · rintro ⟨_, ⟨i, there, stands, rfl⟩, others, rfl⟩
        exact ⟨i, there, ⟨stands, others⟩, by omega⟩
      · rintro ⟨i, there, ⟨stands, others⟩, rfl⟩
        exact ⟨_, ⟨i, there, stands, rfl⟩, others, by omega⟩

/-! ### Somewhere in the content -/

/-- A pattern that leads from a place to another one exactly where bytes stand
occurs where the bytes do. -/
theorem occursIn_of_advance {shape : Shape} {bs : List UInt8}
    (h : ∀ s, (∀ i, s.testBit i = true → i ≤ content.length) → ∀ j,
      (Stencil.advance content.length (shape.on content.toByteArray) s).testBit
        j = true ↔
        ∃ i, s.testBit i = true ∧ StandsAt content bs i ∧ j = i + bs.length) :
    shape.occursIn content = true ↔ bs <:+: content := by
  have all (i : Nat) :
      (Nat.pow 2 (content.length + 1) - 1).testBit i = true ↔
        i ≤ content.length := by
    rw [Nat.pow_eq, Nat.testBit_two_pow_sub_one,
      decide_eq_true_eq, Nat.lt_succ_iff]
  have reached := h _ fun i there => (all i).1 there
  rw [Shape.occursIn, List.size_toByteArray, decide_eq_true_eq,
    ← exists_standsAt_iff]
  constructor
  · intro found
    obtain ⟨j, there⟩ := Nat.exists_testBit_of_ne_zero found
    obtain ⟨i, -, stands, -⟩ := (reached j).1 there
    exact ⟨i, stands⟩
  · rintro ⟨i, stands⟩ none
    have inside := stands.le
    have there :=
      (reached (i + bs.length)).2 ⟨i, (all i).2 (by omega), stands, rfl⟩
    rw [none, Nat.zero_testBit] at there
    cases there

theorem occursIn_bytes (bs : List UInt8) :
    (Shape.bytes bs).occursIn content = true ↔ bs <:+: content :=
  occursIn_of_advance fun s _ j => testBit_advance_bytes bs s j

/-- Main statement: parts in a row occur in content when their bytes do. -/
theorem occursIn_concat_bytes (parts : List (List UInt8)) :
    (Shape.concat (parts.map .bytes)).occursIn content = true ↔
      parts.flatten <:+: content :=
  occursIn_of_advance fun s inside j => by
    rw [Shape.on, Stencil.advance]
    exact testBit_advanceAll_bytes parts inside j

end RuleWatch.Pattern

namespace RuleWatch

theorem occursIn_iff_infix {pattern content : List UInt8} :
    occursIn pattern content = true ↔ pattern <:+: content := by
  induction content with
  | nil => simp [occursIn]
  | cons x content ih =>
      rw [occursIn, Bool.or_eq_true, ih, List.isPrefixOf_iff_prefix,
        List.infix_cons_iff]

end RuleWatch
