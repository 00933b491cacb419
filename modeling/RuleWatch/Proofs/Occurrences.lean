import RuleWatch.Proofs.Places

/-!
What a detector that compares bytes finds. Looking at each stretch of the
content that is as long as the pattern, from the first to the last, finds the
same, so that no place is missed where the pattern has room. Main statement: the
pattern is found just when the content is made of it and of what is around it.
-/

namespace RuleWatch

open Pattern

variable {pattern content : List UInt8} {i : Nat}

/-- The stretches of a length, one for each place where there is room for it. -/
def windows (n : Nat) (content : List UInt8) : List (List UInt8) :=
  (List.range (content.length + 1 - n)).map fun i => (content.drop i).take n

/-- Looking through the windows, unless the length of the pattern decides. -/
def searchWindows (pattern content : List UInt8) : Bool :=
  if pattern.isEmpty then true
  else if content.length < pattern.length then false
  else (windows pattern.length content).any (· == pattern)

theorem Pattern.standsAt_iff_window {bs : List UInt8} : StandsAt content bs i ↔
    i + bs.length ≤ content.length ∧ (content.drop i).take bs.length = bs := by
  constructor
  · intro stands
    refine ⟨stands.le, ?_⟩
    obtain ⟨before, behind, rfl, rfl⟩ := stands
    simp
  · rintro ⟨room, here⟩
    refine ⟨content.take i, (content.drop i).drop bs.length, ?_, by simp; omega⟩
    calc content = content.take i ++ content.drop i :=
           (List.take_append_drop i content).symm
      _ = content.take i ++ ((content.drop i).take bs.length ++
          (content.drop i).drop bs.length) := by
        rw [List.take_append_drop bs.length]
      _ = content.take i ++ (bs ++ (content.drop i).drop bs.length) := by
        rw [here]

theorem mem_windows :
    pattern ∈ windows pattern.length content ↔
      ∃ i, StandsAt content pattern i := by
  simp only [windows, List.mem_map, List.mem_range, standsAt_iff_window]
  refine exists_congr fun i => and_congr_left fun _ => ?_
  omega

theorem searchWindows_iff :
    searchWindows pattern content = true ↔ pattern <:+: content := by
  rw [← exists_standsAt_iff, ← mem_windows]
  unfold searchWindows
  split
  · next empty =>
      rw [List.isEmpty_iff] at empty
      subst empty
      exact iff_of_true rfl (mem_windows.2 ⟨0, standsAt_nil.2 (Nat.zero_le _)⟩)
  · split
    · next long =>
        simp only [Bool.false_eq_true, false_iff, mem_windows, not_exists]
        intro i stands
        have room := stands.le
        omega
    · simp

/-- Searching from place to place and looking through the windows find the
same. -/
theorem occursIn_eq_searchWindows (pattern content : List UInt8) :
    occursIn pattern content = searchWindows pattern content := by
  rw [Bool.eq_iff_iff, occursIn_iff_infix, searchWindows_iff]

theorem detect_contains_iff :
    (Detector.contains pattern).detect content = true ↔ pattern <:+: content :=
  occursIn_iff_infix

/-- Main statement: bytes are found just when they stand somewhere in the
content, be it at its start, at its end or all of it. No window is left out, and
what is found is found in longer content too. -/
theorem occurrences_are_found :
    (∀ pattern content : List UInt8,
      (Detector.contains pattern).detect content = true ↔
      ∃ u v, content = u ++ pattern ++ v) ∧
    (∀ pattern content : List UInt8,
      (Detector.contains pattern).detect content =
        searchWindows pattern content) ∧
    (∀ content : List UInt8, (Detector.contains []).detect content = true) ∧
    (∀ pattern content : List UInt8, content.length ≤ pattern.length →
      ((Detector.contains pattern).detect content = true ↔ content = pattern)) ∧
    (∀ pattern rest : List UInt8,
      (Detector.contains pattern).detect (pattern ++ rest) = true ∧
      (Detector.contains pattern).detect (rest ++ pattern) = true) ∧
    ∀ pattern content before behind : List UInt8,
      (Detector.contains pattern).detect content = true →
      (Detector.contains pattern).detect (before ++ content ++ behind) =
        true := by
  simp only [detect_contains_iff]
  refine ⟨fun pattern content => ?_, fun pattern content => ?_,
    fun content => ?_, fun pattern content short => ?_,
    fun pattern rest => ⟨?_, ?_⟩, fun pattern content before behind found => ?_⟩
  · exact exists_congr fun u => exists_congr fun v => eq_comm
  · exact occursIn_eq_searchWindows pattern content
  · exact List.nil_infix
  · constructor
    · exact fun found => (found.eq_of_length_le short).symm
    · rintro rfl
      exact List.infix_rfl
  · exact (List.prefix_append pattern rest).isInfix
  · exact (List.suffix_append rest pattern).isInfix
  · exact found.trans (List.infix_append before content behind)

/-- A pattern that begins twice in the content before it stands there. -/
theorem overlapping_start_is_found :
    (Detector.contains [1, 1, 2]).detect [1, 1, 1, 2] = true ∧
      (Detector.contains [1, 1, 2]).detect ([0] ++ [1, 1, 1, 2] ++ [2]) = true ∧
      (Detector.contains [1, 1, 2]).detect [1, 1] ≠ true := by
  obtain ⟨occurs, -, -, short, -, longer⟩ := occurrences_are_found
  have found : (Detector.contains [1, 1, 2]).detect [1, 1, 1, 2] = true :=
    (occurs _ _).2 ⟨[1], [], rfl⟩
  have room : [1, 1].length ≤ [1, 1, 2].length := by decide
  refine ⟨found, longer _ _ [0] [2] found, fun found => ?_⟩
  exact absurd ((short _ _ room).1 found) (by decide)

end RuleWatch
