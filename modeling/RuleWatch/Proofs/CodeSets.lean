import Mathlib.Order.Lattice
import RuleWatch.Text.CodeSet

/-!
What a set of characters holds. Its ranges have been sorted and joined, and
neither changes which numbers lie in one of them: a union holds what its parts
hold, whatever order and overlap their ranges have.
-/

namespace RuleWatch.Text.CodeSet

def Holds (l : List (Nat × Nat)) (c : Nat) : Prop := ∃ r ∈ l, r.1 ≤ c ∧ c ≤ r.2

/-- In the order of their first numbers. -/
abbrev Rising (l : List (Nat × Nat)) : Prop := l.Pairwise fun a b => a.1 ≤ b.1

variable {l l' : List (Nat × Nat)} {r q : Nat × Nat} {c : Nat}

theorem holds_nil : ¬ Holds [] c := by simp [Holds]

theorem holds_cons : Holds (r :: l) c ↔ r.1 ≤ c ∧ c ≤ r.2 ∨ Holds l c := by
  simp only [Holds, List.mem_cons, exists_eq_or_imp]

theorem holds_append : Holds (l ++ l') c ↔ Holds l c ∨ Holds l' c := by
  simp only [Holds, List.mem_append, or_and_right, exists_or]

/-- The search may stop at the first range beyond the number, as all others lie
beyond it too. -/
theorem has_iff (rising : Rising l) : has c l = true ↔ Holds l c := by
  induction l with
  | nil => simp [holds_nil]
  | cons r l ih =>
      rw [Rising, List.pairwise_cons] at rising
      rw [has_cons, ih rising.2, holds_cons, and_or_left]
      refine or_congr_right ⟨fun h => h.2, fun h => ⟨?_, h⟩⟩
      obtain ⟨q, member, le, -⟩ := h
      exact Nat.le_trans (rising.1 q member) le

/-- Two ranges that overlap or touch hold what one range from their first number
to their last holds. -/
theorem holds_join (order : r.1 ≤ q.1) (touch : q.1 ≤ r.2 + 1) :
    Holds ((r.1, max r.2 q.2) :: l) c ↔ Holds (r :: q :: l) c := by
  simp only [holds_cons, ← or_assoc]
  refine or_congr_left ?_
  omega

theorem rising_join (rising : Rising (r :: q :: l)) :
    Rising ((r.1, max r.2 q.2) :: l) := by
  obtain ⟨first, tail⟩ := List.pairwise_cons.1 rising
  rw [List.forall_mem_cons] at first
  exact List.pairwise_cons.2 ⟨first.2, (List.pairwise_cons.1 tail).2⟩

theorem holds_joinRanges (rising : Rising l) :
    Holds (joinRanges l) c ↔ Holds l c := by
  induction l using joinRanges.induct with
  | case1 => rw [joinRanges]
  | case2 r => rw [joinRanges]
  | case3 r q rest touch ih =>
      have order : r.1 ≤ q.1 :=
        (List.pairwise_cons.1 rising).1 q List.mem_cons_self
      rw [joinRanges, if_pos touch, ih (rising_join rising),
        holds_join order touch]
  | case4 r q rest apart ih =>
      have tail : Rising (q :: rest) := (List.pairwise_cons.1 rising).2
      rw [joinRanges, if_neg apart, holds_cons, ih tail, holds_cons (r := r)]

theorem exists_first_of_mem_joinRanges {q : Nat × Nat} (h : q ∈ joinRanges l) :
    ∃ r ∈ l, r.1 = q.1 := by
  induction l using joinRanges.induct with
  | case1 => simp [joinRanges] at h
  | case2 r =>
      rw [joinRanges, List.mem_singleton] at h
      exact ⟨r, List.mem_singleton_self r, by rw [h]⟩
  | case3 r p rest touch ih =>
      rw [joinRanges, if_pos touch] at h
      obtain ⟨s, member, first⟩ := ih h
      rcases List.mem_cons.1 member with rfl | later
      · exact ⟨r, List.mem_cons_self, first⟩
      · exact ⟨s, List.mem_cons_of_mem _ (List.mem_cons_of_mem _ later), first⟩
  | case4 r p rest apart ih =>
      rw [joinRanges, if_neg apart] at h
      rcases List.mem_cons.1 h with rfl | later
      · exact ⟨q, List.mem_cons_self, rfl⟩
      · obtain ⟨s, member, first⟩ := ih later
        exact ⟨s, List.mem_cons_of_mem _ member, first⟩

theorem rising_joinRanges (rising : Rising l) : Rising (joinRanges l) := by
  induction l using joinRanges.induct with
  | case1 => rwa [joinRanges]
  | case2 r => rwa [joinRanges]
  | case3 r q rest touch ih =>
      rw [joinRanges, if_pos touch]
      exact ih (rising_join rising)
  | case4 r q rest apart ih =>
      obtain ⟨first, tail⟩ := List.pairwise_cons.1 rising
      rw [joinRanges, if_neg apart]
      refine List.pairwise_cons.2 ⟨fun p member => ?_, ih tail⟩
      obtain ⟨s, member, same⟩ := exists_first_of_mem_joinRanges member
      exact same ▸ first s member

theorem rising_mergeSort (l : List (Nat × Nat)) :
    Rising (l.mergeSort fun a b => a.1 ≤ b.1) := by
  have sorted : (l.mergeSort fun a b => a.1 ≤ b.1).Pairwise fun a b =>
      decide (a.1 ≤ b.1) = true :=
    List.pairwise_mergeSort (fun a b c => by simpa using Nat.le_trans)
      (fun a b => by simpa using Nat.le_total a.1 b.1) l
  exact sorted.imp of_decide_eq_true

theorem rising_ofRanges (l : List (Nat × Nat)) : Rising (ofRanges l).ranges :=
  rising_joinRanges (rising_mergeSort _)

theorem holds_ofRanges : Holds (ofRanges l).ranges c ↔ Holds l c := by
  rw [ofRanges, holds_joinRanges (rising_mergeSort _)]
  simp only [Holds, List.mem_mergeSort, List.mem_filter,
    decide_eq_true_eq, and_assoc]
  -- A number that lies in a range shows that the range does not run backwards.
  refine exists_congr fun r =>
    and_congr_right fun _ => ⟨fun h => h.2, fun h => ⟨?_, h⟩⟩
  exact Nat.le_trans h.1 h.2

theorem holds_union {a b : CodeSet} :
    Holds (a.union b).ranges c ↔ Holds a.ranges c ∨ Holds b.ranges c := by
  rw [union, holds_ofRanges, holds_append]

theorem holds_unions {sets : List CodeSet} :
    Holds (unions sets).ranges c ↔ ∃ s ∈ sets, Holds s.ranges c := by
  rw [unions, holds_ofRanges]
  simp only [Holds, List.mem_flatMap]
  constructor
  · rintro ⟨r, ⟨s, member, range⟩, inside⟩
    exact ⟨s, member, r, range, inside⟩
  · rintro ⟨s, member, r, range, inside⟩
    exact ⟨r, ⟨s, member, range⟩, inside⟩

theorem contains_union {a b : CodeSet} :
    (a.union b).contains c = true ↔ Holds a.ranges c ∨ Holds b.ranges c := by
  rw [← holds_union]
  exact has_iff (rising_ofRanges _)

end RuleWatch.Text.CodeSet
