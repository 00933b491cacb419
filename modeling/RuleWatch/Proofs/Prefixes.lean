import Mathlib.Data.List.TakeWhile

/-!
The front of a list as far as a condition holds. What is taken and what is left
are told by where the condition first fails.
-/

namespace RuleWatch

variable {α : Type} {p : α → Bool} {s front rest : List α}

theorem takeWhile_dropWhile_eq_iff :
    s.takeWhile p = front ∧ s.dropWhile p = rest ↔
    s = front ++ rest ∧ (∀ a ∈ front, p a = true) ∧
      ∀ a ∈ rest.head?, p a = false := by
  constructor
  · rintro ⟨rfl, rfl⟩
    refine ⟨List.takeWhile_append_dropWhile.symm,
      fun a => List.mem_takeWhile_imp, fun a first => ?_⟩
    have stop := List.head?_dropWhile_not p s
    rw [Option.mem_def] at first
    rwa [first] at stop
  · rintro ⟨rfl, all, stop⟩
    rw [List.takeWhile_append_of_pos all, List.dropWhile_append_of_pos all]
    cases rest with
    | nil => exact ⟨List.append_nil front, rfl⟩
    | cons a rest =>
        have fails : ¬ p a = true := by simp [stop a rfl]
        rw [List.takeWhile_cons_of_neg fails,
          List.dropWhile_cons_of_neg fails, List.append_nil]
        exact ⟨rfl, rfl⟩

theorem dropWhile_eq_iff : s.dropWhile p = rest ↔
    ∃ front, s = front ++ rest ∧ (∀ a ∈ front, p a = true) ∧
      ∀ a ∈ rest.head?, p a = false := by
  simp only [← takeWhile_dropWhile_eq_iff, exists_eq_left']

end RuleWatch
