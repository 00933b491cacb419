/-!
Texts cut into pieces at marks. There is one piece more than there are marks.
-/

namespace RuleWatch.Text

/-- The pieces of a text between its marks. -/
def pieces (isMark : Char → Bool) : List Char → List (List Char)
  | [] => [[]]
  | c :: cs =>
      if isMark c then [] :: pieces isMark cs
      else match pieces isMark cs with
        | [] => [[c]]
        | p :: ps => (c :: p) :: ps

theorem pieces_ne_nil (isMark : Char → Bool) (s : List Char) :
    pieces isMark s ≠ [] := by
  cases s with
  | nil => simp [pieces]
  | cons c cs =>
      unfold pieces
      split
      · simp
      · split <;> simp

variable {isMark : Char → Bool} {xs : List Char}

theorem pieces_append_mark (free : ∀ c ∈ xs, isMark c = false) {m : Char}
    (mark : isMark m = true) (ys : List Char) :
    pieces isMark (xs ++ m :: ys) = xs :: pieces isMark ys := by
  induction xs with
  | nil => simp [pieces, mark]
  | cons c xs ih =>
      rw [List.forall_mem_cons] at free
      simp [pieces, free.1, ih free.2]

theorem pieces_of_free (free : ∀ c ∈ xs, isMark c = false) :
    pieces isMark xs = [xs] := by
  induction xs with
  | nil => rfl
  | cons c xs ih =>
      rw [List.forall_mem_cons] at free
      simp [pieces, free.1, ih free.2]

theorem free_of_mem_pieces {s p : List Char} (h : p ∈ pieces isMark s) :
    ∀ c ∈ p, isMark c = false := by
  induction s generalizing p with
  | nil =>
      rw [pieces, List.mem_singleton] at h
      simp [h]
  | cons c s ih =>
      unfold pieces at h
      split at h
      · rcases List.mem_cons.1 h with rfl | later
        · simp
        · exact ih later
      · next free =>
          split at h
          · next none => exact absurd none (pieces_ne_nil isMark s)
          · next q qs cut =>
              rw [cut] at ih
              rcases List.mem_cons.1 h with rfl | later
              · exact List.forall_mem_cons.2
                  ⟨by simpa using free, ih List.mem_cons_self⟩
              · exact ih (List.mem_cons_of_mem _ later)

end RuleWatch.Text
