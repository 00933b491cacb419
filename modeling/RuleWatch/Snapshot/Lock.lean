/-!
A lock for readers and writers. Turns come in the order in which they are asked
for: a reader does not pass a writer that waits, and readers next to each other
have their turns together. Main statement: at any time a writer has its turn
alone.
-/

namespace RuleWatch

inductive Access
  | read
  | write
  deriving DecidableEq, Repr

/-- The wish of a client. -/
structure Turn (κ : Type) where
  client : κ
  access : Access
  deriving DecidableEq, Repr

/-- Who has a turn and who waits, in the order of asking. -/
structure Lock (κ : Type) where
  holders : List (Turn κ) := []
  waiting : List (Turn κ) := []
  deriving Repr

namespace Lock

variable {κ : Type}

/-- Whether a turn can be had beside others. -/
def admits (holders : List (Turn κ)) (t : Turn κ) : Bool :=
  match t.access with
  | .read => holders.all (·.access = .read)
  | .write => holders.isEmpty

/-- Gives turns to those who wait, from the first on, until one must go on
waiting. -/
def settle (holders : List (Turn κ)) : List (Turn κ) → Lock κ
  | [] => ⟨holders, []⟩
  | t :: ts => if admits holders t then settle (holders ++ [t]) ts
    else ⟨holders, t :: ts⟩

def request (l : Lock κ) (t : Turn κ) : Lock κ :=
  settle l.holders (l.waiting ++ [t])

variable [DecidableEq κ]

/-- A client gives its turn back or waits no longer. -/
def leave (l : Lock κ) (client : κ) : Lock κ :=
  settle (l.holders.filter (·.client ≠ client))
    (l.waiting.filter (·.client ≠ client))

def holds (l : Lock κ) (client : κ) : Bool := l.holders.any (·.client = client)

/-- Whether a reader would have its turn at once. -/
def isOpen (l : Lock κ) : Bool :=
  l.waiting.isEmpty && l.holders.all (·.access = .read)

omit [DecidableEq κ]

/-- A writer has its turn alone. -/
def Exclusive (holders : List (Turn κ)) : Prop :=
  (∀ t ∈ holders, t.access = .read) ∨ holders.length ≤ 1

theorem Exclusive.append {holders : List (Turn κ)} {t : Turn κ}
    (h : admits holders t = true) :
    Exclusive (holders ++ [t]) := by
  cases hk : t.access with
  | read =>
      left
      simp only [admits, hk, List.all_eq_true, decide_eq_true_eq] at h
      simpa [hk, or_imp, forall_and] using h
  | write =>
      right
      simp only [admits, hk, List.isEmpty_iff] at h
      simp [h]

theorem Exclusive.settle {holders : List (Turn κ)} (h : Exclusive holders)
    (ts : List (Turn κ)) :
    Exclusive (Lock.settle holders ts).holders := by
  induction ts generalizing holders with
  | nil => exact h
  | cons t ts ih =>
      unfold Lock.settle
      split
      · next ha => exact ih (.append ha)
      · exact h

theorem Exclusive.filter {holders : List (Turn κ)} (h : Exclusive holders)
    (p : Turn κ → Bool) :
    Exclusive (holders.filter p) := by
  rcases h with h | h
  · exact .inl fun t ht => h t (List.mem_filter.1 ht).1
  · exact .inr (Nat.le_trans (List.length_filter_le _ _) h)

end Lock

end RuleWatch
