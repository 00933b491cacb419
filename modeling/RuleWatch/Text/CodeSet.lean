import RuleWatch.Text.Pieces

/-!
Sets of code points, kept as closed ranges. `ofRanges` brings any list of ranges
into the rising, disjoint and non-touching form that the other operations expect
and keep.
-/

namespace RuleWatch.Text

/-- A set of numbers given by closed ranges. -/
structure CodeSet where
  ranges : List (Nat × Nat)
  deriving DecidableEq, Repr, Inhabited

namespace CodeSet

def empty : CodeSet := ⟨[]⟩

def isEmpty (s : CodeSet) : Bool := s.ranges.isEmpty

/-- Joins ranges that overlap or touch, in a list sorted by first element. -/
def joinRanges : List (Nat × Nat) → List (Nat × Nat)
  | [] => []
  | [r] => [r]
  | r :: q :: rest =>
      if q.1 ≤ r.2 + 1 then joinRanges ((r.1, max r.2 q.2) :: rest)
      else r :: joinRanges (q :: rest)
termination_by l => l.length

/-- The union of any ranges, those that run backwards counting as empty. -/
def ofRanges (rs : List (Nat × Nat)) : CodeSet :=
  ⟨joinRanges ((rs.filter fun r => r.1 ≤ r.2).mergeSort fun a b => a.1 ≤ b.1)⟩

/-- Ranges that run forwards and stand in order only have to be joined. -/
theorem ofRanges_of_sorted {rs : List (Nat × Nat)}
    (forwards : ∀ r ∈ rs, r.1 ≤ r.2)
    (sorted : rs.Pairwise fun a b => a.1 ≤ b.1) :
    ofRanges rs = ⟨joinRanges rs⟩ := by
  have kept : rs.filter (fun r => r.1 ≤ r.2) = rs :=
    List.filter_eq_self.2 fun r hr => decide_eq_true (forwards r hr)
  rw [ofRanges, kept, List.mergeSort_of_pairwise]
  exact sorted.imp decide_eq_true

def range (lo hi : Nat) : CodeSet := ofRanges [(lo, hi)]

def single (c : Nat) : CodeSet := ⟨[(c, c)]⟩

/-- Membership, stopping at the first range that lies beyond the number. -/
def has (c : Nat) : List (Nat × Nat) → Bool
  | [] => false
  | r :: rest => if c < r.1 then false else if c ≤ r.2 then true else has c rest

@[simp] theorem has_nil (c : Nat) : has c [] = false := rfl

theorem has_cons {c : Nat} {r : Nat × Nat} {rest : List (Nat × Nat)} :
    has c (r :: rest) = true ↔ r.1 ≤ c ∧ (c ≤ r.2 ∨ has c rest = true) := by
  rw [has]
  split
  · next below => simp [Nat.not_le.2 below]
  · next above =>
      have above : r.1 ≤ c := Nat.not_lt.1 above
      split
      · next inside => simp [above, inside]
      · next beyond => simp [above, beyond]

def contains (s : CodeSet) (c : Nat) : Bool := has c s.ranges

def union (a b : CodeSet) : CodeSet := ofRanges (a.ranges ++ b.ranges)

def unions (l : List CodeSet) : CodeSet := ofRanges (l.flatMap ranges)

def interRanges : List (Nat × Nat) → List (Nat × Nat) → List (Nat × Nat)
  | [], _ => []
  | _, [] => []
  | a :: as, b :: bs =>
      let rest := if a.2 < b.2 then interRanges as (b :: bs)
        else interRanges (a :: as) bs
      if max a.1 b.1 ≤ min a.2 b.2 then
        (max a.1 b.1, min a.2 b.2) :: rest
      else rest
termination_by as bs => as.length + bs.length

def inter (a b : CodeSet) : CodeSet := ⟨interRanges a.ranges b.ranges⟩

/-- The numbers from `next` to `top` that lie in none of the ranges. -/
def gapsFrom (top next : Nat) : List (Nat × Nat) → List (Nat × Nat)
  | [] => if next ≤ top then [(next, top)] else []
  | r :: rest =>
      if next < r.1 then
        (next, min top (r.1 - 1)) :: gapsFrom top (r.2 + 1) rest
      else gapsFrom top (r.2 + 1) rest

def gaps (top : Nat) (s : CodeSet) : CodeSet :=
  ofRanges (gapsFrom top 0 s.ranges)

def diff (a b : CodeSet) : CodeSet := a.inter (b.gaps 0x10FFFF)

def symmDiff (a b : CodeSet) : CodeSet := (a.diff b).union (b.diff a)

/-- All scalar values: every code point but the surrogates. -/
def scalars : CodeSet := ⟨[(0, 0xD7FF), (0xE000, 0x10FFFF)]⟩

def complement (s : CodeSet) : CodeSet := scalars.diff s

def hexValue (s : List Char) : Nat :=
  s.foldl
    (fun n c => 16 * n + (if c.isDigit then c.toNat - 48 else c.toNat - 55)) 0

/-- One word of a table: `A`, `A-B`, or `A-B/2` for every second number from `A`
to `B`. -/
def ofWord (w : List Char) : List (Nat × Nat) :=
  match pieces (· = '-') w with
  | [a] => [(hexValue a, hexValue a)]
  | [a, b] =>
      match pieces (· = '/') b with
      | [b, _] =>
          (List.range ((hexValue b - hexValue a) / 2 + 1)).map fun k =>
            (hexValue a + 2 * k, hexValue a + 2 * k)
      | _ => [(hexValue a, hexValue b)]
  | _ => []

/-- The words of a table, which stand between blanks and line breaks. -/
def tableWords (table : String) : List (List Char) :=
  (pieces (fun c => c = ' ' ∨ c = '\n') table.toList).filter (! ·.isEmpty)

def ofTable (table : String) : CodeSet :=
  ofRanges ((tableWords table).flatMap ofWord)

end CodeSet

end RuleWatch.Text
