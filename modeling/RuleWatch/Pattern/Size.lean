import RuleWatch.Pattern.Shape

/-!
How much room the program of a pattern takes. A repetition takes the room of all
its copies, so that a short pattern can ask for a huge program; such a pattern
is refused.
-/

namespace RuleWatch.Pattern

open Text

def sizeLimit : Nat := 10485760

def stateSize : Nat := 32

def transitionSize : Nat := 8

def alternateSize : Nat := 4

/-- Cuts the scalar values from `lo` to `hi` into pieces whose UTF-8 forms are
all sequences of one byte range after another. Every cut makes the rest smaller;
a range of scalar values has fewer than a hundred cuts. -/
def encodedPieces : Nat → Nat → Nat → List (Nat × Nat)
  | 0, _, _ => []
  | cuts + 1, lo, hi =>
      let cutAt (m : Nat) :=
        encodedPieces cuts lo m ++ encodedPieces cuts (m + 1) hi
      if hi < lo then []
      else match [0x7F, 0x7FF, 0xFFFF].find? fun m => lo ≤ m ∧ m < hi with
        | some m => cutAt m
        | none =>
            if hi < 0x80 then [(lo, hi)]
            else match [0x40, 0x1000, 0x40000].find? fun m =>
                lo / m ≠ hi / m ∧ (lo % m ≠ 0 ∨ hi % m ≠ m - 1) with
              | some m => if lo % m ≠ 0 then cutAt (lo / m * m + m - 1)
                else cutAt (hi / m * m - 1)
              | none => [(lo, hi)]

def byteRanges (piece : Nat × Nat) : List (UInt8 × UInt8) :=
  (String.utf8EncodeChar (.ofNat piece.1)).zip
    (String.utf8EncodeChar (.ofNat piece.2))

/-- The number of different nonempty beginnings of lists that are given in an
order in which equal beginnings stand together. -/
def countBeginnings (previous : List (UInt8 × UInt8)) :
    List (List (UInt8 × UInt8)) → Nat
  | [] => 0
  | l :: ls =>
      let shared := ((l.zip previous).takeWhile fun p => p.1 == p.2).length
      l.length - shared + countBeginnings l ls

/-- The states for one unit of a set of scalar values. -/
def scalarSize (set : CodeSet) : Nat :=
  if set.ranges.all (·.2 < 0x80) then
    2 * stateSize + transitionSize * set.ranges.length
  else
    let sequences := ((set.inter .scalars).ranges.flatMap fun r =>
      encodedPieces 100 r.1 r.2).map byteRanges
    (2 + countBeginnings [] sequences) * stateSize +
      alternateSize * sequences.length

mutual
/-- Whether a pattern can match the empty string only. -/
def Shape.isZeroWidth : Shape → Bool
  | .nothing | .empty | .look _ => true
  | .bytes bs => bs.isEmpty
  | .byteIn _ | .scalarIn _ => false
  | .concat items => Shape.allZeroWidth items
  | .either branches => Shape.allZeroWidth branches
  | .times count body => count.most = some 0 || body.isZeroWidth
  | .capture body => body.isZeroWidth

def Shape.allZeroWidth : List Shape → Bool
  | [] => true
  | s :: ss => s.isZeroWidth && Shape.allZeroWidth ss
end

/-- The room for copies of a body of size `body`. Repeating what only matches
the empty string is the same as trying it once. -/
def repeatedSize (count : Count) (body : Nat) (zeroWidth : Bool) : Nat :=
  let branch := stateSize + 2 * alternateSize
  let least := if zeroWidth then min count.least 1 else count.least
  let most := if zeroWidth then some (min (count.most.getD 1) 1) else count.most
  match most with
  | none => max least 1 * body + branch + stateSize
  | some most => least * body + (most - least) * (body + branch) + stateSize

mutual
/-- The room for the program of a pattern, with the states that note where
groups begin and end if `captures` is set. -/
def Shape.programSize (captures : Bool) : Shape → Nat
  | .nothing | .empty | .look _ => stateSize
  | .bytes bs => stateSize * max 1 bs.length
  | .byteIn set => 2 * stateSize + transitionSize * set.ranges.length
  | .scalarIn set => scalarSize set
  | .concat items => max stateSize (Shape.totalSize captures items)
  | .either branches =>
      2 * stateSize + alternateSize * branches.length +
        Shape.totalSize captures branches
  | .times count body =>
      repeatedSize count (body.programSize captures) body.isZeroWidth
  | .capture body =>
      (if captures then 2 * stateSize else 0) + body.programSize captures

def Shape.totalSize (captures : Bool) : List Shape → Nat
  | [] => 0
  | s :: ss => s.programSize captures + Shape.totalSize captures ss
end

/-- Whether the program, with its loop for the start of the match, is larger
than allowed. -/
def Shape.isTooLarge (s : Shape) : Bool :=
  sizeLimit < s.programSize true + 6 * stateSize

end RuleWatch.Pattern
