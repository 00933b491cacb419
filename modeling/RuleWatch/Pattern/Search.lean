import RuleWatch.Pattern.Shape

/-!
Searching content for a pattern. A set of places in the content is a number
whose bit `i` says whether place `i` belongs to it, so that all places are
followed at once. What depends on the content alone is worked out first: where a
unit of a given length stands, and where a condition holds.
-/

namespace RuleWatch.Pattern

open Text Unicode

def placesWhere (p : Nat → Bool) (n : Nat) : Nat :=
  go n 0
where
  go : Nat → Nat → Nat
    | 0, acc => acc
    | i + 1, acc => go i (2 * acc + (p i).toNat)

def isWordByte (b : UInt8) : Bool := CodeSet.has b.toNat PosixClass.word.ranges

namespace Look

/-- Whether a line ends in front of place `i`. A carriage return and a line feed
end it together. -/
def lineStarts (b : ByteArray) (carriageReturn : Bool) (i : Nat) : Bool :=
  let before := if i = 0 then none else b[i - 1]?
  i = 0 || before = some 10 ||
    (carriageReturn && before = some 13 && b[i]? ≠ some 10)

def lineEnds (b : ByteArray) (carriageReturn : Bool) (i : Nat) : Bool :=
  let before := if i = 0 then none else b[i - 1]?
  i = b.size ||
    (if carriageReturn then
      b[i]? = some 13 || (b[i]? = some 10 && before ≠ some 13)
     else b[i]? = some 10)

/-- Whether a word condition holds between the two neighbours of a place. Each
is a word character, another character, or missing: at an end of the content.
Bytes that are no character are no word characters, and the conditions that look
for the absence of one do not hold beside them. -/
def wordHolds (a : Assertion) (before after : Bool)
    (beforeBroken afterBroken : Bool) : Bool :=
  match a with
  | .wordEdge => before != after
  | .wordInside => !beforeBroken && !afterBroken && before == after
  | .wordStart => !before && after
  | .wordEnd => before && !after
  | .wordStartHalf => !beforeBroken && !before
  | .wordEndHalf => !afterBroken && !after
  | _ => false

def holds (b : ByteArray) (l : Look) (i : Nat) : Bool :=
  match l with
  | .start => i = 0
  | .stop => i = b.size
  | .lineStart cr => lineStarts b cr i
  | .lineEnd cr => lineEnds b cr i
  | .word false a =>
      let before := if i = 0 then false else (b[i - 1]?).any isWordByte
      wordHolds a before ((b[i]?).any isWordByte) false false
  | .word true a =>
      let before := scalarBefore b i
      let after := (scalarAt b i).map (·.1)
      wordHolds a (before.any wordCharacters.contains)
        (after.any wordCharacters.contains) (i ≠ 0 && before.isNone)
        (i < b.size && after.isNone)

end Look

/-- A pattern on one content. -/
inductive Stencil
  /-- Units by length, with the places where one of that length starts. -/
  | units (starts : List (Nat × Nat))
  /-- The places where a condition holds. -/
  | hold (places : Nat)
  | concat (items : List Stencil)
  | either (branches : List Stencil)
  | times (count : Count) (body : Stencil)

def bytesAt (b : ByteArray) : List UInt8 → Nat → Bool
  | [], _ => true
  | x :: xs, i => b[i]? = some x && bytesAt b xs (i + 1)

/-- Repetition. A repetition of what is itself repeated without end is one
repetition, and so is an endless repetition of what may be left out. -/
def Stencil.repeated (count : Count) : Stencil → Stencil
  | .times ⟨low, none⟩ body =>
      if 0 < count.least ∨ (low ≤ 1 ∧ count.most ≠ some 0) then
        .times ⟨count.least * low, none⟩ body
      else .times count (.times ⟨low, none⟩ body)
  | .times ⟨0, some 1⟩ body =>
      if count.most = none then .times ⟨0, none⟩ body
      else .times count (.times ⟨0, some 1⟩ body)
  | s => .times count s

mutual
def Shape.on (b : ByteArray) : Shape → Stencil
  | .nothing => .hold 0
  | .empty => .concat []
  | .bytes bs => .units [(bs.length, placesWhere (bytesAt b bs) (b.size + 1))]
  | .byteIn set =>
      .units [(1, placesWhere
        (fun i => (b[i]?).any fun x => set.contains x.toNat) b.size)]
  | .scalarIn set =>
      .units <| [1, 2, 3, 4].map fun n => (n, placesWhere
        (fun i => (scalarAt b i).any fun c => c.2 = n ∧ set.contains c.1)
          b.size)
  | .look l => .hold (placesWhere (l.holds b) (b.size + 1))
  | .concat items => .concat (Shape.allOn b items)
  | .either branches => .either (Shape.allOn b branches)
  | .times count body => .repeated count (body.on b)
  | .capture body => body.on b

def Shape.allOn (b : ByteArray) : List Shape → List Stencil
  | [] => []
  | s :: ss => s.on b :: Shape.allOn b ss
end

/-- `f` applied `n` times, ending early where it changes nothing any more. -/
def iterate (f : Nat → Nat) : Nat → Nat → Nat
  | 0, s => s
  | n + 1, s =>
      let t := f s
      if t = s then s else iterate f n t

/-- The places reached from `frontier` by at most `n` applications of `f`, with
those already `seen`. Only places seen for the first time are followed
further. -/
def reach (f : Nat → Nat) : Nat → Nat → Nat → Nat
  | 0, seen, _ => seen
  | n + 1, seen, frontier =>
      let t := f frontier
      let new := t ^^^ (t &&& seen)
      if new = 0 then seen else reach f n (seen ||| new) new

mutual
/-- The places reached from `s` by matching once; `size` is the length of the
content. -/
def Stencil.advance (size : Nat) : Stencil → Nat → Nat
  | .units starts, s => starts.foldl (fun t u => t ||| ((s &&& u.2) <<< u.1)) 0
  | .hold places, s => s &&& places
  | .concat items, s => Stencil.advanceAll size items s
  | .either branches, s => Stencil.advanceAny size branches s
  | .times count body, s =>
      let f := fun s => if s = 0 then 0 else Stencil.advance size body s
      let t := iterate f count.least s
      reach f (match count.most with
        | none => size + 1
        | some most => most - count.least) t t

def Stencil.advanceAll (size : Nat) : List Stencil → Nat → Nat
  | [], s => s
  | t :: ts, s => Stencil.advanceAll size ts (Stencil.advance size t s)

def Stencil.advanceAny (size : Nat) : List Stencil → Nat → Nat
  | [], _ => 0
  | t :: ts, s => Stencil.advance size t s ||| Stencil.advanceAny size ts s
end

def Shape.occursIn (p : Shape) (content : List UInt8) : Bool :=
  let b := content.toByteArray
  (p.on b).advance b.size (Nat.pow 2 (b.size + 1) - 1) ≠ 0

end RuleWatch.Pattern
