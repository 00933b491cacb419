import RuleWatch.Pattern.Escape

/-!
Reads bracketed classes. A class holds characters, ranges, named classes and
classes in brackets, side by side or joined by set operators that all bind
alike, to the left.
-/

namespace RuleWatch.Pattern

def posixClass? : String → Option PosixClass
  | "alnum" => some .alnum
  | "alpha" => some .alpha
  | "ascii" => some .ascii
  | "blank" => some .blank
  | "cntrl" => some .cntrl
  | "digit" => some .digit
  | "graph" => some .graph
  | "lower" => some .lower
  | "print" => some .print
  | "punct" => some .punct
  | "space" => some .space
  | "upper" => some .upper
  | "word" => some .word
  | "xdigit" => some .xdigit
  | _ => none

/-- A class whose bracket is still open: the stretch of its opening, the operand
to the left of the last operator, and the items since then, last first. -/
structure OpenClass where
  opening : Span
  negated : Bool
  left : Option (SetOperator × ClassTree)
  items : List ClassTree
  itemsStart : Nat

namespace OpenClass

def push (o : OpenClass) (item : ClassTree) : OpenClass :=
  { o with items := item :: o.items }

def operand (o : OpenClass) : ClassTree :=
  let span := match o.items.getLast?, o.items.head? with
    | some first, some last => Span.mk first.span.start last.span.stop
    | _, _ => ⟨o.itemsStart, o.itemsStart⟩
  .gather span o.items.reverse

/-- All that was read so far, with the last operator applied. -/
def body (o : OpenClass) : ClassTree :=
  match o.left with
  | none => o.operand
  | some (op, l) => .binary ⟨l.span.start, o.operand.span.stop⟩ op l o.operand

def operate (o : OpenClass) (op : SetOperator) (pos : Nat) : OpenClass :=
  { o with left := some (op, o.body), items := [], itemsStart := pos }

end OpenClass

/-- Reads the hyphens at the beginning of a class, which stand for
themselves. -/
def readHyphens (extended : Bool) (start : Nat) :
    Nat → List ClassTree → Cursor → Except Fault (List ClassTree × Cursor)
  | 0, items, c => .ok (items, c)
  | limit + 1, items, c =>
      match c.rest with
      | '-' :: _ =>
          let behind := c.step extended
          if behind.atEnd then fault .classUnclosed ⟨start, start⟩
          else readHyphens extended start limit
            (.literal ⟨c.under, '-', false⟩ :: items) behind
      | _ => .ok (items, c)

/-- Reads the opening of a class, the cursor being at the bracket: a caret that
negates, any hyphens, and a closing bracket in the first place, which stands for
itself. -/
def readClassOpening (extended : Bool) (c : Cursor) :
    Except Fault (OpenClass × Cursor) := do
  let start := c.pos
  let c := c.step extended
  if c.atEnd then fault .classUnclosed (c.since start)
  let negated := c.rest.head? = some '^'
  let c := if negated then c.step extended else c
  if c.atEnd then fault .classUnclosed (c.since start)
  let first := c.pos
  let (items, c) ← readHyphens extended start c.rest.length [] c
  if items.isEmpty ∧ c.rest.head? = some ']' then
    let behind := c.step extended
    if behind.atEnd then fault .classUnclosed (behind.since start)
    return (⟨behind.since start, negated, none,
      [.literal ⟨c.under, ']', false⟩], first⟩, behind)
  else return (⟨c.since start, negated, none, items, first⟩, c)

/-- Reads a class such as `[:alpha:]`, the cursor being at its bracket. Anything
else there is no such class, and nothing is read. -/
def readPosix? (c : Cursor) : Option (ClassTree × Cursor) := do
  let inside ← c.accept? ['[', ':']
  let negated := inside.rest.head? = some '^'
  let inside := if negated then inside.next else inside
  let name := inside.rest.takeWhile (· ≠ ':')
  let behind ← (Cursor.mk (inside.rest.drop name.length)
    (inside.pos + name.length)).accept?
    [':', ']']
  let cls ← posixClass? (.ofList name)
  return (.posix (behind.since c.pos) cls negated, behind)

/-- Reads one end of a range, or an item by itself. -/
def readClassPrimitive (extended : Bool) (c : Cursor) :
    Except Fault (Tree × Cursor) :=
  match c.rest with
  | '\\' :: _ => readEscape extended c
  | ch :: _ => .ok (.literal ⟨c.under, ch, false⟩, c.next)
  | [] => fault .classUnclosed c.here

/-- An escape as an item of a class. Assertions have no place in one. -/
def itemOf : Tree → Except Fault ClassTree
  | .literal l => .ok (.literal l)
  | .property s q n => .ok (.property s q n)
  | .shorthand s c n => .ok (.shorthand s c n)
  | t => fault .classEscapeInvalid t.span

def boundOf : Tree → Except Fault Literal
  | .literal l => .ok l
  | t => fault .classRangeBound t.span

/-- Reads an item of a class or a range of characters. `unclosed` is the fault
of a pattern that ends inside the class. -/
def readClassItem (extended : Bool) (unclosed : Fault) (c : Cursor) :
    Except Fault (ClassTree × Cursor) := do
  let (first, c) ← readClassPrimitive extended c
  let c := c.skip extended
  if c.atEnd then throw unclosed
  let after := c.peekPast extended
  if c.rest.head? ≠ some '-' ∨ after = some ']' ∨ after = some '-' then
    return (← itemOf first, c)
  let c := c.step extended
  if c.atEnd then throw unclosed
  let (second, c) ← readClassPrimitive extended c
  let span := Span.mk first.span.start second.span.stop
  let low ← boundOf first
  let high ← boundOf second
  if high.char < low.char then fault .classRangeInvalid span
  return (.range span low high, c)

def setOperator? : List Char → Option SetOperator
  | '&' :: '&' :: _ => some .intersection
  | '-' :: '-' :: _ => some .difference
  | '~' :: '~' :: _ => some .symmetricDifference
  | _ => none

/-- Reads on inside the class `o`, which stands inside the classes `outer`, to
the bracket that closes the outermost of them. Every round reads at least one
character, so as many rounds as there are characters are enough. -/
def readClassBody (extended : Bool) :
    Nat → OpenClass → List OpenClass → Cursor → Except Fault (Tree × Cursor)
  | 0, o, _, _ => fault .classUnclosed o.opening
  | rounds + 1, o, outer, c =>
      let c := c.skip extended
      match c.rest with
      | [] => fault .classUnclosed o.opening
      | '[' :: _ =>
          match readPosix? c with
          | some (item, c) =>
              readClassBody extended rounds (o.push item) outer c
          | none => do
              let (inner, c) ← readClassOpening extended c
              readClassBody extended rounds inner (o :: outer) c
      | ']' :: _ =>
          let span := Span.mk o.opening.start (c.pos + 1)
          match outer with
          | [] => .ok (.bracketed span o.body o.negated, c.next)
          | up :: outer =>
              readClassBody extended rounds
                (up.push (.bracketed span o.body o.negated)) outer c.next
      | rest =>
          match setOperator? rest with
          | some op =>
              let c := c.next.next
              readClassBody extended rounds (o.operate op c.pos) outer c
          | none => do
              let (item, c) ← readClassItem extended
                ⟨.classUnclosed, o.opening, none⟩ c
              readClassBody extended rounds (o.push item) outer c

def readClass (extended : Bool) (c : Cursor) :
    Except Fault (Tree × Cursor) := do
  let (o, behind) ← readClassOpening extended c
  readClassBody extended (c.rest.length + 1) o [] behind

end RuleWatch.Pattern
