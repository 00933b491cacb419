import RuleWatch.Pattern.Bracket

/-!
Reading a whole pattern. The reader walks over the pattern once and keeps, for
every group that is still open, the branches read so far.
-/

namespace RuleWatch.Pattern

open Unicode

/-- The parts of a group that is being read, or of the whole pattern. `opening`
is the stretch and kind of the group's parenthesis, `modeOutside` tells whether
extended mode was on in front of it. Branches and items are kept last first. -/
structure Level where
  opening : Option (Span × GroupKind)
  modeOutside : Bool
  branches : List Tree
  branchesStart : Nat
  items : List Tree
  itemsStart : Nat

namespace Level

def branch (l : Level) (pos : Nat) : Tree :=
  .sequence ⟨l.itemsStart, pos⟩ l.items.reverse

def body (l : Level) (pos : Nat) : Tree :=
  if l.branches.isEmpty then l.branch pos
  else .alternation ⟨l.branchesStart, pos⟩ (l.branch pos :: l.branches).reverse

def bar (l : Level) (pos : Nat) : Level :=
  { l with
    branches := l.branch pos :: l.branches
    branchesStart := if l.branches.isEmpty then l.itemsStart
      else l.branchesStart
    items := []
    itemsStart := pos + 1 }

def push (l : Level) (t : Tree) : Level := { l with items := t :: l.items }

end Level

/-- Where the reader is: the cursor, the mode, the group names seen with their
stretches, the innermost level and the levels around it. -/
structure Reader where
  cursor : Cursor
  extended : Bool
  names : List (String × Span)
  level : Level
  outer : List Level

namespace Reader

def start (pattern : List Char) : Reader :=
  { cursor := ⟨pattern, 0⟩
    extended := false
    names := []
    level := ⟨none, false, [], 0, [], 0⟩
    outer := [] }

def push (r : Reader) (t : Tree) (c : Cursor) : Reader :=
  { r with cursor := c, level := r.level.push t }

end Reader

def flagOf? : Char → Option Flag
  | 'i' => some .caseless
  | 'm' => some .multiLine
  | 's' => some .dotAll
  | 'U' => some .lazyFirst
  | 'u' => some .unicode
  | 'R' => some .carriageReturn
  | 'x' => some .extended
  | _ => none

/-- Reads the signs of a flag list up to its colon or parenthesis. `signs` are
those read so far, last first, each with its stretch. -/
def readFlags : Nat → List (FlagSign × Span) → Cursor →
    Except Fault (List FlagSign × Cursor)
  | 0, _, c => fault .flagUnexpectedEnd c.here
  | rounds + 1, signs, c =>
      match c.rest with
      | [] => fault .flagUnexpectedEnd c.here
      | ch :: _ =>
          if ch = ':' ∨ ch = ')' then
            match signs with
            | (.clear, span) :: _ => fault .flagDanglingNegation span
            | _ => .ok ((signs.map (·.1)).reverse, c)
          else do
            let sign ← if ch = '-' then pure FlagSign.clear else
              match flagOf? ch with
              | some f => pure (.flag f)
              | none => fault .flagUnrecognized c.under
            match signs.find? (·.1 = sign) with
            | some (_, first) =>
                let kind := if sign = .clear then FaultKind.flagRepeatedNegation
                  else .flagDuplicate
                throw ⟨kind, c.under, some first⟩
            | none =>
                if c.next.atEnd then fault .flagUnexpectedEnd c.next.here
                else readFlags rounds ((sign, c.under) :: signs) c.next

/-- Characters of group names: letters and the underscore, and behind the first
character also numbers, dots and brackets. -/
def isNameChar (first : Bool) (c : Char) : Bool :=
  if first then c = '_' || alphabetic.contains c.toNat
  else c = '_' || c = '.' || c = '[' || c = ']' || alphanumeric.contains c.toNat

/-- Reads a group name and the angle bracket behind it. -/
def readGroupName (names : List (String × Span)) (c : Cursor) :
    Except Fault (String × Span × Cursor) := do
  let text := c.rest.takeWhile (· ≠ '>')
  if c.atEnd then fault .groupNameUnclosed c.here
  match text with
  | first :: others =>
      if ¬ isNameChar true first then fault .groupNameInvalid c.under
      match others.findIdx? (! isNameChar false ·) with
      | some k => fault .groupNameInvalid ⟨c.pos + k + 1, c.pos + k + 2⟩
      | none => pure ()
  | [] => pure ()
  let stop : Cursor := ⟨c.rest.drop text.length, c.pos + text.length⟩
  if stop.atEnd then fault .groupNameUnclosed stop.here
  if text.isEmpty then fault .groupNameEmpty c.here
  let name := String.ofList text
  let span := stop.since c.pos
  match names.find? (·.1 = name) with
  | some (_, first) => throw ⟨.groupNameDuplicate, span, some first⟩
  | none => return (name, span, stop.next)

def Reader.enter (r : Reader) (opening : Span) (kind : GroupKind)
    (extended : Bool) (c : Cursor) : Reader :=
  { r with
    cursor := c
    extended := extended
    level := ⟨some (opening, kind), r.extended, [], c.pos, [], c.pos⟩
    outer := r.level :: r.outer }

def lookAroundSigns : List (List Char) :=
  [['?', '='], ['?', '!'], ['?', '<', '='], ['?', '<', '!']]

/-- Reads the opening of a group, the reader being at the parenthesis. A flag
list without a body is a part of its own and changes the mode from there on. -/
def readGroup (r : Reader) : Except Fault Reader := do
  let opening := r.cursor.under
  let c := r.cursor.next.skip r.extended
  match lookAroundSigns.findSome? c.accept? with
  | some c => fault .lookAround (c.since opening.start)
  | none => pure ()
  match c.accept? ['?', 'P', '<'] <|> c.accept? ['?', '<'] with
  | some c =>
      let (name, span, c) ← readGroupName r.names c
      let r := r.enter opening .capturing r.extended c
      return { r with names := (name, span) :: r.names }
  | none =>
      match c.accept? ['?'] with
      | none => return r.enter opening .capturing r.extended c
      | some inner =>
          if inner.atEnd then fault .groupUnclosed opening
          let (signs, behind) ← readFlags inner.rest.length [] inner
          let extended := (flagState .extended signs).getD r.extended
          if behind.rest.head? = some ')' then
            if signs.isEmpty then fault .repetitionMissing c.here
            let t := Tree.flags (behind.next.since opening.start) signs
            return { r.push t behind.next with extended := extended }
          else return r.enter opening (.flags signs) extended behind.next

def closeGroup (r : Reader) : Except Fault Reader :=
  match r.level.opening, r.outer with
  | some (opening, kind), up :: outer =>
      let c := r.cursor.next
      let t :=
        Tree.group (c.since opening.start) kind (r.level.body r.cursor.pos)
      .ok { r with
        cursor := c
        extended := r.level.modeOutside
        level := up.push t
        outer := outer }
  | _, _ => fault .groupUnopened r.cursor.under

/-- The part that a repetition operator at the cursor repeats, and the level
without it. -/
def operandOf (r : Reader) : Except Fault (Tree × Level) :=
  match r.level.items with
  | .empty _ :: _ | .flags _ _ :: _ | [] =>
      fault .repetitionMissing r.cursor.here
  | t :: items => .ok (t, { r.level with items := items })

/-- Puts the repetition of the last part in its place, `c` being behind the
operator. -/
def Reader.repeatLast (r : Reader) (operand : Tree × Level)
    (count : Count) (c : Cursor) :
    Reader :=
  let t := Tree.repetition ⟨operand.1.span.start, c.pos⟩ count operand.1
  { r with cursor := c, level := operand.2.push t }

/-- Reads `?`, `*` or `+` and a question mark behind it, which makes the
repetition lazy and does not change what is matched. -/
def readOperator (r : Reader) (count : Count) : Except Fault Reader := do
  let operand ← operandOf r
  let c := r.cursor.next
  let c := if c.rest.head? = some '?' then c.next else c
  return r.repeatLast operand count c

/-- Reads a decimal number of at most 32 bits between blanks. The cursor moves
on also where there is no such number. -/
def readDecimal (extended : Bool) (c : Cursor) : Except Fault Nat × Cursor :=
  let blanks := c.rest.takeWhile isBlank
  let c : Cursor := ⟨c.rest.drop blanks.length, c.pos + blanks.length⟩
  let (digits, behind) := c.takeWhile extended Char.isDigit c.rest.length
  let (_, after) := behind.takeWhile extended isBlank behind.rest.length
  let n := digits.foldl (fun n d => 10 * n + (d.toNat - 48)) 0
  let number :=
    if digits.isEmpty then fault .countEmpty (behind.since c.pos)
    else if n < UInt32.size then .ok n
    else fault .decimalInvalid (behind.since c.pos)
  (number, after)

/-- Reads a counted repetition, the reader being at its brace. -/
def readCount (r : Reader) : Except Fault Reader := do
  let x := r.extended
  let operand ← operandOf r
  let start := r.cursor.pos
  let unclosed (c : Cursor) : Except Fault Unit :=
    if c.atEnd then fault .countUnclosed (c.since start) else pure ()
  let c := r.cursor.step x
  unclosed c
  let (least, c) := readDecimal x c
  unclosed c
  let (count, c) ← show Except Fault (Count × Cursor) from
    if c.rest.head? = some ',' then do
      let c := c.step x
      unclosed c
      if c.rest.head? = some '}' then return (⟨← least, none⟩, c)
      else
        let low ← least
        let (most, c) := readDecimal x c
        return (⟨low, some (← most)⟩, c)
    else do
      let n ← least
      return (⟨n, some n⟩, c)
  if c.rest.head? ≠ some '}' then fault .countUnclosed (c.since start)
  let c := c.step x
  let c := if c.rest.head? = some '?' then c.next else c
  match count.most with
  | some most =>
      if most < count.least then fault .countInvalid (c.since start)
      else return r.repeatLast operand count c
  | none => return r.repeatLast operand count c

/-- Reads the part at the cursor, which is not at the end. -/
def readPart (r : Reader) (ch : Char) : Except Fault Reader :=
  let c := r.cursor
  match ch with
  | '(' => readGroup r
  | ')' => closeGroup r
  | '|' => .ok { r with cursor := c.next, level := r.level.bar c.pos }
  | '[' => do
      let (t, c) ← readClass r.extended c
      return r.push t c
  | '?' => readOperator r ⟨0, some 1⟩
  | '*' => readOperator r ⟨0, none⟩
  | '+' => readOperator r ⟨1, none⟩
  | '{' => readCount r
  | '\\' => do
      let (t, c) ← readEscape r.extended c
      return r.push t c
  | '.' => .ok (r.push (.dot c.under) c.next)
  | '^' => .ok (r.push (.assertion c.under .lineStart) c.next)
  | '$' => .ok (r.push (.assertion c.under .lineEnd) c.next)
  | ch => .ok (r.push (.literal ⟨c.under, ch, false⟩) c.next)

def finish (r : Reader) : Except Fault Tree :=
  match r.level.opening with
  | some (opening, _) => fault .groupUnclosed opening
  | none => .ok (r.level.body r.cursor.pos)

/-- Reads part after part. Each part has at least one character, so as many
rounds as the pattern has characters are enough. -/
def readParts : Nat → Reader → Except Fault Tree
  | 0, r => finish r
  | rounds + 1, r =>
      let r := { r with cursor := r.cursor.skip r.extended }
      match r.cursor.rest with
      | [] => finish r
      | ch :: _ => do readParts rounds (← readPart r ch)

def Tree.ofPattern (pattern : List Char) : Except Fault Tree := do
  let t ← readParts (pattern.length + 1) (Reader.start pattern)
  match t.tooDeep nestLimit with
  | some span => fault .nestLimitExceeded span
  | none => return t

end RuleWatch.Pattern
