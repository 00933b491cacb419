import RuleWatch.Pattern.Reader
import RuleWatch.Text.Utf8
import RuleWatch.Unicode.CaseVariants

/-!
What a pattern means: the byte strings it matches, with the flags and the
classes worked out.
-/

namespace RuleWatch.Pattern

open Text Unicode

/-- Conditions on a place in the content. Word conditions come in a Unicode and
an ASCII form. -/
inductive Look
  | start
  | stop
  | lineStart (carriageReturn : Bool)
  | lineEnd (carriageReturn : Bool)
  | word (unicode : Bool) (a : Assertion)
  deriving DecidableEq, Repr

/-- A pattern as a condition on content. -/
inductive Shape
  | nothing
  | empty
  | bytes (bs : List UInt8)
  | byteIn (set : CodeSet)
  | scalarIn (set : CodeSet)
  | look (l : Look)
  | concat (items : List Shape)
  | either (branches : List Shape)
  | times (count : Count) (body : Shape)
  | capture (body : Shape)

/-- The flags in force at a place of a pattern. -/
structure Mode where
  caseless : Bool
  multiLine : Bool
  dotAll : Bool
  carriageReturn : Bool
  unicode : Bool
  deriving DecidableEq, Repr

def Mode.initial : Mode := ⟨false, false, false, false, true⟩

def Mode.apply (m : Mode) (signs : List FlagSign) : Mode where
  caseless := (flagState .caseless signs).getD m.caseless
  multiLine := (flagState .multiLine signs).getD m.multiLine
  dotAll := (flagState .dotAll signs).getD m.dotAll
  carriageReturn := (flagState .carriageReturn signs).getD m.carriageReturn
  unicode := (flagState .unicode signs).getD m.unicode

def PosixClass.ranges : PosixClass → List (Nat × Nat)
  | .alnum => [(0x30, 0x39), (0x41, 0x5A), (0x61, 0x7A)]
  | .alpha => [(0x41, 0x5A), (0x61, 0x7A)]
  | .ascii => [(0, 0x7F)]
  | .blank => [(9, 9), (0x20, 0x20)]
  | .cntrl => [(0, 0x1F), (0x7F, 0x7F)]
  | .digit => [(0x30, 0x39)]
  | .graph => [(0x21, 0x7E)]
  | .lower => [(0x61, 0x7A)]
  | .print => [(0x20, 0x7E)]
  | .punct => [(0x21, 0x2F), (0x3A, 0x40), (0x5B, 0x60), (0x7B, 0x7E)]
  | .space => [(9, 13), (0x20, 0x20)]
  | .upper => [(0x41, 0x5A)]
  | .word => [(0x30, 0x39), (0x41, 0x5A), (0x5F, 0x5F), (0x61, 0x7A)]
  | .xdigit => [(0x30, 0x39), (0x41, 0x46), (0x61, 0x66)]

namespace Mode

def complement (m : Mode) (s : CodeSet) : CodeSet :=
  if m.unicode then s.complement else s.gaps 0xFF

/-- ASCII letters of a set of bytes, in both cases. -/
def closeBytesUnderCase (s : CodeSet) : CodeSet :=
  let upper := s.inter (.range 0x41 0x5A)
  let lower := s.inter (.range 0x61 0x7A)
  .unions [s, ⟨upper.ranges.map fun r => (r.1 + 32, r.2 + 32)⟩,
    ⟨lower.ranges.map fun r => (r.1 - 32, r.2 - 32)⟩]

def closeUnderCase (m : Mode) (s : CodeSet) : CodeSet :=
  if ¬ m.caseless then s
  else if m.unicode then Unicode.closeUnderCase s
  else closeBytesUnderCase s

/-- Case is ignored before a class is negated. -/
def closeAndNegate (m : Mode) (negated : Bool) (s : CodeSet) : CodeSet :=
  let s := m.closeUnderCase s
  if negated then m.complement s else s

def shorthand (m : Mode) (c : Shorthand) (negated : Bool) : CodeSet :=
  let s := match c, m.unicode with
    | .digit, true => digits
    | .space, true => whitespace
    | .word, true => wordCharacters
    | .digit, false => .ofRanges PosixClass.digit.ranges
    | .space, false => .ofRanges PosixClass.space.ranges
    | .word, false => .ofRanges PosixClass.word.ranges
  if negated then m.complement s else s

/-- The set of a property. Where characters are bytes, there are no
properties. -/
def property (m : Mode) (span : Span) (q : PropertyQuery) (negated : Bool) :
    Except Fault CodeSet :=
  if ¬ m.unicode then fault .unicodeNotAllowed span
  else match q.resolve with
    | .ok s => .ok (m.closeAndNegate negated s)
    | .error .unknownProperty => fault .propertyNotFound span
    | .error .unknownValue => fault .propertyValueNotFound span

/-- The number a literal adds to a class. Where characters are bytes, only ASCII
characters and bytes written as `\xHH` have one. -/
def member (m : Mode) (l : Literal) : Except Fault Nat :=
  if m.unicode ∨ l.char.toNat < 0x80 ∨ (l.fixedByte ∧ l.char.toNat < 0x100) then
    .ok l.char.toNat
  else fault .unicodeNotAllowed l.span

def combine (m : Mode) (op : SetOperator) (l r : CodeSet) : CodeSet :=
  let l := m.closeUnderCase l
  let r := m.closeUnderCase r
  match op with
  | .intersection => l.inter r
  | .difference => l.diff r
  | .symmetricDifference => l.symmDiff r

mutual
def classSet (m : Mode) : ClassTree → Except Fault CodeSet
  | .empty _ => .ok .empty
  | .literal l => return .single (← m.member l)
  | .range _ low high => return .range (← m.member low) (← m.member high)
  | .posix _ c negated => .ok (m.closeAndNegate negated (.ofRanges c.ranges))
  | .property span q negated => m.property span q negated
  | .shorthand _ c negated => .ok (m.shorthand c negated)
  | .bracketed _ body negated =>
      return m.closeAndNegate negated (← m.classSet body)
  | .union _ items => return .unions (← m.classSets items)
  | .binary _ op l r => return m.combine op (← m.classSet l) (← m.classSet r)

def classSets (m : Mode) : List ClassTree → Except Fault (List CodeSet)
  | [] => .ok []
  | t :: ts => return (← m.classSet t) :: (← m.classSets ts)
end

/-- One unit out of a set: nothing for the empty set, a literal for a set of
one. -/
def unit (m : Mode) (s : CodeSet) : Shape :=
  match s.ranges with
  | [] => .nothing
  | [(a, b)] =>
      if a ≠ b then if m.unicode then .scalarIn s else .byteIn s
      else if m.unicode then .bytes (String.utf8EncodeChar (.ofNat a))
        else .bytes [.ofNat a]
  | _ => if m.unicode then .scalarIn s else .byteIn s

/-- A character that stands for itself. It is one byte if written as `\xHH`
where characters are bytes, and else its UTF-8 form. -/
def literal (m : Mode) (l : Literal) : Shape :=
  if ¬ m.unicode ∧ l.fixedByte ∧ 0x80 ≤ l.char.toNat then
    .bytes [.ofNat l.char.toNat]
  else
    let own := CodeSet.single l.char.toNat
    if m.caseless ∧ (m.unicode ∨ l.char.toNat < 0x80) ∧
        m.closeUnderCase own ≠ own then
      m.unit (m.closeUnderCase own)
    else .bytes (String.utf8EncodeChar l.char)

/-- Any unit, without the line ends unless the flag allows them. -/
def dot (m : Mode) : Shape :=
  let ends : CodeSet :=
    if m.dotAll then .empty
    else if m.carriageReturn then .ofRanges [(10, 10), (13, 13)]
    else .single 10
  m.unit (m.complement ends)

def assertion (m : Mode) : Assertion → Look
  | .lineStart => if m.multiLine then .lineStart m.carriageReturn else .start
  | .lineEnd => if m.multiLine then .lineEnd m.carriageReturn else .stop
  | .textStart => .start
  | .textEnd => .stop
  | a => .word m.unicode a

end Mode

mutual
/-- The meaning of a part read in mode `m`, with the mode behind it: a flag list
in a group holds to the end of the group, across its branches. -/
def Tree.shape (m : Mode) : Tree → Except Fault (Shape × Mode)
  | .empty _ => .ok (.empty, m)
  | .flags _ signs => .ok (.empty, m.apply signs)
  | .literal l => .ok (m.literal l, m)
  | .dot _ => .ok (m.dot, m)
  | .assertion _ a => .ok (.look (m.assertion a), m)
  | .property span q negated => do
      return (m.unit (← m.property span q negated), m)
  | .shorthand _ c negated => .ok (m.unit (m.shorthand c negated), m)
  | .bracketed _ body negated => do
      return (m.unit (m.closeAndNegate negated (← m.classSet body)), m)
  | .repetition _ count body => do
      let (s, m) ← body.shape m
      return (.times count s, m)
  | .group _ .capturing body => do
      let (s, _) ← body.shape m
      return (.capture s, m)
  | .group _ (.flags signs) body => do
      let (s, _) ← body.shape (m.apply signs)
      return (s, m)
  | .alternation _ branches => do
      let (ss, m) ← Tree.shapes m branches
      return (.either ss, m)
  | .concat _ items => do
      let (ss, m) ← Tree.shapes m items
      return (.concat ss, m)

def Tree.shapes (m : Mode) : List Tree → Except Fault (List Shape × Mode)
  | [] => .ok ([], m)
  | t :: ts => do
      let (s, m) ← t.shape m
      let (ss, m) ← Tree.shapes m ts
      return (s :: ss, m)
end

end RuleWatch.Pattern
