import RuleWatch.Unicode.Property

/-!
Patterns as they are written. Every part keeps the stretch of the pattern it was
read from, so that a fault found later can still be shown in place.
-/

namespace RuleWatch.Pattern

open Unicode

/-- A stretch of a pattern, counted in characters from its start. -/
structure Span where
  start : Nat
  stop : Nat
  deriving DecidableEq, Repr

/-- A character that stands for itself. `fixedByte` marks the two-digit form
`\xHH`, which names a byte where characters are bytes. -/
structure Literal where
  span : Span
  char : Char
  fixedByte : Bool
  deriving DecidableEq, Repr

structure Count where
  least : Nat
  most : Option Nat
  deriving DecidableEq, Repr

inductive Assertion
  | lineStart
  | lineEnd
  | textStart
  | textEnd
  | wordEdge
  | wordInside
  | wordStart
  | wordEnd
  | wordStartHalf
  | wordEndHalf
  deriving DecidableEq, Repr

inductive Flag
  | caseless
  | multiLine
  | dotAll
  | lazyFirst
  | unicode
  | carriageReturn
  | extended
  deriving DecidableEq, Repr

/-- One sign of a flag list: a flag, or the hyphen before flags to clear. -/
inductive FlagSign
  | clear
  | flag (f : Flag)
  deriving DecidableEq, Repr

/-- The classes with one-letter escapes: `\d`, `\s` and `\w`. -/
inductive Shorthand
  | digit
  | space
  | word
  deriving DecidableEq, Repr

/-- The classes written as `[:name:]`. -/
inductive PosixClass
  | alnum | alpha | ascii | blank | cntrl | digit | graph | lower | print
  | punct | space | upper | word | xdigit
  deriving DecidableEq, Repr

inductive SetOperator
  | intersection
  | difference
  | symmetricDifference
  deriving DecidableEq, Repr

/-- What stands between the brackets of a class. -/
inductive ClassTree
  | empty (span : Span)
  | literal (l : Literal)
  | range (span : Span) (low high : Literal)
  | posix (span : Span) (c : PosixClass) (negated : Bool)
  | property (span : Span) (q : PropertyQuery) (negated : Bool)
  | shorthand (span : Span) (c : Shorthand) (negated : Bool)
  | bracketed (span : Span) (body : ClassTree) (negated : Bool)
  | union (span : Span) (items : List ClassTree)
  | binary (span : Span) (op : SetOperator) (left right : ClassTree)

def ClassTree.span : ClassTree → Span
  | .literal l => l.span
  | .empty s | .range s _ _ | .posix s _ _ | .property s _ _ | .shorthand s _ _
  | .bracketed s _ _ | .union s _ | .binary s _ _ _ => s

/-- What a group does: it captures, or it sets flags for its body. -/
inductive GroupKind
  | capturing
  | flags (signs : List FlagSign)
  deriving DecidableEq, Repr

/-- A pattern, or a part of one. -/
inductive Tree
  | empty (span : Span)
  | flags (span : Span) (signs : List FlagSign)
  | literal (l : Literal)
  | dot (span : Span)
  | assertion (span : Span) (a : Assertion)
  | property (span : Span) (q : PropertyQuery) (negated : Bool)
  | shorthand (span : Span) (c : Shorthand) (negated : Bool)
  | bracketed (span : Span) (body : ClassTree) (negated : Bool)
  | repetition (span : Span) (count : Count) (body : Tree)
  | group (span : Span) (kind : GroupKind) (body : Tree)
  | alternation (span : Span) (branches : List Tree)
  | concat (span : Span) (items : List Tree)

def Tree.span : Tree → Span
  | .literal l => l.span
  | .empty s | .flags s _ | .dot s | .assertion s _ | .property s _
        _ | .shorthand s _ _
  | .bracketed s _ _ | .repetition s _ _ | .group s _ _ | .alternation s
    _ | .concat s _ => s

/-- Several items in a row: one item is itself, none is empty. -/
def Tree.sequence (span : Span) : List Tree → Tree
  | [] => .empty span
  | [t] => t
  | ts => .concat span ts

/-- Several class items: one item is itself, none is empty. -/
def ClassTree.gather (span : Span) : List ClassTree → ClassTree
  | [] => .empty span
  | [t] => t
  | ts => .union span ts

/-- What the list of signs says about a flag: the first mention counts, and it
clears the flag after a hyphen. -/
def flagState (f : Flag) : List FlagSign → Option Bool :=
  go true
where
  go (set : Bool) : List FlagSign → Option Bool
    | [] => none
    | .clear :: rest => go false rest
    | .flag g :: rest => if g = f then some set else go set rest

mutual
/-- The first part of a class that is nested deeper than `room` levels. -/
def ClassTree.tooDeep (room : Nat) : ClassTree → Option Span
  | .bracketed s body _ =>
      match room with
      | 0 => some s
      | n + 1 => body.tooDeep n
  | .union s items =>
      match room with
      | 0 => some s
      | n + 1 => ClassTree.anyTooDeep n items
  | .binary s _ l r =>
      match room with
      | 0 => some s
      | n + 1 => (l.tooDeep n).or (r.tooDeep n)
  | _ => none

def ClassTree.anyTooDeep (room : Nat) : List ClassTree → Option Span
  | [] => none
  | t :: ts => (t.tooDeep room).or (ClassTree.anyTooDeep room ts)
end

mutual
/-- The first part of a pattern that is nested deeper than `room` levels.
Classes, repetitions, groups, alternations and sequences each take one level. -/
def Tree.tooDeep (room : Nat) : Tree → Option Span
  | .bracketed s body _ =>
      match room with
      | 0 => some s
      | n + 1 => body.tooDeep n
  | .repetition s _ body =>
      match room with
      | 0 => some s
      | n + 1 => body.tooDeep n
  | .group s _ body =>
      match room with
      | 0 => some s
      | n + 1 => body.tooDeep n
  | .alternation s branches =>
      match room with
      | 0 => some s
      | n + 1 => Tree.anyTooDeep n branches
  | .concat s items =>
      match room with
      | 0 => some s
      | n + 1 => Tree.anyTooDeep n items
  | _ => none

def Tree.anyTooDeep (room : Nat) : List Tree → Option Span
  | [] => none
  | t :: ts => (t.tooDeep room).or (Tree.anyTooDeep room ts)
end

end RuleWatch.Pattern
