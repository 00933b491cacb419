import RuleWatch.Pattern.Fault

/-!
A place in a pattern, and the steps from it. In extended mode blanks and
comments between the parts of a pattern mean nothing, so most steps pass over
them.
-/

namespace RuleWatch.Pattern

open Unicode

/-- The characters still to read, and how many stand before them. -/
structure Cursor where
  rest : List Char
  pos : Nat
  deriving DecidableEq, Repr

def isBlank (c : Char) : Bool := whitespace.contains c.toNat

namespace Cursor

def atEnd (c : Cursor) : Bool := c.rest.isEmpty

def next (c : Cursor) : Cursor :=
  ⟨c.rest.tail, c.pos + (if c.rest.isEmpty then 0 else 1)⟩

/-- Passes over blanks and comments; `inside` says that a comment has begun. A
comment runs to the end of its line. -/
def pass (inside : Bool) : List Char → Nat → Cursor
  | [], pos => ⟨[], pos⟩
  | ch :: rest, pos =>
      if inside then pass (ch ≠ '\n') rest (pos + 1)
      else if isBlank ch then pass false rest (pos + 1)
      else if ch = '#' then pass true rest (pos + 1)
      else ⟨ch :: rest, pos⟩

def skip (extended : Bool) (c : Cursor) : Cursor :=
  if extended then pass false c.rest c.pos else c

/-- One character on, and over what means nothing there. -/
def step (extended : Bool) (c : Cursor) : Cursor := c.next.skip extended

def here (c : Cursor) : Span := ⟨c.pos, c.pos⟩

def under (c : Cursor) : Span := ⟨c.pos, c.pos + 1⟩

def since (c : Cursor) (start : Nat) : Span := ⟨start, c.pos⟩

def accept? (c : Cursor) (word : List Char) : Option Cursor :=
  if word.isPrefixOf c.rest then
    some ⟨c.rest.drop word.length, c.pos + word.length⟩
  else none

/-- The characters that satisfy `p` from the cursor on, at most `limit` of
them. -/
def takeWhile (extended : Bool) (p : Char → Bool) :
    Nat → Cursor → List Char × Cursor
  | 0, c => ([], c)
  | limit + 1, c =>
      match c.rest with
      | ch :: _ =>
          if p ch then
            let (chs, c') := takeWhile extended p limit (c.step extended)
            (ch :: chs, c')
          else ([], c)
      | [] => ([], c)

/-- The character after the one at the cursor, past blanks in extended mode. A
number sign among the blanks is passed too, but not the comment it begins. -/
def peekPast (extended : Bool) (c : Cursor) : Option Char :=
  let rest := c.rest.tail
  if extended then
    let marked := rest.dropWhile isBlank
    match marked with
    | '#' :: comment =>
        let text := comment.dropWhile isBlank
        if text.isEmpty then rest.head? else text.head?
    | [] => rest.head?
    | ch :: _ => some ch
  else rest.head?

end Cursor

def fault {α : Type} (kind : FaultKind) (span : Span) : Except Fault α :=
  .error ⟨kind, span, none⟩

end RuleWatch.Pattern
