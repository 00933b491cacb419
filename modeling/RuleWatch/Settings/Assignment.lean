import RuleWatch.Settings.Basic

/-!
Assignments of environment variables, as they are written in a file, one on a
line. A value can be quoted: between single quotes every character stands for
itself, and elsewhere a backslash lets the next one stand for itself and a
dollar sign names a variable whose value is put in.
-/

namespace RuleWatch

open Unicode

/-- Where the reading of a value stands. -/
inductive ValuePlace
  | plain (isQuoted : Bool)
  | literal
  | escaped (isQuoted : Bool)
  /-- Behind a dollar sign. -/
  | named (isQuoted : Bool) (name : List Char)
  /-- Between braces behind a dollar sign. -/
  | braced (isQuoted : Bool) (name : List Char)
  /-- Behind the value, where only a comment can follow. -/
  | ended
  deriving DecidableEq, Repr

namespace ValuePlace

def valueOf (env : Environment) (name : List Char) : List Char :=
  ((env (.ofList name)).getD "").toList

def escape? (c : Char) : Option Char :=
  if "\\'\"$ ".toList.contains c then some c
  else if c = 'n' then some '\n'
  else none

def isGap (c : Char) : Bool := c = ' ' || c = '\t'

def isNameCharacter (c : Char) : Bool := alphanumeric.contains c.toNat

/-- Reads one character, outside of names and literals. -/
def nextPlain (isQuoted : Bool) (c : Char) : ValuePlace × List Char :=
  if c = '$' then (named isQuoted [], [])
  else if c = '\\' then (escaped isQuoted, [])
  else if c = '"' then (plain !isQuoted, [])
  else if isQuoted then (plain true, [c])
  else if c = '\'' then (literal, [])
  else if isGap c then (ended, [])
  else (plain false, [c])

/-- Reads one character: the next place, with what the character adds to the
value. -/
def next (env : Environment) (c : Char) :
    ValuePlace → Option (ValuePlace × List Char)
  | plain isQuoted => some (nextPlain isQuoted c)
  | literal => some (if c = '\'' then (plain false, []) else (literal, [c]))
  | escaped isQuoted => (escape? c).map fun c => (plain isQuoted, [c])
  | named isQuoted name =>
      if isNameCharacter c then some (named isQuoted (name ++ [c]), [])
      else if c = '\x7b' ∧ name = [] then some (braced isQuoted [], [])
      else if c = '$' then some (named isQuoted [], valueOf env name)
      else some (plain isQuoted, valueOf env name ++ [c])
  | braced isQuoted name =>
      if c = '\x7d' then some (plain isQuoted, valueOf env name)
      else some (braced isQuoted (name ++ [c]), [])
  | ended => if isGap c then some (ended, []) else none

/-- What is left to add to the value at the end of the line. Quotes and braces
must be closed. -/
def finish? (env : Environment) : ValuePlace → Option (List Char)
  | plain isQuoted | escaped isQuoted => if isQuoted then none else some []
  | named isQuoted name => if isQuoted then none else some (valueOf env name)
  | literal | braced _ _ => none
  | ended => some []

def read? (env : Environment) (p : ValuePlace) : List Char → Option (List Char)
  | [] => p.finish? env
  | c :: cs =>
      if p = ended ∧ c = '#' then some []
      else match p.next env c with
        | none => none
        | some (p, added) => (p.read? env cs).map (added ++ ·)

end ValuePlace

structure Assignment where
  name : String
  value : String
  deriving DecidableEq, Repr

namespace Assignment

def skipBlanks (s : List Char) : List Char := s.dropWhile Features.isBlank

def isAsciiLetter (c : Char) : Bool :=
  ('a' ≤ c && c ≤ 'z') || ('A' ≤ c && c ≤ 'Z') || c = '_'

def isKeyCharacter (c : Char) : Bool :=
  isAsciiLetter c || ('0' ≤ c && c ≤ '9') || c = '.'

def key? (s : List Char) : Option (List Char × List Char) :=
  match s with
  | c :: _ =>
      if isAsciiLetter c then
        some (s.takeWhile isKeyCharacter,
          skipBlanks (s.dropWhile isKeyCharacter))
      else none
  | [] => none

def value? (env : Environment) : List Char → Option (List Char)
  | '=' :: s =>
      match skipBlanks s with
      | [] => some []
      | '#' :: _ => some []
      | s => ValuePlace.read? env (.plain false) s
  | _ => none

/-- Reads a name and a value. The word `export` can stand in front of them. -/
def read? (env : Environment) (s : List Char) : Option Assignment := do
  let (name, rest) ← key? s
  let (name, rest) ←
    if name = "export".toList ∧ rest.head? ≠ some '=' then key? rest
    else some (name, rest)
  return ⟨.ofList name, .ofList (← value? env rest)⟩

/-- Whether a line holds no assignment. -/
def isVoid (s : List Char) : Bool := s.isEmpty || s.head? = some '#'

end Assignment

end RuleWatch
