import RuleWatch.Pattern.Tree

/-!
What can be wrong with a pattern, and how it is shown: the pattern, carets under
the faulty stretches, and a line that says what is wrong.
-/

namespace RuleWatch.Pattern

def nestLimit : Nat := 250

inductive FaultKind
  | groupUnclosed
  | groupUnopened
  | classUnclosed
  | repetitionMissing
  | flagUnrecognized
  | flagDuplicate
  | flagDanglingNegation
  | flagRepeatedNegation
  | flagUnexpectedEnd
  | escapeUnexpectedEnd
  | escapeUnrecognized
  | propertyNotFound
  | propertyValueNotFound
  | propertyInvalid
  | unicodeNotAllowed
  | countEmpty
  | decimalInvalid
  | countUnclosed
  | countInvalid
  | lookAround
  | backreference
  | classRangeInvalid
  | classRangeBound
  | classEscapeInvalid
  | hexNotScalar
  | hexEmpty
  | hexInvalidDigit
  | groupNameInvalid
  | groupNameEmpty
  | groupNameUnclosed
  | groupNameDuplicate
  | wordBoundaryUnrecognized
  | wordBoundaryUnclosed
  | wordBoundaryUnexpectedEnd
  | nestLimitExceeded
  deriving DecidableEq, Repr

def FaultKind.message : FaultKind → String
  | .groupUnclosed => "unclosed group"
  | .groupUnopened => "unopened group"
  | .classUnclosed => "unclosed character class"
  | .repetitionMissing => "repetition operator missing expression"
  | .flagUnrecognized => "unrecognized flag"
  | .flagDuplicate => "duplicate flag"
  | .flagDanglingNegation => "dangling flag negation operator"
  | .flagRepeatedNegation => "flag negation operator repeated"
  | .flagUnexpectedEnd => "expected flag but got end of regex"
  | .escapeUnexpectedEnd =>
      "incomplete escape sequence, reached end of pattern prematurely"
  | .escapeUnrecognized => "unrecognized escape sequence"
  | .propertyNotFound => "Unicode property not found"
  | .propertyValueNotFound => "Unicode property value not found"
  | .propertyInvalid => "invalid Unicode character class"
  | .unicodeNotAllowed => "Unicode not allowed here"
  | .countEmpty => "repetition quantifier expects a valid decimal"
  | .decimalInvalid => "decimal literal invalid"
  | .countUnclosed => "unclosed counted repetition"
  | .countInvalid =>
      "invalid repetition count range, the start must be <= the end"
  | .lookAround =>
      "look-around, including look-ahead and look-behind, is not supported"
  | .backreference => "backreferences are not supported"
  | .classRangeInvalid =>
      "invalid character class range, the start must be <= the end"
  | .classRangeBound => "invalid range boundary, must be a literal"
  | .classEscapeInvalid => "invalid escape sequence found in character class"
  | .hexNotScalar => "hexadecimal literal is not a Unicode scalar value"
  | .hexEmpty => "hexadecimal literal empty"
  | .hexInvalidDigit => "invalid hexadecimal digit"
  | .groupNameInvalid => "invalid capture group character"
  | .groupNameEmpty => "empty capture group name"
  | .groupNameUnclosed => "unclosed capture group name"
  | .groupNameDuplicate => "duplicate capture group name"
  | .wordBoundaryUnrecognized =>
      "unrecognized special word boundary assertion, valid choices are: start, end, " ++
        "start-half or end-half"
  | .wordBoundaryUnclosed =>
      "special word boundary assertion is either unclosed or contains an invalid character"
  | .wordBoundaryUnexpectedEnd =>
      "found either the beginning of a special word boundary or a bounded repetition on a \\b " ++
        "with an opening brace, but no closing brace"
  | .nestLimitExceeded =>
      "exceed the maximum number of nested parentheses/brackets (" ++
        toString nestLimit ++ ")"

/-- A fault with the stretch it concerns and, for a repeated flag or name, the
stretch of the first occurrence. -/
structure Fault where
  kind : FaultKind
  span : Span
  earlier : Option Span
  deriving DecidableEq, Repr

/-- Line and column, both counted from one, of the place after `n`
characters. -/
def placeOf (pattern : List Char) (n : Nat) : Nat × Nat :=
  (pattern.take n).foldl
    (fun p c => if c = '\n' then (p.1 + 1, 1) else (p.1, p.2 + 1)) (1, 1)

/-- The lines of a text without their ends, which are a line feed or a carriage
return and a line feed. A line feed at the end of the text starts no further
line. -/
def linesOf (cs : List Char) : List (List Char) :=
  go cs []
where
  go : List Char → List Char → List (List Char)
    | [], [] => []
    | [], line => [line.reverse]
    | '\n' :: rest, '\r' :: line => line.reverse :: go rest []
    | '\n' :: rest, line => line.reverse :: go rest []
    | c :: rest, line => go rest (c :: line)

/-- A stretch that lies in one line: the line and the columns from `start` to
before `stop`. -/
structure Mark where
  line : Nat
  start : Nat
  stop : Nat

/-- Carets for the marks of one line, of which no two overlap. Every mark has a
caret. -/
def carets (marks : List Mark) : String :=
  let row := marks.foldl (fun (row : List Char) m =>
    row ++ List.replicate (m.start - 1 - row.length) ' ' ++
      List.replicate (max 1 (m.stop - m.start)) '^') []
  .ofList row

def padLeft (width : Nat) (s : String) : String :=
  .ofList (List.replicate (width - s.length) ' ') ++ s

/-- The pattern with carets under the given stretches. A pattern of one line is
indented; the lines of a longer one are numbered, and a stretch over several
lines is described below. -/
def notate (pattern : List Char) (spans : List Span) : String :=
  let several := pattern.contains '\n'
  let lines := linesOf pattern
  let last := lines.length + (if pattern.getLast? = some '\n' then 1 else 0)
  let width := if last ≤ 1 then 0 else (toString last).length
  let places :=
    spans.map fun s => (placeOf pattern s.start, placeOf pattern s.stop)
  let marks := places.filterMap fun p =>
    if p.1.1 = p.2.1 then some (Mark.mk p.1.1 p.1.2 p.2.2) else none
  let row (i : Nat) (line : List Char) : String :=
    let lead :=
      if width = 0 then "    " else padLeft width (toString (i + 1)) ++ ": "
    let own := marks.filter (·.line = i + 1)
    let note := if own.isEmpty then "" else
      .ofList (List.replicate (if width = 0 then 4 else width + 2) ' ') ++
        carets own ++ "\n"
    lead ++ .ofList line ++ "\n" ++ note
  let body := String.join (lines.mapIdx row)
  let divider := String.ofList (List.replicate 79 '~') ++ "\n"
  let across := places.filter fun p => p.1.1 ≠ p.2.1
  let describe (p : (Nat × Nat) × (Nat × Nat)) : String :=
    "on line " ++ toString p.1.1 ++ " (column " ++ toString p.1.2 ++
      ") through line " ++
      toString p.2.1 ++ " (column " ++ toString (p.2.2 - 1) ++ ")\n"
  if several then
    divider ++ body ++ divider ++ String.join (across.map describe)
  else body

def Fault.render (f : Fault) (pattern : String) : String :=
  let spans := match f.earlier with
    | some o => if o.start ≤ f.span.start then [o, f.span] else [f.span, o]
    | none => [f.span]
  "regex parse error:\n" ++ notate pattern.toList spans ++ "error: " ++
    f.kind.message

end RuleWatch.Pattern
