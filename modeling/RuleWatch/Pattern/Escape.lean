import RuleWatch.Pattern.Cursor

/-!
Escapes: what a backslash and the characters after it stand for, inside and
outside classes.
-/

namespace RuleWatch.Pattern

open Unicode

def isHexDigit (c : Char) : Bool :=
  c.isDigit || ('a' ≤ c && c ≤ 'f') || ('A' ≤ c && c ≤ 'F')

def hexDigitValue (c : Char) : Nat :=
  if c.isDigit then c.toNat - 48 else c.toLower.toNat - 87

def hexNumber (digits : List Char) : Nat :=
  digits.foldl (fun n d => 16 * n + hexDigitValue d) 0

def scalar? (n : Nat) : Option Char :=
  if n < 0xD800 ∨ (0xDFFF < n ∧ n < 0x110000) then some (.ofNat n) else none

/-- Characters with a meaning of their own somewhere in a pattern. -/
def metaCharacters : List Char :=
  ['\\', '.', '+', '*', '?', '(', ')', '|', '[', ']', '{', '}', '^', '$',
    '#', '&', '-', '~']

/-- Characters that a backslash makes stand for themselves: the ASCII ones but
letters, digits and the two angle brackets. -/
def isEscapable (c : Char) : Bool :=
  metaCharacters.contains c ||
    (c.toNat < 0x80 && !c.isAlphanum && c ≠ '<' && c ≠ '>')

def controlEscape? : Char → Option Char
  | 'a' => some '\x07'
  | 'f' => some '\x0c'
  | 't' => some '\t'
  | 'n' => some '\n'
  | 'r' => some '\r'
  | 'v' => some '\x0b'
  | _ => none

def assertionEscape? : Char → Option Assertion
  | 'A' => some .textStart
  | 'z' => some .textEnd
  | 'b' => some .wordEdge
  | 'B' => some .wordInside
  | '<' => some .wordStart
  | '>' => some .wordEnd
  | _ => none

def shorthandEscape? : Char → Option (Shorthand × Bool)
  | 'd' => some (.digit, false)
  | 's' => some (.space, false)
  | 'w' => some (.word, false)
  | 'D' => some (.digit, true)
  | 'S' => some (.space, true)
  | 'W' => some (.word, true)
  | _ => none

def readHexDigits (extended : Bool) :
    Nat → Cursor → Except Fault (List Char × Cursor)
  | 0, c => .ok ([], c)
  | n + 1, c =>
      match c.rest with
      | [] => fault .escapeUnexpectedEnd c.here
      | d :: _ =>
          if isHexDigit d then
            if n = 0 then .ok ([d], c.step extended)
            else do
              let (ds, c) ← readHexDigits extended n (c.step extended)
              return (d :: ds, c)
          else fault .hexInvalidDigit c.under

def readHexBrace (extended : Bool) (start : Nat) (brace : Cursor) :
    Except Fault (Tree × Cursor) :=
  let (digits, c) :=
    (brace.step extended).takeWhile extended isHexDigit brace.rest.length
  match c.rest with
  | [] => fault .escapeUnexpectedEnd (c.since brace.pos)
  | '}' :: _ =>
      let behind := c.step extended
      if digits.isEmpty then fault .hexEmpty (behind.since brace.pos)
      else match scalar? (hexNumber digits) with
        | some ch => .ok (.literal ⟨behind.since start, ch, false⟩, behind)
        | none => fault .hexNotScalar (c.since (brace.pos + 1))
  | _ => fault .hexInvalidDigit c.under

/-- Reads a number in hexadecimal, the cursor being at the letter `x`, `u` or
`U`. -/
def readHex (extended : Bool) (start : Nat) (letter : Char) (c : Cursor) :
    Except Fault (Tree × Cursor) :=
  let c := c.step extended
  match c.rest with
  | [] => fault .escapeUnexpectedEnd c.here
  | '{' :: _ => readHexBrace extended start c
  | _ => do
      let count := if letter = 'x' then 2 else if letter = 'u' then 4 else 8
      let (digits, behind) ← readHexDigits extended count c
      match scalar? (hexNumber digits) with
      | some ch =>
          return (.literal ⟨behind.since start, ch, letter = 'x'⟩, behind)
      | none => fault .hexNotScalar (behind.since c.pos)

def splitAtWord? (word : List Char) : List Char → Option (List Char × List Char)
  | [] => none
  | c :: rest =>
      if word.isPrefixOf (c :: rest) then
        some ([], (c :: rest).drop word.length)
      else (splitAtWord? word rest).map fun p => (c :: p.1, p.2)

/-- What the text between the braces of a property asks for. Name and value are
separated by `!=`, a colon or an equality sign; the first of these that occurs
at all decides. -/
def propertyQuery (text : List Char) : PropertyQuery :=
  let parts := (splitAtWord? ['!', '='] text <|> splitAtWord? [':'] text) <|>
    splitAtWord? ['='] text
  match parts with
  | some (name, value) => .valued (.ofList name) (.ofList value)
  | none => .named (.ofList text)

/-- Reads a property, the cursor being at the letter `p` or `P`. -/
def readProperty (extended : Bool) (start : Nat) (negated : Bool) (c : Cursor) :
    Except Fault (Tree × Cursor) :=
  let c := c.step extended
  match c.rest with
  | [] => fault .escapeUnexpectedEnd c.here
  | '{' :: _ =>
      let (text, c) :=
        (c.step extended).takeWhile extended (· ≠ '}') c.rest.length
      match c.rest with
      | [] => fault .escapeUnexpectedEnd c.here
      | _ =>
          .ok (.property (c.next.since start) (propertyQuery text) negated,
            c.next)
  | '\\' :: _ => fault .propertyInvalid c.under
  | ch :: _ =>
      let behind := c.step extended
      .ok (.property (behind.since start) (.letter ch) negated, behind)

/-- Reads the braces after `\b`, the cursor being at the brace. Where their
first character cannot begin a name, they are left to be read as a count. -/
def readWordBoundary? (extended : Bool) (start : Nat) (brace : Cursor) :
    Except Fault (Option (Assertion × Cursor)) :=
  let inName (c : Char) : Bool := c.isAlpha || c = '-'
  let c := brace.step extended
  match c.rest with
  | [] => fault .wordBoundaryUnexpectedEnd (c.since start)
  | first :: _ =>
      if inName first then
        let (name, behind) := c.takeWhile extended inName c.rest.length
        match behind.rest with
        | '}' :: _ =>
            match String.ofList name with
            | "start" => .ok (some (.wordStart, behind.next))
            | "end" => .ok (some (.wordEnd, behind.next))
            | "start-half" => .ok (some (.wordStartHalf, behind.next))
            | "end-half" => .ok (some (.wordEndHalf, behind.next))
            | _ => fault .wordBoundaryUnrecognized (behind.since c.pos)
        | _ => fault .wordBoundaryUnclosed (behind.since brace.pos)
      else .ok none

/-- Reads an escape, the cursor being at the backslash. -/
def readEscape (extended : Bool) (c : Cursor) : Except Fault (Tree × Cursor) :=
  let start := c.pos
  let c := c.next
  match c.rest with
  | [] => fault .escapeUnexpectedEnd (c.since start)
  | ch :: _ =>
      let behind := c.next
      let span := behind.since start
      if ch.isDigit then fault .backreference span
      else if ch = 'x' ∨ ch = 'u' ∨ ch = 'U' then readHex extended start ch c
      else if ch = 'p' ∨ ch = 'P' then readProperty extended start (ch = 'P') c
      else match shorthandEscape? ch with
        | some (cls, negated) => .ok (.shorthand span cls negated, behind)
        | none =>
            if isEscapable ch then .ok (.literal ⟨span, ch, false⟩, behind)
            else match controlEscape? ch with
              | some control => .ok (.literal ⟨span, control, false⟩, behind)
              | none =>
                  match assertionEscape? ch with
                  | none => fault .escapeUnrecognized span
                  | some a =>
                      if ch = 'b' ∧ behind.rest.head? = some '{' then do
                        match ← readWordBoundary? extended start behind with
                        | some (named, c) =>
                            return (.assertion (c.since start) named, c)
                        | none => return (.assertion span a, behind)
                      else .ok (.assertion span a, behind)

end RuleWatch.Pattern
