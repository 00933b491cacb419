import RuleWatch.Json.Byte
import RuleWatch.Json.Fault

/-!
Passing over a value. The text is followed byte by byte with the open brackets
on a stack, so that values may be nested to any depth. What is passed over has
to be well formed, but its numbers need not be within any range, and its strings
need not be characters.
-/

namespace RuleWatch.Json

inductive Bracket
  | list
  | object
  deriving DecidableEq, Repr

namespace Bracket

def closing : Bracket → UInt8
  | list => byte ']'
  | object => byte '\x7d'

def ended : Bracket → Cause
  | list => .endOfList
  | object => .endOfObject

def expected : Bracket → Cause
  | list => .expectedListCommaOrEnd
  | object => .expectedObjectCommaOrEnd

end Bracket

/-- The part of a number that was read last. -/
inductive NumberPart
  | sign
  | zero
  | whole
  | point
  | fraction
  | mark
  | markSign
  | power
  deriving DecidableEq, Repr

namespace NumberPart

def isFull : NumberPart → Bool
  | zero | whole | fraction | power => true
  | sign | point | mark | markSign => false

/-- The part that a byte leads to, if it belongs to the number. -/
def next? (b : UInt8) : NumberPart → Option NumberPart
  | sign => if b = byte '0' then some zero
    else if isDigit b then some whole else none
  | zero => if b = byte '.' then some point
    else if isMark b then some mark else none
  | whole => if isDigit b then some whole else if b = byte '.' then some point
      else if isMark b then some mark else none
  | point => if isDigit b then some fraction else none
  | fraction => if isDigit b then some fraction
    else if isMark b then some mark else none
  | mark => if b = byte '+' || b = byte '-' then some markSign
      else if isDigit b then some power else none
  | markSign => if isDigit b then some power else none
  | power => if isDigit b then some power else none
where
  isMark (b : UInt8) : Bool := b = byte 'e' || b = byte 'E'

end NumberPart

inductive Place
  | value
  | opened
  | next
  | key
  | colon
  | word (left : List UInt8)
  | number (part : NumberPart)
  | string (isKey : Bool)
  | escape (isKey : Bool)
  | hex (isKey : Bool) (left : Nat) (valid : Bool)
  deriving DecidableEq, Repr

/-- What a byte leads to: on to a place, to the end of the value behind the byte
or before it, or to a fault. -/
inductive Move
  | go (place : Place) (open_ : List Bracket)
  | finish
  | stop
  | refuse (cause : Cause)
  | refuseBefore (cause : Cause)

namespace Move

/-- Behind the last byte of a value. -/
def closeValue : List Bracket → Move
  | [] => finish
  | open_ => go .next open_

end Move

def startValue (open_ : List Bracket) (b : UInt8) : Move :=
  if b = byte 'n' then .go (.word [byte 'u', byte 'l', byte 'l']) open_
  else if b = byte 't' then .go (.word [byte 'r', byte 'u', byte 'e']) open_
  else if b = byte 'f' then
    .go (.word [byte 'a', byte 'l', byte 's', byte 'e']) open_
  else if b = byte '-' then .go (.number .sign) open_
  else if b = byte '0' then .go (.number .zero) open_
  else if isDigit b then .go (.number .whole) open_
  else if b = byte '"' then .go (.string false) open_
  else if b = byte '[' then .go .opened (.list :: open_)
  else if b = byte '\x7b' then .go .opened (.object :: open_)
  else .refuse .expectedValue

def startKey (open_ : List Bracket) (b : UInt8) : Move :=
  if b = byte '"' then .go (.string true) open_ else .refuse .keyMustBeString

def afterValue (b : UInt8) : List Bracket → Move
  | [] => .stop
  | k :: open_ =>
      if b = byte ',' then
        match k with
        | .list => .go .value (k :: open_)
        | .object => .go .key (k :: open_)
      else if b = k.closing then .closeValue open_
      else .refuse k.expected

def afterOpening (b : UInt8) : List Bracket → Move
  | [] => .stop
  | k :: open_ =>
      if b = k.closing then .closeValue open_
      else match k with
        | .list => startValue (k :: open_) b
        | .object => startKey (k :: open_) b

def closeString (isKey : Bool) (open_ : List Bracket) : Move :=
  if isKey then .go .colon open_ else .closeValue open_

def move (open_ : List Bracket) (b : UInt8) : Place → Move
  | .value => if isBlank b then .go .value open_ else startValue open_ b
  | .opened => if isBlank b then .go .opened open_ else afterOpening b open_
  | .next => if isBlank b then .go .next open_ else afterValue b open_
  | .key => if isBlank b then .go .key open_ else startKey open_ b
  | .colon =>
      if isBlank b then .go .colon open_
      else if b = byte ':' then .go .value open_ else .refuse .expectedColon
  | .word [] => .stop
  | .word (c :: left) =>
      if b ≠ c then .refuse .expectedWord
      else if left.isEmpty then .closeValue open_
      else .go (.word left) open_
  | .number part =>
      match part.next? b with
      | some part => .go (.number part) open_
      | none =>
          if !part.isFull || (part = .zero && isDigit b) then
            .refuse .invalidNumber
          else if open_.isEmpty then .stop
          else if isBlank b then .go .next open_
          else afterValue b open_
  | .string isKey =>
      if b = byte '"' then closeString isKey open_
      else if b = byte '\\' then .go (.escape isKey) open_
      else if b < 32 then .refuseBefore .controlCharacter
      else .go (.string isKey) open_
  | .escape isKey =>
      if b = byte 'u' then .go (.hex isKey 4 true) open_
      else if isEscapable b then .go (.string isKey) open_
      else .refuse .invalidEscape
  | .hex isKey left valid =>
      let valid := valid && (hexDigit? b).isSome
      if 1 < left then .go (.hex isKey (left - 1) valid) open_
      else if valid then .go (.string isKey) open_
      else .refuse .invalidEscape
where
  isEscapable (b : UInt8) : Bool :=
    b = byte '"' || b = byte '\\' || b = byte '/' || b = byte 'b' ||
      b = byte 'f' ||
      b = byte 'n' || b = byte 'r' || b = byte 't'

/-- What is missing when the text ends at a place, if anything. -/
def missing (open_ : List Bracket) : Place → Option Cause
  | .value | .word _ => some .endOfValue
  | .opened | .next => open_.head?.map Bracket.ended
  | .key | .colon => some .endOfObject
  | .number part => if part.isFull then open_.head?.map Bracket.ended
    else some .invalidNumber
  | .string _ | .escape _ | .hex _ _ _ => some .endOfString

/-- Follows the text to the end of the value. -/
def skip (place : Place) (open_ : List Bracket) :
    List UInt8 → Except Fault (List UInt8)
  | [] =>
      match missing open_ place with
      | none => .ok []
      | some cause => .error (.before cause [])
  | b :: rest =>
      match move open_ b place with
      | .go place open_ => skip place open_ rest
      | .finish => .ok rest
      | .stop => .ok (b :: rest)
      | .refuse cause => .error (.before cause rest)
      | .refuseBefore cause => .error (.before cause (b :: rest))

def skipValue (s : List UInt8) : Except Fault (List UInt8) := skip .value [] s

theorem skip_length {place : Place} {open_ : List Bracket} {s r : List UInt8}
    (h : skip place open_ s = .ok r) : r.length ≤ s.length := by
  fun_induction skip place open_ s with
  | case1 => cases h; simp
  | case2 => cases h
  | case3 _ _ _ _ _ _ _ ih =>
      have := ih h
      simp only [List.length_cons]
      omega
  | case4 => cases h; simp
  | case5 => cases h; simp
  | case6 => cases h
  | case7 => cases h

end RuleWatch.Json
