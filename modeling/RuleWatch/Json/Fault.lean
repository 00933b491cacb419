import RuleWatch.Decimal.Shortest
import RuleWatch.Text.Quoted

/-!
Why a JSON text is refused. While reading, the place of a fault is known by how
many bytes are still unread; its line and column are counted once, when the
reading has failed.
-/

namespace RuleWatch.Json

open Decimal Text

/-- What a text shows where something else should stand. -/
inductive Found
  | null
  | boolean (value : Bool)
  | integer (value : Int)
  | float (negative : Bool) (size : Binary)
  | string (value : String)
  | sequence
  | map
  deriving Repr

def Found.text : Found → String
  | .null => "null"
  | .boolean b => "boolean `" ++ (if b then "true" else "false") ++ "`"
  | .integer n => "integer `" ++ toString n ++ "`"
  | .float negative size =>
      "floating point `" ++ (if negative then "-" else "") ++
        size.shortest.pointed ++ "`"
  | .string s => "string " ++ Quoted.quote s
  | .sequence => "sequence"
  | .map => "map"

inductive Cause
  | endOfValue
  | endOfList
  | endOfObject
  | endOfString
  | expectedColon
  | expectedListCommaOrEnd
  | expectedObjectCommaOrEnd
  | expectedWord
  | expectedValue
  | trailingComma
  | trailingCharacters
  | keyMustBeString
  | invalidNumber
  | numberOutOfRange
  | invalidEscape
  | invalidCodePoint
  | endOfHexEscape
  | loneSurrogate
  | controlCharacter
  | missingField (name : String)
  | duplicateField (name : String)
  | tooShort (count : Nat) (expected : String)
  | mismatch (found : Found) (expected : String)
  deriving Repr

def Cause.text : Cause → String
  | endOfValue => "EOF while parsing a value"
  | endOfList => "EOF while parsing a list"
  | endOfObject => "EOF while parsing an object"
  | endOfString => "EOF while parsing a string"
  | expectedColon => "expected `:`"
  | expectedListCommaOrEnd => "expected `,` or `]`"
  | expectedObjectCommaOrEnd => "expected `,` or `\x7d`"
  | expectedWord => "expected ident"
  | expectedValue => "expected value"
  | trailingComma => "trailing comma"
  | trailingCharacters => "trailing characters"
  | keyMustBeString => "key must be a string"
  | invalidNumber => "invalid number"
  | numberOutOfRange => "number out of range"
  | invalidEscape => "invalid escape"
  | invalidCodePoint => "invalid unicode code point"
  | endOfHexEscape => "unexpected end of hex escape"
  | loneSurrogate => "lone leading surrogate in hex escape"
  | controlCharacter =>
      "control character (\\u0000-\\u001F) found while parsing a string"
  | missingField name => "missing field `" ++ name ++ "`"
  | duplicateField name => "duplicate field `" ++ name ++ "`"
  | tooShort count expected =>
      "invalid length " ++ toString count ++ ", expected " ++ expected
  | mismatch found expected =>
      "invalid type: " ++ found.text ++ ", expected " ++ expected

/-- A cause with the number of bytes behind its place. -/
structure Fault where
  cause : Cause
  unread : Nat
  deriving Repr

namespace Fault

def before (cause : Cause) (rest : List UInt8) : Fault := ⟨cause, rest.length⟩

/-- A fault at the first byte of `rest`, or at its end when it is empty. -/
def «at» (cause : Cause) (rest : List UInt8) : Fault := ⟨cause, rest.length - 1⟩

end Fault

/-- A refused text: lines are counted from one, and a column is the number of
bytes of the line up to the fault. -/
structure Refusal where
  cause : Cause
  line : Nat
  column : Nat
  deriving Repr

namespace Refusal

def message (r : Refusal) : String :=
  r.cause.text ++ " at line " ++ toString r.line ++ " column " ++
    toString r.column

def position (read : List UInt8) : Nat × Nat :=
  read.foldl
    (fun (place : Nat × Nat) b =>
      if b = 10 then (place.1 + 1, 0) else (place.1, place.2 + 1)) (1, 0)

def ofFault (text : List UInt8) (f : Fault) : Refusal :=
  let (line, column) := position (text.take (text.length - f.unread))
  ⟨f.cause, line, column⟩

end Refusal

end RuleWatch.Json
