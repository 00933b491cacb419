/-!
Decimal numerals of bounded numbers: ASCII digits with an optional plus sign in
front.
-/

namespace RuleWatch.Text

inductive NumeralFault
  | empty
  | invalidDigit
  | tooLarge
  deriving DecidableEq, Repr

def NumeralFault.message : NumeralFault → String
  | empty => "cannot parse integer from empty string"
  | invalidDigit => "invalid digit found in string"
  | tooLarge => "number too large to fit in target type"

namespace Numeral

/-- Reads digits behind `value`. The first digit that is none or that leads past
the limit is reported. -/
def digits (limit value : Nat) : List Char → Except NumeralFault Nat
  | [] => .ok value
  | c :: cs =>
      if c.isDigit then
        let value := value * 10 + (c.toNat - '0'.toNat)
        if value ≤ limit then digits limit value cs else .error .tooLarge
      else .error .invalidDigit

def read (limit : Nat) : List Char → Except NumeralFault Nat
  | [] => .error .empty
  | '+' :: [] => .error .invalidDigit
  | '+' :: cs => digits limit 0 cs
  | cs => digits limit 0 cs

end Numeral

def readWord64 (s : String) : Except NumeralFault Nat :=
  Numeral.read (UInt64.size - 1) s.toList

end RuleWatch.Text
