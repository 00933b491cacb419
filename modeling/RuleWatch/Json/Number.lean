import RuleWatch.Json.Byte
import RuleWatch.Json.Fault

/-!
Numbers of a JSON text. A whole number within 64 bits is kept exactly, and every
other number is taken to the nearest binary ones step by step: its leading
digits first, then its power of ten.
-/

namespace RuleWatch.Json

open Decimal

/-- The largest whole number that digits are gathered into. -/
def wordLimit : Nat := UInt64.size - 1

def exponentLimit : Nat := UInt32.size / 2 - 1

/-- Digits gathered into a word. Digits behind the first that does not fit are
only counted. -/
structure Gathered where
  value : Nat
  taken : Nat
  dropped : Nat
  deriving DecidableEq, Repr

def Gathered.push (g : Gathered) (b : UInt8) : Gathered :=
  let value := g.value * 10 + digitValue b
  if g.dropped = 0 ∧ value ≤ wordLimit then ⟨value, g.taken + 1, 0⟩
  else { g with dropped := g.dropped + 1 }

def gather (value : Nat) (digits : List UInt8) : Gathered :=
  digits.foldl Gathered.push ⟨value, 0, 0⟩

def powerOfTen (n : Nat) : Option Binary := Binary.ofNat (Nat.pow 10 n)

/-- Divides by `10 ^ n`, by at most `10 ^ 308` at a time. -/
def divideByPower (x : Binary) (n : Nat) : Option Binary :=
  if n ≤ 308 then (powerOfTen n).bind x.div
  else if x.isZero then some x
  else (powerOfTen 308).bind fun p =>
    (x.div p).bind fun y => divideByPower y (n - 308)
termination_by n

/-- The number `value * 10 ^ exponent`, or nothing when it is too large. -/
def scaled (value : Nat) (exponent : Int) : Option Binary :=
  (Binary.ofNat value).bind fun x =>
    if exponent < 0 then divideByPower x exponent.natAbs
    else if exponent ≤ 308 then (powerOfTen exponent.toNat).bind x.mul
    else if x.isZero then some x
    else none

def readScaled (negative : Bool) (value : Nat) (exponent : Int)
    (rest : List UInt8) :
    Except Fault (Found × List UInt8) :=
  match scaled value exponent with
  | some x => .ok (.float negative x, rest)
  | none => .error (.before .numberOutOfRange rest)

/-- Reads the digits of a power of ten. Nothing comes out when they pass the
limit; the rest then starts behind the digit that does. -/
def readPower (power : Nat) : List UInt8 → Option Nat × List UInt8
  | [] => (some power, [])
  | b :: rest =>
      if isDigit b then
        let power := power * 10 + digitValue b
        if power ≤ exponentLimit then readPower power rest else (none, rest)
      else (some power, b :: rest)

def readSignedPower (negative down : Bool) (value : Nat) (shift : Int) :
    List UInt8 → Except Fault (Found × List UInt8)
  | [] => .error (.before .endOfValue [])
  | b :: rest =>
      if isDigit b then
        match readPower (digitValue b) rest with
        | (some power, rest) =>
            readScaled negative value
              (if down then shift - power else shift + power) rest
        | (none, rest) =>
            if value = 0 ∨ down then
              .ok (.float negative .zero, rest.dropWhile isDigit)
            else .error (.before .numberOutOfRange rest)
      else .error (.before .invalidNumber rest)

def readExponent (negative : Bool) (value : Nat) (shift : Int) :
    List UInt8 → Except Fault (Found × List UInt8)
  | [] => .error (.before .endOfValue [])
  | b :: rest =>
      if b = byte '+' then readSignedPower negative false value shift rest
      else if b = byte '-' then readSignedPower negative true value shift rest
      else readSignedPower negative false value shift (b :: rest)

def isExponentMark (b : UInt8) : Bool := b = byte 'e' || b = byte 'E'

def readFraction (negative : Bool) (value : Nat) (shift : Int)
    (s : List UInt8) :
    Except Fault (Found × List UInt8) :=
  let digits := s.takeWhile isDigit
  let rest := s.dropWhile isDigit
  let g := gather value digits
  let shift := shift - g.taken
  if digits.isEmpty then
    .error (.at (if rest.isEmpty then .endOfValue else .invalidNumber) rest)
  else match rest with
    | b :: r =>
        if isExponentMark b then readExponent negative g.value shift r
        else readScaled negative g.value shift rest
    | [] => readScaled negative g.value shift rest

/-- A whole number. Zero with a sign and numbers outside 64 bits are no
integers. -/
def wholeNumber (negative : Bool) (value : Nat) (rest : List UInt8) :
    Except Fault (Found × List UInt8) :=
  if !negative then .ok (.integer value, rest)
  else if value ≠ 0 ∧ value ≤ UInt64.size / 2 then
    .ok (.integer (-(value : Int)), rest)
  else readScaled true value 0 rest

def readTail (negative : Bool) (g : Gathered) :
    List UInt8 → Except Fault (Found × List UInt8)
  | [] => if g.dropped = 0 then wholeNumber negative g.value []
      else readScaled negative g.value g.dropped []
  | b :: rest =>
      if b = byte '.' then readFraction negative g.value g.dropped rest
      else if isExponentMark b then readExponent negative g.value g.dropped rest
      else if g.dropped = 0 then wholeNumber negative g.value (b :: rest)
      else readScaled negative g.value g.dropped (b :: rest)

def readNumber (negative : Bool) :
    List UInt8 → Except Fault (Found × List UInt8)
  | [] => .error (.before .endOfValue [])
  | b :: rest =>
      if b = byte '0' then
        if (rest.takeWhile isDigit).isEmpty then
          readTail negative ⟨0, 1, 0⟩ rest
        else .error (.at .invalidNumber rest)
      else if isDigit b then
        readTail negative (gather 0 (b :: rest.takeWhile isDigit))
          (rest.dropWhile isDigit)
      else .error (.before .invalidNumber rest)

end RuleWatch.Json
