import RuleWatch.Text.Utf8
import RuleWatch.Time.Calendar
import RuleWatch.Time.Instant

/-!
Timestamps of the form `2001-02-03T04:05:06.789+00:00`. A reader takes any
offset from UTC, small letters, a blank for the `T`, and any number of digits of
a second, of which nine count. Written timestamps are in UTC and have no, three,
six or nine digits of a second.
-/

namespace RuleWatch

inductive TimestampFault
  | tooShort
  | outOfRange
  | invalid
  | trailing
  deriving DecidableEq, Repr

def TimestampFault.message : TimestampFault → String
  | tooShort => "premature end of input"
  | outOfRange => "input is out of range"
  | invalid => "input contains invalid characters"
  | trailing => "trailing input"

namespace Timestamp

def isDigit (b : UInt8) : Bool := 0x30 ≤ b && b ≤ 0x39

def digits (value : Nat) :
    Nat → List UInt8 → Except TimestampFault (Nat × List UInt8)
  | 0, s => .ok (value, s)
  | _ + 1, [] => .error .tooShort
  | n + 1, b :: s =>
      if isDigit b then digits (value * 10 + (b.toNat - 0x30)) n s
      else .error .invalid

def mark (marks : List Char) : List UInt8 → Except TimestampFault (List UInt8)
  | [] => .error .tooShort
  | b :: s => if marks.any (·.toNat = b.toNat) then .ok s else .error .invalid

def date (s : List UInt8) : Except TimestampFault (Date × List UInt8) := do
  let (year, s) ← digits 0 4 s
  let s ← mark ['-'] s
  let (month, s) ← digits 0 2 s
  let s ← mark ['-'] s
  let (day, s) ← digits 0 2 s
  let d : Date := ⟨year, month, day⟩
  if d.isValid then return (d, s) else throw .outOfRange

/-- The nanoseconds that digits of a second stand for. -/
def fraction (ds : List UInt8) : Nat :=
  ((ds ++ List.replicate 9 0x30).take 9).foldl
    (fun n (b : UInt8) => n * 10 + (b.toNat - 0x30)) 0

/-- Reads digits of a second, if there are any. -/
def nanos (s : List UInt8) : Except TimestampFault (Nat × List UInt8) :=
  match s with
  | 0x2E :: s =>
      match s with
      | [] => .error .tooShort
      | b :: _ =>
          if isDigit b then
            .ok (fraction (s.takeWhile isDigit), s.dropWhile isDigit)
          else .error .invalid
  | s => .ok (0, s)

/-- Reads a time of day: the seconds since midnight and the nanoseconds. The
second 60 is the leap second of its minute. -/
def time (s : List UInt8) :
    Except TimestampFault ((Nat × Nat) × List UInt8) := do
  let (hour, s) ← digits 0 2 s
  let s ← mark [':'] s
  let (minute, s) ← digits 0 2 s
  let s ← mark [':'] s
  let (second, s) ← digits 0 2 s
  let (nanos, s) ← nanos s
  if 24 ≤ hour ∨ 60 ≤ minute ∨ 61 ≤ second then throw .outOfRange
  let minutes := hour * 60 + minute
  if second = 60 then return ((minutes * 60 + 59, 1000000000 + nanos), s)
  else return ((minutes * 60 + second, nanos), s)

def offsetHours (s : List UInt8) : Except TimestampFault (Nat × List UInt8) :=
  match s with
  | a :: b :: s =>
      if isDigit a ∧ isDigit b then
        .ok ((a.toNat - 0x30) * 10 + (b.toNat - 0x30), s)
      else .error .invalid
  | _ => .error .tooShort

def offsetMinutes (s : List UInt8) : Except TimestampFault (Nat × List UInt8) :=
  match s with
  | a :: b :: s =>
      if 0x36 ≤ a ∧ a ≤ 0x39 ∧ isDigit b then .error .outOfRange
      else if isDigit a ∧ isDigit b then
        .ok ((a.toNat - 0x30) * 10 + (b.toNat - 0x30), s)
      else .error .invalid
  | _ => .error .tooShort

/-- Reads the sign of an offset: whether it is negative. The minus sign proper
counts too. -/
def offsetSign : List UInt8 → Except TimestampFault (Bool × List UInt8)
  | [] => .error .tooShort
  | 0x2B :: s => .ok (false, s)
  | 0x2D :: s => .ok (true, s)
  | 0xE2 :: 0x88 :: 0x92 :: s => .ok (true, s)
  | _ => .error .invalid

def offset (s : List UInt8) : Except TimestampFault (Int × List UInt8) :=
  match s with
  | 0x5A :: s | 0x7A :: s => .ok (0, s)
  | s => do
      let (negative, s) ← offsetSign s
      let (hours, s) ← offsetHours s
      let s ← mark [':'] s
      let (minutes, s) ← offsetMinutes s
      if 24 ≤ hours then throw .outOfRange
      let seconds : Int := (hours * 60 + minutes) * 60
      return (if negative then -seconds else seconds, s)

def read (text : String) : Except TimestampFault Instant := do
  let s := Text.encode text
  if s.length < 19 then throw .tooShort
  let (date, s) ← date s
  let s ← mark ['T', 't', ' '] s
  let ((seconds, nanos), s) ← time s
  let (offset, s) ← offset s
  if s.isEmpty then return ⟨date.number * 86400 + seconds - offset, nanos⟩
  else throw .trailing

def padded (width n : Nat) : String :=
  let ds := toString n
  .ofList (List.replicate (width - ds.length) '0') ++ ds

def yearText (year : Int) : String :=
  if 0 ≤ year ∧ year ≤ 9999 then padded 4 year.toNat
  else (if year < 0 then "-" else "+") ++ padded 4 year.natAbs

def fractionText (nanos : Nat) : String :=
  if nanos = 0 then ""
  else if nanos % 1000000 = 0 then "." ++ padded 3 (nanos / 1000000)
  else if nanos % 1000 = 0 then "." ++ padded 6 (nanos / 1000)
  else "." ++ padded 9 nanos

def text (t : Instant) : String :=
  let d := Date.ofNumber (t.seconds / 86400)
  let seconds := t.timeOfDay.toNat
  let second := seconds % 60 + if t.isLeap then 1 else 0
  yearText d.year ++ "-" ++ padded 2 d.month ++ "-" ++ padded 2 d.day ++ "T" ++
    padded 2 (seconds / 3600) ++ ":" ++ padded 2 (seconds / 60 % 60) ++ ":" ++
    padded 2 second ++
    fractionText (t.nanos % 1000000000) ++ "+00:00"

end Timestamp

end RuleWatch
