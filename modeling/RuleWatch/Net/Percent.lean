import RuleWatch.Text.Utf8

/-!
Percent signs in URLs. A byte may be written as a percent sign with two
hexadecimal digits, and has to be where the character would end or break the
part of the URL it stands in.
-/

namespace RuleWatch.Net.Percent

open Text

def hexDigit (n : Nat) : Char :=
  if n < 10 then .ofNat (48 + n) else .ofNat (55 + n)

theorem hexDigit_ascii :
    ∀ n < 16, 37 < (hexDigit n).toNat ∧ (hexDigit n).toNat < 128 := by
  decide

def encodeByte (b : UInt8) : List Char :=
  ['%', hexDigit (b.toNat / 16), hexDigit (b.toNat % 16)]

/-- Writes the characters of a class, and all that are not ASCII, as bytes. -/
def encode (escaped : Char → Bool) (s : List Char) : List Char :=
  s.flatMap fun c =>
    if c.toNat < 128 ∧ !escaped c then [c]
    else (String.utf8EncodeChar c).flatMap encodeByte

def isControl (c : Char) : Bool := c.toNat < 32 || c.toNat = 127

def inFragment (c : Char) : Bool := isControl c || " \"<>`".toList.contains c

def inQuery (c : Char) : Bool := isControl c || " \"#<>".toList.contains c

/-- The class for queries of schemes that the web knows. -/
def inWebQuery (c : Char) : Bool := inQuery c || c = '\''

def inPath (c : Char) : Bool := inFragment c || "#?\x7b\x7d".toList.contains c

def inUserInfo (c : Char) : Bool := inPath c || "/:;=@[\\]^|".toList.contains c

def hexValue? (b : UInt8) : Option UInt8 :=
  if 48 ≤ b ∧ b ≤ 57 then some (b - 48)
  else if 97 ≤ b ∧ b ≤ 102 then some (b - 87)
  else if 65 ≤ b ∧ b ≤ 70 then some (b - 55)
  else none

def pair? : List UInt8 → Option UInt8
  | x :: y :: _ =>
      match hexValue? x, hexValue? y with
      | some x, some y => some (16 * x + y)
      | _, _ => none
  | _ => none

/-- Reads bytes. A percent sign without two digits behind it stands for
itself. -/
def decode (s : List UInt8) : List UInt8 :=
  match s with
  | [] => []
  | b :: rest =>
      match if b = 37 then pair? rest else none with
      | some v => v :: decode (rest.drop 2)
      | none => b :: decode rest
termination_by s.length

end RuleWatch.Net.Percent
