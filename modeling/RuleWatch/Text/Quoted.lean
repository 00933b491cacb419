import RuleWatch.Unicode.Attribute

/-!
Texts in double quotes for messages. Whatever could hide or break the line of a
message is written as an escape: controls, blanks other than the space,
characters without a glyph of their own, and marks that would join the character
before them.
-/

namespace RuleWatch.Text.Quoted

open Unicode

/-- Characters beyond ASCII that are written by number. -/
def hidden : CodeSet :=
  (inCategories ["cc", "cf", "co", "cn", "zl", "zp", "zs"]).union graphemeExtend

/-- Whether a character stands for itself. The controls are decided without the
table. -/
def isPlain (c : Char) : Bool :=
  if c.toNat < 0x7F then 0x20 ≤ c.toNat
  else if c.toNat < 0xA0 then false
  else !hidden.contains c.toNat

def hexDigits (n : Nat) : List Char := Nat.toDigits 16 n

def numbered (c : Char) : List Char :=
  ['\\', 'u', '\x7b'] ++ hexDigits c.toNat ++ ['\x7d']

def escape (c : Char) : List Char :=
  if c = '"' then ['\\', '"']
  else if c = '\\' then ['\\', '\\']
  else if c = '\x00' then ['\\', '0']
  else if c = '\t' then ['\\', 't']
  else if c = '\n' then ['\\', 'n']
  else if c = '\r' then ['\\', 'r']
  else if isPlain c then [c]
  else numbered c

def quote (s : String) : String :=
  .ofList ('"' :: (s.toList.flatMap escape ++ ['"']))

end RuleWatch.Text.Quoted
