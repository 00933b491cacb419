import RuleWatch.Net.Punycode
import RuleWatch.Text.Utf8
import RuleWatch.Unicode.Composition
import RuleWatch.Unicode.Direction
import RuleWatch.Unicode.HostMapping

/-!
Host names in ASCII. The characters of a name are mapped to their one form and
composed, and the name is cut into labels at its dots. Labels that are not ASCII
are written with the mark `xn--`; labels that carry the mark already have to
stand for a label that could have been written so.
-/

namespace RuleWatch.Net.Domain

open Unicode

/-- ASCII characters that may not stand in a host name. -/
def isForbidden (c : Nat) : Bool :=
  c ≤ 32 || c = 127 || "%#/:<>?@[\\]^|".toList.any fun d => d.toNat = c

def marks : Text.CodeSet := inCategories ["mn", "mc", "me"]

def isSettled (c : Nat) : Bool := mapInHost c == some [c] && !isForbidden c

/-- The nearest character in a list that is not joined across. -/
def nextJoining (cs : List Nat) : Option Nat :=
  cs.find? fun c => !joinedAcross.contains c

/-- Whether a zero-width joiner or non-joiner may stand behind `before`, whose
last character is the first here, and in front of `behind`. -/
def mayJoin (c : Nat) (before behind : List Nat) : Bool :=
  let silenced := before.head?.any viramas.contains
  if c = 0x200D then silenced
  else if c = 0x200C then
    silenced ||
      ((nextJoining before).any fun l =>
        joinsLeft.contains l || joinsBothSides.contains l) &&
        ((nextJoining behind).any fun r =>
          joinsRight.contains r || joinsBothSides.contains r)
  else true

def joinersAreInPlace (before : List Nat) : List Nat → Bool
  | [] => true
  | c :: cs => mayJoin c before cs && joinersAreInPlace (c :: before) cs

def isLabel (label : List Nat) : Bool :=
  label.all isSettled && !(label.head?.any marks.contains) &&
    joinersAreInPlace [] label

def isRightToLeft (c : Nat) : Bool :=
  match Direction.ofScalar c with
  | .rightToLeft | .arabicLetter | .arabicNumber => true
  | _ => false

/-- The last direction of a label apart from marks. -/
def lastDirection (ds : List Direction) : Option Direction :=
  ds.reverse.find? (· ≠ .nonspacing)

/-- Whether the characters of a label run in one direction. -/
def runsOneWay (label : List Nat) : Bool :=
  let ds := label.map Direction.ofScalar
  let common : List Direction := [.europeanNumber, .europeanSeparator,
    .commonSeparator, .europeanTerminator, .neutral, .boundary, .nonspacing]
  match ds with
  | [] => true
  | .rightToLeft :: _ | .arabicLetter :: _ =>
      (ds.all fun d => common.contains d || d = .rightToLeft ||
          d = .arabicLetter || d = .arabicNumber) &&
        (match lastDirection ds with
          | some .rightToLeft | some .arabicLetter | some .europeanNumber
          | some .arabicNumber => true
          | _ => false) &&
        !(ds.contains .europeanNumber && ds.contains .arabicNumber)
  | .leftToRight :: _ =>
      (ds.all fun d => common.contains d || d = .leftToRight) &&
        (match lastDirection ds with
          | some .leftToRight | some .europeanNumber => true
          | _ => false)
  | _ => false

def labels : List Nat → List (List Nat)
  | [] => [[]]
  | c :: cs =>
      if c = 0x2E then [] :: labels cs
      else match labels cs with
        | [] => [[c]]
        | l :: ls => (c :: l) :: ls

def isAscii (label : List Nat) : Bool := label.all (· < 128)

/-- The mark of labels written in ASCII that stand for others. -/
def mark : List Char := ['x', 'n', '-', '-']

/-- The longest label that is written with the mark. -/
def longestEncoded : Nat := 1000

/-- The longest label with the mark that is read. -/
def longestDecoded : Nat := 2000

/-- A label in ASCII with the label it stands for. -/
structure Label where
  written : List Char
  meant : List Nat

/-- Reads a mapped and composed label. -/
def Label.ofMapped? (label : List Nat) : Option Label :=
  let chars := label.map Char.ofNat
  if mark.isPrefixOf chars then
    let body := chars.drop 4
    if body.length ≤ longestDecoded ∧ isAscii label then
      (Punycode.decode body).bind fun meant =>
        if isAscii meant || compose meant != meant || !isLabel meant then none
        else some ⟨chars, meant⟩
    else none
  else if !isLabel label then none
  else if isAscii label then some ⟨chars, label⟩
  else if label.length ≤ longestEncoded then
    some ⟨mark ++ Punycode.encode label, label⟩
  else none

/-- The characters of a name in their one form, composed. -/
def mapped? (name : List Nat) : Option (List Nat) :=
  (name.mapM mapInHost).map (compose ·.flatten)

/-- The ASCII form of a name, if it is the name of a host. -/
def toAscii? (name : String) : Option String := do
  let cs ← mapped? (name.toList.map Char.toNat)
  let ls ← (labels cs).mapM Label.ofMapped?
  if (ls.any fun l => l.meant.any isRightToLeft) &&
      !(ls.all fun l => runsOneWay l.meant) then none
  else return .ofList (['.'].intercalate (ls.map Label.written))

end RuleWatch.Net.Domain
