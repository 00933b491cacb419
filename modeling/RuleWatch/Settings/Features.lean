import RuleWatch.Text.Pieces
import RuleWatch.Unicode.Attribute

/-!
Feature flags. Flags are listed between commas; blanks around a flag do not
count, and blank entries are no flags.
-/

namespace RuleWatch

open Unicode

/-- The flags that are on. -/
structure Features where
  flags : List String
  deriving Repr

namespace Features

def isBlank (c : Char) : Bool := whitespace.contains c.toNat

/-- A text without the blanks at its two ends. -/
def trim (s : List Char) : List Char :=
  ((s.dropWhile isBlank).reverse.dropWhile isBlank).reverse

def ofList (list : String) : Features :=
  ⟨(((Text.pieces (· = ',') list.toList).map trim).filter (!·.isEmpty)).map
    String.ofList⟩

def none : Features := ⟨[]⟩

/-- Turns on one flag, just as it is written. -/
def insert (f : Features) (flag : String) : Features := ⟨flag :: f.flags⟩

def isEnabled (f : Features) (flag : String) : Bool := f.flags.contains flag

def same (f g : Features) : Bool :=
  f.flags.all g.isEnabled && g.flags.all f.isEnabled

end Features

end RuleWatch
