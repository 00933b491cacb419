import RuleWatch.Text.CodeSet

/-!
Tables of named character sets. Names are compared in their loose form: lower
case, without blanks, hyphens, underscores and a leading `is`.
-/

namespace RuleWatch.Text

/-- A character set with the names it goes by, its members written as a
table. -/
structure NamedSet where
  names : List String
  table : String

namespace NamedSet

def set (s : NamedSet) : CodeSet := .ofTable s.table

def find? (sets : List NamedSet) (name : String) : Option CodeSet :=
  (sets.find? (·.names.contains name)).map set

end NamedSet

end RuleWatch.Text
