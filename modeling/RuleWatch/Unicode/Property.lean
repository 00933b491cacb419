import RuleWatch.Unicode.Age
import RuleWatch.Unicode.Attribute
import RuleWatch.Unicode.Break
import RuleWatch.Unicode.Script

/-!
Character sets by property name. A property is asked for by one letter, by a
name, or by a name with a value, and names are compared loosely.
-/

namespace RuleWatch.Unicode

open Text

/-- What a property expression asks for. -/
inductive PropertyQuery
  | letter (c : Char)
  | named (name : String)
  | valued (name value : String)
  deriving DecidableEq, Repr

/-- Why a property expression has no character set. -/
inductive PropertyFault
  | unknownProperty
  | unknownValue
  deriving DecidableEq, Repr

/-- The loose form of a name: ASCII only, in lower case, without blanks,
hyphens, underscores and a leading `is`. The short name `isc` keeps its first
two letters. -/
def looseName (name : String) : String :=
  let strip (cs : List Char) : List Char :=
    (cs.filter fun c => c.toNat < 0x80 ∧ c ≠ ' ' ∧ c ≠ '_' ∧ c ≠ '-').map
      Char.toLower
  match name.toList with
  | i :: s :: rest =>
      if i.toLower = 'i' ∧ s.toLower = 's' then
        if strip rest = ['c'] then "isc" else .ofList (strip rest)
      else .ofList (strip (i :: s :: rest))
  | cs => .ofList (strip cs)

/-- Names of properties that are neither attributes nor searched by value. -/
def otherPropertyNames : List String :=
  ["age", "gc", "generalcategory", "category", "sc", "script", "scx",
    "scriptextensions", "gcb", "graphemeclusterbreak", "wb", "wordbreak", "sb",
    "sentencebreak", "cjkaccountingnumeric", "kaccountingnumeric",
    "cjkothernumeric", "kothernumeric", "cjkprimarynumeric", "kprimarynumeric",
    "nv", "numericvalue", "bmg", "bidimirroringglyph", "bpb",
    "bidipairedbracket", "cf", "casefolding", "cjkcompatibilityvariant",
    "kcompatibilityvariant", "dm", "decompositionmapping", "equideo",
    "equivalentunifiedideograph", "fcnfkc", "fcnfkcclosure", "lc",
    "lowercasemapping", "nfkccf", "nfkccasefold", "nfkcscf",
    "nfkcsimplecasefold", "scf", "simplecasefolding", "sfc", "slc",
    "simplelowercasemapping", "stc", "simpletitlecasemapping", "suc",
    "simpleuppercasemapping", "tc", "titlecasemapping", "uc",
    "uppercasemapping", "cjkiicore", "kiicore", "cjkirggsource", "kirggsource",
    "cjkirghsource", "kirghsource", "cjkirgjsource", "kirgjsource",
    "cjkirgkpsource", "kirgkpsource", "cjkirgksource", "kirgksource",
    "cjkirgmsource", "kirgmsource", "cjkirgssource", "kirgssource",
    "cjkirgtsource", "kirgtsource", "cjkirguksource", "kirguksource",
    "cjkirgusource", "kirgusource", "cjkirgvsource", "kirgvsource",
    "cjkrsunicode", "krsunicode", "unicoderadicalstroke", "urs", "isc",
    "isocomment", "jsn", "jamoshortname", "na", "name", "na1", "unicode1name",
    "namealias", "blk", "block", "bc", "bidiclass", "bpt",
    "bidipairedbrackettype", "ccc", "canonicalcombiningclass", "dt",
    "decompositiontype", "ea", "eastasianwidth", "hst", "hangulsyllabletype",
    "incb", "indicconjunctbreak", "inpc", "indicpositionalcategory", "insc",
    "indicsyllabiccategory", "jg", "joininggroup", "jt", "joiningtype", "lb",
    "linebreak", "nfcqc", "nfcquickcheck", "nfdqc", "nfdquickcheck", "nfkcqc",
    "nfkcquickcheck", "nfkdqc", "nfkdquickcheck", "nt", "numerictype", "vo",
    "verticalorientation", "ce", "compositionexclusion", "compex",
    "fullcompositionexclusion", "cwkcf", "changeswhennfkccasefolded", "xonfc",
    "expandsonnfc", "xonfd", "expandsonnfd", "xonfkc", "expandsonnfkc",
    "xonfkd", "expandsonnfkd", "kehcat", "kehdesc", "kehhg", "kehifao",
    "kehjsesh", "kehcore", "kehnomirror", "kehnorotate", "kehunik"]

/-- Whether some property goes by this loose name. -/
def isPropertyName (name : String) : Bool :=
  (attribute? name).isSome || otherPropertyNames.contains name

def orFault (fault : PropertyFault) :
    Option CodeSet → Except PropertyFault CodeSet
  | some s => .ok s
  | none => .error fault

/-- The set of a loose name given alone: an attribute first, then a category,
then a script. Three short names are categories although they also abbreviate
properties. -/
def setNamed (name : String) : Except PropertyFault CodeSet :=
  if ¬ ["cf", "sc", "lc"].contains name ∧ isPropertyName name then
    orFault .unknownProperty (attribute? name)
  else if ["cs", "surrogate", "hrkt", "katakanaorhiragana", "zzzz",
      "unknown"].contains name then
    .error .unknownValue
  else orFault .unknownProperty (category? name <|> script? name)

/-- The set of a loose name with a loose value. -/
def setValued (name value : String) : Except PropertyFault CodeSet :=
  if ["gc", "generalcategory", "category"].contains name then
    orFault .unknownValue (category? value)
  else if ["sc", "script"].contains name then
    orFault .unknownValue (script? value)
  else if ["scx", "scriptextensions"].contains name then
    orFault .unknownValue (scriptExtensions? value)
  else if name = "age" then orFault .unknownValue (age? value)
  else if ["gcb", "graphemeclusterbreak"].contains name then
    orFault .unknownValue (graphemeBreak? value)
  else if ["wb", "wordbreak"].contains name then
    orFault .unknownValue (wordBreak? value)
  else if ["sb", "sentencebreak"].contains name then
    orFault .unknownValue (sentenceBreak? value)
  else if isPropertyName name then .error .unknownValue
  else .error .unknownProperty

/-- The characters a property expression stands for. -/
def PropertyQuery.resolve : PropertyQuery → Except PropertyFault CodeSet
  | .letter c => setNamed (looseName (.ofList [c]))
  | .named name => setNamed (looseName name)
  | .valued name value => setValued (looseName name) (looseName value)

end RuleWatch.Unicode
