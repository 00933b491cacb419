import RuleWatch.Net.Percent
import RuleWatch.Store.Table
import RuleWatch.Text.Pieces

/-!
Tables as files. Each row is a line of four fields with blanks between them,
and percent signs keep blanks and line ends out of the fields. An empty file is
an empty table.

These lines are a form of our own, which stands in for the pages of the SQLite
engine. A file that the engine has written is not read as a table, so opening
it fails with `EngineFault.notDatabase`.
-/

namespace RuleWatch

open Net

namespace Cell

/-- Whether a character would end a field or break it. -/
def breaksField (c : Char) : Bool := Percent.isControl c || c = ' ' || c = '%'

def writeField (s : String) : List Char := Percent.encode breaksField s.toList

def readField? (s : List Char) : Option String :=
  Text.decode? (Percent.decode (Text.encode (.ofList s)))

/-- A letter in front of a value tells texts and bytes apart. -/
def write : Cell → List Char
  | text s => 't' :: writeField s
  | bytes b => 'b' :: b.flatMap Percent.encodeByte

def read? : List Char → Option Cell
  | 't' :: s => (readField? s).map text
  | 'b' :: s => some (bytes (Percent.decode (Text.encode (.ofList s))))
  | _ => none

end Cell

namespace Table

def writeRow (row : Place × Entry) : List Char :=
  " ".toList.intercalate [Cell.writeField row.1.scope,
    Cell.writeField row.1.key, row.2.value.write,
    Cell.writeField row.2.updatedAt] ++ ['\n']

def readRow? (line : List Char) : Option (Place × Entry) :=
  match Text.pieces (· = ' ') line with
  | [scope, key, value, updatedAt] => do
      let scope ← Cell.readField? scope
      let key ← Cell.readField? key
      let value ← Cell.read? value
      let updatedAt ← Cell.readField? updatedAt
      return (⟨scope, key⟩, ⟨value, updatedAt⟩)
  | _ => none

/-- The content of the file for a table, in lines and not in pages. -/
def toFile (t : Table) : List UInt8 :=
  Text.encode (.ofList (t.flatMap writeRow))

/-- The table in a file of such lines; any other file, one of the SQLite engine
among them, has none. -/
def ofFile? (content : List UInt8) : Option Table := do
  let lines := Text.pieces (· = '\n') (← Text.decode? content).toList
  if lines.getLast? = some [] then lines.dropLast.mapM readRow? else none

end Table

end RuleWatch
