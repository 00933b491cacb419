import RuleWatch.Net.Percent
import RuleWatch.Store.Table
import RuleWatch.Text.Pieces

/-!
Addresses of databases: a file, or memory, and parameters that say how it is
opened.
-/

namespace RuleWatch

structure Location where
  file : String
  inMemory : Bool
  isReadOnly : Bool := false
  /-- Whether the file is taken for one that never changes. -/
  isImmutable : Bool := false
  fileSystem : Option String := none
  deriving DecidableEq, Repr

namespace Location

/-- Drops a text from the start as often as it stands there. -/
def dropAll (mark s : List Char) : List Char :=
  if mark ≠ [] ∧ mark.isPrefixOf s then dropAll mark (s.drop mark.length) else s
termination_by s.length
decreasing_by
  rename_i h
  have hp := (List.isPrefixOf_iff_prefix.1 h.2).length_le
  have hm := List.length_pos_iff.2 h.1
  simp only [List.length_drop]
  omega

/-- The text that bytes written with percent signs stand for. -/
def plainText (s : List Char) : String :=
  (Text.decode? (Net.Percent.decode (Text.encode (.ofList s)))).getD ""

/-- A name or a value of a parameter, in which a plus sign is a blank. -/
def parameterText (s : List Char) : String :=
  plainText (s.map fun c => if c = '+' then ' ' else c)

def parameters (s : List Char) : List (String × String) :=
  (Text.pieces (· = '&') s).filterMap fun p =>
    if p.isEmpty then none
    else some (parameterText (p.takeWhile (· ≠ '=')),
      parameterText ((p.dropWhile (· ≠ '=')).drop 1))

def set (l : Location) (name value : String) : Except LocationFault Location :=
  match name with
  | "mode" =>
      match value with
      | "ro" => .ok { l with isReadOnly := true }
      | "rw" | "rwc" => .ok l
      | "memory" => .ok { l with inMemory := true }
      | _ => .error (.unknownValue value name)
  | "cache" => if ["private", "shared"].contains value then .ok l
      else .error (.unknownValue value name)
  | "immutable" =>
      match value with
      | "true" | "1" => .ok { l with isImmutable := true }
      | "false" | "0" => .ok { l with isImmutable := false }
      | _ => .error (.unknownValue value name)
  | "vfs" => .ok { l with fileSystem := some value }
  | _ => .error (.unknownParameter name)

def read (url : String) : Except LocationFault Location :=
  let s := dropAll "sqlite:".toList (dropAll "sqlite://".toList url.toList)
  let (file, query) := s.span (· ≠ '?')
  let l : Location := if file = ":memory:".toList then
    { file := "", inMemory := true }
    else { file := plainText file, inMemory := false }
  (parameters (query.drop 1)).foldlM (fun l (name, value) => l.set name value) l

/-- The file systems that the engine knows. -/
def fileSystems : List String :=
  ["unix", "unix-dotfile", "unix-excl", "unix-none", "memdb"]

/-- What keeps the engine from opening any database here. -/
def fault? (l : Location) : Option EngineFault :=
  match l.fileSystem with
  | some name => if fileSystems.contains name then none
    else some (.noFileSystem name)
  | none => none

/-- The steps of a write that fail in a file that must stay as it is. -/
def stepFaults (l : Location) : List (Table.Step × DatabaseError) :=
  if l.isReadOnly || l.isImmutable then [(.rules, .engine .readOnly)] else []

/-- Whether `part` stands somewhere in a text. -/
def names (part : List Char) : List Char → Bool
  | [] => part.isEmpty
  | c :: cs => part.isPrefixOf (c :: cs) || names part cs

/-- How many connections are kept. A database in memory lives in its only
connection. -/
def connections (url : String) : Nat :=
  if names ":memory:".toList url.toList then 1 else 5

end Location

end RuleWatch
