import RuleWatch.Text.Pieces

/-!
Files, as a program finds them at their paths.
-/

namespace RuleWatch

inductive Spot
  | file (content : List UInt8)
  | folder
  /-- Nothing, but a file can be made. -/
  | free
  /-- Nothing, and not even the folder for it. -/
  | missing
  /-- A file on the way is no folder. -/
  | blocked
  deriving DecidableEq, Repr

abbrev Files := String → Spot

inductive FileFault
  | noFile
  | noFolder
  | isFolder
  deriving DecidableEq, Repr

def FileFault.message : FileFault → String
  | noFile => "No such file or directory (os error 2)"
  | noFolder => "Not a directory (os error 20)"
  | isFolder => "Is a directory (os error 21)"

namespace Files

def read (files : Files) (path : String) : Except FileFault (List UInt8) :=
  match files path with
  | .file content => .ok content
  | .folder => .error .isFolder
  | .free | .missing => .error .noFile
  | .blocked => .error .noFolder

/-- The steps of a path. A single point is none. -/
def steps (path : String) : List String :=
  ((Text.pieces (· = '/') path.toList).map String.ofList).filter fun s =>
    s ≠ "" ∧ s ≠ "."

def parent (path : String) : String :=
  let back := path.toList.reverse.dropWhile (· = '/')
  let rest := (back.dropWhile (· ≠ '/')).dropWhile (· = '/')
  if rest ≠ [] then .ofList rest.reverse
  else if path.startsWith "/" then "/"
  else "."

/-- What is at a path below a folder, which has its files at theirs. -/
def find (files : List (List String × List UInt8))
    (path : List String) : Spot :=
  match List.lookup path files with
  | some content => .file content
  | none =>
      if path = [] ∨ files.any (fun f => path.isPrefixOf f.1) then .folder
      else if files.any (fun f => f.1.isPrefixOf path) then .blocked
      else if path.length = 1 ∨
          files.any (fun f => path.dropLast.isPrefixOf f.1) then .free
      else .missing

/-- A folder that holds some files, and nothing else anywhere. -/
def ofList (files : List (String × List UInt8)) : Files := fun path =>
  if path.startsWith "/" then if steps path = [] then .folder else .missing
  else if path = "" then .missing
  else find (files.map fun (name, content) => (steps name, content))
    (steps path)

end Files

end RuleWatch
