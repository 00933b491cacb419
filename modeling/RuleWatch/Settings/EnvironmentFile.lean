import RuleWatch.Settings.Assignment
import RuleWatch.Text.Utf8

/-!
Files of environment variables. A line goes on behind its end as long as a quote
is open. Variables that have a value keep it, and the reading stops at the first
line that cannot be read.
-/

namespace RuleWatch

/-- Where the end of a line falls. -/
inductive LineEnd
  | plain
  /-- Behind a blank, where a comment can begin. -/
  | blank
  | escaped
  | literal
  | literalEscaped
  | quoted
  | quotedEscaped
  deriving DecidableEq, Repr

namespace LineEnd

def nextPlain (c : Char) : LineEnd :=
  if c = '\\' then escaped else if c = '"' then quoted
    else if c = '\'' then literal else plain

def next (c : Char) : LineEnd → LineEnd
  | plain =>
      if Features.isBlank c ∧ c ≠ '\n' ∧ c ≠ '\r' then blank else nextPlain c
  | blank => nextPlain c
  | escaped => plain
  | literal => if c = '\\' then literalEscaped
    else if c = '\'' then plain else literal
  | literalEscaped => literal
  | quoted => if c = '\\' then quotedEscaped
    else if c = '"' then plain else quoted
  | quotedEscaped => quoted

/-- Follows a line to its end or to a comment: what stands in front, with the
end if there is no comment. -/
def follow (e : LineEnd) : List Char → List Char × Option LineEnd
  | [] => ([], some e)
  | c :: cs =>
      if e = blank ∧ c = '#' then ([], none)
      else
        let (text, last) := (e.next c).follow cs
        (c :: text, last)

end LineEnd

namespace EnvironmentFile

/-- The lines of a file, each with its line feed. -/
def rawLines (bytes : List UInt8) : List (List UInt8) :=
  if bytes = [] then []
  else
    (bytes.takeWhile (· ≠ 10) ++ (bytes.dropWhile (· ≠ 10)).take 1) ::
      rawLines ((bytes.dropWhile (· ≠ 10)).drop 1)
termination_by bytes.length
decreasing_by
  rename_i h
  have hl := (List.dropWhile_suffix (l := bytes) (· ≠ 10)).length_le
  have hp := List.length_pos_iff.2 h
  simp only [List.length_drop]
  omega

/-- A line without its line feed and the carriage return in front of it. -/
def dropFeed (s : List Char) : List Char :=
  match s.reverse with
  | '\n' :: '\r' :: rest => rest.reverse
  | '\n' :: rest => rest.reverse
  | _ => s

/-- Joins the lines that belong together. Nothing comes of a quote that stays
open and of bytes that are no text. -/
def joinLines (e : LineEnd) (before : List Char) :
    List (List UInt8) → List (Option (List Char))
  | [] => if e = .plain then [] else [none]
  | bytes :: rest =>
      match Text.decode? bytes with
      | none => [none]
      | some line =>
          let line := line.toList
          if (Assignment.skipBlanks (before ++ line)).head? = some '#' then
            some [] :: joinLines .plain [] rest
          else match e.follow line with
            | (text, none) => some (before ++ text) :: joinLines .plain [] rest
            | (_, some .plain) =>
                some (dropFeed (before ++ line)) :: joinLines .plain [] rest
            | (_, some e) => joinLines e (before ++ line) rest

/-- The file behind a byte order mark. -/
def dropMark : List UInt8 → List UInt8
  | 0xEF :: 0xBB :: 0xBF :: rest => rest
  | bytes => bytes

/-- Gives a variable a value, if it has none. -/
def assign (env : Environment) (a : Assignment) : Environment := fun name =>
  match env name with
  | some value => some value
  | none => if name = a.name then some a.value else none

def applyLines (env : Environment) : List (Option (List Char)) → Environment
  | [] => env
  | none :: _ => env
  | some line :: rest =>
      let line := Features.trim line
      if Assignment.isVoid line then applyLines env rest
      else match Assignment.read? env line with
        | some a => applyLines (assign env a) rest
        | none => env

def load (env : Environment) (bytes : List UInt8) : Environment :=
  applyLines env (joinLines .plain [] (rawLines (dropMark bytes)))

/-- The environment that a process is given: names and values with equals signs
between them, each pair ended by a zero byte. -/
def ofBlock (block : List UInt8) : Environment := fun name =>
  (Text.pieces (· = '\x00') ((Text.decode? block).getD "").toList).findSome?
    fun entry =>
      if entry.takeWhile (· ≠ '=') = name.toList ∧ '=' ∈ entry then
        some (.ofList ((entry.dropWhile (· ≠ '=')).drop 1))
      else none

/-- A file does not change the value of a variable that has one. -/
theorem applyLines_of_isSome (env : Environment)
    (lines : List (Option (List Char))) {name value : String}
    (h : env name = some value) : applyLines env lines name = some value := by
  induction lines generalizing env with
  | nil => exact h
  | cons line rest ih =>
      cases line with
      | none => exact h
      | some line =>
          simp only [applyLines]
          split
          · exact ih env h
          · cases Assignment.read? env (Features.trim line) with
            | none => exact h
            | some a => exact ih _ (by simp [assign, h])

end EnvironmentFile

end RuleWatch
