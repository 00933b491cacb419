import RuleWatch.Store.Database

/-!
Statements that change a database from outside: dropping the table, deleting the
entries of a key, and adding or dropping a trigger that stops the writes of a
key.
-/

namespace RuleWatch

inductive Statement
  | dropTable
  | delete (key : String)
  | createTrigger (t : Trigger)
  | dropTrigger (name : String)
  deriving DecidableEq, Repr

namespace Statement

/-- A word in capitals, a text in quotes, or a mark. -/
inductive Token
  | word (s : String)
  | text (s : String)
  | mark (c : Char)
  deriving DecidableEq, Repr

def isWordChar (c : Char) : Bool := c.isAlphanum || c = '_'

/-- What a reader is inside of, with the characters read so far, last first. -/
inductive Within
  | nothing
  | word (read : List Char)
  | text (read : List Char)

/-- The tokens of a statement, read with what is begun. -/
def tokens (within : Within) : List Char → List Token
  | [] =>
      match within with
      | .word read => [.word (.ofList read.reverse)]
      | _ => []
  | c :: cs =>
      match within with
      | .text read =>
          if c = '\'' then .text (.ofList read.reverse) :: tokens .nothing cs
          else tokens (.text (c :: read)) cs
      | .word read =>
          if isWordChar c then tokens (.word (c.toUpper :: read)) cs
          else .word (.ofList read.reverse) :: start c cs
      | .nothing => start c cs
where
  start (c : Char) (cs : List Char) : List Token :=
    if c = '\'' then tokens (.text []) cs
    else if isWordChar c then tokens (.word [c.toUpper]) cs
    else if c.isWhitespace then tokens .nothing cs
    else .mark c :: tokens .nothing cs

def ofText? (s : String) : Option Statement :=
  match tokens .nothing s.toList with
  | [.word "DROP", .word "TABLE", .word _] => some dropTable
  | [.word "DROP", .word "TRIGGER", .word name] => some (dropTrigger name)
  | [.word "DELETE", .word "FROM", .word _, .word "WHERE", .word "KEY",
        .mark '=', .text key] =>
      some (delete key)
  | [.word "CREATE", .word "TRIGGER", .word name, .word "BEFORE",
        .word "INSERT", .word "ON", .word _, .word "WHEN", .word "NEW",
        .mark '.', .word "KEY", .mark '=', .text key, .word "BEGIN",
        .word "SELECT", .word "RAISE", .mark '(', .word "ABORT", .mark ',',
        .text message, .mark ')', .mark ';', .word "END"] =>
      some (createTrigger ⟨name, key, message⟩)
  | _ => none

def run (db : Database) : Statement → Database
  | dropTable => { db with table := none, triggers := [] }
  | delete key => { db with table := db.table.map (·.filter (·.1.key ≠ key)) }
  | createTrigger t => { db with triggers := t :: db.triggers }
  | dropTrigger name =>
      { db with triggers := db.triggers.filter (·.name ≠ name) }

end Statement

end RuleWatch
