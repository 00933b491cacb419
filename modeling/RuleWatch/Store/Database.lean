import RuleWatch.Store.Table

/-!
A store in a database. The time of the last update is kept as a timestamp beside
the rules. Reading and each step of a write can fail for reasons that the
database does not show, such as a full disk.
-/

namespace RuleWatch

/-- Stops every write of a key. -/
structure Trigger where
  name : String
  key : String
  message : String
  deriving DecidableEq, Repr

structure Database where
  isClosed : Bool := false
  /-- Nothing once the table is dropped. -/
  table : Option Table := some []
  triggers : List Trigger := []
  /-- Why nothing can be read now. -/
  readFault : Option DatabaseError := none
  /-- The steps of a write that fail now. -/
  stepFaults : List (Table.Step × DatabaseError) := []
  deriving Repr

namespace Database

def tableName : String := "kv_store"

def reach (db : Database) : Except DatabaseError Table :=
  if db.isClosed then .error .poolClosed
  else match db.readFault, db.table with
    | some e, _ => .error e
    | none, some t => .ok t
    | none, none => .error (.engine (.noTable tableName))

/-- What stops the write of a key. -/
def stop? (db : Database) (key : String) : Option DatabaseError :=
  (db.triggers.find? (·.key = key)).map fun t => .engine (.stopped t.message)

/-- What the database itself has against a step of a write. -/
def refusalAt (db : Database) : Table.Step → Option DatabaseError
  | .start => if db.isClosed then some .poolClosed else none
  | .rules =>
      if db.table.isNone then some (.engine (.noTable tableName))
      else db.stop? Place.rules.key
  | .stamp => db.stop? Place.lastUpdated.key
  | .finish => none

/-- What goes wrong at a step of a write. -/
def faultAt (db : Database) (step : Table.Step) : Option DatabaseError :=
  db.refusalAt step <|> List.lookup step db.stepFaults

def get (db : Database) : Except StoreError (Option String) :=
  (db.reach.bind (·.text? .rules)).mapError .database

def set (db : Database) (value : String) (now : Instant) :
    Except StoreError Database :=
  match (db.table.getD []).write db.faultAt value (Timestamp.text now) with
  | .ok t => .ok { db with table := some t }
  | .error e => .error (.database e)

/-- The time of the last update, the start of 1970 if there was none. -/
def lastUpdated (db : Database) : Except StoreError Instant :=
  match db.reach.bind (·.text? .lastUpdated) with
  | .error e => .error (.database e)
  | .ok none => .ok .epoch
  | .ok (some s) => (Timestamp.read s).mapError (.timestamp s)

end Database

end RuleWatch
