import RuleWatch.Text.Quoted
import RuleWatch.Time.Timestamp

/-!
Why a store failed: its database refused, a stored timestamp is none, or the
store is switched off.
-/

namespace RuleWatch

open Text.Quoted

inductive LocationFault
  | unknownParameter (name : String)
  | unknownValue (value name : String)
  deriving DecidableEq, Repr

def LocationFault.message : LocationFault → String
  | unknownParameter name =>
      "unknown query parameter `" ++ name ++ "` while parsing connection URL"
  | unknownValue value name =>
      "unknown value " ++ quote value ++ " for `" ++ name ++ "`"

/-- What the database engine complains about. -/
inductive EngineFault
  | noTable (name : String)
  | noFileSystem (name : String)
  | readOnly
  | cannotOpen
  | notDatabase
  /-- A trigger has stopped the statement. -/
  | stopped (message : String)
  deriving DecidableEq, Repr

namespace EngineFault

def code : EngineFault → Nat
  | noTable _ | noFileSystem _ => 1
  | readOnly => 8
  | cannotOpen => 14
  | notDatabase => 26
  | stopped _ => 1811

def text : EngineFault → String
  | noTable name => "no such table: " ++ name
  | noFileSystem name => "no such vfs: " ++ name
  | readOnly => "attempt to write a readonly database"
  | cannotOpen => "unable to open database file"
  | notDatabase => "file is not a database"
  | stopped message => message

def message (e : EngineFault) : String :=
  "error returned from database: (code: " ++ toString e.code ++ ") " ++ e.text

end EngineFault

inductive DatabaseError
  | rowNotFound
  | poolTimedOut
  | poolClosed
  | columnNotFound (name : String)
  | protocol (text : String)
  | location (cause : LocationFault)
  | engine (cause : EngineFault)
  /-- The schema cannot be brought up to date. -/
  | migration (cause : EngineFault)
  /-- A column holds bytes where a text is read. -/
  | notText (column : String)
  deriving DecidableEq, Repr

def DatabaseError.message : DatabaseError → String
  | rowNotFound =>
      "no rows returned by a query that expected to return at least one row"
  | poolTimedOut => "pool timed out while waiting for an open connection"
  | poolClosed => "attempted to acquire a connection on a closed pool"
  | columnNotFound name => "no column found for name: " ++ name
  | protocol text => "encountered unexpected or invalid data: " ++ text
  | location cause => "error with configuration: " ++ cause.message
  | engine cause => cause.message
  | migration cause => "while executing migrations: " ++ cause.message
  | notText column => "error occurred while decoding column " ++ quote column ++
      ": mismatched types; Rust type `alloc::string::String` (as SQL type `TEXT`) " ++
      "is not compatible with SQL type `BLOB`"

inductive StoreError
  | database (cause : DatabaseError)
  /-- The stored time of the last update cannot be read. -/
  | timestamp (value : String) (cause : TimestampFault)
  | unavailable (message : String)
  deriving DecidableEq, Repr

def StoreError.message : StoreError → String
  | database e => "database: " ++ e.message
  | timestamp value cause =>
      "invalid last updated timestamp " ++ quote value ++ ": " ++ cause.message
  | unavailable message => message

end RuleWatch
