import RuleWatch.Net.Address
import RuleWatch.Text.Numeral

/-!
The options of the command line, and what is wrong with arguments that are
refused.
-/

namespace RuleWatch.CommandLine

open Net Text

inductive Name
  | baseUrl
  | databaseUrl
  | refreshInterval
  | statusAddress
  | once
  | scan
  | help
  | version
  deriving DecidableEq, Repr

namespace Name

def all : List Name :=
  [baseUrl, databaseUrl, refreshInterval, statusAddress, once,
    scan, help, version]

/-- The name as it is written behind two dashes. -/
def long : Name → String
  | baseUrl => "base-url"
  | databaseUrl => "database-url"
  | refreshInterval => "refresh-interval"
  | statusAddress => "status-addr"
  | once => "once"
  | scan => "scan"
  | help => "help"
  | version => "version"

/-- The letter as it is written behind one dash. -/
def short? : Name → Option Char
  | help => some 'h'
  | version => some 'V'
  | _ => none

/-- What the value is called, for options that have one. -/
def value? : Name → Option String
  | baseUrl => some "BASE_URL"
  | databaseUrl => some "DATABASE_URL"
  | refreshInterval => some "REFRESH_INTERVAL"
  | statusAddress => some "STATUS_ADDR"
  | scan => some "FILE"
  | once | help | version => none

def purpose : Name → String
  | baseUrl => "Base URL of the remote rules service"
  | databaseUrl => "SQLite database holding the last fetched rules"
  | refreshInterval => "Refresh interval in seconds"
  | statusAddress =>
      "Address of the status server (/health, /metrics, /detectors)"
  | once => "Run a single refresh cycle and exit"
  | scan =>
      "Check a file against the stored detectors and exit (no network access, so " ++
          "RULES_BASE_URL is not required)"
  | help => "Print help"
  | version => "Print version"

/-- The option with its value, as messages show it. -/
def label (n : Name) : String :=
  "--" ++ n.long ++ match n.value? with
    | some value => " <" ++ value ++ ">"
    | none => ""

def ofLong? (s : String) : Option Name := all.find? fun n => n.long = s

def ofShort? (c : Char) : Option Name := all.find? fun n => n.short? = some c

end Name

def programName : String := "detector-cache"

def versionText : String := programName ++ " 0.1.0\n"

def usage : String := "Usage: " ++ programName ++ " [OPTIONS]\n"

def Name.helpText (n : Name) : String :=
  (match n.short? with
    | some c => "  -" ++ c.toString ++ ", "
    | none => "      ") ++ n.label ++ "\n          " ++ n.purpose ++ "\n"

def helpText : String :=
  "Self-refreshing cache of remote detection rules\n\n" ++ usage ++
    "\nOptions:\n" ++
    "".intercalate (Name.all.map Name.helpText)

/-- Why arguments are not carried out. Asking for help or for the version is a
reason too. -/
inductive Refusal
  | help
  | version
  | missingValue (option : Name)
  | repeated (option : Name)
  | conflict (first second : Name)
  | unexpectedArgument (argument : String)
  | unexpectedValue (value : String) (option : Name)
  | invalidValue (value : String) (option : Name) (reason : String)
  deriving DecidableEq, Repr

namespace Refusal

def message : Refusal → String
  | help => helpText
  | version => versionText
  | missingValue n =>
      "error: a value is required for '" ++ n.label ++ "' but none was supplied"
  | repeated n =>
      "error: the argument '" ++ n.label ++ "' cannot be used multiple times"
  | conflict a b =>
      "error: the argument '" ++ a.label ++ "' cannot be used with '" ++
        b.label ++ "'"
  | unexpectedArgument arg => "error: unexpected argument '" ++ arg ++ "' found"
  | unexpectedValue value n =>
      "error: unexpected value '" ++ value ++ "' for '" ++ n.label ++
        "' found; no more were expected"
  | invalidValue value n reason =>
      "error: invalid value '" ++ value ++ "' for '" ++ n.label ++ "': " ++
        reason

/-- Whether the text was asked for. -/
def isAnswer : Refusal → Bool
  | help | version => true
  | _ => false

def report (r : Refusal) : String :=
  if r.isAnswer then r.message
  else r.message ++ "\n\n" ++ usage ++ "\nFor more information, try '--help'.\n"

/-- The first line of a report that complains, and all of one that answers. -/
def summary (r : Refusal) : String :=
  if r.isAnswer then r.message
  else .ofList (r.message.toList.takeWhile (· ≠ '\n'))

end Refusal

structure Options where
  baseUrl : Option String := none
  databaseUrl : Option String := none
  refreshInterval : Option Nat := none
  statusAddress : Option SocketAddress := none
  once : Bool := false
  scan : Option String := none
  deriving DecidableEq, Repr

namespace Options

def put (o : Options) (n : Name) (value : String) : Except Refusal Options :=
  match n with
  | .baseUrl => .ok { o with baseUrl := some value }
  | .databaseUrl => .ok { o with databaseUrl := some value }
  | .refreshInterval =>
      match readWord64 value with
      | .ok seconds => .ok { o with refreshInterval := some seconds }
      | .error f => .error (.invalidValue value n f.message)
  | .statusAddress =>
      match SocketAddress.ofText? value with
      | some a => .ok { o with statusAddress := some a }
      | none => .error (.invalidValue value n "invalid socket address syntax")
  | .scan =>
      if value.isEmpty then .error (.missingValue n)
      else .ok { o with scan := some value }
  | .once => .ok { o with once := true }
  | .help => .error .help
  | .version => .error .version

end Options

end RuleWatch.CommandLine
