import RuleWatch.CommandLine.Arguments
import RuleWatch.Settings.Features

/-!
The settings of a run. They are taken from environment variables, and options of
the command line override them. The variables are checked even where an option
overrides them.
-/

namespace RuleWatch

open Net Text CommandLine

structure Settings where
  rulesBaseUrl : String
  databaseUrl : String
  refreshInterval : Nat
  httpTimeout : Nat
  features : Features
  statusAddress : SocketAddress
  deriving Repr

inductive SettingsError
  | missingBaseUrl
  | noNumber (variable_ : String)
  | zero (name : String)
  | noSocketAddress
  deriving DecidableEq, Repr

namespace SettingsError

def message : SettingsError → String
  | missingBaseUrl => "RULES_BASE_URL is required"
  | noNumber v => v ++ " must be a valid number"
  | zero name => name ++ " must be greater than zero"
  | noSocketAddress =>
      "STATUS_ADDR must be a socket address like 127.0.0.1:9464"

end SettingsError

abbrev Environment := String → Option String

namespace Settings

def defaultDatabaseUrl : String := "sqlite://detectors.db"

def defaultRefreshInterval : Nat := 3600

def defaultHttpTimeout : Nat := 10

def defaultStatusAddress : SocketAddress := .v4 ⟨[127, 0, 0, 1]⟩ 9464

def seconds (env : Environment) (name : String) (default : Nat) :
    Except SettingsError Nat :=
  match env name with
  | none => .ok default
  | some text =>
      match readWord64 text with
      | .error _ => .error (.noNumber name)
      | .ok 0 => .error (.zero name)
      | .ok n => .ok n

def baseUrl (env : Environment) (isOptional : Bool) :
    Except SettingsError String :=
  match env "RULES_BASE_URL" with
  | some url => .ok url
  | none => if isOptional then .ok "" else .error .missingBaseUrl

def statusAddressOf (env : Environment) : Except SettingsError SocketAddress :=
  match env "STATUS_ADDR" with
  | none => .ok defaultStatusAddress
  | some text =>
      match SocketAddress.ofText? text with
      | some a => .ok a
      | none => .error .noSocketAddress

def ofEnvironment (env : Environment) (baseUrlIsOptional : Bool) :
    Except SettingsError Settings := do
  let rulesBaseUrl ← baseUrl env baseUrlIsOptional
  let refreshInterval ← seconds env "REFRESH_INTERVAL_SECONDS"
    defaultRefreshInterval
  let httpTimeout ← seconds env "HTTP_TIMEOUT_SECONDS" defaultHttpTimeout
  let statusAddress ← statusAddressOf env
  return {
    rulesBaseUrl, refreshInterval, httpTimeout, statusAddress
    databaseUrl := (env "DATABASE_URL").getD defaultDatabaseUrl
    features := .ofList ((env "FEATURE_TOGGLES").getD "") }

/-- Puts the options that are given in place of the settings. -/
def override (s : Settings) (o : Options) : Except SettingsError Settings :=
  if o.refreshInterval = some 0 then .error (.zero "--refresh-interval")
  else .ok { s with
    rulesBaseUrl := o.baseUrl.getD s.rulesBaseUrl
    databaseUrl := o.databaseUrl.getD s.databaseUrl
    refreshInterval := o.refreshInterval.getD s.refreshInterval
    statusAddress := o.statusAddress.getD s.statusAddress }

/-- The settings of a run. A scan fetches nothing, so it needs no base URL. -/
def load (env : Environment) (o : Options) : Except SettingsError Settings := do
  (← ofEnvironment env (o.baseUrl.isSome || o.scan.isSome)).override o

end Settings

end RuleWatch
