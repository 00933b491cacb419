import RuleWatch.Refresh.Fault

/-!
Why the program ends without success.
-/

namespace RuleWatch

inductive ProgramError
  | settings (message : String)
  | database (cause : DatabaseError)
  | client (cause : FetchError)
  | metrics (message : String)
  | refresh (cause : RefreshError)
  | file (message : String)

def ProgramError.message : ProgramError → String
  | settings m => "Config error: " ++ m
  | database e => "Database error: " ++ e.message
  | client e => "Rules client error: " ++ e.message
  | metrics m => "Metrics error: Error: " ++ m
  | refresh e => "Refresh error: " ++ e.message
  | file m => "I/O error: " ++ m

end RuleWatch
