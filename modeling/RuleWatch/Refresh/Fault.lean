import RuleWatch.Fetch.Fault
import RuleWatch.Rule.Compile
import RuleWatch.Store.Fault

/-!
Why a refresh, a restore or the refresh loop ended without success. The text
names the stage.
-/

namespace RuleWatch

inductive RefreshError
  | fetch (cause : FetchError)
  | compile (cause : CompileError)
  | encode (cause : Json.Refusal)
  | decode (cause : Json.Refusal)
  | storeRead (cause : StoreError)
  | storeWrite (cause : StoreError)
  | lastUpdated (cause : StoreError)
  | cancelled

def RefreshError.message : RefreshError → String
  | fetch e => "fetch: " ++ e.message
  | compile e => "convert rules to detectors: " ++ e.message
  | encode e => "encode rules: " ++ e.message
  | decode e => "decode stored rules: " ++ e.message
  | storeRead e => "store get: " ++ e.message
  | storeWrite e => "store set: " ++ e.message
  | lastUpdated e => "get last updated: " ++ e.message
  | cancelled => "refresh loop cancelled"

end RuleWatch
