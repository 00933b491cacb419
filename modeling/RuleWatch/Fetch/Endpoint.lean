import RuleWatch.Net.UrlReader

/-!
Where the rules are: at a fixed path below the place that the settings name.
Whatever path that place has is kept.
-/

namespace RuleWatch

def rulesPath : String := "api/plugins/angular_patterns"

def rulesUrl (base : String) : Except Net.UrlError Net.Url := do
  (← Net.Url.parse base).asFolder.join rulesPath

end RuleWatch
