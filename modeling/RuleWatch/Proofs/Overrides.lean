import RuleWatch.Settings.Basic

/-!
Options in place of variables. A variable whose option is given takes no part in
the settings, but its value is still read, and one that cannot be read is
refused. Main statement: two environments that differ only in such variables
lead to the same settings or to the same complaint, unless one of them is
refused for the value of such a variable.
-/

namespace RuleWatch

open Net Text CommandLine

def CommandLine.Options.overrides (o : Options) : String → Bool
  | "RULES_BASE_URL" => o.baseUrl.isSome
  | "DATABASE_URL" => o.databaseUrl.isSome
  | "REFRESH_INTERVAL_SECONDS" => o.refreshInterval.isSome
  | "STATUS_ADDR" => o.statusAddress.isSome
  | _ => false

namespace Settings

/-! ### Results of two readings -/

/-- Whether two readings come to values that belong together or to the same
error, unless the first one comes to an error of its own. -/
inductive Meets {ε α : Type} (own : ε → Prop) (same : α → α → Prop) :
    Except ε α → Except ε α → Prop
  | values {a b : α} (h : same a b) : Meets own same (.ok a) (.ok b)
  | errors (e : ε) : Meets own same (.error e) (.error e)
  | refused {e : ε} (h : own e) (y : Except ε α) : Meets own same (.error e) y

section

variable {ε α β : Type} {own : ε → Prop} {same : α → α → Prop}
  {x y : Except ε α}

theorem Meets.refl (h : ∀ a, same a a) (x : Except ε α) :
    Meets own same x x := by
  cases x with
  | ok a => exact .values (h a)
  | error e => exact .errors e

theorem Meets.of_eq (h : x = y) : Meets own Eq x y := h ▸ .refl Eq.refl x

theorem Meets.bind {f g : α → Except ε β} {also : β → β → Prop}
    (h : Meets own same x y)
    (hf : ∀ a b, same a b → Meets own also (f a) (g b)) :
    Meets own also (x >>= f) (y >>= g) := by
  cases h with
  | values h => exact hf _ _ h
  | errors e => exact .errors e
  | refused h y => exact .refused h _

theorem Meets.eq_or_refused (h : Meets own Eq x y) :
    x = y ∨ ∃ e, own e ∧ x = .error e := by
  cases h with
  | values h => exact .inl (congrArg _ h)
  | errors e => exact .inl rfl
  | refused h y => exact .inr ⟨_, h, rfl⟩

end

/-! ### Variables whose option is given -/

/-- What is wrong with the value of a variable whose option is given. -/
inductive Complaint (env : Environment) (o : Options) : SettingsError → Prop
  | interval {text : String} {fault : NumeralFault}
      (given : o.refreshInterval.isSome)
      (set : env "REFRESH_INTERVAL_SECONDS" = some text)
      (bad : readWord64 text = .error fault) :
      Complaint env o (.noNumber "REFRESH_INTERVAL_SECONDS")
  | zero {text : String} (given : o.refreshInterval.isSome)
      (set : env "REFRESH_INTERVAL_SECONDS" = some text)
      (bad : readWord64 text = .ok 0) :
      Complaint env o (.zero "REFRESH_INTERVAL_SECONDS")
  | address {text : String} (given : o.statusAddress.isSome)
      (set : env "STATUS_ADDR" = some text)
      (bad : SocketAddress.ofText? text = none) :
      Complaint env o .noSocketAddress

def cleared (env : Environment) (o : Options) : Environment :=
  fun name => if o.overrides name then none else env name

/-- Whether two values come to the same under an option. -/
def SameUnder {α : Type} (option : Option α) (a b : α) : Prop :=
  option.getD a = option.getD b

section

variable {env env' : Environment} {o : Options}

theorem SameUnder.refl {α : Type} (option : Option α) (a : α) :
    SameUnder option a a := rfl

theorem sameUnder_of_isSome {α : Type} {option : Option α}
    (h : option.isSome) (a b : α) :
    SameUnder option a b := by
  obtain ⟨value, rfl⟩ := Option.isSome_iff_exists.1 h
  rfl

theorem meets_baseUrl (env : Environment) (o : Options) :
    Meets (Complaint env o) (SameUnder o.baseUrl)
      (baseUrl env (o.baseUrl.isSome || o.scan.isSome))
      (baseUrl (cleared env o) (o.baseUrl.isSome || o.scan.isSome)) := by
  have here : cleared env o "RULES_BASE_URL" =
      if o.baseUrl.isSome then none else env "RULES_BASE_URL" := rfl
  rw [baseUrl, baseUrl, here]
  cases given : o.baseUrl.isSome with
  | true =>
      cases env "RULES_BASE_URL" <;>
        exact .values (sameUnder_of_isSome given _ _)
  | false => exact .refl (.refl _) _

theorem meets_interval (env : Environment) (o : Options) :
    Meets (Complaint env o) (SameUnder o.refreshInterval)
      (seconds env "REFRESH_INTERVAL_SECONDS" defaultRefreshInterval)
      (seconds (cleared env o) "REFRESH_INTERVAL_SECONDS"
        defaultRefreshInterval) := by
  have here : cleared env o "REFRESH_INTERVAL_SECONDS" =
      if o.refreshInterval.isSome then none
      else env "REFRESH_INTERVAL_SECONDS" := rfl
  rw [seconds, seconds, here]
  cases given : o.refreshInterval.isSome with
  | false => exact .refl (.refl _) _
  | true =>
      cases set : env "REFRESH_INTERVAL_SECONDS" with
      | none => exact .refl (.refl _) _
      | some text =>
          rcases read : readWord64 text with fault | _ | n <;>
            simp only [read, if_true]
          · exact .refused (.interval given set read) _
          · exact .refused (.zero given set read) _
          · exact .values (sameUnder_of_isSome given _ _)

theorem meets_statusAddress (env : Environment) (o : Options) :
    Meets (Complaint env o) (SameUnder o.statusAddress) (statusAddressOf env)
      (statusAddressOf (cleared env o)) := by
  have here : cleared env o "STATUS_ADDR" =
      if o.statusAddress.isSome then none else env "STATUS_ADDR" := rfl
  rw [statusAddressOf, statusAddressOf, here]
  cases given : o.statusAddress.isSome with
  | false => exact .refl (.refl _) _
  | true =>
      cases set : env "STATUS_ADDR" with
      | none => exact .refl (.refl _) _
      | some text =>
          cases read : SocketAddress.ofText? text <;> simp only [read, if_true]
          · exact .refused (.address given set read) _
          · exact .values (sameUnder_of_isSome given _ _)

/-- Settings that differ only where an option is given come to the same. -/
theorem override_congr {s s' : Settings}
    (baseUrl : SameUnder o.baseUrl s.rulesBaseUrl s'.rulesBaseUrl)
    (databaseUrl : SameUnder o.databaseUrl s.databaseUrl s'.databaseUrl)
    (interval : SameUnder o.refreshInterval s.refreshInterval
      s'.refreshInterval) (timeout : s.httpTimeout = s'.httpTimeout)
      (features : s.features = s'.features)
    (address : SameUnder o.statusAddress s.statusAddress s'.statusAddress) :
    s.override o = s'.override o := by
  unfold SameUnder at baseUrl databaseUrl interval address
  simp only [override, baseUrl, databaseUrl, interval, timeout,
    features, address]

/-- What is read from an environment is what is read without the variables whose
option is given, unless the value of one of them is refused. -/
theorem meets_load (env : Environment) (o : Options) :
    Meets (Complaint env o) Eq (load env o) (load (cleared env o) o) := by
  have database :
      SameUnder o.databaseUrl ((env "DATABASE_URL").getD defaultDatabaseUrl)
      ((cleared env o "DATABASE_URL").getD defaultDatabaseUrl) := by
    have here : cleared env o "DATABASE_URL" =
        if o.databaseUrl.isSome then none else env "DATABASE_URL" := rfl
    rw [here]
    cases given : o.databaseUrl.isSome with
    | true => exact sameUnder_of_isSome given _ _
    | false => exact .refl _ _
  have timeout : Meets (Complaint env o) Eq
      (seconds env "HTTP_TIMEOUT_SECONDS" defaultHttpTimeout)
      (seconds (cleared env o) "HTTP_TIMEOUT_SECONDS" defaultHttpTimeout) :=
    .refl Eq.refl _
  -- One reading after the other, in the order of `ofEnvironment`; a refusal
  -- ends both sides.
  simp only [load, ofEnvironment, bind_assoc, pure_bind]
  refine (meets_baseUrl env o).bind fun _ _ sameUrl => ?_
  refine (meets_interval env o).bind fun _ _ sameInterval => ?_
  refine timeout.bind fun _ _ sameTimeout => ?_
  refine (meets_statusAddress env o).bind fun _ _ sameAddress => ?_
  exact .of_eq (override_congr sameUrl database sameInterval
    sameTimeout rfl sameAddress)

theorem cleared_congr (differ : ∀ name, env name ≠ env' name →
    o.overrides name = true) :
    cleared env o = cleared env' o := by
  funext name
  unfold cleared
  split
  · rfl
  · rename_i given
    exact Decidable.of_not_not fun other => given (differ name other)

/-- A value that is refused ends the reading, whether its option is given or
not. -/
theorem load_of_complaint {e : SettingsError} (h : Complaint env o e) :
    ∃ e', load env o = .error e' := by
  simp only [load, ofEnvironment, bind_assoc, pure_bind]
  cases url : baseUrl env (o.baseUrl.isSome || o.scan.isSome) with
  | error e' => exact ⟨e', rfl⟩
  | ok _ =>
      cases interval : seconds env "REFRESH_INTERVAL_SECONDS"
        defaultRefreshInterval with
      | error e' => exact ⟨e', rfl⟩
      | ok _ =>
          cases h with
          | interval given set bad => simp [seconds, set, bad] at interval
          | zero given set bad => simp [seconds, set, bad] at interval
          | address given set bad =>
              cases seconds env "HTTP_TIMEOUT_SECONDS" defaultHttpTimeout with
              | error e' => exact ⟨e', rfl⟩
              | ok _ =>
                  refine ⟨.noSocketAddress, ?_⟩
                  rw [statusAddressOf, set]
                  simp only [bad]
                  rfl

/-- Options override the environment: where two environments differ only in
variables whose option is given, they lead to the same, be it settings or an
error. The one exception is a refused value: such a variable is still read where
it holds an interval or an address, and one that cannot be read leads to an
error. -/
theorem options_override_environment
    (differ : ∀ name, env name ≠ env' name → o.overrides name = true) :
    ((∀ e, ¬ Complaint env o e) → (∀ e, ¬ Complaint env' o e) →
      load env o = load env' o) ∧
      (∀ s s', load env o = .ok s → load env' o = .ok s' → s = s') ∧
      (load env o ≠ load env' o →
        (∃ e, Complaint env o e ∧ load env o = .error e) ∨
          ∃ e, Complaint env' o e ∧ load env' o = .error e) ∧
      ∀ e, Complaint env o e → ∃ e', load env o = .error e' := by
  have same := cleared_congr differ
  have here := (meets_load env o).eq_or_refused
  have there := (meets_load env' o).eq_or_refused
  rw [← same] at there
  have cases : load env o = load env' o ∨
      (∃ e, Complaint env o e ∧ load env o = .error e) ∨
      ∃ e, Complaint env' o e ∧ load env' o = .error e := by
    rcases here with eq | refused
    · rcases there with eq' | refused
      · exact .inl (eq.trans eq'.symm)
      · exact .inr (.inr refused)
    · exact .inr (.inl refused)
  refine ⟨fun sound sound' => ?_, fun s s' loaded loaded' => ?_,
    cases.resolve_left, fun e => load_of_complaint⟩
  · rcases cases with eq | ⟨e, complaint, -⟩ | ⟨e, complaint, -⟩
    · exact eq
    · exact absurd complaint (sound e)
    · exact absurd complaint (sound' e)
  · rcases cases with eq | ⟨e, -, refused⟩ | ⟨e, -, refused⟩
    · rw [loaded, loaded', Except.ok.injEq] at eq
      exact eq
    · rw [loaded] at refused
      cases refused
    · rw [loaded'] at refused
      cases refused

end

/-! ### Two environments -/

def allGiven : Options where
  baseUrl := some "http://h"
  databaseUrl := some "sqlite://d"
  refreshInterval := some 60
  statusAddress := some (.v4 ⟨[1, 2, 3, 4]⟩ 5)

def holding (interval : String) : Environment := fun name =>
  List.lookup name [("REFRESH_INTERVAL_SECONDS", interval),
    ("STATUS_ADDR", "[::1]:80"), ("RULES_BASE_URL", "no URL")]

theorem holding_differs (interval : String) (name : String)
    (other : holding interval name ≠ none) :
    allGiven.overrides name = true := by
  obtain ⟨value, held⟩ := Option.ne_none_iff_exists'.1 other
  obtain ⟨before, behind, parts, -⟩ := List.lookup_eq_some_iff.1 held
  have mem : (name, value) ∈ before ++ (name, value) :: behind := by simp
  rw [← parts] at mem
  simp only [List.mem_cons, Prod.mk.injEq, List.not_mem_nil, or_false] at mem
  obtain ⟨rfl, -⟩ | ⟨rfl, -⟩ | ⟨rfl, -⟩ := mem
  all_goals rfl

theorem readable_values_are_overridden :
    (∀ name, holding "+07" name ≠ none → allGiven.overrides name = true) ∧
      load (holding "+07") allGiven = load (fun _ => none) allGiven ∧
      load (fun _ => none) allGiven = .ok {
        rulesBaseUrl := "http://h"
        databaseUrl := "sqlite://d"
        refreshInterval := 60
        httpTimeout := 10
        features := ⟨[]⟩
        statusAddress := .v4 ⟨[1, 2, 3, 4]⟩ 5 } := by
  have differ := holding_differs "+07"
  refine ⟨differ, (options_override_environment differ).1 ?_ ?_, rfl⟩
  · rintro e (⟨given, set, bad⟩ | ⟨given, set, bad⟩ | ⟨given, set, bad⟩) <;>
      cases set <;> cases bad
  · rintro e (⟨given, set, bad⟩ | ⟨given, set, bad⟩ | ⟨given, set, bad⟩) <;>
      cases set

theorem unreadable_interval_is_refused :
    (∀ name, holding "soon" name ≠ none → allGiven.overrides name = true) ∧
      load (holding "soon") allGiven =
        .error (.noNumber "REFRESH_INTERVAL_SECONDS") ∧
      ∃ s, load (fun _ => none) allGiven = .ok s :=
  ⟨holding_differs "soon", rfl, _, rfl⟩

end Settings

end RuleWatch
