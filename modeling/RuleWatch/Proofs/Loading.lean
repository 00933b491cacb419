import RuleWatch.Proofs.Numerals
import RuleWatch.Proofs.Results
import RuleWatch.Settings.Basic

/-!
Where settings come from. Each of them is the value of its option, or what its
variable tells, or its default, in this order, and no duration is zero. Main
statement: settings are loaded just when all that is set can be read and a base
URL is there where one is needed, and then each comes from its place.
-/

namespace RuleWatch.Settings

open Net Text CommandLine

/-- Whether a text is the numeral of a number of seconds, at least one and less
than 2⁶⁴. -/
def IsSeconds (text : String) (n : Nat) : Prop :=
  IsNumeral text.toList n ∧ 1 ≤ n ∧ n < 2 ^ 64

/-- The value of a setting: that of the option if it is given, else what the
variable tells if it is set, else the default. -/
inductive Chosen {α : Type} (option : Option α) (variable_ : Option String)
    (Tells : String → α → Prop) (default : α) : α → Prop
  | option {a : α} (given : option = some a) :
      Chosen option variable_ Tells default a
  | variable_ {text : String} {a : α} (absent : option = none)
      (set : variable_ = some text) (tells : Tells text a) :
      Chosen option variable_ Tells default a
  | default (absent : option = none) (unset : variable_ = none) :
      Chosen option variable_ Tells default default

structure AreFrom (env : Environment) (o : Options) (s : Settings) : Prop where
  baseUrl : Chosen o.baseUrl (env "RULES_BASE_URL") Eq "" s.rulesBaseUrl
  /-- Only a scan goes without a base URL. -/
  needed : o.baseUrl = none → env "RULES_BASE_URL" = none → o.scan.isSome = true
  databaseUrl :
      Chosen o.databaseUrl (env "DATABASE_URL") Eq
        defaultDatabaseUrl s.databaseUrl
  interval : Chosen o.refreshInterval (env "REFRESH_INTERVAL_SECONDS") IsSeconds
    defaultRefreshInterval s.refreshInterval
  address : Chosen o.statusAddress (env "STATUS_ADDR")
    (fun text a => SocketAddress.ofText? text = some a)
    defaultStatusAddress s.statusAddress
  timeout : Chosen none (env "HTTP_TIMEOUT_SECONDS") IsSeconds
    defaultHttpTimeout s.httpTimeout
  features :
      Chosen none (env "FEATURE_TOGGLES")
        (fun text f => f = .ofList text) .none s.features
  positive : 1 ≤ s.refreshInterval ∧ 1 ≤ s.httpTimeout

/-- What settings are loaded from: all that is set can be read, and there is a
base URL where one is needed. -/
structure IsLoadable (env : Environment) (o : Options) : Prop where
  baseUrl : (env "RULES_BASE_URL").isSome ∨ o.baseUrl.isSome ∨ o.scan.isSome
  interval : ∀ text, env "REFRESH_INTERVAL_SECONDS" = some text →
    ∃ n, IsSeconds text n
  timeout : ∀ text, env "HTTP_TIMEOUT_SECONDS" = some text →
    ∃ n, IsSeconds text n
  address : ∀ text, env "STATUS_ADDR" = some text →
    ∃ a, SocketAddress.ofText? text = some a
  option : o.refreshInterval ≠ some 0

/-! ### Choices -/

section

variable {α : Type} {Tells : String → α → Prop} {default a : α}
  {variable_ : Option String}

theorem chosen_of_set {text : String} :
    Chosen none (some text) Tells default a ↔ Tells text a := by
  constructor
  · rintro (⟨⟨⟩⟩ | ⟨-, ⟨⟩, tells⟩ | ⟨-, ⟨⟩⟩)
    exact tells
  · exact .variable_ rfl rfl

theorem chosen_of_unset : Chosen none none Tells default a ↔ a = default := by
  constructor
  · rintro (⟨⟨⟩⟩ | ⟨-, ⟨⟩, -⟩ | -)
    rfl
  · rintro rfl
    exact .default rfl rfl

theorem exists_chosen_iff (default : α) :
    (∃ a, Chosen none variable_ Tells default a) ↔
    ∀ text, variable_ = some text → ∃ a, Tells text a := by
  cases variable_ with
  | none => exact iff_of_true ⟨default, .default rfl rfl⟩ nofun
  | some text => simp [chosen_of_set]

theorem Chosen.positive {default n : Nat}
    (h : Chosen none variable_ IsSeconds default n)
    (positive : 1 ≤ default) : 1 ≤ n := by
  cases variable_ with
  | none => exact chosen_of_unset.1 h ▸ positive
  | some text => exact (chosen_of_set.1 h).2.1

theorem Chosen.under (h : Chosen none variable_ Tells default a)
    (option : Option α) :
    Chosen option variable_ Tells default (option.getD a) := by
  cases given : option with
  | some b => exact .option rfl
  | none => exact h

end

/-! ### Variables -/

section

variable {env : Environment} {name : String} {n default : Nat}

theorem seconds_of_set {text : String} (set : env name = some text) :
    seconds env name default = .ok n ↔ IsSeconds text n := by
  have numeral (n : Nat) := readWord64_eq_ok_iff (s := text) (n := n)
  unfold seconds IsSeconds
  rw [set]
  rcases read : readWord64 text with f | _ | m <;> simp only [read] <;>
    rw [read] at numeral
  · exact iff_of_false nofun fun h => nomatch (numeral n).2 ⟨h.1, h.2.2⟩
  · refine iff_of_false nofun fun h => ?_
    cases (numeral n).2 ⟨h.1, h.2.2⟩
    exact absurd h.2.1 (by decide)
  · constructor
    · rintro ⟨⟩
      obtain ⟨numeral, lt⟩ := (numeral (m + 1)).1 rfl
      exact ⟨numeral, Nat.le_add_left 1 m, lt⟩
    · rintro ⟨h, -, lt⟩
      rw [Except.ok.inj ((numeral n).2 ⟨h, lt⟩)]

theorem seconds_eq_ok_iff :
    seconds env name default = .ok n ↔
      Chosen none (env name) IsSeconds default n := by
  cases set : env name with
  | some text => rw [seconds_of_set set, chosen_of_set]
  | none =>
      rw [chosen_of_unset, seconds, set]
      exact ⟨fun h => (Except.ok.inj h).symm, fun h =>
        congrArg Except.ok h.symm⟩

theorem baseUrl_eq_ok_iff {isOptional : Bool} {url : String} :
    baseUrl env isOptional = .ok url ↔
    Chosen none (env "RULES_BASE_URL") Eq "" url ∧
      (env "RULES_BASE_URL" = none → isOptional = true) := by
  cases set : env "RULES_BASE_URL" with
  | some text =>
      rw [chosen_of_set, baseUrl, set]
      simp
  | none =>
      rw [chosen_of_unset, baseUrl, set]
      cases isOptional <;> simp [eq_comm]

theorem statusAddressOf_eq_ok_iff {a : SocketAddress} :
    statusAddressOf env = .ok a ↔
    Chosen none (env "STATUS_ADDR")
      (fun text a => SocketAddress.ofText? text = some a)
      defaultStatusAddress a := by
  cases set : env "STATUS_ADDR" with
  | some text =>
      rw [chosen_of_set, statusAddressOf, set]
      cases read : SocketAddress.ofText? text <;> simp [read]
  | none =>
      rw [chosen_of_unset, statusAddressOf, set]
      simp [eq_comm]

theorem override_eq_ok_iff {s s' : Settings} {o : Options} :
    s.override o = .ok s' ↔ o.refreshInterval ≠ some 0 ∧ { s with
      rulesBaseUrl := o.baseUrl.getD s.rulesBaseUrl
      databaseUrl := o.databaseUrl.getD s.databaseUrl
      refreshInterval := o.refreshInterval.getD s.refreshInterval
      statusAddress := o.statusAddress.getD s.statusAddress } = s' := by
  rw [override]
  split
  · next zero => exact iff_of_false nofun fun h => h.1 zero
  · next positive => rw [Except.ok.injEq, and_iff_right positive]

end

/-! ### Settings -/

section

variable {env : Environment} {o : Options} {s : Settings}

/-- All that is read from the environment on the way to settings. -/
theorem load_eq_ok_iff : load env o = .ok s ↔ ∃ url interval timeout address,
    (Chosen none (env "RULES_BASE_URL") Eq "" url ∧
      (env "RULES_BASE_URL" = none →
        (o.baseUrl.isSome || o.scan.isSome) = true)) ∧
    Chosen none (env "REFRESH_INTERVAL_SECONDS") IsSeconds
      defaultRefreshInterval interval ∧
    Chosen none (env "HTTP_TIMEOUT_SECONDS") IsSeconds
      defaultHttpTimeout timeout ∧
    Chosen none (env "STATUS_ADDR")
      (fun text a => SocketAddress.ofText? text = some a)
      defaultStatusAddress address ∧
    o.refreshInterval ≠ some 0 ∧ {
      rulesBaseUrl := o.baseUrl.getD url
      databaseUrl :=
        o.databaseUrl.getD ((env "DATABASE_URL").getD defaultDatabaseUrl)
      refreshInterval := o.refreshInterval.getD interval
      httpTimeout := timeout
      features := .ofList ((env "FEATURE_TOGGLES").getD "")
      statusAddress := o.statusAddress.getD address } = s := by
  simp only [load, ofEnvironment, bind_assoc, pure_bind, bind_eq_ok_iff,
    baseUrl_eq_ok_iff, seconds_eq_ok_iff, statusAddressOf_eq_ok_iff,
    override_eq_ok_iff, exists_and_left]

theorem areFrom_of_load (h : load env o = .ok s) : s.AreFrom env o := by
  obtain ⟨url, interval, timeout, address, ⟨urlFrom, needed⟩, intervalFrom,
      timeoutFrom, addressFrom,
    positive, rfl⟩ := load_eq_ok_iff.1 h
  have database : Chosen none (env "DATABASE_URL") Eq defaultDatabaseUrl
      ((env "DATABASE_URL").getD defaultDatabaseUrl) := by
    cases env "DATABASE_URL" with
    | none => exact .default rfl rfl
    | some text => exact .variable_ rfl rfl rfl
  refine ⟨urlFrom.under _, fun absent unset => ?_, database.under _,
    intervalFrom.under _, addressFrom.under _, timeoutFrom, ?_, ?_, ?_⟩
  · have := needed unset
    rwa [absent, Option.isSome_none, Bool.false_or] at this
  · cases env "FEATURE_TOGGLES" with
    | none => exact .default rfl rfl
    | some text => exact .variable_ rfl rfl rfl
  · cases given : o.refreshInterval with
    | none => exact intervalFrom.positive (by decide)
    | some n => exact Nat.pos_of_ne_zero fun zero => positive (zero ▸ given)
  · exact timeoutFrom.positive (by decide)

/-- Settings are loaded just when all that is set can be read. -/
theorem exists_load_iff : (∃ s, load env o = .ok s) ↔ IsLoadable env o := by
  simp only [load_eq_ok_iff]
  constructor
  · rintro ⟨s, url, interval, timeout, address, ⟨-, needed⟩, intervalFrom,
      timeoutFrom, addressFrom, positive, -⟩
    refine ⟨?_, (exists_chosen_iff _).1 ⟨_, intervalFrom⟩,
      (exists_chosen_iff _).1 ⟨_, timeoutFrom⟩,
      (exists_chosen_iff _).1 ⟨_, addressFrom⟩, positive⟩
    cases set : env "RULES_BASE_URL" with
    | some text => exact .inl rfl
    | none => exact .inr (by simpa using needed set)
  · rintro ⟨base, interval, timeout, address, positive⟩
    obtain ⟨n, intervalFrom⟩ :=
      (exists_chosen_iff defaultRefreshInterval).2 interval
    obtain ⟨m, timeoutFrom⟩ := (exists_chosen_iff defaultHttpTimeout).2 timeout
    obtain ⟨a, addressFrom⟩ :=
      (exists_chosen_iff defaultStatusAddress).2 address
    obtain ⟨url, urlFrom⟩ :
        ∃ url, Chosen none (env "RULES_BASE_URL") Eq "" url :=
      (exists_chosen_iff "").2 fun text _ => ⟨text, rfl⟩
    refine ⟨_, url, n, m, a, ⟨urlFrom, fun unset => ?_⟩, intervalFrom,
      timeoutFrom, addressFrom, positive, rfl⟩
    rw [Bool.or_eq_true]
    exact base.resolve_left (by simp [unset])

/-- Settings come from their places, option before variable before default, with
no duration of zero, and are loaded just when all that is set can be read and a
base URL is there unless a scan is asked for. A variable that holds seconds is
read as the number whose numeral it is, at least one and less than 2⁶⁴, and
nothing else is taken. -/
theorem settings_come_from_their_places (env : Environment) (o : Options) :
    (∀ s, load env o = .ok s → s.AreFrom env o) ∧
      ((∃ s, load env o = .ok s) ↔ IsLoadable env o) ∧
      ∀ name text default n, env name = some text →
        (seconds env name default = .ok n ↔ IsSeconds text n) :=
  ⟨fun _ => areFrom_of_load, exists_load_iff, fun _ _ _ _ => seconds_of_set⟩

end

/-- A scan without a base URL, with the longest interval there is and a variable
that an option stands in for. -/
theorem longest_interval_is_loaded :
    let env : Environment := fun name => List.lookup name
      [("REFRESH_INTERVAL_SECONDS", "+018446744073709551615"),
        ("DATABASE_URL", "sqlite://a")]
    let o : Options := { databaseUrl := some "sqlite://b", scan := some "f" }
    let s : Settings := {
      rulesBaseUrl := ""
      databaseUrl := "sqlite://b"
      refreshInterval := 18446744073709551615
      httpTimeout := 10
      features := .none
      statusAddress := .v4 ⟨[127, 0, 0, 1]⟩ 9464 }
    load env o = .ok s ∧ s.AreFrom env o ∧ IsLoadable env o ∧
      env "REFRESH_INTERVAL_SECONDS" = some "+018446744073709551615" ∧
      IsSeconds "+018446744073709551615" 18446744073709551615 := by
  intro env o s
  have loaded : load env o = .ok s := rfl
  obtain ⟨places, loads, numerals⟩ := settings_come_from_their_places env o
  have read : seconds env "REFRESH_INTERVAL_SECONDS" 1 =
      .ok 18446744073709551615 := rfl
  exact ⟨loaded, places s loaded, loads.1 ⟨s, loaded⟩, rfl,
    (numerals _ _ _ _ rfl).1 read⟩

end RuleWatch.Settings
