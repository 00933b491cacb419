import Mathlib.Data.List.Nodup
import RuleWatch.CommandLine.Arguments
import RuleWatch.Proofs.Numerals
import RuleWatch.Proofs.Prefixes
import RuleWatch.Proofs.Results
import RuleWatch.Proofs.SocketAddresses

/-!
Options as they are written on the command line. An option has its value behind
an equals sign or in the argument behind it, and options come in any order.
However they are written, all of them are accepted one after another, and what
is left is what they set.
-/

namespace RuleWatch.CommandLine

open Net Text

/-! ### Settings -/

inductive Setting
  | baseUrl (url : String)
  | databaseUrl (url : String)
  | refreshInterval (seconds : Nat)
  | statusAddress (address : SocketAddress)
  | once
  | scan (path : String)
  deriving DecidableEq, Repr

namespace Setting

def name : Setting → Name
  | baseUrl _ => .baseUrl
  | databaseUrl _ => .databaseUrl
  | refreshInterval _ => .refreshInterval
  | statusAddress _ => .statusAddress
  | once => .once
  | scan _ => .scan

/-- Whether there is such a value. -/
def IsSound : Setting → Prop
  | refreshInterval n => n < 2 ^ 64
  | statusAddress a => a.IsSound
  | scan path => path ≠ ""
  | _ => True

/-- Whether a text stands for the value. An option without a value has the empty
text. -/
def HasText (text : String) : Setting → Prop
  | baseUrl s | databaseUrl s | scan s => text = s
  | refreshInterval n => IsNumeral text.toList n
  | statusAddress a => SocketAddress.ofText? text = some a
  | once => text = ""

def text : Setting → String
  | baseUrl s | databaseUrl s | scan s => s
  | refreshInterval n => toString n
  | statusAddress a => a.text
  | once => ""

theorem hasText_text {s : Setting} (sound : s.IsSound) : s.HasText s.text := by
  cases s with
  | refreshInterval n => exact isNumeral_toString n
  | statusAddress a => exact SocketAddress.ofText?_text sound
  | baseUrl | databaseUrl | scan | once => exact rfl

end Setting

namespace Options

def setting? (o : Options) : Name → Option Setting
  | .baseUrl => o.baseUrl.map .baseUrl
  | .databaseUrl => o.databaseUrl.map .databaseUrl
  | .refreshInterval => o.refreshInterval.map .refreshInterval
  | .statusAddress => o.statusAddress.map .statusAddress
  | .once => if o.once then some .once else none
  | .scan => o.scan.map .scan
  | .help | .version => none

def settings (o : Options) : List Setting := Name.all.filterMap o.setting?

def assign (o : Options) : Setting → Options
  | .baseUrl s => { o with baseUrl := some s }
  | .databaseUrl s => { o with databaseUrl := some s }
  | .refreshInterval n => { o with refreshInterval := some n }
  | .statusAddress a => { o with statusAddress := some a }
  | .once => { o with once := true }
  | .scan s => { o with scan := some s }

variable {o o' : Options}

theorem name_of_setting? {n : Name} {s : Setting} (h : o.setting? n = some s) :
    s.name = n := by
  cases n <;> simp only [setting?, Option.map_eq_some_iff, reduceCtorEq] at h
  case once =>
    split at h <;> cases h
    rfl
  all_goals
    obtain ⟨_, -, rfl⟩ := h
    rfl

theorem nodup_settings (o : Options) : (o.settings.map Setting.name).Nodup := by
  have sublist (names : List Name) :
      ((names.filterMap o.setting?).map Setting.name).Sublist names := by
    induction names with
    | nil => exact .slnil
    | cons n names ih =>
        cases h : o.setting? n with
        | none =>
            rw [List.filterMap_cons_none h]
            exact ih.cons n
        | some s =>
            rw [List.filterMap_cons_some h, List.map_cons, name_of_setting? h]
            exact ih.cons_cons n
  exact (show Name.all.Nodup by decide).sublist (sublist Name.all)

theorem foldl_settings (o : Options) : o.settings.foldl assign {} = o := by
  obtain ⟨_ | _, _ | _, _ | _, _ | _, _ | _, _ | _⟩ := o <;> rfl

theorem assign_comm (o : Options) {s s' : Setting} (h : s.name ≠ s'.name) :
    (o.assign s).assign s' = (o.assign s').assign s := by
  cases s <;> cases s' <;> first | rfl | exact absurd rfl h

/-- The same settings in another order make the same options. -/
theorem foldl_of_perm {settings : List Setting}
    (perm : settings.Perm o.settings) :
    settings.foldl assign {} = o := by
  have nodup : (settings.map Setting.name).Nodup :=
    (perm.map Setting.name).nodup_iff.2 o.nodup_settings
  -- Setting is commutative only for different names, and no two of these
  -- settings share one.
  rw [perm.foldl_eq' ?_, foldl_settings]
  intro s there s' there' o
  by_cases same : s.name = s'.name
  · rw [List.inj_on_of_nodup_map nodup there there' same]
  · exact assign_comm o same

theorem setting?_assign (o : Options) (s : Setting) (n : Name) :
    (o.assign s).setting? n = if n = s.name then some s else o.setting? n := by
  cases s <;> cases n <;> rfl

theorem put_eq_ok {n : Name} {value : String} (h : o.put n value = .ok o') :
    ∃ s : Setting, s.name = n ∧ o' = o.assign s := by
  cases n with
  | baseUrl =>
      cases h
      exact ⟨.baseUrl value, rfl, rfl⟩
  | databaseUrl =>
      cases h
      exact ⟨.databaseUrl value, rfl, rfl⟩
  | refreshInterval =>
      rw [put] at h
      split at h <;> cases h
      exact ⟨.refreshInterval _, rfl, rfl⟩
  | statusAddress =>
      rw [put] at h
      split at h <;> cases h
      exact ⟨.statusAddress _, rfl, rfl⟩
  | once =>
      cases h
      exact ⟨.once, rfl, rfl⟩
  | scan =>
      rw [put] at h
      split at h <;> cases h
      exact ⟨.scan value, rfl, rfl⟩
  | help | version => cases h

theorem put_of_hasText {s : Setting} {text : String} (sound : s.IsSound)
    (h : s.HasText text) :
    o.put s.name text = .ok (o.assign s) := by
  cases s with
  | baseUrl | databaseUrl =>
      cases h
      rfl
  | once => rfl
  | refreshInterval n =>
      have read := readWord64_eq_ok_iff.2 ⟨h, sound⟩
      simp only [Setting.name, put, read, assign]
  | statusAddress a =>
      have read : SocketAddress.ofText? text = some a := h
      simp only [Setting.name, put, read, assign]
  | scan path =>
      obtain rfl : text = path := h
      have filled : text ≠ "" := sound
      simp [Setting.name, put, assign, filled]

end Options

/-! ### Words -/

/-- How an option is written. -/
inductive Manner
  /-- With its value behind an equals sign. -/
  | joined
  /-- With its value in an argument of its own. -/
  | separate
  /-- Without a value. -/
  | bare
  deriving DecidableEq, Repr

structure Word where
  option : Name
  text : String
  manner : Manner
  deriving DecidableEq, Repr

namespace Word

def arguments (w : Word) : List String :=
  match w.manner with
  | .joined => ["--" ++ w.option.long ++ "=" ++ w.text]
  | .separate => ["--" ++ w.option.long, w.text]
  | .bare => ["--" ++ w.option.long]

/-- Whether the option can be written so. A value that begins with a dash has to
be behind an equals sign. -/
def IsSound (w : Word) : Prop :=
  match w.manner with
  | .joined => w.option.value? ≠ none
  | .separate => w.option.value? ≠ none ∧ w.text.toList.head? ≠ some '-'
  | .bare => w.option.value? = none ∧ w.text = ""

def Gives (w : Word) (s : Setting) : Prop :=
  w.option = s.name ∧ s.HasText w.text

end Word

/-! ### Arguments -/

theorem Name.ofLong?_long (n : Name) :
    ofLong? n.long = some n := by cases n <;> decide

theorem ofArgument_joined (n : Name) (text : String) :
    Form.ofArgument ("--" ++ n.long ++ "=" ++ text) =
      .long n.long (some text) := by
  have name : ∀ c ∈ n.long.toList, decide (c ≠ '=') = true :=
    List.all_eq_true.1 (by cases n <;> decide)
  have chars : ("--" ++ n.long ++ "=" ++ text).toList =
      '-' :: '-' :: (n.long.toList ++ '=' :: text.toList) := by simp
  obtain ⟨taken, dropped⟩ := takeWhile_dropWhile_eq_iff.2
    ⟨(rfl : n.long.toList ++ '=' :: text.toList = _), name, by simp⟩
  have filled : n.long.toList ++ '=' :: text.toList ≠ [] := by simp
  rw [Form.ofArgument, chars]
  generalize n.long.toList ++ '=' :: text.toList = cs at taken dropped filled
  obtain ⟨c, cs, rfl⟩ := List.exists_cons_of_ne_nil filled
  simp only [taken, dropped, String.ofList_toList]

theorem ofArgument_long (n : Name) :
    Form.ofArgument ("--" ++ n.long) = .long n.long none := by
  cases n <;> decide

theorem ofArgument_plain {text : String} (h : text.toList.head? ≠ some '-') :
    Form.ofArgument text = .plain := by
  unfold Form.ofArgument
  split <;> simp_all

namespace Progress

variable {p q : Progress} {n : Name} {value : String}

theorem pending_accept (h : p.accept n value = .ok q) :
    q.pending = p.pending := by
  unfold accept at h
  split at h
  · cases h
  · split at h
    · cases h
    · cases h
      rfl

theorem settle_of_pending (h : p.pending = none) : p.settle = .ok p := by
  rw [settle, h]

theorem pending_settle (h : p.settle = .ok q) : q.pending = none := by
  unfold settle at h
  split at h
  · next none =>
      cases h
      exact none
  · cases h
  · exact pending_accept h

def acceptAll (p : Progress) : List Word → Except Refusal Progress
  | [] => .ok p
  | w :: ws => do (← p.accept w.option w.text).acceptAll ws

theorem takeLong_joined (p : Progress) (valued : n.value? ≠ none)
    (value : String) :
    p.takeLong n.long (some value) = p.settle >>= (accept · n value) := by
  obtain ⟨shown, h⟩ := Option.ne_none_iff_exists'.1 valued
  simp only [takeLong, Name.ofLong?_long, h]

theorem takeLong_separate (p : Progress) (valued : n.value? ≠ none) :
    p.takeLong n.long none =
    p.settle >>= fun q => .ok { q with pending := some ⟨n, none⟩ } := by
  obtain ⟨shown, h⟩ := Option.ne_none_iff_exists'.1 valued
  simp only [takeLong, Name.ofLong?_long, h]
  rfl

theorem takeLong_bare (p : Progress) (bare : n.value? = none) :
    p.takeLong n.long none = p.settle >>= (accept · n "") := by
  simp only [takeLong, Name.ofLong?_long, bare]

/-- However an option is written, it is accepted behind the one that waits,
either at once or when the arguments behind it are taken. -/
theorem takeAll_cons {w : Word} (sound : w.IsSound) (p : Progress)
    (args : List String) :
    p.takeAll (w.arguments ++ args) =
        p.settle >>= (accept · w.option w.text) >>= (takeAll · args) ∨
      p.takeAll (w.arguments ++ args) = p.settle >>= fun q =>
        takeAll { q with pending := some ⟨w.option, some w.text⟩ } args := by
  obtain ⟨n, text, manner⟩ := w
  cases manner with
  | joined =>
      left
      simp only [Word.arguments, List.cons_append, List.nil_append, takeAll,
        ofArgument_joined, takeLong_joined p sound]
  | bare =>
      obtain ⟨bare, rfl⟩ := sound
      left
      simp only [Word.arguments, List.cons_append, List.nil_append, takeAll,
        ofArgument_long, takeLong_bare p bare]
  | separate =>
      obtain ⟨valued, first⟩ := sound
      right
      simp only [Word.arguments, List.cons_append, List.nil_append, takeAll,
        ofArgument_long, takeLong_separate p valued, ofArgument_plain first]
      cases p.settle <;> rfl

/-- However options are written, they are accepted one after another behind the
one that waits. -/
theorem takeAll_arguments {words : List Word}
    (sound : ∀ w ∈ words, w.IsSound) (p : Progress) :
    p.takeAll (words.flatMap Word.arguments) =
      p.settle >>= (acceptAll · words) := by
  -- Any progress may be behind the words, since one whose value stands apart is
  -- left waiting.
  induction words generalizing p with
  | nil =>
      rw [List.flatMap_nil, takeAll]
      cases p.settle <;> rfl
  | cons w words ih =>
      rw [List.forall_mem_cons] at sound
      rw [List.flatMap_cons]
      rcases takeAll_cons sound.1 p (words.flatMap Word.arguments)
        with taken | taken
      · rw [taken]
        cases settled : p.settle with
        | error r => rfl
        | ok q =>
            change q.accept w.option w.text >>= _ =
              q.accept w.option w.text >>= _
            cases accepted : q.accept w.option w.text with
            | error r => rfl
            | ok q' =>
                have free :=
                  (pending_accept accepted).trans (pending_settle settled)
                change q'.takeAll _ = q'.acceptAll words
                rw [ih sound.2, settle_of_pending free]
                rfl
      · rw [taken]
        cases settled : p.settle with
        | error r => rfl
        | ok q =>
            have free : { q with pending := none } = q := by
              rw [← pending_settle settled]
            change takeAll { q with pending := _ } _ =
              q.accept w.option w.text >>= _
            rw [ih sound.2, settle]
            dsimp only
            rw [free]

abbrev names (words : List Word) : List Name := words.map Word.option

theorem accept_eq_ok (h : p.accept n value = .ok q) :
    n ∉ p.accepted ∧ ∃ s : Setting, s.name = n ∧
    q = { p with
      options := p.options.assign s, accepted := p.accepted ++ [n] } := by
  unfold accept at h
  split at h
  · cases h
  · next first =>
      split at h
      · cases h
      · next options put =>
          cases h
          obtain ⟨s, name, rfl⟩ := Options.put_eq_ok put
          exact ⟨by simpa using first, s, name, rfl⟩

/-- Of options that are accepted none is there twice, and all are set. -/
theorem acceptAll_eq_ok {words : List Word} (h : p.acceptAll words = .ok q) :
    ((names words).Nodup ∧ ∀ n ∈ names words, n ∉ p.accepted) ∧
      ∀ n, n ∈ names words ∨ (p.options.setting? n).isSome = true →
        (q.options.setting? n).isSome = true := by
  induction words generalizing p with
  | nil =>
      cases h
      simp [names]
  | cons w words ih =>
      rw [acceptAll, bind_eq_ok_iff] at h
      obtain ⟨p', accepted, h⟩ := h
      obtain ⟨first, s, name, rfl⟩ := accept_eq_ok accepted
      obtain ⟨⟨nodup, fresh⟩, set⟩ := ih h
      have others : ∀ n ∈ names words, n ∉ p.accepted ∧ n ≠ w.option := by
        simpa [not_or] using fresh
      refine ⟨⟨List.nodup_cons.2 ⟨fun again => (others _ again).2 rfl, nodup⟩,
        List.forall_mem_cons.2 ⟨first, fun n there => (others n there).1⟩⟩,
        fun n given => ?_⟩
      refine set n ?_
      by_cases same : n = w.option
      · right
        rw [Options.setting?_assign, if_pos (same.trans name.symm)]
        rfl
      · rw [Options.setting?_assign, if_neg (fun h => same (h.trans name))]
        exact given.imp_left fun there =>
          (List.mem_cons.1 there).resolve_left same

theorem accept_of_gives {w : Word} {s : Setting} (gives : w.Gives s)
    (sound : s.IsSound) (fresh : s.name ∉ p.accepted) :
    p.accept w.option w.text =
      .ok { p with options := p.options.assign s,
                   accepted := p.accepted ++ [s.name] } := by
  obtain ⟨option, text⟩ := gives
  simp [accept, option, fresh, Options.put_of_hasText sound text]

theorem acceptAll_of_gives {words : List Word} {settings : List Setting}
    (gives : List.Forall₂ Word.Gives words settings)
    (sound : ∀ s ∈ settings, s.IsSound)
    (nodup : (settings.map Setting.name).Nodup)
    (fresh : ∀ s ∈ settings, s.name ∉ p.accepted) :
    p.acceptAll words = .ok { p with
      options := settings.foldl Options.assign p.options
      accepted := p.accepted ++ settings.map Setting.name } := by
  induction gives generalizing p with
  | nil => simp [acceptAll]
  | @cons w s words settings head tail ih =>
      rw [List.forall_mem_cons] at sound fresh
      rw [List.map_cons, List.nodup_cons] at nodup
      rw [acceptAll, accept_of_gives head sound.1 fresh.1]
      refine (ih sound.2 nodup.2 fun s' there => ?_).trans (by simp)
      have different : s'.name ≠ s.name := fun same =>
        nodup.1 (List.mem_map.2 ⟨s', there, same⟩)
      simpa [different] using fresh.2 s' there

end Progress

namespace Options

variable {words : List Word}

theorem ofArguments_arguments (sound : ∀ w ∈ words, w.IsSound) :
    ofArguments (words.flatMap Word.arguments) =
      Progress.acceptAll {} words >>= Progress.finish := by
  rw [ofArguments, Progress.takeAll_arguments sound]
  rfl

theorem ofArguments_of_gives {o : Options} {settings : List Setting}
    (sound : ∀ s ∈ o.settings, s.IsSound)
    (single : ¬ (o.once = true ∧ o.scan.isSome = true))
    (perm : settings.Perm o.settings) (writable : ∀ w ∈ words, w.IsSound)
    (gives : List.Forall₂ Word.Gives words settings) :
    ofArguments (words.flatMap Word.arguments) = .ok o := by
  have nodup : (settings.map Setting.name).Nodup :=
    (perm.map Setting.name).nodup_iff.2 o.nodup_settings
  have accepted := Progress.acceptAll_of_gives (p := {}) gives
    (fun s there => sound s (perm.mem_iff.1 there)) nodup (by simp)
  rw [ofArguments_arguments writable, accepted, foldl_of_perm perm]
  exact if_neg (by simpa using single)

theorem ofArguments_of_excluded (writable : ∀ w ∈ words, w.IsSound)
    (excluded : ¬ (words.map Word.option).Nodup ∨
      .once ∈ words.map Word.option ∧ .scan ∈ words.map Word.option) :
    ∃ r, ofArguments (words.flatMap Word.arguments) = .error r := by
  rw [ofArguments_arguments writable]
  cases accepted : Progress.acceptAll {} words with
  | error r => exact ⟨r, rfl⟩
  | ok q =>
      obtain ⟨⟨nodup, -⟩, set⟩ := Progress.acceptAll_eq_ok accepted
      obtain ⟨once, scan⟩ := excluded.resolve_left (not_not_intro nodup)
      have both : (q.options.once && q.options.scan.isSome) = true := by
        simpa [setting?] using And.intro (set .once (.inl once))
          (set .scan (.inl scan))
      exact ⟨_, if_pos both⟩

/-- Every value has a text. Options that are given once each are told as they
are, in whatever order they come and in whatever way each of them is written,
and options that are given twice, or of which one excludes another, are
refused. -/
theorem options_are_told_however_written :
    (∀ s : Setting, s.IsSound → s.HasText s.text) ∧
    (∀ (o : Options) (settings : List Setting) (words : List Word),
      (∀ s ∈ o.settings, s.IsSound) → ¬ (o.once = true ∧ o.scan.isSome = true) →
      settings.Perm o.settings → (∀ w ∈ words, w.IsSound) →
      List.Forall₂ Word.Gives words settings →
        ofArguments (words.flatMap Word.arguments) = .ok o) ∧
    (∀ words : List Word, (∀ w ∈ words, w.IsSound) →
      ¬ (words.map Word.option).Nodup ∨
        .once ∈ words.map Word.option ∧ .scan ∈ words.map Word.option →
        ∃ r, ofArguments (words.flatMap Word.arguments) = .error r) :=
  ⟨fun _ => Setting.hasText_text,
    fun _ _ _ sound single perm writable gives =>
      ofArguments_of_gives sound single perm writable gives,
    fun _ => ofArguments_of_excluded⟩

/-- Values that look like options, or hold equals signs, in an order of their
own, and two lists of options that are refused. -/
theorem options_like_values_are_told :
    ofArguments ["--scan=--once", "--status-addr",
      "[::1%2]:8080", "--base-url=a=b",
        "--refresh-interval", "+18446744073709551615", "--database-url", ""] =
      .ok { baseUrl := some "a=b", databaseUrl := some "",
            refreshInterval := some 18446744073709551615,
            statusAddress := some (.v6 ⟨[0, 0, 0, 0, 0, 0, 0, 1]⟩ 2 8080),
            scan := some "--once" } ∧
    (∃ r, ofArguments ["--once", "--refresh-interval=5", "--scan", "f.js"] =
      .error r) ∧
    (∃ r,
      ofArguments ["--base-url", "a", "--once", "--base-url=b"] = .error r) ∧
    (Setting.statusAddress (.v4 ⟨[127, 0, 0, 1]⟩ 80)).HasText
      "127.0.0.1:80" := by
  obtain ⟨shown, told, refused⟩ := options_are_told_however_written
  refine ⟨?_, ?_, ?_, ?_⟩
  · have digits : IsDigits "18446744073709551615".toList 18446744073709551615 :=
      ⟨by decide, List.all_eq_true.1 (by decide), by decide⟩
    have address : SocketAddress.ofText? "[::1%2]:8080" =
        some (.v6 ⟨[0, 0, 0, 0, 0, 0, 0, 1]⟩ 2 8080) := by decide
    exact told _ [.scan "--once",
      .statusAddress (.v6 ⟨[0, 0, 0, 0, 0, 0, 0, 1]⟩ 2 8080),
        .baseUrl "a=b", .refreshInterval 18446744073709551615, .databaseUrl ""]
      [⟨.scan, "--once", .joined⟩, ⟨.statusAddress, "[::1%2]:8080", .separate⟩,
        ⟨.baseUrl, "a=b", .joined⟩,
        ⟨.refreshInterval, "+18446744073709551615", .separate⟩,
        ⟨.databaseUrl, "", .separate⟩]
      (by
        simp [settings, Name.all, setting?, Setting.IsSound,
          SocketAddress.IsSound]) (by decide)
      (by decide) (by simp [Word.IsSound, Name.value?])
      (.cons ⟨rfl, rfl⟩ (.cons ⟨rfl, address⟩ (.cons ⟨rfl, rfl⟩
        (.cons ⟨rfl, .inr ⟨_, rfl, digits⟩⟩ (.cons ⟨rfl, rfl⟩ .nil)))))
  · exact refused [⟨.once, "", .bare⟩, ⟨.refreshInterval, "5", .joined⟩,
      ⟨.scan, "f.js", .separate⟩]
      (by simp [Word.IsSound, Name.value?]) (by decide)
  · exact refused [⟨.baseUrl, "a", .separate⟩, ⟨.once, "", .bare⟩,
      ⟨.baseUrl, "b", .joined⟩]
      (by simp [Word.IsSound, Name.value?]) (by decide)
  · exact shown (.statusAddress (.v4 ⟨[127, 0, 0, 1]⟩ 80))
      ⟨rfl, by decide, by decide⟩

end Options

end RuleWatch.CommandLine
