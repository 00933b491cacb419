import RuleWatch.Fetch.Endpoint

/-!
Where the rules are asked for. The address of the rules keeps the scheme and the
host of the base address, and where the web knows the scheme, a host is named.
-/

namespace RuleWatch

theorem toOption_eq_some_iff {ε α : Type} {x : Except ε α} {a : α} :
    x.toOption = some a ↔ x = .ok a := by
  cases x <;> simp [Except.toOption]

namespace Net

/-! ### Hosts -/

theorem Host.isEmpty_of_read {s : List Char} {host : Host}
    (h : Host.read s = .ok host) :
    host.isEmpty = false := by
  unfold Host.read at h
  split at h
  · next inside _ =>
      cases inside with
      | error e => cases h
      | ok address =>
          cases h
          rfl
  · split at h
    · cases h
    · next text _ =>
        split at h
        · cases h
        · next notEmpty =>
            split at h
            · cases dotted : readDotted text.toList with
              | error e =>
                  rw [dotted] at h
                  cases h
              | ok address =>
                  rw [dotted] at h
                  cases h
                  rfl
            · cases h
              simpa [Host.isEmpty] using notEmpty

/-- Whether a URL has a scheme, and with it a host where the web knows the
scheme. -/
structure Url.Has (u : Url) (scheme : String) : Prop where
  is : u.scheme = scheme
  host : SchemeKind.ofScheme scheme = .web → u.hasHost = true

theorem Url.Has.hasHost {u : Url} {scheme : String} (h : u.Has scheme)
    (web : u.kind = .web) :
    u.hasHost = true :=
  h.host (h.is ▸ web)

theorem Url.has_other {u : Url} {scheme : String} (h : u.scheme = scheme)
    (other : SchemeKind.ofScheme scheme = .other) : u.Has scheme :=
  ⟨h, fun web => by simp [other] at web⟩

@[simp] theorem withSuffix_scheme (u : Url) (s : List Char) :
    (withSuffix u s).scheme = u.scheme := by
  unfold withSuffix
  split <;> rfl

@[simp] theorem withSuffix_authority (u : Url) (s : List Char) :
    (withSuffix u s).authority = u.authority := by
  unfold withSuffix
  split <;> rfl

@[simp] theorem withSuffix_path (u : Url) (s : List Char) :
    (withSuffix u s).path = u.path := by
  unfold withSuffix
  split <;> rfl

theorem readBehindAuthority_scheme (scheme : String)
    (a : Authority) (s : List Char) :
    (readBehindAuthority scheme a s).scheme = scheme := by
  simp [readBehindAuthority]

theorem readBehindAuthority_has {scheme : String} {a : Authority}
    (h : (SchemeKind.ofScheme scheme).isSpecial = true → a.host.isEmpty = false)
    (s : List Char) :
    (readBehindAuthority scheme a s).Has scheme where
  is := readBehindAuthority_scheme scheme a s
  host web := by simp [readBehindAuthority, Url.hasHost, h (by rw [web]; rfl)]

/-- Behind the two slashes an authority is read first, and the path and what
follows behind it. -/
theorem exists_of_readAuthority {scheme : String} {s : List Char} {u : Url}
    (h : readAuthority scheme s = .ok u) :
    ∃ a rest, u = readBehindAuthority scheme a rest ∧
      ((SchemeKind.ofScheme scheme).isSpecial = true →
        a.host.isEmpty = false) := by
  unfold readAuthority at h
  simp only [bind, Except.bind, pure, Except.pure, throw, throwThe,
    MonadExceptOf.throw] at h
  split at h
  · cases h
  · split at h
    · cases h
    · split at h
      · split at h
        · cases h
        · next host read =>
            have hosted := Host.isEmpty_of_read read
            split at h
            · cases h
            · split at h
              · split at h
                · cases h
                · cases h
                  exact ⟨_, _, rfl, fun _ => hosted⟩
              · cases h
                exact ⟨_, _, rfl, fun _ => hosted⟩
      · next notSpecial =>
          split at h
          · cases h
          · split at h
            · cases h
            · split at h
              · split at h
                · cases h
                · cases h
                  exact ⟨_, _, rfl, fun special => absurd special notSpecial⟩
              · cases h
                exact ⟨_, _, rfl, fun special => absurd special notSpecial⟩

theorem readAuthority_has {scheme : String} {s : List Char} {u : Url}
    (h : readAuthority scheme s = .ok u) : u.Has scheme := by
  obtain ⟨a, rest, rfl, hosted⟩ := exists_of_readAuthority h
  exact readBehindAuthority_has hosted rest

theorem readFileHost_scheme {s : List Char} {u : Url}
    (h : readFileHost s = .ok u) :
    u.scheme = "file" := by
  have behind (c : Prop) [Decidable c] (a a' : Authority) (rest : List Char) :
      (if c then { readBehindAuthority "file" a rest with authority := some a' }
        else readBehindAuthority "file" a rest).scheme = "file" := by
    split
    · exact readBehindAuthority_scheme ..
    · exact readBehindAuthority_scheme ..
  unfold readFileHost at h
  simp only [bind, Except.bind, pure, Except.pure] at h
  split at h
  · cases h
    exact readBehindAuthority_scheme ..
  · split at h
    · cases h
      exact behind ..
    · split at h
      · cases h
      · cases h
        exact behind ..

theorem readFile_scheme {s : List Char} {u : Url}
    (h : readFile none s = .ok u) :
    u.scheme = "file" := by
  unfold readFile at h
  simp only at h
  split at h
  · split at h
    · split at h
      · exact readFileHost_scheme h
      · cases h
        simp
    · cases h
      simp [localFile]
  · cases h
    simp [localFile]

theorem readOther_has {scheme : String}
    (other : SchemeKind.ofScheme scheme = .other) {s : List Char} {u : Url}
    (h : readOther scheme s = .ok u) : u.Has scheme := by
  unfold readOther at h
  split at h
  · exact readAuthority_has h
  · cases h
    exact Url.has_other (by simp) other
  · cases h
    exact Url.has_other (by simp) other

theorem Url.exists_of_parse {text : String} {u : Url}
    (h : Url.parse text = .ok u) (web : u.kind = .web) :
    ∃ a rest, u = readBehindAuthority u.scheme a rest ∧
      a.host.isEmpty = false := by
  unfold Url.parse at h
  split at h
  · next scheme rest _ =>
      unfold readScheme at h
      split at h
      · rw [Url.kind, readFile_scheme h] at web
        cases web
      · next other =>
          rw [Url.kind, (readOther_has other h).is, other] at web
          cases web
      · next known =>
          have scheme := (readAuthority_has h).is
          obtain ⟨a, rest, same, hosted⟩ := exists_of_readAuthority h
          exact ⟨a, rest, scheme ▸ same, hosted (by rw [known]; rfl)⟩
  · cases h

/-- A URL that is read by itself has a host where the web knows its scheme. -/
theorem Url.hasHost_of_parse {text : String} {u : Url}
    (h : Url.parse text = .ok u) (web : u.kind = .web) : u.hasHost = true := by
  obtain ⟨a, rest, same, hosted⟩ := Url.exists_of_parse h web
  rw [same]
  exact (readBehindAuthority_has (fun _ => hosted) rest).hasHost (same ▸ web)

end Net

/-! ### The address of the rules -/

namespace Net

@[simp] theorem Url.withPath_scheme (u : Url) (text : List Char) :
    (u.withPath text).scheme = u.scheme := by
  unfold withPath
  split <;> rfl

@[simp] theorem Url.withPath_authority (u : Url) (text : List Char) :
    (u.withPath text).authority = u.authority := by
  unfold withPath
  split <;> rfl

theorem Url.asFolder_scheme (u : Url) : u.asFolder.scheme = u.scheme := by
  simp only [asFolder]
  split
  · rfl
  · exact u.withPath_scheme _

theorem Url.asFolder_authority (u : Url) :
    u.asFolder.authority = u.authority := by
  simp only [asFolder]
  split
  · rfl
  · exact u.withPath_authority _

theorem readRelative_rulesPath (base : Url) :
    readRelative base (significant rulesPath) =
      .ok { base with
        path := readPath base.kind base.folder rulesPath.toList, query := none,
        fragment := none } := by
  have cut : cutPath (significant rulesPath) =
      ('a' :: rulesPath.toList.tail, []) := by decide
  have path : ¬ ('a' = '/' ∨ 'a' = '\\') := by decide
  have whole : 'a' :: rulesPath.toList.tail = rulesPath.toList := by decide
  rw [← whole]
  simp only [readRelative, cut, path, if_false, withSuffix]

theorem readFile_rulesPath (base : Url) :
    readFile (some base) (significant rulesPath) =
      readRelative base (significant rulesPath) := by
  have cut : cutPath (significant rulesPath) =
      ('a' :: rulesPath.toList.tail, []) := by decide
  have drive : startsWithDrive (significant rulesPath) = false := by decide
  rw [readFile]
  simp [cut, drive]

theorem join_rulesPath (base : Url) :
    base.join rulesPath = match base.path with
      | .whole _ => .error .baseWithoutPath
      | .segments _ => .ok { base with
          path := readPath base.kind base.folder rulesPath.toList,
          query := none, fragment := none } := by
  have noScheme : scheme? (significant rulesPath) = none := by decide
  have start : significant rulesPath = 'a' :: rulesPath.toList.tail := by decide
  simp only [Url.join, noScheme]
  split
  · next same => simp [start] at same
  · next whole _ => rw [whole]
  · next segments _ =>
      rw [segments]
      split
      · rw [readFile_rulesPath, readRelative_rulesPath]
      · rw [readRelative_rulesPath]

end Net

theorem hasHost_of_rulesUrl {base : String} {url : Net.Url}
    (h : rulesUrl base = .ok url) (web : url.kind = .web) :
    url.hasHost = true := by
  unfold rulesUrl at h
  cases parsed : Net.Url.parse base with
  | error e =>
      rw [parsed] at h
      cases h
  | ok place =>
      rw [parsed] at h
      change place.asFolder.join rulesPath = .ok url at h
      rw [Net.join_rulesPath] at h
      split at h
      · cases h
      · cases h
        have kind : place.asFolder.kind = place.kind :=
          congrArg Net.SchemeKind.ofScheme place.asFolder_scheme
        rw [Net.Url.hasHost, Net.Url.asFolder_authority]
        exact Net.Url.hasHost_of_parse parsed (kind ▸ web)

def Net.Url.IsWeb (u : Net.Url) : Prop := u.scheme = "http" ∨ u.scheme = "https"

theorem Net.Url.IsWeb.kind {u : Net.Url} (h : u.IsWeb) : u.kind = .web := by
  rw [Net.Url.kind]
  rcases h with h | h <;> rw [h] <;> decide

end RuleWatch
