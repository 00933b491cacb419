import RuleWatch.Proofs.Addresses

/-!
Paths that are read twice. What reading leaves of a path is left as it is when
the path is read again: its characters need no percent signs any more, no slash
is in a segment, and no segment goes up. Main statement: the address of the
rules has all that the base address has before its path, and the path of the
base address, to the last character, in front of its own.
-/

namespace RuleWatch.Net

open Text

/-! ### Characters -/

namespace Percent

def IsPlain (escaped : Char → Bool) (c : Char) : Prop :=
  c.toNat < 128 ∧ escaped c = false

instance (escaped : Char → Bool) : DecidablePred (IsPlain escaped) :=
  fun _ => instDecidableAnd

theorem encode_of_plain {escaped : Char → Bool} {s : List Char}
    (plain : ∀ c ∈ s, IsPlain escaped c) : encode escaped s = s := by
  induction s with
  | nil => rfl
  | cons c s ih =>
      rw [List.forall_mem_cons] at plain
      have rest := ih plain.2
      unfold encode at rest ⊢
      rw [List.flatMap_cons, if_pos (by simp [plain.1.1, plain.1.2]), rest]
      rfl

theorem mem_encode {escaped : Char → Bool} {s : List Char} {c : Char}
    (h : c ∈ encode escaped s) :
    c ∈ s ∧ IsPlain escaped c ∨ c = '%' ∨ ∃ n < 16, c = hexDigit n := by
  obtain ⟨d, member, written⟩ := List.mem_flatMap.1 h
  split at written
  · next plain =>
      rw [List.mem_singleton] at written
      subst written
      exact .inl ⟨member, plain.1, by simpa using plain.2⟩
  · obtain ⟨b, -, digit⟩ := List.mem_flatMap.1 written
    simp only [encodeByte, List.mem_cons, List.not_mem_nil, or_false] at digit
    rcases digit with rfl | rfl | rfl
    · exact .inr (.inl rfl)
    · exact .inr (.inr ⟨b.toNat / 16, by have := b.toNat_lt; omega, rfl⟩)
    · exact .inr (.inr ⟨b.toNat % 16, by omega, rfl⟩)

end Percent

open Percent

/-! ### Segments -/

/-- A segment that is left as it is: its characters stand for themselves, and it
does not go up. -/
structure IsSegment (k : SchemeKind) (s : String) : Prop where
  plain : ∀ c ∈ s.toList, IsPlain inPath c ∧ k.isSlash c = false
  notSingle : isSingleDot s = false
  notDouble : isDoubleDot s = false

instance (k : SchemeKind) : DecidablePred (IsSegment k) := fun s =>
  haveI :=
    List.decidableBAll
      (fun c => IsPlain inPath c ∧ k.isSlash c = false) s.toList
  decidable_of_iff ((∀ c ∈ s.toList, IsPlain inPath c ∧ k.isSlash c = false) ∧
      isSingleDot s = false ∧ isDoubleDot s = false)
    ⟨fun ⟨plain, single, double⟩ => ⟨plain, single, double⟩,
      fun ⟨plain, single, double⟩ => ⟨plain, single, double⟩⟩

theorem isSegment_empty (k : SchemeKind) : IsSegment k "" :=
  ⟨by simp, by decide +kernel, by decide +kernel⟩

theorem plain_of_mem_encode {k : SchemeKind} {p : List Char}
    (free : ∀ c ∈ p, k.isSlash c = false) :
    ∀ c ∈ encode inPath p, IsPlain inPath c ∧ k.isSlash c = false := by
  have digits :
      ∀ n < 16, (hexDigit n).toNat < 128 ∧ inPath (hexDigit n) = false ∧
      hexDigit n ≠ '/' ∧ hexDigit n ≠ '\\' := by decide
  intro c h
  rcases mem_encode h with ⟨member, plain⟩ | rfl | ⟨n, lt, rfl⟩
  · exact ⟨plain, free c member⟩
  · exact ⟨⟨by decide, by decide⟩, by cases k <;> decide⟩
  · obtain ⟨ascii, plain, slash, backslash⟩ := digits n lt
    exact ⟨⟨ascii, plain⟩, by simp [SchemeKind.isSlash, slash, backslash]⟩

namespace Path

variable {k : SchemeKind} {names done : List String} {s : String}

def AreSegments (k : SchemeKind) (names : List String) : Prop :=
  ∀ s ∈ names, IsSegment k s

instance (k : SchemeKind) : DecidablePred (AreSegments k) := fun names =>
  List.decidableBAll (IsSegment k) names

theorem AreSegments.append (h : AreSegments k names) (hs : IsSegment k s) :
    AreSegments k (names ++ [s]) := by
  intro t member
  rcases List.mem_append.1 member with old | new
  · exact h t old
  · rw [List.mem_singleton.1 new]
    exact hs

theorem AreSegments.up (h : AreSegments k done) : AreSegments k (up done) := by
  unfold Path.up
  split
  · exact h
  · exact fun t member => h t (List.dropLast_subset done member)

theorem AreSegments.enter (h : AreSegments k done) (notFile : k ≠ .file)
    (plain : ∀ c ∈ s.toList, IsPlain inPath c ∧ k.isSlash c = false) :
    AreSegments k (enter k done s) := by
  unfold Path.enter
  split
  · exact h.up
  · next notDouble =>
      split
      · exact h
      · next notSingle =>
          rw [if_neg fun file => notFile file.1]
          exact h.append ⟨plain, by simpa using notSingle,
            by simpa using notDouble⟩

theorem AreSegments.finish (h : AreSegments k done) (notFile : k ≠ .file)
    (plain : ∀ c ∈ s.toList, IsPlain inPath c ∧ k.isSlash c = false) :
    AreSegments k (finish k done s) := by
  unfold Path.finish
  split
  · exact (h.enter notFile plain).append (isSegment_empty k)
  · exact h.enter notFile plain

theorem areSegments_resolve (notFile : k ≠ .file) (h : AreSegments k done)
    (plain : ∀ s ∈ names, ∀ c ∈ s.toList,
      IsPlain inPath c ∧ k.isSlash c = false) :
    AreSegments k (resolve k done names) := by
  fun_induction resolve k done names with
  | case1 => exact h
  | case2 done s => exact h.finish notFile (plain s List.mem_cons_self)
  | case3 done s t rest ih =>
      exact ih (h.enter notFile (plain s List.mem_cons_self)) fun u member =>
        plain u (List.mem_cons_of_mem _ member)

theorem finish_ne_nil (k : SchemeKind) (done : List String) (s : String) :
    finish k done s ≠ [] := by
  unfold Path.finish Path.enter
  split
  · simp
  · next noDots =>
      simp only [Bool.or_eq_true, not_or] at noDots
      rw [if_neg noDots.1, if_neg noDots.2]
      split <;> simp

theorem resolve_ne_nil (some : names ≠ []) : resolve k done names ≠ [] := by
  fun_induction resolve k done names with
  | case1 => exact absurd rfl some
  | case2 done s => exact finish_ne_nil k done s
  | case3 done s t rest ih => exact ih (by simp)

/-- Segments that are left as they are resolve to themselves. -/
theorem resolve_of_areSegments (notFile : k ≠ .file) (h : AreSegments k names) :
    resolve k done names = done ++ names := by
  have enter_eq (done : List String) {s : String} (hs : IsSegment k s) :
      enter k done s = done ++ [s] := by
    simp [Path.enter, hs.notSingle, hs.notDouble, notFile]
  fun_induction resolve k done names with
  | case1 done => simp
  | case2 done s =>
      have hs := h s List.mem_cons_self
      simp [Path.finish, hs.notSingle, hs.notDouble, enter_eq done hs]
  | case3 done s t rest ih =>
      rw [ih fun u member => h u (List.mem_cons_of_mem _ member),
        enter_eq done (h s List.mem_cons_self), List.append_assoc]
      rfl

/-- A path is read as segments that are left as they are. -/
theorem segments_of_readPath (notFile : k ≠ .file) (text : List Char) :
    ∃ names, readPath k [] text = .segments names ∧ names ≠ [] ∧
      AreSegments k names := by
  rw [readPath, settle, if_neg notFile]
  refine ⟨_, rfl, resolve_ne_nil ?_,
    areSegments_resolve notFile (fun s none => by cases none) ?_⟩
  · rw [Ne, List.map_eq_nil_iff]
    exact pieces_ne_nil k.isSlash text
  · intro s member
    obtain ⟨p, piece, rfl⟩ := List.mem_map.1 member
    rw [String.toList_ofList]
    exact plain_of_mem_encode (free_of_mem_pieces piece)

/-! ### Reading again -/

theorem toList_slashed (names : List String) :
    (slashed names).toList = names.flatMap fun s => '/' :: s.toList := by
  rw [slashed, String.toList_intercalate, List.map_map]
  induction names with
  | nil => rfl
  | cons s names ih =>
      cases names with
      | nil => simp [List.intercalate]
      | cons t names =>
          rw [List.map_cons, List.map_cons, List.intercalate_cons_cons,
            ← List.map_cons, ih]
          simp

theorem slashed_append (names names' : List String) :
    slashed (names ++ names') = slashed names ++ slashed names' := by
  rw [← String.toList_inj]
  simp [toList_slashed]

theorem toList_slashed_cons (s : String) (names : List String) :
    (slashed (s :: names)).toList =
      '/' :: (s.toList ++ (slashed names).toList) := by
  simp [toList_slashed]

theorem pieces_slashed (h : AreSegments k (s :: names)) :
    pieces k.isSlash (s.toList ++ (slashed names).toList) =
      (s :: names).map String.toList := by
  have slash : k.isSlash '/' = true := by simp [SchemeKind.isSlash]
  have free (s : String) (hs : IsSegment k s) :
      ∀ c ∈ s.toList, k.isSlash c = false :=
    fun c member => (hs.plain c member).2
  induction names generalizing s with
  | nil =>
      simp [toList_slashed, pieces_of_free (free s (h s List.mem_cons_self))]
  | cons t names ih =>
      rw [toList_slashed_cons,
        pieces_append_mark (free s (h s List.mem_cons_self)) slash,
        ih fun u member => h u (List.mem_cons_of_mem _ member)]
      rfl

/-- A path of such segments is read as these segments, behind those before
them. -/
theorem readPath_slashed (notFile : k ≠ .file)
    (h : AreSegments k (s :: names)) :
    readPath k done (s.toList ++ (slashed names).toList) =
      .segments (done ++ s :: names) := by
  have kept :
      ((s :: names).map String.toList).map
        (fun p => String.ofList (encode inPath p)) =
      s :: names := by
    rw [List.map_map]
    refine (List.map_congr_left fun t member => ?_).trans (List.map_id _)
    change String.ofList (encode inPath t.toList) = t
    rw [encode_of_plain fun c inside => ((h t member).plain c inside).1,
      String.ofList_toList]
  rw [readPath, pieces_slashed h, kept, resolve_of_areSegments notFile h,
    settle, if_neg notFile]

theorem readRoot_slashed (notFile : k ≠ .file) (some : names ≠ [])
    (h : AreSegments k names) :
    readRoot k (slashed names).toList = .segments names := by
  obtain ⟨s, names, rfl⟩ := List.exists_cons_of_ne_nil some
  have slash : k.isSlash '/' = true := by simp [SchemeKind.isSlash]
  rw [toList_slashed_cons, readRoot, if_pos slash, readPath_slashed notFile h]
  rfl

/-! ### Slashes at the end -/

/-- The segments that a path has in front of a slash at its end. -/
def stem (names : List String) : List String :=
  if names.getLast? = some "" then names.dropLast else names

theorem AreSegments.stem (h : AreSegments k names) :
    AreSegments k (stem names) := by
  unfold Path.stem
  split
  · exact fun s member => h s (List.dropLast_subset names member)
  · exact h

def withSlash (path : String) : String :=
  if path.toList.getLast? = some '/' then path else path ++ "/"

theorem getLast?_slashed (filled : names ≠ []) (h : AreSegments k names) :
    (slashed names).toList.getLast? = some '/' ↔ names.getLast? = some "" := by
  obtain ⟨front, s, rfl⟩ : ∃ front s, names = front ++ [s] :=
    ⟨_, _, (List.dropLast_concat_getLast filled).symm⟩
  have hs := h s (by simp)
  rw [slashed_append, String.toList_append, toList_slashed_cons,
    List.getLast?_concat]
  cases last : s.toList.getLast? with
  | none =>
      have empty : s = "" :=
        String.toList_eq_nil_iff.1 (List.getLast?_eq_none_iff.1 last)
      simp [toList_slashed, empty]
  | some c =>
      have notSlash := (hs.plain c (List.mem_of_getLast? last)).2
      have notEmpty : s ≠ "" := by
        rintro rfl
        cases last
      have differs : c ≠ '/' := by
        rintro rfl
        simp [SchemeKind.isSlash] at notSlash
      simp [toList_slashed, List.getLast?_cons, last, notEmpty, differs]

theorem slashed_stem (filled : names ≠ []) (h : AreSegments k names) :
    slashed (stem names ++ [""]) = withSlash (slashed names) := by
  unfold stem withSlash
  by_cases last : names.getLast? = some ""
  · rw [if_pos last, if_pos ((getLast?_slashed filled h).2 last)]
    obtain ⟨front, rfl⟩ := List.getLast?_eq_some_iff.1 last
    rw [List.dropLast_concat]
  · rw [if_neg last, if_neg fun slash =>
      last ((getLast?_slashed filled h).1 slash), slashed_append]
    rfl

end Path

open Net.Path

/-! ### The place of the rules -/

theorem Url.segments_of_parse {text : String} {u : Url}
    (h : Url.parse text = .ok u) (web : u.kind = .web) :
    ∃ names, u.path = .segments names ∧ names ≠ [] ∧
      AreSegments .web names := by
  obtain ⟨a, rest, same, -⟩ := Url.exists_of_parse h web
  have path : u.path = readRoot .web (cutPath rest).1 := by
    rw [same]
    simp only [readBehindAuthority, withSuffix_path]
    rw [show SchemeKind.ofScheme u.scheme = .web from web]
  rw [path]
  cases (cutPath rest).1 with
  | nil => exact ⟨[""], rfl, by simp, by simp [AreSegments, isSegment_empty]⟩
  | cons c cs => exact segments_of_readPath (by decide) _

/-- Reading a path again changes nothing but that there is a slash at its
end. -/
theorem Url.asFolder_eq {u : Url} {names : List String}
    (notFile : u.kind ≠ .file) (path : u.path = .segments names)
    (filled : names ≠ []) (h : AreSegments u.kind names) :
    u.asFolder = { u with path := .segments (stem names ++ [""]) } := by
  have slash := getLast?_slashed filled h
  have text : u.path.text = slashed names := by rw [path]; rfl
  simp only [asFolder, text]
  by_cases last : names.getLast? = some ""
  · obtain ⟨front, rfl⟩ := List.getLast?_eq_some_iff.1 last
    rw [if_pos (slash.2 last), stem, if_pos last, List.dropLast_concat, ← path]
  · have again : (slashed names).toList ++ ['/'] =
        (slashed (names ++ [""])).toList := by
      rw [slashed_append, String.toList_append]
      rfl
    have read : u.withPath (slashed (names ++ [""])).toList =
        { u with
          path := readRoot u.kind (slashed (names ++ [""])).toList } := by
      simp only [withPath, path]
    rw [if_neg fun ends => last (slash.1 ends), stem, if_neg last, again, read,
      readRoot_slashed notFile (by simp) (h.append (isSegment_empty _))]

def rulesNames : List String := ["api", "plugins", "angular_patterns"]

theorem areSegments_rulesNames (k : SchemeKind) : AreSegments k rulesNames := by
  cases k <;> decide +kernel

theorem Path.slashed_injective {k : SchemeKind} {names names' : List String}
    (notFile : k ≠ .file) (filled : names ≠ [] ∧ names' ≠ [])
    (h : AreSegments k names) (h' : AreSegments k names')
    (same : slashed names = slashed names') : names = names' := by
  have read := readRoot_slashed notFile filled.1 h
  rw [same, readRoot_slashed notFile filled.2 h'] at read
  exact (Path.segments.inj read).symm

end RuleWatch.Net

namespace RuleWatch

open Net Net.Path

/-- Below a base address only the path changes, and nothing is behind it. -/
theorem rulesUrl_of_parse {base : String} {place : Url}
    (parsed : Url.parse base = .ok place) (web : place.kind = .web) :
    ∃ names, place.path = .segments names ∧ names ≠ [] ∧
      AreSegments .web names ∧
      rulesUrl base = .ok { place with
        path := .segments (stem names ++ rulesNames), query := none,
        fragment := none } := by
  obtain ⟨names, path, filled, segments⟩ := Url.segments_of_parse parsed web
  refine ⟨names, path, filled, segments, ?_⟩
  have notFile : place.kind ≠ .file := by
    rw [web]
    decide
  have folder :
      Url.folder { place with path := .segments (stem names ++ [""]) } =
        stem names := by
    simp only [Url.folder]
    rw [if_neg fun file => notFile file.1, List.dropLast_concat]
  have written : rulesPath.toList =
      "api".toList ++ (slashed ["plugins", "angular_patterns"]).toList := by
    decide
  rw [rulesUrl, parsed]
  change place.asFolder.join rulesPath = _
  rw [Url.asFolder_eq notFile path filled (web ▸ segments),
    join_rulesPath, written]
  simp only [folder]
  exact congrArg (fun path =>
    Except.ok { place with path, query := none, fragment := none })
    (readPath_slashed notFile (areSegments_rulesNames place.kind))

theorem rulesUrl_of_whole {base text : String} {place : Url}
    (parsed : Url.parse base = .ok place) (whole : place.path = .whole text) :
    rulesUrl base = .error .baseWithoutPath := by
  have still : ∃ text, place.asFolder.path = .whole text := by
    simp only [Url.asFolder]
    split
    · exact ⟨text, whole⟩
    · unfold Url.withPath
      split
      · next _ segments =>
          rw [whole] at segments
          cases segments
      · exact ⟨_, rfl⟩
      · exact ⟨_, rfl⟩
  obtain ⟨text', path⟩ := still
  rw [rulesUrl, parsed]
  change place.asFolder.join rulesPath = _
  rw [join_rulesPath, path]

theorem text_below {names : List String} (filled : names ≠ [])
    (h : AreSegments .web names) :
    slashed (stem names ++ rulesNames) =
      withSlash (slashed names) ++ rulesPath := by
  rw [← slashed_stem filled h, slashed_append, slashed_append,
    String.append_assoc]
  rfl

/-- The address of the rules keeps the place of the base address. For a base
address of the web it has the same scheme, user, host and port and the same
path, with a slash at its end, in front of the path of the rules, each segment
as it was. Base addresses that differ only in a query, a fragment or a slash at
the end of the path lead to the same address, and one that cannot be read, or
that nothing can be below, leads to none. -/
theorem rules_stand_below_base :
    (∀ base place, Url.parse base = .ok place → place.IsWeb →
      ∃ url, rulesUrl base = .ok url ∧ url.scheme = place.scheme ∧
        url.authority = place.authority ∧ url.query =
          none ∧ url.fragment = none ∧
        url.path.text = withSlash place.path.text ++ rulesPath ∧
        ∃ names, (place.path = .segments names ∨
          place.path = .segments (names ++ [""])) ∧
          url.path = .segments (names ++ rulesNames)) ∧
    (∀ base base' place place', Url.parse base = .ok place →
      Url.parse base' = .ok place' →
      place.IsWeb → place'.scheme = place.scheme →
        place'.authority = place.authority →
        withSlash place'.path.text = withSlash place.path.text →
          rulesUrl base' = rulesUrl base) ∧
    (∀ base e, Url.parse base = .error e → rulesUrl base = .error e) ∧
    ∀ base place text, Url.parse base = .ok place → place.path = .whole text →
      rulesUrl base = .error .baseWithoutPath := by
  refine ⟨fun base place parsed web =>
    ?_, fun base base' place place' parsed parsed' web scheme
    authority path => ?_, fun base e refused => ?_, fun base place text =>
      rulesUrl_of_whole⟩
  · obtain ⟨names, path, filled, segments, address⟩ :=
      rulesUrl_of_parse parsed web.kind
    refine ⟨_, address, rfl, rfl, rfl, rfl, ?_, stem names, ?_, rfl⟩
    · rw [path]
      exact text_below filled segments
    · rw [path, stem]
      split
      · next last =>
          obtain ⟨front, rfl⟩ := List.getLast?_eq_some_iff.1 last
          rw [List.dropLast_concat]
          exact .inr rfl
      · exact .inl rfl
  · have kind : place'.kind = .web := by
      rw [Url.kind, scheme]
      exact web.kind
    obtain ⟨names, segments, filled, h, address⟩ :=
      rulesUrl_of_parse parsed web.kind
    obtain ⟨names', segments', filled', h', address'⟩ :=
      rulesUrl_of_parse parsed' kind
    have same : stem names' = stem names := by
      rw [segments, segments'] at path
      change withSlash (slashed names') = withSlash (slashed names) at path
      rw [← slashed_stem filled h, ← slashed_stem filled' h'] at path
      exact List.append_cancel_right
        (slashed_injective (by decide) ⟨by simp, by simp⟩
          (h'.stem.append (isSegment_empty _))
          (h.stem.append (isSegment_empty _)) path)
    rw [address, address', same, scheme, authority]
  · rw [rulesUrl, refused]
    rfl

/-- A base address with all that a URL can have, and with a slash in a
segment. -/
def sampleBase : String := "http://u:p@[::1]:81/a%2Fb/c?q#f"

theorem sampleBase_is_kept :
    ∃ place url, Url.parse sampleBase = .ok place ∧ place.IsWeb ∧
    rulesUrl sampleBase = .ok url ∧ url.authority = place.authority ∧
    url.path.text = "/a%2Fb/c/api/plugins/angular_patterns" := by
  have read : (Url.parse sampleBase).toOption = some
      { scheme := "http"
        authority := some {
          username := "u", password := "p",
          host := .ipv6 ⟨[0, 0, 0, 0, 0, 0, 0, 1]⟩, port := some 81 }
        path := .segments ["a%2Fb", "c"], query := some "q",
        fragment := some "f" } := by
    decide +kernel
  have parsed := toOption_eq_some_iff.1 read
  obtain ⟨url, address, -, authority, -, -, path, -⟩ :=
    rules_stand_below_base.1 _ _ parsed (.inl rfl)
  exact ⟨_, url, parsed, .inl rfl, address, authority, path.trans (by decide)⟩

end RuleWatch
