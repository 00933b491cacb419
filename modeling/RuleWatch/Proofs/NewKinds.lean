import RuleWatch.Proofs.RuleLists
import RuleWatch.Proofs.Fetching
import RuleWatch.Proofs.Gates

/-!
Rules of kinds to come. A list may hold elements of kinds that are not known
here, with fields that are not known either, and a refresh passes them over: it
puts in place the detectors of the other elements, in their order. Only the
pattern of such an element cannot be anything, since the rule is stored with it:
a pattern that is there has to be a text, or the whole body is refused.
-/

namespace RuleWatch

open Json

/-! ### Objects without repeated keys -/

namespace Rule

theorem valuesOf_eq_nil {ms : Members} {f : Field}
    (h : ∀ v, (some f.key, v) ∉ ms) :
    valuesOf ms f = [] := by
  rw [valuesOf, List.map_eq_nil_iff, List.filter_eq_nil_iff]
  rintro ⟨key, v⟩ hm same
  rw [decide_eq_true_eq] at same
  subst same
  exact h v hm

theorem mem_of_valuesOf {ms : Members} {f : Field} {v : Value}
    (h : valuesOf ms f = [v]) :
    (some f.key, v) ∈ ms := by
  have there : v ∈ valuesOf ms f := by simp [h]
  obtain ⟨⟨key, v'⟩, hm, rfl⟩ := List.mem_map.1 there
  obtain ⟨hm, key⟩ := List.mem_filter.1 hm
  rw [decide_eq_true_eq] at key
  exact key ▸ hm

theorem valuesOf_of_mem {ms : Members} {f : Field} {v : Value}
    (distinct : (ms.filterMap Prod.fst).Nodup) (h : (some f.key, v) ∈ ms) :
    valuesOf ms f = [v] := by
  induction ms with
  | nil => cases h
  | cons m ms ih =>
      have there {v : Value} (hm : (some f.key, v) ∈ ms) :
          f.key ∈ ms.filterMap Prod.fst :=
        List.mem_filterMap.2 ⟨_, hm, rfl⟩
      rw [valuesOf_cons]
      rcases List.mem_cons.1 h with rfl | later
      · simp only [List.filterMap_cons, List.nodup_cons] at distinct
        have rest : valuesOf ms f = [] :=
          valuesOf_eq_nil fun v' hm => distinct.1 (there hm)
        rw [rest]
        simp [valuesOf]
      · obtain ⟨_ | key, v'⟩ := m
        · rw [List.filterMap_cons_none rfl] at distinct
          rw [ih distinct later]
          simp [valuesOf]
        · simp only [List.filterMap_cons, List.nodup_cons] at distinct
          have first : key ≠ f.key :=
            fun same => distinct.1 (same ▸ there later)
          rw [ih distinct.2 later]
          simp [valuesOf, first]

/-- An element of a published list: no key is there twice, name and kind are
strings, and with a known kind comes a pattern that compiles. -/
structure IsPublished (ms : Members) : Prop where
  distinct : (ms.filterMap Prod.fst).Nodup
  name : ∃ text, (some Field.name.key, .string text) ∈ ms
  kind : ∃ text, (some Field.kind.key, .string text) ∈ ms
  pattern : ∀ kind, (some Field.kind.key, .string (some kind)) ∈ ms →
    (RuleKind.ofTag? kind).isSome →
      ∃ pattern, (some Field.pattern.key, .string (some pattern)) ∈ ms ∧
      ∀ name, ∃ d, Rule.compile ⟨name, kind, pattern⟩ = .ok d

/-- An element in which all keys are texts, and name, kind and pattern as far as
they are there. -/
structure IsPlain (ms : Members) : Prop where
  keys : ∀ m ∈ ms, m.1.isSome
  values : ∀ f v, (some (Field.key f), v) ∈ ms → ∃ text, v = .string (some text)

section

variable {ms : Members} {r : Rule}

theorem IsPublished.describes (h : IsPublished ms) (plain : IsPlain ms) :
    ∃ r, Describes ms r := by
  have held (f : Field) {v : Value} (hv : (some f.key, v) ∈ ms) :
      ∃ text, valuesOf ms f = [.string (some text)] := by
    obtain ⟨text, rfl⟩ := plain.values f v hv
    exact ⟨text, valuesOf_of_mem h.distinct hv⟩
  obtain ⟨_, hasName⟩ := h.name
  obtain ⟨_, hasKind⟩ := h.kind
  obtain ⟨name, hn⟩ := held .name hasName
  obtain ⟨kind, hk⟩ := held .kind hasKind
  by_cases there : ∃ v, (some Field.pattern.key, v) ∈ ms
  · obtain ⟨v, hv⟩ := there
    obtain ⟨pattern, hp⟩ := held .pattern hv
    exact ⟨⟨name, kind, pattern⟩, plain.keys, hn, hk, .inl hp⟩
  · have none := valuesOf_eq_nil fun v hv => there ⟨v, hv⟩
    exact ⟨⟨name, kind, ""⟩, plain.keys, hn, hk, .inr ⟨none, rfl⟩⟩

theorem IsPublished.isPlain (h : IsPublished ms) (d : Describes ms r) :
    IsPlain ms := by
  refine ⟨d.keys, fun f v hv => ?_⟩
  have held := valuesOf_of_mem h.distinct hv
  have text {s : String} (same : valuesOf ms f = [.string (some s)]) :
      ∃ text, v = .string (some text) := by
    rw [held, List.cons.injEq] at same
    exact ⟨s, same.1⟩
  cases f with
  | name => exact text d.name
  | kind => exact text d.kind
  | pattern =>
      rcases d.pattern with same | ⟨none, -⟩
      · exact text same
      · rw [held] at none
        cases none

theorem IsPublished.wellFormed (h : IsPublished ms) (d : Describes ms r) :
    ¬ r.IsMalformed := by
  intro malformed
  have ⟨known, tag, _⟩ := malformed
  have isKind : (some Field.kind.key, .string (some r.kind)) ∈ ms :=
    mem_of_valuesOf d.kind
  obtain ⟨pattern, isPattern, compiles⟩ :=
    h.pattern r.kind isKind (by simp [tag])
  have held := valuesOf_of_mem h.distinct isPattern
  have same : r.pattern = pattern := by
    rcases d.pattern with same | ⟨none, -⟩
    · rw [held] at same
      simpa using same.symm
    · rw [held] at none
      cases none
  obtain ⟨detector, compiled⟩ := compiles r.name
  rw [← same] at compiled
  exact Rule.wellFormed_of_compile compiled malformed

end

end Rule

/-! ### Lists of published elements -/

theorem exists_forall₂ {α β : Type} {p : α → β → Prop} {xs : List α}
    (h : ∀ x ∈ xs, ∃ y, p x y) :
    ∃ ys, List.Forall₂ p xs ys := by
  induction xs with
  | nil => exact ⟨[], .nil⟩
  | cons x xs ih =>
      rw [List.forall_mem_cons] at h
      obtain ⟨y, hy⟩ := h.1
      obtain ⟨ys, hys⟩ := ih h.2
      exact ⟨y :: ys, .cons hy hys⟩

theorem exists_of_mem_right {α β : Type} {p : α → β → Prop} {xs : List α}
    {ys : List β} (h : List.Forall₂ p xs ys) : ∀ y ∈ ys, ∃ x ∈ xs, p x y := by
  induction h with
  | nil => simp
  | @cons x y xs ys first others ih =>
      refine List.forall_mem_cons.2
        ⟨⟨x, List.mem_cons_self .., first⟩, fun y hy => ?_⟩
      obtain ⟨x, hx, h⟩ := ih y hy
      exact ⟨x, List.mem_cons_of_mem _ hx, h⟩

namespace Shared

section

variable {s : Shared} {now : Instant} {base : String} {net : Network}
  {status : Nat} {body : List UInt8} {objects : List Members}

/-- Plain elements are read, and the detectors of those of known kinds are put
in place. -/
theorem update_of_plain (source : s.source = .api base net)
    (answered : net.Answers base status body)
    (success : 200 ≤ status ∧ status < 300)
    (document : Document (.list (objects.map .object)) body)
    (published : ∀ ms ∈ objects, Rule.IsPublished ms)
    (writable : ∀ raw, ∃ store, s.store.set raw now = .ok store)
    (plain : ∀ ms ∈ objects, Rule.IsPlain ms) :
    ∃ rules s' events, List.Forall₂ Rule.Describes objects rules ∧
      s.update now = (.ok s'.snapshot.count, s', events) ∧
      s'.snapshot.detectors.map .ok =
        (rules.filter fun r => (RuleKind.ofTag? r.kind).isSome).map
          Rule.compile := by
  have describes : ∀ ms ∈ objects, ∃ r, Rule.Describes ms r := fun ms hm =>
    (published ms hm).describes (plain ms hm)
  obtain ⟨rules, described⟩ := exists_forall₂ describes
  have fetched : s.source.answer.1 = .ok rules := by
    have found := (RuleSet.decode_eq_ok_iff document).2 described
    rw [source]
    exact Source.fetch_eq_ok_iff.2 ⟨status, body, answered, success, found⟩
  have good : ∀ r ∈ rules, ¬ r.IsMalformed := fun r hr => by
    obtain ⟨ms, hm, d⟩ := exists_of_mem_right described r hr
    exact (published ms hm).wellFormed d
  obtain ⟨store, written⟩ := writable (RuleSet.encode rules)
  have installed := update_installed fetched good written
  refine ⟨rules, (s.update now).2.1, (s.update now).2.2, described, ?_, ?_⟩
  · rw [installed]
    rfl
  · rw [installed]
    exact (RuleSet.map_compile_known good).symm

/-- One element that is not plain is enough for the whole body to be refused. -/
theorem update_of_not_plain (source : s.source = .api base net)
    (answered : net.Answers base status body)
    (success : 200 ≤ status ∧ status < 300)
    (document : Document (.list (objects.map .object)) body)
    (published : ∀ ms ∈ objects, Rule.IsPublished ms)
    (notPlain : ∃ ms ∈ objects, ¬ Rule.IsPlain ms) :
    ∃ refusal s' events,
      s.update now = (.error (.fetch (.decode refusal)), s', events) ∧
      s'.snapshot = s.snapshot ∧ s'.store = s.store := by
  obtain ⟨ms, hm, notPlain⟩ := notPlain
  cases decoded : RuleSet.decode body with
  | ok rules =>
      have described := (RuleSet.decode_eq_ok_iff document).1 decoded
      obtain ⟨r, -, d⟩ := exists_of_mem_right described.flip ms hm
      exact absurd ((published ms hm).isPlain d) notPlain
  | error refusal =>
      have failed : s.source.answer.1 = .error (.decode refusal) := by
        rw [source]
        exact Source.fetch_of_refused answered success decoded
      exact ⟨refusal, _, _, update_unfetched failed, rfl, rfl⟩

/-- New kinds are passed over. When a success is answered whose body, however it
is spelled, lists published elements, a refresh puts in place the detectors of
those of known kinds, in their order, whatever else the others hold; but where
an element is not plain the body is refused, and nothing changes. -/
theorem new_kinds_are_passed_over (source : s.source = .api base net)
    (answered : net.Answers base status body)
    (success : 200 ≤ status ∧ status < 300)
    (document : Document (.list (objects.map .object)) body)
    (published : ∀ ms ∈ objects, Rule.IsPublished ms)
    (writable : ∀ raw, ∃ store, s.store.set raw now = .ok store) :
    ((∀ ms ∈ objects, Rule.IsPlain ms) →
      ∃ rules s' events, List.Forall₂ Rule.Describes objects rules ∧
        s.update now = (.ok s'.snapshot.count, s', events) ∧
        s'.snapshot.detectors.map .ok =
          (rules.filter fun r => (RuleKind.ofTag? r.kind).isSome).map
            Rule.compile) ∧
      ((∃ ms ∈ objects, ¬ Rule.IsPlain ms) →
        ∃ refusal s' events,
          s.update now = (.error (.fetch (.decode refusal)), s', events) ∧
          s'.snapshot = s.snapshot ∧ s'.store = s.store) :=
  ⟨update_of_plain source answered success document published writable,
    update_of_not_plain source answered success document published⟩

end

/-! ### An element of a kind to come -/

def futureElement (extra : Option String × Value) : Members :=
  [(some "name", .string (some "q")), (some "type", .string (some "q")), extra]

def futureBody (key value : String) : List UInt8 :=
  ("[\x7b\"name\":\"q\",\"type\":\"q\",\"" ++ key ++ "\":" ++ value ++
    "\x7d]").toList.map byte

def fetching (body : List UInt8) : Shared :=
  ⟨.memory {}, .api "http://[::1]" (.always ⟨200, none, .ok body⟩), .initial⟩

theorem fetching_answers (body : List UInt8) :
    (Network.always ⟨200, none, .ok body⟩).Answers "http://[::1]" 200 body := by
  obtain ⟨url, address, web⟩ := Network.rulesUrl_loopback
  exact Network.answers_always address web 200 body

theorem futureBody_spells {extra : Option String × Value} {key value : String}
    (hk : StringForm extra.1 (key.toList.map byte))
    (hv : Spells (.value extra.2) (value.toList.map byte)) :
    Document (.list ([futureElement extra].map .object))
      (futureBody key value) := by
  have q := Spells.string (StringForm.itself "q" (by decide))
  have elements := Spells.element (.first blank_nil) (.object <|
    .firstMember (.itself "name" (by decide)) q <|
    .nextMember (.itself "type" (by decide)) q <|
    .nextMember hk hv (.objectEnd blank_nil)) (.listEnd blank_nil)
  have document := Document.bare (.list elements)
  simpa [futureBody, futureElement, Text.encode,
    utf8EncodeChar_of_lt] using document

theorem futureElement_published {extra : Option String × Value}
    (distinct : ((futureElement extra).filterMap Prod.fst).Nodup) :
    ∀ ms ∈ [futureElement extra], Rule.IsPublished ms := by
  have kind : (some Rule.Field.kind.key, .string (some "q")) ∈
      futureElement extra := by
    simp [futureElement, Rule.Field.key]
  rw [List.forall_mem_singleton]
  refine ⟨distinct, ⟨some "q", by simp [futureElement, Rule.Field.key]⟩,
    ⟨some "q", kind⟩, fun kind' hk known => ?_⟩
  have same := (Rule.valuesOf_of_mem distinct kind).symm.trans
    (Rule.valuesOf_of_mem distinct hk)
  simp only [List.cons.injEq, Value.string.injEq,
    Option.some.injEq, and_true] at same
  subst same
  exact absurd known (by decide)

theorem futureElement_is_passed_over :
    ∃ rules s' events,
      List.Forall₂ Rule.Describes [futureElement (some "id", .null)] rules ∧
      (fetching (futureBody "id" "null")).update .epoch =
        (.ok s'.snapshot.count, s', events) ∧
      s'.snapshot.detectors.map .ok =
        (rules.filter fun r => (RuleKind.ofTag? r.kind).isSome).map
          Rule.compile := by
  have key : StringForm (some "id") ("id".toList.map byte) :=
    .itself "id" (by decide)
  have document :
      Document (.list ([futureElement (some "id", .null)].map .object))
      (futureBody "id" "null") := futureBody_spells key .null
  refine (new_kinds_are_passed_over rfl (fetching_answers _)
    (by decide) document (futureElement_published (by decide)) fun raw =>
      ⟨_, rfl⟩).1 ?_
  rw [List.forall_mem_singleton]
  refine ⟨by decide, fun f v hv => ?_⟩
  simp only [futureElement, List.mem_cons, Prod.mk.injEq, Option.some.injEq,
    List.not_mem_nil, or_false] at hv
  rcases hv with ⟨-, rfl⟩ | ⟨-, rfl⟩ | ⟨other, -⟩
  · exact ⟨"q", rfl⟩
  · exact ⟨"q", rfl⟩
  · cases f <;> exact absurd other (by decide)

/-- Whether a body lists published elements, and is refused all the same. -/
def RefusesPublished (body : List UInt8) : Prop :=
  ∃ objects : List Members, Document (.list (objects.map .object)) body ∧
    (∀ ms ∈ objects, Rule.IsPublished ms) ∧
    ∃ refusal s' events,
      (fetching body).update .epoch =
        (.error (.fetch (.decode refusal)), s', events)

theorem futureBody_refused (extra : Option String × Value) {key value : String}
    (hk : StringForm extra.1 (key.toList.map byte))
    (hv : Spells (.value extra.2) (value.toList.map byte))
    (distinct : ((futureElement extra).filterMap Prod.fst).Nodup)
    (notPlain : ¬ Rule.IsPlain (futureElement extra)) :
    RefusesPublished (futureBody key value) := by
  have document := futureBody_spells hk hv
  have published := futureElement_published distinct
  have source : (fetching (futureBody key value)).source = .api "http://[::1]"
      (.always ⟨200, none, .ok (futureBody key value)⟩) := rfl
  obtain ⟨refusal, s', events, refused,
      -⟩ := update_of_not_plain source (fetching_answers _)
    (by decide) document published ⟨_, List.mem_singleton_self _, notPlain⟩
  exact ⟨_, document, published, refusal, s', events, refused⟩

/-- Not every body that lists published elements is accepted: a number in place
of a pattern is refused, and so is a key that is no text. -/
theorem number_for_pattern_is_refused :
    RefusesPublished (futureBody "pattern" "5") ∧
      RefusesPublished (futureBody "\\udc00" "5") := by
  have whole : WholeForm [byte '5'] := .digits (by decide) (by decide) (by simp)
  have five : Spells (.value (.number [byte '5'])) ("5".toList.map byte) :=
    .number (.parts (.inl rfl) whole .none .none)
  constructor
  · have key : StringForm (some "pattern") ("pattern".toList.map byte) :=
      .itself "pattern" (by decide)
    refine futureBody_refused (some "pattern", .number [byte '5'])
      key five (by decide) fun plain => ?_
    obtain ⟨text, ht⟩ := plain.values .pattern (.number [byte '5']) (by
      simp [futureElement, Rule.Field.key])
    cases ht
  · have form : HexForm 0xDC00 ("dc00".toList.map byte) :=
      .four (p := 13) (q := 12) (r := 0) (s := 0) ⟨by decide, .inl rfl⟩
        ⟨by decide, .inl rfl⟩ ⟨by decide, .inl rfl⟩ ⟨by decide, .inl rfl⟩
    have key : StringForm none ("\\udc00".toList.map byte) :=
      .low form (by decide) .nil
    refine futureBody_refused (none, .number [byte '5']) key five
      (by decide) fun plain => ?_
    have isText :=
      plain.keys (none, .number [byte '5']) (by simp [futureElement])
    cases isText

end Shared

end RuleWatch
