import Mathlib.Data.List.Forall2
import Mathlib.Data.List.TakeWhile
import RuleWatch.Proofs.Documents

/-!
Rule sets in any spelling. The elements of a list are read one by one: objects
as the rules that they describe, lists of two or three texts as rules too, and
everything else is refused. Main statement: a list of objects is read as the
rules that the objects describe, in their order, and nothing is read at all when
one of them has a flaw or when something follows the list.
-/

namespace RuleWatch

open Json

namespace Json

def Value.text? : Value → Option String
  | .string text => text
  | _ => none

theorem toOption_readText {v : Value} {ws bs : List UInt8} (hw : Blank ws)
    (hv : Spells (.value v) bs) (r : List UInt8) :
    (readText (ws ++ (bs ++ r))).toOption = v.text?.map fun s => (s, r) := by
  by_cases text : ∃ s, v = .string (some s)
  · obtain ⟨s, rfl⟩ := text
    rw [readText_spells hw hv]
    rfl
  · have other : ∀ s, v ≠ .string (some s) := fun s h => text ⟨s, h⟩
    obtain ⟨f, refused⟩ := readText_spells_of_ne hw hv other r
    have noText : v.text? = none := by
      cases v with
      | string t =>
          cases t with
          | none => rfl
          | some s => exact absurd rfl (other s)
      | _ => rfl
    rw [refused, noText]
    rfl

theorem nextElement_blank (isFirst : Bool) {ws : List UInt8} (h : Blank ws)
    (r : List UInt8) :
    nextElement isFirst (ws ++ byte ']' :: r) = .ok (false, r) := by
  simp [nextElement,
    skipBlanks_cons h (show isBlank (byte ']') = false by decide)]

theorem readListEnd_blank {ws : List UInt8} (h : Blank ws) (r : List UInt8) :
    readListEnd (ws ++ byte ']' :: r) = .ok r := by
  simp [readListEnd,
    skipBlanks_cons h (show isBlank (byte ']') = false by decide)]

/-- Behind as many elements as a list may have, no further one is taken. -/
theorem readListEnd_lead {lead : List UInt8} (hl : Lead false lead)
    (r : List UInt8) :
    ∃ f, readListEnd (lead ++ r) = .error f := by
  have comma : isBlank (byte ',') = false := by decide
  have hc : byte ',' ≠ byte ']' := by decide
  cases hl with
  | @next ws ws' h h' =>
      rw [List.append_assoc, List.cons_append, readListEnd,
        skipBlanks_cons h comma]
      simp only [hc, if_false, if_true]
      cases skipBlanks (ws' ++ r) with
      | nil => exact ⟨_, rfl⟩
      | cons b rest => exact ⟨_, rfl⟩

theorem readEnd_of_blank {rest : List UInt8} (h : Blank rest) :
    readEnd rest = .ok () := by
  have ended := skipBlanks_append h []
  rw [List.append_nil] at ended
  rw [readEnd, ended]
  rfl

theorem readEnd_of_not_blank {rest : List UInt8} (h : ¬ Blank rest) :
    ∃ f, readEnd rest = .error f := by
  rw [readEnd]
  cases left : skipBlanks rest with
  | nil => exact absurd (List.dropWhile_eq_nil_iff.1 left) h
  | cons b more => exact ⟨_, rfl⟩

end Json

namespace Rule

/-! ### Rules as lists -/

/-- The rule that the elements of a list make: a name, a kind, and perhaps a
pattern. -/
def ofElements? : List Value → Option Rule
  | [name, kind] =>
      name.text?.bind fun name => kind.text?.map fun kind => ⟨name, kind, ""⟩
  | [name, kind, pattern] =>
      name.text?.bind fun name => kind.text?.bind fun kind =>
        pattern.text?.map fun pattern => ⟨name, kind, pattern⟩
  | _ => none

theorem ofElements?_of_noText {vs : List Value} {v : Value} (hm : v ∈ vs)
    (noText : v.text? = none) :
    ofElements? vs = none := by
  match vs with
  | [] | [_] | _ :: _ :: _ :: _ :: _ => rfl
  | [name, kind] =>
      obtain rfl | rfl : v = name ∨ v = kind := by simpa using hm
      · simp [ofElements?, noText]
      · simp [ofElements?, noText]
  | [name, kind, pattern] =>
      obtain rfl | rfl | rfl : v = name ∨ v = kind ∨ v = pattern := by
        simpa using hm
      · simp [ofElements?, noText]
      · simp [ofElements?, noText]
      · simp [ofElements?, noText]

theorem readSlot_nil (index : Nat) {bs : List UInt8}
    (h : Spells (.elements (index == 0) []) bs) (r : List UInt8) :
    readSlot index (bs ++ r) = .ok (none, r) := by
  cases h with
  | listEnd h =>
      rw [List.append_assoc, List.singleton_append, readSlot,
        nextElement_blank _ h]

theorem readSlot_cons (index : Nat) {v : Value} {vs : List Value}
    {bs : List UInt8} (h : Spells (.elements (index == 0) (v :: vs)) bs)
    (r : List UInt8) :
    (v.text? = none ∧ ∃ f, readSlot index (bs ++ r) = .error f) ∨
      ∃ s rest, v.text? = some s ∧ Spells (.elements false vs) rest ∧
        readSlot index (bs ++ r) = .ok (some s, rest ++ r) := by
  cases h with
  | @element _ _ _ lead bs rest hl hv hr =>
      have text := toOption_readText blank_nil hv (rest ++ r)
      obtain ⟨b, more, bytes, begins⟩ := hv.exists_cons
      rw [bytes, List.nil_append, List.cons_append] at text
      rw [List.append_assoc, List.append_assoc, bytes, List.cons_append,
        readSlot, nextElement_lead hl begins.notBlank begins.notClosing.1]
      cases read : readText (b :: (more ++ (rest ++ r))) with
      | error f =>
          rw [read] at text
          exact .inl ⟨by simpa [Except.toOption] using text.symm,
            f, by simp [read]⟩
      | ok found =>
          rw [read] at text
          obtain ⟨s, isText, same⟩ := Option.map_eq_some_iff.1 text.symm
          subst same
          exact .inr ⟨s, rest, isText, hr, by simp [read]⟩

/-- A list is read to its end as the rule that its elements make, and refused
when they make none. -/
theorem readSlots_spells {vs : List Value} {bs : List UInt8}
    (h : Spells (.elements true vs) bs) (r : List UInt8) :
    (readSlots (bs ++ r)).toOption =
      (ofElements? vs).map fun rule => (rule, r) := by
  -- The elements are taken in turn, until one is no text or the list has ended.
  match vs, h with
  | [], h =>
      simp only [readSlots, readSlot_nil 0 h]
      rfl
  | name :: vs, h =>
      obtain ⟨noText, f, refused⟩ | ⟨s, bs₁, isName, h₁, taken⟩ :=
        readSlot_cons 0 h r
      · simp [readSlots, refused,
          ofElements?_of_noText (List.mem_cons_self ..) noText, Except.toOption]
      match vs, h₁ with
      | [], h₁ =>
          simp only [readSlots, taken, readSlot_nil 1 h₁]
          rfl
      | kind :: vs, h₁ =>
          obtain ⟨noText, f, refused⟩ | ⟨s', bs₂, isKind, h₂, taken'⟩ :=
            readSlot_cons 1 h₁ r
          · simp [readSlots, taken, refused, Except.toOption,
              ofElements?_of_noText
                (show kind ∈ name :: kind :: vs by simp) noText]
          match vs, h₂ with
          | [], h₂ =>
              simp [readSlots, taken, taken', readSlot_nil 2 h₂, ofElements?,
                isName, isKind, Except.toOption]
          | pattern :: vs, h₂ =>
              obtain ⟨noText, f, refused⟩ | ⟨s'', bs₃,
                  isPattern, h₃, taken''⟩ :=
                readSlot_cons 2 h₂ r
              · simp [readSlots, taken, taken', refused, Except.toOption,
                  ofElements?_of_noText
                    (show pattern ∈ name :: kind :: pattern :: vs by simp)
                      noText]
              simp only [readSlots, taken, taken', taken'']
              cases h₃ with
              | listEnd blank =>
                  rw [List.append_assoc, List.singleton_append,
                    readListEnd_blank blank]
                  simp [ofElements?, isName, isKind, isPattern, Except.toOption]
              | element hl hv hr =>
                  obtain ⟨f, refused⟩ := readListEnd_lead hl _
                  rw [List.append_assoc, refused]
                  rfl

/-! ### Rules as values -/

def ofValue? : Value → Option Rule
  | .list vs => ofElements? vs
  | .object ms => Draft.ofMembers? {} ms
  | _ => none

theorem toOption_read_of_ne {b : UInt8} (notBlank : isBlank b = false)
    (list : b ≠ byte '[') (object : b ≠ byte '\x7b') (r : List UInt8) :
    (read (b :: r)).toOption = none := by
  rw [read, skipBlanks_of_not_blank notBlank]
  simp [list, object, Except.toOption]

theorem toOption_read {v : Value} {bs : List UInt8} (h : Spells (.value v) bs)
    (r : List UInt8) :
    (read (bs ++ r)).toOption = (ofValue? v).map fun rule => (rule, r) := by
  have brackets : byte '\x7b' ≠ byte '[' := by decide
  obtain ⟨first, more, bytes, start⟩ := h.exists_cons
  cases h with
  | null => exact toOption_read_of_ne (by decide) (by decide) (by decide) _
  | yes => exact toOption_read_of_ne (by decide) (by decide) (by decide) _
  | no => exact toOption_read_of_ne (by decide) (by decide) (by decide) _
  | string h => exact toOption_read_of_ne (by decide) (by decide) (by decide) _
  | number h =>
      -- It begins with a digit or a sign, and so with neither of the brackets.
      obtain ⟨b, rest, rfl, begins⟩ := h.exists_cons
      obtain ⟨rfl, rfl⟩ := List.cons.inj bytes
      have list : b ≠ byte '[' := by
        rintro rfl
        exact absurd begins (by decide)
      have object : b ≠ byte '\x7b' := by
        rintro rfl
        exact absurd begins (by decide)
      exact toOption_read_of_ne start.notBlank list object _
  | list h =>
      rw [read, List.cons_append, skipBlanks_of_not_blank (by decide)]
      simpa [ofValue?] using readSlots_spells h r
  | object h =>
      rw [read, List.cons_append, skipBlanks_of_not_blank (by decide)]
      simpa [ofValue?, brackets] using readMembers_spells h {} r

/-! ### Flaws -/

/-- What keeps an object from describing a rule: a field that it needs is not
there, or one of the three fields is there more than once or is no text. -/
inductive Flaw (ms : Members) : Prop
  | missing {f : Field} (needed : f ≠ .pattern) (h : valuesOf ms f = [])
  | repeated {f : Field} (h : 2 ≤ (valuesOf ms f).length)
  | noText {f : Field} {v : Value} (h : v ∈ valuesOf ms f)
      (other : ∀ s, v ≠ .string (some s))

theorem Describes.values {ms : Members} {r : Rule}
    (h : Describes ms r) (f : Field) :
    (∃ s, valuesOf ms f = [.string (some s)]) ∨
      valuesOf ms f = [] ∧ f = .pattern := by
  cases f with
  | name => exact .inl ⟨_, h.name⟩
  | kind => exact .inl ⟨_, h.kind⟩
  | pattern =>
      exact h.pattern.imp (fun there => ⟨_, there⟩) fun absent =>
        ⟨absent.1, rfl⟩

theorem Flaw.not_describes {ms : Members} (h : Flaw ms) (r : Rule) :
    ¬ Describes ms r := by
  intro describes
  cases h with
  | @missing f needed h =>
      obtain ⟨s, there⟩ | ⟨-, isPattern⟩ := describes.values f
      · simp [h] at there
      · exact needed isPattern
  | @repeated f h =>
      obtain ⟨s, there⟩ | ⟨absent, -⟩ := describes.values f
      · simp [there] at h
      · simp [absent] at h
  | @noText f v h other =>
      obtain ⟨s, there⟩ | ⟨absent, -⟩ := describes.values f
      · exact other s (by simpa [there] using h)
      · simp [absent] at h

/-- When its keys are texts, nothing but a flaw keeps an object from describing
a rule. -/
theorem exists_describes_iff {ms : Members} (keys : ∀ m ∈ ms, m.1.isSome) :
    (∃ r, Describes ms r) ↔ ¬ Flaw ms := by
  refine ⟨fun ⟨r, h⟩ flaw => flaw.not_describes r h, fun sound => ?_⟩
  have values (f : Field) :
      (∃ s, valuesOf ms f = [.string (some s)]) ∨
        valuesOf ms f = [] ∧ f = .pattern := by
    cases held : valuesOf ms f with
    | nil =>
        exact .inr ⟨rfl, by_contra fun needed => sound (.missing needed held)⟩
    | cons v vs =>
        by_cases text : ∃ s, v = .string (some s)
        · obtain ⟨s, rfl⟩ := text
          cases vs with
          | nil => exact .inl ⟨s, rfl⟩
          | cons _ _ => exact absurd (.repeated (f := f) (by simp [held])) sound
        · exact absurd (.noText (f := f) (v := v) (by simp [held]) fun s h =>
            text ⟨s, h⟩) sound
  obtain ⟨name, hn⟩ | ⟨-, other⟩ := values .name
  swap
  · cases other
  obtain ⟨kind, hk⟩ | ⟨-, other⟩ := values .kind
  swap
  · cases other
  obtain ⟨pattern, hp⟩ | ⟨hp, -⟩ := values .pattern
  · exact ⟨⟨name, kind, pattern⟩, keys, hn, hk, .inl hp⟩
  · exact ⟨⟨name, kind, ""⟩, keys, hn, hk, .inr ⟨hp, rfl⟩⟩

end Rule

namespace RuleSet

/-! ### Lists of rules -/

theorem readElements_end {isFirst : Bool} {ws : List UInt8} (h : Blank ws)
    (done : List Rule) (r : List UInt8) :
    readElements isFirst done (ws ++ byte ']' :: r) =
      .ok (done.reverse, r) := by
  have last := nextElement_blank isFirst h r
  rw [readElements]
  split <;> simp_all

theorem readElements_element {isFirst : Bool} {v : Value} {lead bs : List UInt8}
    (hl : Lead isFirst lead) (hv : Spells (.value v) bs) (done : List Rule)
    (r : List UInt8) :
    (readElements isFirst done (lead ++ (bs ++ r))).toOption =
      (Rule.ofValue? v).bind fun rule =>
        (readElements false (rule :: done) r).toOption := by
  have rule := Rule.toOption_read hv r
  obtain ⟨b, more, bytes, begins⟩ := hv.exists_cons
  rw [bytes, List.cons_append] at rule
  have next :=
    nextElement_lead hl begins.notBlank begins.notClosing.1 (more ++ r)
  rw [bytes, List.cons_append, readElements]
  split
  · simp_all
  · simp_all
  · next hn =>
      rw [next] at hn
      cases hn
      split
      · next hr =>
          rw [hr] at rule
          cases made : Rule.ofValue? v with
          | none => rfl
          | some _ => simp [made, Except.toOption] at rule
      · next hr =>
          rw [hr] at rule
          cases made : Rule.ofValue? v with
          | none => simp [made, Except.toOption] at rule
          | some _ =>
              simp only [made, Except.toOption, Option.map_some,
                Option.some.injEq, Prod.mk.injEq] at rule
              obtain ⟨rfl, rfl⟩ := rule
              rfl

theorem readElements_spells {vs : List Value} {isFirst : Bool} {bs : List UInt8}
    (h : Spells (.elements isFirst vs) bs) (done : List Rule) (r : List UInt8) :
    (readElements isFirst done (bs ++ r)).toOption =
      (vs.mapM Rule.ofValue?).map fun rules => (done.reverse ++ rules, r) := by
  induction vs generalizing isFirst bs done with
  | nil =>
      cases h with
      | listEnd h =>
          rw [List.append_assoc, List.singleton_append, readElements_end h]
          simp [Except.toOption]
  | cons v vs ih =>
      cases h with
      | element hl hv hr =>
          rw [List.append_assoc, List.append_assoc, readElements_element hl hv]
          cases made : Rule.ofValue? v with
          | none => simp [List.mapM_cons, made]
          | some rule =>
              rw [Option.bind_some, ih hr, List.mapM_cons, made]
              cases vs.mapM Rule.ofValue? <;> simp

theorem toOption_read {vs : List Value} {ws bs : List UInt8} (hw : Blank ws)
    (hv : Spells (.value (.list vs)) bs) (r : List UInt8) :
    (read (ws ++ (bs ++ r))).toOption =
      (vs.mapM Rule.ofValue?).map fun rules => (rules, r) := by
  cases hv with
  | list h =>
      rw [read, List.cons_append, skipBlanks_cons hw (by decide)]
      simpa using readElements_spells h [] r

theorem mapM_ofValue?_eq_some_iff {vs : List Value} {rules : RuleSet} :
    vs.mapM Rule.ofValue? = some rules ↔
      List.Forall₂ (fun v r => Rule.ofValue? v = some r) vs rules := by
  induction vs generalizing rules with
  | nil => cases rules <;> simp
  | cons v vs ih =>
      rw [List.mapM_cons]
      constructor
      · intro h
        obtain ⟨rule, made, rest⟩ := Option.bind_eq_some_iff.1 h
        obtain ⟨others, madeOthers, last⟩ := Option.bind_eq_some_iff.1 rest
        cases last
        exact .cons made (ih.1 madeOthers)
      · rintro (_ | ⟨made, others⟩)
        rw [made, ih.2 others]
        rfl

/-- A list is read as the rules that its elements make, when all of them make
one and nothing but blanks follows. -/
theorem decode_spells_eq_ok_iff {vs : List Value} {ws bs rest : List UInt8}
    (hw : Blank ws) (hv : Spells (.value (.list vs)) bs) {rules : RuleSet} :
    decode (ws ++ (bs ++ rest)) = .ok rules ↔
      List.Forall₂ (fun v r => Rule.ofValue? v = some r) vs rules ∧
        Blank rest := by
  have found := toOption_read hw hv rest
  rw [← mapM_ofValue?_eq_some_iff, decode, readDocument]
  cases hr : read (ws ++ (bs ++ rest)) with
  | error f =>
      rw [hr] at found
      cases made : vs.mapM Rule.ofValue? with
      | none => simp
      | some _ => simp [made, Except.toOption] at found
  | ok result =>
      rw [hr] at found
      obtain ⟨made, hm, same⟩ := Option.map_eq_some_iff.1 found.symm
      subst same
      by_cases blank : Blank rest
      · simp [readEnd_of_blank blank, hm, blank]
      · obtain ⟨f, refused⟩ := readEnd_of_not_blank blank
        simp [refused, blank]

theorem forall₂_ofValue?_object {objects : List Members} {rules : RuleSet} :
    List.Forall₂ (fun v r => Rule.ofValue? v = some r)
      (objects.map .object) rules ↔
      List.Forall₂ Rule.Describes objects rules := by
  simp only [List.forall₂_map_left_iff, Rule.ofValue?,
    Rule.ofMembers?_eq_some_iff]

/-- A list of objects, however it is spelled, is read as the rules that the
objects describe, in their order. -/
theorem decode_eq_ok_iff {objects : List Members} {body : List UInt8}
    (h : Document (.list (objects.map .object)) body) {rules : RuleSet} :
    decode body = .ok rules ↔ List.Forall₂ Rule.Describes objects rules := by
  cases h with
  | mk hw hv hw' =>
      rw [decode_spells_eq_ok_iff hw hv, forall₂_ofValue?_object,
        and_iff_left hw']

/-- Main statement: a list of objects that describe rules is read as these
rules, in their order, when only blanks stand around it. A list with an object
that has a flaw is refused, whatever its other elements are, and so is any list
with something else behind it. -/
theorem list_is_read_or_refused {vs : List Value} {ws bs rest : List UInt8}
    (hw : Blank ws) (hv : Spells (.value (.list vs)) bs) :
    (∀ objects rules, vs = objects.map .object →
      List.Forall₂ Rule.Describes objects rules →
      Blank rest → decode (ws ++ (bs ++ rest)) = .ok rules) ∧
    ((∃ ms, .object ms ∈ vs ∧ Rule.Flaw ms) ∨ ¬ Blank rest →
      ∃ refusal, decode (ws ++ (bs ++ rest)) = .error refusal) := by
  refine ⟨?_, fun flawed => ?_⟩
  · rintro objects rules rfl described blank
    exact (decode_spells_eq_ok_iff hw hv).2
      ⟨forall₂_ofValue?_object.2 described, blank⟩
  · cases decoded : decode (ws ++ (bs ++ rest)) with
    | error refusal => exact ⟨refusal, rfl⟩
    | ok rules =>
        obtain ⟨made, blank⟩ := (decode_spells_eq_ok_iff hw hv).1 decoded
        obtain ⟨ms, hm, flaw⟩ | notBlank := flawed
        · -- Every element of the list made a rule, the flawed one among them.
          obtain ⟨i, hi, here⟩ := List.getElem_of_mem hm
          have rule :=
            List.Forall₂.get made hi (by rw [← made.length_eq]; exact hi)
          rw [List.get_eq_getElem, here] at rule
          exact absurd (Rule.ofMembers?_eq_some_iff.1 rule)
            (flaw.not_describes _)
        · exact absurd blank notBlank

def sampleMembers : Members :=
  [(some "id", .list [.null]), (some "name", .string (some "a")),
    (some "type", .string (some "contains"))]

def sampleList : List UInt8 :=
  "[\x7b\"id\":[null],\"n\\u0061me\":\"a\",\"type\":\"contains\"\x7d]".toList.map
    byte

theorem sampleList_spells :
    Spells (.value (.list [.object sampleMembers])) sampleList := by
  have number : HexForm 'a'.toNat ("0061".toList.map byte) :=
    .four (p := 0) (q := 0) (r := 6) (s := 1) ⟨by decide, .inl rfl⟩
      ⟨by decide, .inl rfl⟩ ⟨by decide, .inl rfl⟩ ⟨by decide, .inl rfl⟩
  have plain (c : Char)
      (h : (c != '"' && c != '\\' && decide (32 ≤ c.toNat)) = true) :
      CharForm c (String.utf8EncodeChar c) := by
    simp only [Bool.and_eq_true, bne_iff_ne, decide_eq_true_eq] at h
    exact .itself h.1.1 h.1.2 h.2
  have letters := TextForm.cons (plain 'n' (by decide)) <|
    .cons (.number number) <|
    .cons (plain 'm' (by decide)) <| .cons (plain 'e' (by decide)) .nil
  have name : StringForm (some "name") _ := .text letters
  have list : Spells (.value (.list [.null])) ("[null]".toList.map byte) :=
    .list (.element (.first blank_nil) .null (.listEnd blank_nil))
  have text (s : String)
      (h :
        (s.toList.all fun c => c != '"' && c != '\\' && decide (32 ≤ c.toNat)) =
          true) :=
    Spells.string (StringForm.itself s h)
  have elements := Spells.element (.first blank_nil) (.object <|
    .firstMember (.itself "id" (by decide)) list <|
    .nextMember name (text "a" (by decide)) <|
    .nextMember (.itself "type" (by decide)) (text "contains" (by decide))
      (.objectEnd blank_nil)) (.listEnd blank_nil)
  convert Spells.list elements using 1
  · rfl
  · decide +kernel

theorem sampleList_is_read_or_refused :
    decode ([byte ' '] ++ (sampleList ++ [byte ' '])) =
      .ok [⟨"a", "contains", ""⟩] ∧
      ∃ refusal, decode ([byte ' '] ++ (sampleList ++ [byte ','])) =
        .error refusal := by
  have blank : Blank [byte ' '] := by simp [Blank, isBlank, byte]
  have notBlank : ¬ Blank [byte ','] := by simp [Blank, isBlank, byte]
  have described : Rule.Describes sampleMembers ⟨"a", "contains", ""⟩ :=
    ⟨by simp [sampleMembers],
      by simp [sampleMembers, Rule.valuesOf, Rule.Field.key],
      by simp [sampleMembers, Rule.valuesOf, Rule.Field.key],
      .inr (by simp [sampleMembers, Rule.valuesOf, Rule.Field.key])⟩
  exact ⟨(list_is_read_or_refused blank sampleList_spells).1 [sampleMembers] _
    rfl (.cons described .nil) blank,
    (list_is_read_or_refused blank sampleList_spells).2 (.inr notBlank)⟩

end RuleSet

end RuleWatch
