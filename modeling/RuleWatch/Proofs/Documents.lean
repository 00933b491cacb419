import RuleWatch.Proofs.ValueForms
import RuleWatch.Proofs.WrittenRules

/-!
Rules in any spelling. An object is read as the rule that it describes, and
refused when it describes none: its name and its kind have to be there once, and
its pattern at most once, all of them texts. Whatever else the object holds
makes no difference. Main statement: that is what the members of an object make.
-/

namespace RuleWatch

open Json

namespace Json

/-! ### Reading on -/

theorem skipBlanks_append {ws : List UInt8} (h : Blank ws) (r : List UInt8) :
    skipBlanks (ws ++ r) = skipBlanks r := by
  induction ws with
  | nil => rfl
  | cons w ws ih =>
      have blank : isBlank w = true := h w (List.mem_cons_self ..)
      rw [List.cons_append, skipBlanks, List.dropWhile_cons_of_pos blank]
      exact ih fun b hb => h b (List.mem_cons_of_mem _ hb)

theorem skipBlanks_cons {ws : List UInt8} (h : Blank ws) {b : UInt8}
    (hb : isBlank b = false) (r : List UInt8) :
    skipBlanks (ws ++ b :: r) = b :: r := by
  rw [skipBlanks_append h, skipBlanks_of_not_blank hb]

theorem nextElement_lead {isFirst : Bool} {lead : List UInt8}
    (hl : Lead isFirst lead) {b : UInt8} (hb : isBlank b = false)
    (closing : b ≠ byte ']') (r : List UInt8) :
    nextElement isFirst (lead ++ b :: r) = .ok (true, b :: r) := by
  have comma : isBlank (byte ',') = false := by decide
  have hc : byte ',' ≠ byte ']' := by decide
  cases hl with
  | first h => simp [nextElement, skipBlanks_cons h hb, closing]
  | next h h' =>
      rw [List.append_assoc, List.cons_append, nextElement,
        skipBlanks_cons h comma]
      simp [skipBlanks_cons h' hb, closing, hc]

theorem nextKey_lead {isFirst : Bool} {lead : List UInt8}
    (hl : Lead isFirst lead) (r : List UInt8) :
    nextKey isFirst (lead ++ byte '"' :: r) = .ok (true, r) := by
  have quote : isBlank (byte '"') = false := by decide
  have comma : isBlank (byte ',') = false := by decide
  have hq : byte '"' ≠ byte '\x7d' := by decide
  have hc : byte ',' ≠ byte '\x7d' := by decide
  cases hl with
  | first h => simp [nextKey, skipBlanks_cons h quote, hq]
  | next h h' =>
      rw [List.append_assoc, List.cons_append, nextKey, skipBlanks_cons h comma]
      simp [skipBlanks_cons h' quote, hc]

theorem readColon_blank {ws : List UInt8} (h : Blank ws) (r : List UInt8) :
    readColon (ws ++ byte ':' :: r) = .ok r := by
  simp [readColon,
    skipBlanks_cons h (show isBlank (byte ':') = false by decide)]

theorem readText_spells {s : String} {ws bs : List UInt8} (hw : Blank ws)
    (hv : Spells (.value (.string (some s))) bs) (r : List UInt8) :
    readText (ws ++ (bs ++ r)) = .ok (s, r) := by
  cases hv with
  | @string _ bs h =>
      cases h with
      | text h =>
          rw [readText, List.cons_append, skipBlanks_cons hw (by decide),
            List.append_assoc]
          simpa using readString_textForm h r

theorem readText_spells_of_ne {v : Value} {ws bs : List UInt8} (hw : Blank ws)
    (hv : Spells (.value v) bs) (other : ∀ s, v ≠ .string (some s))
    (r : List UInt8) :
    ∃ f, readText (ws ++ (bs ++ r)) = .error f := by
  obtain ⟨b, rest, bytes, begins⟩ := hv.exists_cons
  by_cases broken : v = .string none
  · subst broken
    cases hv with
    | @string _ bs h =>
        cases h with
        | noText h broken =>
            obtain ⟨f, hf⟩ := readString_contents h broken r
            refine ⟨f, ?_⟩
            rw [readText, List.cons_append, skipBlanks_cons hw (by decide),
              List.append_assoc]
            simpa using hf
  · have notQuote : b ≠ byte '"' := begins.notQuote fun text => by
      cases text with
      | none => exact broken
      | some s => exact other s
    subst bytes
    exact ⟨_,
      by simp [readText, skipBlanks_cons hw begins.notBlank, notQuote]; rfl⟩

end Json

namespace Rule

/-! ### Members -/

/-- What a draft becomes by a member, unless the member is refused. -/
def Draft.take? (d : Draft) : Option String × Value → Option Draft
  | (none, _) => none
  | (some key, v) =>
      match Field.ofKey? key with
      | none => some d
      | some f =>
          match v with
          | .string (some s) =>
              if (d.get? f).isSome then none else some (d.set s f)
          | _ => none

section

variable {isFirst : Bool} {d : Draft} {m : Option String × Value}
  {lead name ws ws' bs r : List UInt8}

/-- A member that counts is read into the draft, or passed over. -/
theorem readMember_spells (hl : Lead isFirst lead) (hk : StringForm m.1 name)
    (hw : Blank ws) (hw' : Blank ws') (hv : Spells (.value m.2) bs)
    (hr : Ends r) {d' : Draft} (taken : d.take? m = some d') :
    readMember isFirst d
        (lead ++
          byte '"' ::
            (name ++ byte '"' :: (ws ++ byte ':' :: (ws' ++ (bs ++ r))))) =
      .ok (some d', r) := by
  obtain ⟨key, v⟩ := m
  cases hk with
  | noText h => cases taken
  | @text key name h =>
      rw [readMember, nextKey_lead hl]
      simp only [readString_textForm h, Draft.take?] at taken ⊢
      cases hf : Field.ofKey? key with
      | none =>
          rw [hf] at taken
          cases taken
          simp [readColon_blank hw, skipValue_spells hw' hv hr]
      | some f =>
          rw [hf] at taken
          match v, taken with
          | .string (some s), taken =>
              by_cases there : (d.get? f).isSome = true
              · simp [there] at taken
              · rw [Bool.not_eq_true] at there
                simp only [there, Bool.false_eq_true, if_false,
                  Option.some.injEq] at taken
                subst taken
                simp [there, readColon_blank hw, readText_spells hw' hv]

theorem readMember_spells_of_none (hl : Lead isFirst lead)
    (hk : StringForm m.1 name) (hw : Blank ws) (hw' : Blank ws')
    (hv : Spells (.value m.2) bs) (refused : d.take? m = none) :
    ∃ f, readMember isFirst d
        (lead ++
          byte '"' ::
            (name ++ byte '"' :: (ws ++ byte ':' :: (ws' ++ (bs ++ r))))) =
      .error f := by
  obtain ⟨key, v⟩ := m
  cases hk with
  | noText h broken =>
      obtain ⟨f, hf⟩ := readString_contents h broken
        (ws ++ byte ':' :: (ws' ++ (bs ++ r)))
      exact ⟨f, by rw [readMember, nextKey_lead hl]; simp [hf]⟩
  | @text key name h =>
      rw [readMember, nextKey_lead hl]
      simp only [readString_textForm h, Draft.take?] at refused ⊢
      cases hf : Field.ofKey? key with
      | none =>
          rw [hf] at refused
          cases refused
      | some f =>
          rw [hf] at refused
          by_cases there : (d.get? f).isSome = true
          · exact ⟨_, by simp [there]; rfl⟩
          · rw [Bool.not_eq_true] at there
            have other : ∀ s, v ≠ .string (some s) := by
              rintro s rfl
              simp [there] at refused
            obtain ⟨fault, hfault⟩ := readText_spells_of_ne hw' hv other r
            exact ⟨fault, by simp [there, readColon_blank hw, hfault]⟩

end

theorem Draft.toOption_finish (d : Draft) :
    d.finish.toOption =
      d.name.bind fun name =>
        d.kind.map fun kind => ⟨name, kind, d.pattern.getD ""⟩ := by
  obtain ⟨name, kind, pattern⟩ := d
  cases name <;> cases kind <;> rfl

/-- The rule that the members of an object make out of a draft. -/
def Draft.ofMembers? (d : Draft) (ms : Members) : Option Rule :=
  (ms.foldlM Draft.take? d).bind fun d => d.finish.toOption

theorem nextKey_blank (isFirst : Bool) {ws : List UInt8} (h : Blank ws)
    (r : List UInt8) :
    nextKey isFirst (ws ++ byte '\x7d' :: r) = .ok (false, r) := by
  simp [nextKey,
    skipBlanks_cons h (show isBlank (byte '\x7d') = false by decide)]

theorem readMembers_end {isFirst : Bool} {ws : List UInt8} (h : Blank ws)
    (d : Draft) (r : List UInt8) :
    (readMembers isFirst d (ws ++ byte '\x7d' :: r)).toOption =
      d.finish.toOption.map fun rule => (rule, r) := by
  have last : readMember isFirst d (ws ++ byte '\x7d' :: r) =
      .ok (none, r) := by
    simp [readMember, nextKey_blank isFirst h]
  rw [readMembers]
  split
  · simp_all
  · next hm =>
      rw [last] at hm
      cases hm
      cases d.finish <;> rfl
  · simp_all

theorem readMembers_of_error {isFirst : Bool} {d : Draft} {s : List UInt8}
    {f : Fault} (h : readMember isFirst d s = .error f) :
    readMembers isFirst d s = .error f := by
  rw [readMembers]
  split <;> simp_all

theorem readMembers_of_some {isFirst : Bool} {d d' : Draft} {s r : List UInt8}
    (h : readMember isFirst d s = .ok (some d', r)) :
    readMembers isFirst d s = readMembers false d' r := by
  rw [readMembers]
  split <;> simp_all

/-- An object is read to its end as the rule that its members make, and refused
when they make none. -/
theorem readMembers_spells {ms : Members} {isFirst : Bool} {bs : List UInt8}
    (h : Spells (.members isFirst ms) bs) (d : Draft) (r : List UInt8) :
    (readMembers isFirst d (bs ++ r)).toOption =
      (d.ofMembers? ms).map fun rule => (rule, r) := by
  induction ms generalizing isFirst bs d with
  | nil =>
      cases h with
      | objectEnd h =>
          rw [List.append_assoc]
          exact readMembers_end h d r
  | cons m ms ih =>
      obtain ⟨key, v⟩ := m
      cases h with
      | member hl hk hw hw' hv hr =>
          simp only [List.append_assoc, List.cons_append]
          cases taken : d.take? (key, v) with
          | none =>
              obtain ⟨f, hf⟩ := readMember_spells_of_none hl hk hw hw' hv taken
              rw [readMembers_of_error hf, Draft.ofMembers?,
                List.foldlM_cons, taken]
              rfl
          | some d' =>
              rw [readMembers_of_some
                (readMember_spells hl hk hw hw' hv (hr.members_ends r) taken),
                ih hr, Draft.ofMembers?, Draft.ofMembers?,
                List.foldlM_cons, taken]
              rfl

/-! ### What an object describes -/

def valuesOf (ms : Members) (f : Field) : List Value :=
  (ms.filter fun m => m.1 = some f.key).map Prod.snd

/-- Whether an object says what a rule is. -/
structure Describes (ms : Members) (r : Rule) : Prop where
  keys : ∀ m ∈ ms, m.1.isSome
  name : valuesOf ms .name = [.string (some r.name)]
  kind : valuesOf ms .kind = [.string (some r.kind)]
  pattern : valuesOf ms .pattern = [.string (some r.pattern)] ∨
    valuesOf ms .pattern = [] ∧ r.pattern = ""

def Draft.held (d : Draft) (f : Field) : List Value :=
  (d.get? f).toList.map fun s => .string (some s)

theorem Draft.held_of_get? {d : Draft} {f : Field} (h : d.get? f = none) :
    d.held f = [] := by
  simp [held, h]

theorem Draft.held_set (d : Draft) (s : String) (f g : Field) :
    (d.set s f).held g = if f = g then [.string (some s)] else d.held g := by
  cases f <;> cases g <;> rfl

theorem Draft.ext_held {d d' : Draft} (h : ∀ f, d.held f = d'.held f) :
    d = d' := by
  have same (f : Field) : d.get? f = d'.get? f := by
    have := h f
    unfold held at this
    cases hd : d.get? f <;> cases hd' : d'.get? f <;> simp_all
  obtain ⟨name, kind, pattern⟩ := d
  obtain ⟨name', kind', pattern'⟩ := d'
  have := same .name
  have := same .kind
  have := same .pattern
  simp_all [get?]

theorem Field.ofKey?_eq_some_iff {key : String} {f : Field} :
    Field.ofKey? key = some f ↔ key = f.key := by
  constructor
  · intro h
    unfold ofKey? at h
    split at h
    · cases h
      assumption
    · split at h
      · cases h
        assumption
      · split at h
        · cases h
          assumption
        · cases h
  · rintro rfl
    exact ofKey?_key f

theorem Field.key_injective {f g : Field} (h : f.key = g.key) : f = g := by
  have := ofKey?_key f
  rw [h, ofKey?_key] at this
  exact (Option.some.inj this).symm

theorem valuesOf_cons (m : Option String × Value) (ms : Members) (f : Field) :
    valuesOf (m :: ms) f = valuesOf [m] f ++ valuesOf ms f := by
  by_cases h : m.1 = some f.key <;> simp [valuesOf, h]

theorem Draft.held_take? {d d' : Draft} {m : Option String × Value}
    (h : d.take? m = some d') :
    m.1.isSome ∧ ∀ f, d'.held f = d.held f ++ valuesOf [m] f := by
  obtain ⟨key, v⟩ := m
  cases key with
  | none => cases h
  | some key =>
      refine ⟨rfl, fun g => ?_⟩
      rw [take?] at h
      cases hf : Field.ofKey? key with
      | none =>
          rw [hf] at h
          cases h
          have other : key ≠ g.key := by
            rintro rfl
            simp [Field.ofKey?_key] at hf
          simp [valuesOf, other]
      | some f =>
          rw [hf] at h
          obtain rfl := Field.ofKey?_eq_some_iff.1 hf
          match v, h with
          | .string (some s), h =>
              by_cases there : (d.get? f).isSome = true
              · simp [there] at h
              · simp only [there, Bool.false_eq_true, if_false,
                  Option.some.injEq] at h
                subst h
                rw [held_set]
                by_cases same : f = g
                · subst same
                  rw [Bool.not_eq_true, Option.isSome_eq_false_iff,
                    Option.isNone_iff_eq_none]
                    at there
                  simp [valuesOf, held_of_get? there]
                · have keys : f.key ≠ g.key :=
                    fun h => same (Field.key_injective h)
                  simp [valuesOf, same, keys]

/-- A member counts when a draft can hold its value beside what it held
before. -/
theorem Draft.exists_take? {d d' : Draft} {m : Option String × Value}
    {ms : Members} (isText : m.1.isSome)
    (room : ∀ f, d.held f ++ valuesOf (m :: ms) f = d'.held f) :
    ∃ d₁, d.take? m = some d₁ := by
  obtain ⟨_ | key, v⟩ := m
  · cases isText
  · rw [take?]
    cases hf : Field.ofKey? key with
    | none => exact ⟨d, rfl⟩
    | some f =>
        obtain rfl := Field.ofKey?_eq_some_iff.1 hf
        have here := room f
        simp only [held, valuesOf, List.filter_cons, decide_true, if_true,
          List.map_cons] at here
        cases hd : d.get? f with
        | some s => cases hd' : d'.get? f <;> simp [hd, hd'] at here
        | none =>
            cases hd' : d'.get? f with
            | none => simp [hd, hd'] at here
            | some s =>
                simp only [hd, hd', Option.toList_none, List.map_nil,
                  List.nil_append, Option.toList_some, List.map_cons,
                  List.cons.injEq] at here
                obtain ⟨rfl, -⟩ := here
                exact ⟨d.set s f, by simp [hd]⟩

theorem Draft.foldlM_take?_eq_some_iff {d d' : Draft} {ms : Members} :
    ms.foldlM Draft.take? d = some d' ↔
      (∀ m ∈ ms, m.1.isSome) ∧ ∀ f, d.held f ++ valuesOf ms f = d'.held f := by
  induction ms generalizing d with
  | nil =>
      refine ⟨fun h => ?_, fun h => ?_⟩
      · cases h
        simp [valuesOf]
      · obtain rfl : d = d' := ext_held fun f => by simpa [valuesOf] using h.2 f
        rfl
  | cons m ms ih =>
      rw [List.foldlM_cons, List.forall_mem_cons]
      constructor
      · intro h
        obtain ⟨d₁, taken, others⟩ := Option.bind_eq_some_iff.1 h
        obtain ⟨key, first⟩ := held_take? taken
        obtain ⟨keys, rest⟩ := ih.1 others
        exact ⟨⟨key, keys⟩, fun f => by
          rw [valuesOf_cons, ← List.append_assoc, ← first f, rest f]⟩
      · rintro ⟨⟨key, keys⟩, room⟩
        -- What is held in the end leaves room for the value of the first
        -- member.
        obtain ⟨d₁, taken⟩ := exists_take? key room
        refine Option.bind_eq_some_iff.2 ⟨d₁, taken, ih.2 ⟨keys, fun f => ?_⟩⟩
        rw [(held_take? taken).2 f, List.append_assoc, ← valuesOf_cons, room f]

/-- Main statement: members make a rule when they describe it. -/
theorem ofMembers?_eq_some_iff {ms : Members} {r : Rule} :
    Draft.ofMembers? {} ms = some r ↔ Describes ms r := by
  have empty (f : Field) : Draft.held {} f = [] := by cases f <;> rfl
  rw [Draft.ofMembers?, Option.bind_eq_some_iff]
  constructor
  · rintro ⟨⟨name, kind, pattern⟩, filled, finished⟩
    obtain ⟨keys, values⟩ := Draft.foldlM_take?_eq_some_iff.1 filled
    simp only [empty, List.nil_append] at values
    rw [Draft.toOption_finish] at finished
    cases name with
    | none => cases finished
    | some name =>
        cases kind with
        | none => cases finished
        | some kind =>
            cases finished
            refine ⟨keys, values .name, values .kind, ?_⟩
            cases pattern with
            | none => exact .inr ⟨values .pattern, rfl⟩
            | some pattern => exact .inl (values .pattern)
  · rintro ⟨keys, name, kind, pattern | ⟨pattern, plain⟩⟩
    · refine ⟨⟨some r.name, some r.kind, some r.pattern⟩,
        Draft.foldlM_take?_eq_some_iff.2 ⟨keys, fun f => ?_⟩, rfl⟩
      rw [empty, List.nil_append]
      cases f <;> assumption
    · refine ⟨⟨some r.name, some r.kind, none⟩,
        Draft.foldlM_take?_eq_some_iff.2 ⟨keys, fun f => ?_⟩, ?_⟩
      · rw [empty, List.nil_append]
        cases f <;> assumption
      · simp [Draft.toOption_finish, ← plain]

end Rule

end RuleWatch
