import RuleWatch.Rule.Compile

/-!
When a rule set compiles. Its rules are gone through one by one, and what has
come of them is decided on at the end: only a malformed rule of a known kind
stands in the way, and then all such rules are reported in one batch.
-/

namespace RuleWatch

open Pattern

/-- Whether a rule is of a known kind and has no pattern that this kind can
use. -/
def Rule.IsMalformed (r : Rule) : Prop :=
  ∃ kind, RuleKind.ofTag? r.kind = some kind ∧
    (r.pattern = "" ∨
      kind = .regex ∧ ∃ fault, Shape.ofPattern r.pattern = .error fault)

theorem RuleKind.compile_cases (kind : RuleKind) (r : Rule) :
    (∃ d, kind.compile r = .ok d ∧
        ¬ (r.pattern = "" ∨
          kind = .regex ∧ ∃ fault, Shape.ofPattern r.pattern = .error fault)) ∨
      (∃ text, kind.compile r = .error (.malformed r.name text) ∧
        (r.pattern = "" ∨ kind = .regex ∧
          ∃ fault, Shape.ofPattern r.pattern = .error fault)) := by
  unfold RuleKind.compile
  by_cases he : r.pattern.isEmpty = true
  · rw [if_pos he]
    exact .inr ⟨_, rfl, .inl (String.isEmpty_iff.1 he)⟩
  · have hne : r.pattern ≠ "" := fun h => he (String.isEmpty_iff.2 h)
    rw [if_neg he]
    cases kind with
    | contains => exact .inl ⟨_, rfl, by simp [hne]⟩
    | regex =>
        cases hs : Shape.ofPattern r.pattern with
        | ok shape => exact .inl ⟨_, rfl, by simp [hne]⟩
        | error fault => exact .inr ⟨_, rfl, .inr ⟨rfl, fault, rfl⟩⟩

namespace Rule

def isKnown (r : Rule) : Bool := (RuleKind.ofTag? r.kind).isSome

theorem IsMalformed.isKnown {r : Rule} (h : r.IsMalformed) :
    r.isKnown = true := by
  obtain ⟨kind, known, -⟩ := h
  simp [Rule.isKnown, known]

/-- What compiling makes of a rule: a detector, nothing, or a failure that names
it. -/
inductive Fate (r : Rule) : Except CompileError Detector → Prop
  | usable (known : r.isKnown = true) (good : ¬ r.IsMalformed)
      (d : Detector) : r.Fate (.ok d)
  | passedOver (unknown : r.isKnown = false) (good : ¬ r.IsMalformed) :
      r.Fate (.error (.unknownKind r.name r.kind))
  | malformed (known : r.isKnown = true) (bad : r.IsMalformed) (text : String) :
      r.Fate (.error (.malformed r.name text))

theorem fate (r : Rule) : r.Fate r.compile := by
  unfold compile
  cases known : RuleKind.ofTag? r.kind with
  | none =>
      have unknown : r.isKnown = false := by simp [isKnown, known]
      exact .passedOver unknown fun bad => by simp [bad.isKnown] at unknown
  | some kind =>
      have isKnown : r.isKnown = true := by simp [isKnown, known]
      change r.Fate (kind.compile r)
      rcases kind.compile_cases r
        with ⟨d, compiled, good⟩ | ⟨text, refused, bad⟩
      · rw [compiled]
        refine .usable isKnown ?_ d
        rintro ⟨kind', known', bad⟩
        rw [known] at known'
        cases known'
        exact good bad
      · rw [refused]
        exact .malformed isKnown ⟨kind, known, bad⟩ text

/-- What is wrong with a rule, unless it is of an unknown kind. -/
def failure? : Except CompileError Detector → Option CompileError
  | .ok _ => none
  | .error e => if e.isUnknownKind then none else some e

theorem wellFormed_of_compile {r : Rule} {d : Detector}
    (h : r.compile = .ok d) : ¬ r.IsMalformed := by
  have fate := r.fate
  rw [h] at fate
  cases fate with
  | usable _ good => exact good

theorem failure?_eq_none_iff (r : Rule) :
    failure? r.compile = none ↔ ¬ r.IsMalformed := by
  have fate := r.fate
  generalize r.compile = result at fate
  cases fate with
  | usable _ good => simp [failure?, good]
  | passedOver _ good => simp [failure?, CompileError.isUnknownKind, good]
  | malformed _ bad => simp [failure?, CompileError.isUnknownKind, bad]

end Rule

namespace RuleSet

/-- What a rule set compiles to when nothing in it is malformed. -/
def detectors (rules : RuleSet) : List Detector :=
  (rules.map Rule.compile).filterMap Except.toOption

def failures (rules : RuleSet) : List CompileError :=
  (rules.map Rule.compile).filterMap Rule.failure?

theorem detectors_cons (r : Rule) (rules : RuleSet) :
    detectors (r :: rules) = r.compile.toOption.toList ++ detectors rules := by
  unfold detectors
  cases h : r.compile.toOption <;> simp [h]

theorem failures_cons (r : Rule) (rules : RuleSet) :
    failures (r :: rules) =
      (Rule.failure? r.compile).toList ++ failures rules := by
  unfold failures
  cases h : Rule.failure? r.compile <;> simp [h]

end RuleSet

namespace Batch

theorem detectors_add (b : Batch) (r : Rule) : (b.add r).detectors.toList =
    b.detectors.toList ++ r.compile.toOption.toList := by
  unfold add
  cases r.compile with
  | ok d => simp [Except.toOption]
  | error e => cases h : e.isUnknownKind <;> simp [h, Except.toOption]

theorem failures_add (b : Batch) (r : Rule) : (b.add r).failures.toList =
    b.failures.toList ++ (Rule.failure? r.compile).toList := by
  unfold add
  cases r.compile with
  | ok d => simp [Rule.failure?]
  | error e => cases h : e.isUnknownKind <;> simp [h, Rule.failure?]

/-- The invariant of the loop: both lists have grown by what has come of the
rules seen since. -/
theorem foldl_add (rules : RuleSet) (b : Batch) :
    (rules.foldl add b).detectors.toList =
        b.detectors.toList ++ rules.detectors ∧
      (rules.foldl add b).failures.toList =
        b.failures.toList ++ rules.failures := by
  induction rules generalizing b with
  | nil => simp [RuleSet.detectors, RuleSet.failures]
  | cons r rules ih =>
      obtain ⟨detectors, failures⟩ := ih (b.add r)
      rw [List.foldl_cons]
      constructor
      · rw [detectors, detectors_add, RuleSet.detectors_cons, List.append_assoc]
      · rw [failures, failures_add, RuleSet.failures_cons, List.append_assoc]

end Batch

namespace RuleSet

/-- Only the end of the loop decides which of the two lists is returned. -/
theorem compile_eq (rules : RuleSet) :
    rules.compile =
      if rules.failures = [] then .ok rules.detectors
      else .error (.batch rules.failures) := by
  obtain ⟨detectors, failures⟩ := Batch.foldl_add rules {}
  rw [List.nil_append] at detectors failures
  unfold compile Batch.result
  rw [detectors, failures]
  simp only [← failures, Array.isEmpty_iff, Array.toList_eq_nil_iff]

/-- The detectors are those of the rules of known kinds, in the order of the
rules. -/
theorem map_compile_known {rules : RuleSet} (h : ∀ r ∈ rules, ¬ r.IsMalformed) :
    (rules.filter fun r => (RuleKind.ofTag? r.kind).isSome).map Rule.compile =
      rules.detectors.map .ok := by
  change (rules.filter Rule.isKnown).map Rule.compile = _
  induction rules with
  | nil => rfl
  | cons r rules ih =>
      rw [List.forall_mem_cons] at h
      have others := ih h.2
      have fate := r.fate
      unfold detectors at others ⊢
      rw [List.map_cons]
      generalize same : r.compile = result at fate
      cases fate with
      | usable known _ d =>
          rw [List.filter_cons_of_pos known, List.map_cons, same, others]
          rfl
      | passedOver unknown =>
          rw [List.filter_cons_of_neg (by simp [unknown])]
          exact others
      | malformed _ bad => exact absurd bad h.1

theorem failures_eq_nil_iff (rules : RuleSet) :
    rules.failures = [] ↔ ∀ r ∈ rules, ¬ r.IsMalformed := by
  simp only [failures, List.filterMap_eq_nil_iff, List.forall_mem_map,
    Rule.failure?_eq_none_iff]

theorem compile_of_wellFormed {rules : RuleSet}
    (h : ∀ r ∈ rules, ¬ r.IsMalformed) :
    compile rules = .ok rules.detectors := by
  rw [compile_eq, if_pos ((failures_eq_nil_iff rules).2 h)]

theorem compile_of_malformed {rules : RuleSet}
    (h : ∃ r ∈ rules, r.IsMalformed) :
    compile rules = .error (.batch rules.failures) := by
  obtain ⟨r, member, malformed⟩ := h
  rw [compile_eq,
    if_neg fun empty => (failures_eq_nil_iff rules).1 empty r member malformed]

theorem compile_cases (rules : RuleSet) :
    (compile rules = .ok rules.detectors ∧ ∀ r ∈ rules, ¬ r.IsMalformed) ∨
      (∃ failures, compile rules = .error (.batch failures)) ∧
        ∃ r ∈ rules, r.IsMalformed := by
  by_cases h : ∃ r ∈ rules, r.IsMalformed
  · exact .inr ⟨⟨_, compile_of_malformed h⟩, h⟩
  · have h' : ∀ r ∈ rules, ¬ r.IsMalformed := fun r hr hm => h ⟨r, hr, hm⟩
    exact .inl ⟨compile_of_wellFormed h', h'⟩

theorem wellFormed_of_compile {rules : RuleSet} {detectors : List Detector}
    (h : compile rules = .ok detectors) :
    (∀ r ∈ rules, ¬ r.IsMalformed) ∧ detectors = rules.detectors := by
  rcases compile_cases rules with ⟨same, good⟩ | ⟨⟨failures, failed⟩, -⟩
  · rw [same] at h
    cases h
    exact ⟨good, rfl⟩
  · rw [failed] at h
    cases h

end RuleSet

end RuleWatch
