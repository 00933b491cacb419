import RuleWatch.Proofs.Batches

/-!
What a rule set says about content. A detector is made from the kind and the
pattern of its rule, so the name has no part in it, and something is found just
when one of the rules finds it. Main statement: rule sets with the same kinds
and patterns of known kinds compile alike and give the same verdicts, in
whatever order and however often the rules stand and whatever is passed over.
-/

namespace RuleWatch

theorem Rule.compile_eq_ok_of_same {r r' : Rule} {d : Detector}
    (h : r.compile = .ok d) (kind : r.kind = r'.kind)
    (pattern : r.pattern = r'.pattern) : r'.compile = .ok d := by
  unfold Rule.compile RuleKind.compile at h ⊢
  rw [kind, pattern] at h
  cases known : RuleKind.ofTag? r'.kind with
  | none =>
      rw [known] at h
      cases h
  | some k =>
      simp only [known] at h ⊢
      split at h
      · cases h
      · next filled =>
          rw [if_neg filled]
          cases k with
          | contains => exact h
          | regex =>
              cases shaped : Pattern.Shape.ofPattern r'.pattern with
              | ok shape =>
                  rw [shaped] at h
                  exact h
              | error fault =>
                  rw [shaped] at h
                  cases h

theorem Rule.isMalformed_congr {r r' : Rule} (kind : r.kind = r'.kind)
    (pattern : r.pattern = r'.pattern) : r.IsMalformed ↔ r'.IsMalformed := by
  rw [IsMalformed, IsMalformed, kind, pattern]

theorem Rule.isKnown_of_compile {r : Rule} {d : Detector}
    (h : r.compile = .ok d) :
    r.isKnown = true := by
  have fate := r.fate
  rw [h] at fate
  cases fate with
  | usable known => exact known

namespace RuleSet

variable {rules rules' : RuleSet} {ds ds' : List Detector}

/-- Whether a set has a rule with a pattern and a kind that is known. -/
def Asks (rules : RuleSet) (kind pattern : String) : Prop :=
  ∃ r ∈ rules, r.isKnown = true ∧ r.kind = kind ∧ r.pattern = pattern

theorem asks_of_mem {r : Rule} (member : r ∈ rules) (known : r.isKnown = true) :
    rules.Asks r.kind r.pattern :=
  ⟨r, member, known, rfl, rfl⟩

/-- A set compiles when all that it asks for compiles. -/
theorem compiles_iff :
    (∃ ds, rules.compile = .ok ds) ↔
      ∀ name kind pattern, rules.Asks kind pattern →
        ¬ (Rule.mk name kind pattern).IsMalformed := by
  constructor
  · rintro ⟨ds, compiled⟩ name kind pattern ⟨r, member, -, rfl, rfl⟩ bad
    exact (wellFormed_of_compile compiled).1 r member
      ((Rule.isMalformed_congr rfl rfl).1 bad)
  · intro good
    refine ⟨rules.detectors, compile_of_wellFormed fun r member bad => ?_⟩
    exact good r.name r.kind r.pattern (asks_of_mem member bad.isKnown) bad

theorem mem_detectors {d : Detector} :
    d ∈ rules.detectors ↔ ∃ r ∈ rules, r.compile = .ok d := by
  simp only [detectors, List.mem_filterMap, List.mem_map,
    exists_exists_and_eq_and]
  refine exists_congr fun r => and_congr_right fun _ => ?_
  cases r.compile <;> simp [Except.toOption]

/-- Something is found just when a rule of a kind and a pattern that are asked
for finds it, under any name. -/
theorem detectAny_iff (compiled : rules.compile = .ok ds) (name : String)
    (content : List UInt8) :
    Detector.detectAny ds content = true ↔
      ∃ kind pattern, rules.Asks kind pattern ∧
      ∃ d, (Rule.mk name kind pattern).compile = .ok d ∧
        d.detect content = true := by
  obtain ⟨-, rfl⟩ := wellFormed_of_compile compiled
  rw [Detector.detectAny, List.any_eq_true]
  constructor
  · rintro ⟨d, member, found⟩
    obtain ⟨r, member, made⟩ := mem_detectors.1 member
    exact ⟨r.kind, r.pattern, asks_of_mem member (Rule.isKnown_of_compile made),
      d, Rule.compile_eq_ok_of_same made rfl rfl, found⟩
  · rintro ⟨-, -, ⟨r, member, -, rfl, rfl⟩, d, made, found⟩
    exact ⟨d,
      mem_detectors.2 ⟨r, member, Rule.compile_eq_ok_of_same made rfl rfl⟩,
      found⟩

/-- Main statement: only which kinds and patterns are asked for decides whether
a set compiles and what it finds. Content is found just when a rule of one of
them finds it by itself. -/
theorem verdict_depends_on_known_rules
    (same : ∀ kind pattern, rules.Asks kind pattern ↔
      rules'.Asks kind pattern) :
    ((∃ ds, rules.compile = .ok ds) ↔ ∃ ds, rules'.compile = .ok ds) ∧
    (∀ ds ds' content, rules.compile = .ok ds → rules'.compile = .ok ds' →
      Detector.detectAny ds content = Detector.detectAny ds' content) ∧
    ∀ ds content name, rules.compile = .ok ds →
      (Detector.detectAny ds content = true ↔
        ∃ kind pattern, rules.Asks kind pattern ∧
        ∃ d, (Rule.mk name kind pattern).compile = .ok d ∧
          d.detect content = true) := by
  refine ⟨?_, fun ds ds' content compiled compiled' => ?_,
    fun ds content name compiled => detectAny_iff compiled name content⟩
  · simp only [compiles_iff, same]
  · rw [Bool.eq_iff_iff, detectAny_iff compiled "", detectAny_iff compiled' ""]
    simp only [same]

/-! ### Two sets -/

def sampleSet : RuleSet := [⟨"a", "contains", "x"⟩, ⟨"b", "regex", "y+"⟩]

def sampleAgain : RuleSet :=
  [⟨"new", "semantic", ""⟩, ⟨"c", "regex", "y+"⟩, ⟨"d", "contains", "x"⟩,
    ⟨"b", "regex", "y+"⟩]

theorem sampleAgain_agrees :
    (∀ kind pattern, sampleSet.Asks kind pattern ↔
      sampleAgain.Asks kind pattern) ∧
      ∃ ds ds', sampleSet.compile = .ok ds ∧ sampleAgain.compile = .ok ds' ∧
        ∀ content, Detector.detectAny ds content =
          Detector.detectAny ds' content := by
  have same : ∀ kind pattern, sampleSet.Asks kind pattern ↔
      sampleAgain.Asks kind pattern := by
    intro kind pattern
    simp only [Asks, sampleSet, sampleAgain,
      List.exists_mem_cons_iff, List.not_mem_nil]
    simp [Rule.isKnown, RuleKind.ofTag?]
    tauto
  have made : ∃ ds, sampleSet.compile = .ok ds := by
    have compiles : sampleSet.compile.toOption.isSome = true := by decide
    cases compiled : sampleSet.compile with
    | ok ds => exact ⟨ds, rfl⟩
    | error e =>
        rw [compiled] at compiles
        cases compiles
  obtain ⟨alike, verdicts, -⟩ := verdict_depends_on_known_rules same
  obtain ⟨ds, compiled⟩ := made
  obtain ⟨ds', compiled'⟩ := alike.1 ⟨ds, compiled⟩
  exact ⟨same, ds, ds', compiled, compiled', fun content =>
    verdicts ds ds' content compiled compiled'⟩

end RuleSet

end RuleWatch
