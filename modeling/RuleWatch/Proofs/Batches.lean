import Mathlib.Data.List.Forall2
import RuleWatch.Proofs.Compiling

/-!
Rule sets as batches. Compiling sorts the rules of a set, and each step of the
loop keeps those sorted that it has gone through: a rule has a detector, or a
failure that names it, or it is passed over for its kind. Main statement: what
a set compiles to is read off the rules sorted like this, a batch of two parts
from what its parts compile to, and rules of unknown kinds have no part in it
wherever they stand.
-/

namespace RuleWatch

namespace Rule

instance : DecidablePred IsMalformed := fun r =>
  decidable_of_iff ((failure? r.compile).isSome = true) <| by
    rw [← not_iff_not, ← r.failure?_eq_none_iff, Option.not_isSome_iff_eq_none]

/-- Whether a rule of a known kind has a pattern that this kind can use. -/
def isUsable (r : Rule) : Bool := r.isKnown && !decide r.IsMalformed

end Rule

def CompileError.reported {α : Type} : Except CompileError α → List CompileError
  | .ok _ => []
  | .error (.batch failures) => failures
  | .error e => [e]

namespace RuleSet

variable {rules a b : RuleSet}

/-! ### Sorting -/

/-- The rules of a set, sorted: those that are usable have a detector each and
those that are malformed a failure each, both in the order of the rules, and all
others are passed over. -/
structure Sorted (rules : RuleSet) (ds : List Detector)
    (failures : List CompileError) : Prop where
  compiled : List.Forall₂ (fun r d => r.compile = .ok d)
    (rules.filter Rule.isUsable) ds
  refused : List.Forall₂
    (fun r e => r.compile = .error e ∧ ∃ text, e = .malformed r.name text)
    (rules.filter fun r => r.IsMalformed) failures
  once : (rules.filter Rule.isUsable ++ (rules.skipped ++
    rules.filter fun r => r.IsMalformed)).Perm rules

theorem skipped_eq (rules : RuleSet) :
    rules.skipped = rules.filter fun r => !r.isKnown := by
  simp only [skipped, Rule.isKnown, Option.not_isSome]

theorem each_once (rules : RuleSet) : (rules.filter Rule.isUsable ++
    (rules.skipped ++ rules.filter fun r => r.IsMalformed)).Perm rules := by
  refine .trans (.append_left _ ?_)
    (List.filter_append_perm Rule.isUsable rules)
  have unknown :
      (rules.filter fun r => !r.isUsable).filter (fun r => !r.isKnown) =
      rules.skipped := by
    rw [skipped_eq, List.filter_filter]
    refine List.filter_congr fun r _ => ?_
    cases known : r.isKnown <;> simp [Rule.isUsable, known]
  have malformed :
      (rules.filter fun r => !r.isUsable).filter (fun r => !!r.isKnown) =
      rules.filter fun r => r.IsMalformed := by
    rw [List.filter_filter]
    refine List.filter_congr fun r _ => ?_
    by_cases bad : r.IsMalformed
    · simp [Rule.isUsable, bad, bad.isKnown]
    · cases known : r.isKnown <;> simp [Rule.isUsable, bad, known]
  rw [← unknown, ← malformed]
  exact List.filter_append_perm _ _

theorem Sorted.append {ds ds' : List Detector} {es es' : List CompileError}
    (ha : a.Sorted ds es) (hb : b.Sorted ds' es') :
    Sorted (a ++ b) (ds ++ ds') (es ++ es') := by
  refine ⟨?_, ?_, each_once (a ++ b)⟩
  · rw [List.filter_append]
    exact List.rel_append ha.compiled hb.compiled
  · rw [List.filter_append]
    exact List.rel_append ha.refused hb.refused

theorem Sorted.singleton (r : Rule) :
    Sorted [r] r.compile.toOption.toList (Rule.failure? r.compile).toList := by
  have fate := r.fate
  generalize same : r.compile = result at fate
  refine ⟨?_, ?_, each_once [r]⟩
  · cases fate with
    | usable known good d =>
        rw [List.filter_cons_of_pos (by simp [Rule.isUsable, known, good])]
        exact .cons same .nil
    | passedOver unknown =>
        rw [List.filter_cons_of_neg (by simp [Rule.isUsable, unknown])]
        exact .nil
    | malformed _ bad =>
        rw [List.filter_cons_of_neg (by simp [Rule.isUsable, bad])]
        exact .nil
  · cases fate with
    | usable _ good =>
        rw [List.filter_cons_of_neg (by simp [good])]
        exact .nil
    | passedOver _ good =>
        rw [List.filter_cons_of_neg (by simp [good])]
        exact .nil
    | malformed _ bad text =>
        rw [List.filter_cons_of_pos (by simp [bad])]
        exact .cons ⟨same, text, rfl⟩ .nil

/-- One step of the loop. -/
theorem Sorted.add {b : Batch}
    (h : a.Sorted b.detectors.toList b.failures.toList) (r : Rule) :
    Sorted (a ++ [r]) (b.add r).detectors.toList (b.add r).failures.toList := by
  rw [Batch.detectors_add, Batch.failures_add]
  exact h.append (.singleton r)

/-- The whole loop sorts the rules that it goes through. -/
theorem Sorted.foldl_add {b : Batch}
    (h : a.Sorted b.detectors.toList b.failures.toList) (rules : RuleSet) :
    Sorted (a ++ rules) (rules.foldl Batch.add b).detectors.toList
      (rules.foldl Batch.add b).failures.toList := by
  induction rules generalizing a b with
  | nil => rwa [List.append_nil]
  | cons r rules ih =>
      rw [List.append_cons]
      exact ih (h.add r)

theorem sorted (rules : RuleSet) :
    rules.Sorted rules.detectors rules.failures := by
  have start : Sorted [] (#[] : Array Detector).toList
      (#[] : Array CompileError).toList :=
    ⟨.nil, .nil, .nil⟩
  have sorted := Sorted.foldl_add (b := {}) start rules
  obtain ⟨detectors, failures⟩ := Batch.foldl_add rules {}
  rwa [detectors, failures] at sorted

theorem filter_isUsable (good : ∀ r ∈ rules, ¬ r.IsMalformed) :
    rules.filter Rule.isUsable = rules.filter Rule.isKnown := by
  refine List.filter_congr fun r member => ?_
  simp [Rule.isUsable, good r member]

/-! ### Parts -/

theorem detectors_append (a b : RuleSet) :
    detectors (a ++ b) = detectors a ++ detectors b := by
  simp [detectors]

theorem failures_append (a b : RuleSet) :
    failures (a ++ b) = failures a ++ failures b := by
  simp [failures]

theorem reported_compile (rules : RuleSet) :
    CompileError.reported rules.compile = rules.failures := by
  rw [compile_eq]
  split
  · next empty =>
      rw [empty]
      rfl
  · rfl

theorem compile_append_ok {da db : List Detector} (ha : a.compile = .ok da)
    (hb : b.compile = .ok db) : RuleSet.compile (a ++ b) = .ok (da ++ db) := by
  obtain ⟨good, rfl⟩ := wellFormed_of_compile ha
  obtain ⟨good', rfl⟩ := wellFormed_of_compile hb
  rw [← detectors_append]
  refine compile_of_wellFormed fun r member => ?_
  rcases List.mem_append.1 member with first | second
  · exact good r first
  · exact good' r second

theorem compile_append_error {e : CompileError}
    (h : a.compile = .error e ∨ b.compile = .error e) :
    RuleSet.compile (a ++ b) =
      .error (.batch (CompileError.reported a.compile ++
        CompileError.reported b.compile)) := by
  rw [reported_compile, reported_compile, ← failures_append, compile_eq, if_neg]
  rw [failures_append, List.append_eq_nil_iff]
  rintro ⟨noneA, noneB⟩
  rw [compile_eq, noneA, compile_eq, noneB] at h
  simp at h

/-! ### Rules that are passed over -/

/-- Only the rules of known kinds have a part in what a set compiles to. -/
theorem compile_filter_isKnown (rules : RuleSet) :
    RuleSet.compile (rules.filter Rule.isKnown) = rules.compile := by
  have both : detectors (rules.filter Rule.isKnown) = rules.detectors ∧
      failures (rules.filter Rule.isKnown) = rules.failures := by
    induction rules with
    | nil => exact ⟨rfl, rfl⟩
    | cons r rules ih =>
        have fate := r.fate
        generalize same : r.compile = result at fate
        cases fate with
        | passedOver unknown =>
            rw [List.filter_cons_of_neg (by simp [unknown]), detectors_cons,
              failures_cons, same]
            exact ih
        | usable known =>
            rw [List.filter_cons_of_pos known]
            simp only [detectors_cons, failures_cons, ih, and_self]
        | malformed known =>
            rw [List.filter_cons_of_pos known]
            simp only [detectors_cons, failures_cons, ih, and_self]
  rw [compile_eq, compile_eq, both.1, both.2]

/-- Main statement: a batch is its rules sorted. It compiles just when no rule
of a known kind is malformed, to one detector for each rule of a known kind, and
otherwise fails with one failure for each malformed rule, and each rule has its
place among what compiles, what is passed over and what fails. A batch of two
parts has the detectors of both, or the failures of both, and rules of unknown
kinds change nothing, wherever and however many they are. -/
theorem batch_sorts_rules :
    (∀ rules : RuleSet, ∃ ds failures, rules.Sorted ds failures ∧
      ((∀ r ∈ rules, ¬ r.IsMalformed) → rules.compile = .ok ds ∧
        List.Forall₂ (fun r d => r.compile = .ok d)
          (rules.filter Rule.isKnown) ds) ∧
      ((∃ r ∈ rules, r.IsMalformed) →
        rules.compile = .error (.batch failures) ∧ failures ≠ [])) ∧
    (∀ (a b : RuleSet) (da db : List Detector), a.compile = .ok da →
      b.compile = .ok db → RuleSet.compile (a ++ b) = .ok (da ++ db)) ∧
    (∀ (a b : RuleSet) (e : CompileError),
      a.compile = .error e ∨ b.compile = .error e → RuleSet.compile (a ++ b) =
        .error (.batch (CompileError.reported a.compile ++
          CompileError.reported b.compile))) ∧
    (∀ rules rules' : RuleSet,
      rules.filter Rule.isKnown = rules'.filter Rule.isKnown →
        rules.compile = rules'.compile) := by
  refine ⟨fun rules => ⟨rules.detectors, rules.failures, sorted rules,
    fun good => ?_, fun bad => ?_⟩,
    fun a b da db => compile_append_ok, fun a b e => compile_append_error,
    fun rules rules' same => ?_⟩
  · have each := (sorted rules).compiled
    rw [filter_isUsable good] at each
    exact ⟨compile_of_wellFormed good, each⟩
  · obtain ⟨r, member, malformed⟩ := bad
    exact ⟨compile_of_malformed ⟨r, member, malformed⟩, fun empty =>
      (failures_eq_nil_iff rules).1 empty r member malformed⟩
  · rw [← compile_filter_isKnown rules, same, compile_filter_isKnown]

end RuleSet

end RuleWatch
