import RuleWatch.Proofs.Batches
import RuleWatch.Proofs.FlagLists
import RuleWatch.Proofs.Quoting

/-!
What is wrong with a rule is told under its name. A message starts with the
quoted name, which can be told from all that is behind it, and has no more lines
than the text behind the name. Main statement: messages name their rules, and
the message of a batch has the lines of its failures one after another, whatever
the rules are called.
-/

namespace RuleWatch

/-! ### Lines -/

namespace Text

def lines (s : String) : List (List Char) := pieces endsLine s.toList

theorem pieces_append_of_free {isMark : Char → Bool} {xs : List Char}
    (free : ∀ c ∈ xs, isMark c = false) (ys : List Char) :
    pieces isMark (xs ++ ys) = (pieces isMark ys).modifyHead (xs ++ ·) := by
  cases cut : pieces isMark ys with
  | nil => exact absurd cut (pieces_ne_nil isMark ys)
  | cons p ps =>
      induction xs with
      | nil => exact cut
      | cons c xs ih =>
          rw [List.forall_mem_cons] at free
          rw [List.cons_append, pieces, if_neg (by simp [free.1]), ih free.2]
          rfl

theorem lines_append_newline (s t : String) :
    lines (s ++ "\n" ++ t) = lines s ++ lines t := by
  have cut := List.splitOnP_append_cons s.toList t.toList
    (show endsLine '\n' = true by decide)
  simpa [lines, pieces_eq_splitOnP] using cut

theorem lines_intercalate {ss : List String} (filled : ss ≠ []) :
    lines ("\n".intercalate ss) = ss.flatMap lines := by
  induction ss with
  | nil => exact absurd rfl filled
  | cons s ss ih =>
      by_cases last : ss = []
      · simp [last]
      · rw [String.intercalate_cons_of_ne_nil last, lines_append_newline,
          ih last, List.flatMap_cons]

end Text

open Text

namespace CompileError

/-! ### Messages -/

/-- What stands in front of what is wrong with a rule. -/
def heading (name : String) : String := "rule " ++ Quoted.quote name ++ ": "

variable {name name' kind text r r' : String} {c : Char}

/-- A heading is told from what stands behind it, and so is the name in it. -/
theorem heading_append_inj :
    heading name ++ r = heading name' ++ r' ↔ name = name' ∧ r = r' := by
  simp only [heading, String.append_assoc, String.append_right_inj,
    Quoted.quote_append_inj]

theorem message_unknownKind (name kind : String) :
    (unknownKind name kind).message =
      heading name ++ ("unknown rule type " ++ Quoted.quote kind) := by
  have middle : ": unknown rule type " =
      ": " ++ "unknown rule type " := by decide
  rw [message, middle, heading]
  simp only [String.append_assoc]

theorem message_malformed (name text : String) :
    (malformed name text).message = heading name ++ text := by
  rw [message, heading]

theorem messages_eq_map (failures : List CompileError) :
    messages failures = failures.map message := by
  induction failures with
  | nil => rfl
  | cons e failures ih => rw [messages, ih, List.map_cons]

/-! ### Lines of messages -/

theorem keeps_line_of_mem_heading (h : c ∈ (heading name).toList) :
    isControl c = false ∧ endsLine c = false := by
  have letter := List.all_eq_true.1
    (show ("rule ".toList ++ ": ".toList).all Quoted.isPlain = true by decide)
  rw [heading, String.toList_append, String.toList_append, List.mem_append,
    List.mem_append] at h
  refine Quoted.keeps_line_of_isPlain ?_
  rcases h with (front | quoted) | behind
  · exact letter c (List.mem_append_left _ front)
  · exact Quoted.isPlain_of_mem_quote quoted
  · exact letter c (List.mem_append_right _ behind)

theorem keeps_line_of_mem_unknownKind (h :
    c ∈ (unknownKind name kind).message.toList) :
    isControl c = false ∧ endsLine c = false := by
  have letter := List.all_eq_true.1
    (show "unknown rule type ".toList.all Quoted.isPlain = true by decide)
  rw [message_unknownKind, String.toList_append, String.toList_append,
    List.mem_append, List.mem_append] at h
  rcases h with front | words | quoted
  · exact keeps_line_of_mem_heading front
  · exact Quoted.keeps_line_of_isPlain (letter c words)
  · exact Quoted.keeps_line_of_isPlain (Quoted.isPlain_of_mem_quote quoted)

/-- A heading begins the first line of what stands behind it. -/
theorem lines_heading_append (name text : String) :
    lines (heading name ++ text) =
      (lines text).modifyHead ((heading name).toList ++ ·) := by
  rw [lines, String.toList_append]
  exact pieces_append_of_free (fun _ h => (keeps_line_of_mem_heading h).2) _

theorem lines_batch {failures : List CompileError} (filled : failures ≠ []) :
    lines (batch failures).message =
      failures.flatMap fun e => lines e.message := by
  rw [message, messages_eq_map, lines_intercalate (by simpa using filled),
    List.flatMap_map]

end CompileError

open CompileError

theorem RuleSet.exists_told (rules : RuleSet) : ∃ told : List (String × String),
    rules.failures = told.map (fun f => malformed f.1 f.2) ∧
      List.Forall₂ (fun r f =>
        f.1 = r.name ∧ r.compile = .error (malformed f.1 f.2))
        (rules.filter fun r => r.IsMalformed) told := by
  have refused := (sorted rules).refused
  generalize rules.failures = failures at refused
  generalize (rules.filter fun r => r.IsMalformed) = bad at refused
  induction refused with
  | nil => exact ⟨[], rfl, .nil⟩
  | @cons r e bad failures first _ ih =>
      obtain ⟨compiled, text, rfl⟩ := first
      obtain ⟨told, rfl, others⟩ := ih
      exact ⟨(r.name, text) :: told, rfl, .cons ⟨rfl, compiled⟩ others⟩

/-- Main statement: what is told of a rule tells its name, and all else that it
was made from. No name ends a line, so that a rule cannot look like another one
or like two: a batch that fails has the lines of its failures, each of them with
a line that starts with the name of its rule and with further ones only where
what is wrong with the rule has them. -/
theorem messages_name_their_rules :
    (∀ name kind name' kind' : String,
      (unknownKind name kind).message = (unknownKind name' kind').message ↔
        name = name' ∧ kind = kind') ∧
    (∀ name kind : String, ∀ c ∈ (unknownKind name kind).message.toList,
      isControl c = false ∧ endsLine c = false) ∧
    (∀ name text name' text' : String,
      (malformed name text).message = (malformed name' text').message ↔
        name = name' ∧ text = text') ∧
    (∀ name kind name' text : String,
      (unknownKind name kind).message = (malformed name' text).message ↔
        name = name' ∧ "unknown rule type " ++ Quoted.quote kind = text) ∧
    (∀ name text : String, (malformed name text).message =
      heading name ++ text ∧
      ∀ c ∈ (heading name).toList, isControl c = false ∧ endsLine c = false) ∧
    (∀ name r name' r' : String,
      heading name ++ r = heading name' ++ r' ↔ name = name' ∧ r = r') ∧
    ∀ (rules : RuleSet) (e : CompileError), rules.compile = .error e →
      ∃ told : List (String × String),
        List.Forall₂ (fun r f =>
          f.1 = r.name ∧ r.compile = .error (malformed f.1 f.2))
          (rules.filter fun r => r.IsMalformed) told ∧
        lines e.message =
          told.flatMap fun f =>
            (lines f.2).modifyHead ((heading f.1).toList ++ ·) := by
  refine ⟨fun name kind name' kind' => ?_,
    fun name kind c => keeps_line_of_mem_unknownKind,
    fun name text name' text' => ?_, fun name kind name' text => ?_,
    fun name text => ⟨message_malformed name text, fun c =>
      keeps_line_of_mem_heading⟩, fun name r name' r' => heading_append_inj,
      fun rules e failed => ?_⟩
  · rw [message_unknownKind, message_unknownKind, heading_append_inj,
      String.append_right_inj, Quoted.quote_inj]
  · rw [message_malformed, message_malformed, heading_append_inj]
  · rw [message_unknownKind, message_malformed, heading_append_inj]
  · obtain ⟨told, failures, each⟩ := rules.exists_told
    refine ⟨told, each, ?_⟩
    rw [RuleSet.compile_eq] at failed
    split at failed
    · cases failed
    · next filled =>
        cases failed
        rw [lines_batch filled, failures, List.flatMap_map]
        simp only [message_malformed, lines_heading_append]

/-- A name that looks like the end of one message and the start of another. -/
def forgedName : String := "a\": empty pattern\nrule \"b"

def forgedRules : RuleSet :=
  [⟨forgedName, "contains", ""⟩, ⟨"c", "contains", ""⟩]

theorem forged_name_stays_on_its_line :
    ∃ e, forgedRules.compile = .error e ∧
      lines e.message =
        ["rule \"a\\\": empty pattern\\nrule \\\"b\": empty pattern".toList,
          "rule \"c\": empty pattern".toList] ∧
      '\\' ∈ (heading forgedName).toList ∧ isControl '\\' = false ∧
      '\\' ∈ (unknownKind "new" forgedName).message.toList ∧
        endsLine '\\' = false := by
  obtain ⟨-, unknown, -, -, headed, -, batch⟩ := messages_name_their_rules
  have failed : forgedRules.compile = .error (.batch
      [malformed forgedName "empty pattern", malformed "c" "empty pattern"]) :=
    rfl
  obtain ⟨told, each, shown⟩ := batch forgedRules _ failed
  have bad : (forgedRules.filter fun r => r.IsMalformed) =
      forgedRules := by decide
  rw [bad] at each
  obtain ⟨⟨name, text⟩, _, ⟨rfl, compiled⟩, others, rfl⟩ :=
    List.forall₂_cons_left_iff.1 each
  obtain ⟨⟨name', text'⟩, _, ⟨rfl, compiled'⟩, none, rfl⟩ :=
    List.forall₂_cons_left_iff.1 others
  cases none
  cases compiled
  cases compiled'
  have mark : '\\' ∈ (heading forgedName).toList := by decide
  have mark' : '\\' ∈ (unknownKind "new" forgedName).message.toList := by decide
  exact ⟨_, failed, shown.trans (by decide), mark,
    ((headed forgedName "").2 _ mark).1, mark',
    (unknown "new" forgedName _ mark').2⟩

end RuleWatch
