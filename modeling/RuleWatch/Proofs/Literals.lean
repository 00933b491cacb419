import RuleWatch.Proofs.Places
import RuleWatch.Rule.Compile

/-!
Patterns that stand for themselves. With a backslash in front of each character
that has a meaning of its own, a text is read back as its characters in a row,
and they mean its bytes. Main statement: such a pattern finds what the text
itself finds in any content, unless it is refused for its size.
-/

namespace RuleWatch.Pattern

open Text

/-! ### Escaping -/

def marks : List Char :=
  ['\\', '.', '+', '*', '?', '(', ')', '|', '[', ']', '{', '}', '^', '$']

def escapedChar (c : Char) : List Char := if c ∈ marks then ['\\', c] else [c]

/-- The pattern that stands for a text. -/
def escaped (s : String) : String := .ofList (s.toList.flatMap escapedChar)

theorem length_le_escaped (cs : List Char) :
    cs.length ≤ (cs.flatMap escapedChar).length := by
  induction cs with
  | nil => exact Nat.le_refl _
  | cons c cs ih =>
      have one : 1 ≤ (escapedChar c).length := by
        unfold escapedChar
        split <;> simp
      rw [List.flatMap_cons, List.length_append, List.length_cons]
      omega

/-! ### Reading -/

theorem readEscape_mark {c : Char} (h : c ∈ marks)
    (rest : List Char) (pos : Nat) :
    readEscape false ⟨'\\' :: c :: rest, pos⟩ =
      .ok (.literal ⟨⟨pos, pos + 2⟩, c, false⟩, ⟨rest, pos + 2⟩) := by
  simp only [marks, List.mem_cons, List.not_mem_nil, or_false] at h
  rcases h with rfl | rfl | rfl | rfl | rfl | rfl | rfl | rfl | rfl | rfl |
    rfl | rfl | rfl | rfl
  all_goals rfl

theorem readPart_plain {c : Char} (h : c ∉ marks) (r : Reader) :
    readPart r c =
      .ok (r.push (.literal ⟨r.cursor.under, c, false⟩) r.cursor.next) := by
  unfold readPart
  split
  -- The last case is the one of the characters that have no meaning of their
  -- own.
  case h_13 => rfl
  all_goals exact absurd (by decide) h

theorem readPart_escapedChar {c : Char} {r : Reader}
    (plain : r.extended = false) {rest : List Char}
    (here : r.cursor.rest = escapedChar c ++ rest) :
    ∃ first more l behind, r.cursor.rest = first :: more ∧ l.char = c ∧
      behind.rest = rest ∧
      readPart r first = .ok (r.push (.literal l) behind) := by
  obtain ⟨⟨_, pos⟩, _, names, level, outer⟩ := r
  cases plain
  cases here
  unfold escapedChar
  by_cases h : c ∈ marks
  · rw [if_pos h]
    refine ⟨'\\', c :: rest, ⟨⟨pos, pos + 2⟩, c, false⟩, ⟨rest, pos + 2⟩,
      rfl, rfl, rfl, ?_⟩
    change (readEscape false ⟨'\\' :: c :: rest, pos⟩).bind _ = _
    rw [readEscape_mark h]
    rfl
  · rw [if_neg h]
    exact ⟨c, rest, _, _, rfl, rfl, rfl, readPart_plain h _⟩

theorem readParts_succ {r : Reader} (plain : r.extended = false)
    (rounds : Nat) :
    readParts (rounds + 1) r =
      match r.cursor.rest with
      | [] => finish r
      | c :: _ => (readPart r c).bind (readParts rounds) := by
  obtain ⟨cursor, _, names, level, outer⟩ := r
  cases plain
  rfl

/-- Behind any parts that were read before, an escaped text is read to the end
of the pattern. -/
theorem readParts_escaped (cs : List Char) (rounds : Nat) {r : Reader}
    (plain : r.extended = false) (here : r.cursor.rest = cs.flatMap escapedChar)
    (whole : r.level.opening = none) (noBars : r.level.branches = [])
    (le : cs.length ≤ rounds) :
    ∃ (span : Span) (ls : List Literal), ls.map Literal.char = cs ∧
      readParts rounds r =
        .ok (.sequence span (r.level.items.reverse ++ ls.map .literal)) := by
  -- By induction on the text: each round reads one character and leaves a
  -- reader that is plain, at the top level and without branches, as the one
  -- before.
  induction cs generalizing r rounds with
  | nil =>
      have ended : finish r =
          .ok (.sequence ⟨r.level.itemsStart, r.cursor.pos⟩
            r.level.items.reverse) := by
        simp [finish, whole, Level.body, Level.branch, noBars]
      refine ⟨⟨r.level.itemsStart, r.cursor.pos⟩, [], rfl, ?_⟩
      rw [List.map_nil, List.append_nil, ← ended]
      cases rounds with
      | zero => rfl
      | succ rounds =>
          rw [readParts_succ plain, here]
          rfl
  | cons c cs ih =>
      cases rounds with
      | zero => exact absurd le (by simp)
      | succ rounds =>
          rw [List.flatMap_cons] at here
          obtain ⟨first, more, l, behind, there, char, rest, read⟩ :=
            readPart_escapedChar plain here
          obtain ⟨span, ls, chars, others⟩ := ih rounds
            (r := r.push (.literal l) behind) plain rest whole noBars
            (Nat.le_of_succ_le_succ le)
          refine ⟨span, l :: ls, by rw [List.map_cons, char, chars], ?_⟩
          rw [readParts_succ plain, there]
          simp only [read, Except.bind, others]
          simp [Reader.push, Level.push]

theorem anyTooDeep_literals (room : Nat) (ls : List Literal) :
    Tree.anyTooDeep room (ls.map .literal) = none := by
  induction ls with
  | nil => rfl
  | cons l ls ih => simp [Tree.anyTooDeep, Tree.tooDeep, ih]

theorem tooDeep_sequence (span : Span) (ls : List Literal) :
    (Tree.sequence span (ls.map .literal)).tooDeep nestLimit = none := by
  match ls with
  | [] => rfl
  | [_] => rfl
  | l :: l' :: ls => exact anyTooDeep_literals _ (l :: l' :: ls)

theorem ofPattern_escaped (s : String) :
    ∃ (span : Span) (ls : List Literal), ls.map Literal.char = s.toList ∧
      Tree.ofPattern (escaped s).toList =
        .ok (.sequence span (ls.map .literal)) := by
  obtain ⟨span, ls, chars, read⟩ := readParts_escaped s.toList _
    (r := Reader.start (s.toList.flatMap escapedChar)) rfl rfl rfl rfl
    (Nat.le_succ_of_le (length_le_escaped s.toList))
  refine ⟨span, ls, chars, ?_⟩
  rw [escaped, String.toList_ofList, Tree.ofPattern, read]
  simp [Reader.start, tooDeep_sequence, bind, Except.bind, pure, Except.pure]

/-! ### Meaning -/

def Shape.ofChars : List Char → Shape
  | [c] => .bytes (String.utf8EncodeChar c)
  | cs => .concat ((cs.map String.utf8EncodeChar).map .bytes)

theorem literal_initial (l : Literal) :
    Mode.initial.literal l = .bytes (String.utf8EncodeChar l.char) := by
  simp [Mode.literal, Mode.initial]

theorem shapes_literals (ls : List Literal) :
    Tree.shapes Mode.initial (ls.map .literal) =
      .ok (((ls.map Literal.char).map String.utf8EncodeChar).map .bytes,
        Mode.initial) := by
  induction ls with
  | nil => rfl
  | cons l ls ih =>
      have first : Tree.shape Mode.initial (.literal l) =
          .ok (.bytes (String.utf8EncodeChar l.char), Mode.initial) := by
        rw [Tree.shape, literal_initial]
      simp [Tree.shapes, first, ih, bind, Except.bind, pure, Except.pure]

theorem shape_sequence (span : Span) {ls : List Literal} (ne : ls ≠ []) :
    (Tree.sequence span (ls.map .literal)).shape Mode.initial =
      .ok (.ofChars (ls.map Literal.char), Mode.initial) := by
  match ls with
  | [] => exact absurd rfl ne
  | [l] =>
      rw [List.map_singleton, Tree.sequence, Tree.shape, literal_initial]
      rfl
  | l :: l' :: ls =>
      have shapes := shapes_literals (l :: l' :: ls)
      simp only [List.map_cons] at shapes
      simp only [List.map_cons, Tree.sequence, Tree.shape, shapes]
      rfl

theorem totalSize_bytes {parts : List (List UInt8)}
    (ne : ∀ bs ∈ parts, bs ≠ []) :
    Shape.totalSize true (parts.map .bytes) =
      stateSize * parts.flatten.length := by
  induction parts with
  | nil => rfl
  | cons bs parts ih =>
      rw [List.forall_mem_cons] at ne
      have one : max 1 bs.length = bs.length := by
        have := List.length_pos_iff.2 ne.1
        omega
      rw [List.map_cons, Shape.totalSize, ih ne.2, Shape.programSize, one,
        List.flatten_cons, List.length_append, Nat.mul_add]

theorem programSize_ofChars {cs : List Char} (ne : cs ≠ []) :
    (Shape.ofChars cs).programSize true =
      stateSize * (cs.flatMap String.utf8EncodeChar).length := by
  have parts : ∀ bs ∈ cs.map String.utf8EncodeChar, bs ≠ [] := by
    intro bs hm
    obtain ⟨c, -, rfl⟩ := List.mem_map.1 hm
    rw [← List.length_pos_iff, String.length_utf8EncodeChar]
    exact c.utf8Size_pos
  have total := totalSize_bytes parts
  rw [← List.flatMap_def] at total
  match cs with
  | [] => exact absurd rfl ne
  | [c] => simpa [Shape.ofChars, Shape.totalSize] using total
  | c :: c' :: cs =>
      have some :
          stateSize ≤
            stateSize *
              ((c :: c' :: cs).flatMap String.utf8EncodeChar).length := by
        have := c.utf8Size_pos
        refine Nat.le_mul_of_pos_right _ ?_
        simp only [List.flatMap_cons, List.length_append,
          String.length_utf8EncodeChar]
        omega
      simp only [Shape.ofChars, Shape.programSize, total, Nat.max_eq_right some]

/-- The meaning of an escaped text is the text, unless it takes too much
room. -/
theorem shape_escaped {s : String} (ne : s ≠ "") :
    Shape.ofPattern (escaped s) =
      if sizeLimit < stateSize * (encode s).length + 6 * stateSize then
        .error .tooLarge
      else .ok (.ofChars s.toList) := by
  have chars : s.toList ≠ [] := fun h => ne (String.toList_eq_nil_iff.1 h)
  obtain ⟨span, ls, same, read⟩ := ofPattern_escaped s
  have some : ls ≠ [] := by
    rintro rfl
    exact chars same.symm
  have large : (Shape.ofChars s.toList).isTooLarge =
      decide (sizeLimit < stateSize * (encode s).length + 6 * stateSize) := by
    rw [Shape.isTooLarge, programSize_ofChars chars, encode]
  rw [Shape.ofPattern, read, Except.bind, shape_sequence span some, same]
  by_cases room : sizeLimit < stateSize * (encode s).length + 6 * stateSize
  · simp [large, room]
  · simp [large, room]

theorem occursIn_ofChars (cs : List Char) (content : List UInt8) :
    (Shape.ofChars cs).occursIn content = true ↔
      cs.flatMap String.utf8EncodeChar <:+: content := by
  match cs with
  | [] => exact occursIn_concat_bytes []
  | [c] => simpa [Shape.ofChars] using occursIn_bytes (String.utf8EncodeChar c)
  | c :: c' :: cs =>
      simp only [Shape.ofChars, occursIn_concat_bytes, ← List.flatMap_def]

end RuleWatch.Pattern

namespace RuleWatch

open Pattern Text

theorem compile_contains (name : String) {p : String} (ne : p ≠ "") :
    Rule.compile ⟨name, "contains", p⟩ = .ok (.contains (encode p)) := by
  have known : RuleKind.ofTag? "contains" = some .contains := rfl
  simp [Rule.compile, known, RuleKind.compile, String.isEmpty_iff, ne]

theorem escaped_ne {p : String} (ne : p ≠ "") : escaped p ≠ "" := by
  intro none
  have length := length_le_escaped p.toList
  rw [← String.toList_ofList (l := p.toList.flatMap escapedChar),
    ← escaped, none] at length
  exact ne
    (String.toList_eq_nil_iff.1
      (List.eq_nil_of_length_eq_zero (Nat.le_zero.1 length)))

theorem compile_escaped (name : String) {p : String} (ne : p ≠ "") :
    Rule.compile ⟨name, "regex", escaped p⟩ =
      if sizeLimit < stateSize * (encode p).length + 6 * stateSize then
        .error (.malformed name
          (Quoted.quote (escaped p) ++ " regexp compile: " ++
            PatternError.tooLarge.message (escaped p)))
      else .ok (.regex (escaped p) (.ofChars p.toList)) := by
  have known : RuleKind.ofTag? "regex" = some .regex := rfl
  by_cases room : sizeLimit < stateSize * (encode p).length + 6 * stateSize
  · simp [Rule.compile, known, RuleKind.compile, escaped_ne ne,
      shape_escaped ne, room]
  · simp [Rule.compile, known, RuleKind.compile, escaped_ne ne,
      shape_escaped ne, room]

/-- Main statement: a pattern that stands for a text is refused when it takes
too much room. If it is not, it finds something in the same contents as the
text, whether or not they are texts. -/
theorem escaped_rule_agrees {p : String} (ne : p ≠ "") (name name' : String) :
    (Rule.compile ⟨name, "regex", escaped p⟩ = .error (.malformed name
        (Quoted.quote (escaped p) ++ " regexp compile: " ++
          "Compiled regex exceeds size limit of 10485760 bytes.")) ∧
        327674 < (encode p).length) ∨
      ∃ d d', Rule.compile ⟨name, "regex", escaped p⟩ = .ok d ∧
        Rule.compile ⟨name', "contains", p⟩ = .ok d' ∧
        ∀ content, d.detect content = d'.detect content := by
  have message : PatternError.tooLarge.message (escaped p) =
      "Compiled regex exceeds size limit of 10485760 bytes." := rfl
  have compiled := compile_escaped name ne
  by_cases room : sizeLimit < stateSize * (encode p).length + 6 * stateSize
  · rw [if_pos room, message] at compiled
    refine .inl ⟨compiled, ?_⟩
    simp only [sizeLimit, stateSize] at room
    omega
  · rw [if_neg room] at compiled
    refine .inr ⟨_, _, compiled, compile_contains name' ne, fun content => ?_⟩
    rw [Bool.eq_iff_iff, Detector.detect, Detector.detect, occursIn_ofChars,
      occursIn_iff_infix, encode]

/-- A pattern with a point in it, that stands for the point and not for any
character. -/
theorem escaped_point_agrees :
    ∃ d d', Rule.compile ⟨"r", "regex", "a\\.b"⟩ = .ok d ∧
      Rule.compile ⟨"r", "contains", "a.b"⟩ = .ok d' ∧
      ∀ content, d.detect content = d'.detect content := by
  have ne : "a.b" ≠ "" := by decide
  have pattern : escaped "a.b" = "a\\.b" := by decide
  rw [← pattern]
  obtain ⟨-, long⟩ | agrees := escaped_rule_agrees ne "r" "r"
  · exact absurd long (by decide)
  · exact agrees

end RuleWatch
