import Mathlib.Tactic.SplitIfs
import RuleWatch.Proofs.CodeSets
import RuleWatch.Proofs.SocketAddresses
import RuleWatch.Text.Quoted

/-!
Quoted texts stay apart from what is around them. An escape is read back
whatever stands behind it, and none begins with a quote, so that the quote at
the end of a text is found and all that was quoted is known. What is written is
plain: nothing in it is a control or ends a line.
-/

namespace RuleWatch.Text

def isControl (c : Char) : Bool :=
  c.toNat < 0x20 || (0x7F ≤ c.toNat && c.toNat < 0xA0)

/-- The characters that end a line: five controls and the two separators. -/
def endsLine (c : Char) : Bool :=
  [0xA, 0xB, 0xC, 0xD, 0x85, 0x2028, 0x2029].contains c.toNat

namespace Quoted

open CodeSet Net Unicode

/-! ### Escapes -/

def signs : List (Char × Char) :=
  [('"', '"'), ('\\', '\\'), ('\x00', '0'), ('\t', 't'),
    ('\n', 'n'), ('\r', 'r')]

/-- The three ways in which a character is written. -/
inductive Escaped (c : Char) : List Char → Prop
  | sign (k : Char) (h : (c, k) ∈ signs) : Escaped c ['\\', k]
  | itself (noQuote : c ≠ '"') (noEscape : c ≠ '\\')
      (plain : isPlain c = true) : Escaped c [c]
  | numbered : Escaped c (numbered c)

theorem escaped (c : Char) : Escaped c (escape c) := by
  unfold escape
  split_ifs with quote backslash null tab feed carriage plain
  · exact .sign _ (by simp [signs, quote])
  · exact .sign _ (by simp [signs, backslash])
  · exact .sign _ (by simp [signs, null])
  · exact .sign _ (by simp [signs, tab])
  · exact .sign _ (by simp [signs, feed])
  · exact .sign _ (by simp [signs, carriage])
  · exact .itself quote backslash plain
  · exact .numbered

/-! ### Read back -/

def readEscape : Reader Char
  | '\\' :: 'u' :: s => do
      let (n, s) ← readNumber 16 0x10FFFF (← readChar '{' s)
      return (.ofNat n, ← readChar '}' s)
  | '\\' :: k :: s => (signs.find? (·.2 = k)).map (·.1, s)
  | c :: s => some (c, s)
  | [] => none

variable {c d : Char} {s t r r' : List Char}

theorem readEscape_sign {k : Char} (h : (c, k) ∈ signs) (r : List Char) :
    readEscape ('\\' :: k :: r) = some (c, r) := by
  simp only [signs, List.mem_cons, Prod.mk.injEq,
    List.not_mem_nil, or_false] at h
  rcases h with ⟨rfl, rfl⟩ | ⟨rfl, rfl⟩ | ⟨rfl, rfl⟩ | ⟨rfl,
    rfl⟩ | ⟨rfl, rfl⟩ | ⟨rfl, rfl⟩
  all_goals rfl

theorem readEscape_itself (h : c ≠ '\\') (r : List Char) :
    readEscape (c :: r) = some (c, r) := by
  unfold readEscape
  split <;> simp_all

theorem readEscape_numbered (c : Char) (r : List Char) :
    readEscape (numbered c ++ r) = some (c, r) := by
  have scalar : c.toNat ≤ 0x10FFFF := by
    have valid : c.toNat < 0xD800 ∨ 0xDFFF < c.toNat ∧ c.toNat < 0x110000 :=
      c.valid
    omega
  have ends : EndsNumber 16 ('}' :: r) := by
    intro c first
    cases first
    decide
  have number := readNumber_toDigits (by decide) (by decide) scalar ends
  have spelled : numbered c ++ r =
      '\\' :: 'u' :: '{' :: (Nat.toDigits 16 c.toNat ++ '}' :: r) := by
    simp [numbered, hexDigits]
  rw [spelled]
  simp [readEscape, readChar, number]

/-- An escape is read back, whatever stands behind it. -/
theorem readEscape_escape (c : Char) (r : List Char) :
    readEscape (escape c ++ r) = some (c, r) := by
  have form := escaped c
  generalize escape c = e at form
  cases form with
  | sign k h => exact readEscape_sign h r
  | itself _ noEscape _ => exact readEscape_itself noEscape r
  | numbered => exact readEscape_numbered c r

theorem escape_append_inj (h : escape c ++ r = escape d ++ r') :
    c = d ∧ r = r' := by
  have read := readEscape_escape c r
  rw [h, readEscape_escape] at read
  cases read
  exact ⟨rfl, rfl⟩

/-- No escape begins as the end of a text does. -/
theorem escape_append_ne (c : Char) (r r' : List Char) :
    escape c ++ r ≠ '"' :: r' := by
  have form := escaped c
  generalize escape c = e at form
  cases form with
  | sign k h => simp
  | itself noQuote _ _ => simp [noQuote]
  | numbered => simp [numbered]

/-- The quote behind a text is where one stands instead of an escape, so neither
of two texts ends before the other. -/
theorem escapes_append_inj (h : s.flatMap escape ++ '"' :: r =
    t.flatMap escape ++ '"' :: r') :
    s = t ∧ r = r' := by
  induction s generalizing t with
  | nil =>
      cases t with
      | nil =>
          cases h
          exact ⟨rfl, rfl⟩
      | cons d t =>
          rw [List.flatMap_cons, List.append_assoc] at h
          exact absurd h.symm (escape_append_ne d _ r)
  | cons c s ih =>
      rw [List.flatMap_cons, List.append_assoc] at h
      cases t with
      | nil => exact absurd h (escape_append_ne c _ r')
      | cons d t =>
          rw [List.flatMap_cons, List.append_assoc] at h
          obtain ⟨rfl, others⟩ := escape_append_inj h
          obtain ⟨rfl, rfl⟩ := ih others
          exact ⟨rfl, rfl⟩

theorem toList_quote (s : String) :
    (quote s).toList = '"' :: (s.toList.flatMap escape ++ ['"']) :=
  String.toList_ofList

theorem quote_append_inj {s t r r' : String} :
    quote s ++ r = quote t ++ r' ↔ s = t ∧ r = r' := by
  constructor
  · intro h
    have chars := congrArg String.toList h
    simp only [String.toList_append, toList_quote, List.cons_append,
      List.append_assoc, List.nil_append, List.cons.injEq, true_and] at chars
    obtain ⟨same, behind⟩ := escapes_append_inj chars
    exact ⟨String.toList_inj.1 same, String.toList_inj.1 behind⟩
  · rintro ⟨rfl, rfl⟩
    rfl

theorem quote_inj {s t : String} : quote s = quote t ↔ s = t := by
  simpa using @quote_append_inj s t "" ""

/-! ### Plain characters -/

theorem isPlain_of_mem_numbered (h : d ∈ numbered c) : isPlain d = true := by
  have digit : ∀ n < 16, isPlain (Nat.digitChar n) = true := by decide
  obtain ⟨ds, spelled, small, -⟩ :=
    exists_digits (show 2 ≤ 16 by decide) c.toNat
  simp only [numbered, hexDigits, spelled, List.mem_append, List.mem_map,
    List.mem_cons, List.not_mem_nil, or_false] at h
  rcases h with ((rfl | rfl | rfl) | ⟨n, member, rfl⟩) | rfl
  · decide
  · decide
  · decide
  · exact digit n (small n member)
  · decide

theorem isPlain_of_mem_escape (h : d ∈ escape c) : isPlain d = true := by
  have form := escaped c
  generalize escape c = e at form h
  cases form with
  | sign k pair =>
      have plain : ∀ p ∈ signs, isPlain p.2 = true := by decide
      rcases List.mem_cons.1 h with rfl | last
      · decide
      · rw [List.mem_singleton.1 last]
        exact plain _ pair
  | itself _ _ plain =>
      rw [List.mem_singleton.1 h]
      exact plain
  | numbered => exact isPlain_of_mem_numbered h

/-- A quoted text consists of plain characters, whatever was quoted. -/
theorem isPlain_of_mem_quote {s : String} (h : c ∈ (quote s).toList) :
    isPlain c = true := by
  have sign : isPlain '"' = true := by decide
  rw [toList_quote, List.mem_cons, List.mem_append, List.mem_flatMap,
    List.mem_singleton] at h
  rcases h with rfl | ⟨d, -, member⟩ | rfl
  · exact sign
  · exact isPlain_of_mem_escape member
  · exact sign

theorem hidden_of_category (name table : String)
    (category : name ∈ ["cc", "cf", "co", "cn", "zl", "zp", "zs"])
    (listed : (NamedSet.find? categories name).getD .empty = .ofTable table)
    {n : Nat} (h : Holds ((tableWords table).flatMap ofWord) n) :
    hidden.contains n = true := by
  rw [hidden, contains_union, inCategories, holds_unions]
  refine .inl ⟨.ofTable table, List.mem_map.2 ⟨name, category, listed⟩, ?_⟩
  rwa [ofTable, holds_ofRanges]

theorem hidden_separators :
    hidden.contains 0x2028 = true ∧ hidden.contains 0x2029 = true :=
  ⟨hidden_of_category "zl" "2028" (by decide) rfl
      ⟨(0x2028, 0x2028), by decide +kernel, by decide⟩,
    hidden_of_category "zp" "2029" (by decide) rfl
      ⟨(0x2029, 0x2029), by decide +kernel, by decide⟩⟩

theorem isPlain_iff : isPlain c = true ↔ 0x20 ≤ c.toNat ∧
    (c.toNat < 0x7F ∨ 0xA0 ≤ c.toNat ∧ hidden.contains c.toNat = false) := by
  unfold isPlain
  split_ifs with ascii control
  · rw [decide_eq_true_eq]
    omega
  · simp only [false_iff]
    omega
  · have beyond : 0xA0 ≤ c.toNat := Nat.le_of_not_lt control
    rw [Bool.not_eq_true']
    constructor
    · exact fun shown => ⟨by omega, .inr ⟨beyond, shown⟩⟩
    · rintro ⟨-, low | ⟨-, shown⟩⟩
      · exact absurd low ascii
      · exact shown

theorem keeps_line_of_isPlain (plain : isPlain c = true) :
    isControl c = false ∧ endsLine c = false := by
  obtain ⟨line, paragraph⟩ := hidden_separators
  obtain ⟨low, high⟩ := isPlain_iff.1 plain
  constructor
  · simp only [isControl, Bool.or_eq_false_iff, Bool.and_eq_false_iff,
      decide_eq_false_iff_not]
    omega
  · rw [← Bool.not_eq_true, endsLine, List.contains_iff_mem]
    intro member
    simp only [List.mem_cons, List.not_mem_nil, or_false] at member
    rcases high with ascii | ⟨beyond, shown⟩
    · omega
    · -- Beyond the controls only the two separators are left.
      have separator : c.toNat = 0x2028 ∨ c.toNat = 0x2029 := by omega
      rcases separator with same | same
      · rw [same, line] at shown
        cases shown
      · rw [same, paragraph] at shown
        cases shown

end Quoted

end RuleWatch.Text
