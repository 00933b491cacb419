import RuleWatch.Proofs.Prefixes
import RuleWatch.Settings.Features

/-!
Lists of flags. A list turns on its entries: what its pieces between commas hold
between the blanks at their ends, as far as that is anything. Main statement: a
list denotes the set of its entries, two lists joined by a comma denote the
union of their sets, and flags are compared as sets.
-/

namespace RuleWatch

theorem Text.pieces_eq_splitOnP (isMark : Char → Bool) (s : List Char) :
    pieces isMark s = s.splitOnP isMark := by
  induction s with
  | nil => exact List.splitOnP_nil.symm
  | cons c cs ih =>
      rw [List.splitOnP_cons_eq_if_modifyHead, pieces, ih]
      split
      · rfl
      · cases hs : cs.splitOnP isMark with
        | nil => exact absurd hs (List.splitOnP_ne_nil isMark cs)
        | cons p ps => rfl

namespace Features

/-! ### Blanks -/

/-- The blanks are the characters that count as white space. -/
theorem isBlank_iff (c : Char) : isBlank c = true ↔
    9 ≤ c.toNat ∧ c.toNat ≤ 13 ∨ 0x2000 ≤ c.toNat ∧ c.toNat ≤ 0x200A ∨
      c.toNat ∈ [0x20, 0x85, 0xA0, 0x1680, 0x2028, 0x2029, 0x202F,
        0x205F, 0x3000] := by
  simp only [isBlank, Text.CodeSet.contains, Unicode.ranges_whitespace,
    Text.CodeSet.has_cons, Text.CodeSet.has_nil, Bool.false_eq_true,
    List.mem_cons, List.not_mem_nil, or_false]
  omega

/-- Whether `t` is what is left of a text without the blanks at its ends. -/
structure IsCore (s t : List Char) : Prop where
  around : ∃ u v, s = u ++ (t ++ v) ∧ (∀ c ∈ u, isBlank c = true) ∧
    ∀ c ∈ v, isBlank c = true
  first : ∀ c ∈ t.head?, isBlank c = false
  last : ∀ c ∈ t.getLast?, isBlank c = false

variable {s t u v : List Char}

/-- Trimming finds what is between the blanks. -/
theorem trim_eq_iff : trim s = t ↔ IsCore s t := by
  have reversed : trim s = t ↔
      (s.dropWhile isBlank).reverse.dropWhile isBlank = t.reverse := by
    rw [trim, List.reverse_eq_iff]
  rw [reversed, dropWhile_eq_iff]
  constructor
  · rintro ⟨w, parts, behind, last⟩
    obtain ⟨u, front, before, first⟩ :=
      dropWhile_eq_iff.1 (rfl : s.dropWhile isBlank = _)
    rw [List.reverse_eq_iff, List.reverse_append, List.reverse_reverse] at parts
    rw [parts] at front first
    refine ⟨⟨u, w.reverse, front, before, fun c hc =>
      behind c (List.mem_reverse.1 hc)⟩,
      fun c hc => first c ?_, fun c hc => last c ?_⟩
    · rw [List.head?_append, Option.mem_def.1 hc]
      rfl
    · rwa [List.head?_reverse]
  · rintro ⟨⟨u, v, rfl, before, behind⟩, first, last⟩
    cases ht : t with
    | nil =>
        have none : (u ++ ([] ++ v)).dropWhile isBlank = [] := by
          refine dropWhile_eq_iff.2 ⟨u ++ v, by simp, fun c hc => ?_, by simp⟩
          exact (List.mem_append.1 hc).elim (before c) (behind c)
        rw [none]
        exact ⟨[], rfl, by simp, by simp⟩
    | cons d t' =>
        rw [← ht]
        have front : (u ++ (t ++ v)).dropWhile isBlank = t ++ v := by
          refine dropWhile_eq_iff.2 ⟨u, rfl, before, fun c hc => first c ?_⟩
          rw [ht] at hc ⊢
          exact hc
        rw [front, List.reverse_append]
        refine ⟨v.reverse, rfl, fun c hc => behind c (List.mem_reverse.1 hc),
          fun c hc => last c ?_⟩
        rwa [List.head?_reverse] at hc

theorem isCore_pad (before : ∀ c ∈ u, isBlank c = true)
    (behind : ∀ c ∈ v, isBlank c = true) :
    IsCore (u ++ (s ++ v)) t ↔ IsCore s t := by
  have core {t : List Char} (h : IsCore s t) : IsCore (u ++ (s ++ v)) t := by
    obtain ⟨⟨u', v', rfl, before', behind'⟩, first, last⟩ := h
    refine ⟨⟨u ++ u', v' ++ v, by simp, fun c hc => ?_, fun c hc => ?_⟩,
      first, last⟩
    · exact (List.mem_append.1 hc).elim (before c) (before' c)
    · exact (List.mem_append.1 hc).elim (behind' c) (behind c)
  rw [← trim_eq_iff, trim_eq_iff.2 (core (trim_eq_iff.1 rfl)), trim_eq_iff]

/-! ### Entries -/

/-- Whether a text is an entry of a list: what is left of one of its pieces, if
that is anything. -/
def IsEntry (list entry : List Char) : Prop :=
  entry ≠ [] ∧ ∃ p ∈ list.splitOn ',', IsCore p entry

variable {a b e w : List Char}

theorem isEntry_of_free (free : ',' ∉ a) :
    IsEntry a e ↔ e ≠ [] ∧ IsCore a e := by
  have one : a.splitOn ',' = [a] := by
    rw [List.splitOn_eq_splitOnP]
    exact List.splitOnP_eq_singleton fun c hc =>
      beq_false_of_ne (ne_of_mem_of_not_mem hc free)
  simp [IsEntry, one]

/-- All laws of lists follow from this one: a comma divides the entries. -/
theorem isEntry_comma :
    IsEntry (a ++ ',' :: b) e ↔ IsEntry a e ∨ IsEntry b e := by
  have cut : (a ++ ',' :: b).splitOn ',' = a.splitOn ',' ++ b.splitOn ',' := by
    simp only [List.splitOn_eq_splitOnP]
    exact List.splitOnP_append_cons a b (beq_self_eq_true ',')
  simp only [IsEntry, cut, List.mem_append, or_and_right,
    exists_or, and_or_left]

theorem comma_not_mem_of_blank (blank : ∀ c ∈ w, isBlank c = true) : ',' ∉ w :=
  fun comma => absurd (blank ',' comma) (by simp [isBlank_iff])

theorem not_isEntry_blank (blank : ∀ c ∈ w, isBlank c = true) :
    ¬ IsEntry w e := by
  rw [isEntry_of_free (comma_not_mem_of_blank blank)]
  rintro ⟨filled, core⟩
  have empty : IsCore w [] :=
    ⟨⟨w, [], by simp, blank, by simp⟩, by simp, by simp⟩
  rw [← trim_eq_iff] at core empty
  exact filled (core.symm.trans empty)

theorem isEntry_blank_append (blank : ∀ c ∈ w, isBlank c = true) :
    IsEntry (w ++ a) e ↔ IsEntry a e := by
  have single {x : List Char} (free : ',' ∉ x) :
      IsEntry (w ++ x) e ↔ IsEntry x e := by
    have pad := isCore_pad (s := x) (t := e) (v := []) blank (by simp)
    rw [List.append_nil] at pad
    rw [isEntry_of_free (by simp [free, comma_not_mem_of_blank blank]),
      isEntry_of_free free, pad]
  by_cases comma : ',' ∈ a
  · obtain ⟨x, y, rfl, free⟩ := List.eq_append_cons_of_mem comma
    rw [← List.append_assoc, isEntry_comma, isEntry_comma, single free]
  · exact single comma

theorem isEntry_append_blank (blank : ∀ c ∈ w, isBlank c = true) :
    IsEntry (a ++ w) e ↔ IsEntry a e := by
  have single {x : List Char} (free : ',' ∉ x) :
      IsEntry (x ++ w) e ↔ IsEntry x e := by
    have pad := isCore_pad (s := x) (t := e) (u := []) (by simp) blank
    rw [List.nil_append] at pad
    rw [isEntry_of_free (by simp [free, comma_not_mem_of_blank blank]),
      isEntry_of_free free, pad]
  by_cases comma : ',' ∈ a
  · obtain ⟨y, x, parts, free⟩ := List.eq_append_cons_of_mem
      (List.mem_reverse.2 comma)
    rw [List.reverse_eq_iff, List.reverse_append, List.reverse_cons,
      List.append_assoc, List.singleton_append] at parts
    rw [parts, List.append_assoc, List.cons_append, isEntry_comma,
      isEntry_comma, single (by simpa using free)]
  · exact single comma

theorem IsEntry.bare (h : IsEntry a e) :
    ',' ∉ e ∧ (∀ c ∈ e.head?, isBlank c = false) ∧
    ∀ c ∈ e.getLast?, isBlank c = false := by
  obtain ⟨-, p, piece, core⟩ := h
  refine ⟨fun comma => ?_, core.first, core.last⟩
  rw [List.splitOn_eq_splitOnP, ← Text.pieces_eq_splitOnP] at piece
  obtain ⟨⟨u, v, rfl, -⟩, -, -⟩ := core
  exact absurd (Text.free_of_mem_pieces piece ',' (by simp [comma])) (by simp)

/-! ### Sets of flags -/

theorem isEnabled_ofList_iff (list flag : String) :
    (ofList list).isEnabled flag = true ↔ IsEntry list.toList flag.toList := by
  have entry (e : List Char) : String.ofList e = flag ↔ e = flag.toList := by
    rw [← String.toList_inj, String.toList_ofList]
  simp only [isEnabled, ofList, List.contains_iff_mem, List.mem_map,
    List.mem_filter, Text.pieces_eq_splitOnP, IsEntry, List.splitOn_eq_splitOnP,
    entry, ← trim_eq_iff]
  constructor
  · rintro ⟨e, ⟨found, filled⟩, rfl⟩
    exact ⟨by simpa using filled, found⟩
  · rintro ⟨filled, found⟩
    exact ⟨_, ⟨found, by simpa using filled⟩, rfl⟩

theorem isEnabled_insert (f : Features) (flag other : String) :
    (f.insert flag).isEnabled other = (other == flag || f.isEnabled other) :=
  List.contains_cons

theorem same_iff (f g : Features) :
    f.same g = true ↔
      ∀ flag, f.isEnabled flag = true ↔ g.isEnabled flag = true := by
  simp only [same, Bool.and_eq_true, List.all_eq_true, isEnabled,
    List.contains_iff_mem]
  exact ⟨fun h flag => ⟨h.1 flag, h.2 flag⟩, fun h =>
    ⟨fun x => (h x).1, fun x => (h x).2⟩⟩

theorem same_ofList_iff (a b : String) : (ofList a).same (ofList b) = true ↔
    ∀ e, IsEntry a.toList e ↔ IsEntry b.toList e := by
  simp only [same_iff, isEnabled_ofList_iff]
  refine ⟨fun h e => ?_, fun h flag => h flag.toList⟩
  have := h (.ofList e)
  rwa [String.toList_ofList] at this

/-- A list of flags denotes the set of its entries, whatever the order in which
they stand, how often they do and which blanks and empty pieces are between
them; a comma joins two sets. A flag can be turned on beside a list just as it
is, and two sets are the same when the same flags are on. -/
theorem lists_denote_sets :
    (∀ list flag : String,
      (ofList list).isEnabled flag = true ↔ IsEntry list.toList flag.toList) ∧
    (∀ a b flag : String, (ofList (a ++ "," ++ b)).isEnabled flag =
      ((ofList a).isEnabled flag || (ofList b).isEnabled flag)) ∧
    (∀ a b : String, (ofList a).same (ofList b) = true ↔
      ∀ e, IsEntry a.toList e ↔ IsEntry b.toList e) ∧
    (∀ a b : String,
      (ofList (a ++ "," ++ b)).same (ofList (b ++ "," ++ a)) = true) ∧
    (∀ a : String, (ofList (a ++ "," ++ a)).same (ofList a) = true) ∧
    (∀ a w : String, (∀ c ∈ w.toList, isBlank c = true) →
      (ofList (a ++ "," ++ w)).same (ofList a) = true ∧
      (ofList (a ++ w)).same (ofList a) = true ∧
        (ofList (w ++ a)).same (ofList a) = true) ∧
    (∀ list flag : String, (ofList list).isEnabled flag = true →
      ',' ∉ flag.toList ∧
      (∀ c ∈ flag.toList.head?, isBlank c = false) ∧
      ∀ c ∈ flag.toList.getLast?, isBlank c = false) ∧
    (∀ (f : Features) (flag other : String),
      (f.insert flag).isEnabled other = (other == flag || f.isEnabled other)) ∧
    ∀ f g : Features,
      f.same g = true ↔
        ∀ flag, f.isEnabled flag = true ↔ g.isEnabled flag = true := by
  have comma (a b : String) (e : List Char) : IsEntry (a ++ "," ++ b).toList e ↔
      IsEntry a.toList e ∨ IsEntry b.toList e := by
    rw [← isEntry_comma, String.toList_append, String.toList_append,
      List.append_assoc]
    rfl
  refine ⟨isEnabled_ofList_iff, fun a b flag => ?_, same_ofList_iff,
    fun a b => ?_, fun a => ?_, fun a w blank => ⟨?_, ?_, ?_⟩,
    fun list flag on => ?_, isEnabled_insert, same_iff⟩
  · rw [Bool.eq_iff_iff, Bool.or_eq_true]
    simp only [isEnabled_ofList_iff, comma]
  · rw [same_ofList_iff]
    exact fun e => by rw [comma, comma, or_comm]
  · rw [same_ofList_iff]
    exact fun e => by rw [comma, or_self]
  · rw [same_ofList_iff]
    exact fun e => by rw [comma, or_iff_left (not_isEntry_blank blank)]
  · rw [same_ofList_iff]
    exact fun e => by rw [String.toList_append, isEntry_append_blank blank]
  · rw [same_ofList_iff]
    exact fun e => by rw [String.toList_append, isEntry_blank_append blank]
  · exact ((isEnabled_ofList_iff list flag).1 on).bare

/-- A list with blanks of several kinds, an empty piece and one that is all
blank. -/
theorem spaced_list_denotes_set :
    let list := " a,\tb\u00a0,,c"
    let blank := "\u3000 "
    IsEntry list.toList "b".toList ∧ (ofList list).isEnabled "b" = true ∧
      ',' ∉ "b".toList ∧
      (∀ c ∈ blank.toList, isBlank c = true) ∧
      (ofList (list ++ "," ++ blank)).same (ofList list) = true := by
  intro list blank
  obtain ⟨entries, -, -, -, -, blanks, bare, -⟩ := lists_denote_sets
  have letter : isBlank 'b' = false := by simp [← Bool.not_eq_true, isBlank_iff]
  have entry : IsEntry list.toList "b".toList := by
    refine ⟨by decide, "\tb\u00a0".toList, by decide,
      ⟨"\t".toList, "\u00a0".toList, rfl, ?_, ?_⟩, ?_, ?_⟩ <;>
      simp [isBlank_iff, letter]
  have on := (entries list "b").2 entry
  have white : ∀ c ∈ blank.toList, isBlank c = true := by
    simp [blank, isBlank_iff]
  exact ⟨entry, on, (bare list "b" on).1, white, (blanks list blank white).1⟩

end Features

end RuleWatch
