import RuleWatch.Json.Read

/-!
Written strings are read back. A character is spelled as itself, by an escape of
one letter or by its number, and each spelling is read as the bytes of the
character; so a whole string is read as the bytes of its characters, which are
the string again.
-/

namespace RuleWatch

namespace Text

@[simp] theorem encode_ofList (cs : List Char) :
    encode (.ofList cs) = cs.flatMap String.utf8EncodeChar := by
  simp [encode]

theorem encode_append (s t : String) :
    encode (s ++ t) = encode s ++ encode t := by
  rw [encode, String.toList_append, List.flatMap_append]
  rfl

theorem decode?_encode (s : String) : decode? (encode s) = some s := by
  have hb : (encode s).toByteArray = s.toByteArray := by
    rw [← String.utf8Encode_toList]
    rfl
  simp only [decode?, hb, String.fromUTF8?]
  rw [dif_pos s.isValidUTF8]
  rfl

end Text

namespace Json

open Text

theorem utf8EncodeChar_of_lt {c : Char} (h : c.toNat < 128) :
    String.utf8EncodeChar c = [byte c] := by
  have : c.val.toNat ≤ 127 := Nat.le_of_lt_succ h
  unfold String.utf8EncodeChar
  rw [if_pos this]
  rfl

/-- Beyond ASCII no byte of a character is the byte of an ASCII character. -/
theorem le_of_mem_utf8EncodeChar {c : Char} (h : 128 ≤ c.toNat) {b : UInt8}
    (hb : b ∈ String.utf8EncodeChar c) : 128 ≤ b := by
  have hc : c.toNat = c.val.toNat := rfl
  have h127 : ¬ c.val.toNat ≤ 127 := by omega
  rw [UInt8.le_iff_toNat_le]
  simp only [String.utf8EncodeChar, h127, if_false] at hb
  split at hb
  · simp only [List.mem_cons, List.not_mem_nil, or_false] at hb
    rcases hb with rfl | rfl <;> simp <;> omega
  · split at hb
    · simp only [List.mem_cons, List.not_mem_nil, or_false] at hb
      rcases hb with rfl | rfl | rfl <;> simp <;> omega
    · simp only [List.mem_cons, List.not_mem_nil, or_false] at hb
      rcases hb with rfl | rfl | rfl | rfl <;> simp <;> omega

/-! ### Pieces -/

theorem readPieces_of_bytes {s r bs : List UInt8}
    (h : readPiece s = .ok (.bytes bs, r)) (done : List UInt8) :
    readPieces done s = readPieces (bs.reverse ++ done) r := by
  rw [readPieces]
  split <;> simp_all

theorem readPieces_of_close {s r : List UInt8}
    (h : readPiece s = .ok (.close, r)) (done : List UInt8) :
    readPieces done s = .ok (done.reverse, r) := by
  rw [readPieces]
  split <;> simp_all

theorem readPiece_plain {b : UInt8} (hq : b ≠ byte '"') (hb : b ≠ byte '\\')
    (hc : ¬ b < 32) (r : List UInt8) :
    readPiece (b :: r) = .ok (.bytes [b], r) := by
  simp [readPiece, hq, hb, hc]

theorem readPieces_plain {bs : List UInt8}
    (h : ∀ b ∈ bs, b ≠ byte '"' ∧ b ≠ byte '\\' ∧ ¬ b < 32)
    (done r : List UInt8) :
    readPieces done (bs ++ r) = readPieces (bs.reverse ++ done) r := by
  induction bs generalizing done with
  | nil => rfl
  | cons b bs ih =>
      obtain ⟨hq, hb, hc⟩ := h b (List.mem_cons_self ..)
      rw [List.cons_append, readPieces_of_bytes (readPiece_plain hq hb hc _),
        ih fun x hx => h x (List.mem_cons_of_mem _ hx)]
      simp

theorem readPiece_shortEscape {e : Char} {b : UInt8} (hu : byte e ≠ byte 'u')
    (h : shortEscape? (byte e) = some b) (r : List UInt8) :
    readPiece (byte '\\' :: byte e :: r) = .ok (.bytes [b], r) := by
  have hq : byte '\\' ≠ byte '"' := by decide
  simp [readPiece, readEscape, hq, hu, h]

theorem hexForm_control : ∀ n < 32,
    hexForm n = ['0', '0', Nat.digitChar (n / 16), Nat.digitChar (n % 16)] ∧
      hexNumber? (byte '0') (byte '0') (byte (Nat.digitChar (n / 16)))
        (byte (Nat.digitChar (n % 16))) = some n := by
  decide

theorem readPiece_hexForm {n : Nat} (h : n < 32) (r : List UInt8) :
    readPiece (('\\' :: 'u' :: hexForm n).map byte ++ r) =
      .ok (.bytes (scalarBytes n), r) := by
  obtain ⟨hform, hnumber⟩ := hexForm_control n h
  have hlow : isLowSurrogate n = false := by simp [isLowSurrogate]; omega
  have hhigh : isHighSurrogate n = false := by simp [isHighSurrogate]; omega
  have hq : byte '\\' ≠ byte '"' := by decide
  simp [hform, readPiece, readEscape, readHex, hnumber, hlow, hhigh, hq]

/-! ### Characters -/

/-- The three ways in which a character is spelled. -/
inductive Spelling (c : Char) : List Char → Prop
  | letter (e : Char) (hu : byte e ≠ byte 'u') (he : e.toNat < 128)
      (hc : c.toNat < 128) (h : shortEscape? (byte e) = some (byte c)) :
      Spelling c ['\\', e]
  | number (h : c.toNat < 32) : Spelling c ('\\' :: 'u' :: hexForm c.toNat)
  | itself (hq : c ≠ '"') (hb : c ≠ '\\') (h : 32 ≤ c.toNat) : Spelling c [c]

theorem spelling_spell (c : Char) : Spelling c (spell c) := by
  have letter (e : Char) (d : Char) (hd : c = d)
      (h : byte e ≠ byte 'u' ∧ e.toNat < 128 ∧ d.toNat < 128 ∧
        shortEscape? (byte e) = some (byte d)) : Spelling c ['\\', e] := by
    subst hd
    exact .letter e h.1 h.2.1 h.2.2.1 h.2.2.2
  unfold spell
  split
  · exact letter '"' '"' ‹_› (by decide)
  split
  · exact letter '\\' '\\' ‹_› (by decide)
  split
  · exact letter 'b' '\x08' ‹_› (by decide)
  split
  · exact letter 'f' '\x0c' ‹_› (by decide)
  split
  · exact letter 'n' '\n' ‹_› (by decide)
  split
  · exact letter 'r' '\x0d' ‹_› (by decide)
  split
  · exact letter 't' '\t' ‹_› (by decide)
  split
  · exact .number ‹_›
  · exact .itself ‹_› ‹_› (Nat.le_of_not_lt ‹_›)

theorem flatMap_utf8EncodeChar_of_lt {cs : List Char}
    (h : ∀ c ∈ cs, c.toNat < 128) :
    cs.flatMap String.utf8EncodeChar = cs.map byte := by
  induction cs with
  | nil => rfl
  | cons c cs ih =>
      rw [List.flatMap_cons, utf8EncodeChar_of_lt (h c (List.mem_cons_self ..)),
        ih fun x hx => h x (List.mem_cons_of_mem _ hx)]
      rfl

theorem digitChar_ascii : ∀ d < 16, (Nat.digitChar d).toNat < 128 := by
  decide

theorem hexForm_ascii {n : Nat} (h : n < 32) {c : Char} (hc : c ∈ hexForm n) :
    c.toNat < 128 := by
  rw [(hexForm_control n h).1] at hc
  simp only [List.mem_cons, List.not_mem_nil, or_false] at hc
  rcases hc with rfl | rfl | rfl | rfl
  · decide
  · decide
  · exact digitChar_ascii _ (by omega)
  · exact digitChar_ascii _ (by omega)

theorem plain_of_mem_utf8EncodeChar {c : Char} (hq : c ≠ '"') (hb : c ≠ '\\')
    (h : 32 ≤ c.toNat) {b : UInt8} (hm : b ∈ String.utf8EncodeChar c) :
    b ≠ byte '"' ∧ b ≠ byte '\\' ∧ ¬ b < 32 := by
  by_cases hc : c.toNat < 128
  · rw [utf8EncodeChar_of_lt hc, List.mem_singleton] at hm
    subst hm
    have hn : (byte c).toNat = c.toNat := by simp [byte]; omega
    have ne {d : Char} (hd : d.toNat < 128) (hcd : c ≠ d) :
        byte c ≠ byte d := by
      intro he
      have hn' : (byte d).toNat = d.toNat := by simp [byte]; omega
      exact hcd (Char.toNat_inj.1 (by rw [← hn, ← hn', he]))
    refine ⟨ne (by decide) hq, ne (by decide) hb, ?_⟩
    rw [UInt8.lt_iff_toNat_lt, hn]
    exact Nat.not_lt.2 h
  · have := le_of_mem_utf8EncodeChar (Nat.le_of_not_lt hc) hm
    rw [UInt8.le_iff_toNat_le] at this
    refine ⟨?_, ?_, ?_⟩
    · rintro rfl
      exact absurd this (by decide)
    · rintro rfl
      exact absurd this (by decide)
    · rw [UInt8.lt_iff_toNat_lt]
      exact Nat.not_lt.2 (Nat.le_trans (by decide) this)

/-- Whatever its spelling, a character is read as its bytes. -/
theorem readPieces_spell (c : Char) (done r : List UInt8) :
    readPieces done ((spell c).flatMap String.utf8EncodeChar ++ r) =
      readPieces ((String.utf8EncodeChar c).reverse ++ done) r := by
  have spelling := spelling_spell c
  generalize spell c = form at spelling ⊢
  cases spelling with
  | letter e hu he hc h =>
      have ascii : ∀ x ∈ ['\\', e], x.toNat < 128 := by
        intro x hx
        simp only [List.mem_cons, List.not_mem_nil, or_false] at hx
        rcases hx with rfl | rfl
        · decide
        · exact he
      rw [flatMap_utf8EncodeChar_of_lt ascii, utf8EncodeChar_of_lt hc]
      exact readPieces_of_bytes (readPiece_shortEscape hu h r) done
  | number h =>
      have ascii : ∀ x ∈ '\\' :: 'u' :: hexForm c.toNat, x.toNat < 128 := by
        intro x hx
        simp only [List.mem_cons] at hx
        rcases hx with rfl | rfl | hx
        · decide
        · decide
        · exact hexForm_ascii h hx
      rw [flatMap_utf8EncodeChar_of_lt ascii,
        readPieces_of_bytes (readPiece_hexForm h r)]
      simp [scalarBytes]
  | itself hq hb h =>
      rw [List.flatMap_cons, List.flatMap_nil, List.append_nil]
      exact readPieces_plain
        (fun b => plain_of_mem_utf8EncodeChar hq hb h) done r

/-! ### Strings -/

theorem readPieces_spelled (cs : List Char) (done r : List UInt8) :
    readPieces done
      ((cs.flatMap spell).flatMap String.utf8EncodeChar ++ byte '"' :: r) =
      .ok (done.reverse ++ cs.flatMap String.utf8EncodeChar, r) := by
  induction cs generalizing done with
  | nil =>
      rw [List.flatMap_nil, List.flatMap_nil, List.nil_append, List.append_nil]
      exact readPieces_of_close (by simp [readPiece]) done
  | cons c cs ih =>
      rw [List.flatMap_cons, List.flatMap_append, List.append_assoc,
        readPieces_spell, ih]
      simp

/-- What is written of a string behind its opening quote is read as the
string. -/
theorem readString_written (s : String) (r : List UInt8) :
    readString
      ((s.toList.flatMap spell).flatMap String.utf8EncodeChar ++
        byte '"' :: r) =
      .ok (s, r) := by
  have hd : decode? (s.toList.flatMap String.utf8EncodeChar) = some s :=
    decode?_encode s
  simp [readString, readPieces_spelled, hd]

theorem encode_written (s : String) :
    (written s).flatMap String.utf8EncodeChar =
      byte '"' ::
        ((s.toList.flatMap spell).flatMap String.utf8EncodeChar ++
          [byte '"']) := by
  have hq : String.utf8EncodeChar '"' = [byte '"'] :=
    utf8EncodeChar_of_lt (by decide)
  simp [written, hq]

theorem skipBlanks_of_not_blank {b : UInt8} (h : isBlank b = false)
    (r : List UInt8) :
    skipBlanks (b :: r) = b :: r := by
  simp [skipBlanks, h]

theorem readText_written (s : String) (r : List UInt8) :
    readText ((written s).flatMap String.utf8EncodeChar ++ r) = .ok (s, r) := by
  rw [encode_written, List.cons_append, List.append_assoc, readText,
    skipBlanks_of_not_blank (by decide)]
  simpa using readString_written s r

end Json

end RuleWatch
