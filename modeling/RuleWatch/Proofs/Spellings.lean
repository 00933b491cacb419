import RuleWatch.Proofs.WrittenText

/-!
All spellings of a string. A character stands for itself, or behind a backslash
by a letter, by its number, or by the numbers of two surrogates; so one text has
many spellings, and each of them is read as the text. A string in which a
surrogate stands alone is well formed as well, but it spells no text and is
refused.
-/

namespace RuleWatch.Json

open Text

/-! ### Numbers of characters -/

def IsHexDigit (d : Nat) (b : UInt8) : Prop :=
  d < 16 ∧ (b = byte (Nat.digitChar d) ∨ b = byte (Nat.digitChar d).toUpper)

inductive HexForm : Nat → List UInt8 → Prop
  | four {p q r s : Nat} {a b c d : UInt8} (ha : IsHexDigit p a)
      (hb : IsHexDigit q b) (hc : IsHexDigit r c) (hd : IsHexDigit s d) :
      HexForm (((p * 16 + q) * 16 + r) * 16 + s) [a, b, c, d]

theorem hexDigit?_digitChar : ∀ d < 16,
    hexDigit? (byte (Nat.digitChar d)) = some d ∧
      hexDigit? (byte (Nat.digitChar d).toUpper) = some d := by
  decide

theorem IsHexDigit.read {d : Nat} {b : UInt8} (h : IsHexDigit d b) :
    hexDigit? b = some d := by
  obtain ⟨lt, rfl | rfl⟩ := h
  · exact (hexDigit?_digitChar d lt).1
  · exact (hexDigit?_digitChar d lt).2

theorem HexForm.lt {n : Nat} {bs : List UInt8} (h : HexForm n bs) :
    n < 0x10000 := by
  cases h with
  | four ha hb hc hd =>
      have := ha.1
      have := hb.1
      have := hc.1
      have := hd.1
      omega

theorem readHex_hexForm {n : Nat} {bs : List UInt8} (h : HexForm n bs)
    (r : List UInt8) :
    readHex (bs ++ r) = .ok (n, r) := by
  cases h with
  | @four p q r' s a b c d ha hb hc hd =>
      have value : (p * 16 + q) * 256 + r' * 16 + s =
          ((p * 16 + q) * 16 + r') * 16 + s := by omega
      simp [readHex, hexNumber?, ha.read, hb.read, hc.read, hd.read, value]

/-! ### Characters -/

/-- The letters behind a backslash, each with its character. -/
def letters : List (Char × Char) :=
  [('"', '"'), ('\\', '\\'), ('/', '/'), ('b', '\x08'), ('f', '\x0c'),
    ('n', '\n'), ('r', '\x0d'), ('t', '\t')]

/-- The spellings of a character. -/
inductive CharForm (c : Char) : List UInt8 → Prop
  | itself (hq : c ≠ '"') (hb : c ≠ '\\') (h : 32 ≤ c.toNat) :
      CharForm c (String.utf8EncodeChar c)
  | letter {e : Char} (h : (e, c) ∈ letters) : CharForm c [byte '\\', byte e]
  | number {digits : List UInt8} (h : HexForm c.toNat digits) :
      CharForm c (byte '\\' :: byte 'u' :: digits)
  | pair {high low : Nat} {highDigits lowDigits : List UInt8}
      (hh : 0xD800 ≤ high ∧ high < 0xDC00) (hl : 0xDC00 ≤ low ∧ low < 0xE000)
      (hc : c.toNat = 0x10000 + (high - 0xD800) * 0x400 + (low - 0xDC00))
      (highForm : HexForm high highDigits) (lowForm : HexForm low lowDigits) :
      CharForm c
        (byte '\\' :: byte 'u' :: highDigits ++
          byte '\\' :: byte 'u' :: lowDigits)

theorem letter_read {e c : Char} (h : (e, c) ∈ letters) :
    byte e ≠ byte 'u' ∧ c.toNat < 128 ∧
      shortEscape? (byte e) = some (byte c) := by
  have all : ∀ x ∈ letters, byte x.1 ≠ byte 'u' ∧ x.2.toNat < 128 ∧
      shortEscape? (byte x.1) = some (byte x.2) := by decide
  exact all _ h

theorem toNat_ne_surrogate (c : Char) :
    ¬ (0xD800 ≤ c.toNat ∧ c.toNat < 0xE000) := by
  have valid := c.valid
  simp only [UInt32.isValidChar, Nat.isValidChar] at valid
  simp only [Char.toNat]
  omega

theorem readPiece_number {n : Nat} {digits : List UInt8}
    (form : HexForm n digits) (h : n < 0xD800 ∨ 0xE000 ≤ n) (r : List UInt8) :
    readPiece (byte '\\' :: byte 'u' :: digits ++ r) =
      .ok (.bytes (scalarBytes n), r) := by
  have hq : byte '\\' ≠ byte '"' := by decide
  have low : isLowSurrogate n = false := by simp [isLowSurrogate]; omega
  have high : isHighSurrogate n = false := by simp [isHighSurrogate]; omega
  simp [readPiece, readEscape, hq, readHex_hexForm form, low, high]

theorem readPiece_pair {high low : Nat} {highDigits lowDigits : List UInt8}
    (hh : 0xD800 ≤ high ∧ high < 0xDC00) (hl : 0xDC00 ≤ low ∧ low < 0xE000)
    (highForm : HexForm high highDigits) (lowForm : HexForm low lowDigits)
    (r : List UInt8) :
    readPiece
      (byte '\\' :: byte 'u' :: highDigits ++
        byte '\\' :: byte 'u' :: lowDigits ++ r) =
      .ok (.bytes (scalarBytes (pairValue high low)), r) := by
  have hq : byte '\\' ≠ byte '"' := by decide
  have isHigh : isHighSurrogate high = true := by simp [isHighSurrogate, hh]
  have notLow : isLowSurrogate high = false := by simp [isLowSurrogate]; omega
  have isLow : isLowSurrogate low = true := by simp [isLowSurrogate, hl]
  simp [readPiece, readEscape, readLow, hq, readHex_hexForm highForm,
    readHex_hexForm lowForm, isHigh, notLow, isLow]

/-- Whatever its spelling, a character is read as its bytes. -/
theorem readPieces_charForm {c : Char} {bs : List UInt8} (h : CharForm c bs)
    (done r : List UInt8) :
    readPieces done (bs ++ r) =
      readPieces ((String.utf8EncodeChar c).reverse ++ done) r := by
  cases h with
  | itself hq hb h =>
      exact readPieces_plain
        (fun b => plain_of_mem_utf8EncodeChar hq hb h) done r
  | @letter e h =>
      obtain ⟨hu, ascii, escape⟩ := letter_read h
      rw [utf8EncodeChar_of_lt ascii]
      exact readPieces_of_bytes (readPiece_shortEscape hu escape r) done
  | number h =>
      have scalar := toNat_ne_surrogate c
      rw [readPieces_of_bytes (readPiece_number h (by omega) r),
        scalarBytes, Char.ofNat_toNat]
  | @pair high low _ _ hh hl hc highForm lowForm =>
      have value : pairValue high low = c.toNat := by rw [pairValue, hc]; omega
      rw [readPieces_of_bytes (readPiece_pair hh hl highForm lowForm r),
        scalarBytes, value, Char.ofNat_toNat]

/-! ### Texts -/

inductive TextForm : List Char → List UInt8 → Prop
  | nil : TextForm [] []
  | cons {c : Char} {cs : List Char} {bs rest : List UInt8}
      (first : CharForm c bs) (others : TextForm cs rest) :
      TextForm (c :: cs) (bs ++ rest)

theorem textForm_itself {cs : List Char}
    (h : ∀ c ∈ cs, c ≠ '"' ∧ c ≠ '\\' ∧ 32 ≤ c.toNat) :
    TextForm cs (cs.flatMap String.utf8EncodeChar) := by
  induction cs with
  | nil => exact .nil
  | cons c cs ih =>
      rw [List.forall_mem_cons] at h
      obtain ⟨⟨hq, hb, visible⟩, others⟩ := h
      exact .cons (.itself hq hb visible) (ih others)

theorem readPieces_textForm {cs : List Char} {bs : List UInt8}
    (h : TextForm cs bs) (done r : List UInt8) :
    readPieces done (bs ++ byte '"' :: r) =
      .ok (done.reverse ++ cs.flatMap String.utf8EncodeChar, r) := by
  induction h generalizing done with
  | nil =>
      rw [List.flatMap_nil, List.nil_append, List.append_nil]
      exact readPieces_of_close (by simp [readPiece]) done
  | cons first others ih =>
      rw [List.append_assoc, readPieces_charForm first, ih]
      simp

/-- Every spelling of a text is read as the text. -/
theorem readString_textForm {s : String} {bs : List UInt8}
    (h : TextForm s.toList bs) (r : List UInt8) :
    readString (bs ++ byte '"' :: r) = .ok (s, r) := by
  have whole : decode? (s.toList.flatMap String.utf8EncodeChar) = some s :=
    decode?_encode s
  simp [readString, readPieces_textForm h, whole]

/-! ### Surrogates that stand alone -/

/-- What may stand between the quotes of a string. -/
inductive Contents : List UInt8 → Prop
  | nil : Contents []
  | itself {c : Char} {rest : List UInt8} (hq : c ≠ '"') (hb : c ≠ '\\')
      (h : 32 ≤ c.toNat) (others : Contents rest) :
      Contents (String.utf8EncodeChar c ++ rest)
  | letter {e c : Char} {rest : List UInt8} (h : (e, c) ∈ letters)
      (others : Contents rest) :
      Contents (byte '\\' :: byte e :: rest)
  | number {n : Nat} {digits rest : List UInt8} (form : HexForm n digits)
      (others : Contents rest) :
      Contents (byte '\\' :: byte 'u' :: digits ++ rest)

theorem TextForm.contents {cs : List Char} {bs : List UInt8}
    (h : TextForm cs bs) :
    Contents bs := by
  induction h with
  | nil => exact .nil
  | cons first others ih =>
      cases first with
      | itself hq hb h => exact .itself hq hb h ih
      | letter h => exact .letter h ih
      | number h => exact .number h ih
      | pair hh hl hc highForm lowForm =>
          rw [List.append_assoc]
          exact .number highForm (.number lowForm ih)

theorem readPieces_of_error {s : List UInt8} {f : Fault}
    (h : readPiece s = .error f) (done : List UInt8) :
    readPieces done s = .error f := by
  rw [readPieces]
  split <;> simp_all

theorem readPiece_low {n : Nat} {digits : List UInt8} (form : HexForm n digits)
    (h : 0xDC00 ≤ n ∧ n < 0xE000) (r : List UInt8) :
    ∃ f, readPiece (byte '\\' :: byte 'u' :: digits ++ r) = .error f := by
  have hq : byte '\\' ≠ byte '"' := by decide
  have low : isLowSurrogate n = true := by simp [isLowSurrogate, h]
  exact ⟨_, by simp [readPiece, readEscape, hq, readHex_hexForm form, low]; rfl⟩

/-- A high surrogate is refused with whatever cannot be the second half of its
pair. -/
theorem readPiece_high {n : Nat} {digits r : List UInt8}
    (form : HexForm n digits) (h : 0xD800 ≤ n ∧ n < 0xDC00)
    (alone : ∃ f, readLow n r = .error f) :
    ∃ f, readPiece (byte '\\' :: byte 'u' :: digits ++ r) = .error f := by
  obtain ⟨f, alone⟩ := alone
  have hq : byte '\\' ≠ byte '"' := by decide
  have high : isHighSurrogate n = true := by simp [isHighSurrogate, h]
  have low : isLowSurrogate n = false := by simp [isLowSurrogate]; omega
  exact ⟨f,
    by simp [readPiece, readEscape, hq, readHex_hexForm form, low, high, alone]⟩

/-- Whether contents spell a text or are refused. -/
def Decided (bs : List UInt8) : Prop :=
  (∃ cs, TextForm cs bs) ∨
    ∀ done r, ∃ f, readPieces done (bs ++ byte '"' :: r) = .error f

theorem Decided.cons {c : Char} {bs rest : List UInt8} (first : CharForm c bs)
    (h : Decided rest) : Decided (bs ++ rest) := by
  rcases h with ⟨cs, others⟩ | refused
  · exact .inl ⟨c :: cs, .cons first others⟩
  · refine .inr fun done r => ?_
    obtain ⟨f, hf⟩ := refused ((String.utf8EncodeChar c).reverse ++ done) r
    exact ⟨f, by rw [List.append_assoc, readPieces_charForm first, hf]⟩

theorem decided_of_readPiece {bs : List UInt8}
    (h : ∀ r, ∃ f, readPiece (bs ++ byte '"' :: r) = .error f) :
    Decided bs := by
  refine .inr fun done r => ?_
  obtain ⟨f, hf⟩ := h r
  exact ⟨f, readPieces_of_error hf done⟩

theorem exists_toNat_eq {n : Nat} (h : n < 0xD800 ∨ 0xE000 ≤ n ∧ n < 0x110000) :
    ∃ c : Char, c.toNat = n := by
  have valid : n.isValidChar := by
    rw [Nat.isValidChar]
    omega
  exact ⟨Char.ofNat n, by rw [Char.ofNat, dif_pos valid]; rfl⟩

/-- Behind a high surrogate stands the other half of its pair, or the string is
refused. -/
theorem Contents.behind_high {bs : List UInt8} (h : Contents bs) (high : Nat) :
    (∃ low digits rest, bs = byte '\\' :: byte 'u' :: digits ++ rest ∧
      HexForm low digits ∧
        (0xDC00 ≤ low ∧ low < 0xE000) ∧ Contents rest) ∨
      ∀ r, ∃ f, readLow high (bs ++ byte '"' :: r) = .error f := by
  have hq : byte '"' ≠ byte '\\' := by decide
  cases h with
  | nil => exact .inr fun r => ⟨_, by simp [readLow, hq]; rfl⟩
  | @itself c rest hq hb h others =>
      refine .inr fun r => ?_
      obtain ⟨b, more, bytes⟩ := List.exists_cons_of_ne_nil
        (String.utf8EncodeChar_ne_nil (c := c))
      have plain :=
        (plain_of_mem_utf8EncodeChar hq hb h (b := b) (by simp [bytes])).2.1
      exact ⟨_, by simp [bytes, readLow, plain]; rfl⟩
  | @letter e c rest h others =>
      have hu := (letter_read h).1
      exact .inr fun r => ⟨_, by simp [readLow, hu]; rfl⟩
  | @number n digits rest form others =>
      by_cases low : 0xDC00 ≤ n ∧ n < 0xE000
      · exact .inl ⟨n, digits, rest, rfl, form, low, others⟩
      · have notLow : isLowSurrogate n = false := by
          simp [isLowSurrogate]; omega
        exact .inr fun r =>
          ⟨_, by simp [readLow, readHex_hexForm form, notLow]; rfl⟩

/-- A surrogate that stands alone is all that can keep contents from being a
text. -/
theorem Contents.decided {bs : List UInt8} (h : Contents bs) : Decided bs := by
  -- A pair takes two numbers at once, so the induction is on the length.
  induction size : bs.length using Nat.strongRecOn generalizing bs with
  | ind n ih =>
      subst size
      cases h with
      | nil => exact .inl ⟨[], .nil⟩
      | @itself c rest hq hb h others =>
          exact (ih _ (by simp [Char.utf8Size_pos]) others rfl).cons
            (.itself hq hb h)
      | letter h others =>
          exact (ih _ (by simp only [List.length_cons]; omega) others rfl).cons
            (.letter h)
      | @number n digits rest form others =>
          by_cases low : 0xDC00 ≤ n ∧ n < 0xE000
          · refine decided_of_readPiece fun r => ?_
            rw [List.append_assoc]
            exact readPiece_low form low _
          · by_cases high : 0xD800 ≤ n ∧ n < 0xDC00
            · rcases others.behind_high n
                with ⟨m, lowDigits, rest, rfl, lowForm, hl, others⟩ | alone
              · obtain ⟨c, hc⟩ : ∃ c : Char,
                    c.toNat = 0x10000 + (n - 0xD800) * 0x400 + (m - 0xDC00) :=
                  exists_toNat_eq (by omega)
                rw [← List.append_assoc]
                exact (ih _ (by simp; omega) others rfl).cons
                  (.pair high hl hc form lowForm)
              · refine decided_of_readPiece fun r => ?_
                rw [List.append_assoc]
                exact readPiece_high form high (alone r)
            · have := form.lt
              obtain ⟨c, rfl⟩ := exists_toNat_eq (n := n) (by omega)
              exact (ih _ (by simp; omega) others rfl).cons (.number form)

theorem readString_contents {bs : List UInt8} (h : Contents bs)
    (none : ∀ cs, ¬ TextForm cs bs) (r : List UInt8) :
    ∃ f, readString (bs ++ byte '"' :: r) = .error f := by
  rcases h.decided with ⟨cs, text⟩ | refused
  · exact absurd text (none cs)
  · obtain ⟨f, hf⟩ := refused [] r
    exact ⟨f, by rw [readString, hf]⟩

end RuleWatch.Json
