import RuleWatch.Proofs.WrittenText
import RuleWatch.Store.Sheet

/-!
Written tables are read back. No field of a row holds a blank or a line end, so
that a file is cut into its rows and a row into its fields where they were put
together; and the bytes of a field are those that percent signs stand for.
-/

namespace RuleWatch

open Text

namespace Net.Percent

theorem hexValue?_hexDigit :
    ∀ n < 16, hexValue? (Json.byte (hexDigit n)) = some (.ofNat n) := by
  decide

theorem flatMap_encodeByte (b : UInt8) :
    (encodeByte b).flatMap String.utf8EncodeChar =
      [37, Json.byte (hexDigit (b.toNat / 16)),
        Json.byte (hexDigit (b.toNat % 16))] := by
  have high := hexDigit_ascii (b.toNat / 16) (by have := b.toNat_lt; omega)
  have low := hexDigit_ascii (b.toNat % 16) (by omega)
  simp only [encodeByte, List.flatMap_cons, List.flatMap_nil,
    Json.utf8EncodeChar_of_lt high.2, Json.utf8EncodeChar_of_lt low.2,
    Json.utf8EncodeChar_of_lt (show ('%' : Char).toNat < 128 by decide)]
  rfl

theorem decode_encodeByte (b : UInt8) (r : List UInt8) :
    decode ((encodeByte b).flatMap String.utf8EncodeChar ++ r) =
      b :: decode r := by
  have high : b.toNat / 16 < 16 := by have := b.toNat_lt; omega
  have low : b.toNat % 16 < 16 := by omega
  have value :
      16 * UInt8.ofNat (b.toNat / 16) + UInt8.ofNat (b.toNat % 16) = b := by
    rw [← UInt8.toNat_inj]
    simp
    omega
  rw [flatMap_encodeByte, List.cons_append, decode]
  simp [pair?, hexValue?_hexDigit _ high, hexValue?_hexDigit _ low, value]

theorem decode_encodeBytes (bs r : List UInt8) :
    decode ((bs.flatMap encodeByte).flatMap String.utf8EncodeChar ++ r) =
      bs ++ decode r := by
  induction bs with
  | nil => rfl
  | cons b bs ih =>
      rw [List.flatMap_cons, List.flatMap_append, List.append_assoc,
        decode_encodeByte, ih]
      rfl

/-- What a class of characters does to a text is undone, as long as percent
signs are in it. -/
theorem decode_encode {escaped : Char → Bool} (percent : escaped '%' = true)
    (s : List Char) (r : List UInt8) :
    decode ((encode escaped s).flatMap String.utf8EncodeChar ++ r) =
      s.flatMap String.utf8EncodeChar ++ decode r := by
  induction s with
  | nil => rfl
  | cons c s ih =>
      have split : encode escaped (c :: s) =
          (if c.toNat < 128 ∧ !escaped c then [c]
          else (String.utf8EncodeChar c).flatMap encodeByte) ++
          encode escaped s := rfl
      rw [split, List.flatMap_append, List.append_assoc, List.flatMap_cons,
        List.append_assoc]
      by_cases plain : c.toNat < 128 ∧ !escaped c
      · have notPercent : Json.byte c ≠ 37 := by
          intro same
          have : c.toNat = 37 := by
            have := congrArg UInt8.toNat same
            simp [Json.byte] at this
            omega
          obtain rfl : c = '%' := Char.toNat_inj.1 this
          simp [percent] at plain
        rw [if_pos plain, List.flatMap_singleton,
          Json.utf8EncodeChar_of_lt plain.1,
          List.singleton_append, decode, ← ih]
        simp [notPercent]
      · rw [if_neg plain, decode_encodeBytes, ih]

theorem not_mem_encodeByte {m : Char} (before : m.toNat < 37) (b : UInt8) :
    m ∉ encodeByte b := by
  have high := hexDigit_ascii (b.toNat / 16) (by have := b.toNat_lt; omega)
  have low := hexDigit_ascii (b.toNat % 16) (by omega)
  have percent : ('%' : Char).toNat = 37 := by decide
  intro hm
  simp only [encodeByte, List.mem_cons, List.not_mem_nil, or_false] at hm
  rcases hm with rfl | rfl | rfl <;> omega

theorem not_mem_encode {escaped : Char → Bool} {m : Char}
    (inClass : escaped m = true) (before : m.toNat < 37) (s : List Char) :
    m ∉ encode escaped s := by
  intro hm
  obtain ⟨c, -, hc⟩ := List.mem_flatMap.1 hm
  split at hc
  · next plain =>
      rw [List.mem_singleton] at hc
      subst hc
      simp [inClass] at plain
  · obtain ⟨b, -, hb⟩ := List.mem_flatMap.1 hc
    exact not_mem_encodeByte before b hb

end Net.Percent

open Net

namespace Cell

theorem readField?_writeField (s : String) :
    readField? (writeField s) = some s := by
  have percent : breaksField '%' = true := by decide
  have whole := Percent.decode_encode percent s.toList []
  rw [List.append_nil, Percent.decode, List.append_nil] at whole
  rw [readField?, Text.encode_ofList, writeField, whole]
  exact decode?_encode s

theorem read?_write (c : Cell) : read? c.write = some c := by
  cases c with
  | text s => simp [write, read?, readField?_writeField]
  | bytes b =>
      have whole := Percent.decode_encodeBytes b []
      rw [List.append_nil, Percent.decode, List.append_nil] at whole
      simp [write, read?, whole]

def IsBreak (m : Char) : Prop := m = ' ' ∨ m = '\n'

variable {m : Char}

theorem IsBreak.escaped (h : IsBreak m) :
    breaksField m = true ∧ m.toNat < 37 := by
  rcases h with rfl | rfl <;> decide

theorem not_mem_writeField (h : IsBreak m) (s : String) : m ∉ writeField s :=
  Percent.not_mem_encode h.escaped.1 h.escaped.2 _

theorem not_mem_write (h : IsBreak m) (c : Cell) : m ∉ c.write := by
  have first : m ≠ 't' ∧ m ≠ 'b' := by rcases h with rfl | rfl <;> decide
  cases c with
  | text s => simp [write, first, not_mem_writeField h]
  | bytes b =>
      have none : ∀ x ∈ b, m ∉ Percent.encodeByte x := fun x _ =>
        Percent.not_mem_encodeByte h.escaped.2 x
      simpa [write, first] using none

end Cell

namespace Table

def line (row : Place × Entry) : List Char :=
  " ".toList.intercalate [Cell.writeField row.1.scope,
    Cell.writeField row.1.key, row.2.value.write,
    Cell.writeField row.2.updatedAt]

theorem line_eq (row : Place × Entry) :
    line row =
      Cell.writeField row.1.scope ++ ' ' :: (Cell.writeField row.1.key ++
      ' ' ::
        (row.2.value.write ++ ' ' :: Cell.writeField row.2.updatedAt)) := by
  simp [line, List.intercalate, List.intersperse]

theorem readRow?_line (row : Place × Entry) :
    readRow? (line row) = some row := by
  have free (s : List Char) (h : ' ' ∉ s) :
      ∀ c ∈ s, decide (c = ' ') = false := fun c hc =>
    decide_eq_false fun same => h (same ▸ hc)
  have field (s : String) := free _ (Cell.not_mem_writeField (.inl rfl) s)
  rw [readRow?, line_eq, pieces_append_mark (field _) rfl,
    pieces_append_mark (field _) rfl,
    pieces_append_mark (free _ (Cell.not_mem_write (.inl rfl) _)) rfl,
    pieces_of_free (field _)]
  simp [Cell.readField?_writeField, Cell.read?_write]

theorem not_mem_line (row : Place × Entry) : '\n' ∉ line row := by
  have h : Cell.IsBreak '\n' := .inr rfl
  simp [line_eq, Cell.not_mem_writeField h, Cell.not_mem_write h]

theorem pieces_rows (t : Table) :
    pieces (· = '\n') (t.flatMap writeRow) = t.map line ++ [[]] := by
  induction t with
  | nil => rfl
  | cons row t ih =>
      have free : ∀ c ∈ line row, decide (c = '\n') = false := fun c hc =>
        decide_eq_false fun same => not_mem_line row (same ▸ hc)
      have first : writeRow row = line row ++ ['\n'] := rfl
      rw [List.flatMap_cons, first, List.append_assoc, List.singleton_append,
        pieces_append_mark free rfl, ih]
      rfl

/-- A table is read back from its file. -/
theorem ofFile?_toFile (t : Table) : ofFile? t.toFile = some t := by
  have rows : (t.map line).mapM readRow? = some t := by
    rw [List.mapM_map]
    induction t with
    | nil => rfl
    | cons row t ih => simp [List.mapM_cons, readRow?_line, ih]
  rw [ofFile?, toFile, decode?_encode]
  simp [pieces_rows, rows]

end Table

end RuleWatch
