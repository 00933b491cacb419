import Mathlib.Algebra.Ring.Nat
import RuleWatch.Proofs.Calendar
import RuleWatch.Proofs.Prefixes
import RuleWatch.Proofs.Results
import RuleWatch.Proofs.WrittenText
import RuleWatch.Time.Timestamp

/-!
The texts of timestamps. A timestamp consists of the fields of a date and of a
time of day, of digits of a second and of a zone, and denotes the instant at
which clocks of the zone show these. What is read is exactly what is written of
such fields, and it is read as the instant denoted.
-/

namespace RuleWatch.Timestamp

open Text

/-! ### Forms -/

/-- The offset from UTC as it is written: a letter where there is none, or a
sign, hours and minutes. -/
inductive Zone
  | letter (c : Char)
  | signed (sign : Char) (hours minutes : Nat)
  deriving DecidableEq, Repr

namespace Zone

def text : Zone → String
  | letter c => .singleton c
  | signed sign hours minutes =>
      .singleton sign ++ padded 2 hours ++ ":" ++ padded 2 minutes

/-- The minutes by which clocks of the zone are ahead. -/
def minutes : Zone → Int
  | letter _ => 0
  | signed sign hours minutes =>
      if sign = '+' then hours * 60 + minutes else -(hours * 60 + minutes)

/-- Whether there is such a zone. -/
def IsSound : Zone → Prop
  | letter c => c ∈ ['Z', 'z']
  | signed sign hours minutes =>
      sign ∈ ['+', '-', '\u2212'] ∧ hours < 24 ∧ minutes < 60

end Zone

/-- The units that digits of a fraction stand for where there are `10 ^ k`
units. Digits that are too small for a unit do not count. -/
def units : Nat → List Nat → Nat
  | k + 1, d :: ds => d * 10 ^ k + units k ds
  | _, _ => 0

structure Form where
  date : Date
  separator : Char
  hour : Nat
  minute : Nat
  second : Nat
  /-- The digits behind the point, which is missing where there are none. -/
  digits : List Nat
  zone : Zone
  deriving DecidableEq, Repr

namespace Form

def dateText (d : Date) : String :=
  padded 4 d.year.toNat ++ "-" ++ padded 2 d.month ++ "-" ++ padded 2 d.day

def digitsText : List Nat → String
  | [] => ""
  | d :: ds => "." ++ .ofList ((d :: ds).map Nat.digitChar)

def timeText (hour minute second : Nat) (digits : List Nat) : String :=
  padded 2 hour ++ ":" ++ padded 2 minute ++ ":" ++ padded 2 second ++
    digitsText digits

def text (f : Form) : String :=
  dateText f.date ++ .singleton f.separator ++
    timeText f.hour f.minute f.second f.digits ++
    f.zone.text

/-- Whether the fields are those of a day of the years 0 to 9999, of a time of
day with a leap second at any minute's end, and of a zone. -/
structure IsSound (f : Form) : Prop where
  year : 0 ≤ f.date.year ∧ f.date.year ≤ 9999
  date : f.date.isValid = true
  separator : f.separator ∈ ['T', 't', ' ']
  time : f.hour < 24 ∧ f.minute < 60 ∧ f.second ≤ 60
  digits : ∀ d ∈ f.digits, d < 10
  zone : f.zone.IsSound

/-- Whether the fields are shown at an instant. The second 60 is the leap second
behind the second 59. -/
def Denotes (f : Form) (t : Instant) : Prop :=
  ∃ day, f.date.Counted day ∧
    t.seconds =
      day * 86400 + ((f.hour * 60 + f.minute) * 60 + min f.second 59) -
      f.zone.minutes * 60 ∧
    t.nanos = (if f.second = 60 then 1000000000 else 0) + units 9 f.digits

end Form

/-! ### Digits -/

def decimals : Nat → Nat → List UInt8
  | 0, _ => []
  | w + 1, n => decimals w (n / 10) ++ [UInt8.ofNat (48 + n % 10)]

@[simp] theorem length_decimals (w n : Nat) : (decimals w n).length = w := by
  induction w generalizing n with
  | zero => rfl
  | succ w ih => simp [decimals, ih]

theorem decimals_zero (w : Nat) : decimals w 0 = List.replicate w 0x30 := by
  induction w with
  | zero => rfl
  | succ w ih =>
      rw [decimals, Nat.zero_div, ih, List.replicate_succ']
      rfl

theorem toNat_digit (n : Nat) :
    (UInt8.ofNat (48 + n % 10)).toNat = 48 + n % 10 := by
  rw [UInt8.toNat_ofNat']
  omega

theorem isDigit_digit (n : Nat) :
    isDigit (UInt8.ofNat (48 + n % 10)) = true := by
  have := toNat_digit n
  simp only [isDigit, Bool.and_eq_true, decide_eq_true_eq,
    UInt8.le_iff_toNat_le, this]
  exact ⟨Nat.le_add_right _ _, by show _ ≤ 57; omega⟩

/-- The digits of a number behind zeros are its last digits. -/
theorem toDigits_eq_decimals {w n : Nat} (h : n < 10 ^ (w + 1)) :
    List.replicate (w + 1 - (Nat.toDigits 10 n).length) 0x30 ++
      (Nat.toDigits 10 n).map Json.byte = decimals (w + 1) n := by
  induction w generalizing n with
  | zero =>
      have lt : n < 10 := h
      rw [Nat.toDigits_of_lt_base lt, decimals, decimals, Nat.mod_eq_of_lt lt]
      simp [Json.byte, Nat.toNat_digitChar_of_lt_ten lt]
  | succ w ih =>
      have front : n / 10 < 10 ^ (w + 1) := by
        rw [Nat.pow_succ] at h
        omega
      have last : Json.byte (Nat.digitChar (n % 10)) =
          UInt8.ofNat (48 + n % 10) := by
        rw [Json.byte, Nat.toNat_digitChar_of_lt_ten (Nat.mod_lt n (by decide))]
      rw [decimals, ← ih front, ← last]
      by_cases lt : n < 10
      · rw [Nat.div_eq_of_lt lt, Nat.toDigits_of_lt_base lt,
          Nat.mod_eq_of_lt lt]
        simp [List.replicate_succ', Nat.toDigits_zero, Json.byte]
      · rw [Nat.toDigits_of_base_le (by decide) (Nat.le_of_not_lt lt)]
        simp

theorem encode_padded {w n : Nat} (h : n < 10 ^ (w + 1)) :
    encode (padded (w + 1) n) = decimals (w + 1) n := by
  have ascii : ∀ c ∈ Nat.toDigits 10 n, c.toNat < 128 := by
    intro c hc
    have := Nat.isDigit_of_mem_toDigits (by decide) (by decide) hc
    simp only [Char.isDigit, Bool.and_eq_true, decide_eq_true_eq] at this
    exact Nat.lt_of_le_of_lt this.2 (by decide)
  have length : (toString n).length = (Nat.toDigits 10 n).length := by
    rw [Nat.toString_eq_ofList_toDigits, String.length_ofList]
  rw [← toDigits_eq_decimals h, padded, encode, String.toList_append,
    List.flatMap_append, length, Nat.toString_eq_ofList_toDigits,
    String.toList_ofList, String.toList_ofList,
    Json.flatMap_utf8EncodeChar_of_lt ascii, Json.flatMap_utf8EncodeChar_of_lt]
  · rw [List.map_replicate]
    rfl
  · intro c hc
    rw [List.eq_of_mem_replicate hc]
    decide

theorem digits_decimals {w n : Nat} (h : n < 10 ^ w) (value k : Nat)
    (rest : List UInt8) :
    digits value (w + k) (decimals w n ++ rest) =
      digits (value * 10 ^ w + n) k rest := by
  induction w generalizing n k rest with
  | zero =>
      obtain rfl : n = 0 := Nat.lt_one_iff.1 h
      simp [decimals]
  | succ w ih =>
      have front : n / 10 < 10 ^ w := by
        rw [Nat.pow_succ] at h
        omega
      rw [decimals, List.append_assoc, Nat.add_right_comm, Nat.add_assoc,
        ih front, List.singleton_append, digits,
        if_pos (isDigit_digit n), toNat_digit]
      congr 1
      rw [Nat.pow_succ, ← Nat.mul_assoc]
      omega

theorem foldl_decimals {w n : Nat} (h : n < 10 ^ w) (value : Nat) :
    (decimals w n).foldl
      (fun n (b : UInt8) => n * 10 + (b.toNat - 0x30)) value =
      value * 10 ^ w + n := by
  induction w generalizing n with
  | zero =>
      obtain rfl : n = 0 := Nat.lt_one_iff.1 h
      simp [decimals]
  | succ w ih =>
      have front : n / 10 < 10 ^ w := by
        rw [Nat.pow_succ] at h
        omega
      rw [decimals, List.foldl_append, ih front, List.foldl_cons,
        List.foldl_nil, toNat_digit, Nat.pow_succ, ← Nat.mul_assoc]
      omega

theorem decimals_cons {d m w : Nat} (digit : d < 10) (h : m < 10 ^ w) :
    decimals (w + 1) (d * 10 ^ w + m) =
      UInt8.ofNat (48 + d) :: decimals w m := by
  induction w generalizing m with
  | zero =>
      obtain rfl : m = 0 := Nat.lt_one_iff.1 h
      simp [decimals, Nat.mod_eq_of_lt digit]
  | succ w ih =>
      have front : (d * 10 ^ (w + 1) + m) / 10 = d * 10 ^ w + m / 10 := by
        rw [Nat.pow_succ, ← Nat.mul_assoc]
        omega
      have last : (d * 10 ^ (w + 1) + m) % 10 = m % 10 := by
        rw [Nat.pow_succ, ← Nat.mul_assoc]
        omega
      have small : m / 10 < 10 ^ w := by
        rw [Nat.pow_succ] at h
        omega
      rw [decimals, front, last, ih small, decimals]
      rfl

theorem isDigit_iff {b : UInt8} :
    isDigit b = true ↔ ∃ d < 10, b = UInt8.ofNat (48 + d) := by
  constructor
  · intro h
    simp only [isDigit, Bool.and_eq_true, decide_eq_true_eq,
      UInt8.le_iff_toNat_le] at h
    obtain ⟨low, high⟩ := h
    have low : 48 ≤ b.toNat := low
    have high : b.toNat ≤ 57 := high
    refine ⟨b.toNat - 48, by omega, ?_⟩
    rw [Nat.add_sub_cancel' low, UInt8.ofNat_toNat]
  · rintro ⟨d, lt, rfl⟩
    have := isDigit_digit d
    rwa [Nat.mod_eq_of_lt lt] at this

theorem toNat_ofNat_digit {d : Nat} (lt : d < 10) :
    (UInt8.ofNat (48 + d)).toNat - 0x30 = d := by
  have := toNat_digit d
  rw [Nat.mod_eq_of_lt lt] at this
  omega

theorem digits_eq_ok_iff {value w n : Nat} {s r : List UInt8} :
    digits value w s = .ok (n, r) ↔
    ∃ m < 10 ^ w, n = value * 10 ^ w + m ∧ s = decimals w m ++ r := by
  constructor
  · intro h
    -- The value that is carried along grows by the first digit, so it has to be
    -- any.
    induction w generalizing value s with
    | zero =>
        cases h
        exact ⟨0, Nat.one_pos, by simp, rfl⟩
    | succ w ih =>
        cases s with
        | nil => cases h
        | cons b s =>
            rw [digits] at h
            split at h
            · next digit =>
                obtain ⟨d, lt, rfl⟩ := isDigit_iff.1 digit
                rw [toNat_ofNat_digit lt] at h
                obtain ⟨m, small, rfl, rfl⟩ := ih h
                refine ⟨d * 10 ^ w + m, ?_, ?_, ?_⟩
                · rw [Nat.pow_succ]
                  calc d * 10 ^ w + m < d * 10 ^ w + 10 ^ w :=
                         Nat.add_lt_add_left small _
                    _ = (d + 1) * 10 ^ w := by rw [Nat.add_mul, Nat.one_mul]
                    _ ≤ 10 * 10 ^ w := Nat.mul_le_mul_right _ lt
                    _ = 10 ^ w * 10 := Nat.mul_comm _ _
                · rw [Nat.add_mul, Nat.pow_succ, Nat.mul_comm (10 ^ w) 10,
                    ← Nat.mul_assoc, Nat.add_assoc]
                · rw [decimals_cons lt small]
                  rfl
            · cases h
  · rintro ⟨m, lt, rfl, rfl⟩
    have read := digits_decimals lt value 0 r
    rw [Nat.add_zero] at read
    rw [read]
    rfl

/-- A number of so many digits is read where it is written. -/
theorem number_eq_ok_iff {w n : Nat} {s r : List UInt8} :
    digits 0 (w + 1) s = .ok (n, r) ↔
      n < 10 ^ (w + 1) ∧ s = encode (padded (w + 1) n) ++ r := by
  rw [digits_eq_ok_iff]
  constructor
  · rintro ⟨m, lt, rfl, rfl⟩
    rw [Nat.zero_mul, Nat.zero_add, encode_padded lt]
    exact ⟨lt, rfl⟩
  · rintro ⟨lt, parts⟩
    refine ⟨n, lt, ?_, ?_⟩
    · rw [Nat.zero_mul, Nat.zero_add]
    · rw [parts, encode_padded lt]

theorem encode_singleton {c : Char} (ascii : c.toNat < 128) :
    encode (.singleton c) = [Json.byte c] := by
  rw [encode, String.toList_singleton, List.flatMap_cons, List.flatMap_nil,
    List.append_nil, Json.utf8EncodeChar_of_lt ascii]

theorem mark_eq_ok_iff {marks : List Char} (ascii : ∀ c ∈ marks, c.toNat < 128)
    {s r : List UInt8} :
    mark marks s = .ok r ↔ ∃ c ∈ marks, s = encode (.singleton c) ++ r := by
  have code {c : Char} (h : c.toNat < 128) (b : UInt8) :
      b = Json.byte c ↔ c.toNat = b.toNat := by
    rw [← UInt8.toNat_inj, Json.byte, Nat.toUInt8, UInt8.toNat_ofNat',
      Nat.mod_eq_of_lt (by omega), eq_comm]
  cases s with
  | nil =>
      constructor
      · intro h
        cases h
      · rintro ⟨c, known, empty⟩
        rw [encode_singleton (ascii c known)] at empty
        cases empty
  | cons b s =>
      simp only [mark, List.any_eq_true, decide_eq_true_eq]
      constructor
      · intro h
        split at h
        · next found =>
            obtain ⟨c, known, same⟩ := found
            cases h
            refine ⟨c, known, ?_⟩
            rw [encode_singleton (ascii c known),
              (code (ascii c known) b).2 same]
            rfl
        · cases h
      · rintro ⟨c, known, parts⟩
        rw [encode_singleton (ascii c known), List.singleton_append,
          List.cons.injEq] at parts
        obtain ⟨first, rfl⟩ := parts
        rw [if_pos ⟨c, known, (code (ascii c known) b).1 first⟩]

theorem mark_singleton_eq_ok_iff {c : Char} (ascii : c.toNat < 128)
    {s r : List UInt8} :
    mark [c] s = .ok r ↔ s = encode (.singleton c) ++ r := by
  rw [mark_eq_ok_iff (by simpa using ascii)]
  simp

/-! ### Dates -/

theorem date_eq_ok_iff {d : Date} {s r : List UInt8} : date s = .ok (d, r) ↔
    (0 ≤ d.year ∧ d.year ≤ 9999) ∧ d.isValid = true ∧
      s = encode (Form.dateText d) ++ r := by
  have hyphen (s r : List UInt8) : mark ['-'] s = .ok r ↔ s = encode "-" ++ r :=
    mark_singleton_eq_ok_iff (by decide)
  unfold date
  simp only [bind_eq_ok_iff, Prod.exists, granted_or_eq_ok_iff, pure_eq_ok_iff,
    number_eq_ok_iff, hyphen, Prod.mk.injEq, Form.dateText, encode_append,
    List.append_assoc]
  constructor
  · rintro ⟨year, _, ⟨lt, front⟩, _, dash, month, _, ⟨-, middle⟩, _, dash', day,
      _, ⟨-, back⟩, valid, rfl, rfl⟩
    refine ⟨by dsimp only; omega, valid, ?_⟩
    rw [front, dash, middle, dash', back]
    rfl
  · rintro ⟨⟨positive, small⟩, valid, parts⟩
    obtain ⟨year, month, day⟩ := d
    obtain ⟨year, rfl⟩ := Int.eq_ofNat_of_zero_le positive
    obtain ⟨shortMonth, shortDay⟩ := Date.le_of_isValid valid
    dsimp only at small shortMonth shortDay
    exact ⟨year, _, ⟨by omega, parts⟩, _, rfl, month, _, ⟨by omega, rfl⟩, _,
      rfl, day, r, ⟨by omega, rfl⟩, valid, rfl, rfl⟩

/-! ### Times of day -/

def digitBytes (ds : List Nat) : List UInt8 :=
  ds.map fun d => UInt8.ofNat (48 + d)

theorem encode_digits {ds : List Nat} (small : ∀ d ∈ ds, d < 10) :
    encode (.ofList (ds.map Nat.digitChar)) = digitBytes ds := by
  have ascii : ∀ c ∈ ds.map Nat.digitChar, c.toNat < 128 := by
    simp only [List.mem_map, forall_exists_index, and_imp]
    rintro c d digit rfl
    exact Json.digitChar_ascii d (Nat.lt_trans (small d digit) (by decide))
  rw [encode_ofList, Json.flatMap_utf8EncodeChar_of_lt ascii,
    List.map_map, digitBytes]
  refine List.map_congr_left fun d digit => ?_
  rw [Function.comp, Json.byte, Nat.toNat_digitChar_of_lt_ten (small d digit)]

theorem isDigit_of_mem_digitBytes {ds : List Nat} (small : ∀ d ∈ ds, d < 10)
    {b : UInt8} (h : b ∈ digitBytes ds) : isDigit b = true := by
  obtain ⟨d, digit, rfl⟩ := List.mem_map.1 h
  exact isDigit_iff.2 ⟨d, small d digit, rfl⟩

theorem exists_digitBytes {bs : List UInt8} (h : ∀ b ∈ bs, isDigit b = true) :
    ∃ ds, (∀ d ∈ ds, d < 10) ∧ bs = digitBytes ds := by
  induction bs with
  | nil => exact ⟨[], by simp, rfl⟩
  | cons b bs ih =>
      rw [List.forall_mem_cons] at h
      obtain ⟨d, lt, rfl⟩ := isDigit_iff.1 h.1
      obtain ⟨ds, small, rfl⟩ := ih h.2
      exact ⟨d :: ds, List.forall_mem_cons.2 ⟨lt, small⟩, rfl⟩

/-- Zeros behind the digits make up for digits that are missing. -/
theorem foldl_digitBytes {ds : List Nat} (small : ∀ d ∈ ds, d < 10) {k m : Nat}
    (le : k ≤ m) (value : Nat) :
    ((digitBytes ds ++ List.replicate m 0x30).take k).foldl
      (fun n (b : UInt8) => n * 10 + (b.toNat - 0x30)) value =
      value * 10 ^ k + units k ds := by
  induction k generalizing ds value with
  | zero => simp [units]
  | succ k ih =>
      cases ds with
      | nil =>
          have zeros : 0 < 10 ^ (k + 1) := Nat.pow_pos (by decide)
          rw [digitBytes, List.map_nil, List.nil_append, List.take_replicate,
            Nat.min_eq_left le, ← decimals_zero, foldl_decimals zeros]
          rfl
      | cons d ds =>
          rw [List.forall_mem_cons] at small
          rw [digitBytes, List.map_cons, List.cons_append, List.take_succ_cons,
            List.foldl_cons, toNat_ofNat_digit small.1]
          refine (ih small.2 (Nat.le_of_succ_le le) _).trans ?_
          rw [units, Nat.add_mul, Nat.pow_succ, Nat.mul_comm (10 ^ k) 10,
            ← Nat.mul_assoc, Nat.add_assoc]

theorem fraction_digitBytes {ds : List Nat} (small : ∀ d ∈ ds, d < 10) :
    fraction (digitBytes ds) = units 9 ds := by
  rw [fraction, foldl_digitBytes small (Nat.le_refl 9),
    Nat.zero_mul, Nat.zero_add]

theorem encode_digitsText {d : Nat} {ds : List Nat}
    (small : ∀ e ∈ d :: ds, e < 10) :
    encode (Form.digitsText (d :: ds)) = 0x2E :: digitBytes (d :: ds) := by
  rw [Form.digitsText, encode_append, encode_digits small]
  rfl

def EndsSecond (r : List UInt8) : Prop :=
  ∀ b ∈ r.head?, isDigit b = false ∧ b ≠ 0x2E

theorem takeWhile_dropWhile_digitBytes {ds : List Nat}
    (small : ∀ d ∈ ds, d < 10) {r : List UInt8} (end_ : EndsSecond r) :
    (digitBytes ds ++ r).takeWhile isDigit = digitBytes ds ∧
      (digitBytes ds ++ r).dropWhile isDigit = r :=
  takeWhile_dropWhile_eq_iff.2
    ⟨rfl, fun _ => isDigit_of_mem_digitBytes small,
      fun b first => (end_ b first).1⟩

theorem nanos_eq_ok_iff {n : Nat} {s r : List UInt8} (end_ : EndsSecond r) :
    nanos s = .ok (n, r) ↔ ∃ ds, (∀ d ∈ ds, d < 10) ∧ n = units 9 ds ∧
      s = encode (Form.digitsText ds) ++ r := by
  constructor
  · intro h
    unfold nanos at h
    split at h
    · split at h
      · cases h
      · next b rest =>
          split at h
          · next digit =>
              obtain ⟨ds, small, taken⟩ : ∃ ds, (∀ d ∈ ds, d < 10) ∧
                  (b :: rest).takeWhile isDigit = digitBytes ds :=
                exists_digitBytes fun c => List.mem_takeWhile_imp
              cases ds with
              | nil =>
                  rw [List.takeWhile_cons_of_pos digit] at taken
                  cases taken
              | cons d ds =>
                  rw [taken, fraction_digitBytes small, Except.ok.injEq,
                    Prod.mk.injEq] at h
                  refine ⟨d :: ds, small, h.1.symm, ?_⟩
                  rw [encode_digitsText small, ← taken, ← h.2, List.cons_append,
                    List.takeWhile_append_dropWhile]
          · cases h
    · cases h
      exact ⟨[], by simp, rfl, rfl⟩
  · rintro ⟨ds, small, rfl, parts⟩
    rw [parts]
    cases ds with
    | nil =>
        have bare : encode (Form.digitsText []) ++ r = r := rfl
        rw [bare]
        unfold nanos
        split
        · next rest => exact absurd rfl (end_ _ rfl).2
        · rfl
    | cons d ds =>
        obtain ⟨taken, dropped⟩ := takeWhile_dropWhile_digitBytes small end_
        have digit : isDigit (UInt8.ofNat (48 + d)) = true :=
          isDigit_iff.2 ⟨d, small d List.mem_cons_self, rfl⟩
        rw [encode_digitsText small, List.cons_append,
          ← fraction_digitBytes small]
        rw [digitBytes, List.map_cons, List.cons_append] at taken dropped ⊢
        simp only [nanos, digit, if_true, taken, dropped]

/-- What the hand for the seconds shows: at the second 60 it still is in the one
before. -/
theorem shown_eq {minutes second fine : Nat} (within : second ≤ 60)
    (r : List UInt8) :
    (if second = 60 then pure ((minutes * 60 + 59, 1000000000 + fine), r)
      else pure ((minutes * 60 + second, fine), r) : Except TimestampFault _) =
      .ok ((minutes * 60 + min second 59,
        (if second = 60 then 1000000000 else 0) + fine), r) := by
  split
  · next leap =>
      rw [leap]
      rfl
  · next usual =>
      rw [Nat.min_eq_left (by omega), Nat.zero_add]
      rfl

theorem time_eq_ok_iff {seconds n : Nat} {s r : List UInt8}
    (end_ : EndsSecond r) :
    time s = .ok ((seconds, n), r) ↔ ∃ hour minute second ds,
      (hour < 24 ∧ minute < 60 ∧ second ≤ 60) ∧ (∀ d ∈ ds, d < 10) ∧
      seconds = (hour * 60 + minute) * 60 + min second 59 ∧
      n = (if second = 60 then 1000000000 else 0) + units 9 ds ∧
      s = encode (Form.timeText hour minute second ds) ++ r := by
  have colon (s r : List UInt8) : mark [':'] s = .ok r ↔ s = encode ":" ++ r :=
    mark_singleton_eq_ok_iff (by decide)
  unfold time
  simp only [bind_eq_ok_iff, Prod.exists, refused_or_eq_ok_iff,
    number_eq_ok_iff, colon, Form.timeText, encode_append, List.append_assoc]
  constructor
  · rintro ⟨hour, _, ⟨-, front⟩, _, dots, minute, _, ⟨-, middle⟩, _, dots',
      second, _, ⟨-, back⟩, fine, rest, told, within, shown⟩
    rw [shown_eq (by omega)] at shown
    cases shown
    obtain ⟨ds, small, rfl, point⟩ := (nanos_eq_ok_iff end_).1 told
    refine ⟨hour, minute, second, ds, by omega, small, rfl, rfl, ?_⟩
    rw [front, dots, middle, dots', back, point]
  · rintro ⟨hour, minute, second, ds, within, small, rfl, rfl, parts⟩
    refine ⟨hour, _, ⟨by omega, parts⟩, _, rfl, minute, _, ⟨by omega, rfl⟩, _,
      rfl, second, _, ⟨by omega, rfl⟩, units 9 ds, r,
      (nanos_eq_ok_iff end_).2 ⟨ds, small, rfl, rfl⟩, by omega,
      shown_eq within.2.2 r⟩

/-! ### Zones -/

theorem digits_two (a b : UInt8) (s : List UInt8) : digits 0 2 (a :: b :: s) =
    if isDigit a = true ∧ isDigit b = true then
      .ok ((a.toNat - 0x30) * 10 + (b.toNat - 0x30), s)
    else .error .invalid := by
  cases ha : isDigit a <;> cases hb : isDigit b <;> simp [digits, ha, hb]

theorem digits_one (a : UInt8) (x : Nat × List UInt8) :
    digits 0 2 [a] ≠ .ok x := by
  cases ha : isDigit a <;> simp [digits, ha]

theorem offsetHours_eq_ok_iff {x : Nat × List UInt8} {s : List UInt8} :
    offsetHours s = .ok x ↔ digits 0 2 s = .ok x := by
  rcases s with _ | ⟨a, _ | ⟨b, s⟩⟩
  · exact iff_of_false nofun nofun
  · exact iff_of_false nofun (digits_one a x)
  · rw [digits_two]
    rfl

theorem offsetMinutes_eq_ok_iff {x : Nat × List UInt8} {s : List UInt8} :
    offsetMinutes s = .ok x ↔ digits 0 2 s = .ok x ∧ x.1 < 60 := by
  rcases s with _ | ⟨a, _ | ⟨b, s⟩⟩
  · exact iff_of_false nofun nofun
  · exact iff_of_false nofun fun h => digits_one a x h.1
  · rw [digits_two, offsetMinutes]
    split
    · next late =>
        -- A first digit of six or more is refused before the number is built
        -- from it.
        obtain ⟨low, high, digit⟩ := late
        refine iff_of_false nofun ?_
        rintro ⟨read, small⟩
        split at read
        · cases read
          have low : 0x36 ≤ a.toNat := low
          dsimp only at small
          omega
        · cases read
    · next within =>
        refine ⟨fun read => ⟨read, ?_⟩, fun h => h.1⟩
        split at read
        · next both =>
            cases read
            have early : ¬ (0x36 ≤ a ∧ a ≤ 0x39) :=
              fun late => within ⟨late.1, late.2, both.2⟩
            obtain ⟨d, lt, rfl⟩ := isDigit_iff.1 both.1
            obtain ⟨e, lt', rfl⟩ := isDigit_iff.1 both.2
            have value := toNat_digit d
            rw [Nat.mod_eq_of_lt lt] at value
            have early :
                ¬ (54 ≤ (UInt8.ofNat (48 + d)).toNat ∧
                  (UInt8.ofNat (48 + d)).toNat ≤ 57) :=
              early
            rw [toNat_ofNat_digit lt, toNat_ofNat_digit lt']
            omega
        · cases read

/-- The bytes of the signs. The minus sign proper has three. -/
theorem encode_sign :
    encode (.singleton '+') = [0x2B] ∧ encode (.singleton '-') = [0x2D] ∧
    encode (.singleton '\u2212') = [0xE2, 0x88, 0x92] := by
  decide

theorem offsetSign_eq_ok_iff {negative : Bool} {s r : List UInt8} :
    offsetSign s = .ok (negative, r) ↔ ∃ sign ∈ ['+', '-', '\u2212'],
      s = encode (.singleton sign) ++ r ∧ negative = decide (sign ≠ '+') := by
  obtain ⟨plus, hyphen, minus⟩ := encode_sign
  simp only [List.mem_cons, List.not_mem_nil, or_false, exists_eq_or_imp,
    exists_eq_left, plus, hyphen, minus]
  unfold offsetSign
  split
  · simp
  · simp [eq_comm, and_comm]
  · simp [eq_comm, and_comm]
  · simp [eq_comm, and_comm]
  · next h₁ h₂ h₃ =>
      refine iff_of_false nofun ?_
      rintro (⟨parts, -⟩ | ⟨parts, -⟩ | ⟨parts, -⟩)
      · exact h₁ _ parts
      · exact h₂ _ parts
      · exact h₃ _ parts

theorem exists_encode_sign {sign : Char} (h : sign ∈ ['+', '-', '\u2212']) :
    ∃ b bs, encode (.singleton sign) = b :: bs ∧
      (b = 0x2B ∨ b = 0x2D ∨ b = 0xE2) := by
  obtain ⟨plus, hyphen, minus⟩ := encode_sign
  simp only [List.mem_cons, List.not_mem_nil, or_false] at h
  rcases h with rfl | rfl | rfl
  · exact ⟨_, _, plus, .inl rfl⟩
  · exact ⟨_, _, hyphen, .inr (.inl rfl)⟩
  · exact ⟨_, _, minus, .inr (.inr rfl)⟩

theorem Zone.seconds_signed (sign : Char) (hours minutes : Nat) :
    (if decide (sign ≠ '+') = true then -(((hours : Int) * 60 + minutes) * 60)
      else ((hours : Int) * 60 + minutes) * 60) =
      (signed sign hours minutes).minutes * 60 := by
  unfold Zone.minutes
  by_cases plus : sign = '+'
  · simp [plus]
  · simp only [plus, ne_eq, not_false_eq_true, decide_true, if_true,
      if_false, Int.neg_mul]

theorem Zone.encode_signed_ne {sign : Char}
    (known : sign ∈ ['+', '-', '\u2212']) {b : UInt8}
    (letter : b = 0x5A ∨ b = 0x7A) (x s : List UInt8) :
    encode (.singleton sign) ++ x ≠ b :: s := by
  obtain ⟨c, cs, bytes, first⟩ := exists_encode_sign known
  rw [bytes, List.cons_append]
  intro same
  obtain rfl := (List.cons.inj same).1
  rcases letter with rfl | rfl <;> simp at first

theorem offset_eq_ok_iff {seconds : Int} {s r : List UInt8} :
    offset s = .ok (seconds, r) ↔
    ∃ zone : Zone, zone.IsSound ∧ s = encode zone.text ++ r ∧
      seconds = zone.minutes * 60 := by
  have colon (s r : List UInt8) : mark [':'] s = .ok r ↔ s = encode ":" ++ r :=
    mark_singleton_eq_ok_iff (by decide)
  constructor
  · intro h
    unfold offset at h
    split at h
    · cases h
      exact ⟨.letter 'Z', by simp [Zone.IsSound], rfl, rfl⟩
    · cases h
      exact ⟨.letter 'z', by simp [Zone.IsSound], rfl, rfl⟩
    · simp only [bind_eq_ok_iff, Prod.exists, refused_or_eq_ok_iff,
        offsetSign_eq_ok_iff, offsetHours_eq_ok_iff, colon,
        offsetMinutes_eq_ok_iff, number_eq_ok_iff] at h
      obtain ⟨_, _, ⟨sign, known, front, rfl⟩, hours, _, ⟨-, middle⟩,
          _, dots, minutes, _,
        ⟨⟨-, back⟩, small⟩, within, told⟩ := h
      rw [Zone.seconds_signed, pure_eq_ok_iff, Prod.mk.injEq] at told
      obtain ⟨rfl, rfl⟩ := told
      refine ⟨.signed sign hours minutes,
        ⟨known, Nat.lt_of_not_le within, small⟩, ?_, rfl⟩
      rw [front, middle, dots, back]
      simp only [Zone.text, encode_append, List.append_assoc]
  · rintro ⟨zone, sound, parts, rfl⟩
    rw [parts]
    cases zone with
    | letter c =>
        simp only [Zone.IsSound, List.mem_cons, List.not_mem_nil,
          or_false] at sound
        rcases sound with rfl | rfl <;> rfl
    | signed sign hours minutes =>
        obtain ⟨known, lt, small⟩ := sound
        simp only [Zone.text, encode_append, List.append_assoc]
        unfold offset
        split
        · next same =>
            exact absurd same (Zone.encode_signed_ne known (.inl rfl) _ _)
        · next same =>
            exact absurd same (Zone.encode_signed_ne known (.inr rfl) _ _)
        · simp only [bind_eq_ok_iff, Prod.exists, refused_or_eq_ok_iff,
            offsetSign_eq_ok_iff, offsetHours_eq_ok_iff, colon,
            offsetMinutes_eq_ok_iff, number_eq_ok_iff]
          refine ⟨_, _, ⟨sign, known, rfl, rfl⟩, hours, _, ⟨by omega, rfl⟩, _,
            rfl, minutes, r, ⟨⟨by omega, rfl⟩, small⟩, by omega, ?_⟩
          rw [Zone.seconds_signed, pure_eq_ok_iff]

theorem endsSecond_zone {zone : Zone} (sound : zone.IsSound) (r : List UInt8) :
    EndsSecond (encode zone.text ++ r) := by
  cases zone with
  | letter c =>
      simp only [Zone.IsSound, List.mem_cons, List.not_mem_nil,
        or_false] at sound
      rcases sound with rfl | rfl <;> rintro b ⟨⟩ <;> decide
  | signed sign hours minutes =>
      obtain ⟨b, bs, bytes, first⟩ := exists_encode_sign sound.1
      simp only [Zone.text, encode_append, List.append_assoc,
        bytes, List.cons_append]
      rintro _ ⟨⟩
      rcases first with rfl | rfl | rfl <;> decide

/-! ### Timestamps -/

theorem encode_text (f : Form) :
    encode f.text = encode (Form.dateText f.date) ++
    (encode (.singleton f.separator) ++
      (encode (Form.timeText f.hour f.minute f.second f.digits) ++
        encode f.zone.text)) := by
  simp only [Form.text, encode_append, List.append_assoc]

theorem encode_injective {s s' : String} (h : encode s = encode s') : s = s' :=
  Option.some.inj
    ((decode?_encode s).symm.trans
      ((congrArg decode? h).trans (decode?_encode s')))

theorem length_encode_padded {w n : Nat} (h : n < 10 ^ (w + 1)) :
    (encode (padded (w + 1) n)).length = w + 1 := by
  rw [encode_padded h, length_decimals]

theorem length_encode_text {f : Form} (sound : f.IsSound) :
    19 ≤ (encode f.text).length := by
  have year := sound.year
  obtain ⟨month, day⟩ := Date.le_of_isValid sound.date
  have time := sound.time
  have dash : (encode "-").length = 1 := by decide
  have colon : (encode ":").length = 1 := by decide
  have separator : 1 ≤ (encode (.singleton f.separator)).length := by
    have known := sound.separator
    generalize f.separator = c at known
    simp only [List.mem_cons, List.not_mem_nil, or_false] at known
    rcases known with rfl | rfl | rfl <;> decide
  simp only [encode_text, Form.dateText, Form.timeText, encode_append,
    List.length_append, dash, colon,
    length_encode_padded (w := 3) (show f.date.year.toNat < 10 ^ 4 by omega),
    length_encode_padded (w := 1) (show f.date.month < 10 ^ 2 by omega),
    length_encode_padded (w := 1) (show f.date.day < 10 ^ 2 by omega),
    length_encode_padded (w := 1) (show f.hour < 10 ^ 2 by omega),
    length_encode_padded (w := 1) (show f.minute < 10 ^ 2 by omega),
    length_encode_padded (w := 1) (show f.second < 10 ^ 2 by omega)]
  omega

/-- What can be read is what is written of fields, and it is read as the instant
that they denote. -/
theorem read_eq_ok_iff {s : String} {t : Instant} :
    read s = .ok t ↔ ∃ f : Form, f.IsSound ∧ f.text = s ∧ f.Denotes t := by
  have separators (s r : List UInt8) : mark ['T', 't', ' '] s = .ok r ↔
      ∃ c ∈ ['T', 't', ' '], s = encode (.singleton c) ++ r :=
    mark_eq_ok_iff (by simp)
  unfold read
  simp only [bind_eq_ok_iff, Prod.exists, refused_or_eq_ok_iff,
    granted_or_eq_ok_iff, date_eq_ok_iff, separators, offset_eq_ok_iff,
    pure_eq_ok_iff, List.isEmpty_iff]
  constructor
  · rintro ⟨-, date, _, ⟨year, valid, front⟩, _, ⟨separator, known, middle⟩,
      seconds, nanos, _, clock,
      _, _, ⟨zone, sound, back, rfl⟩, rfl, rfl⟩
    rw [back, time_eq_ok_iff (endsSecond_zone sound [])] at clock
    obtain ⟨hour, minute, second, ds, within, digits, rfl, rfl, clock⟩ := clock
    refine ⟨⟨date, separator, hour, minute, second, ds, zone⟩,
      ⟨year, valid, known, within, digits, sound⟩, encode_injective ?_,
      date.number, Date.counted_iff.2 ⟨valid, rfl⟩, ?_, rfl⟩
    · rw [encode_text, front, middle, clock, List.append_nil]
    · push_cast
      rfl
  · rintro ⟨f, sound, rfl, day, counted, seconds, nanos⟩
    have long := length_encode_text sound
    obtain ⟨-, rfl⟩ := Date.counted_iff.1 counted
    have ends := endsSecond_zone sound.zone []
    refine ⟨Nat.not_lt.2 long, f.date, _,
      ⟨sound.year, sound.date, encode_text f⟩, _,
      ⟨f.separator, sound.separator, rfl⟩, _, _, encode f.zone.text ++ [],
      (time_eq_ok_iff ends).2 ⟨f.hour, f.minute, f.second, f.digits, sound.time,
        sound.digits, rfl, rfl, ?_⟩, _, [],
        ⟨f.zone, sound.zone, rfl, rfl⟩, rfl, ?_⟩
    · rw [List.append_nil]
    · rw [Instant.mk.injEq, seconds, nanos]
      exact ⟨by push_cast; rfl, rfl⟩

end RuleWatch.Timestamp
