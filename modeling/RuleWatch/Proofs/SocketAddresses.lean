import Mathlib.Algebra.Ring.Nat
import RuleWatch.Net.Address
import RuleWatch.Proofs.Prefixes

/-!
Socket addresses in their written form. The text of an address is read back as
the address: numbers are written in as many digits as they have, and the zeros
that two colons stand for are exactly the segments that are missing.
-/

namespace RuleWatch.Net

/-! ### Numbers -/

theorem digitIn?_digitChar {base d : Nat} (le : base ≤ 16) (lt : d < base) :
    digitIn? base d.digitChar = some d := by
  have spelled :
      ∀ d : Fin 16, digitIn? 16 (Nat.digitChar d) = some ↑d := by decide
  have hex := spelled ⟨d, Nat.lt_of_lt_of_le lt le⟩
  unfold digitIn? at hex ⊢
  rw [Option.filter_eq_some_iff] at hex ⊢
  exact ⟨hex.1, decide_eq_true lt⟩

theorem filterMap_digitChar {base : Nat} (le : base ≤ 16) {ds : List Nat}
    (small : ∀ d ∈ ds, d < base) :
    (ds.map Nat.digitChar).filterMap (digitIn? base) = ds := by
  induction ds with
  | nil => rfl
  | cons d ds ih =>
      rw [List.forall_mem_cons] at small
      rw [List.map_cons,
        List.filterMap_cons_some (digitIn?_digitChar le small.1), ih small.2]

theorem exists_digits {base : Nat} (two : 2 ≤ base) (n : Nat) :
    ∃ ds : List Nat, Nat.toDigits base n = ds.map Nat.digitChar ∧
      (∀ d ∈ ds, d < base) ∧
      ds.foldl (fun v d => v * base + d) 0 = n := by
  induction n using Nat.strongRecOn with
  | ind n ih =>
      by_cases lt : n < base
      · exact ⟨[n], Nat.toDigits_of_lt_base lt, by simpa using lt, by simp⟩
      · obtain ⟨ds, spelled, small, value⟩ :=
          ih (n / base) (Nat.div_lt_self (by omega) two)
        refine ⟨ds ++ [n % base], ?_, ?_, ?_⟩
        · rw [Nat.toDigits_of_base_le two (Nat.le_of_not_lt lt),
            spelled, List.map_append]
          rfl
        · have last : n % base < base := Nat.mod_lt n (by omega)
          rw [List.forall_mem_append]
          exact ⟨small, by simpa using last⟩
        · rw [List.foldl_append, value, List.foldl_cons,
            List.foldl_nil, Nat.mul_comm]
          exact Nat.div_add_mod n base

theorem head_toDigits {base n : Nat} (two : 2 ≤ base) (pos : 0 < n) :
    (Nat.toDigits base n).head? ≠ some '0' := by
  induction n using Nat.strongRecOn with
  | ind n ih =>
      by_cases lt : n < base
      · rw [Nat.toDigits_of_lt_base lt, List.head?_cons]
        simpa using Nat.pos_iff_ne_zero.1 pos
      · have front := ih (n / base) (Nat.div_lt_self pos two)
          (Nat.div_pos (by omega) (by omega))
        rw [Nat.toDigits_of_base_le two (Nat.le_of_not_lt lt),
          List.head?_append]
        cases h : (Nat.toDigits base (n / base)).head? with
        | none => exact absurd (List.head?_eq_none_iff.1 h) Nat.toDigits_ne_nil
        | some c =>
            rw [h] at front
            exact front

def EndsNumber (base : Nat) (r : List Char) : Prop :=
  ∀ c ∈ r.head?, digitIn? base c = none

section

variable {base limit n : Nat} {r : List Char}

theorem isSome_of_mem_toDigits (two : 2 ≤ base) (le : base ≤ 16) {c : Char}
    (h : c ∈ Nat.toDigits base n) : (digitIn? base c).isSome = true := by
  obtain ⟨ds, spelled, small, -⟩ := exists_digits two n
  rw [spelled] at h
  obtain ⟨d, digit, rfl⟩ := List.mem_map.1 h
  rw [digitIn?_digitChar le (small d digit)]
  rfl

theorem takeWhile_dropWhile_toDigits (two : 2 ≤ base) (le : base ≤ 16)
    (end_ : EndsNumber base r) :
    (Nat.toDigits base n ++ r).takeWhile (fun c => (digitIn? base c).isSome) =
        Nat.toDigits base n ∧
      (Nat.toDigits base n ++ r).dropWhile (fun c => (digitIn? base c).isSome) =
        r :=
  takeWhile_dropWhile_eq_iff.2
    ⟨rfl, fun _ => isSome_of_mem_toDigits two le,
      fun c first => by simp [end_ c first]⟩

theorem readNumber_toDigits (two : 2 ≤ base) (le : base ≤ 16)
    (within : n ≤ limit) (end_ : EndsNumber base r) :
    readNumber base limit (Nat.toDigits base n ++ r) = some (n, r) := by
  obtain ⟨taken, dropped⟩ := takeWhile_dropWhile_toDigits (n := n) two le end_
  obtain ⟨ds, spelled, small, value⟩ := exists_digits two n
  have digits : (Nat.toDigits base n).filterMap (digitIn? base) = ds := by
    rw [spelled, filterMap_digitChar le small]
  have filled : (Nat.toDigits base n).isEmpty = false := by
    rw [List.isEmpty_eq_false_iff]
    exact Nat.toDigits_ne_nil
  simp [readNumber, taken, dropped, digits, value, filled, Nat.not_lt.2 within]

theorem digitCount_toDigits (two : 2 ≤ base) (le : base ≤ 16)
    (end_ : EndsNumber base r) :
    digitCount base (Nat.toDigits base n ++ r) =
      (Nat.toDigits base n).length := by
  rw [digitCount, (takeWhile_dropWhile_toDigits two le end_).1]

/-! ### Octets -/

theorem readOctet_toDigits (within : n < 256) (end_ : EndsNumber 10 r) :
    readOctet (Nat.toDigits 10 n ++ r) = some (n, r) := by
  have bare : ¬ (1 < digitCount 10 (Nat.toDigits 10 n ++ r) ∧
      (Nat.toDigits 10 n ++ r).head? = some '0') := by
    rintro ⟨long, zero⟩
    rw [digitCount_toDigits (by decide) (by decide) end_] at long
    have pos : 0 < n := by
      refine Nat.pos_of_ne_zero fun none => ?_
      rw [none, Nat.toDigits_zero] at long
      exact absurd long (by decide)
    rw [List.head?_append] at zero
    cases h : (Nat.toDigits 10 n).head? with
    | none => exact Nat.toDigits_ne_nil (List.head?_eq_none_iff.1 h)
    | some c =>
        rw [h] at zero
        exact head_toDigits (by decide) pos (h.trans zero)
  rw [readOctet, if_neg bare]
  exact readNumber_toDigits (by decide) (by decide) (by omega) end_

/-! ### Ends -/

@[simp] theorem endsNumber_nil : EndsNumber base [] := nofun

theorem endsNumber_cons {c : Char} (h : digitIn? base c = none) :
    EndsNumber base (c :: r) := by
  rintro _ ⟨⟩
  exact h

/-- Where no digit of a larger base follows, no digit of a smaller one does. -/
theorem EndsNumber.decimal (h : EndsNumber 16 r) : EndsNumber 10 r := by
  intro c there
  have none := h c there
  unfold digitIn? at none ⊢
  rw [Option.filter_eq_none_iff] at none ⊢
  intro d value lt
  have le : d < 16 := Nat.lt_trans (of_decide_eq_true lt) (by decide)
  exact none d value (decide_eq_true le)

theorem takeWhile_of_endsNumber (h : EndsNumber base r) :
    r.takeWhile (fun c => (digitIn? base c).isSome) = [] := by
  cases r with
  | nil => rfl
  | cons c r => simp [h c rfl]

theorem readNumber_of_endsNumber (h : EndsNumber base r) :
    readNumber base limit r = none := by
  simp [readNumber, takeWhile_of_endsNumber h]

theorem readOctet_of_endsNumber (h : EndsNumber 10 r) : readOctet r = none := by
  rw [readOctet, readNumber_of_endsNumber h, ite_self]

theorem readSegment_of_endsNumber (h : EndsNumber 16 r) :
    readSegment r = none := by
  rw [readSegment, readNumber_of_endsNumber h, ite_self]

theorem readIpv4_of_endsNumber (h : EndsNumber 10 r) : readIpv4 r = none := by
  rw [readIpv4, readOctet_of_endsNumber h]
  rfl

/-! ### Addresses of four bytes -/

@[simp] theorem readChar_cons (c : Char) (s : List Char) :
    readChar c (c :: s) = some s :=
  if_pos rfl

theorem toList_dots (a b c d : Nat) : (dots [a, b, c, d]).toList =
    Nat.toDigits 10 a ++
      '.' :: (Nat.toDigits 10 b ++ '.' :: (Nat.toDigits 10 c ++
      '.' :: Nat.toDigits 10 d)) := by
  simp [dots]

theorem readIpv4_dots {a b c d : Nat} (ha : a < 256) (hb : b < 256)
    (hc : c < 256) (hd : d < 256) (end_ : EndsNumber 10 r) :
    readIpv4 ((dots [a, b, c, d]).toList ++ r) = some (⟨[a, b, c, d]⟩, r) := by
  have point (s : List Char) : EndsNumber 10 ('.' :: s) :=
    endsNumber_cons (by decide)
  simp [toList_dots, readIpv4, readOctet_toDigits ha (point _),
    readOctet_toDigits hb (point _), readOctet_toDigits hc (point _),
    readOctet_toDigits hd end_]

/-! ### Segments -/

theorem readSegment_toDigits (within : n < 65536) (end_ : EndsNumber 16 r) :
    readSegment (Nat.toDigits 16 n ++ r) = some (n, r) := by
  have short : (Nat.toDigits 16 n).length ≤ 4 :=
    (Nat.length_toDigits_le_iff (by decide) (by decide)).2 within
  rw [readSegment, digitCount_toDigits (by decide) (by decide) end_,
    if_neg (Nat.not_lt.2 short)]
  exact readNumber_toDigits (by decide) (by decide) (by omega) end_

theorem readOctet_eq_some {a : Nat} {s : List Char}
    (h : readOctet s = some (a, r)) :
    s.dropWhile (fun c => (digitIn? 10 c).isSome) = r := by
  unfold readOctet readNumber at h
  split at h
  · cases h
  · dsimp only at h
    split at h <;> cases h
    rfl

/-- Behind the decimal ones among hexadecimal digits there is no point. -/
theorem readChar_dropWhile {ds : List Char}
    (digits : ∀ c ∈ ds, (digitIn? 16 c).isSome = true) (end_ : EndsNumber 16 r)
    (point : r.head? ≠ some '.') :
    readChar '.' ((ds ++ r).dropWhile fun c => (digitIn? 10 c).isSome) =
      none := by
  induction ds with
  | nil =>
      cases r with
      | nil => rfl
      | cons c r =>
          have stop : ¬ (digitIn? 10 c).isSome = true := by
            simp [end_.decimal c rfl]
          rw [List.nil_append, List.dropWhile_cons, if_neg stop]
          exact if_neg fun same => point (congrArg some same)
  | cons c ds ih =>
      rw [List.forall_mem_cons] at digits
      rw [List.cons_append, List.dropWhile_cons]
      split
      · exact ih digits.2
      · refine if_neg ?_
        rintro rfl
        exact absurd digits.1 (by decide)

/-- A text that goes on with neither a digit nor a point is not that of four
octets. -/
theorem readIpv4_toDigits (end_ : EndsNumber 16 r)
    (point : r.head? ≠ some '.') :
    readIpv4 (Nat.toDigits 16 n ++ r) = none := by
  have stop :=
    readChar_dropWhile (fun _ =>
      isSome_of_mem_toDigits (n := n) (by decide) (by decide))
      end_ point
  unfold readIpv4
  cases h : readOctet (Nat.toDigits 16 n ++ r) with
  | none => rfl
  | some x =>
      obtain ⟨a, s⟩ := x
      rw [readOctet_eq_some h] at stop
      simp [stop]

/-- What stands in front of a segment. -/
def front (isFirst : Bool) : List Char := if isFirst then [] else [':']

@[simp] theorem separated_front {α : Type} (isFirst : Bool)
    (read : Reader α) (s : List Char) :
    separated isFirst read (front isFirst ++ s) = read s := by
  cases isFirst <;> rfl

def segmentsText : Bool → List Nat → List Char
  | _, [] => []
  | isFirst, x :: xs =>
      front isFirst ++ Nat.toDigits 16 x ++ segmentsText false xs

theorem toList_colons (xs : List Nat) :
    (colons xs).toList = segmentsText true xs := by
  have behind (x : Nat) (xs : List Nat) :
      (colons (x :: xs)).toList =
        Nat.toDigits 16 x ++ segmentsText false xs := by
    induction xs generalizing x with
    | nil => simp [colons, hex, segmentsText]
    | cons y xs ih =>
        have next : (colons (x :: y :: xs)) =
            hex x ++ ":" ++ colons (y :: xs) := by
          simp [colons]
        rw [next, String.toList_append, String.toList_append, ih]
        simp [hex, segmentsText, front]
  cases xs with
  | nil => simp [colons, segmentsText]
  | cons x xs => rw [behind, segmentsText]; rfl

/-- Whether a text goes on with neither a segment nor a part of one. -/
structure EndsSegments (r : List Char) : Prop where
  digit : EndsNumber 16 r
  point : r.head? ≠ some '.'
  colon : ∀ s, r = ':' :: s → EndsNumber 16 s

theorem EndsSegments.separated {α : Type} {read : Reader α}
    (refuses : ∀ s, EndsNumber 16 s → read s = none) (end_ : EndsSegments r)
    (isFirst : Bool) :
    separated isFirst read r = none := by
  cases isFirst with
  | true => exact refuses r end_.digit
  | false =>
      cases r with
      | nil => rfl
      | cons c r =>
          by_cases colon : c = ':'
          · rw [colon] at end_ ⊢
            simpa [Net.separated] using refuses r (end_.colon r rfl)
          · simp [Net.separated, readChar, colon]

theorem readSegments_cons {isFirst : Bool} {room x : Nat} (within : x < 65536)
    (end_ : EndsNumber 16 r) (point : r.head? ≠ some '.') :
    readSegments isFirst (room + 1) (front isFirst ++ Nat.toDigits 16 x ++ r) =
      (⟨x :: (readSegments false room r).1.values,
        (readSegments false room r).1.dotted⟩,
        (readSegments false room r).2) := by
  rw [readSegments]
  simp [readIpv4_toDigits end_ point, readSegment_toDigits within end_]

/-- Four octets are read before segments where there is room for both of
theirs. -/
theorem readSegments_octets {isFirst : Bool} {room : Nat} {a : Ipv4}
    {s : List Char} (h : readIpv4 s = some (a, r)) :
    readSegments isFirst (room + 2) (front isFirst ++ s) =
      (⟨a.toSegments, true⟩, r) := by
  rw [readSegments]
  simp [h]

theorem readSegments_segmentsText {isFirst : Bool} {room : Nat} {xs : List Nat}
    (fits : xs.length ≤ room) (within : ∀ x ∈ xs, x < 65536)
    (end_ : EndsSegments r) :
    readSegments isFirst room (segmentsText isFirst xs ++ r) =
      (⟨xs, false⟩, r) := by
  -- Before each segment the reader tries four octets, and gives them up for
  -- want of a point.
  induction xs generalizing isFirst room with
  | nil =>
      cases room with
      | zero => rfl
      | succ room =>
          have octets : separated isFirst readIpv4 r = none :=
            end_.separated (fun s h => readIpv4_of_endsNumber h.decimal) isFirst
          have segment : separated isFirst readSegment r = none :=
            end_.separated (fun s h => readSegment_of_endsNumber h) isFirst
          simp [segmentsText, readSegments, octets, segment]
  | cons x xs ih =>
      obtain ⟨room, rfl⟩ : ∃ k, room = k + 1 := ⟨room - 1,
        by simp at fits; omega⟩
      rw [List.forall_mem_cons] at within
      have stop : EndsNumber 16 (segmentsText false xs ++ r) ∧
          (segmentsText false xs ++ r).head? ≠ some '.' := by
        cases xs with
        | nil => exact ⟨end_.digit, end_.point⟩
        | cons y ys =>
            exact ⟨endsNumber_cons (by decide), by simp [segmentsText, front]⟩
      rw [segmentsText, List.append_assoc,
        readSegments_cons within.1 stop.1 stop.2,
        ih (Nat.le_of_succ_le_succ fits) within.2]

/-! ### Runs of zeros -/

def IsZeros (segments : List Nat) (run : Nat × Nat) : Prop :=
  (segments.drop run.1).take run.2 = List.replicate run.2 0

theorem isZeros_takeWhile (xs : List Nat) :
    xs.take (xs.takeWhile (· = 0)).length =
      List.replicate (xs.takeWhile (· = 0)).length 0 := by
  rw [← List.prefix_iff_eq_take.1 (List.takeWhile_prefix _)]
  refine List.eq_replicate_iff.2 ⟨rfl, fun x there => ?_⟩
  simpa using List.mem_takeWhile_imp there

theorem isZeros_go {segments : List Nat} {xs : List Nat} {i : Nat}
    {best : Nat × Nat} (behind : segments.drop i = xs)
    (zeros : IsZeros segments best) :
    IsZeros segments (longestZeros.go i best xs) := by
  induction xs generalizing i best with
  | nil => exact zeros
  | cons x xs ih =>
      rw [longestZeros.go]
      refine ih ?_ ?_
      · rw [← List.drop_drop, behind]
        rfl
      · split
        · rw [IsZeros, behind]
          exact isZeros_takeWhile (x :: xs)
        · exact zeros

theorem isZeros_longestZeros (segments : List Nat) :
    IsZeros segments (longestZeros segments) :=
  isZeros_go rfl rfl

/-- A run of zeros stands between the segments in front of it and those behind
it. -/
theorem IsZeros.split {segments : List Nat} {start length : Nat}
    (zeros : IsZeros segments (start, length)) :
    segments.take start ++ List.replicate length 0 ++
      segments.drop (start + length) = segments := by
  rw [← zeros, ← List.drop_drop, List.append_assoc, List.take_append_drop,
    List.take_append_drop]

theorem IsZeros.le {segments : List Nat} {start length : Nat} (pos : 0 < length)
    (zeros : IsZeros segments (start, length)) :
    start + length ≤ segments.length := by
  have := congrArg List.length zeros
  simp only [List.length_take, List.length_drop, List.length_replicate] at this
  omega

/-! ### Addresses of eight segments -/

theorem endsSegments_colons (s : List Char) :
    EndsSegments (':' :: ':' :: s) where
  digit := endsNumber_cons (by decide)
  point := by simp
  colon := by
    rintro _ ⟨⟩
    exact endsNumber_cons (by decide)

theorem readIpv6_hexText {segments : List Nat} (eight : segments.length = 8)
    (within : ∀ x ∈ segments, x < 65536) (end_ : EndsSegments r) :
    readIpv6 ((Ipv6.hexText ⟨segments⟩).toList ++ r) =
      some (⟨segments⟩, r) := by
  have zeros := isZeros_longestZeros segments
  unfold Ipv6.hexText
  dsimp only
  generalize longestZeros segments = run at zeros ⊢
  obtain ⟨start, length⟩ := run
  dsimp only
  split
  · rw [toList_colons, readIpv6,
      readSegments_segmentsText (by omega) within end_]
    simp [eight]
  · next long =>
      have fits := zeros.le (by omega)
      have text : (colons (segments.take start) ++ "::" ++
          colons (segments.drop (start + length))).toList ++ r =
          segmentsText true (segments.take start) ++ (':' :: ':' ::
            (segmentsText true (segments.drop (start + length)) ++ r)) := by
        simp [toList_colons]
      have front : (segments.take start).length = start := by
        rw [List.length_take]
        omega
      have back : (segments.drop (start + length)).length =
          8 - (start + length) := by
        rw [List.length_drop, eight]
      have missing : 8 - start - (8 - (start + length)) = length := by omega
      rw [text, readIpv6, readSegments_segmentsText (by omega)
        (fun x there => within x (List.mem_of_mem_take there))
        (endsSegments_colons _)]
      simp only [front, if_neg (show ¬ start = 8 by omega), Bool.false_eq_true,
        if_false, readChar_cons, Option.bind_eq_bind, Option.bind_some,
        readSegments_segmentsText (show
          (segments.drop (start + length)).length ≤ 7 - start by omega)
        (fun x there => within x (List.mem_of_mem_drop there)) end_, back,
        missing, zeros.split]
      rfl

theorem readIpv6_dots {x y : Nat} (hx : x < 65536) (hy : y < 65536)
    (end_ : EndsSegments r) :
    readIpv6
      (("::ffff:" ++ dots [x / 256, x % 256, y / 256, y % 256]).toList ++ r) =
      some (⟨[0, 0, 0, 0, 0, 0xFFFF, x, y]⟩, r) := by
  have octets := readIpv4_dots (show x / 256 < 256 by omega)
    (show x % 256 < 256 by omega) (show y / 256 < 256 by omega)
    (show y % 256 < 256 by omega) end_.digit.decimal
  have two : Ipv4.toSegments ⟨[x / 256, x % 256, y / 256, y % 256]⟩ =
      [x, y] := by
    simp only [Ipv4.toSegments]
    rw [Nat.div_add_mod', Nat.div_add_mod']
  have word : Nat.toDigits 16 0xFFFF = ['f', 'f', 'f', 'f'] := by decide
  generalize dots [x / 256, x % 256, y / 256, y % 256] = four at octets ⊢
  have text : ("::ffff:" ++ four).toList ++ r =
      segmentsText true [] ++ (':' :: ':' ::
      (front true ++ Nat.toDigits 16 0xFFFF ++
        (front false ++ (four.toList ++ r)))) := by
    simp [word, segmentsText, front]
  have back : readSegments false 6 (front false ++ (four.toList ++ r)) =
      (⟨[x, y], true⟩, r) := by
    rw [readSegments_octets octets, two]
  have colon : EndsNumber 16 (front false ++ (four.toList ++ r)) :=
    endsNumber_cons (by decide)
  rw [text, readIpv6,
    readSegments_segmentsText (Nat.zero_le 8) (by simp) (endsSegments_colons _)]
  simp only [List.length_nil, Bool.false_eq_true, if_false, readChar_cons,
    Option.bind_eq_bind, Option.bind_some, Nat.sub_zero]
  rw [readSegments_cons (by decide) colon (by simp [front]), back]
  rfl

theorem readIpv6_text {segments : List Nat} (eight : segments.length = 8)
    (within : ∀ x ∈ segments, x < 65536) (end_ : EndsSegments r) :
    readIpv6 ((Ipv6.text ⟨segments⟩).toList ++ r) = some (⟨segments⟩, r) := by
  unfold Ipv6.text
  split
  · next x y mapped =>
      dsimp only at mapped
      rw [mapped] at within ⊢
      exact readIpv6_dots (within x (by simp)) (within y (by simp)) end_
  · exact readIpv6_hexText eight within end_

end

/-! ### Socket addresses -/

def SocketAddress.IsSound : SocketAddress → Prop
  | v4 a port => a.octets.length = 4 ∧ (∀ x ∈ a.octets, x < 256) ∧ port < 65536
  | v6 a scope port => a.segments.length = 8 ∧
      (∀ x ∈ a.segments, x < 65536) ∧ scope < 2 ^ 32 ∧
      port < 65536

theorem readPort_toDigits {port : Nat} (within : port < 65536) :
    readPort (':' :: Nat.toDigits 10 port) = some (port, []) := by
  have read : readNumber 10 0xFFFF (Nat.toDigits 10 port ++ []) =
      some (port, []) :=
    readNumber_toDigits (by decide) (by decide)
      (Nat.le_sub_one_of_lt within) endsNumber_nil
  rw [List.append_nil] at read
  simpa [readPort] using read

theorem readSocketV4_text {a : Ipv4} {port : Nat}
    (sound : (SocketAddress.v4 a port).IsSound) :
    readSocketV4 (SocketAddress.v4 a port).text.toList =
      some (.v4 a port, []) := by
  obtain ⟨octets⟩ := a
  obtain ⟨four, small, within⟩ := sound
  obtain ⟨a, b, c, d, rfl⟩ : ∃ a b c d, octets = [a, b, c, d] := by
    match octets, four with
    | [a, b, c, d], _ => exact ⟨a, b, c, d, rfl⟩
  have colon : EndsNumber 10 (':' :: Nat.toDigits 10 port) :=
    endsNumber_cons (by decide)
  have address := readIpv4_dots (small a (by simp))
    (small b (by simp)) (small c (by simp)) (small d (by simp)) colon
  simp [SocketAddress.text, Ipv4.text, readSocketV4, address,
    readPort_toDigits within]

theorem readSocketV6_text {a : Ipv6} {scope port : Nat}
    (sound : (SocketAddress.v6 a scope port).IsSound) :
    readSocketV4 (SocketAddress.v6 a scope port).text.toList = none ∧
      readSocketV6 (SocketAddress.v6 a scope port).text.toList =
        some (.v6 a scope port, []) := by
  obtain ⟨segments⟩ := a
  obtain ⟨eight, small, zone, within⟩ := sound
  have bracket : EndsSegments (']' :: ':' :: Nat.toDigits 10 port) :=
    ⟨endsNumber_cons (by decide), by simp, nofun⟩
  have percent (s : List Char) : EndsSegments ('%' :: s) :=
    ⟨endsNumber_cons (by decide), by simp, nofun⟩
  have inside (s : List Char) : readIpv4 ('[' :: s) = none :=
    readIpv4_of_endsNumber (endsNumber_cons (by decide))
  refine ⟨by simp [SocketAddress.text, readSocketV4, inside], ?_⟩
  by_cases none : scope = 0
  · simp [SocketAddress.text, none, readSocketV6,
      readIpv6_text eight small bracket, readScope, readPort_toDigits within]
  · have number : readNumber 10 0xFFFFFFFF
        (Nat.toDigits 10 scope ++ ']' :: ':' :: Nat.toDigits 10 port) =
        some (scope, ']' :: ':' :: Nat.toDigits 10 port) :=
      readNumber_toDigits (by decide) (by decide) (Nat.le_sub_one_of_lt zone)
        bracket.digit.decimal
    simp [SocketAddress.text, none, readSocketV6,
      readIpv6_text eight small (percent _), readScope, number,
      readPort_toDigits within]

/-- The text of an address is read as the address. -/
theorem SocketAddress.ofText?_text {a : SocketAddress} (sound : a.IsSound) :
    ofText? a.text = some a := by
  cases a with
  | v4 a port => simp [ofText?, readSocketV4_text sound]
  | v6 a scope port => simp [ofText?, readSocketV6_text sound]

end RuleWatch.Net
