/-!
Labels of host names in letters, digits and hyphens. The ASCII characters of a
label come first; the others follow as numbers of variable length, each saying
how far ahead in the order of characters and places the next one is inserted.
-/

namespace RuleWatch.Net.Punycode

/-- The digit threshold at a place, which follows the bias. -/
def threshold (k bias : Nat) : Nat :=
  if k ≤ bias then 1 else if bias + 26 ≤ k then 26 else k - bias

/-- Divides by 35 until small, counting 36 for each time. -/
def settle (delta k : Nat) : Nat :=
  if 455 < delta then settle (delta / 35) (k + 36)
  else k + 36 * delta / (delta + 38)
termination_by delta

/-- The bias behind a number, the first one weighing less. -/
def adapt (delta count : Nat) (isFirst : Bool) : Nat :=
  let delta := if isFirst then delta / 700 else delta / 2
  settle (delta + delta / count) 0

def digitChar (d : Nat) : Char :=
  if d < 26 then .ofNat (97 + d) else .ofNat (22 + d)

def digit? (c : Char) : Option Nat :=
  if 'a' ≤ c ∧ c ≤ 'z' then some (c.toNat - 97)
  else if 'A' ≤ c ∧ c ≤ 'Z' then some (c.toNat - 65)
  else if '0' ≤ c ∧ c ≤ '9' then some (c.toNat - 22)
  else none

/-- The digits of a number from the place `k` on. -/
def writeNumber (bias k q : Nat) : List Char :=
  let t := threshold k bias
  if h : t ≤ q ∧ 0 < t ∧ t ≤ 26 then
    have : (q - t) / (36 - t) < q :=
      Nat.lt_of_le_of_lt (Nat.div_le_self _ _) (by omega)
    digitChar (t + (q - t) % (36 - t)) ::
      writeNumber bias (k + 36) ((q - t) / (36 - t))
  else [digitChar q]
termination_by q

/-- What is kept between the insertions. -/
structure Writer where
  written : List Char
  delta : Nat
  bias : Nat
  count : Nat

/-- Passes one character of the label while `n` is inserted. -/
def Writer.pass (basic n : Nat) (w : Writer) (c : Nat) : Writer :=
  if c < n then { w with delta := w.delta + 1 }
  else if c = n then
    { written := w.written ++ writeNumber w.bias 36 w.delta
      delta := 0
      bias := adapt w.delta (w.count + 1) (w.count == basic)
      count := w.count + 1 }
  else w

/-- Inserts the characters of the label one after another, in their order. -/
def writeAll (label : List Nat) (basic : Nat) :
    Nat → Writer → List Nat → List Char
  | _, w, [] => w.written
  | n, w, m :: ms =>
      let w := { w with delta := w.delta + (m - n) * (w.count + 1) }
      let w := label.foldl (Writer.pass basic m) w
      writeAll label basic (m + 1) { w with delta := w.delta + 1 } ms

def encode (label : List Nat) : List Char :=
  let basic := label.filter (· < 128)
  let others := ((label.filter (128 ≤ ·)).mergeSort (· ≤ ·)).eraseReps
  let start := basic.map Char.ofNat ++ if basic.isEmpty then [] else ['-']
  writeAll label basic.length 128 ⟨start, 0, 72, basic.length⟩ others

/-- What is kept between the digits: the label so far, the last character and
place, the bias, and the number that is being read with the weight of its next
digit. -/
structure Reader where
  label : List Nat
  char : Nat
  place : Nat
  bias : Nat
  number : Nat
  weight : Nat
  k : Nat

def Reader.insert (r : Reader) : Option Reader :=
  let size := r.label.length + 1
  let ahead := r.place + r.number
  let char := r.char + ahead / size
  if char.isValidChar then
    some
      { label := r.label.insertIdx (ahead % size) char
        char
        place := ahead % size + 1
        bias := adapt r.number size (r.place == 0)
        number := 0
        weight := 1
        k := 36 }
  else none

def readNumbers (r : Reader) : List Char → Option (List Nat)
  | [] => if r.k = 36 then some r.label else none
  | c :: cs => do
      let d ← digit? c
      let t := threshold r.k r.bias
      let r := { r with number := r.number + d * r.weight }
      if d < t then readNumbers (← r.insert) cs
      else readNumbers { r with weight := r.weight * (36 - t),
                                k := r.k + 36 } cs

def decode (s : List Char) : Option (List Nat) :=
  let behind := (s.reverse.takeWhile (· ≠ '-')).reverse
  let front := s.take (s.length - behind.length - 1)
  if front.all fun c => c.toNat < 128 then
    readNumbers ⟨front.map Char.toNat, 128, 0, 72, 0, 1, 36⟩ behind
  else none

end RuleWatch.Net.Punycode
