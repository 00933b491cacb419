import RuleWatch.Decimal.Binary

/-!
Decimal texts of binary numbers. The digits are the fewest that single out the
number among all numbers of the format, and of several such the nearest ones.
-/

namespace RuleWatch.Decimal

/-- The number `digits * 10 ^ exponent`. -/
structure Scaled where
  digits : Nat
  exponent : Int
  deriving DecidableEq, Repr

namespace Shortest

/-- Compares `a * 10 ^ p` with `b / den`. -/
def compareScaled (a : Nat) (p : Int) (b den : Nat) : Ordering :=
  compare (a * Nat.pow 10 p.toNat * den) (b * Nat.pow 10 (-p).toNat)

/-- The numbers that round to `x` reach from the first to the second number
here, both in quarters of a unit of the last place. -/
def bounds (x : Binary) : Nat × Nat :=
  let below :=
    if x.mantissa = Nat.pow 2 52 ∧ Binary.lowest < x.exponent then 1 else 2
  (4 * x.mantissa - below, 4 * x.mantissa + 2)

/-- Whether `a * 10 ^ p` rounds to `x`. The two ends of the reach do when the
mantissa is even. -/
def readsBack (x : Binary) (a : Nat) (p : Int) : Bool :=
  let (low, high) := bounds x
  let up := Binary.upward x.exponent
  let den := 4 * x.denominator
  let ends := x.mantissa % 2 = 0
  let below := compareScaled a p (low * up) den
  let above := compareScaled a p (high * up) den
  (below = .gt || below = .eq && ends) && (above = .lt || above = .eq && ends)

/-- The power of ten of the leading digit of `num / den`, found from a guess
that is not too large. -/
def leading (num den : Nat) : Nat → Int → Int
  | 0, p => p
  | n + 1, p => if compareScaled 1 (p + 1) num den = .gt then p
    else leading num den n (p + 1)

def magnitude (x : Binary) : Int :=
  let guess := ((x.mantissa.log2 : Int) + x.exponent) * 30103 / 100000 - 1
  leading x.numerator x.denominator 3 guess

/-- The multiple of `10 ^ p` nearest to `x` among its two neighbours that read
back. -/
def onGrid (x : Binary) (p : Int) : Option Scaled :=
  let num := x.numerator * Nat.pow 10 (-p).toNat
  let den := x.denominator * Nat.pow 10 p.toNat
  let a := num / den
  let twice := 2 * (num % den)
  let upper := decide (den < twice) || decide (den = twice) && a % 2 = 1
  match readsBack x a p, readsBack x (a + 1) p with
  | true, true => some ⟨if upper then a + 1 else a, p⟩
  | true, false => some ⟨a, p⟩
  | false, true => some ⟨a + 1, p⟩
  | false, false => none

/-- Tries grids from coarse to fine. -/
def search (x : Binary) (p : Int) : Nat → Scaled
  | 0 => ⟨0, 0⟩
  | n + 1 => (onGrid x p).getD (search x (p - 1) n)

end Shortest

/-- The shortest decimal that reads back as `x`. -/
def Binary.shortest (x : Binary) : Scaled :=
  if x.isZero then ⟨0, 0⟩ else Shortest.search x (Shortest.magnitude x + 1) 18

namespace Scaled

def places (x : Scaled) : List Char := Nat.toDigits 10 x.digits

/-- The digits without an exponent, before the point and behind it. -/
def positional (x : Scaled) : List Char × List Char :=
  let ds := x.places
  if 0 ≤ x.exponent then (ds ++ List.replicate x.exponent.toNat '0', [])
  else
    let behind := (-x.exponent).toNat
    let padded := List.replicate (behind + 1 - ds.length) '0' ++ ds
    padded.splitAt (padded.length - behind)

/-- All digits, with a point only where a fraction follows. -/
def plain (x : Scaled) : String :=
  match x.positional with
  | (whole, []) => .ofList whole
  | (whole, fraction) => .ofList (whole ++ '.' :: fraction)

def leading (x : Scaled) : Int := x.exponent + x.places.length - 1

/-- One digit before the point, and a signed exponent. -/
def scientific (x : Scaled) : String :=
  let (first, others) := x.places.splitAt 1
  let point := if others.isEmpty then [] else '.' :: others
  let sign := if x.leading < 0 then '-' else '+'
  .ofList (first ++ point ++ 'e' :: sign :: Nat.toDigits 10 x.leading.natAbs)

/-- A text that shows a fraction even where there is none; numbers from
`10 ^ 16` on and below `10 ^ (-5)` have an exponent. -/
def pointed (x : Scaled) : String :=
  if x.digits = 0 then "0.0"
  else if -5 ≤ x.leading ∧ x.leading ≤ 15 then
    match x.positional with
    | (whole, []) => .ofList (whole ++ ['.', '0'])
    | (whole, fraction) => .ofList (whole ++ '.' :: fraction)
  else x.scientific

end Scaled

end RuleWatch.Decimal
