/-!
Nonnegative finite numbers with 53 binary digits. Every quotient of two naturals
has a nearest one, a half going to the neighbour with the even mantissa, unless
it is too large for the format.
-/

namespace RuleWatch.Decimal

/-- The number `mantissa * 2 ^ exponent`. -/
structure Binary where
  mantissa : Nat
  exponent : Int
  deriving DecidableEq, Repr

namespace Binary

/-- The exponent of the smallest numbers. -/
def lowest : Int := -1074

/-- The exponent of the largest numbers. -/
def highest : Int := 971

def zero : Binary := ⟨0, lowest⟩

/-- The factor by which a unit of `2 ^ exponent` enlarges a numerator. -/
def upward (exponent : Int) : Nat := Nat.pow 2 exponent.toNat

/-- The factor by which a unit of `2 ^ exponent` enlarges a denominator. -/
def downward (exponent : Int) : Nat := Nat.pow 2 (-exponent).toNat

def numerator (x : Binary) : Nat := x.mantissa * upward x.exponent

def denominator (x : Binary) : Nat := downward x.exponent

/-- The natural nearest to `num / den`, a half going to the even one. -/
def nearest (num den : Nat) : Nat :=
  let q := num / den
  let r := 2 * (num % den)
  if r < den then q else if den < r then q + 1 else q + q % 2

/-- The exponent of the units in which `num / den` has 53 binary digits before
the point, as far as the format goes down. -/
def unitOf (num den : Nat) : Int :=
  let e := (num.log2 : Int) - den.log2 - 52
  let e :=
    if num * downward e < Nat.pow 2 52 * (den * upward e) then e - 1 else e
  max e lowest

/-- The number nearest to `num / den`, or nothing when it is too large. -/
def ofRatio (num den : Nat) : Option Binary :=
  if num = 0 then some zero
  else
    let e := unitOf num den
    let m := nearest (num * downward e) (den * upward e)
    let x : Binary := if m = Nat.pow 2 53 then ⟨Nat.pow 2 52, e + 1⟩ else ⟨m, e⟩
    if highest < x.exponent then none else some x

def ofNat (n : Nat) : Option Binary := ofRatio n 1

def isZero (x : Binary) : Bool := x.mantissa == 0

def add (x y : Binary) : Option Binary :=
  ofRatio (x.numerator * y.denominator + y.numerator * x.denominator)
    (x.denominator * y.denominator)

def mul (x y : Binary) : Option Binary :=
  ofRatio (x.numerator * y.numerator) (x.denominator * y.denominator)

def div (x y : Binary) : Option Binary :=
  ofRatio (x.numerator * y.denominator) (x.denominator * y.numerator)

end Binary

end RuleWatch.Decimal
