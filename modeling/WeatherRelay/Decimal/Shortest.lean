import WeatherRelay.Decimal.Basic

/-! The fewest decimal digits from which a binary number reads back. -/

set_option autoImplicit false

namespace WeatherRelay

def floorLog10 (x : Rat) : Int :=
  let guess := (floorLog2 x * 30103).fdiv 100000
  if (10 : Rat) ^ (guess + 1) ≤ x then guess + 1
  else if x < (10 : Rat) ^ guess then guess - 1
  else guess

namespace Decimal

/-- Whether a decimal magnitude rounds to the number at a rank. -/
def readsAs (format : Format) (rank : Nat) (x : Rat) : Bool :=
  format.nearestRank x = rank

/-- Of the two neighbours of `x` among the multiples of a power of ten, the nearer one that
reads back. -/
def onGrid (format : Format) (rank : Nat) (x : Rat) (power : Int) : Option Nat :=
  let scaled := x / (10 : Rat) ^ power
  let lower := scaled.floor.toNat
  let accepted (digits : Nat) : Bool := readsAs format rank (digits * (10 : Rat) ^ power)
  let nearer := if scaled - lower ≤ 1 / 2 then lower else lower + 1
  let farther := if scaled - lower ≤ 1 / 2 then lower + 1 else lower
  if accepted nearer then some nearer
  else if accepted farther then some farther
  else none

def trimZeros (fuel digits : Nat) (power : Int) : Nat × Int :=
  match fuel with
  | 0 => (digits, power)
  | fuel + 1 =>
    if digits % 10 = 0 && digits != 0 then trimZeros fuel (digits / 10) (power + 1)
    else (digits, power)

/-- The shortest decimal of the positive number at a rank: the first grid, from coarse to fine,
on which a neighbour reads back. -/
def shortest (format : Format) (rank : Nat) : Nat × Int :=
  let x := format.magnitude rank
  let leading := floorLog10 x
  let enough := format.precision * 30103 / 100000 + 2
  let found := (List.range enough).findSome? fun (count : Nat) =>
    let power := leading - (count : Int)
    (onGrid format rank x power).map fun digits => (digits, power)
  match found with
  | some (digits, power) => trimZeros (enough + 1) digits power
  | none => (0, 0)

end Decimal

end WeatherRelay
