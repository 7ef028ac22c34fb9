import WeatherRelay.Powers

/-! Binary floating-point numbers with exact rounding.

A format lists its non-negative numbers in increasing order; the position of a number in that
list is its rank, and the rank is also its bit pattern without the sign. Every operation is the
exact rational result rounded to the nearest number of the format, a tie going to the even rank.
-/

set_option autoImplicit false

namespace WeatherRelay

/-- Significands have `precision` bits; the least positive number is a power of two. -/
structure Format where
  precision : Nat
  leastExponent : Int
  /-- The number of finite magnitudes, which is the rank where infinity stands. -/
  infinityRank : Nat
  deriving DecidableEq, Repr

namespace Format

def single : Format := ⟨24, -149, 255 * twoTo 23⟩

def double : Format := ⟨53, -1074, 2047 * twoTo 52⟩

def binade (format : Format) : Nat := twoTo (format.precision - 1)

def significand (format : Format) (rank : Nat) : Nat :=
  if rank < format.binade then rank else format.binade + rank % format.binade

def exponent (format : Format) (rank : Nat) : Int :=
  format.leastExponent + (rank / format.binade - 1 : Nat)

def magnitude (format : Format) (rank : Nat) : Rat :=
  format.significand rank * (2 : Rat) ^ format.exponent rank

end Format

/-- The integer nearest to a rational; a tie goes to the even one. -/
def roundEven (x : Rat) : Int :=
  let below := x.floor
  let rest := x - below
  if rest < 1 / 2 then below
  else if 1 / 2 < rest then below + 1
  else below + below % 2

def floorLog2 (x : Rat) : Int :=
  let guess : Int := (x.num.natAbs.log2 : Int) - (x.den.log2 : Int)
  if (2 : Rat) ^ guess ≤ x then guess else guess - 1

/-- The rank nearest to a non-negative rational; at or beyond `infinityRank` it is infinity. -/
def Format.nearestRank (format : Format) (x : Rat) : Nat :=
  if x = 0 then 0
  else
    let scale := max format.leastExponent (floorLog2 x - (format.precision - 1 : Nat))
    (roundEven (x / (2 : Rat) ^ scale)).toNat + (scale - format.leastExponent).toNat * format.binade

/-- Numbers of a format. There is one NaN; zero has two signs. -/
inductive Binary (format : Format) where
  | nan
  | infinity (negative : Bool)
  | finite (negative : Bool) (rank : Fin format.infinityRank)
  deriving DecidableEq, Repr

abbrev Binary32 := Binary .single

abbrev Binary64 := Binary .double

namespace Binary

variable {format : Format}

/-- Round a rational. `zeroSign` is the sign of the result where the rational is zero. -/
def round (zeroSign : Bool) (x : Rat) : Binary format :=
  let negative := if x = 0 then zeroSign else decide (x < 0)
  let rank := format.nearestRank (if x < 0 then -x else x)
  if finite : rank < format.infinityRank then .finite negative ⟨rank, finite⟩
  else .infinity negative

def toRat? : Binary format → Option Rat
  | .finite negative rank =>
    let magnitude := format.magnitude rank
    some (if negative then -magnitude else magnitude)
  | _ => none

def zero : Binary format := round false 0

instance : Inhabited (Binary format) := ⟨.nan⟩

instance (n : Nat) : OfNat (Binary format) n := ⟨round false n⟩

instance : OfScientific (Binary format) where
  ofScientific mantissa negativeExponent exponent :=
    round false (OfScientific.ofScientific mantissa negativeExponent exponent)

def isFinite : Binary format → Bool
  | .finite _ _ => true
  | _ => false

def neg : Binary format → Binary format
  | .nan => .nan
  | .infinity negative => .infinity !negative
  | .finite negative rank => .finite (!negative) rank

def abs : Binary format → Binary format
  | .nan => .nan
  | .infinity _ => .infinity false
  | .finite _ rank => .finite false rank

/-- Two zeros cancel to a positive zero unless both are negative. -/
def add (x y : Binary format) : Binary format :=
  match x, y with
  | .nan, _ | _, .nan => .nan
  | .infinity left, .infinity right => if left = right then .infinity left else .nan
  | .infinity left, .finite _ _ => .infinity left
  | .finite _ _, .infinity right => .infinity right
  | .finite left m, .finite right n =>
    let signed (negative : Bool) (rank : Nat) : Rat :=
      if negative then -format.magnitude rank else format.magnitude rank
    round (left && right) (signed left m + signed right n)

def sub (x y : Binary format) : Binary format := add x (neg y)

def mul (x y : Binary format) : Binary format :=
  match x, y with
  | .nan, _ | _, .nan => .nan
  | .infinity left, .infinity right => .infinity (left != right)
  | .infinity left, .finite right n => if n.val = 0 then .nan else .infinity (left != right)
  | .finite left m, .infinity right => if m.val = 0 then .nan else .infinity (left != right)
  | .finite left m, .finite right n =>
    let product := format.magnitude m * format.magnitude n
    round (left != right) (if left != right then -product else product)

def div (x y : Binary format) : Binary format :=
  match x, y with
  | .nan, _ | _, .nan => .nan
  | .infinity _, .infinity _ => .nan
  | .infinity left, .finite right _ => .infinity (left != right)
  | .finite left _, .infinity right => round (left != right) 0
  | .finite left m, .finite right n =>
    if n.val = 0 then
      if m.val = 0 then .nan else .infinity (left != right)
    else
      let quotient := format.magnitude m / format.magnitude n
      round (left != right) (if left != right then -quotient else quotient)

instance : Neg (Binary format) := ⟨neg⟩
instance : Add (Binary format) := ⟨add⟩
instance : Sub (Binary format) := ⟨sub⟩
instance : Mul (Binary format) := ⟨mul⟩
instance : Div (Binary format) := ⟨div⟩

/-- The sum of some numbers in their order, from the zero that changes none of them. -/
def sum (numbers : List (Binary format)) : Binary format := numbers.foldl (· + ·) (-0)

/-- Position on the number line: the signed rank. Both zeros share one position. -/
def position? : Binary format → Option Int
  | .nan => none
  | .infinity negative => some (if negative then -format.infinityRank else format.infinityRank)
  | .finite negative rank => some (if negative then -(rank.val : Int) else rank.val)

/-- Numeric order. A NaN is neither below nor above anything. -/
def below (x y : Binary format) : Bool :=
  match x.position?, y.position? with
  | some left, some right => left < right
  | _, _ => false

/-- Numeric equality: the zeros are equal and a NaN equals nothing. -/
def same (x y : Binary format) : Bool :=
  match x.position?, y.position? with
  | some left, some right => left == right
  | _, _ => false

def atMost (x y : Binary format) : Bool := x.below y || x.same y

/-- The greater of two numbers; a NaN gives way to the other operand. -/
def max (x y : Binary format) : Binary format :=
  match x with
  | .nan => y
  | _ => if x.below y then y else x

/-- The same number in another format, rounded where it does not fit. -/
def convert {source target : Format} : Binary source → Binary target
  | .nan => .nan
  | .infinity negative => .infinity negative
  | .finite negative rank =>
    let magnitude := source.magnitude rank
    round negative (if negative then -magnitude else magnitude)

/-- The bit pattern: the rank, with the sign above it. The NaN has none of its own. -/
def bits? : Binary format → Option Nat
  | .nan => none
  | .infinity negative =>
    some (format.infinityRank + if negative then format.infinityRank + format.binade else 0)
  | .finite negative rank =>
    some (rank + if negative then format.infinityRank + format.binade else 0)

end Binary

end WeatherRelay
