import WeatherRelay.Binary.Basic

/-! Natural logarithms and powers.

Both are computed on integers that count units of `2⁻¹⁶⁰` and rounded once, so the result is the
nearest number of the format for every argument whose exact value is not within about `2⁻¹⁵⁰` of
the middle between two numbers.
-/

set_option autoImplicit false

namespace WeatherRelay

namespace FixedPoint

def one : Int := twoTo 160

/-- The sum of `t^(2k+1)/(2k+1)` over the first terms, from the power `t^(2k+1)` on. -/
def atanhTerms (square : Int) : Nat → Int → Int → Int
  | 0, _, _ => 0
  | fuel + 1, power, odd =>
    power / odd + atanhTerms square fuel (power * square / one) (odd + 2)

/-- The inverse hyperbolic tangent of `numerator / denominator`, at most a third. -/
def atanh (numerator denominator : Int) : Int :=
  let t := numerator * one / denominator
  atanhTerms (t * t / one) 55 t 1

def log2 : Int := 2 * atanh 1 3

def log (x : Rat) : Int :=
  let shift := floorLog2 x
  let mantissa := x / (2 : Rat) ^ shift
  let offset := (mantissa - 1) / (mantissa + 1)
  shift * log2 + 2 * atanh offset.num offset.den

/-- The sum of `r^k/k!` over the first terms, from the term given on. -/
def expTerms (r : Int) : Nat → Int → Int → Int
  | 0, _, _ => 0
  | fuel + 1, term, index => term + expTerms r fuel (term * r / one / index) (index + 1)

/-- The exponential, as a mantissa in fixed point and a power of two. -/
def exp (y : Int) : Int × Int :=
  let shift := y / log2
  (expTerms (y - shift * log2) 45 one 1, shift)

end FixedPoint

namespace Binary

variable {format : Format}

def ln (x : Binary format) : Binary format :=
  match x with
  | .nan => .nan
  | .infinity negative => if negative then .nan else .infinity false
  | .finite negative rank =>
    if rank.val = 0 then .infinity true
    else if negative then .nan
    else round false ((FixedPoint.log (format.magnitude rank) : Rat) / FixedPoint.one)

/-- A power with a positive base; other bases have none. -/
def pow (base exponent : Binary format) : Binary format :=
  match base, exponent.toRat? with
  | .infinity false, some power =>
    if power = 0 then 1 else if power < 0 then 0 else .infinity false
  | .finite false rank, some power =>
    if rank.val = 0 then .nan
    else
      let y := (power * FixedPoint.log (format.magnitude rank)).floor
      let (mantissa, shift) := FixedPoint.exp y
      round false ((mantissa : Rat) / FixedPoint.one * (2 : Rat) ^ shift)
  | _, _ => .nan

end Binary

end WeatherRelay
