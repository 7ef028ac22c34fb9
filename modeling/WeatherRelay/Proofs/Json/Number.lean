import WeatherRelay.Json.Number
import WeatherRelay.Proofs.Decimal.Digits
import WeatherRelay.Proofs.Decimal.ThroughDouble

/-! Numbers of JSON that are rounded once in double precision.

Where the digits are held exactly and the power of ten is one that is held as well, scaling is the
only step that rounds.
-/

set_option autoImplicit false

namespace WeatherRelay

theorem five_power_le {digits power : Nat} (something : 0 < digits)
    (few : digits * 5 ^ power < 2 ^ 53) : power ≤ 22 := by
  by_contra more
  have large : 5 ^ 23 ≤ digits * 5 ^ power :=
    le_trans (Nat.pow_le_pow_right (by decide) (by omega)) (Nat.le_mul_of_pos_left _ something)
  exact absurd few (not_lt.mpr (le_trans (by decide) large))

/-- A significand holds the five of each ten, and the exponent takes up the two. -/
theorem Format.double_holds_tens {digits power : Nat} (few : digits * 5 ^ power < 2 ^ 53)
    (small : power ≤ 22) : double.Holds (digits * 10 ^ power : Nat) where
  short := by
    have wide : 2 * double.binade = 2 ^ 53 := by decide
    have lowest : double.leastExponent = -1074 := rfl
    refine ⟨digits * 5 ^ power, power, by omega, by omega, ?_⟩
    have ten : (10 : Rat) = 5 * 2 := by norm_num
    rw [Nat.cast_mul, Nat.cast_pow, Nat.cast_ofNat, ten, mul_pow, zpow_natCast]
    push_cast
    ring
  finite := by
    have bound : digits * 10 ^ power < 2 ^ (53 + power) := by
      calc digits * 10 ^ power = digits * 5 ^ power * 2 ^ power := by
            rw [Nat.mul_assoc, ← Nat.mul_pow]
        _ < 2 ^ 53 * 2 ^ power := Nat.mul_lt_mul_of_pos_right few (Nat.two_pow_pos power)
        _ = 2 ^ (53 + power) := (Nat.pow_add 2 53 power).symm
    rw [double_magnitude_infinityRank]
    calc ((digits * 10 ^ power : Nat) : Rat) < 2 ^ (53 + power) := by exact_mod_cast bound
      _ ≤ 2 ^ 1024 := pow_le_pow_right₀ (by norm_num) (by omega)

namespace Json

/-- A word that has room for all digits leaves none out. -/
theorem gatherDigits_eq (front digits : List Char)
    (fits : Decimal.digitsValue (front ++ digits) < twoTo 64) :
    gatherDigits (Decimal.digitsValue front) digits = (Decimal.digitsValue (front ++ digits), 0) := by
  induction digits generalizing front with
  | nil => rw [List.append_nil, gatherDigits]
  | cons c rest ih =>
    rw [List.append_cons] at fits ⊢
    have longer : 10 * Decimal.digitsValue front + (c.toNat - '0'.toNat) =
        Decimal.digitsValue (front ++ [c]) := by simp [Decimal.digitsValue]
    have room : Decimal.digitsValue (front ++ [c]) < twoTo 64 := by
      rw [Decimal.digitsValue_append] at fits
      exact lt_of_le_of_lt (Nat.le_mul_of_pos_right _ (Nat.pow_pos (by decide)))
        (lt_of_le_of_lt (Nat.le_add_right _ _) fits)
    rw [gatherDigits, longer, if_pos room]
    exact ih (front ++ [c]) fits

theorem Number.scaled_eq {number : Number} (fits : number.decimal.digits < twoTo 64) :
    number.scaled = (number.decimal.digits, number.decimal.exponent) := by
  unfold decimal Decimal.ofParts at fits ⊢
  have whole : Decimal.digitsValue ([] ++ number.whole) < twoTo 64 := by
    rw [Decimal.digitsValue_append] at fits
    exact lt_of_le_of_lt (Nat.le_mul_of_pos_right _ (Nat.pow_pos (by decide)))
      (lt_of_le_of_lt (Nat.le_add_right _ _) fits)
  have front : gatherDigits 0 number.whole = (Decimal.digitsValue number.whole, 0) :=
    gatherDigits_eq [] number.whole whole
  unfold scaled
  rw [front]
  dsimp only
  rw [gatherDigits_eq number.whole _ fits]
  dsimp only
  rw [Nat.sub_zero, Nat.cast_zero, zero_sub, neg_add_eq_sub]

/-- Powers of ten up to this one are held. -/
theorem tenToDouble_holds {power : Nat} (small : power ≤ 22) :
    Format.double.Holds ((tenTo power : Nat) : Rat) := by
  have five : 1 * 5 ^ power < 2 ^ 53 :=
    calc 1 * 5 ^ power ≤ 1 * 5 ^ 22 := Nat.mul_le_mul_left 1 (Nat.pow_le_pow_right (by decide) small)
      _ < 2 ^ 53 := by decide
  have held := Format.double_holds_tens five small
  rwa [Nat.one_mul] at held

theorem scaleByTens?_eq {word : Nat} {power : Int} (held : Format.double.Holds word)
    (deep : -22 ≤ power) (high : power ≤ 22)
    (finite : Format.double.nearestRank (word * (10 : Rat) ^ power) < Format.double.infinityRank) :
    scaleByTens? word power = some (.finite false ⟨_, finite⟩) := by
  have nonneg : (0 : Rat) ≤ word := Nat.cast_nonneg word
  have scaled : 0 ≤ word * (10 : Rat) ^ power := mul_nonneg nonneg (ten_zpow_pos power).le
  have rounded := Binary.round_false_eq scaled finite
  have positive (places : Nat) : (0 : Rat) < (tenTo places : Nat) := by
    exact_mod_cast Nat.pow_pos (by decide)
  -- Both operands are held, so dividing rounds the quotient and multiplying rounds the product.
  unfold scaleByTens?
  dsimp only
  by_cases below : power < 0
  · have rounds : (power.natAbs - 1) / 308 = 0 := by omega
    have ten : (10 : Rat) ^ power = 1 / (tenTo power.natAbs : Nat) := by
      have same : power = -(power.natAbs : Int) := by omega
      rw [same, zpow_neg, zpow_natCast, Int.natAbs_neg, Int.natAbs_natCast, one_div]
      norm_num
    rw [if_pos below, rounds, Nat.mul_zero, Nat.sub_zero, divideByTens, tenToDouble,
      Binary.round_false_div (by decide) nonneg held (positive _) (tenToDouble_holds (by omega)),
      ← rounded, ten, mul_one_div]
  · have ten : (10 : Rat) ^ power = (tenTo power.toNat : Nat) := by
      have same : power = (power.toNat : Int) := by omega
      rw [same, zpow_natCast, Int.toNat_natCast]
      norm_num
    have product : (.round false word * tenToDouble power.toNat : Binary64) =
        .finite false ⟨_, finite⟩ := by
      rw [tenToDouble, Binary.round_false_mul (by decide) nonneg held (positive _).le
        (tenToDouble_holds (by omega)), ← rounded, ten]
    rw [if_neg below, if_pos (by omega), product]
    rfl

namespace Number

/-- What is spelled with few digits and a small power of ten, and not as an integer. -/
structure Short (number : Number) : Prop where
  fractional : number.isIntegral = false
  fits : number.decimal.digits < twoTo 64
  held : Format.double.Holds number.decimal.digits
  deep : -22 ≤ number.decimal.exponent
  high : number.decimal.exponent ≤ 22

/-- A short number is read as the number at a rank if that is nearest to the decimal and to the
double number next to it. -/
theorem Short.toBinary32?_eq {number : Number} (short : number.Short) {rank : Nat}
    (finite : rank < Format.single.infinityRank)
    (nearest : Format.single.nearestRank
      (number.decimal.digits * (10 : Rat) ^ number.decimal.exponent) = rank)
    (through : Format.single.nearestRank (Format.double.magnitude (Format.double.nearestRank
      (number.decimal.digits * (10 : Rat) ^ number.decimal.exponent))) = rank) :
    number.toBinary32? = some (.finite number.negative ⟨rank, finite⟩) := by
  have inRange := Format.double_finite_of_single
    (mul_nonneg (Nat.cast_nonneg _) (ten_zpow_pos number.decimal.exponent).le)
    (nearest.symm ▸ finite)
  have integer : number.integer? = none := by simp [integer?, short.fractional]
  have read : number.toBinary64? = some (.finite number.negative ⟨_, inRange⟩) := by
    unfold toBinary64?
    rw [scaled_eq short.fits]
    dsimp only
    rw [scaleByTens?_eq short.held short.deep short.high inRange]
    cases number.negative <;> rfl
  -- This is the second rounding, from double to single precision.
  have back : (Binary.finite number.negative ⟨_, inRange⟩ : Binary64).convert =
      (.finite number.negative ⟨rank, finite⟩ : Binary32) := by
    refine (Binary.round_signed _ (Format.double.magnitude_nonneg _) ?_).trans ?_
    · rwa [through]
    · simp only [through]
  unfold toBinary32?
  rw [integer, read]
  exact congrArg some back

end Number

end Json

end WeatherRelay
