import Mathlib.Algebra.Order.Floor.Ring
import Mathlib.Algebra.Order.Field.Power
import Mathlib.Data.Rat.Floor
import Mathlib.Tactic.FieldSimp
import Mathlib.Tactic.Linarith
import Mathlib.Tactic.NormNum
import Mathlib.Tactic.Positivity
import Mathlib.Tactic.Ring
import WeatherRelay.Binary.Basic

/-! Rounding keeps what a format can represent.

A rank is taken apart into a significand and a number of binades below it; every magnitude is
then one unit above the magnitude before it, and a rational with a short enough significand is
found again at its own rank.
-/

set_option autoImplicit false

namespace WeatherRelay

theorem two_zpow_pos (exponent : Int) : (0 : Rat) < 2 ^ exponent :=
  zpow_pos (by norm_num) exponent

theorem two_zpow_add (left right : Int) : (2 : Rat) ^ (left + right) = 2 ^ left * 2 ^ right :=
  zpow_add₀ (by norm_num) left right

theorem roundEven_intCast (n : Int) : roundEven n = n := by
  have below : (n : Rat).floor = n := Rat.floor_intCast n
  simp only [roundEven, below, sub_self]
  norm_num

-- The logarithms of numerator and denominator tell that of a quotient to within one binade, which
-- is why a guess made from them needs no more than one correction.
theorem quotient_log2 {numerator denominator : Nat} (num_ne : numerator ≠ 0)
    (den_ne : denominator ≠ 0) :
    (2 : Rat) ^ ((numerator.log2 : Int) - denominator.log2 - 1) ≤ numerator / denominator ∧
      (numerator / denominator : Rat) < 2 ^ ((numerator.log2 : Int) - denominator.log2 + 1) := by
  have denPositive : (0 : Rat) < denominator := by exact_mod_cast Nat.pos_of_ne_zero den_ne
  have numLow : (2 : Rat) ^ numerator.log2 ≤ numerator := by
    exact_mod_cast Nat.log2_self_le num_ne
  have numHigh : (numerator : Rat) < 2 ^ (numerator.log2 + 1) := by
    exact_mod_cast Nat.lt_log2_self
  have denLow : (2 : Rat) ^ denominator.log2 ≤ denominator := by
    exact_mod_cast Nat.log2_self_le den_ne
  have denHigh : (denominator : Rat) < 2 ^ (denominator.log2 + 1) := by
    exact_mod_cast Nat.lt_log2_self
  constructor
  · rw [le_div_iff₀ denPositive]
    calc (2 : Rat) ^ ((numerator.log2 : Int) - denominator.log2 - 1) * denominator
        ≤ 2 ^ ((numerator.log2 : Int) - denominator.log2 - 1) * 2 ^ (denominator.log2 + 1) :=
          mul_le_mul_of_nonneg_left denHigh.le (two_zpow_pos _).le
      _ = 2 ^ numerator.log2 := by
        rw [← zpow_natCast, ← zpow_natCast, ← two_zpow_add]
        congr 1
        push_cast
        ring
      _ ≤ numerator := numLow
  · rw [div_lt_iff₀ denPositive]
    calc (numerator : Rat) < 2 ^ (numerator.log2 + 1) := numHigh
      _ = 2 ^ ((numerator.log2 : Int) - denominator.log2 + 1) * 2 ^ denominator.log2 := by
        rw [← zpow_natCast, ← zpow_natCast, ← two_zpow_add]
        congr 1
        push_cast
        ring
      _ ≤ 2 ^ ((numerator.log2 : Int) - denominator.log2 + 1) * denominator :=
          mul_le_mul_of_nonneg_left denLow (two_zpow_pos _).le

theorem floorLog2_spec {x : Rat} (positive : 0 < x) :
    (2 : Rat) ^ floorLog2 x ≤ x ∧ x < (2 : Rat) ^ (floorLog2 x + 1) := by
  have numPositive : 0 < x.num := Rat.num_pos.mpr positive
  have quotient : (x.num.natAbs / x.den : Rat) = x := by
    rw [← Int.cast_natCast, Int.natAbs_of_nonneg numPositive.le, Rat.num_div_den]
  obtain ⟨lower, upper⟩ := quotient_log2 (by omega : x.num.natAbs ≠ 0) x.den_nz
  rw [quotient] at lower upper
  -- The guess is right or one too high.
  unfold floorLog2
  dsimp only
  split
  case isTrue reached => exact ⟨reached, upper⟩
  case isFalse missed => exact ⟨lower, by rw [sub_add_cancel]; exact lt_of_not_ge missed⟩

namespace Format

variable (format : Format)

theorem binade_pos : 0 < format.binade := Nat.pow_pos (by decide)

/-- A rank is a significand on top of whole binades; only ranks without binades below them may
have short significands. -/
theorem magnitude_stack (significand binades : Nat) (short : significand < 2 * format.binade)
    (normal : binades = 0 ∨ format.binade ≤ significand) :
    format.magnitude (significand + binades * format.binade) =
      significand * (2 : Rat) ^ (format.leastExponent + binades) := by
  have positive := format.binade_pos
  have quotient : (significand + binades * format.binade) / format.binade =
      significand / format.binade + binades := Nat.add_mul_div_right _ _ positive
  have remainder : (significand + binades * format.binade) % format.binade =
      significand % format.binade := Nat.add_mul_mod_self_right _ _ _
  unfold magnitude Format.significand exponent
  rw [quotient, remainder]
  by_cases subnormal : significand < format.binade
  · have none : binades = 0 := by omega
    subst none
    simp [subnormal, Nat.div_eq_of_lt subnormal]
  · have first : significand / format.binade = 1 :=
      Nat.div_eq_of_lt_le (by omega) (by omega)
    have rest : significand % format.binade = significand - format.binade := by
      rw [Nat.mod_eq_sub_mod (by omega), Nat.mod_eq_of_lt (by omega)]
    have above : ¬ significand + binades * format.binade < format.binade := by
      have := Nat.zero_le (binades * format.binade)
      omega
    have whole : format.binade + (significand - format.binade) = significand := by omega
    simp only [above, if_false, first, rest, whole, Nat.add_sub_cancel_left]

theorem exists_stack (rank : Nat) :
    ∃ significand binades, rank = significand + binades * format.binade ∧
      significand < 2 * format.binade ∧ (binades = 0 ∨ format.binade ≤ significand) := by
  have positive := format.binade_pos
  have split := Nat.mod_add_div rank format.binade
  have rest := Nat.mod_lt rank positive
  cases whole : rank / format.binade with
  | zero =>
    refine ⟨rank % format.binade, 0, ?_, by omega, .inl rfl⟩
    rw [whole] at split
    simpa using split.symm
  | succ binades =>
    refine ⟨rank % format.binade + format.binade, binades, ?_, by omega, .inr (by omega)⟩
    rw [whole, Nat.mul_succ, Nat.mul_comm] at split
    omega

/-- Every number is a short significand of some unit, and the next number is one unit above it. -/
theorem magnitude_succ (rank : Nat) :
    ∃ (significand : Nat) (exponent : Int), significand < 2 * format.binade ∧
      format.leastExponent ≤ exponent ∧ format.magnitude rank = significand * (2 : Rat) ^ exponent ∧
      format.magnitude (rank + 1) = (significand + 1) * (2 : Rat) ^ exponent := by
  obtain ⟨significand, binades, rfl, short, normal⟩ := format.exists_stack rank
  refine ⟨significand, format.leastExponent + binades, short, by omega,
    format.magnitude_stack significand binades short normal, ?_⟩
  by_cases room : significand + 1 < 2 * format.binade
  · have next := format.magnitude_stack (significand + 1) binades room (by omega)
    rw [Nat.add_right_comm, next]
    push_cast
    rfl
  · -- The significand is full: the next number opens a binade of twice the step.
    have full : significand + 1 = 2 * format.binade := by omega
    have next := format.magnitude_stack format.binade (binades + 1)
      (by have := format.binade_pos; omega) (.inr le_rfl)
    have position : significand + binades * format.binade + 1 =
        format.binade + (binades + 1) * format.binade := by
      rw [Nat.succ_mul]
      omega
    have doubled : (significand + 1 : Rat) = 2 * format.binade := by exact_mod_cast full
    rw [position, next, doubled]
    push_cast
    rw [← add_assoc, two_zpow_add, zpow_one]
    ring

theorem magnitude_strictMono : StrictMono format.magnitude := by
  apply strictMono_nat_of_lt_succ
  intro rank
  obtain ⟨significand, exponent, -, -, here, next⟩ := format.magnitude_succ rank
  rw [here, next]
  exact mul_lt_mul_of_pos_right (lt_add_one _) (two_zpow_pos exponent)

theorem magnitude_zero : format.magnitude 0 = 0 := by
  have stacked := format.magnitude_stack 0 0 (by have := format.binade_pos; omega) (.inl rfl)
  simpa using stacked

/-- The rationals that a format holds exactly, up to their sign. -/
structure Holds (x : Rat) : Prop where
  short : ∃ significand : Nat, ∃ exponent : Int, significand < 2 * format.binade ∧
    format.leastExponent ≤ exponent ∧ x = significand * (2 : Rat) ^ exponent
  finite : x < format.magnitude format.infinityRank

theorem magnitude_nearestRank {x : Rat} (positivePrecision : 0 < format.precision)
    (held : ∃ significand : Nat, ∃ exponent : Int, significand < 2 * format.binade ∧
      format.leastExponent ≤ exponent ∧ x = significand * (2 : Rat) ^ exponent) :
    format.magnitude (format.nearestRank x) = x := by
  by_cases zero : x = 0
  · simp only [nearestRank, zero, if_true, format.magnitude_zero]
  obtain ⟨significand, exponent, short, least, equal⟩ := held
  have binadePower : (format.binade : Rat) = 2 ^ ((format.precision - 1 : Nat) : Int) := by
    simp [binade, twoTo]
  have positive : 0 < x := by
    refine lt_of_le_of_ne ?_ (Ne.symm zero)
    rw [equal]
    exact mul_nonneg (Nat.cast_nonneg _) (two_zpow_pos _).le
  obtain ⟨low, high⟩ := floorLog2_spec positive
  let scale : Int := max format.leastExponent (floorLog2 x - (format.precision - 1 : Nat))
  have scaleLeast : format.leastExponent ≤ scale := le_max_left _ _
  have scaleLog : floorLog2 x - (format.precision - 1 : Nat) ≤ scale := le_max_right _ _
  have logBelow : floorLog2 x < exponent + format.precision := by
    have bound : (2 : Rat) ^ floorLog2 x < 2 ^ (exponent + (format.precision : Int)) := by
      calc (2 : Rat) ^ floorLog2 x ≤ x := low
        _ = significand * 2 ^ exponent := equal
        _ < (2 * format.binade : Nat) * 2 ^ exponent :=
          mul_lt_mul_of_pos_right (by exact_mod_cast short) (two_zpow_pos _)
        _ = 2 ^ (exponent + (format.precision : Int)) := by
          have whole : (format.precision : Int) = 1 + (format.precision - 1 : Nat) := by omega
          push_cast
          rw [binadePower, whole, two_zpow_add, two_zpow_add, zpow_one]
          ring
    exact (zpow_lt_zpow_iff_right₀ (by norm_num)).mp bound
  have scaleBelow : scale ≤ exponent := max_le least (by omega)
  -- The scaled number is an integer, so rounding to the nearest one leaves it alone.
  obtain ⟨scaled, scaledEqual⟩ : ∃ scaled : Nat, x = scaled * (2 : Rat) ^ scale := by
    refine ⟨significand * 2 ^ (exponent - scale).toNat, ?_⟩
    have gap : ((exponent - scale).toNat : Int) = exponent - scale := by omega
    push_cast
    rw [equal, mul_assoc, ← zpow_natCast, gap, ← two_zpow_add, sub_add_cancel]
  have quotient : x / (2 : Rat) ^ scale = ((scaled : Int) : Rat) := by
    rw [scaledEqual, mul_div_cancel_right₀ _ (two_zpow_pos scale).ne']
    norm_cast
  have rank : format.nearestRank x =
      scaled + (scale - format.leastExponent).toNat * format.binade := by
    simp only [nearestRank, zero, if_false]
    change (roundEven (x / (2 : Rat) ^ scale)).toNat + _ = _
    rw [quotient, roundEven_intCast]
    rfl
  have scaledShort : scaled < 2 * format.binade := by
    have bound : (scaled : Rat) * 2 ^ scale < (2 * format.binade : Nat) * 2 ^ scale := by
      calc (scaled : Rat) * 2 ^ scale = x := scaledEqual.symm
        _ < 2 ^ (floorLog2 x + 1) := high
        _ ≤ 2 ^ (1 + (format.precision - 1 : Nat) + scale) :=
          zpow_le_zpow_right₀ (by norm_num) (by omega)
        _ = (2 * format.binade : Nat) * 2 ^ scale := by
          push_cast
          rw [binadePower, two_zpow_add, two_zpow_add, zpow_one]
    exact_mod_cast lt_of_mul_lt_mul_right bound (two_zpow_pos scale).le
  have normal : (scale - format.leastExponent).toNat = 0 ∨ format.binade ≤ scaled := by
    by_cases lowest : scale = format.leastExponent
    · exact .inl (by omega)
    · right
      have exact : scale = floorLog2 x - (format.precision - 1 : Nat) := by
        change max _ _ = _
        exact max_eq_right (by
          by_contra above
          exact lowest (max_eq_left (by omega)))
      have bound : (format.binade : Rat) * 2 ^ scale ≤ scaled * 2 ^ scale := by
        rw [← scaledEqual, binadePower, ← two_zpow_add]
        calc (2 : Rat) ^ (((format.precision - 1 : Nat) : Int) + scale)
            = 2 ^ floorLog2 x := by congr 1; omega
          _ ≤ x := low
      exact_mod_cast le_of_mul_le_mul_right bound (two_zpow_pos scale)
  rw [rank, format.magnitude_stack _ _ scaledShort normal, scaledEqual]
  congr 2
  omega

theorem nearestRank_lt {x : Rat} (positivePrecision : 0 < format.precision)
    (held : format.Holds x) : format.nearestRank x < format.infinityRank := by
  apply format.magnitude_strictMono.lt_iff_lt.mp
  rw [format.magnitude_nearestRank positivePrecision held.short]
  exact held.finite

end Format

namespace Binary

variable {format : Format}

theorem signless_eq_abs (x : Rat) : (if x < 0 then -x else x) = |x| := by
  split
  case isTrue negative => exact (abs_of_neg negative).symm
  case isFalse nonneg => exact (abs_of_nonneg (le_of_not_gt nonneg)).symm

theorem toRat?_round (zeroSign : Bool) {x : Rat} (positivePrecision : 0 < format.precision)
    (held : format.Holds |x|) : (round zeroSign x : Binary format).toRat? = some x := by
  have finite := format.nearestRank_lt positivePrecision held
  unfold round
  dsimp only
  rw [signless_eq_abs, dif_pos finite]
  simp only [toRat?, format.magnitude_nearestRank positivePrecision held.short, Option.some.injEq]
  by_cases zero : x = 0
  · simp [zero]
  · rw [if_neg zero]
    split
    case isTrue negative => rw [abs_of_neg (by simpa using negative), neg_neg]
    case isFalse nonneg => rw [abs_of_nonneg (by simpa using nonneg)]

-- The sign of a zero is that of both summands together, so a sum that starts out without a sign
-- never takes one.
theorem round_false_add {y : Binary format} {a b : Rat} (positivePrecision : 0 < format.precision)
    (nonneg : 0 ≤ a) (held : format.Holds a) (right : y.toRat? = some b) :
    round false a + y = round false (a + b) := by
  have finite := format.nearestRank_lt positivePrecision held
  have left : (round false a : Binary format) = .finite false ⟨format.nearestRank a, finite⟩ := by
    unfold round
    dsimp only
    rw [if_neg (not_lt.mpr nonneg)]
    simp [finite, nonneg]
  cases y with
  | nan => simp [toRat?] at right
  | infinity negative => simp [toRat?] at right
  | finite negative rank =>
    simp only [toRat?, Option.some.injEq] at right
    rw [left, ← right]
    change add _ _ = _
    simp [add, format.magnitude_nearestRank positivePrecision held.short]

end Binary

end WeatherRelay
