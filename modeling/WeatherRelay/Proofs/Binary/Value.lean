import WeatherRelay.Proofs.Binary.Order

/-! What operations make of the values that numbers stand for.

A single number stands for the same value in double precision, and products with small integers are
exact there. Every other product is rounded, by no more than half the unit of its size and not
beyond a number that the format holds. The integer part is cut towards zero, so whole bounds hold
for it exactly where they hold for the value.
-/

set_option autoImplicit false

namespace WeatherRelay

theorem roundEven_near (x : Rat) : |(roundEven x : Rat) - x| ≤ 1 / 2 := by
  have low : (x.floor : Rat) ≤ x := Rat.floor_le x
  have high : x < x.floor + 1 := by exact_mod_cast Rat.lt_floor_add_one x
  unfold roundEven
  dsimp only
  split_ifs with small large
  · rw [abs_le]
    constructor <;> linarith
  · push_cast
    rw [abs_le]
    constructor <;> linarith
  · -- In the middle both neighbours are a half away.
    rcases Int.emod_two_eq x.floor with even | odd
    · rw [even, add_zero, abs_le]
      constructor <;> linarith
    · rw [odd]
      push_cast
      rw [abs_le]
      constructor <;> linarith

namespace Format

/-- What a positive rational is rounded to, in units of its size. -/
theorem magnitude_nearestRank_eq (format : Format) {x : Rat} (positive : 0 < x) :
    format.magnitude (format.nearestRank x) =
      roundEven (x / 2 ^ format.scale x) * 2 ^ format.scale x := by
  have least : format.leastExponent ≤ format.scale x := le_max_left _ _
  have rank := format.nearestRank_of_pos positive
  have atMost := format.roundEven_scaled_le positive
  obtain ⟨significand, rounded⟩ : ∃ significand : Nat,
      roundEven (x / 2 ^ format.scale x) = significand :=
    Int.eq_ofNat_of_zero_le (le_trans (Rat.le_floor_iff.mpr (by
      exact_mod_cast (div_pos positive (two_zpow_pos _)).le)) (floor_le_roundEven _))
  obtain ⟨binades, apart⟩ : ∃ binades : Nat, format.scale x - format.leastExponent = binades :=
    Int.eq_ofNat_of_zero_le (by omega)
  have normal : binades = 0 ∨ format.binade ≤ significand := by
    rcases least.eq_or_lt with lowest | above
    · exact .inl (by omega)
    · have := format.le_roundEven_scaled positive above
      exact .inr (by omega)
  have exponent : format.leastExponent + binades = format.scale x := by omega
  rw [rounded] at rank atMost ⊢
  rw [apart] at rank
  have stacked : format.nearestRank x = significand + binades * format.binade := by
    exact_mod_cast rank
  rcases Nat.lt_or_ge significand (2 * format.binade) with short | long
  · rw [stacked, format.magnitude_stack _ _ short normal, exponent]
    rfl
  · -- The significand is full: the number opens the next binade.
    have full : significand = 2 * format.binade := by omega
    have opened : significand + binades * format.binade =
        format.binade + (binades + 1) * format.binade := by
      rw [full, Nat.succ_mul binades]
      omega
    rw [stacked, opened, format.magnitude_stack _ _ (by have := format.binade_pos; omega)
      (.inr le_rfl), full, ← exponent]
    push_cast
    rw [← add_assoc, two_zpow_add _ 1, zpow_one]
    ring

theorem magnitude_nearestRank_near (format : Format) {x : Rat} (positive : 0 < x) :
    |format.magnitude (format.nearestRank x) - x| ≤ 2 ^ format.scale x / 2 := by
  have unit := two_zpow_pos (format.scale x)
  have near := roundEven_near (x / 2 ^ format.scale x)
  have scaled : format.magnitude (format.nearestRank x) - x =
      (roundEven (x / 2 ^ format.scale x) - x / 2 ^ format.scale x) * 2 ^ format.scale x := by
    rw [format.magnitude_nearestRank_eq positive, sub_mul, div_mul_cancel₀ _ unit.ne']
  rw [scaled, abs_mul, abs_of_pos unit]
  calc |(roundEven (x / 2 ^ format.scale x) : Rat) - x / 2 ^ format.scale x| *
        2 ^ format.scale x ≤ 1 / 2 * 2 ^ format.scale x :=
      mul_le_mul_of_nonneg_right near unit.le
    _ = 2 ^ format.scale x / 2 := by ring

theorem scale_le (format : Format) {x : Rat} {exponent : Int} (positive : 0 < x)
    (small : x < 2 ^ (exponent + format.precision))
    (least : format.leastExponent ≤ exponent) : format.scale x ≤ exponent := by
  have low := (floorLog2_spec positive).1
  have logarithm := (zpow_lt_zpow_iff_right₀ (by norm_num : (1 : Rat) < 2)).mp
    (lt_of_le_of_lt low small)
  exact max_le least (by omega)

theorem single_magnitude_infinityRank : single.magnitude single.infinityRank = 2 ^ 128 := by
  have last : single.infinityRank = single.binade + 254 * single.binade := by decide
  rw [last, magnitude_stack _ _ _ (by decide) (.inr le_rfl)]
  norm_num [binade, single, twoTo]

theorem double_magnitude_infinityRank : double.magnitude double.infinityRank = 2 ^ 1024 := by
  have last : double.infinityRank = double.binade + 2046 * double.binade := by decide
  rw [last, magnitude_stack _ _ _ (by decide) (.inr le_rfl), binade_eq_zpow, ← two_zpow_add,
    ← zpow_natCast]
  rfl

theorem single_magnitude_lt (rank : Fin single.infinityRank) :
    single.magnitude rank < 2 ^ 128 :=
  single_magnitude_infinityRank ▸ single.magnitude_strictMono rank.isLt

theorem single_holds {n : Nat} (small : n < 2 ^ 24) : single.Holds n where
  short := ⟨n, 0, by simpa [binade, single, twoTo] using small, by decide, by simp⟩
  finite := by
    rw [single_magnitude_infinityRank]
    have bound : (n : Rat) < 2 ^ 24 := by exact_mod_cast small
    exact lt_trans bound (by norm_num)

/-- Whole multiples of a negative power of two that fit into a significand are held. -/
theorem double_holds_div {n k : Nat} (small : n < 2 ^ 53) (deep : k ≤ 1074) :
    double.Holds ((n : Rat) / 2 ^ k) where
  short := by
    refine ⟨n, -(k : Int), by simpa [binade, double, twoTo] using small, ?_, ?_⟩
    · change (-1074 : Int) ≤ _
      omega
    · rw [zpow_neg, zpow_natCast, div_eq_mul_inv]
  finite := lt_of_le_of_lt
    (div_le_self (Nat.cast_nonneg n) (one_le_pow₀ (by norm_num))) (double_holds small).finite

/-- The significand of a single number leaves 29 bits of a double one for a factor. -/
theorem double_holds_multiple (rank : Fin single.infinityRank) {factor : Nat}
    (small : factor < 2 ^ 29) : double.Holds (single.magnitude rank * factor) where
  short := by
    obtain ⟨significand, binades, stacked, short, normal⟩ := single.exists_stack rank
    refine ⟨significand * factor, single.leastExponent + binades, ?_, ?_, ?_⟩
    · calc significand * factor < 2 * single.binade * 2 ^ 29 :=
            Nat.mul_lt_mul'' short small
        _ = 2 * double.binade := by decide
    · have lower : double.leastExponent ≤ single.leastExponent := by decide
      omega
    · rw [stacked, single.magnitude_stack _ _ short normal]
      push_cast
      ring
  finite := by
    have magnitude := single_magnitude_lt rank
    have bound : (factor : Rat) < 2 ^ 29 := by exact_mod_cast small
    rw [double_magnitude_infinityRank]
    calc single.magnitude rank * factor ≤ 2 ^ 128 * 2 ^ 29 :=
          mul_le_mul magnitude.le bound.le (Nat.cast_nonneg _) (by positivity)
      _ < 2 ^ 1024 := by
        rw [← pow_add]
        exact pow_lt_pow_right₀ (by norm_num) (by norm_num)

theorem le_magnitude_nearestRank (format : Format) {x bound : Rat}
    (positivePrecision : 0 < format.precision) (nonneg : 0 ≤ bound) (le : bound ≤ x)
    (held : format.Holds bound) : bound ≤ format.magnitude (format.nearestRank x) := by
  have rank := format.nearestRank_mono nonneg le
  rwa [← format.magnitude_strictMono.le_iff_le,
    format.magnitude_nearestRank positivePrecision held.short] at rank

end Format

namespace Binary

variable {format : Format}

theorem exists_finite_of_toRat? {x : Binary format} {v : Rat} (value : x.toRat? = some v) :
    ∃ negative rank, x = .finite negative rank ∧
      v = if negative then -format.magnitude rank else format.magnitude rank := by
  cases x with
  | finite negative rank => exact ⟨negative, rank, rfl, (Option.some.inj value).symm⟩
  | nan | infinity => contradiction

theorem abs_signed (negative : Bool) (rank : Nat) :
    |if negative then -format.magnitude rank else format.magnitude rank| =
      format.magnitude rank := by
  have nonneg := format.magnitude_nonneg rank
  cases negative with
  | false => exact abs_of_nonneg nonneg
  | true => exact (abs_neg _).trans (abs_of_nonneg nonneg)

/-- Numbers of a format have none between two neighbours. -/
theorem le_magnitude_of_lt_succ {x : Binary format} {v : Rat} {rank : Nat}
    (value : x.toRat? = some v) (below : v < format.magnitude (rank + 1)) :
    v ≤ format.magnitude rank := by
  obtain ⟨negative, other, rfl, rfl⟩ := exists_finite_of_toRat? value
  cases negative with
  | false =>
    have order := format.magnitude_strictMono.lt_iff_lt.mp below
    exact format.magnitude_strictMono.monotone (Nat.lt_succ_iff.mp order)
  | true => exact le_trans (neg_nonpos.mpr (format.magnitude_nonneg _)) (format.magnitude_nonneg _)

/-- A bound between two neighbours is passed where the greater one is reached. -/
theorem le_iff_succ_magnitude_le {x : Binary format} {v bound : Rat} {rank : Nat}
    (value : x.toRat? = some v) (above : format.magnitude rank < bound)
    (below : bound ≤ format.magnitude (rank + 1)) :
    bound ≤ v ↔ format.magnitude (rank + 1) ≤ v := by
  refine ⟨fun reached => ?_, fun reached => le_trans below reached⟩
  by_contra missed
  exact absurd (le_magnitude_of_lt_succ value (lt_of_not_ge missed)) (by linarith)

theorem toRat?_neg {x : Binary format} {v : Rat} (value : x.toRat? = some v) :
    x.neg.toRat? = some (-v) := by
  obtain ⟨negative, rank, rfl, rfl⟩ := exists_finite_of_toRat? value
  cases negative <;> simp [neg, toRat?]

theorem toRat?_convert {x : Binary32} {v : Rat} (value : x.toRat? = some v) :
    (x.convert : Binary64).toRat? = some v := by
  obtain ⟨negative, rank, rfl, rfl⟩ := exists_finite_of_toRat? value
  have held := Format.double_holds_multiple rank (by decide : 1 < 2 ^ 29)
  rw [Nat.cast_one, mul_one] at held
  exact toRat?_round negative (by decide) (by rwa [abs_signed])

/-- A product is the rounded product of the values. -/
theorem exists_mul_eq_round {x y : Binary format} {a b : Rat} (left : x.toRat? = some a)
    (right : y.toRat? = some b) : ∃ zeroSign, x * y = round zeroSign (a * b) := by
  obtain ⟨s, m, rfl, rfl⟩ := exists_finite_of_toRat? left
  obtain ⟨t, n, rfl, rfl⟩ := exists_finite_of_toRat? right
  refine ⟨s != t, ?_⟩
  change round (s != t) (if s != t then _ else _) = _
  cases s <;> cases t <;> simp

theorem infinity_mul {y : Binary format} {b : Rat} (value : y.toRat? = some b) (ne : b ≠ 0)
    (negative : Bool) : ∃ sign, infinity negative * y = infinity sign := by
  obtain ⟨sign, rank, rfl, rfl⟩ := exists_finite_of_toRat? value
  refine ⟨negative != sign, if_neg fun zero => ne ?_⟩
  rw [zero, format.magnitude_zero]
  split <;> simp

theorem toRat?_ofNat {n : Nat} (small : n < 2 ^ 53) :
    (OfNat.ofNat n : Binary64).toRat? = some n := by
  have held := Format.double_holds small
  rw [← abs_of_nonneg (Nat.cast_nonneg (α := Rat) n)] at held
  exact toRat?_round false (by decide) held

theorem toRat?_convert_mul {x : Binary32} {v : Rat} {n : Nat} (value : x.toRat? = some v)
    (small : n < 2 ^ 29) :
    ((x.convert : Binary64) * OfNat.ofNat n).toRat? = some (v * n) := by
  obtain ⟨zeroSign, product⟩ := exists_mul_eq_round (toRat?_convert value)
    (toRat?_ofNat (lt_trans small (by decide)))
  obtain ⟨negative, rank, rfl, rfl⟩ := exists_finite_of_toRat? value
  rw [product]
  apply toRat?_round zeroSign (by decide)
  rw [abs_mul, abs_signed, abs_of_nonneg (Nat.cast_nonneg n)]
  exact Format.double_holds_multiple rank small

theorem toRat?_round_eq {x v : Rat} {zeroSign : Bool}
    (value : (round zeroSign x : Binary format).toRat? = some v) :
    v = if x < 0 then -format.magnitude (format.nearestRank (-x))
      else format.magnitude (format.nearestRank x) := by
  have finite : ∀ {negative : Bool} {rank : Nat},
      (if fits : rank < format.infinityRank then .finite negative ⟨rank, fits⟩
        else .infinity negative : Binary format).toRat? = some v →
      v = if negative then -format.magnitude rank else format.magnitude rank := by
    intro negative rank value
    split at value
    · exact (Option.some.inj value).symm
    · contradiction
  rcases lt_trichotomy x 0 with negative | rfl | positive
  · simp only [round, negative, negative.ne, if_true, if_false, decide_true] at value ⊢
    simpa using finite value
  · have nothing : format.magnitude (format.nearestRank 0) = 0 := by
      simp [Format.nearestRank, format.magnitude_zero]
    simp only [round, lt_irrefl, if_true, if_false] at value ⊢
    simpa [nothing] using finite value
  · simp only [round, positive.not_gt, positive.ne', if_false, decide_false] at value ⊢
    simpa using finite value

section Round

variable {x bound v : Rat} {zeroSign : Bool} (positivePrecision : 0 < format.precision)
include positivePrecision

theorem exists_toRat?_round (small : |x| ≤ bound) (held : format.Holds bound) (zeroSign : Bool) :
    ∃ v, (round zeroSign x : Binary format).toRat? = some v := by
  have rank := format.magnitude_nearestRank_le positivePrecision (abs_nonneg x) small held
  have finite : format.nearestRank |x| < format.infinityRank :=
    format.magnitude_strictMono.lt_iff_lt.mp (lt_of_le_of_lt rank held.finite)
  unfold round
  dsimp only
  rw [signless_eq_abs, dif_pos finite]
  exact ⟨_, rfl⟩

/-- Rounding does not lead above a number that the format holds. -/
theorem round_le_of_le (value : (round zeroSign x : Binary format).toRat? = some v)
    (le : x ≤ bound) (held : format.Holds |bound|) : v ≤ bound := by
  rw [toRat?_round_eq value]
  rcases le_or_gt 0 bound with nonneg | negative
  · rw [abs_of_nonneg nonneg] at held
    split
    case isTrue => exact le_trans (neg_nonpos.mpr (format.magnitude_nonneg _)) nonneg
    case isFalse above =>
      exact format.magnitude_nearestRank_le positivePrecision (le_of_not_gt above) le held
  · rw [abs_of_neg negative] at held
    rw [if_pos (lt_of_le_of_lt le negative), neg_le]
    exact format.le_magnitude_nearestRank positivePrecision (by linarith) (by linarith) held

theorem le_round_of_le (value : (round zeroSign x : Binary format).toRat? = some v)
    (le : bound ≤ x) (held : format.Holds |bound|) : bound ≤ v := by
  rw [toRat?_round_eq value]
  rcases le_or_gt 0 bound with nonneg | negative
  · rw [abs_of_nonneg nonneg] at held
    rw [if_neg (not_lt.mpr (le_trans nonneg le))]
    exact format.le_magnitude_nearestRank positivePrecision nonneg le held
  · rw [abs_of_neg negative] at held
    split
    case isTrue below =>
      rw [le_neg]
      exact format.magnitude_nearestRank_le positivePrecision (by linarith) (by linarith) held
    case isFalse => exact le_trans negative.le (format.magnitude_nonneg _)

end Round

theorem round_neg (zeroSign : Bool) (x : Rat) :
    (round (!zeroSign) (-x) : Binary format) = (round zeroSign x).neg := by
  have signed : ∀ (negative : Bool) (rank : Nat),
      (if fits : rank < format.infinityRank then .finite (!negative) ⟨rank, fits⟩
        else .infinity (!negative) : Binary format) =
      neg (if fits : rank < format.infinityRank then .finite negative ⟨rank, fits⟩
        else .infinity negative) := by
    intro negative rank
    split <;> rfl
  rcases lt_trichotomy x 0 with negative | rfl | positive
  · have positive : ¬ -x < 0 := by linarith
    simpa [round, negative, negative.ne, positive] using
      signed true (format.nearestRank (-x))
  · simpa [round] using signed zeroSign (format.nearestRank 0)
  · simpa [round, positive, positive.ne', positive.not_gt] using
      signed false (format.nearestRank x)

theorem round_signed (negative : Bool) {v : Rat} (nonneg : 0 ≤ v)
    (finite : format.nearestRank v < format.infinityRank) :
    (round negative (if negative then -v else v) : Binary format) =
      .finite negative ⟨format.nearestRank v, finite⟩ := by
  cases negative with
  | false => exact round_false_eq nonneg finite
  | true =>
    refine (round_neg false v).trans ?_
    rw [round_false_eq nonneg finite]
    rfl

/-- A number below a power of two is rounded by no more than half the unit there. -/
theorem round_near {x v : Rat} {zeroSign : Bool} {exponent : Int}
    (value : (round zeroSign x : Binary format).toRat? = some v)
    (small : |x| < 2 ^ (exponent + format.precision))
    (least : format.leastExponent ≤ exponent) : |v - x| ≤ 2 ^ exponent / 2 := by
  have near : ∀ y : Rat, 0 < y → |y| < 2 ^ (exponent + format.precision) →
      |format.magnitude (format.nearestRank y) - y| ≤ 2 ^ exponent / 2 := by
    intro y positive below
    rw [abs_of_pos positive] at below
    have unit : (2 : Rat) ^ format.scale y ≤ 2 ^ exponent :=
      zpow_le_zpow_right₀ (by norm_num) (format.scale_le positive below least)
    linarith [format.magnitude_nearestRank_near positive]
  rw [toRat?_round_eq value]
  rcases lt_trichotomy x 0 with negative | rfl | positive
  · rw [if_pos negative, ← abs_neg, neg_sub, sub_neg_eq_add, add_comm, ← sub_neg_eq_add]
    exact near (-x) (by linarith) (by rwa [abs_neg])
  · have half : (0 : Rat) ≤ 2 ^ exponent / 2 := by linarith [two_zpow_pos exponent]
    simpa [Format.nearestRank, format.magnitude_zero] using half
  · rw [if_neg positive.not_gt]
    exact near x positive small

section IntegerPart

variable {v : Rat} {n : Nat} (positive : 0 < n)
include positive

theorem integerPart_lt_iff : integerPart v < n ↔ v < n := by
  have natural : (0 : Rat) < n := by exact_mod_cast positive
  unfold integerPart
  split
  case isTrue negative =>
    have floor : 0 ≤ (-v).floor := Rat.le_floor_iff.mpr (by push_cast; linarith)
    exact ⟨fun _ => lt_trans negative natural, fun _ => by omega⟩
  case isFalse => exact_mod_cast Rat.floor_lt_iff (a := v) (x := n)

theorem neg_lt_integerPart_iff : -(n : Int) < integerPart v ↔ -(n : Rat) < v := by
  have natural : (0 : Rat) < n := by exact_mod_cast positive
  unfold integerPart
  split
  case isTrue negative =>
    rw [neg_lt_neg_iff, neg_lt]
    exact_mod_cast Rat.floor_lt_iff (a := -v) (x := n)
  case isFalse nonneg =>
    have floor : 0 ≤ v.floor := Rat.le_floor_iff.mpr (by push_cast; linarith)
    exact ⟨fun _ => by linarith, fun _ => by omega⟩

end IntegerPart

theorem toInt64_of_toRat? {x : Binary format} {v : Rat} (value : x.toRat? = some v) :
    x.toInt64 = Max.max (-(2 ^ 63)) (Min.min (integerPart v) (2 ^ 63 - 1)) := by
  obtain ⟨negative, rank, rfl, rfl⟩ := exists_finite_of_toRat? value
  rfl

/-- A number between two bounds, or none at all. -/
def Within (least most : Rat) (x : Binary format) : Prop :=
  x = .nan ∨ ∃ v, x.toRat? = some v ∧ least < v ∧ v < most

theorem within_iff_any {least most : Rat} {x : Binary format} :
    x.Within least most ↔ x = .nan ∨ (x.toRat?.any fun v => least < v && v < most) = true := by
  unfold Within
  cases x.toRat? <;> simp

instance (least most : Rat) (x : Binary format) : Decidable (x.Within least most) :=
  decidable_of_iff _ within_iff_any.symm

theorem within_iff {least most v : Rat} {x : Binary format} (value : x.toRat? = some v) :
    x.Within least most ↔ least < v ∧ v < most := by
  unfold Within
  rw [value]
  constructor
  · rintro (rfl | ⟨_, same, between⟩)
    · contradiction
    · cases same
      exact between
  · exact fun between => .inr ⟨v, rfl, between⟩

theorem not_within_infinity {least most : Rat} (negative : Bool) :
    ¬ (infinity negative : Binary format).Within least most := by
  rintro (none | ⟨_, value, -⟩) <;> contradiction

/-- A product passes a whole bound exactly where its first factor passes from one number to the
next, if the products with both lie far enough on either side. -/
theorem round_mul_lt_iff {x : Binary32} {v w factor bound top : Rat} {zeroSign : Bool}
    {rank n : Nat} (value : x.toRat? = some v)
    (product : (round zeroSign (v * factor) : Binary64).toRat? = some w) (positive : 0 < factor)
    (above : Format.single.magnitude rank < bound)
    (below : bound ≤ Format.single.magnitude (rank + 1)) (whole : n < 2 ^ 53)
    (reaches : n ≤ Format.single.magnitude (rank + 1) * factor)
    (stays : Format.single.magnitude rank * factor ≤ top) (less : top < n)
    (held : Format.double.Holds |top|) : w < n ↔ v < bound := by
  constructor
  · intro small
    by_contra reached
    have next := (le_iff_succ_magnitude_le value above below).mp (le_of_not_gt reached)
    have grown : (n : Rat) ≤ v * factor :=
      le_trans reaches (mul_le_mul_of_nonneg_right next positive.le)
    have least := le_round_of_le (by decide) product grown (by
      rw [abs_of_nonneg (Nat.cast_nonneg n)]
      exact Format.double_holds whole)
    linarith
  · intro small
    have last := le_magnitude_of_lt_succ value (lt_of_lt_of_le small below)
    have grown : v * factor ≤ top := le_trans (mul_le_mul_of_nonneg_right last positive.le) stays
    exact lt_of_le_of_lt (round_le_of_le (by decide) product grown held) less

/-- Bounds on a product are bounds on its first factor if they are for all finite ones. -/
theorem within_convert_mul_iff {factor : Binary64} {b low high low' high' : Rat}
    (value : factor.toRat? = some b) (ne : b ≠ 0)
    (finite : ∀ (x : Binary32) (v : Rat), x.toRat? = some v →
      ((x.convert * factor).Within low' high' ↔ low < v ∧ v < high)) (x : Binary32) :
    (x.convert * factor).Within low' high' ↔ x.Within low high := by
  cases x with
  | nan => exact iff_of_true (.inl rfl) (.inl rfl)
  | infinity negative =>
    obtain ⟨sign, product⟩ := infinity_mul value ne negative
    refine iff_of_false ?_ (not_within_infinity negative)
    change ¬ (infinity negative * factor).Within low' high'
    rw [product]
    exact not_within_infinity sign
  | finite negative rank => rw [finite _ _ rfl, within_iff rfl]

end Binary

end WeatherRelay
