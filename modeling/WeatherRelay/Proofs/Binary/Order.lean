import WeatherRelay.Binary.Integral
import WeatherRelay.Proofs.Binary.Exact

/-! Rounding keeps the order of numbers.

A number that is not above one of the format is not rounded to above it either. So bounds which the
format holds pass through every operation on non-negative numbers.
-/

set_option autoImplicit false

namespace WeatherRelay

theorem floor_le_roundEven (x : Rat) : x.floor ≤ roundEven x := by
  unfold roundEven
  dsimp only
  split_ifs <;> omega

theorem roundEven_le_floor_add_one (x : Rat) : roundEven x ≤ x.floor + 1 := by
  unfold roundEven
  dsimp only
  split_ifs <;> omega

theorem roundEven_mono {x y : Rat} (le : x ≤ y) : roundEven x ≤ roundEven y := by
  rcases lt_or_eq_of_le (Rat.floor_monotone le) with apart | together
  · have left := roundEven_le_floor_add_one x
    have right := floor_le_roundEven y
    omega
  · unfold roundEven
    dsimp only
    rw [together]
    have rests : x - y.floor ≤ y - y.floor := sub_le_sub_right le _
    split_ifs <;> first | omega | linarith

theorem floorLog2_mono {x y : Rat} (positive : 0 < x) (le : x ≤ y) : floorLog2 x ≤ floorLog2 y := by
  have low := (floorLog2_spec positive).1
  have high := (floorLog2_spec (lt_of_lt_of_le positive le)).2
  have below : (2 : Rat) ^ floorLog2 x < 2 ^ (floorLog2 y + 1) := by linarith
  have := (zpow_lt_zpow_iff_right₀ (by norm_num)).mp below
  omega

namespace Format

variable (format : Format)

/-- The exponent of the unit to which a positive rational is rounded. -/
def scale (x : Rat) : Int := max format.leastExponent (floorLog2 x - (format.precision - 1 : Nat))

theorem nearestRank_of_pos {x : Rat} (positive : 0 < x) :
    (format.nearestRank x : Int) = roundEven (x / 2 ^ format.scale x) +
      (format.scale x - format.leastExponent) * format.binade := by
  have scaled : 0 ≤ roundEven (x / 2 ^ format.scale x) :=
    le_trans (Rat.le_floor_iff.mpr (by exact_mod_cast (div_pos positive (two_zpow_pos _)).le))
      (floor_le_roundEven _)
  have least : format.leastExponent ≤ format.scale x := le_max_left _ _
  simp only [nearestRank, positive.ne', if_false]
  change ((((roundEven (x / 2 ^ format.scale x)).toNat +
    (format.scale x - format.leastExponent).toNat * format.binade : Nat)) : Int) = _
  rw [Nat.cast_add, Nat.cast_mul, Int.toNat_of_nonneg scaled, Int.toNat_of_nonneg (by omega)]

theorem scale_mono {x y : Rat} (positive : 0 < x) (le : x ≤ y) : format.scale x ≤ format.scale y :=
  max_le_max le_rfl (sub_le_sub_right (floorLog2_mono positive le) _)

theorem binade_eq_zpow : (format.binade : Rat) = 2 ^ ((format.precision - 1 : Nat) : Int) := by
  simp [binade, twoTo]

theorem roundEven_scaled_le {x : Rat} (positive : 0 < x) :
    roundEven (x / 2 ^ format.scale x) ≤ 2 * format.binade := by
  have top : x / 2 ^ format.scale x ≤ ((2 * format.binade : Int) : Rat) := by
    rw [div_le_iff₀ (two_zpow_pos _)]
    calc x ≤ 2 ^ (floorLog2 x + 1) := (floorLog2_spec positive).2.le
      _ ≤ 2 ^ (1 + ((format.precision - 1 : Nat) : Int) + format.scale x) := by
        have := le_max_right format.leastExponent (floorLog2 x - (format.precision - 1 : Nat))
        exact zpow_le_zpow_right₀ (by norm_num) (by unfold scale; omega)
      _ = ((2 * format.binade : Int) : Rat) * 2 ^ format.scale x := by
        push_cast
        rw [format.binade_eq_zpow, two_zpow_add, two_zpow_add, zpow_one]
  simpa only [roundEven_intCast] using roundEven_mono top

theorem le_roundEven_scaled {x : Rat} (positive : 0 < x)
    (normal : format.leastExponent < format.scale x) :
    format.binade ≤ roundEven (x / 2 ^ format.scale x) := by
  have coarse : format.scale x = floorLog2 x - (format.precision - 1 : Nat) := by
    unfold scale at normal ⊢
    omega
  have bottom : ((format.binade : Int) : Rat) ≤ x / 2 ^ format.scale x := by
    rw [le_div_iff₀ (two_zpow_pos _)]
    calc ((format.binade : Int) : Rat) * 2 ^ format.scale x = 2 ^ floorLog2 x := by
          rw [Int.cast_natCast, format.binade_eq_zpow, ← two_zpow_add]
          congr 1
          omega
      _ ≤ x := (floorLog2_spec positive).1
  simpa only [roundEven_intCast] using roundEven_mono bottom

theorem nearestRank_mono {x y : Rat} (nonneg : 0 ≤ x) (le : x ≤ y) :
    format.nearestRank x ≤ format.nearestRank y := by
  rcases nonneg.eq_or_lt with rfl | positive
  · simp [nearestRank]
  have positiveY := lt_of_lt_of_le positive le
  have left := format.nearestRank_of_pos positive
  have right := format.nearestRank_of_pos positiveY
  rcases (format.scale_mono positive le).lt_or_eq with apart | together
  · -- The coarser unit leaves the finer one behind by at least a binade.
    have above := format.roundEven_scaled_le positive
    have below := format.le_roundEven_scaled positiveY
      (lt_of_le_of_lt (le_max_left _ _) apart)
    have step : (format.scale x + 1 - format.leastExponent) * format.binade ≤
        (format.scale y - format.leastExponent) * format.binade :=
      mul_le_mul_of_nonneg_right (by omega) (Int.natCast_nonneg _)
    have opened : (format.scale x + 1 - format.leastExponent) * (format.binade : Int) =
        (format.scale x - format.leastExponent) * format.binade + format.binade := by ring
    omega
  · rw [together] at left
    have rounded := roundEven_mono (div_le_div_of_nonneg_right le (two_zpow_pos (format.scale y)).le)
    omega

theorem magnitude_nonneg (rank : Nat) : 0 ≤ format.magnitude rank := by
  rw [← format.magnitude_zero]
  exact format.magnitude_strictMono.monotone (Nat.zero_le rank)

theorem magnitude_nearestRank_le {x bound : Rat} (positivePrecision : 0 < format.precision)
    (nonneg : 0 ≤ x) (le : x ≤ bound) (held : format.Holds bound) :
    format.magnitude (format.nearestRank x) ≤ bound := by
  have rank := format.nearestRank_mono nonneg le
  rw [← format.magnitude_strictMono.le_iff_le,
    format.magnitude_nearestRank positivePrecision held.short] at rank
  exact rank

/-- Integers that fit into a significand are held. -/
theorem double_holds {n : Nat} (small : n < 2 ^ 53) : double.Holds n where
  short := ⟨n, 0, by simpa [binade, double, twoTo] using small, by decide, by simp⟩
  finite := by
    have last : double.infinityRank = double.binade + 2046 * double.binade := by decide
    rw [last, magnitude_stack _ _ _ (by decide) (.inr le_rfl)]
    have bound : (n : Rat) < 2 ^ (53 : Int) := by exact_mod_cast small
    rw [binade_eq_zpow, ← two_zpow_add]
    exact lt_trans bound (zpow_lt_zpow_right₀ (by norm_num) (by decide))

/-- The whole part of a number of a format is one as well. -/
theorem holds_floor (format : Format) (least : format.leastExponent ≤ 0)
    (rank : Fin format.infinityRank) : format.Holds ((format.magnitude rank).floor : Rat) where
  short := by
    have nonneg := format.magnitude_nonneg rank
    have below : ((format.magnitude rank).floor : Rat) ≤ format.magnitude rank := Rat.floor_le _
    obtain ⟨whole, floored⟩ : ∃ whole : Nat, (format.magnitude rank).floor = whole :=
      Int.eq_ofNat_of_zero_le (Int.floor_nonneg.mpr nonneg)
    obtain ⟨significand, binades, stacked, short, normal⟩ := format.exists_stack rank
    rw [floored] at below ⊢
    rw [stacked, format.magnitude_stack _ _ short normal] at below floored
    -- With an exponent from zero on the number is whole, and else its whole part is below its
    -- significand.
    rcases le_or_gt 0 (format.leastExponent + binades) with integer | fraction
    · obtain ⟨k, exponent⟩ := Int.eq_ofNat_of_zero_le integer
      refine ⟨significand, format.leastExponent + binades, short, by omega, ?_⟩
      have same : ((significand : Rat) * 2 ^ (format.leastExponent + binades)) =
          ((significand * 2 ^ k : Nat) : Int) := by
        rw [exponent]
        push_cast
        rw [zpow_natCast]
      rw [same, Rat.floor_intCast] at floored
      rw [same, floored]
    · refine ⟨whole, 0, lt_of_le_of_lt ?_ short, least, by simp⟩
      have cut : (significand : Rat) * 2 ^ (format.leastExponent + binades) ≤ significand :=
        mul_le_of_le_one_right (Nat.cast_nonneg _)
          (zpow_le_one_of_nonpos₀ (by norm_num) fraction.le)
      exact_mod_cast below.trans cut
  finite := lt_of_le_of_lt (Rat.floor_le _) (format.magnitude_strictMono rank.isLt)

end Format

namespace Binary

variable {format : Format}

/-- A number without a sign, and not above a bound. -/
def UpTo (bound : Rat) (x : Binary format) : Prop :=
  ∃ rank, x = .finite false rank ∧ format.magnitude rank ≤ bound

theorem round_false_eq {x : Rat} (nonneg : 0 ≤ x)
    (finite : format.nearestRank x < format.infinityRank) :
    (round false x : Binary format) = .finite false ⟨format.nearestRank x, finite⟩ := by
  simp [round, finite, nonneg.not_gt]

theorem atMost_finite (left right : Bool) (m n : Fin format.infinityRank) :
    (finite left m).atMost (finite right n) = true ↔
      (if left then -(m.val : Int) else m.val) ≤ if right then -(n.val : Int) else n.val := by
  simp only [atMost, below, same, position?, Bool.or_eq_true, decide_eq_true_eq, beq_iff_eq]
  exact le_iff_lt_or_eq.symm

/-- Numbers are compared by what they stand for. -/
theorem atMost_iff_le {x y : Binary format} {a b : Rat} (left : x.toRat? = some a)
    (right : y.toRat? = some b) : x.atMost y = true ↔ a ≤ b := by
  cases x with
  | finite sign m =>
    cases y with
    | finite sign' n =>
      obtain rfl := Option.some.inj left
      obtain rfl := Option.some.inj right
      have zero (rank : Nat) : format.magnitude rank ≤ 0 ↔ rank = 0 := by
        rw [← format.magnitude_zero, format.magnitude_strictMono.le_iff_le, Nat.le_zero]
      have m_nonneg := format.magnitude_nonneg m
      have n_nonneg := format.magnitude_nonneg n
      rw [atMost_finite]
      cases sign with
      | false =>
        cases sign' with
        | false => simp [format.magnitude_strictMono.le_iff_le]
        | true =>
          -- Both are zero, or the order is the other way round.
          have low : format.magnitude m ≤ -format.magnitude n ↔
              format.magnitude m ≤ 0 ∧ format.magnitude n ≤ 0 := by
            constructor
            · intro order
              constructor <;> linarith
            · rintro ⟨left, right⟩
              linarith
          simp only [Bool.false_eq_true, if_false, if_true, low, zero]
          omega
      | true =>
        cases sign' with
        | false =>
          simp only [Bool.false_eq_true, if_false, if_true]
          constructor
          · intro
            linarith
          · intro
            omega
        | true => simp [format.magnitude_strictMono.le_iff_le]
    | nan | infinity => contradiction
  | nan | infinity => contradiction

theorem below_iff_lt {x y : Binary format} {a b : Rat} (left : x.toRat? = some a)
    (right : y.toRat? = some b) : x.below y = true ↔ a < b := by
  rw [← not_le, ← atMost_iff_le right left]
  cases x with
  | finite sign m =>
    cases y with
    | finite sign' n => simp only [atMost_finite, not_le, below, position?, decide_eq_true_eq]
    | nan | infinity => contradiction
  | nan | infinity => contradiction

theorem same_iff_eq {x y : Binary format} {a b : Rat} (left : x.toRat? = some a)
    (right : y.toRat? = some b) : x.same y = true ↔ a = b := by
  have order := atMost_iff_le left right
  have strict := below_iff_lt left right
  rw [atMost, Bool.or_eq_true, strict, le_iff_lt_or_eq] at order
  constructor
  · intro equal
    have back : y.same x = true := by
      unfold same at equal ⊢
      cases positionLeft : x.position? <;> cases positionRight : y.position? <;>
        simp_all
    have least := (atMost_iff_le right left).mp (by rw [atMost, back, Bool.or_true])
    exact (order.mp (.inr equal)).resolve_left (not_lt.mpr least)
  · intro equal
    exact (order.mpr (.inr equal)).resolve_left (not_lt.mpr equal.ge)

/-- A number is the same as zero if and only if it stands for it, with either sign. -/
theorem same_zero_iff_toRat? (positive : 0 < format.infinityRank) {x : Binary format} :
    x.same 0 = true ↔ x.toRat? = some 0 := by
  have zero : (0 : Binary format) = .finite false ⟨0, positive⟩ :=
    (round_false_eq le_rfl positive : round false 0 = _)
  have nonzero : format.infinityRank ≠ 0 := positive.ne'
  cases x with
  | nan => simp [same, position?, toRat?]
  | infinity negative => cases negative <;> simp [zero, same, position?, toRat?, nonzero]
  | finite negative rank =>
    have magnitude : format.magnitude rank = 0 ↔ rank.val = 0 := by
      rw [← format.magnitude_zero]
      exact format.magnitude_strictMono.injective.eq_iff
    cases negative <;> simp [zero, same, position?, toRat?, magnitude]

section Round

variable {x bound : Rat} (positivePrecision : 0 < format.precision)
include positivePrecision

theorem upTo_round (nonneg : 0 ≤ x) (le : x ≤ bound) (held : format.Holds bound) :
    UpTo bound (round false x : Binary format) := by
  have small := format.magnitude_nearestRank_le positivePrecision nonneg le held
  have finite : format.nearestRank x < format.infinityRank :=
    format.magnitude_strictMono.lt_iff_lt.mp (lt_of_le_of_lt small held.finite)
  exact ⟨_, round_false_eq nonneg finite, small⟩

theorem round_of_holds (nonneg : 0 ≤ x) (held : format.Holds x) :
    ∃ rank, (round false x : Binary format) = .finite false rank ∧ format.magnitude rank = x :=
  ⟨_, round_false_eq nonneg (format.nearestRank_lt positivePrecision held),
    format.magnitude_nearestRank positivePrecision held.short⟩

theorem round_false_mul {y : Rat} (nonneg : 0 ≤ x) (held : format.Holds x) (nonneg' : 0 ≤ y)
    (held' : format.Holds y) : (round false x * round false y : Binary format) = round false (x * y) := by
  obtain ⟨m, left, rfl⟩ := round_of_holds positivePrecision nonneg held
  obtain ⟨n, right, rfl⟩ := round_of_holds positivePrecision nonneg' held'
  rw [left, right]
  rfl

theorem round_false_div {y : Rat} (nonneg : 0 ≤ x) (held : format.Holds x) (positive : 0 < y)
    (held' : format.Holds y) : (round false x / round false y : Binary format) = round false (x / y) := by
  obtain ⟨m, left, rfl⟩ := round_of_holds positivePrecision nonneg held
  obtain ⟨n, right, rfl⟩ := round_of_holds positivePrecision positive.le held'
  have divisor : n.val ≠ 0 := fun zero => by
    rw [zero, format.magnitude_zero] at positive
    exact lt_irrefl 0 positive
  rw [left, right]
  exact if_neg divisor

theorem upTo_abs_of_atMost {y : Binary format} (nonneg : 0 ≤ bound) (held : format.Holds bound)
    (atMost : y.abs.atMost (round false bound) = true) : UpTo bound y.abs := by
  obtain ⟨top, rounded, magnitude⟩ := round_of_holds positivePrecision nonneg held
  rw [rounded] at atMost
  cases y with
  | nan => simp [abs, Binary.atMost, below, same, position?] at atMost
  | infinity negative =>
    have := top.isLt
    simp [abs, Binary.atMost, below, same, position?] at atMost
    omega
  | finite negative rank =>
    have le : rank.val ≤ top.val := by
      simp [abs, Binary.atMost, below, same, position?] at atMost
      omega
    exact ⟨rank, rfl, magnitude ▸ format.magnitude_strictMono.monotone le⟩

theorem UpTo.mul {a b : Rat} {y z : Binary format} (left : UpTo a y) (right : UpTo b z)
    (held : format.Holds (a * b)) : UpTo (a * b) (y * z) := by
  obtain ⟨m, rfl, leLeft⟩ := left
  obtain ⟨n, rfl, leRight⟩ := right
  have nonnegLeft := format.magnitude_nonneg m
  have nonnegRight := format.magnitude_nonneg n
  exact upTo_round positivePrecision (mul_nonneg nonnegLeft nonnegRight)
    (mul_le_mul leLeft leRight nonnegRight (nonnegLeft.trans leLeft)) held

end Round

theorem floor_finite (rank : Fin format.infinityRank) :
    floor (.finite false rank) = round false ((format.magnitude rank).floor : Rat) := rfl

theorem roundAway_finite (rank : Fin format.infinityRank) :
    roundAway (.finite false rank) =
      round false ((format.magnitude rank + 1 / 2).floor : Rat) := by
  have nonneg := format.magnitude_nonneg rank
  change round false ((if format.magnitude rank < 0 then _ else _ : Int) : Rat) = _
  simp only [if_neg nonneg.not_gt, Bool.false_eq_true, if_false]

theorem sub_finite (left right : Fin format.infinityRank) :
    (.finite false left - .finite false right : Binary format) =
      round false (format.magnitude left - format.magnitude right) := by
  change round false (format.magnitude left + -format.magnitude right) = _
  rw [← sub_eq_add_neg]

theorem toUInt32_le {x : Binary format} {bound : Nat} (upTo : UpTo bound x) :
    x.toUInt32 ≤ bound := by
  obtain ⟨rank, rfl, le⟩ := upTo
  have nonneg := format.magnitude_nonneg rank
  have whole : (format.magnitude rank).floor ≤ bound := by
    have := Rat.floor_monotone le
    rwa [← Int.cast_natCast, Rat.floor_intCast] at this
  have part : integerPart (format.magnitude rank) = (format.magnitude rank).floor :=
    if_neg nonneg.not_gt
  simp only [toUInt32, truncate, Bool.false_eq_true, if_false, part]
  omega

theorem UpTo.mul_ofNat {x : Binary64} {bound n : Nat} (upTo : UpTo bound x) (factor : n < 2 ^ 53)
    (small : bound * n < 2 ^ 53) :
    UpTo ((bound * n : Nat) : Rat) (x * (OfNat.ofNat n : Binary64)) := by
  have top : UpTo n (OfNat.ofNat n : Binary64) :=
    upTo_round (by decide) (Nat.cast_nonneg n) le_rfl (Format.double_holds factor)
  rw [Nat.cast_mul]
  exact upTo.mul (by decide) top (by exact_mod_cast Format.double_holds small)

theorem UpTo.roundAway {x : Binary64} {bound : Nat} (upTo : UpTo bound x) (small : bound < 2 ^ 53) :
    UpTo bound x.roundAway := by
  obtain ⟨rank, rfl, le⟩ := upTo
  have nonneg := Format.double.magnitude_nonneg rank
  have lower : 0 ≤ (Format.double.magnitude rank + 1 / 2).floor :=
    Rat.le_floor_iff.mpr (by push_cast; linarith)
  have upper : (Format.double.magnitude rank + 1 / 2).floor ≤ bound := by
    have : (Format.double.magnitude rank + 1 / 2).floor < (bound : Int) + 1 :=
      Rat.floor_lt_iff.mpr (by push_cast; linarith)
    omega
  rw [roundAway_finite]
  exact upTo_round (by decide) (by exact_mod_cast lower) (by exact_mod_cast upper)
    (Format.double_holds small)

/-- What is left of a number above its integer part, which is exact. -/
theorem UpTo.floor {x : Binary64} {bound : Nat} (upTo : UpTo bound x) (small : bound < 2 ^ 53) :
    UpTo bound x.floor ∧ UpTo (1 : Nat) (x - x.floor) := by
  obtain ⟨rank, rfl, le⟩ := upTo
  have nonneg := Format.double.magnitude_nonneg rank
  obtain ⟨whole, floored⟩ : ∃ whole : Nat, (Format.double.magnitude rank).floor = whole :=
    Int.eq_ofNat_of_zero_le (Rat.le_floor_iff.mpr (by simpa using nonneg))
  have below : (whole : Rat) ≤ Format.double.magnitude rank := by
    have := Rat.floor_le (Format.double.magnitude rank)
    rw [floored] at this
    exact_mod_cast this
  have above : Format.double.magnitude rank < whole + 1 := by
    have := Rat.lt_floor_add_one (Format.double.magnitude rank)
    rw [floored] at this
    exact_mod_cast this
  have within : whole ≤ bound := by exact_mod_cast below.trans le
  obtain ⟨part, rounded, magnitude⟩ := round_of_holds (by decide) (Nat.cast_nonneg whole)
    (Format.double_holds (lt_of_le_of_lt within small))
  rw [floor_finite, floored, Int.cast_natCast, rounded, sub_finite, magnitude]
  refine ⟨⟨part, rfl, ?_⟩, upTo_round (by decide) (by linarith) (by push_cast; linarith)
    (Format.double_holds (by decide))⟩
  rw [magnitude]
  exact_mod_cast within

/-- Two numbers without signs, in their order. -/
def Ascending (x y : Binary format) : Prop :=
  ∃ m n, x = .finite false m ∧ y = .finite false n ∧ m ≤ n

theorem ascending_round {a b bound : Rat} (positivePrecision : 0 < format.precision)
    (nonneg : 0 ≤ a) (le : a ≤ b) (upper : b ≤ bound) (held : format.Holds bound) :
    Ascending (round false a : Binary format) (round false b) := by
  have rank := format.nearestRank_mono nonneg le
  have top := format.magnitude_nearestRank_le positivePrecision (nonneg.trans le) upper held
  have finite : format.nearestRank b < format.infinityRank :=
    format.magnitude_strictMono.lt_iff_lt.mp (lt_of_le_of_lt top held.finite)
  exact ⟨_, _, round_false_eq nonneg (lt_of_le_of_lt rank finite),
    round_false_eq (nonneg.trans le) finite, rank⟩

namespace Ascending

variable {x y : Binary64} {bound : Nat} (ascending : Ascending x y) (upTo : UpTo bound y)
include ascending

theorem toUInt32_le : x.toUInt32 ≤ y.toUInt32 := by
  obtain ⟨m, n, rfl, rfl, le⟩ := ascending
  have magnitude := Format.double.magnitude_strictMono.monotone (show m.val ≤ n.val from le)
  have whole := Rat.floor_monotone magnitude
  have part (rank : Nat) : integerPart (Format.double.magnitude rank) =
      (Format.double.magnitude rank).floor :=
    if_neg (Format.double.magnitude_nonneg rank).not_gt
  simp only [toUInt32, truncate, Bool.false_eq_true, if_false, part]
  omega

include upTo

theorem mul_ofNat {n : Nat} (factor : n < 2 ^ 53) (small : bound * n < 2 ^ 53) :
    Ascending (x * OfNat.ofNat n) (y * OfNat.ofNat n) := by
  obtain ⟨l, m, rfl, rfl, le⟩ := ascending
  obtain ⟨_, ⟨⟩, top⟩ := upTo
  obtain ⟨rank, number, magnitude⟩ := round_of_holds (by decide)
    (Nat.cast_nonneg n) (Format.double_holds factor)
  have ordered := Format.double.magnitude_strictMono.monotone (show l.val ≤ m.val from le)
  have literal : (OfNat.ofNat n : Binary64) = .finite false rank := number
  have held := Format.double_holds small
  rw [Nat.cast_mul] at held
  rw [literal]
  exact ascending_round (by decide)
    (mul_nonneg (Format.double.magnitude_nonneg l) (Format.double.magnitude_nonneg rank))
    (mul_le_mul_of_nonneg_right ordered (Format.double.magnitude_nonneg rank))
    (magnitude ▸ mul_le_mul_of_nonneg_right top (Format.double.magnitude_nonneg rank)) held

theorem roundAway (small : bound < 2 ^ 53) : Ascending x.roundAway y.roundAway := by
  obtain ⟨m, n, rfl, rfl, le⟩ := ascending
  obtain ⟨_, ⟨⟩, top⟩ := upTo
  have ordered := Format.double.magnitude_strictMono.monotone (show m.val ≤ n.val from le)
  have nonneg := Format.double.magnitude_nonneg m
  have lower : 0 ≤ (Format.double.magnitude m + 1 / 2).floor :=
    Rat.le_floor_iff.mpr (by push_cast; linarith)
  have upper : (Format.double.magnitude n + 1 / 2).floor < (bound : Int) + 1 :=
    Rat.floor_lt_iff.mpr (by push_cast; linarith)
  have whole := Rat.floor_monotone (add_le_add_left ordered (1 / 2))
  rw [roundAway_finite, roundAway_finite]
  exact ascending_round (by decide) (by exact_mod_cast lower) (by exact_mod_cast whole)
    (by exact_mod_cast Int.lt_add_one_iff.mp upper) (Format.double_holds small)

end Ascending

end Binary

end WeatherRelay
