import WeatherRelay.Proofs.Decimal.Shortest

/-! Decimals that are read in double precision on their way to single precision.

That is a second rounding. It could only go wrong for a decimal next to a midpoint of two numbers in
single precision, and as long as neither has many digits they are the same or far apart.
-/

set_option autoImplicit false

namespace WeatherRelay

theorem natCast_eq_of_near {a b : Nat} (few : a < 2 ^ 53 ∨ b + 1 < 2 ^ 53)
    (near : |(a : Rat) - b| ≤ a / 2 ^ 53) : a = b := by
  obtain ⟨low, high⟩ := abs_le.mp near
  have small : (a : Rat) / 2 ^ 53 < 1 := by
    rcases few with left | right
    · rw [div_lt_one (by norm_num)]
      exact_mod_cast left
    · have bound : (b : Rat) + 1 < 2 ^ 53 := by exact_mod_cast right
      linarith
  have above : (a : Rat) < b + 1 := by linarith
  have below : (b : Rat) < a + 1 := by linarith
  exact le_antisymm (Nat.le_of_lt_succ (by exact_mod_cast above))
    (Nat.le_of_lt_succ (by exact_mod_cast below))

theorem two_zpow_eq_mul_min (left right : Int) :
    (2 : Rat) ^ left = 2 ^ (left - right).toNat * 2 ^ min left right := by
  rw [← zpow_natCast, ← two_zpow_add]
  congr 1
  omega

/-- A decimal and a binary number with few digits are the same if they are close together. -/
theorem decimal_eq_binary_of_near {digits significand : Nat} {power exponent : Int}
    (left : digits * 5 ^ power.toNat < 2 ^ 53) (right : significand * 5 ^ (-power).toNat + 1 < 2 ^ 53)
    (near : |digits * (10 : Rat) ^ power - significand * 2 ^ exponent| ≤
      digits * (10 : Rat) ^ power / 2 ^ 53) :
    digits * (10 : Rat) ^ power = significand * 2 ^ exponent := by
  -- Both are whole multiples of one unit, with the lower of the two powers of two.
  obtain ⟨unit, same⟩ : ∃ unit : Rat, 2 ^ min power exponent / 5 ^ (-power).toNat = unit := ⟨_, rfl⟩
  have positive : 0 < unit := same ▸ div_pos (two_zpow_pos _) (by positivity)
  have decimal : digits * (10 : Rat) ^ power =
      (digits * 5 ^ power.toNat * 2 ^ (power - exponent).toNat : Nat) * unit := by
    have five : (5 : Rat) ^ power = 5 ^ power.toNat / 5 ^ (-power).toNat := by
      rw [← zpow_natCast, ← zpow_natCast, ← zpow_sub₀ (by norm_num)]
      congr 1
      omega
    have ten : (10 : Rat) = 5 * 2 := by norm_num
    rw [ten, mul_zpow, five, two_zpow_eq_mul_min power exponent, ← same]
    push_cast
    ring
  have binary : significand * (2 : Rat) ^ exponent =
      (significand * 5 ^ (-power).toNat * 2 ^ (exponent - power).toNat : Nat) * unit := by
    rw [two_zpow_eq_mul_min exponent power, min_comm, ← same]
    push_cast
    field_simp
  rw [decimal, binary] at near ⊢
  rw [← sub_mul, abs_mul, abs_of_pos positive, mul_div_right_comm] at near
  congr 2
  refine natCast_eq_of_near ?_ (le_of_mul_le_mul_right near positive)
  rcases le_total power exponent with coarse | fine
  · left
    rwa [Int.toNat_eq_zero.mpr (by omega : power - exponent ≤ 0), pow_zero, mul_one]
  · right
    rwa [Int.toNat_eq_zero.mpr (by omega : exponent - power ≤ 0), pow_zero, mul_one]

namespace Format

theorem single_midpoint (rank : Nat) : ∃ (significand : Nat) (exponent : Int),
    significand < 2 ^ 25 ∧ -150 ≤ exponent ∧
      single.midpoint rank = significand * (2 : Rat) ^ exponent := by
  obtain ⟨significand, exponent, short, least, here, next⟩ := single.magnitude_succ rank
  have wide : 2 * single.binade = 2 ^ 24 := by decide
  have lowest : (-149 : Int) ≤ exponent := least
  refine ⟨2 * significand + 1, exponent - 1, by omega, by omega, ?_⟩
  rw [midpoint, here, next, sub_eq_add_neg, two_zpow_add, zpow_neg_one]
  push_cast
  ring

theorem double_holds_midpoint {rank : Nat} (finite : rank < single.infinityRank) :
    double.Holds (single.midpoint rank) where
  short := by
    obtain ⟨significand, exponent, short, least, value⟩ := single_midpoint rank
    have wide : 2 * double.binade = 2 ^ 53 := by decide
    have lowest : double.leastExponent = -1074 := rfl
    exact ⟨significand, exponent, by omega, by omega, value⟩
  finite := by
    have here := single.magnitude_strictMono finite
    have next : single.magnitude (rank + 1) ≤ _ := single.magnitude_strictMono.monotone finite
    rw [single_magnitude_infinityRank] at here next
    rw [double_magnitude_infinityRank]
    calc single.midpoint rank ≤ 2 ^ 128 := by
          unfold midpoint
          linarith
      _ < 2 ^ 1024 := pow_lt_pow_right₀ (by norm_num) (by norm_num)

/-- What is not tiny is rounded to double precision with all of its 53 bits. -/
theorem double_near {x : Rat} (normal : 2 ^ (-1022 : Int) ≤ x) :
    |double.magnitude (double.nearestRank x) - x| ≤ x / 2 ^ 53 := by
  have positive := lt_of_lt_of_le (two_zpow_pos _) normal
  obtain ⟨low, high⟩ := floorLog2_spec positive
  have large : -1022 < floorLog2 x + 1 :=
    (zpow_lt_zpow_iff_right₀ (by norm_num)).mp (lt_of_le_of_lt normal high)
  have scale : double.scale x = floorLog2 x - 52 := max_eq_right (by
    change (-1074 : Int) ≤ floorLog2 x - 52
    omega)
  have near := double.magnitude_nearestRank_near positive
  rw [scale, zpow_sub₀ (by norm_num)] at near
  calc |double.magnitude (double.nearestRank x) - x| ≤ 2 ^ floorLog2 x / 2 ^ (52 : Int) / 2 := near
    _ = 2 ^ floorLog2 x / 2 ^ 53 := by
      rw [div_div]
      norm_num
    _ ≤ x / 2 ^ 53 := div_le_div_of_nonneg_right low (by positivity)

theorem double_finite_of_single {x : Rat} (nonneg : 0 ≤ x)
    (finite : single.nearestRank x < single.infinityRank) :
    double.nearestRank x < double.infinityRank := by
  have held := double_holds_midpoint finite
  have under := le_midpoint_of_nearestRank_le (by decide) (le_refl (single.nearestRank x))
  exact double.magnitude_strictMono.lt_iff_lt.mp
    (lt_of_le_of_lt (double.magnitude_nearestRank_le (by decide) nonneg under held) held.finite)

/-- Reading a decimal through double precision gives the number that is nearest to the decimal
itself, if it has few digits and no more than twelve of them behind the point. -/
theorem nearestRank_through_double {digits : Nat} {power : Int} (something : 0 < digits)
    (short : digits * 5 ^ power.toNat < 2 ^ 53) (deep : -12 ≤ power)
    (finite : single.nearestRank (digits * (10 : Rat) ^ power) < single.infinityRank) :
    single.nearestRank (double.magnitude (double.nearestRank (digits * (10 : Rat) ^ power))) =
      single.nearestRank (digits * (10 : Rat) ^ power) := by
  have normal : 2 ^ (-1022 : Int) ≤ digits * (10 : Rat) ^ power := by
    have one : (1 : Rat) ≤ digits := by exact_mod_cast something
    calc (2 : Rat) ^ (-1022 : Int) ≤ 2 ^ (-40 : Int) :=
          zpow_le_zpow_right₀ (by norm_num) (by norm_num)
      _ ≤ 10 ^ (-12 : Int) := by norm_num
      _ ≤ 10 ^ power := zpow_le_zpow_right₀ (by norm_num) deep
      _ ≤ digits * 10 ^ power := le_mul_of_one_le_left (ten_zpow_pos _).le one
  refine nearestRank_twice (by decide) (by decide) (le_trans (two_zpow_pos _).le normal)
    (fun rank atMost => double_holds_midpoint (lt_of_le_of_lt atMost finite)) fun rank reached => ?_
  have near := double_near normal
  obtain ⟨significand, exponent, few, -, value⟩ := single_midpoint rank
  rw [reached, value, abs_sub_comm] at near
  rw [value]
  refine decimal_eq_binary_of_near short ?_ near
  calc significand * 5 ^ (-power).toNat + 1 ≤ 2 ^ 25 * 5 ^ 12 + 1 :=
        Nat.succ_le_succ (Nat.mul_le_mul few.le (Nat.pow_le_pow_right (by decide) (by omega)))
    _ < 2 ^ 53 := by decide

end Format

/-- The shortest decimal of a number of moderate size has few digits and reads back through double
precision. -/
theorem Decimal.shortest_through_double {rank : Nat} (finite : rank < Format.single.infinityRank)
    (least : 1 / 10 ^ 4 ≤ Format.single.magnitude rank)
    (most : Format.single.magnitude rank < 10 ^ 17) :
    0 < (shortest .single rank).1 ∧
      (shortest .single rank).1 * 5 ^ ((shortest .single rank).2 + 1).toNat < 2 ^ 53 ∧
      (shortest .single rank).1 * (10 : Rat) ^ (shortest .single rank).2 ≤ 10 ^ 17 ∧
      -12 ≤ (shortest .single rank).2 ∧
      Format.single.nearestRank (Format.double.magnitude (Format.double.nearestRank
        ((shortest .single rank).1 * (10 : Rat) ^ (shortest .single rank).2))) = rank := by
  have positive : 0 < rank := by
    apply Format.single.magnitude_strictMono.lt_iff_lt.mp
    rw [Format.magnitude_zero]
    exact lt_of_lt_of_le (by norm_num) least
  obtain ⟨count, digits, power, few, reached, missed, short, nearest, trimmed⟩ :=
    shortest_spec positive finite
  have top : power + count < 17 :=
    (zpow_lt_zpow_iff_right₀ (by norm_num : (1 : Rat) < 10)).mp (lt_of_le_of_lt reached most)
  have bottom : -4 < power + count + 1 := by
    refine (zpow_lt_zpow_iff_right₀ (by norm_num : (1 : Rat) < 10)).mp (lt_of_le_of_lt ?_ missed)
    norm_num at least ⊢
    exact least
  have something : 0 < digits := by
    rcases Nat.eq_zero_or_pos digits with rfl | something
    · rw [Nat.cast_zero, zero_mul] at nearest
      exact absurd nearest positive.ne
    · exact something
  have fits : digits * 5 ^ (power + 1).toNat < 2 ^ 53 := by
    have each : ∀ count < 9, 10 ^ (count + 1) * 5 ^ (17 - count) < 2 ^ 53 := by decide
    exact lt_of_le_of_lt
      (Nat.mul_le_mul short (Nat.pow_le_pow_right (by decide) (by omega))) (each count few)
  have fewer : digits * 5 ^ power.toNat ≤ digits * 5 ^ (power + 1).toNat :=
    Nat.mul_le_mul_left _ (Nat.pow_le_pow_right (by decide) (by omega))
  have small : digits * (10 : Rat) ^ power ≤ 10 ^ 17 := by
    have bound : (digits : Rat) ≤ 10 ^ ((count + 1 : Nat) : Int) := by exact_mod_cast short
    calc digits * (10 : Rat) ^ power ≤ 10 ^ ((count + 1 : Nat) : Int) * 10 ^ power :=
          mul_le_mul_of_nonneg_right bound (ten_zpow_pos _).le
      _ = 10 ^ (((count + 1 : Nat) : Int) + power) := (ten_zpow_add _ _).symm
      _ ≤ 10 ^ (17 : Int) := zpow_le_zpow_right₀ (by norm_num) (by omega)
  have through := Format.nearestRank_through_double something (lt_of_le_of_lt fewer fits) (by omega)
    (by rwa [nearest])
  obtain ⟨value, low⟩ := trimZeros_spec 10 digits power
  have scaled := trimZeros_scaled_le 10 digits power
  have kept : 0 < (trimZeros 10 digits power).1 := by
    refine Nat.pos_of_ne_zero fun nothing => ?_
    rw [nothing, Nat.cast_zero, zero_mul] at value
    exact positive.ne (by rw [← nearest, ← value]; rfl)
  rw [trimmed, value]
  exact ⟨kept, lt_of_le_of_lt scaled fits, small, by omega, through.trans nearest⟩

end WeatherRelay
