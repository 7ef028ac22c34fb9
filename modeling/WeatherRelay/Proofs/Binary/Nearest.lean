import WeatherRelay.Proofs.Binary.Value

/-! Which rationals are rounded to a number: those between the midpoints on its two sides.

Rounding to a finer format first makes no difference, unless a rational that is no midpoint is
rounded to one on the way.
-/

set_option autoImplicit false

namespace WeatherRelay

namespace Format

variable (format : Format)

/-- Half way from a number to the next one. -/
def midpoint (rank : Nat) : Rat := (format.magnitude rank + format.magnitude (rank + 1)) / 2

/-- No number is more steps away from zero than there are significands. -/
theorem magnitude_succ_le_steps (rank : Nat) : format.magnitude (rank + 1) ≤
    (format.magnitude (rank + 1) - format.magnitude rank) * (2 * format.binade) := by
  obtain ⟨significand, exponent, short, -, here, next⟩ := format.magnitude_succ rank
  have full : (significand + 1 : Rat) ≤ 2 * format.binade := by exact_mod_cast short
  rw [here, next]
  calc (significand + 1 : Rat) * 2 ^ exponent ≤ 2 * format.binade * 2 ^ exponent :=
        mul_le_mul_of_nonneg_right full (two_zpow_pos exponent).le
    _ = ((significand + 1) * 2 ^ exponent - significand * 2 ^ exponent) * (2 * format.binade) := by
      ring

variable {format} {x : Rat} {rank : Nat} (positivePrecision : 0 < format.precision)
include positivePrecision

theorem nearestRank_magnitude (rank : Nat) : format.nearestRank (format.magnitude rank) = rank := by
  obtain ⟨significand, exponent, short, least, value, -⟩ := format.magnitude_succ rank
  exact format.magnitude_strictMono.injective
    (format.magnitude_nearestRank positivePrecision ⟨significand, exponent, short, least, value⟩)

/-- Up to the next number, rounding is off by no more than half of the step to there. -/
theorem nearestRank_near_of_lt_succ (positive : 0 < x) (below : x < format.magnitude (rank + 1)) :
    |format.magnitude (format.nearestRank x) - x| ≤
      (format.magnitude (rank + 1) - format.magnitude rank) / 2 := by
  obtain ⟨significand, exponent, short, least, here, next⟩ := format.magnitude_succ rank
  have full : (significand + 1 : Rat) ≤ 2 ^ (format.precision : Int) := by
    have whole : (format.precision : Int) = 1 + (format.precision - 1 : Nat) := by omega
    rw [whole, two_zpow_add, zpow_one, ← binade_eq_zpow]
    exact_mod_cast short
  have small : x < 2 ^ (exponent + format.precision) := by
    calc x < (significand + 1) * 2 ^ exponent := next ▸ below
      _ ≤ 2 ^ (format.precision : Int) * 2 ^ exponent :=
        mul_le_mul_of_nonneg_right full (two_zpow_pos _).le
      _ = 2 ^ (exponent + format.precision) := by rw [two_zpow_add, mul_comm]
  have scale : (2 : Rat) ^ format.scale x ≤ 2 ^ exponent :=
    zpow_le_zpow_right₀ (by norm_num) (format.scale_le positive small least)
  have near := format.magnitude_nearestRank_near positive
  have step : format.magnitude (rank + 1) - format.magnitude rank = 2 ^ exponent := by
    rw [here, next]
    ring
  linarith

theorem midpoint_le_of_lt_nearestRank (nonneg : 0 ≤ x) (above : rank < format.nearestRank x) :
    format.midpoint rank ≤ x := by
  have reached : format.magnitude (rank + 1) ≤ format.magnitude (format.nearestRank x) :=
    format.magnitude_strictMono.monotone above
  have order := format.magnitude_strictMono (Nat.lt_succ_self rank)
  unfold midpoint
  by_contra below
  rcases le_or_gt x (format.magnitude rank) with low | high
  · have bound := format.nearestRank_mono nonneg low
    rw [nearestRank_magnitude positivePrecision] at bound
    exact absurd above (Nat.not_lt.mpr bound)
  · have within : x < format.magnitude (rank + 1) := by linarith
    have near := nearestRank_near_of_lt_succ positivePrecision
      (lt_of_le_of_lt (format.magnitude_nonneg rank) high) within
    have := le_of_abs_le near
    linarith

theorem le_midpoint_of_nearestRank_le (below : format.nearestRank x ≤ rank) :
    x ≤ format.midpoint rank := by
  have missed : format.magnitude (format.nearestRank x) ≤ format.magnitude rank :=
    format.magnitude_strictMono.monotone below
  have nonneg := format.magnitude_nonneg rank
  have order := format.magnitude_strictMono (Nat.lt_succ_self rank)
  unfold midpoint
  by_contra above
  rcases le_or_gt (format.magnitude (rank + 1)) x with high | low
  · have bound := format.nearestRank_mono (format.magnitude_nonneg _) high
    rw [nearestRank_magnitude positivePrecision] at bound
    exact absurd below (Nat.not_le.mpr bound)
  · have near := nearestRank_near_of_lt_succ positivePrecision (by linarith) low
    have := neg_le_of_abs_le near
    linarith

/-- A rational that is off by less than half a unit in the last place is rounded to the number. The
unit may be half as large below the number as it is above, so that is one bit more. -/
theorem nearestRank_eq_of_near (positive : 0 < rank)
    (near : |x - format.magnitude rank| * 2 ^ (format.precision + 1) < format.magnitude rank) :
    format.nearestRank x = rank := by
  obtain ⟨before, rfl⟩ := Nat.exists_eq_succ_of_ne_zero positive.ne'
  have power : (2 : Rat) ^ (format.precision + 1) = 4 * format.binade := by
    have whole : format.precision + 1 = format.precision - 1 + 2 := by omega
    rw [format.binade_eq_zpow, zpow_natCast, whole, pow_add]
    ring
  have wide : (0 : Rat) < 2 * format.binade := by
    have := format.binade_pos
    positivity
  rw [power] at near
  have closer {step : Rat} (most : format.magnitude (before + 1) ≤ step * (2 * format.binade)) :
      |x - format.magnitude (before + 1)| * 2 < step :=
    lt_of_mul_lt_mul_right (by linarith) wide.le
  have order := format.magnitude_strictMono (Nat.lt_succ_self before)
  have next := format.magnitude_strictMono (Nat.lt_succ_self (before + 1))
  have left := closer (format.magnitude_succ_le_steps before)
  have right := closer (next.le.trans (format.magnitude_succ_le_steps (before + 1)))
  obtain ⟨low, high⟩ := abs_le.mp (le_refl |x - format.magnitude (before + 1)|)
  apply le_antisymm
  · by_contra above
    have nonneg := format.magnitude_nonneg before
    have passed := midpoint_le_of_lt_nearestRank positivePrecision (by linarith)
      (Nat.lt_of_not_le above)
    unfold midpoint at passed
    linarith
  · by_contra below
    have missed := le_midpoint_of_nearestRank_le positivePrecision
      (Nat.le_of_lt_succ (Nat.lt_of_not_le below))
    unfold midpoint at missed
    linarith

/-- Rounding to a fine format first makes no difference if it holds the midpoints of the coarse one
and nothing but a midpoint itself is rounded to it. -/
theorem nearestRank_twice {fine : Format} (finePrecision : 0 < fine.precision) (nonneg : 0 ≤ x)
    (held : ∀ rank ≤ format.nearestRank x, fine.Holds (format.midpoint rank))
    (apart : ∀ rank, fine.magnitude (fine.nearestRank x) = format.midpoint rank →
      x = format.midpoint rank) :
    format.nearestRank (fine.magnitude (fine.nearestRank x)) = format.nearestRank x := by
  have midpoint_nonneg (rank : Nat) : 0 ≤ format.midpoint rank := by
    have here := format.magnitude_nonneg rank
    have next := format.magnitude_nonneg (rank + 1)
    unfold midpoint
    linarith
  -- Where the two ranks differ, the midpoint above the lower one is between both rationals, so that
  -- it is what the first one is rounded to.
  rcases lt_trichotomy (format.nearestRank (fine.magnitude (fine.nearestRank x)))
    (format.nearestRank x) with lower | same | higher
  · have below := le_midpoint_of_nearestRank_le positivePrecision
      (le_refl (format.nearestRank (fine.magnitude (fine.nearestRank x))))
    have above := midpoint_le_of_lt_nearestRank positivePrecision nonneg lower
    have kept := fine.le_magnitude_nearestRank finePrecision (midpoint_nonneg _) above
      (held _ lower.le)
    have equal := le_antisymm below kept
    rw [equal, ← apart _ equal]
  · exact same
  · have below := le_midpoint_of_nearestRank_le positivePrecision (le_refl (format.nearestRank x))
    have above := midpoint_le_of_lt_nearestRank positivePrecision (fine.magnitude_nonneg _) higher
    have kept := fine.magnitude_nearestRank_le finePrecision nonneg below (held _ le_rfl)
    have equal := le_antisymm kept above
    rw [equal, ← apart _ equal]

end Format

namespace Binary

variable {format : Format}

theorem round_finite (positivePrecision : 0 < format.precision) (negative : Bool)
    (rank : Fin format.infinityRank) :
    (round negative (if negative then -format.magnitude rank else format.magnitude rank)) =
      finite negative rank := by
  have nearest := Format.nearestRank_magnitude positivePrecision rank.val
  refine (round_signed negative (format.magnitude_nonneg _) (nearest.symm ▸ rank.isLt)).trans ?_
  simp only [nearest]

theorem round_eq_of_ne {x : Rat} (ne : x ≠ 0) (left right : Bool) :
    (round left x : Binary format) = round right x := by
  unfold round
  rw [if_neg ne, if_neg ne]

/-- A zero added to a number leaves it, but for a positive zero and a negative one. -/
theorem finite_zero_add (positivePrecision : 0 < format.precision)
    (positive : 0 < format.infinityRank) (negative : Bool) {x : Binary format}
    (kept : negative = true ∨ x ≠ .finite true ⟨0, positive⟩) :
    .finite negative ⟨0, positive⟩ + x = x := by
  have nothing : (if negative then -format.magnitude 0 else format.magnitude 0) = 0 := by
    simp [format.magnitude_zero]
  cases x with
  | nan | infinity => rfl
  | finite sign rank =>
    change round (negative && sign) ((if negative then -format.magnitude 0 else format.magnitude 0) +
      if sign then -format.magnitude rank else format.magnitude rank) = _
    rw [nothing, zero_add]
    refine Eq.trans ?_ (round_finite positivePrecision sign rank)
    by_cases zero : rank.val = 0
    · have same : (negative && sign) = sign := by
        rcases kept with rfl | other
        · exact Bool.true_and sign
        · cases sign with
          | false => exact Bool.and_false negative
          | true => exact absurd (congrArg (finite true) (Fin.ext zero)) other
      rw [same]
    · have ne : format.magnitude rank ≠ 0 := by
        rw [← format.magnitude_zero]
        exact format.magnitude_strictMono.injective.ne zero
      exact round_eq_of_ne (by cases sign <;> simpa using ne) _ _

end Binary

end WeatherRelay
