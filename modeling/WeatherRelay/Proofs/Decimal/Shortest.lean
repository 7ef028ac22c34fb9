import WeatherRelay.Decimal.Shortest
import WeatherRelay.Proofs.Binary.Nearest

/-! The shortest decimal of a number in single precision reads back as that number.

Nine digits are enough: a decimal of nine digits next to a number is off by less than a number has
room for.
-/

set_option autoImplicit false

namespace WeatherRelay

theorem ten_zpow_pos (exponent : Int) : (0 : Rat) < 10 ^ exponent := zpow_pos (by norm_num) exponent

theorem ten_zpow_add (left right : Int) : (10 : Rat) ^ (left + right) = 10 ^ left * 10 ^ right :=
  zpow_add₀ (by norm_num) left right

/-- The guess at a decimal logarithm that comes from a binary one. -/
def guessLog10 (log2 : Int) : Int := (log2 * 30103).fdiv 100000

-- No number in single precision is guessed wrong by more than one.
theorem guessLog10_near : ∀ n < 277,
    (10 : Rat) ^ (guessLog10 ((n : Nat) - 149) - 1) ≤ 2 ^ ((n : Int) - 149) ∧
      (2 : Rat) ^ ((n : Int) - 149 + 1) ≤ 10 ^ (guessLog10 (n - 149) + 2) := by
  decide +kernel

theorem floorLog10_spec {x : Rat} (low : 2 ^ (-149 : Int) ≤ x) (high : x < 2 ^ (128 : Int)) :
    (10 : Rat) ^ floorLog10 x ≤ x ∧ x < (10 : Rat) ^ (floorLog10 x + 1) := by
  obtain ⟨below, above⟩ := floorLog2_spec (lt_of_lt_of_le (two_zpow_pos _) low)
  have least : -149 < floorLog2 x + 1 :=
    (zpow_lt_zpow_iff_right₀ (by norm_num)).mp (lt_of_le_of_lt low above)
  have most : floorLog2 x < 128 :=
    (zpow_lt_zpow_iff_right₀ (by norm_num)).mp (lt_of_le_of_lt below high)
  obtain ⟨n, position⟩ : ∃ n : Nat, floorLog2 x = n - 149 :=
    ⟨(floorLog2 x + 149).toNat, by omega⟩
  obtain ⟨notBelow, notAbove⟩ := guessLog10_near n (by omega)
  rw [← position] at notBelow notAbove
  unfold floorLog10
  change _ ^ (if (10 : Rat) ^ (guessLog10 (floorLog2 x) + 1) ≤ x then _ else _) ≤ _ ∧
    _ < _ ^ ((if (10 : Rat) ^ (guessLog10 (floorLog2 x) + 1) ≤ x then _ else _) + 1)
  split_ifs with more less
  · exact ⟨more, by rw [add_assoc]; exact lt_of_lt_of_le above notAbove⟩
  · exact ⟨le_trans notBelow below, by rw [sub_add_cancel]; exact less⟩
  · exact ⟨le_of_not_gt less, lt_of_not_ge more⟩

namespace Decimal

section OnGrid

variable {format : Format} {rank digits : Nat} {x : Rat} {power : Int}

theorem floor_scaled_nonneg (positive : 0 < x) (power : Int) : 0 ≤ (x / (10 : Rat) ^ power).floor :=
  Rat.le_floor_iff.mpr (by exact_mod_cast (div_pos positive (ten_zpow_pos power)).le)

theorem onGrid_sound (bound : Nat) (positive : 0 < x) (below : x < bound * (10 : Rat) ^ power)
    (found : onGrid format rank x power = some digits) :
    format.nearestRank (digits * (10 : Rat) ^ power) = rank ∧ digits ≤ bound := by
  have nonneg := floor_scaled_nonneg positive power
  have scaled : (x / (10 : Rat) ^ power).floor < (bound : Int) :=
    Rat.floor_lt_iff.mpr (by exact_mod_cast (div_lt_iff₀ (ten_zpow_pos power)).mpr below)
  unfold onGrid at found
  dsimp only at found
  split_ifs at found <;> cases found <;> rename_i accepted
  all_goals
    refine ⟨?_, by omega⟩
    simpa only [readsAs, decide_eq_true_eq] using accepted

/-- A grid is fine enough if whatever is off by half its step at most reads back. -/
theorem exists_onGrid (positive : 0 < x) (fine : ∀ digits : Nat,
    |digits * (10 : Rat) ^ power - x| ≤ 10 ^ power / 2 →
      format.nearestRank (digits * (10 : Rat) ^ power) = rank) :
    ∃ digits, onGrid format rank x power = some digits := by
  have unit := ten_zpow_pos power
  have nonneg := floor_scaled_nonneg positive power
  obtain ⟨scaled, whole⟩ : ∃ scaled, x / (10 : Rat) ^ power = scaled := ⟨_, rfl⟩
  rw [whole] at nonneg
  obtain ⟨lower, floor⟩ := Int.eq_ofNat_of_zero_le nonneg
  have low : (lower : Rat) ≤ scaled := by
    have := Rat.floor_le scaled
    rwa [floor] at this
  have high : scaled < lower + 1 := by
    have := Rat.lt_floor_add_one scaled
    rw [floor] at this
    exact_mod_cast this
  have near (digits : Nat) (close : |(digits : Rat) - scaled| ≤ 1 / 2) :
      readsAs format rank (digits * (10 : Rat) ^ power) = true := by
    rw [readsAs, decide_eq_true_eq]
    apply fine
    have apart : digits * (10 : Rat) ^ power - x = (digits - scaled) * 10 ^ power := by
      rw [← whole, sub_mul, div_mul_cancel₀ _ unit.ne']
    rw [apart, abs_mul, abs_of_pos unit]
    linarith [mul_le_mul_of_nonneg_right close unit.le]
  have cut : scaled.floor.toNat = lower := by rw [floor, Int.toNat_natCast]
  unfold onGrid
  rw [whole]
  dsimp only
  rw [cut]
  by_cases down : scaled - lower ≤ 1 / 2
  · have accepted := near lower (by rw [abs_le]; constructor <;> linarith)
    rw [if_pos down, if_pos accepted]
    exact ⟨_, rfl⟩
  · have accepted := near (lower + 1) (by
      push_cast
      rw [abs_le]
      constructor <;> linarith)
    rw [if_neg down, if_pos accepted]
    exact ⟨_, rfl⟩

end OnGrid

theorem trimZeros_spec (fuel digits : Nat) (power : Int) :
    (trimZeros fuel digits power).1 * (10 : Rat) ^ (trimZeros fuel digits power).2 =
        digits * (10 : Rat) ^ power ∧
      power ≤ (trimZeros fuel digits power).2 := by
  induction fuel generalizing digits power with
  | zero => exact ⟨rfl, le_rfl⟩
  | succ fuel ih =>
    unfold trimZeros
    split
    case isTrue zero =>
      obtain ⟨value, least⟩ := ih (digits / 10) (power + 1)
      rw [Bool.and_eq_true, decide_eq_true_eq] at zero
      have shifted : (digits : Rat) = (digits / 10 : Nat) * 10 := by
        exact_mod_cast (Nat.div_mul_cancel (Nat.dvd_of_mod_eq_zero zero.1)).symm
      refine ⟨?_, by omega⟩
      rw [value, ten_zpow_add, zpow_one, shifted]
      ring
    case isFalse => exact ⟨rfl, le_rfl⟩

/-- Dropping zeros leaves no more odd factors to a decimal. -/
theorem trimZeros_scaled_le (fuel digits : Nat) (power : Int) :
    (trimZeros fuel digits power).1 * 5 ^ ((trimZeros fuel digits power).2 + 1).toNat ≤
      digits * 5 ^ (power + 1).toNat := by
  induction fuel generalizing digits power with
  | zero => exact le_rfl
  | succ fuel ih =>
    unfold trimZeros
    split
    case isTrue =>
      have scale : 5 ^ (power + 1 + 1).toNat ≤ 5 * 5 ^ (power + 1).toNat := by
        rw [← pow_succ']
        exact Nat.pow_le_pow_right (by decide) (by omega)
      calc _ ≤ digits / 10 * 5 ^ (power + 1 + 1).toNat := ih (digits / 10) (power + 1)
        _ ≤ digits / 10 * 5 * 5 ^ (power + 1).toNat := by
          rw [Nat.mul_assoc]
          exact Nat.mul_le_mul_left _ scale
        _ ≤ digits * 5 ^ (power + 1).toNat := Nat.mul_le_mul_right _ (by omega)
    case isFalse => exact le_rfl

theorem single_magnitude_one : Format.single.magnitude 1 = 2 ^ (-149 : Int) := by
  decide +kernel

/-- With nine digits a decimal is near enough to a number in single precision. -/
theorem exists_onGrid_nine {rank : Nat} (power : Int) (positive : 0 < rank)
    (leading : (10 : Rat) ^ (power + 8) ≤ Format.single.magnitude rank) :
    ∃ digits, onGrid .single rank (Format.single.magnitude rank) power = some digits := by
  have unit := ten_zpow_pos power
  rw [ten_zpow_add] at leading
  refine exists_onGrid (by linarith) fun digits near =>
    Format.nearestRank_eq_of_near (by decide) positive ?_
  have bits : Format.single.precision + 1 = 25 := rfl
  rw [bits]
  norm_num at leading ⊢
  linarith

/-- Nine digits are as many as a number in single precision ever takes. -/
theorem shortest_spec {rank : Nat} (positive : 0 < rank)
    (finite : rank < Format.single.infinityRank) :
    ∃ (count digits : Nat) (power : Int), count < 9 ∧
      (10 : Rat) ^ (power + count) ≤ Format.single.magnitude rank ∧
      Format.single.magnitude rank < (10 : Rat) ^ (power + count + 1) ∧
      digits ≤ 10 ^ (count + 1) ∧ Format.single.nearestRank (digits * (10 : Rat) ^ power) = rank ∧
      shortest .single rank = trimZeros 10 digits power := by
  have low : 2 ^ (-149 : Int) ≤ Format.single.magnitude rank :=
    single_magnitude_one ▸ Format.single.magnitude_strictMono.monotone positive
  have high : Format.single.magnitude rank < 2 ^ (128 : Int) :=
    Format.single_magnitude_lt ⟨rank, finite⟩
  obtain ⟨reached, missed⟩ := floorLog10_spec low high
  have enough : Format.single.precision * 30103 / 100000 + 2 = 9 := by decide
  obtain ⟨last, finest⟩ := exists_onGrid_nine (floorLog10 (Format.single.magnitude rank) - 8)
    positive (by rwa [sub_add_cancel])
  unfold shortest
  dsimp only
  rw [enough]
  generalize Format.single.magnitude rank = x at *
  cases searched : (List.range 9).findSome? fun (count : Nat) =>
      (onGrid .single rank x (floorLog10 x - count)).map fun digits =>
        (digits, floorLog10 x - (count : Int)) with
  | none =>
    have nothing := List.findSome?_eq_none_iff.mp searched 8 (by decide)
    rw [Nat.cast_ofNat, finest] at nothing
    cases nothing
  | some found =>
    obtain ⟨count, listed, here⟩ := List.exists_of_findSome?_eq_some searched
    obtain ⟨digits, onGrid, rfl⟩ := Option.map_eq_some_iff.mp here
    have leading : floorLog10 x - count + count = floorLog10 x := sub_add_cancel _ _
    obtain ⟨nearest, short⟩ := onGrid_sound (10 ^ (count + 1))
      (lt_of_lt_of_le (two_zpow_pos _) low) (by
        rw [Nat.cast_pow, ← zpow_natCast, Nat.cast_ofNat, ← ten_zpow_add, Nat.cast_succ,
          add_right_comm, add_comm (count : Int), leading]
        exact missed) onGrid
    refine ⟨count, digits, _, List.mem_range.mp listed, ?_, ?_, short, nearest, rfl⟩
    · rwa [leading]
    · rwa [leading]

/-- The shortest decimal of a number is nearest to that number. -/
theorem nearestRank_shortest {rank : Nat} (positive : 0 < rank)
    (finite : rank < Format.single.infinityRank) :
    Format.single.nearestRank
      ((shortest .single rank).1 * (10 : Rat) ^ (shortest .single rank).2) = rank := by
  obtain ⟨count, digits, power, -, -, -, -, nearest, trimmed⟩ := shortest_spec positive finite
  obtain ⟨value, -⟩ := trimZeros_spec 10 digits power
  rw [trimmed, value]
  exact nearest

end Decimal

end WeatherRelay
