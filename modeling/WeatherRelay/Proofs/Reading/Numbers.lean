import WeatherRelay.Proofs.Json.Number
import WeatherRelay.Proofs.Reading.RoundTrip

/-! Numbers of moderate size read back from their numerals.

Their digits and the power of ten are held in double precision, so a numeral is rounded once there
and once more on the way to single precision. The powers that tiny and huge numbers are spelled with
are rounded themselves, and nothing is said about those.
-/

set_option autoImplicit false

namespace WeatherRelay

namespace Json.Numeral

theorem decimal_pointed (negative : Bool) {whole places fraction : Nat} (positive : 0 < places)
    (fits : fraction < 10 ^ places) :
    ((pointed whole places fraction).number negative).decimal =
      ⟨negative, whole * 10 ^ places + fraction, -places⟩ := by
  simp only [number, Number.decimal, pointed, Decimal.ofParts, Option.getD_some, Option.map_none,
    Option.getD_none, Decimal.digitsValue_append, Decimal.digitsValue_padded,
    Decimal.length_padded positive fits, zero_sub]

theorem decimal_positional (negative : Bool) (digits : Nat) (power : Int) :
    ((positional digits power).number negative).decimal =
      if 0 ≤ power then ⟨negative, digits * 10 ^ (power + 1).toNat, -1⟩
      else ⟨negative, digits, power⟩ := by
  unfold positional
  split_ifs with whole
  · have places : (power + 1).toNat = power.toNat + 1 := by omega
    refine (decimal_pointed negative (by decide) (by decide)).trans ?_
    simp [places, pow_succ, Nat.mul_assoc]
  · have places : ((-power).toNat : Int) = -power := by omega
    have fraction : digits % 10 ^ (-power).toNat < 10 ^ (-power).toNat :=
      Nat.mod_lt _ (Nat.pow_pos (by decide))
    have parts := Nat.div_add_mod' digits (10 ^ (-power).toNat)
    refine (decimal_pointed negative (by omega) fraction).trans ?_
    rw [places, neg_neg]
    exact congrArg (Decimal.mk negative · power) parts

theorem decimal_scientific (negative : Bool) (digits : Nat) (power : Int) :
    ((scientific digits power).number negative).decimal = ⟨negative, digits, power⟩ := by
  have fraction : (scientific digits power).fraction.getD [] =
      (Decimal.padded 0 digits).drop 1 := by
    unfold scientific
    dsimp only
    split
    case isTrue nothing => rw [nothing, Option.getD_none]
    case isFalse => rfl
  have exponent (n : Int) : powerValue (decide (n < 0), Decimal.padded 0 n.natAbs) = n := by
    unfold powerValue
    rw [Decimal.digitsValue_padded]
    by_cases below : n < 0
    · rw [decide_eq_true below, if_pos rfl]
      omega
    · rw [decide_eq_false below, if_neg Bool.false_ne_true]
      omega
  unfold number Number.decimal
  rw [fraction]
  simp only [Decimal.ofParts, scientific, List.take_append_drop, Decimal.digitsValue_padded,
    Option.map_some, Option.getD_some, exponent, List.length_drop, add_sub_cancel_right]

/-- The numeral of a number spells its shortest decimal, or that with a zero behind the point. -/
theorem decimal_ofRank (format : Format) (negative : Bool) {rank : Nat} (positive : 0 < rank) :
    let shortest := Decimal.shortest format rank
    ((ofRank format rank).number negative).decimal = ⟨negative, shortest.1, shortest.2⟩ ∨
      0 ≤ shortest.2 ∧ ((ofRank format rank).number negative).decimal =
        ⟨negative, shortest.1 * 10 ^ (shortest.2 + 1).toNat, -1⟩ := by
  unfold ofRank
  rw [if_neg positive.ne']
  generalize Decimal.shortest format rank = shortest
  obtain ⟨digits, power⟩ := shortest
  dsimp only
  split
  case isFalse => exact .inl (decimal_scientific negative digits power)
  case isTrue =>
    rw [decimal_positional]
    split
    case isFalse => exact .inl rfl
    case isTrue whole => exact .inr ⟨whole, rfl⟩

/-- A number of moderate size has a short numeral. -/
theorem short_ofRank (negative : Bool) {rank : Nat} (finite : rank < Format.single.infinityRank)
    (least : 1 / 10 ^ 4 ≤ Format.single.magnitude rank)
    (most : Format.single.magnitude rank < 10 ^ 17) (positive : 0 < rank) :
    ((ofRank .single rank).number negative).Short ∧
      ((ofRank .single rank).number negative).decimal.digits *
          (10 : Rat) ^ ((ofRank .single rank).number negative).decimal.exponent =
        (Decimal.shortest .single rank).1 * (10 : Rat) ^ (Decimal.shortest .single rank).2 := by
  obtain ⟨something, few, small, deep, -⟩ := Decimal.shortest_through_double finite least most
  have fractional := isIntegral_ofRank .single negative rank
  have high := five_power_le something few
  have spelled := decimal_ofRank .single negative positive
  generalize Decimal.shortest .single rank = shortest at *
  obtain ⟨digits, power⟩ := shortest
  dsimp only at something few small deep high spelled ⊢
  rcases spelled with spelled | ⟨whole, spelled⟩
  · have short : digits < 2 ^ 53 := lt_of_le_of_lt
      (Nat.le_mul_of_pos_right digits (Nat.pow_pos (by decide))) few
    refine ⟨⟨fractional, ?_, ?_, ?_, ?_⟩, ?_⟩ <;> rw [spelled]
    · exact lt_trans short (by decide)
    · exact Format.double_holds short
    · exact le_trans (by decide) deep
    · dsimp only
      omega
  · have tenth : ((digits * 10 ^ (power + 1).toNat : Nat) : Rat) =
        digits * (10 : Rat) ^ power * 10 := by
      have same : power + 1 = ((power + 1).toNat : Int) := by omega
      rw [Nat.cast_mul, Nat.cast_pow, Nat.cast_ofNat, ← zpow_natCast, ← same, ten_zpow_add,
        zpow_one, mul_assoc]
    refine ⟨⟨fractional, ?_, ?_, ?_, ?_⟩, ?_⟩ <;> rw [spelled]
    · have bound : ((digits * 10 ^ (power + 1).toNat : Nat) : Rat) ≤ (10 ^ 18 : Nat) := by
        rw [tenth]
        push_cast
        linarith
      exact lt_of_le_of_lt (Nat.cast_le.mp bound) (by decide)
    · exact Format.double_holds_tens few high
    · exact (by decide : (-22 : Int) ≤ -1)
    · exact (by decide : (-1 : Int) ≤ 22)
    · dsimp only
      rw [tenth, zpow_neg_one, mul_inv_cancel_right₀ (by norm_num)]

end Json.Numeral

namespace Binary

/-- Zero, or a number that is at least 1e-4 and below 1e17 in size. -/
def Moderate (x : Binary32) : Prop :=
  ∃ v, x.toRat? = some v ∧ (v = 0 ∨ 1 / 10 ^ 4 ≤ |v| ∧ |v| < 10 ^ 17)

theorem readsBack_zero (negative : Bool) (finite : 0 < Format.single.infinityRank) :
    ReadsBack (.finite negative ⟨0, finite⟩) := by
  revert negative finite
  decide +kernel

theorem readsBack_of_moderate {x : Binary32} (moderate : x.Moderate) : x.ReadsBack := by
  obtain ⟨v, value, size⟩ := moderate
  obtain ⟨negative, ⟨rank, finite⟩, rfl, rfl⟩ := exists_finite_of_toRat? value
  rw [abs_signed] at size
  rcases Nat.eq_zero_or_pos rank with rfl | positive
  · exact readsBack_zero negative finite
  have magnitude : Format.single.magnitude rank ≠ 0 := by
    rw [← Format.single.magnitude_zero]
    exact (Format.single.magnitude_strictMono positive).ne'
  obtain ⟨least, most⟩ := size.resolve_left (by cases negative <;> simpa using magnitude)
  obtain ⟨-, -, -, -, through⟩ := Decimal.shortest_through_double finite least most
  have nearest := Decimal.nearestRank_shortest positive finite
  obtain ⟨short, same⟩ := Json.Numeral.short_ofRank negative finite least most positive
  rw [← same] at nearest through
  unfold ReadsBack
  rw [Json.read?_of_readsWithin (Json.readsWithin_numberText _), Option.bind_some, Json.numberTree]
  exact short.toBinary32?_eq finite nearest through

theorem isFinite_of_moderate {x : Binary32} (moderate : x.Moderate) : x.isFinite = true := by
  obtain ⟨v, value, -⟩ := moderate
  obtain ⟨negative, rank, rfl, -⟩ := exists_finite_of_toRat? value
  rfl

end Binary

/-- Weather is measured in numbers of moderate size, and such a reading survives in any case. -/
theorem Ingest.parse?_toJson_of_moderate {reading : Reading}
    (moderate : ∀ x ∈ reading.numbers, x.Moderate) :
    parse? (Text.Utf8.encode reading.toJson) = some reading.withDerivedMetrics :=
  parse?_toJson_of_finite (fun x member _ => Binary.readsBack_of_moderate (moderate x member))
    fun x member => Binary.isFinite_of_moderate (moderate x member)

end WeatherRelay
