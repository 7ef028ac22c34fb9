import WeatherRelay.Ingest
import WeatherRelay.Proofs.Binary.Order

/-! Derived metrics fill in what a station left unset, and nothing else.

A metric at zero, of either sign, is unset. What is computed for it may be zero again, and then it
is computed once more the next time; but from the same fields, which no filling changes. So a reading
is settled as soon as both metrics are set or as they are computed.
-/

set_option autoImplicit false

namespace WeatherRelay

/-- Zero of either sign: a number that is not finite counts as set. -/
def Unset (metric : Binary32) : Prop := metric.toRat? = some 0

instance (metric : Binary32) : Decidable (Unset metric) := inferInstanceAs (Decidable (_ = _))

/-- A metric with what is computed for it in its place, where it is unset. -/
def filled (given computed : Binary32) : Binary32 := if Unset given then computed else given

theorem same_zero_iff_unset {metric : Binary32} : metric.same 0 = true ↔ Unset metric :=
  Binary.same_zero_iff_toRat? (by decide)

section Filled

variable {given computed : Binary32}

theorem filled_eq_given_iff : filled given computed = given ↔ (Unset given → given = computed) := by
  unfold filled
  split
  case isTrue unset => exact ⟨fun same _ => same.symm, fun settled => (settled unset).symm⟩
  case isFalse set => exact ⟨fun _ unset => absurd unset set, fun _ => rfl⟩

/-- What was filled in is either set or computed again. -/
theorem eq_computed_of_unset_filled (unset : Unset (filled given computed)) :
    filled given computed = computed := by
  unfold filled at *
  split at unset
  case isTrue before => exact if_pos before
  case isFalse set => exact absurd unset set

end Filled

namespace Reading

/-- Every metric is set, or as it is computed from the other fields. -/
structure Settled (reading : Reading) : Prop where
  windChill : Unset reading.windChill →
    reading.windChill = Comfort.windChill reading.outTemp reading.windSpeed
  heatIndex : Unset reading.heatIndex →
    reading.heatIndex = Comfort.heatIndex reading.outTemp reading.outHumidity

variable (reading : Reading)

theorem fillWindChill_eq : reading.fillWindChill = { reading with
    windChill := filled reading.windChill
      (Comfort.windChill reading.outTemp reading.windSpeed) } := by
  unfold fillWindChill filled
  by_cases unset : Unset reading.windChill
  · rw [if_pos (same_zero_iff_unset.mpr unset), if_pos unset]
  · rw [if_neg (same_zero_iff_unset.not.mpr unset), if_neg unset]

theorem fillHeatIndex_eq : reading.fillHeatIndex = { reading with
    heatIndex := filled reading.heatIndex
      (Comfort.heatIndex reading.outTemp reading.outHumidity) } := by
  unfold fillHeatIndex filled
  by_cases unset : Unset reading.heatIndex
  · rw [if_pos (same_zero_iff_unset.mpr unset), if_pos unset]
  · rw [if_neg (same_zero_iff_unset.not.mpr unset), if_neg unset]

theorem withDerivedMetrics_eq : reading.withDerivedMetrics = { reading with
    windChill := filled reading.windChill (Comfort.windChill reading.outTemp reading.windSpeed)
    heatIndex := filled reading.heatIndex
      (Comfort.heatIndex reading.outTemp reading.outHumidity) } := by
  rw [withDerivedMetrics, fillHeatIndex_eq, fillWindChill_eq]

theorem withDerivedMetrics_eq_self_iff :
    reading.withDerivedMetrics = reading ↔ reading.Settled := by
  rw [withDerivedMetrics_eq]
  constructor
  · intro same
    exact ⟨filled_eq_given_iff.mp (congrArg windChill same),
      filled_eq_given_iff.mp (congrArg heatIndex same)⟩
  · rintro ⟨chill, heat⟩
    rw [filled_eq_given_iff.mpr chill, filled_eq_given_iff.mpr heat]

theorem settled_withDerivedMetrics : reading.withDerivedMetrics.Settled := by
  rw [withDerivedMetrics_eq]
  exact ⟨eq_computed_of_unset_filled, eq_computed_of_unset_filled⟩

theorem withDerivedMetrics_withDerivedMetrics :
    reading.withDerivedMetrics.withDerivedMetrics = reading.withDerivedMetrics :=
  (withDerivedMetrics_eq_self_iff _).mpr reading.settled_withDerivedMetrics

-- Neither of the two looks at what the other one fills in.
theorem fillWindChill_fillHeatIndex :
    reading.fillHeatIndex.fillWindChill = reading.withDerivedMetrics := by
  rw [fillWindChill_eq, fillHeatIndex_eq, withDerivedMetrics_eq]

/-- Deriving metrics once is enough, and leaves just the settled readings as they are. Only unset
metrics change, and what becomes of either is a matter of itself and of the fields that it is
computed from, so that it makes no difference which one comes first. Readings that come in are
settled. -/
theorem withDerivedMetrics_only_fills :
    reading.withDerivedMetrics.withDerivedMetrics = reading.withDerivedMetrics ∧
    (reading.withDerivedMetrics = reading ↔ reading.Settled) ∧
    (∃ windChill heatIndex, reading.withDerivedMetrics = { reading with windChill, heatIndex }) ∧
    (¬ Unset reading.windChill → reading.withDerivedMetrics.windChill = reading.windChill) ∧
    (¬ Unset reading.heatIndex → reading.withDerivedMetrics.heatIndex = reading.heatIndex) ∧
    (∀ other : Reading, other.windChill = reading.windChill → other.outTemp = reading.outTemp →
      other.windSpeed = reading.windSpeed →
      other.withDerivedMetrics.windChill = reading.withDerivedMetrics.windChill) ∧
    (∀ other : Reading, other.heatIndex = reading.heatIndex → other.outTemp = reading.outTemp →
      other.outHumidity = reading.outHumidity →
      other.withDerivedMetrics.heatIndex = reading.withDerivedMetrics.heatIndex) ∧
    reading.fillHeatIndex.fillWindChill = reading.withDerivedMetrics ∧
    ∀ datagram, Ingest.parse? datagram = some reading → reading.Settled := by
  refine ⟨reading.withDerivedMetrics_withDerivedMetrics, reading.withDerivedMetrics_eq_self_iff,
    ⟨_, _, reading.withDerivedMetrics_eq⟩, ?_, ?_, ?_, ?_, reading.fillWindChill_fillHeatIndex, ?_⟩
  · intro set
    rw [withDerivedMetrics_eq]
    exact if_neg set
  · intro set
    rw [withDerivedMetrics_eq]
    exact if_neg set
  · intro other metric temperature wind
    rw [withDerivedMetrics_eq, withDerivedMetrics_eq, metric, temperature, wind]
  · intro other metric temperature humidity
    rw [withDerivedMetrics_eq, withDerivedMetrics_eq, metric, temperature, humidity]
  · intro datagram came
    obtain ⟨raw, -, rfl⟩ := Option.map_eq_some_iff.mp came
    exact raw.settled_withDerivedMetrics

/-- A negative zero is unset, and what is no number is set. A cold day with some wind has a wind
chill, which is computed whatever the humidity is, and which is settled in a reading that comes in. -/
theorem withDerivedMetrics_of_zero_and_nan :
    let reading : Reading := {
      timestamp := .epoch, stationName := "backyard", outTemp := 30, windSpeed := 10
      windChill := -0, heatIndex := .nan }
    let damp : Reading := { reading with outHumidity := 90, heatIndex := 0 }
    let datagram := Text.Utf8.encode ("\x7b\"timestamp\":\"1970-01-01T00:00:00Z\"," ++
      "\"station_name\":\"backyard\",\"out_temp\":30,\"wind_speed\":10,\"wind_chill\":-0.0\x7d")
    Unset reading.windChill ∧ ¬ Unset reading.heatIndex ∧ ¬ reading.Settled ∧
      (21.2 : Binary32).below reading.withDerivedMetrics.windChill = true ∧
      reading.withDerivedMetrics.windChill.below 21.3 = true ∧
      reading.withDerivedMetrics.heatIndex = .nan ∧
      reading.withDerivedMetrics.withDerivedMetrics = reading.withDerivedMetrics ∧
      damp.withDerivedMetrics.windChill = reading.withDerivedMetrics.windChill ∧
      ∃ came, Ingest.parse? datagram = some came ∧ came.Settled := by
  intro reading damp datagram
  obtain ⟨twice, settled, -, -, keepsHeat, sameChill, -, -, -⟩ :=
    reading.withDerivedMetrics_only_fills
  have absent : Unset reading.windChill := by decide +kernel
  have given : ¬ Unset reading.heatIndex := by decide +kernel
  have warmer : (21.2 : Binary32).below reading.withDerivedMetrics.windChill = true := by
    decide +kernel
  have unsettled : ¬ reading.Settled := by
    intro same
    rw [settled.mpr same] at warmer
    exact absurd warmer (by decide +kernel)
  obtain ⟨came, read⟩ : ∃ came, Ingest.parse? datagram = some came :=
    Option.isSome_iff_exists.mp (by decide +kernel)
  obtain ⟨-, -, -, -, -, -, -, -, comesSettled⟩ := came.withDerivedMetrics_only_fills
  exact ⟨absent, given, unsettled, warmer, by decide +kernel, keepsHeat given, twice,
    sameChill damp rfl rfl rfl, came, read, comesSettled datagram read⟩

end Reading

end WeatherRelay
