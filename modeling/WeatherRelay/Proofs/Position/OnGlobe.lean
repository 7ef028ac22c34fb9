import WeatherRelay.Proofs.Position.Degrees
import WeatherRelay.Proofs.Station.NormalForm
import WeatherRelay.Proofs.WeatherLine.Layout
import WeatherRelay.Relay

/-! Positions of accepted stations.

A station is refused where both coordinates are missing, and its coordinates are not looked at any
further. What is written of them has its form exactly as long as they are on the globe, up to the
rounding of their minutes, or are so large that they come out as zero.
-/

set_option autoImplicit false

namespace WeatherRelay

open Position (latitudeText longitudeText degreesAndMinutes written)
open WeatherLine (Angle angleOf)

/-- What a text says in the form `DDMM.mmH`, with `width` digits of degrees. -/
structure Shows (width : Nat) (below above : Char) (text : String) (angle : Angle) : Prop where
  length : text.length = width + 6
  reads : Angle.read width text.toList = some (angle, [])
  minutes : angle.hundredths < 6000
  hemisphere : angle.hemisphere = below ∨ angle.hemisphere = above

/-- `DDMM.mmN` or `DDMM.mmS` with no more than ninety degrees. -/
def IsLatitude (text : String) : Prop :=
  ∃ angle, Shows 2 'S' 'N' text angle ∧ angle.degrees ≤ 90

/-- `DDDMM.mmE` or `DDDMM.mmW` with no more than 180 degrees. -/
def IsLongitude (text : String) : Prop :=
  ∃ angle, Shows 3 'W' 'E' text angle ∧ angle.degrees ≤ 180

/-- A latitude that is not beyond a pole. -/
def IsGlobalLatitude (text : String) : Prop :=
  ∃ angle, Shows 2 'S' 'N' text angle ∧ 6000 * angle.degrees + angle.hundredths ≤ 6000 * 90

/-- A longitude that is not beyond the antimeridian. -/
def IsGlobalLongitude (text : String) : Prop :=
  ∃ angle, Shows 3 'W' 'E' text angle ∧ 6000 * angle.degrees + angle.hundredths ≤ 6000 * 180

section Shows

variable {width : Nat} (positive : 0 < width) (angle : Binary64) (below above : Char)
include positive

theorem shows_text_iff (shown : Angle) :
    Shows width below above ((angleOf angle below above).text width) shown ↔
      (angleOf angle below above).degrees < 10 ^ width ∧ shown = angleOf angle below above := by
  have minutes : (angleOf angle below above).hundredths < 6000 := Position.minutes_lt angle
  constructor
  · intro shows
    -- Minutes and hemisphere have their width always, so the length is a matter of the degrees.
    have room : (angleOf angle below above).degrees < 10 ^ width := by
      have size := shows.length
      have point : ".".toList.length = 1 := rfl
      rw [← String.length_toList, Angle.toList_text] at size
      simp only [List.length_append, Decimal.length_padded (by decide : 0 < 2)
        (show (angleOf angle below above).hundredths / 100 < 10 ^ 2 by omega),
        Decimal.length_padded (by decide : 0 < 2) (Angle.hundredths_mod_lt _), point,
        List.length_cons, List.length_nil] at size
      exact (WeatherLine.length_padded_eq_iff positive _).2.mp (by omega)
    have reads := Angle.read_text ⟨room, minutes⟩ positive
    rw [shows.reads] at reads
    exact ⟨room, congrArg Prod.fst (Option.some.inj reads)⟩
  · rintro ⟨room, rfl⟩
    have fits : (angleOf angle below above).Fits width := ⟨room, minutes⟩
    refine ⟨?_, Angle.read_text fits positive, minutes, ?_⟩
    · rw [← String.length_toList, Angle.length_text fits positive]
    · exact (ite_eq_or_eq (angle.below 0 = true) below above)

/-- A text shows an angle within a limit if and only if what is written is within it. -/
theorem exists_shows_iff {limit : Nat} (room : limit < 6000 * 10 ^ width) :
    (∃ shown, Shows width below above ((angleOf angle below above).text width) shown ∧
      6000 * shown.degrees + shown.hundredths ≤ limit) ↔ written angle ≤ limit := by
  have total : 6000 * (angleOf angle below above).degrees + (angleOf angle below above).hundredths =
    written angle := rfl
  constructor
  · rintro ⟨shown, shows, within⟩
    obtain ⟨-, rfl⟩ := (shows_text_iff positive angle below above shown).mp shows
    exact within
  · intro within
    exact ⟨_, (shows_text_iff positive angle below above _).mpr ⟨by omega, rfl⟩, within⟩

theorem exists_shows_degrees_iff {most : Nat} (room : most < 10 ^ width) :
    (∃ shown, Shows width below above ((angleOf angle below above).text width) shown ∧
      shown.degrees ≤ most) ↔ written angle ≤ 6000 * most + 5999 := by
  rw [← exists_shows_iff positive angle below above (by omega)]
  refine exists_congr fun shown => and_congr_right fun shows => ?_
  have minutes := shows.minutes
  omega

end Shows

/-- An angle below a bound on either side, or one that is written as zero. -/
def WrittenBelow (bound : Rat) (angle : Binary64) : Prop :=
  angle.Within (-bound) bound ∨ Position.Wraps angle

section Bounds

-- Each bound lies between two neighbours: the minutes are as they should be for the lower one, and
-- one hundredth too many for the upper one.
variable (angle : Binary64)

theorem isLatitude_iff : IsLatitude (latitudeText angle) ↔ WrittenBelow (91 - 1 / 12000) angle :=
  (exists_shows_degrees_iff (by decide) angle 'S' 'N' (by decide)).trans
    (Position.written_le_iff 4636103966792975297 (by decide) (by decide +kernel)
      (by decide +kernel) (by decide +kernel) (by decide +kernel) (by decide +kernel) angle)

theorem isLongitude_iff :
    IsLongitude (longitudeText angle) ↔ WrittenBelow (181 - 1 / 12000) angle :=
  (exists_shows_degrees_iff (by decide) angle 'W' 'E' (by decide)).trans
    (Position.written_le_iff 4640572384980287968 (by decide) (by decide +kernel)
      (by decide +kernel) (by decide +kernel) (by decide +kernel) (by decide +kernel) angle)

theorem isGlobalLatitude_iff :
    IsGlobalLatitude (latitudeText angle) ↔ WrittenBelow (90 + 1 / 12000) angle :=
  (exists_shows_iff (by decide) angle 'S' 'N' (by decide)).trans
    (Position.written_le_iff 4636033609776921662 (by decide) (by decide +kernel)
      (by decide +kernel) (by decide +kernel) (by decide +kernel) (by decide +kernel) angle)

theorem isGlobalLongitude_iff :
    IsGlobalLongitude (longitudeText angle) ↔ WrittenBelow (180 + 1 / 12000) angle :=
  (exists_shows_iff (by decide) angle 'W' 'E' (by decide)).trans
    (Position.written_le_iff 4640537206472261151 (by decide) (by decide +kernel)
      (by decide +kernel) (by decide +kernel) (by decide +kernel) (by decide +kernel) angle)

end Bounds

/-- A station is accepted with the coordinates of its entry, and would be with any others that are
not both missing. -/
theorem Station.ofEntry_moved {entry : StationEntry} {station : Station}
    (accepted : ofEntry entry = .ok (some station)) :
    ∃ report, entry.report = some report ∧ station.latitude = report.latitude ∧
      station.longitude = report.longitude ∧
      ∀ latitude longitude, (latitude.same 0 && longitude.same 0) = false →
        ofEntry { entry with report := some { report with latitude, longitude } } =
          .ok (some { station with latitude, longitude }) := by
  obtain ⟨report, reported, enabled, kept⟩ := accepted_of_ofEntry accepted
  refine ⟨report, reported, kept.latitude_eq, kept.longitude_eq,
    fun latitude longitude placed => (ofEntry_eq_ok_iff rfl (by exact enabled)).mpr ?_⟩
  refine { kept with placed := ?_, latitude_eq := rfl, longitude_eq := rfl }
  rintro ⟨noLatitude, noLongitude⟩
  rw [Binary.same_zero_iff.mpr noLatitude, Binary.same_zero_iff.mpr noLongitude] at placed
  cases placed

/-- The position of an accepted station, as its reports and the line about it have it, has its form
exactly as long as either coordinate rounds to one of no more whole degrees than there are, and it
is on the globe exactly as long as it rounds to a place there. Any other coordinates are accepted
instead, unless both are missing. -/
theorem accepted_position_iff {entry : StationEntry} {station : Station}
    (accepted : Station.ofEntry entry = .ok (some station)) :
    ∃ report, entry.report = some report ∧
      (IsLatitude (latitudeText station.latitude) ↔
        WrittenBelow (91 - 1 / 12000) report.latitude) ∧
      (IsLongitude (longitudeText station.longitude) ↔
        WrittenBelow (181 - 1 / 12000) report.longitude) ∧
      (IsGlobalLatitude (latitudeText station.latitude) ↔
        WrittenBelow (90 + 1 / 12000) report.latitude) ∧
      (IsGlobalLongitude (longitudeText station.longitude) ↔
        WrittenBelow (180 + 1 / 12000) report.longitude) ∧
      (∀ reading dayRain, ∃ behind, WeatherLine.render station reading dayRain =
        station.callsign ++ ">APRS,TCPIP:!" ++ (latitudeText station.latitude ++
          station.symbolTable.toString ++ longitudeText station.longitude) ++ behind) ∧
      (∃ before, CheckPlan.stationLine station =
        before ++ latitudeText station.latitude ++ " " ++ longitudeText station.longitude) ∧
      ∀ latitude longitude, (latitude.same 0 && longitude.same 0) = false →
        Station.ofEntry { entry with report := some { report with latitude, longitude } } =
          .ok (some { station with latitude, longitude }) := by
  obtain ⟨report, reported, latitude, longitude, moved⟩ := Station.ofEntry_moved accepted
  refine ⟨report, reported, ?_, ?_, ?_, ?_, fun reading dayRain => ⟨?_, ?line⟩, ⟨_, rfl⟩, moved⟩
  case line =>
    simp only [WeatherLine.render, WeatherLine.positionBlock, String.append_assoc]
    rfl
  · rw [latitude]
    exact isLatitude_iff _
  · rw [longitude]
    exact isLongitude_iff _
  · rw [latitude]
    exact isGlobalLatitude_iff _
  · rw [longitude]
    exact isGlobalLongitude_iff _

/-- Minutes that round up to the pole and to the antimeridian. -/
theorem pole_position_on_globe :
    let report : ReportEntry := {
      callsign := "N0CALL-13", latitude := 89.99999, longitude := -179.99999 }
    let station : Station := {
      name := "backyard", callsign := "N0CALL-13", passcode := 13023, latitude := 89.99999
      longitude := -179.99999, symbolTable := '/', symbolCode := '_', comment := none }
    Station.ofEntry { name := "backyard", report := some report } = .ok (some station) ∧
      latitudeText station.latitude = "9000.00N" ∧ IsGlobalLatitude "9000.00N" ∧
      longitudeText station.longitude = "18000.00W" ∧ IsGlobalLongitude "18000.00W" := by
  intro report station
  have accepted : Station.ofEntry { name := "backyard", report := some report } =
      .ok (some station) := by decide +kernel
  have north : latitudeText station.latitude = "9000.00N" := by decide +kernel
  have west : longitudeText station.longitude = "18000.00W" := by decide +kernel
  obtain ⟨same, reported, -, -, globalLatitude, globalLongitude, -⟩ :=
    accepted_position_iff accepted
  cases reported
  rw [north] at globalLatitude
  rw [west] at globalLongitude
  exact ⟨accepted, north, globalLatitude.mpr (.inl (by decide +kernel)), west,
    globalLongitude.mpr (.inl (by decide +kernel))⟩

/-- A hundred degrees north. -/
theorem accepted_station_off_globe :
    let report : ReportEntry := { callsign := "N0CALL-13", latitude := 100, longitude := -72.75 }
    let station : Station := {
      name := "backyard", callsign := "N0CALL-13", passcode := 13023, latitude := 100
      longitude := -72.75, symbolTable := '/', symbolCode := '_', comment := none }
    Station.ofEntry { name := "backyard", report := some report } = .ok (some station) ∧
      latitudeText station.latitude = "10000.00N" ∧ ¬ IsLatitude "10000.00N" := by
  intro report station
  refine ⟨by decide +kernel, by decide +kernel, ?_⟩
  rintro ⟨angle, shows, -⟩
  exact absurd shows.length (by decide)

end WeatherRelay
