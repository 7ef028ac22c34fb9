import Mathlib.Data.List.Basic
import WeatherRelay.Proofs.Decimal.Digits
import WeatherRelay.Proofs.Text.Trimmed
import WeatherRelay.Proofs.Time.Calendar
import WeatherRelay.Proofs.Time.Line
import WeatherRelay.Time.Stamp

/-! A time stamp reads back as the instant that it was written for.

Every part of a stamp ends where its width or the mark behind it says, so each reader takes just
what its writer wrote and leaves the rest.
-/

set_option autoImplicit false

namespace WeatherRelay.Instant

open Decimal (padded)

theorem skipBlank_cons {c : Char} (solid : Text.isBlank c = false) (rest : List Char) :
    skipBlank (c :: rest) = c :: rest := by
  simp [skipBlank, solid]

theorem skipBlank_padded (width n : Nat) (rest : List Char) :
    skipBlank (padded width n ++ rest) = padded width n ++ rest := by
  obtain ⟨first, others, same, digit⟩ := Decimal.padded_eq_cons width n
  rw [same]
  exact skipBlank_cons (Text.isBlank_of_isDigit digit) _

/-- Digits are read up to the width, or up to something else. -/
theorem readNumber_padded {width places n : Nat} {rest : List Char}
    (short : (padded places n).length ≤ width)
    (ends : (padded places n).length = width ∨ ∀ c ∈ rest.head?, c.isDigit = false) :
    readNumber width (padded places n ++ rest) = some (n, rest) := by
  have behind : (rest.take (width - (padded places n).length)).takeWhile Char.isDigit = [] := by
    rcases ends with full | stop
    · simp [full]
    · cases rest with
      | nil => simp
      | cons c rest =>
        have other : c.isDigit = false := stop c rfl
        cases width - (padded places n).length <;> simp [other]
  have digits : ((padded places n ++ rest).take width).takeWhile Char.isDigit = padded places n := by
    rw [List.take_append, List.take_of_length_le short,
      List.takeWhile_append_of_pos fun _ => Decimal.isDigit_of_mem_padded, behind, List.append_nil]
  simp only [readNumber, skipBlank_padded, digits, List.isEmpty_iff, Decimal.padded_ne_nil, if_false,
    Decimal.digitsValue_padded, List.drop_left]

theorem readNumber_two {n : Nat} (small : n < 100) (rest : List Char) :
    readNumber 2 (padded 2 n ++ rest) = some (n, rest) := by
  have width : (padded 2 n).length = 2 := Decimal.length_padded (by decide) small
  exact readNumber_padded (Nat.le_of_eq width) (.inl width)

theorem readMark_self {mark : Char} (solid : Text.isBlank mark = false) (rest : List Char) :
    readMark mark (mark :: rest) = some ((), rest) := by
  simp [readMark, skipBlank_cons solid]

theorem toList_yearText (year : Int) :
    (yearText year).toList =
      (if 0 ≤ year ∧ year ≤ 9999 then [] else if year < 0 then ['-'] else ['+']) ++
        padded 4 year.natAbs := by
  unfold yearText paddedInt
  by_cases plain : 0 ≤ year ∧ year ≤ 9999
  · have nonneg : ¬ year < 0 := by omega
    simp [plain, nonneg]
  · by_cases negative : year < 0 <;> simp [plain, negative]

theorem readYear_unsigned {first : Char} (digit : first.isDigit = true) (rest : List Char) :
    readYear (first :: rest) =
      (readNumber 4 (first :: rest)).map fun (year, rest) => ((year : Int), rest) := by
  unfold readYear
  rw [skipBlank_cons (Text.isBlank_of_isDigit digit)]
  split
  · next same =>
    cases same
    cases digit
  · next same =>
    cases same
    cases digit
  · rfl

theorem readYear_yearText (year : Int) (rest : List Char) :
    readYear ((yearText year).toList ++ '-' :: rest) = some (year, '-' :: rest) := by
  rw [toList_yearText]
  obtain ⟨first, others, same, digit⟩ := Decimal.padded_eq_cons 4 year.natAbs
  by_cases plain : 0 ≤ year ∧ year ≤ 9999
  · have width : (padded 4 year.natAbs).length = 4 := Decimal.length_padded (by decide) (by omega)
    have number : readNumber 4 (padded 4 year.natAbs ++ '-' :: rest) =
        some (year.natAbs, '-' :: rest) :=
      readNumber_padded (Nat.le_of_eq width) (.inl width)
    rw [same, List.cons_append] at number
    rw [if_pos plain, List.nil_append, same, List.cons_append, readYear_unsigned digit, number]
    simp only [Option.map_some, Int.natAbs_of_nonneg plain.1]
  · -- Behind a sign the digits end only where the mark stands.
    have stop : ∀ c ∈ ('-' :: rest).head?, c.isDigit = false := by
      rintro c ⟨⟩
      rfl
    have number : readNumber (padded 4 year.natAbs ++ '-' :: rest).length
        (padded 4 year.natAbs ++ '-' :: rest) = some (year.natAbs, '-' :: rest) :=
      readNumber_padded (by simp) (.inr stop)
    have headDigit : ((padded 4 year.natAbs ++ '-' :: rest).head?.map Char.isDigit).getD false =
        true := by
      rw [same]
      exact digit
    rw [if_neg plain]
    by_cases negative : year < 0
    · have value : -(year.natAbs : Int) = year := by omega
      rw [if_pos negative, List.append_assoc, List.singleton_append, readYear,
        skipBlank_cons (by decide : Text.isBlank '-' = false)]
      simp only [headDigit, number, if_true, Option.map_some, value]
    · have value : (year.natAbs : Int) = year := by omega
      rw [if_neg negative, List.append_assoc, List.singleton_append, readYear,
        skipBlank_cons (by decide : Text.isBlank '+' = false)]
      simp only [headDigit, number, if_true, Option.map_some, value]

theorem readDate_dateText (instant : Instant) (rest : List Char) :
    readDate (instant.dateText.toList ++ rest) =
      some (Date.ofDays (instant.seconds / 86400), rest) := by
  have valid := Date.valid_ofDays (instant.seconds / 86400)
  unfold dateText
  generalize Date.ofDays (instant.seconds / 86400) = date at valid ⊢
  have month : date.month < 100 := by
    have := (Date.bounds_of_valid valid).1
    omega
  have day : date.day < 100 := by
    have := (Date.bounds_of_valid valid).2
    omega
  simp only [String.toList_append, List.append_assoc, Nat.toString_eq_repr,
    Decimal.toList_zeroPad_repr]
  change readDate ((yearText date.year).toList ++ '-' :: (padded 2 date.month ++
    '-' :: (padded 2 date.day ++ rest))) = _
  have solid : Text.isBlank '-' = false := by decide
  simp only [readDate, readYear_yearText, readMark_self solid, readNumber_two month,
    readNumber_two day, Option.bind_eq_bind, Option.bind_some, valid, if_true]

theorem toList_fractionText (nanos : Nat) :
    (fractionText nanos).toList =
      if nanos = 0 then []
      else if nanos % 1000000 = 0 then '.' :: padded 3 (nanos / 1000000)
      else if nanos % 1000 = 0 then '.' :: padded 6 (nanos / 1000)
      else '.' :: padded 9 nanos := by
  unfold fractionText
  split
  · rfl
  · split
    · simp
    · split <;> simp

theorem readFraction_padded {places n : Nat} (positive : 0 < places) (within : places ≤ 9)
    (fits : n < 10 ^ places) {c : Char} (other : c.isDigit = false) (rest : List Char) :
    readFraction ('.' :: (padded places n ++ c :: rest)) =
      some (n * tenTo (9 - places), c :: rest) := by
  have width := Decimal.length_padded positive fits
  have digits : (padded places n ++ c :: rest).takeWhile Char.isDigit = padded places n := by
    rw [List.takeWhile_append_of_pos fun _ => Decimal.isDigit_of_mem_padded]
    simp [other]
  have kept : (padded places n).take 9 = padded places n := List.take_of_length_le (by omega)
  have behind : (padded places n ++ c :: rest).drop places = c :: rest :=
    List.drop_left' width
  simp only [readFraction, digits, List.isEmpty_iff, Decimal.padded_ne_nil, if_false, kept,
    Decimal.digitsValue_padded, width, behind]

theorem readFraction_fractionText {nanos : Nat} (bound : nanos < 1000000000) (rest : List Char) :
    readFraction ((fractionText nanos).toList ++ 'Z' :: rest) = some (nanos, 'Z' :: rest) := by
  have other : 'Z'.isDigit = false := by decide
  rw [toList_fractionText]
  split
  case isTrue zero =>
    subst zero
    rfl
  split
  case isTrue millis =>
    rw [List.cons_append, readFraction_padded (by decide) (by decide) (by omega) other]
    simp
    omega
  split
  case isTrue micros =>
    rw [List.cons_append, readFraction_padded (by decide) (by decide) (by omega) other]
    simp
    omega
  case isFalse =>
    rw [List.cons_append, readFraction_padded (by decide) (by decide) bound other]
    simp

-- A leap second is second sixty, which only the last second of a minute can be.
theorem readTime_timeText (instant : Instant) (rest : List Char) :
    readTime (instant.timeText.toList ++ 'Z' :: rest) =
      some (((instant.seconds % 86400).toNat, instant.nanos), 'Z' :: rest) := by
  have below := instant.nanos_lt
  have at59 := instant.leap_only_at_59
  have inDay := Int.emod_lt_of_pos instant.seconds (by decide : (0 : Int) < 86400)
  have fromMidnight := Int.emod_nonneg instant.seconds (by decide : (86400 : Int) ≠ 0)
  have leap : nanosPerSecond ≤ instant.nanos → (instant.seconds % 86400).toNat % 60 = 59 := by
    intro reached
    have := at59 reached
    omega
  have bound : (instant.seconds % 86400).toNat < 86400 := by omega
  clear at59 inDay fromMidnight
  unfold timeText
  dsimp only
  generalize (instant.seconds % 86400).toNat = ofDay at leap bound ⊢
  generalize instant.nanos = nanos at below leap ⊢
  unfold nanosPerSecond at *
  have hour : ofDay / 3600 < 100 := by omega
  have minute : ofDay / 60 % 60 < 100 := by omega
  have second : ofDay % 60 + nanos / 1000000000 < 100 := by omega
  have fraction : nanos % 1000000000 < 1000000000 := Nat.mod_lt _ (by decide)
  have solid : Text.isBlank ':' = false := by decide
  simp only [String.toList_append, List.append_assoc, Nat.toString_eq_repr,
    Decimal.toList_zeroPad_repr]
  change readTime (padded 2 (ofDay / 3600) ++ ':' :: (padded 2 (ofDay / 60 % 60) ++
    ':' :: (padded 2 (ofDay % 60 + nanos / 1000000000) ++
      ((fractionText (nanos % 1000000000)).toList ++ 'Z' :: rest)))) = _
  have inRange : (decide (ofDay / 3600 ≤ 23) && decide (ofDay / 60 % 60 ≤ 59) &&
      decide (ofDay % 60 + nanos / 1000000000 ≤ 60)) = true := by
    simp only [Bool.and_eq_true, decide_eq_true_eq]
    omega
  simp only [readTime, readNumber_two hour, readNumber_two minute, readNumber_two second,
    readMark_self solid, readFraction_fractionText fraction, Option.bind_eq_bind, Option.bind_some,
    inRange, if_true]
  by_cases reached : 1000000000 ≤ nanos
  · have last := leap reached
    rw [if_pos (by omega)]
    simp only [Option.some.injEq, Prod.mk.injEq, and_true, nanosPerSecond]
    omega
  · rw [if_neg (by omega)]
    simp only [Option.some.injEq, Prod.mk.injEq, and_true]
    omega

theorem readZone_z : readZone ['Z'] = some (0, []) := by decide

theorem ofStamp?_toStamp (instant : Instant) : ofStamp? instant.toStamp = some instant := by
  have first := instant.first_le
  have last := instant.le_last
  have stamp : instant.toStamp.toList =
      instant.dateText.toList ++ 'T' :: (instant.timeText.toList ++ ['Z']) := by
    simp [toStamp]
  have date := Date.toDays_ofDays (instant.seconds / 86400)
  have inside : (List.isEmpty (skipBlank []) &&
      decide (Date.first.toDays ≤ instant.seconds / 86400) &&
      decide (instant.seconds / 86400 ≤ Date.last.toDays)) = true := by
    have firstDay : Date.first.toDays = -96465292 := by decide
    have lastDay : Date.last.toDays = 95026236 := by decide
    simp only [firstDay, lastDay, Bool.and_eq_true, decide_eq_true_eq]
    exact ⟨⟨rfl, by omega⟩, by omega⟩
  have seconds : instant.seconds = instant.seconds / 86400 * 86400 +
      (instant.seconds % 86400).toNat - 0 := by omega
  simp only [ofStamp?, stamp, readDate_dateText, readSeparator, readTime_timeText, readZone_z, date,
    Option.bind_eq_bind, Option.bind_some, decide_true, Bool.true_or, if_true, inside]
  exact ofParts?_eq_some_iff.mpr ⟨seconds, rfl⟩

end WeatherRelay.Instant
