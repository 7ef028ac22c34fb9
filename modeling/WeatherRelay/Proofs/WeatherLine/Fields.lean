import WeatherRelay.Position
import WeatherRelay.Proofs.Binary.Order
import WeatherRelay.Proofs.Decimal.Digits

/-! The fields of a report line, each of a fixed width.

Numbers within their range take just as many characters as their field has, so that a reader that
only counts characters finds every one of them again.
-/

set_option autoImplicit false

namespace WeatherRelay

namespace Position

open Binary (UpTo)

section Bounds

variable {angle : Binary64} {bound : Nat} (small : bound < 2 ^ 53) (within : UpTo bound angle.abs)
include small within

/-- The rest of an angle behind its whole degrees may be rounded to sixty minutes. -/
theorem parts_le : angle.abs.floor.toUInt32 ≤ bound ∧
    ((angle.abs - angle.abs.floor) * 60 * 100).roundAway.toUInt32 ≤ 6000 := by
  obtain ⟨whole, fraction⟩ := within.floor small
  have minutes := fraction.mul_ofNat (by decide : 60 < 2 ^ 53) (by decide)
  have hundredths := minutes.mul_ofNat (by decide : 100 < 2 ^ 53) (by decide)
  exact ⟨Binary.toUInt32_le whole, Binary.toUInt32_le (hundredths.roundAway (by decide))⟩

/-- Minutes that are carried leave none behind. -/
theorem degreesAndMinutes_bounds :
    (degreesAndMinutes angle).1 ≤ bound + 1 ∧ (degreesAndMinutes angle).2 < 6000 := by
  obtain ⟨degrees, rounded⟩ := parts_le small within
  unfold degreesAndMinutes
  dsimp only
  split
  case isTrue carried => exact ⟨le_trans (Nat.mod_le _ _) (by omega), by dsimp only; omega⟩
  case isFalse => exact ⟨by dsimp only; omega, by dsimp only; omega⟩

end Bounds

end Position

namespace WeatherLine

open Decimal (padded)

/-- What reads from the front of a line, with the rest of it. -/
abbrev Reader (α : Type) := List Char → Option (α × List Char)

def readChars (width : Nat) : Reader (List Char) := fun input =>
  if width ≤ input.length then some (input.take width, input.drop width) else none

/-- Read so many characters, and something from just these. -/
def readField {α : Type} (width : Nat) (inner : Reader α) : Reader α := fun input => do
  let (field, input) ← readChars width input
  match ← inner field with
  | (value, []) => some (value, input)
  | _ => none

def readMark (mark : String) : Reader Unit := fun input => do
  let (characters, input) ← readChars mark.length input
  if characters = mark.toList then some ((), input) else none

def readChar : Reader Char
  | [] => none
  | c :: input => some (c, input)

def natural? (digits : List Char) : Option Nat :=
  if !digits.isEmpty && digits.all Char.isDigit then some (Decimal.digitsValue digits) else none

def integer? : List Char → Option Int
  | '-' :: digits => (natural? digits).map fun (n : Nat) => -(n : Int)
  | digits => (natural? digits).map fun (n : Nat) => (n : Int)

def readNatural (width : Nat) : Reader Nat := fun input => do
  let (digits, input) ← readChars width input
  some (← natural? digits, input)

/-- An integer whose minus sign counts as one of its characters. -/
def readInteger (width : Nat) : Reader Int := fun input => do
  let (digits, input) ← readChars width input
  some (← integer? digits, input)

/-- An integer has room in a field, where a minus sign takes the place of a digit. -/
def FitsWidth (width : Nat) (value : Int) : Prop :=
  2 ≤ width ∧ -(10 ^ (width - 1) : Nat) < value ∧ value < (10 ^ width : Nat)

theorem fitsWidth_of_between {width : Nat} {value least most : Int} (two : 2 ≤ width)
    (above : -(10 ^ (width - 1) : Nat) < least) (below : most < (10 ^ width : Nat))
    (within : least ≤ value ∧ value ≤ most) : FitsWidth width value :=
  ⟨two, lt_of_lt_of_le above within.1, lt_of_le_of_lt within.2 below⟩

section Readers

variable {α : Type} {width : Nat} (rest : List Char)

theorem readChars_append {front : List Char} (size : front.length = width) :
    readChars width (front ++ rest) = some (front, rest) := by
  have reaches : width ≤ (front ++ rest).length := by rw [List.length_append]; omega
  rw [readChars, if_pos reaches, List.take_left' size, List.drop_left' size]

theorem readField_append {inner : Reader α} {front : List Char} {value : α}
    (size : front.length = width) (read : inner front = some (value, [])) :
    readField width inner (front ++ rest) = some (value, rest) := by
  rw [readField, readChars_append rest size]
  simp only [Option.bind_eq_bind, Option.bind_some, read]

theorem readMark_append (mark : String) :
    readMark mark (mark.toList ++ rest) = some ((), rest) := by
  rw [readMark, readChars_append rest String.length_toList]
  simp only [Option.bind_eq_bind, Option.bind_some, if_true]

theorem natural?_padded (width n : Nat) : natural? (padded width n) = some n := by
  have filled : (padded width n).isEmpty = false := by
    simpa using Decimal.padded_ne_nil width n
  simp [natural?, Decimal.all_isDigit_padded, filled, Decimal.digitsValue_padded]

theorem readNatural_padded {n : Nat} (positive : 0 < width) (fits : n < 10 ^ width) :
    readNatural width (padded width n ++ rest) = some (n, rest) := by
  rw [readNatural, readChars_append rest (Decimal.length_padded positive fits)]
  simp only [Option.bind_eq_bind, Option.bind_some, natural?_padded]

theorem toList_paddedInt (width : Nat) (value : Int) :
    (paddedInt width value).toList =
      if value < 0 then '-' :: padded (width - 1) value.natAbs else padded width value.natAbs := by
  unfold paddedInt
  split <;> simp

/-- With its sign a negative integer has one digit less. -/
theorem length_paddedInt {value : Int} (fits : FitsWidth width value) :
    (paddedInt width value).toList.length = width := by
  obtain ⟨two, above, below⟩ := fits
  rw [toList_paddedInt]
  split
  case isTrue negative =>
    rw [List.length_cons, Decimal.length_padded (by omega) (by omega)]
    omega
  case isFalse => exact Decimal.length_padded (by omega) (by omega)

theorem integer?_paddedInt (value : Int) :
    integer? (paddedInt width value).toList = some value := by
  rw [toList_paddedInt]
  split
  case isTrue negative =>
    rw [integer?, natural?_padded, Option.map_some]
    congr 1
    omega
  case isFalse nonneg =>
    obtain ⟨first, others, same, digit⟩ := Decimal.padded_eq_cons width value.natAbs
    have noSign : first ≠ '-' := by
      rintro rfl
      cases digit
    have number := natural?_padded width value.natAbs
    rw [same] at number ⊢
    rw [integer?, number, Option.map_some, Int.natAbs_of_nonneg (by omega)]
    rintro _ ⟨⟩
    exact noSign rfl

theorem readInteger_paddedInt {value : Int} (fits : FitsWidth width value) (rest : List Char) :
    readInteger width ((paddedInt width value).toList ++ rest) = some (value, rest) := by
  rw [readInteger, readChars_append rest (length_paddedInt fits)]
  simp only [Option.bind_eq_bind, Option.bind_some, integer?_paddedInt]

end Readers

/-- An angle as it is written, to a hundredth of a minute. -/
structure Angle where
  degrees : Nat
  hundredths : Nat
  hemisphere : Char
  deriving DecidableEq, Repr

namespace Angle

def text (width : Nat) (angle : Angle) : String :=
  zeroPad width (toString angle.degrees) ++ zeroPad 2 (toString (angle.hundredths / 100)) ++ "." ++
    zeroPad 2 (toString (angle.hundredths % 100)) ++ angle.hemisphere.toString

def read (width : Nat) : Reader Angle := fun input => do
  let (degrees, input) ← readNatural width input
  let (minutes, input) ← readNatural 2 input
  let ((), input) ← readMark "." input
  let (hundredths, input) ← readNatural 2 input
  let (hemisphere, input) ← readChar input
  some (⟨degrees, 100 * minutes + hundredths, hemisphere⟩, input)

structure Fits (width : Nat) (angle : Angle) : Prop where
  degrees : angle.degrees < 10 ^ width
  hundredths : angle.hundredths < 6000

variable {width : Nat} {angle : Angle}

theorem toList_text (width : Nat) (angle : Angle) :
    (angle.text width).toList = padded width angle.degrees ++ (padded 2 (angle.hundredths / 100) ++
      (".".toList ++ (padded 2 (angle.hundredths % 100) ++ [angle.hemisphere]))) := by
  simp [text]

theorem Fits.minutes (fits : angle.Fits width) : angle.hundredths / 100 < 10 ^ 2 := by
  have := fits.hundredths
  omega

theorem hundredths_mod_lt (angle : Angle) : angle.hundredths % 100 < 10 ^ 2 :=
  Nat.mod_lt _ (by decide)

theorem length_text (fits : angle.Fits width) (positive : 0 < width) :
    (angle.text width).toList.length = width + 6 := by
  have point : ".".toList.length = 1 := rfl
  rw [toList_text]
  simp only [List.length_append, Decimal.length_padded positive fits.degrees,
    Decimal.length_padded (by decide : 0 < 2) fits.minutes,
    Decimal.length_padded (by decide : 0 < 2) angle.hundredths_mod_lt, point, List.length_cons,
    List.length_nil]

theorem read_text (fits : angle.Fits width) (positive : 0 < width) :
    read width (angle.text width).toList = some (angle, []) := by
  have whole := Nat.div_add_mod angle.hundredths 100
  rw [toList_text, read, readNatural_padded _ positive fits.degrees]
  simp only [Option.bind_eq_bind, Option.bind_some,
    readNatural_padded _ (by decide : 0 < 2) fits.minutes,
    readNatural_padded _ (by decide : 0 < 2) angle.hundredths_mod_lt, readMark_append, readChar,
    whole]

theorem readField_text (fits : angle.Fits width) (positive : 0 < width) {size : Nat}
    (whole : size = width + 6) (rest : List Char) :
    readField size (read width) ((angle.text width).toList ++ rest) = some (angle, rest) :=
  readField_append rest ((length_text fits positive).trans whole.symm) (read_text fits positive)

end Angle

end WeatherLine

end WeatherRelay
