import Mathlib.Algebra.Group.Nat.Even
import WeatherRelay.Proofs.Station.NormalForm
import WeatherRelay.Proofs.Text.Utf8

/-! Passcodes as exclusive sums of bytes.

The bytes that count are those before the first hyphen, their letters in upper case. Each is added in
its place: to the high half of a word at even places, and to the low half at odd ones. So a part of
even length is added as a whole, and an ASCII character only makes a difference in its own place.
-/

set_option autoImplicit false

namespace WeatherRelay.Passcode

open Text.Utf8 (Bytes encode)

/-! ### Bytes in their places -/

/-- What a byte adds at a place. -/
def inPlace (place : Nat) (byte : UInt8) : UInt16 :=
  byte.toUInt16 <<< if place % 2 = 0 then 8 else 0

/-- The exclusive sum of bytes, each in its place. -/
def byteSum (bytes : Bytes) : UInt16 := (bytes.mapIdx inPlace).foldr (· ^^^ ·) 0

theorem inPlace_add_of_even {length : Nat} (even : Even length) (place : Nat) :
    inPlace (place + length) = inPlace place := by
  obtain ⟨half, rfl⟩ := even
  have place : (place + (half + half)) % 2 = place % 2 := by omega
  funext byte
  rw [inPlace, place, inPlace]

theorem foldr_xor_append (front behind : List UInt16) :
    (front ++ behind).foldr (· ^^^ ·) 0 = front.foldr (· ^^^ ·) 0 ^^^ behind.foldr (· ^^^ ·) 0 := by
  induction front with
  | nil => simp
  | cons first rest ih =>
    rw [List.cons_append, List.foldr_cons, List.foldr_cons, ih, UInt16.xor_assoc]

theorem byteSum_append_of_even {front : Bytes} (even : Even front.length) (behind : Bytes) :
    byteSum (front ++ behind) = byteSum front ^^^ byteSum behind := by
  simp only [byteSum, List.mapIdx_append, inPlace_add_of_even even, foldr_xor_append]

/-- A byte adds to the others what it adds at its place. -/
theorem byteSum_middle (front behind : Bytes) (byte : UInt8) :
    byteSum (front ++ byte :: behind) =
      inPlace front.length byte ^^^ byteSum (front ++ 0 :: behind) := by
  have nothing : inPlace front.length 0 = 0 := by
    unfold inPlace
    split <;> rfl
  simp only [byteSum, List.mapIdx_append, List.mapIdx_cons, foldr_xor_append, List.foldr_cons,
    Nat.zero_add, nothing, UInt16.zero_xor]
  ac_rfl

theorem fold_eq (code : UInt16) (bytes : Bytes) : fold code bytes = code ^^^ byteSum bytes := by
  fun_induction fold code bytes with
  | case1 code => simp [byteSum]
  | case2 code high => simp [byteSum, inPlace]
  | case3 code high low rest ih =>
    have first : byteSum [high, low] = high.toUInt16 <<< 8 ^^^ low.toUInt16 := by
      simp [byteSum, inPlace]
    have pair : byteSum (high :: low :: rest) = byteSum [high, low] ^^^ byteSum rest :=
      byteSum_append_of_even (show Even [high, low].length from ⟨1, rfl⟩) rest
    rw [ih, pair, first]
    ac_rfl

/-! ### The bytes that count -/

/-- A byte with its letter in upper case, if it is one. -/
def upperByte (byte : UInt8) : UInt8 := if 97 ≤ byte ∧ byte ≤ 122 then byte - 32 else byte

/-- The bytes before the first hyphen, letters in upper case. -/
def counted (callsign : String) : Bytes := ((encode callsign).takeWhile (· ≠ 45)).map upperByte

theorem encodeChar_of_ascii {c : Char} (ascii : c.toNat < 128) :
    String.utf8EncodeChar c = [UInt8.ofNat c.toNat] := by
  have encoded := Text.Utf8.encodeChar_ofNat c.valid
  have self : Char.ofNat c.val.toNat = c := Char.ofNat_toNat c
  rwa [self, if_pos (show c.val.toNat ≤ 127 from Nat.le_of_lt_succ ascii)] at encoded

theorem toNat_toUpper_lt {c : Char} (ascii : c.toNat < 128) : c.toUpper.toNat < 128 := by
  rcases toUpper_cases c with ⟨-, -, -, upper⟩ | ⟨-, same⟩
  · omega
  · rwa [same]

-- The bytes of a longer character are above all letters.
theorem map_upperByte_encodeChar (c : Char) :
    (String.utf8EncodeChar c).map upperByte = String.utf8EncodeChar c.toUpper := by
  rcases toUpper_cases c with ⟨-, low, high, upper⟩ | ⟨other, same⟩
  · have small : c.toNat = c.toUpper.toNat + 32 := upper.symm
    have byte : upperByte (UInt8.ofNat c.toNat) = UInt8.ofNat c.toUpper.toNat := by
      rw [upperByte, if_pos]
      · rw [small, UInt8.ofNat_add]
        exact UInt8.add_sub_cancel _ 32
      · rw [UInt8.le_iff_toNat_le, UInt8.le_iff_toNat_le, Text.Utf8.toNat_byte (by omega)]
        exact ⟨low, high⟩
    rw [encodeChar_of_ascii (by omega), encodeChar_of_ascii (by omega), List.map_singleton, byte]
  · rw [same]
    refine (List.map_congr_left fun byte member => ?_).trans (List.map_id _)
    rw [upperByte, if_neg, id_eq]
    rintro ⟨low, high⟩
    rw [UInt8.le_iff_toNat_le] at low high
    rw [← UInt8.ofNat_toNat (x := byte)] at member
    have code := (Text.Utf8.mem_encodeChar_iff (le_trans high (by decide))).mp member
    rw [← code] at low high
    rw [(isLower_iff c).mpr ⟨low, high⟩] at other
    cases other

theorem takeWhile_encode (characters : List Char) :
    (characters.flatMap String.utf8EncodeChar).takeWhile (· ≠ 45) =
      (characters.takeWhile (· ≠ '-')).flatMap String.utf8EncodeChar := by
  induction characters with
  | nil => rfl
  | cons c rest ih =>
    by_cases hyphen : c = '-'
    · subst hyphen
      simp [encodeChar_of_ascii (show '-'.toNat < 128 by decide)]
    · have apart : ∀ byte ∈ String.utf8EncodeChar c, decide (byte ≠ 45) = true := by
        rintro _ member
        rw [decide_eq_true_iff]
        rintro rfl
        have := (Text.Utf8.mem_encodeChar_iff (n := 45) (by decide)).mp member
        exact hyphen (Char.toNat_inj.mp this)
      rw [List.flatMap_cons, List.takeWhile_append_of_pos apart, ih,
        List.takeWhile_cons_of_pos (by simpa using hyphen), List.flatMap_cons]

theorem base_eq_counted (callsign : String) : base callsign = counted callsign := by
  rw [counted, Text.Utf8.encode_eq_flatMap, takeWhile_encode, List.map_flatMap, base,
    Text.Utf8.encode_eq_flatMap, String.toList_ofList, List.flatMap_map]
  simp only [map_upperByte_encodeChar]

section Parts

variable {front : String} (plain : '-' ∉ front.toList) (behind : String)
include plain

theorem base_append : base (front ++ behind) = base front ++ base behind := by
  have kept : ∀ c ∈ front.toList, decide (c ≠ '-') = true := by
    rintro _ member
    rw [decide_eq_true_iff]
    rintro rfl
    exact plain member
  have whole := List.takeWhile_eq_self_iff.mpr kept
  simp only [base, Text.Utf8.encode_eq_flatMap, String.toList_ofList, String.toList_append,
    List.takeWhile_append_of_pos kept, List.map_append, List.flatMap_append, whole]

theorem length_base : (base front).length = (encode front).length := by
  have kept : ∀ byte ∈ encode front, decide (byte ≠ 45) = true := by
    rintro _ member
    rw [decide_eq_true_iff]
    rintro rfl
    obtain ⟨c, member, code⟩ := (Text.Utf8.mem_encode_iff (n := 45) (by decide) front).mp member
    exact plain (Char.toNat_inj.mp (show c.toNat = '-'.toNat from code) ▸ member)
  rw [base_eq_counted, counted, List.length_map, List.takeWhile_eq_self_iff.mpr kept]

/-- A character before the first hyphen counts in the place of its byte. -/
theorem base_push {c : Char} (ascii : c.toNat < 128) (noHyphen : c ≠ '-') :
    base (front.push c ++ behind) =
      base front ++ UInt8.ofNat c.toUpper.toNat :: base behind := by
  have single : base (String.singleton c) = [UInt8.ofNat c.toUpper.toNat] := by
    simp [base, Text.Utf8.encode_eq_flatMap, noHyphen, encodeChar_of_ascii (toNat_toUpper_lt ascii)]
  have hyphen : '-' ∉ (String.singleton c).toList := by simpa using noHyphen.symm
  rw [← String.append_singleton, String.append_assoc, base_append plain, base_append hyphen, single]
  rfl

end Parts

/-- Whatever stands behind a hyphen does not count. -/
theorem base_before_hyphen (callsign suffix : String) :
    base (callsign ++ "-" ++ suffix) = base callsign := by
  have mark : "-".toList = ['-'] := rfl
  have before : (callsign ++ "-" ++ suffix).toList.takeWhile (· ≠ '-') =
      callsign.toList.takeWhile (· ≠ '-') := by
    rw [String.toList_append, String.toList_append, mark, List.append_assoc, List.takeWhile_append]
    split
    case isTrue all =>
      have whole := (List.takeWhile_prefix (· ≠ '-')).eq_of_length all
      rw [whole]
      exact List.append_nil _
    case isFalse => rfl
  rw [base, before, base]

/-! ### Passcodes -/

theorem xor_and_mask (left right mask : UInt16) :
    (left ^^^ right) &&& mask = (left &&& mask) ^^^ (right &&& mask) := by
  apply UInt16.toBitVec_inj.mp
  ext place
  simp [Bool.and_xor_distrib_right]

theorem ofCallsign_eq (callsign : String) :
    ofCallsign callsign = (0x73e2 ^^^ byteSum (base callsign)) &&& 0x7fff := by
  rw [ofCallsign, fold_eq]

theorem ofCallsign_append_of_even {front : String} (plain : '-' ∉ front.toList)
    (even : Even (encode front).length) (behind : String) :
    ofCallsign (front ++ behind) = ofCallsign front ^^^ ofCallsign behind ^^^ 0x73e2 := by
  rw [← length_base plain] at even
  have start : (0x73e2 : UInt16) &&& 0x7fff = 0x73e2 := by decide
  simp only [ofCallsign_eq, base_append plain, byteSum_append_of_even even, xor_and_mask, start]
  generalize byteSum (base front) &&& 0x7fff = first
  generalize byteSum (base behind) &&& 0x7fff = second
  -- Both parts bring the start along, and it is taken out once again.
  calc (0x73e2 : UInt16) ^^^ (first ^^^ second)
      = 0x73e2 ^^^ (first ^^^ second) ^^^ (0x73e2 ^^^ 0x73e2) := by
        rw [UInt16.xor_self, UInt16.xor_zero]
    _ = 0x73e2 ^^^ first ^^^ (0x73e2 ^^^ second) ^^^ 0x73e2 := by ac_rfl

/-- Seven bits of a byte are not lost at any place. -/
theorem toNat_inPlace_and_mask {n : Nat} (small : n < 128) (place : Nat) :
    (inPlace place (UInt8.ofNat n) &&& 0x7fff).toNat = n * if place % 2 = 0 then 256 else 1 := by
  have mask : (0x7fff : UInt16).toNat = 2 ^ 15 - 1 := rfl
  have byte : (UInt8.ofNat n).toUInt16.toNat = n := by
    rw [UInt8.toNat_toUInt16, Text.Utf8.toNat_byte (by omega)]
  rw [UInt16.toNat_and, mask, Nat.and_two_pow_sub_one_eq_mod, inPlace, UInt16.toNat_shiftLeft, byte]
  split
  case isTrue =>
    have eight : (8 : UInt16).toNat % 16 = 8 := rfl
    rw [eight, Nat.shiftLeft_eq]
    omega
  case isFalse =>
    have none : (0 : UInt16).toNat % 16 = 0 := rfl
    rw [none, Nat.shiftLeft_eq]
    omega

section Exchange

variable {front : String} (plain : '-' ∉ front.toList) (behind : String) {c d : Char}
include plain

/-- What a character before the first hyphen adds, and what all the others add with a zero there. -/
theorem ofCallsign_push (ascii : c.toNat < 128) (noHyphen : c ≠ '-') :
    ofCallsign (front.push c ++ behind) =
      (inPlace (base front).length (UInt8.ofNat c.toUpper.toNat) &&& 0x7fff) ^^^
        ((0x73e2 ^^^ byteSum (base front ++ 0 :: base behind)) &&& 0x7fff) := by
  rw [ofCallsign_eq, base_push plain behind ascii noHyphen, byteSum_middle, ← xor_and_mask]
  congr 1
  ac_rfl

theorem ofCallsign_push_eq_iff (ascii : c.toNat < 128) (ascii' : d.toNat < 128)
    (noHyphen : c ≠ '-') (noHyphen' : d ≠ '-') :
    ofCallsign (front.push c ++ behind) = ofCallsign (front.push d ++ behind) ↔
      c.toUpper = d.toUpper := by
  have scale : 0 < if (base front).length % 2 = 0 then 256 else 1 := by split <;> decide
  rw [ofCallsign_push plain behind ascii noHyphen, ofCallsign_push plain behind ascii' noHyphen',
    UInt16.xor_left_inj, ← UInt16.toNat_inj, toNat_inPlace_and_mask (toNat_toUpper_lt ascii),
    toNat_inPlace_and_mask (toNat_toUpper_lt ascii'), Nat.mul_left_inj scale.ne', Char.toNat_inj]

end Exchange

/-- The passcode is the exclusive sum of the bytes that count, on top of a start value and cut to
fifteen bits. It does not change with letter case or with what stands behind a hyphen. Parts of even
length add up to the whole, and one ASCII character in the place of another makes a difference
unless the two are the same letter. -/
theorem ofCallsign_is_byteSum :
    (∀ callsign, ofCallsign callsign = (0x73e2 ^^^ byteSum (counted callsign)) &&& 0x7fff) ∧
    (∀ callsign other, upperCase callsign = upperCase other →
      ofCallsign callsign = ofCallsign other) ∧
    (∀ callsign suffix, ofCallsign (callsign ++ "-" ++ suffix) = ofCallsign callsign) ∧
    (∀ front behind : String, '-' ∉ front.toList → Even (encode front).length →
      ofCallsign (front ++ behind) = ofCallsign front ^^^ ofCallsign behind ^^^ 0x73e2) ∧
    ∀ (front behind : String) (c d : Char), '-' ∉ front.toList → c.toNat < 128 → d.toNat < 128 →
      c ≠ '-' → d ≠ '-' →
      (ofCallsign (front.push c ++ behind) = ofCallsign (front.push d ++ behind) ↔
        c.toUpper = d.toUpper) := by
  refine ⟨?_, ?_, ?_, ?_, ?_⟩
  · intro callsign
    rw [ofCallsign_eq, base_eq_counted]
  · intro callsign other same
    rw [← Station.ofCallsign_upperCase callsign, same, Station.ofCallsign_upperCase other]
  · intro callsign suffix
    rw [ofCallsign_eq, base_before_hyphen, ofCallsign_eq]
  · intro front behind plain even
    exact ofCallsign_append_of_even plain even behind
  · intro front behind c d plain ascii ascii' noHyphen noHyphen'
    exact ofCallsign_push_eq_iff plain behind ascii ascii' noHyphen noHyphen'

/-- Letters of both cases in front of a hyphen, two parts of which the first has an even length, and
one letter in the place of another. -/
theorem ofCallsign_of_n0call :
    ofCallsign "n0Call-13" = 13023 ∧ ofCallsign "KD7XYZ" = 22180 ∧
    '-' ∉ "KD".toList ∧ Even (encode "KD").length ∧
    ofCallsign ("KD" ++ "7XYZ") = ofCallsign "KD" ^^^ ofCallsign "7XYZ" ^^^ 0x73e2 ∧
    'L'.toUpper ≠ 'M'.toUpper ∧
    ofCallsign ("N0CA".push 'L' ++ "L") ≠ ofCallsign ("N0CA".push 'M' ++ "L") := by
  obtain ⟨sum, sameLetters, behindHyphen, parts, exchange⟩ := ofCallsign_is_byteSum
  have reference : ofCallsign "n0Call-13" = 13023 := by
    rw [show "n0Call-13" = "n0Call" ++ "-" ++ "13" by decide, behindHyphen,
      sameLetters "n0Call" "N0CALL" (by decide), sum]
    decide +kernel
  have plain : '-' ∉ "KD".toList := by decide
  have even : Even (encode "KD").length := by decide +kernel
  have apart : 'L'.toUpper ≠ 'M'.toUpper := by decide
  refine ⟨reference, by decide +kernel, plain, even, parts "KD" "7XYZ" plain even, apart, ?_⟩
  intro same
  exact apart ((exchange "N0CA" "L" 'L' 'M' (by decide) (by decide) (by decide) (by decide)
    (by decide)).mp same)

-- Outside ASCII a character has more bytes than one, and these may add up to those of another.
example : ofCallsign "AA" = ofCallsign "A\u1020" := by decide +kernel

end WeatherRelay.Passcode
