import Mathlib.Algebra.Group.Nat.Defs
import Mathlib.Data.List.Lex
import Mathlib.Data.Set.Function
import WeatherRelay.Base91

/-! Base-91 numerals are a positional system.

Each number below a power of 91 has one numeral of so many places, and numerals of one length come in
the order of their numbers: the first place in which they differ decides. Both encoders write such
numerals. A position is the last four places of its number, and a telemetry value, where it has one,
the last two.
-/

set_option autoImplicit false

namespace WeatherRelay.Base91

/-- The characters that stand for the digits from 0 to 90. -/
def IsDigit (byte : UInt8) : Prop := 33 ≤ byte.toNat ∧ byte.toNat ≤ 123

/-- The numerals of so many places. -/
def Numerals (places : Nat) : Set (List UInt8) :=
  {bytes | bytes.length = places ∧ ∀ byte ∈ bytes, IsDigit byte}

/-- The number that a numeral stands for. -/
def value : List UInt8 → Nat
  | [] => 0
  | byte :: rest => (byte.toNat - 33) * 91 ^ rest.length + value rest

/-- The last places of a number. -/
def numeral (n : Nat) : Nat → List UInt8
  | 0 => []
  | places + 1 => UInt8.ofNat (n / 91 ^ places % 91 + 33) :: numeral n places

/-! ### Numerals and their numbers -/

section Numerals

variable {places : Nat} {bytes left right : List UInt8}

theorem mem_numerals_zero : bytes ∈ Numerals 0 ↔ bytes = [] := by
  constructor
  · rintro ⟨empty, -⟩
    exact List.eq_nil_of_length_eq_zero empty
  · rintro rfl
    exact ⟨rfl, nofun⟩

theorem cons_mem_numerals {byte : UInt8} :
    byte :: bytes ∈ Numerals (places + 1) ↔ IsDigit byte ∧ bytes ∈ Numerals places := by
  simp only [Numerals, Set.mem_ofPred_eq, List.length_cons, List.forall_mem_cons,
    Nat.add_right_cancel_iff]
  exact and_left_comm

theorem mem_numerals_succ : bytes ∈ Numerals (places + 1) ↔
    ∃ byte rest, bytes = byte :: rest ∧ IsDigit byte ∧ rest ∈ Numerals places := by
  cases bytes with
  | nil => simp [Numerals]
  | cons byte rest =>
    rw [cons_mem_numerals]
    simp

theorem value_cons (written : bytes ∈ Numerals places) (byte : UInt8) :
    value (byte :: bytes) = (byte.toNat - 33) * 91 ^ places + value bytes := by
  rw [value, written.1]

theorem value_lt (written : bytes ∈ Numerals places) : value bytes < 91 ^ places := by
  induction places generalizing bytes with
  | zero =>
    rw [mem_numerals_zero.mp written]
    decide
  | succ places ih =>
    obtain ⟨byte, rest, rfl, digit, written⟩ := mem_numerals_succ.mp written
    rw [value_cons written]
    calc (byte.toNat - 33) * 91 ^ places + value rest
        < (byte.toNat - 33) * 91 ^ places + 91 ^ places := Nat.add_lt_add_left (ih written) _
      _ = (byte.toNat - 33 + 1) * 91 ^ places := (Nat.succ_mul _ _).symm
      _ ≤ 91 * 91 ^ places := Nat.mul_le_mul_right _ (by unfold IsDigit at digit; omega)
      _ = 91 ^ (places + 1) := (Nat.pow_succ').symm

/-- Of two numbers the one with more of the greater unit is greater, whatever comes below it. -/
theorem place_lt_iff {unit high high' low low' : Nat} (less : low < unit) (less' : low' < unit) :
    high * unit + low < high' * unit + low' ↔ high < high' ∨ high = high' ∧ low < low' := by
  rcases Nat.lt_trichotomy high high' with below | rfl | above
  · have step := Nat.mul_le_mul_right unit (Nat.succ_le_of_lt below)
    rw [Nat.succ_mul] at step
    exact iff_of_true (by omega) (.inl below)
  · simp
  · have step := Nat.mul_le_mul_right unit (Nat.succ_le_of_lt above)
    rw [Nat.succ_mul] at step
    exact iff_of_false (by omega) (by omega)

/-- Numerals of one length are in the order of their numbers. -/
theorem lex_iff_value_lt (first : left ∈ Numerals places) (second : right ∈ Numerals places) :
    List.Lex (· < ·) left right ↔ value left < value right := by
  induction places generalizing left right with
  | zero =>
    rw [mem_numerals_zero.mp first, mem_numerals_zero.mp second]
    simp [value]
  | succ places ih =>
    obtain ⟨byte, rest, rfl, digit, first⟩ := mem_numerals_succ.mp first
    obtain ⟨byte', rest', rfl, digit', second⟩ := mem_numerals_succ.mp second
    have above : byte < byte' ↔ byte.toNat - 33 < byte'.toNat - 33 := by
      rw [UInt8.lt_iff_toNat_lt]
      unfold IsDigit at digit digit'
      omega
    have same : byte = byte' ↔ byte.toNat - 33 = byte'.toNat - 33 := by
      rw [← UInt8.toNat_inj]
      unfold IsDigit at digit digit'
      omega
    rw [List.cons_lex_cons_iff, ih first second, above, same, value_cons first, value_cons second,
      place_lt_iff (value_lt first) (value_lt second)]

/-- Of two numerals that stand for one number neither comes before the other. -/
theorem value_injOn (places : Nat) : Set.InjOn value (Numerals places) := by
  intro left first right second equal
  have one : Std.Trichotomous (List.Lex fun a b : UInt8 => a < b) := inferInstance
  apply one.trichotomous left right
  · rw [lex_iff_value_lt first second]
    exact equal.not_lt
  · rw [lex_iff_value_lt second first]
    exact equal.not_gt

end Numerals

/-! ### The numerals of a number -/

section OfNumber

variable (n places : Nat)

theorem toNat_digit : (UInt8.ofNat (n % 91 + 33)).toNat = n % 91 + 33 := by
  have small := Nat.mod_lt n (by decide : 0 < 91)
  exact UInt8.toNat_ofNat_of_lt' (by simp only [UInt8.size]; omega)

theorem isDigit_digit : IsDigit (UInt8.ofNat (n % 91 + 33)) := by
  have small := Nat.mod_lt n (by decide : 0 < 91)
  rw [IsDigit, toNat_digit]
  omega

theorem numeral_mem : numeral n places ∈ Numerals places := by
  induction places with
  | zero => exact mem_numerals_zero.mpr rfl
  | succ places ih => exact cons_mem_numerals.mpr ⟨isDigit_digit _, ih⟩

theorem value_numeral : value (numeral n places) = n % 91 ^ places := by
  induction places with
  | zero => exact (Nat.mod_one n).symm
  | succ places ih =>
    rw [numeral, value_cons (numeral_mem n places), ih, toNat_digit, Nat.add_sub_cancel,
      Nat.mod_pow_succ, Nat.mul_comm, Nat.add_comm]

theorem numeral_bijOn : Set.BijOn (numeral · places) {n | n < 91 ^ places} (Numerals places) := by
  refine ⟨fun n _ => numeral_mem n places, fun n small m small' equal => ?_, fun bytes written => ?_⟩
  · have same := congrArg value equal
    rwa [value_numeral, value_numeral, Nat.mod_eq_of_lt small, Nat.mod_eq_of_lt small'] at same
  · refine ⟨value bytes, value_lt written, value_injOn places (numeral_mem _ _) written ?_⟩
    rw [value_numeral, Nat.mod_eq_of_lt (value_lt written)]

end OfNumber

/-! ### The two encoders -/

/-- Each of the four formulas is that of a place. -/
theorem encodePosition_eq (n : UInt32) : encodePosition n = numeral n.toNat 4 := by
  have fourth : n.toNat / 753571 % 91 = n.toNat / 91 ^ 3 % 91 := rfl
  have third : n.toNat % 753571 / 8281 = n.toNat / 91 ^ 2 % 91 :=
    Nat.mod_mul_right_div_self n.toNat 8281 91
  have second : n.toNat % 8281 / 91 = n.toNat / 91 ^ 1 % 91 :=
    Nat.mod_mul_right_div_self n.toNat 91 91
  have first : n.toNat % 91 = n.toNat / 91 ^ 0 % 91 := by
    rw [Nat.pow_zero, Nat.div_one]
  have digits (m : UInt32) : digit m = UInt8.ofNat (m.toNat + 33) := (UInt8.ofNat_add _ _).symm
  simp only [encodePosition, numeral, digits, UInt32.toNat_mod, UInt32.toNat_div]
  change [UInt8.ofNat (n.toNat / 753571 % 91 + 33), UInt8.ofNat (n.toNat % 753571 / 8281 + 33),
    UInt8.ofNat (n.toNat % 8281 / 91 + 33), UInt8.ofNat (n.toNat % 91 + 33)] = _
  rw [fourth, third, second, first]

/-- A number of more than two places is refused. -/
theorem encodeTelemetry_eq (n : UInt16) : encodeTelemetry n =
    if n.toNat < 91 ^ 2 then .ok (numeral n.toNat 2) else .error (.encodingRange n) := by
  have above : 8280 < n ↔ ¬ n.toNat < 91 ^ 2 := UInt16.lt_iff_toNat_lt.trans Nat.not_lt.symm
  simp only [encodeTelemetry, above, ite_not]
  refine if_ctx_congr Iff.rfl (fun small => ?_) fun _ => rfl
  have digits (m : UInt16) : m.toUInt8 + offset = UInt8.ofNat (m.toNat + 33) :=
    (UInt8.ofNat_add _ _).symm
  simp only [digits, UInt16.toNat_mod, UInt16.toNat_div]
  change Except.ok [UInt8.ofNat (n.toNat / 91 + 33), UInt8.ofNat (n.toNat % 91 + 33)] =
    .ok [UInt8.ofNat (n.toNat / 91 % 91 + 33), UInt8.ofNat (n.toNat / 1 % 91 + 33)]
  rw [Nat.mod_eq_of_lt (Nat.div_lt_of_lt_mul small), Nat.div_one]

theorem toNat_bijOn : Set.BijOn UInt32.toNat {n | n.toNat < 91 ^ 4} {n | n < 91 ^ 4} := by
  refine ⟨fun n small => small, fun n _ m _ equal => UInt32.toNat_inj.mp equal, fun n small => ?_⟩
  have fits : n < UInt32.size := lt_trans small (by decide)
  exact ⟨UInt32.ofNat n, (UInt32.toNat_ofNat_of_lt' fits).trans_lt small,
    UInt32.toNat_ofNat_of_lt' fits⟩

theorem encodePosition_mem (n : UInt32) : encodePosition n ∈ Numerals 4 := by
  rw [encodePosition_eq]
  exact numeral_mem _ _

theorem encodePosition_bijOn :
    Set.BijOn encodePosition {n | n.toNat < 91 ^ 4} (Numerals 4) :=
  ((numeral_bijOn 4).comp toNat_bijOn).congr fun n _ => (encodePosition_eq n).symm

theorem value_encodePosition (n : UInt32) : value (encodePosition n) = n.toNat % 91 ^ 4 := by
  rw [encodePosition_eq, value_numeral]

theorem value_encodePosition_ofNat {n : Nat} (small : n < 91 ^ 4) :
    value (encodePosition (UInt32.ofNat n)) = n := by
  have fits : n < UInt32.size := lt_trans small (by decide)
  rw [value_encodePosition, UInt32.toNat_ofNat_of_lt' fits, Nat.mod_eq_of_lt small]

/-- A position is written in four places, as the remainder of its number to four places, so that the
numbers of no more places and the numerals of four places belong together, in their order. A telemetry
value is written if it has no more than two places, as the last two of the position of its number. -/
theorem encoders_are_positional :
    (∀ n, encodePosition n ∈ Numerals 4 ∧ value (encodePosition n) = n.toNat % 91 ^ 4) ∧
    Set.BijOn encodePosition {n | n.toNat < 91 ^ 4} (Numerals 4) ∧
    (∀ n m : UInt32, n.toNat < 91 ^ 4 → m.toNat < 91 ^ 4 →
      (n < m ↔ List.Lex (· < ·) (encodePosition n) (encodePosition m))) ∧
    ∀ n : UInt16, encodeTelemetry n =
      if n.toNat < 91 ^ 2 then .ok ((encodePosition n.toUInt32).drop 2)
      else .error (.encodingRange n) := by
  refine ⟨fun n => ⟨encodePosition_mem n, value_encodePosition n⟩, encodePosition_bijOn,
    fun n m small small' => ?_, fun n => ?_⟩
  · rw [lex_iff_value_lt (encodePosition_mem n) (encodePosition_mem m), value_encodePosition,
      value_encodePosition, Nat.mod_eq_of_lt small, Nat.mod_eq_of_lt small', UInt32.lt_iff_toNat_lt]
  · rw [encodeTelemetry_eq, encodePosition_eq]
    rfl

/-- The greatest positions of four places, the greatest word, which has a fifth one, and the greatest
telemetry value. -/
theorem encoders_are_positional_greatest :
    encodePosition 68574960 = [123, 123, 123, 123] ∧
    List.Lex (· < ·) (encodePosition 68574959) (encodePosition 68574960) ∧
    value (encodePosition 4294967295) = 4294967295 % 91 ^ 4 ∧
    encodeTelemetry 8280 = .ok ((encodePosition 8280).drop 2) := by
  obtain ⟨remainder, -, order, telemetry⟩ := encoders_are_positional
  exact ⟨by decide, (order _ _ (by decide) (by decide)).mp (by decide), (remainder _).2,
    telemetry 8280⟩

end WeatherRelay.Base91
