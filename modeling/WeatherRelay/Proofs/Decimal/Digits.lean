import Mathlib.Algebra.Group.Nat.Defs
import Mathlib.Data.List.Basic
import WeatherRelay.Decimal.Layout

/-! Decimal digits with zeros in front of them, and what they read back as. -/

set_option autoImplicit false

namespace WeatherRelay

theorem toList_zeroPad (width : Nat) (text : String) :
    (zeroPad width text).toList = List.replicate (width - text.length) '0' ++ text.toList := by
  simp [zeroPad]

namespace Decimal

theorem digitsValue_eq (characters : List Char) :
    digitsValue characters = Nat.ofDigitChars 10 characters 0 :=
  Nat.ofDigitChars_eq_foldl.symm

/-- The digits of a number, behind zeros that make them at least so many. -/
def padded (width n : Nat) : List Char :=
  List.replicate (width - (Nat.toDigits 10 n).length) '0' ++ Nat.toDigits 10 n

@[simp] theorem toList_zeroPad_repr (width n : Nat) :
    (zeroPad width n.repr).toList = padded width n := by
  rw [toList_zeroPad, padded, Nat.repr_eq_ofList_toDigits, String.toList_ofList,
    String.length_ofList]

theorem toList_toString (n : Nat) : (toString n).toList = padded 0 n := by
  rw [Nat.toString_eq_repr, Nat.repr_eq_ofList_toDigits, String.toList_ofList, padded,
    Nat.zero_sub, List.replicate_zero, List.nil_append]

theorem isDigit_of_mem_padded {width n : Nat} {c : Char} (member : c ∈ padded width n) :
    c.isDigit = true := by
  rcases List.mem_append.mp member with zero | digit
  · rw [List.eq_of_mem_replicate zero]
    rfl
  · exact Nat.isDigit_of_mem_toDigits (by decide) (by decide) digit

theorem digitsValue_padded (width n : Nat) : digitsValue (padded width n) = n := by
  rw [digitsValue_eq, padded, Nat.ofDigitChars_append, Nat.ofDigitChars_replicate_zero,
    Nat.mul_zero, Nat.ofDigitChars_ten_toDigits]

theorem digitsValue_append (front back : List Char) :
    digitsValue (front ++ back) = digitsValue front * 10 ^ back.length + digitsValue back := by
  rw [digitsValue_eq, digitsValue_eq, digitsValue_eq, Nat.ofDigitChars_append,
    Nat.ofDigitChars_eq_ofDigitChars_zero, Nat.mul_comm]

theorem all_isDigit_padded (width n : Nat) : (padded width n).all Char.isDigit = true :=
  List.all_eq_true.mpr fun _ => isDigit_of_mem_padded

theorem padded_ne_nil (width n : Nat) : padded width n ≠ [] := by
  simp [padded, Nat.toDigits_ne_nil]

theorem length_padded {width n : Nat} (positive : 0 < width) (fits : n < 10 ^ width) :
    (padded width n).length = width := by
  have short := (Nat.length_toDigits_le_iff (by decide) positive).mpr fits
  simp only [padded, List.length_append, List.length_replicate]
  omega

theorem padded_eq_cons (width n : Nat) :
    ∃ first rest, padded width n = first :: rest ∧ first.isDigit = true := by
  obtain ⟨first, rest, same⟩ := List.exists_cons_of_ne_nil (padded_ne_nil width n)
  exact ⟨first, rest, same, isDigit_of_mem_padded (same ▸ List.mem_cons_self)⟩

end Decimal

end WeatherRelay
