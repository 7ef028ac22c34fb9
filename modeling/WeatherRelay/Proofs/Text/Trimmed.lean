import Mathlib.Data.List.DropRight
import WeatherRelay.Text.Blank

/-! Texts without blanks around them, and texts in upper case.

Trimming leaves a text that does not begin or end with a blank, and such a text as it is. Upper case
only touches letters, so it makes no difference to blanks.
-/

set_option autoImplicit false

namespace WeatherRelay

theorem isLower_iff (c : Char) : c.isLower = true ↔ 97 ≤ c.toNat ∧ c.toNat ≤ 122 := by
  change (decide ('a'.val ≤ c.val) && decide (c.val ≤ 'z'.val)) = true ↔ _
  simp [UInt32.le_iff_toNat_le]

/-- A lower-case letter becomes the one 32 places before it, and all else stays. -/
theorem toUpper_cases (c : Char) :
    (c.isLower = true ∧ 97 ≤ c.toNat ∧ c.toNat ≤ 122 ∧ c.toUpper.toNat + 32 = c.toNat) ∨
      (c.isLower = false ∧ c.toUpper = c) := by
  unfold Char.toUpper
  split
  case isTrue letter =>
    rw [UInt32.le_iff_toNat_le, UInt32.le_iff_toNat_le] at letter
    obtain ⟨low, high⟩ : 97 ≤ c.val.toNat ∧ c.val.toNat ≤ 122 := letter
    have step : ('A'.val - 'a'.val).toNat = 4294967264 := rfl
    refine .inl ⟨(isLower_iff c).mpr ⟨low, high⟩, low, high, ?_⟩
    change (c.val + ('A'.val - 'a'.val)).toNat + 32 = c.val.toNat
    rw [UInt32.toNat_add, step]
    omega
  case isFalse other =>
    rw [UInt32.le_iff_toNat_le, UInt32.le_iff_toNat_le] at other
    exact .inr ⟨Bool.eq_false_iff.mpr ((isLower_iff c).not.mpr other), rfl⟩

theorem isLower_toUpper (c : Char) : c.toUpper.isLower = false := by
  rcases toUpper_cases c with ⟨-, low, high, upper⟩ | ⟨other, same⟩
  · rcases toUpper_cases c.toUpper with ⟨-, low', -, -⟩ | ⟨other, -⟩
    · omega
    · exact other
  · rw [same, other]

theorem toUpper_toUpper (c : Char) : c.toUpper.toUpper = c.toUpper := by
  rcases toUpper_cases c.toUpper with ⟨lower, -⟩ | ⟨-, same⟩
  · rw [isLower_toUpper] at lower
    cases lower
  · exact same

theorem toUpper_eq_iff {c mark : Char} (noLetter : mark.toNat < 65) :
    c.toUpper = mark ↔ c = mark := by
  rcases toUpper_cases c with ⟨-, low, high, upper⟩ | ⟨-, same⟩
  · rw [← Char.toNat_inj, ← Char.toNat_inj]
    omega
  · rw [same]

namespace Text

theorem isBlank_iff {c : Char} : isBlank c = true ↔
    ∃ range ∈ blankRanges, range.1 ≤ c.toNat ∧ c.toNat ≤ range.2 := by
  simp only [isBlank, List.any_eq_true, Bool.and_eq_true, decide_eq_true_eq]

theorem isBlank_toUpper (c : Char) : isBlank c.toUpper = isBlank c := by
  rcases toUpper_cases c with ⟨-, low, high, upper⟩ | ⟨-, same⟩
  · rw [Bool.eq_iff_iff, isBlank_iff, isBlank_iff]
    simp only [blankRanges, List.mem_cons, List.not_mem_nil, or_false, exists_eq_or_imp,
      exists_eq_left]
    omega
  · rw [same]

theorem isBlank_of_isDigit {c : Char} (digit : c.isDigit = true) : isBlank c = false := by
  have bounds : 48 ≤ c.toNat ∧ c.toNat ≤ 57 := by simpa [Char.isDigit_iff_toNat] using digit
  simp only [isBlank, blankRanges, List.any_cons, List.any_nil, Bool.or_false,
    Bool.or_eq_false_iff, Bool.and_eq_false_iff, decide_eq_false_iff_not]
  omega

theorem dropBlankEnd_eq (text : List Char) : dropBlankEnd text = text.rdropWhile isBlank := by
  induction text with
  | nil => rfl
  | cons c rest ih =>
    rw [dropBlankEnd, ih, List.rdropWhile, List.rdropWhile, List.reverse_cons,
      List.dropWhile_append]
    cases kept : rest.reverse.dropWhile isBlank with
    | nil => by_cases blank : isBlank c <;> simp [blank]
    | cons last others =>
      cases reversed : (last :: others).reverse with
      | nil => simp at reversed
      | cons first more => simp [← reversed]

theorem toList_trim (text : String) :
    (trim text).toList = (text.toList.dropWhile isBlank).rdropWhile isBlank := by
  rw [trim, String.toList_ofList, dropBlankEnd_eq]

/-- There is nothing but blanks in a text. -/
def OnlyBlanks (text : String) : Prop := ∀ c ∈ text.toList, isBlank c = true

instance (text : String) : Decidable (OnlyBlanks text) :=
  List.decidableBAll (fun c => isBlank c = true) text.toList

theorem trim_eq_empty_iff {text : String} : trim text = "" ↔ OnlyBlanks text := by
  rw [← String.toList_inj, toList_trim, String.toList_empty, List.rdropWhile_eq_nil_iff, OnlyBlanks]
  constructor
  · intro blank c member
    rw [← List.takeWhile_append_dropWhile (p := isBlank) (l := text.toList)] at member
    rcases List.mem_append.mp member with front | behind
    · exact List.mem_takeWhile_imp front
    · exact blank c behind
  · exact fun blank c member => blank c ((List.dropWhile_sublist _).mem member)

/-- A text begins and ends with something that is not blank, if there is anything in it. -/
structure Trimmed (text : String) : Prop where
  front : ∀ c ∈ text.toList.head?, isBlank c = false
  back : ∀ c ∈ text.toList.getLast?, isBlank c = false

theorem trimmed_of_solid {text : String} (solid : ∀ c ∈ text.toList, isBlank c = false) :
    Trimmed text where
  front c first := solid c (List.mem_of_head? first)
  back c last := solid c (List.mem_of_getLast? last)

theorem trimmed_trim (text : String) : Trimmed (trim text) where
  front c first := by
    obtain ⟨behind, whole⟩ := List.rdropWhile_prefix isBlank (text.toList.dropWhile isBlank)
    rw [← toList_trim] at whole
    have stopped := List.head?_dropWhile_not isBlank text.toList
    rw [← whole, List.head?_append, first, Option.some_or] at stopped
    exact stopped
  back c last := by
    obtain ⟨something, rfl⟩ := List.mem_getLast?_eq_getLast last
    rw [List.getLast_congr something (toList_trim text ▸ something) (toList_trim text)]
    exact Bool.eq_false_iff.mpr (List.rdropWhile_last_not _ _ _)

theorem trim_eq_self_iff {text : String} : trim text = text ↔ Trimmed text := by
  refine ⟨fun same => same ▸ trimmed_trim text, fun trimmed => ?_⟩
  rw [← String.toList_inj, toList_trim]
  have front : text.toList.dropWhile isBlank = text.toList := by
    have first := trimmed.front
    cases spelled : text.toList with
    | nil => rfl
    | cons c rest =>
      rw [spelled] at first
      rw [List.dropWhile_cons_of_neg (Bool.eq_false_iff.mp (first c rfl))]
  rw [front, List.rdropWhile_eq_self_iff]
  intro something
  exact Bool.eq_false_iff.mp (trimmed.back _ (List.getLast?_eq_some_getLast something))

theorem Trimmed.not_onlyBlanks {text : String} (trimmed : Trimmed text) (something : text ≠ "") :
    ¬ OnlyBlanks text := by
  rw [← trim_eq_empty_iff, trim_eq_self_iff.mpr trimmed]
  exact something

end Text

/-- A text with its letters in upper case. -/
def upperCase (text : String) : String := String.ofList (text.toList.map Char.toUpper)

theorem upperCase_eq_self {text : String} (upper : ∀ c ∈ text.toList, c.isLower = false) :
    upperCase text = text := by
  have same : ∀ c ∈ text.toList, c.toUpper = c := by
    intro c member
    rcases toUpper_cases c with ⟨lower, -⟩ | ⟨-, same⟩
    · rw [upper c member] at lower
      cases lower
    · exact same
  rw [upperCase, List.map_congr_left same, List.map_id', String.ofList_toList]

theorem upperCase_eq_empty_iff {text : String} : upperCase text = "" ↔ text = "" := by
  rw [← String.toList_inj, ← String.toList_inj, upperCase, String.toList_ofList]
  exact List.map_eq_nil_iff

theorem trimmed_upperCase {text : String} (trimmed : Text.Trimmed text) :
    Text.Trimmed (upperCase text) where
  front c first := by
    simp only [upperCase, String.toList_ofList, List.head?_map, Option.mem_def,
      Option.map_eq_some_iff] at first
    obtain ⟨lower, first, rfl⟩ := first
    rw [Text.isBlank_toUpper]
    exact trimmed.front lower first
  back c last := by
    simp only [upperCase, String.toList_ofList, List.getLast?_map, Option.mem_def,
      Option.map_eq_some_iff] at last
    obtain ⟨lower, last, rfl⟩ := last
    rw [Text.isBlank_toUpper]
    exact trimmed.back lower last

theorem isLower_of_mem_upperCase {text : String} {c : Char} (member : c ∈ (upperCase text).toList) :
    c.isLower = false := by
  rw [upperCase, String.toList_ofList] at member
  obtain ⟨lower, -, rfl⟩ := List.mem_map.mp member
  exact isLower_toUpper lower

end WeatherRelay
