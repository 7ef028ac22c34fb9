import WeatherRelay.Proofs.Json.RoundTrip

/-! Numbers in JSON: which texts are numerals, and that every number is written as one.

What is not finite has no numeral and is written as null.
-/

set_option autoImplicit false

namespace WeatherRelay.Json

/-- Nothing but digits, and at least one. -/
def SomeDigits (characters : List Char) : Prop :=
  characters ≠ [] ∧ ∀ c ∈ characters, c.isDigit = true

/-- A numeral without its sign. -/
structure Numeral where
  whole : List Char
  fraction : Option (List Char) := none
  /-- Whether the power of ten is negative, and its digits. -/
  power : Option (Bool × List Char) := none
  whole_digits : SomeDigits whole
  /-- No zero stands in front of other digits. -/
  whole_leading : whole.head? = some '0' → whole = ['0']
  fraction_digits : ∀ digits ∈ fraction, SomeDigits digits
  power_digits : ∀ signed ∈ power, SomeDigits signed.2

namespace Numeral

def fractionText : Option (List Char) → List Char
  | none => []
  | some digits => '.' :: digits

def powerText : Option (Bool × List Char) → List Char
  | none => []
  | some (negative, digits) => 'e' :: (if negative then '-' else '+') :: digits

def characters (numeral : Numeral) : List Char :=
  numeral.whole ++ (fractionText numeral.fraction ++ powerText numeral.power)

def powerValue (signed : Bool × List Char) : Int :=
  let value : Int := Decimal.digitsValue signed.2
  if signed.1 then -value else value

/-- The number that is spelled, with a sign in front. -/
def number (negative : Bool) (numeral : Numeral) : Number :=
  ⟨negative, numeral.whole, numeral.fraction, numeral.power.map powerValue⟩

end Numeral

section Reading

variable {rest : List Symbol}

/-- No digit comes next. -/
def NoDigit (rest : List Symbol) : Prop := readDigits rest = ([], rest)

theorem noDigit_cons {c : Char} (other : c.isDigit = false) (rest : List Symbol) :
    NoDigit (some c :: rest) := by
  simp [NoDigit, readDigits, other]

theorem Ends.eq_nil_or_mark (ends : Ends rest) :
    rest = [] ∨ ∃ c ∈ [' ', '\t', '\n', '\r', ',', ']', '\x7d'], ∃ behind, rest = some c :: behind := by
  cases rest with
  | nil => exact .inl rfl
  | cons symbol behind =>
    refine .inr ?_
    rcases ends with blank | mark
    · cases symbol with
      | none => cases blank
      | some c =>
        refine ⟨c, ?_, behind, rfl⟩
        simp only [isBlank, Bool.or_eq_true, decide_eq_true_eq, or_assoc] at blank
        rcases blank with rfl | rfl | rfl | rfl <;> simp
    · simp only [List.mem_cons, List.not_mem_nil, or_false] at mark
      rcases mark with rfl | rfl | rfl <;> exact ⟨_, by simp, behind, rfl⟩

theorem Ends.noDigit (ends : Ends rest) : NoDigit rest := by
  rcases ends.eq_nil_or_mark with rfl | ⟨c, mark, behind, rfl⟩
  · rfl
  · simp only [List.mem_cons, List.not_mem_nil, or_false] at mark
    rcases mark with rfl | rfl | rfl | rfl | rfl | rfl | rfl <;> exact noDigit_cons rfl behind

theorem Ends.readFraction (ends : Ends rest) : readFraction rest = some (none, rest) := by
  rcases ends.eq_nil_or_mark with rfl | ⟨c, mark, behind, rfl⟩
  · rfl
  · simp only [List.mem_cons, List.not_mem_nil, or_false] at mark
    rcases mark with rfl | rfl | rfl | rfl | rfl | rfl | rfl <;> rfl

theorem Ends.readPower (ends : Ends rest) : readPower rest = some (none, rest) := by
  rcases ends.eq_nil_or_mark with rfl | ⟨c, mark, behind, rfl⟩
  · rfl
  · simp only [List.mem_cons, List.not_mem_nil, or_false] at mark
    rcases mark with rfl | rfl | rfl | rfl | rfl | rfl | rfl <;> rfl

theorem readDigits_append {characters : List Char} (digits : ∀ c ∈ characters, c.isDigit = true)
    (stops : NoDigit rest) : readDigits (characters.map some ++ rest) = (characters, rest) := by
  induction characters with
  | nil => exact stops
  | cons c others ih =>
    obtain ⟨here, later⟩ := List.forall_mem_cons.mp digits
    simp [readDigits, here, ih later]

theorem readSomeDigits_append {characters : List Char} (digits : SomeDigits characters)
    (stops : NoDigit rest) :
    readSomeDigits (characters.map some ++ rest) = some (characters, rest) := by
  rw [readSomeDigits, readDigits_append digits.2 stops]
  cases characters with
  | nil => exact absurd rfl digits.1
  | cons => rfl

theorem readWhole_append (numeral : Numeral) (stops : NoDigit rest) :
    readWhole (numeral.whole.map some ++ rest) = some (numeral.whole, rest) := by
  rw [readWhole, readDigits_append numeral.whole_digits.2 stops]
  split
  case h_1 nothing => exact absurd (Prod.mk.inj nothing).1 numeral.whole_digits.1
  case h_2 zeros =>
    have leading := numeral.whole_leading
    rw [(Prod.mk.inj zeros).1] at leading
    cases leading rfl
  case h_3 same =>
    cases same
    rfl

theorem noDigit_powerText (power : Option (Bool × List Char)) (ends : Ends rest) :
    NoDigit ((Numeral.powerText power).map some ++ rest) := by
  cases power with
  | none => exact ends.noDigit
  | some signed => exact noDigit_cons (by decide) _

theorem noDigit_fractionText (fraction : Option (List Char)) (stops : NoDigit rest) :
    NoDigit ((Numeral.fractionText fraction).map some ++ rest) := by
  cases fraction with
  | none => exact stops
  | some digits => exact noDigit_cons (by decide) _

theorem readFraction_append (numeral : Numeral) (ends : Ends rest) :
    readFraction ((Numeral.fractionText numeral.fraction).map some ++
        ((Numeral.powerText numeral.power).map some ++ rest)) =
      some (numeral.fraction, (Numeral.powerText numeral.power).map some ++ rest) := by
  have stops := noDigit_powerText numeral.power ends
  cases given : numeral.fraction with
  | none =>
    cases numeral.power with
    | none => exact ends.readFraction
    | some signed => rfl
  | some digits =>
    have read := readSomeDigits_append (numeral.fraction_digits digits given) stops
    simp only [Numeral.fractionText, List.map_cons, List.cons_append, readFraction, read,
      Option.map_some]

theorem readPower_append (numeral : Numeral) (ends : Ends rest) :
    readPower ((Numeral.powerText numeral.power).map some ++ rest) =
      some (numeral.power.map Numeral.powerValue, rest) := by
  cases given : numeral.power with
  | none => exact ends.readPower
  | some signed =>
    obtain ⟨negative, digits⟩ := signed
    have read := readSomeDigits_append (numeral.power_digits _ given) ends.noDigit
    cases negative <;>
      simp [Numeral.powerText, readPower, read, Numeral.powerValue]

theorem readNumber_append (numeral : Numeral) (negative : Bool) (ends : Ends rest) :
    readNumber negative (numeral.characters.map some ++ rest) =
      some (.number (numeral.number negative), rest) := by
  have whole := readWhole_append numeral (noDigit_fractionText numeral.fraction
    (noDigit_powerText numeral.power ends))
  simp only [Numeral.characters, List.map_append, List.append_assoc, readNumber, whole,
    readFraction_append numeral ends, readPower_append numeral ends, Option.bind_eq_bind,
    Option.bind_some, Numeral.number]

theorem readValue_digit {c : Char} (digit : c.isDigit = true) (fuel : Nat) (input : List Symbol) :
    readValue (fuel + 1) (some c :: input) = readNumber false (some c :: input) := by
  have solid : isBlank (some c) = false := by
    simp only [isBlank, Bool.or_eq_false_iff, decide_eq_false_iff_not]
    refine ⟨⟨⟨?_, ?_⟩, ?_⟩, ?_⟩ <;> rintro rfl <;> exact absurd digit (by decide)
  rw [readValue, skipBlank_solid solid]
  split
  case h_8 => rfl
  all_goals
    rename_i same
    cases same
    exact absurd digit (by decide)

end Reading

theorem readsWithin_numeral (numeral : Numeral) (negative : Bool) :
    ReadsWithin ((if negative then "-" else "") ++ String.ofList numeral.characters)
      (.number (numeral.number negative)) := by
  intro fuel rest enough ends
  obtain ⟨fuel, rfl⟩ : ∃ less, fuel = less + 1 := ⟨fuel - 1, by omega⟩
  have read := readNumber_append numeral negative ends
  cases negative with
  | true =>
    have front : symbolsOfText ("-" ++ String.ofList numeral.characters) ++ rest =
        some '-' :: (numeral.characters.map some ++ rest) := by
      simp [symbolsOfText]
    rw [if_pos rfl, front, readValue, skipBlank_solid (by decide)]
    exact read
  | false =>
    obtain ⟨c, others, first⟩ := List.exists_cons_of_ne_nil numeral.whole_digits.1
    have digit := numeral.whole_digits.2 c (by simp [first])
    have front : symbolsOfText ("" ++ String.ofList numeral.characters) ++ rest =
        numeral.characters.map some ++ rest := by
      simp [symbolsOfText]
    rw [if_neg Bool.false_ne_true, front, ← read]
    simp only [Numeral.characters, first, List.cons_append, List.map_cons]
    exact readValue_digit digit fuel _

/-! ### How numbers are laid out -/

theorem head_toDigits (n : Nat) (positive : 0 < n) :
    (Nat.toDigits 10 n).head? ≠ some '0' := by
  induction n using Nat.strongRecOn with
  | _ n ih =>
    by_cases short : n < 10
    · have each : ∀ n < 10, 0 < n → (Nat.toDigits 10 n).head? ≠ some '0' := by decide
      exact each n short positive
    · rw [Nat.toDigits_of_base_le (by decide) (by omega), List.head?_append_of_ne_nil]
      · exact ih (n / 10) (by omega) (by omega)
      · exact Nat.toDigits_ne_nil

theorem someDigits_padded (width n : Nat) : SomeDigits (Decimal.padded width n) :=
  ⟨Decimal.padded_ne_nil width n, fun _ => Decimal.isDigit_of_mem_padded⟩

theorem padded_leading (n : Nat) (zero : (Decimal.padded 0 n).head? = some '0') :
    Decimal.padded 0 n = ['0'] := by
  cases n with
  | zero => rfl
  | succ n =>
    rw [Decimal.padded, Nat.zero_sub, List.replicate_zero, List.nil_append] at zero
    exact absurd zero (head_toDigits (n + 1) (Nat.succ_pos n))

namespace Numeral

/-- Digits before and after a point. -/
def pointed (whole places fraction : Nat) : Numeral where
  whole := Decimal.padded 0 whole
  fraction := some (Decimal.padded places fraction)
  whole_digits := someDigits_padded 0 whole
  whole_leading := padded_leading whole
  fraction_digits := by
    rintro digits ⟨⟩
    exact someDigits_padded places fraction
  power_digits _ member := by cases member

/-- Digits times a power of ten; at least one digit stands behind the point. -/
def positional (digits : Nat) (power : Int) : Numeral :=
  if 0 ≤ power then pointed (digits * tenTo power.toNat) 1 0
  else
    let places := (-power).toNat
    pointed (digits / tenTo places) places (digits % tenTo places)

/-- One digit before the point, and a power of ten. -/
def scientific (digits : Nat) (power : Int) : Numeral where
  whole := (Decimal.padded 0 digits).take 1
  fraction :=
    if (Decimal.padded 0 digits).drop 1 = [] then none else some ((Decimal.padded 0 digits).drop 1)
  power :=
    let exponent := power + ((Decimal.padded 0 digits).length - 1 : Nat)
    some (decide (exponent < 0), Decimal.padded 0 exponent.natAbs)
  whole_digits := by
    refine ⟨by simp [Decimal.padded_ne_nil], fun c member => ?_⟩
    exact Decimal.isDigit_of_mem_padded (List.mem_of_mem_take member)
  whole_leading zero := by
    obtain ⟨first, rest, same, -⟩ := Decimal.padded_eq_cons 0 digits
    rw [same] at zero ⊢
    cases zero
    rfl
  fraction_digits given member := by
    split at member
    case isTrue => cases member
    case isFalse some =>
      cases member
      exact ⟨some, fun c inside => Decimal.isDigit_of_mem_padded (List.mem_of_mem_drop inside)⟩
  power_digits := by
    rintro signed ⟨⟩
    exact someDigits_padded 0 _

theorem ofList_pointed (whole places fraction : Nat) :
    String.ofList (pointed whole places fraction).characters =
      toString whole ++ "." ++ zeroPad places (toString fraction) := by
  apply String.toList_inj.mp
  have padding := Decimal.toList_zeroPad_repr places fraction
  rw [← Nat.toString_eq_repr] at padding
  simp [-Nat.toString_eq_repr, characters, pointed, fractionText, powerText,
    Decimal.toList_toString, padding]

theorem ofList_scientific (digits : Nat) (power : Int) :
    String.ofList (scientific digits power).characters = Decimal.scientific digits power := by
  apply String.toList_inj.mp
  simp only [Decimal.scientific, scientific, characters, powerText, Decimal.toList_toString,
    String.toList_ofList, String.toList_append, List.isEmpty_iff]
  have sign (exponent : Int) : (if exponent < 0 then "-" else "+" : String).toList =
      [if exponent < 0 then '-' else '+'] := by split <;> rfl
  obtain ⟨first, others, same, -⟩ := Decimal.padded_eq_cons 0 digits
  rw [same]
  cases others <;> simp [fractionText, sign]

theorem ofList_positional (digits : Nat) (power : Int) :
    String.ofList (positional digits power).characters =
      Decimal.positional digits power ++ (if 0 ≤ power then ".0" else "") := by
  unfold positional Decimal.positional
  by_cases whole : 0 ≤ power
  · rw [if_pos whole, if_pos whole, if_pos whole, ofList_pointed, String.append_assoc]
    rfl
  · have places : (-power).toNat ≠ 0 := by omega
    rw [if_neg whole, if_neg whole, if_neg whole, ofList_pointed, Decimal.pointed, if_neg places,
      String.append_empty]

/-- How a magnitude is written. -/
def ofRank (format : Format) (rank : Nat) : Numeral :=
  if rank = 0 then pointed 0 1 0
  else
    let (digits, power) := Decimal.shortest format rank
    if isPlain digits power then positional digits power else scientific digits power

/-- No number is written as an integer. -/
theorem isIntegral_ofRank (format : Format) (negative : Bool) (rank : Nat) :
    ((ofRank format rank).number negative).isIntegral = false := by
  unfold ofRank positional
  dsimp only
  split
  · rfl
  · split
    · split <;> rfl
    · simp [number, Number.isIntegral, scientific]

end Numeral

theorem numberText_finite {format : Format} (negative : Bool) (rank : Fin format.infinityRank) :
    numberText (.finite negative rank) =
      (if negative then "-" else "") ++ String.ofList (Numeral.ofRank format rank).characters := by
  unfold numberText Numeral.ofRank
  dsimp only
  by_cases zero : rank.val = 0
  · rw [if_pos zero, if_pos zero, Numeral.ofList_pointed]
    rfl
  · rw [if_neg zero, if_neg zero]
    by_cases plain : isPlain (Decimal.shortest format rank).1 (Decimal.shortest format rank).2
    · rw [if_pos plain, if_pos plain, Numeral.ofList_positional, String.append_assoc]
    · rw [if_neg plain, if_neg plain, Numeral.ofList_scientific]

/-- What a number is read as, before it is known which number that is. -/
def numberTree {format : Format} : Binary format → Tree
  | .nan | .infinity _ => .null
  | .finite negative rank => .number ((Numeral.ofRank format rank).number negative)

theorem readsAs_null : ReadsAs "null" .null := by
  intro fuel rest enough
  obtain ⟨fuel, rfl⟩ : ∃ less, fuel = less + 1 := ⟨fuel - 1, by omega⟩
  rfl

/-- Every finite number is written as a numeral. -/
theorem readsWithin_numberText {format : Format} (x : Binary format) :
    ReadsWithin (numberText x) (numberTree x) := by
  cases x with
  | nan | infinity => exact readsAs_null.within
  | finite negative rank =>
    rw [numberText_finite]
    exact readsWithin_numeral _ negative

end WeatherRelay.Json
