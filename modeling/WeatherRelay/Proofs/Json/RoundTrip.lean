import Mathlib.Data.List.DropRight
import Mathlib.Data.List.Forall2
import WeatherRelay.Json.Reader
import WeatherRelay.Json.Text
import WeatherRelay.Proofs.Decimal.Digits

/-! What is written as JSON reads back.

A string is read unit by unit as it was escaped, and its units are its characters again. An array is
read item by item and an object member by member, on one line or over several, whatever the values
are, as long as each of them reads back where a value may end.
-/

set_option autoImplicit false

namespace WeatherRelay.Json

section Strings

/-- The unit that a written character is read as: an escape by code where there is no shorter one. -/
def unitOf (c : Char) : StringUnit :=
  if c < ' ' ∧ c ∉ ['\x08', '\t', '\n', '\x0c', '\r'] then .code c.toNat else .char c

/-- A text as the units of a string. -/
def unitsOf (text : String) : List StringUnit := text.toList.map unitOf

theorem hexValue?_digitChar {n : Nat} (small : n < 16) : hexValue? n.digitChar = some n := by
  have each : ∀ n < 16, hexValue? n.digitChar = some n := by decide
  exact each n small

theorem code_digits {n : Nat} (small : n < 32) :
    (zeroPad 4 (String.ofList (Nat.toDigits 16 n))).toList =
      ['0', '0', (n / 16).digitChar, (n % 16).digitChar] := by
  rw [toList_zeroPad, String.toList_ofList, String.length_ofList]
  have each : ∀ n < 32, List.replicate (4 - (Nat.toDigits 16 n).length) '0' ++ Nat.toDigits 16 n =
      ['0', '0', (n / 16).digitChar, (n % 16).digitChar] := by decide
  exact each n small

/-- A unit in front of what else is read. -/
def withUnit (unit : StringUnit) (read : Option (List StringUnit × List Symbol)) :
    Option (List StringUnit × List Symbol) :=
  read.map fun (units, rest) => (unit :: units, rest)

variable (rest : List Symbol)

theorem readUnits_self {c : Char} (noQuote : c ≠ '"') (noEscape : c ≠ '\\') (visible : ¬ c < ' ') :
    readUnits .plain (some c :: rest) = withUnit (.char c) (readUnits .plain rest) := by
  rw [readUnits, if_neg noQuote, if_neg noEscape, if_neg visible]
  cases readUnits .plain rest <;> rfl

theorem readUnits_escaped {mark c : Char} (noCode : mark ≠ 'u') (stands : escapedChar? mark = some c) :
    readUnits .plain (some '\\' :: some mark :: rest) =
      withUnit (.char c) (readUnits .plain rest) := by
  rw [readUnits, if_neg (by decide), if_pos rfl, readUnits, if_neg noCode, stands]
  cases readUnits .plain rest <;> rfl

theorem readUnits_code {n : Nat} (small : n < 32) :
    readUnits .plain (some '\\' :: some 'u' ::
        (['0', '0', (n / 16).digitChar, (n % 16).digitChar].map some ++ rest)) =
      withUnit (.code n) (readUnits .plain rest) := by
  have zero : hexValue? '0' = some 0 := by decide
  have high := hexValue?_digitChar (by omega : n / 16 < 16)
  have low := hexValue?_digitChar (by omega : n % 16 < 16)
  have value : 16 * (n / 16) + n % 16 = n := by omega
  simp [readUnits, zero, high, low, value]
  cases readUnits .plain rest <;> rfl

theorem readUnits_charText (c : Char) :
    readUnits .plain (symbolsOfText (charText c) ++ rest) =
      withUnit (unitOf c) (readUnits .plain rest) := by
  unfold charText
  by_cases short : c ∈ ['"', '\\', '\x08', '\t', '\n', '\x0c', '\r']
  · simp only [List.mem_cons, List.not_mem_nil, or_false] at short
    rcases short with rfl | rfl | rfl | rfl | rfl | rfl | rfl <;>
      exact readUnits_escaped rest (by decide) (by decide)
  obtain ⟨quote, backslash, backspace, tab, newline, feed, carriage⟩ : c ≠ '"' ∧ c ≠ '\\' ∧
      c ≠ '\x08' ∧ c ≠ '\t' ∧ c ≠ '\n' ∧ c ≠ '\x0c' ∧ c ≠ '\r' := by simpa using short
  simp only [quote, backslash, backspace, tab, newline, feed, carriage, if_false]
  by_cases control : c < ' '
  · have small : c.toNat < 32 := control
    have unit : unitOf c = .code c.toNat := by
      simp [unitOf, control, backspace, tab, newline, feed, carriage]
    rw [if_pos control, unit, ← readUnits_code rest small, ← code_digits small]
    simp [symbolsOfText]
  · have unit : unitOf c = .char c := by simp [unitOf, control]
    rw [if_neg control, unit, ← readUnits_self rest quote backslash control]
    simp [symbolsOfText]

theorem readUnits_join (characters : List Char) :
    readUnits .plain
        (symbolsOfText (String.join (characters.map charText)) ++ some '"' :: rest) =
      some (characters.map unitOf, rest) := by
  induction characters with
  | nil => rfl
  | cons c others ih =>
    have front : symbolsOfText (String.join ((c :: others).map charText)) =
        symbolsOfText (charText c) ++ symbolsOfText (String.join (others.map charText)) := by
      simp [symbolsOfText]
    rw [front, List.append_assoc, readUnits_charText, ih]
    rfl

-- No code that is written is a surrogate, so none waits for a partner.
theorem decodeUnits_code {n : Nat} (small : n < 32) (units : List StringUnit) :
    decodeUnits (.code n :: units) = (decodeUnits units).map (Char.ofNat n :: ·) := by
  have high : isHighSurrogate n = false := by
    simp only [isHighSurrogate, Bool.and_eq_false_iff, decide_eq_false_iff_not]
    omega
  have low : isLowSurrogate n = false := by
    simp only [isLowSurrogate, Bool.and_eq_false_iff, decide_eq_false_iff_not]
    omega
  cases units with
  | nil => simp [decodeUnits, high, low]
  | cons unit units => cases unit <;> simp [decodeUnits, high, low]

theorem decodeUnits_unitOf (characters : List Char) :
    decodeUnits (characters.map unitOf) = some characters := by
  induction characters with
  | nil => rfl
  | cons c others ih =>
    rw [List.map_cons, unitOf]
    split
    case isTrue control =>
      have small : c.toNat < 32 := control.1
      rw [decodeUnits_code small, ih, Option.map_some, Char.ofNat_toNat]
    case isFalse => rw [decodeUnits, ih, Option.map_some]

@[simp] theorem decodeString?_unitsOf (text : String) : decodeString? (unitsOf text) = some text := by
  rw [decodeString?, unitsOf, decodeUnits_unitOf, Option.map_some, String.ofList_toList]

theorem readUnits_stringText (text : String) :
    ∃ input, symbolsOfText (stringText text) ++ rest = some '"' :: input ∧
      readUnits .plain input = some (unitsOf text, rest) := by
  refine ⟨_, ?_, readUnits_join rest text.toList⟩
  simp [stringText, symbolsOfText]

end Strings

/-- A text reads as a value, whatever stands behind it. No call of the reader is nested deeper than
the text is long. -/
def ReadsAs (text : String) (tree : Tree) : Prop :=
  ∀ fuel rest, text.length < fuel → readValue fuel (symbolsOfText text ++ rest) = some (tree, rest)

theorem length_symbolsOfText (text : String) : (symbolsOfText text).length = text.length := by
  rw [symbolsOfText, List.length_map, String.length_toList]

/-- Nothing but blanks. -/
def Blank (text : String) : Prop := ∀ c ∈ text.toList, isBlank (some c) = true

instance (text : String) : Decidable (Blank text) :=
  List.decidableBAll (fun c => isBlank (some c) = true) text.toList

theorem Blank.append {left right : String} (blankLeft : Blank left) (blankRight : Blank right) :
    Blank (left ++ right) := by
  intro c member
  rw [String.toList_append] at member
  exact (List.mem_append.mp member).elim (blankLeft c) (blankRight c)

theorem blank_newline : Blank "\n" := by decide

theorem skipBlank_blanks {blanks : String} (blank : Blank blanks) (input : List Symbol) :
    skipBlank (symbolsOfText blanks ++ input) = skipBlank input := by
  refine List.dropWhile_append_of_pos ?_
  intro symbol member
  obtain ⟨c, inBlanks, rfl⟩ := List.mem_map.mp member
  exact blank c inBlanks

theorem skipBlank_solid {symbol : Symbol} (solid : isBlank symbol = false) (input : List Symbol) :
    skipBlank (symbol :: input) = symbol :: input := by
  simp [skipBlank, solid]

theorem skipBlank_skipBlank (input : List Symbol) : skipBlank (skipBlank input) = skipBlank input :=
  List.dropWhile_idempotent _ _

theorem readsAs_stringText (text : String) : ReadsAs (stringText text) (.string (unitsOf text)) := by
  intro fuel rest enough
  obtain ⟨input, front, read⟩ := readUnits_stringText rest text
  obtain ⟨fuel, rfl⟩ : ∃ less, fuel = less + 1 := ⟨fuel - 1, by omega⟩
  rw [front, readValue, skipBlank_solid (by decide)]
  simp only [read, Option.map_some]

theorem readValue_skipBlank (fuel : Nat) (input : List Symbol) :
    readValue fuel (skipBlank input) = readValue fuel input := by
  cases fuel with
  | zero => rfl
  | succ fuel => rw [readValue, skipBlank_skipBlank, readValue]

theorem readMembers_skipBlank (fuel : Nat) (input : List Symbol) :
    readMembers fuel (skipBlank input) = readMembers fuel input := by
  cases fuel with
  | zero => rfl
  | succ fuel =>
    have key : readKey (skipBlank input) = readKey input := by
      rw [readKey, skipBlank_skipBlank, readKey]
    rw [readMembers, key, readMembers]

theorem readKey_stringText {blanks : String} (blank : Blank blanks) (key : String)
    (rest : List Symbol) :
    readKey (symbolsOfText blanks ++ (symbolsOfText (stringText key) ++ some ':' :: rest)) =
      some (unitsOf key, rest) := by
  obtain ⟨input, front, read⟩ := readUnits_stringText (some ':' :: rest) key
  rw [readKey, skipBlank_blanks blank, front, skipBlank_solid (by decide)]
  simp only [read, Option.bind_eq_bind, Option.bind_some,
    skipBlank_solid (by decide : isBlank (some ':') = false)]

/-- What may stand behind a value: nothing, a blank, or a mark that separates or closes. -/
def Ends : List Symbol → Prop
  | [] => True
  | symbol :: _ => isBlank symbol = true ∨ symbol ∈ [some ',', some ']', some '\x7d']

/-- A text reads as a value wherever one may end behind it. -/
def ReadsWithin (text : String) (tree : Tree) : Prop :=
  ∀ fuel rest, text.length < fuel → Ends rest →
    readValue fuel (symbolsOfText text ++ rest) = some (tree, rest)

theorem ReadsAs.within {text : String} {tree : Tree} (reads : ReadsAs text tree) :
    ReadsWithin text tree := fun fuel rest enough _ => reads fuel rest enough

theorem ends_mark {mark : Symbol} (isMark : mark ∈ [some ',', some ']', some '\x7d'])
    (rest : List Symbol) : Ends (mark :: rest) := Or.inr isMark

theorem Ends.of_skipBlank {behind rest : List Symbol} {mark : Symbol}
    (found : skipBlank behind = mark :: rest) (isMark : mark ∈ [some ',', some ']', some '\x7d']) :
    Ends behind := by
  cases behind with
  | nil => trivial
  | cons symbol behind =>
    cases blank : isBlank symbol with
    | true => exact Or.inl blank
    | false =>
      rw [skipBlank_solid blank] at found
      cases found
      exact ends_mark isMark _

section Arrays

variable {texts : List String} {trees : List Tree}

theorem readValue_close (fuel : Nat) (rest : List Symbol) :
    readValue fuel (some ']' :: rest) = none := by
  cases fuel <;> rfl

theorem readItems_skipBlank (fuel : Nat) (input : List Symbol) :
    readItems fuel (skipBlank input) = readItems fuel input := by
  cases fuel with
  | zero => rfl
  | succ fuel => rw [readItems, readValue_skipBlank, readItems]

/-- Items are no array that is closed at once. -/
theorem readValue_array {fuel : Nat} {input rest : List Symbol}
    (read : readItems fuel input = some (trees, rest)) :
    readValue (fuel + 1) (some '[' :: input) = some (.array trees, rest) := by
  rw [← readItems_skipBlank] at read
  rw [readValue, skipBlank_solid (by decide)]
  simp only
  split
  case h_1 closed =>
    rw [closed] at read
    cases fuel with
    | zero => cases read
    | succ fuel =>
      rw [readItems, readValue_close] at read
      cases read
  case h_2 =>
    rw [read]
    rfl

theorem readItems_intercalate (reads : List.Forall₂ ReadsWithin texts trees) (nonempty : texts ≠ [])
    {fuel : Nat} (enough : (String.intercalate "," texts).length + 1 < fuel) (rest : List Symbol) :
    readItems fuel (symbolsOfText (String.intercalate "," texts) ++ some ']' :: rest) =
      some (trees, rest) := by
  obtain ⟨fuel, rfl⟩ : ∃ less, fuel = less + 1 := ⟨fuel - 1, by omega⟩
  induction reads generalizing fuel with
  | nil => exact absurd rfl nonempty
  | @cons text tree others _ first later ih =>
    cases later with
    | nil =>
      rw [String.intercalate_singleton] at enough ⊢
      rw [readItems, first fuel _ (by omega) (ends_mark (by simp) rest)]
      simp [skipBlank_solid (by decide : isBlank (some ']') = false)]
    | @cons second _ others _ _ _ =>
      have separator : ("," : String).length = 1 := rfl
      rw [String.intercalate_cons_cons, String.length_append, String.length_append, separator]
        at enough
      obtain ⟨less, rfl⟩ : ∃ less, fuel = less + 1 := ⟨fuel - 1, by omega⟩
      have behind := ih (List.cons_ne_nil _ _) less (by omega)
      have line : symbolsOfText (String.intercalate "," (text :: second :: others)) ++
          some ']' :: rest = symbolsOfText text ++ some ',' ::
            (symbolsOfText (String.intercalate "," (second :: others)) ++ some ']' :: rest) := by
        rw [String.intercalate_cons_cons]
        simp [symbolsOfText]
      rw [line, readItems, first (less + 1) _ (by omega) (ends_mark (by simp) _)]
      simp only [Option.bind_eq_bind, Option.bind_some,
        skipBlank_solid (by decide : isBlank (some ',') = false), behind]

theorem readsAs_arrayText (reads : List.Forall₂ ReadsWithin texts trees) :
    ReadsAs (arrayText texts) (.array trees) := by
  intro fuel rest enough
  obtain ⟨fuel, rfl⟩ : ∃ less, fuel = less + 1 := ⟨fuel - 1, by omega⟩
  cases nonempty : texts with
  | nil =>
    rw [nonempty] at reads
    cases reads
    simp [arrayText, symbolsOfText, readValue, skipBlank, isBlank]
  | cons first others =>
    rw [← nonempty]
    have marks : ("[" : String).length = 1 ∧ ("]" : String).length = 1 := ⟨rfl, rfl⟩
    simp only [arrayText, String.length_append, marks] at enough
    have read := readItems_intercalate reads (by simp [nonempty]) (by omega : _ < fuel) rest
    have front : symbolsOfText (arrayText texts) ++ rest = some '[' ::
        (symbolsOfText (String.intercalate "," texts) ++ some ']' :: rest) := by
      simp [arrayText, symbolsOfText]
    rw [front, readValue_array read]

end Arrays

section Objects

/-- A line reads as a member of an object wherever one may end behind it. -/
def ReadsAsMember (line : String) (member : List StringUnit × Tree) : Prop :=
  ∀ fuel rest, line.length ≤ fuel → Ends rest →
    ∃ input, readKey (symbolsOfText line ++ rest) = some (member.1, input) ∧
      readValue fuel input = some (member.2, rest)

/-- There may be blanks in front of the key and of the value. -/
theorem readsAsMember {front gap text : String} {tree : Tree} (blankFront : Blank front)
    (blankGap : Blank gap) (key : String) (reads : ReadsWithin text tree) :
    ReadsAsMember (front ++ stringText key ++ ":" ++ gap ++ text) (unitsOf key, tree) := by
  intro fuel rest enough ends
  have size : text.length < fuel := by
    have colon : (":" : String).length = 1 := rfl
    simp only [String.length_append, colon] at enough
    omega
  have line : symbolsOfText (front ++ stringText key ++ ":" ++ gap ++ text) ++ rest =
      symbolsOfText front ++ (symbolsOfText (stringText key) ++ some ':' ::
        (symbolsOfText gap ++ (symbolsOfText text ++ rest))) := by
    simp [symbolsOfText]
  refine ⟨symbolsOfText gap ++ (symbolsOfText text ++ rest), ?_, ?_⟩
  · rw [line, readKey_stringText blankFront]
  · rw [← readValue_skipBlank, skipBlank_blanks blankGap, readValue_skipBlank,
      reads fuel rest size ends]

variable {lines : List String} {found : List (List StringUnit × Tree)}

theorem readMembers_intercalate (reads : List.Forall₂ ReadsAsMember lines found)
    (nonempty : lines ≠ []) {fuel : Nat}
    (enough : (String.intercalate "," lines).length < fuel) {behind rest : List Symbol}
    (closes : skipBlank behind = some '\x7d' :: rest) :
    readMembers fuel (symbolsOfText (String.intercalate "," lines) ++ behind) =
      some (found, rest) := by
  obtain ⟨fuel, rfl⟩ : ∃ less, fuel = less + 1 := ⟨fuel - 1, by omega⟩
  induction reads generalizing fuel with
  | nil => exact absurd rfl nonempty
  | @cons line member _ _ first later ih =>
    cases later with
    | nil =>
      rw [String.intercalate_singleton] at enough ⊢
      obtain ⟨input, named, valued⟩ := first fuel behind (by omega) (.of_skipBlank closes (by simp))
      rw [readMembers, named]
      simp only [Option.bind_eq_bind, Option.bind_some, valued, closes]
    | @cons second _ others _ _ _ =>
      have separator : ("," : String).length = 1 := rfl
      rw [String.intercalate_cons_cons, String.length_append, String.length_append, separator]
        at enough
      obtain ⟨less, rfl⟩ : ∃ less, fuel = less + 1 := ⟨fuel - 1, by omega⟩
      have further := ih (List.cons_ne_nil _ _) less (by omega)
      obtain ⟨input, named, valued⟩ := first (less + 1) (some ',' ::
        (symbolsOfText (String.intercalate "," (second :: others)) ++ behind)) (by omega)
        (ends_mark (by simp) _)
      have front : symbolsOfText (String.intercalate "," (line :: second :: others)) ++ behind =
          symbolsOfText line ++ some ',' ::
            (symbolsOfText (String.intercalate "," (second :: others)) ++ behind) := by
        rw [String.intercalate_cons_cons]
        simp [symbolsOfText]
      rw [front, readMembers, named]
      simp only [Option.bind_eq_bind, Option.bind_some, valued,
        skipBlank_solid (by decide : isBlank (some ',') = false), further]

theorem readKey_close (rest : List Symbol) : readKey (some '\x7d' :: rest) = none := rfl

/-- Members are no object that is closed at once. -/
theorem readValue_object {fuel : Nat} {input rest : List Symbol}
    (read : readMembers fuel input = some (found, rest)) :
    readValue (fuel + 1) (some '\x7b' :: input) = some (.object found, rest) := by
  rw [← readMembers_skipBlank] at read
  rw [readValue, skipBlank_solid (by decide)]
  simp only
  split
  case h_1 closed =>
    rw [closed] at read
    cases fuel with
    | zero => cases read
    | succ fuel =>
      rw [readMembers, readKey_close] at read
      cases read
  case h_2 =>
    rw [read]
    rfl

theorem readsAs_braces (reads : List.Forall₂ ReadsAsMember lines found) {closing : String}
    (blank : Blank closing) :
    ReadsAs ("\x7b" ++ String.intercalate "," lines ++ closing ++ "\x7d") (.object found) := by
  intro fuel rest enough
  obtain ⟨fuel, rfl⟩ : ∃ less, fuel = less + 1 := ⟨fuel - 1, by omega⟩
  have closes : skipBlank (symbolsOfText closing ++ some '\x7d' :: rest) = some '\x7d' :: rest := by
    rw [skipBlank_blanks blank, skipBlank_solid (by decide)]
  have front : symbolsOfText ("\x7b" ++ String.intercalate "," lines ++ closing ++ "\x7d") ++ rest =
      some '\x7b' :: (symbolsOfText (String.intercalate "," lines) ++
        (symbolsOfText closing ++ some '\x7d' :: rest)) := by
    simp [symbolsOfText]
  rw [front]
  cases nonempty : lines with
  | nil =>
    rw [nonempty] at reads
    cases reads
    rw [String.intercalate_nil, readValue, skipBlank_solid (by decide)]
    simp only [symbolsOfText, String.toList_empty, List.map_nil, List.nil_append] at closes ⊢
    simp only [closes]
  | cons first others =>
    rw [← nonempty]
    have brace : ("\x7b" : String).length = 1 := rfl
    simp only [String.length_append, brace] at enough
    exact readValue_object
      (readMembers_intercalate reads (by simp [nonempty]) (by omega : _ < fuel) closes)

variable {α : Type} (key text : α → String) (tree : α → Tree)

/-- The members as they are read. -/
def members (items : List α) : List (List StringUnit × Tree) :=
  items.map fun item => (unitsOf (key item), tree item)

variable {text tree} {items : List α}

theorem forall₂_members {front gap : String} (blankFront : Blank front) (blankGap : Blank gap)
    (reads : ∀ item ∈ items, ReadsWithin (text item) (tree item)) :
    List.Forall₂ ReadsAsMember
      (items.map fun item => front ++ stringText (key item) ++ ":" ++ gap ++ text item)
      (members key tree items) := by
  unfold members
  simp only [List.forall₂_map_left_iff, List.forall₂_map_right_iff, List.forall₂_same]
  exact fun item member => readsAsMember blankFront blankGap (key item) (reads item member)

theorem readsAs_objectText (reads : ∀ item ∈ items, ReadsWithin (text item) (tree item)) :
    ReadsAs (objectText (items.map fun item => (key item, text item)))
      (.object (members key tree items)) := by
  have blank : Blank "" := by decide
  have read := readsAs_braces (forall₂_members key blank blank reads) blank
  have same : (items.map fun item => "" ++ stringText (key item) ++ ":" ++ "" ++ text item) =
      items.map fun item => stringText (key item) ++ ":" ++ text item := by simp
  rw [same, String.append_empty] at read
  rw [objectText, List.map_map]
  exact read

-- The line breaks stand in front of the lines instead of behind the commas.
theorem newline_intercalate (first : String) (others : List String) :
    "\n" ++ String.intercalate ",\n" (first :: others) =
      String.intercalate "," ((first :: others).map fun line => "\n" ++ line) := by
  induction others generalizing first with
  | nil => simp
  | cons second others ih =>
    rw [String.intercalate_cons_cons, List.map_cons, List.map_cons, String.intercalate_cons_cons,
      ← List.map_cons, ← ih]
    apply String.toList_inj.mp
    simp

theorem prettyObjectText_cons (indent : String) (first : α) (others : List α) :
    prettyObjectText indent ((first :: others).map fun item => (key item, text item)) =
      "\x7b" ++ String.intercalate "," ((first :: others).map fun item =>
        "\n" ++ indent ++ "  " ++ stringText (key item) ++ ":" ++ " " ++ text item) ++
          ("\n" ++ indent) ++ "\x7d" := by
  have breaks := newline_intercalate
    (indent ++ "  " ++ stringText (key first) ++ ": " ++ text first)
    (others.map fun item => indent ++ "  " ++ stringText (key item) ++ ": " ++ text item)
  have gap : (": " : String) = ":" ++ " " := rfl
  have opening : ("\x7b\n" : String) = "\x7b" ++ "\n" := rfl
  simp only [List.map_cons, List.map_map, Function.comp_def, gap, ← String.append_assoc] at breaks
  simp only [prettyObjectText, List.map_cons, List.isEmpty_cons, Bool.false_eq_true, if_false,
    List.map_map, Function.comp_def, gap, opening, ← String.append_assoc, ← breaks]

theorem readsAs_prettyObjectText {indent : String} (blank : Blank indent)
    (reads : ∀ item ∈ items, ReadsAs (text item) (tree item)) :
    ReadsAs (prettyObjectText indent (items.map fun item => (key item, text item)))
      (.object (members key tree items)) := by
  cases items with
  | nil => exact @readsAs_objectText _ key text tree [] (List.forall_mem_nil _)
  | cons first others =>
    have closing : Blank ("\n" ++ indent) := blank_newline.append blank
    have front : Blank ("\n" ++ indent ++ "  ") := closing.append (by decide)
    rw [prettyObjectText_cons]
    exact readsAs_braces (forall₂_members key front (by decide : Blank " ")
      fun item member => (reads item member).within) closing

end Objects

theorem read?_of_readsWithin {text : String} {tree : Tree} (reads : ReadsWithin text tree) :
    read? (symbolsOfText text) = some tree := by
  have value := reads (2 * (symbolsOfText text).length + 2) []
    (by rw [length_symbolsOfText]; omega) trivial
  rw [List.append_nil] at value
  simp [read?, value, skipBlank]

theorem read?_of_readsAs {text : String} {tree : Tree} (reads : ReadsAs text tree) :
    read? (symbolsOfText text) = some tree := read?_of_readsWithin reads.within

end WeatherRelay.Json
