/-! Reading UTF-8.

A malformed sequence is the longest run of bytes that begins some well-formed one (a maximal
subpart), or a single byte that begins none.
-/

set_option autoImplicit false

namespace WeatherRelay.Text.Utf8

abbrev Bytes := List UInt8

/-- What stands at the front of a byte string. -/
inductive Piece where
  | scalar (c : Char)
  /-- This many bytes belong to no character. -/
  | malformed (length : Nat)
  /-- The bytes end inside a character that was well-formed so far. -/
  | truncated
  deriving DecidableEq, Repr

/-- The bytes of a character that starts with this one; zero where none does. -/
def width (lead : UInt8) : Nat :=
  if lead < 0x80 then 1
  else if 0xC2 ≤ lead && lead ≤ 0xDF then 2
  else if 0xE0 ≤ lead && lead ≤ 0xEF then 3
  else if 0xF0 ≤ lead && lead ≤ 0xF4 then 4
  else 0

def isContinuation (b : UInt8) : Bool := 0x80 ≤ b && b ≤ 0xBF

/-- Whether the second byte of a character excludes overlong forms, surrogates and code points
above the last. -/
def secondFits (lead b : UInt8) : Bool :=
  isContinuation b &&
    (lead != 0xE0 || 0xA0 ≤ b) && (lead != 0xED || b ≤ 0x9F) &&
    (lead != 0xF0 || 0x90 ≤ b) && (lead != 0xF4 || b ≤ 0x8F)

def payload (b : UInt8) : Nat := b.toNat % 64

/-- The piece that starts with a given byte, and what follows it. -/
def piece (lead : UInt8) (rest : Bytes) : Piece × Bytes :=
  match width lead with
  | 0 => (.malformed 1, rest)
  | 1 => (.scalar (Char.ofNat lead.toNat), rest)
  | width =>
    match rest with
    | [] => (.truncated, [])
    | second :: rest =>
      if !secondFits lead second then (.malformed 1, second :: rest)
      else if width = 2 then
        (.scalar (Char.ofNat (lead.toNat % 32 * 64 + payload second)), rest)
      else
        match rest with
        | [] => (.truncated, [])
        | third :: rest =>
          if !isContinuation third then (.malformed 2, third :: rest)
          else if width = 3 then
            (.scalar (Char.ofNat
              ((lead.toNat % 16 * 64 + payload second) * 64 + payload third)), rest)
          else
            match rest with
            | [] => (.truncated, [])
            | fourth :: rest =>
              if !isContinuation fourth then (.malformed 3, fourth :: rest)
              else
                (.scalar (Char.ofNat
                  (((lead.toNat % 8 * 64 + payload second) * 64 + payload third) * 64 +
                    payload fourth)), rest)

theorem length_piece_le (lead : UInt8) (rest : Bytes) :
    (piece lead rest).2.length ≤ rest.length := by
  unfold piece
  repeat' split
  all_goals simp_all
  all_goals omega

def pieces : Bytes → List Piece
  | [] => []
  | lead :: rest => (piece lead rest).1 :: pieces (piece lead rest).2
termination_by bytes => bytes.length
decreasing_by
  have := length_piece_le lead rest
  simp only [List.length_cons]
  omega

/-- Where and how a byte string stops being UTF-8. -/
structure Malformed where
  /-- The length of the longest well-formed part in front. -/
  validLength : Nat
  /-- The length of the malformed sequence behind it; none where the bytes just end. -/
  offending : Option Nat
  deriving DecidableEq, Repr

private def collect (validLength : Nat) (characters : List Char) :
    List Piece → Except Malformed String
  | [] => .ok (String.ofList characters.reverse)
  | .scalar c :: rest => collect (validLength + c.utf8Size) (c :: characters) rest
  | .malformed length :: _ => .error ⟨validLength, some length⟩
  | .truncated :: _ => .error ⟨validLength, none⟩

def decode (bytes : Bytes) : Except Malformed String := collect 0 [] (pieces bytes)

private theorem collect_eq_ok_iff {validLength : Nat} {characters : List Char} {found : List Piece}
    {text : String} :
    collect validLength characters found = .ok text ↔
      ∃ others, found = others.map .scalar ∧ text.toList = characters.reverse ++ others := by
  induction found generalizing validLength characters with
  | nil =>
    constructor
    · rintro ⟨⟩
      exact ⟨[], rfl, by simp⟩
    · rintro ⟨others, none, spelled⟩
      cases others with
      | nil => exact congrArg Except.ok (String.toList_inj.mp (by simpa using spelled.symm))
      | cons => cases none
  | cons piece rest ih =>
    cases piece with
    | scalar c =>
      refine ih.trans ⟨?_, ?_⟩
      · rintro ⟨others, rfl, spelled⟩
        exact ⟨c :: others, rfl, by simpa using spelled⟩
      · rintro ⟨others, found, spelled⟩
        cases others with
        | nil => cases found
        | cons =>
          cases found
          exact ⟨_, rfl, by simpa using spelled⟩
    | malformed | truncated =>
      refine ⟨nofun, ?_⟩
      rintro ⟨others, found, -⟩
      cases others <;> cases found

theorem decode_eq_ok_iff_pieces {bytes : Bytes} {text : String} :
    decode bytes = .ok text ↔ pieces bytes = text.toList.map .scalar := by
  refine collect_eq_ok_iff.trans ⟨?_, fun found => ⟨_, found, rfl⟩⟩
  rintro ⟨others, found, spelled⟩
  exact found.trans (congrArg (List.map Piece.scalar) spelled.symm)

/-- The text with every malformed sequence replaced by U+FFFD. -/
def decodeLossy (bytes : Bytes) : String :=
  String.ofList ((pieces bytes).map fun
    | .scalar c => c
    | _ => '\uFFFD')

def encode (text : String) : Bytes := text.toUTF8.toList

end WeatherRelay.Text.Utf8
