import Mathlib.Data.List.Basic
import WeatherRelay.Text.Utf8

/-! The decoder accepts just what the encoder writes.

Between the two stands the syntax of UTF-8: the bytes that spell a scalar value, one form for each
length. A piece is a character if and only if its bytes spell it, and the encoder writes these bytes.
-/

set_option autoImplicit false

namespace WeatherRelay.Text.Utf8

section Bytes

variable {lead second : UInt8}

/-- The lengths of characters by their first byte. -/
theorem width_cases (lead : UInt8) :
    (width lead = 0 ∧ 128 ≤ lead.toNat ∧ (lead.toNat < 194 ∨ 244 < lead.toNat)) ∨
      (width lead = 1 ∧ lead.toNat < 128) ∨
      (width lead = 2 ∧ 194 ≤ lead.toNat ∧ lead.toNat ≤ 223) ∨
      (width lead = 3 ∧ 224 ≤ lead.toNat ∧ lead.toNat ≤ 239) ∨
      (width lead = 4 ∧ 240 ≤ lead.toNat ∧ lead.toNat ≤ 244) := by
  unfold width
  simp only [UInt8.lt_iff_toNat_lt, UInt8.le_iff_toNat_le, Bool.and_eq_true, decide_eq_true_eq]
  repeat' split
  all_goals simp_all
  omega

theorem isContinuation_iff {b : UInt8} :
    isContinuation b = true ↔ 128 ≤ b.toNat ∧ b.toNat ≤ 191 := by
  simp [isContinuation, UInt8.le_iff_toNat_le]

theorem secondFits_iff :
    secondFits lead second = true ↔ (128 ≤ second.toNat ∧ second.toNat ≤ 191) ∧
      (lead.toNat = 0xE0 → 0xA0 ≤ second.toNat) ∧ (lead.toNat = 0xED → second.toNat ≤ 0x9F) ∧
      (lead.toNat = 0xF0 → 0x90 ≤ second.toNat) ∧ (lead.toNat = 0xF4 → second.toNat ≤ 0x8F) := by
  simp [secondFits, isContinuation_iff, UInt8.le_iff_toNat_le, ← UInt8.toNat_inj]
  omega

theorem toNat_byte {n : Nat} (small : n < 256) : (UInt8.ofNat n).toNat = n := by
  rw [UInt8.toNat_ofNat', Nat.mod_eq_of_lt small]

theorem eq_byte_iff {b : UInt8} {n : Nat} (small : n < 256) :
    b = UInt8.ofNat n ↔ b.toNat = n := by
  rw [← UInt8.toNat_inj, toNat_byte small]

end Bytes

/-- The bytes of a scalar value. -/
inductive Spells (n : Nat) : Bytes → Prop where
  | one {lead : UInt8} : width lead = 1 → n = lead.toNat → Spells n [lead]
  | two {lead second : UInt8} : width lead = 2 → secondFits lead second = true →
      n = lead.toNat % 32 * 64 + payload second → Spells n [lead, second]
  | three {lead second third : UInt8} : width lead = 3 → secondFits lead second = true →
      isContinuation third = true →
      n = (lead.toNat % 16 * 64 + payload second) * 64 + payload third →
      Spells n [lead, second, third]
  | four {lead second third fourth : UInt8} : width lead = 4 → secondFits lead second = true →
      isContinuation third = true → isContinuation fourth = true →
      n = ((lead.toNat % 8 * 64 + payload second) * 64 + payload third) * 64 + payload fourth →
      Spells n [lead, second, third, fourth]

theorem piece_eq_scalar_iff_spells {lead : UInt8} {rest after : Bytes} {c : Char} :
    piece lead rest = (.scalar c, after) ↔
      ∃ n bytes, Spells n bytes ∧ c = Char.ofNat n ∧ lead :: rest = bytes ++ after := by
  constructor
  · fun_cases piece lead rest
    case case2 one =>
      rintro ⟨⟩
      exact ⟨_, _, .one one rfl, rfl, rfl⟩
    case case5 second rest fits _ _ two =>
      rintro ⟨⟩
      exact ⟨_, _, .two two (by simpa using fits) rfl, rfl, rfl⟩
    case case8 second fits third rest follows _ _ _ three =>
      rintro ⟨⟩
      exact ⟨_, _, .three three (by simpa using fits) (by simpa using follows) rfl, rfl, rfl⟩
    case case11 second fits third follows fourth rest last none one two three =>
      rintro ⟨⟩
      have four : width lead = 4 := by
        rcases width_cases lead with none' | one' | two' | three' | four
        · exact (none none'.1).elim
        · exact (one one'.1).elim
        · exact absurd two'.1 two
        · exact absurd three'.1 three
        · exact four.1
      exact ⟨_, _, .four four (by simpa using fits) (by simpa using follows) (by simpa using last) rfl,
        rfl, rfl⟩
    -- The others are no characters.
    all_goals rintro ⟨⟩
  · rintro ⟨n, bytes, spells, rfl, front⟩
    cases spells with
    | one one value =>
      cases front
      simp [piece, one, value]
    | two two fits value =>
      cases front
      simp [piece, two, fits, value]
    | three three fits follows value =>
      cases front
      simp [piece, three, fits, follows, value]
    | four four fits follows last value =>
      cases front
      simp [piece, four, fits, follows, last, value]

theorem encodeChar_ofNat {n : Nat} (valid : n.isValidChar) :
    String.utf8EncodeChar (Char.ofNat n) =
      if n ≤ 127 then [UInt8.ofNat n]
      else if n ≤ 2047 then [UInt8.ofNat (n / 64 % 32 + 192), UInt8.ofNat (n % 64 + 128)]
      else if n ≤ 65535 then [UInt8.ofNat (n / 4096 % 16 + 224), UInt8.ofNat (n / 64 % 64 + 128),
        UInt8.ofNat (n % 64 + 128)]
      else [UInt8.ofNat (n / 262144 % 8 + 240), UInt8.ofNat (n / 4096 % 64 + 128),
        UInt8.ofNat (n / 64 % 64 + 128), UInt8.ofNat (n % 64 + 128)] := by
  have value : (Char.ofNat n).val.toNat = n := by
    rw [Char.ofNat, dif_pos valid]
    rfl
  unfold String.utf8EncodeChar
  rw [value]

/-- No bytes spell a surrogate or a value above the last character, and none are longer than those
of the encoder. -/
theorem Spells.encoded {n : Nat} {bytes : Bytes} (spells : Spells n bytes) :
    n.isValidChar ∧ bytes = String.utf8EncodeChar (Char.ofNat n) := by
  cases spells with
  | @one lead one value =>
    have bounds := width_cases lead
    have valid : n.isValidChar := .inl (by omega)
    refine ⟨valid, ?_⟩
    rw [encodeChar_ofNat valid, if_pos (by omega)]
    simp (disch := omega) only [List.cons.injEq, eq_byte_iff, and_true]
    omega
  | @two lead second two fits value =>
    have bounds := width_cases lead
    rw [secondFits_iff] at fits
    unfold payload at value
    have valid : n.isValidChar := .inl (by omega)
    refine ⟨valid, ?_⟩
    rw [encodeChar_ofNat valid, if_neg (by omega), if_pos (by omega)]
    simp (disch := omega) only [List.cons.injEq, eq_byte_iff, and_true]
    omega
  | @three lead second third three fits follows value =>
    have bounds := width_cases lead
    rw [secondFits_iff] at fits
    rw [isContinuation_iff] at follows
    unfold payload at value
    have valid : n.isValidChar := by unfold Nat.isValidChar; omega
    refine ⟨valid, ?_⟩
    rw [encodeChar_ofNat valid, if_neg (by omega), if_neg (by omega), if_pos (by omega)]
    simp (disch := omega) only [List.cons.injEq, eq_byte_iff, and_true]
    omega
  | @four lead second third fourth four fits follows last value =>
    have bounds := width_cases lead
    rw [secondFits_iff] at fits
    rw [isContinuation_iff] at follows last
    unfold payload at value
    have valid : n.isValidChar := .inr (by omega)
    refine ⟨valid, ?_⟩
    rw [encodeChar_ofNat valid, if_neg (by omega), if_neg (by omega), if_neg (by omega)]
    simp (disch := omega) only [List.cons.injEq, eq_byte_iff, and_true]
    omega

theorem spells_encodeChar {n : Nat} (valid : n.isValidChar) :
    Spells n (String.utf8EncodeChar (Char.ofNat n)) := by
  rw [encodeChar_ofNat valid]
  unfold Nat.isValidChar at valid
  have second : ∀ m, (UInt8.ofNat (m % 64 + 128)).toNat = m % 64 + 128 :=
    fun m => toNat_byte (by omega)
  by_cases one : n ≤ 127
  · rw [if_pos one]
    have lead : (UInt8.ofNat n).toNat = n := toNat_byte (by omega)
    have bounds := width_cases (UInt8.ofNat n)
    exact .one (by omega) lead.symm
  by_cases two : n ≤ 2047
  · rw [if_neg one, if_pos two]
    have lead : (UInt8.ofNat (n / 64 % 32 + 192)).toNat = n / 64 % 32 + 192 := toNat_byte (by omega)
    have bounds := width_cases (UInt8.ofNat (n / 64 % 32 + 192))
    refine .two (by omega) (secondFits_iff.mpr ?_) ?_
    · rw [lead, second]
      omega
    · rw [payload, lead, second]
      omega
  by_cases three : n ≤ 65535
  · rw [if_neg one, if_neg two, if_pos three]
    have lead : (UInt8.ofNat (n / 4096 % 16 + 224)).toNat = n / 4096 % 16 + 224 :=
      toNat_byte (by omega)
    have bounds := width_cases (UInt8.ofNat (n / 4096 % 16 + 224))
    refine .three (by omega) (secondFits_iff.mpr ?_) (isContinuation_iff.mpr ?_) ?_
    · rw [lead, second]
      omega
    · rw [second]
      omega
    · rw [payload, payload, lead, second, second]
      omega
  · rw [if_neg one, if_neg two, if_neg three]
    have lead : (UInt8.ofNat (n / 262144 % 8 + 240)).toNat = n / 262144 % 8 + 240 :=
      toNat_byte (by omega)
    have bounds := width_cases (UInt8.ofNat (n / 262144 % 8 + 240))
    refine .four (by omega) (secondFits_iff.mpr ?_) (isContinuation_iff.mpr ?_)
      (isContinuation_iff.mpr ?_) ?_
    · rw [lead, second]
      omega
    · rw [second]
      omega
    · rw [second]
      omega
    · rw [payload, payload, payload, lead, second, second, second]
      omega

theorem piece_eq_scalar_iff {lead : UInt8} {rest after : Bytes} {c : Char} :
    piece lead rest = (.scalar c, after) ↔ lead :: rest = String.utf8EncodeChar c ++ after := by
  rw [piece_eq_scalar_iff_spells]
  constructor
  · rintro ⟨n, bytes, spells, rfl, front⟩
    rw [front, spells.encoded.2]
  · intro front
    have self : Char.ofNat c.val.toNat = c := Char.ofNat_toNat c
    refine ⟨c.val.toNat, _, spells_encodeChar c.valid, self.symm, ?_⟩
    rw [self]
    exact front

theorem pieces_eq_scalars_iff {bytes : Bytes} {characters : List Char} :
    pieces bytes = characters.map .scalar ↔
      bytes = characters.flatMap String.utf8EncodeChar := by
  induction characters generalizing bytes with
  | nil => cases bytes <;> simp [pieces]
  | cons c rest ih =>
    cases bytes with
    | nil => simp [pieces, String.utf8EncodeChar_ne_nil]
    | cons lead tail =>
      rw [pieces, List.map_cons, List.cons.injEq, ih, List.flatMap_cons, ← piece_eq_scalar_iff,
        Prod.ext_iff]

theorem toList_loop_eq (bytes : ByteArray) (start : Nat) (collected : Bytes) :
    ByteArray.toList.loop bytes start collected =
      collected.reverse ++ bytes.data.toList.drop start := by
  fun_induction ByteArray.toList.loop bytes start collected with
  | case1 start collected inside ih =>
    have inside' : start < bytes.data.toList.length := by simpa using inside
    rw [ih, List.drop_eq_getElem_cons inside']
    simp [ByteArray.get!, inside]
  | case2 start collected behind =>
    rw [List.drop_eq_nil_of_le (by simpa using Nat.le_of_not_lt behind)]
    simp

theorem encode_eq_flatMap (text : String) :
    encode text = text.toList.flatMap String.utf8EncodeChar := by
  rw [encode, String.toUTF8_eq_toByteArray, ← String.utf8Encode_toList, ByteArray.toList,
    toList_loop_eq]
  simp [List.utf8Encode]

/-- Decoding undoes encoding, and nothing else is decoded. -/
theorem decode_eq_ok_iff {bytes : Bytes} {text : String} :
    decode bytes = .ok text ↔ bytes = encode text := by
  rw [decode_eq_ok_iff_pieces, pieces_eq_scalars_iff, encode_eq_flatMap]

theorem decode_encode (text : String) : decode (encode text) = .ok text := decode_eq_ok_iff.mpr rfl

theorem encode_injective {first second : String} (same : encode first = encode second) :
    first = second :=
  Except.ok.inj ((decode_encode first).symm.trans (decode_eq_ok_iff.mpr same))

theorem encode_append (first second : String) :
    encode (first ++ second) = encode first ++ encode second := by
  simp only [encode_eq_flatMap, String.toList_append, List.flatMap_append]

-- A byte below 128 stands for its character and is no part of another one.
theorem mem_encodeChar_iff {n : Nat} (ascii : n ≤ 127) {c : Char} :
    UInt8.ofNat n ∈ String.utf8EncodeChar c ↔ c.toNat = n := by
  have encoded := encodeChar_ofNat c.valid
  have self : Char.ofNat c.val.toNat = c := Char.ofNat_toNat c
  have valid : c.val.toNat.isValidChar := c.valid
  have same : ∀ m, m < 256 → (UInt8.ofNat n = UInt8.ofNat m ↔ n = m) := by
    intro m small
    rw [eq_byte_iff small, toNat_byte (by omega)]
  rw [self] at encoded
  rw [encoded]
  change _ ↔ c.val.toNat = n
  unfold Nat.isValidChar at valid
  clear encoded self
  generalize c.val.toNat = m at valid ⊢
  repeat' split
  all_goals
    simp (disch := omega) only [List.mem_cons, List.not_mem_nil, or_false, same]
    omega

theorem mem_encode_iff {n : Nat} (ascii : n ≤ 127) (text : String) :
    UInt8.ofNat n ∈ encode text ↔ ∃ c ∈ text.toList, c.toNat = n := by
  simp only [encode_eq_flatMap, List.mem_flatMap, mem_encodeChar_iff ascii]

end WeatherRelay.Text.Utf8
