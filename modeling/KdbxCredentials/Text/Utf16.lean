import KdbxCredentials.Text.Utf8
import Mathlib.Tactic.SplitIfs

/-!
# UTF-16 code units and their little-endian bytes

A .NET string or character array is a list of 16-bit code units, in which a
character outside the basic plane is a high surrogate followed by a low one.
The replacing decoder turns every byte string into such a list: surrogates
without a partner and an odd last byte become U+FFFD.  It loses nothing exactly
on the encodings of paired code units, which are the well-formed byte strings.
Paired code units are the spelling of a text, and of one text only.
-/

namespace KdbxCredentials.Text

/-- A string as its UTF-16 code units. -/
abbrev CodeUnits := List UInt16

def isHighSurrogate (u : UInt16) : Bool :=
  0xD800 ≤ u.toNat && u.toNat ≤ 0xDBFF

def isLowSurrogate (u : UInt16) : Bool :=
  0xDC00 ≤ u.toNat && u.toNat ≤ 0xDFFF

def isSurrogate (u : UInt16) : Bool :=
  isHighSurrogate u || isLowSurrogate u

/-- The replacement character U+FFFD. -/
def replacementUnit : UInt16 :=
  0xFFFD

/-- Every surrogate is one half of a pair. -/
inductive Paired : CodeUnits → Prop
  | nil : Paired []
  | unit {u : UInt16} {rest : CodeUnits} :
      isSurrogate u = false → Paired rest → Paired (u :: rest)
  | pair {high low : UInt16} {rest : CodeUnits} :
      isHighSurrogate high = true → isLowSurrogate low = true → Paired rest →
      Paired (high :: low :: rest)

/-! ## Replacing unpaired surrogates -/

/-- The code unit itself, or U+FFFD for a surrogate. -/
def replaceUnit (u : UInt16) : UInt16 :=
  if isSurrogate u then replacementUnit else u

/-- Replace every surrogate that is not one half of a pair. -/
def replaceUnpaired : CodeUnits → CodeUnits
  | [] => []
  | [u] => [replaceUnit u]
  | u :: v :: rest =>
      if isHighSurrogate u && isLowSurrogate v then u :: v :: replaceUnpaired rest
      else replaceUnit u :: replaceUnpaired (v :: rest)

theorem isSurrogate_replaceUnit (u : UInt16) : isSurrogate (replaceUnit u) = false := by
  rw [replaceUnit]
  split_ifs with surrogate
  · decide
  · simpa using surrogate

theorem replaceUnit_of_not_surrogate {u : UInt16} (plain : isSurrogate u = false) :
    replaceUnit u = u := by
  rw [replaceUnit, plain]
  rfl

/-- What is left after the replacement is paired. -/
theorem paired_replaceUnpaired (units : CodeUnits) : Paired (replaceUnpaired units) := by
  induction units using replaceUnpaired.induct with
  | case1 => exact Paired.nil
  | case2 u => exact Paired.unit (isSurrogate_replaceUnit u) Paired.nil
  | case3 u v rest pair ih =>
      rw [replaceUnpaired, if_pos pair]
      rw [Bool.and_eq_true] at pair
      exact Paired.pair pair.1 pair.2 ih
  | case4 u v rest unpaired ih =>
      rw [replaceUnpaired, if_neg unpaired]
      exact Paired.unit (isSurrogate_replaceUnit u) ih

/-- Paired code units are left alone. -/
theorem Paired.replaceUnpaired_eq {units : CodeUnits} (paired : Paired units) :
    replaceUnpaired units = units := by
  induction paired with
  | nil => rfl
  | @unit u rest plain _ ih =>
      cases rest with
      | nil => rw [replaceUnpaired, replaceUnit_of_not_surrogate plain]
      | cons v rest =>
          have notHigh : ¬(isHighSurrogate u && isLowSurrogate v) = true := by
            rw [isSurrogate, Bool.or_eq_false_iff] at plain
            simp [plain.1]
          rw [replaceUnpaired, if_neg notHigh, ih, replaceUnit_of_not_surrogate plain]
  | @pair high low rest isHigh isLow _ ih =>
      have both : (isHighSurrogate high && isLowSurrogate low) = true := by simp [isHigh, isLow]
      rw [replaceUnpaired, if_pos both, ih]

theorem Paired.append {units units' : CodeUnits} (paired : Paired units)
    (paired' : Paired units') : Paired (units ++ units') := by
  induction paired with
  | nil => exact paired'
  | unit plain _ ih => exact Paired.unit plain ih
  | pair isHigh isLow _ ih => exact Paired.pair isHigh isLow ih

/-! ## Little-endian bytes -/

/-- The two bytes of a code unit, low byte first. -/
def unitBytes (u : UInt16) : Bytes :=
  [UInt8.ofNat (u.toNat % 256), UInt8.ofNat (u.toNat / 256)]

/-- The code unit of two bytes. -/
def bytesUnit (low high : UInt8) : UInt16 :=
  UInt16.ofNat (low.toNat + 256 * high.toNat)

/-- The little-endian encoding of code units. -/
def utf16 (units : CodeUnits) : Bytes :=
  units.flatMap unitBytes

/-- The code units that a byte string is read as; an odd last byte is left over. -/
def codeUnits : Bytes → CodeUnits
  | low :: high :: rest => bytesUnit low high :: codeUnits rest
  | [_] => []
  | [] => []

/-- The replacing decoder: U+FFFD for each unpaired surrogate and for an odd last
byte. -/
def decodeUtf16 (bytes : Bytes) : CodeUnits :=
  replaceUnpaired (codeUnits bytes) ++ if bytes.length % 2 = 1 then [replacementUnit] else []

/-- A byte string is well-formed UTF-16: whole code units, with paired surrogates. -/
structure WellFormedUtf16 (bytes : Bytes) : Prop where
  whole : bytes.length % 2 = 0
  paired : Paired (codeUnits bytes)

theorem bytesUnit_unitBytes (u : UInt16) :
    bytesUnit (UInt8.ofNat (u.toNat % 256)) (UInt8.ofNat (u.toNat / 256)) = u := by
  have bound := u.toNat_lt
  rw [← UInt16.toNat_inj, bytesUnit, UInt16.toNat_ofNat', UInt8.toNat_ofNat',
    UInt8.toNat_ofNat']
  omega

theorem unitBytes_bytesUnit (low high : UInt8) : unitBytes (bytesUnit low high) = [low, high] := by
  have lowBound := low.toNat_lt
  have highBound := high.toNat_lt
  have value : (bytesUnit low high).toNat = low.toNat + 256 * high.toNat := by
    rw [bytesUnit, UInt16.toNat_ofNat']
    omega
  have lowByte : (low.toNat + 256 * high.toNat) % 256 = low.toNat := by omega
  have highByte : (low.toNat + 256 * high.toNat) / 256 = high.toNat := by omega
  rw [unitBytes, value, lowByte, highByte, UInt8.ofNat_toNat, UInt8.ofNat_toNat]

@[simp]
theorem codeUnits_utf16 (units : CodeUnits) : codeUnits (utf16 units) = units := by
  induction units with
  | nil => rfl
  | cons u rest ih =>
      change bytesUnit _ _ :: codeUnits (utf16 rest) = u :: rest
      rw [bytesUnit_unitBytes, ih]

theorem length_utf16 (units : CodeUnits) : (utf16 units).length = 2 * units.length := by
  rw [utf16, List.length_flatMap]
  simp [unitBytes, Nat.mul_comm]

/-- Whole code units are encoded back to the bytes they were read from. -/
theorem utf16_codeUnits {bytes : Bytes} (whole : bytes.length % 2 = 0) :
    utf16 (codeUnits bytes) = bytes := by
  induction bytes using codeUnits.induct with
  | case1 low high rest ih =>
      have restWhole : rest.length % 2 = 0 := by
        simp only [List.length_cons] at whole
        omega
      rw [codeUnits, utf16, List.flatMap_cons, unitBytes_bytesUnit]
      change low :: high :: utf16 (codeUnits rest) = low :: high :: rest
      rw [ih restWhole]
  | case2 byte => simp at whole
  | case3 => rfl

/-! ## The replacing decoder -/

/-- What is decoded is always paired. -/
theorem paired_decodeUtf16 (bytes : Bytes) : Paired (decodeUtf16 bytes) := by
  rw [decodeUtf16]
  apply (paired_replaceUnpaired (codeUnits bytes)).append
  split_ifs
  · exact Paired.unit (by decide) Paired.nil
  · exact Paired.nil

theorem WellFormedUtf16.decodeUtf16_eq {bytes : Bytes} (wellFormed : WellFormedUtf16 bytes) :
    decodeUtf16 bytes = codeUnits bytes := by
  have even : ¬bytes.length % 2 = 1 := by
    rw [wellFormed.whole]
    decide
  rw [decodeUtf16, wellFormed.paired.replaceUnpaired_eq, if_neg even, List.append_nil]

/-- Encodings of paired code units are well-formed. -/
theorem Paired.wellFormed_utf16 {units : CodeUnits} (paired : Paired units) :
    WellFormedUtf16 (utf16 units) where
  whole := by
    rw [length_utf16]
    omega
  paired := by
    rw [codeUnits_utf16]
    exact paired

/-- The decoder loses nothing exactly on the well-formed byte strings. -/
theorem utf16_decodeUtf16_eq_iff (bytes : Bytes) :
    utf16 (decodeUtf16 bytes) = bytes ↔ WellFormedUtf16 bytes := by
  constructor
  · intro same
    rw [← same]
    exact (paired_decodeUtf16 bytes).wellFormed_utf16
  · intro wellFormed
    rw [wellFormed.decodeUtf16_eq, utf16_codeUnits wellFormed.whole]

/-! ## Texts -/

/-- The code units of a character: one, or two surrogates. -/
def encodeChar (c : Char) : CodeUnits :=
  let n := c.toNat
  if n < 0x10000 then [UInt16.ofNat n]
  else
    [UInt16.ofNat (0xD800 + (n - 0x10000) / 0x400), UInt16.ofNat (0xDC00 + (n - 0x10000) % 0x400)]

/-- The code units that spell a text. -/
def spell (s : Str) : CodeUnits :=
  s.flatMap encodeChar

/-- The character of two surrogates. -/
def pairChar (high low : UInt16) : Char :=
  Char.ofNat (0x10000 + (high.toNat - 0xD800) * 0x400 + (low.toNat - 0xDC00))

/-- The text that code units spell. -/
def spelled : CodeUnits → Str
  | [] => []
  | [u] => [Char.ofNat u.toNat]
  | u :: v :: rest =>
      if isHighSurrogate u && isLowSurrogate v then pairChar u v :: spelled rest
      else Char.ofNat u.toNat :: spelled (v :: rest)

@[simp]
theorem spell_cons (c : Char) (s : Str) : spell (c :: s) = encodeChar c ++ spell s :=
  rfl

/-- A code unit that is no surrogate spells its own character. -/
theorem spelled_unit {u : UInt16} (plain : isSurrogate u = false) (rest : CodeUnits) :
    spelled (u :: rest) = Char.ofNat u.toNat :: spelled rest := by
  cases rest with
  | nil => rfl
  | cons v rest =>
      have notHigh : ¬(isHighSurrogate u && isLowSurrogate v) = true := by
        rw [isSurrogate, Bool.or_eq_false_iff] at plain
        simp [plain.1]
      rw [spelled, if_neg notHigh]

theorem spelled_pair {high low : UInt16} (isHigh : isHighSurrogate high = true)
    (isLow : isLowSurrogate low = true) (rest : CodeUnits) :
    spelled (high :: low :: rest) = pairChar high low :: spelled rest := by
  have both : (isHighSurrogate high && isLowSurrogate low) = true := by simp [isHigh, isLow]
  rw [spelled, if_pos both]

theorem toNat_lt_of_char (c : Char) :
    c.toNat < 0xD800 ∨ 0xDFFF < c.toNat ∧ c.toNat < 0x110000 :=
  c.valid

/-- The code units of a character are one plain unit or a pair, and spell it. -/
theorem encodeChar_cases (c : Char) :
    (∃ u, encodeChar c = [u] ∧ isSurrogate u = false ∧ Char.ofNat u.toNat = c) ∨
      ∃ high low, encodeChar c = [high, low] ∧ isHighSurrogate high = true ∧
        isLowSurrogate low = true ∧ pairChar high low = c := by
  have range := toNat_lt_of_char c
  rw [encodeChar]
  split_ifs with basic
  · left
    have value : (UInt16.ofNat c.toNat).toNat = c.toNat := by
      rw [UInt16.toNat_ofNat']
      omega
    refine ⟨_, rfl, ?_, ?_⟩
    · simp only [isSurrogate, isHighSurrogate, isLowSurrogate, value, Bool.or_eq_false_iff,
        Bool.and_eq_false_iff, decide_eq_false_iff_not]
      omega
    · rw [value, Char.ofNat_toNat]
  · right
    have high : (UInt16.ofNat (0xD800 + (c.toNat - 0x10000) / 0x400)).toNat =
        0xD800 + (c.toNat - 0x10000) / 0x400 := by
      rw [UInt16.toNat_ofNat']
      omega
    have low : (UInt16.ofNat (0xDC00 + (c.toNat - 0x10000) % 0x400)).toNat =
        0xDC00 + (c.toNat - 0x10000) % 0x400 := by
      rw [UInt16.toNat_ofNat']
      omega
    refine ⟨_, _, rfl, ?_, ?_, ?_⟩
    · simp only [isHighSurrogate, high, Bool.and_eq_true, decide_eq_true_eq]
      omega
    · simp only [isLowSurrogate, low, Bool.and_eq_true, decide_eq_true_eq]
      omega
    · have value : 0x10000 + (0xD800 + (c.toNat - 0x10000) / 0x400 - 0xD800) * 0x400 +
          (0xDC00 + (c.toNat - 0x10000) % 0x400 - 0xDC00) = c.toNat := by omega
      rw [pairChar, high, low, value, Char.ofNat_toNat]

/-- The spelling of a text is read back. -/
@[simp]
theorem spelled_spell (s : Str) : spelled (spell s) = s := by
  induction s with
  | nil => rfl
  | cons c s ih =>
      rw [spell_cons]
      rcases encodeChar_cases c with
        ⟨u, encoded, plain, char_eq⟩ | ⟨high, low, encoded, isHigh, isLow, char_eq⟩
      · rw [encoded, List.singleton_append, spelled_unit plain, char_eq, ih]
      · rw [encoded, List.cons_append, List.cons_append, List.nil_append,
          spelled_pair isHigh isLow, char_eq, ih]

theorem toNat_ofNat {n : Nat} (valid : n.isValidChar) : (Char.ofNat n).toNat = n := by
  rw [Char.ofNat, dif_pos valid]
  rfl

theorem encodeChar_ofNat {u : UInt16} (plain : isSurrogate u = false) :
    encodeChar (Char.ofNat u.toNat) = [u] := by
  have bound := u.toNat_lt
  have valid : u.toNat.isValidChar := by
    simp only [isSurrogate, isHighSurrogate, isLowSurrogate, Bool.or_eq_false_iff,
      Bool.and_eq_false_iff, decide_eq_false_iff_not] at plain
    change u.toNat < 0xD800 ∨ 0xDFFF < u.toNat ∧ u.toNat < 0x110000
    omega
  rw [encodeChar, toNat_ofNat valid, if_pos (by omega), UInt16.ofNat_toNat]

theorem encodeChar_pairChar {high low : UInt16} (isHigh : isHighSurrogate high = true)
    (isLow : isLowSurrogate low = true) : encodeChar (pairChar high low) = [high, low] := by
  simp only [isHighSurrogate, isLowSurrogate, Bool.and_eq_true, decide_eq_true_eq] at isHigh isLow
  have valid : (0x10000 + (high.toNat - 0xD800) * 0x400 + (low.toNat - 0xDC00)).isValidChar := by
    change _ < 0xD800 ∨ 0xDFFF < _ ∧ _ < 0x110000
    omega
  rw [encodeChar, pairChar, toNat_ofNat valid, if_neg (by omega)]
  have first : 0xD800 + (0x10000 + (high.toNat - 0xD800) * 0x400 + (low.toNat - 0xDC00) -
      0x10000) / 0x400 = high.toNat := by omega
  have second : 0xDC00 + (0x10000 + (high.toNat - 0xD800) * 0x400 + (low.toNat - 0xDC00) -
      0x10000) % 0x400 = low.toNat := by omega
  rw [first, second, UInt16.ofNat_toNat, UInt16.ofNat_toNat]

/-- Paired code units spell the text that they are read as. -/
theorem Paired.spell_spelled {units : CodeUnits} (paired : Paired units) :
    spell (spelled units) = units := by
  induction paired with
  | nil => rfl
  | unit plain _ ih =>
      rw [spelled_unit plain, spell_cons, encodeChar_ofNat plain, ih]
      rfl
  | pair isHigh isLow _ ih =>
      rw [spelled_pair isHigh isLow, spell_cons, encodeChar_pairChar isHigh isLow, ih]
      rfl

/-- A spelling is paired. -/
theorem paired_spell (s : Str) : Paired (spell s) := by
  induction s with
  | nil => exact Paired.nil
  | cons c s ih =>
      rw [spell_cons]
      rcases encodeChar_cases c with
        ⟨u, encoded, plain, _⟩ | ⟨high, low, encoded, isHigh, isLow, _⟩
      · rw [encoded]
        exact Paired.unit plain ih
      · rw [encoded]
        exact Paired.pair isHigh isLow ih

end KdbxCredentials.Text
