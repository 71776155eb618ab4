import KdbxCredentials.Text.Split
import Mathlib.Data.UInt

/-!
# Strings and their UTF-8 bytes

A string is the list of its Unicode scalar values.  Operating-system paths and
file contents are byte strings, so every string that becomes a path goes
through `utf8`.  An ASCII byte occurs in an encoding only as the encoding of
its own character, which is why separator, dot and NUL checks may be made on
either side of the encoding.
-/

namespace KdbxCredentials.Text

/-- A text string, as the list of its Unicode scalar values. -/
abbrev Str := List Char

/-- A byte string: an operating-system path, a file name, a file's contents. -/
abbrev Bytes := List UInt8

/-- The UTF-8 encoding of a string. -/
def utf8 (s : Str) : Bytes :=
  s.flatMap String.utf8EncodeChar

/-- Strict UTF-8 decoding: ill-formed input has no decoding. -/
def decodeUtf8 (bytes : Bytes) : Option Str :=
  (String.fromUTF8? ⟨bytes.toArray⟩).map String.toList

@[simp]
theorem utf8_nil : utf8 [] = [] :=
  rfl

@[simp]
theorem utf8_cons (c : Char) (s : Str) :
    utf8 (c :: s) = String.utf8EncodeChar c ++ utf8 s :=
  rfl

@[simp]
theorem utf8_append (s t : Str) : utf8 (s ++ t) = utf8 s ++ utf8 t :=
  List.flatMap_append

theorem utf8_eq_nil_iff (s : Str) : utf8 s = [] ↔ s = [] := by
  cases s with
  | nil => simp
  | cons c s => simp [String.utf8EncodeChar_ne_nil]

/-- Different strings have different encodings. -/
theorem utf8_injective : Function.Injective utf8 := by
  intro s t encoded
  have arrays : s.utf8Encode = t.utf8Encode := by
    rw [List.utf8Encode, List.utf8Encode]
    exact congrArg List.toByteArray encoded
  have decoded := congrArg ByteArray.utf8Decode? arrays
  simpa [List.utf8Decode?_utf8Encode] using decoded

/-- The bytes of a multi-byte encoding are all above the ASCII range, so an
ASCII byte of an encoding is the encoding of the character itself. -/
theorem toNat_eq_of_mem_utf8EncodeChar {b : UInt8} {c : Char} (ascii : b.toNat < 0x80)
    (member : b ∈ String.utf8EncodeChar c) : c.toNat = b.toNat := by
  have range : c.val.toNat < 0x110000 := by
    rcases c.valid with low | ⟨_, high⟩ <;> omega
  change c.val.toNat = b.toNat
  rw [String.utf8EncodeChar] at member
  split_ifs at member <;>
    simp only [List.mem_cons, List.not_mem_nil, or_false] at member
  · subst b
    simp only [UInt8.toNat_ofNat'] at ascii ⊢
    omega
  all_goals
    exfalso
    rcases member with rfl | rfl | rfl | rfl <;>
      simp only [UInt8.toNat_ofNat'] at ascii <;> omega

/-- Splitting an encoded string at an ASCII byte is splitting the string at the
corresponding character. -/
theorem splitOn_utf8 {sep : Char} {b : UInt8} (ascii : b.toNat < 0x80)
    (encode_sep : String.utf8EncodeChar sep = [b]) (s : Str) :
    (utf8 s).splitOn b = (s.splitOn sep).map utf8 := by
  refine splitOn_flatMap String.utf8EncodeChar encode_sep ?_ s
  intro c other member
  have sep_eq := toNat_eq_of_mem_utf8EncodeChar (c := sep) ascii (by simp [encode_sep])
  have c_eq := toNat_eq_of_mem_utf8EncodeChar ascii member
  exact other (Char.toNat_inj.mp (c_eq.trans sep_eq.symm))

/-- An ASCII byte occurs in an encoding exactly when its character occurs in
the string. -/
theorem mem_utf8_iff {a : Char} {b : UInt8} (ascii : b.toNat < 0x80)
    (encode_eq : String.utf8EncodeChar a = [b]) (s : Str) : b ∈ utf8 s ↔ a ∈ s := by
  constructor
  · intro member
    obtain ⟨c, cMem, encoded⟩ := List.mem_flatMap.mp member
    have a_eq := toNat_eq_of_mem_utf8EncodeChar (c := a) ascii (by simp [encode_eq])
    have c_eq := toNat_eq_of_mem_utf8EncodeChar ascii encoded
    rwa [← Char.toNat_inj.mp (c_eq.trans a_eq.symm)]
  · intro member
    exact List.mem_flatMap.mpr ⟨a, member, by simp [encode_eq]⟩

/-- An encoding ends in an ASCII byte exactly when the string ends in its
character. -/
theorem getLast?_utf8_iff {a : Char} {b : UInt8} (ascii : b.toNat < 0x80)
    (encode_eq : String.utf8EncodeChar a = [b]) (s : Str) :
    (utf8 s).getLast? = some b ↔ s.getLast? = some a := by
  constructor
  · intro ends
    rcases List.eq_nil_or_concat s with rfl | ⟨front, c, rfl⟩
    · cases ends
    · rw [List.concat_eq_append] at ends ⊢
      rw [utf8_append, utf8_cons, utf8_nil, List.append_nil,
        List.getLast?_append_of_ne_nil _ (by simp [String.utf8EncodeChar_ne_nil])] at ends
      have c_eq := toNat_eq_of_mem_utf8EncodeChar ascii (List.mem_of_getLast? ends)
      have a_eq := toNat_eq_of_mem_utf8EncodeChar (c := a) ascii (by simp [encode_eq])
      rw [Char.toNat_inj.mp (c_eq.trans a_eq.symm), List.getLast?_concat]
  · intro ends
    rcases List.getLast?_eq_some_iff.mp ends with ⟨front, rfl⟩
    rw [utf8_append, utf8_cons, utf8_nil, List.append_nil, encode_eq, List.getLast?_concat]

/-- The length that the first byte of an encoding announces; zero for a byte that
cannot be first. -/
def announced (first : UInt8) : Nat :=
  let n := first.toNat
  if n < 0x80 then 1
  else if 0xC2 ≤ n ∧ n ≤ 0xDF then 2
  else if 0xE0 ≤ n ∧ n ≤ 0xEF then 3
  else if 0xF0 ≤ n ∧ n ≤ 0xF4 then 4
  else 0

def isContinuation (byte : UInt8) : Bool :=
  0x80 ≤ byte.toNat && byte.toNat ≤ 0xBF

/-- The second bytes after which an encoding can still be well-formed. -/
def canFollow (first second : UInt8) : Bool :=
  isContinuation second && !(first == 0xE0 && second < 0xA0) && !(first == 0xED && 0x9F < second) &&
    !(first == 0xF0 && second < 0x90) && !(first == 0xF4 && 0x8F < second)

/-- The first character of the bytes, or else as much of one as there is. -/
def firstPart : Bytes → Bytes
  | first :: second :: rest =>
      if 2 ≤ announced first && canFollow first second then
        first :: second :: (rest.take (announced first - 2)).takeWhile isContinuation
      else [first]
  | bytes => bytes

/-- Decode part by part, with U+FFFD for a part that is no character. -/
def decodeParts : Nat → Bytes → Str
  | 0, _ => []
  | _ + 1, [] => []
  | fuel + 1, bytes =>
      (decodeUtf8 (firstPart bytes)).getD [Char.ofNat 0xFFFD] ++
        decodeParts fuel (bytes.drop (firstPart bytes).length)

/-- Lossy UTF-8 decoding. -/
def decodeUtf8Lossy (bytes : Bytes) : Str :=
  (decodeUtf8 bytes).getD (decodeParts bytes.length bytes)

end KdbxCredentials.Text
