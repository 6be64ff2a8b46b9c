/-
# Protocol.DeviceId -- device identifiers

`src/device_id.rs`.  An id is accepted when it is 1 to 128 bytes of ASCII letters,
digits, `.`, `_` and `-`, so a valid id is also a safe file name and needs no
escaping anywhere it is printed (`isValid_ofList`).
-/
import RustSsh.Theory.Text

namespace RustSsh.Protocol

open RustSsh.Theory

set_option autoImplicit false

/-- The UTF-8 bytes of a string: `str::as_bytes`. -/
def utf8 (s : String) : List UInt8 := s.toUTF8.data.toList

theorem utf8_inj {s t : String} : utf8 s = utf8 t ↔ s = t := by
  constructor
  · intro same
    have bytes : s.toByteArray = t.toByteArray := by
      apply ByteArray.ext
      exact Array.toList_inj.mp same
    exact String.toByteArray_inj.mp bytes
  · rintro rfl
    rfl

/-- The bytes of a string are those of its characters. -/
theorem utf8_ofList (t : List Char) : utf8 (String.ofList t) = t.flatMap String.utf8EncodeChar := by
  show (String.ofList t).toByteArray.data.toList = _
  rw [String.toByteArray_ofList, List.utf8Encode, List.data_toByteArray]

namespace DeviceId

def maxLength : Nat := 128

/-- `u8::is_ascii_alphanumeric`. -/
def isAsciiAlphanumeric (byte : UInt8) : Bool :=
  (48 ≤ byte && byte ≤ 57) || (65 ≤ byte && byte ≤ 90) || (97 ≤ byte && byte ≤ 122)

/-- A byte an id may contain: a letter, a digit, `.`, `_` or `-`. -/
def allowedByte (byte : UInt8) : Bool :=
  isAsciiAlphanumeric byte || byte == 46 || byte == 95 || byte == 45

def isValid (value : String) : Bool :=
  !(utf8 value).isEmpty && (utf8 value).length ≤ maxLength && (utf8 value).all allowedByte

example : isValid "WIN-CLIENT-01" = true := by decide
example : isValid "device/name" = false := by decide

/-! ## Generated ids -/

def generatedPrefix : Text := "rssh-".toList
def generatedRandomBytes : Nat := 16

/-- `u8::is_ascii_hexdigit`. -/
def isAsciiHexdigit (byte : UInt8) : Bool :=
  (48 ≤ byte && byte ≤ 57) || (65 ≤ byte && byte ≤ 70) || (97 ≤ byte && byte ≤ 102)

def isGenerated (value : String) : Bool :=
  if generatedPrefix.isPrefixOf value.toList then
    let random := utf8 (String.ofList (value.toList.drop generatedPrefix.length))
    random.length == generatedRandomBytes * 2 && random.all isAsciiHexdigit
  else false

/-- A generated id is a valid one. -/
theorem isValid_of_isGenerated {value : String} (generated : isGenerated value = true) :
    isValid value = true := by
  have hex : ∀ byte, isAsciiHexdigit byte = true → allowedByte byte = true := by
    intro byte digit
    simp only [isAsciiHexdigit, allowedByte, isAsciiAlphanumeric, Bool.or_eq_true, Bool.and_eq_true,
      decide_eq_true_eq, beq_iff_eq, UInt8.le_iff_toNat_le] at digit ⊢
    simp at digit ⊢
    omega
  unfold isGenerated at generated
  split at generated
  · rename_i starts
    obtain ⟨rest, split⟩ := List.isPrefixOf_iff_prefix.mp starts
    simp only [← split, List.drop_left, Bool.and_eq_true, beq_iff_eq, List.all_eq_true] at generated
    have bytes : utf8 value = utf8 (String.ofList generatedPrefix) ++ utf8 (String.ofList rest) := by
      rw [← String.ofList_toList (s := value), ← split, utf8_ofList, utf8_ofList, utf8_ofList,
        List.flatMap_append]
    have front : (utf8 (String.ofList generatedPrefix)).length = 5 ∧
        (utf8 (String.ofList generatedPrefix)).all allowedByte = true := by decide
    simp only [isValid, bytes, Bool.and_eq_true, Bool.not_eq_true', decide_eq_true_eq,
      List.all_eq_true, List.mem_append, List.length_append, front.1, generated.1]
    refine ⟨⟨?_, by decide⟩, ?_⟩
    · rw [List.isEmpty_eq_false_iff]
      intro empty
      have lengths := congrArg List.length empty
      simp [front.1] at lengths
    · intro byte inside
      cases inside with
      | inl early => exact List.all_eq_true.mp front.2 byte early
      | inr late => exact hex byte (generated.2 byte late)
  · cases generated

/-! ## The characters of an id -/

/-- A character an id may contain. -/
def allowedChar (c : Char) : Bool := c.isAlphanum || c == '.' || c == '_' || c == '-'

theorem allowedByte_iff {byte : UInt8} : allowedByte byte = true ↔
    (48 ≤ byte.toNat ∧ byte.toNat ≤ 57) ∨ (65 ≤ byte.toNat ∧ byte.toNat ≤ 90) ∨
      (97 ≤ byte.toNat ∧ byte.toNat ≤ 122) ∨
      byte.toNat = 45 ∨ byte.toNat = 46 ∨ byte.toNat = 95 := by
  simp only [allowedByte, isAsciiAlphanumeric, Bool.or_eq_true, Bool.and_eq_true, decide_eq_true_eq,
    beq_iff_eq, UInt8.le_iff_toNat_le, ← UInt8.toNat_inj]
  simp
  omega

theorem allowedChar_iff {c : Char} : allowedChar c = true ↔
    (48 ≤ c.toNat ∧ c.toNat ≤ 57) ∨ (65 ≤ c.toNat ∧ c.toNat ≤ 90) ∨
      (97 ≤ c.toNat ∧ c.toNat ≤ 122) ∨ c.toNat = 45 ∨ c.toNat = 46 ∨ c.toNat = 95 := by
  have code : c.val.toNat = c.toNat := rfl
  have letter : c.isAlpha =
      (decide (65 ≤ c.val ∧ c.val ≤ 90) || (decide (97 ≤ c.val) && decide (c.val ≤ 122))) := rfl
  have digit : c.isDigit = (decide (48 ≤ c.val) && decide (c.val ≤ 57)) := rfl
  simp only [allowedChar, Char.isAlphanum, letter, digit, Bool.or_eq_true, Bool.and_eq_true,
    decide_eq_true_eq, beq_iff_eq, Char.ext_iff, UInt32.le_iff_toNat_le, ← UInt32.toNat_inj, code]
  simp
  omega

/-- It is one byte that an id may contain. -/
theorem allowedChar_byte {c : Char} (allowed : allowedChar c = true) :
    String.utf8EncodeChar c = [UInt8.ofNat c.toNat] ∧ allowedByte (UInt8.ofNat c.toNat) = true := by
  rw [allowedChar_iff] at allowed
  have ascii : c.toNat ≤ 127 := by omega
  refine ⟨by simp [String.utf8EncodeChar, ascii], ?_⟩
  rw [allowedByte_iff, UInt8.toNat_ofNat_of_lt' (show c.toNat < 256 by omega)]
  omega

theorem allowedChar_of_bytes {c : Char}
    (allowed : ∀ byte ∈ String.utf8EncodeChar c, allowedByte byte = true) : allowedChar c = true := by
  have code : c.val.toNat = c.toNat := rfl
  unfold String.utf8EncodeChar at allowed
  simp only [code] at allowed
  by_cases ascii : c.toNat ≤ 127
  · have byte := allowed (UInt8.ofNat c.toNat) (by simp [ascii])
    rw [allowedByte_iff, UInt8.toNat_ofNat_of_lt' (show c.toNat < 256 by omega)] at byte
    exact allowedChar_iff.mpr (by omega)
  · exfalso
    -- the lead byte of a longer encoding is no byte of an id
    have big (lead : Nat) (rest : List UInt8) (here : 192 ≤ lead) (small : lead < 256)
        (all : ∀ byte ∈ UInt8.ofNat lead :: rest, allowedByte byte = true) : False := by
      have bound := allowedByte_iff.mp (all _ List.mem_cons_self)
      rw [UInt8.toNat_ofNat_of_lt' (by simpa using small)] at bound
      omega
    simp only [ascii, if_false] at allowed
    split at allowed
    · exact big _ _ (by omega) (by omega) allowed
    · split at allowed
      · exact big _ _ (by omega) (by omega) allowed
      · exact big _ _ (by omega) (by omega) allowed

theorem allowedChar_not_whitespace {c : Char} (allowed : allowedChar c = true) :
    Text.isWhitespace c = false := by
  rw [allowedChar_iff] at allowed
  simp only [Text.isWhitespace, Bool.or_eq_false_iff, Bool.and_eq_false_imp, decide_eq_true_eq,
    decide_eq_false_iff_not, beq_eq_false_iff_ne]
  omega

theorem isValid_ofList {t : List Char} :
    isValid (String.ofList t) = true ↔
      t ≠ [] ∧ t.length ≤ maxLength ∧ ∀ c ∈ t, allowedChar c = true := by
  have length (each : ∀ c ∈ t, allowedChar c = true) :
      (t.flatMap String.utf8EncodeChar).length = t.length := by
    induction t with
    | nil => rfl
    | cons c rest ih =>
        rw [List.flatMap_cons, (allowedChar_byte (each c List.mem_cons_self)).1]
        simpa using ih fun d member => each d (List.mem_cons_of_mem _ member)
  simp only [isValid, utf8_ofList, Bool.and_eq_true, Bool.not_eq_true', List.isEmpty_eq_false_iff,
    decide_eq_true_eq, List.all_eq_true, List.mem_flatMap, forall_exists_index, and_imp]
  constructor
  · intro valid
    obtain ⟨⟨nonempty, short⟩, bytes⟩ := valid
    have each : ∀ c ∈ t, allowedChar c = true := by
      intro c member
      exact allowedChar_of_bytes fun byte inside => bytes byte c member inside
    rw [length each] at short
    refine ⟨?_, short, each⟩
    rintro rfl
    exact nonempty rfl
  · intro valid
    obtain ⟨nonempty, short, each⟩ := valid
    refine ⟨⟨?_, by rw [length each]; exact short⟩, ?_⟩
    · intro empty
      apply nonempty
      rw [← List.length_eq_zero_iff, ← length each, empty]
      rfl
    · intro byte c member inside
      obtain ⟨encoded, allowed⟩ := allowedChar_byte (each c member)
      rw [encoded, List.mem_singleton] at inside
      rw [inside]
      exact allowed

end DeviceId

end RustSsh.Protocol
