/-
# Theory.Encoding -- bytes as text

Hexadecimal with two digits a byte, and base64 in the URL-safe alphabet without padding.
Both decoders read what their encoder writes (`hexDecode_encode`, `base64Decode_encode`).
Numbers in hexadecimal have as many digits as they need, and can be told apart wherever a
character that is no digit follows (`hexText_field`).
-/
import RustSsh.Theory.Text

namespace RustSsh.Theory

set_option autoImplicit false

/-! ## Hexadecimal -/

def hexValue (c : Char) : Option Nat :=
  if '0' ≤ c ∧ c ≤ '9' then some (c.toNat - '0'.toNat)
  else if 'a' ≤ c ∧ c ≤ 'f' then some (c.toNat - 'a'.toNat + 10)
  else if 'A' ≤ c ∧ c ≤ 'F' then some (c.toNat - 'A'.toNat + 10)
  else none

theorem hexValue_digitChar : ∀ d, d < 16 → hexValue d.digitChar = some d := by decide

def hexEncode : Bytes → Text
  | [] => []
  | byte :: rest => (byte.toNat / 16).digitChar :: (byte.toNat % 16).digitChar :: hexEncode rest

def hexDecode : Text → Option Bytes
  | [] => some []
  | high :: low :: rest => do
      let high ← hexValue high
      let low ← hexValue low
      let rest ← hexDecode rest
      return UInt8.ofNat (high * 16 + low) :: rest
  | [_] => none

theorem hexDecode_encode (bytes : Bytes) : hexDecode (hexEncode bytes) = some bytes := by
  induction bytes with
  | nil => rfl
  | cons byte rest ih =>
      have bound := byte.toNat_lt
      have high := hexValue_digitChar (byte.toNat / 16) (by omega)
      have low := hexValue_digitChar (byte.toNat % 16) (by omega)
      have whole : byte.toNat / 16 * 16 + byte.toNat % 16 = byte.toNat := by omega
      simp only [hexEncode, hexDecode, high, low, ih, Option.bind_eq_bind, Option.bind_some, whole,
        UInt8.ofNat_toNat]
      rfl

theorem digitChar_lower : ∀ d, d < 16 → d.digitChar ∈ "0123456789abcdef".toList := by decide

theorem hexEncode_lower (bytes : Bytes) : ∀ c ∈ hexEncode bytes, c ∈ "0123456789abcdef".toList := by
  induction bytes with
  | nil => simp [hexEncode]
  | cons byte rest ih =>
      have bound := byte.toNat_lt
      have high := digitChar_lower (byte.toNat / 16) (by omega)
      have low := digitChar_lower (byte.toNat % 16) (by omega)
      intro c inside
      rcases List.mem_cons.mp inside with rfl | inside
      · exact high
      · rcases List.mem_cons.mp inside with rfl | inside
        · exact low
        · exact ih c inside

/-! ## Numbers -/

/-- `{:x}`. -/
def hexText (n : Nat) : Text := Nat.toDigits 16 n

/-- The number some digits are read as. -/
def hexNumber (t : Text) : Nat := t.foldl (fun n c => 16 * n + (hexValue c).getD 0) 0

theorem hexNumber_snoc (t : Text) (c : Char) :
    hexNumber (t ++ [c]) = 16 * hexNumber t + (hexValue c).getD 0 := List.foldl_append

theorem hexNumber_hexText (n : Nat) : hexNumber (hexText n) = n := by
  induction n using Nat.strongRecOn with
  | ind n ih =>
      by_cases small : n < 16
      · rw [hexText, Nat.toDigits_of_lt_base small]
        simp [hexNumber, hexValue_digitChar n small]
      · have shorter := ih (n / 16) (by omega)
        have last := hexValue_digitChar (n % 16) (by omega)
        rw [hexText, Nat.toDigits_of_base_le (by decide) (by omega), hexNumber_snoc, last]
        rw [hexText] at shorter
        rw [shorter, Option.getD_some]
        omega

theorem hexText_lower (n : Nat) : ∀ c ∈ hexText n, c ∈ "0123456789abcdef".toList := by
  induction n using Nat.strongRecOn with
  | ind n ih =>
      intro c inside
      by_cases small : n < 16
      · rw [hexText, Nat.toDigits_of_lt_base small] at inside
        rw [List.mem_singleton.mp inside]
        exact digitChar_lower n small
      · rw [hexText, Nat.toDigits_of_base_le (by decide) (by omega), List.mem_append] at inside
        rcases inside with before | last
        · exact ih (n / 16) (by omega) c before
        · rw [List.mem_singleton.mp last]
          exact digitChar_lower (n % 16) (by omega)

/-- What stands before the first separator, and behind it. -/
theorem first_separator {separator : Char} {s s' t t' : Text} (free : separator ∉ s)
    (free' : separator ∉ s') (same : s ++ separator :: t = s' ++ separator :: t') :
    s = s' ∧ t = t' := by
  induction s generalizing s' with
  | nil =>
      cases s' with
      | nil => exact ⟨rfl, (List.cons.inj same).2⟩
      | cons c rest =>
          obtain ⟨rfl, -⟩ := List.cons.inj same
          exact absurd List.mem_cons_self free'
  | cons c rest ih =>
      cases s' with
      | nil =>
          obtain ⟨rfl, -⟩ := List.cons.inj same
          exact absurd List.mem_cons_self free
      | cons c' rest' =>
          obtain ⟨rfl, more⟩ := List.cons.inj same
          obtain ⟨rfl, behind⟩ := ih (fun inside => free (List.mem_cons_of_mem _ inside))
            (fun inside => free' (List.mem_cons_of_mem _ inside)) more
          exact ⟨rfl, behind⟩

/-- **A number and what follows it are read off the text**, whatever follows. -/
theorem hexText_field {separator : Char} (foreign : separator ∉ "0123456789abcdef".toList)
    {m n : Nat} {t t' : Text} (same : hexText m ++ separator :: t = hexText n ++ separator :: t') :
    m = n ∧ t = t' := by
  have free (k : Nat) : separator ∉ hexText k := fun inside => foreign (hexText_lower k _ inside)
  obtain ⟨digits, behind⟩ := first_separator (free m) (free n) same
  refine ⟨?_, behind⟩
  calc m = hexNumber (hexText m) := (hexNumber_hexText m).symm
    _ = hexNumber (hexText n) := by rw [digits]
    _ = n := hexNumber_hexText n

/-! ## Base64 -/

def base64Alphabet : Text :=
  "ABCDEFGHIJKLMNOPQRSTUVWXYZabcdefghijklmnopqrstuvwxyz0123456789-_".toList

/-- The character of a number below 64. -/
def base64Char (n : Nat) : Char := base64Alphabet[n]?.getD 'A'

def base64Value (c : Char) : Option Nat := base64Alphabet.idxOf? c

theorem base64Value_char : ∀ n, n < 64 → base64Value (base64Char n) = some n := by decide

theorem base64Char_mem (n : Nat) : base64Char n ∈ base64Alphabet := by
  rw [base64Char]
  cases at_n : base64Alphabet[n]? with
  | none => decide
  | some c => exact List.mem_of_getElem? at_n

def base64Encode : Bytes → Text
  | [] => []
  | [a] => [base64Char (a.toNat / 4), base64Char (a.toNat % 4 * 16)]
  | [a, b] =>
      [base64Char (a.toNat / 4), base64Char (a.toNat % 4 * 16 + b.toNat / 16),
        base64Char (b.toNat % 16 * 4)]
  | a :: b :: c :: rest =>
      base64Char (a.toNat / 4) :: base64Char (a.toNat % 4 * 16 + b.toNat / 16) ::
        base64Char (b.toNat % 16 * 4 + c.toNat / 64) :: base64Char (c.toNat % 64) ::
        base64Encode rest

/-- The unused low bits of a last character must be zero. -/
def base64Decode : Text → Option Bytes
  | [] => some []
  | [_] => none
  | [w, x] => do
      let w ← base64Value w
      let x ← base64Value x
      if x % 16 = 0 then some [UInt8.ofNat (w * 4 + x / 16)] else none
  | [w, x, y] => do
      let w ← base64Value w
      let x ← base64Value x
      let y ← base64Value y
      if y % 4 = 0 then some [UInt8.ofNat (w * 4 + x / 16), UInt8.ofNat (x % 16 * 16 + y / 4)]
      else none
  | w :: x :: y :: z :: rest => do
      let w ← base64Value w
      let x ← base64Value x
      let y ← base64Value y
      let z ← base64Value z
      let rest ← base64Decode rest
      return UInt8.ofNat (w * 4 + x / 16) :: UInt8.ofNat (x % 16 * 16 + y / 4) ::
        UInt8.ofNat (y % 4 * 64 + z) :: rest

theorem base64Decode_encode (bytes : Bytes) : base64Decode (base64Encode bytes) = some bytes := by
  fun_induction base64Encode bytes with
  | case1 => rfl
  | case2 a =>
      have boundA := a.toNat_lt
      have w := base64Value_char (a.toNat / 4) (by omega)
      have x := base64Value_char (a.toNat % 4 * 16) (by omega)
      have first : a.toNat / 4 * 4 + a.toNat % 4 * 16 / 16 = a.toNat := by omega
      have last : a.toNat % 4 * 16 % 16 = 0 := by omega
      simp only [base64Decode, w, x, Option.bind_eq_bind, Option.bind_some, first, last, if_true,
        UInt8.ofNat_toNat]
  | case3 a b =>
      have boundA := a.toNat_lt
      have boundB := b.toNat_lt
      have w := base64Value_char (a.toNat / 4) (by omega)
      have x := base64Value_char (a.toNat % 4 * 16 + b.toNat / 16) (by omega)
      have y := base64Value_char (b.toNat % 16 * 4) (by omega)
      have first : a.toNat / 4 * 4 + (a.toNat % 4 * 16 + b.toNat / 16) / 16 = a.toNat := by omega
      have second : (a.toNat % 4 * 16 + b.toNat / 16) % 16 * 16 + b.toNat % 16 * 4 / 4 =
          b.toNat := by omega
      have last : b.toNat % 16 * 4 % 4 = 0 := by omega
      simp only [base64Decode, w, x, y, Option.bind_eq_bind, Option.bind_some, first, second, last,
        if_true, UInt8.ofNat_toNat]
  | case4 a b c rest ih =>
      have boundA := a.toNat_lt
      have boundB := b.toNat_lt
      have boundC := c.toNat_lt
      have w := base64Value_char (a.toNat / 4) (by omega)
      have x := base64Value_char (a.toNat % 4 * 16 + b.toNat / 16) (by omega)
      have y := base64Value_char (b.toNat % 16 * 4 + c.toNat / 64) (by omega)
      have z := base64Value_char (c.toNat % 64) (by omega)
      have first : a.toNat / 4 * 4 + (a.toNat % 4 * 16 + b.toNat / 16) / 16 = a.toNat := by omega
      have second : (a.toNat % 4 * 16 + b.toNat / 16) % 16 * 16 +
          (b.toNat % 16 * 4 + c.toNat / 64) / 4 = b.toNat := by omega
      have third : (b.toNat % 16 * 4 + c.toNat / 64) % 4 * 64 + c.toNat % 64 = c.toNat := by omega
      simp only [base64Decode, w, x, y, z, ih, Option.bind_eq_bind, Option.bind_some, first, second,
        third, UInt8.ofNat_toNat]
      rfl

/-- Every character of an encoding is of the alphabet. -/
theorem base64Encode_alphabet (bytes : Bytes) : ∀ c ∈ base64Encode bytes, c ∈ base64Alphabet := by
  fun_induction base64Encode bytes with
  | case1 => simp
  | case2 a => simp [base64Char_mem]
  | case3 a b => simp [base64Char_mem]
  | case4 a b c rest ih => simpa [base64Char_mem] using ih

theorem base64Alphabet_urlSafe : ∀ c ∈ base64Alphabet, c.isAlphanum ∨ c = '-' ∨ c = '_' := by
  have all : base64Alphabet.all (fun c => c.isAlphanum || c == '-' || c == '_') = true := by decide
  intro c inside
  simpa [or_assoc] using List.all_eq_true.mp all c inside

end RustSsh.Theory
