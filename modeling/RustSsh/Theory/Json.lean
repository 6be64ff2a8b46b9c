/-
# Theory.Json -- compact JSON

JSON values with natural numbers, the text without white space (`render`), and a reader of
that text (`parse`).  Reading gives back what was rendered (`parse_render`).
-/
import RustSsh.Theory.Encoding

namespace RustSsh.Theory

set_option autoImplicit false

inductive Json where
  | null
  | bool (b : Bool)
  | number (n : Nat)
  | string (t : Text)
  | array (items : List Json)
  | object (fields : List (Text × Json))

namespace Json

/-! ## Writing -/

/-- A character inside quotes. -/
def escape (c : Char) : Text :=
  if c = '"' then ['\\', '"']
  else if c = '\\' then ['\\', '\\']
  else if c = '\x08' then ['\\', 'b']
  else if c = '\t' then ['\\', 't']
  else if c = '\n' then ['\\', 'n']
  else if c = '\x0c' then ['\\', 'f']
  else if c = '\r' then ['\\', 'r']
  else if c.toNat < 32 then
    ['\\', 'u', '0', '0', (c.toNat / 16).digitChar, (c.toNat % 16).digitChar]
  else [c]

def renderString (t : Text) : Text := '"' :: (t.flatMap escape ++ ['"'])

mutual

def render : Json → Text
  | .null => ['n', 'u', 'l', 'l']
  | .bool true => ['t', 'r', 'u', 'e']
  | .bool false => ['f', 'a', 'l', 's', 'e']
  | .number n => Nat.toDigits 10 n
  | .string t => renderString t
  | .array [] => ['[', ']']
  | .array (item :: items) => '[' :: (render item ++ renderItems items)
  | .object [] => ['\x7b', '\x7d']
  | .object ((key, value) :: fields) =>
      '\x7b' :: (renderString key ++ ':' :: (render value ++ renderFields fields))

/-- The items behind the first one, and the bracket. -/
def renderItems : List Json → Text
  | [] => [']']
  | item :: items => ',' :: (render item ++ renderItems items)

def renderFields : List (Text × Json) → Text
  | [] => ['\x7d']
  | (key, value) :: fields =>
      ',' :: (renderString key ++ ':' :: (render value ++ renderFields fields))

end

/-! ## Reading -/

/-- What a letter behind a backslash stands for. -/
def unescape : Char → Option Char
  | '"' => some '"'
  | '\\' => some '\\'
  | '/' => some '/'
  | 'b' => some '\x08'
  | 'f' => some '\x0c'
  | 'n' => some '\n'
  | 'r' => some '\r'
  | 't' => some '\t'
  | _ => none

/-- The character of four hexadecimal digits. -/
def codeUnit (a b c d : Char) : Option Char := do
  let a ← hexValue a
  let b ← hexValue b
  let c ← hexValue c
  let d ← hexValue d
  let code := ((a * 16 + b) * 16 + c) * 16 + d
  if code.isValidChar then some (Char.ofNat code) else none

/-- The text up to the closing quote, and what follows it. -/
def parseString : Text → Option (Text × Text)
  | [] => none
  | '"' :: rest => some ([], rest)
  | '\\' :: 'u' :: a :: b :: c :: d :: rest => do
      let code ← codeUnit a b c d
      let (t, rest) ← parseString rest
      return (code :: t, rest)
  | '\\' :: c :: rest => do
      let c ← unescape c
      let (t, rest) ← parseString rest
      return (c :: t, rest)
  | c :: rest =>
      if c.toNat < 32 then none
      else do
        let (t, rest) ← parseString rest
        return (c :: t, rest)

mutual

/-- A value at the front of the text, and what follows it. -/
def parseValue : Nat → Text → Option (Json × Text)
  | 0, _ => none
  | fuel + 1, text =>
      match text with
      | 'n' :: 'u' :: 'l' :: 'l' :: rest => some (.null, rest)
      | 't' :: 'r' :: 'u' :: 'e' :: rest => some (.bool true, rest)
      | 'f' :: 'a' :: 'l' :: 's' :: 'e' :: rest => some (.bool false, rest)
      | '"' :: rest => do
          let (t, rest) ← parseString rest
          return (.string t, rest)
      | '[' :: ']' :: rest => some (.array [], rest)
      | '[' :: rest => do
          let (item, rest) ← parseValue fuel rest
          let (items, rest) ← parseItems fuel rest
          return (.array (item :: items), rest)
      | '\x7b' :: '\x7d' :: rest => some (.object [], rest)
      | '\x7b' :: rest => do
          let (field, rest) ← parseField fuel rest
          let (fields, rest) ← parseFields fuel rest
          return (.object (field :: fields), rest)
      | c :: rest =>
          if c.isDigit then
            some (.number (Nat.ofDigitChars 10 ((c :: rest).takeWhile Char.isDigit) 0),
              (c :: rest).dropWhile Char.isDigit)
          else none
      | [] => none

def parseItems : Nat → Text → Option (List Json × Text)
  | 0, _ => none
  | fuel + 1, text =>
      match text with
      | ']' :: rest => some ([], rest)
      | ',' :: rest => do
          let (item, rest) ← parseValue fuel rest
          let (items, rest) ← parseItems fuel rest
          return (item :: items, rest)
      | _ => none

def parseField : Nat → Text → Option ((Text × Json) × Text)
  | 0, _ => none
  | fuel + 1, text =>
      match text with
      | '"' :: rest => do
          let (key, rest) ← parseString rest
          match rest with
          | ':' :: rest => do
              let (value, rest) ← parseValue fuel rest
              return ((key, value), rest)
          | _ => none
      | _ => none

def parseFields : Nat → Text → Option (List (Text × Json) × Text)
  | 0, _ => none
  | fuel + 1, text =>
      match text with
      | '\x7d' :: rest => some ([], rest)
      | ',' :: rest => do
          let (field, rest) ← parseField fuel rest
          let (fields, rest) ← parseFields fuel rest
          return (field :: fields, rest)
      | _ => none

end

/-- The value of a whole text. -/
def parse (text : Text) : Option Json :=
  match parseValue text.length text with
  | some (value, []) => some value
  | _ => none

/-! ## Strings -/

/-- A letter behind a backslash. -/
theorem parseString_letter {letter c : Char} (known : unescape letter = some c) (rest : Text) :
    parseString ('\\' :: letter :: rest) =
      (parseString rest).map fun read => (c :: read.1, read.2) := by
  have other : letter ≠ 'u' := by
    rintro rfl
    cases known
  rw [parseString, known]
  · cases parseString rest <;> rfl
  · intro a b c d more same
    exact absurd same other

theorem parseString_escape (c : Char) (rest : Text) :
    parseString (escape c ++ rest) = (parseString rest).map fun read => (c :: read.1, read.2) := by
  unfold escape
  split
  · subst c
    exact parseString_letter rfl rest
  split
  · subst c
    exact parseString_letter rfl rest
  split
  · subst c
    exact parseString_letter rfl rest
  split
  · subst c
    exact parseString_letter rfl rest
  split
  · subst c
    exact parseString_letter rfl rest
  split
  · subst c
    exact parseString_letter rfl rest
  split
  · subst c
    exact parseString_letter rfl rest
  split
  · rename_i control
    have high := hexValue_digitChar (c.toNat / 16) (by omega)
    have low := hexValue_digitChar (c.toNat % 16) (by omega)
    have zero : hexValue '0' = some 0 := by decide
    have whole : c.toNat / 16 * 16 + c.toNat % 16 = c.toNat := by omega
    have valid : c.toNat.isValidChar := c.valid
    have code : codeUnit '0' '0' (c.toNat / 16).digitChar (c.toNat % 16).digitChar = some c := by
      simp [codeUnit, high, low, zero, whole, valid]
    cases parsed : parseString rest <;> simp [parseString, code, parsed]
  · rename_i quote backslash _ _ _ _ _ plain
    have step : parseString (c :: rest) =
        if c.toNat < 32 then none
        else do
          let (t, rest) ← parseString rest
          return (c :: t, rest) := by
      rw [parseString.eq_def]
      split <;> simp_all
    rw [List.singleton_append, step, if_neg plain]
    cases parseString rest <;> rfl

/-- A quoted text is read up to its closing quote. -/
theorem parseString_render (t rest : Text) :
    parseString (t.flatMap escape ++ '"' :: rest) = some (t, rest) := by
  induction t with
  | nil => simp [parseString]
  | cons c t ih =>
      rw [List.flatMap_cons, List.append_assoc, parseString_escape, ih]
      rfl

/-! ## Values -/

/-- What follows a value does not continue a number. -/
def Apart (rest : Text) : Prop := ∀ c more, rest = c :: more → c.isDigit = false

theorem Apart.nil : Apart [] := by
  intro c more cut
  cases cut

theorem Apart.items (items : List Json) (rest : Text) : Apart (renderItems items ++ rest) := by
  intro c more cut
  cases items with
  | nil =>
      cases cut
      rfl
  | cons item items =>
      cases cut
      rfl

theorem Apart.fields (fields : List (Text × Json)) (rest : Text) :
    Apart (renderFields fields ++ rest) := by
  intro c more cut
  cases fields with
  | nil =>
      cases cut
      rfl
  | cons field fields =>
      cases cut
      rfl

theorem parseValue_digit (fuel : Nat) {c : Char} (digit : c.isDigit = true) (rest : Text) :
    parseValue (fuel + 1) (c :: rest) =
      some (.number (Nat.ofDigitChars 10 ((c :: rest).takeWhile Char.isDigit) 0),
        (c :: rest).dropWhile Char.isDigit) := by
  rw [parseValue.eq_def]
  simp only
  split <;> simp_all

theorem parseValue_number (fuel n : Nat) {rest : Text} (apart : Apart rest) :
    parseValue (fuel + 1) (Nat.toDigits 10 n ++ rest) = some (.number n, rest) := by
  have digits : ∀ c ∈ Nat.toDigits 10 n, c.isDigit = true :=
    fun c inside => Nat.isDigit_of_mem_toDigits (by omega) (by omega) inside
  have taken : (Nat.toDigits 10 n ++ rest).takeWhile Char.isDigit = Nat.toDigits 10 n := by
    rw [List.takeWhile_append_of_pos digits]
    cases rest with
    | nil => simp
    | cons c more => simp [apart c more rfl]
  have left : (Nat.toDigits 10 n ++ rest).dropWhile Char.isDigit = rest := by
    rw [List.dropWhile_append_of_pos digits]
    cases rest with
    | nil => rfl
    | cons c more => simp [apart c more rfl]
  have read := Nat.ofDigitChars_ten_toDigits (n := n)
  cases shape : Nat.toDigits 10 n with
  | nil => exact absurd shape Nat.toDigits_ne_nil
  | cons c more =>
      have digit := digits c (by simp [shape])
      rw [shape] at taken left read
      rw [List.cons_append] at taken left ⊢
      rw [parseValue_digit fuel digit, taken, left, read]

/-- A value does not start with a closing bracket. -/
theorem render_head (j : Json) : ∃ c t, render j = c :: t ∧ c ≠ ']' := by
  cases j with
  | null => exact ⟨_, _, by rw [render], by decide⟩
  | bool b =>
      cases b with
      | true => exact ⟨_, _, by rw [render], by decide⟩
      | false => exact ⟨_, _, by rw [render], by decide⟩
  | number n =>
      cases shape : Nat.toDigits 10 n with
      | nil => exact absurd shape Nat.toDigits_ne_nil
      | cons c more =>
          refine ⟨c, more, by rw [render, shape], ?_⟩
          rintro rfl
          have digit := Nat.isDigit_of_mem_toDigits (b := 10) (c := ']') (n := n) (by omega)
            (by omega) (by simp [shape])
          exact absurd digit (by decide)
  | string t => exact ⟨_, _, by rw [render, renderString], by decide⟩
  | array items =>
      cases items with
      | nil => exact ⟨_, _, by rw [render], by decide⟩
      | cons item items => exact ⟨_, _, by rw [render], by decide⟩
  | object fields =>
      cases fields with
      | nil => exact ⟨_, _, by rw [render], by decide⟩
      | cons field fields => exact ⟨_, _, by rw [render], by decide⟩

/-! ## The round trip -/

theorem parseValue_open (fuel : Nat) {text : Text} (inside : ∃ c t, text = c :: t ∧ c ≠ ']') :
    parseValue (fuel + 1) ('[' :: text) = (do
      let (item, rest) ← parseValue fuel text
      let (items, rest) ← parseItems fuel rest
      return (.array (item :: items), rest)) := by
  obtain ⟨c, t, rfl, other⟩ := inside
  rw [parseValue]
  intro more
  simp [other]

theorem parseValue_brace (fuel : Nat) (key rest : Text) :
    parseValue (fuel + 1) ('\x7b' :: (renderString key ++ rest)) = (do
      let (field, rest) ← parseField fuel (renderString key ++ rest)
      let (fields, rest) ← parseFields fuel rest
      return (.object (field :: fields), rest)) := by
  rw [renderString, List.cons_append, parseValue]
  simp

mutual

/-- The fuel of a value is the length of its text. -/
theorem parseValue_render : ∀ (j : Json) (fuel : Nat) (rest : Text),
    (render j).length ≤ fuel → Apart rest → parseValue fuel (render j ++ rest) = some (j, rest)
  | j, 0, rest, long, apart => by
      obtain ⟨c, t, shape, -⟩ := render_head j
      rw [shape] at long
      cases long
  | .null, fuel + 1, rest, long, apart => by simp [render, parseValue]
  | .bool true, fuel + 1, rest, long, apart => by simp [render, parseValue]
  | .bool false, fuel + 1, rest, long, apart => by simp [render, parseValue]
  | .number n, fuel + 1, rest, long, apart => by
      rw [render]
      exact parseValue_number fuel n apart
  | .string t, fuel + 1, rest, long, apart => by
      simp [render, renderString, parseValue, parseString_render]
  | .array [], fuel + 1, rest, long, apart => by simp [render, parseValue]
  | .array (item :: items), fuel + 1, rest, long, apart => by
      simp only [render, List.length_cons, List.length_append] at long
      have first := parseValue_render item fuel (renderItems items ++ rest) (by omega)
        (Apart.items items rest)
      have more := parseItems_render items fuel rest (by omega)
      obtain ⟨c, t, shape, other⟩ := render_head item
      rw [render, List.cons_append, List.append_assoc, parseValue_open, first]
      · simp [more]
      · exact ⟨c, t ++ (renderItems items ++ rest), by rw [shape]; rfl, other⟩
  | .object [], fuel + 1, rest, long, apart => by simp [render, parseValue]
  | .object ((key, value) :: fields), fuel + 1, rest, long, apart => by
      simp only [render, List.length_cons, List.length_append] at long
      have first := parseField_render key value fuel (renderFields fields ++ rest)
        (by simp only [List.length_cons, List.length_append]; omega) (Apart.fields fields rest)
      have more := parseFields_render fields fuel rest (by omega)
      rw [render, List.cons_append, List.append_assoc, List.cons_append, List.append_assoc,
        parseValue_brace, first]
      simp [more]

theorem parseItems_render : ∀ (items : List Json) (fuel : Nat) (rest : Text),
    (renderItems items).length ≤ fuel →
      parseItems fuel (renderItems items ++ rest) = some (items, rest)
  | items, 0, rest, long => by cases items <;> simp [renderItems] at long
  | [], fuel + 1, rest, long => by simp [renderItems, parseItems]
  | item :: items, fuel + 1, rest, long => by
      simp only [renderItems, List.length_cons, List.length_append] at long
      have first := parseValue_render item fuel (renderItems items ++ rest) (by omega)
        (Apart.items items rest)
      have more := parseItems_render items fuel rest (by omega)
      simp [renderItems, parseItems, first, more]

theorem parseField_render : ∀ (key : Text) (value : Json) (fuel : Nat) (rest : Text),
    (renderString key ++ ':' :: render value).length ≤ fuel → Apart rest →
      parseField fuel (renderString key ++ ':' :: (render value ++ rest)) =
        some ((key, value), rest)
  | key, value, 0, rest, long, apart => by simp [renderString] at long
  | key, value, fuel + 1, rest, long, apart => by
      simp only [renderString, List.length_cons, List.length_append] at long
      have read := parseValue_render value fuel rest (by omega) apart
      simp [renderString, parseField, parseString_render, read]

theorem parseFields_render : ∀ (fields : List (Text × Json)) (fuel : Nat) (rest : Text),
    (renderFields fields).length ≤ fuel →
      parseFields fuel (renderFields fields ++ rest) = some (fields, rest)
  | fields, 0, rest, long => by
      cases fields <;> simp [renderFields] at long
  | [], fuel + 1, rest, long => by simp [renderFields, parseFields]
  | (key, value) :: fields, fuel + 1, rest, long => by
      simp only [renderFields, List.length_cons, List.length_append] at long
      have first := parseField_render key value fuel (renderFields fields ++ rest)
        (by simp only [List.length_cons, List.length_append]; omega) (Apart.fields fields rest)
      have more := parseFields_render fields fuel rest (by omega)
      simp [renderFields, parseFields, first, more]

end

/-- **Reading gives back what was rendered.** -/
theorem parse_render (j : Json) : parse (render j) = some j := by
  have whole := parseValue_render j (render j).length [] (by omega) Apart.nil
  rw [List.append_nil] at whole
  rw [parse, whole]

/-! ## Objects -/

/-- The value of a key, which may be missing; a key that comes twice is an error. -/
def field (fields : List (Text × Json)) (key : String) : Option (Option Json) :=
  match fields.filter fun entry => entry.1 == key.toList with
  | [] => some none
  | [entry] => some (some entry.2)
  | _ => none

def asString : Json → Option String
  | .string t => some (String.ofList t)
  | _ => none

/-- A list of values of one kind. -/
def asList {A : Type} (item : Json → Option A) : Json → Option (List A)
  | .array items => items.mapM item
  | _ => none

def stringField (fields : List (Text × Json)) (key : String) : Option String :=
  (field fields key).join.bind asString

/-- A string that may be missing or null. -/
def optionField (fields : List (Text × Json)) (key : String) : Option (Option String) :=
  match field fields key with
  | some none | some (some .null) => some none
  | some (some value) => (asString value).map some
  | none => none

theorem stringField_of {fields : List (Text × Json)} {key s : String}
    (found : field fields key = some (some (.string s.toList))) :
    stringField fields key = some s := by
  simp [stringField, found, asString]

theorem optionField_of {fields : List (Text × Json)} {key s : String}
    (found : field fields key = some (some (.string s.toList))) :
    optionField fields key = some (some s) := by
  simp [optionField, found, asString]

theorem asList_map {A : Type} {item : Json → Option A} {write : A → Json}
    (inverse : ∀ a, item (write a) = some a) (values : List A) :
    asList item (.array (values.map write)) = some values := by
  rw [asList]
  induction values with
  | nil => rfl
  | cons a rest ih => simp [inverse, ih]

/-! ## Sizes -/

/-- The bytes a text takes between its quotes. -/
def size (t : Text) : Nat := (Text.encode (t.flatMap escape)).length

@[simp] theorem size_nil : size [] = 0 := rfl

@[simp] theorem size_append (s t : Text) : size (s ++ t) = size s + size t := by
  rw [size, List.flatMap_append, Text.encode_append, List.length_append]
  rfl

theorem size_replicate {c : Char} (plain : escape c = [c]) (n : Nat) :
    size (List.replicate n c) = n * (String.utf8EncodeChar c).length := by
  induction n with
  | zero => simp
  | succ n ih =>
      have one : size [c] = (String.utf8EncodeChar c).length := by
        simp [size, plain, Text.encode]
      rw [List.replicate_succ', size_append, ih, one, Nat.succ_mul]

end Json

end RustSsh.Theory
