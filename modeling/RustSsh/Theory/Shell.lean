/-
# Theory.Shell -- what becomes of a command line

Two readings of a text, one after the other: `percentExpand` substitutes tokens, as `ssh`
does before it hands a command to a shell, and `splitWords` is the word splitting of a POSIX
shell with its double quotes.  Where a shell would do more than split (operators, expansions,
globs), `splitWords` is `none`.

Text that was escaped for double quotes is one word again (`read_escaped`), whatever it is;
token substitution happens before, and passes escaped text through exactly if there is no
percent sign in it (`percentExpand_fixed`).
-/
import RustSsh.Theory.Text

namespace RustSsh.Theory.Shell

open RustSsh.Theory

set_option autoImplicit false

/-! ## Token substitution -/

/-- `%%` is a percent sign, `%` and a key is the key's value; an unknown key is an error. -/
def percentExpand (token : Char → Option Text) : Text → Option Text
  | [] => some []
  | ['%'] => none
  | '%' :: key :: rest =>
      if key = '%' then (percentExpand token rest).map fun t => '%' :: t
      else (token key).bind fun value => (percentExpand token rest).map fun t => value ++ t
  | c :: rest => (percentExpand token rest).map fun t => c :: t

/-! ## Word splitting -/

/-- The characters a backslash escapes between double quotes. -/
def special (c : Char) : Bool := c = '"' || c = '\\' || c = '$' || c = Char.ofNat 96

/-- The characters that separate words. -/
def isBlank (c : Char) : Bool := c = ' ' || c = '\t'

/-- Unquoted, these are not characters of a word but operators, expansions or patterns. -/
def isMeta (c : Char) : Bool := c ∈ "|&;<>()$\\\"'\n\r*?[]#~=%!\x7b\x7d".toList || c = Char.ofNat 96

/-- Where the shell is in the text. -/
inductive Place where
  | between
  | bare (word : Text)
  | quoted (word : Text)
  /-- behind a backslash between double quotes -/
  | escaped (word : Text)
  deriving DecidableEq, Repr

structure Reading where
  words : List Text
  place : Place
  deriving DecidableEq, Repr

def readChar (s : Reading) (c : Char) : Option Reading :=
  match s.place with
  | .between =>
      if isBlank c then some s
      else if c = '"' then some { s with place := .quoted [] }
      else if isMeta c then none
      else some { s with place := .bare [c] }
  | .bare word =>
      if isBlank c then some ⟨s.words ++ [word], .between⟩
      else if c = '"' then some { s with place := .quoted word }
      else if isMeta c then none
      else some { s with place := .bare (word ++ [c]) }
  | .quoted word =>
      if c = '"' then some { s with place := .bare word }
      else if c = '\\' then some { s with place := .escaped word }
      -- an expansion
      else if c = '$' || c = Char.ofNat 96 then none
      else some { s with place := .quoted (word ++ [c]) }
  | .escaped word =>
      if special c then some { s with place := .quoted (word ++ [c]) }
      -- a line that goes on
      else if c = '\n' then some { s with place := .quoted word }
      else some { s with place := .quoted (word ++ ['\\', c]) }

def Reading.finish (s : Reading) : Option (List Text) :=
  match s.place with
  | .between => some s.words
  | .bare word => some (s.words ++ [word])
  | .quoted _ | .escaped _ => none

def splitWords (t : Text) : Option (List Text) :=
  (t.foldlM readChar ⟨[], .between⟩).bind Reading.finish

/-- A character as it is written between double quotes. -/
def escapeChar (c : Char) : Text := if special c then ['\\', c] else [c]

def escape (t : Text) : Text := t.flatMap escapeChar

/-- Between double quotes, as one word or a part of one. -/
def doubleQuoted (t : Text) : Text := '"' :: (escape t ++ ['"'])

theorem mem_doubleQuoted {t : Text} {c : Char} (inside : c ∈ doubleQuoted t) :
    c ∈ t ∨ c = '\\' ∨ c = '"' := by
  rw [doubleQuoted, List.mem_cons, List.mem_append, List.mem_singleton] at inside
  rcases inside with quote | escaped | quote
  · exact .inr (.inr quote)
  · obtain ⟨d, own, written⟩ := List.mem_flatMap.mp escaped
    unfold escapeChar at written
    split at written
    · rcases List.mem_cons.mp written with backslash | same
      · exact .inr (.inl backslash)
      · rw [List.mem_singleton.mp same]
        exact .inl own
    · rw [List.mem_singleton.mp written]
      exact .inl own
  · exact .inr (.inr quote)

theorem not_mem_doubleQuoted {t : Text} {c : Char} (free : c ∉ t) (backslash : c ≠ '\\')
    (quote : c ≠ '"') : c ∉ doubleQuoted t := by
  intro inside
  rcases mem_doubleQuoted inside with own | other | other
  · exact free own
  · exact backslash other
  · exact quote other

theorem getLast?_doubleQuoted (s t : Text) : (s ++ doubleQuoted t).getLast? = some '"' := by
  rw [doubleQuoted, ← List.cons_append, ← List.append_assoc, List.getLast?_concat]

example : splitWords "a \"b c\"d \"\\$\"".toList = some ["a".toList, "b cd".toList, "$".toList] := by
  decide

/-! ## Reading what was quoted -/

theorem read_escapeChar (words : List Text) (word : Text) (c : Char) :
    (escapeChar c).foldlM readChar ⟨words, .quoted word⟩ = some ⟨words, .quoted (word ++ [c])⟩ := by
  unfold escapeChar
  by_cases escaped : special c = true
  · simp [escaped, readChar]
  · have plain := escaped
    simp only [special, Bool.or_eq_true, decide_eq_true_eq, not_or] at plain
    simp [escaped, readChar, plain]

/-- Escaped text adds itself to the word. -/
theorem read_escaped (words : List Text) (word t : Text) :
    (escape t).foldlM readChar ⟨words, .quoted word⟩ = some ⟨words, .quoted (word ++ t)⟩ := by
  induction t generalizing word with
  | nil => simp [escape]
  | cons c rest ih =>
      rw [escape, List.flatMap_cons, List.foldlM_append, read_escapeChar]
      have later := ih (word ++ [c])
      rw [List.append_assoc] at later
      exact later

theorem read_doubleQuoted (words : List Text) (t : Text) :
    (doubleQuoted t).foldlM readChar ⟨words, .between⟩ = some ⟨words, .bare t⟩ := by
  have opened : readChar ⟨words, .between⟩ '"' = some ⟨words, .quoted []⟩ := rfl
  have closed : readChar ⟨words, .quoted t⟩ '"' = some ⟨words, .bare t⟩ := rfl
  rw [doubleQuoted, List.foldlM_cons, opened]
  simp only [Option.bind_eq_bind, Option.bind_some]
  rw [List.foldlM_append, read_escaped]
  simp [closed]

/-- Text that means nothing to a shell. -/
theorem read_bare (words : List Text) (word t : Text)
    (plain : ∀ c ∈ t, isBlank c = false ∧ isMeta c = false) :
    t.foldlM readChar ⟨words, .bare word⟩ = some ⟨words, .bare (word ++ t)⟩ := by
  induction t generalizing word with
  | nil => simp
  | cons c rest ih =>
      obtain ⟨solid, literal⟩ := plain c List.mem_cons_self
      have unquoted : c ≠ '"' := by
        rintro rfl
        exact absurd literal (by decide)
      have here : readChar ⟨words, .bare word⟩ c = some ⟨words, .bare (word ++ [c])⟩ := by
        simp [readChar, solid, literal, unquoted]
      rw [List.foldlM_cons, here]
      have later := ih (word ++ [c]) fun d inside => plain d (List.mem_cons_of_mem _ inside)
      rw [List.append_assoc] at later
      exact later

/-- The text is read as one word. -/
def Reads (t word : Text) : Prop :=
  ∀ words, t.foldlM readChar ⟨words, .between⟩ = some ⟨words, .bare word⟩

theorem reads_doubleQuoted (t : Text) : Reads (doubleQuoted t) t := fun words =>
  read_doubleQuoted words t

theorem reads_bare {t : Text} (nonempty : t ≠ [])
    (plain : ∀ c ∈ t, isBlank c = false ∧ isMeta c = false) : Reads t t := by
  intro words
  cases t with
  | nil => exact absurd rfl nonempty
  | cons c rest =>
      obtain ⟨solid, literal⟩ := plain c List.mem_cons_self
      have unquoted : c ≠ '"' := by
        rintro rfl
        exact absurd literal (by decide)
      have here : readChar ⟨words, .between⟩ c = some ⟨words, .bare [c]⟩ := by
        simp [readChar, solid, literal, unquoted]
      rw [List.foldlM_cons, here]
      exact read_bare words [c] rest fun d inside => plain d (List.mem_cons_of_mem _ inside)

/-- **Words with a blank between each two are these words again.** -/
theorem splitWords_intercalate {ts words : List Text} (reads : List.Forall₂ Reads ts words) :
    splitWords ([' '].intercalate ts) = some words := by
  suffices behind : ∀ before : List Text,
      (([' '].intercalate ts).foldlM readChar ⟨before, .between⟩).bind Reading.finish =
        some (before ++ words) from behind []
  induction reads with
  | nil =>
      intro before
      simp [Reading.finish]
  | @cons t word ts words first later ih =>
      intro before
      by_cases last : ts = []
      · subst last
        cases later
        simp [first before, Reading.finish]
      · have blank : readChar ⟨before, .bare word⟩ ' ' = some ⟨before ++ [word], .between⟩ := rfl
        have rest := ih (before ++ [word])
        rw [List.append_assoc] at rest
        rw [List.intercalate_cons_of_ne_nil last, List.append_assoc, List.foldlM_append, first before]
        simp only [Option.bind_eq_bind, Option.bind_some, List.singleton_append, List.foldlM_cons,
          blank]
        exact rest

/-! ## Substitution in quoted text -/

section Tokens

variable {token : Char → Option Text}

theorem percentExpand_cons {c : Char} (plain : c ≠ '%') (t : Text) :
    percentExpand token (c :: t) = (percentExpand token t).map fun t => c :: t := by
  cases t with
  | nil => simp [percentExpand, plain]
  | cons d rest => simp [percentExpand, plain]

/-- What a percent sign and a key stand for. -/
def tokenText (token : Char → Option Text) (key : Char) : Option Text :=
  if key = '%' then some ['%'] else token key

theorem percentExpand_keyed (key : Char) (t : Text) :
    percentExpand token ('%' :: key :: t) =
      (tokenText token key).bind fun value => (percentExpand token t).map fun t => value ++ t := by
  by_cases percent : key = '%'
  · simp [percentExpand, tokenText, percent]
  · simp [percentExpand, tokenText, percent]

theorem percentExpand_append {s : Text} (plain : '%' ∉ s) (t : Text) :
    percentExpand token (s ++ t) = (percentExpand token t).map fun t => s ++ t := by
  induction s with
  | nil => cases h : percentExpand token t <;> simp [h]
  | cons c rest ih =>
      rw [List.mem_cons, not_or] at plain
      rw [List.cons_append, percentExpand_cons (Ne.symm plain.1), ih plain.2, Option.map_map]
      rfl

/-- Without a percent sign nothing is substituted. -/
theorem percentExpand_plain {t : Text} (plain : '%' ∉ t) : percentExpand token t = some t := by
  have whole := @percentExpand_append token _ plain []
  simpa [percentExpand] using whole

/-- A text is read token by token, or character by character where there is none. -/
theorem token_induction {motive : Text → Prop} (nil : motive []) (open_ : motive ['%'])
    (keyed : ∀ key rest, motive rest → motive ('%' :: key :: rest))
    (plain : ∀ c rest, c ≠ '%' → motive rest → motive (c :: rest)) (t : Text) : motive t := by
  induction t using percentExpand.induct with
  | case1 => exact nil
  | case2 => exact open_
  | case3 rest ih => exact keyed _ rest ih
  | case4 key rest other ih => exact keyed key rest ih
  | case5 c rest single pair ih =>
      have ordinary : c ≠ '%' := by
        rintro rfl
        cases rest with
        | nil => exact single rfl rfl
        | cons key rest => exact pair key rest rfl rfl
      exact plain c rest ordinary ih

/-- Keys and values mean nothing between double quotes. -/
structure PlainTokens (token : Char → Option Text) : Prop where
  key : ∀ key value, token key = some value → special key = false
  value : ∀ key value, token key = some value → ∀ c ∈ value, special c = false

theorem escape_plain {t : Text} (plain : ∀ c ∈ t, special c = false) : escape t = t := by
  induction t with
  | nil => rfl
  | cons c rest ih =>
      have first : escapeChar c = [c] := by simp [escapeChar, plain c List.mem_cons_self]
      rw [escape, List.flatMap_cons, first]
      exact congrArg (c :: ·) (ih fun d inside => plain d (List.mem_cons_of_mem _ inside))

theorem escape_append (s t : Text) : escape (s ++ t) = escape s ++ escape t := List.flatMap_append

theorem escape_cons (c : Char) (t : Text) : escape (c :: t) = escapeChar c ++ escape t := rfl

/-- No special character is a key. -/
theorem PlainTokens.not_key (plain : PlainTokens token) {c : Char} (is : special c = true) :
    token c = none := by
  cases found : token c with
  | none => rfl
  | some value =>
      rw [plain.key c value found] at is
      cases is

theorem PlainTokens.tokenText (plain : PlainTokens token) {key : Char} {value : Text}
    (found : Shell.tokenText token key = some value) : ∀ c ∈ value, special c = false := by
  by_cases percent : key = '%'
  · have own : value = ['%'] := by simpa [Shell.tokenText, percent] using found.symm
    intro c inside
    rw [own] at inside
    rw [List.mem_singleton.mp inside]
    decide
  · exact plain.value key value (by simpa [Shell.tokenText, percent] using found)

/-- Substitution in escaped text is substitution in the text. -/
theorem percentExpand_escape (plain : PlainTokens token) (t rest : Text) :
    percentExpand token (escape t ++ '"' :: rest) =
      (percentExpand token t).bind fun u =>
        (percentExpand token rest).map fun v => escape u ++ '"' :: v := by
  induction t using token_induction with
  | nil =>
      rw [percentExpand, escape, List.flatMap_nil, List.nil_append, percentExpand_cons (by decide)]
      rfl
  | open_ =>
      have quote := plain.not_key (c := '"') (by decide)
      have same : escape ['%'] = ['%'] := by decide
      rw [same]
      simp [percentExpand, quote]
  | keyed key t ih =>
      have percent : escapeChar '%' = ['%'] := by decide
      by_cases is : special key = true
      · -- the escape stands where the key was, and neither is one
        have other : key ≠ '%' := by
          rintro rfl
          cases is
        have backslash := plain.not_key (c := '\\') (by decide)
        have keyed : escapeChar key = ['\\', key] := if_pos is
        have same : escape ('%' :: key :: t) = '%' :: '\\' :: key :: escape t := by
          rw [escape_cons, escape_cons, percent, keyed]
          rfl
        simp [same, percentExpand, other, backslash, plain.not_key is]
      · have keyed : escapeChar key = [key] := if_neg is
        have same : escape ('%' :: key :: t) = '%' :: key :: escape t := by
          rw [escape_cons, escape_cons, percent, keyed]
          rfl
        rw [same, List.cons_append, List.cons_append, percentExpand_keyed, percentExpand_keyed, ih]
        cases found : tokenText token key with
        | none => rfl
        | some value =>
            have literal : ∀ u, escape (value ++ u) = value ++ escape u := fun u => by
              rw [escape_append, escape_plain (plain.tokenText found)]
            cases percentExpand token t <;> cases percentExpand token rest <;> simp [literal]
  | plain c t ordinary ih =>
      have here : percentExpand token (escape (c :: t) ++ '"' :: rest) =
          (percentExpand token (escape t ++ '"' :: rest)).map fun u => escapeChar c ++ u := by
        rw [escape_cons, List.append_assoc]
        apply percentExpand_append
        unfold escapeChar
        split
        · simp [Ne.symm ordinary]
        · simp [Ne.symm ordinary]
      rw [here, percentExpand_cons ordinary, ih]
      cases percentExpand token t <;> cases percentExpand token rest <;> simp [escape_cons]

/-- Where no value has a percent sign, each substitution takes one away. -/
theorem percentExpand_count (free : ∀ key value, token key = some value → '%' ∉ value) {t u : Text}
    (expanded : percentExpand token t = some u) :
    u.count '%' ≤ t.count '%' ∧ ('%' ∈ t → u.count '%' < t.count '%') := by
  induction t using token_induction generalizing u with
  | nil =>
      cases expanded
      simp
  | open_ => cases expanded
  | keyed key t ih =>
      rw [percentExpand_keyed] at expanded
      obtain ⟨value, found, expanded⟩ := Option.bind_eq_some_iff.mp expanded
      obtain ⟨v, later, rfl⟩ := Option.map_eq_some_iff.mp expanded
      have less := (ih later).1
      by_cases percent : key = '%'
      · have own : value = ['%'] := by simpa [tokenText, percent] using found.symm
        simp only [own, percent, List.count_append, List.count_cons_self, List.count_nil]
        omega
      · have none := List.count_eq_zero.mpr (free key value (by simpa [tokenText, percent] using found))
        simp only [List.count_append, List.count_cons_self, List.count_cons_of_ne percent, none]
        omega
  | plain c t ordinary ih =>
      rw [percentExpand_cons ordinary] at expanded
      obtain ⟨v, later, rfl⟩ := Option.map_eq_some_iff.mp expanded
      have less := ih later
      rw [List.count_cons_of_ne ordinary, List.count_cons_of_ne ordinary, List.mem_cons]
      exact ⟨less.1, fun inside => less.2 (inside.resolve_left (Ne.symm ordinary))⟩

/-- **Substitution leaves a text alone exactly if there is no percent sign in it.** -/
theorem percentExpand_fixed (free : ∀ key value, token key = some value → '%' ∉ value) {t : Text} :
    percentExpand token t = some t ↔ '%' ∉ t := by
  refine ⟨fun expanded inside => ?_, percentExpand_plain⟩
  exact absurd ((percentExpand_count free expanded).2 inside) (Nat.lt_irrefl _)

end Tokens

end RustSsh.Theory.Shell
